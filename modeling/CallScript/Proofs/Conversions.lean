import CallScript.Bundle
import CallScript.Proofs.Definitions
import CallScript.Proofs.Faults
import CallScript.Proofs.Magnitudes

/-! What `sdiv` and `sprintf` do with arguments that they cannot convert. Arguments of wrong types and texts that are no
numbers are reported. What is too large is not: an integer beyond the largest number, a character beyond the last one,
a width beyond all bounds. -/
namespace CallScript

def Value.Oversized (v : Value) : Prop :=
  ∃ n : Int, v = .int n ∧ 2 ^ 1024 ≤ n.natAbs + 2 ^ 970

theorem readFloatFails {s : String} {f : Fault} (fails : Number.readFloat s = .error f) : f = .floatText s := by
  unfold Number.readFloat at fails
  dsimp only at fails
  split at fails
  · cases fails
    rfl
  · split at fails
    · cases fails
    · split at fails
      · cases fails
      · split at fails
        · cases fails
        · cases fails
          rfl

theorem oversizedFails {v : Value} (large : v.Oversized) : v.toFloat = .error .integerTooLarge := by
  obtain ⟨n, rfl, size⟩ := large
  show floatOfInt n = _
  rw [floatOfInt, (Number.tooLarge n).mpr size]

theorem toFloatFails {v : Value} {f : Fault} (fails : v.toFloat = .error f) :
    f.kind = .typeMismatch ∨ f.kind = .badValue ∨ f = .integerTooLarge ∧ v.Oversized := by
  cases v with
  | text s =>
    cases readFloatFails fails
    exact .inr (.inl rfl)
  | float x => cases fails
  | int n =>
    change floatOfInt n = _ at fails
    unfold floatOfInt at fails
    split at fails
    · cases fails
    · cases fails
      exact .inr (.inr ⟨rfl, n, rfl, (Number.tooLarge n).mp (by assumption)⟩)
  | bool b => cases b <;> cases fails
  | _ =>
    cases fails
    exact .inl rfl

theorem toFloatFormats (v : Value) : Formats v.toFloat := by
  intro f fails
  unfold Fault.isFormatting
  rcases toFloatFails fails with kind | kind | ⟨rfl, -⟩
  · rw [kind]
  · rw [kind]
  · rfl

theorem excessOversized {v : Value} {f : Fault} (fails : v.toFloat = .error f)
    (excess : f.kind = .overflow ∨ f = .outOfMemory) : f = .integerTooLarge ∧ v.Oversized := by
  rcases toFloatFails fails with kind | kind | large
  · rcases excess with excess | rfl
    · cases kind.symm.trans excess
    · cases kind
  · rcases excess with excess | rfl
    · cases kind.symm.trans excess
    · cases kind
  · exact large

theorem plainFails {v : Value} {f : Fault} (fails : v.plain = .error f) : f = .digitLimit ∧ v.isLong = true := by
  unfold Value.plain at fails
  split at fails
  · cases fails
  · cases fails
  · have worded := shownWorded v
    rw [fails] at worded
    generalize v.isLong = long at worded
    cases worded
    exact ⟨rfl, rfl⟩

theorem longUnworded {v : Value} (long : v.isLong = true) : v.plain = .error .digitLimit := by
  unfold Value.plain
  split
  · cases long
  · cases long
  · exact unwordedLong (shownWorded v) long

inductive Divided : List Value → Value → Prop where
  | quotient {a b x y} (first : a.toFloat = .ok x) (second : b.toFloat = .ok y) (other : (y == 0.0) = false)
      (defined : Number.isUndefined y = false) : Divided [a, b] (.float (x / y))
  | zero {a b x y} (first : a.toFloat = .ok x) (second : b.toFloat = .ok y)
      (none : (y == 0.0) = true ∨ Number.isUndefined y = true) : Divided [a, b] (.float 0.0)

inductive Printed : List Value → Value → Prop where
  | printed {a rest template text} (first : a.plain = .ok template)
      (filled : Template.fill template (.tuple rest) = .ok text) : Printed (a :: rest) (.text text)

inductive DivisionEscapes : List Value → Fault → Prop where
  | dividend {a b} (large : a.Oversized) : DivisionEscapes [a, b] .integerTooLarge
  | divisor {a b x} (first : a.toFloat = .ok x) (large : b.Oversized) : DivisionEscapes [a, b] .integerTooLarge

inductive PrintingEscapes : List Value → Fault → Prop where
  | wordless {a rest} (long : a.isLong = true) : PrintingEscapes (a :: rest) .digitLimit
  | excess {a rest template f} (first : a.plain = .ok template)
      (fails : Template.fill template (.tuple rest) = .error f) (kind : f.kind = .overflow ∨ f = .outOfMemory) :
      PrintingEscapes (a :: rest) f

/- A result that is a value as promised, a report about the number of arguments or one of the script, or else one of
the faults that escape. -/
structure Concludes (gives : Value → Prop) (escapes : Fault → Prop) (result : Except Failure Value) : Prop where
  value : ∀ v, result = .ok v → gives v
  passed : ∀ f, escapes f → result = .error (.fault f)
  failed : ∀ failure, result = .error failure → failure.reportClass? = some .argumentCount ∨
    failure.reportClass? = some .script ∨ ∃ f, failure = .fault f ∧ escapes f

section Concluding

variable {gives : Value → Prop} {escapes : Fault → Prop}

theorem concludesValue {v : Value} (given : gives v) (contained : ∀ f, ¬ escapes f) :
    Concludes gives escapes (.ok v) := by
  refine ⟨?_, fun f escaped => absurd escaped (contained f), fun _ fails => nomatch fails⟩
  rintro _ ⟨⟩
  exact given

theorem concludesFault {f : Fault} (escaped : escapes f) (only : ∀ g, escapes g → g = f) :
    Concludes gives escapes (.error (.fault f)) := by
  refine ⟨fun _ given => (nomatch given), fun g other => ?_, ?_⟩
  · rw [only g other]
  · rintro _ ⟨⟩
    exact .inr (.inr ⟨f, rfl, escaped⟩)

theorem concludesReport {failure : Failure}
    (reports : failure.reportClass? = some .argumentCount ∨ failure.reportClass? = some .script)
    (contained : ∀ f, ¬ escapes f) : Concludes gives escapes (.error failure) := by
  refine ⟨fun _ given => (nomatch given), fun f escaped => absurd escaped (contained f), ?_⟩
  rintro _ ⟨⟩
  exact reports.imp_right Or.inl

theorem concludesReported {result : Except Fault Value} (function : String) (given : ∀ v, result = .ok v → gives v)
    (formats : Formats result)
    (escaping : ∀ f, escapes f ↔ result = .error f ∧ (f.kind = .overflow ∨ f = .outOfMemory)) :
    Concludes gives escapes (result.mapError (reportedBy function)) := by
  cases result with
  | ok v =>
    refine concludesValue (given v rfl) (fun f escaped => ?_)
    cases ((escaping f).mp escaped).1
  | error f =>
    have only (g : Fault) (escaped : escapes g) : g = f := by
      cases ((escaping g).mp escaped).1
      rfl
    have reports (kind : f.kind = .typeMismatch ∨ f.kind = .badValue) :
        Concludes gives escapes (.error (reportedBy function f)) := by
      refine concludesReport (.inr ?_) (fun g escaped => ?_)
      · unfold reportedBy
        rcases kind with kind | kind <;> rw [kind] <;> rfl
      · obtain ⟨same, large | rfl⟩ := (escaping g).mp escaped
        · cases same
          rcases kind with kind | kind <;> cases kind.symm.trans large
        · cases same
          rcases kind with kind | kind <;> cases kind
    rcases formattingKinds (formats f rfl) with kind | kind | kind | rfl
    · exact reports (.inl kind)
    · exact reports (.inr kind)
    · have unreported : reportedBy function f = .fault f := by rw [reportedBy, kind]
      change Concludes gives escapes (.error (reportedBy function f))
      rw [unreported]
      exact concludesFault ((escaping f).mpr ⟨rfl, .inl kind⟩) only
    · exact concludesFault ((escaping _).mpr ⟨rfl, .inr rfl⟩) only

theorem reportingRuns {α : Type} (function : String) (x : Except Fault α) (wrap : α → Value) (s : Run) :
    (reporting function x >>= fun a => (pure (wrap a) : Running Value)).run s =
      ((x.map wrap).mapError (reportedBy function), s) := by
  cases x <;> rfl

end Concluding

section Called

variable {around : Surroundings} {scope : Option Scope} {tuple : Bool} {values : List Value} {f : Function}

theorem callRefused (refused : f.accepts values.length = false) (s : Run) : ∃ failure,
    (call around scope tuple values f).run s = (.error failure, s) ∧ failure.reportClass? = some .argumentCount := by
  have checked (n : Nat) (refused : f.accepts n = false) : ∃ failure, f.check n = .error failure ∧
      failure.reportClass? = some .argumentCount := by
    unfold Function.check
    rw [if_neg (Bool.eq_false_iff.mp refused)]
    split <;> exact ⟨_, rfl, rfl⟩
  obtain ⟨failure, check, kind⟩ := checked _ refused
  refine ⟨failure, ?_, kind⟩
  cases values with
  | nil =>
    rw [call, show f.check 0 = .error failure from check]
    rfl
  | cons v rest =>
    rw [call, show f.check (rest.length + 1) = .error failure from check]
    rfl

theorem callActs (accepted : f.accepts values.length = true) (own : f.body ≠ .delegate) :
    call around scope tuple values f = f.body.act around scope ⟨values, tuple⟩ := by
  have checked : f.check values.length = .ok () := if_pos accepted
  cases values with
  | nil =>
    rw [call, show f.check 0 = .ok () from checked]
    cases body : f.body with
    | delegate => exact absurd body own
    | _ => rfl
  | cons v rest =>
    rw [call, show f.check (rest.length + 1) = .ok () from checked]
    cases body : f.body with
    | delegate => exact absurd body own
    | _ => rfl

end Called

section Acts

variable {around : Surroundings} {scope : Option Scope} {tuple : Bool} {a b : Value} {rest : List Value}

def numbersOf (a b : Value) : Except Fault (Float × Float) := do
  let x ← a.toFloat
  return (x, ← b.toFloat)

def quotientOf (a b : Value) : Except Fault Value :=
  (numbersOf a b).map (fun numbers => .float (safeQuotient numbers.1 numbers.2))

theorem quotientDivided {v : Value} (gives : quotientOf a b = .ok v) : Divided [a, b] v := by
  unfold quotientOf numbersOf at gives
  cases first : a.toFloat with
  | error f =>
    rw [first] at gives
    cases gives
  | ok x =>
    cases second : b.toFloat with
    | error f =>
      rw [first, second] at gives
      cases gives
    | ok y =>
      rw [first, second] at gives
      cases gives
      dsimp only [safeQuotient]
      split
      · rename_i none
        exact .zero first second (Bool.or_eq_true_iff.mp none)
      · rename_i other
        obtain ⟨some, defined⟩ := Bool.or_eq_false_iff.mp (Bool.eq_false_iff.mpr other)
        exact .quotient first second some defined

theorem quotientFails {f : Fault} : quotientOf a b = .error f ↔
    a.toFloat = .error f ∨ ∃ x, a.toFloat = .ok x ∧ b.toFloat = .error f := by
  unfold quotientOf numbersOf
  cases a.toFloat with
  | error g =>
    constructor
    · rintro ⟨⟩
      exact .inl rfl
    · rintro (⟨⟨⟩⟩ | ⟨_, ⟨⟩, -⟩)
      rfl
  | ok x =>
    cases b.toFloat with
    | error g =>
      constructor
      · rintro ⟨⟩
        exact .inr ⟨x, rfl, rfl⟩
      · rintro (⟨⟨⟩⟩ | ⟨_, -, ⟨⟩⟩)
        rfl
    | ok y =>
      constructor
      · rintro ⟨⟩
      · rintro (⟨⟨⟩⟩ | ⟨_, -, ⟨⟩⟩)

theorem escapesDivision {f : Fault} : DivisionEscapes [a, b] f ↔
    quotientOf a b = .error f ∧ (f.kind = .overflow ∨ f = .outOfMemory) := by
  constructor
  · intro escapes
    cases escapes with
    | dividend large => exact ⟨quotientFails.mpr (.inl (oversizedFails large)), .inl rfl⟩
    | divisor first large => exact ⟨quotientFails.mpr (.inr ⟨_, first, oversizedFails large⟩), .inl rfl⟩
  · rintro ⟨fails, excess⟩
    rcases quotientFails.mp fails with first | ⟨x, first, second⟩
    · obtain ⟨rfl, large⟩ := excessOversized first excess
      exact .dividend large
    · obtain ⟨rfl, large⟩ := excessOversized second excess
      exact .divisor first large

theorem divisionConcludes (s : Run) : ∃ result,
    (Body.safeDivide.act around scope ⟨[a, b], tuple⟩).run s = (result, s) ∧
      Concludes (Divided [a, b]) (DivisionEscapes [a, b]) result := by
  have formats : Formats (numbersOf a b) :=
    raisesBind (toFloatFormats a) (fun _ => raisesBind (toFloatFormats b) (fun _ => raisesPure _))
  exact ⟨_, reportingRuns "sdiv" (numbersOf a b) _ s,
    concludesReported "sdiv" (fun _ => quotientDivided) (raisesMap formats _) (fun _ => escapesDivision)⟩

theorem mapFails {α β : Type} {x : Except Fault α} {wrap : α → β} {f : Fault} :
    x.map wrap = .error f ↔ x = .error f := by
  cases x with
  | error g =>
    constructor
    · rintro ⟨⟩
      rfl
    · rintro ⟨⟩
      rfl
  | ok a => constructor <;> rintro ⟨⟩

theorem printingConcludes (s : Run) : ∃ result,
    (Body.format.act around scope ⟨a :: rest, tuple⟩).run s = (result, s) ∧
      Concludes (Printed (a :: rest)) (PrintingEscapes (a :: rest)) result := by
  have acts : Body.format.act around scope ⟨a :: rest, tuple⟩ = (fallible a.plain >>= fun template =>
      reporting "sprintf" (Template.fill template (.tuple rest)) >>= fun text => pure (.text text)) := rfl
  rw [acts]
  cases first : a.plain with
  | error f =>
    obtain ⟨rfl, long⟩ := plainFails first
    refine ⟨.error (.fault .digitLimit), rfl, concludesFault (.wordless long) (fun g escapes => ?_)⟩
    cases escapes with
    | wordless => rfl
    | excess first' => cases first.symm.trans first'
  | ok template =>
    refine ⟨_, reportingRuns "sprintf" (Template.fill template (.tuple rest)) _ s, ?_⟩
    refine concludesReported "sprintf" (fun v gives => ?_) (raisesMap (Template.fillTupleFormats template rest) _)
      (fun f => ?_)
    · cases filled : Template.fill template (.tuple rest) with
      | error f =>
        rw [filled] at gives
        cases gives
      | ok text =>
        rw [filled] at gives
        cases gives
        exact .printed first filled
    · rw [mapFails]
      constructor
      · intro escapes
        cases escapes with
        | wordless long => cases first.symm.trans (longUnworded long)
        | excess first' fails kind =>
          cases first.symm.trans first'
          exact ⟨fails, kind⟩
      · rintro ⟨fails, excess⟩
        exact .excess first fails excess

end Acts

def Function.IsBundled (f : Function) (name : String) : Prop :=
  f.name = name ∧ ∃ d ∈ bundledFunctions, ∃ ambient env, d.requested ambient = .ok (env, f)

theorem bundledBodies {f : Function} {name : String} (bundled : f.IsBundled name) :
    (name = "sdiv" → f.arity = 2 ∧ f.body = .safeDivide) ∧ (name = "sprintf" → f.arity = -2 ∧ f.body = .format) := by
  obtain ⟨rfl, d, mem, ambient, env, requested⟩ := bundled
  simp only [bundledFunctions, List.mem_cons, List.not_mem_nil, or_false] at mem
  rcases mem with rfl | rfl | rfl | rfl | rfl | rfl | rfl
  all_goals
    cases requested
    simp [bundledFunction]

section Calls

variable (around : Surroundings) (scope : Option Scope) (tuple : Bool) {values : List Value} {f : Function}

theorem divisionCalled (arity : f.arity = 2) (body : f.body = .safeDivide) (s : Run) : ∃ result,
    (call around scope tuple values f).run s = (result, s) ∧
      Concludes (Divided values) (DivisionEscapes values) result := by
  have accepts : f.accepts values.length = (values.length == 2) := by
    rw [Function.accepts, arity]
    rfl
  cases accepted : f.accepts values.length with
  | false =>
    obtain ⟨failure, ran, kind⟩ := callRefused accepted s
    refine ⟨_, ran, concludesReport (.inl kind) (fun g escapes => ?_)⟩
    rw [accepts] at accepted
    cases escapes <;> cases accepted
  | true =>
    rw [accepts] at accepted
    obtain ⟨a, b, rfl⟩ := List.length_eq_two.mp (beq_iff_eq.mp accepted)
    rw [callActs accepts (by simp [body]), body]
    exact divisionConcludes s

theorem printingCalled (arity : f.arity = -2) (body : f.body = .format) (s : Run) : ∃ result,
    (call around scope tuple values f).run s = (result, s) ∧
      Concludes (Printed values) (PrintingEscapes values) result := by
  have accepts : f.accepts values.length = decide (1 ≤ values.length) := by
    rw [Function.accepts, Function.minimum, arity]
    rfl
  cases values with
  | nil =>
    obtain ⟨failure, ran, kind⟩ := @callRefused around scope tuple [] f accepts s
    exact ⟨_, ran, concludesReport (.inl kind) (fun g escapes => nomatch escapes)⟩
  | cons a rest =>
    have accepted : f.accepts (a :: rest).length = true := accepts.trans (by simp)
    rw [callActs accepted (by simp [body]), body]
    exact printingConcludes s

end Calls

/- Bad arguments of `sdiv` and `sprintf` are reported. A call of either with any arguments gives its value, or fails
with a report about their number or one of the script; apart from the faults that escape, which are passed on as they
are. It changes nothing. -/
theorem conversionsReport (around : Surroundings) (scope : Option Scope) (tuple : Bool) (values : List Value)
    (s : Run) :
    (∀ f : Function, f.IsBundled "sdiv" → ∃ result, (call around scope tuple values f).run s = (result, s) ∧
      Concludes (Divided values) (DivisionEscapes values) result) ∧
    ∀ f : Function, f.IsBundled "sprintf" → ∃ result, (call around scope tuple values f).run s = (result, s) ∧
      Concludes (Printed values) (PrintingEscapes values) result := by
  constructor
  · intro f bundled
    obtain ⟨arity, body⟩ := (bundledBodies bundled).1 rfl
    exact divisionCalled around scope tuple arity body s
  · intro f bundled
    obtain ⟨arity, body⟩ := (bundledBodies bundled).2 rfl
    exact printingCalled around scope tuple arity body s

def dividing : Function := ⟨"sdiv", 2, .rvalue, bundledFunctions[3].doc, .safeDivide⟩

theorem dividingBundled : dividing.IsBundled "sdiv" :=
  ⟨rfl, bundledFunctions[3], List.getElem_mem _, Environment.root, Environment.root, rfl⟩

def printing : Function := ⟨"sprintf", -2, .rvalue, bundledFunctions[6].doc, .format⟩

theorem printingBundled : printing.IsBundled "sprintf" :=
  ⟨rfl, bundledFunctions[6], List.getElem_mem _, Environment.root, Environment.root, rfl⟩

theorem conversionsConclude : dividing.IsBundled "sdiv" ∧ printing.IsBundled "sprintf" ∧
    ∀ (around : Surroundings) (scope : Option Scope) (s : Run),
      (∃ result, (call around scope false [.text "x", .int 1] dividing).run s = (result, s) ∧
        Concludes (Divided [.text "x", .int 1]) (DivisionEscapes [.text "x", .int 1]) result) ∧
      ∃ result, (call around scope false [.text "%d", .text "x"] printing).run s = (result, s) ∧
        Concludes (Printed [.text "%d", .text "x"]) (PrintingEscapes [.text "%d", .text "x"]) result :=
  ⟨dividingBundled, printingBundled, fun around scope s =>
    ⟨(conversionsReport around scope false [.text "x", .int 1] s).1 dividing dividingBundled,
      (conversionsReport around scope false [.text "%d", .text "x"] s).2 printing printingBundled⟩⟩

theorem excessEscapes : dividing.IsBundled "sdiv" ∧ printing.IsBundled "sprintf" ∧
    ∀ (around : Surroundings) (scope : Option Scope) (s : Run),
      (call around scope false [.int (2 ^ 1024 : Nat), .int 1] dividing).run s = (.error (.fault .integerTooLarge), s) ∧
      (call around scope false [.text "%c", .int (-1)] printing).run s =
        (.error (.fault (.formatOverflow "%c arg not in range(0x110000)")), s) ∧
      ∀ f : Fault, (Failure.fault f).reportClass? = none := by
  have large (size : Nat) (above : 2 ^ 1024 ≤ size) : (Value.int size).Oversized :=
    ⟨size, rfl, Nat.le_add_right_of_le above⟩
  have filled : Template.fill "%c" (.tuple [.int (-1)]) =
      .error (.formatOverflow "%c arg not in range(0x110000)") := by with_unfolding_all rfl
  refine ⟨dividingBundled, printingBundled, fun around scope s => ⟨?_, ?_, fun _ => rfl⟩⟩
  · obtain ⟨result, ran, concludes⟩ := divisionCalled around scope false (f := dividing) rfl rfl s
    rw [ran, concludes.passed _ (.dividend (large _ (Nat.le_refl _)))]
  · obtain ⟨result, ran, concludes⟩ := printingCalled around scope false (f := printing) rfl rfl s
    rw [ran, concludes.passed _ (.excess rfl filled (.inl rfl))]

end CallScript

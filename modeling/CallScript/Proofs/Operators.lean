import CallScript.CommandLine
import CallScript.Proofs.Faults
import CallScript.Proofs.Runs
import CallScript.Service

/-! How operators fail. On operands of the wrong types, on zero divisors and on numbers that are too large an
operator ends with a report of the script. Three failures are passed on as they are: want of memory, a print
template that cannot be filled in for another reason than the types of its values, and a report that cannot be
worded, as an operand holds an integer without a text. -/
namespace CallScript

open Syntax (Node Operator UnaryOperator)

theorem asFloatRaises (v : Value) : Raises Fault.IsOrdinary v.asFloat := by
  unfold Value.asFloat
  split
  · exact raisesOk _
  · exact floatOfIntRaises _

theorem asComplexRaises (v : Value) : Raises Fault.IsOrdinary v.asComplex := by
  unfold Value.asComplex
  split
  · exact raisesOk _
  · exact raisesOk _
  · exact raisesBind (floatOfIntRaises _) (fun _ => raisesPure _)

theorem numberPairRaises (a b : Value) : Raises Fault.IsOrdinary (numberPair a b) := by
  unfold numberPair
  split
  · exact raisesPure _
  · split
    · exact raisesBind (asComplexRaises a) (fun _ => raisesBind (asComplexRaises b) (fun _ => raisesPure _))
    · exact raisesBind (asFloatRaises a) (fun _ => raisesBind (asFloatRaises b) (fun _ => raisesPure _))

theorem complexPowerRaises (a b : Number.Complex) : Raises Fault.IsOrdinary (complexPower a b) := by
  unfold complexPower
  split
  · exact raisesOk _
  · exact raisesOperational rfl
  · exact raisesOperational rfl

theorem floatPowerRaises (x y : Float) : Raises Fault.IsOrdinary (floatPower x y) := by
  unfold floatPower
  dsimp only
  repeat' apply raisesIf
  all_goals first
    | exact raisesOk _
    | exact raisesOperational rfl
    | exact complexPowerRaises _ _

theorem quotientRaises (a b : Int) : Raises Fault.IsOrdinary (integerQuotient a b) := by
  refine raisesIf (raisesOperational rfl) ?_
  split
  · exact raisesOk _
  · exact raisesOperational rfl

theorem onIntegersRaises (op : Arithmetic) (a b : Int) : Raises Fault.IsOrdinary (op.onIntegers a b) := by
  cases op with
  | add | subtract | multiply => exact raisesOk _
  | divide => exact quotientRaises a b
  | modulo => exact raisesIf (raisesOperational rfl) (raisesOk _)
  | power =>
    refine raisesIf (raisesOk _) (raisesBind (floatOfIntRaises a) (fun _ => ?_))
    exact raisesBind (floatOfIntRaises b) (fun _ => floatPowerRaises _ _)

theorem onRealsRaises (op : Arithmetic) (x y : Float) : Raises Fault.IsOrdinary (op.onReals x y) := by
  cases op with
  | add | subtract | multiply => exact raisesOk _
  | divide | modulo => exact raisesIf (raisesOperational rfl) (raisesOk _)
  | power => exact floatPowerRaises x y

theorem onComplexesRaises (op : Arithmetic) (a b : Number.Complex) : Raises Fault.IsOrdinary (op.onComplexes a b) := by
  cases op with
  | add | subtract | multiply => exact raisesOk _
  | divide =>
    unfold Arithmetic.onComplexes
    dsimp only
    split
    · exact raisesOk _
    · exact raisesOperational rfl
  | modulo => exact raisesOperational rfl
  | power => exact complexPowerRaises a b

theorem onNumbersRaises (op : Arithmetic) (a b : Value) : Raises Fault.IsOrdinary (op.onNumbers a b) := by
  refine raisesIf (raisesOperational rfl) (raisesIf (raisesOperational rfl) ?_)
  refine raisesBind (numberPairRaises a b) (fun pair => ?_)
  cases pair with
  | integers m n => exact onIntegersRaises op m n
  | reals x y => exact onRealsRaises op x y
  | complexes z w => exact onComplexesRaises op z w

theorem timesRaises (sequence : Value) (count : Int) : Raises Fault.IsOrdinary (sequence.times count) := by
  have bounded (size : Nat) : Raises Fault.IsOrdinary (if size == 0 then .ok 0
      else if largestSize < size * count.toNat then .error .outOfMemory else .ok count.toNat : Except Fault Nat) :=
    raisesIf (raisesOk _) (raisesIf (raisesError (.inr rfl)) (raisesOk _))
  refine raisesIf (raisesOperational rfl) ?_
  cases sequence with
  | text s => exact raisesIf (raisesOperational rfl) (raisesBind (bounded _) (fun _ => raisesPure _))
  | list items | tuple items => exact raisesBind (bounded _) (fun _ => raisesPure _)
  | _ => exact raisesOk _

theorem repeatByRaises (sequence count : Value) : Raises Fault.IsOrdinary (sequence.repeatBy count) := by
  unfold Value.repeatBy
  split
  · exact timesRaises _ _
  · exact raisesOperational rfl

theorem comparisonRaises (r : Relation) : (∀ a b : Value, Raises Fault.IsOrdinary (a.related r b)) ∧
    ∀ xs ys : List Value, Raises Fault.IsOrdinary (relatedItems r xs ys) := by
  apply Value.related.mutual_induct_unfolding r (fun _ _ result => Raises Fault.IsOrdinary result)
    (fun _ _ result => Raises Fault.IsOrdinary result)
  case case2 | case3 | case9 | case10 =>
    intros
    assumption
  case case5 =>
    intros
    exact raisesOperational rfl
  all_goals
    intros
    exact raisesOk _

theorem arithmeticFails {op : Arithmetic} {a b : Value} {f : Fault} (fails : op.apply a b = .error f) :
    f.IsOrdinary ∨ ∃ s, op = .modulo ∧ a = .text s ∧ Template.fill s b = .error f := by
  unfold Arithmetic.apply at fails
  split at fails
  · cases fails
  · cases fails
  · cases fails
  · rename_i s
    refine .inr ⟨s, rfl, rfl, ?_⟩
    cases filled : Template.fill s b with
    | ok text =>
      rw [filled] at fails
      cases fails
    | error g =>
      rw [filled] at fails
      cases fails
      rfl
  · have raises : Raises Fault.IsOrdinary (if op == .add && a.isSequence then .error (.concatenation a.type b.type)
        else if op == .multiply && a.isSequence then a.repeatBy b
        else if op == .multiply && b.isSequence then b.repeatBy a
        else op.onNumbers a b) :=
      raisesIf (raisesOperational rfl) (raisesIf (repeatByRaises a b)
        (raisesIf (repeatByRaises b a) (onNumbersRaises op a b)))
    exact .inl (raises f fails)

theorem operatorFails {op : Operator} (known : ∀ symbol, op ≠ .unknown symbol) {a b : Value} {f : Fault}
    (fails : op.apply a b = .error f) :
    f.IsOrdinary ∨ ∃ s, op = .arithmetic .modulo ∧ a = .text s ∧ Template.fill s b = .error f := by
  cases op with
  | arithmetic op =>
    refine (arithmeticFails fails).imp_right ?_
    rintro ⟨s, rfl, filled⟩
    exact ⟨s, rfl, filled⟩
  | relation r =>
    exact .inl (raisesBind ((comparisonRaises r).1 a b) (fun _ => raisesPure _) f fails)
  | equal | unequal | both | either => cases fails
  | unknown symbol => exact absurd rfl (known symbol)

inductive Syntax.Operator.Escapes (op : Operator) (a b : Value) : Fault → Prop where
  | exhausted : op.apply a b = .error .outOfMemory → Escapes op a b .outOfMemory
  | unfilled {s : String} {f : Fault} : op = .arithmetic .modulo → a = .text s → Template.fill s b = .error f →
      f.kind = .badValue ∨ f.kind = .missingKey → Escapes op a b f
  | unworded {f : Fault} : op.apply a b = .error f → f.isOperational = true → (a.isLong || b.isLong) = true →
      Escapes op a b .digitLimit

inductive Syntax.UnaryOperator.Escapes (op : UnaryOperator) (v : Value) : Fault → Prop where
  | unworded {f : Fault} : op = .minus → v.negate = .error f → v.isLong = true → Escapes op v .digitLimit

theorem escapeUnreported {op : Operator} {a b : Value} {f : Fault} (escapes : op.Escapes a b f) :
    applyOperator op a b = .error (.fault f) := by
  unfold applyOperator
  cases escapes with
  | exhausted fails =>
    rw [fails]
    rfl
  | @unfilled s f modulo text filled kind =>
    subst modulo text
    have fails : (Operator.arithmetic .modulo).apply (.text s) b = .error f := by
      change (do return .text (← Template.fill s b) : Except Fault Value) = _
      rw [filled]
      rfl
    have unreported : f.isOperational = false := by
      unfold Fault.isOperational
      rcases kind with kind | kind <;> rw [kind]
    rw [fails]
    exact if_neg (Bool.eq_false_iff.mp unreported)
  | unworded fails operational long =>
    rw [fails]
    refine (if_pos operational).trans ?_
    cases first : a.isLong with
    | true => rw [unwordedLong (shownWorded a) first]
    | false =>
      obtain ⟨left, worded⟩ := wordedShort (shownWorded a) first
      rw [first, Bool.false_or] at long
      rw [worded, unwordedLong (shownWorded b) long]

structure Failure.IsReported (failure : Failure) : Prop where
  kind : failure.reportClass? = some .script
  answered : (Service.failureResponse failure).status = 400
  printed : ∀ setting : CommandLine.Setting,
    setting.fail failure = setting.finish (.returned 1) "" ("Error: " ++ failure.message ++ "\n")

structure Failure.IsUncaught (failure : Failure) : Prop where
  answered : Service.failureResponse failure = Service.internalError
  ended : ∀ setting : CommandLine.Setting, setting.fail failure = setting.finish (.failed failure) "" ""

/- A result that fails with just the faults that escape, and else with reports only. -/
structure FailsOnly (escapes : Fault → Prop) (result : Except Failure Value) : Prop where
  passed : ∀ f, escapes f → result = .error (.fault f)
  others : ∀ failure, result = .error failure →
    failure.IsReported ∨ ∃ f, failure = .fault f ∧ failure.IsUncaught ∧ escapes f

theorem valueFails {escapes : Fault → Prop} (v : Value) (contained : ∀ f, ¬escapes f) : FailsOnly escapes (.ok v) :=
  ⟨fun f escaped => absurd escaped (contained f), fun _ fails => nomatch fails⟩

theorem operatorFailsOnly {op : Operator} (known : ∀ symbol, op ≠ .unknown symbol) (a b : Value) :
    FailsOnly (op.Escapes a b) (applyOperator op a b) := by
  refine ⟨fun f => escapeUnreported, fun failure fails => ?_⟩
  have passes {f : Fault} (escapes : op.Escapes a b f) :
      ∃ f, failure = .fault f ∧ failure.IsUncaught ∧ op.Escapes a b f := by
    cases (escapeUnreported escapes).symm.trans fails
    exact ⟨f, rfl, ⟨rfl, fun _ => rfl⟩, escapes⟩
  cases applied : op.apply a b with
  | ok v =>
    unfold applyOperator at fails
    rw [applied] at fails
    cases fails
  | error f =>
    cases operational : f.isOperational with
    | true =>
      cases long : a.isLong || b.isLong with
      | true => exact .inr (passes (.unworded applied operational long))
      | false =>
        obtain ⟨left, first⟩ := wordedShort (shownWorded a) (Bool.or_eq_false_iff.mp long).1
        obtain ⟨right, second⟩ := wordedShort (shownWorded b) (Bool.or_eq_false_iff.mp long).2
        unfold applyOperator at fails
        rw [applied, first, second] at fails
        dsimp only at fails
        rw [if_pos operational] at fails
        cases fails
        exact .inl ⟨rfl, rfl, fun _ => rfl⟩
    | false =>
      have unreported : ¬f.isOperational = true := Bool.eq_false_iff.mp operational
      obtain (reported | rfl) | ⟨s, modulo, text, filled⟩ := operatorFails known applied
      · exact absurd reported unreported
      · exact .inr (passes (.exhausted applied))
      · obtain (reported | rfl) | kind := Template.fillRaises s b f filled
        · exact absurd reported unreported
        · exact .inr (passes (.exhausted applied))
        · exact .inr (passes (.unfilled modulo text filled kind))

theorem unaryUnreported {op : UnaryOperator} {v : Value} {f : Fault} (escapes : op.Escapes v f) :
    applyUnary op v = .error (.fault f) := by
  cases escapes with
  | unworded minus fails long =>
    subst minus
    unfold applyUnary
    rw [fails, unwordedLong (shownWorded v) long]

theorem unaryFailsOnly {op : UnaryOperator} (known : ∀ symbol, op ≠ .unknown symbol) (v : Value) :
    FailsOnly (op.Escapes v) (applyUnary op v) := by
  refine ⟨fun f => unaryUnreported, fun failure fails => ?_⟩
  cases op with
  | minus =>
    cases negated : v.negate with
    | ok w =>
      unfold applyUnary at fails
      rw [negated] at fails
      cases fails
    | error f =>
      cases long : v.isLong with
      | true =>
        have escapes : UnaryOperator.Escapes .minus v .digitLimit := .unworded rfl negated long
        cases (unaryUnreported escapes).symm.trans fails
        exact .inr ⟨_, rfl, ⟨rfl, fun _ => rfl⟩, escapes⟩
      | false =>
        obtain ⟨operand, worded⟩ := wordedShort (shownWorded v) long
        unfold applyUnary at fails
        rw [negated, worded] at fails
        cases fails
        exact .inl ⟨rfl, rfl, fun _ => rfl⟩
  | negation => cases fails
  | unknown symbol => exact absurd rfl (known symbol)

section Evaluated

variable {around : Surroundings} {scope : Scope} {s t u : Run} {a b : Value}

theorem attemptRun {α : Type} (result : Except Failure α) (s : Run) : ((attempt result).run s).1 = result := by
  cases result <;> rfl

theorem logicalContained {op : Operator} {a b v : Value} (applied : op.apply a b = .ok v)
    (logical : op ≠ .arithmetic .modulo) (f : Fault) : ¬op.Escapes a b f := by
  intro escapes
  cases escapes with
  | exhausted fails | unworded fails => cases applied.symm.trans fails
  | unfilled modulo => exact logical modulo

theorem binaryFailsOnly {op : Operator} (known : ∀ symbol, op ≠ .unknown symbol) {left right : Node}
    (first : (evaluate around scope left).run s = (.ok a, t))
    (second : (evaluate around scope right).run t = (.ok b, u)) :
    FailsOnly (op.Escapes a b) ((evaluate around scope (.binary op left right)).run s).1 := by
  rw [evaluate, runBind, first]
  dsimp only
  cases op with
  | both =>
    have contained := @logicalContained .both a b _ rfl Operator.noConfusion
    cases a.truthy with
    | true =>
      dsimp only
      rw [if_pos rfl, runBind, second]
      exact valueFails _ contained
    | false => exact valueFails _ contained
  | either =>
    have contained := @logicalContained .either a b _ rfl Operator.noConfusion
    cases a.truthy with
    | true => exact valueFails _ contained
    | false =>
      dsimp only
      rw [if_neg Bool.false_ne_true, runBind, second]
      exact valueFails _ contained
  | _ =>
    dsimp only
    rw [runBind, second]
    dsimp only
    rw [attemptRun]
    exact operatorFailsOnly known a b

theorem unaryEvaluated {op : UnaryOperator} (known : ∀ symbol, op ≠ .unknown symbol) {operand : Node}
    (first : (evaluate around scope operand).run s = (.ok a, t)) :
    FailsOnly (op.Escapes a) ((evaluate around scope (.unary op operand)).run s).1 := by
  rw [evaluate, runBind, first]
  dsimp only
  rw [attemptRun]
  exact unaryFailsOnly known a

end Evaluated

/- On operands that have values, an operator of the language fails with a report of the script, apart from the
faults that escape. -/
theorem operatorsReport (around : Surroundings) (scope : Scope) :
    (∀ op : Operator, (∀ symbol, op ≠ .unknown symbol) → ∀ (left right : Node) (s t u : Run) (a b : Value),
      (evaluate around scope left).run s = (.ok a, t) → (evaluate around scope right).run t = (.ok b, u) →
        FailsOnly (op.Escapes a b) ((evaluate around scope (.binary op left right)).run s).1) ∧
    ∀ op : UnaryOperator, (∀ symbol, op ≠ .unknown symbol) → ∀ (operand : Node) (s t : Run) (v : Value),
      (evaluate around scope operand).run s = (.ok v, t) →
        FailsOnly (op.Escapes v) ((evaluate around scope (.unary op operand)).run s).1 :=
  ⟨fun _ known _ _ _ _ _ _ _ first second => binaryFailsOnly known first second,
    fun _ known _ _ _ _ first => unaryEvaluated known first⟩

theorem remainderReports :
    (∀ symbol, Operator.arithmetic .modulo ≠ .unknown symbol) ∧
      ∀ (around : Surroundings) (scope : Scope) (s : Run),
        (evaluate around scope (.literal ⟨.number, .int 7⟩)).run s = (.ok (.int 7), s) ∧
        (evaluate around scope (.literal ⟨.number, .int 0⟩)).run s = (.ok (.int 0), s) ∧
        FailsOnly ((Operator.arithmetic .modulo).Escapes (.int 7) (.int 0))
          ((evaluate around scope (.binary (.arithmetic .modulo) (.literal ⟨.number, .int 7⟩)
            (.literal ⟨.number, .int 0⟩))).run s).1 :=
  ⟨fun _ => Operator.noConfusion, fun around scope s => ⟨rfl, rfl,
    (operatorsReport around scope).1 _ (fun _ => Operator.noConfusion) _ _ s s s _ _ rfl rfl⟩⟩

def percentage : Node :=
  .program [.assignment "x" (.binary (.arithmetic .modulo) (.literal ⟨.text, .text "%"⟩)
    (.literal ⟨.number, .int 1⟩))]

theorem resultFails {α β : Type} {x : Running α} {f : α → Running β} {s : Run} {failure : Failure}
    (fails : (x.run s).1 = .error failure) : ((x >>= f).run s).1 = .error failure := by
  rw [failsFirst (Prod.ext fails rfl)]

theorem percentageEscapes : parse "$x = \"%\" % 1" = .ok percentage ∧
    ∀ (around : Surroundings) (scope : Scope) (host : Host) (bindings : Dictionary Value),
      (runOn around scope host bindings percentage).result = .error (.fault (.formatValue "incomplete format")) ∧
        ¬(Failure.fault (.formatValue "incomplete format")).IsReported := by
  have filled : Template.fill "%" (.int 1) = .error (.formatValue "incomplete format") := by with_unfolding_all rfl
  refine ⟨by with_unfolding_all rfl, fun around scope host bindings => ⟨?_, fun reported => nomatch reported.kind⟩⟩
  change ((evaluate around scope percentage).run ⟨host, bindings⟩).1 = _
  rw [percentage, evaluate, evaluateInOrder, evaluate]
  refine resultFails (resultFails ?_)
  exact (binaryFailsOnly (fun _ => Operator.noConfusion) rfl rfl).passed _ (.unfilled rfl rfl filled (.inl rfl))

end CallScript

import CallScript.Evaluation

/-! The faults that primitive operations raise. What a print template raises depends on the values that fill it in:
only where keys are looked up among them can a key be missing. -/
namespace CallScript

def Raises {α : Type} (P : Fault → Prop) (result : Except Fault α) : Prop :=
  ∀ f, result = .error f → P f

section Raising

variable {α β : Type} {P : Fault → Prop}

theorem raisesOk (a : α) : Raises P (.ok a) := fun _ fails => nomatch fails

theorem raisesPure (a : α) : Raises P (pure a) := raisesOk a

theorem raisesError {f : Fault} (allowed : P f) : Raises P (.error f : Except Fault α) := by
  intro g fails
  cases fails
  exact allowed

theorem raisesBind {x : Except Fault α} {f : α → Except Fault β} (first : Raises P x)
    (rest : ∀ a, Raises P (f a)) : Raises P (x >>= f) := by
  cases x with
  | error g => exact raisesError (first g rfl)
  | ok a => exact rest a

theorem raisesMap {x : Except Fault α} (raises : Raises P x) (wrap : α → β) : Raises P (x.map wrap) := by
  cases x with
  | error g => exact raisesError (raises g rfl)
  | ok a => exact raisesOk _

theorem raisesIf {c : Prop} [Decidable c] {x y : Except Fault α} (yes : Raises P x) (no : Raises P y) :
    Raises P (if c then x else y) := by
  split
  · exact yes
  · exact no

end Raising

mutual

def Value.isLong : Value → Bool
  | .int n => decide (Nat.pow 10 digitLimit ≤ n.natAbs)
  | .list items => areLong items
  | .tuple items => areLong items
  | .dict entries => entriesLong entries
  | _ => false

def areLong : List Value → Bool
  | [] => false
  | v :: rest => v.isLong || areLong rest

def entriesLong : List (Value × Value) → Bool
  | [] => false
  | (key, v) :: rest => key.isLong || v.isLong || entriesLong rest

end

inductive Worded {α : Type} : Bool → Except Fault α → Prop where
  | text (a : α) : Worded false (.ok a)
  | none : Worded true (.error .digitLimit)

theorem wordedThen {α β : Type} {long more : Bool} {x : Except Fault α} {f : α → Except Fault β}
    (first : Worded long x) (rest : ∀ a, Worded more (f a)) : Worded (long || more) (x >>= f) := by
  cases first with
  | none => exact .none
  | text a => exact rest a

theorem wordedEnd {α β : Type} {long : Bool} {x : Except Fault α} {f : α → Except Fault β} (first : Worded long x)
    (rest : ∀ a, Worded false (f a)) : Worded long (x >>= f) :=
  Bool.or_false long ▸ wordedThen first rest

theorem wordedShort {α : Type} {long : Bool} {x : Except Fault α} (worded : Worded long x) (short : long = false) :
    ∃ a, x = .ok a := by
  cases worded with
  | none => cases short
  | text a => exact ⟨a, rfl⟩

theorem unwordedLong {α : Type} {long : Bool} {x : Except Fault α} (worded : Worded long x) (exceeds : long = true) :
    x = .error .digitLimit := by
  cases worded with
  | none => rfl
  | text a => cases exceeds

theorem integerWorded (n : Int) : Worded (decide (Nat.pow 10 digitLimit ≤ n.natAbs)) (integerText n) := by
  unfold integerText
  split
  · rename_i long
    rw [decide_eq_true long]
    exact .none
  · rename_i short
    rw [decide_eq_false short]
    exact .text _

mutual

theorem shownWorded : ∀ v : Value, Worded v.isLong v.shown
  | .int n => by
    rw [Value.isLong, Value.shown]
    exact integerWorded n
  | .null => .text _
  | .bool _ => .text _
  | .float _ => .text _
  | .complex _ _ => .text _
  | .text _ => .text _
  | .environment _ => .text _
  | .list items => by
    rw [Value.isLong, Value.shown]
    exact wordedEnd (itemsWorded items) (fun _ => .text _)
  | .tuple items => by
    rw [Value.isLong, Value.shown]
    refine wordedEnd (itemsWorded items) (fun shown => ?_)
    rcases shown with _ | ⟨item, _ | ⟨next, rest⟩⟩ <;> exact .text _
  | .dict entries => by
    rw [Value.isLong, Value.shown]
    exact wordedEnd (entriesWorded entries) (fun _ => .text _)

theorem itemsWorded : ∀ items : List Value, Worded (areLong items) (shownItems items)
  | [] => .text []
  | item :: rest => by
    rw [areLong, shownItems]
    exact wordedThen (shownWorded item) (fun _ => wordedEnd (itemsWorded rest) (fun _ => .text _))

theorem entriesWorded : ∀ entries : List (Value × Value), Worded (entriesLong entries) (shownEntries entries)
  | [] => .text []
  | (key, v) :: rest => by
    rw [entriesLong, shownEntries, Bool.or_assoc]
    refine wordedThen (shownWorded key) (fun _ => wordedThen (shownWorded v) (fun _ => ?_))
    exact wordedEnd (entriesWorded rest) (fun _ => .text _)

end

def Fault.IsOrdinary (f : Fault) : Prop :=
  f.isOperational = true ∨ f = .outOfMemory

def Fault.IsFilling (f : Fault) : Prop :=
  f.IsOrdinary ∨ f.kind = .badValue ∨ f.kind = .missingKey

theorem raisesOperational {α : Type} {f : Fault} (operational : f.isOperational = true) :
    Raises Fault.IsOrdinary (.error f : Except Fault α) :=
  raisesError (.inl operational)

theorem floatOfIntRaises (n : Int) : Raises Fault.IsOrdinary (floatOfInt n) := by
  unfold floatOfInt
  split
  · exact raisesOk _
  · exact raisesOperational rfl

theorem outOfMemoryOnly {f : Fault} (kind : f.kind = .outOfMemory) : f = .outOfMemory := by
  cases f with
  | outOfMemory => rfl
  | _ => cases kind

def Fault.isFormatting (f : Fault) : Bool :=
  match f.kind with
  | .typeMismatch | .badValue | .overflow | .outOfMemory => true
  | _ => false

theorem formattingKinds {f : Fault} (formatting : f.isFormatting = true) :
    f.kind = .typeMismatch ∨ f.kind = .badValue ∨ f.kind = .overflow ∨ f = .outOfMemory := by
  cases kind : f.kind with
  | typeMismatch | badValue | overflow => simp
  | outOfMemory => simp [outOfMemoryOnly kind]
  | _ =>
    rw [Fault.isFormatting, kind] at formatting
    cases formatting

theorem formattingFilling {f : Fault} (formatting : f.isFormatting = true) : f.IsFilling := by
  rcases formattingKinds formatting with kind | kind | kind | rfl
  · exact .inl (.inl (by rw [Fault.isOperational, kind]))
  · exact .inr (.inl kind)
  · exact .inl (.inl (by rw [Fault.isOperational, kind]))
  · exact .inl (.inr rfl)

abbrev Formats {α : Type} (result : Except Fault α) : Prop := Raises (fun f => f.isFormatting = true) result

theorem wordedFormats {α : Type} {long : Bool} {result : Except Fault α} (worded : Worded long result) :
    Formats result := by
  cases worded with
  | none => exact raisesError rfl
  | text a => exact raisesOk a

namespace Template

section Conversions

theorem integerForFormats (letter : Char) (v : Value) : Formats (integerFor letter v) := by
  unfold integerFor
  dsimp only
  split
  · refine raisesIf (raisesError rfl) ?_
    split
    · exact raisesError rfl
    · exact raisesError rfl
    · exact raisesOk _
  · split
    · exact raisesOk _
    · exact raisesError rfl

theorem integerFieldFormats (flags : Flags) (precision : Option Nat) (letter : Char) (n : Int) :
    Formats (integerField flags precision letter n) := by
  unfold integerField
  dsimp only
  refine raisesIf (raisesBind (wordedFormats (integerWorded n)) (fun _ => ?_)) ?_
  all_goals exact raisesIf (raisesError rfl) (raisesIf (raisesError rfl) (raisesPure _))

theorem floatForFormats (v : Value) : Formats (floatFor v) := by
  unfold floatFor
  split
  · exact raisesOk _
  · split
    · cases Number.ofInt? _ with
      | none => exact raisesError rfl
      | some x => exact raisesOk x
    · exact raisesError rfl

theorem characterFieldFormats (v : Value) : Formats (characterField v) := by
  unfold characterField
  split
  · split
    · exact raisesOk _
    · exact raisesError rfl
  · split
    · exact raisesError rfl
    · exact raisesIf (raisesOk _) (raisesError rfl)

theorem plainFormats (v : Value) : Formats v.plain := by
  unfold Value.plain
  split
  · exact raisesOk _
  · exact raisesOk _
  · exact wordedFormats (shownWorded _)

theorem convertFormats (d : Directive) (precision : Option Nat) (letter : Char) (v : Value) :
    Formats (convert d precision letter v) := by
  have shown := wordedFormats (shownWorded v)
  refine raisesIf (raisesBind (plainFormats v) (fun _ => raisesPure _)) ?_
  refine raisesIf (raisesBind shown (fun _ => raisesPure _)) (raisesIf (raisesBind shown (fun _ => raisesPure _)) ?_)
  refine raisesIf (raisesBind (integerForFormats letter v) (fun n => integerFieldFormats _ _ _ n)) ?_
  refine raisesIf (raisesBind (floatForFormats v) (fun _ => raisesIf (raisesError rfl) (raisesPure _))) ?_
  exact raisesIf (characterFieldFormats v) (raisesError rfl)

end Conversions

/- What a step of filling in comes to: a fault, one of a missing key only where keys are looked up, or a supply that
looks keys up in the same value as before. -/
inductive Draws {α : Type} (supply : Supply) (left : α → Supply) : Except Fault α → Prop where
  | fails {f} (formatting : f.isFormatting = true) : Draws supply left (.error f)
  | lacks {f} (keyed : supply.mapping.isSome = true) (missing : f.kind = .missingKey) : Draws supply left (.error f)
  | draws {a} (same : (left a).mapping = supply.mapping) : Draws supply left (.ok a)

section Draws

variable {α β : Type} {supply : Supply} {left : α → Supply} {left' : β → Supply} {x : Except Fault α}
  {f : α → Except Fault β}

theorem drawsBind (first : Draws supply left x) (rest : ∀ a, Draws (left a) left' (f a)) :
    Draws supply left' (x >>= f) := by
  cases first with
  | fails formatting => exact .fails formatting
  | lacks keyed missing => exact .lacks keyed missing
  | @draws a same =>
    change Draws supply left' (f a)
    have next := rest a
    generalize f a = result at next
    cases next with
    | fails formatting => exact .fails formatting
    | lacks keyed missing => exact .lacks (same ▸ keyed) missing
    | draws same' => exact .draws (same'.trans same)

theorem drawsAside (formats : Formats x) (rest : ∀ a, Draws supply left' (f a)) : Draws supply left' (x >>= f) := by
  cases x with
  | error g => exact .fails (formats g rfl)
  | ok a => exact rest a

theorem drawsIf {c : Prop} [Decidable c] {y : Except Fault α} (yes : Draws supply left x)
    (no : Draws supply left y) : Draws supply left (if c then x else y) := by
  split
  · exact yes
  · exact no

theorem drawsFilling (draws : Draws supply left x) : Raises Fault.IsFilling x := by
  cases draws with
  | fails formatting => exact raisesError (formattingFilling formatting)
  | lacks keyed missing => exact raisesError (.inr (.inr missing))
  | draws same => exact raisesOk _

theorem drawsUnkeyed (draws : Draws supply left x) (unkeyed : supply.mapping = none) : Formats x := by
  cases draws with
  | fails formatting => exact raisesError formatting
  | lacks keyed missing =>
    rw [unkeyed] at keyed
    cases keyed
  | draws same => exact raisesOk _

end Draws

theorem takeDraws (supply : Supply) : Draws supply Prod.snd supply.take := by
  unfold Supply.take
  split
  · exact .fails rfl
  · exact .draws rfl

theorem selectDraws (supply : Supply) (key : Key) : Draws supply id (supply.select key) := by
  unfold Supply.select
  split
  · exact .draws rfl
  · split
    · exact .fails rfl
    · exact .fails rfl
    · rename_i keyed _
      split
      · exact .draws rfl
      · exact .lacks (Option.isSome_of_mem keyed) rfl
    · exact .fails rfl

theorem takeWholeDraws (supply : Supply) : Draws supply Prod.snd (takeWhole supply) := by
  refine drawsBind (takeDraws supply) (fun taken => ?_)
  dsimp only
  split
  · exact .draws rfl
  · exact .fails rfl

theorem resolveWidthDraws (supply : Supply) (size : Size) :
    Draws supply (fun wide => wide.2.2) (resolveWidth supply size) := by
  cases size with
  | absent => exact .draws rfl
  | given n => exact drawsIf (.fails rfl) (.draws rfl)
  | argument => exact drawsBind (takeWholeDraws supply) (fun taken => drawsIf (.draws rfl) (.fails rfl))

theorem resolvePrecisionDraws (supply : Supply) (size : Size) :
    Draws supply Prod.snd (resolvePrecision supply size) := by
  cases size with
  | absent => exact .draws rfl
  | given n => exact drawsIf (.fails rfl) (.draws rfl)
  | argument => exact drawsBind (takeWholeDraws supply) (fun taken => drawsIf (.draws rfl) (.fails rfl))

theorem fillDirectiveDraws (supply : Supply) (d : Directive) : Draws supply Prod.snd (fillDirective supply d) := by
  refine drawsBind (selectDraws supply d.key) (fun selected => ?_)
  refine drawsBind (resolveWidthDraws selected d.width) (fun wide => ?_)
  refine drawsBind (resolvePrecisionDraws wide.2.2 d.precision) (fun precise => ?_)
  dsimp only
  split
  · exact .fails rfl
  · refine drawsBind (takeDraws _) (fun taken => drawsAside (convertFormats d _ _ _) (fun field => ?_))
    exact drawsIf (.fails rfl) (.draws rfl)

theorem fillPiecesDraws (pieces : List Piece) (supply : Supply) : Draws supply Prod.snd (fillPieces supply pieces) := by
  induction pieces generalizing supply with
  | nil => exact .draws rfl
  | cons piece rest ih =>
    cases piece with
    | text cs => exact drawsBind (ih supply) (fun _ => .draws rfl)
    | directive d =>
      exact drawsBind (fillDirectiveDraws supply d) (fun filled => drawsBind (ih filled.2) (fun _ => .draws rfl))

theorem fillRaises (template : String) (argument : Value) : Raises Fault.IsFilling (fill template argument) :=
  raisesBind (drawsFilling (fillPiecesDraws _ _)) (fun _ =>
    raisesIf (raisesError (formattingFilling rfl)) (raisesPure _))

theorem fillTupleFormats (template : String) (items : List Value) : Formats (fill template (.tuple items)) :=
  raisesBind (drawsUnkeyed (fillPiecesDraws _ _) rfl) (fun _ => raisesIf (raisesError rfl) (raisesPure _))

end Template

end CallScript

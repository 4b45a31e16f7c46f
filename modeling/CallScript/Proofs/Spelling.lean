import CallScript.Proofs.Grammar

/-! How far a terminal reaches in a text against its spellings. What a terminal takes is spelled as it
asks; and where a blank, a comment or the end of the text follows, a spelling is taken whole. -/
namespace CallScript.Syntax

def Ends (rest : List Char) : Prop :=
  rest = [] ∨ ∃ c ∈ [' ', '\t', '\r', '\n', '#'], ∃ more, rest = c :: more

theorem gapsNoDigit : ∀ c ∈ [' ', '\t', '\r', '\n', '#'], Text.isDigit c = false := by
  simp only [List.forall_mem_cons]
  exact ⟨rfl, rfl, rfl, rfl, rfl, by simp⟩

theorem gapsNoName : ∀ c ∈ [' ', '\t', '\r', '\n', '#'], isNameStart c = false ∧ isNamePart c = false := by
  simp only [List.forall_mem_cons]
  exact ⟨⟨rfl, rfl⟩, ⟨rfl, rfl⟩, ⟨rfl, rfl⟩, ⟨rfl, rfl⟩, ⟨rfl, rfl⟩, by simp⟩

theorem falseIdentifier : Identifier ['f', 'a', 'l', 's', 'e'] := by
  refine ⟨'f', ['a', 'l', 's', 'e'], rfl, rfl, ?_⟩
  simp only [List.forall_mem_cons]
  exact ⟨rfl, rfl, rfl, rfl, by simp⟩

theorem trueIdentifier : Identifier ['t', 'r', 'u', 'e'] := by
  refine ⟨'t', ['r', 'u', 'e'], rfl, rfl, ?_⟩
  simp only [List.forall_mem_cons]
  exact ⟨rfl, rfl, rfl, by simp⟩

theorem endsTakeWhile {p : Char → Bool} {rest} (ends : Ends rest)
    (outside : ∀ c ∈ [' ', '\t', '\r', '\n', '#'], p c = false) : rest.takeWhile p = [] := by
  rcases ends with rfl | ⟨c, mem, more, rfl⟩
  · rfl
  · rw [List.takeWhile_cons, outside c mem]
    rfl

theorem endsNot {rest more c} (ends : Ends rest) (outside : c ∉ [' ', '\t', '\r', '\n', '#']) :
    rest ≠ c :: more := by
  rintro rfl
  rcases ends with none | ⟨d, mem, more', same⟩
  · cases none
  · cases same
    exact outside mem

theorem takeWhileAll {p : Char → Bool} {cs rest : List Char} (all : ∀ c ∈ cs, p c = true)
    (stop : rest.takeWhile p = []) : (cs ++ rest).takeWhile p = cs := by
  rw [List.takeWhile_append_of_pos all, stop, List.append_nil]

theorem takeWhileTaken (p : Char → Bool) (cs : List Char) :
    ∃ taken rest, cs = taken ++ rest ∧ cs.takeWhile p = taken ∧ (∀ c ∈ taken, p c = true) :=
  ⟨cs.takeWhile p, cs.dropWhile p, List.takeWhile_append_dropWhile.symm, rfl,
    List.all_eq_true.mp List.all_takeWhile⟩

theorem digitsWhole {ds rest} (all : ∀ c ∈ ds, Text.isDigit c = true)
    (stop : rest.takeWhile Text.isDigit = []) : digitsWidth (ds ++ rest) = ds.length := by
  rw [digitsWidth, takeWhileAll all stop]

theorem digitsTaken (cs : List Char) : ∃ ds rest, cs = ds ++ rest ∧ digitsWidth cs = ds.length ∧
    ∀ c ∈ ds, Text.isDigit c = true := by
  obtain ⟨ds, rest, split, taken, all⟩ := takeWhileTaken Text.isDigit cs
  exact ⟨ds, rest, split, by rw [digitsWidth, taken], all⟩

theorem digitsSome {ds : List Char} (all : ∀ c ∈ ds, Text.isDigit c = true) (some : ds.length ≠ 0) :
    Digits ds :=
  ⟨fun none => some (by rw [none]; rfl), all⟩

theorem mantissaWhole {m rest} (mantissa : Mantissa m) (digit : rest.takeWhile Text.isDigit = [])
    (point : ∀ more, rest ≠ '.' :: more) : mantissaWidth (m ++ rest) = m.length ∧ 0 < m.length := by
  cases mantissa with
  | whole digits =>
    have taken := digitsWhole digits.2 digit
    refine ⟨?_, List.length_pos_iff.mpr digits.1⟩
    simp only [mantissaWidth, taken, List.drop_left]
  | @pointed ds fs digits fraction =>
    have stop : ('.' :: (fs ++ rest)).takeWhile Text.isDigit = [] := rfl
    have taken := digitsWhole digits.2 stop
    have more := digitsWhole fraction digit
    have some : ds.length ≠ 0 := fun none => digits.1 (List.eq_nil_of_length_eq_zero none)
    rw [List.append_assoc, List.cons_append]
    simp only [mantissaWidth, taken, List.drop_left, more, some, if_false, List.length_append,
      List.length_cons]
    omega
  | @fraction fs digits =>
    have more := digitsWhole digits.2 digit
    have some := List.length_pos_iff.mpr digits.1
    have none : digitsWidth ('.' :: (fs ++ rest)) = 0 := rfl
    rw [List.cons_append]
    simp only [mantissaWidth, none, List.drop_zero, if_true, more, List.length_cons]
    split <;> omega

theorem mantissaTaken {cs : List Char} (some : mantissaWidth cs ≠ 0) :
    ∃ m rest, cs = m ++ rest ∧ mantissaWidth cs = m.length ∧ Mantissa m := by
  obtain ⟨ds, rest, rfl, taken, all⟩ := digitsTaken cs
  simp only [mantissaWidth, taken, List.drop_left] at some ⊢
  split at some
  · rename_i rest
    obtain ⟨fs, rest, rfl, after, fraction⟩ := digitsTaken rest
    simp only [after] at some ⊢
    split at some
    · rename_i none
      cases List.eq_nil_of_length_eq_zero none
      split at some
      · exact absurd rfl some
      · rename_i more
        refine ⟨'.' :: fs, rest, rfl, ?_, .fraction (digitsSome fraction more)⟩
        rw [if_pos none, if_neg more, List.length_cons, Nat.add_comm]
    · rename_i more
      refine ⟨ds ++ '.' :: fs, rest, by simp, ?_, .pointed (digitsSome all more) fraction⟩
      rw [if_neg more, List.length_append, List.length_cons]
      omega
  · exact ⟨ds, rest, rfl, rfl, .whole (digitsSome all some)⟩

theorem exponentNone {rest} (ends : Ends rest) : exponentWidth rest = 0 := by
  rcases ends with rfl | ⟨c, mem, more, rfl⟩
  · rfl
  · simp only [List.mem_cons, List.not_mem_nil, or_false] at mem
    rcases mem with rfl | rfl | rfl | rfl | rfl <;> rfl

theorem exponentWhole {e rest} (exponent : Exponent e) (ends : Ends rest) :
    exponentWidth (e ++ rest) = e.length := by
  have stop : rest.takeWhile Text.isDigit = [] := endsTakeWhile ends gapsNoDigit
  cases exponent with
  | absent => exact exponentNone ends
  | @plain e ds letter digits =>
    obtain ⟨some, all⟩ := digits
    cases ds with
    | nil => exact absurd rfl some
    | cons d ds =>
      have digit : Text.isDigit d = true := all d (by simp)
      have plus : d ≠ '+' := by rintro rfl; cases digit
      have minus : d ≠ '-' := by rintro rfl; cases digit
      have taken : digitsWidth (d :: ds ++ rest) = ds.length + 1 := digitsWhole all stop
      rw [List.cons_append] at taken
      rcases letter with rfl | rfl <;>
        simp [exponentWidth, plus, minus, taken, Nat.add_comm]
  | @signed e s ds letter sign digits =>
    have taken := digitsWhole digits.2 stop
    have some : ds.length ≠ 0 := fun none => digits.1 (List.eq_nil_of_length_eq_zero none)
    rcases letter with rfl | rfl <;> rcases sign with rfl | rfl <;>
      simp [exponentWidth, taken, some, Nat.add_comm 2]

theorem exponentTaken (cs : List Char) :
    ∃ e rest, cs = e ++ rest ∧ exponentWidth cs = e.length ∧ Exponent e := by
  cases cs with
  | nil => exact ⟨[], [], rfl, rfl, .absent⟩
  | cons c cs =>
    by_cases letter : c = 'e' ∨ c = 'E'
    · cases cs with
      | nil => exact ⟨[], [c], rfl, by simp [exponentWidth], .absent⟩
      | cons s more =>
        by_cases sign : s = '+' ∨ s = '-'
        · obtain ⟨ds, rest, rfl, taken, all⟩ := digitsTaken more
          by_cases none : ds.length = 0
          · exact ⟨[], _, rfl, by simp [exponentWidth, letter, sign, taken, none], .absent⟩
          · refine ⟨c :: s :: ds, rest, rfl, ?_, .signed letter sign (digitsSome all none)⟩
            simp [exponentWidth, letter, sign, taken, none, Nat.add_comm 2]
        · obtain ⟨ds, rest, same, taken, all⟩ := digitsTaken (s :: more)
          by_cases none : ds.length = 0
          · exact ⟨[], _, rfl, by simp [exponentWidth, letter, sign, taken, none], .absent⟩
          · refine ⟨c :: ds, rest, by rw [same]; rfl, ?_, .plain letter (digitsSome all none)⟩
            simp [exponentWidth, letter, sign, taken, none, Nat.add_comm]
    · exact ⟨[], c :: cs, rfl, by simp [exponentWidth, letter], .absent⟩

theorem numberWhole {m e rest} (mantissa : Mantissa m) (exponent : Exponent e) (ends : Ends rest) :
    numberWidth (m ++ e ++ rest) = (m ++ e).length ∧ 0 < (m ++ e).length := by
  have digit : (e ++ rest).takeWhile Text.isDigit = [] := by
    cases exponent with
    | absent => exact endsTakeWhile ends gapsNoDigit
    | plain letter digits => rcases letter with rfl | rfl <;> rfl
    | signed letter sign digits => rcases letter with rfl | rfl <;> rfl
  have point : ∀ more, e ++ rest ≠ '.' :: more := by
    intro more
    cases exponent with
    | absent => exact endsNot ends (by decide)
    | plain letter digits => rcases letter with rfl | rfl <;> simp
    | signed letter sign digits => rcases letter with rfl | rfl <;> simp
  obtain ⟨taken, some⟩ := mantissaWhole mantissa digit point
  rw [List.append_assoc, List.length_append]
  simp only [numberWidth, taken, List.drop_left, exponentWhole exponent ends]
  rw [if_neg (by omega)]
  exact ⟨rfl, by omega⟩

theorem numberTaken {cs : List Char} (some : 0 < numberWidth cs) :
    ∃ s rest, cs = s ++ rest ∧ numberWidth cs = s.length ∧ Terminal.number.Spells s := by
  by_cases none : mantissaWidth cs = 0
  · simp [numberWidth, none] at some
  · obtain ⟨m, rest, rfl, taken, mantissa⟩ := mantissaTaken none
    obtain ⟨e, rest, rfl, after, exponent⟩ := exponentTaken rest
    refine ⟨m ++ e, rest, by simp, ?_, m, e, mantissa, exponent, rfl⟩
    rw [taken] at none
    simp only [numberWidth, taken, List.drop_left, after, if_neg none, List.length_append]

theorem nameWhole {cs rest} (name : Identifier cs) (ends : Ends rest) :
    nameWidth (cs ++ rest) = cs.length ∧ 0 < cs.length := by
  obtain ⟨c, more, rfl, start, part⟩ := name
  have taken := takeWhileAll part (endsTakeWhile ends (fun c mem => (gapsNoName c mem).2))
  simp only [List.cons_append, nameWidth, start, if_true, taken, List.length_cons]
  omega

theorem nameTaken {cs : List Char} (some : 0 < nameWidth cs) :
    ∃ s rest, cs = s ++ rest ∧ nameWidth cs = s.length ∧ Identifier s := by
  cases cs with
  | nil => cases some
  | cons c cs =>
    by_cases start : isNameStart c = true
    · obtain ⟨part, rest, rfl, taken, all⟩ := takeWhileTaken isNamePart cs
      refine ⟨c :: part, rest, rfl, ?_, c, part, rfl, start, all⟩
      simp only [nameWidth, start, if_true, taken, List.length_cons, Nat.add_comm]
    · simp [nameWidth, start] at some

theorem variableTaken {cs : List Char} (some : 0 < variableWidth cs) :
    ∃ s rest, cs = s ++ rest ∧ variableWidth cs = s.length ∧ Terminal.variable.Spells s := by
  unfold variableWidth at some ⊢
  split at some
  · rename_i cs
    split at some
    · cases some
    · rename_i more
      obtain ⟨s, rest, rfl, taken, name⟩ := nameTaken (Nat.pos_of_ne_zero more)
      refine ⟨'$' :: s, rest, rfl, ?_, s, rfl, name⟩
      rw [taken] at more
      simp only [taken, if_neg more, List.length_cons, Nat.add_comm]
  · cases some

theorem doubleQuotedWhole {cs} (quoted : DoubleQuoted cs) (rest : List Char) :
    doubleQuotedWidth (cs ++ rest) = some cs.length := by
  induction quoted with
  | close => rfl
  | escape line tail ih => simp [doubleQuotedWidth, line, ih]
  | @plain c cs quote backslash tail ih =>
    rw [List.cons_append, doubleQuotedWidth.eq_4 _ _ quote (fun _ _ same => absurd same backslash)
      (fun same => absurd same backslash), ih]
    rfl

theorem doubleQuotedTaken {cs : List Char} {n} (taken : doubleQuotedWidth cs = some n) :
    ∃ s rest, cs = s ++ rest ∧ n = s.length ∧ DoubleQuoted s := by
  fun_induction doubleQuotedWidth cs generalizing n with
  | case1 rest => cases taken; exact ⟨['"'], rest, rfl, rfl, .close⟩
  | case2 c rest line => cases taken
  | case3 c rest line ih =>
    obtain ⟨m, inner, rfl⟩ := Option.map_eq_some_iff.mp taken
    obtain ⟨s, rest, rfl, rfl, quoted⟩ := ih inner
    exact ⟨'\\' :: c :: s, rest, rfl, rfl, .escape (by simpa using line) quoted⟩
  | case4 => cases taken
  | case5 c rest quote escape lone ih =>
    have backslash : c ≠ '\\' := by
      intro same
      cases rest with
      | nil => exact lone same rfl
      | cons d more => exact escape d more same rfl
    obtain ⟨m, inner, rfl⟩ := Option.map_eq_some_iff.mp taken
    obtain ⟨s, rest, rfl, rfl, quoted⟩ := ih inner
    exact ⟨c :: s, rest, rfl, rfl, .plain quote backslash quoted⟩
  | case6 => cases taken

theorem singleQuotedWhole {cs} (quoted : SingleQuoted cs) (rest : List Char) :
    singleQuotedWidth (cs ++ rest) = some cs.length := by
  induction quoted with
  | close => rfl
  | plain quote line tail ih => simp [singleQuotedWidth, ih]

theorem singleQuotedTaken {cs : List Char} {n} (taken : singleQuotedWidth cs = some n) :
    ∃ s rest, cs = s ++ rest ∧ n = s.length ∧ SingleQuoted s := by
  fun_induction singleQuotedWidth cs generalizing n with
  | case1 rest => cases taken; exact ⟨['\x27'], rest, rfl, rfl, .close⟩
  | case2 => cases taken
  | case3 c rest quote line ih =>
    obtain ⟨m, inner, rfl⟩ := Option.map_eq_some_iff.mp taken
    obtain ⟨s, rest, rfl, rfl, quoted⟩ := ih inner
    exact ⟨c :: s, rest, rfl, rfl, .plain quote line quoted⟩
  | case4 => cases taken

theorem textWhole {cs} (quotation : Quotation cs) (rest : List Char) :
    textWidth (cs ++ rest) = cs.length ∧ 0 < cs.length := by
  cases quotation with
  | double tail => simp [textWidth, doubleQuotedWhole tail rest]
  | single tail => simp [textWidth, singleQuotedWhole tail rest]

theorem textTaken {cs : List Char} (some : 0 < textWidth cs) :
    ∃ s rest, cs = s ++ rest ∧ textWidth cs = s.length ∧ Quotation s := by
  unfold textWidth at some ⊢
  split at some
  · rename_i cs
    cases taken : doubleQuotedWidth cs with
    | none => simp [taken] at some
    | some n =>
      obtain ⟨s, rest, rfl, rfl, quoted⟩ := doubleQuotedTaken taken
      exact ⟨'"' :: s, rest, rfl, by simp, .double quoted⟩
  · rename_i cs
    cases taken : singleQuotedWidth cs with
    | none => simp [taken] at some
    | some n =>
      obtain ⟨s, rest, rfl, rfl, quoted⟩ := singleQuotedTaken taken
      exact ⟨'\x27' :: s, rest, rfl, by simp, .single quoted⟩
  · cases some

theorem spelledWhole (s rest : List Char) : spelledWidth s (s ++ rest) = s.length := by
  rw [spelledWidth, if_pos (List.isPrefixOf_iff_prefix.mpr (List.prefix_append s rest))]

theorem spelledTaken {s cs : List Char} (some : 0 < spelledWidth s cs) :
    ∃ rest, cs = s ++ rest ∧ spelledWidth s cs = s.length := by
  unfold spelledWidth at some ⊢
  split at some
  · rename_i begins
    obtain ⟨rest, rfl⟩ := List.isPrefixOf_iff_prefix.mp begins
    exact ⟨rest, rfl, by rw [if_pos begins]⟩
  · cases some

theorem wordTaken {word cs : List Char} (some : 0 < wordWidth word cs) :
    ∃ rest, cs = word ++ rest ∧ wordWidth word cs = word.length := by
  unfold wordWidth at some ⊢
  split at some
  · rename_i same
    obtain ⟨s, rest, rfl, taken, -⟩ := nameTaken some
    rw [taken, List.take_left] at same
    subst same
    exact ⟨rest, rfl, by rw [taken, List.take_left, if_pos rfl]⟩
  · cases some

theorem operatorKnown {op} (known : .operator op ∈ Terminal.all) : op ∈ Operator.known := by
  simp only [Terminal.all, List.mem_cons, List.not_mem_nil, or_false, reduceCtorEq, false_or,
    Terminal.operator.injEq] at known
  simp only [Operator.known, List.mem_cons, List.not_mem_nil, or_false]
  grind

theorem wordWhole {word rest : List Char} (name : Identifier word) (ends : Ends rest) :
    wordWidth word (word ++ rest) = word.length := by
  rw [wordWidth, (nameWhole name ends).1, List.take_left, if_pos rfl]

theorem widthTaken {kind : Terminal} {cs : List Char} (known : kind ∈ Terminal.all) (some : 0 < kind.width cs) :
    ∃ s rest, cs = s ++ rest ∧ kind.width cs = s.length ∧ kind.Spells s := by
  cases kind with
  | number => exact numberTaken some
  | text => exact textTaken some
  | «variable» => exact variableTaken some
  | name => exact nameTaken some
  | falseWord =>
    obtain ⟨rest, rfl, taken⟩ := wordTaken some
    exact ⟨_, rest, rfl, taken, rfl⟩
  | trueWord =>
    obtain ⟨rest, rfl, taken⟩ := wordTaken some
    exact ⟨_, rest, rfl, taken, rfl⟩
  | operator op =>
    obtain ⟨rest, rfl, taken⟩ := spelledTaken some
    exact ⟨_, rest, rfl, taken, operatorKnown known, rfl⟩
  | ending => cases some
  | _ =>
    obtain ⟨rest, rfl, taken⟩ := spelledTaken some
    exact ⟨_, rest, rfl, taken, rfl⟩

theorem widthWhole {kind : Terminal} {cs rest : List Char} (spelled : kind.Spells cs) (ends : Ends rest) :
    kind.width (cs ++ rest) = cs.length := by
  cases kind with
  | number =>
    obtain ⟨m, e, mantissa, exponent, rfl⟩ := spelled
    exact (numberWhole mantissa exponent ends).1
  | text => exact (textWhole spelled rest).1
  | «variable» =>
    obtain ⟨name, rfl, identifier⟩ := spelled
    obtain ⟨taken, some⟩ := nameWhole identifier ends
    simp only [List.cons_append, Terminal.width, variableWidth, taken, List.length_cons]
    rw [if_neg (Nat.ne_of_gt some), Nat.add_comm]
  | name => exact (nameWhole spelled ends).1
  | falseWord =>
    cases spelled
    exact wordWhole falseIdentifier ends
  | trueWord =>
    cases spelled
    exact wordWhole trueIdentifier ends
  | operator op =>
    obtain ⟨-, rfl⟩ := spelled
    exact spelledWhole _ _
  | ending => cases spelled
  | _ =>
    cases spelled
    exact spelledWhole _ _

end CallScript.Syntax

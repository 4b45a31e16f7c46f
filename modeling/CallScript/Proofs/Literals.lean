import CallScript.Proofs.Grammar
import CallScript.Syntax.Literal

/-! Literals written out. A natural number is written in decimal digits, a text between double quotes
with its backslashes, quotes, line ends and null characters escaped; each is a spelling that denotes it. -/
namespace CallScript.Syntax

theorem decimalDigit {c : Char} (digit : c.isDigit = true) :
    Text.isDigit c = true ∧ Text.isBlank c = false ∧ c ≠ '_' ∧ c ≠ '-' ∧ c ≠ '+' ∧
      Text.digitValue? c = some (c.toNat - 48) := by
  obtain ⟨low, high⟩ : 48 ≤ c.toNat ∧ c.toNat ≤ 57 := by
    simpa [Char.isDigit, UInt32.le_iff_toNat_le] using digit
  have value : Text.digitValue? c = some (c.toNat - 48) := by
    simp [Text.digitValue?, low, high]
  have blank : Text.isBlank c = false := by
    simp only [Text.isBlank, Bool.or_eq_false_iff, Bool.and_eq_false_imp, decide_eq_true_eq,
      decide_eq_false_iff_not, beq_eq_false_iff_ne]
    omega
  refine ⟨by rw [Text.isDigit, value]; rfl, blank, ?_, ?_, ?_, value⟩ <;>
  · rintro rfl
    revert low high
    decide

theorem naturalDigits (n : Nat) : (∀ c ∈ Nat.toDigits 10 n, c.isDigit = true) ∧ Nat.toDigits 10 n ≠ [] :=
  ⟨fun _ mem => Nat.isDigit_of_mem_toDigits (by decide) (by decide) mem, Nat.toDigits_ne_nil⟩

theorem naturalChars (n : Nat) : (toString n).toList = Nat.toDigits 10 n := Nat.toList_repr

theorem naturalSpelled (n : Nat) : Token.Spelled ⟨.number, toString n⟩ := by
  obtain ⟨digits, some⟩ := naturalDigits n
  refine ⟨Nat.toDigits 10 n, [], .whole ⟨some, fun c mem => (decimalDigit (digits c mem)).1⟩, .absent, ?_⟩
  rw [List.append_nil]
  exact naturalChars n

theorem trimDigits {cs : List Char} (digits : ∀ c ∈ cs, c.isDigit = true) : Text.trim cs = cs := by
  have stays : ∀ ds : List Char, (∀ c ∈ ds, c.isDigit = true) → ds.dropWhile Text.isBlank = ds := by
    intro ds all
    cases ds with
    | nil => rfl
    | cons c ds => rw [List.dropWhile_cons, (decimalDigit (all c (by simp))).2.1]; rfl
  rw [Text.trim, Text.trimStart, stays cs digits, Text.trimEnd, stays _ (by simpa using digits),
    List.reverse_reverse]

theorem dropUnderscoresDigits {cs : List Char} (digits : ∀ c ∈ cs, c.isDigit = true) (after : Bool) :
    Number.dropUnderscores after cs = some cs := by
  induction cs generalizing after with
  | nil => rfl
  | cons c cs ih =>
    have other := (decimalDigit (digits c (by simp))).2.2.1
    have rest := ih (fun d mem => digits d (by simp [mem])) (Text.isDigit c)
    rw [Number.dropUnderscores, rest]
    · rfl
    · rintro d more rfl
      exact absurd rfl other
    · rintro rfl
      exact absurd rfl other

theorem takeSignDigits {cs : List Char} (digits : ∀ c ∈ cs, c.isDigit = true) :
    Number.takeSign cs = (false, cs) := by
  cases cs with
  | nil => rfl
  | cons c cs =>
    obtain ⟨-, -, -, minus, plus, -⟩ := decimalDigit (digits c (by simp))
    rw [Number.takeSign]
    · rintro _ ⟨⟩
      exact absurd rfl minus
    · rintro _ ⟨⟩
      exact absurd rfl plus

theorem digitsValueLast (cs : List Char) (c : Char) :
    Number.digitsValue (cs ++ [c]) = 10 * Number.digitsValue cs + (Text.digitValue? c).getD 0 := by
  simp [Number.digitsValue]

theorem digitsValueAppend (cs : List Char) {d : Nat} (small : d < 10) :
    Number.digitsValue (cs ++ [Nat.digitChar d]) = 10 * Number.digitsValue cs + d := by
  have digit : (Nat.digitChar d).isDigit = true := by rw [Nat.isDigit_digitChar, decide_eq_true small]
  rw [digitsValueLast, (decimalDigit digit).2.2.2.2.2, Nat.toNat_digitChar_of_lt_ten small, Option.getD_some]
  omega

theorem digitsValueNatural (n : Nat) : Number.digitsValue (Nat.toDigits 10 n) = n := by
  induction n using Nat.strongRecOn with
  | ind n ih =>
    rw [Nat.toDigits_eq_if (by decide)]
    split
    · rename_i small
      simpa [Number.digitsValue] using digitsValueAppend [] small
    · rw [digitsValueAppend _ (Nat.mod_lt n (by decide)), ih (n / 10) (by omega)]
      omega

theorem naturalDenotes {n : Nat} (short : (toString n).length ≤ Number.integerDigitLimit) :
    numberLiteral (toString n) = .ok (.int n) := by
  obtain ⟨digits, some⟩ := naturalDigits n
  have chars := naturalChars n
  have all : (Nat.toDigits 10 n).all Text.isDigit = true :=
    List.all_eq_true.mpr (fun c mem => (decimalDigit (digits c mem)).1)
  have bound : ¬ Number.integerDigitLimit < (Nat.toDigits 10 n).length := by
    rw [← chars, String.length_toList]
    exact Nat.not_lt.mpr short
  have read : Number.readInteger (toString n) = .ok (Int.ofNat n) := by
    rw [Number.readInteger, chars, trimDigits digits, takeSignDigits digits]
    simp only [dropUnderscoresDigits digits, List.isEmpty_eq_false_iff.mpr some, all, bound,
      digitsValueNatural, Bool.not_true, Bool.or_self, Bool.false_eq_true, if_false]
  rw [numberLiteral, chars, if_pos all, read]
  rfl

def escapeCharacter (c : Char) : List Char :=
  if c = '\\' then ['\\', '\\']
  else if c = '"' then ['\\', '"']
  else if c = '\n' then ['\\', 'n']
  else if c = '\r' then ['\\', 'r']
  else if c = '\x00' then ['\\', 'x', '0', '0']
  else [c]

inductive Escape : Char → List Char → Prop where
  | plain {c} (backslash : c ≠ '\\') (quote : c ≠ '"') (line : c ≠ '\n') (back : c ≠ '\r')
      (null : c ≠ '\x00') : Escape c [c]
  | named {c letter} (mem : letter ∈ ['\\', '"', 'n', 'r']) (meaning : namedEscape? letter = some c) :
      Escape c ['\\', letter]
  | null : Escape '\x00' ['\\', 'x', '0', '0']

theorem escapes (c : Char) : Escape c (escapeCharacter c) := by
  unfold escapeCharacter
  repeat' split
  · exact .named (by simp) (by subst c; rfl)
  · exact .named (by simp) (by subst c; rfl)
  · exact .named (by simp) (by subst c; rfl)
  · exact .named (by simp) (by subst c; rfl)
  · subst c
    exact .null
  · exact .plain (by assumption) (by assumption) (by assumption) (by assumption) (by assumption)

def quotation (s : String) : String :=
  String.ofList ('"' :: s.toList.flatMap escapeCharacter ++ ['"'])

theorem doubleQuotedEscape {c : Char} {written rest} (escape : Escape c written) (tail : DoubleQuoted rest) :
    DoubleQuoted (written ++ rest) := by
  cases escape with
  | plain backslash quote line back null => exact .plain quote backslash tail
  | named mem meaning =>
    refine .escape ?_ tail
    rintro rfl
    simp at mem
  | null => exact .escape (by decide) (.plain (by decide) (by decide) (.plain (by decide) (by decide) tail))

theorem quotationSpelled (s : String) : Token.Spelled ⟨.text, quotation s⟩ := by
  have quoted : ∀ cs : List Char, DoubleQuoted (cs.flatMap escapeCharacter ++ ['"']) := by
    intro cs
    induction cs with
    | nil => exact .close
    | cons c cs ih =>
      rw [List.flatMap_cons, List.append_assoc]
      exact doubleQuotedEscape (escapes c) ih
  have spelled := Quotation.double (quoted s.toList)
  simpa [Token.Spelled, Terminal.Spells, quotation] using spelled

theorem escapeAvoids {c d : Char} {written} (escape : Escape c written) (bad : d = '\x00' ∨ d = '\r') :
    d ∉ written := by
  cases escape with
  | plain backslash quote line back null => rcases bad with rfl | rfl <;> simp [back.symm, null.symm]
  | named mem meaning =>
    simp only [List.mem_cons, List.not_mem_nil, or_false] at mem
    rcases bad with rfl | rfl <;> rcases mem with rfl | rfl | rfl | rfl <;> decide
  | null => rcases bad with rfl | rfl <;> decide

theorem plainLineEndsWithout {cs : List Char} (without : '\r' ∉ cs) : plainLineEnds cs = cs := by
  induction cs with
  | nil => rfl
  | cons c cs ih =>
    simp only [List.mem_cons, not_or] at without
    rw [plainLineEnds, ih without.2]
    · rintro _ rfl
      exact absurd rfl without.1
    · rintro rfl
      exact absurd rfl without.1

theorem linesWithinEscape {c : Char} {written} (escape : Escape c written) (line : Nat) (rest : List Char) :
    linesWithin line (written ++ rest) = linesWithin line rest := by
  cases escape with
  | plain backslash quote line back null =>
    rw [List.singleton_append, linesWithin]
    · simp [line]
    · rintro rfl
      exact absurd rfl backslash
    · rintro _ _ rfl
      exact absurd rfl backslash
  | named mem meaning =>
    simp only [List.mem_cons, List.not_mem_nil, or_false] at mem
    rcases mem with rfl | rfl | rfl | rfl <;> rfl
  | null => rfl

theorem unescapePlain {c : Char} (backslash : c ≠ '\\') (lines place : Nat) (rest : List Char) :
    unescape lines place (c :: rest) = (unescape lines (place + placeWidth c) rest).map (c :: ·) := by
  rw [unescape]
  · rfl
  · rintro rfl
    exact absurd rfl backslash
  · rintro _ _ rfl
    exact absurd rfl backslash

theorem unescapeEscape {c : Char} {written} (escape : Escape c written) (lines place : Nat)
    (rest : List Char) : ∃ next, unescape lines place (written ++ rest) =
      (unescape lines next rest).map (c :: ·) := by
  cases escape with
  | plain backslash quote line back null => exact ⟨_, unescapePlain backslash lines place rest⟩
  | @named _ letter mem meaning =>
    have same : escaped letter rest = .ok ([c], 0) := by
      simp only [List.mem_cons, List.not_mem_nil, or_false] at mem
      rcases mem with rfl | rfl | rfl | rfl <;> cases meaning <;> rfl
    refine ⟨place + pairWidth letter + placesWidth (rest.take 0), ?_⟩
    simp only [List.cons_append, List.nil_append]
    rw [unescape, same]
    rfl
  | null =>
    refine ⟨place + pairWidth 'x' + placesWidth (('0' :: '0' :: rest).take 2), ?_⟩
    have same : escaped 'x' ('0' :: '0' :: rest) = .ok (['\x00'], 2) := rfl
    simp only [List.cons_append, List.nil_append]
    rw [unescape, same]
    rfl

theorem quotationDenotes (s : String) : textLiteral (quotation s) = .ok (.text s) := by
  have body : (((quotation s).toList.drop 1).dropLast) = s.toList.flatMap escapeCharacter := by
    simp [quotation]
  have without : ∀ d, d = '\x00' ∨ d = '\r' → d ∉ s.toList.flatMap escapeCharacter := by
    intro d bad mem
    obtain ⟨c, -, inside⟩ := List.mem_flatMap.mp mem
    exact escapeAvoids (escapes c) bad inside
  have lines : ∀ cs : List Char, linesWithin 1 (cs.flatMap escapeCharacter) = .ok 1 := by
    intro cs
    induction cs with
    | nil => rfl
    | cons c cs ih => rw [List.flatMap_cons, linesWithinEscape (escapes c), ih]
  have read : ∀ (cs : List Char) (place : Nat), unescape 1 place (cs.flatMap escapeCharacter) = .ok cs := by
    intro cs
    induction cs with
    | nil => intro place; rw [List.flatMap_nil, unescape]
    | cons c cs ih =>
      intro place
      obtain ⟨next, same⟩ := unescapeEscape (escapes c) 1 place (cs.flatMap escapeCharacter)
      rw [List.flatMap_cons, same, ih]
      rfl
  have null : (s.toList.flatMap escapeCharacter).contains '\x00' = false := by
    simpa using without '\x00' (.inl rfl)
  simp only [textLiteral, body, null, plainLineEndsWithout (without '\r' (.inr rfl)), lines]
  simp only [Bool.false_eq_true, if_false, bind, Except.bind, pure, Except.pure]
  rw [read]
  simp only [String.ofList_toList]

end CallScript.Syntax

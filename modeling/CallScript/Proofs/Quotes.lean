import CallScript.Proofs.Literals
import CallScript.Text.Quoted
import CallScript.Value.Shown
import Mathlib.Algebra.Group.Nat.Defs
import Mathlib.Data.List.TakeWhile

/-! Texts as they are shown, between quotes. Each character can be read off what it is shown as, whatever follows
it, so the shown text determines the text; and it stays on one line. -/
namespace CallScript.Syntax

open Text (escapeChar codeEscape hexDigits padStart quoteFor quotedChars isPrintable)

theorem hexDigit {d : Nat} (small : d < 16) : hexValue? (Nat.digitChar d) = some d := by
  have all : ∀ d < 16, hexValue? (Nat.digitChar d) = some d := by decide
  exact all d small

theorem hexDigitsRead (n : Nat) :
    (∀ c ∈ Nat.toDigits 16 n, isHexDigit c = true) ∧ valueIn 16 (Nat.toDigits 16 n) = n := by
  induction n using Nat.strongRecOn with
  | ind n ih =>
    rw [Nat.toDigits_eq_if (by decide)]
    split
    · rename_i small
      exact ⟨by simp [isHexDigit, hexDigit small], by simp [valueIn, hexDigit small]⟩
    · have last := hexDigit (Nat.mod_lt n (by decide : 0 < 16))
      obtain ⟨digits, value⟩ := ih (n / 16) (by omega)
      refine ⟨fun c mem => ?_, ?_⟩
      · rcases List.mem_append.mp mem with mem | mem
        · exact digits c mem
        · rw [List.mem_singleton.mp mem, isHexDigit, last]
          rfl
      · rw [valueIn, List.foldl_append, ← valueIn, value]
        simp only [List.foldl_cons, List.foldl_nil, last, Option.getD_some]
        omega

theorem paddedRead {width n : Nat} (some : 0 < width) (fits : n < 16 ^ width) :
    let digits := padStart width '0' (hexDigits n)
    digits.length = width ∧ (∀ c ∈ digits, isHexDigit c = true) ∧ valueIn 16 digits = n := by
  intro digits
  obtain ⟨all, value⟩ := hexDigitsRead n
  have size : (Nat.toDigits 16 n).length ≤ width := (Nat.length_toDigits_le_iff (by decide) some).mpr fits
  refine ⟨?_, fun c mem => ?_, ?_⟩
  · simp only [digits, padStart, hexDigits, List.length_append, List.length_replicate]
    omega
  · rcases List.mem_append.mp mem with zero | mem
    · rw [List.eq_of_mem_replicate zero]
      rfl
    · exact all c mem
  · have zeros : ∀ k, valueIn 16 (List.replicate k '0') = 0 := by
      intro k
      induction k with
      | zero => rfl
      | succ k ih =>
        rw [List.replicate_succ', valueIn, List.foldl_append, ← valueIn, ih]
        rfl
    simp only [digits, padStart]
    rw [valueIn, List.foldl_append, ← valueIn, zeros]
    exact value

theorem hexCharacterRead {count n : Nat} {reason : String} {digits rest : List Char} (size : digits.length = count)
    (all : ∀ c ∈ digits, isHexDigit c = true) (value : valueIn 16 digits = n) (code : n < 0x110000) :
    hexCharacter count reason (digits ++ rest) = .ok ([Char.ofNat n], count) := by
  have taken : ((digits ++ rest).take count).takeWhile isHexDigit = digits := by
    rw [← size, List.take_left, List.takeWhile_eq_self_iff.mpr all]
  rw [hexCharacter, taken, value, if_neg (by omega), if_neg (by omega)]

theorem codeRead {code : Nat} (range : code < 0x110000) :
    ∃ letter digits, codeEscape code = '\\' :: letter :: digits ∧
    (∀ c ∈ digits, isHexDigit c = true) ∧ letter ∈ ['x', 'u', 'U'] ∧
      ∀ rest, escaped letter (digits ++ rest) = .ok ([Char.ofNat code], digits.length) := by
  have read {width : Nat} (some : 0 < width) (fits : code < 16 ^ width) (letter : Char) (reason : String)
      (escape : ∀ cs, escaped letter cs = hexCharacter width reason cs) :
      let digits := padStart width '0' (hexDigits code)
      (∀ c ∈ digits, isHexDigit c = true) ∧
        ∀ rest, escaped letter (digits ++ rest) = .ok ([Char.ofNat code], digits.length) := by
    obtain ⟨size, all, value⟩ := paddedRead some fits
    exact ⟨all, fun rest => by rw [escape, hexCharacterRead size all value range, size]⟩
  unfold codeEscape
  split
  · rename_i small
    obtain ⟨all, meaning⟩ := read (by decide) small 'x' _ (fun _ => rfl)
    exact ⟨_, _, rfl, all, by decide, meaning⟩
  · split
    · rename_i small
      obtain ⟨all, meaning⟩ := read (by decide) small 'u' _ (fun _ => rfl)
      exact ⟨_, _, rfl, all, by decide, meaning⟩
    · obtain ⟨all, meaning⟩ := read (by decide) (Nat.lt_trans range (by decide)) 'U' _ (fun _ => rfl)
      exact ⟨_, _, rfl, all, by decide, meaning⟩

theorem charRange (c : Char) : c.toNat < 0x110000 := by
  rcases c.valid with low | high
  · exact Nat.lt_trans low (by decide)
  · exact high.2

inductive Shown : Char → List Char → Prop where
  | plain {c} (backslash : c ≠ '\\') (line : c ≠ '\n') : Shown c [c]
  | named {c letter} (other : letter ≠ '\n') (meaning : ∀ rest, escaped letter rest = .ok ([c], 0)) :
      Shown c ['\\', letter]
  | coded {c letter digits} (other : letter ≠ '\n') (all : ∀ d ∈ digits, isHexDigit d = true)
      (meaning : ∀ rest, escaped letter (digits ++ rest) = .ok ([c], digits.length)) :
      Shown c ('\\' :: letter :: digits)

theorem charShown {quote : Char} (mark : quote = '"' ∨ quote = '\x27') (c : Char) : Shown c (escapeChar quote c) := by
  unfold escapeChar
  split
  · rename_i special
    have which : c = '"' ∨ c = '\x27' ∨ c = '\\' := by
      rcases Bool.or_eq_true_iff.mp special with same | same
      · rw [beq_iff_eq.mp same]
        exact mark.imp id .inl
      · exact .inr (.inr (beq_iff_eq.mp same))
    rcases which with rfl | rfl | rfl <;> exact .named (by decide) (fun _ => rfl)
  · rename_i ordinary
    simp only [Bool.or_eq_true, beq_iff_eq, not_or] at ordinary
    repeat' split
    · rename_i same
      cases beq_iff_eq.mp same
      exact .named (by decide) (fun _ => rfl)
    · rename_i same
      cases beq_iff_eq.mp same
      exact .named (by decide) (fun _ => rfl)
    · rename_i same
      cases beq_iff_eq.mp same
      exact .named (by decide) (fun _ => rfl)
    · rename_i line _ _ _
      exact .plain ordinary.2 (by simpa using line)
    · obtain ⟨letter, digits, same, all, mem, meaning⟩ := codeRead (charRange c)
      rw [same]
      refine .coded ?_ all (fun rest => by rw [meaning, Char.ofNat_toNat])
      rintro rfl
      revert mem
      decide

theorem unescapeShown {c : Char} {written : List Char} (shown : Shown c written) (lines place : Nat)
    (rest : List Char) :
    ∃ next, unescape lines place (written ++ rest) = (unescape lines next rest).map (c :: ·) := by
  cases shown with
  | plain backslash => exact ⟨_, unescapePlain backslash lines place rest⟩
  | @named letter _ meaning =>
    refine ⟨place + pairWidth letter + placesWidth (rest.take 0), ?_⟩
    rw [List.cons_append, List.singleton_append, unescape, meaning]
    rfl
  | @coded letter digits _ _ meaning =>
    refine ⟨place + pairWidth letter + placesWidth ((digits ++ rest).take digits.length), ?_⟩
    rw [List.cons_append, List.cons_append, unescape, meaning]
    dsimp only
    rw [List.drop_left]
    rfl

theorem shownOneLine {c : Char} {written : List Char} (shown : Shown c written) : '\n' ∉ written := by
  cases shown with
  | plain _ line => simpa using line.symm
  | named other => simpa using other.symm
  | coded other all =>
    simp only [List.mem_cons, not_or]
    exact ⟨by decide, other.symm, fun mem => absurd (all _ mem) (by decide)⟩

theorem quoteMark (cs : List Char) : quoteFor cs = '"' ∨ quoteFor cs = '\x27' := by
  rw [quoteFor]
  split
  · exact .inl rfl
  · exact .inr rfl

theorem quotedRead (cs : List Char) {quote : Char} (mark : quote = '"' ∨ quote = '\x27') (lines place : Nat) :
    unescape lines place (cs.flatMap (escapeChar quote)) = .ok cs := by
  induction cs generalizing place with
  | nil => rw [List.flatMap_nil, unescape]
  | cons c cs ih =>
    obtain ⟨next, same⟩ := unescapeShown (charShown mark c) lines place (cs.flatMap (escapeChar quote))
    rw [List.flatMap_cons, same, ih]
    rfl

/- The shown text begins with its quote, and between the quotes it denotes the text. -/
theorem quotedInjective {s t : String} (same : Text.quoted s = Text.quoted t) : s = t := by
  have chars : quotedChars s.toList = quotedChars t.toList := String.ofList_inj.mp same
  obtain ⟨quotes, inner⟩ := List.cons.inj chars
  have inner := List.append_inj_left' inner rfl
  rw [← quotes] at inner
  have read := quotedRead s.toList (quoteMark s.toList) 1 0
  rw [inner, quotedRead t.toList (quoteMark s.toList)] at read
  exact String.toList_inj.mp (Except.ok.inj read).symm

theorem quotedOneLine (s : String) : '\n' ∉ (Text.quoted s).toList := by
  have mark := quoteMark s.toList
  have apart : '\n' ≠ quoteFor s.toList := by
    rcases mark with same | same <;> rw [same] <;> decide
  rw [Text.quoted, String.toList_ofList, quotedChars]
  simp only [List.mem_append, List.mem_cons, List.mem_flatMap, List.not_mem_nil, or_false, not_or]
  refine ⟨⟨apart, ?_⟩, apart⟩
  rintro ⟨c, -, inside⟩
  exact shownOneLine (charShown mark c) inside

end CallScript.Syntax

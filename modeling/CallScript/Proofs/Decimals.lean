import CallScript.Proofs.Intervals
import CallScript.Proofs.Literals
import Mathlib.Data.List.TakeWhile

/-! The text of a floating-point number. Whether the point stands in the digits, before or after them, or an exponent
tells its place, what the digits are worth can be read off the text; and what they are worth rounds to one number
only. So the text determines the number. -/
namespace CallScript.Number

section Digits

theorem valueDigits (cs ds : List Char) :
    digitsValue (cs ++ ds) = digitsValue cs * 10 ^ ds.length + digitsValue ds := by
  induction ds using List.reverseRecOn with
  | nil => simp [digitsValue]
  | append_singleton ds d ih =>
    rw [← List.append_assoc, Syntax.digitsValueLast, Syntax.digitsValueLast, ih, List.length_append,
      List.length_singleton, Nat.pow_succ]
    ring

theorem zerosWorthless (n : Nat) : digitsValue (List.replicate n '0') = 0 := by
  induction n with
  | zero => rfl
  | succ n ih =>
    rw [List.replicate_succ', valueDigits, ih]
    rfl

def digitChars (digits : List Nat) : List Char := digits.map (fun d => Char.ofNat (48 + d))

theorem digitTextChars (digits : List Nat) : (digitText digits).toList = digitChars digits :=
  String.toList_ofList

theorem digitsOfChars (n : Nat) : digitChars (digitsOf n) = Nat.toDigits 10 n := by
  rw [digitChars, digitsOf, List.map_map]
  refine (List.map_congr_left fun c mem => ?_).trans (List.map_id _)
  obtain ⟨low, -⟩ : 48 ≤ c.toNat ∧ c.toNat ≤ 57 := by
    simpa [Char.isDigit, UInt32.le_iff_toNat_le] using (Syntax.naturalDigits n).1 c mem
  rw [Function.comp_apply, Nat.add_sub_cancel' low, Char.ofNat_toNat, id]

def Decimal.chars (d : Decimal) : List Char := digitChars d.digits

def Decimal.worth (d : Decimal) : ℚ := digitsValue d.chars * 10 ^ (d.point - d.digits.length)

structure Decimal.Proper (d : Decimal) : Prop where
  some : d.digits ≠ []
  each : ∀ c ∈ d.chars, c.isDigit = true

theorem strippedChars (n : Nat) (power : Int) :
    ∃ zeros, Nat.toDigits 10 n = (stripped n power).chars ++ List.replicate zeros '0' ∧
      (stripped n power).point = power + (stripped n power).digits.length + zeros := by
  let ended := (digitsOf n).reverse.takeWhile (· == 0)
  have cut : digitsOf n = (stripped n power).digits ++ ended.reverse := by
    rw [stripped, ← List.reverse_append, List.takeWhile_append_dropWhile, List.reverse_reverse]
  have zeros : ended.reverse = List.replicate ended.length 0 := by
    rw [List.eq_replicate_iff]
    refine ⟨List.length_reverse, fun d mem => ?_⟩
    simpa using List.mem_takeWhile_imp (List.mem_reverse.mp mem)
  refine ⟨ended.length, ?_, ?_⟩
  · rw [← digitsOfChars, cut, zeros, digitChars, List.map_append, List.map_replicate]
    rfl
  · have size := congrArg List.length cut
    rw [List.length_append, List.length_reverse] at size
    rw [stripped] at size ⊢
    dsimp only at size ⊢
    omega

theorem strippedWorth (n : Nat) (power : Int) : (stripped n power).worth = n * 10 ^ power := by
  obtain ⟨zeros, chars, point⟩ := strippedChars n power
  have value : n = digitsValue (stripped n power).chars * 10 ^ zeros := by
    conv_lhs => rw [← Syntax.digitsValueNatural n, chars]
    rw [valueDigits, zerosWorthless, List.length_replicate, Nat.add_zero]
  conv_rhs => rw [value]
  push_cast
  rw [Decimal.worth, point, mul_assoc, ← zpow_natCast, ← zpow_add₀ (by norm_num)]
  congr 2
  omega

theorem strippedProper {n : Nat} (positive : 0 < n) (power : Int) : (stripped n power).Proper := by
  obtain ⟨zeros, chars, -⟩ := strippedChars n power
  refine ⟨fun none => ?_, fun c mem => (Syntax.naturalDigits n).1 c (by rw [chars]; simp [mem])⟩
  have value := Syntax.digitsValueNatural n
  rw [chars, Decimal.chars, none, digitChars, List.map_nil, List.nil_append, zerosWorthless] at value
  omega

end Digits

section Layouts

def exponentOf : List Char → Int
  | 'e' :: more => if (takeSign more).1 then -digitsValue (takeSign more).2 else digitsValue (takeSign more).2
  | _ => 0

def pointed : List Char → List Char × List Char
  | '.' :: more => (more.takeWhile Char.isDigit, more.dropWhile Char.isDigit)
  | rest => ([], rest)

def decimalOf (cs : List Char) : ℚ :=
  let (fraction, rest) := pointed (cs.dropWhile Char.isDigit)
  digitsValue (cs.takeWhile Char.isDigit ++ fraction) * 10 ^ (exponentOf rest - fraction.length)

variable {whole fraction rest : List Char}

def Ends (rest : List Char) : Prop := ∀ c ∈ rest.head?, c.isDigit = false

theorem digitsTaken (digits : ∀ c ∈ whole, c.isDigit = true) (ends : Ends rest) :
    (whole ++ rest).takeWhile Char.isDigit = whole ∧ (whole ++ rest).dropWhile Char.isDigit = rest := by
  rw [List.takeWhile_append_of_pos digits, List.dropWhile_append_of_pos digits]
  cases rest with
  | nil => simp
  | cons c rest => simp [ends c rfl]

theorem decimalPointed (digits : ∀ c ∈ whole, c.isDigit = true) (digits' : ∀ c ∈ fraction, c.isDigit = true)
    (ends : Ends rest) : decimalOf (whole ++ '.' :: (fraction ++ rest)) =
      digitsValue (whole ++ fraction) * 10 ^ (exponentOf rest - fraction.length) := by
  have point : Ends ('.' :: (fraction ++ rest)) := by simp [Ends]
  obtain ⟨taken, left⟩ := digitsTaken digits point
  obtain ⟨taken', left'⟩ := digitsTaken digits' ends
  rw [decimalOf, taken, left, pointed, taken', left']

theorem decimalScaled (digits : ∀ c ∈ whole, c.isDigit = true) :
    decimalOf (whole ++ 'e' :: rest) = digitsValue whole * 10 ^ exponentOf ('e' :: rest) := by
  have mark : Ends ('e' :: rest) := by simp [Ends]
  obtain ⟨taken, left⟩ := digitsTaken digits mark
  rw [decimalOf, taken, left, pointed]
  · simp
  · rintro _ ⟨⟩

theorem exponentRead (exponent : Int) : exponentOf ('e' :: (exponentText exponent).toList) = exponent := by
  have size : digitsValue ((if exponent.natAbs < 10 then "0" else "") ++ toString exponent.natAbs).toList =
      exponent.natAbs := by
    have digits : digitsValue (toString exponent.natAbs).toList = exponent.natAbs := by
      rw [Syntax.naturalChars, Syntax.digitsValueNatural]
    rw [String.toList_append, valueDigits, digits]
    split
    · exact (congrArg (· + _) (Nat.zero_mul _)).trans (Nat.zero_add _)
    · exact (congrArg (· + _) (Nat.zero_mul _)).trans (Nat.zero_add _)
  have parted : exponentText exponent = (if exponent < 0 then "-" else "+") ++
      ((if exponent.natAbs < 10 then "0" else "") ++ toString exponent.natAbs) := String.append_assoc ..
  have minus (cs : List Char) : exponentOf ('e' :: ("-".toList ++ cs)) = -digitsValue cs := rfl
  have plus (cs : List Char) : exponentOf ('e' :: ("+".toList ++ cs)) = digitsValue cs := rfl
  rw [parted, String.toList_append]
  split
  · rw [minus, size]
    omega
  · rw [plus, size]
    omega

end Layouts

section Texts

variable {d : Decimal}

theorem zerosPushed (n : Nat) : ("".pushn '0' n).toList = List.replicate n '0' := by
  rw [String.pushn_eq_repeat_push]
  induction n with
  | zero => rfl
  | succ n ih => rw [Nat.repeat, String.toList_push, ih, List.replicate_succ']

theorem zeroDigits (n : Nat) : ∀ c ∈ List.replicate n '0', c.isDigit = true := by
  intro c mem
  rw [List.eq_of_mem_replicate mem]
  rfl

theorem zeroDigit : ∀ c ∈ ['0'], c.isDigit = true := zeroDigits 1

theorem digitsJoined {cs ds : List Char} (first : ∀ c ∈ cs, c.isDigit = true)
    (second : ∀ c ∈ ds, c.isDigit = true) :
    ∀ c ∈ cs ++ ds, c.isDigit = true :=
  List.forall_mem_append.mpr ⟨first, second⟩

theorem ending : Ends [] := by simp [Ends]

theorem lowText (proper : d.Proper) (low : d.point ≤ 0) :
    decimalOf ("0." ++ "".pushn '0' (-d.point).toNat ++ digitText d.digits).toList = d.worth := by
  have chars : ("0." ++ "".pushn '0' (-d.point).toNat ++ digitText d.digits).toList =
      ['0'] ++ '.' :: (List.replicate (-d.point).toNat '0' ++ d.chars ++ []) := by
    rw [String.toList_append, String.toList_append, zerosPushed, digitTextChars, List.append_nil]
    rfl
  have value : digitsValue (['0'] ++ (List.replicate (-d.point).toNat '0' ++ d.chars)) = digitsValue d.chars := by
    rw [← List.append_assoc, ← List.replicate_one, ← List.replicate_add, valueDigits, zerosWorthless, Nat.zero_mul,
      Nat.zero_add]
  have size : d.chars.length = d.digits.length := List.length_map ..
  rw [chars, decimalPointed zeroDigit (digitsJoined (zeroDigits _) proper.each) ending, value, Decimal.worth,
    List.length_append, List.length_replicate, size]
  congr 2
  simp only [exponentOf]
  omega

theorem wholeText (proper : d.Proper) (high : d.digits.length ≤ d.point) :
    decimalOf (digitText d.digits ++ "".pushn '0' (d.point - d.digits.length).toNat ++ ".0").toList = d.worth := by
  have chars : (digitText d.digits ++ "".pushn '0' (d.point - d.digits.length).toNat ++ ".0").toList =
      (d.chars ++ List.replicate (d.point - d.digits.length).toNat '0') ++ '.' :: (['0'] ++ []) := by
    rw [String.toList_append, String.toList_append, zerosPushed, digitTextChars]
    rfl
  rw [chars, decimalPointed (digitsJoined proper.each (zeroDigits _)) zeroDigit ending, Decimal.worth,
    valueDigits _ ['0'], valueDigits d.chars, zerosWorthless, List.length_replicate]
  have zero : digitsValue ['0'] = 0 := rfl
  rw [zero, Nat.add_zero, Nat.add_zero, List.length_singleton, ← toNatPower 10 (sub_nonneg.mpr high)]
  push_cast
  simp only [exponentOf]
  norm_num
  ring

theorem middleText (proper : d.Proper) (low : 0 < d.point) (high : d.point < d.digits.length) :
    decimalOf (digitText (d.digits.take d.point.toNat) ++ "." ++ digitText (d.digits.drop d.point.toNat)).toList =
      d.worth := by
  have chars : (digitText (d.digits.take d.point.toNat) ++ "." ++ digitText (d.digits.drop d.point.toNat)).toList =
      d.chars.take d.point.toNat ++ '.' :: (d.chars.drop d.point.toNat ++ []) := by
    rw [String.toList_append, String.toList_append, digitTextChars, digitTextChars, List.append_nil, Decimal.chars,
      digitChars, digitChars, digitChars, List.map_take, List.map_drop]
    simp
  rw [chars, decimalPointed (fun c mem => proper.each c (List.mem_of_mem_take mem))
    (fun c mem => proper.each c (List.mem_of_mem_drop mem)) ending, List.take_append_drop, Decimal.worth]
  have size : d.chars.length = d.digits.length := List.length_map ..
  congr 2
  rw [List.length_drop, size]
  simp only [exponentOf]
  omega

theorem scaledText (proper : d.Proper) :
    decimalOf (digitText (d.digits.take 1) ++ (if (d.digits.drop 1).isEmpty then "" else
      "." ++ digitText (d.digits.drop 1)) ++ "e" ++ exponentText (d.point - 1)).toList = d.worth := by
  obtain ⟨first, more, same⟩ := List.exists_cons_of_ne_nil proper.some
  have each := proper.each
  rw [Decimal.chars, same] at each
  rw [Decimal.worth, Decimal.chars, same]
  have split : digitChars (first :: more) = digitChars [first] ++ digitChars more := rfl
  rw [split] at each ⊢
  obtain ⟨digit, digits⟩ := List.forall_mem_append.mp each
  simp only [String.toList_append, digitTextChars, List.drop_succ_cons, List.drop_zero, List.take_succ_cons,
    List.take_zero]
  have power (k : Int) : k - ((first :: more).length : Int) = k - 1 - more.length := by
    rw [List.length_cons]
    omega
  cases more with
  | nil =>
    have chars : digitChars [first] ++ (if ([] : List Nat).isEmpty then "" else "." ++ digitText []).toList ++
        "e".toList ++ (exponentText (d.point - 1)).toList =
        digitChars [first] ++ 'e' :: (exponentText (d.point - 1)).toList := by
      simp
    rw [chars, decimalScaled digit, exponentRead, power]
    simp [digitChars]
  | cons second more =>
    have chars : digitChars [first] ++
        (if (second :: more).isEmpty then "" else "." ++ digitText (second :: more)).toList ++
        "e".toList ++ (exponentText (d.point - 1)).toList =
        digitChars [first] ++ '.' :: (digitChars (second :: more) ++ 'e' :: (exponentText (d.point - 1)).toList) := by
      simp [digitTextChars]
    rw [chars, decimalPointed digit digits (by simp [Ends]), exponentRead, power, digitChars, digitChars,
      List.length_map]

theorem decimalText (proper : d.Proper) : decimalOf (d.text .alone).toList = d.worth := by
  rw [Decimal.text]
  split
  · split
    · exact lowText proper (by assumption)
    · split
      · exact wholeText proper (by assumption)
      · exact middleText proper (by omega) (by omega)
  · exact scaledText proper

def Numeric (c : Char) : Prop := c.isDigit = true ∨ c ∈ ['.', 'e', '+', '-', 'i', 'n', 'f', 'a']

theorem digitsNumeric {cs : List Char} (digits : ∀ c ∈ cs, c.isDigit = true) : ∀ c ∈ cs, Numeric c :=
  fun c mem => .inl (digits c mem)

theorem naturalNumeric (n : Nat) : ∀ c ∈ (toString n).toList, Numeric c := by
  rw [Syntax.naturalChars]
  exact digitsNumeric (Syntax.naturalDigits n).1

theorem exponentNumeric (exponent : Int) : ∀ c ∈ (exponentText exponent).toList, Numeric c := by
  rw [exponentText, String.toList_append, String.toList_append]
  refine List.forall_mem_append.mpr ⟨List.forall_mem_append.mpr ⟨?_, ?_⟩, naturalNumeric _⟩
  · split <;> simp [Numeric]
  · split <;> simp [Numeric, Char.isDigit]

theorem textNumeric (proper : d.Proper) : ∀ c ∈ (d.text .alone).toList, Numeric c := by
  have digits := digitsNumeric proper.each
  have first (n : Nat) : ∀ c ∈ digitChars (d.digits.take n), Numeric c := by
    rw [digitChars, List.map_take]
    exact fun c mem => digits c (List.mem_of_mem_take mem)
  have later (n : Nat) : ∀ c ∈ digitChars (d.digits.drop n), Numeric c := by
    rw [digitChars, List.map_drop]
    exact fun c mem => digits c (List.mem_of_mem_drop mem)
  have point : ∀ c ∈ ".".toList, Numeric c := by simp [Numeric]
  have mark : ∀ c ∈ "e".toList, Numeric c := by simp [Numeric]
  have zero : ∀ c ∈ "0.".toList, Numeric c := by simp [Numeric, Char.isDigit]
  have zero' : ∀ c ∈ ".0".toList, Numeric c := by simp [Numeric, Char.isDigit]
  have zeros (n : Nat) := digitsNumeric (zeroDigits n)
  have layouts : ∀ {a b : String}, (∀ c ∈ a.toList, Numeric c) → (∀ c ∈ b.toList, Numeric c) →
      ∀ c ∈ (a ++ b).toList, Numeric c := fun left right => by
    rw [String.toList_append]
    exact List.forall_mem_append.mpr ⟨left, right⟩
  simp only [← digitTextChars] at first later
  rw [Decimal.text]
  dsimp only
  split
  · split
    · refine layouts (layouts zero ?_) ?_
      · rw [zerosPushed]
        exact zeros _
      · rw [digitTextChars]
        exact digits
    · split
      · refine layouts (layouts ?_ ?_) zero'
        · rw [digitTextChars]
          exact digits
        · rw [zerosPushed]
          exact zeros _
      · exact layouts (layouts (first _) point) (later _)
  · refine layouts (layouts (layouts (first _) ?_) mark) (exponentNumeric _)
    split
    · simp
    · exact layouts point (later _)

/- Every layout has a point or an exponent. -/
theorem textMarked (d : Decimal) : ∃ c ∈ (d.text .alone).toList, c.isDigit = false := by
  rw [Decimal.text]
  dsimp only
  split
  · split
    · exact ⟨'.', by simp, rfl⟩
    · split
      · exact ⟨'.', by simp [Layout.alone], rfl⟩
      · exact ⟨'.', by simp, rfl⟩
  · exact ⟨'e', by simp, rfl⟩

end Texts

section Floats

variable {m m' : Nat} {e e' : Int}

def sizeText (m : Nat) (e : Int) : String := if m == 0 then "0.0" else (shortest m e).text .alone

theorem zeroText (e : Int) : (sizeText 0 e).toList = ['0', '.', '0'] := by simp [sizeText]

theorem finiteText {x : Float} {negative : Bool} (same : parts x = .finite negative m e) :
    floatText .alone x = (if negative then "-" else "") ++ sizeText m e := by
  rw [floatText, same]
  rfl

theorem infiniteText {x : Float} {negative : Bool} (same : parts x = .infinite negative) :
    floatText .alone x = if negative then "-inf" else "inf" := by
  rw [floatText, same]

theorem sizeWorth (ranged : Ranged m e) : m = 0 ∧ decimalOf (sizeText m e).toList = 0 ∨
    0 < m ∧ Inside m e (4 * decimalOf (sizeText m e).toList / 2 ^ e) := by
  rcases Nat.eq_zero_or_pos m with rfl | positive
  · have zero : decimalOf (['0'] ++ '.' :: (['0'] ++ [])) = 0 := by
      rw [decimalPointed zeroDigit zeroDigit ending, ← List.replicate_one, ← List.replicate_add, zerosWorthless,
        Nat.cast_zero, zero_mul]
    rw [zeroText]
    exact .inl ⟨rfl, zero⟩
  · obtain ⟨n, power, found, same⟩ := shortestFound ranged positive
    have contains := gridInside found
    have proper := strippedProper (lowestInside positive contains) power
    rw [sizeText, if_neg (by simpa using positive.ne'), same, decimalText proper, strippedWorth]
    exact .inr ⟨positive, containsInside positive contains⟩

theorem insidePositive {v : ℚ} (positive : 0 < m) (inside : Inside m e (4 * v / 2 ^ e)) : v ≠ 0 := by
  rintro rfl
  have some : (1 : ℚ) ≤ m := by exact_mod_cast positive
  have low := inside.low
  rw [mul_zero, zero_div] at low
  split at low <;> linarith

theorem sizeInjective (ranged : Ranged m e) (ranged' : Ranged m' e') (same : sizeText m e = sizeText m' e') :
    m = m' ∧ e = e' := by
  have first := sizeWorth ranged
  have second := sizeWorth ranged'
  rw [← same] at second
  have lowest {e : Int} (ranged : Ranged 0 e) : e = -1074 := ranged.full.resolve_right (by decide)
  rcases first with ⟨rfl, none⟩ | ⟨positive, inside⟩ <;> rcases second with ⟨rfl, none'⟩ | ⟨positive', inside'⟩
  · exact ⟨rfl, (lowest ranged).trans (lowest ranged').symm⟩
  · exact absurd none (insidePositive positive' inside')
  · exact absurd none' (insidePositive positive inside)
  · exact intervalsApart ranged ranged' inside inside'

theorem sizeBegins (ranged : Ranged m e) {c : Char} {cs : List Char} (chars : (sizeText m e).toList = c :: cs) :
    c ≠ '-' ∧ c ≠ 'i' := by
  have worth := sizeWorth ranged
  have letter (other : c = '-' ∨ c = 'i') : False := by
    have worthless : decimalOf (sizeText m e).toList = 0 := by
      rw [chars]
      rcases other with rfl | rfl <;> simp [decimalOf, pointed, digitsValue]
    rcases worth with ⟨rfl, -⟩ | ⟨positive, inside⟩
    · have first : '0' = c := (List.cons.inj ((zeroText e).symm.trans chars)).1
      rcases other with rfl | rfl <;> exact absurd first (by decide)
    · exact insidePositive positive inside worthless
  exact ⟨fun other => letter (.inl other), fun other => letter (.inr other)⟩

inductive Sized : Parts → Bool → String → Prop where
  | infinite {negative} : Sized (.infinite negative) negative "inf"
  | finite {negative m e} (ranged : Ranged m e) : Sized (.finite negative m e) negative (sizeText m e)

theorem sizedText {x : Float} (defined : parts x ≠ .undefined) :
    ∃ negative body,
      Sized (parts x) negative body ∧ floatText .alone x = (if negative then "-" else "") ++ body := by
  rcases same : parts x with _ | negative | ⟨negative, m, e⟩
  · exact absurd same defined
  · refine ⟨negative, _, .infinite, ?_⟩
    rw [infiniteText same]
    cases negative <;> rfl
  · exact ⟨negative, _, .finite (partsRanged same), finiteText same⟩

theorem sizedUnsigned {p : Parts} {negative : Bool} {body : String} (sized : Sized p negative body) (cs : List Char) :
    body.toList ≠ '-' :: cs := by
  intro chars
  cases sized with
  | infinite =>
    have first : 'i' = '-' := (List.cons.inj chars).1
    exact absurd first (by decide)
  | finite ranged => exact (sizeBegins ranged chars).1 rfl

theorem sizedInjective {p p' : Parts} {negative : Bool} {body : String} (first : Sized p negative body)
    (second : Sized p' negative body) : p = p' := by
  have apart {m : Nat} {e : Int} (ranged : Ranged m e) : "inf" ≠ sizeText m e :=
    fun same => (sizeBegins ranged (congrArg String.toList same).symm).2 rfl
  generalize same : body = body' at second
  cases first with
  | infinite =>
    cases second with
    | infinite => rfl
    | finite ranged => exact absurd same (apart ranged)
  | finite ranged =>
    cases second with
    | infinite => exact absurd same.symm (apart ranged)
    | finite ranged' =>
      obtain ⟨rfl, rfl⟩ := sizeInjective ranged ranged' same
      rfl

/- Different numbers have different texts. -/
theorem floatTextInjective {x y : Float} (defined : parts x ≠ .undefined) (defined' : parts y ≠ .undefined)
    (same : floatText .alone x = floatText .alone y) : x = y := by
  obtain ⟨negative, body, sized, text⟩ := sizedText defined
  obtain ⟨negative', body', sized', text'⟩ := sizedText defined'
  have chars := congrArg String.toList (text.symm.trans (same.trans text'))
  rw [String.toList_append, String.toList_append] at chars
  have signs : negative = negative' := by
    cases negative <;> cases negative'
    · rfl
    · exact absurd chars (sizedUnsigned sized _)
    · exact absurd chars.symm (sizedUnsigned sized' _)
    · rfl
  subst signs
  cases String.toList_inj.mp (List.append_cancel_left chars)
  exact partsInjective (sizedInjective sized sized') defined

theorem sizeNumeric (ranged : Ranged m e) : ∀ c ∈ (sizeText m e).toList, Numeric c := by
  rcases Nat.eq_zero_or_pos m with rfl | positive
  · simp [zeroText, Numeric, Char.isDigit]
  · obtain ⟨n, power, found, same⟩ := shortestFound ranged positive
    rw [sizeText, if_neg (by simpa using positive.ne'), same]
    exact textNumeric (strippedProper (lowestInside positive (gridInside found)) power)

theorem sizeMarked (m : Nat) (e : Int) : ∃ c ∈ (sizeText m e).toList, c.isDigit = false := by
  rw [sizeText]
  split
  · exact ⟨'.', by simp, rfl⟩
  · exact textMarked _

theorem floatTextNumeric {x : Float} (defined : parts x ≠ .undefined) :
    (∀ c ∈ (floatText .alone x).toList, Numeric c) ∧ ∃ c ∈ (floatText .alone x).toList, c.isDigit = false := by
  obtain ⟨negative, body, sized, text⟩ := sizedText defined
  have inner : (∀ c ∈ body.toList, Numeric c) ∧ ∃ c ∈ body.toList, c.isDigit = false := by
    generalize parts x = p at sized
    cases sized with
    | infinite => exact ⟨by simp [Numeric], 'i', by simp, rfl⟩
    | finite ranged => exact ⟨sizeNumeric ranged, sizeMarked ..⟩
  obtain ⟨numeric, c, mem, mark⟩ := inner
  rw [text, String.toList_append]
  refine ⟨List.forall_mem_append.mpr ⟨?_, numeric⟩, c, List.mem_append_right _ mem, mark⟩
  cases negative <;> simp [Numeric]

end Floats

end CallScript.Number

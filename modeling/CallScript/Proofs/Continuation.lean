import CallScript.Proofs.Tokens

/-! Texts that go on otherwise. What was read of a text up to a place is read of it in the same way when another
text follows there, if only that text begins with something that stops a token: no terminal that was found
reaches further, and white space before and after the place is passed over in one go. Only a comment that ends
at the place takes in what follows, up to the end of the line. -/
namespace CallScript.Syntax

def Halts (rest : List Char) : Prop :=
  Ends rest ∨ ∃ more, rest = ';' :: more

theorem haltsTakeWhile {f : Char → Bool} {rest} (halts : Halts rest)
    (outside : ∀ c ∈ [' ', '\t', '\r', '\n', '#'], f c = false) (semicolon : f ';' = false) :
    rest.takeWhile f = [] := by
  rcases halts with ends | ⟨more, rfl⟩
  · exact endsTakeWhile ends outside
  · rw [List.takeWhile_cons, semicolon]
    rfl

theorem haltsNot {rest more c} (halts : Halts rest) (outside : c ∉ [' ', '\t', '\r', '\n', '#', ';']) :
    rest ≠ c :: more := by
  rcases halts with ends | ⟨more, rfl⟩
  · exact endsNot ends (fun mem => outside (List.mem_append_left [';'] mem))
  · rintro ⟨⟩
    exact outside (by simp)

section Widths

variable {cs rest rest' : List Char}

theorem takeWhileLater {f : Char → Bool} (short : ((cs ++ rest).takeWhile f).length ≤ cs.length)
    (stop : rest'.takeWhile f = []) : (cs ++ rest').takeWhile f = (cs ++ rest).takeWhile f := by
  induction cs with
  | nil => exact stop.trans (List.eq_nil_of_length_eq_zero (Nat.le_zero.mp short)).symm
  | cons c cs ih =>
    simp only [List.cons_append, List.takeWhile_cons] at short ⊢
    split
    · rename_i inside
      simp only [inside, if_true, List.length_cons] at short
      rw [ih (Nat.le_of_succ_le_succ short)]
    · rfl

theorem digitsLater (short : digitsWidth (cs ++ rest) ≤ cs.length) (halts : Halts rest') :
    digitsWidth (cs ++ rest') = digitsWidth (cs ++ rest) :=
  congrArg List.length (takeWhileLater short (haltsTakeWhile halts gapsNoDigit rfl))

theorem nameLater (short : nameWidth (cs ++ rest) ≤ cs.length) (halts : Halts rest') :
    nameWidth (cs ++ rest') = nameWidth (cs ++ rest) := by
  cases cs with
  | nil =>
    have none : nameWidth rest' = 0 := by
      rcases halts with (rfl | ⟨c, mem, more, rfl⟩) | ⟨more, rfl⟩
      · rfl
      · simp [nameWidth, (gapsNoName c mem).1]
      · rfl
    exact none.trans (Nat.le_zero.mp short).symm
  | cons c cs =>
    simp only [List.cons_append, nameWidth, List.length_cons] at short ⊢
    by_cases start : isNameStart c = true
    · simp only [if_pos start] at short ⊢
      have part : ((cs ++ rest).takeWhile isNamePart).length ≤ cs.length := by omega
      rw [takeWhileLater part (haltsTakeWhile halts (fun d mem => (gapsNoName d mem).2) rfl)]
    · simp only [if_neg start]

theorem variableLater (short : variableWidth (cs ++ rest) ≤ cs.length) (halts : Halts rest') :
    variableWidth (cs ++ rest') = variableWidth (cs ++ rest) := by
  cases cs with
  | nil =>
    have other : ∀ more, rest' ≠ '$' :: more := fun more => haltsNot halts (by decide)
    exact (variableWidth.eq_2 _ other).trans (Nat.le_zero.mp short).symm
  | cons c cs =>
    by_cases dollar : c = '$'
    · subst dollar
      simp only [List.cons_append, variableWidth, List.length_cons] at short ⊢
      have name : nameWidth (cs ++ rest) ≤ cs.length := by
        split at short <;> omega
      rw [nameLater name halts]
    · rw [List.cons_append, variableWidth.eq_2 _ (by simp [dollar]), List.cons_append,
        variableWidth.eq_2 _ (by simp [dollar])]

theorem exponentHalted (halts : Halts rest') : exponentWidth rest' = 0 := by
  rcases halts with ends | ⟨more, rfl⟩
  · exact exponentNone ends
  · rfl

theorem letterHalted (c : Char) (halts : Halts rest') : exponentWidth (c :: rest') = 0 := by
  have digits : digitsWidth rest' = 0 := by
    rw [digitsWidth, haltsTakeWhile halts gapsNoDigit rfl]
    rfl
  cases rest' with
  | nil => simp [exponentWidth]
  | cons s more =>
    have plus : s ≠ '+' := fun same => haltsNot halts (by decide) (congrArg (· :: more) same)
    have minus : s ≠ '-' := fun same => haltsNot halts (by decide) (congrArg (· :: more) same)
    simp [exponentWidth, plus, minus, digits]

theorem exponentLong (cs : List Char) : exponentWidth cs = 0 ∨ 2 ≤ exponentWidth cs := by
  unfold exponentWidth
  repeat' split
  all_goals omega

theorem exponentLater (short : exponentWidth (cs ++ rest) ≤ cs.length) (halts : Halts rest') :
    exponentWidth (cs ++ rest') = exponentWidth (cs ++ rest) := by
  rcases cs with _ | ⟨c, _ | ⟨s, more⟩⟩
  · exact (exponentHalted halts).trans (Nat.le_zero.mp short).symm
  · have none : exponentWidth (c :: rest) = 0 := (exponentLong _).resolve_right (Nat.not_le_of_lt (Nat.lt_succ_of_le short))
    exact (letterHalted c halts).trans none.symm
  · simp only [List.cons_append, exponentWidth, List.length_cons] at short ⊢
    by_cases letter : (c == 'e' || c == 'E') = true
    · by_cases sign : (s == '+' || s == '-') = true
      · simp only [letter, sign, if_true] at short ⊢
        have digits : digitsWidth (more ++ rest) ≤ more.length := by split at short <;> omega
        rw [digitsLater digits halts]
      · simp only [letter, sign, if_true] at short ⊢
        have digits : digitsWidth (s :: more ++ rest) ≤ (s :: more).length := by
          simp only [List.cons_append, List.length_cons]
          rw [if_neg (by decide)] at short
          split at short <;> omega
        have same : digitsWidth (s :: (more ++ rest')) = digitsWidth (s :: (more ++ rest)) := digitsLater digits halts
        rw [same]
        rfl
    · simp only [letter]
      rfl

theorem wholeShort (cs : List Char) : digitsWidth cs ≤ mantissaWidth cs := by
  simp only [mantissaWidth]
  repeat' split
  all_goals omega

theorem mantissaLater (short : mantissaWidth (cs ++ rest) ≤ cs.length) (halts : Halts rest') :
    mantissaWidth (cs ++ rest') = mantissaWidth (cs ++ rest) := by
  have whole : digitsWidth (cs ++ rest) ≤ cs.length := Nat.le_trans (wholeShort _) short
  have dropped (more : List Char) : (cs ++ more).drop (digitsWidth (cs ++ rest)) =
      cs.drop (digitsWidth (cs ++ rest)) ++ more := List.drop_append_of_le_length whole
  simp only [mantissaWidth, digitsLater whole halts, dropped] at short ⊢
  generalize digitsWidth (cs ++ rest) = count at short whole ⊢
  generalize split : cs.drop count = tail at short ⊢
  have length : tail.length = cs.length - count := by rw [← split, List.length_drop]
  cases tail with
  | nil =>
    simp only [List.nil_append, List.length_nil] at short length ⊢
    split
    · exact absurd rfl (haltsNot halts (by decide))
    · -- Were there a point, it would belong to what stands before it.
      split at short
      · by_cases none : count = 0
        · rw [if_pos none] at short ⊢
          split at short
          · rename_i bare
            rw [if_pos bare, none]
          · omega
        · rw [if_neg none] at short
          omega
      · rfl
  | cons c more =>
    by_cases point : c = '.'
    · subst point
      simp only [List.cons_append, List.length_cons] at short length ⊢
      have digits : digitsWidth (more ++ rest) ≤ more.length := by
        repeat' split at short
        all_goals omega
      rw [digitsLater digits halts]
    · simp [point]

theorem numberLater (short : numberWidth (cs ++ rest) ≤ cs.length) (halts : Halts rest') :
    numberWidth (cs ++ rest') = numberWidth (cs ++ rest) := by
  have mantissa : mantissaWidth (cs ++ rest) ≤ cs.length := by
    simp only [numberWidth] at short
    split at short <;> omega
  have dropped (more : List Char) : (cs ++ more).drop (mantissaWidth (cs ++ rest)) =
      cs.drop (mantissaWidth (cs ++ rest)) ++ more := List.drop_append_of_le_length mantissa
  simp only [numberWidth, mantissaLater mantissa halts, dropped] at short ⊢
  split
  · rfl
  · rename_i some
    have exponent : exponentWidth (cs.drop (mantissaWidth (cs ++ rest)) ++ rest) ≤
        (cs.drop (mantissaWidth (cs ++ rest))).length := by
      rw [if_neg some] at short
      rw [List.length_drop]
      omega
    rw [exponentLater exponent halts]

def stopless (s : List Char) : Bool :=
  s.tail.all (fun c => !List.contains [' ', '\t', '\r', '\n', '#', ';'] c)

theorem operatorsStopless : ∀ op ∈ Operator.known, stopless op.symbol.toList = true := by
  decide

theorem spellingWithin {s : List Char} (solid : stopless s = true) (some : cs ≠ []) (halts : Halts rest')
    (spelled : s <+: cs ++ rest') : s <+: cs := by
  rcases List.prefix_or_prefix_of_prefix spelled (List.prefix_append cs rest') with within | beyond
  · exact within
  · obtain ⟨more, rfl⟩ := beyond
    obtain ⟨tail, follows⟩ := (List.prefix_append_right_inj cs).mp spelled
    obtain ⟨d, cs, rfl⟩ := List.exists_cons_of_ne_nil some
    cases more with
    | nil => simp
    | cons c more =>
      simp only [stopless, List.cons_append, List.tail_cons, List.all_append, List.all_cons, Bool.and_eq_true] at solid
      have outside : c ∉ [' ', '\t', '\r', '\n', '#', ';'] := by simpa using solid.2.1
      exact absurd follows.symm (haltsNot halts outside)

theorem spelledLater {s : List Char} (solid : stopless s = true) (some : cs ≠ [])
    (short : spelledWidth s (cs ++ rest) ≤ cs.length) (halts : Halts rest') :
    spelledWidth s (cs ++ rest') = spelledWidth s (cs ++ rest) := by
  have same : s.isPrefixOf (cs ++ rest') = s.isPrefixOf (cs ++ rest) := by
    rw [Bool.eq_iff_iff, List.isPrefixOf_iff_prefix, List.isPrefixOf_iff_prefix]
    constructor
    · intro spelled
      exact (spellingWithin solid some halts spelled).trans (List.prefix_append cs rest)
    · intro spelled
      rw [spelledWidth, if_pos (List.isPrefixOf_iff_prefix.mpr spelled)] at short
      have within := List.prefix_of_prefix_length_le spelled (List.prefix_append cs rest) short
      exact within.trans (List.prefix_append cs rest')
  rw [spelledWidth, same, spelledWidth]

theorem wordLater (word : List Char) (short : nameWidth (cs ++ rest) ≤ cs.length) (halts : Halts rest') :
    wordWidth word (cs ++ rest') = wordWidth word (cs ++ rest) := by
  rw [wordWidth, nameLater short halts, List.take_append_of_le_length short, wordWidth,
    List.take_append_of_le_length short]

/- Of all terminals only a text that is still open, or a name that goes on, could stand there otherwise. -/
theorem widthLater (some : cs ≠ []) (closed : textWidth (cs ++ rest') = textWidth (cs ++ rest))
    (name : nameWidth (cs ++ rest) ≤ cs.length) (halts : Halts rest') :
    ∀ kind ∈ Terminal.all, kind.width (cs ++ rest) ≤ cs.length → kind.width (cs ++ rest') = kind.width (cs ++ rest) := by
  intro kind known short
  cases kind with
  | number => exact numberLater short halts
  | text => exact closed
  | «variable» => exact variableLater short halts
  | name => exact nameLater short halts
  | falseWord | trueWord => exact wordLater _ name halts
  | operator op => exact spelledLater (operatorsStopless op (operatorKnown known)) some short halts
  | ending => rfl
  | _ => exact spelledLater (by decide) some short halts

end Widths

theorem quoteOpens {q : Char} (quote : q = '"' ∨ q = '\x27') (cs : List Char) :
    ∀ kind ∈ Terminal.all, kind = .text ∨ kind.width (q :: cs) = 0 := by
  have operators : ∀ op ∈ Operator.known, op.symbol.toList.isPrefixOf (q :: cs) = false := by
    rcases quote with rfl | rfl <;>
      simp only [Operator.known, List.forall_mem_cons] <;>
      exact ⟨rfl, rfl, rfl, rfl, rfl, rfl, rfl, rfl, rfl, rfl, rfl, rfl, rfl, rfl, by simp⟩
  intro kind known
  cases kind with
  | text => exact .inl rfl
  | operator op =>
    right
    simp [Terminal.width, spelledWidth, operators op (operatorKnown known)]
  | _ => rcases quote with rfl | rfl <;> exact .inr rfl

theorem textClosed {wanted cs rest kind} (first : Terminal.at? wanted (cs ++ rest) = some kind)
    (short : kind.width (cs ++ rest) ≤ cs.length) (rest' : List Char) :
    textWidth (cs ++ rest') = textWidth (cs ++ rest) := by
  have stands := Terminal.width_pos_of_at? first
  have known := List.mem_of_find?_eq_some first
  cases cs with
  | nil => exact absurd (Nat.lt_of_lt_of_le stands short) (Nat.lt_irrefl 0)
  | cons c cs =>
    by_cases quote : c = '"' ∨ c = '\x27'
    · rcases quoteOpens quote (cs ++ rest) kind known with rfl | zero
      · obtain ⟨s, more, split, taken, quotation⟩ := textTaken stands
        have within : s <+: c :: cs := by
          refine List.prefix_of_prefix_length_le ⟨more, split.symm⟩ (List.prefix_append _ rest) ?_
          rw [← taken]
          exact short
        obtain ⟨tail, same⟩ := within
        rw [List.cons_append] at stands
        rw [← same, List.append_assoc, List.append_assoc, (textWhole quotation _).1, (textWhole quotation _).1]
      · rw [List.cons_append, zero] at stands
        cases stands
    · have none (more : List Char) : textWidth (c :: more) = 0 :=
        textWidth.eq_3 _ (by rintro _ ⟨⟩; exact quote (.inl rfl)) (by rintro _ ⟨⟩; exact quote (.inr rfl))
      rw [List.cons_append, none, List.cons_append, none]

theorem symbolsNameless : ∀ op ∈ Operator.known,
    op.symbol.toList.head?.all (fun c => !isNameStart c) = true := by
  decide

theorem nameReach {kind : Terminal} {c cs} (start : isNameStart c = true) (known : kind ∈ Terminal.all)
    (stands : 0 < kind.width (c :: cs)) : kind.width (c :: cs) = nameWidth (c :: cs) := by
  obtain ⟨number, quote, dollar⟩ := @nameStartElsewhere c cs start
  have spelled {s : List Char} (nameless : s.head?.all (fun c => !isNameStart c) = true)
      (stands : 0 < spelledWidth s (c :: cs)) : False := by
    obtain ⟨more, split, taken⟩ := spelledTaken stands
    cases s with
    | nil => exact absurd stands (by rw [taken]; exact Nat.lt_irrefl 0)
    | cons d s =>
      cases split
      simp [start] at nameless
  cases kind with
  | number => exact absurd stands (by rw [Terminal.width, number]; exact Nat.lt_irrefl 0)
  | text => exact absurd stands (by rw [Terminal.width, quote]; exact Nat.lt_irrefl 0)
  | «variable» => exact absurd stands (by rw [Terminal.width, dollar]; exact Nat.lt_irrefl 0)
  | name => rfl
  | falseWord | trueWord =>
    simp only [Terminal.width, wordWidth] at stands ⊢
    split at stands
    · rename_i same
      rw [if_pos same]
    · cases stands
  | operator op => exact (spelled (symbolsNameless op (operatorKnown known)) stands).elim
  | ending => cases stands
  | _ => exact (spelled (by decide) stands).elim

theorem nameWithin {wanted cs rest kind} (first : Terminal.at? wanted (cs ++ rest) = some kind)
    (short : kind.width (cs ++ rest) ≤ cs.length) : nameWidth (cs ++ rest) ≤ cs.length := by
  have stands := Terminal.width_pos_of_at? first
  cases cs with
  | nil => exact absurd (Nat.lt_of_lt_of_le stands short) (Nat.lt_irrefl 0)
  | cons c cs =>
    by_cases start : isNameStart c = true
    · have whole := nameReach start (List.mem_of_find?_eq_some first) stands
      exact whole ▸ short
    · rw [List.cons_append, nameWidth, if_neg start]
      exact Nat.zero_le _

theorem foundLater {wanted cs rest rest' kind} (first : Terminal.at? wanted (cs ++ rest) = some kind)
    (short : kind.width (cs ++ rest) ≤ cs.length) (halts : Halts rest') :
    Terminal.at? wanted (cs ++ rest') = some kind ∧ kind.width (cs ++ rest') = kind.width (cs ++ rest) := by
  have stands := Terminal.width_pos_of_at? first
  have some : cs ≠ [] := by
    rintro rfl
    exact absurd (Nat.lt_of_lt_of_le stands short) (Nat.lt_irrefl 0)
  have same := widthLater some (textClosed first short rest') (nameWithin first short) halts
  have width := same kind (List.mem_of_find?_eq_some first) short
  refine ⟨?_, width⟩
  obtain ⟨fits, before, after, all, earlier⟩ := List.find?_eq_some_iff_append.mp first
  refine List.find?_eq_some_iff_append.mpr ⟨by rwa [width], before, after, all, fun k mem => ?_⟩
  have none := earlier k mem
  by_cases wants : wanted k = true
  · have zero : k.width (cs ++ rest) = 0 := by simpa [wants] using none
    have known : k ∈ Terminal.all := by
      rw [all]
      exact List.mem_append_left _ mem
    rw [same k known (zero ▸ Nat.zero_le _)]
    exact none
  · simp [wants]

theorem gapSkipped {gap : List Char} (some : gap ≠ []) (all : ∀ c ∈ gap, Text.isGap c = true)
    (more : List Char) : skippedWidth (gap ++ more) = gap.length + (more.takeWhile Text.isGap).length := by
  cases gap with
  | nil => exact absurd rfl some
  | cons c gap =>
    have comment : ∀ rest, c :: (gap ++ more) ≠ '#' :: rest := by
      rintro rest ⟨⟩
      exact absurd (all '#' (by simp)) (by decide)
    rw [List.cons_append, skippedWidth.eq_2 _ comment, ← List.cons_append, List.takeWhile_append_of_pos all,
      List.length_append]

def Reading.Accepts (r : Reading) (cs : List Char) (tree : Tree Lexeme) : Prop :=
  ∃ ts r', Reads r cs ts r' [] ∧ r'.finish = some tree

theorem acceptsSkip {r : Reading} {cs tree} (gap : 0 < skippedWidth cs)
    (rest : r.Accepts (cs.drop (skippedWidth cs)) tree) : r.Accepts cs tree := by
  obtain ⟨ts, r', reads, finish⟩ := rest
  exact ⟨ts, r', .skip gap reads, finish⟩

theorem acceptsTake {r next : Reading} {kind cs tree} (dense : skippedWidth cs = 0)
    (first : Terminal.at? r.phase.wants cs = some kind) (step : r.step (tokenAt kind cs) = some next)
    (rest : next.Accepts (cs.drop (kind.width cs)) tree) : r.Accepts cs tree := by
  obtain ⟨ts, r', reads, finish⟩ := rest
  exact ⟨_, r', .take dense first step reads, finish⟩

theorem readsGap {r r' more ts} {gap : List Char} (all : ∀ c ∈ gap, Text.isGap c = true)
    (reads : Reads r more ts r' []) : Reads r (gap ++ more) ts r' [] := by
  by_cases none : gap = []
  · rwa [none]
  · have skipped := gapSkipped none all more
    have long : 0 < gap.length := List.length_pos_iff.mpr none
    have beyond (same : (more.takeWhile Text.isGap).length = 0) : Reads r (gap ++ more) ts r' [] := by
      rw [same, Nat.add_zero] at skipped
      exact .skip (by omega) (by rwa [skipped, List.drop_left])
    by_cases comment : ∃ rest, more = '#' :: rest
    · obtain ⟨rest, rfl⟩ := comment
      exact beyond rfl
    · have blank : skippedWidth more = (more.takeWhile Text.isGap).length :=
        skippedWidth.eq_2 _ (fun rest same => comment ⟨rest, same⟩)
      cases reads with
      | here => exact beyond rfl
      | skip _ rest =>
        refine .skip (by omega) ?_
        rw [skipped, ← blank, List.drop_append, List.drop_of_length_le (Nat.le_add_right _ _), Nat.add_sub_cancel_left]
        exact rest
      | take dense first step rest => exact beyond (blank ▸ dense)

theorem acceptsGap {r : Reading} {more tree} {gap : List Char} (all : ∀ c ∈ gap, Text.isGap c = true)
    (accepts : r.Accepts more tree) : r.Accepts (gap ++ more) tree := by
  obtain ⟨ts, r', reads, finish⟩ := accepts
  exact ⟨ts, r', readsGap all reads, finish⟩

theorem commentWidth {body rest : List Char} (line : '\n' ∉ body) (ends : ∀ c more, rest = c :: more → c = '\n') :
    skippedWidth ('#' :: (body ++ rest)) = ('#' :: body).length := by
  have inside : ∀ c ∈ body, (c != '\n') = true := fun c mem => by
    simp only [bne_iff_ne, ne_eq]
    rintro rfl
    exact line mem
  have stop : rest.takeWhile (· != '\n') = [] := by
    cases rest with
    | nil => rfl
    | cons c more => rw [ends c more rfl]; rfl
  rw [skippedWidth, takeWhileAll inside stop, List.length_cons, Nat.add_comm]

theorem acceptsComment {r : Reading} {body rest tree} (line : '\n' ∉ body)
    (ends : ∀ c more, rest = c :: more → c = '\n') (accepts : r.Accepts rest tree) :
    r.Accepts ('#' :: (body ++ rest)) tree := by
  have width := commentWidth line ends
  refine acceptsSkip (by rw [width]; exact Nat.zero_lt_succ _) ?_
  rwa [width, ← List.cons_append, List.drop_left]

theorem appendWithin {α : Type} {s more cs rest : List α} (same : cs ++ rest = s ++ more)
    (left : rest.length ≤ more.length) : ∃ cs', cs = s ++ cs' ∧ more = cs' ++ rest := by
  have length : cs.length + rest.length = s.length + more.length := by
    simpa using congrArg List.length same
  obtain ⟨cs', rfl⟩ := List.prefix_of_prefix_length_le ⟨more, same.symm⟩ (List.prefix_append cs rest) (by omega)
  rw [List.append_assoc] at same
  exact ⟨cs', rfl, (List.append_cancel_left same).symm⟩

theorem skippedParts {cs} (gap : 0 < skippedWidth cs) :
    ∃ s rest, cs = s ++ rest ∧ skippedWidth cs = s.length ∧ ((∀ c ∈ s, Text.isGap c = true) ∨
      ∃ body, s = '#' :: body ∧ '\n' ∉ body ∧ ∀ c more, rest = c :: more → c = '\n') := by
  by_cases comment : ∃ cs', cs = '#' :: cs'
  · obtain ⟨cs, rfl⟩ := comment
    refine ⟨'#' :: cs.takeWhile (· != '\n'), cs.dropWhile (· != '\n'), ?_, ?_, .inr ⟨_, rfl, ?_, ?_⟩⟩
    · rw [List.cons_append, List.takeWhile_append_dropWhile]
    · rw [skippedWidth, List.length_cons, Nat.add_comm]
    · intro mem
      simpa using List.all_eq_true.mp List.all_takeWhile _ mem
    · intro c more begins
      have stop := List.head?_dropWhile_not (· != '\n') cs
      rw [begins] at stop
      simpa using stop
  · obtain ⟨s, rest, split, taken, all⟩ := takeWhileTaken Text.isGap cs
    refine ⟨s, rest, split, ?_, .inl all⟩
    rw [skippedWidth.eq_2 _ (fun rest same => comment ⟨rest, same⟩), taken]

theorem readsNothing {r r' cs ts} (reads : Reads r cs ts r' cs) : r = r' := by
  cases reads with
  | here => rfl
  | skip gap rest => exact absurd rest (noReturn gap (gapSome gap))
  | take dense found step rest => exact absurd rest (noReturn (Terminal.width_pos_of_at? found) (foundSome found))

/- A place up to which a text was read. When another text follows there that the reading accepts, the whole is
accepted: nothing that was read before reaches further, if the other text begins so that it stops a token, and
if a comment that ends at the place may take in the beginning of the other text. -/
theorem acceptsLater {r r' : Reading} {cs rest rest' ts tree} (reads : Reads r (cs ++ rest) ts r' rest)
    (halts : Halts rest') (accepts : r'.Accepts rest' tree)
    (line : (∀ c more, rest = c :: more → c = '\n') → ∀ body, '\n' ∉ body →
      r'.Accepts ('#' :: (body ++ rest')) tree) : r.Accepts (cs ++ rest') tree := by
  generalize whole : cs ++ rest = text at reads
  induction reads generalizing cs with
  | here =>
    cases List.append_left_eq_self.mp whole
    exact accepts
  | @skip r r' text rest ts gap tail ih =>
    subst whole
    obtain ⟨s, more, split, width, parts⟩ := skippedParts gap
    have after : (cs ++ rest).drop (skippedWidth (cs ++ rest)) = more := by rw [width, split, List.drop_left]
    rw [after] at tail
    obtain ⟨cs, rfl, rfl⟩ := appendWithin split (readsShort tail)
    have next := ih accepts line after.symm
    rw [List.append_assoc]
    rcases parts with blank | ⟨body, rfl, inside, ends⟩
    · exact acceptsGap blank next
    · cases cs with
      | nil =>
        cases readsNothing tail
        exact line ends body inside
      | cons c cs =>
        refine acceptsComment inside (fun d more begins => ?_) next
        cases begins
        exact ends c _ rfl
  | @take r next r' kind text rest ts dense first step tail ih =>
    subst whole
    obtain ⟨s, more, split, -, taken, spells⟩ := foundSpelled first
    have after : (cs ++ rest).drop (kind.width (cs ++ rest)) = more := by rw [taken, split, List.drop_left]
    rw [after] at tail
    obtain ⟨cs, rfl, rfl⟩ := appendWithin split (readsShort tail)
    obtain ⟨found, width⟩ := foundLater first (by rw [taken, List.length_append]; exact Nat.le_add_right _ _) halts
    have token : tokenAt kind (s ++ cs ++ rest') = tokenAt kind (s ++ cs ++ rest) := by
      rw [tokenAt, width, tokenAt, taken, List.append_assoc, List.append_assoc, List.take_left, List.take_left]
    refine acceptsTake ?_ found (by rwa [token]) ?_
    · rw [List.append_assoc]
      exact spelledDense spells _
    · rw [width, taken, List.append_assoc, List.drop_left]
      exact ih accepts line after.symm

end CallScript.Syntax

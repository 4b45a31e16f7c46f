import CallScript.Proofs.Opened
import CallScript.Proofs.Replay
import CallScript.Proofs.Spelling
import CallScript.Syntax.Script
import CallScript.Text.Pieces

/-! The tokens of a text. A reading passes over white space and comments and takes the first wanted
terminal that stands at each place; written out with single spaces between them, tokens that it can take
are read as they were. -/
namespace CallScript.Syntax

inductive Reads : Reading → List Char → List Token → Reading → List Char → Prop where
  | here {r cs} : Reads r cs [] r cs
  | skip {r r' cs cs' ts} (gap : 0 < skippedWidth cs)
      (rest : Reads r (cs.drop (skippedWidth cs)) ts r' cs') : Reads r cs ts r' cs'
  | take {r next r' kind cs cs' ts} (dense : skippedWidth cs = 0)
      (first : Terminal.at? r.phase.wants cs = some kind) (step : r.step (tokenAt kind cs) = some next)
      (rest : Reads next (cs.drop (kind.width cs)) ts r' cs') : Reads r cs (tokenAt kind cs :: ts) r' cs'

def Consumed (source : String) (tokens : List Token) : Prop :=
  ∃ r, Reads Reading.start source.toList tokens r []

theorem foundSpelled {wanted kind cs} (first : Terminal.at? wanted cs = some kind) :
    ∃ s rest, cs = s ++ rest ∧ 0 < s.length ∧ kind.width cs = s.length ∧ kind.Spells s := by
  have some := Terminal.width_pos_of_at? first
  obtain ⟨s, rest, split, taken, spells⟩ := widthTaken (List.mem_of_find?_eq_some first) some
  exact ⟨s, rest, split, by rwa [← taken], taken, spells⟩

theorem tokenText {kind : Terminal} {s rest : List Char} (taken : kind.width (s ++ rest) = s.length) :
    (tokenAt kind (s ++ rest)).text.toList = s := by
  rw [tokenAt, taken, List.take_left, String.toList_ofList]

theorem tokenAtSpelled {wanted kind cs} (first : Terminal.at? wanted cs = some kind) :
    (tokenAt kind cs).Spelled := by
  obtain ⟨s, rest, rfl, -, taken, spells⟩ := foundSpelled first
  simpa [Token.Spelled, tokenAt, taken] using spells

theorem readsHolds {r r' cs cs' us ts} (reads : Reads r cs ts r' cs') (holds : r.Holds us) :
    r'.Holds (us ++ ts) := by
  induction reads generalizing us with
  | here => simpa using holds
  | skip gap rest ih => exact ih holds
  | take dense first step rest ih =>
    simpa using ih (stepHolds holds (tokenAtSpelled first) step)

theorem runReads {r : Reading} {place last cs tree} (result : r.run place last cs = .ok tree) :
    ∃ ts r', Reads r cs ts r' [] ∧ r'.finish = some tree := by
  fun_induction Reading.run r place last cs with
  | case1 r place last found finish =>
    cases result
    exact ⟨[], r, .here, finish⟩
  | case2 => cases result
  | case3 r place last c cs gap ih =>
    obtain ⟨ts, r', reads, finish⟩ := ih result
    exact ⟨ts, r', .skip gap reads, finish⟩
  | case4 => cases result
  | case5 => cases result
  | case6 r place last c cs dense kind first next step ih =>
    obtain ⟨ts, r', reads, finish⟩ := ih result
    exact ⟨_, r', .take (Nat.eq_zero_of_not_pos dense) first step reads, finish⟩

theorem readsRun {r r' : Reading} {cs ts tree} (reads : Reads r cs ts r' []) (finish : r'.finish = some tree)
    (place last : Position) : r.run place last cs = .ok tree := by
  generalize ending : ([] : List Char) = cs' at reads
  induction reads generalizing place last with
  | here =>
    subst ending
    rw [Reading.run, finish]
  | @skip r r' cs cs' ts gap rest ih =>
    cases cs with
    | nil => cases gap
    | cons c cs =>
      rw [Reading.run, dif_pos gap]
      exact ih finish _ _ ending
  | @take r next r' kind cs cs' ts dense first step rest ih =>
    cases cs with
    | nil =>
      obtain ⟨s, rest, split, some, -⟩ := foundSpelled first
      rw [(List.append_eq_nil_iff.mp split.symm).1] at some
      cases some
    | cons c cs =>
      rw [Reading.run, dif_neg (by omega)]
      split
      · rename_i none
        rw [first] at none
        cases none
      · rename_i found same
        rw [first] at same
        cases same
        simp only [step]
        exact ih finish _ _ ending

theorem readsShort {r r' cs cs' ts} (reads : Reads r cs ts r' cs') : cs'.length ≤ cs.length := by
  induction reads with
  | here => exact Nat.le_refl _
  | skip gap rest ih | take dense first step rest ih => exact Nat.le_trans ih (by simp)

theorem noReturn {r r' cs ts} {n : Nat} (onward : 0 < n) (some : cs ≠ []) : ¬ Reads r (cs.drop n) ts r' cs := by
  intro reads
  have short := readsShort reads
  have long := List.length_pos_iff.mpr some
  simp only [List.length_drop] at short
  omega

theorem gapSome {cs} (gap : 0 < skippedWidth cs) : cs ≠ [] := by
  rintro rfl
  cases gap

theorem foundSome {wanted kind cs} (first : Terminal.at? wanted cs = some kind) : cs ≠ [] := by
  obtain ⟨s, rest, rfl, some, -⟩ := foundSpelled first
  exact List.append_ne_nil_of_left_ne_nil (List.length_pos_iff.mp some) rest

theorem atCandidates (wanted : Terminal → Bool) (cs : List Char) :
    Terminal.at? wanted cs = (Terminal.all.filter wanted).find? (fun k => 0 < k.width cs) := by
  simp only [Terminal.at?, List.find?_filter, Bool.decide_and, Bool.decide_eq_true]

theorem atFirst {wanted cs kind} (before : List Terminal) {after : List Terminal}
    (candidates : Terminal.all.filter wanted = before ++ kind :: after) (stands : 0 < kind.width cs)
    (earlier : ∀ k ∈ before, k.width cs = 0) : Terminal.at? wanted cs = some kind := by
  rw [atCandidates, candidates, List.find?_eq_some_iff_append]
  refine ⟨by simpa using stands, before, after, rfl, fun k mem => ?_⟩
  simp [earlier k mem]

theorem solidOf {p : Char → Bool} {c : Char} (inside : p c = true)
    (outside : ∀ d ∈ [' ', '\t', '\r', '\n', '#'], p d = false) : Text.isGap c = false ∧ c ≠ '#' := by
  have other : c ∉ [' ', '\t', '\r', '\n', '#'] := fun mem => by simp [outside c mem] at inside
  simp only [List.mem_cons, List.not_mem_nil, or_false, not_or] at other
  exact ⟨by simp [Text.isGap, other], other.2.2.2.2⟩

theorem operatorSolid : ∀ op ∈ Operator.known,
    op.symbol.toList.head?.any (fun c => !Text.isGap c && c != '#') = true := by
  decide

theorem spelledSolid {kind : Terminal} {cs} (spells : kind.Spells cs) :
    ∃ c more, cs = c :: more ∧ Text.isGap c = false ∧ c ≠ '#' := by
  cases kind with
  | number =>
    obtain ⟨m, e, mantissa, -, rfl⟩ := spells
    cases mantissa with
    | @whole ds digits =>
      obtain ⟨d, ds, rfl⟩ := List.exists_cons_of_ne_nil digits.1
      exact ⟨d, _, rfl, solidOf (digits.2 d (by simp)) gapsNoDigit⟩
    | @pointed ds fs digits fraction =>
      obtain ⟨d, ds, rfl⟩ := List.exists_cons_of_ne_nil digits.1
      exact ⟨d, _, rfl, solidOf (digits.2 d (by simp)) gapsNoDigit⟩
    | fraction digits => exact ⟨'.', _, rfl, by decide⟩
  | text =>
    cases spells with
    | double tail => exact ⟨'"', _, rfl, by decide⟩
    | single tail => exact ⟨'\x27', _, rfl, by decide⟩
  | «variable» =>
    obtain ⟨name, rfl, -⟩ := spells
    exact ⟨'$', name, rfl, by decide⟩
  | name =>
    obtain ⟨c, more, rfl, start, -⟩ := spells
    exact ⟨c, more, rfl, solidOf start (fun d mem => (gapsNoName d mem).1)⟩
  | operator op =>
    obtain ⟨known, rfl⟩ := spells
    have solid := operatorSolid op known
    cases shape : op.symbol.toList with
    | nil => simp [shape] at solid
    | cons c more => exact ⟨c, more, rfl, by simpa [shape] using solid⟩
  | ending => cases spells
  | _ =>
    cases spells
    exact ⟨_, _, rfl, by decide⟩

theorem solidDense {c : Char} {cs} (solid : Text.isGap c = false) (comment : c ≠ '#') :
    skippedWidth (c :: cs) = 0 := by
  rw [skippedWidth, List.takeWhile_cons, solid]
  · rfl
  · intro rest same
    cases same
    exact comment rfl

theorem spelledDense {kind : Terminal} {s : List Char} (spells : kind.Spells s) (rest : List Char) :
    skippedWidth (s ++ rest) = 0 := by
  obtain ⟨c, more, rfl, solid, comment⟩ := spelledSolid spells
  exact solidDense solid comment

def Word (name : String) : Prop := name = "true" ∨ name = "false"

theorem operatorFirst (tree : Tree Lexeme) {rest} (ends : Ends rest) : ∀ op ∈ Operator.known,
    Terminal.at? (Phase.ended tree).wants (op.symbol.toList ++ rest) = some (.operator op) := by
  have greater : Terminal.at? (Phase.ended tree).wants ('>' :: rest) = some (.operator (.relation .greater)) := by
    rcases ends with rfl | ⟨c, mem, more, rfl⟩
    · rfl
    · simp only [List.mem_cons, List.not_mem_nil, or_false] at mem
      rcases mem with rfl | rfl | rfl | rfl | rfl <;> rfl
  have less : Terminal.at? (Phase.ended tree).wants ('<' :: rest) = some (.operator (.relation .less)) := by
    rcases ends with rfl | ⟨c, mem, more, rfl⟩
    · rfl
    · simp only [List.mem_cons, List.not_mem_nil, or_false] at mem
      rcases mem with rfl | rfl | rfl | rfl | rfl <;> rfl
  simp only [Operator.known, List.forall_mem_cons]
  exact ⟨rfl, rfl, rfl, rfl, greater, rfl, less, rfl, rfl, rfl, rfl, rfl, rfl, rfl, by simp⟩

theorem nameStartCode {c : Char} (start : isNameStart c = true) : 65 ≤ c.toNat ∧ c.toNat ≤ 122 := by
  change (decide (65 ≤ c.val ∧ c.val ≤ 90) || (decide (97 ≤ c.val) && decide (c.val ≤ 122)) ||
    c == '_') = true at start
  simp only [Bool.or_eq_true, Bool.and_eq_true, decide_eq_true_eq, beq_iff_eq, UInt32.le_iff_toNat_le] at start
  rcases start with (upper | lower) | rfl
  · exact ⟨upper.1, Nat.le_trans upper.2 (by decide)⟩
  · exact ⟨Nat.le_trans (by decide) lower.1, lower.2⟩
  · decide

theorem nameStartNoDigit {c : Char} (start : isNameStart c = true) : Text.isDigit c = false := by
  have code := nameStartCode start
  have large : ¬ (48 ≤ c.toNat ∧ c.toNat ≤ 57) := by omega
  have small : c.toNat < 128 := by omega
  simp [Text.isDigit, Text.digitValue?, large, small]

theorem nameStartElsewhere {c : Char} {cs} (start : isNameStart c = true) :
    numberWidth (c :: cs) = 0 ∧ textWidth (c :: cs) = 0 ∧ variableWidth (c :: cs) = 0 := by
  have code := nameStartCode start
  have digit : digitsWidth (c :: cs) = 0 := by
    simp [digitsWidth, nameStartNoDigit start]
  have other : ∀ d, d.toNat < 65 → c ≠ d := fun d low same => by
    subst same
    omega
  have point := other '.' (by decide)
  have double := other '"' (by decide)
  have single := other '\x27' (by decide)
  have dollar := other '$' (by decide)
  simp [numberWidth, mantissaWidth, digit, textWidth, variableWidth, point, double, single, dollar]

theorem nameElsewhere {cs} (rest : List Char) (name : Identifier cs) :
    numberWidth (cs ++ rest) = 0 ∧ textWidth (cs ++ rest) = 0 ∧ variableWidth (cs ++ rest) = 0 := by
  obtain ⟨c, more, rfl, start, -⟩ := name
  exact nameStartElsewhere start

theorem nameNoWord (word : List Char) {name : String} {rest} (spelled : Identifier name.toList)
    (ends : Ends rest) (other : name.toList ≠ word) : wordWidth word (name.toList ++ rest) = 0 := by
  rw [wordWidth, (nameWhole spelled ends).1, List.take_left, if_neg other]

theorem spelledChars {kind : Terminal} {text cs} (spelled : Token.Spelled ⟨kind, text⟩)
    (fixed : kind.Spells = fun cs => cs = kind.spelling.toList) (chars : kind.spelling.toList = cs) :
    text.toList = cs := by
  have same : (⟨kind, text⟩ : Token) = kind.token := ofSpelling kind rfl spelled fixed
  rw [(Token.mk.inj same).2]
  exact chars

theorem standsWhole {t : Token} {rest} (spelled : t.Spelled) (ends : Ends rest) :
    0 < t.kind.width (t.text.toList ++ rest) := by
  obtain ⟨c, more, same, -⟩ := spelledSolid spelled
  rw [widthWhole spelled ends, same]
  exact Nat.zero_lt_succ _

theorem statementFirst {r next : Reading} {t rest} (spelled : t.Spelled)
    (step : r.beginStatement t = some next) (ends : Ends rest) :
    Terminal.at? Phase.statement.wants (t.text.toList ++ rest) = some t.kind := by
  have stands := standsWhole spelled ends
  obtain ⟨kind, text⟩ := t
  cases kind with
  | «variable» => exact atFirst [] rfl stands (by simp)
  | name =>
    refine atFirst [.variable] rfl stands (fun k mem => ?_)
    rw [List.mem_singleton.mp mem]
    exact (nameElsewhere rest spelled).2.2
  | _ => cases step

theorem operandFirst {r next : Reading} {t opened rest} (spelled : t.Spelled)
    (free : t.kind = .name → ¬ Word t.text) (step : r.operandStep opened t = some next) (ends : Ends rest) :
    Terminal.at? (Phase.operand opened).wants (t.text.toList ++ rest) = some t.kind := by
  have stands := standsWhole spelled ends
  obtain ⟨kind, text⟩ := t
  cases kind with
  | number => cases opened <;> exact atFirst [] rfl stands (by simp)
  | text =>
    have quotation : Quotation text.toList := spelled
    have none : ∀ k ∈ [Terminal.number], k.width (text.toList ++ rest) = 0 := by
      intro k mem
      rw [List.mem_singleton.mp mem]
      generalize text.toList = cs at quotation
      cases quotation <;> rfl
    cases opened <;> exact atFirst [.number] rfl stands none
  | «variable» =>
    obtain ⟨name, same, -⟩ : ∃ name, text.toList = '$' :: name ∧ Identifier name := spelled
    have none : ∀ k ∈ [Terminal.number, .text], k.width (text.toList ++ rest) = 0 := by
      rw [same]
      simp only [List.forall_mem_cons]
      exact ⟨rfl, rfl, by simp⟩
    cases opened <;> exact atFirst [.number, .text] rfl stands none
  | name =>
    have name : Identifier text.toList := spelled
    obtain ⟨number, quote, dollar⟩ := nameElsewhere rest name
    have noWord := free rfl
    have no := nameNoWord ['f', 'a', 'l', 's', 'e'] name ends
      (fun same => noWord (.inr (String.toList_inj.mp same)))
    have yes := nameNoWord ['t', 'r', 'u', 'e'] name ends
      (fun same => noWord (.inl (String.toList_inj.mp same)))
    have none : ∀ k ∈ [Terminal.number, .text, .variable, .falseWord, .trueWord],
        k.width (text.toList ++ rest) = 0 := by
      simp only [List.forall_mem_cons]
      exact ⟨number, quote, dollar, no, yes, by simp⟩
    cases opened <;>
      exact atFirst [.number, .text, .variable, .falseWord, .trueWord] rfl stands none
  | falseWord =>
    have name : Identifier text.toList := by
      rw [show text.toList = ['f', 'a', 'l', 's', 'e'] from spelledChars spelled rfl rfl]
      exact falseIdentifier
    obtain ⟨number, quote, dollar⟩ := nameElsewhere rest name
    have none : ∀ k ∈ [Terminal.number, .text, .variable], k.width (text.toList ++ rest) = 0 := by
      simp only [List.forall_mem_cons]
      exact ⟨number, quote, dollar, by simp⟩
    cases opened <;> exact atFirst [.number, .text, .variable] rfl stands none
  | trueWord =>
    have chars : text.toList = ['t', 'r', 'u', 'e'] := spelledChars spelled rfl rfl
    have name : Identifier text.toList := by
      rw [chars]
      exact trueIdentifier
    obtain ⟨number, quote, dollar⟩ := nameElsewhere rest name
    have no := nameNoWord ['f', 'a', 'l', 's', 'e'] name ends (by rw [chars]; decide)
    have none : ∀ k ∈ [Terminal.number, .text, .variable, .falseWord],
        k.width (text.toList ++ rest) = 0 := by
      simp only [List.forall_mem_cons]
      exact ⟨number, quote, dollar, no, by simp⟩
    cases opened <;> exact atFirst [.number, .text, .variable, .falseWord] rfl stands none
  | operator op =>
    obtain ⟨-, same⟩ : op ∈ Operator.known ∧ text.toList = op.symbol.toList := spelled
    have minus : op = .arithmetic .subtract := by
      unfold Reading.operandStep at step
      split at step <;> simp_all
    subst minus
    rw [same]
    cases opened <;> rfl
  | bang =>
    rw [show text.toList = ['!'] from spelledChars spelled rfl rfl]
    cases opened <;> rfl
  | leftParenthesis =>
    rw [show text.toList = ['('] from spelledChars spelled rfl rfl]
    cases opened <;> rfl
  | leftBracket =>
    rw [show text.toList = ['['] from spelledChars spelled rfl rfl]
    cases opened <;> rfl
  | rightParenthesis =>
    rw [show text.toList = [')'] from spelledChars spelled rfl rfl]
    cases opened with
    | true => rfl
    | false => cases step
  | rightBracket =>
    rw [show text.toList = [']'] from spelledChars spelled rfl rfl]
    cases opened with
    | true => rfl
    | false => cases step
  | _ => cases step

theorem endedFirst {r next : Reading} {t tree rest} (spelled : t.Spelled)
    (step : r.endedStep tree t = some next) (ends : Ends rest) :
    Terminal.at? (Phase.ended tree).wants (t.text.toList ++ rest) = some t.kind := by
  have stands := standsWhole spelled ends
  obtain ⟨kind, text⟩ := t
  cases kind with
  | «variable» => exact atFirst [] rfl stands (by simp)
  | name =>
    refine atFirst [.variable] rfl stands (fun k mem => ?_)
    rw [List.mem_singleton.mp mem]
    exact (nameElsewhere rest spelled).2.2
  | operator op =>
    obtain ⟨known, same⟩ : op ∈ Operator.known ∧ text.toList = op.symbol.toList := spelled
    rw [same]
    exact operatorFirst tree ends op known
  | comma =>
    rw [show text.toList = [','] from spelledChars spelled rfl rfl]
    rfl
  | rightParenthesis =>
    rw [show text.toList = [')'] from spelledChars spelled rfl rfl]
    rfl
  | rightBracket =>
    rw [show text.toList = [']'] from spelledChars spelled rfl rfl]
    rfl
  | semicolon =>
    rw [show text.toList = [';'] from spelledChars spelled rfl rfl]
    rfl
  | _ =>
    obtain ⟨r', -, begin⟩ := Option.bind_eq_some_iff.mp step
    cases begin

/- A token that a reading can take is the one that is found where it is written. -/
theorem wantedFirst {r next : Reading} {t rest} (spelled : t.Spelled)
    (free : t.kind = .name → (∃ opened, r.phase = .operand opened) → ¬ Word t.text)
    (step : r.step t = some next) (ends : Ends rest) :
    Terminal.at? r.phase.wants (t.text.toList ++ rest) = some t.kind := by
  obtain ⟨done, frames, phase⟩ := r
  cases phase with
  | statement => exact statementFirst spelled step ends
  | target name =>
    simp only [Reading.step] at step
    split at step
    · rename_i same
      obtain ⟨kind, text⟩ := t
      cases eq_of_beq same
      rw [show text.toList = ['='] from spelledChars spelled rfl rfl]
      rfl
    · cases step
  | callee name =>
    simp only [Reading.step] at step
    split at step
    · rename_i same
      obtain ⟨kind, text⟩ := t
      cases eq_of_beq same
      rw [show text.toList = ['('] from spelledChars spelled rfl rfl]
      rfl
    · cases step
  | operand opened => exact operandFirst spelled (fun same => free same ⟨opened, rfl⟩) step ends
  | ended tree => exact endedFirst spelled step ends

theorem readsToken {r next r' : Reading} {t ts rest cs'} (spelled : t.Spelled)
    (free : t.kind = .name → (∃ opened, r.phase = .operand opened) → ¬ Word t.text)
    (step : r.step t = some next) (ends : Ends rest) (reads : Reads next rest ts r' cs') :
    Reads r (t.text.toList ++ rest) (t :: ts) r' cs' := by
  have width := widthWhole spelled ends
  have same : tokenAt t.kind (t.text.toList ++ rest) = t := by
    rw [tokenAt, width, List.take_left, String.ofList_toList]
  have after : (t.text.toList ++ rest).drop (t.kind.width (t.text.toList ++ rest)) = rest := by
    rw [width, List.drop_left]
  have read : Reads r (t.text.toList ++ rest) (tokenAt t.kind (t.text.toList ++ rest) :: ts) r' cs' :=
    .take (spelledDense spelled rest) (wantedFirst spelled free step ends) (by rwa [same]) (by rwa [after])
  rwa [same] at read

end CallScript.Syntax

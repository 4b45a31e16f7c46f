import CallScript.Proofs.Concatenation
import CallScript.Proofs.Beginnings
import Mathlib.Logic.Relation

/-! Layout does not matter. Between the tokens of a script blanks and comments may be put in, at its end a
comment that no line ends, and after a statement a semicolon: the text that results is the same script. -/
namespace CallScript

open Syntax

namespace Syntax

inductive Layout : List Char → Prop where
  | nothing : Layout []
  | blank {c cs} (gap : c ∈ [' ', '\t', '\r', '\n']) (rest : Layout cs) : Layout (c :: cs)
  | comment {body cs} (line : '\n' ∉ body) (rest : Layout cs) : Layout ('#' :: (body ++ '\n' :: cs))

/- A place between the tokens `ts` and the tokens `us` of a text. Reading comes to it over whole tokens and whole
comments; it may lie within white space, so a part of that is passed on the way. -/
def Between (before after : String) (ts us : List Token) : Prop :=
  ∃ gap r r', (∀ c ∈ gap, Text.isGap c = true) ∧
    Reads Reading.start (before ++ after).toList ts r (gap ++ after.toList) ∧
    Reads r (gap ++ after.toList) us r' []

inductive Relaid : String → String → Prop where
  | layout {before after ts us put} (place : Between before after ts us) (layout : Layout put.toList) :
      Relaid (before ++ after) (before ++ put ++ after)
  | comment {source body} (line : '\n' ∉ body.toList) : Relaid source (source ++ "#" ++ body)
  | semicolon {before after ts last us trees tree trees'} (place : Between before after (ts ++ last) us)
      (earlier : Derives .statements ts trees) (statement : Derives .statement last [tree])
      (later : Derives .statements us trees') : Relaid (before ++ after) (before ++ ";" ++ after)

theorem gapMember {c : Char} : c ∈ [' ', '\t', '\r', '\n'] ↔ Text.isGap c = true := by
  simp [Text.isGap, or_assoc]

theorem layoutGap {gap put : List Char} (all : ∀ c ∈ gap, Text.isGap c = true) (layout : Layout put) :
    Layout (gap ++ put) := by
  induction gap with
  | nil => exact layout
  | cons c gap ih =>
    obtain ⟨head, tail⟩ := List.forall_mem_cons.mp all
    exact .blank (gapMember.mpr head) (ih tail)

theorem layoutEnds {put : List Char} (layout : Layout put) (some : put ≠ []) (rest : List Char) :
    Ends (put ++ rest) := by
  cases layout with
  | nothing => exact absurd rfl some
  | blank gap more => exact .inr ⟨_, List.mem_append_left ['#'] gap, _, rfl⟩
  | comment line more => exact .inr ⟨'#', by simp, _, rfl⟩

section Accepting

variable {r : Reading} {rest : List Char} {tree : Tree Lexeme}

theorem acceptsLine (accepts : r.Accepts rest tree) : r.Accepts ('\n' :: rest) tree :=
  acceptsGap (List.forall_mem_singleton.mpr rfl) accepts

theorem acceptsLayout {put : List Char} (layout : Layout put) (accepts : r.Accepts rest tree) :
    r.Accepts (put ++ rest) tree := by
  induction layout with
  | nothing => exact accepts
  | @blank c cs gap more ih =>
    have one : r.Accepts ([c] ++ (cs ++ rest)) tree :=
      acceptsGap (List.forall_mem_singleton.mpr (gapMember.mp gap)) ih
    exact one
  | comment line more ih =>
    rw [List.cons_append, List.append_assoc]
    exact acceptsComment line (by rintro _ _ ⟨⟩; rfl) (acceptsLine ih)

theorem acceptsWithin {put body : List Char} (layout : Layout put) (line : '\n' ∉ body)
    (ends : '\n' ∉ put → ∀ c more, rest = c :: more → c = '\n') (accepts : r.Accepts rest tree) :
    r.Accepts ('#' :: (body ++ (put ++ rest))) tree := by
  induction layout generalizing body with
  | nothing => exact acceptsComment line (ends List.not_mem_nil) accepts
  | @blank c cs gap more ih =>
    by_cases stop : c = '\n'
    · subst stop
      exact acceptsComment line (by rintro _ _ ⟨⟩; rfl) (acceptsLine (acceptsLayout more accepts))
    · have longer : '\n' ∉ body ++ [c] := by simp [line, Ne.symm stop]
      have within := ih longer (fun none => ends (by simp [none, Ne.symm stop]))
      simpa using within
  | @comment text cs inside more ih =>
    have longer : '\n' ∉ body ++ '#' :: text := by simp [line, inside]
    have within := acceptsComment longer (by rintro _ _ ⟨⟩; rfl) (acceptsLine (acceptsLayout more accepts))
    simpa using within

theorem acceptsPast {gap : List Char} (all : ∀ c ∈ gap, Text.isGap c = true)
    (accepts : r.Accepts (gap ++ rest) tree) : r.Accepts rest tree := by
  by_cases none : gap = []
  · rwa [none] at accepts
  · have skipped := gapSkipped none all rest
    have long : 0 < gap.length := List.length_pos_iff.mpr none
    obtain ⟨ts, r', reads, finish⟩ := accepts
    generalize whole : gap ++ rest = text at reads
    generalize ending : ([] : List Char) = last at reads
    cases reads with
    | here => exact absurd (List.append_eq_nil_iff.mp (whole.trans ending.symm)).1 none
    | take dense => rw [← whole] at dense; omega
    | skip _ reads =>
      subst whole
      subst ending
      rw [skipped, ← List.drop_drop, List.drop_left] at reads
      cases rest with
      | nil => exact ⟨ts, r', reads, finish⟩
      | cons c rest =>
        by_cases blank : Text.isGap c = true
        · have width : skippedWidth (c :: rest) = ((c :: rest).takeWhile Text.isGap).length :=
            skippedWidth.eq_2 _ (by rintro _ ⟨⟩; cases blank)
          refine ⟨ts, r', .skip ?_ (by rwa [width]), finish⟩
          rw [width, List.takeWhile_cons, if_pos blank]
          exact Nat.zero_lt_succ _
        · rw [List.takeWhile_cons, if_neg blank] at reads
          exact ⟨ts, r', reads, finish⟩

end Accepting

theorem readsAppend {r r' r'' cs cs' cs'' ts us} (first : Reads r cs ts r' cs') (second : Reads r' cs' us r'' cs'') :
    Reads r cs (ts ++ us) r'' cs'' := by
  induction first with
  | here => exact second
  | skip gap rest ih => exact .skip gap (ih second)
  | take dense found step rest ih => exact .take dense found step (ih second)

theorem readsRest {r r' cs cs' ts} (reads : Reads r cs ts r' cs') : ∃ front, cs = front ++ cs' := by
  induction reads with
  | here => exact ⟨[], rfl⟩
  | skip gap rest ih | take dense found step rest ih =>
    obtain ⟨front, same⟩ := ih
    exact ⟨_, by rw [List.append_assoc, ← same, List.take_append_drop]⟩

theorem placeReads {before after : String} {ts us tree} (place : Between before after ts us)
    (read : readTree (before ++ after) = .ok tree) :
    ∃ front gap r r', before.toList = front ++ gap ∧ (∀ c ∈ gap, Text.isGap c = true) ∧
      Reads Reading.start (front ++ (gap ++ after.toList)) ts r (gap ++ after.toList) ∧
      Reads r (gap ++ after.toList) us r' [] ∧ r'.finish = some tree := by
  obtain ⟨gap, r, r', all, reads, later⟩ := place
  obtain ⟨tokens, last, whole, finish⟩ := runReads read
  have joined := readsAppend reads later
  cases readsUnique whole joined
  cases takesUnique (readsTakes whole).1 (readsTakes joined).1
  obtain ⟨front, split⟩ := readsRest reads
  rw [split] at reads
  refine ⟨front, gap, r, r', ?_, all, reads, later, finish⟩
  rw [String.toList_append, ← List.append_assoc] at split
  exact List.append_cancel_right split

theorem gapBeforeLine {gap rest : List Char} (line : ∀ c more, gap ++ rest = c :: more → c = '\n')
    (none : '\n' ∉ gap) : gap = [] := by
  cases gap with
  | nil => rfl
  | cons c gap => exact absurd (List.mem_cons.mpr (.inl (line c _ rfl).symm)) none

theorem acceptedReads {source : String} {tree} (accepts : Reading.start.Accepts source.toList tree) :
    readTree source = .ok tree := by
  obtain ⟨ts, r, reads, finish⟩ := accepts
  exact readsRun reads finish _ _

theorem layoutAccepted {before after put : String} {ts us tree} (place : Between before after ts us)
    (layout : Layout put.toList) (read : readTree (before ++ after) = .ok tree) :
    readTree (before ++ put ++ after) = .ok tree := by
  by_cases none : put = ""
  · rwa [none, String.append_empty]
  · obtain ⟨front, gap, r, r', split, all, reads, later, finish⟩ := placeReads place read
    have past : r.Accepts after.toList tree := acceptsPast all ⟨us, r', later, finish⟩
    have wider := layoutGap all layout
    have some : gap ++ put.toList ≠ [] := by simp [none]
    have chars : (before ++ put ++ after).toList = front ++ (gap ++ put.toList ++ after.toList) := by
      simp [split]
    refine acceptedReads (chars ▸ acceptsLater reads (.inl (layoutEnds wider some _)) (acceptsLayout wider past) ?_)
    intro line body inside
    refine acceptsWithin wider inside (fun unbroken => ?_) past
    rw [List.mem_append, not_or] at unbroken
    rwa [gapBeforeLine line unbroken.1] at line

theorem commentAccepted {source body : String} {tree} (line : '\n' ∉ body.toList)
    (read : readTree source = .ok tree) : readTree (source ++ "#" ++ body) = .ok tree := by
  obtain ⟨ts, r, reads, finish⟩ := runReads read
  have chars : (source ++ "#" ++ body).toList = source.toList ++ '#' :: body.toList := by simp
  have done : r.Accepts [] tree := ⟨[], r, .here, finish⟩
  have ends {body : List Char} (inside : '\n' ∉ body) : r.Accepts ('#' :: body) tree := by
    have last : ∀ (c : Char) more, [] = c :: more → c = '\n' := by rintro _ _ ⟨⟩
    simpa using acceptsComment inside last done
  rw [← List.append_nil source.toList] at reads
  refine acceptedReads (chars ▸ acceptsLater reads (.inl (.inr ⟨'#', by simp, _, rfl⟩)) (ends line) ?_)
  exact fun _ before inside => ends (by simp [inside, line])

theorem beginningKept {cs kind} (tree : Tree Lexeme) (first : Terminal.at? (Phase.ended tree).wants cs = some kind)
    (begins : kind = .variable ∨ kind = .name) : Terminal.at? Phase.statement.wants cs = some kind := by
  cases alone : Terminal.at? Phase.statement.wants cs with
  | some other => rw [← first, (beginningFound tree alone).1]
  | none =>
    have absent := List.find?_eq_none.mp alone kind (List.mem_of_find?_eq_some first)
    have wanted : Phase.statement.wants kind = true := by rcases begins with rfl | rfl <;> rfl
    exact absurd (Terminal.width_pos_of_at? first) (by simpa [wanted] using absent)

theorem acceptsAfresh {r r' : Reading} {done cs us tree} (amounts : r.Amounts done)
    (begins : ∀ t more, us = t :: more → t.kind = .variable ∨ t.kind = .name) (reads : Reads r cs us r' [])
    (finish : r'.finish = some tree) : Reading.Accepts ⟨done, [], .statement⟩ cs tree := by
  generalize ending : ([] : List Char) = rest at reads
  induction reads with
  | here =>
    subst ending
    refine ⟨[], _, .here, ?_⟩
    rw [← finish, amountsFinish amounts]
    rfl
  | skip gap rest ih => exact acceptsSkip gap (ih amounts begins finish ending)
  | take dense first step rest ih =>
    subst ending
    have kind := begins _ _ rfl
    refine acceptsTake dense ?_ ((amountsStep amounts kind).symm.trans step) ⟨_, _, rest, finish⟩
    rcases amounts with rfl | ⟨tree, phase, -⟩
    · exact first
    · rw [phase] at first
      exact beginningKept tree first kind

theorem statementEnded {barred : String → Prop} {r ts last trees tree} (earlier : Derives .statements ts trees)
    (statement : Derives .statement last [tree]) (takes : Takes barred Reading.start (ts ++ last) r) :
    ∃ done ended, r.phase = .ended ended ∧ r.endStatement ended = some ⟨done, [], .statement⟩ := by
  obtain ⟨first, before, amounts⟩ := derivedReplays earlier (fun _ _ _ _ => not_false)
  obtain ⟨frames, ended, after, stop⟩ := derivedReplays statement tree rfl (fun _ _ => not_false) first _ amounts
  cases takesUnique (takesAppend before after) (takesFree takes)
  exact ⟨_, ended, rfl, stop⟩

theorem statementsBegin {us trees} (later : Derives .statements us trees) :
    ∀ t more, us = t :: more → t.kind = .variable ∨ t.kind = .name := by
  rintro t more rfl
  obtain ⟨r, takes, -⟩ := @derivedReplays (fun _ => False) _ _ _ later (fun _ _ _ _ => not_false)
  cases takes with
  | token free step rest =>
    obtain ⟨kind, text⟩ := t
    cases kind with
    | «variable» => exact .inl rfl
    | name => exact .inr rfl
    | _ => cases step

theorem semicolonAccepted {before after : String} {ts last us trees tree trees' script}
    (place : Between before after (ts ++ last) us) (earlier : Derives .statements ts trees)
    (statement : Derives .statement last [tree]) (later : Derives .statements us trees')
    (read : readTree (before ++ after) = .ok script) : readTree (before ++ ";" ++ after) = .ok script := by
  obtain ⟨front, gap, r, r', split, all, reads, further, finish⟩ := placeReads place read
  have past : r.Accepts after.toList script := acceptsPast all ⟨us, r', further, finish⟩
  obtain ⟨done, ended, phase, stop⟩ := statementEnded earlier statement (readsTakes reads).1
  have afresh : Reading.Accepts ⟨done, [], .statement⟩ after.toList script :=
    acceptsPast all (acceptsAfresh (.inr ⟨ended, phase, stop⟩) (statementsBegin later) further finish)
  have found : Terminal.at? r.phase.wants (';' :: after.toList) = some .semicolon := by
    rw [phase]
    rfl
  have step : r.step (tokenAt .semicolon (';' :: after.toList)) = some ⟨done, [], .statement⟩ := by
    rw [Reading.step, phase]
    exact stop
  have ending : r.Accepts (';' :: after.toList) script := acceptsTake rfl found step afresh
  have chars : (before ++ ";" ++ after).toList = front ++ (gap ++ ';' :: after.toList) := by simp [split]
  have halts : Halts (gap ++ ';' :: after.toList) := by
    cases gap with
    | nil => exact .inr ⟨_, rfl⟩
    | cons c gap =>
      have blank := gapMember.mpr (all c List.mem_cons_self)
      exact .inl (.inr ⟨c, List.mem_append_left ['#'] blank, _, rfl⟩)
  refine acceptedReads (chars ▸ acceptsLater reads halts (acceptsGap all ending) ?_)
  intro line body inside
  cases gap with
  | nil =>
    -- The semicolon belongs to the comment before it.
    have longer : '\n' ∉ body ++ [';'] := by simp [inside]
    simpa using acceptsComment longer line past
  | cons c gap =>
    cases line c _ rfl
    exact acceptsComment inside (by rintro _ _ ⟨⟩; rfl) (acceptsGap all ending)

theorem relaidAccepted {source text : String} {tree} (relaid : Relaid source text)
    (read : readTree source = .ok tree) : readTree text = .ok tree := by
  cases relaid with
  | layout place layout => exact layoutAccepted place layout read
  | comment line => exact commentAccepted line read
  | semicolon place earlier statement later => exact semicolonAccepted place earlier statement later read

theorem readsSplit {r r' cs cs' ts us} (reads : Reads r cs (ts ++ us) r' cs') :
    ∃ middle rest, Reads r cs ts middle rest ∧ Reads middle rest us r' cs' := by
  generalize whole : ts ++ us = tokens at reads
  induction reads generalizing ts with
  | here =>
    obtain ⟨rfl, rfl⟩ := List.append_eq_nil_iff.mp whole
    exact ⟨_, _, .here, .here⟩
  | skip gap tail ih =>
    obtain ⟨middle, rest, first, second⟩ := ih whole
    exact ⟨middle, rest, .skip gap first, second⟩
  | take dense found step tail ih =>
    cases ts with
    | nil =>
      cases whole
      exact ⟨_, _, .here, .take dense found step tail⟩
    | cons t ts =>
      cases whole
      obtain ⟨middle, rest, first, second⟩ := ih rfl
      exact ⟨middle, rest, .take dense found step first, second⟩

theorem placesBetween {source : String} {ts us} (consumed : Consumed source (ts ++ us)) :
    ∃ before after, source = before ++ after ∧ Between before after ts us := by
  obtain ⟨r, reads⟩ := consumed
  obtain ⟨middle, rest, first, second⟩ := readsSplit reads
  obtain ⟨front, split⟩ := readsRest first
  have same : source = String.ofList front ++ String.ofList rest := by
    rw [← String.ofList_append, ← split, String.ofList_toList]
  refine ⟨_, _, same, [], middle, r, by simp, ?_, ?_⟩
  · rw [← same, List.nil_append, String.toList_ofList]
    exact first
  · rw [List.nil_append, String.toList_ofList]
    exact second

end Syntax

/- Layout does not matter: each token boundary of an accepted text is a place, and whatever layout is put in at
places, comment at the end or semicolon after statements, the text remains the same script. -/
theorem layoutImmaterial {source : String} {node : Node} (parsed : parse source = .ok node) :
    (∃ tokens, Consumed source tokens ∧ ∀ ts us, tokens = ts ++ us →
      ∃ before after, source = before ++ after ∧ Between before after ts us) ∧
    ∀ text, Relation.ReflTransGen Relaid source text → parse text = .ok node := by
  obtain ⟨tree, read, decoded⟩ := parseDecodes.mp parsed
  refine ⟨?_, fun text relaid => ?_⟩
  · obtain ⟨tokens, consumed, -⟩ := readTreeDerives read
    refine ⟨tokens, consumed, ?_⟩
    rintro ts us rfl
    exact placesBetween consumed
  · have same : readTree text = .ok tree := by
      induction relaid with
      | refl => exact read
      | tail _ relaid ih => exact relaidAccepted relaid ih
    exact parseDecodes.mpr ⟨tree, same, decoded⟩

def twoCalls : Node := .program [.call "f" [] true, .call "g" [] true]

theorem emptyCallStatement {name : String} (spelled : Token.Spelled ⟨.name, name⟩) : Derives .statement
    [⟨.name, name⟩, Terminal.leftParenthesis.token, Terminal.rightParenthesis.token] [.call name [] true] :=
  .callStatement (.emptyCall spelled)

theorem namedOnce (c : Char) (start : isNameStart c = true) : Token.Spelled ⟨.name, String.ofList [c]⟩ :=
  ⟨c, [], String.toList_ofList, start, by simp⟩

theorem twoCallsRelaid : Relation.ReflTransGen Relaid "f()g()" "f( # first\n);g()# end" := by
  have within : Between "f(" ")g()" _ _ :=
    ⟨[], _, _, by simp, .take rfl rfl rfl (.take rfl rfl rfl .here),
      .take rfl rfl rfl (.take rfl rfl rfl (.take rfl rfl rfl (.take rfl rfl rfl .here)))⟩
  have after : Between "f( # first\n)" "g()"
      ([] ++ [⟨.name, "f"⟩, Terminal.leftParenthesis.token, Terminal.rightParenthesis.token])
      [⟨.name, "g"⟩, Terminal.leftParenthesis.token, Terminal.rightParenthesis.token] :=
    ⟨[], _, _, by simp, .take rfl rfl rfl (.take rfl rfl rfl (.skip (by decide) (.skip (by decide)
      (.skip (by decide) (.take rfl rfl rfl .here))))), .take rfl rfl rfl (.take rfl rfl rfl (.take rfl rfl rfl .here))⟩
  have comment : Layout " # first\n".toList :=
    @Layout.blank ' ' _ (by simp) (@Layout.comment " first".toList [] (by decide) .nothing)
  have first : Derives .statements [⟨.name, "g"⟩, Terminal.leftParenthesis.token, Terminal.rightParenthesis.token] _ :=
    .oneMore .noStatement (emptyCallStatement (namedOnce 'g' rfl))
  have one : Relaid "f()g()" "f( # first\n)g()" := .layout within comment
  have two : Relaid "f( # first\n)g()" "f( # first\n);g()" :=
    .semicolon after .noStatement (emptyCallStatement (namedOnce 'f' rfl)) first
  have three : Relaid "f( # first\n);g()" "f( # first\n);g()# end" := @Relaid.comment _ " end" (by decide)
  exact ((Relation.ReflTransGen.single one).tail two).tail three

theorem twoCallsRemain : parse "f()g()" = .ok twoCalls ∧
    Relation.ReflTransGen Relaid "f()g()" "f( # first\n);g()# end" ∧
    parse "f( # first\n);g()# end" = .ok twoCalls := by
  have parsed : parse "f()g()" = .ok twoCalls := by with_unfolding_all rfl
  exact ⟨parsed, twoCallsRelaid, (layoutImmaterial parsed).2 _ twoCallsRelaid⟩

end CallScript

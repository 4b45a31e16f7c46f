import CallScript.Proofs.Beginnings

/-! Where a script is refused. A text is read up to the first token that no script could have there, and this
is the token that is reported, with the line and the column where it stands. -/
namespace CallScript.Syntax

def Position.past (before : List Char) : Position :=
  ⟨1 + before.count '\n', 1 + (before.reverse.takeWhile (· != '\n')).length⟩

theorem pastAfter (before : List Char) (c : Char) :
    (Position.past before).after c = Position.past (before ++ [c]) := by
  by_cases line : c = '\n'
  · subst line
    simp [Position.past, Position.after, Nat.add_assoc]
  · simp [Position.past, Position.after, line, Nat.add_comm 1]

theorem pastAdvance (before cs : List Char) :
    (Position.past before).advance cs = Position.past (before ++ cs) := by
  induction cs generalizing before with
  | nil => rw [List.append_nil]; rfl
  | cons c cs ih =>
    rw [Position.advance, List.foldl_cons, pastAfter, ← Position.advance, ih, List.append_assoc]
    rfl

def ReadUpTo (source : String) (tokens : List Token) (before rest : List Char) : Prop :=
  source.toList = before ++ rest ∧ ∃ r, Reads Reading.start source.toList tokens r rest

inductive Stops (r : Reading) (place : Position) : List Char → Misfit → Prop where
  | ending {last} (none : r.finish = none) : Stops r place [] (.token ⟨.ending, ""⟩ last)
  | unknown {c rest} (none : Terminal.at? r.phase.wants (c :: rest) = none) :
      Stops r place (c :: rest) (misfitAt c rest place)
  | unfit {kind cs} (first : Terminal.at? r.phase.wants cs = some kind) (none : r.step (tokenAt kind cs) = none) :
      Stops r place cs (.token (tokenAt kind cs) place)

theorem runStops {r : Reading} {before last cs m} (result : r.run (Position.past before) last cs = .error m) :
    ∃ ts r' more rest, cs = more ++ rest ∧ Reads r cs ts r' rest ∧
      Stops r' (Position.past (before ++ more)) rest m := by
  generalize from' : Position.past before = place at result
  fun_induction Reading.run r place last cs generalizing before with
  | case1 => cases result
  | case2 r place last none =>
    cases result
    exact ⟨[], r, [], [], rfl, .here, .ending none⟩
  | case3 r place last c cs gap ih =>
    obtain ⟨ts, r', more, rest, split, reads, stops⟩ := ih (by rw [← from', pastAdvance]) result
    refine ⟨ts, r', _ ++ more, rest, ?_, .skip gap reads, by rwa [← List.append_assoc]⟩
    rw [List.append_assoc, ← split, List.take_append_drop]
  | case4 r place last c cs dense none =>
    cases result
    refine ⟨[], r, [], c :: cs, rfl, .here, ?_⟩
    rw [List.append_nil, from']
    exact .unknown none
  | case5 r place last c cs dense kind first none =>
    cases result
    refine ⟨[], r, [], c :: cs, rfl, .here, ?_⟩
    rw [List.append_nil, from']
    exact .unfit first none
  | case6 r place last c cs dense kind first next step ih =>
    obtain ⟨ts, r', more, rest, split, reads, stops⟩ := ih (by rw [← from', pastAdvance]) result
    refine ⟨_, r', _ ++ more, rest, ?_, .take (Nat.eq_zero_of_not_pos dense) first step reads,
      by rwa [← List.append_assoc]⟩
    rw [List.append_assoc, ← split, List.take_append_drop]

theorem stepWanted {r next : Reading} {t} (step : r.step t = some next) : r.phase.wants t.kind = true := by
  obtain ⟨done, frames, current⟩ := r
  obtain ⟨kind, text⟩ := t
  cases current with
  | statement => cases kind <;> first | rfl | cases step
  | target name | callee name =>
    simp only [Reading.step] at step
    split at step
    · assumption
    · cases step
  | operand opened =>
    simp only [Reading.step, Reading.operandStep] at step
    split at step
    case h_11 | h_12 =>
      split at step
      · rfl
      · cases step
    case h_13 => cases step
    all_goals rfl
  | ended tree =>
    cases kind with
    | operator | comma | rightParenthesis | rightBracket | semicolon | «variable» | name => rfl
    | _ =>
      obtain ⟨_, -, begin⟩ := Option.bind_eq_some_iff.mp step
      cases begin

theorem strangerRefused {r : Reading} {cs kind} (none : Terminal.at? r.phase.wants cs = none)
    (first : Terminal.at? (fun _ => true) cs = some kind) : r.step (tokenAt kind cs) = .none := by
  cases step : r.step (tokenAt kind cs) with
  | none => rfl
  | some next =>
    have wanted := stepWanted step
    have absent := List.find?_eq_none.mp none kind (List.mem_of_find?_eq_some first)
    simp only [Bool.and_eq_true, decide_eq_true_eq, not_and] at absent
    exact absurd (Terminal.width_pos_of_at? first) (absent wanted)

theorem takesSplit {barred : String → Prop} {r r' ts us} (takes : Takes barred r (ts ++ us) r') :
    ∃ middle, Takes barred r ts middle ∧ Takes barred middle us r' := by
  induction ts generalizing r with
  | nil => exact ⟨r, .nothing, takes⟩
  | cons t ts ih =>
    cases takes with
    | token free step rest =>
      obtain ⟨middle, first, second⟩ := ih rest
      exact ⟨middle, .token free step first, second⟩

section Refusing

variable {tokens : List Token} {r : Reading} (takes : Takes Word Reading.start tokens r)

include takes

theorem refusedTaking {t later r'} (none : r.step t = none) :
    ¬ Takes (fun _ => False) Reading.start (tokens ++ t :: later) r' := by
  intro other
  obtain ⟨middle, first, second⟩ := takesSplit other
  cases takesUnique first (takesFree takes)
  cases second with
  | token free step rest =>
    rw [none] at step
    cases step

theorem refusedText {t} (none : r.step t = none) (text later) : ¬ Consumed text (tokens ++ t :: later) := by
  rintro ⟨r', reads⟩
  exact refusedTaking takes none (takesFree (readsTakes reads).1)

theorem refusedScript {t} (none : r.step t = none) (later tree) :
    ¬ Derives .program (tokens ++ t :: later) [tree] := by
  intro derived
  obtain ⟨r', other, -⟩ := programTakes (fun _ => False) derived (fun _ _ => not_false)
  exact refusedTaking takes none other

theorem unfinishedScript (none : r.finish = none) (tree) : ¬ Derives .program tokens [tree] := by
  intro derived
  obtain ⟨r', other, finish⟩ := programTakes (fun _ => False) derived (fun _ _ => not_false)
  cases takesUnique other (takesFree takes)
  rw [none] at finish
  cases finish

end Refusing

/- Some text without a fault of syntax begins with the tokens; and an accepted one does exactly if all literals
among them have values. -/
def Begins (tokens : List Token) : Prop :=
  (∃ text later tree, Consumed text (tokens ++ later) ∧ readTree text = .ok tree) ∧
    ((∃ text later node, Consumed text (tokens ++ later) ∧ parse text = .ok node) ↔ ∀ t ∈ tokens, t.Denotes)

def Misfit.Refuses (tokens : List Token) (before rest : List Char) : Misfit → Prop
  | .token t place =>
      if t.kind = .ending then rest = [] ∧ ∀ tree, ¬ Derives .program tokens [tree]
      else
        (∃ more, rest = t.text.toList ++ more) ∧ t.text ≠ "" ∧ place = Position.past before ∧
          (∀ text later, ¬ Consumed text (tokens ++ t :: later)) ∧
          ∀ later tree, ¬ Derives .program (tokens ++ t :: later) [tree]
  | .character c place =>
      (∃ more, rest = c :: more) ∧ place = Position.past before ∧ ∀ kind ∈ Terminal.all, kind.width rest = 0

theorem takesBegins {tokens r} (takes : Takes Word Reading.start tokens r) (spelled : AllSpelled tokens) :
    Begins tokens := by
  obtain ⟨text, later, tree, consumed, read, accepted⟩ := takesBegin takes spelled
  refine ⟨⟨text, later, tree, consumed, read⟩, ?_, fun denotes => ?_⟩
  · rintro ⟨text, later, node, consumed, parsed⟩
    exact (List.forall_mem_append.mp (parsedDenotes parsed consumed)).1
  · obtain ⟨node, parsed⟩ := accepted denotes
    exact ⟨text, later, node, consumed, parsed⟩

theorem foundRefuses {tokens r before rest kind wanted} (takes : Takes Word Reading.start tokens r)
    (first : Terminal.at? wanted rest = some kind) (none : r.step (tokenAt kind rest) = none) :
    Misfit.Refuses tokens before rest (.token (tokenAt kind rest) (Position.past before)) := by
  obtain ⟨s, more, rfl, some, taken, -⟩ := foundSpelled first
  have text := tokenText taken
  have known : (tokenAt kind (s ++ more)).kind ≠ .ending := by
    intro same
    have listed : Terminal.ending ∈ Terminal.all := same ▸ List.mem_of_find?_eq_some first
    exact absurd listed (by decide)
  rw [Misfit.Refuses, if_neg known]
  refine ⟨⟨more, by rw [text]⟩, fun same => ?_, rfl, refusedText takes none, refusedScript takes none⟩
  rw [same] at text
  rw [← text] at some
  cases some

theorem stopsRefuses {tokens r before rest m} (takes : Takes Word Reading.start tokens r)
    (stops : Stops r (Position.past before) rest m) : m.Refuses tokens before rest := by
  cases stops with
  | ending none => exact ⟨rfl, unfinishedScript takes none⟩
  | @unknown c rest none =>
    rw [misfitAt]
    split
    · rename_i kind first
      exact foundRefuses takes first (strangerRefused none first)
    · rename_i nothing
      refine ⟨⟨rest, rfl⟩, rfl, fun kind known => ?_⟩
      simpa using List.find?_eq_none.mp nothing kind known
  | unfit first none => exact foundRefuses takes first none

/- A script that is refused is read up to the first token that cannot be continued, which is reported with its
place; only a script without such a token is refused for the values of its literals. -/
theorem scriptsRefused :
    (∀ source m, parse source = .error (.misfit m) → ∃ tokens before rest,
      ReadUpTo source tokens before rest ∧ Begins tokens ∧ m.Refuses tokens before rest) ∧
    ∀ source f, parse source = .error (.badLiteral f) → ∃ tokens tree,
      Consumed source tokens ∧ Derives .program tokens [tree] := by
  refine ⟨fun source m failed => ?_, fun source f failed => ?_⟩
  · have stopped : readTree source = .error m := by
      unfold parse at failed
      split at failed
      · rename_i stopped
        cases failed
        exact stopped
      · split at failed <;> cases failed
    have run : Reading.start.run (Position.past []) Position.start source.toList = .error m := stopped
    obtain ⟨tokens, r, before, rest, split, reads, stops⟩ := runStops run
    obtain ⟨takes, spelled⟩ := readsTakes reads
    exact ⟨tokens, before, rest, ⟨split, r, reads⟩, takesBegins takes spelled, stopsRefuses takes stops⟩
  · unfold parse at failed
    split at failed
    · cases failed
    · rename_i tree read
      obtain ⟨tokens, consumed, derived⟩ := readTreeDerives read
      exact ⟨tokens, tree, consumed, derived⟩

instance failsAs {ε α : Type} [DecidableEq ε] (result : Except ε α) (failure : ε) :
    Decidable (result = .error failure) :=
  match result with
  | .ok _ => isFalse (fun same => by cases same)
  | .error other => decidable_of_iff (other = failure) ⟨congrArg _, Except.error.inj⟩

theorem strayBracketRefused :
    parse "$x = \"a\nb\" )" = .error (.misfit (.token Terminal.rightParenthesis.token ⟨2, 4⟩)) ∧
      (∃ tokens before rest, ReadUpTo "$x = \"a\nb\" )" tokens before rest ∧ Begins tokens ∧
        Misfit.Refuses tokens before rest (.token Terminal.rightParenthesis.token ⟨2, 4⟩)) ∧
      ∃ tokens tree, Consumed "$x = \"\\x\"" tokens ∧ Derives .program tokens [tree] := by
  have bracket : parse "$x = \"a\nb\" )" =
      .error (.misfit (.token Terminal.rightParenthesis.token ⟨2, 4⟩)) := by decide +kernel
  have escape : parse "$x = \"\\x\"" =
      .error (.badLiteral (.literalEscape 0 1 "truncated \\xXX escape" 1)) := by decide +kernel
  exact ⟨bracket, scriptsRefused.1 _ _ bracket, scriptsRefused.2 _ _ escape⟩

def truncated : String := "$x = \"\\x\" ="

theorem truncatedRead : ∃ r, Reads Reading.start truncated.toList
    [tokenAt .variable truncated.toList, tokenAt .equal ['=', ' ', '"', '\\', 'x', '"', ' ', '='],
      tokenAt .text ['"', '\\', 'x', '"', ' ', '=']] r ['='] := by
  refine ⟨_, .take rfl rfl rfl (.skip (by decide) (.take rfl rfl rfl (.skip (by decide) (.take rfl rfl rfl
    (.skip (by decide) .here)))))⟩

theorem truncatedPlace {before rest : List Char} (split : truncated.toList = before ++ rest)
    (place : Position.past before = ⟨1, 11⟩) : rest = ['='] := by
  have places : ∀ n < 12, Position.past (truncated.toList.take n) = ⟨1, 11⟩ → n = 10 := by decide
  have start : before = truncated.toList.take before.length := by rw [split, List.take_left]
  have short : before.length < 12 := by
    have length : truncated.toList.length = 11 := rfl
    rw [split, List.length_append] at length
    omega
  rw [start] at place
  have here : before.length = 10 := places before.length short place
  have left : rest = truncated.toList.drop 10 := by rw [split, ← here, List.drop_left]
  exact left

theorem truncatedRefused :
    parse truncated = .error (.misfit (.token Terminal.equal.token ⟨1, 11⟩)) ∧
      ¬ ∃ tokens before rest, ReadUpTo truncated tokens before rest ∧
        (∃ text later node, Consumed text (tokens ++ later) ∧ parse text = .ok node) ∧
        Misfit.Refuses tokens before rest (.token Terminal.equal.token ⟨1, 11⟩) := by
  refine ⟨by decide +kernel, ?_⟩
  rintro ⟨tokens, before, rest, ⟨split, r, reads⟩, ⟨text, later, node, consumed, parsed⟩, -, -, place, -⟩
  cases truncatedPlace split place.symm
  obtain ⟨r', known⟩ := truncatedRead
  rw [readsUnique reads known] at consumed
  have denotes := parsedDenotes parsed consumed
  obtain ⟨v, value⟩ := (denotes (tokenAt .text ['"', '\\', 'x', '"', ' ', '=']) (by simp)).2 rfl
  have none : textLiteral (tokenAt .text ['"', '\\', 'x', '"', ' ', '=']).text =
      .error (.literalEscape 0 1 "truncated \\xXX escape" 1) := by decide +kernel
  rw [none] at value
  cases value

end CallScript.Syntax

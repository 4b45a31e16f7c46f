import CallScript.Proofs.Language

/-! Beginnings of scripts. Whatever a reading has taken can be completed to a script: a missing operand is put
in, then the open brackets are closed. The completed text is accepted exactly if all literals taken before have
values, for what comes later can do without literals that might have none. -/
namespace CallScript.Syntax

def completers : List Token :=
  [Terminal.equal.token, Terminal.trueWord.token, Terminal.leftParenthesis.token,
    Terminal.rightParenthesis.token, Terminal.rightBracket.token]

theorem completersSound : ∀ t ∈ completers, t.Spelled ∧ t.Denotes ∧ t.kind ≠ .name := by
  simp only [completers, List.forall_mem_cons]
  refine ⟨?_, ?_, ?_, ?_, ?_, by simp⟩ <;> exact ⟨rfl, ⟨nofun, nofun⟩, nofun⟩

def Reading.Completes (r : Reading) : Prop :=
  ∃ later r' tree, Takes Word r later r' ∧ r'.finish = some tree ∧ ∀ t ∈ later, t ∈ completers

theorem completesFinish {r : Reading} {tree} (finish : r.finish = some tree) : r.Completes :=
  ⟨[], r, tree, .nothing, finish, by simp⟩

theorem completesStep {r next : Reading} {t} (mem : t ∈ completers) (step : r.step t = some next)
    (completes : next.Completes) : r.Completes := by
  obtain ⟨later, r', tree, takes, finish, all⟩ := completes
  have other := (completersSound t mem).2.2
  exact ⟨t :: later, r', tree, .token (fun same => absurd same other) step takes, finish,
    List.forall_mem_cons.mpr ⟨mem, all⟩⟩

theorem closeWhileShort (test : Frame → Bool) (tree : Tree Lexeme) (frames : List Frame) :
    (closeWhile test tree frames).2.length ≤ frames.length := by
  induction frames generalizing tree with
  | nil => exact Nat.le_refl _
  | cons f frames ih =>
    simp only [closeWhile]
    split
    · exact Nat.le_succ_of_le (ih _)
    · exact Nat.le_refl _

theorem closeAllShort {tree tree' : Tree Lexeme} {frames frames'}
    (closed : closeAll tree frames = (tree', frames')) : frames'.length ≤ frames.length := by
  have short := closeWhileShort Frame.isOperator tree frames
  rwa [← closeAllWhile, closed] at short

theorem endedCompletes {n : Nat} {r : Reading} {ts tree} (holds : r.Holds ts) (phase : r.phase = .ended tree)
    (few : r.frames.length < n) : r.Completes := by
  induction n generalizing r ts tree with
  | zero => cases few
  | succ n ih =>
    obtain ⟨done, frames, current⟩ := r
    cases phase
    have ⟨us, vs, statements, ⟨xs, ys, outer, ended, _⟩, _⟩ := holds
    cases frames with
    | nil => exact completesFinish rfl
    | cons f fs =>
      have onward {t frames last} (mem : t ∈ completers) (fewer : frames.length < n)
          (step : Reading.step ⟨done, f :: fs, .ended tree⟩ t = some ⟨done, frames, .ended last⟩) :
          Reading.Completes ⟨done, f :: fs, .ended tree⟩ :=
        completesStep mem step (ih (stepHolds holds (completersSound t mem).1 step) rfl fewer)
      cases closed : closeAll tree (f :: fs) with
      | mk tree' frames' =>
        have short := closeAllShort closed
        obtain ⟨us', vs', -, opened, -, g, gs, rfl, stays⟩ := closedAll outer ended.2 ended.1 closed
        have fewer : gs.length < n := by simp only [List.length_cons] at short few; omega
        cases opened with
        | @assignment v name =>
          have finish : Reading.finish ⟨done, f :: fs, .ended tree⟩ =
              some (.program (.assignment (variableName v) tree' :: done).reverse) := by
            simp only [Reading.finish, Reading.endStatement, closed]
            rfl
          exact completesFinish finish
        | minus | negation | binary => cases stays
        | group =>
          have step : Reading.step ⟨done, f :: fs, .ended tree⟩ Terminal.rightParenthesis.token =
              some ⟨done, gs, .ended tree'⟩ := by
            simp only [Reading.step, Reading.endedStep, Terminal.token, closed]
          exact onward (by simp [completers]) fewer step
        | @list _ _ _ items =>
          have step : Reading.step ⟨done, f :: fs, .ended tree⟩ Terminal.rightBracket.token =
              some ⟨done, gs, .ended (.list (tree' :: items).reverse)⟩ := by
            simp only [Reading.step, Reading.endedStep, Terminal.token, closed]
          exact onward (by simp [completers]) fewer step
        | @call _ _ _ name args =>
          have step : Reading.step ⟨done, f :: fs, .ended tree⟩ Terminal.rightParenthesis.token =
              some ⟨done, gs, .ended (.call name (tree' :: args).reverse gs.isEmpty)⟩ := by
            simp only [Reading.step, Reading.endedStep, Terminal.token, closed]
          exact onward (by simp [completers]) fewer step

theorem operandCompletes {r : Reading} {ts opened} (holds : r.Holds ts) (phase : r.phase = .operand opened) :
    r.Completes := by
  have step : r.step Terminal.trueWord.token = some { r with phase := .ended (.literal (.truth true)) } := by
    rw [Reading.step, phase]
    rfl
  have next := stepHolds holds (t := Terminal.trueWord.token) rfl step
  exact completesStep (by simp [completers]) step (endedCompletes next rfl (Nat.lt_succ_self _))

/- Every reading of tokens can be completed. -/
theorem holdsCompletes {r : Reading} {ts} (holds : r.Holds ts) : r.Completes := by
  obtain ⟨done, frames, current⟩ := r
  cases current with
  | statement => exact completesFinish rfl
  | target name =>
    have step : Reading.step ⟨done, frames, .target name⟩ Terminal.equal.token =
        some ⟨done, .assignment name :: frames, .operand false⟩ := rfl
    have next := stepHolds holds (t := Terminal.equal.token) rfl step
    exact completesStep (by simp [completers]) step (operandCompletes next rfl)
  | callee name =>
    have step : Reading.step ⟨done, frames, .callee name⟩ Terminal.leftParenthesis.token =
        some ⟨done, .call name [] :: frames, .operand true⟩ := rfl
    have next := stepHolds holds (t := Terminal.leftParenthesis.token) rfl step
    exact completesStep (by simp [completers]) step (operandCompletes next rfl)
  | operand opened => exact operandCompletes holds rfl
  | ended tree => exact endedCompletes holds rfl (Nat.lt_succ_self _)

theorem nameFoundNoWord {cs opened} (first : Terminal.at? (Phase.operand opened).wants cs = some .name) :
    ¬ Word (tokenAt .name cs).text := by
  obtain ⟨s, rest, rfl, -, taken, name⟩ := foundSpelled first
  have text := tokenText taken
  obtain ⟨number, quote, dollar⟩ := nameElsewhere rest name
  have stands (word : List Char) (same : s = word) (some : word ≠ []) : 0 < wordWidth word (s ++ rest) := by
    rw [wordWidth, show nameWidth (s ++ rest) = s.length from taken, List.take_left, if_pos same, same]
    exact List.length_pos_iff.mpr some
  rintro (yes | no)
  · have same : s = ['t', 'r', 'u', 'e'] := by rw [← text, yes]; rfl
    have other : wordWidth ['f', 'a', 'l', 's', 'e'] (s ++ rest) = 0 := by
      rw [wordWidth, show nameWidth (s ++ rest) = s.length from taken, List.take_left, if_neg (by rw [same]; decide)]
    have none : ∀ k ∈ [Terminal.number, .text, .variable, .falseWord], k.width (s ++ rest) = 0 := by
      simp only [List.forall_mem_cons]
      exact ⟨number, quote, dollar, other, by simp⟩
    have word : Terminal.at? (Phase.operand opened).wants (s ++ rest) = some .trueWord := by
      cases opened <;>
        exact atFirst [.number, .text, .variable, .falseWord] rfl (stands _ same (by simp)) none
    rw [word] at first
    cases first
  · have same : s = ['f', 'a', 'l', 's', 'e'] := by rw [← text, no]; rfl
    have none : ∀ k ∈ [Terminal.number, .text, .variable], k.width (s ++ rest) = 0 := by
      simp only [List.forall_mem_cons]
      exact ⟨number, quote, dollar, by simp⟩
    have word : Terminal.at? (Phase.operand opened).wants (s ++ rest) = some .falseWord := by
      cases opened <;> exact atFirst [.number, .text, .variable] rfl (stands _ same (by simp)) none
    rw [word] at first
    cases first

theorem readsTakes {r r' cs cs' ts} (reads : Reads r cs ts r' cs') : Takes Word r ts r' ∧ AllSpelled ts := by
  induction reads with
  | here => exact ⟨.nothing, by simp [AllSpelled]⟩
  | skip gap rest ih => exact ih
  | take dense first step rest ih =>
    refine ⟨.token (fun kind operand => ?_) step ih.1, allSpelledCons.mpr ⟨tokenAtSpelled first, ih.2⟩⟩
    obtain ⟨opened, phase⟩ := operand
    cases kind
    rw [phase] at first
    exact nameFoundNoWord first

theorem readsUnique {r r' r'' cs cs' ts us} (first : Reads r cs ts r' cs') (second : Reads r cs us r'' cs') :
    ts = us := by
  induction first generalizing us with
  | here =>
    cases second with
    | here => rfl
    | skip gap rest => exact absurd rest (noReturn gap (gapSome gap))
    | take dense found step rest => exact absurd rest (noReturn (Terminal.width_pos_of_at? found) (foundSome found))
  | skip gap rest ih =>
    cases second with
    | here => exact absurd rest (noReturn gap (gapSome gap))
    | skip _ rest' => exact ih rest'
    | take dense => omega
  | take dense found step rest ih =>
    cases second with
    | here => exact absurd rest (noReturn (Terminal.width_pos_of_at? found) (foundSome found))
    | skip gap => omega
    | take _ found' step' rest' =>
      cases Option.some.inj (found.symm.trans found')
      cases Option.some.inj (step.symm.trans step')
      rw [ih rest']

theorem consumedUnique {source ts us} (first : Consumed source ts) (second : Consumed source us) : ts = us := by
  obtain ⟨r, reads⟩ := first
  obtain ⟨r', reads'⟩ := second
  exact readsUnique reads reads'

theorem takesRead {tokens r tree} (takes : Takes Word Reading.start tokens r) (spelled : AllSpelled tokens)
    (finish : r.finish = some tree) :
    Consumed (spaced tokens) tokens ∧ readTree (spaced tokens) = .ok tree := by
  have reads := takesReads takes spelled
  rw [Consumed, readTree, spaced, String.toList_ofList]
  exact ⟨⟨r, reads⟩, readsRun reads finish _ _⟩

theorem takesHolds {barred : String → Prop} {r r' us ts} (takes : Takes barred r ts r') (spelled : AllSpelled ts)
    (holds : r.Holds us) : r'.Holds (us ++ ts) := by
  induction takes generalizing us with
  | nothing => simpa using holds
  | token free step rest ih =>
    obtain ⟨head, tail⟩ := allSpelledCons.mp spelled
    simpa using ih tail (stepHolds holds head step)

/- The reading of tokens goes on to the end of some text without a fault of syntax; and if the tokens have
values, so has the whole script. -/
theorem takesBegin {tokens r} (takes : Takes Word Reading.start tokens r) (spelled : AllSpelled tokens) :
    ∃ text later tree, Consumed text (tokens ++ later) ∧ readTree text = .ok tree ∧
      ((∀ t ∈ tokens, t.Denotes) → ∃ node, parse text = .ok node) := by
  obtain ⟨later, r', tree, more, finish, completing⟩ := holdsCompletes (takesHolds takes spelled startHolds)
  have whole := takesAppend takes more
  have sound : AllSpelled (tokens ++ later) :=
    allSpelledAppend.mpr ⟨spelled, fun t mem => (completersSound t (completing t mem)).1⟩
  obtain ⟨consumed, read⟩ := takesRead whole sound finish
  refine ⟨_, later, tree, consumed, read, fun denotes => ?_⟩
  have derived := finishDerives (takesHolds whole sound startHolds) finish
  have values : ∀ t ∈ tokens ++ later, t.Denotes :=
    List.forall_mem_append.mpr ⟨denotes, fun t mem => (completersSound t (completing t mem)).2.1⟩
  obtain ⟨node, decoded⟩ := derivedDecodes derived values tree (by simp)
  exact ⟨node, parseDecodes.mpr ⟨tree, read, decoded⟩⟩

theorem decodeAllEach {trees : List (Tree Lexeme)} {nodes} (decoded : decodeAll Lexeme.literal trees = .ok nodes) :
    ∀ tree ∈ trees, tree.Decodes := by
  induction trees generalizing nodes with
  | nil => simp
  | cons tree trees ih =>
    obtain ⟨node, rest, head, tail, -⟩ := decodeAllCons.mp decoded
    exact List.forall_mem_cons.mpr ⟨⟨node, head⟩, ih tail⟩

def Tree.PartsDecode : Tree Lexeme → Prop
  | .program items | .list items | .call _ items _ => ∀ item ∈ items, item.Decodes
  | .assignment _ operand | .unary _ operand => operand.Decodes
  | .binary _ left right => left.Decodes ∧ right.Decodes
  | .literal leaf => ∃ v, leaf.literal = .ok v
  | .variable _ | .foreign _ => True

theorem partsDecode {tree : Tree Lexeme} (decodes : tree.Decodes) : tree.PartsDecode := by
  obtain ⟨node, decoded⟩ := decodes
  cases tree with
  | program items | list items | call name items statement =>
    obtain ⟨nodes, each, -⟩ := exceptBind.mp (by rwa [Tree.decode] at decoded)
    exact decodeAllEach each
  | assignment name operand | unary op operand | literal leaf =>
    obtain ⟨value, inner, -⟩ := exceptBind.mp (by rwa [Tree.decode] at decoded)
    exact ⟨value, inner⟩
  | binary op left right =>
    obtain ⟨a, first, rest⟩ := exceptBind.mp (by rwa [Tree.decode] at decoded)
    obtain ⟨b, second, -⟩ := exceptBind.mp rest
    exact ⟨⟨a, first⟩, b, second⟩
  | «variable» | foreign => trivial

theorem otherDenotes {t : Token} (number : t.kind ≠ .number) (text : t.kind ≠ .text) : t.Denotes :=
  ⟨fun kind => absurd kind number, fun kind => absurd kind text⟩

theorem fixedDenotes {kind : Terminal} (number : kind ≠ .number) (text : kind ≠ .text) : kind.token.Denotes :=
  otherDenotes number text

theorem derivedDenotes {s ts trees} (derived : Derives s ts trees) (decode : ∀ tree ∈ trees, tree.Decodes) :
    ∀ t ∈ ts, t.Denotes := by
  induction derived with
  | program body ih => exact ih (partsDecode (List.forall_mem_singleton.mp decode))
  | noStatement => simp
  | oneMore before last ih ih' =>
    rw [List.forall_mem_append] at decode ⊢
    exact ⟨ih decode.1, ih' decode.2⟩
  | oneMoreEnded before last ih ih' =>
    rw [List.forall_mem_append] at decode
    simp only [List.forall_mem_append, List.forall_mem_singleton]
    exact ⟨⟨ih decode.1, ih' decode.2⟩, fixedDenotes nofun nofun⟩
  | assignment name value ih =>
    have inner := ih (List.forall_mem_singleton.mpr (partsDecode (List.forall_mem_singleton.mp decode)))
    simp only [List.forall_mem_cons]
    exact ⟨otherDenotes nofun nofun, fixedDenotes nofun nofun, inner⟩
  | callStatement body ih =>
    obtain ⟨nodes, each⟩ := callArgumentsDecode (List.forall_mem_singleton.mp decode)
    exact ih (List.forall_mem_singleton.mpr ⟨_, callDecodes each⟩)
  | tighter next body ih => exact ih decode
  | leftward mem next left right ih ih' | power left right ih ih' =>
    obtain ⟨first, second⟩ := partsDecode (List.forall_mem_singleton.mp decode)
    simp only [List.forall_mem_append, List.forall_mem_cons]
    exact ⟨ih (List.forall_mem_singleton.mpr first), fixedDenotes nofun nofun,
      ih' (List.forall_mem_singleton.mpr second)⟩
  | minus operand ih | negation operand ih =>
    have inner := ih (List.forall_mem_singleton.mpr (partsDecode (List.forall_mem_singleton.mp decode)))
    exact List.forall_mem_cons.mpr ⟨fixedDenotes nofun nofun, inner⟩
  | number spelled =>
    obtain ⟨literal, denotes⟩ := partsDecode (List.forall_mem_singleton.mp decode)
    obtain ⟨v, value, -⟩ := exceptBind.mp denotes
    exact List.forall_mem_singleton.mpr ⟨fun _ => ⟨v, value⟩, nofun⟩
  | text spelled =>
    obtain ⟨literal, denotes⟩ := partsDecode (List.forall_mem_singleton.mp decode)
    obtain ⟨v, value, -⟩ := exceptBind.mp denotes
    exact List.forall_mem_singleton.mpr ⟨nofun, fun _ => ⟨v, value⟩⟩
  | yes | no => exact List.forall_mem_singleton.mpr (fixedDenotes nofun nofun)
  | mention => exact List.forall_mem_singleton.mpr (otherDenotes nofun nofun)
  | callValue body ih => exact ih decode
  | emptyList =>
    simp only [List.forall_mem_cons]
    exact ⟨fixedDenotes nofun nofun, fixedDenotes nofun nofun, by simp⟩
  | list body ih =>
    have inner := ih (partsDecode (List.forall_mem_singleton.mp decode))
    simp only [List.forall_mem_append, List.forall_mem_cons]
    exact ⟨⟨fixedDenotes nofun nofun, inner⟩, fixedDenotes nofun nofun, by simp⟩
  | group body ih =>
    simp only [List.forall_mem_append, List.forall_mem_cons]
    exact ⟨⟨fixedDenotes nofun nofun, ih decode⟩, fixedDenotes nofun nofun, by simp⟩
  | emptyCall name =>
    simp only [List.forall_mem_cons]
    exact ⟨otherDenotes nofun nofun, fixedDenotes nofun nofun, fixedDenotes nofun nofun, by simp⟩
  | call name body ih =>
    have inner := ih (partsDecode (List.forall_mem_singleton.mp decode))
    simp only [List.forall_mem_append, List.forall_mem_cons]
    exact ⟨⟨otherDenotes nofun nofun, fixedDenotes nofun nofun, inner⟩, fixedDenotes nofun nofun, by simp⟩
  | argument body ih => exact ih decode
  | argumentAfter before last ih ih' =>
    rw [List.forall_mem_append] at decode ⊢
    exact ⟨ih decode.1, List.forall_mem_cons.mpr ⟨fixedDenotes nofun nofun, ih' decode.2⟩⟩

theorem parsedDenotes {source node tokens} (parsed : parse source = .ok node) (consumed : Consumed source tokens) :
    ∀ t ∈ tokens, t.Denotes := by
  obtain ⟨tree, read, decoded⟩ := parseDecodes.mp parsed
  obtain ⟨ts, consumed', derived⟩ := readTreeDerives read
  rw [consumedUnique consumed consumed']
  exact derivedDenotes derived (List.forall_mem_singleton.mpr ⟨node, decoded⟩)

end CallScript.Syntax

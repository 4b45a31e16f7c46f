import CallScript.Proofs.Margins

/-! Documentation texts when they are scrubbed. No text is lost: what remains are the lines from the first to the
last that is not blank, each without some of its indentation and without the white space at its end. Scrubbing
again changes nothing exactly if the lines have no indentation in common; that is so unless there is a blank line
of other white space than spaces and tabs, which keeps the margin away from the others, and it is so in any case
once a text has been scrubbed twice. -/
namespace CallScript.Text

section Dropping

variable {α : Type} {p : α → Bool} {l : List α}

theorem droppedLast {x : α} (last : (l.rdropWhile p).getLast? = some x) : p x = false := by
  have some : l.rdropWhile p ≠ [] := by
    intro none
    rw [none] at last
    cases last
  rw [List.getLast?_eq_getLast_of_ne_nil some] at last
  cases last
  simpa using List.rdropWhile_last_not p l some

theorem keptLast (last : ∀ x, l.getLast? = some x → p x = false) : l.rdropWhile p = l :=
  List.rdropWhile_eq_self_iff.mpr (fun some => by
    simp [last _ (List.getLast?_eq_getLast_of_ne_nil some)])

end Dropping

def Trimmed (line : List Char) : Prop := ∀ c, line.getLast? = some c → isBlank c = false

theorem trimEndTrimmed (line : List Char) : Trimmed (trimEnd line) := fun _ last => droppedLast last

theorem trimEndKept {line : List Char} (trimmed : Trimmed line) : trimEnd line = line := keptLast trimmed

theorem trimEndSplits (line : List Char) :
    ∃ trail, line = trimEnd line ++ trail ∧ ∀ c ∈ trail, isBlank c = true :=
  ⟨line.rtakeWhile isBlank, List.rdropWhile_append_rtakeWhile.symm,
    fun _ mem => List.mem_rtakeWhile_imp mem⟩

theorem trimmedBlank {line : List Char} (trimmed : Trimmed line) (blank : isBlankLine line = true) : line = [] := by
  rw [← trimEndKept trimmed]
  exact List.rdropWhile_eq_nil_iff.mpr (List.all_eq_true.mp blank)

theorem blankTrimEnd (line : List Char) : isBlankLine (trimEnd line) = isBlankLine line := by
  obtain ⟨trail, same, blank⟩ := trimEndSplits line
  have all : isBlankLine trail = true := List.all_eq_true.mpr blank
  rw [isBlankLine, isBlankLine] at *
  conv_rhs => rw [same]
  rw [List.all_append, all, Bool.and_true]

structure Bounded (ls : List (List Char)) : Prop where
  first : ∀ line, ls.head? = some line → isBlankLine line = false
  last : ∀ line, ls.getLast? = some line → isBlankLine line = false

theorem trimLinesBounded (ls : List (List Char)) : Bounded (trimLines ls) := by
  refine ⟨fun line first => ?_, fun line last => droppedLast last⟩
  have begins : trimLines ls <+: ls.dropWhile isBlankLine := List.rdropWhile_prefix isBlankLine _
  obtain ⟨rest, whole⟩ := begins
  have head := List.head?_dropWhile_not isBlankLine ls
  rw [← whole, List.head?_append, first] at head
  exact head

theorem trimLinesKept {ls : List (List Char)} (bounded : Bounded ls) : trimLines ls = ls := by
  have head : ls.dropWhile isBlankLine = ls := by
    cases ls with
    | nil => rfl
    | cons line ls => rw [List.dropWhile_cons, bounded.first line rfl]; rfl
  exact (congrArg (List.rdropWhile isBlankLine) head).trans (keptLast bounded.last)

theorem trimLinesSplits (ls : List (List Char)) :
    ∃ before after,
      ls = before ++ trimLines ls ++ after ∧ ∀ line ∈ before ++ after, isBlankLine line = true := by
  refine ⟨ls.takeWhile isBlankLine, (ls.dropWhile isBlankLine).rtakeWhile isBlankLine, ?_, fun line mem => ?_⟩
  · rw [List.append_assoc]
    conv_lhs => rw [← List.takeWhile_append_dropWhile (p := isBlankLine) (l := ls)]
    exact congrArg _ List.rdropWhile_append_rtakeWhile.symm
  · exact (List.mem_append.mp mem).elim List.mem_takeWhile_imp List.mem_rtakeWhile_imp

theorem trimLinesNothing {ls : List (List Char)} (blank : ∀ line ∈ ls, isBlankLine line = true) :
    trimLines ls = [] := by
  have none : ls.dropWhile isBlankLine = [] := List.dropWhile_eq_nil_iff.mpr blank
  rw [trimLines, none]
  rfl

theorem trimLinesEnded (cs : List Char) : trimLines (lines (cs ++ ['\n'])) = trimLines (lines cs) := by
  rcases linesEnded cs with same | same
  · rw [same]
  · rw [same, trimLines, trimLines, List.dropWhile_append]
    split
    · rename_i none
      rw [List.isEmpty_iff.mp none]
      rfl
    · exact congrArg List.reverse (by simp [List.dropWhile_cons, isBlankLine])

theorem trimLinesRelated {R : List Char → List Char → Prop} {ls ls' : List (List Char)}
    (related : List.Forall₂ R ls ls')
    (blank : ∀ line line', R line line' → isBlankLine line = isBlankLine line') :
    List.Forall₂ R (trimLines ls) (trimLines ls') := by
  have drop {ls ls' : List (List Char)} (related : List.Forall₂ R ls ls') :
      List.Forall₂ R (ls.dropWhile isBlankLine) (ls'.dropWhile isBlankLine) := by
    induction related with
    | nil => exact .nil
    | cons first rest ih =>
      rw [List.dropWhile_cons, List.dropWhile_cons, ← blank _ _ first]
      split
      · exact ih
      · exact .cons first rest
  exact List.rel_reverse (drop (List.rel_reverse (drop related)))

def Stripped (line line' : List Char) : Prop :=
  ∃ lead trail, line = lead ++ line' ++ trail ∧ Indentation lead ∧ (∀ c ∈ trail, isBlank c = true) ∧
    Trimmed line' ∧ (isBlankLine line = true → line' = [])

theorem outdentedStripped {line line' : List Char} (outdented : Outdented line line') :
    Stripped line (trimEnd line') := by
  obtain ⟨trail, same, blank⟩ := trimEndSplits line'
  have nothing (all : isBlankLine line = true) : trimEnd line' = [] :=
    trimmedBlank (trimEndTrimmed line') (by rw [blankTrimEnd, ← outdentedBlank outdented, all])
  cases outdented with
  | @drop lead indent =>
    exact ⟨lead, trail, by rw [List.append_assoc, ← same], indent, blank, trimEndTrimmed line', nothing⟩

def scrubbed (cs : List Char) : List (List Char) :=
  (trimLines (lines (dedent cs))).map trimEnd

theorem keptOutdented (cs : List Char) :
    List.Forall₂ Outdented (trimLines (lines cs)) (trimLines (lines (dedent cs))) := by
  rw [← trimLinesEnded cs, ← trimLinesEnded (dedent cs)]
  exact trimLinesRelated (dedentLines cs) (fun _ _ => outdentedBlank)

structure Tidy (ls : List (List Char)) : Prop where
  plain : ∀ line ∈ ls, ∀ c ∈ line, isLineEnd c = false
  trimmed : ∀ line ∈ ls, Trimmed line
  bounded : Bounded ls

theorem scrubbedTidy (cs : List Char) : Tidy (scrubbed cs) := by
  have bounded := trimLinesBounded (lines (dedent cs))
  obtain ⟨before, after, whole, -⟩ := trimLinesSplits (lines (dedent cs))
  refine ⟨fun line mem c inside => ?_, fun line mem => ?_, ⟨fun line first => ?_, fun line last => ?_⟩⟩
  · obtain ⟨line', kept, rfl⟩ := List.mem_map.mp mem
    have among : line' ∈ lines (dedent cs) := by
      rw [whole]
      simp [kept]
    exact linesPlain among c ((List.rdropWhile_prefix isBlank line').subset inside)
  · obtain ⟨line', -, rfl⟩ := List.mem_map.mp mem
    exact trimEndTrimmed line'
  · rw [scrubbed, List.head?_map, Option.map_eq_some_iff] at first
    obtain ⟨line', first, rfl⟩ := first
    rw [blankTrimEnd, bounded.first line' first]
  · rw [scrubbed, List.getLast?_map, Option.map_eq_some_iff] at last
    obtain ⟨line', last, rfl⟩ := last
    rw [blankTrimEnd, bounded.last line' last]

section Tidying

variable {ls : List (List Char)} (tidy : Tidy ls)
include tidy

theorem tidyLines : lines (joined '\n' ls) = ls :=
  linesJoined tidy.plain (fun empty => absurd (tidy.bounded.last [] empty) (by decide))

theorem tidyCleared : ∀ line ∈ ls, Cleared line := fun line mem indent =>
  trimmedBlank (tidy.trimmed line mem) (List.all_eq_true.mpr (fun c inside => indentBlank (indent c inside)))

theorem tidyKept {line : List Char} (mem : line ∈ ls) : isBlankLine line = false ↔ line ≠ [] := by
  constructor
  · rintro held rfl
    cases held
  · intro kept
    cases blank : isBlankLine line with
    | false => rfl
    | true => exact absurd (trimmedBlank (tidy.trimmed line mem) blank) kept

theorem tidyDropped : Tidy (ls.map (dropMargin (margin ls))) := by
  have outdented (line : List Char) : Outdented line (dropMargin (margin ls) line) :=
    dropOutdented (marginIndentation ls) line
  have suffix {line line' : List Char} (drop : Outdented line line') : line' <:+ line := by
    cases drop
    exact List.suffix_append _ _
  refine ⟨fun line mem c inside => ?_, fun line mem c last => ?_, ⟨fun line first => ?_, fun line last => ?_⟩⟩
  · obtain ⟨line', kept, rfl⟩ := List.mem_map.mp mem
    exact tidy.plain line' kept c ((suffix (outdented line')).subset inside)
  · obtain ⟨line', kept, rfl⟩ := List.mem_map.mp mem
    obtain ⟨lead, whole⟩ := suffix (outdented line')
    refine tidy.trimmed line' kept c ?_
    rw [← whole, List.getLast?_append, last]
    rfl
  · rw [List.head?_map, Option.map_eq_some_iff] at first
    obtain ⟨line', first, rfl⟩ := first
    rw [← outdentedBlank (outdented line'), tidy.bounded.first line' first]
  · rw [List.getLast?_map, Option.map_eq_some_iff] at last
    obtain ⟨line', last, rfl⟩ := last
    rw [← outdentedBlank (outdented line'), tidy.bounded.last line' last]

theorem tidyScrubbed : scrubbed (joined '\n' ls) = ls.map (dropMargin (margin ls)) := by
  by_cases none : ls = []
  · subst none
    rfl
  · have feedless : ∀ line ∈ ls, '\n' ∉ line := fun line mem inside =>
      absurd (tidy.plain line mem '\n' inside) (by decide)
    have clear : ls.map clearIndent = ls := by
      refine (List.map_congr_left (fun line mem => ?_)).trans (List.map_id ls)
      rw [clearIndent]
      split
      · rename_i all
        exact (tidyCleared tidy line mem (List.all_eq_true.mp all)).symm
      · rfl
    have dropped := tidyDropped tidy
    have parts : dedented (joined '\n' ls) = ls.map (dropMargin (margin ls)) := by
      rw [dedented, piecesJoined none feedless, clear]
    rw [scrubbed, dedentJoins, parts, tidyLines dropped, trimLinesKept dropped.bounded]
    exact (List.map_congr_left (fun line mem => trimEndKept (dropped.trimmed line mem))).trans (List.map_id _)

end Tidying

def Unindented (ls : List (List Char)) : Prop :=
  ∀ lead, Indentation lead → (∃ line ∈ ls, isBlankLine line = false) →
    (∀ line ∈ ls, isBlankLine line = false → lead <+: line) → lead = []

section Margin

variable {ls : List (List Char)} (tidy : Tidy ls)
include tidy

theorem tidyUnindented : Unindented ls ↔ margin ls = [] := by
  by_cases some : ∃ line ∈ ls, line ≠ []
  · constructor
    · intro unindented
      obtain ⟨indent, common⟩ := (marginShared some).mp (List.prefix_refl _)
      refine unindented _ indent ?_ (fun line mem held => common line mem ((tidyKept tidy mem).mp held))
      obtain ⟨line, mem, kept⟩ := some
      exact ⟨line, mem, (tidyKept tidy mem).mpr kept⟩
    · intro none lead indent _ common
      have within : lead <+: margin ls :=
        (marginShared some).mpr ⟨indent, fun line mem kept => common line mem ((tidyKept tidy mem).mpr kept)⟩
      rw [none] at within
      exact List.prefix_nil.mp within
  · have none : ∀ line ∈ ls, line = [] := by simpa using some
    refine ⟨fun _ => marginAbsent none, fun _ lead _ held _ => ?_⟩
    obtain ⟨line, mem, held⟩ := held
    exact absurd (none line mem) ((tidyKept tidy mem).mp held)

theorem droppedUnindented : Unindented (ls.map (dropMargin (margin ls))) := by
  intro lead indent held common
  obtain ⟨line, mem, held⟩ := held
  obtain ⟨line', mem', rfl⟩ := List.mem_map.mp mem
  have kept : line' ≠ [] := by
    rintro rfl
    rw [← outdentedBlank (dropOutdented (marginIndentation ls) [])] at held
    cases held
  exact marginSpent (tidyCleared tidy) ⟨line', mem', kept⟩ indent
    (fun line mem kept => common line mem ((tidyKept (tidyDropped tidy) mem).mpr kept))

theorem tidySettled : scrubbed (joined '\n' ls) = ls ↔ Unindented ls := by
  rw [tidyScrubbed tidy, tidyUnindented tidy]
  constructor
  · intro same
    cases ls with
    | nil => rfl
    | cons line rest =>
      have kept := (tidyKept tidy List.mem_cons_self).mp (tidy.bounded.first line rfl)
      have mem : line ∈ line :: rest := List.mem_cons_self
      rcases dropSplits mem with empty | whole
      · exact absurd empty kept
      · rw [(List.cons.inj same).1] at whole
        exact List.append_left_eq_self.mp whole.symm
  · intro none
    rw [none]
    exact (List.map_congr_left (fun line _ => rfl)).trans (List.map_id ls)

end Margin

theorem scrubToList (t : String) : (scrub t).toList = joined '\n' (scrubbed t.toList) :=
  String.toList_ofList

theorem scrubLines (t : String) : lines (scrub t).toList = scrubbed t.toList := by
  rw [scrubToList, tidyLines (scrubbedTidy t.toList)]

theorem scrubAgain (t : String) : scrub (scrub t) = scrub t ↔ Unindented (scrubbed t.toList) := by
  have tidy := scrubbedTidy t.toList
  rw [← tidySettled tidy, ← scrubToList]
  constructor
  · intro same
    rw [← scrubLines (scrub t), same, scrubLines]
  · intro same
    rw [← String.toList_inj, scrubToList (scrub t), same, ← scrubToList]

/- Between line feeds stand spaces and tabs alone, or a line that is not blank comes first. -/
def Regular (cs : List Char) : Prop :=
  ∀ piece ∈ pieces '\n' cs, Indentation piece ∨ ∃ line ∈ (lines piece).head?, isBlankLine line = false

theorem regularChecked {cs : List Char} : ((pieces '\n' cs).all fun piece => piece.all isIndent ||
    (lines piece).head?.any (fun line => !isBlankLine line)) = true ↔ Regular cs := by
  simp [Regular, Indentation, Option.any_eq_true]

instance : DecidablePred Regular := fun _ => decidable_of_iff _ regularChecked

theorem firstLine {cs line : List Char} (first : (lines cs).head? = some line) :
    line <+: cs ∧ (lines (cs ++ ['\n'])).head? = some line := by
  refine ⟨?_, ?_⟩
  · revert first
    fun_induction lines cs generalizing line with
    | case1 => rintro ⟨⟩
    | case2 | case3 =>
      rintro ⟨⟩
      exact List.nil_prefix
    | case4 =>
      rintro ⟨⟩
      exact List.cons_prefix_cons.mpr ⟨rfl, List.nil_prefix⟩
    | case5 c rest _ _ head more split ih =>
      rintro ⟨⟩
      rw [split] at ih
      exact List.cons_prefix_cons.mpr ⟨rfl, ih rfl⟩
  · rcases linesEnded cs with same | same
    · rw [same, first]
    · rw [same, List.head?_append, first]
      rfl

section Regularity

variable {cs line : List Char}

theorem dedentedParts (held : isBlankLine line = false) :
    line ∈ lines (dedent cs) ↔ ∃ part ∈ dedented cs, line ∈ lines (part ++ ['\n']) := by
  have some : dedented cs ≠ [] := by simp [dedented, pieces_ne_nil]
  have whole : lines (dedent cs ++ ['\n']) = (dedented cs).flatMap (fun part => lines (part ++ ['\n'])) := by
    rw [dedentJoins, joinedTerminated some, linesFed]
  rw [← List.mem_flatMap, ← whole]
  rcases linesEnded (dedent cs) with same | same
  · rw [same]
  · rw [same, List.mem_append, List.mem_singleton]
    exact ⟨.inl, fun mem => mem.resolve_right (by rintro rfl; cases held)⟩

theorem heldScrubbed (mem : line ∈ lines (dedent cs)) (held : isBlankLine line = false) :
    trimEnd line ∈ scrubbed cs ∧ isBlankLine (trimEnd line) = false := by
  refine ⟨List.mem_map_of_mem ?_, by rw [blankTrimEnd, held]⟩
  obtain ⟨before, after, whole, blank⟩ := trimLinesSplits (lines (dedent cs))
  rw [whole, List.append_assoc] at mem
  rcases List.mem_append.mp mem with outside | mem
  · rw [blank line (List.mem_append_left _ outside)] at held
    cases held
  · refine (List.mem_append.mp mem).resolve_right (fun outside => ?_)
    rw [blank line (List.mem_append_right _ outside)] at held
    cases held

theorem scrubbedHeld (mem : line ∈ scrubbed cs) (held : isBlankLine line = false) :
    ∃ line' ∈ lines (dedent cs), isBlankLine line' = false := by
  obtain ⟨line', kept, rfl⟩ := List.mem_map.mp mem
  obtain ⟨before, after, whole, -⟩ := trimLinesSplits (lines (dedent cs))
  refine ⟨line', ?_, by rw [← blankTrimEnd, held]⟩
  rw [whole]
  simp [kept]

theorem dropEmpty (edge : List Char) : dropMargin edge [] = [] := by
  unfold dropMargin
  split <;> simp

theorem regularFirst (regular : Regular cs) {part : List Char} (mem : part ∈ dedented cs) (kept : part ≠ []) :
    ∃ first, first <+: part ∧ first ∈ lines (dedent cs) ∧ isBlankLine first = false := by
  obtain ⟨first, head⟩ : ∃ first, (lines part).head? = some first :=
    Option.isSome_iff_exists.mp (by simpa using linesPresent kept)
  obtain ⟨begins, head⟩ := firstLine head
  have among : first ∈ lines (part ++ ['\n']) := List.mem_of_mem_head? head
  suffices held : isBlankLine first = false from
    ⟨first, begins, (dedentedParts held).mpr ⟨part, mem, among⟩, held⟩
  obtain ⟨part', mem', rfl⟩ := List.mem_map.mp mem
  obtain ⟨piece, inside, rfl⟩ := List.mem_map.mp mem'
  have outdented := outdentedTrans (clearOutdented piece)
    (dropOutdented (marginIndentation ((pieces '\n' cs).map clearIndent)) (clearIndent piece))
  rcases regular piece inside with indent | ⟨line, ahead, held⟩
  · rw [clearIndent, if_pos (List.all_eq_true.mpr indent)] at kept
    exact absurd (dropEmpty _) kept
  · have paired := outdentedLines outdented
    have ahead := (firstLine ahead).2
    revert paired ahead head
    generalize lines (piece ++ ['\n']) = before
    generalize lines (_ ++ ['\n']) = after
    rintro head paired ahead
    cases paired with
    | nil => cases ahead
    | cons drop _ =>
      cases ahead
      cases head
      rw [← outdentedBlank drop, held]

theorem regularUnindented (regular : Regular cs) : Unindented (scrubbed cs) := by
  rintro lead indent ⟨line, mem, held⟩ common
  have cleared : ∀ part ∈ (pieces '\n' cs).map clearIndent, Cleared part := by
    intro part mem
    obtain ⟨piece, -, rfl⟩ := List.mem_map.mp mem
    exact clearCleared piece
  refine marginSpent cleared ?_ indent (fun part mem kept => ?_)
  · obtain ⟨line', among, held⟩ := scrubbedHeld mem held
    obtain ⟨part, mem, within⟩ := (dedentedParts held).mp among
    obtain ⟨part', mem', rfl⟩ := List.mem_map.mp mem
    refine ⟨part', mem', ?_⟩
    rintro rfl
    rw [dropEmpty] at within
    cases List.mem_singleton.mp within
    cases held
  · obtain ⟨first, begins, among, held⟩ := regularFirst regular mem kept
    obtain ⟨remains, held⟩ := heldScrubbed among held
    exact ((common _ remains held).trans (List.rdropWhile_prefix isBlank first)).trans begins

end Regularity

/- A scrubbed text holds no line ends but line feeds, begins and ends with lines that are not blank, and has no
white space at the end of a line. It is left alone by scrubbing exactly if it is unindented; what comes from a
regular text is, and what was scrubbed twice. -/
theorem scrubbingSettles (t : String) :
    (scrub t).toList = joined '\n' (lines (scrub t).toList) ∧ Tidy (lines (scrub t).toList) ∧
      (scrub (scrub t) = scrub t ↔ Unindented (lines (scrub t).toList)) ∧
      scrub (scrub (scrub t)) = scrub (scrub t) ∧
      (Regular t.toList → Unindented (lines (scrub t).toList) ∧ scrub (scrub t) = scrub t) := by
  have tidy := scrubbedTidy t.toList
  rw [scrubLines]
  refine ⟨scrubToList t, tidy, scrubAgain t, ?_, fun regular => ?_⟩
  · rw [scrubAgain, scrubToList t, tidyScrubbed tidy]
    exact droppedUnindented tidy
  · have unindented := regularUnindented regular
    exact ⟨unindented, (scrubAgain t).mpr unindented⟩

def prose : String := "\n    Adds.\n\n      More.  \n"

theorem proseSettles : Regular prose.toList ∧ scrub prose = "Adds.\n\n  More." ∧
    Unindented (lines (scrub prose).toList) ∧ scrub (scrub prose) = scrub prose := by
  have regular : Regular prose.toList := by decide
  exact ⟨regular, by decide, (scrubbingSettles prose).2.2.2.2 regular⟩

theorem returnKeepsIndentation : scrub "\r\n  text" = "  text" ∧ scrub (scrub "\r\n  text") = "text" ∧
    ¬ Unindented (lines (scrub "\r\n  text").toList) := by
  have first : scrub "\r\n  text" = "  text" := by decide
  have second : scrub "  text" = "text" := by decide
  refine ⟨first, by rw [first, second], fun unindented => ?_⟩
  rw [scrubLines, ← scrubAgain, first, second] at unindented
  exact absurd unindented (by decide)

/- Scrubbing keeps the lines from the first to the last that is not blank, one for one and in order, each but for
some indentation and the white space at its end. -/
theorem scrubbingKeeps (t : String) :
    ∃ before kept after, lines t.toList = before ++ kept ++ after ∧
      (∀ line ∈ before ++ after, isBlankLine line = true) ∧ Bounded kept ∧
      List.Forall₂ Stripped kept (lines (scrub t).toList) ∧
      (scrub t).toList = joined '\n' (lines (scrub t).toList) ∧
      (scrub t = "" ↔ ∀ line ∈ lines t.toList, isBlankLine line = true) := by
  obtain ⟨before, after, whole, blank⟩ := trimLinesSplits (lines t.toList)
  have stripped : List.Forall₂ Stripped (trimLines (lines t.toList)) (scrubbed t.toList) := by
    rw [scrubbed, List.forall₂_map_right_iff]
    exact (keptOutdented t.toList).imp (fun _ _ => outdentedStripped)
  refine ⟨before, _, after, whole, blank, trimLinesBounded _, ?_, ?_, ?_⟩
  · rw [scrubLines]
    exact stripped
  · rw [scrubLines]
    exact scrubToList t
  · constructor
    · intro empty line mem
      have none : scrubbed t.toList = [] := by rw [← scrubLines, empty]; rfl
      rw [none, List.forall₂_nil_right_iff] at stripped
      rw [whole, stripped, List.append_nil] at mem
      exact blank line mem
    · intro all
      rw [trimLinesNothing all, List.forall₂_nil_left_iff] at stripped
      rw [← String.toList_inj, scrubToList, stripped]
      rfl

end CallScript.Text

import CallScript.Proofs.Lines

/-! The margin of a text and what is left without it. Every line loses spaces and tabs at its beginning only, so no
line is lost, made or joined to another one; and once the margin is gone, the lines that hold something have no
indentation in common. -/
namespace CallScript.Text

def Indentation (lead : List Char) : Prop := ∀ c ∈ lead, isIndent c = true

theorem indentationPrefix {lead line : List Char} :
    lead <+: line.takeWhile isIndent ↔ lead <+: line ∧ Indentation lead := by
  constructor
  · intro within
    exact ⟨within.trans (List.takeWhile_prefix _), fun c mem => List.mem_takeWhile_imp (within.subset mem)⟩
  · rintro ⟨⟨rest, rfl⟩, indent⟩
    rw [List.takeWhile_append_of_pos indent]
    exact List.prefix_append _ _

theorem commonPrefixLeft (a b : List Char) : commonPrefix a b <+: a := by
  fun_induction commonPrefix a b with
  | case1 c as d bs same ih => exact List.cons_prefix_cons.mpr ⟨rfl, ih⟩
  | case2 | case3 => exact List.nil_prefix

theorem commonPrefixRight (a b : List Char) : commonPrefix a b <+: b := by
  fun_induction commonPrefix a b with
  | case1 c as d bs same ih => exact List.cons_prefix_cons.mpr ⟨beq_iff_eq.mp same, ih⟩
  | case2 | case3 => exact List.nil_prefix

theorem commonPrefixGreatest {lead a b : List Char} (left : lead <+: a) (right : lead <+: b) :
    lead <+: commonPrefix a b := by
  induction lead generalizing a b with
  | nil => exact List.nil_prefix
  | cons c lead ih =>
    obtain ⟨as, rfl⟩ := left
    obtain ⟨bs, rfl⟩ := right
    rw [List.cons_append, List.cons_append, commonPrefix, if_pos (beq_self_eq_true c)]
    exact List.cons_prefix_cons.mpr ⟨rfl, ih (List.prefix_append _ _) (List.prefix_append _ _)⟩

section Folding

variable {first : List Char} {rest : List (List Char)}

theorem foldedBelow : ∀ line ∈ first :: rest, rest.foldl commonPrefix first <+: line := by
  induction rest generalizing first with
  | nil => simp
  | cons second rest ih =>
    obtain ⟨both, others⟩ := List.forall_mem_cons.mp (@ih (commonPrefix first second))
    simp only [List.forall_mem_cons]
    exact ⟨both.trans (commonPrefixLeft _ _), both.trans (commonPrefixRight _ _), others⟩

theorem foldedGreatest {lead : List Char} (common : ∀ line ∈ first :: rest, lead <+: line) :
    lead <+: rest.foldl commonPrefix first := by
  induction rest generalizing first with
  | nil => exact common first List.mem_cons_self
  | cons second rest ih =>
    simp only [List.forall_mem_cons] at common ih
    exact ih ⟨commonPrefixGreatest common.1 common.2.1, common.2.2⟩

end Folding

theorem marginShared {ls : List (List Char)} {lead : List Char} (some : ∃ line ∈ ls, line ≠ []) :
    lead <+: margin ls ↔ Indentation lead ∧ ∀ line ∈ ls, line ≠ [] → lead <+: line := by
  have indentations (line : List Char) (mem : line ∈ ls) (kept : line ≠ []) : line.takeWhile isIndent ∈
      (ls.filter (fun line => !line.isEmpty)).map (fun line => line.takeWhile isIndent) :=
    List.mem_map_of_mem (List.mem_filter.mpr ⟨mem, by simpa using kept⟩)
  have origins : ∀ indent ∈ (ls.filter (fun line => !line.isEmpty)).map (fun line => line.takeWhile isIndent),
      ∃ line ∈ ls, line ≠ [] ∧ line.takeWhile isIndent = indent := by
    intro indent mem
    obtain ⟨line, within, same⟩ := List.mem_map.mp mem
    obtain ⟨mem, kept⟩ := List.mem_filter.mp within
    exact ⟨line, mem, by simpa using kept, same⟩
  rw [margin]
  obtain ⟨line, mem, kept⟩ := some
  split
  · rename_i none
    rw [none] at indentations
    exact absurd (indentations line mem kept) List.not_mem_nil
  · rename_i first rest split
    rw [split] at indentations origins
    constructor
    · intro within
      have shared : ∀ line ∈ ls, line ≠ [] → lead <+: line ∧ Indentation lead := fun line mem kept =>
        indentationPrefix.mp (within.trans (foldedBelow _ (indentations line mem kept)))
      exact ⟨(shared line mem kept).2, fun line mem kept => (shared line mem kept).1⟩
    · rintro ⟨indent, common⟩
      refine foldedGreatest (fun indentation mem => ?_)
      obtain ⟨line, inside, held, rfl⟩ := origins indentation mem
      exact indentationPrefix.mpr ⟨common line inside held, indent⟩

theorem marginAbsent {ls : List (List Char)} (none : ∀ line ∈ ls, line = []) : margin ls = [] := by
  have empty : ls.filter (fun line => !line.isEmpty) = [] :=
    List.filter_eq_nil_iff.mpr (fun line mem => by simp [none line mem])
  rw [margin, empty]
  rfl

theorem marginIndentation (ls : List (List Char)) : Indentation (margin ls) := by
  by_cases some : ∃ line ∈ ls, line ≠ []
  · exact ((marginShared some).mp (List.prefix_refl _)).1
  · rw [marginAbsent (by simpa using some)]
    exact fun _ mem => absurd mem List.not_mem_nil

inductive Outdented : List Char → List Char → Prop where
  | drop {lead : List Char} (indent : Indentation lead) (line : List Char) : Outdented (lead ++ line) line

theorem outdentedBlank {line line' : List Char} (outdented : Outdented line line') :
    isBlankLine line = isBlankLine line' := by
  cases outdented with
  | drop indent =>
    have blank : isBlankLine _ = true := List.all_eq_true.mpr (fun c mem => indentBlank (indent c mem))
    rw [isBlankLine, List.all_append, ← isBlankLine, blank, Bool.true_and]
    rfl

theorem outdentedTrans {line line' line'' : List Char} (first : Outdented line line')
    (second : Outdented line' line'') : Outdented line line'' := by
  cases second with
  | @drop inner within =>
    cases first with
    | @drop outer without =>
      rw [← List.append_assoc]
      exact .drop (fun c mem => (List.mem_append.mp mem).elim (without c) (within c)) line''

theorem clearOutdented (line : List Char) : Outdented line (clearIndent line) := by
  unfold clearIndent
  split
  · rename_i all
    simpa using Outdented.drop (List.all_eq_true.mp all) []
  · exact .drop (fun _ mem => absurd mem List.not_mem_nil) line

theorem dropOutdented {edge : List Char} (indent : Indentation edge) (line : List Char) :
    Outdented line (dropMargin edge line) := by
  unfold dropMargin
  split
  · rename_i begins
    obtain ⟨rest, rfl⟩ := List.isPrefixOf_iff_prefix.mp begins
    rw [List.drop_left]
    exact .drop indent rest
  · exact .drop (fun _ mem => absurd mem List.not_mem_nil) line

def Cleared (line : List Char) : Prop := Indentation line → line = []

theorem clearCleared (line : List Char) : Cleared (clearIndent line) := by
  intro indent
  unfold clearIndent at indent ⊢
  split at indent
  · rename_i all
    rw [if_pos all]
  · rename_i other
    exact absurd (List.all_eq_true.mpr indent) other

section Dropping

variable {ls : List (List Char)} (cleared : ∀ line ∈ ls, Cleared line) {line : List Char} (mem : line ∈ ls)
include mem

theorem dropSplits : line = [] ∨ line = margin ls ++ dropMargin (margin ls) line := by
  by_cases kept : line = []
  · exact .inl kept
  · obtain ⟨rest, same⟩ := ((marginShared ⟨line, mem, kept⟩).mp (List.prefix_refl _)).2 line mem kept
    refine .inr ?_
    rw [dropMargin, if_pos (List.isPrefixOf_iff_prefix.mpr ⟨rest, same⟩), ← same, List.drop_left]

include cleared

theorem dropKeeps (kept : line ≠ []) : dropMargin (margin ls) line ≠ [] := by
  intro none
  rcases dropSplits mem with empty | same
  · exact kept empty
  · rw [none, List.append_nil] at same
    exact kept (cleared line mem (same ▸ marginIndentation ls))

end Dropping

/- Without the margin, the lines have no indentation in common any more. -/
theorem marginSpent {ls : List (List Char)} (cleared : ∀ line ∈ ls, Cleared line)
    (some : ∃ line ∈ ls, line ≠ [])
    {lead : List Char} (indent : Indentation lead)
    (common : ∀ line ∈ ls.map (dropMargin (margin ls)), line ≠ [] → lead <+: line) : lead = [] := by
  have wider : margin ls ++ lead <+: margin ls := by
    refine (marginShared some).mpr ⟨fun c mem => ?_, fun line mem kept => ?_⟩
    · exact (List.mem_append.mp mem).elim (marginIndentation ls c) (indent c)
    · rcases dropSplits mem with empty | same
      · exact absurd empty kept
      · rw [same]
        exact List.prefix_append_right_inj _ |>.mpr
          (common _ (List.mem_map_of_mem mem) (dropKeeps cleared mem kept))
  have size := wider.length_le
  rw [List.length_append] at size
  exact List.length_eq_zero_iff.mp (by omega)

def dedented (cs : List Char) : List (List Char) :=
  let cleared := (pieces '\n' cs).map clearIndent
  cleared.map (dropMargin (margin cleared))

theorem dedentJoins (cs : List Char) : dedent cs = joined '\n' (dedented cs) := rfl

theorem dedentedOutdented (cs : List Char) : List.Forall₂ Outdented (pieces '\n' cs) (dedented cs) := by
  rw [dedented, List.map_map, List.forall₂_map_right_iff, List.forall₂_same]
  exact fun line _ => outdentedTrans (clearOutdented line) (dropOutdented (marginIndentation _) _)

theorem outdentedLines {part part' : List Char} (outdented : Outdented part part') :
    List.Forall₂ Outdented (lines (part ++ ['\n'])) (lines (part' ++ ['\n'])) := by
  have same (ls : List (List Char)) : List.Forall₂ Outdented ls ls :=
    List.forall₂_same.mpr (fun line _ => .drop (fun _ mem => absurd mem List.not_mem_nil) line)
  cases outdented with
  | @drop lead indent =>
    rw [List.append_assoc]
    cases split : lines (part' ++ ['\n']) with
    | nil => exact absurd split (linesPresent (by simp))
    | cons first rest =>
      have indented : lines (lead ++ (part' ++ ['\n'])) = (lead ++ first) :: rest := by
        clear same
        induction lead with
        | nil => exact split
        | cons c lead ih =>
          obtain ⟨within, indent⟩ := List.forall_mem_cons.mp indent
          rw [List.cons_append, linesOrdinary (indentWithin within), ih indent]
          rfl
      rw [indented]
      exact .cons (.drop indent first) (same rest)

theorem dedentLines (cs : List Char) :
    List.Forall₂ Outdented (lines (cs ++ ['\n'])) (lines (dedent cs ++ ['\n'])) := by
  have whole := dedentedOutdented cs
  have some : dedented cs ≠ [] := by
    intro none
    rw [none, List.forall₂_nil_right_iff] at whole
    exact pieces_ne_nil '\n' cs whole
  rw [← joined_pieces '\n' cs, joinedTerminated (pieces_ne_nil '\n' cs), linesFed, joined_pieces, dedentJoins,
    joinedTerminated some, linesFed]
  exact List.rel_flatMap whole (fun _ _ outdented => outdentedLines outdented)

end CallScript.Text

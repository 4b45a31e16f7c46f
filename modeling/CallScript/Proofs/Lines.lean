import CallScript.Text.Scrubbed
import Mathlib.Data.List.DropRight
import Mathlib.Data.List.Forall2

/-! Texts by their lines. A line feed ends a line whatever stands before it, so a text whose pieces are joined by
line feeds has the lines of its pieces, piece after piece; and lines that hold no line end of any kind, the last
of them not empty, are the lines of the text that they are joined to. -/
namespace CallScript.Text

theorem indentBlank {c : Char} (indent : isIndent c = true) : isBlank c = true := by
  rcases Bool.or_eq_true_iff.mp indent with same | same <;> cases beq_iff_eq.mp same <;> decide

theorem indentWithin {c : Char} (indent : isIndent c = true) : isLineEnd c = false := by
  rcases Bool.or_eq_true_iff.mp indent with same | same <;> cases beq_iff_eq.mp same <;> decide

section Pieces

variable {separator : Char}

theorem piecesSeparated {piece : List Char} (without : separator ∉ piece) (rest : List Char) :
    pieces separator (piece ++ separator :: rest) = piece :: pieces separator rest := by
  induction piece with
  | nil => simp [pieces]
  | cons c piece ih =>
    simp only [List.mem_cons, not_or] at without
    obtain ⟨other, without⟩ := without
    rw [List.cons_append, pieces, if_neg (by simpa using Ne.symm other), ih without]

theorem piecesSingle {piece : List Char} (without : separator ∉ piece) : pieces separator piece = [piece] := by
  induction piece with
  | nil => rfl
  | cons c piece ih =>
    simp only [List.mem_cons, not_or] at without
    obtain ⟨other, without⟩ := without
    rw [pieces, if_neg (by simpa using Ne.symm other), ih without]

theorem piecesJoined {parts : List (List Char)} (some : parts ≠ [])
    (without : ∀ part ∈ parts, separator ∉ part) :
    pieces separator (joined separator parts) = parts := by
  induction parts with
  | nil => exact absurd rfl some
  | cons first rest ih =>
    obtain ⟨head, tail⟩ := List.forall_mem_cons.mp without
    cases rest with
    | nil => exact piecesSingle head
    | cons second rest =>
      rw [joined, piecesSeparated head, ih (List.cons_ne_nil _ _) tail]
      exact List.cons_ne_nil _ _

theorem joinedTerminated {parts : List (List Char)} (some : parts ≠ []) :
    joined separator parts ++ [separator] = parts.flatMap (· ++ [separator]) := by
  induction parts with
  | nil => exact absurd rfl some
  | cons first rest ih =>
    cases rest with
    | nil => simp [joined]
    | cons second rest =>
      rw [joined, List.append_assoc, List.cons_append, ih (List.cons_ne_nil _ _), List.flatMap_cons (x := first)]
      · simp
      · exact List.cons_ne_nil _ _

end Pieces

theorem linesOrdinary {c : Char} (within : isLineEnd c = false) (cs : List Char) :
    lines (c :: cs) = (c :: (lines cs).headD []) :: (lines cs).tail := by
  rw [lines.eq_3 c cs (by rintro _ rfl; exact absurd within (by decide)), within]
  cases lines cs <;> rfl

theorem linesPresent {cs : List Char} (some : cs ≠ []) : lines cs ≠ [] := by
  fun_cases lines cs with
  | case1 => exact absurd rfl some
  | _ => exact List.cons_ne_nil _ _

theorem linesPlain {cs line : List Char} (mem : line ∈ lines cs) : ∀ c ∈ line, isLineEnd c = false := by
  fun_induction lines cs generalizing line with
  | case1 => exact absurd mem List.not_mem_nil
  | case2 rest ih | case3 c rest _ _ ih =>
    rcases List.mem_cons.mp mem with rfl | mem
    · exact fun _ mem => absurd mem List.not_mem_nil
    · exact ih mem
  | case4 c rest _ within _ ih =>
    cases List.mem_singleton.mp mem
    simpa using within
  | case5 c rest _ within first more split ih =>
    rcases List.mem_cons.mp mem with rfl | mem
    · exact List.forall_mem_cons.mpr ⟨by simpa using within, ih (split ▸ List.mem_cons_self)⟩
    · exact ih (split ▸ List.mem_cons_of_mem _ mem)

/- A line end ends a line, whatever follows, but for the carriage return in front of a line feed. -/
theorem linesCut {c : Char} (ends : isLineEnd c = true) {cs : List Char}
    (apart : ∀ rest, c = '\r' → cs = '\n' :: rest → False) :
    lines (c :: cs) = [] :: lines cs := by
  rw [lines.eq_3 c cs apart, if_pos ends]

theorem apartFed {c : Char} {cs : List Char} (apart : ∀ rest, c = '\r' → cs = '\n' :: rest → False)
    (more : ¬(c = '\r' ∧ cs = [])) (tail : List Char) :
    ∀ rest, c = '\r' → cs ++ '\n' :: tail = '\n' :: rest → False := by
  intro rest same first
  cases cs with
  | nil => exact more ⟨same, rfl⟩
  | cons d cs => exact apart cs same (by rw [(List.cons.inj first).1])

theorem linesFeed (cs rest : List Char) : lines (cs ++ '\n' :: rest) = lines (cs ++ ['\n']) ++ lines rest := by
  fun_induction lines cs with
  | case1 => rfl
  | case2 more ih => simp only [List.cons_append, lines, ih]
  | case3 c more apart ends ih =>
    by_cases pair : c = '\r' ∧ more = []
    · obtain ⟨rfl, rfl⟩ := pair
      rfl
    · rw [List.cons_append, List.cons_append, linesCut ends (apartFed apart pair rest),
        linesCut ends (apartFed apart pair []), ih, List.cons_append]
  | case4 c more _ within _ ih | case5 c more _ within _ _ _ ih =>
    have within : isLineEnd c = false := by simpa using within
    rw [List.cons_append, List.cons_append, linesOrdinary within, linesOrdinary within, ih]
    cases split : lines (more ++ ['\n']) with
    | nil => exact absurd split (linesPresent (by simp))
    | cons first others => rfl

theorem linesFed (parts : List (List Char)) :
    lines (parts.flatMap (· ++ ['\n'])) = parts.flatMap (fun part => lines (part ++ ['\n'])) := by
  induction parts with
  | nil => rfl
  | cons part parts ih =>
    rw [List.flatMap_cons, List.append_assoc, List.singleton_append, linesFeed, ih, List.flatMap_cons]

theorem linesEnded (cs : List Char) : lines (cs ++ ['\n']) = lines cs ∨ lines (cs ++ ['\n']) = lines cs ++ [[]] := by
  fun_induction lines cs with
  | case1 => exact .inr rfl
  | case2 more ih =>
    simp only [List.cons_append, lines]
    exact ih.imp (congrArg _) (congrArg _)
  | case3 c more apart ends ih =>
    by_cases pair : c = '\r' ∧ more = []
    · obtain ⟨rfl, rfl⟩ := pair
      exact .inl rfl
    · rw [List.cons_append, linesCut ends (apartFed apart pair [])]
      exact ih.imp (congrArg _) (congrArg _)
  | case4 c more _ within none ih =>
    have nothing : more = [] := Classical.byContradiction (fun some => linesPresent some none)
    have within : isLineEnd c = false := by simpa using within
    subst nothing
    exact .inl (linesOrdinary within _)
  | case5 c more _ within first others split ih =>
    have within : isLineEnd c = false := by simpa using within
    rw [List.cons_append, linesOrdinary within]
    rcases ih with same | same <;> rw [same, split]
    · exact .inl rfl
    · exact .inr rfl

theorem linesSingle {line : List Char} (plain : ∀ c ∈ line, isLineEnd c = false) :
    lines (line ++ ['\n']) = [line] := by
  induction line with
  | nil => rfl
  | cons c line ih =>
    obtain ⟨within, plain⟩ := List.forall_mem_cons.mp plain
    rw [List.cons_append, linesOrdinary within, ih plain]
    rfl

theorem linesJoined {parts : List (List Char)} (plain : ∀ part ∈ parts, ∀ c ∈ part, isLineEnd c = false)
    (last : parts.getLast? ≠ some []) : lines (joined '\n' parts) = parts := by
  rcases List.eq_nil_or_concat' parts with rfl | ⟨front, final, rfl⟩
  · rfl
  · have each : (front ++ [final]).flatMap (fun part => lines (part ++ ['\n'])) = front ++ [final] := by
      rw [List.flatMap_congr (fun part mem => linesSingle (plain part mem)), List.flatMap_singleton']
    have whole : lines (joined '\n' (front ++ [final]) ++ ['\n']) = front ++ [final] := by
      rw [joinedTerminated (by simp), linesFed, each]
    rcases linesEnded (joined '\n' (front ++ [final])) with same | same
    · rw [← same, whole]
    · rw [whole] at same
      have empty : final = [] := by simpa using (List.append_inj' same rfl).2
      exact absurd (by rw [empty, List.getLast?_concat]) last

end CallScript.Text

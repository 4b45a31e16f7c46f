import CallScript.Proofs.Headlines
import CallScript.Proofs.Lines

/-! The outline of a tree. A node has a line and below it, one step further in, the lines of its parts. Where the lines
of a part end can be told from their indentation, so the lines of two trees agree only if the trees do, whatever
less indented lines follow them; and no line has a line end in it. -/
namespace CallScript.Syntax

def Form.label : Form → Nat → String
  | .program, n => indexed "stmt" n
  | .assignment, _ => "value"
  | .list, n => indexed "item" n
  | .unary, _ => "operand"
  | .binary, 0 => "left"
  | .binary, _ => "right"
  | .call, n => indexed "arg" n
  | .literal _, _ | .variable, _ => ""

structure Flush (label : String) : Prop where
  first : ∀ c ∈ label.toList.head?, c ≠ ' '
  oneLine : '\n' ∉ label.toList

theorem labelFlush (form : Form) (n : Nat) : Flush (form.label n) := by
  have digits : '\n' ∉ Nat.toDigits 10 n := fun mem => absurd ((naturalDigits n).1 _ mem) (by decide)
  cases form with
  | program | list | call => exact ⟨by simp [Form.label, indexed], by simp [Form.label, indexed, digits]⟩
  | binary => cases n <;> exact ⟨by simp [Form.label], by simp [Form.label]⟩
  | _ => exact ⟨by simp [Form.label], by simp [Form.label]⟩

def partLines (label : Nat → String) (depth n : Nat) : List Node → Except Fault (List String)
  | [] => .ok []
  | node :: rest => do
      let lines ← node.outlineLines "  " depth (label n)
      return lines ++ (← partLines label depth (n + 1) rest)

theorem childLines (label : String) (depth n : Nat) (nodes : List Node) :
    outlineChildren "  " depth label n nodes = partLines (indexed label) depth n nodes := by
  induction nodes generalizing n with
  | nil => rfl
  | cons node rest ih => rw [outlineChildren, partLines, ih]

section Lines

variable {t : Node} {form : Form} {details label : String} {depth : Nat}

theorem partLinesCons {named : Nat → String} {node : Node} {nodes : List Node} {n : Nat} {lines : List String} :
    partLines named depth n (node :: nodes) = .ok lines ↔ ∃ first rest,
      node.outlineLines "  " depth (named n) = .ok first ∧
      partLines named depth (n + 1) nodes = .ok rest ∧ lines = first ++ rest := by
  constructor
  · intro same
    obtain ⟨first, head, same⟩ := exceptBind.mp same
    obtain ⟨rest, tail, same⟩ := exceptBind.mp same
    cases same
    exact ⟨first, rest, head, tail, rfl⟩
  · rintro ⟨first, rest, head, tail, rfl⟩
    exact exceptBind.mpr ⟨first, head, exceptBind.mpr ⟨rest, tail, rfl⟩⟩

theorem partLinesOne (named : Nat → String) (node : Node) (n : Nat) :
    partLines named depth n [node] = node.outlineLines "  " depth (named n) := by
  rw [partLines]
  cases node.outlineLines "  " depth (named n) with
  | error => rfl
  | ok lines => exact congrArg Except.ok (List.append_nil lines)

theorem partLinesTwo (named : Nat → String) (node node' : Node) (n : Nat) :
    partLines named depth n [node, node'] = (do
      let lines ← node.outlineLines "  " depth (named n)
      return lines ++ (← node'.outlineLines "  " depth (named (n + 1)))) := by
  rw [partLines, partLinesOne]

theorem outlinedNode (headed : t.Headed form details) : t.outlineLines "  " depth label = (do
    let rest ← partLines form.label (depth + 1) 0 t.parts
    return outlineLine "  " depth label (form.name ++ details) :: rest) := by
  have named : t.headline = .ok (form.name ++ details) := headedHeadline headed
  rw [Tree.outlineLines.eq_def, named]
  cases headed with
  | program | list | call =>
    change (do return _ :: (← outlineChildren "  " (depth + 1) _ 0 _)) = _
    rw [childLines]
    rfl
  | assignment | unary =>
    rw [Tree.parts, partLinesOne]
    rfl
  | @binary op left right =>
    rw [Tree.parts, partLinesTwo, Form.label, Form.label]
    · change (do
        let leftLines ← left.outlineLines "  " (depth + 1) "left"
        let rightLines ← right.outlineLines "  " (depth + 1) "right"
        return _ :: (leftLines ++ rightLines)) = _
      cases left.outlineLines "  " (depth + 1) "left" with
      | error => rfl
      | ok => cases right.outlineLines "  " (depth + 1) "right" <;> rfl
    · exact Nat.succ_ne_zero 0
  | literal | mention => rfl

theorem indentationChars (depth : Nat) : (indentation "  " depth).toList = List.replicate (2 * depth) ' ' := by
  induction depth with
  | zero => rfl
  | succ depth ih =>
    rw [indentation, String.toList_append, ih, Nat.mul_succ, Nat.add_comm, List.replicate_add]
    rfl

def Deep (depth : Nat) (line : String) : Prop := List.replicate (2 * depth) ' ' <+: line.toList

theorem deepLess {line : String} (deep : Deep (depth + 1) line) : Deep depth line :=
  (List.prefix_append _ _).trans (by rwa [Deep, Nat.mul_succ, List.replicate_add] at deep)

theorem lineChars (depth : Nat) (label headline : String) : (outlineLine "  " depth label headline).toList =
    List.replicate (2 * depth) ' ' ++ ((if label.isEmpty then "" else label ++ ": ") ++ headline).toList := by
  rw [outlineLine, String.append_assoc, String.toList_append, indentationChars]

theorem lineDepth (flush : Flush label) (form : Form) (details : String) (depth : Nat) :
    Deep depth (outlineLine "  " depth label (form.name ++ details)) ∧
      ¬ Deep (depth + 1) (outlineLine "  " depth label (form.name ++ details)) := by
  rw [Deep, Deep, lineChars]
  refine ⟨List.prefix_append _ _, fun deep => ?_⟩
  rw [Nat.mul_succ, List.replicate_add, List.prefix_append_right_inj] at deep
  have first : ∀ c ∈ ((if label.isEmpty then "" else label ++ ": ") ++ (form.name ++ details)).toList.head?, c ≠ ' ' := by
    obtain ⟨letters, some⟩ := formLetters form
    obtain ⟨c, rest, chars⟩ := List.exists_cons_of_ne_nil some
    rw [chars] at letters
    have letter : c ≠ ' ' := by
      rintro rfl
      exact absurd (letters _ List.mem_cons_self) (by decide)
    split
    · simpa [chars] using letter
    · rename_i named
      cases inner : label.toList with
      | nil => exact absurd (by simpa using inner) named
      | cons d more => simpa [inner] using flush.first d (by rw [inner]; rfl)
  generalize ((if label.isEmpty then "" else label ++ ": ") ++ (form.name ++ details)).toList = cs at deep first
  cases cs with
  | nil => simp at deep
  | cons c cs =>
    have space : ' ' = c := (List.cons_prefix_cons.mp deep).1
    exact first c rfl space.symm

def Closed (depth : Nat) (rest : List String) : Prop := ∀ line ∈ rest.head?, ¬ Deep (depth + 1) line

theorem closedMore {rest : List String} (closed : Closed depth rest) : Closed (depth + 1) rest :=
  fun line mem deep => closed line mem (deepLess deep)

/- The lines of a tree can be told from what follows them, and tell the tree. -/
def Tree.Apart (t : Node) : Prop :=
  ∀ {u : Node} {depth : Nat} {label : String} {lines lines' rest rest' : List String},
  u.Whole → Flush label → t.outlineLines "  " depth label = .ok lines →
  u.outlineLines "  " depth label = .ok lines' →
    Closed depth rest → Closed depth rest' → lines ++ rest = lines' ++ rest' → t = u ∧ rest = rest'

theorem wholeFirst {lines : List String} (whole : t.Whole) (flush : Flush label)
    (outlined : t.outlineLines "  " depth label = .ok lines) :
    ∃ line more, lines = line :: more ∧ Deep depth line ∧ ¬ Deep (depth + 1) line := by
  cases whole with
  | node headed parts =>
    rw [outlinedNode headed] at outlined
    obtain ⟨rest, -, same⟩ := exceptBind.mp outlined
    cases same
    exact ⟨_, _, rfl, lineDepth flush ..⟩

theorem partsClosed {named : Nat → String} {nodes : List Node} {n : Nat} {lines rest : List String}
    (flush : ∀ n, Flush (named n)) (wholes : ∀ node ∈ nodes, node.Whole)
    (outlined : partLines named (depth + 1) n nodes = .ok lines) (closed : Closed depth rest) :
    Closed (depth + 1) (lines ++ rest) := by
  cases nodes with
  | nil =>
    cases outlined
    exact closedMore closed
  | cons node nodes =>
    obtain ⟨first, later, head, tail, rfl⟩ := partLinesCons.mp outlined
    obtain ⟨line, more, rfl, -, shallow⟩ := wholeFirst (wholes node List.mem_cons_self) (flush n) head
    rintro _ ⟨⟩
    exact shallow

theorem partsEnd {named : Nat → String} {node : Node} {nodes : List Node} {n : Nat} {lines rest rest' : List String}
    (flush : ∀ n, Flush (named n)) (whole : node.Whole)
    (outlined : partLines named (depth + 1) n (node :: nodes) = .ok lines) (closed : Closed depth rest) :
    rest ≠ lines ++ rest' := by
  rintro rfl
  obtain ⟨first, later, head, tail, rfl⟩ := partLinesCons.mp outlined
  obtain ⟨line, more, rfl, deep, -⟩ := wholeFirst whole (flush n) head
  exact closed line rfl deep

theorem partsApart {named : Nat → String} {ts us : List Node} {n : Nat} {lines lines' rest rest' : List String}
    (flush : ∀ n, Flush (named n)) (each : ∀ t ∈ ts, t.Whole ∧ t.Apart) (wholes : ∀ u ∈ us, u.Whole)
    (outlined : partLines named (depth + 1) n ts = .ok lines)
    (outlined' : partLines named (depth + 1) n us = .ok lines')
    (closed : Closed depth rest) (closed' : Closed depth rest') (same : lines ++ rest = lines' ++ rest') :
    ts = us ∧ rest = rest' := by
  induction ts generalizing us n lines lines' with
  | nil =>
    cases outlined
    cases us with
    | nil =>
      cases outlined'
      exact ⟨rfl, same⟩
    | cons u us => exact absurd same (partsEnd flush (wholes u List.mem_cons_self) outlined' closed)
  | cons t ts ih =>
    obtain ⟨⟨whole, apart⟩, others⟩ := List.forall_mem_cons.mp each
    cases us with
    | nil =>
      cases outlined'
      exact absurd same.symm (partsEnd flush whole outlined closed')
    | cons u us =>
      obtain ⟨whole', others'⟩ := List.forall_mem_cons.mp wholes
      obtain ⟨first, later, head, tail, rfl⟩ := partLinesCons.mp outlined
      obtain ⟨first', later', head', tail', rfl⟩ := partLinesCons.mp outlined'
      rw [List.append_assoc, List.append_assoc] at same
      obtain ⟨rfl, later⟩ :=
        apart whole' (flush n) head head' (partsClosed flush (fun t mem => (others t mem).1) tail closed)
        (partsClosed flush others' tail' closed') same
      obtain ⟨rfl, follows⟩ := ih others others' tail tail' later
      exact ⟨rfl, follows⟩

theorem wholeApart (whole : t.Whole) : t.Apart := by
  induction whole with
  | node headed parts ih =>
    intro u depth label lines lines' rest rest' whole' flush outlined outlined' closed closed' same
    cases whole' with
    | node headed' parts' =>
      rw [outlinedNode headed] at outlined
      rw [outlinedNode headed'] at outlined'
      obtain ⟨below, inner, made⟩ := exceptBind.mp outlined
      obtain ⟨below', inner', made'⟩ := exceptBind.mp outlined'
      cases made
      cases made'
      obtain ⟨first, later⟩ := List.cons.inj same
      obtain ⟨rfl, rfl⟩ := headlineForms headed headed' ((String.append_right_inj _).mp first)
      obtain ⟨sameParts, follows⟩ :=
        partsApart (labelFlush _) (fun part mem => ⟨parts part mem, ih part mem⟩) parts'
        inner inner' closed closed' later
      exact ⟨headedSame headed headed' sameParts, follows⟩

end Lines

section Outlines

variable {t u : Node}

theorem partsOutlined {named : Nat → String} (flush : ∀ n, Flush (named n)) (depth : Nat) (nodes : List Node)
    (each : ∀ node ∈ nodes, ∀ depth label, Flush label →
      ∃ lines, node.outlineLines "  " depth label = .ok lines ∧ ∀ line ∈ lines, '\n' ∉ line.toList) (n : Nat) :
    ∃ lines, partLines named depth n nodes = .ok lines ∧ ∀ line ∈ lines, '\n' ∉ line.toList := by
  induction nodes generalizing n with
  | nil => exact ⟨[], rfl, by simp⟩
  | cons node nodes ih =>
    obtain ⟨head, others⟩ := List.forall_mem_cons.mp each
    obtain ⟨first, outlined, within⟩ := head depth (named n) (flush n)
    obtain ⟨rest, outlined', within'⟩ := ih others (n + 1)
    exact ⟨first ++ rest, partLinesCons.mpr ⟨first, rest, outlined, outlined', rfl⟩,
      List.forall_mem_append.mpr ⟨within, within'⟩⟩

theorem lineOneLine {depth : Nat} {label headline : String} (flush : Flush label) (within : '\n' ∉ headline.toList) :
    '\n' ∉ (outlineLine "  " depth label headline).toList := by
  have prefixed : '\n' ∉ (if label.isEmpty then "" else label ++ ": ").toList := by
    split
    · simp
    · simp [flush.oneLine]
  rw [lineChars, String.toList_append]
  simp only [List.mem_append, List.mem_replicate, not_or]
  exact ⟨by simp, prefixed, within⟩

theorem wholeOutlined (whole : t.Whole) : ∀ depth label, Flush label →
    ∃ lines, t.outlineLines "  " depth label = .ok lines ∧ ∀ line ∈ lines, '\n' ∉ line.toList := by
  induction whole with
  | @node t form details headed parts ih =>
    intro depth label flush
    obtain ⟨rest, outlined, within⟩ := partsOutlined (labelFlush form) (depth + 1) t.parts ih 0
    rw [outlinedNode headed, outlined]
    exact ⟨_, rfl, List.forall_mem_cons.mpr ⟨lineOneLine flush (headedOneLine headed), within⟩⟩

theorem intercalateJoined (lines : List String) :
    ("\n".intercalate lines).toList = Text.joined '\n' (lines.map String.toList) := by
  rw [String.toList_intercalate]
  induction lines.map String.toList with
  | nil => rfl
  | cons first rest ih =>
    cases rest with
    | nil => simp [Text.joined, List.intercalate]
    | cons second rest =>
      rw [Text.joined, ← ih]
      · simp [List.intercalate]
      · exact List.cons_ne_nil _ _

theorem linesKept {lines lines' : List String} (some : lines ≠ []) (some' : lines' ≠ [])
    (within : ∀ line ∈ lines, '\n' ∉ line.toList) (within' : ∀ line ∈ lines', '\n' ∉ line.toList)
    (same : "\n".intercalate lines = "\n".intercalate lines') : lines = lines' := by
  have pieces {lines : List String} (some : lines ≠ []) (within : ∀ line ∈ lines, '\n' ∉ line.toList) :
      Text.pieces '\n' ("\n".intercalate lines).toList = lines.map String.toList := by
    rw [intercalateJoined, Text.piecesJoined (by simpa using some) (by simpa using within)]
  have chars : lines.map String.toList = lines'.map String.toList := by
    rw [← pieces some within, ← pieces some' within', same]
  exact List.map_injective_iff.mpr (fun _ _ => String.toList_inj.mp) chars

/- The outline of a script determines it. -/
theorem outlineDetermines (whole : t.Whole) (whole' : u.Whole) :
    ∃ s s', t.outline "  " = .ok s ∧ u.outline "  " = .ok s' ∧ (s = s' → t = u) := by
  have flush : Flush "" := ⟨by simp, by simp⟩
  obtain ⟨lines, outlined, within⟩ := wholeOutlined whole 0 "" flush
  obtain ⟨lines', outlined', within'⟩ := wholeOutlined whole' 0 "" flush
  refine ⟨"\n".intercalate lines, "\n".intercalate lines', ?_, ?_, fun same => ?_⟩
  · rw [Tree.outline, outlined]
    rfl
  · rw [Tree.outline, outlined']
    rfl
  · obtain ⟨_, _, some, -⟩ := wholeFirst whole flush outlined
    obtain ⟨_, _, some', -⟩ := wholeFirst whole' flush outlined'
    have same := linesKept (by simp [some]) (by simp [some']) within within' same
    have none : Closed 0 [] := by simp [Closed]
    exact (wholeApart whole whole' flush outlined outlined' none none (by rw [same])).1

end Outlines

end CallScript.Syntax

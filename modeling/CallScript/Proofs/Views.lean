import CallScript.Proofs.Outlines

/-! The two views of a script, and that each of them determines it. Records are compared as values of their types are:
lists item by item, dictionaries whatever the order of their entries, and no number is equal to one of another type. -/
namespace CallScript

inductive Value.Alike : Value → Value → Prop where
  | same (v : Value) : Alike v v
  | float {x y : Float} (equal : (x == y) = true) : Alike (.float x) (.float y)
  | complex {x y x' y' : Float} (real : (x == x') = true) (imaginary : (y == y') = true) :
      Alike (.complex x y) (.complex x' y')
  | list {vs ws : List Value} (items : List.Forall₂ Alike vs ws) : Alike (.list vs) (.list ws)
  | tuple {vs ws : List Value} (items : List.Forall₂ Alike vs ws) : Alike (.tuple vs) (.tuple ws)
  | dict {entries entries' : List (Value × Value)} (size : entries.length = entries'.length)
      (partner : Value × Value → Value × Value) (mem : ∀ entry ∈ entries, partner entry ∈ entries')
      (keys : ∀ entry ∈ entries, Alike entry.1 (partner entry).1)
      (values : ∀ entry ∈ entries, Alike entry.2 (partner entry).2) : Alike (.dict entries) (.dict entries')

section Equality

variable {v w : Value}

theorem alikeText {s : String} (alike : Value.Alike (.text s) v) : v = .text s := by
  cases alike
  rfl

theorem alikeTruth {b : Bool} (alike : Value.Alike (.bool b) v) : v = .bool b := by
  cases alike
  rfl

theorem alikeItems {vs ws : List Value} (alike : Value.Alike (.list vs) (.list ws)) :
    List.Forall₂ Value.Alike vs ws := by
  cases alike with
  | same => exact List.forall₂_same.mpr (fun v _ => .same v)
  | list items => exact items

theorem alikeEntry {entries entries' : List (Value × Value)} (alike : Value.Alike (.dict entries) (.dict entries'))
    {entry : Value × Value} (mem : entry ∈ entries) :
    ∃ entry' ∈ entries', entry.1.Alike entry'.1 ∧ entry.2.Alike entry'.2 := by
  cases alike with
  | same => exact ⟨entry, mem, .same _, .same _⟩
  | dict size partner found keys values => exact ⟨partner entry, found entry mem, keys entry mem, values entry mem⟩

end Equality

namespace Syntax

section Records

theorem alikeField {type type' : String} {fields fields' : List (String × Value)}
    (alike : (record type fields).Alike (record type' fields')) {name : String} {v : Value}
    (mem : (name, v) ∈ ("type", .text type) :: fields) :
    ∃ w, (name, w) ∈ ("type", .text type') :: fields' ∧ v.Alike w := by
  obtain ⟨entry, found, key, value⟩ := alikeEntry alike (List.mem_map_of_mem mem)
  obtain ⟨⟨name', w⟩, mem', rfl⟩ := List.mem_map.mp found
  cases alikeText key
  exact ⟨w, mem', value⟩

variable {t u : Node} {form form' : Form} {details details' : String} {v w : Value}

theorem recordedNode (headed : t.Headed form details) (recorded : t.record = .ok v) :
    ∃ fields, v = record form.name fields ∧ ∀ field ∈ fields, field.1 ≠ "type" := by
  cases headed with
  | literal | mention =>
    cases recorded
    exact ⟨_, rfl, by simp⟩
  | program | assignment | list | unary | call =>
    obtain ⟨_, -, same⟩ := exceptBind.mp (by rwa [Tree.record] at recorded)
    cases same
    exact ⟨_, rfl, by simp⟩
  | binary =>
    obtain ⟨_, -, rest⟩ := exceptBind.mp (by rwa [Tree.record] at recorded)
    obtain ⟨_, -, same⟩ := exceptBind.mp rest
    cases same
    exact ⟨_, rfl, by simp⟩

theorem recordForms (headed : t.Headed form details) (headed' : u.Headed form' details') (recorded : t.record = .ok v)
    (recorded' : u.record = .ok w) (alike : v.Alike w) : form = form' := by
  obtain ⟨fields, rfl, -⟩ := recordedNode headed recorded
  obtain ⟨fields', rfl, others⟩ := recordedNode headed' recorded'
  obtain ⟨w, mem, same⟩ := alikeField alike List.mem_cons_self
  rcases List.mem_cons.mp mem with same' | mem
  · cases same'
    exact formNamed (Value.text.inj (alikeText same)).symm
  · exact absurd rfl (others _ mem)

theorem alikeNamed {type type' : String} {fields fields' : List (String × Value)}
    (alike : (record type fields).Alike (record type' fields')) (name : String)
    (mem : (name, v) ∈ ("type", .text type) :: fields)
    (only : ∀ found, (name, found) ∈ ("type", .text type') :: fields' → found = w) : v.Alike w := by
  obtain ⟨found, mem', same⟩ := alikeField alike mem
  rwa [only found mem'] at same

def Tree.Told (t : Node) : Prop := ∀ {u : Node} {v w : Value},
  u.Whole → t.record = .ok v → u.record = .ok w → v.Alike w → t = u

theorem recordAllCons {node : Node} {nodes : List Node} {vs : List Value} : recordAll (node :: nodes) = .ok vs ↔
    ∃ v rest, node.record = .ok v ∧ recordAll nodes = .ok rest ∧ vs = v :: rest := by
  constructor
  · intro same
    obtain ⟨v, head, same⟩ := exceptBind.mp same
    obtain ⟨rest, tail, same⟩ := exceptBind.mp same
    cases same
    exact ⟨v, rest, head, tail, rfl⟩
  · rintro ⟨v, rest, head, tail, rfl⟩
    exact exceptBind.mpr ⟨v, head, exceptBind.mpr ⟨rest, tail, rfl⟩⟩

theorem allTold {ts us : List Node} {vs ws : List Value} (each : ∀ t ∈ ts, t.Told) (wholes : ∀ u ∈ us, u.Whole)
    (recorded : recordAll ts = .ok vs) (recorded' : recordAll us = .ok ws) (alike : List.Forall₂ Value.Alike vs ws) :
    ts = us := by
  induction ts generalizing us vs ws with
  | nil =>
    cases recorded
    cases alike
    cases us with
    | nil => rfl
    | cons =>
      obtain ⟨_, _, -, -, same⟩ := recordAllCons.mp recorded'
      cases same
  | cons t ts ih =>
    obtain ⟨v, rest, head, tail, rfl⟩ := recordAllCons.mp recorded
    cases alike with
    | cons first others =>
      cases us with
      | nil => cases recorded'
      | cons u us =>
        obtain ⟨w, rest', head', tail', same⟩ := recordAllCons.mp recorded'
        cases same
        obtain ⟨told, each⟩ := List.forall_mem_cons.mp each
        obtain ⟨whole, wholes⟩ := List.forall_mem_cons.mp wholes
        rw [told whole head head' first, ih each wholes tail tail' others]

theorem toldAlike {l l' : Literal} {s s' : String} (told : l.Told s) (told' : l'.Told s') (kinds : l.kind = l'.kind)
    (alike : l.value.Alike l'.value) : l = l' := by
  cases told with
  | integer =>
    cases told' with
    | integer =>
      cases alike
      rfl
    | float => cases alike
    | text | truth => cases kinds
  | float unsigned =>
    cases told' with
    | integer => cases alike
    | float unsigned' =>
      cases alike with
      | same => rfl
      | float equal => rw [Number.equalUnsigned unsigned unsigned' equal]
    | text | truth => cases kinds
  | text =>
    cases told' with
    | integer | float | truth => cases kinds
    | text =>
      cases alike
      rfl
  | truth =>
    cases told' with
    | integer | float | text => cases kinds
    | truth =>
      cases alikeTruth alike
      rfl

def Tree.ToldAs (t : Node) (form : Form) : Prop := ∀ {u : Node} {details : String} {v w : Value},
  u.Headed form details → (∀ part ∈ u.parts, part.Whole) → t.record = .ok v → u.record = .ok w → v.Alike w → t = u

theorem programTold {statements : List Node} (each : ∀ s ∈ statements, s.Told) :
    (Tree.program statements).ToldAs .program := by
  intro u _ v w headed wholes recorded recorded' alike
  cases headed
  rw [Tree.record] at recorded recorded'
  obtain ⟨vs, all, made⟩ := exceptBind.mp recorded
  obtain ⟨ws, all', made'⟩ := exceptBind.mp recorded'
  cases made
  cases made'
  have items : Value.Alike (.list vs) (.list ws) := alikeNamed alike "statements" (by simp) (by simp)
  cases allTold each wholes all all' (alikeItems items)
  rfl

theorem listTold {items : List Node} (each : ∀ item ∈ items, item.Told) : (Tree.list items).ToldAs .list := by
  intro u _ v w headed wholes recorded recorded' alike
  cases headed
  rw [Tree.record] at recorded recorded'
  obtain ⟨vs, all, made⟩ := exceptBind.mp recorded
  obtain ⟨ws, all', made'⟩ := exceptBind.mp recorded'
  cases made
  cases made'
  have items : Value.Alike (.list vs) (.list ws) := alikeNamed alike "items" (by simp) (by simp)
  cases allTold each wholes all all' (alikeItems items)
  rfl

theorem callTold {name : String} {args : List Node} {statement : Bool} (each : ∀ arg ∈ args, arg.Told) :
    (Tree.call name args statement).ToldAs .call := by
  intro u _ v w headed wholes recorded recorded' alike
  cases headed with
  | @call name' args' statement' =>
    rw [Tree.record] at recorded recorded'
    obtain ⟨vs, all, made⟩ := exceptBind.mp recorded
    obtain ⟨ws, all', made'⟩ := exceptBind.mp recorded'
    cases made
    cases made'
    have names : Value.Alike (.text name) (.text name') := alikeNamed alike "name" (by simp) (by simp)
    have flags : Value.Alike (.bool statement) (.bool statement') := alikeNamed alike "statement" (by simp) (by simp)
    have items : Value.Alike (.list vs) (.list ws) := alikeNamed alike "args" (by simp) (by simp)
    cases alikeText names
    cases alikeTruth flags
    cases allTold each wholes all all' (alikeItems items)
    rfl

theorem assignmentTold {name : String} {value : Node} (told : value.Told) :
    (Tree.assignment name value).ToldAs .assignment := by
  intro u _ v w headed wholes recorded recorded' alike
  cases headed with
  | @assignment name' value' =>
    rw [Tree.record] at recorded recorded'
    obtain ⟨v, below, made⟩ := exceptBind.mp recorded
    obtain ⟨w, below', made'⟩ := exceptBind.mp recorded'
    cases made
    cases made'
    have names : Value.Alike (.text name) (.text name') := alikeNamed alike "name" (by simp) (by simp)
    have values : v.Alike w := alikeNamed alike "value" (by simp) (by simp)
    cases alikeText names
    cases told (wholes value' List.mem_cons_self) below below' values
    rfl

theorem unaryTold {op : UnaryOperator} {operand : Node} (known : op = .minus ∨ op = .negation) (told : operand.Told) :
    (Tree.unary op operand).ToldAs .unary := by
  intro u _ v w headed wholes recorded recorded' alike
  cases headed with
  | @unary op' operand' known' =>
    rw [Tree.record] at recorded recorded'
    obtain ⟨v, below, made⟩ := exceptBind.mp recorded
    obtain ⟨w, below', made'⟩ := exceptBind.mp recorded'
    cases made
    cases made'
    have symbols : Value.Alike (.text op.symbol) (.text op'.symbol) := alikeNamed alike "op" (by simp) (by simp)
    have operands : v.Alike w := alikeNamed alike "operand" (by simp) (by simp)
    rw [signsApart known known' (Value.text.inj (alikeText symbols)).symm,
      told (wholes operand' List.mem_cons_self) below below' operands]

theorem binaryTold {op : Operator} {left right : Node} (known : op ∈ Operator.known) (told : left.Told)
    (told' : right.Told) : (Tree.binary op left right).ToldAs .binary := by
  intro u _ v w headed wholes recorded recorded' alike
  cases headed with
  | @binary op' left' right' known' =>
    rw [Tree.record] at recorded recorded'
    obtain ⟨v, before, rest⟩ := exceptBind.mp recorded
    obtain ⟨v', behind, made⟩ := exceptBind.mp rest
    obtain ⟨w, before', rest'⟩ := exceptBind.mp recorded'
    obtain ⟨w', behind', made'⟩ := exceptBind.mp rest'
    cases made
    cases made'
    have symbols : Value.Alike (.text op.symbol) (.text op'.symbol) := alikeNamed alike "op" (by simp) (by simp)
    have lefts : v.Alike w := alikeNamed alike "left" (by simp) (by simp)
    have rights : v'.Alike w' := alikeNamed alike "right" (by simp) (by simp)
    rw [symbolsApart _ known _ known' (Value.text.inj (alikeText symbols)).symm,
      told (wholes left' List.mem_cons_self) before before' lefts,
      told' (wholes right' (List.mem_cons_of_mem _ List.mem_cons_self)) behind behind' rights]

theorem leafTold {kind : LiteralKind} {value : Value} {s : String} (told : Literal.Told ⟨kind, value⟩ s) :
    (Tree.literal ⟨kind, value⟩).ToldAs (.literal kind) := by
  intro u _ v w headed wholes recorded recorded' alike
  cases headed with
  | @literal _ value' s' told' =>
    cases recorded
    cases recorded'
    have values : value.Alike value' := alikeNamed alike "value" (by simp) (by simp)
    rw [toldAlike told told' rfl values]

theorem mentionTold {name : String} : (Tree.variable name : Node).ToldAs .variable := by
  intro u _ v w headed wholes recorded recorded' alike
  cases headed with
  | @mention name' =>
    cases recorded
    cases recorded'
    have names : Value.Alike (.text name) (.text name') := alikeNamed alike "name" (by simp) (by simp)
    cases alikeText names
    rfl

theorem wholeTold (whole : t.Whole) : t.Told := by
  induction whole with
  | @node t form details headed parts ih =>
    intro u v w whole' recorded recorded' alike
    cases whole' with
    | node headed' parts' =>
      cases recordForms headed headed' recorded recorded' alike
      have told : t.ToldAs form := by
        cases headed with
        | program => exact programTold ih
        | assignment => exact assignmentTold (ih _ List.mem_cons_self)
        | literal told => exact leafTold told
        | mention => exact mentionTold
        | list => exact listTold ih
        | unary known => exact unaryTold known (ih _ List.mem_cons_self)
        | binary known =>
          exact binaryTold known (ih _ List.mem_cons_self) (ih _ (List.mem_cons_of_mem _ List.mem_cons_self))
        | call => exact callTold ih
      exact told headed' parts' recorded recorded' alike

theorem allRecorded {nodes : List Node} (each : ∀ node ∈ nodes, ∃ v, node.record = .ok v) :
    ∃ vs, recordAll nodes = .ok vs := by
  induction nodes with
  | nil => exact ⟨[], rfl⟩
  | cons node nodes ih =>
    obtain ⟨⟨v, head⟩, others⟩ := List.forall_mem_cons.mp each
    obtain ⟨rest, tail⟩ := ih others
    exact ⟨v :: rest, recordAllCons.mpr ⟨v, rest, head, tail, rfl⟩⟩

theorem wholeRecorded (whole : t.Whole) : ∃ v, t.record = .ok v := by
  induction whole with
  | node headed parts ih =>
    cases headed with
    | program | list | call =>
      obtain ⟨vs, all⟩ := allRecorded ih
      rw [Tree.record]
      exact ⟨_, exceptBind.mpr ⟨vs, all, rfl⟩⟩
    | assignment | unary =>
      obtain ⟨v, below⟩ := ih _ List.mem_cons_self
      rw [Tree.record]
      exact ⟨_, exceptBind.mpr ⟨v, below, rfl⟩⟩
    | literal | mention => exact ⟨_, rfl⟩
    | binary =>
      obtain ⟨v, before⟩ := ih _ List.mem_cons_self
      obtain ⟨w, behind⟩ := ih _ (List.mem_cons_of_mem _ List.mem_cons_self)
      rw [Tree.record]
      exact ⟨_, exceptBind.mpr ⟨v, before, exceptBind.mpr ⟨w, behind, rfl⟩⟩⟩

end Records

/- Two scripts of which either view is the same are the same script. -/
theorem viewsDetermine {source source' : String} {p q : Node} (parsed : parse source = .ok p)
    (parsed' : parse source' = .ok q) :
    (∃ v w, p.record = .ok v ∧ q.record = .ok w ∧ (v.Alike w → p = q)) ∧
      ∃ s s', p.outline "  " = .ok s ∧ q.outline "  " = .ok s' ∧ (s = s' → p = q) := by
  have whole := parsedWhole parsed
  have whole' := parsedWhole parsed'
  obtain ⟨v, recorded⟩ := wholeRecorded whole
  obtain ⟨w, recorded'⟩ := wholeRecorded whole'
  exact ⟨⟨v, w, recorded, recorded', wholeTold whole whole' recorded recorded'⟩, outlineDetermines whole whole'⟩

def oneCounted : Node := .program [.assignment "x" (.literal ⟨.number, .int 1⟩)]

def oneSpelled : Node := .program [.assignment "x" (.literal ⟨.text, .text "1"⟩)]

theorem quotesShow : parse "$x = 1" = .ok oneCounted ∧ parse "$x = \"1\"" = .ok oneSpelled ∧
    (∀ v w, oneCounted.record = .ok v → oneSpelled.record = .ok w → ¬ v.Alike w) ∧
      oneCounted.outline "  " ≠ oneSpelled.outline "  " := by
  have number : parse "$x = 1" = .ok oneCounted := by with_unfolding_all rfl
  have text : parse "$x = \"1\"" = .ok oneSpelled := by with_unfolding_all rfl
  have apart : oneCounted ≠ oneSpelled := by rintro ⟨⟩
  obtain ⟨⟨v, w, recorded, recorded', told⟩, s, s', outlined, outlined', shown⟩ := viewsDetermine number text
  refine ⟨number, text, fun v' w' same same' alike => ?_, fun same => ?_⟩
  · cases recorded.symm.trans same
    cases recorded'.symm.trans same'
    exact apart (told alike)
  · exact apart (shown (Except.ok.inj (outlined.symm.trans (same.trans outlined'))))

end Syntax

end CallScript

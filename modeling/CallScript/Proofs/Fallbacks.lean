import CallScript.Proofs.Accepted
import CallScript.Proofs.Outside
import CallScript.Syntax.Outline

/-! Accepted scripts have a meaning in all their parts: their evaluation never gets to what stands in the place
of a failure over a node without a meaning, and their records show no part that is not known. -/
namespace CallScript

namespace Syntax

theorem expressionMeant {leaf : Literal → Prop} {tree : Node} (expression : tree.IsExpression leaf) :
    ∀ t ∈ tree.subtrees, t.fallback? = none := by
  induction expression with
  | literal | mention => exact fun t mem => by rw [List.mem_singleton.mp mem]; rfl
  | list each ih | call spelled free each ih =>
    refine List.forall_mem_cons.mpr ⟨rfl, fun t mem => ?_⟩
    obtain ⟨part, among, inside⟩ := memAllSubtrees.mp mem
    exact ih part among t inside
  | unary known inner ih =>
    refine List.forall_mem_cons.mpr ⟨?_, ih⟩
    rcases known with rfl | rfl <;> rfl
  | @binary op left right known first second ih ih' =>
    refine List.forall_mem_cons.mpr ⟨?_, List.forall_mem_append.mpr ⟨ih, ih'⟩⟩
    cases op with
    | unknown symbol => simp [Operator.known] at known
    | _ => rfl

theorem statementMeant {leaf : Literal → Prop} {tree : Node} (statement : tree.IsStatement leaf) :
    ∀ t ∈ tree.subtrees, t.fallback? = none := by
  cases statement with
  | assignment spelled inner => exact List.forall_mem_cons.mpr ⟨rfl, expressionMeant inner⟩
  | call spelled each =>
    refine List.forall_mem_cons.mpr ⟨rfl, fun t mem => ?_⟩
    obtain ⟨part, among, inside⟩ := memAllSubtrees.mp mem
    exact expressionMeant (each part among) t inside

theorem scriptMeant {leaf : Literal → Prop} {tree : Node} (script : tree.IsScript leaf) :
    ∀ t ∈ tree.subtrees, t.fallback? = none := by
  cases script with
  | program each =>
    refine List.forall_mem_cons.mpr ⟨rfl, fun t mem => ?_⟩
    obtain ⟨part, among, inside⟩ := memAllSubtrees.mp mem
    exact statementMeant (each part among) t inside

end Syntax

open Syntax (Node Literal Tree)

inductive Value.Holds : Value → Value → Prop where
  | itself {v} : Holds v v
  | item {items v part} (mem : v ∈ items) (inside : Holds v part) : Holds (.list items) part
  | entry {entries k v part} (mem : (k, v) ∈ entries) (inside : Holds v part) : Holds (.dict entries) part

def Value.Recorded (v : Value) : Prop :=
  ∀ part, v.Holds part → ∀ fields, part ≠ Syntax.record "Unknown" fields

section Recording

theorem recordedPlain {v : Value} (list : ∀ items, v ≠ .list items) (dict : ∀ entries, v ≠ .dict entries) :
    v.Recorded := by
  intro part holds fields
  cases holds with
  | itself => exact dict _
  | item => exact absurd rfl (list _)
  | entry => exact absurd rfl (dict _)

theorem recordedText (s : String) : (Value.text s).Recorded :=
  recordedPlain nofun nofun

theorem recordedList {items : List Value} (each : ∀ v ∈ items, v.Recorded) : (Value.list items).Recorded := by
  intro part holds fields
  cases holds with
  | itself => exact nofun
  | item mem inside => exact each _ mem part inside fields

theorem recordedFields {type : String} {fields : List (String × Value)} (known : type ≠ "Unknown")
    (each : ∀ field ∈ fields, field.2.Recorded) : (Syntax.record type fields).Recorded := by
  intro part holds others
  rw [Syntax.record] at holds
  cases holds with
  | itself =>
    intro same
    injection same with entries
    injection entries with first
    injection first with _ value
    injection value with named
    exact known named
  | entry mem inside =>
    obtain ⟨field, among, same⟩ := List.mem_map.mp mem
    cases same
    rcases List.mem_cons.mp among with rfl | among
    · exact recordedText type part inside others
    · exact each field among part inside others

theorem literalRecorded {l : Literal} (sound : l.Sound) :
    (Syntax.record l.kind.name [("value", l.value)]).Recorded := by
  have kind : l.kind.name ≠ "Unknown" := by cases l.kind <;> decide
  have plain : l.value.Recorded := by cases sound <;> exact recordedPlain nofun nofun
  exact recordedFields kind (by simpa using plain)

theorem recordsRecorded {nodes : List Node}
    (each : ∀ node ∈ nodes, ∃ v, node.record = .ok v ∧ v.Recorded) :
    ∃ vs, Syntax.recordAll nodes = .ok vs ∧ (Value.list vs).Recorded := by
  suffices ∃ vs, Syntax.recordAll nodes = .ok vs ∧ ∀ v ∈ vs, v.Recorded by
    obtain ⟨vs, recorded, all⟩ := this
    exact ⟨vs, recorded, recordedList all⟩
  induction nodes with
  | nil => exact ⟨[], rfl, by simp⟩
  | cons node nodes ih =>
    obtain ⟨⟨v, head, first⟩, others⟩ := List.forall_mem_cons.mp each
    obtain ⟨vs, tail, rest⟩ := ih others
    refine ⟨v :: vs, ?_, List.forall_mem_cons.mpr ⟨first, rest⟩⟩
    rw [Syntax.recordAll, head, tail]
    rfl

theorem expressionRecorded {node : Node} (expression : node.IsExpression Literal.Sound) :
    ∃ v, node.record = .ok v ∧ v.Recorded := by
  induction expression with
  | literal sound => exact ⟨_, rfl, literalRecorded sound⟩
  | mention spelled => exact ⟨_, rfl, recordedFields (by decide) (by simpa using recordedText _)⟩
  | list each ih =>
    obtain ⟨vs, all, recorded⟩ := recordsRecorded ih
    refine ⟨_, by rw [Tree.record, all]; rfl, recordedFields (by decide) (by simpa using recorded)⟩
  | unary known inner ih =>
    obtain ⟨v, operand, recorded⟩ := ih
    refine ⟨_, by rw [Tree.record, operand]; rfl, recordedFields (by decide) ?_⟩
    simpa using ⟨recordedText _, recorded⟩
  | binary known first second ih ih' =>
    obtain ⟨a, left, recorded⟩ := ih
    obtain ⟨b, right, recorded'⟩ := ih'
    refine ⟨_, by rw [Tree.record, left, right]; rfl, recordedFields (by decide) ?_⟩
    simpa using ⟨recordedText _, recorded, recorded'⟩
  | call spelled free each ih =>
    obtain ⟨vs, all, recorded⟩ := recordsRecorded ih
    refine ⟨_, by rw [Tree.record, all]; rfl, recordedFields (by decide) ?_⟩
    simpa using ⟨recordedText _, recordedPlain nofun nofun, recorded⟩

theorem statementRecorded {node : Node} (statement : node.IsStatement Literal.Sound) :
    ∃ v, node.record = .ok v ∧ v.Recorded := by
  cases statement with
  | assignment spelled inner =>
    obtain ⟨v, value, recorded⟩ := expressionRecorded inner
    refine ⟨_, by rw [Tree.record, value]; rfl, recordedFields (by decide) ?_⟩
    simpa using ⟨recordedText _, recorded⟩
  | call spelled each =>
    obtain ⟨vs, all, recorded⟩ := recordsRecorded (fun arg mem => expressionRecorded (each arg mem))
    refine ⟨_, by rw [Tree.record, all]; rfl, recordedFields (by decide) ?_⟩
    simpa using ⟨recordedText _, recordedPlain nofun nofun, recorded⟩

theorem scriptRecorded {node : Node} (script : node.IsScript Literal.Sound) :
    ∃ v, node.record = .ok v ∧ v.Recorded := by
  cases script with
  | program each =>
    obtain ⟨vs, all, recorded⟩ := recordsRecorded (fun s mem => statementRecorded (each s mem))
    refine ⟨_, by rw [Tree.record, all]; rfl, recordedFields (by decide) (by simpa using recorded)⟩

end Recording

/- An accepted script is well-formed. Whatever stands in the places for nodes without a meaning, its evaluation
comes to the same, and it has a record in which everything is known. -/
theorem acceptedMeant {source : String} {node : Node} (parsed : parse source = .ok node) :
    node.IsScript Literal.Sound ∧
      (∀ (τ : Type) (outside : Outside τ) (around : Surroundings) (scope : Scope),
        outside.Faithful around.tree →
          Follows Value (evaluateWith outside around scope node) (evaluate around scope node)) ∧
      ∃ v, node.record = .ok v ∧ v.Recorded := by
  have script := Syntax.parsedScript parsed
  refine ⟨script, fun τ outside around scope faithful => ?_, scriptRecorded script⟩
  refine evaluationFollows faithful scope (fun t mem failure fallback => ?_)
  rw [Syntax.scriptMeant script t mem] at fallback
  cases fallback

theorem negationsMeant : ∃ node, parse "$x = ![.5, f(-$y)] true(1e400)" = .ok node ∧
    node.IsScript Literal.Sound ∧
      (∀ (τ : Type) (outside : Outside τ) (around : Surroundings) (scope : Scope),
        outside.Faithful around.tree →
          Follows Value (evaluateWith outside around scope node) (evaluate around scope node)) ∧
      ∃ v, node.record = .ok v ∧ v.Recorded := by
  have accepted : (parse "$x = ![.5, f(-$y)] true(1e400)").isOk = true := by decide +kernel
  cases parsed : parse "$x = ![.5, f(-$y)] true(1e400)" with
  | error failure =>
    rw [parsed] at accepted
    cases accepted
  | ok node => exact ⟨node, rfl, acceptedMeant parsed⟩

end CallScript

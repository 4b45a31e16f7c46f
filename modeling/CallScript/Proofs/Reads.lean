import CallScript.Proofs.Oblivious
import CallScript.Service

/-! Reads leave no trace. A session takes steps and answers requests; looking into an environment makes an empty
table for it where there was none. What is replied and logged over a move does not depend on the tables that were
made so, nor on the reads that were made between the others. -/
namespace CallScript

namespace Service

def Server.logs {α : Type} (s : Server) (action : Hosted α) : Journal :=
  (action.run ⟨s.registry, []⟩).2.journal

def Server.taskLogs (s : Server) (task : Task) : Journal :=
  match CallScript.parse task.script with
  | .error _ => []
  | .ok node =>
      (runOn ⟨s.tree, Environment.root⟩ ⟨environmentOf task.environment, true⟩ ⟨s.registry, []⟩ task.bindings
        node).host.journal

def Server.routeLogs (s : Server) (route : Route) (r : Request) : Journal :=
  let env := environmentOf (r.address.value? "environment")
  match route with
  | .function name => s.logs (lookup s.tree name env)
  | .documentation => s.logs (CallScript.documentation s.tree env)
  | .evaluate =>
      match readTask true r.body with
      | .error _ => []
      | .ok task => s.taskLogs task
  | .functions | .parse | .ast => []

def Server.requestLogs (s : Server) (r : Request) : Journal :=
  match Route.find? r.address.path with
  | none => []
  | some route => if r.method == route.method then s.routeLogs route r else []

structure Server.Alike (s t : Server) : Prop where
  registry : s.registry.Alike t.registry
  tree : s.tree = t.tree

def SameAnswer (x y : Response × Server) : Prop :=
  x.1 = y.1 ∧ x.2.Alike y.2

section Servers

variable {s t : Server} (alike : s.Alike t)

include alike

theorem sameRun {α : Type} {action : Hosted α} (related : Related Host.Alike action action) :
    (action.run ⟨s.registry, []⟩).1 = (action.run ⟨t.registry, []⟩).1 ∧
      (action.run ⟨s.registry, []⟩).2.Alike (action.run ⟨t.registry, []⟩).2 :=
  related _ _ ⟨alike.registry, rfl⟩

theorem sameAct {α : Type} {action : Hosted α} (related : Related Host.Alike action action) :
    (s.act action).1 = (t.act action).1 ∧ (s.act action).2.Alike (t.act action).2 := by
  obtain ⟨same, after⟩ := sameRun alike related
  exact ⟨same, after.registry, alike.tree⟩

theorem sameLogs {α : Type} {action : Hosted α} (related : Related Host.Alike action action) :
    s.logs action = t.logs action :=
  (sameRun alike related).2.journal

theorem sameFunction (name : String) (env : Environment) : SameAnswer (s.function name env) (t.function name env) := by
  obtain ⟨same, after⟩ := sameAct alike (alikeLookup t.tree env name)
  rw [Server.function, Server.function, alike.tree]
  dsimp only
  rw [same]
  split
  · exact ⟨rfl, after⟩
  · exact ⟨rfl, after⟩
  · exact ⟨rfl, after⟩

theorem sameDocumentation (env : Environment) : SameAnswer (s.documentation env) (t.documentation env) := by
  obtain ⟨same, after⟩ := sameAct alike (alikeDocumentation t.tree env)
  rw [Server.documentation, Server.documentation, alike.tree]
  dsimp only
  rw [same]
  split
  · exact ⟨rfl, after⟩
  · exact ⟨rfl, after⟩

theorem sameParse (task : Task) : s.parse task = t.parse task := by
  simp only [Server.parse, alikeAnalyze alike.registry]

theorem sameCompletion (around : Surroundings) (scope : Scope) (bindings : Dictionary Value) (node : Syntax.Node) :
    (runOn around scope ⟨s.registry, []⟩ bindings node).result =
        (runOn around scope ⟨t.registry, []⟩ bindings node).result ∧
      (runOn around scope ⟨s.registry, []⟩ bindings node).bindings =
        (runOn around scope ⟨t.registry, []⟩ bindings node).bindings ∧
      (runOn around scope ⟨s.registry, []⟩ bindings node).host.Alike
        (runOn around scope ⟨t.registry, []⟩ bindings node).host := by
  have hosts : Host.Alike ⟨s.registry, []⟩ ⟨t.registry, []⟩ := ⟨alike.registry, rfl⟩
  obtain ⟨same, after⟩ := indifferentEvaluation around scope node ⟨_, bindings⟩ ⟨_, bindings⟩ ⟨hosts, rfl⟩
  exact ⟨same, after.bindings, after.host⟩

theorem sameEvaluate (task : Task) : SameAnswer (s.evaluate task) (t.evaluate task) := by
  rw [Server.evaluate, Server.evaluate]
  split
  · exact ⟨rfl, alike⟩
  · rename_i node _
    obtain ⟨same, bindings, after⟩ := sameCompletion alike ⟨t.tree, Environment.root⟩
      ⟨environmentOf task.environment, true⟩ task.bindings node
    rw [alike.tree]
    dsimp only
    rw [same, bindings]
    split
    · exact ⟨rfl, after.registry, rfl⟩
    · exact ⟨rfl, after.registry, rfl⟩

theorem sameTaskLogs (task : Task) : s.taskLogs task = t.taskLogs task := by
  rw [Server.taskLogs, Server.taskLogs, alike.tree]
  split
  · rfl
  · exact (sameCompletion alike _ _ _ _).2.2.journal

theorem sameTake (route : Route) (r : Request) : SameAnswer (s.take route r) (t.take route r) := by
  cases route with
  | functions =>
    refine ⟨?_, alike⟩
    simp only [Server.take, Server.functions, alikeListing alike.registry]
  | function name => exact sameFunction alike name _
  | documentation => exact sameDocumentation alike _
  | parse =>
    rw [Server.take, Server.take]
    split
    · exact ⟨rfl, alike⟩
    · exact ⟨sameParse alike _, alike⟩
  | ast =>
    rw [Server.take, Server.take]
    split
    · exact ⟨rfl, alike⟩
    · exact ⟨rfl, alike⟩
  | evaluate =>
    rw [Server.take, Server.take]
    split
    · exact ⟨rfl, alike⟩
    · exact sameEvaluate alike _

theorem sameAnswer (r : Request) : SameAnswer (s.answer r) (t.answer r) := by
  rw [Server.answer, Server.answer]
  split
  · exact ⟨rfl, alike⟩
  · split
    · exact sameTake alike _ r
    · exact ⟨rfl, alike⟩

theorem sameRequestLogs (r : Request) : s.requestLogs r = t.requestLogs r := by
  rw [Server.requestLogs, Server.requestLogs]
  split
  · rfl
  · rename_i route _
    split
    · cases route with
      | functions => rfl
      | function name =>
        rw [Server.routeLogs, Server.routeLogs, alike.tree]
        exact sameLogs alike (alikeLookup t.tree _ name)
      | documentation =>
        rw [Server.routeLogs, Server.routeLogs, alike.tree]
        exact sameLogs alike (alikeDocumentation t.tree _)
      | parse => rfl
      | evaluate =>
        rw [Server.routeLogs, Server.routeLogs]
        split
        · rfl
        · exact sameTaskLogs alike _
      | ast => rfl
    · rfl

end Servers

end Service

open Service

inductive Move where
  | step (step : Step)
  | request (r : Request)

def Move.isRead : Move → Bool
  | .step (.get ..) | .step (.isRvalue ..) | .step (.arity ..) | .step (.functions ..) | .step (.listing ..)
  | .step (.analyze ..) => true
  | .step _ => false
  | .request r =>
      match Route.find? r.address.path with
      | some .functions => r.method == "GET"
      | some .parse | some .ast => r.method == "POST"
      | _ => false

inductive Move.Answer where
  | reply (result : Except Failure Reply)
  | response (r : Response)

@[ext]
structure Reaction where
  answer : Move.Answer
  journal : Journal

def Move.Answer.complete (last : Session) : Move.Answer → Move.Answer
  | .reply result => .reply (result.map (Reply.complete last))
  | .response r => .response r

def Reaction.complete (last : Session) (reaction : Reaction) : Reaction :=
  { reaction with answer := reaction.answer.complete last }

/- Requests come from outside of every environment that was entered and every registry that was activated, so they
are answered in the root environment from the standard registry. -/
def Session.server (s : Session) : Server := ⟨s.standard, s.tree⟩

def Session.react (s : Session) : Move → Reaction × Session
  | .step step =>
      let (result, s) := (perform step).run { s with journal := [] }
      (⟨.reply result, s.journal⟩, s)
  | .request r =>
      let (response, server) := s.server.answer r
      (⟨.response response, s.server.requestLogs r⟩, { s with standard := server.registry, tree := server.tree })

def reactAll (s : Session) : List Move → List Reaction × Session
  | [] => ([], s)
  | move :: rest =>
      let (reaction, s) := s.react move
      let (reactions, last) := reactAll s rest
      (reaction :: reactions, last)

def Session.reactions (s : Session) (moves : List Move) : List Reaction :=
  let (reactions, last) := reactAll s moves
  reactions.map (Reaction.complete last)

structure Passage where
  opens : List (Owner × Environment)
  move : Move
  extra : Bool
  reads : extra = true → move.isRead = true

def Session.opened (s : Session) : List (Owner × Environment) → Session
  | [] => s
  | (owner, env) :: rest => (s.setRegistry ((s.registry owner).opened env) owner).opened rest

def observeAll (s : Session) : List Passage → List Reaction × Session
  | [] => ([], s)
  | p :: rest =>
      let (reaction, s) := (s.opened p.opens).react p.move
      let (reactions, last) := observeAll s rest
      (if p.extra then reactions else reaction :: reactions, last)

def Session.observe (s : Session) (passages : List Passage) : List Reaction :=
  let (reactions, last) := observeAll s passages
  reactions.map (Reaction.complete last)

def ownMoves (passages : List Passage) : List Move :=
  (passages.filter (fun p => !p.extra)).map Passage.move

theorem sessionSelf (s : Session) : s.Alike s :=
  ⟨alikeSelf s.own, alikeSelf s.standard, rfl, rfl, rfl, rfl⟩

theorem sessionOnward {s t u : Session} (first : s.Alike t) (second : t.Alike u) : s.Alike u :=
  ⟨alikeOnward first.own second.own, alikeOnward first.standard second.standard, first.tree.trans second.tree,
    first.environments.trans second.environments, first.activations.trans second.activations,
    first.workspace.trans second.workspace⟩

theorem openedSession (s : Session) (places : List (Owner × Environment)) : (s.opened places).Alike s := by
  induction places generalizing s with
  | nil => exact sessionSelf s
  | cons place rest ih =>
    obtain ⟨owner, env⟩ := place
    refine sessionOnward (ih _) ?_
    cases owner with
    | own => exact { sessionSelf s with own := openedAlike env s.own }
    | standard => exact { sessionSelf s with standard := openedAlike env s.standard }

theorem reactAlike {s t : Session} (alike : s.Alike t) (move : Move) :
    (s.react move).1 = (t.react move).1 ∧ (s.react move).2.Alike (t.react move).2 := by
  cases move with
  | step step =>
    obtain ⟨same, after⟩ := obliviousPerform step { s with journal := [] } { t with journal := [] }
      ⟨⟨alike.own, alike.standard, alike.tree, alike.environments, alike.activations, alike.workspace⟩, rfl⟩
    refine ⟨?_, after.toAlike⟩
    exact Reaction.ext (congrArg Move.Answer.reply same) after.journal
  | request r =>
    have servers : s.server.Alike t.server := ⟨alike.standard, alike.tree⟩
    obtain ⟨same, after⟩ := sameAnswer servers r
    refine ⟨?_, { alike with standard := after.registry, tree := after.tree }⟩
    exact Reaction.ext (congrArg Move.Answer.response same) (sameRequestLogs servers r)

section Untouched

variable {I : Session → Prop}

theorem keepsFault {α : Type} (result : Except Fault α) : Keeps I (settleFault result) :=
  keepsRelated.mpr (outcomeRelated result)

theorem keepsEnvironment (v : Value) : Keeps I (CallScript.environmentOf v) :=
  keepsBind keepsGet (fun _ => keepsFault _)

/- A read leaves the session exactly as it was, apart from the tables that it opens. -/
theorem readKeeps {step : Step} (reads : (Move.step step).isRead = true) : Keeps I (perform step) := by
  cases step with
  | get | isRvalue | arity =>
    refine keepsBind keepsGet (fun s => keepsBind (keepsEnvironment _) (fun env => ?_))
    exact keepsBind (keepsFault _) (fun name => keepsPure _)
  | functions | listing => exact keepsBind keepsGet (fun s => keepsBind (keepsEnvironment _) (fun env => keepsPure _))
  | analyze target script env =>
    refine keepsBind keepsGet (fun s => keepsBind (keepsRelated.mpr (settleRelated _)) (fun node => ?_))
    refine keepsBind (keepsBind keepsGet (fun s => ?_)) (fun _ => keepsPure _)
    split
    · exact keepsPure _
    · exact keepsBind (keepsEnvironment env) (fun _ => keepsPure _)
  | _ => cases reads

end Untouched

theorem answerKeeps {s : Server} {r : Request} (reads : (Move.request r).isRead = true) : (s.answer r).2 = s := by
  rw [Server.answer]
  split
  · rfl
  · rename_i route found
    split
    · cases route with
      | functions => rfl
      | parse => rw [Server.take]; split <;> rfl
      | ast => rw [Server.take]; split <;> rfl
      | function | documentation | evaluate => simp [Move.isRead, found] at reads
    · rfl

theorem readAlike {s : Session} {move : Move} (reads : move.isRead = true) : (s.react move).2.Alike s := by
  cases move with
  | step step =>
    have kept : ((perform step).run { s with journal := [] }).2 = { s with journal := [] } :=
      readKeeps (I := fun t => t = { s with journal := [] }) reads _ rfl
    change ((perform step).run { s with journal := [] }).2.Alike s
    rw [kept]
    exact { sessionSelf s with }
  | request r =>
    have kept : (s.server.answer r).2 = s.server := answerKeeps reads
    change Session.Alike { s with standard := (s.server.answer r).2.registry, tree := (s.server.answer r).2.tree } s
    rw [kept]
    exact sessionSelf s

theorem completeAlike {s t : Session} (alike : s.Alike t) (reaction : Reaction) :
    reaction.complete s = reaction.complete t := by
  have replies (reply : Reply) : reply.complete s = reply.complete t := by
    cases reply with
    | account recorder => simp only [Reply.complete, alike.own.gateway]
    | _ => rfl
  have same : Reply.complete s = Reply.complete t := funext replies
  obtain ⟨answer, journal⟩ := reaction
  cases answer with
  | reply result => simp only [Reaction.complete, Move.Answer.complete, same]
  | response r => rfl

theorem reactSteps (s : Session) (steps : List Step) : reactAll s (steps.map Move.step) =
    ((takeSteps s steps).1.map (fun o => ⟨.reply o.result, o.journal⟩), (takeSteps s steps).2) := by
  induction steps generalizing s with
  | nil => rfl
  | cons step rest ih =>
    rw [List.map_cons, reactAll, takeSteps]
    dsimp only [Session.react]
    rw [ih]
    rfl

theorem reactionsPlay (s : Session) (steps : List Step) :
    s.reactions (steps.map Move.step) = (s.play steps).map (fun o => ⟨.reply o.result, o.journal⟩) := by
  rw [Session.reactions, Session.play, reactSteps]
  simp only [List.map_map]
  rfl

theorem reactionsAnswer (s : Session) (requests : List Request) :
    (s.reactions (requests.map Move.request)).map Reaction.answer =
      (s.server.answerAll requests).map Move.Answer.response := by
  have each (last : Session) : ((reactAll s (requests.map Move.request)).1.map (Reaction.complete last)).map
      Reaction.answer = (s.server.answerAll requests).map Move.Answer.response := by
    induction requests generalizing s with
    | nil => rfl
    | cons r rest ih =>
      exact List.cons_eq_cons.mpr ⟨rfl, ih ((s.react (.request r)).2)⟩
  exact each _

theorem observeAlike {s t : Session} (alike : s.Alike t) (passages : List Passage) :
    (observeAll s passages).1 = (reactAll t (ownMoves passages)).1 ∧
      (observeAll s passages).2.Alike (reactAll t (ownMoves passages)).2 := by
  induction passages generalizing s t with
  | nil => exact ⟨rfl, alike⟩
  | cons p rest ih =>
    have opened := sessionOnward (openedSession s p.opens) alike
    rw [observeAll]
    cases extra : p.extra with
    | true =>
      have moves : ownMoves (p :: rest) = ownMoves rest := by simp [ownMoves, extra]
      obtain ⟨same, after⟩ := ih (sessionOnward (readAlike (p.reads extra)) opened)
      rw [moves]
      exact ⟨same, after⟩
    | false =>
      have moves : ownMoves (p :: rest) = p.move :: ownMoves rest := by simp [ownMoves, extra]
      obtain ⟨reaction, next⟩ := reactAlike opened p.move
      obtain ⟨same, after⟩ := ih next
      rw [moves, reactAll]
      exact ⟨List.cons_eq_cons.mpr ⟨reaction, same⟩, after⟩

theorem observeOwn (s : Session) (passages : List Passage) : s.observe passages = s.reactions (ownMoves passages) := by
  obtain ⟨same, after⟩ := observeAlike (sessionSelf s) passages
  rw [Session.observe, Session.reactions]
  dsimp only
  rw [same]
  exact List.map_congr_left (fun reaction _ => completeAlike after reaction)

/- Reads put in or left out, and tables opened or not, make no difference to any other move. -/
theorem readsInvisible (s : Session) {passages others : List Passage} (same : ownMoves passages = ownMoves others) :
    s.observe passages = s.observe others := by
  rw [observeOwn, observeOwn, same]

theorem glancesInvisible :
    let s := Session.open Registry.stock FileTree.installed
    let places : List (Owner × Environment) := [(.own, Environment.root), (.own, ⟨"web"⟩)]
    let defines : Move := .step (.define (.registry .own)
      { name := .text "twice", body := .multiple 2, arity := .int 1, environment := .text "web" })
    let looks : Move := .step (.lookup (.registry .own) (.text "twice") (.text "web"))
    let gets : Move := .step (.get (.registry .own) (.text "twice") (.text "web"))
    let lists : Move := .request ⟨"GET", ⟨"/functions", [("environment", "web")]⟩, ""⟩
    let plain : List Passage := [⟨[], defines, false, nofun⟩, ⟨[], looks, false, nofun⟩]
    let glanced : List Passage := [⟨places, gets, true, fun _ => rfl⟩, ⟨[], defines, false, nofun⟩,
      ⟨[(.standard, ⟨"web"⟩)], lists, true, fun _ => rfl⟩, ⟨[], looks, false, nofun⟩]
    s.own.tables.contains "web" = false ∧ (s.opened places).own.tables.contains "web" = true ∧
      ownMoves glanced = ownMoves plain ∧ (s.observe plain).length = 2 ∧ s.observe glanced = s.observe plain := by
  intro s places defines looks gets lists plain glanced
  have own : ownMoves glanced = ownMoves plain := rfl
  exact ⟨by decide +kernel, by decide +kernel, own, by decide +kernel, readsInvisible s own⟩

end CallScript

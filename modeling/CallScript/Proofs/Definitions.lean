import CallScript.Registry

/-! What a definition asks for, checked before anything is done about it, and what becomes of the registry:
a definition that is refused leaves no trace; any other enters its function, with a warning where the name
already had a meaning. -/
namespace CallScript

def Definition.requested (d : Definition) (ambient : Environment) : Except Failure (Environment × Function) := do
  let name ← d.name.plain.mapError Failure.fault
  let kind ←
    match FunctionKind.ofValue? d.kind with
    | some kind => .ok kind
    | none => do .error (.badKind (← d.kind.shown.mapError Failure.fault))
  let arity ← (arityOfValue d.arity).mapError Failure.fault
  let env ← (Environment.ofValue ambient d.environment).mapError Failure.fault
  return (env, ⟨name, arity, kind, d.doc, d.body⟩)

theorem insertTable (r : Registry) (env other : Environment) (f : Function) :
    (r.insert env f).table other = if other = env then (r.table env).put f.name f else r.table other := by
  obtain ⟨e⟩ := env
  obtain ⟨o⟩ := other
  simp only [Registry.insert, Registry.table, Dictionary.get?_put, Environment.mk.injEq]
  by_cases here : e = o
  · simp [here]
  · simp [here, Ne.symm here]

theorem tableInsert (r : Registry) (env other : Environment) (f : Function) (name : String) :
    ((r.insert env f).table other).get? name =
      if other = env ∧ name = f.name then some f else (r.table other).get? name := by
  rw [insertTable]
  by_cases here : other = env
  · simp [here, Dictionary.get?_put, eq_comm]
  · simp [here]

theorem getInserted (r : Registry) (env other : Environment) (f : Function) (name : String) :
    (r.insert env f).get? name other = r.get? name other ∨
      (r.insert env f).get? name other = some f ∧ f.name = name ∧ (other = env ∨ env = Environment.root) := by
  rw [Registry.get?, Registry.get?, tableInsert, tableInsert]
  by_cases own : other = env ∧ name = f.name
  · rw [if_pos own]
    exact .inr ⟨rfl, own.2.symm, .inl own.1⟩
  · rw [if_neg own]
    cases (r.table other).get? name with
    | some g => exact .inl rfl
    | none =>
      by_cases root : Environment.root = env ∧ name = f.name
      · dsimp only
        rw [if_pos root]
        exact .inr ⟨rfl, root.2.symm, .inr root.1.symm⟩
      · dsimp only
        rw [if_neg root]
        exact .inl rfl

theorem gatewayLevels (levels : List Level) (r : Registry) :
    (levels.foldl (fun r level => r.insert Environment.root (logFunction level)) r).gateway = r.gateway := by
  induction levels generalizing r with
  | nil => rfl
  | cons level levels ih => rw [List.foldl_cons, ih]; rfl

def overwriting (name : String) : Record :=
  ⟨.registry, .warning, "Overwriting previous definition for function " ++ name⟩

def Host.enter (h : Host) (env : Environment) (f : Function) : Host :=
  ⟨h.registry.insert env f,
    h.journal ++ if (h.registry.get? f.name env).isSome then [overwriting f.name] else []⟩

theorem defineRun (ambient : Environment) (d : Definition) (h : Host) :
    (define ambient d).run h =
      match d.requested ambient with
      | .error failure => (.error failure, h)
      | .ok (env, f) => (.ok f, h.enter env f) := by
  unfold define Definition.requested kindOfValue
  cases d.name.plain with
  | error f => rfl
  | ok name =>
    cases FunctionKind.ofValue? d.kind with
    | none => cases d.kind.shown <;> rfl
    | some kind =>
      cases arityOfValue d.arity with
      | error f => rfl
      | ok arity =>
        cases Environment.ofValue ambient d.environment with
        | error f => rfl
        | ok env =>
          change (if (h.registry.get? name env).isSome then _ else _ : Hosted Function).run h = (.ok _, h.enter env _)
          unfold Host.enter
          split
          · rfl
          · rw [List.append_nil]
            rfl

theorem requestedEnvironment {d : Definition} {ambient env : Environment} {f : Function}
    (requested : d.requested ambient = .ok (env, f)) : Environment.ofValue ambient d.environment = .ok env := by
  revert requested
  unfold Definition.requested
  cases d.name.plain with
  | error failure => rintro ⟨⟩
  | ok name =>
    cases FunctionKind.ofValue? d.kind with
    | none => cases d.kind.shown <;> rintro ⟨⟩
    | some kind =>
      cases arityOfValue d.arity with
      | error failure => rintro ⟨⟩
      | ok arity =>
        cases Environment.ofValue ambient d.environment with
        | error failure => rintro ⟨⟩
        | ok target => rintro ⟨⟩; rfl

end CallScript

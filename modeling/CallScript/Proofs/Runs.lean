/-! Runs of composed actions. What every part of an action keeps is kept by the whole, whether it ends or
fails; where the parts of two actions come to the same from related states, so do the wholes. -/
namespace CallScript

variable {σ ε α β : Type}

theorem runBind (x : ExceptT ε (StateM σ) α) (f : α → ExceptT ε (StateM σ) β) (s : σ) :
    (x >>= f).run s = match x.run s with
      | (.ok a, t) => (f a).run t
      | (.error e, t) => (.error e, t) := by
  change (match x.run s with | (result, t) => ExceptT.bindCont f result t) = _
  rcases x.run s with ⟨result | result, t⟩ <;> rfl

theorem runTry (x : ExceptT ε (StateM σ) α) (f : ε → ExceptT ε (StateM σ) α) (s : σ) :
    (tryCatch x f).run s = match x.run s with
      | (.ok a, t) => (.ok a, t)
      | (.error e, t) => (f e).run t := by
  change (match x.run s with
    | (result, t) => (match result with
      | .ok a => pure (.ok a)
      | .error e => f e : StateM σ (Except ε α)) t) = _
  rcases x.run s with ⟨result | result, t⟩ <;> rfl

theorem runGet (f : σ → ExceptT ε (StateM σ) β) (s : σ) : (get >>= f).run s = (f s).run s := rfl

theorem endedBind {x : ExceptT ε (StateM σ) α} {f : α → ExceptT ε (StateM σ) β} {b : β} {s t : σ}
    (ran : (x >>= f).run s = (.ok b, t)) : ∃ a u, x.run s = (.ok a, u) ∧ (f a).run u = (.ok b, t) := by
  rw [runBind] at ran
  generalize x.run s = outcome at ran ⊢
  obtain ⟨e | a, u⟩ := outcome
  · cases ran
  · exact ⟨a, u, rfl, ran⟩

theorem failedBind {x : ExceptT ε (StateM σ) α} {f : α → ExceptT ε (StateM σ) β} {e : ε} {s t : σ}
    (fails : (x >>= f).run s = (.error e, t)) :
    x.run s = (.error e, t) ∨ ∃ a u, x.run s = (.ok a, u) ∧ (f a).run u = (.error e, t) := by
  rw [runBind] at fails
  generalize x.run s = outcome at fails ⊢
  obtain ⟨cause | a, u⟩ := outcome
  · cases fails
    exact .inl rfl
  · exact .inr ⟨a, u, rfl, fails⟩

theorem failsFirst {x : ExceptT ε (StateM σ) α} {f : α → ExceptT ε (StateM σ) β} {e : ε} {s t : σ}
    (fails : x.run s = (.error e, t)) : (x >>= f).run s = (.error e, t) := by
  rw [runBind, fails]

theorem failsNext {x : ExceptT ε (StateM σ) α} {f : α → ExceptT ε (StateM σ) β} {a : α} {e : ε} {s t u : σ}
    (ran : x.run s = (.ok a, u)) (fails : (f a).run u = (.error e, t)) : (x >>= f).run s = (.error e, t) := by
  rw [runBind, ran]
  exact fails

theorem afterReturn (x : ExceptT ε (StateM σ) α) (wrap : α → β) (s : σ) :
    ((x >>= fun a => pure (wrap a)).run s).2 = (x.run s).2 := by
  rw [runBind]
  rcases x.run s with ⟨e | a, t⟩ <;> rfl

def Meets (R : σ → σ → Prop) (x y : ExceptT ε (StateM σ) α) (s t : σ) : Prop :=
  (x.run s).1 = (y.run t).1 ∧ R (x.run s).2 (y.run t).2

def Related (R : σ → σ → Prop) (x y : ExceptT ε (StateM σ) α) : Prop :=
  ∀ s t, R s t → Meets R x y s t

section Relating

variable {R : σ → σ → Prop}

/- The rest may use that it goes on from where the first part ended. -/
theorem meetsChain {x y : ExceptT ε (StateM σ) α} {f g : α → ExceptT ε (StateM σ) β} {s t : σ}
    (first : Meets R x y s t)
    (rest : ∀ a s' t', x.run s = (.ok a, s') → R s' t' → Meets R (f a) (g a) s' t') :
    Meets R (x >>= f) (y >>= g) s t := by
  obtain ⟨same, kept⟩ := first
  rw [Meets, runBind, runBind]
  generalize ran : x.run s = outcome at same kept
  generalize y.run t = outcome' at same kept
  obtain ⟨result, s'⟩ := outcome
  obtain ⟨result', t'⟩ := outcome'
  cases same
  cases result with
  | error e => exact ⟨rfl, kept⟩
  | ok a => exact rest a s' t' ran kept

theorem meetsBind {x y : ExceptT ε (StateM σ) α} {f g : α → ExceptT ε (StateM σ) β} {s t : σ}
    (first : Meets R x y s t) (rest : ∀ a, Related R (f a) (g a)) : Meets R (x >>= f) (y >>= g) s t :=
  meetsChain first (fun a s' t' _ kept => rest a s' t' kept)

theorem relatedPure (a : α) : Related R (pure a : ExceptT ε (StateM σ) α) (pure a) :=
  fun _ _ related => ⟨rfl, related⟩

theorem relatedThrow (e : ε) : Related R (throw e : ExceptT ε (StateM σ) α) (throw e) :=
  fun _ _ related => ⟨rfl, related⟩

theorem relatedGet {f g : σ → ExceptT ε (StateM σ) β} (rest : ∀ s t, R s t → Meets R (f s) (g t) s t) :
    Related R (get >>= f) (get >>= g) := rest

theorem relatedBind {x y : ExceptT ε (StateM σ) α} {f g : α → ExceptT ε (StateM σ) β} (first : Related R x y)
    (rest : ∀ a, Related R (f a) (g a)) : Related R (x >>= f) (y >>= g) :=
  fun s t related => meetsBind (first s t related) rest

theorem relatedTry {x y : ExceptT ε (StateM σ) α} {f g : ε → ExceptT ε (StateM σ) α} (first : Related R x y)
    (rest : ∀ e, Related R (f e) (g e)) : Related R (tryCatch x f) (tryCatch y g) := by
  intro s t related
  obtain ⟨same, kept⟩ := first s t related
  rw [Meets, runTry, runTry]
  generalize x.run s = ran at same kept
  generalize y.run t = ran' at same kept
  obtain ⟨result, s'⟩ := ran
  obtain ⟨result', t'⟩ := ran'
  cases same
  cases result with
  | error e => exact rest e s' t' kept
  | ok a => exact ⟨rfl, kept⟩

end Relating

def Keeps (I : σ → Prop) (x : ExceptT ε (StateM σ) α) : Prop :=
  ∀ s, I s → I (x.run s).2

section Keeping

variable {I : σ → Prop}

theorem keepsRelated {x : ExceptT ε (StateM σ) α} :
    Keeps I x ↔ Related (fun s t => s = t ∧ I s) x x := by
  refine ⟨fun kept s t related => ?_, fun related s holds => (related s s ⟨rfl, holds⟩).2.2⟩
  obtain ⟨rfl, holds⟩ := related
  exact ⟨rfl, rfl, kept s holds⟩

theorem keepsPure (a : α) : Keeps I (pure a : ExceptT ε (StateM σ) α) := fun _ holds => holds

theorem keepsThrow (e : ε) : Keeps I (throw e : ExceptT ε (StateM σ) α) := fun _ holds => holds

theorem keepsGet : Keeps I (get : ExceptT ε (StateM σ) σ) := fun _ holds => holds

theorem keepsBind {x : ExceptT ε (StateM σ) α} {f : α → ExceptT ε (StateM σ) β} (first : Keeps I x)
    (rest : ∀ a, Keeps I (f a)) : Keeps I (x >>= f) :=
  keepsRelated.mpr (relatedBind (keepsRelated.mp first) (fun a => keepsRelated.mp (rest a)))

theorem keepsTry {x : ExceptT ε (StateM σ) α} {f : ε → ExceptT ε (StateM σ) α} (first : Keeps I x)
    (rest : ∀ e, Keeps I (f e)) : Keeps I (tryCatch x f) :=
  keepsRelated.mpr (relatedTry (keepsRelated.mp first) (fun e => keepsRelated.mp (rest e)))

end Keeping

end CallScript

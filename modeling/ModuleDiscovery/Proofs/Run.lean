import Mathlib.Data.List.Basic

/-!
# Running computations that keep a state and can fail

Walks, the collection of modules and commands are such computations: they take a state
to a result and a state, and the state is kept when they fail.
-/

namespace ModuleDiscovery

variable {ε σ α β : Type} (s : σ)

theorem mapError_eq_ok_iff {ε' : Type} {x : Except ε α} {f : ε → ε'} {a : α} :
    x.mapError f = .ok a ↔ x = .ok a := by
  cases x <;> simp [Except.mapError]

theorem exists_of_mapError_eq_error {ε' : Type} {x : Except ε α} {f : ε → ε'} {e' : ε'}
    (hx : x.mapError f = .error e') : ∃ e, x = .error e ∧ f e = e' := by
  cases x with
  | error e => exact ⟨e, rfl, Except.error.inj hx⟩
  | ok a => cases hx

/-- What is done one after the other succeeds when both parts do. -/
theorem bind_eq_ok_iff {x : Except ε α} {f : α → Except ε β} {b : β} :
    (x >>= f) = .ok b ↔ ∃ a, x = .ok a ∧ f a = .ok b := by
  cases x with
  | error e => simp [bind, Except.bind]
  | ok a => simp [bind, Except.bind]

theorem run_bind (x : ExceptT ε (StateM σ) α) (f : α → ExceptT ε (StateM σ) β) :
    (x >>= f).run s = match x.run s with
      | (.ok a, s₁) => (f a).run s₁
      | (.error e, s₁) => (.error e, s₁) := by
  change (x.run >>= ExceptT.bindCont f) s = _
  change (let (r, s₁) := x.run s; ExceptT.bindCont f r s₁) = _
  rcases x.run s with ⟨r | a, s₁⟩ <;> rfl

variable {x : ExceptT ε (StateM σ) α} {s₁ : σ}

/-- A computation behind one whose outcome is known. -/
theorem run_bind_ok {a : α} (hx : x.run s = (.ok a, s₁)) (f : α → ExceptT ε (StateM σ) β) :
    (x >>= f).run s = (f a).run s₁ := by
  rw [run_bind, hx]

/-- A success of two computations is one of each. -/
theorem exists_of_run_bind_ok {f : α → ExceptT ε (StateM σ) β} {b : β} {s' : σ}
    (hrun : (x >>= f).run s = (.ok b, s')) :
    ∃ a s₁, x.run s = (.ok a, s₁) ∧ (f a).run s₁ = (.ok b, s') := by
  rw [run_bind] at hrun
  rcases hx : x.run s with ⟨e | a, s₁⟩ <;> rw [hx] at hrun
  · cases hrun
  · exact ⟨a, s₁, rfl, hrun⟩

theorem run_adapt_ok {ε' : Type} {a : α} (hx : x.run s = (.ok a, s₁)) (f : ε → ε') :
    (ExceptT.adapt f x).run s = (.ok a, s₁) := by
  change (Except.mapError f (x.run s).1, (x.run s).2) = _
  rw [hx]
  rfl

/-- Only errors are adapted. -/
theorem run_of_run_adapt_ok {ε' : Type} {a : α} {f : ε → ε'}
    (hx : (ExceptT.adapt f x).run s = (.ok a, s₁)) : x.run s = (.ok a, s₁) := by
  change (Except.mapError f (x.run s).1, (x.run s).2) = _ at hx
  obtain ⟨hresult, hstate⟩ := Prod.mk.inj hx
  exact Prod.ext (mapError_eq_ok_iff.mp hresult) hstate

/-- Something is made of a list that is not empty. -/
theorem ne_nil_of_run_mapM {γ : Type} {f : γ → ExceptT ε (StateM σ) α} {c : γ} {rest : List γ}
    {results : List α} (hrun : ((c :: rest).mapM f).run s = (.ok results, s₁)) : results ≠ [] := by
  rw [List.mapM_cons] at hrun
  obtain ⟨a, s₂, -, hrun⟩ := exists_of_run_bind_ok s hrun
  obtain ⟨as, s₃, -, hrun⟩ := exists_of_run_bind_ok s₂ hrun
  cases hrun
  exact List.cons_ne_nil a as

end ModuleDiscovery

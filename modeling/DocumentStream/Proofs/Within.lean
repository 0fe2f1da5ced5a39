/-!
What steps that may fail leave behind. A step stays within a relation if the state that it leaves is
related to the one that it started in, whether or not it fails, and if it fails only with faults of
some kind. Steps that are made of such steps are of this kind too.
-/

namespace DocumentStream

/-- Steps that, if they fail, leave a state that is related to the one they started in. -/
def FailsWithin {ε σ α : Type} (related : σ → σ → Prop) (act : EStateM ε σ α) : Prop :=
  ∀ ⦃s⦄ error s', act.run s = .error error s' → related s s'

/-- Steps that leave a state that is related to the one they started in, even if they fail. They
fail only with the faults given. -/
structure StaysWithin {ε σ α : Type} (related : σ → σ → Prop) (act : EStateM ε σ α)
    (faults : ε → Prop := fun _ => True) : Prop where
  fails : FailsWithin related act
  succeeds : ∀ ⦃s⦄ a s', act.run s = .ok a s' → related s s'
  fault : ∀ ⦃s⦄ error s', act.run s = .error error s' → faults error

section Within

variable {ε σ α β : Type} {related : σ → σ → Prop} {faults : ε → Prop}

theorem cases_of_run_bind_eq_error {first : EStateM ε σ α} {next : α → EStateM ε σ β} {s s' : σ}
    {error : ε} (h : (first >>= next).run s = .error error s') :
    first.run s = .error error s' ∨
      ∃ a t, first.run s = .ok a t ∧ (next a).run t = .error error s' := by
  rw [EStateM.run_bind] at h
  cases hfirst : first.run s with
  | ok a t =>
    rw [hfirst] at h
    exact .inr ⟨a, t, rfl, h⟩
  | error fault t =>
    rw [hfirst] at h
    cases h
    exact .inl rfl

theorem exists_of_run_bind_eq_ok {first : EStateM ε σ α} {next : α → EStateM ε σ β} {s s' : σ}
    {b : β} (h : (first >>= next).run s = .ok b s') :
    ∃ a t, first.run s = .ok a t ∧ (next a).run t = .ok b s' := by
  rw [EStateM.run_bind] at h
  cases hfirst : first.run s with
  | ok a t =>
    rw [hfirst] at h
    exact ⟨a, t, rfl, h⟩
  | error fault t =>
    rw [hfirst] at h
    cases h

namespace FailsWithin

theorem pure (a : α) : FailsWithin related (Pure.pure a : EStateM ε σ α) := fun _ _ _ h => by
  cases h

theorem throw (hrefl : ∀ s, related s s) (error : ε) :
    FailsWithin related (MonadExcept.throw error : EStateM ε σ α) := fun _ _ _ h => by
  cases h
  exact hrefl _

theorem bind (htrans : ∀ s t u, related s t → related t u → related s u)
    {first : EStateM ε σ α} {next : α → EStateM ε σ β} (h : StaysWithin related first faults)
    (hnext : ∀ a, FailsWithin related (next a)) : FailsWithin related (first >>= next) := by
  intro s error s' hrun
  obtain hfirst | ⟨a, t, hfirst, hrest⟩ := cases_of_run_bind_eq_error hrun
  · exact h.fails _ _ hfirst
  · exact htrans _ _ _ (h.succeeds a t hfirst) (hnext a error s' hrest)

/-- Steps that follow on looking at the state. -/
theorem get_bind {next : σ → EStateM ε σ α} (h : ∀ s, FailsWithin related (next s)) :
    FailsWithin related (get >>= next) :=
  fun s _ _ hrun => h s _ _ hrun

end FailsWithin

namespace StaysWithin

theorem pure (hrefl : ∀ s, related s s) (a : α) :
    StaysWithin related (Pure.pure a : EStateM ε σ α) faults where
  fails := .pure a
  succeeds _ _ _ h := by
    cases h
    exact hrefl _
  fault _ _ _ h := by cases h

theorem throw (hrefl : ∀ s, related s s) {error : ε} (hfault : faults error) :
    StaysWithin related (MonadExcept.throw error : EStateM ε σ α) faults where
  fails := .throw hrefl error
  succeeds _ _ _ h := by cases h
  fault _ _ _ h := by
    cases h
    exact hfault

theorem modify {f : σ → σ} (h : ∀ s, related s (f s)) :
    StaysWithin related (modify f : EStateM ε σ Unit) faults where
  fails _ _ _ hrun := by cases hrun
  succeeds _ _ _ hrun := by
    cases hrun
    exact h _
  fault _ _ _ hrun := by cases hrun

theorem bind (htrans : ∀ s t u, related s t → related t u → related s u)
    {first : EStateM ε σ α} {next : α → EStateM ε σ β} (h : StaysWithin related first faults)
    (hnext : ∀ a, StaysWithin related (next a) faults) :
    StaysWithin related (first >>= next) faults where
  fails := .bind htrans h fun a => (hnext a).fails
  succeeds s b s' hrun := by
    obtain ⟨a, t, hfirst, hrest⟩ := exists_of_run_bind_eq_ok hrun
    exact htrans _ _ _ (h.succeeds a t hfirst) ((hnext a).succeeds b s' hrest)
  fault s error s' hrun := by
    obtain hfirst | ⟨a, t, -, hrest⟩ := cases_of_run_bind_eq_error hrun
    · exact h.fault _ _ hfirst
    · exact (hnext a).fault _ _ hrest

theorem get_bind {next : σ → EStateM ε σ α} (h : ∀ s, StaysWithin related (next s) faults) :
    StaysWithin related (get >>= next) faults where
  fails := .get_bind fun s => (h s).fails
  succeeds s _ _ hrun := (h s).succeeds _ _ hrun
  fault s _ _ hrun := (h s).fault _ _ hrun

theorem mono {related' : σ → σ → Prop} {faults' : ε → Prop} {act : EStateM ε σ α}
    (h : StaysWithin related act faults) (hrelated : ∀ s s', related s s' → related' s s')
    (hfaults : ∀ error, faults error → faults' error) : StaysWithin related' act faults' where
  fails s error s' hrun := hrelated s s' (h.fails error s' hrun)
  succeeds s a s' hrun := hrelated s s' (h.succeeds a s' hrun)
  fault _ error s' hrun := hfaults error (h.fault error s' hrun)

/-- Steps that go from each state like others that start in another state. -/
theorem of_run {act : EStateM ε σ α} (within : σ → σ → Prop)
    (h : ∀ s, ∃ (other : EStateM ε σ α) (t : σ), act.run s = other.run t ∧
      StaysWithin within other faults ∧ ∀ s', within t s' → related s s') :
    StaysWithin related act faults where
  fails s error s' hrun := by
    obtain ⟨other, t, hsame, hother, hrelated⟩ := h s
    exact hrelated s' (hother.fails error s' (hsame.symm.trans hrun))
  succeeds s a s' hrun := by
    obtain ⟨other, t, hsame, hother, hrelated⟩ := h s
    exact hrelated s' (hother.succeeds a s' (hsame.symm.trans hrun))
  fault s error s' hrun := by
    obtain ⟨other, _, hsame, hother, -⟩ := h s
    exact hother.fault error s' (hsame.symm.trans hrun)

end StaysWithin

end Within

end DocumentStream

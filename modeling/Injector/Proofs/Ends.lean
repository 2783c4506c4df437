import Injector.Dialog

/-!
# How steps on a state end

A step that may fail and one that only changes the state are read the same way: from a state they
lead to a result and a state, and what holds there is derived from the parts of the step.
-/

set_option autoImplicit false

namespace Injector

variable {ε σ α β : Type} {ok : α → σ → Prop} {failed : ε → σ → Prop}

/-- Run from `s`, the step succeeds with `ok` or fails with `failed`. -/
def Ends (step : ExceptT ε (StateM σ) α) (s : σ) (ok : α → σ → Prop) (failed : ε → σ → Prop) :
    Prop :=
  match (step s : Except ε α × σ) with
  | (.ok a, s') => ok a s'
  | (.error e, s') => failed e s'

namespace Ends

theorem of_ok {step : ExceptT ε (StateM σ) α} {s s' : σ} {a : α}
    (h : Ends step s ok failed) (hs : step s = (.ok a, s')) : ok a s' := by
  unfold Ends at h
  rw [hs] at h
  exact h

theorem of_error {step : ExceptT ε (StateM σ) α} {s s' : σ} {e : ε}
    (h : Ends step s ok failed) (hs : step s = (.error e, s')) : failed e s' := by
  unfold Ends at h
  rw [hs] at h
  exact h

theorem cases {step : ExceptT ε (StateM σ) α} {s : σ} (h : Ends step s ok failed) :
    (∃ a s', step s = (.ok a, s') ∧ ok a s') ∨ ∃ e s', step s = (.error e, s') ∧ failed e s' := by
  rcases hs : (step s : Except ε α × σ) with ⟨e | a, s'⟩
  · exact Or.inr ⟨e, s', rfl, h.of_error hs⟩
  · exact Or.inl ⟨a, s', rfl, h.of_ok hs⟩

/-- What two readings of a run say holds of its end together. -/
theorem and {step : ExceptT ε (StateM σ) α} {s : σ} {ok' : α → σ → Prop} {failed' : ε → σ → Prop}
    (h : Ends step s ok failed) (k : Ends step s ok' failed') :
    Ends step s (fun a s' => ok a s' ∧ ok' a s') fun e s' => failed e s' ∧ failed' e s' := by
  unfold Ends at h k ⊢
  split at h
  next run =>
    rw [run] at k
    exact ⟨h, k⟩
  next run =>
    rw [run] at k
    exact ⟨h, k⟩

/-- A step ends as it is run. -/
theorem as_run (step : ExceptT ε (StateM σ) α) (s : σ) :
    Ends step s (fun a s' => step s = (.ok a, s')) fun e s' => step s = (.error e, s') := by
  unfold Ends
  rcases (step s : Except ε α × σ) with ⟨_ | _, _⟩ <;> rfl

/-- A step ends somehow. -/
theorem any (step : ExceptT ε (StateM σ) α) (s : σ) :
    Ends step s (fun _ _ => True) fun _ _ => True := by
  unfold Ends
  rcases (step s : Except ε α × σ) with ⟨_ | _, _⟩ <;> trivial

/-- The end is the one that the run came to. -/
theorem traced {step : ExceptT ε (StateM σ) α} {s : σ} (h : Ends step s ok failed) :
    Ends step s (fun a s' => ok a s' ∧ step s = (.ok a, s'))
      fun e s' => failed e s' ∧ step s = (.error e, s') := h.and (.as_run step s)

/-- A property of the state that both ends have. -/
theorem state {step : ExceptT ε (StateM σ) α} {s : σ} (p : σ → Prop)
    (h : Ends step s (fun _ s' => p s') fun _ s' => p s') : p (step s).2 := by
  unfold Ends at h
  split at h <;> (rename_i hs; rw [hs]; exact h)

theorem mono {step : ExceptT ε (StateM σ) α} {s : σ} {ok' : α → σ → Prop}
    {failed' : ε → σ → Prop} (h : Ends step s ok failed) (hok : ∀ a s', ok a s' → ok' a s')
    (hfailed : ∀ e s', failed e s' → failed' e s') : Ends step s ok' failed' := by
  unfold Ends at h ⊢
  split at h
  · exact hok _ _ h
  · exact hfailed _ _ h

/-- More is said of the success, and nothing else of the failure. -/
theorem imp {step : ExceptT ε (StateM σ) α} {s : σ} {ok' : α → σ → Prop}
    (h : Ends step s ok failed) (hok : ∀ a s', ok a s' → ok' a s') : Ends step s ok' failed :=
  h.mono hok fun _ _ hf => hf

theorem imp_failed {step : ExceptT ε (StateM σ) α} {s : σ} {failed' : ε → σ → Prop}
    (h : Ends step s ok failed) (hfailed : ∀ e s', failed e s' → failed' e s') :
    Ends step s ok failed' :=
  h.mono (fun _ _ hs => hs) hfailed

end Ends

theorem ends_of_ok {step : ExceptT ε (StateM σ) α} {s s' : σ} {a : α}
    (h : step s = (.ok a, s')) : Ends step s ok failed ↔ ok a s' := by
  unfold Ends
  rw [h]

theorem ends_of_error {step : ExceptT ε (StateM σ) α} {s s' : σ} {e : ε}
    (h : step s = (.error e, s')) : Ends step s ok failed ↔ failed e s' := by
  unfold Ends
  rw [h]

/-- A failure leaves the rest undone. -/
theorem bind_apply (step : ExceptT ε (StateM σ) α) (next : α → ExceptT ε (StateM σ) β) (s : σ) :
    (step >>= next) s = match (step s : Except ε α × σ) with
      | (.ok a, s') => next a s'
      | (.error e, s') => (.error e, s') := by
  show StateT.bind step (ExceptT.bindCont next) s = _
  unfold StateT.bind
  show (match (step s : Except ε α × σ) with | (r, s') => ExceptT.bindCont next r s') = _
  rcases (step s : Except ε α × σ) with ⟨_ | _, _⟩ <;> rfl

theorem ends_bind {step : ExceptT ε (StateM σ) α} {next : α → ExceptT ε (StateM σ) β} {s : σ}
    {ok : β → σ → Prop} :
    Ends (step >>= next) s ok failed ↔
      Ends step s (fun a s' => Ends (next a) s' ok failed) failed := by
  unfold Ends
  rw [bind_apply]
  rcases (step s : Except ε α × σ) with ⟨_ | _, _⟩ <;> rfl

/-- What follows starts from wherever the step succeeded. -/
theorem Ends.bind {step : ExceptT ε (StateM σ) α} {next : α → ExceptT ε (StateM σ) β} {s : σ}
    {mid : α → σ → Prop} {ok : β → σ → Prop} (h : Ends step s mid failed)
    (hn : ∀ a s', mid a s' → Ends (next a) s' ok failed) : Ends (step >>= next) s ok failed := by
  rw [ends_bind]
  apply h.mono hn
  exact fun _ _ hf => hf

theorem get_bind_apply (next : σ → ExceptT ε (StateM σ) α) (s : σ) :
    ((get : ExceptT ε (StateM σ) σ) >>= next) s = next s s := rfl

theorem ends_get {s : σ} {ok : σ → σ → Prop} :
    Ends (get : ExceptT ε (StateM σ) σ) s ok failed ↔ ok s s := Iff.rfl

theorem ends_throw {s : σ} {e : ε} :
    Ends (throw e : ExceptT ε (StateM σ) α) s ok failed ↔ failed e s := Iff.rfl

theorem ends_set {s new : σ} {ok : PUnit → σ → Prop} :
    Ends (set new : ExceptT ε (StateM σ) PUnit) s ok failed ↔ ok ⟨⟩ new := Iff.rfl

theorem ends_modify {s : σ} {f : σ → σ} {ok : PUnit → σ → Prop} :
    Ends (modify f : ExceptT ε (StateM σ) PUnit) s ok failed ↔ ok ⟨⟩ (f s) := Iff.rfl

theorem ends_map {step : ExceptT ε (StateM σ) α} {f : α → β} {s : σ} {ok : β → σ → Prop} :
    Ends (f <$> step) s ok failed ↔ Ends step s (fun a s' => ok (f a) s') failed := ends_bind

theorem ends_discard {step : ExceptT ε (StateM σ) α} {s : σ} {ok : PUnit → σ → Prop} :
    Ends (discard step) s ok failed ↔ Ends step s (fun _ s' => ok ⟨⟩ s') failed := ends_map

/-- A result that is known already changes no state. -/
theorem ends_except {x : Except ε α} {s : σ} :
    Ends (liftM x : ExceptT ε (StateM σ) α) s ok failed ↔
      (∀ a, x = .ok a → ok a s) ∧ ∀ e, x = .error e → failed e s := by
  cases x with
  | ok a =>
    show ok a s ↔ _
    simp
  | error e =>
    show failed e s ↔ _
    simp

/-- A step that cannot fail. -/
theorem ends_state {step : StateM σ α} {s : σ} :
    Ends (liftM step : ExceptT ε (StateM σ) α) s ok failed ↔ ok (step s).1 (step s).2 := Iff.rfl

theorem tryCatch_apply (step : ExceptT ε (StateM σ) α) (rescue : ε → ExceptT ε (StateM σ) α)
    (s : σ) : tryCatch step rescue s = match (step s : Except ε α × σ) with
      | (.ok a, s') => (.ok a, s')
      | (.error e, s') => rescue e s' := by
  show (match (step s : Except ε α × σ) with
    | (r, s') => (match r with | .ok a => pure (.ok a) | .error e => rescue e :
        StateM σ (Except ε α)) s') = _
  rcases (step s : Except ε α × σ) with ⟨_ | _, _⟩ <;> rfl

theorem ends_tryCatch {step : ExceptT ε (StateM σ) α} {rescue : ε → ExceptT ε (StateM σ) α}
    {s : σ} :
    Ends (tryCatch step rescue) s ok failed ↔
      Ends step s ok fun e s' => Ends (rescue e) s' ok failed := by
  unfold Ends
  rw [tryCatch_apply]
  rcases (step s : Except ε α × σ) with ⟨_ | _, _⟩ <;> rfl

/-- An invariant of each step of a list is one of the whole. -/
theorem ends_forM {xs : List α} {step : α → ExceptT ε (StateM σ) PUnit} {s : σ}
    {invariant : σ → Prop} (hs : invariant s)
    (h : ∀ x ∈ xs, ∀ s, invariant s → Ends (step x) s (fun _ s' => invariant s') failed) :
    Ends (xs.forM step) s (fun _ s' => invariant s') failed := by
  induction xs generalizing s with
  | nil => exact hs
  | cons x xs ih =>
    show Ends (step x >>= fun _ => xs.forM step) s _ failed
    apply (h x (by simp) s hs).bind
    intro _ s' hs'
    exact ih hs' fun y hy => h y (by simp [hy])

namespace Dialog

variable {Q : Type} {R : Q → Type}

/-- What every answer keeps is kept by the dialog, whatever is asked. -/
theorem run_keeps {answer : (question : Q) → StateM σ (R question)} {invariant : σ → Prop}
    (h : ∀ question s, invariant s → invariant (answer question s).2) (d : Dialog Q R α) {s : σ}
    (hs : invariant s) : invariant (d.run answer s).2 := by
  induction d generalizing s with
  | done result => exact hs
  | ask question next ih => exact ih _ (h question s hs)

def Gives (p : α → Prop) : Dialog Q R α → Prop
  | done result => p result
  | ask _ next => ∀ reply, (next reply).Gives p

theorem Gives.run {p : α → Prop} {d : Dialog Q R α} (h : d.Gives p)
    (answer : (question : Q) → StateM σ (R question)) (s : σ) : p (d.run answer s).1 := by
  induction d generalizing s with
  | done result => exact h
  | ask question next ih => exact ih _ (h _) _

end Dialog

end Injector

import Injector.Proofs.Ends

/-!
# Two runs side by side

From states that are alike, two steps come to the same result or fail in ways that are alike, in
states that are alike again; this too is derived from the parts of the steps. Code that talks to the
library is alike if it asks the same and goes on alike after replies that are alike.
-/

set_option autoImplicit false

namespace Injector

variable {ε σ α β : Type} {like : ε → ε → Prop} {ok : α → α → σ → σ → Prop}
  {failed : σ → σ → Prop}

inductive Likewise (like : ε → ε → Prop) : Except ε α → Except ε α → Prop
  | ok (a : α) : Likewise like (.ok a) (.ok a)
  | error {e e' : ε} (h : like e e') : Likewise like (.error e) (.error e')

theorem likewise_refl (refl : ∀ e, like e e) (x : Except ε α) : Likewise like x x := by
  cases x with
  | ok a => exact .ok a
  | error e => exact .error (refl e)

theorem Likewise.eq {x x' : Except ε α} (h : Likewise Eq x x') : x = x' := by
  cases h with
  | ok a => rfl
  | error same => rw [same]

/-- Run from `s` and from `s'`, the steps both succeed with `ok`, or both fail with `failed` and
with errors that are `like` each other. -/
def Together (like : ε → ε → Prop) (step step' : ExceptT ε (StateM σ) α) (s s' : σ)
    (ok : α → α → σ → σ → Prop) (failed : σ → σ → Prop) : Prop :=
  match (step s : Except ε α × σ), (step' s' : Except ε α × σ) with
  | (.ok a, t), (.ok a', t') => ok a a' t t'
  | (.error e, t), (.error e', t') => like e e' ∧ failed t t'
  | _, _ => False

namespace Together

variable {step step' : ExceptT ε (StateM σ) α} {s s' t t' : σ}

theorem of_ok {a a' : α} (hs : step s = (.ok a, t)) (hs' : step' s' = (.ok a', t'))
    (h : ok a a' t t') : Together like step step' s s' ok failed := by
  unfold Together
  rw [hs, hs']
  exact h

theorem of_error {e e' : ε} (hs : step s = (.error e, t)) (hs' : step' s' = (.error e', t'))
    (he : like e e') (h : failed t t') : Together like step step' s s' ok failed := by
  unfold Together
  rw [hs, hs']
  exact ⟨he, h⟩

theorem of_likewise {x x' : Except ε α} (hs : step s = (x, t)) (hs' : step' s' = (x', t'))
    (alike : Likewise like x x') (h : ∀ a, ok a a t t') (hf : failed t t') :
    Together like step step' s s' ok failed := by
  cases alike with
  | ok a => exact of_ok hs hs' (h a)
  | error he => exact of_error hs hs' he hf

theorem cases (h : Together like step step' s s' ok failed) :
    (∃ a a' t t', step s = (.ok a, t) ∧ step' s' = (.ok a', t') ∧ ok a a' t t') ∨
      ∃ e e' t t', step s = (.error e, t) ∧ step' s' = (.error e', t') ∧ like e e' ∧
        failed t t' := by
  unfold Together at h
  split at h
  next hs hs' => exact .inl ⟨_, _, _, _, hs, hs', h⟩
  next hs hs' => exact .inr ⟨_, _, _, _, hs, hs', h⟩
  next => exact h.elim

theorem mono {ok' : α → α → σ → σ → Prop} {failed' : σ → σ → Prop}
    (h : Together like step step' s s' ok failed)
    (hok : ∀ a a' t t', ok a a' t t' → ok' a a' t t')
    (hfailed : ∀ t t', failed t t' → failed' t t') :
    Together like step step' s s' ok' failed' := by
  rcases h.cases with ⟨a, a', t, t', hs, hs', h⟩ | ⟨e, e', t, t', hs, hs', he, h⟩
  · exact of_ok hs hs' (hok a a' t t' h)
  · exact of_error hs hs' he (hfailed t t' h)

theorem imp_failed {failed' : σ → σ → Prop} (h : Together like step step' s s' ok failed)
    (hfailed : ∀ t t', failed t t' → failed' t t') : Together like step step' s s' ok failed' :=
  h.mono (fun _ _ _ _ hs => hs) hfailed

theorem bind {next next' : α → ExceptT ε (StateM σ) β} {mid : α → α → σ → σ → Prop}
    {ok : β → β → σ → σ → Prop} (h : Together like step step' s s' mid failed)
    (hn : ∀ a a' t t', mid a a' t t' → Together like (next a) (next' a') t t' ok failed) :
    Together like (step >>= next) (step' >>= next') s s' ok failed := by
  rcases h.cases with ⟨a, a', t, t', hs, hs', h⟩ | ⟨e, e', t, t', hs, hs', he, h⟩
  · have rest := hn a a' t t' h
    unfold Together at rest ⊢
    rw [bind_apply, bind_apply, hs, hs']
    exact rest
  · exact of_error (by rw [bind_apply, hs]) (by rw [bind_apply, hs']) he h

/-- An error that is told differently is told differently in both. -/
theorem rethrow (h : Together like step step' s s' ok failed) (tell : ε → ε)
    (tells : ∀ e e', like e e' → like (tell e) (tell e')) :
    Together like (tryCatch step fun e => throw (tell e))
      (tryCatch step' fun e => throw (tell e)) s s' ok failed := by
  rcases h.cases with ⟨a, a', t, t', hs, hs', h⟩ | ⟨e, e', t, t', hs, hs', he, h⟩
  · exact of_ok (by rw [tryCatch_apply, hs]) (by rw [tryCatch_apply, hs']) h
  · exact of_error (by rw [tryCatch_apply, hs]; rfl) (by rw [tryCatch_apply, hs']; rfl)
      (tells e e' he) h

/-- What is alike before each step of a list is alike after the last. -/
theorem forM {xs : List β} {each each' : β → ExceptT ε (StateM σ) PUnit}
    {alike : σ → σ → Prop} (hs : alike s s')
    (h : ∀ x ∈ xs, ∀ t t', alike t t' →
      Together like (each x) (each' x) t t' (fun _ _ => alike) failed) :
    Together like (xs.forM each) (xs.forM each') s s' (fun _ _ => alike) failed := by
  induction xs generalizing s s' with
  | nil => exact hs
  | cons x xs ih =>
    show Together like (each x >>= fun _ => xs.forM each) (each' x >>= fun _ => xs.forM each')
      s s' _ _
    apply (h x (by simp) s s' hs).bind
    intro _ _ t t' ht
    exact ih ht fun y hy => h y (by simp [hy])

/-- What is known of each run by itself. -/
theorem and_ends {ok₁ ok₂ : α → σ → Prop} {failed₁ failed₂ : ε → σ → Prop}
    (h : Together like step step' s s' ok failed) (h₁ : Ends step s ok₁ failed₁)
    (h₂ : Ends step' s' ok₂ failed₂) :
    Together like step step' s s' (fun a a' t t' => ok a a' t t' ∧ ok₁ a t ∧ ok₂ a' t')
      fun t t' => failed t t' ∧ (∃ e, failed₁ e t) ∧ ∃ e, failed₂ e t' := by
  rcases h.cases with ⟨a, a', t, t', hs, hs', h⟩ | ⟨e, e', t, t', hs, hs', he, h⟩
  · exact of_ok hs hs' ⟨h, h₁.of_ok hs, h₂.of_ok hs'⟩
  · exact of_error hs hs' he ⟨h, ⟨e, h₁.of_error hs⟩, e', h₂.of_error hs'⟩

/-- What both runs came to. -/
theorem likewise (h : Together like step step' s s' ok failed)
    (same : ∀ a a' t t', ok a a' t t' → a = a') :
    Likewise like (step s : Except ε α × σ).1 (step' s' : Except ε α × σ).1 := by
  rcases h.cases with ⟨a, a', t, t', hs, hs', h⟩ | ⟨e, e', t, t', hs, hs', he, h⟩
  · rw [hs, hs', same a a' t t' h]
    exact .ok a'
  · rw [hs, hs']
    exact .error he

theorem same_result (h : Together Eq step step' s s' ok failed)
    (same : ∀ a a' t t', ok a a' t t' → a = a') :
    (step s : Except ε α × σ).1 = (step' s' : Except ε α × σ).1 := (h.likewise same).eq

theorem states {alike : σ → σ → Prop}
    (h : Together like step step' s s' (fun _ _ t t' => alike t t') alike) :
    alike (step s).2 (step' s').2 := by
  rcases h.cases with ⟨a, a', t, t', hs, hs', h⟩ | ⟨e, e', t, t', hs, hs', he, h⟩
  · rw [hs, hs']
    exact h
  · rw [hs, hs']
    exact h

end Together

section Steps

variable {s s' : σ}

theorem together_get {next next' : σ → ExceptT ε (StateM σ) α} :
    Together like (get >>= next) (get >>= next') s s' ok failed ↔
      Together like (next s) (next' s') s s' ok failed := Iff.rfl

/-- Steps that cannot fail come first. -/
theorem together_state {step step' : StateM σ β} {next next' : β → ExceptT ε (StateM σ) α} :
    Together like (liftM step >>= next) (liftM step' >>= next') s s' ok failed ↔
      Together like (next (step s).1) (next' (step' s').1) (step s).2 (step' s').2 ok failed :=
  Iff.rfl

/-- Results that are known already. -/
theorem together_except {x x' : Except ε α} (hx : Likewise like x x')
    (h : ∀ a, x = .ok a → ok a a s s') (hf : ∀ e, x = .error e → failed s s') :
    Together like (liftM x : ExceptT ε (StateM σ) α) (liftM x') s s' ok failed := by
  cases hx with
  | ok a => exact h a rfl
  | error he => exact ⟨he, hf _ rfl⟩

/-- Both go on with the same result, or end here. -/
theorem together_except_bind {x x' : Except ε β} {next next' : β → ExceptT ε (StateM σ) α}
    (hx : Likewise like x x')
    (h : ∀ b, x = .ok b → Together like (next b) (next' b) s s' ok failed)
    (hf : ∀ e, x = .error e → failed s s') :
    Together like (liftM x >>= next) (liftM x' >>= next') s s' ok failed := by
  cases hx with
  | ok b => exact h b rfl
  | error he => exact ⟨he, hf _ rfl⟩

theorem together_throw {e e' : ε} (he : like e e') (h : failed s s') :
    Together like (throw e : ExceptT ε (StateM σ) α) (throw e') s s' ok failed := ⟨he, h⟩

end Steps

namespace Dialog

variable {Q : Type} {R : Q → Type}

/-- Both ask the same questions, all of them `allowed`, as long as the replies they get are alike,
and end alike. -/
inductive Mirrors (allowed : Q → Prop) (replies : (question : Q) → R question → R question → Prop)
    (alike : α → β → Prop) : Dialog Q R α → Dialog Q R β → Prop
  | done {a : α} {b : β} (h : alike a b) : Mirrors allowed replies alike (.done a) (.done b)
  | ask {question : Q} (h : allowed question) {next : R question → Dialog Q R α}
      {next' : R question → Dialog Q R β}
      (rest : ∀ reply reply', replies question reply reply' →
        Mirrors allowed replies alike (next reply) (next' reply')) :
      Mirrors allowed replies alike (.ask question next) (.ask question next')

/-- Where questions get replies that are alike, such dialogs come to ends that are alike. -/
theorem Mirrors.run {allowed : Q → Prop}
    {replies : (question : Q) → R question → R question → Prop} {alike : α → β → Prop}
    {p : σ → σ → Prop}
    {answer answer' : (question : Q) → StateM σ (R question)}
    (h : ∀ question, allowed question → ∀ s s', p s s' →
      replies question (answer question s).1 (answer' question s').1 ∧
        p (answer question s).2 (answer' question s').2)
    {d : Dialog Q R α} {d' : Dialog Q R β} (mirrors : Mirrors allowed replies alike d d') {s s' : σ}
    (hs : p s s') :
    alike (d.run answer s).1 (d'.run answer' s').1 ∧
      p (d.run answer s).2 (d'.run answer' s').2 := by
  induction mirrors generalizing s s' with
  | done ended => exact ⟨ended, hs⟩
  | @ask question may next next' rest ih =>
    obtain ⟨reply, kept⟩ := h question may s s' hs
    exact ih _ _ reply kept

/-- A dialog mirrors itself where replies that are alike are the same. -/
theorem mirrors_refl {replies : (question : Q) → R question → R question → Prop}
    {alike : α → α → Prop} (same : ∀ question reply reply', replies question reply reply' →
      reply = reply') (refl : ∀ a, alike a a) (d : Dialog Q R α) :
    d.Mirrors (fun _ => True) replies alike d := by
  induction d with
  | done result => exact .done (refl result)
  | ask question next ih =>
    refine .ask trivial fun reply reply' alike => ?_
    obtain rfl := same question reply reply' alike
    exact ih reply

end Dialog

end Injector

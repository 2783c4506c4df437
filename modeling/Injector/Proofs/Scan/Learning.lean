import Injector.Proofs.Scan.Task

/-!
# What a scan does to the catalog of hooks

It only learns: models and descriptors that are known stay so, and which extensions bind types never
changes.
-/

set_option autoImplicit false

namespace Injector

variable {P : Platform}

namespace Scan

def Learns {α : Type} (step : ScanM P α) : Prop :=
  ∀ s, Ends step s (fun _ s' => s.catalog.Grows s'.catalog) fun _ s' => s.catalog.Grows s'.catalog

section Steps

variable {α β : Type} {step : ScanM P α}

theorem learns_modify {change : Scan P → Scan P} (h : ∀ s, (change s).catalog = s.catalog) :
    Learns (modify change : ScanM P PUnit) := by
  intro s
  rw [ends_modify, h s]
  exact .refl _

theorem learns_except (x : Except Error α) : Learns (liftM x : ScanM P α) :=
  fun _ => ends_except.mpr ⟨fun _ _ => .refl _, fun _ _ => .refl _⟩

theorem Learns.bind {next : α → ScanM P β} (h : Learns step) (hn : ∀ a, Learns (next a)) :
    Learns (step >>= next) := by
  intro s
  apply (h s).bind
  intro a s' learned
  exact (hn a s').mono (fun _ _ later => learned.trans later) fun _ _ later => learned.trans later

theorem learns_compositional : Compositional (@Learns P) where
  pure := fun _ _ => .refl _
  throw := fun _ _ => .refl _
  get := fun _ => .refl _
  bind := Learns.bind
  withCatalog := by
    intro α step confined s
    exact ends_withCatalog.mpr ((confined s.world s.catalog).mono (fun _ _ grows => grows)
      fun _ _ grows => grows.1)

theorem learns_record (event : ScanEvent P) : Learns (record event) := learns_modify fun _ => rfl

theorem learns_settle (result : Except Error Unit) : Learns (settle (P := P) result) :=
  (learns_record _).bind fun _ => learns_except result

theorem learns_install (f : ScanFrame P) (key : ExtensionKey) : Learns (install f key) := by
  intro s
  unfold install
  rw [ends_bind, ends_get, ends_bind, ends_except]
  exact ⟨fun _ _ => .refl _, fun _ _ => .refl _⟩

theorem learns_takeHandler (fullAccess : Bool) (extension : Extension P) :
    Learns (takeHandler fullAccess extension) := by
  intro s
  unfold takeHandler
  rw [ends_bind, ends_get]
  split <;> exact .refl _

theorem learns_activating : Activating (@Learns P) where
  toCompositional := learns_compositional
  install := learns_install
  takeHandler := learns_takeHandler
  record := fun _ _ => learns_record _
  close := fun _ _ => learns_modify fun _ => rfl
  settle := learns_settle
  seat := fun _ => learns_modify fun _ => rfl

theorem learns_append (op : Operation P) : Learns (append op) := fun _ => .refl _

theorem learns_bindSlot (f : ScanFrame P) (id : OperationId) (index : Nat) (binding : Binding P) :
    Learns (bindSlot f id index binding) :=
  (learns_compositional.operationAt f id).bind fun _ => (learns_except _).bind fun _ =>
    learns_modify fun _ => rfl

end Steps

section Dialogs

variable {Q : Type} {R : Q → Type} {f : ScanFrame P}

/-- Handlers cannot reach the catalog. -/
theorem learns_converse {c : Contributor P} {shown : ScanEvent P}
    {callback : P.Memory → P.World → Dialog Q R (Outcome P)}
    {answer : (question : Q) → StateM (Scan P) (R question)}
    (answers : ∀ question, Local (fun _ => True) (answer question)) :
    Learns (converse c shown callback answer) := by
  intro s
  let same (s' : Scan P) : Prop := s'.catalog = s.catalog
  have keeps : ∀ question s', same s' → same (answerSeen answer question s').2 := by
    intro question s' h
    obtain ⟨act, acts, -⟩ := answers question
    show (answer question s').2.catalog = s.catalog
    rw [acts s']
    exact h
  have unseen : same (observe s).2 := rfl
  have kept : ((callback c.handler.memory s.world).run (answerSeen answer)
      (observe s).2).2.catalog = s.catalog :=
    Dialog.run_keeps keeps (callback c.handler.memory s.world) unseen
  unfold converse
  show Ends (get >>= fun s => liftM observe >>= fun _ => liftM _ >>= fun outcome => _) s _ _
  rw [ends_bind, ends_get, ends_bind, ends_state, ends_bind, ends_state]
  generalize (callback c.handler.memory s.world).run (answerSeen answer) (observe s).2 = ended
    at kept ⊢
  obtain ⟨⟨result, memory, world⟩, s'⟩ := ended
  have closes := learns_activating.closes c (.made c shown s (result, memory, world)) memory world
    result s'
  dsimp only at kept
  rw [kept] at closes
  exact closes

/-- Whoever is consulted. -/
theorem learns_consulting (f : ScanFrame P) : Consulting f (@Learns P) where
  toCompositional := learns_compositional
  decision := fun _ => learns_except _
  rethrow := fun _ learns s => ends_tryCatch.mpr (learns s)
  activate := learns_activating.activate f
  announce := fun _ _ _ => learns_record _
  field := fun _ shown => learns_converse fun call =>
    local_answerField (upheld_true f) shown call fun _ _ _ _ _ => trivial
  method := fun _ shown => learns_converse fun call =>
    local_answerMethod (upheld_true f) shown call fun _ _ _ _ => trivial
  request := fun _ _ => learns_converse fun call =>
    local_answerSlot (upheld_true f) call (SlotCall.fit_true call)
  append := learns_append
  bindSlot := learns_bindSlot f

end Dialogs

end Scan

end Injector

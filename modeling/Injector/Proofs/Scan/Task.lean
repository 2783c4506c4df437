import Injector.Proofs.Scan.Activation

/-!
# What can fail in a scan

Each of these tasks calls at most one handler, and then it comes to what that handler replied. Only
where a service is looked up or asked for is a failure told differently: what was missed is then
named along with what needs it.
-/

set_option autoImplicit false

namespace Injector

variable {P : Platform}

namespace Scan

def tellEnd (c : Contributor P) : ScanM P Unit := do
  record (.ended c.context)
  let s ← get
  let (result, memory, world) := c.handler.onEnd c.context c.handler.memory s.world
  close (.made c (.ended c.context) s (result, memory, world)) world
  settle result

theorem finish_cons (c : Contributor P) (rest : List (Contributor P)) :
    finish (c :: rest) = tellEnd c >>= fun _ => finish rest := by
  unfold tellEnd
  simp only [bind_assoc]
  rfl

inductive Task (P : Platform) where
  | model (c : ClassDescriptor P)
  | hook (f : ScanFrame P) (marker : Marker P)
  | activation (f : ScanFrame P) (key : ExtensionKey)
  | fieldMatch (f : ScanFrame P) (c : Contributor P) (shown : FieldMatch P)
  | methodMatch (f : ScanFrame P) (c : Contributor P) (shown : MethodMatch P)
  | request (f : ScanFrame P) (c : Contributor P) (shown : BindingRequest P)
  | service (f : ScanFrame P) (op : Operation P) (parameter : Parameter P)
  /-- Another operation waits and none may be resolved any more. -/
  | limit (f : ScanFrame P)
  | farewell (c : Contributor P)
  /-- What the scan decides by itself. -/
  | decision {α : Type} (x : Except Error α)

namespace Task

def Result : Task P → Type
  | model _ => HookModel
  | hook .. => Option HookDescriptor
  | activation .. => Contributor P
  | service .. => Binding P
  | @decision _ α _ => α
  | _ => Unit

def body : (t : Task P) → ScanM P t.Result
  | model c => withCatalog fun w => Catalog.modelFor w c
  | hook f marker => hookOf f marker
  | activation f key => start f key
  | fieldMatch _ c shown =>
    converse c (.fieldMatched shown) (c.handler.onField shown) (answerField shown)
  | methodMatch _ c shown =>
    converse c (.methodMatched shown) (c.handler.onMethod shown) (answerMethod shown)
  | request f c shown =>
    converse c (.bindingRequested shown) (c.handler.onBinding shown) (answerSlot f shown)
  | service f _ parameter =>
    liftM (f.host.directory.lookup f.installer ⟨parameter.type, none⟩ (!parameter.optional) :
      Except Error (Binding P))
  | limit f => throw (.resolutionLimitExceeded f.beanType f.host.limit)
  | farewell c => tellEnd c
  | decision x => liftM x

def needy? : Task P → Option (Operation P)
  | request _ _ shown => some shown.operation
  | service _ op _ => some op
  | _ => none

def told (t : Task P) (e : Error) : Error :=
  match t.needy? with
  | some op => e.requiredBy op.target
  | none => e

def step (t : Task P) : ScanM P t.Result :=
  match t.needy? with
  | some op => tryCatch t.body fun e => throw (e.requiredBy op.target)
  | none => t.body

theorem step_apply (t : Task P) (s : Scan P) :
    t.step s = match (t.body s : Except Error t.Result × Scan P) with
      | (.ok a, s') => (.ok a, s')
      | (.error e, s') => (.error (t.told e), s') := by
  unfold step told
  cases t.needy? with
  | some op =>
    show tryCatch t.body _ s = _
    rw [tryCatch_apply]
    rcases (t.body s : Except Error t.Result × Scan P) with ⟨_ | _, _⟩ <;> rfl
  | none =>
    show (t.body s : Except Error t.Result × Scan P) = _
    rcases (t.body s : Except Error t.Result × Scan P) with ⟨_ | _, _⟩ <;> rfl

def isFarewell : Task P → Bool
  | farewell _ => true
  | _ => false

end Task

def Hears (s : Scan P) (verdict : Except Error Unit) (s' : Scan P) : Prop :=
  s'.calls = s.calls ∨ ∃ call, s'.calls = s.calls.push call ∧
    s'.transcript.back? = some (.replied verdict)

def Heeds {α : Type} (step : ScanM P α) : Prop :=
  ∀ s, Ends step s (fun _ s' => Hears s (.ok ⟨⟩) s') fun e s' => Hears s (.error e) s'

section Heeding

variable {s s' : Scan P}

theorem heeds_except {α : Type} (x : Except Error α) : Heeds (liftM x : ScanM P α) :=
  fun _ => ends_except.mpr ⟨fun _ _ => .inl rfl, fun _ _ => .inl rfl⟩

theorem heeds_withCatalog {α : Type} (look : P.World → CatalogM α) :
    Heeds (withCatalog look : ScanM P α) := by
  have looks : Hush (fun _ => True) (withCatalog look : ScanM P α) := hush_withCatalog _
  intro s
  exact (looks s trivial).mono (fun _ _ h => .inl h.1.calls) fun _ _ h => .inl h.1.calls

theorem heeds_hookOf (f : ScanFrame P) (marker : Marker P) : Heeds (hookOf f marker) := by
  have looks : Hush (fun _ => True) (hookOf f marker) := (hush_compositional _).hookOf f marker
  intro s
  exact (looks s trivial).mono (fun _ _ h => .inl h.1.calls) fun _ _ h => .inl h.1.calls

/-- The reply is the last that is heard of a callback. -/
theorem ends_settle (call : Call P) (calls : s'.calls = s.calls.push call)
    (result : Except Error Unit) :
    Ends (settle result) s' (fun _ s'' => Hears s (.ok ⟨⟩) s'')
      fun e s'' => Hears s (.error e) s'' := by
  unfold settle
  rw [ends_bind, ends_record]
  apply ends_except.mpr
  refine ⟨?_, ?_⟩
  · rintro _ rfl
    exact .inr ⟨call, calls, Array.back?_push⟩
  · rintro e rfl
    exact .inr ⟨call, calls, Array.back?_push⟩

theorem heeds_start (f : ScanFrame P) (key : ExtensionKey) : Heeds (start f key) := by
  intro s
  unfold start
  have installs : Ends (install f key) s (fun _ s₁ => s₁.calls = s.calls)
      fun e s₁ => Hears s (.error e) s₁ :=
    (ends_install_extension f key s).mono (fun _ _ h => h.1.1.calls) fun _ _ h => .inl h.1.calls
  apply Ends.bind installs
  intro extension s₁ same
  apply Ends.bind ((ends_takeHandler _ extension s₁).imp_failed fun _ _ absurd => absurd.elim)
  rintro ⟨handler, flag⟩ _ ⟨world, preset, rfl, -, -⟩
  rw [ends_bind, ends_record, ends_bind, ends_get, ends_bind, ends_close]
  apply Ends.bind (ends_settle (s := s) _ (congrArg (Array.push · _) same) _)
  rintro _ s₂ heard
  exact heard

theorem heeds_converse {Q : Type} {R : Q → Type} {c : Contributor P} {shown : ScanEvent P}
    {callback : P.Memory → P.World → Dialog Q R (Outcome P)}
    {answer : (question : Q) → StateM (Scan P) (R question)}
    (answers : ∀ question, Local (fun _ => True) (answer question)) :
    Heeds (converse c shown callback answer) := by
  intro s
  obtain ⟨unattended, -⟩ := keeps_dialog answers (callback c.handler.memory s.world) trivial
  unfold converse
  show Ends (get >>= fun s => liftM observe >>= fun _ => liftM _ >>= fun outcome => _) s _ _
  rw [ends_bind, ends_get, ends_bind, ends_state, ends_bind, ends_state]
  generalize (callback c.handler.memory s.world).run (answerSeen answer) (observe s).2 = ended
    at unattended ⊢
  obtain ⟨⟨result, memory, world⟩, s'⟩ := ended
  dsimp only at unattended ⊢
  rw [ends_bind, ends_close, ends_bind, ends_modify]
  exact ends_settle _ (congrArg (Array.push · _) unattended.calls) result

structure Addressed (c : Contributor P) (event : ScanEvent P) (s s' : Scan P)
    (reply : Except Error Unit) : Prop where
  asked : ∃ call, s'.calls.toList = s.calls.toList ++ [call] ∧ call.contributor = c ∧
    call.event = event
  replied : s'.transcript.back? = some (.replied reply)

theorem addressed_of_talks {c : Contributor P} {event : ScanEvent P} {reply : Except Error Unit}
    (talks : Talks (fun _ => True) c event s s') (hears : Hears s reply s') :
    Addressed c event s s' reply := by
  obtain ⟨call, made, -, answers, -⟩ := talks
  refine ⟨⟨call, answers.calls, made, answers.event⟩, ?_⟩
  rcases hears with same | ⟨_, -, replied⟩
  · have grown := congrArg List.length answers.calls
    simp [same] at grown
  · exact replied

theorem ends_addressed {Q : Type} {R : Q → Type} {c : Contributor P} {event : ScanEvent P}
    {callback : P.Memory → P.World → Dialog Q R (Outcome P)}
    {answer : (question : Q) → StateM (Scan P) (R question)}
    (answers : ∀ question, Local (fun _ => True) (answer question)) :
    Ends (converse c event callback answer) s (fun _ s' => Addressed c event s s' (.ok ⟨⟩))
      fun e s' => Addressed c event s s' (.error e) := by
  have talks : Ends (converse c event callback answer) s
      (fun _ s' => Talks (fun _ => True) c event s s')
      fun _ s' => Talks (fun _ => True) c event s s' := ends_converse answers trivial
  exact (talks.and (heeds_converse answers s)).mono (fun _ _ h => addressed_of_talks h.1 h.2)
    fun _ _ h => addressed_of_talks h.1 h.2

theorem heeds_tellEnd (c : Contributor P) : Heeds (tellEnd c) := by
  intro s
  unfold tellEnd
  rw [ends_bind, ends_record, ends_bind, ends_get, ends_bind, ends_close]
  exact ends_settle _ rfl _

theorem Task.heeds_body (t : Task P) : Heeds t.body := by
  cases t with
  | model c => exact heeds_withCatalog fun w => Catalog.modelFor w c
  | hook f marker => exact heeds_hookOf f marker
  | activation f key => exact heeds_start f key
  | fieldMatch f c shown =>
    have answers : ∀ call, Local (fun _ => True) (answerField shown call) := fun call =>
      local_answerField (upheld_true f) shown call fun _ _ _ _ _ => trivial
    exact heeds_converse answers
  | methodMatch f c shown =>
    have answers : ∀ call, Local (fun _ => True) (answerMethod shown call) := fun call =>
      local_answerMethod (upheld_true f) shown call fun _ _ _ _ => trivial
    exact heeds_converse answers
  | request f c shown =>
    have answers : ∀ call, Local (fun _ => True) (answerSlot f shown call) := fun call =>
      local_answerSlot (upheld_true f) call (SlotCall.fit_true call)
    exact heeds_converse answers
  | service f op parameter => exact heeds_except _
  | limit f => exact fun s => .inl rfl
  | farewell c => exact heeds_tellEnd c
  | decision x => exact heeds_except x

end Heeding

end Scan

end Injector

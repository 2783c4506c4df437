import Injector.Proofs.Scan.Attempt
import Injector.Proofs.Scan.Task

/-!
# What a callback comes to

Whoever is called runs the function of its handler for the event, from what the handler remembers
and on the world as it stands, and the scan answers what it asks for. The end of it is the call's,
and is what the transcript has for the reply.
-/

set_option autoImplicit false

namespace Injector

variable {P : Platform}

def Dialog.Comes {Q : Type} {R : Q → Type} (dialog : Dialog Q R (Outcome P))
    (answer : (question : Q) → StateM (Scan P) (R question)) (bean : Bean P) (world : P.World)
    (outcome : Outcome P) : Prop :=
  ∃ s s' : Scan P, s.bean = bean ∧ s.world = world ∧
    dialog.run (Scan.answerSeen answer) s = (outcome, s')

namespace Call

noncomputable def outcome (call : Call P) : Outcome P :=
  (call.result, call.memory, call.left.value)

theorem outcome_made (c : Contributor P) (event : ScanEvent P) (s : Scan P)
    (outcome : Outcome P) : (made c event s outcome).outcome = outcome := by
  rw [Call.outcome, made, Ghost.value_of]

/-- The handler's own function for the event came to what is on record. -/
def Performed (f : ScanFrame P) (call : Call P) : Prop :=
  let handler := call.contributor.handler
  let world := call.world.value
  match call.event with
  | .started context _ => handler.onStart context handler.memory world = call.outcome
  | .fieldMatched shown => (handler.onField shown handler.memory world).Comes
      (Scan.answerField shown) call.bean.value world call.outcome
  | .methodMatched shown => (handler.onMethod shown handler.memory world).Comes
      (Scan.answerMethod shown) call.bean.value world call.outcome
  | .bindingRequested shown => (handler.onBinding shown handler.memory world).Comes
      (Scan.answerSlot f shown) call.bean.value world call.outcome
  | .ended context => handler.onEnd context handler.memory world = call.outcome
  | _ => False

end Call

namespace ScanEvent

def reply? : ScanEvent P → Option (Except Error Unit)
  | replied result => some result
  | _ => none

end ScanEvent

namespace Scan

def replies (s : Scan P) : List (Except Error Unit) := s.transcript.toList.filterMap (·.reply?)

structure Unheard (s s' : Scan P) : Prop where
  calls : s'.calls = s.calls
  replies : s'.replies = s.replies

def Reports (f : ScanFrame P) (s s' : Scan P) : Prop :=
  ∃ since, s'.calls.toList = s.calls.toList ++ since ∧
    s'.replies = s.replies ++ since.map (·.result) ∧ ∀ call ∈ since, call.Performed f

section Relations

variable {f : ScanFrame P} {s s' s'' : Scan P}

theorem Unheard.refl (s : Scan P) : Unheard s s := ⟨rfl, rfl⟩

theorem Unheard.trans (h : Unheard s s') (k : Unheard s' s'') : Unheard s s'' :=
  ⟨k.calls.trans h.calls, k.replies.trans h.replies⟩

theorem Unheard.reports (h : Unheard s s') : Reports f s s' :=
  ⟨[], by simp [h.calls], by simp [h.replies], by simp⟩

theorem Reports.trans (h : Reports f s s') (k : Reports f s' s'') : Reports f s s'' := by
  obtain ⟨since, calls, replies, performed⟩ := h
  obtain ⟨later, calls', replies', performed'⟩ := k
  refine ⟨since ++ later, ?_, ?_, List.forall_mem_append.mpr ⟨performed, performed'⟩⟩
  · rw [calls', calls, List.append_assoc]
  · rw [replies', replies, List.map_append, List.append_assoc]

theorem unheard_push (s : Scan P) {event : ScanEvent P} (h : event.reply? = none) :
    Unheard s { s with transcript := s.transcript.push event } :=
  ⟨rfl, by simp [Scan.replies, h]⟩

theorem Local.unheard {α : Type} {invariant : Bean P → Prop} {step : StateM (Scan P) α}
    (h : Local invariant step) (s : Scan P) : Unheard s (step s).2 := by
  obtain ⟨act, runs, -⟩ := h
  rw [runs s]
  exact ⟨rfl, rfl⟩

end Relations

def Wordless {α : Type} (step : ScanM P α) : Prop :=
  ∀ s, Ends step s (fun _ s' => Unheard s s') fun _ s' => Unheard s s'

def Performs {α : Type} (f : ScanFrame P) (step : ScanM P α) : Prop :=
  ∀ s, Ends step s (fun _ s' => Reports f s s') fun _ s' => Reports f s s'

section Steps

variable {α β : Type} {f : ScanFrame P} {step : ScanM P α}

theorem Wordless.performs (h : Wordless step) : Performs f step :=
  fun s => (h s).mono (fun _ _ unheard => unheard.reports) fun _ _ unheard => unheard.reports

theorem Performs.bind {next : α → ScanM P β} (h : Performs f step)
    (hn : ∀ a, Performs f (next a)) : Performs f (step >>= next) := by
  intro s
  apply (h s).bind
  intro a s' reported
  exact (hn a s').mono (fun _ _ later => reported.trans later) fun _ _ later => reported.trans later

theorem wordless_except (x : Except Error α) : Wordless (liftM x : ScanM P α) :=
  fun s => ends_except.mpr ⟨fun _ _ => .refl s, fun _ _ => .refl s⟩

theorem wordless_modify {change : Scan P → Scan P} (h : ∀ s, Unheard s (change s)) :
    Wordless (modify change : ScanM P PUnit) := h

theorem wordless_record {event : ScanEvent P} (h : event.reply? = none) :
    Wordless (record event) := wordless_modify fun s => unheard_push s h

theorem wordless_withCatalog (look : P.World → CatalogM α) : Wordless (withCatalog look) :=
  fun _ => ends_withCatalog.mpr <|
    (Ends.any _ _).mono (fun _ _ _ => ⟨rfl, rfl⟩) fun _ _ _ => ⟨rfl, rfl⟩

theorem performs_compositional (f : ScanFrame P) :
    Compositional fun step => Performs (P := P) f step where
  pure := fun _ s => (Unheard.refl s).reports
  throw := fun _ s => (Unheard.refl s).reports
  get := fun s => (Unheard.refl s).reports
  bind := Performs.bind
  withCatalog := fun _ => (wordless_withCatalog _).performs

theorem wordless_dequeue : Wordless (dequeue (P := P)) := by
  intro s
  unfold dequeue
  rw [ends_bind, ends_get]
  split
  · exact .refl s
  · exact ⟨rfl, rfl⟩

theorem performs_draining (f : ScanFrame P) : Draining fun step => Performs (P := P) f step where
  toCompositional := performs_compositional f
  dequeue := wordless_dequeue.performs
  spend := (wordless_modify fun _ => ⟨rfl, rfl⟩).performs
  resolving := fun _ => (wordless_record rfl).performs
  limit := fun _ s => (Unheard.refl s).reports

theorem wordless_install (f : ScanFrame P) (key : ExtensionKey) : Wordless (install f key) := by
  intro s
  unfold install
  rw [ends_bind, ends_get, ends_bind, ends_except]
  exact ⟨fun _ _ => ⟨rfl, rfl⟩, fun _ _ => .refl s⟩

theorem wordless_takeHandler (fullAccess : Bool) (extension : Extension P) :
    Wordless (takeHandler fullAccess extension) := by
  intro s
  unfold takeHandler
  rw [ends_bind, ends_get]
  split <;> exact ⟨rfl, rfl⟩

/-- A callback that was performed has been heard of once its reply is noted. -/
theorem ends_settle_reports {s s₁ s₂ : Scan P} {result : Except Error Unit}
    (unheard : Unheard s s₁) (call : Call P) (calls : s₂.calls = s₁.calls.push call)
    (replies : s₂.replies = s₁.replies) (ended : call.result = result)
    (performed : call.Performed f) :
    Ends (settle result) s₂ (fun _ s' => Reports f s s') fun _ s' => Reports f s s' := by
  have reported : Reports f s { s₂ with transcript := s₂.transcript.push (.replied result) } := by
    refine ⟨[call], ?_, ?_, by simpa using performed⟩
    · rw [calls, unheard.calls, Array.toList_push]
    · have known : s₂.replies = s.replies := replies.trans unheard.replies
      rw [← known]
      simp [Scan.replies, ScanEvent.reply?, ended]
  unfold settle
  rw [ends_bind, ends_record, ends_except]
  exact ⟨fun _ _ => reported, fun _ _ => reported⟩

theorem performs_start (f : ScanFrame P) (key : ExtensionKey) : Performs f (start f key) := by
  intro s
  unfold start
  apply Ends.bind ((wordless_install f key s).imp_failed fun _ _ unheard => unheard.reports)
  intro extension s₁ installed
  apply Ends.bind ((wordless_takeHandler _ extension s₁).imp_failed
    fun _ _ taken => (installed.trans taken).reports)
  rintro ⟨handler, flag⟩ s₂ taken
  rw [ends_bind, ends_record, ends_bind, ends_get, ends_bind, ends_close]
  let event : ScanEvent P := .started (f.contextOf key) flag
  let s₃ : Scan P := { s₂ with transcript := s₂.transcript.push event }
  have told : Unheard s s₃ := (installed.trans taken).trans (unheard_push s₂ rfl)
  let call : Call P := .made ⟨key, handler, f.contextOf key⟩ event s₃
    (handler.onStart (f.contextOf key) handler.memory s₃.world)
  have performed : call.Performed f := by
    rw [Call.Performed, Call.outcome_made]
    exact congrArg (handler.onStart _ handler.memory) (Ghost.value_of s₃.world)
  apply Ends.bind
  · exact ends_settle_reports told call rfl rfl rfl performed
  · exact fun _ s' reported => reported

theorem performs_activate (f : ScanFrame P) (key : ExtensionKey) : Performs f (activate f key) := by
  intro s
  unfold activate
  rw [ends_bind, ends_get]
  split
  · exact (Unheard.refl s).reports
  · exact performs_start f key s

/-- A dialog is held where the callback finds the scan, and nobody else is called meanwhile. -/
theorem performs_converse {Q : Type} {R : Q → Type} {c : Contributor P} {shown : ScanEvent P}
    {callback : P.Memory → P.World → Dialog Q R (Outcome P)}
    {answer : (question : Q) → StateM (Scan P) (R question)}
    (answers : ∀ question, Local (fun _ => True) (answer question))
    (performed : ∀ call : Call P, call.event = shown → call.contributor = c →
      (callback c.handler.memory call.world.value).Comes answer call.bean.value call.world.value
        call.outcome → call.Performed f) :
    Performs f (converse c shown callback answer) := by
  intro s
  have seen : ∀ question s', Unheard s s' → Unheard s (answerSeen answer question s').2 :=
    fun question s' unheard =>
      (unheard.trans ((answers question).unheard s')).trans (unheard_push _ rfl)
  have noted : Unheard s (observe s).2 := unheard_push s rfl
  have held := Dialog.run_keeps seen (callback c.handler.memory s.world) noted
  unfold converse
  show Ends (get >>= fun s => liftM observe >>= fun _ => liftM _ >>= fun outcome => _) s _ _
  rw [ends_bind, ends_get, ends_bind, ends_state, ends_bind, ends_state]
  rcases came : (callback c.handler.memory s.world).run (answerSeen answer) (observe s).2 with
    ⟨⟨result, memory, world⟩, s'⟩
  rw [came] at held
  rw [ends_bind, ends_close, ends_bind, ends_modify]
  let call : Call P := .made c shown s (result, memory, world)
  have world_eq : call.world.value = s.world := Ghost.value_of s.world
  have bean_eq : call.bean.value = s.bean := Ghost.value_of s.bean
  have comes : call.Performed f := by
    apply performed call rfl rfl
    rw [Call.outcome_made, world_eq, bean_eq]
    exact ⟨(observe s).2, s', rfl, rfl, came⟩
  exact ends_settle_reports held call rfl rfl rfl comes

theorem performs_consulting (f : ScanFrame P) :
    Consulting f fun step => Performs (P := P) f step where
  toCompositional := performs_compositional f
  decision := fun _ => (wordless_except _).performs
  rethrow := fun _ performs s => ends_tryCatch.mpr (performs s)
  activate := performs_activate f
  announce := by
    intro event unstood unresolved unreplied
    refine (wordless_record ?_).performs
    cases event with
    | replied result => exact absurd rfl (unreplied result)
    | _ => rfl
  field := by
    intro c shown
    apply performs_converse fun call =>
      local_answerField (upheld_true f) shown call fun _ _ _ _ _ => trivial
    rintro call event rfl comes
    rw [Call.Performed, event]
    exact comes
  method := by
    intro c shown
    apply performs_converse fun call =>
      local_answerMethod (upheld_true f) shown call fun _ _ _ _ => trivial
    rintro call event rfl comes
    rw [Call.Performed, event]
    exact comes
  request := by
    intro c shown
    apply performs_converse fun call =>
      local_answerSlot (upheld_true f) call (SlotCall.fit_true call)
    rintro call event rfl comes
    rw [Call.Performed, event]
    exact comes
  append := fun _ => Wordless.performs fun _ => ⟨rfl, rfl⟩
  bindSlot := fun id _ _ => ((performs_compositional f).operationAt f id).bind fun _ =>
    (wordless_except _).performs.bind fun _ => (wordless_modify fun _ => ⟨rfl, rfl⟩).performs

theorem performs_tellEnd (f : ScanFrame P) (c : Contributor P) : Performs f (tellEnd c) := by
  intro s
  unfold tellEnd
  rw [ends_bind, ends_record, ends_bind, ends_get, ends_bind, ends_close]
  let s₁ : Scan P := { s with transcript := s.transcript.push (.ended c.context) }
  let call : Call P := .made c (.ended c.context) s₁
    (c.handler.onEnd c.context c.handler.memory s₁.world)
  have performed : call.Performed f := by
    rw [Call.Performed, Call.outcome_made]
    exact congrArg (c.handler.onEnd _ c.handler.memory) (Ghost.value_of s₁.world)
  exact ends_settle_reports (unheard_push s rfl) call rfl rfl rfl performed

theorem performs_finish (f : ScanFrame P) (contributors : List (Contributor P)) :
    Performs f (finish contributors) := by
  induction contributors with
  | nil => exact (performs_compositional f).pure _
  | cons c rest ih =>
    rw [finish_cons]
    exact (performs_tellEnd f c).bind fun _ => ih

theorem performs_scanWith (f : ScanFrame P) (bean : Bean P) : Performs f (scanWith f bean) := by
  apply (performs_consulting f).scanWith (performs_draining f) (performs_finish f)
  exact (wordless_modify fun _ => ⟨rfl, rfl⟩).performs

/-- The frame of the scan is known only once the hooks of the class are. -/
theorem ends_scanBean_performed (host : Host P) (s : Scan P) :
    Ends (scanBean host) s
      (fun _ s' => ∃ f : ScanFrame P, f.host = host ∧ f.beanType = s.bean.type ∧
        f.installer = s.bean.installer ∧ Reports f s s')
      fun _ s' => ∃ f : ScanFrame P, f.host = host ∧ f.beanType = s.bean.type ∧
        f.installer = s.bean.installer ∧ Reports f s s' := by
  apply ends_scanBean_of
  · exact fun _ => ⟨⟨host, [], s.bean.type, s.bean.installer⟩, rfl, rfl, rfl,
      (Unheard.refl s).reports⟩
  apply (wordless_withCatalog _ s).mono
  · intro model s' unheard
    let f : ScanFrame P := ⟨host, model, s.bean.type, s.bean.installer⟩
    have reports : ∀ s'', Reports f s' s'' → ∃ f : ScanFrame P, f.host = host ∧
        f.beanType = s.bean.type ∧ f.installer = s.bean.installer ∧ Reports f s s'' :=
      fun s'' reported => ⟨f, rfl, rfl, rfl, unheard.reports.trans reported⟩
    exact (performs_scanWith f s.bean s').mono (fun _ => reports) fun _ => reports
  · exact fun _ _ unheard =>
      ⟨⟨host, [], s.bean.type, s.bean.installer⟩, rfl, rfl, rfl, unheard.reports⟩

end Steps

end Scan

end Injector

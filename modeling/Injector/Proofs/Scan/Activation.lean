import Injector.Proofs.Scan.Attendance

/-!
# How an extension is activated and how it is shown something

Its first callback puts it on the roster; each later one is announced, and its handler is called
once.
-/

set_option autoImplicit false

namespace Injector

variable {P : Platform}

namespace Scan

section Activation

variable {f : ScanFrame P} {invariant : Bean P → Prop} {s : Scan P} {key : ExtensionKey}

theorem ends_takeHandler (fullAccess : Bool) (extension : Extension P) (s : Scan P) :
    Ends (takeHandler fullAccess extension) s
      (fun taken s' => ∃ world preset, s' = { s with world, preset } ∧
        taken.1.Serves fullAccess s.preset
          (fun handler => ∃ w, handler = (extension.newHandler w).1) taken.2 ∧
        (fullAccess = false → preset = s.preset))
      fun _ _ => False := by
  unfold takeHandler Handler.Serves
  rw [ends_bind, ends_get]
  cases fullAccess with
  | false => exact ⟨_, s.preset, rfl, ⟨rfl, s.world, rfl⟩, fun _ => rfl⟩
  | true =>
    cases given : s.preset with
    | some handler => exact ⟨s.world, none, rfl, ⟨rfl, rfl⟩, by simp⟩
    | none => exact ⟨_, none, rfl, ⟨rfl, s.world, rfl⟩, by simp⟩

/-- What does not concern the extensions that take part may come after. -/
theorem Joins.unattended {call : Call P} {s' s'' : Scan P} (h : Joins f key s call s')
    (k : Unattended s' s'') : Joins f key s call s'' where
  key_eq := h.key_eq
  context := h.context
  handler := by
    obtain ⟨preset, event, serves⟩ := h.handler
    exact ⟨preset, event, serves.mono fun makes => makes.mono k.extensions⟩
  preset := fun limited => k.preset.trans (h.preset limited)
  calls := by
    rw [k.calls]
    exact h.calls
  callbacks := k.callbacks.trans h.callbacks
  extensions := h.extensions.trans k.extensions

theorem hush_settle (result : Except Error Unit) : Hush invariant (settle (P := P) result) :=
  (hush_record rfl).bind fun _ => hush_except result

theorem ends_record {event : ScanEvent P} {ok : PUnit → Scan P → Prop}
    {failed : Error → Scan P → Prop} : Ends (record event) s ok failed ↔
      ok ⟨⟩ { s with transcript := s.transcript.push event } := Iff.rfl

theorem ends_close {call : Call P} {world : P.World} {ok : PUnit → Scan P → Prop}
    {failed : Error → Scan P → Prop} : Ends (close call world) s ok failed ↔
      ok ⟨⟩ { s with world, calls := s.calls.push call } := Iff.rfl

def Starts (since : List (Call P)) : Prop := ∀ call ∈ since, call.event.isStart = true

theorem starts_nil : Starts ([] : List (Call P)) := by simp [Starts]

/-- However the first callback ends, it was made; the contributor is on the roster if it ended
well. -/
theorem Joins.ends {call : Call P} {s' : Scan P} (h : Joins f key s call s')
    (new : s.contributor? key = none) (same : s'.contributors = s.contributors)
    (seen : invariant call.bean.value) (hb : invariant s'.bean) (result : Except Error Unit) :
    Ends (settle result >>= fun _ =>
        modify (fun s => { s with contributors := s.contributors ++ [call.after] }) >>= fun _ =>
          pure call.after) s'
      (fun c s'' => ∃ since, Spans invariant s since s'' ∧ Enrolled f s s'' ∧ Starts since ∧
        s''.contributor? key = some c)
      fun _ s'' => ∃ since, Spans invariant s since s'' ∧ Dismissed f s s'' ∧ Starts since := by
  have start : Starts [call] := by
    obtain ⟨flag, event, -⟩ := h.handler
    simp [Starts, event, ScanEvent.isStart]
  have settles : Ends (settle result) s' (fun _ s'' => Unattended s' s'' ∧ invariant s''.bean)
      fun _ s'' => ∃ since, Spans invariant s since s'' ∧ Dismissed f s s'' ∧ Starts since := by
    apply (hush_settle result s' hb).imp_failed
    rintro _ s'' ⟨unattended, hb'⟩
    have joined := h.unattended unattended
    refine ⟨[call], ⟨joined.calls, by simpa using seen, hb'⟩, ⟨fun given roster => ?_⟩, start⟩
    refine ⟨fun other => if key == other then some call.after else s.contributor? other, ?_⟩
    exact joined.attendance roster new (fun _ here => if_pos here)
      fun _ elsewhere => if_neg (by simp [elsewhere])
  apply Ends.bind settles
  rintro _ s'' ⟨unattended, hb'⟩
  have joined := h.unattended unattended
  have kept := unattended.contributors.trans same
  let enrolled : Scan P := { s'' with contributors := s''.contributors ++ [call.after] }
  have listed : enrolled.contributors = s.contributors ++ [call.after] :=
    congrArg (· ++ [call.after]) kept
  have joins : Joins f key s call enrolled :=
    ⟨joined.key_eq, joined.context, joined.handler, joined.preset, joined.calls,
      joined.callbacks, joined.extensions⟩
  have found : enrolled.contributor? key = some call.after := by
    have here : (call.after.key == key) = true := h.key_eq.symm ▸ BEq.rfl
    rw [contributor?_snoc listed, new, if_pos here]
    rfl
  exact ⟨[call], ⟨joined.calls, by simpa using seen, hb'⟩,
    ⟨fun given roster => joins.roster roster new listed⟩, start, found⟩

theorem joins_started {extension : Extension P} {handler : Handler P} {flag : Bool}
    {preset : Option (Handler P)} {world : P.World} {call : Call P} {s₁ : Scan P}
    (contributor : call.contributor = ⟨key, handler, f.contextOf key⟩)
    (event : call.event = .started (f.contextOf key) flag) (unattended : Unattended s s₁)
    (installed : s₁.extensions.find? key = some extension)
    (serves : handler.Serves (f.installer == .extension key) s₁.preset
      (fun handler => ∃ w, handler = (extension.newHandler w).1) flag)
    (kept : (f.installer == .extension key) = false → preset = s₁.preset) :
    Joins f key s call
      { s₁ with
        world
        preset
        transcript := s₁.transcript.push (.started (f.contextOf key) flag)
        calls := s₁.calls.push call } where
  key_eq := by rw [contributor]
  context := by rw [contributor]
  handler := by
    rw [unattended.preset] at serves
    rw [contributor]
    refine ⟨flag, event, serves.mono ?_⟩
    rintro ⟨w, made⟩
    exact ⟨extension, w, installed, made⟩
  preset := fun limited => (kept limited).trans unattended.preset
  calls := by rw [Array.toList_push, unattended.calls]
  callbacks := by
    rw [← unattended.callbacks, event]
    exact callbacks_push_call s₁ rfl
  extensions := unattended.extensions

theorem attends_start (hb : invariant s.bean) (new : s.contributor? key = none) :
    Attends f invariant s (start f key)
      (fun c since s' => Starts since ∧ s'.contributor? key = some c) Starts := by
  unfold start
  have installs : Ends (install f key) s (fun extension s₁ => (Unattended s s₁ ∧ s₁.bean = s.bean) ∧
      s₁.extensions.find? key = some extension) fun _ s₁ =>
        ∃ since, Spans invariant s since s₁ ∧ Dismissed f s s₁ ∧ Starts since := by
    apply (ends_install_extension f key s).imp_failed
    rintro _ s₁ ⟨unattended, same⟩
    exact ⟨[], .of_unattended unattended (same ▸ hb),
      (Enrolled.of_unattended unattended).dismissed, starts_nil⟩
  apply Ends.bind installs
  rintro extension s₁ ⟨⟨unattended, same⟩, installed⟩
  apply Ends.bind ((ends_takeHandler _ extension s₁).imp_failed fun _ _ absurd => absurd.elim)
  rintro ⟨handler, flag⟩ _ ⟨world, preset, rfl, serves, kept⟩
  rw [ends_bind, ends_record, ends_bind, ends_get, ends_bind, ends_close]
  have seen : invariant (Ghost.of s₁.bean).value := by
    rw [Ghost.value_of, same]
    exact hb
  exact (joins_started rfl rfl unattended installed serves kept).ends new unattended.contributors
    seen (same ▸ hb) _

theorem attends_activate (hb : invariant s.bean) :
    Attends f invariant s (activate f key)
      (fun c since s' => Starts since ∧ s'.contributor? key = some c) Starts := by
  unfold activate
  unfold Attends
  rw [ends_bind, ends_get]
  rcases found : s.contributor? key with _ | c
  · have new : s.contributors.find? (·.key == key) = none := found
    rw [new]
    exact attends_start hb found
  · have known : s.contributors.find? (·.key == key) = some c := found
    rw [known]
    exact Attends.pure hb ⟨starts_nil, found⟩

end Activation

section Conversation

variable {Q : Type} {R : Q → Type} {f : ScanFrame P} {invariant : Bean P → Prop} {s s' : Scan P}
  {c : Contributor P} {shown : ScanEvent P}

def Talks (invariant : Bean P → Prop) (c : Contributor P) (shown : ScanEvent P) (s s' : Scan P) :
    Prop :=
  ∃ call, call.contributor = c ∧ invariant call.bean.value ∧ Answers shown s call s' ∧
    invariant s'.bean

/-- What is looked at and answered on the way concerns no extension. -/
theorem keeps_dialog {α : Type} {answer : (question : Q) → StateM (Scan P) (R question)}
    (answers : ∀ question, Local invariant (answer question)) (dialog : Dialog Q R α)
    (hb : invariant s.bean) :
    Unattended s (dialog.run (answerSeen answer) (observe s).2).2 ∧
      invariant (dialog.run (answerSeen answer) (observe s).2).2.bean := by
  have looked : Unattended s (observe s).2 ∧ invariant (observe s).2.bean :=
    ⟨unattended_push s rfl, hb⟩
  have seen : ∀ question s', Unattended s s' ∧ invariant s'.bean →
      Unattended s (answerSeen answer question s').2 ∧
        invariant (answerSeen answer question s').2.bean := by
    rintro question s' ⟨unattended, hb'⟩
    obtain ⟨answered, kept⟩ := (answers question).keeps s' hb'
    exact ⟨(unattended.trans answered).trans (unattended_push _ rfl), kept⟩
  exact Dialog.run_keeps seen dialog looked

/-- Answers of which none calls a handler: a handler asks, and hears nothing of the others. -/
theorem ends_converse {callback : P.Memory → P.World → Dialog Q R (Outcome P)}
    {answer : (question : Q) → StateM (Scan P) (R question)}
    (answers : ∀ question, Local invariant (answer question)) (hb : invariant s.bean) :
    Ends (converse c shown callback answer) s (fun _ s' => Talks invariant c shown s s')
      fun _ s' => Talks invariant c shown s s' := by
  obtain ⟨unattended, kept⟩ := keeps_dialog answers (callback c.handler.memory s.world) hb
  unfold converse
  show Ends (get >>= fun s => liftM observe >>= fun _ => liftM _ >>= fun outcome => _) s _ _
  rw [ends_bind, ends_get, ends_bind, ends_state, ends_bind, ends_state]
  generalize (callback c.handler.memory s.world).run (answerSeen answer) (observe s).2 = ended
    at unattended kept ⊢
  obtain ⟨⟨result, memory, world⟩, s'⟩ := ended
  dsimp only at unattended kept ⊢
  rw [ends_bind, ends_close, ends_bind, ends_modify]
  have seen : invariant (Ghost.of s.bean).value := by
    rw [Ghost.value_of]
    exact hb
  let answered : Scan P := { s' with
    world
    calls := s'.calls.push (.made c shown s (result, memory, world))
    contributors := remember c memory s'.contributors }
  have talks : ∀ s'', Unattended answered s'' ∧ invariant s''.bean →
      Talks invariant c shown s s'' := by
    rintro s'' ⟨after, hb'⟩
    refine ⟨.made c shown s (result, memory, world), rfl, seen, ⟨rfl, ?_, ?_, ?_, ?_, ?_⟩, hb'⟩
    · rw [after.calls, Array.toList_push, unattended.calls]
    · exact after.callbacks.trans unattended.callbacks
    · exact after.contributors.trans (congrArg (remember c memory) unattended.contributors)
    · exact after.preset.trans unattended.preset
    · exact unattended.extensions.trans after.extensions
  exact (hush_settle result answered kept).mono (fun _ => talks) fun _ => talks

/-- Callbacks of which each but the last activates an extension, and the last may be of an
event. -/
structure Shows (event : Contributor P → ScanEvent P) (since : List (Call P)) : Prop where
  split : ∃ starts last, since = starts ++ Option.toList last ∧ Starts starts ∧
    ∀ call ∈ last, call.event = event call.contributor

theorem shows_of_starts {event : Contributor P → ScanEvent P} {since : List (Call P)}
    (h : Starts since) : Shows event since :=
  ⟨since, none, by simp, h, by simp⟩

theorem Roster.announce {given : Option (Handler P)} {context : ScanContext}
    (h : Roster f given [] s) (told : shown.context? = some context) :
    Roster f given [shown] { s with transcript := s.transcript.push shown } where
  attendance :=
    { told := by rw [callbacks_push_call s told, h.attendance.told, List.append_nil]
      known := h.attendance.known
      staffed := h.attendance.staffed
      lives := h.attendance.lives }
  distinct := h.distinct
  contexts := h.contexts
  preset := h.preset
  order := h.order
  running := h.running

/-- A contributor is shown something: the record of it is followed by the callback. -/
theorem Talks.attends (takesPart : s.contributor? c.key = some c)
    (context : ∃ key, (c.key == key) = true ∧ shown.context? = some (c.contextFor key))
    (between : shown.isStart = false ∧ shown.isEnd = false)
    (h : Talks invariant c shown { s with transcript := s.transcript.push shown } s') :
    ∃ call, call.contributor = c ∧ call.event = shown ∧ Spans invariant s [call] s' ∧
      Enrolled f s s' := by
  obtain ⟨call, rfl, seen, answers, hb⟩ := h
  refine ⟨call, rfl, answers.event, ⟨answers.calls, by simpa using seen, hb⟩, ⟨?_⟩⟩
  intro given roster
  obtain ⟨key, same, told⟩ := context
  exact answers.roster (roster.announce told) takesPart ⟨key, same, told⟩ between

/-- An extension is activated if need be, and is shown something. -/
theorem attends_announce {key : ExtensionKey} {event : Contributor P → ScanEvent P}
    {talk : Contributor P → ScanM P Unit}
    (context : ∀ c, (event c).context? = some (c.contextFor key))
    (between : ∀ c, (event c).isStart = false ∧ (event c).isEnd = false)
    (talks : ∀ c s, invariant s.bean → Ends (talk c) s
      (fun _ s' => Talks invariant c (event c) s s') fun _ s' => Talks invariant c (event c) s s')
    (hb : invariant s.bean) :
    Attends f invariant s (activate f key >>= fun c => record (event c) >>= fun _ => talk c)
      (fun _ since _ => Shows event since) (Shows event) := by
  have activated : Attends f invariant s (activate f key)
      (fun c since s' => Starts since ∧ s'.contributor? key = some c) (Shows event) :=
    (attends_activate hb).mono (fun _ _ _ h => h) fun _ => shows_of_starts
  apply activated.bind
  rintro c since s' hb' ⟨starts, found⟩
  have same := key_of_contributor? found
  have takesPart : s'.contributor? c.key = some c := by
    rw [contributor?_congr same]
    exact found
  have shows : ∀ call : Call P, call.contributor = c → call.event = event c →
      Shows event (since ++ [call]) := by
    rintro call rfl shown
    exact ⟨since, some call, rfl, starts, by simpa using shown⟩
  unfold Attends
  rw [ends_bind, ends_record]
  apply (talks c { s' with transcript := s'.transcript.push (event c) } hb').mono
  · intro _ s'' talked
    obtain ⟨call, called, shown, spans, enrolled⟩ :=
      talked.attends takesPart ⟨key, same, context c⟩ (between c)
    exact ⟨[call], spans, enrolled, shows call called shown⟩
  · intro _ s'' talked
    obtain ⟨call, called, shown, spans, enrolled⟩ :=
      talked.attends takesPart ⟨key, same, context c⟩ (between c)
    exact ⟨[call], spans, enrolled.dismissed, shows call called shown⟩

end Conversation

end Scan

end Injector

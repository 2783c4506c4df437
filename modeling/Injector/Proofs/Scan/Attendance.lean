import Injector.Proofs.Scan.Local
import Injector.Proofs.Scan.Roster

/-!
# Which callbacks the steps of a scan make

Most steps make none; where an extension is shown something it is activated first if need be, and
then its handler is called once.
-/

set_option autoImplicit false

namespace Injector

variable {P : Platform}

namespace Scan

def Hush {α : Type} (invariant : Bean P → Prop) (step : ScanM P α) : Prop :=
  ∀ s, invariant s.bean → Ends step s (fun _ s' => Unattended s s' ∧ invariant s'.bean)
    fun _ s' => Unattended s s' ∧ invariant s'.bean

section Hushed

variable {α β : Type} {invariant : Bean P → Prop} {step : ScanM P α} {f : ScanFrame P}

theorem hush_pure (a : α) : Hush invariant (pure a : ScanM P α) := fun s hb => ⟨.refl s, hb⟩

theorem hush_throw (e : Error) : Hush invariant (throw e : ScanM P α) := fun s hb => ⟨.refl s, hb⟩

theorem hush_get : Hush invariant (get : ScanM P (Scan P)) := fun s hb => ⟨.refl s, hb⟩

theorem hush_except (x : Except Error α) : Hush invariant (liftM x : ScanM P α) :=
  fun s hb => ends_except.mpr ⟨fun _ _ => ⟨.refl s, hb⟩, fun _ _ => ⟨.refl s, hb⟩⟩

theorem Hush.bind {next : α → ScanM P β} (h : Hush invariant step)
    (hn : ∀ a, Hush invariant (next a)) : Hush invariant (step >>= next) := by
  intro s hb
  apply (h s hb).bind
  rintro a s' ⟨hs, hb'⟩
  exact (hn a s' hb').mono (fun _ _ hs' => ⟨hs.trans hs'.1, hs'.2⟩)
    fun _ _ hs' => ⟨hs.trans hs'.1, hs'.2⟩

/-- What a handler asks for calls no other handler. -/
theorem Local.keeps {step : StateM (Scan P) α} (h : Local invariant step) (s : Scan P)
    (hb : invariant s.bean) : Unattended s (step s).2 ∧ invariant (step s).2.bean := by
  obtain ⟨act, runs, keeps⟩ := h
  rw [runs s]
  exact ⟨⟨rfl, rfl, rfl, rfl, .refl _⟩, keeps s.bean s.queue hb⟩

theorem Local.hush (h : Local invariant step.run) : Hush invariant step := by
  intro s hb
  have kept := h.keeps s hb
  rw [ExceptT.run] at kept
  unfold Ends
  split
  next ran =>
    rw [ran] at kept
    exact kept
  next ran =>
    rw [ran] at kept
    exact kept

theorem callbacks_push (s : Scan P) {event : ScanEvent P} (h : event.context? = none) :
    callbacks { s with transcript := s.transcript.push event } = s.callbacks := by
  simp [callbacks, h]

theorem callbacks_push_call (s : Scan P) {event : ScanEvent P} {context : ScanContext}
    (h : event.context? = some context) :
    callbacks { s with transcript := s.transcript.push event } = s.callbacks ++ [event] := by
  simp [callbacks, h]

theorem unattended_push (s : Scan P) {event : ScanEvent P} (h : event.context? = none) :
    Unattended s { s with transcript := s.transcript.push event } :=
  ⟨rfl, rfl, rfl, callbacks_push s h, .refl _⟩

theorem hush_record {event : ScanEvent P} (h : event.context? = none) :
    Hush invariant (record event) := fun s hb => ⟨unattended_push s h, hb⟩

theorem hush_withCatalog (step : P.World → CatalogM α) : Hush invariant (withCatalog step) := by
  intro s hb
  have changed : ∀ catalog, Unattended s { s with catalog } ∧ invariant s.bean :=
    fun _ => ⟨⟨rfl, rfl, rfl, rfl, .refl _⟩, hb⟩
  unfold withCatalog
  rw [ends_bind, ends_get]
  show Ends (set _ >>= fun _ => _) s _ _
  rw [ends_bind, ends_set, ends_except]
  exact ⟨fun _ _ => changed _, fun _ _ => changed _⟩

theorem hush_compositional (invariant : Bean P → Prop) :
    Compositional fun step => Hush invariant step where
  pure := hush_pure
  throw := fun _ => hush_throw _
  get := hush_get
  bind := Hush.bind
  withCatalog := fun _ => hush_withCatalog _

theorem hush_dequeue : Hush invariant (dequeue (P := P)) := by
  intro s hb
  unfold dequeue
  rw [ends_bind, ends_get]
  split
  · exact ⟨.refl s, hb⟩
  · exact ⟨⟨rfl, rfl, rfl, rfl, .refl _⟩, hb⟩

theorem hush_spend : Hush invariant (spend (P := P)) :=
  fun s hb => ⟨⟨rfl, rfl, rfl, rfl, .refl s.extensions⟩, hb⟩

theorem hush_bindToService {fit : Operation P → Prop} (upheld : Upheld f invariant fit)
    (op : Operation P) (index : Nat) (parameter : Parameter P) :
    Hush invariant (bindToService f op index parameter) := by
  unfold bindToService
  split
  · exact (local_bindSlot (upheld.bound _ _ _)).hush
  · exact hush_throw _

/-- The extension is there afterwards. -/
theorem ends_install_extension (f : ScanFrame P) (key : ExtensionKey) (s : Scan P) :
    Ends (install f key) s
      (fun extension s' => (Unattended s s' ∧ s'.bean = s.bean) ∧
        s'.extensions.find? key = some extension)
      fun _ s' => Unattended s s' ∧ s'.bean = s.bean := by
  unfold install
  rw [ends_bind, ends_get]
  show Ends (_ >>= _) s _ _
  rw [ends_bind, ends_except]
  refine ⟨?_, fun _ _ => ⟨.refl s, rfl⟩⟩
  rintro ⟨extension, extensions, world⟩ obtained
  obtain ⟨grows, installed⟩ := Extensions.grows_obtain obtained
  exact ⟨⟨⟨rfl, rfl, rfl, rfl, grows⟩, rfl⟩, installed⟩

end Hushed

structure Spans (invariant : Bean P → Prop) (s : Scan P) (since : List (Call P)) (s' : Scan P) :
    Prop where
  calls : s'.calls.toList = s.calls.toList ++ since
  seen : ∀ call ∈ since, invariant call.bean.value
  kept : invariant s'.bean

namespace Spans

variable {invariant : Bean P → Prop} {s s' s'' : Scan P} {since later : List (Call P)}

theorem of_unattended (h : Unattended s s') (kept : invariant s'.bean) :
    Spans invariant s [] s' := ⟨by rw [h.calls, List.append_nil], by simp, kept⟩

theorem trans (h : Spans invariant s since s') (k : Spans invariant s' later s'') :
    Spans invariant s (since ++ later) s'' where
  calls := by rw [k.calls, h.calls, List.append_assoc]
  seen := List.forall_mem_append.mpr ⟨h.seen, k.seen⟩
  kept := k.kept

theorem mono {invariant' : Bean P → Prop} (h : Spans invariant s since s')
    (weaker : ∀ bean, invariant bean → invariant' bean) : Spans invariant' s since s' :=
  ⟨h.calls, fun call hc => weaker _ (h.seen call hc), weaker _ h.kept⟩

end Spans

structure Enrolled (f : ScanFrame P) (s s' : Scan P) : Prop where
  roster : ∀ given, Roster f given [] s → Roster f given [] s'

/-- A callback that fails may keep an extension from the roster, but it was made as any other. -/
structure Dismissed (f : ScanFrame P) (s s' : Scan P) : Prop where
  attendance : ∀ given, Roster f given [] s → ∃ now, Attendance f given [] now s'

namespace Enrolled

variable {f : ScanFrame P} {s s' s'' : Scan P}

theorem of_unattended (h : Unattended s s') : Enrolled f s s' :=
  ⟨fun _ roster => roster.unattended h⟩

theorem refl (f : ScanFrame P) (s : Scan P) : Enrolled f s s := .of_unattended (.refl s)

theorem trans (h : Enrolled f s s') (k : Enrolled f s' s'') : Enrolled f s s'' :=
  ⟨fun given roster => k.roster given (h.roster given roster)⟩

theorem dismissed (h : Enrolled f s s') : Dismissed f s s' :=
  ⟨fun given roster => ⟨_, (h.roster given roster).attendance⟩⟩

theorem then_dismissed (h : Enrolled f s s') (k : Dismissed f s' s'') : Dismissed f s s'' :=
  ⟨fun given roster => k.attendance given (h.roster given roster)⟩

end Enrolled

/-- Run from `s`, the step makes callbacks with `ok`, or it fails and has made some with
`failed`. -/
def Attends {α : Type} (f : ScanFrame P) (invariant : Bean P → Prop) (s : Scan P)
    (step : ScanM P α) (ok : α → List (Call P) → Scan P → Prop) (failed : List (Call P) → Prop) :
    Prop :=
  Ends step s
    (fun a s' => ∃ since, Spans invariant s since s' ∧ Enrolled f s s' ∧ ok a since s')
    fun _ s' => ∃ since, Spans invariant s since s' ∧ Dismissed f s s' ∧ failed since

namespace Attends

variable {α β : Type} {f : ScanFrame P} {invariant : Bean P → Prop} {s : Scan P}
  {step : ScanM P α} {ok : α → List (Call P) → Scan P → Prop} {failed : List (Call P) → Prop}

theorem mono {ok' : α → List (Call P) → Scan P → Prop} {failed' : List (Call P) → Prop}
    (h : Attends f invariant s step ok failed) (hok : ∀ a since s', ok a since s' → ok' a since s')
    (hfailed : ∀ since, failed since → failed' since) : Attends f invariant s step ok' failed' := by
  apply Ends.mono h
  · rintro a s' ⟨since, spans, enrolled, ha⟩
    exact ⟨since, spans, enrolled, hok a since s' ha⟩
  · rintro _ s' ⟨since, spans, dismissed, hf⟩
    exact ⟨since, spans, dismissed, hfailed since hf⟩

/-- What follows adds its own callbacks. -/
theorem bind {next : α → ScanM P β} {ok' : β → List (Call P) → Scan P → Prop}
    (h : Attends f invariant s step ok failed)
    (hn : ∀ a since s', invariant s'.bean → ok a since s' → Attends f invariant s' (next a)
      (fun b later s'' => ok' b (since ++ later) s'') fun later => failed (since ++ later)) :
    Attends f invariant s (step >>= next) ok' failed := by
  apply Ends.bind h
  rintro a s' ⟨since, spans, enrolled, ha⟩
  apply Ends.mono (hn a since s' spans.kept ha)
  · rintro b s'' ⟨later, spans', enrolled', hb⟩
    exact ⟨since ++ later, spans.trans spans', enrolled.trans enrolled', hb⟩
  · rintro _ s'' ⟨later, spans', dismissed, hf⟩
    exact ⟨since ++ later, spans.trans spans', enrolled.then_dismissed dismissed, hf⟩

theorem pure {a : α} (hb : invariant s.bean) (h : ok a [] s) :
    Attends f invariant s (Pure.pure a) ok failed :=
  ⟨[], .of_unattended (.refl s) hb, .refl f s, h⟩

theorem throw {e : Error} (hb : invariant s.bean) (h : failed []) :
    Attends f invariant s (MonadExcept.throw e : ScanM P α) ok failed :=
  ⟨[], .of_unattended (.refl s) hb, (Enrolled.refl f s).dismissed, h⟩

/-- What else is known of the step. -/
theorem and_leads {ok' : α → Scan P → Prop} (h : Attends f invariant s step ok failed)
    (k : Leads f s step ok') :
    Attends f invariant s step (fun a since s' => ok a since s' ∧ Follows f s s' ∧ ok' a s')
      failed := by
  apply Ends.mono (Ends.and h k)
  · rintro a s' ⟨⟨since, spans, enrolled, ha⟩, follows, ha'⟩
    exact ⟨since, spans, enrolled, ha, follows, ha'⟩
  · rintro _ s' ⟨stopped, -⟩
    exact stopped

end Attends

section Quietly

variable {α β : Type} {f : ScanFrame P} {invariant : Bean P → Prop} {s : Scan P}
  {step : ScanM P α} {next : α → ScanM P β} {ok : β → List (Call P) → Scan P → Prop}
  {failed : List (Call P) → Prop}

theorem Hush.attends (h : Hush invariant step) (hb : invariant s.bean) :
    Attends f invariant s step (fun _ since _ => since = []) fun since => since = [] := by
  apply (h s hb).mono
  · rintro _ s' ⟨unattended, hb'⟩
    exact ⟨[], .of_unattended unattended hb', .of_unattended unattended, rfl⟩
  · rintro _ s' ⟨unattended, hb'⟩
    exact ⟨[], .of_unattended unattended hb', (Enrolled.of_unattended unattended).dismissed, rfl⟩

/-- The callbacks are those of what follows a step that makes none. -/
theorem Hush.bind_attends (h : Hush invariant step) (hb : invariant s.bean) (unheard : failed [])
    (hn : ∀ a s', invariant s'.bean → Attends f invariant s' (next a) ok failed) :
    Attends f invariant s (step >>= next) ok failed := by
  have silent : Attends f invariant s step (fun _ since _ => since = []) failed :=
    (h.attends hb).mono (fun _ _ _ h => h) fun _ h => h ▸ unheard
  apply silent.bind
  rintro a _ s' hb' rfl
  exact hn a s' hb'

/-- Nor does the step concern the bean. -/
theorem Hush.bind_attends_silent (h : Hush invariant step) (silent : Silent step)
    (hb : invariant s.bean) (unheard : failed [])
    (hn : ∀ a s', invariant s'.bean → Quiet s s' → Attends f invariant s' (next a) ok failed) :
    Attends f invariant s (step >>= next) ok failed := by
  have hushed : Attends f invariant s step (fun _ since _ => since = []) failed :=
    (h.attends hb).mono (fun _ _ _ h => h) fun _ h => h ▸ unheard
  apply (hushed.and_leads (silent.leads f s)).bind
  rintro a _ s' hb' ⟨rfl, -, quiet⟩
  exact hn a s' hb' quiet

theorem Reads.bind_attends {read : α → Prop} (h : Reads s step read) (hb : invariant s.bean)
    (unheard : failed []) (hn : ∀ a, read a → Attends f invariant s (next a) ok failed) :
    Attends f invariant s (step >>= next) ok failed := by
  have stops : Ends step s (fun a s' => s' = s ∧ read a) fun _ s' =>
      ∃ since, Spans invariant s since s' ∧ Dismissed f s s' ∧ failed since := by
    apply Ends.imp_failed h
    rintro _ _ rfl
    exact ⟨[], .of_unattended (.refl _) hb, (Enrolled.refl f _).dismissed, unheard⟩
  apply Ends.bind stops
  rintro a _ ⟨rfl, ha⟩
  exact hn a ha

end Quietly

end Scan

end Injector

import Injector.Proofs.Scan.Composition
import Injector.Proofs.Scan.Requests
import Injector.Proofs.Scan.Task

/-!
# Which kinds of callbacks a step does not make

Looking something up and changing the bean make none at all; asking for a parameter shows no member,
and the end of a scan tells nobody anything else.
-/

set_option autoImplicit false

namespace Injector

variable {P : Platform}

namespace Scan

def callsLike (kind : ScanEvent P → Bool) (s : Scan P) : List (Call P) :=
  s.calls.toList.filter fun call => kind call.event

def Omits (kind : ScanEvent P → Bool) {α : Type} (step : ScanM P α) : Prop :=
  ∀ s, Ends step s (fun _ s' => s'.callsLike kind = s.callsLike kind)
    fun _ s' => s'.callsLike kind = s.callsLike kind

section Laws

variable {kind : ScanEvent P → Bool} {α β : Type} {step : ScanM P α} {f : ScanFrame P}

theorem Omits.bind {next : α → ScanM P β} (h : Omits kind step) (hn : ∀ a, Omits kind (next a)) :
    Omits kind (step >>= next) := by
  intro s
  apply (h s).bind
  intro a s' same
  exact (hn a s').mono (fun _ _ later => later.trans same) fun _ _ later => later.trans same

/-- A step of which it is known what callbacks it makes. -/
theorem omits_of_attends (f : ScanFrame P) {only : List (Call P) → Prop}
    (h : ∀ s, Attends f (fun _ => True) s step (fun _ calls _ => only calls) only)
    (unlike : ∀ calls, only calls → ∀ call ∈ calls, kind call.event = false) :
    Omits kind step := by
  have same : ∀ {calls : List (Call P)} {s s' : Scan P}, Spans (fun _ => True) s calls s' →
      only calls → s'.callsLike kind = s.callsLike kind := by
    intro calls s s' spans shown
    have none : calls.filter (fun call => kind call.event) = [] :=
      List.filter_eq_nil_iff.mpr fun call at_ => Bool.eq_false_iff.mp (unlike calls shown call at_)
    rw [callsLike, spans.calls, List.filter_append, none, List.append_nil]
    rfl
  intro s
  apply Ends.mono (h s)
  · rintro _ s' ⟨calls, spans, -, shown⟩
    exact same spans shown
  · rintro _ s' ⟨calls, spans, -, shown⟩
    exact same spans shown

theorem Hush.omits (h : Hush (fun _ => True) step) : Omits kind step := by
  intro s
  have same : ∀ {s' : Scan P}, Unattended s s' → s'.callsLike kind = s.callsLike kind := by
    intro s' unattended
    rw [callsLike, unattended.calls]
    rfl
  exact (h s trivial).mono (fun _ _ h => same h.1) fun _ _ h => same h.1

theorem omits_compositional (kind : ScanEvent P → Bool) :
    Compositional fun step => Omits kind step where
  pure := fun a => (hush_pure a).omits
  throw := fun _ => (hush_throw _).omits
  get := hush_get.omits
  bind := Omits.bind
  withCatalog := fun _ => (hush_withCatalog _).omits

theorem omits_draining (kind : ScanEvent P → Bool) : Draining fun step => Omits kind step where
  toCompositional := omits_compositional kind
  dequeue := hush_dequeue.omits
  spend := hush_spend.omits
  resolving := fun _ => (hush_record rfl).omits
  limit := fun _ => (hush_throw _).omits

theorem omits_append (op : Operation P) : Omits kind (append op) := fun _ => rfl

/-- Whoever is asked for a parameter is asked for nothing else. -/
theorem omits_resolveOperation
    (unlike : ∀ event, event.isStart = true ∨ event.slot?.isSome = true → kind event = false)
    (id : Nat) : Omits kind (resolveOperation f id) := by
  have delegates : ∀ op index parameter extension marker,
      Omits kind (delegate f op index parameter extension marker) := by
    intro op index parameter extension marker
    apply omits_of_attends f fun s => attends_delegate (upheld_true f) (fun _ _ => trivial) trivial
      op index parameter extension marker
    exact fun calls asked call at_ => unlike call.event (asked.only call at_)
  exact (omits_compositional kind).resolveOperation delegates
    (fun op index parameter => (hush_bindToService (upheld_true f) op index parameter).omits) id

theorem omits_finish (unlike : ∀ context, kind (.ended context) = false)
    (contributors : List (Contributor P)) : Omits kind (finish contributors) := by
  have tells : ∀ c : Contributor P, Omits kind (tellEnd c) := by
    intro c s
    unfold tellEnd
    rw [ends_bind, ends_record, ends_bind, ends_get, ends_bind, ends_close]
    let outcome := c.handler.onEnd c.context c.handler.memory s.world
    let closed : Scan P := { s with
      world := outcome.2.2
      transcript := s.transcript.push (.ended c.context)
      calls := s.calls.push (.made c (.ended c.context) s outcome) }
    have told : closed.callsLike kind = s.callsLike kind := by
      simp [closed, callsLike, Call.made, unlike]
    have quiet : Omits kind (settle (P := P) outcome.1) := (hush_settle outcome.1).omits
    exact (quiet closed).mono (fun _ _ h => h.trans told) fun _ _ h => h.trans told
  induction contributors with
  | nil => exact (omits_compositional kind).pure _
  | cons c rest ih =>
    rw [finish_cons]
    exact (tells c).bind fun _ => ih

end Laws

end Scan

end Injector

import Mathlib.Data.List.Chain
import Injector.Proofs.Scan.Attempt
import Injector.Proofs.Scan.Requests
import Injector.Proofs.Scan.Walks

/-!
# The end of a scan

While the scan goes on nobody is told that it ends; then whoever takes part is told, in the order of
activation.
-/

set_option autoImplicit false

namespace Injector

variable {P : Platform}

namespace Scan

def Ongoing (calls : List (Call P)) : Prop := ∀ call ∈ calls, call.event.isEnd = false

theorem ongoing_nil : Ongoing ([] : List (Call P)) := by simp [Ongoing]

theorem Ongoing.append {calls later : List (Call P)} (h : Ongoing calls) (k : Ongoing later) :
    Ongoing (calls ++ later) := List.forall_mem_append.mpr ⟨h, k⟩

theorem ongoing_of_ne {calls : List (Call P)}
    (h : ∀ call ∈ calls, ∀ context, call.event ≠ .ended context) : Ongoing calls := by
  intro call hc
  cases event : call.event with
  | ended context => exact absurd event (h call hc context)
  | _ => rfl

theorem Asked.ongoing {first : Nat ×ₗ Nat} {calls : List (Call P)} (h : Asked first calls) :
    Ongoing calls := by
  apply ongoing_of_ne
  intro call hc context event
  have told := h.only call hc
  rw [event] at told
  simp [ScanEvent.isStart, ScanEvent.slot?] at told

theorem ShownField.ongoing {declared : DeclaredField P} {calls : List (Call P)}
    (h : ShownField declared calls) : Ongoing calls := by
  apply ongoing_of_ne
  intro call hc context event
  have told := h call hc
  rw [event] at told
  simp [ScanEvent.isStart, ScanEvent.field?] at told

theorem ShownMethods.ongoing {calls : List (Call P)} (h : ShownMethods calls) : Ongoing calls := by
  apply ongoing_of_ne
  intro call hc context event
  have told := h call hc
  rw [event] at told
  simp [ScanEvent.isStart, ScanEvent.isMethod] at told

/-- The callbacks of the step come before the end of the scan, wherever the step starts from with
`invariant` of the bean, which it keeps. -/
def Attentive {α : Type} (f : ScanFrame P) (invariant : Bean P → Prop) (step : ScanM P α) : Prop :=
  ∀ s, invariant s.bean → Attends f invariant s step (fun _ calls _ => Ongoing calls) Ongoing

section Laws

variable {α β : Type} {f : ScanFrame P} {invariant : Bean P → Prop} {step : ScanM P α}

theorem Hush.attentive (h : Hush invariant step) : Attentive f invariant step := by
  intro s hb
  apply (h.attends hb).mono
  · rintro _ _ _ rfl
    exact ongoing_nil
  · rintro _ rfl
    exact ongoing_nil

theorem Attentive.bind {next : α → ScanM P β} (h : Attentive f invariant step)
    (hn : ∀ a, Attentive f invariant (next a)) : Attentive f invariant (step >>= next) := by
  intro s hb
  apply (h s hb).bind
  intro a calls s' hb' ongoing
  exact (hn a s' hb').mono (fun _ _ _ later => ongoing.append later)
    fun _ later => ongoing.append later

theorem attentive_compositional (f : ScanFrame P) (invariant : Bean P → Prop) :
    Compositional fun step => Attentive f invariant step where
  pure := fun a => (hush_pure a).attentive
  throw := fun _ => (hush_throw _).attentive
  get := hush_get.attentive
  bind := Attentive.bind
  withCatalog := fun _ => (hush_withCatalog _).attentive

end Laws

section Steps

variable {f : ScanFrame P} {invariant : Bean P → Prop}

theorem attentive_delegate (upheld : Upheld f invariant fun _ => True) (op : Operation P)
    (index : Nat) (parameter : Parameter P) (extension : ExtensionKey)
    (marker : Option (Marker P)) :
    Attentive f invariant (delegate f op index parameter extension marker) := by
  intro s hb
  have ongoing : ∀ {first last : Nat ×ₗ Nat} {calls : List (Call P)},
      AskedUpTo first last calls → Ongoing calls := fun asked => asked.toAsked.ongoing
  exact (attends_delegate upheld (fun _ _ => trivial) hb op index parameter extension
    marker).mono (fun _ _ _ => ongoing) fun _ => ongoing

theorem attentive_resolveOperation (upheld : Upheld f invariant fun _ => True) (id : Nat) :
    Attentive f invariant (resolveOperation f id) := by
  apply (attentive_compositional f invariant).resolveOperation (attentive_delegate upheld)
  exact fun op index parameter => (hush_bindToService upheld op index parameter).attentive

theorem attentive_drain (upheld : Upheld f invariant fun _ => True) :
    Attentive f invariant (drain f) := by
  have draining : Draining fun step => Attentive f invariant step :=
    { toCompositional := attentive_compositional f invariant
      dequeue := hush_dequeue.attentive
      spend := hush_spend.attentive
      resolving := fun _ => (hush_record rfl).attentive
      limit := fun _ => (hush_throw _).attentive }
  exact draining.drain (attentive_resolveOperation upheld)

theorem attentive_scanConstructor (upheld : Upheld f invariant fun _ => True)
    (c : ClassDescriptor P) : Attentive f invariant (scanConstructor f c) := by
  unfold scanConstructor
  apply (hush_except _).attentive.bind
  intro constructor
  apply local_nextId.hush.attentive.bind
  intro id
  have appends : ∀ op : Operation P, Attentive f invariant (append op) := fun op =>
    (local_append (upheld.appended op trivial)).hush.attentive
  exact ((attentive_compositional f invariant).discard (appends _)).bind fun _ =>
    attentive_drain upheld

theorem attentive_scanMembers (upheld : Upheld f invariant fun _ => True) (c : ClassDescriptor P) :
    Attentive f invariant (scanMembers f c) := by
  unfold scanMembers
  have field : ∀ declared, Attentive f invariant (matchField f declared) := fun declared s hb =>
    (attends_matchField upheld hb declared).mono
      (fun _ _ _ shown => shown.ongoing) fun _ shown => shown.ongoing
  have method : ∀ declared, Attentive f invariant (matchMethod f declared) := fun declared s hb =>
    (attends_matchMethod upheld (fun _ _ _ _ _ _ => trivial) hb declared).mono
      (fun _ _ _ shown => shown.ongoing) fun _ shown => shown.ongoing
  have compositional := attentive_compositional f invariant
  apply (compositional.forM fun declared _ => field declared).bind
  intro _
  exact (compositional.forM fun declared _ => method declared).bind fun _ => attentive_drain upheld

end Steps

section Farewell

variable {f : ScanFrame P} {given : Option (Handler P)} {s s' : Scan P}
  {now : ExtensionKey → Option (Contributor P)}

def startedKeys (calls : List (Call P)) : List ExtensionKey :=
  (calls.filter (·.event.isStart)).map (·.contributor.key)

structure Farewell (told : List (Contributor P)) (s : Scan P) (ends : List (Call P))
    (s' : Scan P) : Prop where
  calls : s'.calls.toList = s.calls.toList ++ ends
  ended : ∀ call ∈ ends, call.event = .ended call.contributor.context
  contributors : ends.map (·.contributor) = told

theorem Farewell.cons {c : Contributor P} {told : List (Contributor P)} {s'' : Scan P}
    {call : Call P} {ends : List (Call P)} (same : call.contributor = c)
    (event : call.event = .ended c.context) (calls : s'.calls.toList = s.calls.toList ++ [call])
    (h : Farewell told s' ends s'') : Farewell (c :: told) s (call :: ends) s'' where
  calls := by rw [h.calls, calls, List.append_assoc, List.singleton_append]
  ended := by
    rw [List.forall_mem_cons, same]
    exact ⟨event, h.ended⟩
  contributors := by rw [List.map_cons, same, h.contributors]

/-- One contributor is told; the others are as they were. -/
theorem Attendance.tell {c : Contributor P} (h : Attendance f given [] now s)
    (context : c.context = f.contextOf c.key) (here : now c.key = some c) (outcome : Outcome P) :
    ∃ now', Attendance f given [] now' { s with
        world := outcome.2.2
        transcript := s.transcript.push (.ended c.context)
        calls := s.calls.push (.made c (.ended c.context) s outcome) } ∧
      ∀ key, (c.key == key) = false → now' key = now key := by
  let call : Call P := .made c (.ended c.context) s outcome
  let now' : ExtensionKey → Option (Contributor P) := fun key =>
    if c.key == key then some call.after else now key
  have elsewhere : ∀ key, (c.key == key) = false → now' key = now key := fun key other =>
    if_neg (by simp [other])
  have known : call.Known f := ⟨context, c.key, BEq.rfl, congrArg some context⟩
  refine ⟨now', h.made known ?_ Array.toList_push (.refl _)
    (Call.staffed_of_not_start rfl) ?_ elsewhere, elsewhere⟩
  · rw [← List.append_nil (s.calls.toList.map _), ← h.told]
    exact callbacks_push_call s rfl
  · intro key same
    have same : (c.key == key) = true := same
    have life := h.lives c.key
    rw [here, callsOf_congr same] at life
    have told : now' key = some call.after := if_pos same
    rw [told]
    exact life.called rfl rfl

/-- Up to the first that fails, everyone who is left is told. -/
theorem ends_farewell {rest : List (Contributor P)}
    (attendance : Attendance f given [] now s)
    (distinct : rest.Pairwise fun c c' => (c.key == c'.key) = false)
    (contexts : ∀ c ∈ rest, c.context = f.contextOf c.key)
    (here : ∀ c ∈ rest, now c.key = some c) :
    Ends (finish rest) s
      (fun _ s' => (∃ now', Attendance f given [] now' s') ∧ ∃ ends, Farewell rest s ends s')
      fun _ s' => (∃ now', Attendance f given [] now' s') ∧
        ∃ told ends, told <+: rest ∧ Farewell told s ends s' := by
  induction rest generalizing s now with
  | nil => exact ⟨⟨now, attendance⟩, [], by simp, by simp, rfl⟩
  | cons c rest ih =>
    rw [List.pairwise_cons] at distinct
    rw [List.forall_mem_cons] at contexts here
    unfold finish
    rw [ends_bind, ends_record, ends_bind, ends_get, ends_bind, ends_close]
    let outcome := c.handler.onEnd c.context c.handler.memory s.world
    let call : Call P := .made c (.ended c.context) s outcome
    obtain ⟨now', attendance', others⟩ :=
      attendance.tell contexts.1 here.1 outcome
    let closed : Scan P := { s with
      world := outcome.2.2
      transcript := s.transcript.push (.ended c.context)
      calls := s.calls.push call }
    have added : ∀ s', Unattended closed s' → s'.calls.toList = s.calls.toList ++ [call] := by
      intro s' unattended
      rw [unattended.calls]
      exact Array.toList_push
    have hush : Hush (fun _ => True) (settle (P := P) outcome.1) := hush_settle _
    have settles : Ends (settle outcome.1) closed
        (fun _ s' => Attendance f given [] now' s' ∧ s'.calls.toList = s.calls.toList ++ [call])
        fun _ s' => (∃ now', Attendance f given [] now' s') ∧
          ∃ told ends, told <+: c :: rest ∧ Farewell told s ends s' := by
      apply (hush closed trivial).mono
      · rintro _ s' ⟨unattended, -⟩
        exact ⟨attendance'.unattended unattended, added s' unattended⟩
      · rintro _ s' ⟨unattended, -⟩
        refine ⟨⟨now', attendance'.unattended unattended⟩, [c], [call], by simp, ?_⟩
        exact ⟨added s' unattended, by simp [call, Call.made], rfl⟩
    apply Ends.bind settles
    rintro _ s' ⟨attendance'', calls⟩
    have left : ∀ c' ∈ rest, now' c'.key = some c' := fun c' hc' => by
      rw [others c'.key (distinct.1 c' hc')]
      exact here.2 c' hc'
    apply (ih attendance'' distinct.2 contexts.2 left).mono
    · rintro _ s'' ⟨last, ends, farewell⟩
      exact ⟨last, call :: ends, .cons rfl rfl calls farewell⟩
    · rintro _ s'' ⟨last, told, ends, among, farewell⟩
      exact ⟨last, c :: told, call :: ends, by simpa using among, .cons rfl rfl calls farewell⟩

/-- Whoever is activated is told of the end, in the same order and after everything else; all of
them, if the scan is `complete`. -/
structure Concluded (f : ScanFrame P) (given : Option (Handler P)) (complete : Prop)
    (s : Scan P) : Prop where
  attendance : ∃ now, Attendance f given [] now s
  ended : ∃ main ends, s.calls.toList = main ++ ends ∧ Ongoing main ∧
    (∀ call ∈ ends, call.event = .ended call.contributor.context) ∧
    ends.map (·.contributor.key) <+: startedKeys main ∧
    (complete → ends.map (·.contributor.key) = startedKeys main)

theorem concluded_of_ongoing (attendance : ∃ now, Attendance f given [] now s)
    (ongoing : Ongoing s.calls.toList) : Concluded f given False s :=
  ⟨attendance, s.calls.toList, [], by simp, ongoing, by simp, List.nil_prefix, False.elim⟩

theorem Farewell.concluded {told : List (Contributor P)} {ends : List (Call P)} {complete : Prop}
    (h : Farewell told s ends s') (attendance : ∃ now, Attendance f given [] now s')
    (roster : Roster f given [] s) (ongoing : Ongoing s.calls.toList)
    (among : told <+: s.contributors) (all : complete → told = s.contributors) :
    Concluded f given complete s' := by
  have keys : ends.map (·.contributor.key) = told.map (·.key) := by
    rw [← h.contributors, List.map_map]
    rfl
  have order : startedKeys s.calls.toList = s.contributors.map (·.key) := roster.order
  refine ⟨attendance, s.calls.toList, ends, h.calls, ongoing, h.ended, ?_, fun done => ?_⟩
  · rw [keys, order]
    exact among.map _
  · rw [keys, order, all done]

theorem Concluded.close {complete : Prop} (h : Concluded f given complete s) :
    Concluded f given complete { s with bean := { s.bean with scanned := true } } := by
  obtain ⟨now, attendance⟩ := h.attendance
  have unattended : Unattended s { s with bean := { s.bean with scanned := true } } :=
    ⟨rfl, rfl, rfl, rfl, .refl _⟩
  exact ⟨⟨now, attendance.unattended unattended⟩, h.ended⟩

theorem ends_finish_life (roster : Roster f given [] s) (ongoing : Ongoing s.calls.toList) :
    Ends (finish s.contributors) s (fun _ s' => Concluded f given True s')
      fun _ s' => Concluded f given False s' := by
  apply (ends_farewell roster.attendance roster.distinct roster.contexts
    fun c hc => roster.contributor?_key hc).mono
  · rintro _ s' ⟨attendance, ends, farewell⟩
    exact farewell.concluded attendance roster ongoing (List.prefix_refl _) fun _ => rfl
  · rintro _ s' ⟨attendance, told, ends, among, farewell⟩
    exact farewell.concluded attendance roster ongoing among False.elim

def scanOperations (f : ScanFrame P) (bean : Bean P) : ScanM P Unit :=
  checkClassMarkers f bean.descriptor >>= fun _ =>
    (if bean.source.isConstruction then scanConstructor f bean.descriptor else pure ⟨⟩) >>= fun _ =>
      scanMembers f bean.descriptor

theorem scanWith_eq (f : ScanFrame P) (bean : Bean P) :
    scanWith f bean = scanOperations f bean >>= fun _ => get >>= fun s =>
      finish s.contributors >>= fun _ =>
        modify fun s => { s with bean := { s.bean with scanned := true } } := by
  unfold scanOperations scanWith
  split <;> simp [bind_assoc]

theorem attentive_scanOperations {invariant : Bean P → Prop}
    (upheld : Upheld f invariant fun _ => True) (bean : Bean P) :
    Attentive f invariant (scanOperations f bean) := by
  apply ((attentive_compositional f invariant).checkClassMarkers f bean.descriptor).bind
  intro _
  apply Attentive.bind
  · split
    · exact attentive_scanConstructor upheld bean.descriptor
    · exact (hush_pure _).attentive
  · exact fun _ => attentive_scanMembers upheld bean.descriptor

/-- While the scan goes on nobody is told that it ends, and then everybody is. -/
theorem ends_scanWith_life (roster : Roster f given [] s) (unheard : s.calls = #[])
    (bean : Bean P) :
    Ends (scanWith f bean) s (fun _ s' => Concluded f given True s')
      fun _ s' => Concluded f given False s' := by
  have heard : ∀ {calls : List (Call P)} {s' : Scan P}, Spans (fun _ => True) s calls s' →
      Ongoing calls → Ongoing s'.calls.toList := by
    intro calls s' spans ongoing
    rw [spans.calls, unheard]
    simpa using ongoing
  rw [scanWith_eq, ends_bind]
  apply Ends.mono (attentive_scanOperations (upheld_true f) bean s trivial)
  · rintro _ s' ⟨calls, spans, enrolled, ongoing⟩
    rw [ends_bind, ends_get, ends_bind]
    apply (ends_finish_life (enrolled.roster given roster) (heard spans ongoing)).imp
    exact fun _ _ concluded => concluded.close
  · rintro _ s' ⟨calls, spans, dismissed, ongoing⟩
    exact concluded_of_ongoing (dismissed.attendance given roster) (heard spans ongoing)

/-- Before a scan nobody takes part. -/
theorem roster_begin (f : ScanFrame P) (calls : s.calls = #[]) (transcript : s.transcript = #[])
    (contributors : s.contributors = []) (preset : s.preset = given) :
    Roster f given [] s := by
  have unknown : s.contributor? = fun _ => none := by
    funext key
    rw [contributor?, contributors]
    rfl
  refine ⟨⟨?_, by simp [calls], by simp [calls], ?_⟩, ?_, ?_, ?_, ?_, ?_⟩
  · simp [callbacks, transcript, calls]
  · intro key
    rw [unknown, callsOf, calls]
    exact .absent
  · simp [contributors]
  · simp [contributors]
  · exact fun _ => preset
  · simp [calls, contributors]
  · simp [calls]

/-- The frame of the scan is known only once the hooks of the class are. -/
theorem ends_scanBean_life (host : Host P) (calls : s.calls = #[]) (transcript : s.transcript = #[])
    (contributors : s.contributors = []) (preset : s.preset = given) :
    Ends (scanBean host) s
      (fun _ s' => ∃ f : ScanFrame P, f.beanType = s.bean.type ∧ f.installer = s.bean.installer ∧
        Concluded f given True s')
      fun _ s' => ∃ f : ScanFrame P, f.beanType = s.bean.type ∧ f.installer = s.bean.installer ∧
        Concluded f given False s' := by
  let unknown : ScanFrame P := ⟨host, [], s.bean.type, s.bean.installer⟩
  have start := roster_begin unknown calls transcript contributors preset
  have nobody : Concluded unknown given False s := by
    apply concluded_of_ongoing ⟨_, start.attendance⟩
    rw [calls]
    exact ongoing_nil
  apply ends_scanBean_of
  · exact fun _ => ⟨unknown, rfl, rfl, nobody⟩
  have looks : Hush (fun _ => True) (withCatalog fun w => Catalog.modelFor w s.bean.descriptor) :=
    hush_withCatalog _
  apply (looks s trivial).mono
  · rintro model s' ⟨unattended, -⟩
    have roster : Roster ⟨host, model, s.bean.type, s.bean.installer⟩ given [] s' :=
      (roster_begin _ calls transcript contributors preset).unattended unattended
    apply (ends_scanWith_life roster (unattended.calls.trans calls) s.bean).mono
    · exact fun _ _ concluded => ⟨_, rfl, rfl, concluded⟩
    · exact fun _ _ concluded => ⟨_, rfl, rfl, concluded⟩
  · rintro _ s' ⟨unattended, -⟩
    obtain ⟨⟨now, attendance⟩, main, ends, split, rest⟩ := nobody
    exact ⟨unknown, rfl, rfl, ⟨now, attendance.unattended unattended⟩, main, ends,
      unattended.calls ▸ split, rest⟩

end Farewell

end Scan

end Injector

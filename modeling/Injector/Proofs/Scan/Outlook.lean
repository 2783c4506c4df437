import Injector.Container.Basic
import Injector.Proofs.Scan.Pairing
import Injector.Proofs.Tolerance

/-!
# What a scan sees of its container

How many operations may be resolved, how extensions are made, and what is found when services are
looked up for whoever installed the bean: to every step containers are the same in which all this
is. Where they differ in the errors of lookups, so do the errors of a scan, and nothing else does
if its handlers do not look into them.
-/

set_option autoImplicit false

namespace Injector

variable {P : Platform}

/-- Hosts that look the same to a scan for `installer`, but for the errors of lookups. -/
structure Host.Alike (like : Error → Error → Prop) (installer : Party) (host host' : Host P) :
    Prop where
  limit : host'.limit = host.limit
  make : host'.make = host.make
  lookup : ∀ key required, Likewise like
    (host.directory.lookup installer key required : Except Error (Binding P))
    (host'.directory.lookup installer key required)
  heedless : host.make.Heedless like

def ScanFrame.on (f : ScanFrame P) (host : Host P) : ScanFrame P := { f with host }

namespace Scan

/-- The scans differ at most in what handlers were told and how they ended, and no handler looks
into that. -/
structure Parallel (like : Error → Error → Prop) (s s' : Scan P) : Prop where
  same : ∃ transcript calls, s' = { s with transcript, calls }
  preset : ∀ h, s.preset = some h → h.Heedless like
  contributors : ∀ c ∈ s.contributors, c.handler.Heedless like
  extensions : s.extensions.Heedless like

structure Partaking (like : Error → Error → Prop) (c c' : Contributor P) (s s' : Scan P) :
    Prop where
  same : c' = c
  heedless : c.handler.Heedless like
  parallel : Parallel like s s'

namespace Parallel

variable {like : Error → Error → Prop} {s s' : Scan P}

theorem record (hs : Parallel like s s') (event event' : ScanEvent P) :
    Parallel like { s with transcript := s.transcript.push event }
      { s' with transcript := s'.transcript.push event' } := by
  obtain ⟨_, _, rfl⟩ := hs.same
  exact { hs with same := ⟨_, _, rfl⟩ }

theorem close (hs : Parallel like s s') (call call' : Call P) (world : P.World) :
    Parallel like { s with world, calls := s.calls.push call }
      { s' with world, calls := s'.calls.push call' } := by
  obtain ⟨_, _, rfl⟩ := hs.same
  exact { hs with same := ⟨_, _, rfl⟩ }

theorem place (hs : Parallel like s s') (bean : Bean P) (queue : List OperationId) :
    Parallel like (s.place bean queue) (s'.place bean queue) := by
  obtain ⟨_, _, rfl⟩ := hs.same
  exact { hs with same := ⟨_, _, rfl⟩ }

theorem join (hs : Parallel like s s') {c : Contributor P} (heedless : c.handler.Heedless like) :
    Parallel like { s with contributors := s.contributors ++ [c] }
      { s' with contributors := s'.contributors ++ [c] } := by
  obtain ⟨_, _, rfl⟩ := hs.same
  refine { hs with same := ⟨_, _, rfl⟩, contributors := ?_ }
  intro other listed
  rcases List.mem_append.mp listed with listed | listed
  · exact hs.contributors other listed
  · rw [List.mem_singleton] at listed
    rw [listed]
    exact heedless

theorem remember (hs : Parallel like s s') (c : Contributor P) (memory : P.Memory) :
    Parallel like { s with contributors := Scan.remember c memory s.contributors }
      { s' with contributors := Scan.remember c memory s'.contributors } := by
  obtain ⟨_, _, rfl⟩ := hs.same
  refine { hs with same := ⟨_, _, rfl⟩, contributors := ?_ }
  intro other listed
  obtain ⟨old, ho, rfl⟩ := List.mem_map.mp listed
  split
  · exact (hs.contributors old ho).remember memory
  · exact hs.contributors old ho

end Parallel

section Steps

variable {like : Error → Error → Prop} {f : ScanFrame P} {host : Host P} {s s' : Scan P}
  {c c' : Contributor P} {α : Type}

/-- What a step comes to on the catalog is the same. -/
theorem parallel_withCatalog (refl : ∀ e, like e e) (step : P.World → CatalogM α)
    (hs : Parallel like s s') : Together like (withCatalog step) (withCatalog step) s s'
      (fun a a' t t' => a = a' ∧ Parallel like t t') (Parallel like) := by
  obtain ⟨_, _, rfl⟩ := hs.same
  unfold Together
  rw [withCatalog_apply, withCatalog_apply]
  rcases (step s.world s.catalog : Except Error α × Catalog) with ⟨e | a, catalog⟩
  · exact ⟨refl e, { hs with same := ⟨_, _, rfl⟩ }⟩
  · exact ⟨rfl, { hs with same := ⟨_, _, rfl⟩ }⟩

/-- A callback has ended, with errors that are alike if any. -/
theorem parallel_settle {result result' : Except Error Unit} (ends : Likewise like result result')
    (hs : Parallel like s s') : Together like (settle result) (settle result') s s'
      (fun _ _ => Parallel like) (Parallel like) := by
  have recorded := hs.record (.replied result) (.replied result')
  exact together_except ends (fun _ _ => recorded) fun _ _ => recorded

theorem parallel_install (refl : ∀ e, like e e) (alike : f.host.Alike like f.installer host)
    (key : ExtensionKey) (hs : Parallel like s s') :
    Together like (install f key) (install (f.on host) key) s s'
      (fun e e' t t' => e' = e ∧ e.Heedless like ∧ Parallel like t t') (Parallel like) := by
  obtain ⟨_, _, rfl⟩ := hs.same
  unfold install
  rw [together_get, show (f.on host).host.make = f.host.make from alike.make]
  apply together_except_bind (likewise_refl refl _)
  · rintro ⟨e, later, w⟩ obtained
    obtain ⟨he, extensions⟩ := alike.heedless.obtain hs.extensions obtained
    exact ⟨rfl, he, { hs with same := ⟨_, _, rfl⟩, extensions }⟩
  · exact fun _ _ => hs

theorem parallel_takeHandler (fullAccess : Bool) {e : Extension P} (he : e.Heedless like)
    (hs : Parallel like s s') :
    Together like (takeHandler fullAccess e) (takeHandler fullAccess e) s s'
      (fun taken taken' t t' => taken' = taken ∧ taken.1.Heedless like ∧ Parallel like t t')
      (Parallel like) := by
  obtain ⟨_, _, rfl⟩ := hs.same
  unfold takeHandler
  rw [together_get]
  cases fullAccess with
  | false => exact ⟨rfl, he s.world, { hs with same := ⟨_, _, rfl⟩ }⟩
  | true =>
    cases given : s.preset with
    | some handler =>
      exact ⟨rfl, hs.preset handler given,
        { hs with same := ⟨_, _, rfl⟩, preset := fun _ taken => by cases taken }⟩
    | none =>
      exact ⟨rfl, he s.world,
        { hs with same := ⟨_, _, rfl⟩, preset := fun _ taken => by cases taken }⟩

/-- What comes after a callback that ended. -/
theorem parallel_ended {result result' : Except Error Unit} {call call' : Call P} {w : P.World}
    (ends : Likewise like result result') (hs : Parallel like s s') {next next' : ScanM P α}
    {ok : α → α → Scan P → Scan P → Prop}
    (h : ∀ t t', Parallel like t t' → Together like next next' t t' ok (Parallel like)) :
    Together like (close call w >>= fun _ => settle result >>= fun _ => next)
      (close call' w >>= fun _ => settle result' >>= fun _ => next') s s' ok (Parallel like) := by
  apply (parallel_settle ends (hs.close call call' w)).bind
  exact fun _ _ t t' ht => h t t' ht

theorem parallel_start (refl : ∀ e, like e e) (alike : f.host.Alike like f.installer host)
    (key : ExtensionKey) (hs : Parallel like s s') :
    Together like (start f key) (start (f.on host) key) s s' (Partaking like) (Parallel like) := by
  unfold start
  apply (parallel_install refl alike key hs).bind
  rintro e _ t t' ⟨rfl, he, ht⟩
  apply (parallel_takeHandler _ he ht).bind
  rintro ⟨handler, preset⟩ _ t t' ⟨rfl, heedless, ht⟩
  obtain ⟨_, _, rfl⟩ := ht.same
  apply parallel_ended (likewise_refl refl _) (ht.record _ _)
  intro t t' ht
  exact ⟨rfl, heedless, ht.join heedless⟩

theorem parallel_activate (refl : ∀ e, like e e) (alike : f.host.Alike like f.installer host)
    (key : ExtensionKey) (hs : Parallel like s s') :
    Together like (activate f key) (activate (f.on host) key) s s' (Partaking like)
      (Parallel like) := by
  have started := parallel_start refl alike key hs
  obtain ⟨_, _, rfl⟩ := hs.same
  unfold activate
  rw [together_get]
  cases found : s.contributors.find? (·.key == key) with
  | some c => exact ⟨rfl, hs.contributors c (List.mem_of_find?_eq_some found), hs⟩
  | none => exact started

/-- The handler is answered alike, does the same and ends alike. -/
theorem parallel_converse {Q : Type} {R : Q → Type} {shown : ScanEvent P}
    {replies : (question : Q) → R question → R question → Prop}
    {callback : P.Memory → P.World → Dialog Q R (Outcome P)}
    {answer answer' : (question : Q) → StateM (Scan P) (R question)}
    (answers : ∀ question t t', Parallel like t t' →
      replies question (answer question t).1 (answer' question t').1 ∧
        Parallel like (answer question t).2 (answer' question t').2)
    (mirrors : ∀ memory world, Dialog.Mirrors (fun _ => True) replies (Outcome.Likewise like)
      (callback memory world) (callback memory world))
    (hs : Partaking like c c' s s') :
    Together like (converse c shown callback answer) (converse c' shown callback answer') s s'
      (fun _ _ => Parallel like) (Parallel like) := by
  obtain ⟨rfl, heedless, hs⟩ := hs
  have answered : ∀ question, True → ∀ t t', Parallel like t t' →
      replies question (answerSeen answer question t).1 (answerSeen answer' question t').1 ∧
        Parallel like (answerSeen answer question t).2 (answerSeen answer' question t').2 := by
    intro question _ t t' ht
    obtain ⟨reply, kept⟩ := answers question t t' ht
    exact ⟨reply, kept.record _ _⟩
  have world : s'.world = s.world := by
    obtain ⟨_, _, rfl⟩ := hs.same
    rfl
  have observed : Parallel like (observe s).2 (observe s').2 := hs.record _ _
  obtain ⟨outcome, held⟩ := (mirrors c'.handler.memory s.world).run answered observed
  unfold converse
  show Together like (get >>= fun s => liftM observe >>= fun _ => liftM _ >>= fun outcome => _)
    (get >>= fun s => liftM observe >>= fun _ => liftM _ >>= fun outcome => _) s s' _ _
  rw [together_get, together_state, together_state, world]
  generalize Dialog.run (answerSeen answer) (callback c'.handler.memory s.world) (observe s).2 =
    ended at outcome held ⊢
  generalize Dialog.run (answerSeen answer') (callback c'.handler.memory s.world)
    (observe s').2 = ended' at outcome held ⊢
  obtain ⟨⟨result, left⟩, t⟩ := ended
  obtain ⟨⟨result', _⟩, t'⟩ := ended'
  obtain ⟨ends, rfl⟩ := outcome
  exact parallel_settle ends ((held.close _ _ _).remember c' _)

/-- The scan is over for both. -/
theorem parallel_finish (refl : ∀ e, like e e) (cs : List (Contributor P))
    (hs : Parallel like s s') :
    Together like (finish cs) (finish cs) s s' (fun _ _ => Parallel like) (Parallel like) := by
  induction cs generalizing s s' with
  | nil => exact hs
  | cons c rest ih =>
    have recorded := hs.record (.ended c.context) (.ended c.context)
    obtain ⟨_, _, rfl⟩ := hs.same
    unfold finish
    apply parallel_ended (likewise_refl refl _) recorded
    exact fun t t' ht => ih ht

/-- What depends on the bean and the queue alone comes to the same. -/
theorem parallel_local {step : StateM (Scan P) α} (h : Local (fun _ => True) step)
    (hs : Parallel like s s') :
    (step s).1 = (step s').1 ∧ Parallel like (step s).2 (step s').2 := by
  obtain ⟨act, runs, -⟩ := h
  have placed := hs.place (act s.bean s.queue).2.1 (act s.bean s.queue).2.2
  obtain ⟨_, _, rfl⟩ := hs.same
  rw [runs s, runs]
  exact ⟨rfl, placed⟩

/-- A service is looked up in both, and bound if there is one. -/
theorem parallel_bindService (refl : ∀ e, like e e) (alike : f.host.Alike like f.installer host)
    {r : BindingRequest P} (party : r.party = f.installer) (key : DependencyKey) :
    Paired like (Parallel like) (fun _ => True) (bindService f r key)
      (bindService (f.on host) r key) := by
  have found := alike.lookup key (!r.parameter.optional)
  have committed : commit (f.on host) r = commit f r :=
    funext fun binding => bindSlot_congr rfl _ _ binding
  have unbound : Paired like (Parallel like) (fun _ => True) (ensureUnbound r) (ensureUnbound r) :=
    paired_of_same refl fun _ _ => parallel_local (local_ensureUnbound r)
  unfold bindService
  rw [committed, party, show (f.on host).host = host from rfl]
  apply unbound.bind
  intro _ _
  generalize f.host.directory.lookup f.installer _ _ = here at found ⊢
  generalize host.directory.lookup f.installer _ _ = there at found ⊢
  cases found with
  | ok binding =>
    exact paired_of_same refl fun _ _ => parallel_local (local_commit (upheld_true f) r binding)
  | error alike => exact paired_throw alike

/-- What a handler is answered may differ where it asks for a service. -/
theorem parallel_answerSlot (refl : ∀ e, like e e) (alike : f.host.Alike like f.installer host)
    {r : BindingRequest P} (party : r.party = f.installer) (call : SlotCall P)
    (hs : Parallel like s s') :
    call.Replies like (answerSlot f r call s).1 (answerSlot (f.on host) r call s').1 ∧
      Parallel like (answerSlot f r call s).2 (answerSlot (f.on host) r call s').2 := by
  by_cases asks : ∃ key, call = .bindService key
  · obtain ⟨key, rfl⟩ := asks
    have together := parallel_bindService refl alike party key s s' hs
    exact ⟨together.likewise fun _ _ _ _ h => h.1,
      (together.mono (fun _ _ _ _ h => h.2.2) fun _ _ h => h).states⟩
  · have beanType : (f.on host).beanType = f.beanType := rfl
    have same : answerSlot (f.on host) r call = answerSlot f r call :=
      answerSlot_congr beanType r fun key called => absurd ⟨key, called⟩ asks
    obtain ⟨reply, kept⟩ := parallel_local
      (local_answerSlot (upheld_true f) call (SlotCall.fit_true call)) hs
    rw [same, ← reply]
    exact ⟨call.replies_refl refl _, kept⟩

def parallel (P : Platform) (like : Error → Error → Prop) : Terms P where
  like := like
  related := Parallel like
  attended := Partaking like
  markers := fun _ => True
  extensions := fun _ => True

theorem pairing_parallel (tolerance : Tolerance)
    (alike : f.host.Alike tolerance.like f.installer host) :
    Pairing (parallel P tolerance.like) f (f.on host) where
  refl := tolerance.refl
  requiredBy := tolerance.requiredBy
  beanType := rfl
  installer := rfl
  limit := alike.limit
  lookup := alike.lookup
  bean := fun _ _ ⟨⟨_, _, same⟩, _, _, _⟩ => by rw [same]
  queue := fun _ _ ⟨⟨_, _, same⟩, _, _, _⟩ => by rw [same]
  remaining := fun _ _ ⟨⟨_, _, same⟩, _, _, _⟩ => by rw [same]
  typeHook := fun _ _ ⟨⟨_, _, same⟩, _, _, _⟩ _ => by rw [same]
  leads _ _ _ _ _ _ := trivial
  marked _ _ _ _ _ _ _ _ _ _ := trivial
  placed _ _ bean queue hs _ := hs.place bean queue
  spent := by
    intro s s' hs remaining
    obtain ⟨_, _, rfl⟩ := hs.same
    exact { hs with same := ⟨_, _, rfl⟩ }
  noted event _ _ hs := ⟨rfl, trivial, hs.record event event⟩
  hooked marker _ := by
    intro s s' hs
    unfold hookOf
    apply (parallel_withCatalog tolerance.refl _ hs).bind
    rintro found _ t t' ⟨rfl, ht⟩
    exact ⟨rfl, fun _ _ => trivial, ht⟩
  activated key _ _ _ hs := parallel_activate tolerance.refl alike key hs
  attended := fun _ _ _ _ ⟨same, _, hs⟩ => ⟨hs, by rw [same]⟩
  shown event _ _ _ _ h := ⟨h.same, h.heedless, h.parallel.record event event⟩
  onField := by
    intro shown c c' s s' h
    obtain rfl := h.same
    exact parallel_converse
      (fun call _ _ ht => parallel_local
        (local_answerField (upheld_true f) shown call fun _ _ _ _ _ => trivial) ht)
      (fun _ _ => Dialog.mirrors_refl (fun _ _ _ same => same)
        (Outcome.likewise_refl tolerance.refl) _) h
  onMethod := by
    intro shown c c' s s' _ h
    obtain rfl := h.same
    exact parallel_converse
      (fun call _ _ ht => parallel_local
        (local_answerMethod (upheld_true f) shown call fun _ _ _ _ => trivial) ht)
      (fun _ _ => Dialog.mirrors_refl (fun _ _ _ same => same)
        (Outcome.likewise_refl tolerance.refl) _) h
  onBinding := by
    intro request c c' s s' party h
    obtain rfl := h.same
    exact parallel_converse
      (fun call _ _ ht => parallel_answerSlot tolerance.refl alike party call ht)
      (fun memory world => h.heedless request memory world) h
  ended := by
    intro s s' hs
    have ended := parallel_finish tolerance.refl s.contributors hs
    obtain ⟨_, _, rfl⟩ := hs.same
    exact ended

end Steps

/-- A scan comes to the same wherever all that it sees of the container is the same. -/
theorem together_scanBean_on (tolerance : Tolerance) {host host' : Host P} {s : Scan P}
    (alike : host.Alike tolerance.like s.bean.installer host')
    (hs : Parallel tolerance.like s s) :
    Together tolerance.like (scanBean host) (scanBean host') s s
      (fun _ _ => Parallel tolerance.like) (Parallel tolerance.like) := by
  unfold scanBean
  rw [together_get]
  dsimp only
  split
  · exact together_throw (tolerance.refl _) hs
  · apply (parallel_withCatalog tolerance.refl _ hs).bind
    rintro model _ t t' ⟨rfl, ht⟩
    have pairing := pairing_parallel (f := ⟨host, model, s.bean.type, s.bean.installer⟩) tolerance
      alike
    exact (pairing.paired_scanWith (fun _ _ => trivial) t t' ht).mono (fun _ _ _ _ h => h.2.2)
      fun _ _ h => h

end Scan

end Injector

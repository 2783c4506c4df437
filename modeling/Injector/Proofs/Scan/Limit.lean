import Injector.Proofs.Scan.Attempt
import Injector.Proofs.Scan.Budget

/-!
# The limit on what one scan resolves

Operations leave the queue in the order of their ids and each at most once, so as many are resolved
as the limit allows: a scan that succeeds has resolved all its operations, and one that meets the
limit has resolved exactly that many and touched no other.
-/

set_option autoImplicit false

namespace Injector

variable {P : Platform}

namespace Scan

section Steps

variable {f : ScanFrame P}

/-- Answers resolve nothing, and the dialog fails only as the handler says. -/
theorem frugal_converse {Q : Type} {R : Q → Type} (c : Contributor P) (shown : ScanEvent P)
    (callback : P.Memory → P.World → Dialog Q R (Outcome P))
    (answer : (question : Q) → StateM (Scan P) (R question))
    (h : ∀ question s, Unspent s (answer question s).2) :
    Frugal (converse c shown callback answer) := by
  intro s
  have answers : ∀ question s', Unspent s s' → Unspent s (answerSeen answer question s').2 :=
    fun question s' hs => (hs.trans (h question s')).trans (unspent_observe _)
  have held := Dialog.run_keeps answers (callback c.handler.memory s.world) (unspent_observe s)
  unfold converse
  show Ends (get >>= fun s => liftM observe >>= fun _ => liftM _ >>= fun outcome => _) s _ _
  rw [ends_bind, ends_get, ends_bind, ends_state, ends_bind, ends_state]
  generalize Dialog.run (answerSeen answer) (callback c.handler.memory s.world) (observe s).2 =
    ended at held ⊢
  obtain ⟨⟨result, memory, world⟩, s'⟩ := ended
  have closes := frugal_activating.closes c (.made c shown s (result, memory, world)) memory world
    result
  exact (closes s').mono (fun _ _ hs => held.trans hs) fun _ _ hs => ⟨held.trans hs.1, hs.2⟩

/-- Whoever is consulted. -/
theorem frugal_consulting (f : ScanFrame P) : Consulting f (@Frugal P) where
  toCompositional := frugal_activating.toCompositional
  decision := frugal_except
  rethrow := fun target frugal => frugal.rethrow target
  activate := frugal_activating.activate f
  announce := fun _ unresolved _ => frugal_record unresolved
  field := fun c shown => frugal_converse c _ _ _ fun call =>
    (local_answerField (upheld_true f) shown call fun _ _ _ _ _ => trivial).unspent
  method := fun c shown => frugal_converse c _ _ _ fun call =>
    (local_answerMethod (upheld_true f) shown call fun _ _ _ _ => trivial).unspent
  request := fun c _ => frugal_converse c _ _ _ fun call =>
    (local_answerSlot (upheld_true f) call (SlotCall.fit_true call)).unspent
  append := frugal_append
  bindSlot := frugal_bindSlot f

end Steps

structure Spent (limit n : Nat) (s : Scan P) : Prop where
  left : s.remaining + n = limit
  resolved : s.resolved = List.range n

/-- The limit was met: the operations that it allows are bound, the next one has left the queue,
and no other was touched. -/
structure Exhausted (limit : Nat) (s : Scan P) : Prop where
  resolved : s.resolved = List.range limit
  frontier : Frontier s.bean s.queue 0 limit 0 (limit + 1)

/-- How a scan fails: within the limit, or where a callback says that a limit was met, or at the
limit. -/
structure Stopped (limit : Nat) (e : Error) (s : Scan P) : Prop where
  within : ∃ n ≤ limit, s.resolved = List.range n
  blame : ByCallback e s ∨ (∃ type, e = .resolutionLimitExceeded type limit) ∧ Exhausted limit s

namespace Spent

variable {α : Type} {limit n : Nat} {s s' : Scan P}

theorem of_unspent (hs : Spent limit n s) (h : Unspent s s') : Spent limit n s' :=
  ⟨by rw [h.remaining, hs.left], h.resolved.trans hs.resolved⟩

theorem within (hs : Spent limit n s) : ∃ m ≤ limit, s.resolved = List.range m := by
  have left := hs.left
  exact ⟨n, by omega, hs.resolved⟩

end Spent

section Runs

variable {α : Type} {f : ScanFrame P} {limit n k i q : Nat} {s : Scan P} {step : ScanM P α}
  {ok : α → Scan P → Prop}

theorem Frugal.stops (h : Frugal step) (hs : Spent limit n s) :
    Ends step s (fun _ s' => Spent limit n s') (Stopped limit) := by
  apply (h s).mono
  · exact fun _ _ unspent => hs.of_unspent unspent
  · exact fun _ _ failed => ⟨(hs.of_unspent failed.1).within, .inl failed.2⟩

/-- A step that resolves nothing leads to where it would, with nothing spent. -/
theorem Frugal.spends (h : Frugal step) (leads : Leads f s step ok)
    (hs : Spent limit n s) :
    Ends step s (fun a s' => ok a s' ∧ Spent limit n s') (Stopped limit) :=
  (Ends.and leads (h.stops hs)).mono (fun _ _ h => ⟨h.1.2, h.2⟩) fun _ _ h => h.2

end Runs

section Drains

variable {f : ScanFrame P} {k : Nat} {s : Scan P}

/-- Between two operations: those before `k` are resolved, and nothing else is. -/
structure Paused (f : ScanFrame P) (k : Nat) (s : Scan P) : Prop where
  progress : Progress f 0 k 0 k s
  spent : Spent f.host.limit k s

structure Drained (f : ScanFrame P) (s : Scan P) : Prop where
  settled : Settled f 0 s
  spent : Spent f.host.limit s.bean.operations.size s

theorem Drained.paused (h : Drained f s) : Paused f s.bean.operations.size s := ⟨h.settled, h.spent⟩

/-- The oldest operation that waits is the first one that is not resolved. -/
theorem ends_dequeue (hs : Paused f k s) {failed : Error → Scan P → Prop} :
    Ends dequeue s (fun taken s' => taken = none ∧ Drained f s' ∨
      taken = some k ∧ Progress f 0 k 0 (k + 1) s' ∧ Spent f.host.limit k s') failed := by
  have leads := leads_dequeue hs.progress
  have hle := hs.progress.frontier.q_le
  have hqueue := hs.progress.frontier.queue_eq
  cases hq : s.queue with
  | nil =>
    have run : dequeue s = (.ok none, s) := by
      unfold dequeue
      rw [get_bind_apply, hq]
      rfl
    rw [hq, eq_comm, List.range'_eq_nil_iff] at hqueue
    have hk : k = s.bean.operations.size := by omega
    rcases (leads.of_ok run).2 with ⟨-, settled⟩ | ⟨taken, -⟩
    · exact (ends_of_ok run).mpr (.inl ⟨rfl, settled, hk ▸ hs.spent⟩)
    · cases taken
  | cons id queue =>
    have run : dequeue s = (.ok (some id), { s with queue }) := by
      unfold dequeue
      rw [get_bind_apply, hq]
      rfl
    rcases (leads.of_ok run).2 with ⟨taken, -⟩ | ⟨taken, progress⟩
    · cases taken
    · exact (ends_of_ok run).mpr (.inr ⟨taken, progress, hs.spent.left, hs.spent.resolved⟩)

/-- An operation that is taken up counts. -/
theorem ends_count {next : ScanM P PUnit} {ok : PUnit → Scan P → Prop}
    {failed : Error → Scan P → Prop} (progress : Progress f 0 k 0 (k + 1) s)
    (spent : Spent f.host.limit k s) (room : k < f.host.limit)
    (h : ∀ s', Progress f 0 k 0 (k + 1) s' → Spent f.host.limit (k + 1) s' →
      Ends next s' ok failed) :
    Ends (spend >>= fun _ => record (.resolving k) >>= fun _ => next) s ok failed := by
  have left := spent.left
  have resolved : resolved { s with
      remaining := s.remaining - 1
      transcript := s.transcript.push (.resolving k) } = List.range (k + 1) := by
    rw [List.range_succ, ← spent.resolved]
    simp [Scan.resolved]
  refine h { s with
    remaining := s.remaining - 1
    transcript := s.transcript.push (.resolving k) } (progress.of_eq rfl rfl) ⟨?_, resolved⟩
  show s.remaining - 1 + (k + 1) = f.host.limit
  omega

/-- The limit is met only when the operation after the last one allowed leaves the queue. -/
theorem ends_drainWithin (remaining : Nat) (hr : remaining + k = f.host.limit)
    (hs : Paused f k s) :
    Ends (drainWithin f remaining) s (fun _ s' => Drained f s') (Stopped f.host.limit) := by
  induction remaining generalizing k s with
  | zero =>
    unfold drainWithin
    apply (ends_dequeue hs).bind
    rintro taken s' (⟨rfl, drained⟩ | ⟨rfl, progress, spent⟩)
    · exact drained
    · rw [Nat.zero_add] at hr
      subst hr
      exact ⟨spent.within, .inr ⟨⟨_, rfl⟩, spent.resolved, progress.frontier⟩⟩
  | succ remaining ih =>
    unfold drainWithin
    apply (ends_dequeue hs).bind
    rintro taken s' (⟨rfl, drained⟩ | ⟨rfl, progress, spent⟩)
    · exact drained
    · apply ends_count progress spent (by omega)
      intro s₁ progress₁ spent₁
      apply (((frugal_consulting f).resolveOperation k).spends (leads_resolveOperation progress₁)
        spent₁).bind
      rintro _ s₂ ⟨progress₂, spent₂⟩
      exact ih (by omega) ⟨progress₂, spent₂⟩

theorem ends_drain (hs : Paused f k s) :
    Ends (drain f) s (fun _ s' => Drained f s') (Stopped f.host.limit) :=
  ends_drainWithin s.remaining hs.spent.left hs

end Drains

section Scans

variable {f : ScanFrame P} {s : Scan P}

theorem ends_scanConstructor (hs : Paused f 0 s) :
    Ends (scanConstructor f s.bean.descriptor) s (fun _ s' => Drained f s')
      (Stopped f.host.limit) := by
  have select : Frugal
      (liftM s.bean.descriptor.selectConstructor : ScanM P (Constructor P)) :=
    frugal_except fun e he => not_limit_of_selectConstructor he
  unfold scanConstructor
  apply (select.spends (reads_except fun _ h => h).leads (f := f) hs.spent).bind
  rintro constructor _ ⟨⟨rfl, selected⟩, spent⟩
  apply (frugal_activating.nextId.spends (reads_nextId _).leads (f := f) spent).bind
  rintro _ _ ⟨⟨rfl, rfl⟩, spent⟩
  have appended := (atomic_append hs.progress (.constructor selected)).leads
  have appends : ∀ op : Operation P, Frugal (Functor.discard (append op)) :=
    fun op => frugal_activating.discard (frugal_append op)
  apply ((appends _).spends (Leads.discard appended) spent).bind
  rintro _ s' ⟨⟨progress, -⟩, spent⟩
  exact ends_drain ⟨progress, spent⟩

theorem ends_scanMembers (c : ClassDescriptor P) (hs : Drained f s) :
    Ends (scanMembers f c) s (fun _ s' => Drained f s') (Stopped f.host.limit) := by
  have fields : Leads f s (c.fieldWalk.forM (matchField f)) _ :=
    Leads.forM hs.paused.progress fun declared _ _ h => leads_matchField declared h
  have eachField : Frugal (c.fieldWalk.forM (matchField f)) :=
    frugal_activating.forM fun declared _ => (frugal_consulting f).matchField declared
  have eachMethod : Frugal (c.methodWalk.forM (matchMethod f)) :=
    frugal_activating.forM fun declared _ => (frugal_consulting f).matchMethod declared
  unfold scanMembers
  apply (eachField.spends fields hs.spent).bind
  rintro _ s₁ ⟨progress, spent⟩
  have methods : Leads f s₁ (c.methodWalk.forM (matchMethod f)) _ :=
    Leads.forM progress fun declared _ _ h => leads_matchMethod declared h
  apply (eachMethod.spends methods spent).bind
  rintro _ s₂ ⟨progress, spent⟩
  exact ends_drain ⟨progress, spent⟩

theorem ends_finish (hs : Drained f s) :
    Ends (finish s.contributors >>= fun _ =>
      modify fun s => { s with bean := { s.bean with scanned := true } }) s
      (fun _ s' => Drained f s') (Stopped f.host.limit) := by
  have quiet := (silent_activating.finish s.contributors).leads f s
  apply ((frugal_activating.finish s.contributors).spends quiet hs.spent).bind
  rintro _ s' ⟨quiet, spent⟩
  rw [← quiet.bean] at spent
  have settled : Settled f 0 s' := by
    rw [Settled, quiet.bean]
    exact quiet.progress hs.settled
  exact ⟨settled.close, spent.left, spent.resolved⟩

theorem ends_scanWith (hs : Drained f s) (empty : s.bean.operations.size = 0) :
    Ends (scanWith f s.bean) s (fun _ s' => Drained f s') (Stopped f.host.limit) := by
  have rest : ∀ s', Drained f s' →
      Ends (scanMembers f s.bean.descriptor >>= fun _ => get >>= fun s =>
        finish s.contributors >>= fun _ =>
          modify fun s => { s with bean := { s.bean with scanned := true } }) s'
        (fun _ s' => Drained f s') (Stopped f.host.limit) := by
    intro s' hs'
    apply (ends_scanMembers s.bean.descriptor hs').bind
    exact fun _ s'' hs'' => ends_finish hs''
  have quiet := (silent_activating.checkClassMarkers f s.bean.descriptor).leads f s
  unfold scanWith
  apply ((frugal_activating.checkClassMarkers f s.bean.descriptor).spends quiet hs.spent).bind
  rintro _ s' ⟨quiet, spent⟩
  have progress := quiet.progress hs.settled
  split
  next =>
    rw [empty] at progress spent
    have made := ends_scanConstructor ⟨progress, spent⟩
    rw [quiet.bean] at made
    exact made.bind fun _ s'' hs'' => rest s'' hs''
  next =>
    rw [← quiet.bean] at progress spent
    exact rest s' ⟨progress, spent⟩

/-- The bean is new, and nothing of the limit was used. -/
theorem ends_scanBean_new (host : Host P) (empty : s.bean.operations = #[]) (queue : s.queue = [])
    (remaining : s.remaining = host.limit) (transcript : s.transcript = #[]) :
    Ends (scanBean host) s (fun _ s' => ∃ f : ScanFrame P, f.host = host ∧ Drained f s')
      (Stopped host.limit) := by
  have size : s.bean.operations.size = 0 := by rw [empty]; rfl
  have spent : Spent host.limit 0 s := ⟨remaining, by rw [resolved, transcript]; rfl⟩
  have modeled : Frugal
      (withCatalog fun w => Catalog.modelFor w s.bean.descriptor : ScanM P HookModel) :=
    frugal_withCatalog fun w => Catalog.confined_modelFor w s.bean.descriptor
  apply ends_scanBean_of
  · exact fun _ => ⟨spent.within, .inl (byCallback_of_not_limit rfl)⟩
  have quiet := (silent_withCatalog fun w => Catalog.modelFor w s.bean.descriptor).leads
    ⟨host, [], s.bean.type, s.bean.installer⟩ s
  apply (modeled.spends quiet spent).imp
  rintro model s' ⟨quiet, spent⟩
  have frontier : Frontier s'.bean s'.queue 0 0 0 0 := by
    rw [quiet.bean, quiet.queue, queue]
    refine ⟨by rw [size]; rfl, Nat.le_refl 0, Nat.zero_le _, .inr ⟨size.symm, rfl⟩, ?_⟩
    intro id op ho
    have hlt := Bean.lt_of_operation? ho
    omega
  have linked : s'.bean.Linked := quiet.bean ▸ .of_empty empty
  have start : Drained ⟨host, model, s.bean.type, s.bean.installer⟩ s' := by
    rw [← quiet.bean] at size
    exact ⟨by rw [Settled, size]; exact ⟨linked, by rw [quiet.bean], frontier⟩, size ▸ spent⟩
  have scans := ends_scanWith start (by rw [quiet.bean, size])
  rw [quiet.bean] at scans
  exact scans.mono (fun _ _ h => ⟨_, rfl, h⟩) fun _ _ h => h

end Scans

structure Accounted (limit : Nat) (result : Except Error Unit) (s : Scan P) : Prop where
  /-- Operations are resolved in the order of their ids, each once and no more than the limit
  allows. -/
  in_order : ∃ n ≤ limit, s.resolved = List.range n
  all_of_ok : result = .ok ⟨⟩ → s.queue = [] ∧
    s.resolved = List.range s.bean.operations.size ∧ s.bean.operations.size ≤ limit
  /-- Where the limit is met, or a callback ends with an error that says so. -/
  limited : ∀ type n, result = .error (.resolutionLimitExceeded type n) →
    .replied (.error (.resolutionLimitExceeded type n)) ∈ s.transcript ∨
      n = limit ∧ limit < s.bean.operations.size ∧ s.resolved = List.range limit ∧
        s.queue = List.range' (limit + 1) (s.bean.operations.size - (limit + 1)) ∧
          ∀ (id : Nat) op, s.bean.operation? id = some op →
            (id < limit → op.isComplete = true) ∧
              (limit ≤ id → ∀ binding ∈ op.bindings, binding = none)

theorem Drained.accounted {f : ScanFrame P} {s : Scan P} (h : Drained f s) :
    Accounted f.host.limit (.ok ⟨⟩) s where
  in_order := h.spent.within
  all_of_ok := by
    have left := h.spent.left
    have queue := h.settled.frontier.queue_eq
    rw [Nat.sub_self, List.range'_zero] at queue
    exact fun _ => ⟨queue, h.spent.resolved, by omega⟩
  limited := fun _ _ error => by cases error

/-- Seen from the frontier, operations before the limit are bound and those from it on are not. -/
theorem Exhausted.bound_iff {limit : Nat} {s : Scan P} (h : Exhausted limit s) {id : Nat}
    {op : Operation P} (ho : s.bean.operation? id = some op) :
    (id < limit → op.isComplete = true) ∧
      (limit ≤ id → ∀ binding ∈ op.bindings, binding = none) := by
  have bound : ∀ j < op.slots.length, (op.binding? j).isSome ↔ id < limit := by
    intro j hj
    rw [h.frontier.bound_iff id op ho (Nat.zero_le id) j hj]
    omega
  constructor
  · intro hid
    rw [Operation.isComplete, List.all_eq_true]
    intro slot hs
    obtain ⟨j, hj⟩ := List.getElem?_of_mem hs
    have some := (bound j (List.getElem?_eq_some_iff.mp hj).1).mpr hid
    rwa [Operation.binding?, hj] at some
  · intro hid binding hb
    rw [Operation.bindings, List.mem_map] at hb
    obtain ⟨slot, hs, rfl⟩ := hb
    obtain ⟨j, hj⟩ := List.getElem?_of_mem hs
    have none := mt (bound j (List.getElem?_eq_some_iff.mp hj).1).mp (by omega)
    rw [Operation.binding?, hj, Bool.not_eq_true, Option.isSome_eq_false_iff,
      Option.isNone_iff_eq_none] at none
    exact none

theorem Stopped.accounted {limit : Nat} {e : Error} {s : Scan P} (h : Stopped limit e s) :
    Accounted limit (.error e) s where
  in_order := h.within
  all_of_ok := fun ok => by cases ok
  limited := by
    rintro type n error
    obtain rfl : e = .resolutionLimitExceeded type n := Except.error.inj error
    rcases h.blame with blamed | ⟨⟨type', limit_eq⟩, exhausted⟩
    · exact .inl (blamed rfl)
    · obtain ⟨rfl, rfl⟩ := Error.resolutionLimitExceeded.inj limit_eq
      have hle := exhausted.frontier.q_le
      exact .inr ⟨rfl, by omega, exhausted.resolved, exhausted.frontier.queue_eq,
        fun id op ho => exhausted.bound_iff ho⟩

end Scan

/-- Whatever handlers do, a scan of a new bean ends with all its operations resolved, or it stops
within the limit; where it stops at the limit, the operations that the limit allows are bound, and
no other was touched. -/
theorem Attempt.accounted_run (a : Attempt P) (c : ClassDescriptor P) (source : Source P)
    (installer : Party) :
    Scan.Accounted a.deployment.container.settings.maxDeferred
      (a.run (.fresh c source installer)).1 (a.run (.fresh c source installer)).2 := by
  have ends := Scan.ends_scanBean_new (s := a.deployment.beginScan (.fresh c source installer)
    a.preset) a.deployment.container.host rfl rfl rfl rfl
  rcases ends.cases with ⟨_, s', run, f, host, drained⟩ | ⟨e, s', run, stopped⟩
  · have accounted := drained.accounted
    rw [host] at accounted
    rw [Attempt.run, ExceptT.run, StateT.run, run]
    exact accounted
  · rw [Attempt.run, ExceptT.run, StateT.run, run]
    exact stopped.accounted

def ExtensionKey.alarmist : ExtensionKey := ⟨⟨.numbered 3, "alarmist::Alarmist"⟩, true⟩

def Handler.alarming : Handler .bare :=
  { Handler.idle with
    onBinding := fun _ memory world =>
      .done (.error (.resolutionLimitExceeded ClassDescriptor.cart.type
        ({} : Settings).maxDeferred), memory, world) }

def Deployment.alarmed : Deployment .bare where
  world := ()
  container :=
    { settings := {}
      services := []
      catalog := { typeHooks := [(⟨.numbered 1, "Wheel"⟩, .alarmist)] }
      extensions := []
      make := fun _ world => (⟨"alarmist", fun world => (.alarming, world)⟩, world) }

/-- A scan fails so also where a handler says that a limit was met, and then none needs to be. -/
theorem Attempt.limit_claimed_cart : ¬ ∀ (a : Attempt .bare) (c : ClassDescriptor .bare)
    (source : Source .bare) (installer : Party) (type : TypeKey) (limit : Nat),
      limit = a.deployment.container.settings.maxDeferred →
        (a.run (.fresh c source installer)).1 = .error (.resolutionLimitExceeded type limit) →
          ∃ (id : Nat) (op : Operation .bare), limit ≤ id ∧
            (a.run (.fresh c source installer)).2.bean.operation? id = some op := by
  intro always
  obtain ⟨id, op, beyond, found⟩ :=
    always ⟨.alarmed, none⟩ .cart .construction .application _ _ rfl rfl
  have size : (Attempt.run ⟨.alarmed, none⟩
      (.fresh .cart .construction .application)).2.bean.operations.size = 1 := rfl
  have within := Bean.lt_of_operation? found
  rw [size] at within
  exact absurd (Nat.lt_of_le_of_lt beyond within) (by decide)

end Injector

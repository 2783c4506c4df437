import Injector.Proofs.Scan.Failure
import Injector.Proofs.Scan.Run

/-!
# What a handler is asked to bind

Each request is for a slot of an operation that the bean has when the handler is called, under the
id that the request names, and the slot is not bound yet.
-/

set_option autoImplicit false

namespace Injector

variable {P : Platform}

def BindingRequest.held (r : BindingRequest P) (b : Bean P) : Option (Binding P) :=
  (b.operation? r.operation.id).bind (·.binding? r.index)

namespace Scan

def Turn.Asks (turn : Turn P) : Prop :=
  ∀ f c r, turn.task = .request f c r →
    Scan.Asks f r turn.before.bean ∧ r.held turn.before.bean = none

theorem Turn.asks_of_plain {turn : Turn P} (h : turn.Plain) : turn.Asks := by
  intro f c r task
  unfold Plain at h
  rw [task] at h
  cases h

namespace Routine

theorem Always.asks {α : Type} {step : ScanM P α} {r : Routine step} (h : r.Always Turn.Plain) :
    r.Always Turn.Asks := h.mono fun _ plain => Turn.asks_of_plain plain

section Laws

variable {α β : Type} {step step' : ScanM P α} {next : α → ScanM P β} {f : ScanFrame P}
  {s : Scan P} {p : Turn P → Prop}

/-- What follows may rely on what the first step leads to. -/
theorem Every.lead {first : Routine step} {rest : ∀ a, Routine (next a)}
    {ok : α → Scan P → Prop} (h : first.Every s p) (leads : Leads f s step ok)
    (hn : ∀ a s', ok a s' → (rest a).Every s' p) : (Routine.bind first rest).Every s p :=
  h.bind (Ends.mono leads (fun a s' ha => hn a s' ha.2) fun _ _ _ => trivial)

theorem Every.read {first : Routine step} {rest : ∀ a, Routine (next a)} {ok : α → Prop}
    (h : first.Every s p) (reads : Reads s step ok) (hn : ∀ a, ok a → (rest a).Every s p) :
    (Routine.bind first rest).Every s p := by
  apply h.bind
  apply Ends.mono reads
  · rintro a _ ⟨rfl, ha⟩
    exact hn a ha
  · exact fun _ _ _ => trivial

theorem Every.ite {c : Prop} [Decidable c] {r : Routine step} {r' : Routine step'}
    (h : c → r.Every s p) (h' : ¬c → r'.Every s p) :
    (Routine.ite r r' : Routine (if c then step else step')).Every s p := by
  unfold Routine.ite
  split
  next holds => exact h holds
  next fails => exact h' fails

end Laws

section Resolution

variable {f : ScanFrame P} {base k index q : Nat} {s : Scan P} {op : Operation P}
  {parameter : Parameter P}

theorem asks_delegate (hs : Progress f base k index q s) (ho : s.bean.operation? k = some op)
    (hp : op.params[index]? = some parameter) (extension : ExtensionKey)
    (marker : Option (Marker P)) :
    (delegate f op index parameter extension marker).Every s Turn.Asks := by
  obtain rfl : op.id = k := hs.linked.id_eq k op ho
  apply Every.lead ((plain_activate f extension).asks s)
    ((silent_activating.activate f extension).leads f s)
  intro c s' quiet
  apply Every.bind ((plain_record _).asks s')
  rw [ends_record]
  apply Every.bind_any
  · apply every_task
    rintro _ _ _ ⟨⟩
    exact ⟨⟨rfl, hp, op, quiet.bean ▸ ho, .refl op⟩, (quiet.progress hs).unbound⟩
  · intro _
    apply (plain_bindingAt _ _).asks.bind
    intro binding
    cases binding with
    | none => exact (plain_throw _).asks
    | some _ => exact always_pure _

theorem asks_bindToService (index : Nat) (parameter : Parameter P) :
    (bindToService f op index parameter).Always Turn.Asks := by
  show (Routine.bind (task (.service f op parameter)) fun _ => bindSlot f op.id index _).Always _
  apply Always.bind
  · apply always_task
    rintro s _ _ _ ⟨⟩
  · exact fun _ => (plain_bindSlot f op.id index _).asks

theorem asks_resolveParameter (hs : Progress f base k index q s)
    (ho : s.bean.operation? k = some op) (hp : op.params[index]? = some parameter) :
    (resolveParameter f k index parameter).Every s Turn.Asks := by
  apply Every.read ((plain_operationAt f k).asks s) (reads_operationAt f s k)
  intro found hfound
  obtain rfl : op = found := Option.some.inj (ho.symm.trans hfound)
  apply Every.lead ((plain_bindingHook f _ _ none).asks _)
    ((silent_activating.bindingHook f _ _ none).leads f _)
  intro hit s' quiet
  have hs' := quiet.progress hs
  have ho' : s'.bean.operation? k = some op := quiet.bean ▸ ho
  cases hit with
  | some hit => exact asks_delegate hs' ho' hp _ _
  | none =>
    refine Every.bind (always_get s') ?_
    rw [ends_get]
    cases s'.catalog.typeHook? parameter.type with
    | some extension => exact asks_delegate hs' ho' hp extension none
    | none => exact asks_bindToService index parameter s'

/-- The parameters that are left are those from the frontier on. -/
theorem asks_resolveParameters {parameters : List (Parameter P)}
    (hs : Progress f base k index q s) (ho : s.bean.operation? k = some op)
    (hd : op.params.drop index = parameters) :
    (resolveParameters f k index parameters).Every s Turn.Asks := by
  induction parameters generalizing index s op with
  | nil => exact always_pure _ s
  | cons parameter rest ih =>
    obtain ⟨hp, hrest⟩ := getElem?_of_drop hd
    apply Every.read ((plain_bindingAt k index).asks s) (reads_bindingAt s k index)
    intro binding hb
    rw [hb, hs.unbound]
    apply Every.lead (asks_resolveParameter hs ho hp) (leads_resolveParameter hs ho hp).follows
    rintro _ s' ⟨hf, hs'⟩
    obtain ⟨op', ho', hg⟩ := hf.reaches.grows.operations k op ho
    exact ih hs' ho' (by rw [hg.params, hrest])

theorem asks_resolveOperation (hs : Progress f base k 0 q s) :
    (resolveOperation f k).Every s Turn.Asks := by
  apply Every.read ((plain_operationAt f k).asks s) (reads_operationAt f s k)
  intro op ho
  exact asks_resolveParameters hs ho rfl

theorem asks_drainWithin (remaining : Nat) (hs : Progress f base k 0 k s) :
    (drainWithin f remaining).Every s Turn.Asks := by
  induction remaining generalizing k s with
  | zero =>
    apply Every.lead (plain_dequeue.asks s) (leads_dequeue hs)
    rintro taken s' (⟨rfl, -⟩ | ⟨rfl, -⟩)
    · exact always_pure _ s'
    · exact (plain_task rfl).asks s'
  | succ remaining ih =>
    apply Every.lead (plain_dequeue.asks s) (leads_dequeue hs)
    rintro taken s' (⟨rfl, -⟩ | ⟨rfl, hs'⟩)
    · exact always_pure _ s'
    · have hspend : Silent (Scan.spend (P := P)) := silent_modify fun _ => ⟨rfl, rfl, rfl⟩
      apply Every.lead (plain_spend.asks s') (hspend.leads f s')
      intro _ s₁ h₁
      apply Every.lead ((plain_record _).asks s₁) ((silent_record (by simp)).leads f s₁)
      intro _ s₂ h₂
      have hs₂ := (h₁.trans h₂).progress hs'
      exact Every.lead (asks_resolveOperation hs₂) (leads_resolveOperation hs₂) fun _ _ h₃ => ih h₃

theorem asks_drain (hs : Progress f base k 0 k s) : (drain f).Every s Turn.Asks :=
  Every.bind (always_get s) (asks_drainWithin s.remaining hs)

end Resolution

section Whole

variable {f : ScanFrame P} {base k : Nat} {s : Scan P}

theorem asks_scanConstructor (hs : Progress f base k 0 k s) :
    (scanConstructor f s.bean.descriptor).Every s Turn.Asks := by
  apply Every.read ((plain_decision _).asks s) (reads_except fun _ h => h)
  intro constructor selected
  apply Every.read (plain_nextId.asks s) (reads_nextId s)
  rintro _ rfl
  have appended := (atomic_append hs (.constructor selected)).leads
  apply Every.lead ((plain_append _).discard.asks s)
    (Leads.discard (appended.mono fun _ _ added => added.1))
  exact fun _ _ hs' => asks_drain hs'

theorem asks_scanMembers (c : ClassDescriptor P) (hs : Settled f base s) :
    (scanMembers f c).Every s Turn.Asks := by
  have start : Progress f base s.bean.operations.size 0 s.bean.operations.size s := hs
  apply Every.lead ((always_forM (plain_matchField f) _).asks s)
    (Leads.forM start fun declared _ _ h => leads_matchField declared h)
  intro _ s₁ h₁
  apply Every.lead ((always_forM (plain_matchMethod f) _).asks s₁)
    (Leads.forM h₁ fun declared _ _ h => leads_matchMethod declared h)
  exact fun _ _ h₂ => asks_drain h₂

theorem asks_scanOperations (linked : s.bean.Linked) (installer : s.bean.installer = f.installer)
    (queue : s.queue = []) : (scanOperations f s.bean).Every s Turn.Asks := by
  have start := settled_begin linked installer queue
  apply Every.lead ((plain_checkClassMarkers f s.bean.descriptor).asks s)
    ((silent_activating.checkClassMarkers f s.bean.descriptor).leads f s)
  intro _ s' quiet
  have hs' : Progress f s.bean.operations.size s.bean.operations.size 0
    s.bean.operations.size s' := quiet.progress start
  rw [← quiet.bean]
  have made : Leads f s' (if s'.bean.source.isConstruction then
      Scan.scanConstructor f s'.bean.descriptor else Pure.pure PUnit.unit)
      fun _ s'' => Settled f s.bean.operations.size s'' := by
    split
    · exact (leads_scanConstructor hs').mono fun _ _ h => h.1
    · apply Leads.pure
      rw [Settled, quiet.bean]
      exact hs'
  apply Every.lead (Every.ite (fun _ => asks_scanConstructor hs') fun _ => always_pure _ s') made
  exact fun _ _ hs'' => asks_scanMembers _ hs''

theorem asks_scanWith (linked : s.bean.Linked) (installer : s.bean.installer = f.installer)
    (queue : s.queue = []) : (scanWith f s.bean).Every s Turn.Asks := by
  show (Routine.bind (scanOperations f s.bean) fun _ => _).Every s _
  apply Every.bind_any (asks_scanOperations linked installer queue)
  intro _
  exact always_get.bind fun last => (plain_finish last.contributors).asks.bind fun _ =>
    always_change _ _

theorem asks_scanBean (host : Host P) (linked : s.bean.Linked) (queue : s.queue = []) :
    (scanBean host).Every s Turn.Asks := by
  refine Every.bind (always_get s) ?_
  rw [ends_get]
  apply Every.ite
  · exact fun _ => (plain_throw _).asks s
  intro _
  have gathers : Silent (withCatalog fun w => Catalog.modelFor w s.bean.descriptor) :=
    silent_withCatalog _
  apply Every.bind ((plain_task (t := .model s.bean.descriptor) rfl).asks s)
  apply (gathers s).mono
  · intro model s' quiet
    have hs' : s'.bean.Linked := quiet.bean ▸ linked
    have asks := asks_scanWith (f := ⟨host, model, s.bean.type, s.bean.installer⟩) hs'
      (by rw [quiet.bean]) (quiet.queue.trans queue)
    rw [quiet.bean] at asks
    exact asks
  · exact fun _ _ _ => trivial

end Whole

end Routine

end Scan

end Injector

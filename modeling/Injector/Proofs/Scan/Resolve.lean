import Injector.Proofs.Lists
import Injector.Proofs.Scan.Slot
import Injector.Scan.Resolution

/-!
# Resolving the operations that wait

A parameter is passed only once its slot is bound, whoever was asked to bind it, so the frontier
moves slot by slot until no operation waits.
-/

set_option autoImplicit false

namespace Injector

variable {P : Platform}

namespace Scan

variable {f : ScanFrame P} {base k index q : Nat} {s : Scan P}

section Dialogs

variable {Q : Type} {R : Q → Type} {answer : (question : Q) → StateM (Scan P) (R question)}
  {invariant : Scan P → Prop}

/-- What each answer keeps, and depends on the bean and the queue alone, a dialog keeps. -/
theorem leads_converse (c : Contributor P) (shown : ScanEvent P)
    (callback : P.Memory → P.World → Dialog Q R (Outcome P))
    (depends : ∀ s s', s'.bean = s.bean → s'.queue = s.queue → invariant s → invariant s')
    (keeps : ∀ question s, invariant s →
      Follows f s (answer question s).2 ∧ invariant (answer question s).2)
    (hs : invariant s) :
    Leads f s (converse c shown callback answer) fun _ s' => invariant s' := by
  have seen : ∀ s', Follows f s s' ∧ invariant s' →
      Follows f s (observe s').2 ∧ invariant (observe s').2 := fun s' h =>
    ⟨h.1.trans (follows_observe f s'), depends s' _ rfl rfl h.2⟩
  have answers : ∀ question s', Follows f s s' ∧ invariant s' →
      Follows f s (answerSeen answer question s').2 ∧
        invariant (answerSeen answer question s').2 := by
    intro question s' h
    have ha := keeps question s' h.2
    exact seen (answer question s').2 ⟨h.1.trans ha.1, ha.2⟩
  have held := Dialog.run_keeps answers (callback c.handler.memory s.world)
    (seen s ⟨.refl s, hs⟩)
  unfold converse
  show Leads f s (get >>= fun s => liftM observe >>= fun _ => liftM _ >>= fun outcome => _) _
  unfold Leads
  rw [ends_bind, ends_get, ends_bind, ends_state, ends_bind, ends_state]
  generalize Dialog.run (answerSeen answer) (callback c.handler.memory s.world) (observe s).2 =
    ended at held ⊢
  obtain ⟨⟨result, memory, world⟩, s'⟩ := ended
  have closes := silent_activating.closes c (.made c shown s (result, memory, world)) memory world
    result
  exact ((closes.leads f s').mono fun _ _ h => depends _ _ h.bean h.queue held.2).after held.1

end Dialogs

/-- The extension takes part, and is told what it is about, before it is asked anything. -/
theorem leads_announce {α : Type} {key : ExtensionKey} {event : Contributor P → ScanEvent P}
    {next : Contributor P → ScanM P α} {ok : α → Scan P → Prop}
    (hidden : ∀ c bean, event c ≠ .stood bean)
    (h : ∀ c s', Quiet s s' → Leads f s' (next c) ok) :
    Leads f s (activate f key >>= fun c => record (event c) >>= fun _ => next c) ok := by
  apply ((silent_activating.activate f key).leads f s).bind
  intro contributor s₁ h₁
  apply ((silent_record (hidden contributor)).leads f s₁).bind
  intro _ s₂ h₂
  exact h contributor s₂ (h₁.trans h₂)

theorem leads_delegate {op : Operation P} {parameter : Parameter P}
    (hs : Progress f base k index q s) (ho : s.bean.operation? k = some op)
    (hp : op.params[index]? = some parameter) (extension : ExtensionKey)
    (marker : Option (Marker P)) :
    Leads f s (delegate f op index parameter extension marker) fun _ s' =>
      Progress f base k (index + 1) q s' := by
  obtain rfl : op.id = k := hs.linked.id_eq k op ho
  apply leads_announce (by simp)
  intro contributor s' quiet
  let request : BindingRequest P :=
    { operation := op, index, parameter, marker, party := f.installer
      context := contributor.contextFor extension }
  have asks : Asks f request s'.bean := ⟨rfl, hp, op, quiet.bean ▸ ho, .refl op⟩
  have opened : Open f base q request s' := ⟨asks, .inl (quiet.progress hs)⟩
  apply ((leads_converse contributor _ _ (fun _ _ hb hq h => h.of_eq hb hq)
    (fun call _ h => keeps_answerSlot call h) opened).rethrow fun e => e.requiredBy op.target).bind
  intro _ s₃ h₃
  apply (reads_bindingAt s₃ op.id index).leads.bind
  rintro binding _ ⟨rfl, hb⟩
  rcases h₃.progress with unbound | bound
  · rw [hb, unbound.unbound]
    exact Leads.throw
  · obtain ⟨existing, he⟩ := Option.isSome_iff_exists.mp (bound.isSome h₃.asks)
    rw [hb, he]
    exact Leads.pure bound

theorem leads_bindToService {op : Operation P} {parameter : Parameter P}
    (hs : Progress f base k index q s) (ho : s.bean.operation? k = some op)
    (hp : op.params[index]? = some parameter) :
    Leads f s (bindToService f op index parameter) fun _ s' =>
      Progress f base k (index + 1) q s' := by
  obtain rfl : op.id = k := hs.linked.id_eq k op ho
  rw [Operation.params, List.getElem?_map, Option.map_eq_some_iff] at hp
  obtain ⟨slot, hslot, rfl⟩ := hp
  unfold bindToService
  split
  next binding hl =>
    have known := Binding.known_of_lookup hl
    obtain ⟨-, rfl⟩ := Directory.lookup_eq_ok.mp hl
    have fits : (Binding.service ⟨slot.parameter.type, none⟩ f.installer
      (!slot.parameter.optional)).Fits s.bean op slot.parameter := ⟨hs.installer.symm, rfl⟩
    exact (atomic_bindSlot hs ho hslot rfl fits known).leads
  next => exact Leads.throw

theorem leads_resolveParameter {op : Operation P} {parameter : Parameter P}
    (hs : Progress f base k index q s) (ho : s.bean.operation? k = some op)
    (hp : op.params[index]? = some parameter) :
    Leads f s (resolveParameter f k index parameter) fun _ s' =>
      Progress f base k (index + 1) q s' := by
  unfold resolveParameter
  apply (reads_operationAt f s k).leads.bind
  rintro found _ ⟨rfl, hfound⟩
  obtain rfl : op = found := Option.some.inj (ho.symm.trans hfound)
  apply ((silent_activating.bindingHook f _ _ none).leads f _).bind
  intro hit s' quiet
  have hs' := quiet.progress hs
  have ho' : s'.bean.operation? k = some op := quiet.bean ▸ ho
  cases hit with
  | some hit => exact leads_delegate hs' ho' hp _ _
  | none =>
    unfold Leads
    dsimp only
    rw [ends_bind, ends_get]
    split
    · exact leads_delegate hs' ho' hp _ _
    · exact leads_bindToService hs' ho' hp

/-- The parameters that are left are those from the frontier on. -/
theorem leads_resolveParameters {parameters : List (Parameter P)}
    (hs : Progress f base k index q s)
    (hleft : ∃ op, s.bean.operation? k = some op ∧ op.params.drop index = parameters) :
    Leads f s (resolveParameters f k index parameters) fun _ s' =>
      Progress f base (k + 1) 0 q s' := by
  induction parameters generalizing index s with
  | nil =>
    obtain ⟨op, ho, hd⟩ := hleft
    have hi : op.slots.length ≤ index := by simpa [Operation.params] using hd
    exact Leads.pure ⟨hs.linked, hs.installer, hs.frontier.next ho hi⟩
  | cons parameter rest ih =>
    obtain ⟨op, ho, hd⟩ := hleft
    obtain ⟨hp, hrest⟩ := getElem?_of_drop hd
    unfold resolveParameters
    apply (reads_bindingAt s k index).leads.bind
    rintro binding _ ⟨rfl, hb⟩
    rw [hb, hs.unbound]
    apply (leads_resolveParameter hs ho hp).follows.bind
    rintro _ s' ⟨hf, hs'⟩
    apply ih hs'
    obtain ⟨op', ho', hg⟩ := hf.reaches.grows.operations k op ho
    exact ⟨op', ho', by rw [hg.params, hrest]⟩

theorem leads_resolveOperation (hs : Progress f base k 0 q s) :
    Leads f s (resolveOperation f k) fun _ s' => Progress f base (k + 1) 0 q s' := by
  unfold resolveOperation
  apply (reads_operationAt f s k).leads.bind
  rintro op _ ⟨rfl, ho⟩
  exact leads_resolveParameters hs ⟨op, ho, rfl⟩

theorem leads_dequeue (hs : Progress f base k 0 k s) :
    Leads f s dequeue fun taken s' =>
      taken = none ∧ Settled f base s' ∨ taken = some k ∧ Progress f base k 0 (k + 1) s' := by
  have hle := hs.frontier.q_le
  have hqueue := hs.frontier.queue_eq
  unfold Leads dequeue
  rw [ends_bind, ends_get]
  cases hn : s.bean.operations.size - k with
  | zero =>
    have hk : k = s.bean.operations.size := by omega
    rw [hn, List.range'_zero] at hqueue
    have hsettled : Settled f base s := by
      rw [Settled, ← hk]
      exact hs
    rw [hqueue]
    exact Leads.pure (.inl ⟨rfl, hsettled⟩)
  | succ m =>
    rw [hn, List.range'_succ] at hqueue
    rw [hqueue]
    have hm : s.bean.operations.size - (k + 1) = m := by omega
    have hf : Frontier s.bean (List.range' (k + 1) m) base k 0 (k + 1) :=
      ⟨by rw [hm], hs.frontier.base_le, by omega, .inl (by omega), hs.frontier.bound_iff⟩
    exact ⟨.of_reaches .refl rfl, .inr ⟨rfl, hs.linked, hs.installer, hf⟩⟩

/-- Operations that are added meanwhile come last in the queue. -/
theorem leads_drainWithin (remaining : Nat) (hs : Progress f base k 0 k s) :
    Leads f s (drainWithin f remaining) fun _ s' => Settled f base s' := by
  induction remaining generalizing k s with
  | zero =>
    unfold drainWithin
    apply (leads_dequeue hs).bind
    rintro taken s' (⟨rfl, hs'⟩ | ⟨rfl, -⟩)
    · exact Leads.pure hs'
    · exact Leads.throw
  | succ remaining ih =>
    unfold drainWithin
    apply (leads_dequeue hs).bind
    rintro taken s' (⟨rfl, hs'⟩ | ⟨rfl, hs'⟩)
    · exact Leads.pure hs'
    · have hspend : Silent (spend (P := P)) := silent_modify fun _ => ⟨rfl, rfl, rfl⟩
      apply (hspend.leads f s').bind
      intro _ s₁ h₁
      apply ((silent_record (by simp)).leads f s₁).bind
      intro _ s₂ h₂
      apply (leads_resolveOperation ((h₁.trans h₂).progress hs')).bind
      intro _ s₃ h₃
      exact ih h₃

theorem leads_drain (hs : Progress f base k 0 k s) :
    Leads f s (drain f) fun _ s' => Settled f base s' := leads_drainWithin s.remaining hs

end Scan

end Injector

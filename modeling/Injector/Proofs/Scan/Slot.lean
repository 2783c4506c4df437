import Injector.Proofs.Scan.Steps
import Injector.Scan.Slot

/-!
# What the calls of a handler do to the parameter it was asked to bind

The slot is at the frontier of the scan until the first call that succeeds; after that one no other
does.
-/

set_option autoImplicit false

namespace Injector

variable {P : Platform}

namespace Scan

variable {f : ScanFrame P} {base q : Nat} {r : BindingRequest P} {b later : Bean P} {s : Scan P}

structure Asks (f : ScanFrame P) (r : BindingRequest P) (b : Bean P) : Prop where
  party_eq : r.party = f.installer
  parameter_eq : r.operation.params[r.index]? = some r.parameter
  grown : ∃ op, b.operation? r.operation.id = some op ∧ r.operation.Grows op

namespace Asks

theorem mono (h : Asks f r b) (hb : b.Extends later) : Asks f r later where
  party_eq := h.party_eq
  parameter_eq := h.parameter_eq
  grown := by
    obtain ⟨op, ho, hg⟩ := h.grown
    obtain ⟨op', ho', hg'⟩ := hb.operations _ op ho
    exact ⟨op', ho', hg.trans hg'⟩

theorem slot (h : Asks f r b) :
    ∃ op slot, b.operation? r.operation.id = some op ∧ r.operation.Grows op ∧
      op.slots[r.index]? = some slot ∧ slot.parameter = r.parameter := by
  obtain ⟨op, ho, hg⟩ := h.grown
  have hp := h.parameter_eq
  rw [← hg.params, Operation.params, List.getElem?_map, Option.map_eq_some_iff] at hp
  obtain ⟨slot, hs, hp⟩ := hp
  exact ⟨op, slot, ho, hg, hs, hp⟩

end Asks

/-- The slot of the request is at the frontier, or it is the last one that was bound. -/
structure Open (f : ScanFrame P) (base q : Nat) (r : BindingRequest P) (s : Scan P) : Prop where
  asks : Asks f r s.bean
  progress : Progress f base r.operation.id r.index q s ∨
    Progress f base r.operation.id (r.index + 1) q s

theorem Open.of_eq {s' : Scan P} (h : Open f base q r s) (hb : s'.bean = s.bean)
    (hq : s'.queue = s.queue) : Open f base q r s' where
  asks := hb ▸ h.asks
  progress := h.progress.imp (·.of_eq hb hq) (·.of_eq hb hq)

theorem Progress.isSome (h : Progress f base r.operation.id (r.index + 1) q s)
    (ha : Asks f r s.bean) :
    ((s.bean.operation? r.operation.id).bind (·.binding? r.index)).isSome = true := by
  obtain ⟨op, slot, ho, -, hslot, -⟩ := ha.slot
  have hi := (List.getElem?_eq_some_iff.mp hslot).1
  rw [ho, Option.bind_some, h.frontier.bound_iff _ op ho h.frontier.base_le _ hi]
  exact Or.inr ⟨rfl, Nat.lt_succ_self _⟩

theorem reads_ensureUnbound (h : Open f base q r s) :
    Reads s (ensureUnbound r) fun _ => Progress f base r.operation.id r.index q s := by
  unfold ensureUnbound
  apply (reads_bindingAt s _ _).bind
  intro binding hb
  cases binding with
  | some existing => exact rfl
  | none =>
    rcases h.progress with hp | hp
    · exact ⟨rfl, hp⟩
    · have hsome := hp.isSome h.asks
      rw [← hb] at hsome
      cases hsome

theorem ends_bindSlot {id index : Nat} {op bound : Operation P} {binding : Binding P}
    {ok : PUnit → Scan P → Prop} {failed : Error → Scan P → Prop}
    (ho : s.bean.operation? id = some op) (hb : op.bind index binding = .ok bound) :
    Ends (bindSlot f id index binding) s ok failed ↔
      ok ⟨⟩ { s with bean := s.bean.put id bound } := by
  unfold bindSlot operationAt
  rw [ends_bind, ends_bind, ends_get, ho]
  show Ends (liftM (op.bind index binding) >>= fun _ => _) s _ _ ↔ _
  rw [hb]
  rfl

theorem atomic_bindSlot {id index : Nat} {op : Operation P} {slot : Slot P} {binding : Binding P}
    (hs : Progress f base id index q s) (ho : s.bean.operation? id = some op)
    (hslot : op.slots[index]? = some slot) (plain : Bean.nestedOperation binding = none)
    (fits : binding.Fits s.bean op slot.parameter) (known : binding.Known f.host.directory) :
    Atomic f s (bindSlot f id index binding) fun _ s' => Progress f base id (index + 1) q s' := by
  have ready := hs.frontier.ready ho
  have hi := (List.getElem?_eq_some_iff.mp hslot).1
  obtain ⟨bound, hb⟩ := Operation.exists_bind hi (ready index (Nat.le_refl _)) binding
  have change : Change f s.bean (s.bean.put id bound) :=
    .bind ho ready hslot plain fits known hb
  exact (ends_bindSlot ho hb).mpr ⟨.of_reaches (.single change) rfl,
    change.linked hs.linked, hs.installer, hs.frontier.put ho hb⟩

theorem atomic_commit {binding : Binding P} (ha : Asks f r s.bean)
    (hs : Progress f base r.operation.id r.index q s) (plain : Bean.nestedOperation binding = none)
    (fits : ∀ op, r.operation.Grows op → binding.Fits s.bean op r.parameter)
    (known : binding.Known f.host.directory) :
    Atomic f s (commit f r binding) fun _ s' => Open f base q r s' := by
  obtain ⟨op, slot, ho, hg, hslot, hp⟩ := ha.slot
  have hbind := atomic_bindSlot hs ho hslot plain (hp ▸ fits op hg) known
  exact hbind.follows.mono fun _ s' h => ⟨ha.mono h.1.reaches.grows, .inr h.2⟩

/-- A nested operation is added together with the binding that holds it. -/
theorem atomic_attach {new : Operation P} (ha : Asks f r s.bean)
    (hs : Progress f base r.operation.id r.index q s)
    (hn : Nested r s.bean.operations.size new) :
    Atomic f s (attach f r new) fun _ s' => Open f base q r s' := by
  obtain ⟨op, slot, ho, hg, hslot, hp⟩ := ha.slot
  have ready := hs.frontier.ready ho
  have hi := (List.getElem?_eq_some_iff.mp hslot).1
  obtain ⟨bound, hb⟩ :=
    Operation.exists_bind hi (ready _ (Nat.le_refl _)) (.operation new.id)
  have change : Change f s.bean ((s.bean.append new).put r.operation.id bound) :=
    .nest ho hg ready hslot hp hn hb
  have ho' := Bean.operation?_append_of_some ho new
  unfold Atomic attach
  rw [ends_bind]
  show Ends (commit f r _ >>= _) { s with bean := s.bean.append new, queue := _ } _ _
  rw [ends_bind]
  unfold commit
  rw [ends_bindSlot (by exact ho') hb]
  refine ⟨.of_reaches (.single change) rfl, ha.mono change.grows, .inr ?_⟩
  exact ⟨change.linked hs.linked, hs.installer, (hs.frontier.append hn.fresh.1).put ho' hb⟩

theorem atomic_bindValue (h : Open f base q r s) (value : P.Datum) :
    Atomic f s (bindValue f r value) fun _ s' => Open f base q r s' := by
  unfold bindValue
  apply (reads_ensureUnbound h).atomic
  intro _ hs
  split
  next ht => exact atomic_commit h.asks hs rfl (fun _ _ => ht) trivial
  next => exact atomic_throw

theorem atomic_bindNull (h : Open f base q r s) :
    Atomic f s (bindNull f r) fun _ s' => Open f base q r s' := by
  unfold bindNull
  apply (reads_ensureUnbound h).atomic
  intro _ hs
  split
  next => exact atomic_throw
  next ht =>
    have ht : r.parameter.type.isPrimitive = false := Bool.not_eq_true _ ▸ ht
    exact atomic_commit h.asks hs rfl (fun _ _ => ht) trivial

theorem atomic_bindArgument (h : Open f base q r s) (argument : Nat) :
    Atomic f s (bindArgument f r argument) fun _ s' => Open f base q r s' := by
  unfold bindArgument
  apply (reads_ensureUnbound h).atomic
  intro _ hs
  apply (reads_except fun _ hc => hc).atomic
  intro _ hc
  unfold BindingRequest.checkArgument at hc
  split at hc
  next => cases hc
  next type ha =>
    split at hc
    next ht =>
      refine atomic_commit h.asks hs rfl (fun op hg => ⟨type, ?_, ht⟩) trivial
      rw [hg.contract_eq]
      exact ha
    next => cases hc

theorem atomic_bindFactory (h : Open f base q r s) (owner : ClassDescriptor P)
    (method : Method P) :
    Atomic f s (bindFactory f r owner method) fun _ s' => Open f base q r s' := by
  unfold bindFactory
  apply (reads_ensureUnbound h).atomic
  intro _ hs
  apply (reads_except fun _ hc => hc).atomic
  intro _ hc
  apply (reads_nextId s).atomic
  intro id hid
  apply (reads_except fun _ hn => hn).atomic
  intro new hn
  exact atomic_attach h.asks hs (.factory hc (hid ▸ hn))

theorem atomic_bindConstructor (h : Open f base q r s) (owner : ClassDescriptor P) :
    Atomic f s (bindConstructor f r owner) fun _ s' => Open f base q r s' := by
  unfold bindConstructor
  apply (reads_ensureUnbound h).atomic
  intro _ hs
  apply (reads_except fun _ hc => hc).atomic
  intro _ hc
  apply (reads_except fun _ hm => hm).atomic
  intro made hm
  apply (reads_nextId s).atomic
  intro id hid
  rw [hid]
  exact atomic_attach h.asks hs (.constructor hc hm)

theorem atomic_bindService (h : Open f base q r s) (key : DependencyKey) :
    Atomic f s (bindService f r key) fun _ s' => Open f base q r s' := by
  unfold bindService
  apply (reads_ensureUnbound h).atomic
  intro _ hs
  apply (reads_except fun _ hl => hl).atomic
  intro binding hl
  have known := Binding.known_of_lookup hl
  obtain ⟨-, rfl⟩ := Directory.lookup_eq_ok.mp hl
  exact atomic_commit h.asks hs rfl
    (fun _ _ => ⟨h.asks.party_eq.trans hs.installer.symm, rfl⟩) known

/-- Whatever a handler calls, and whether it succeeds or not. -/
theorem keeps_answerSlot (call : SlotCall P) (h : Open f base q r s) :
    Follows f s (answerSlot f r call s).2 ∧ Open f base q r (answerSlot f r call s).2 := by
  cases call with
  | bindValue value => exact (atomic_bindValue h value).keeps h
  | bindNull => exact (atomic_bindNull h).keeps h
  | bindArgument argument => exact (atomic_bindArgument h argument).keeps h
  | bindFactory owner method => exact (atomic_bindFactory h owner method).keeps h
  | bindConstructor owner => exact (atomic_bindConstructor h owner).keeps h
  | bindService key => exact (atomic_bindService h key).keeps h
  | isBound => exact ⟨.refl s, h⟩

end Scan

end Injector

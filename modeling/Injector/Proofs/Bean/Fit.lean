import Injector.Bean.Invocation
import Injector.Proofs.Bean.Forest
import Injector.Service.Directory

/-!
# Bindings that fit

Which bindings fit which parameters, and what the operations that scans make have in common.
Both stay true as the bean grows.
-/

set_option autoImplicit false

namespace Injector

variable {P : Platform}

namespace Binding

def Fits (b : Bean P) (op : Operation P) (p : Parameter P) : Binding P → Prop
  | constant (some value) => P.hasType value p.type = true
  | constant none => p.type.isPrimitive = false
  | argument index => ∃ type, op.contract.arguments[index]? = some type ∧ (type == p.type) = true
  | operation id => ∃ nested, b.operation? id = some nested ∧
      (∃ type, nested.contract.returns = some type ∧ (type == p.type) = true) ∧
      nested.contract.arguments = op.contract.arguments
  | service _ party required => party = b.installer ∧ required = !p.optional

def Known (d : Directory) : Binding P → Prop
  | service key party true => (d.contains party key || d.isPending party key) = true
  | _ => True

theorem known_of_lookup {d : Directory} {party : Party} {key : DependencyKey} {required : Bool}
    {binding : Binding P} (h : d.lookup party key required = .ok binding) : binding.Known d := by
  obtain ⟨hk, rfl⟩ := Directory.lookup_eq_ok.mp h
  cases required with
  | true => exact hk rfl
  | false => trivial

theorem Fits.mono {b later : Bean P} {op op' : Operation P} {p : Parameter P}
    {binding : Binding P} (h : binding.Fits b op p) (hb : b.Extends later)
    (ho : op.Grows op') : binding.Fits later op' p := by
  cases binding with
  | constant value => cases value <;> exact h
  | argument index =>
    obtain ⟨type, ha, ht⟩ := h
    exact ⟨type, by rw [ho.contract_eq]; exact ha, ht⟩
  | operation id =>
    obtain ⟨nested, hn, ⟨type, hr, ht⟩, ha⟩ := h
    obtain ⟨nested', hn', hg⟩ := hb.operations id nested hn
    refine ⟨nested', hn', ⟨type, by rw [hg.contract_eq]; exact hr, ht⟩, ?_⟩
    rw [hg.contract_eq, ho.contract_eq]
    exact ha
  | service key party required => exact ⟨h.1.trans hb.installer.symm, h.2⟩

end Binding

namespace Operation

/-- What the accessor takes is what a call gives it. An operation that makes a value, for a bean
or for a parameter, needs no instance. -/
structure WellMade (op : Operation P) : Prop where
  arity : op.accessor.arity =
    (if op.receiver then 1 else 0) + op.slots.length + if op.mode = .set then 1 else 0
  makes : op.mode = .construct ∨ op.parent.isSome → op.receiver = false ∧ op.mode ≠ .set
  /-- The instance is the first argument of the contract. -/
  addressed : op.receiver = true → op.contract.arguments ≠ []

theorem WellMade.mono {op later : Operation P} (h : op.WellMade) (hg : op.Grows later) :
    later.WellMade where
  arity := by
    rw [hg.accessor_eq, hg.receiver_eq, hg.length_eq, hg.mode_eq]
    exact h.arity
  makes := by
    rw [hg.mode_eq, hg.parent_eq, hg.receiver_eq]
    exact h.makes
  addressed := by
    rw [hg.receiver_eq, hg.contract_eq]
    exact h.addressed

structure Fresh (op : Operation P) (id : OperationId) : Prop where
  id_eq : op.id = id
  unbound : ∀ index, op.binding? index = none
  wellMade : op.WellMade

theorem unbound_freshSlots {op : Operation P} {params : List (Parameter P)}
    (h : op.slots = freshSlots params) (index : Nat) : op.binding? index = none := by
  unfold binding?
  rw [h, freshSlots, List.getElem?_map]
  cases params[index]? <;> rfl

theorem fresh_ofConstructor (id : OperationId) (c : ClassDescriptor P)
    (constructor : Constructor P) (operator : Party) (nesting : Option Nesting) :
    (ofConstructor id c constructor operator nesting).Fresh id where
  id_eq := rfl
  unbound := @unbound_freshSlots P (ofConstructor id c constructor operator nesting) _ rfl
  wellMade :=
    { arity := by simp [ofConstructor, freshSlots]
      makes := fun _ => ⟨rfl, by simp [ofConstructor]⟩
      addressed := fun needed => by cases needed }

/-- A member that is used for itself may need an instance. -/
theorem Fresh.of_member {op : Operation P} (unbound : ∀ index, op.binding? index = none)
    (own : op.parent = none) (mode : op.mode ≠ .construct)
    (arity : op.accessor.arity =
      (if op.receiver then 1 else 0) + op.slots.length + if op.mode = .set then 1 else 0)
    (addressed : op.receiver = true → op.contract.arguments ≠ []) :
    op.Fresh op.id where
  id_eq := rfl
  unbound := unbound
  wellMade :=
    { arity := arity
      makes := by
        rintro (made | made)
        · exact absurd made mode
        · rw [own] at made
          cases made
      addressed := addressed }

theorem fresh_ofMethod {id : OperationId} {c : ClassDescriptor P} {method : Method P}
    {operator : Party} {op : Operation P} (h : ofMethod id c method operator = .ok op) :
    op.Fresh id ∧ op.parent = none ∧ op.contract.returns = method.returns ∧
      op.receiver = !method.isStatic ∧ op.mode = .invoke := by
  unfold ofMethod at h
  split at h
  next => cases h
  next accessor ha =>
    cases h
    refine ⟨.of_member (unbound_freshSlots rfl) rfl (by simp) ?_ ?_, rfl, rfl, rfl, rfl⟩
    · cases method.isStatic <;> simp [receiverType, freshSlots, Nat.add_comm]
    · cases method.isStatic <;> simp [receiverType]

/-- A factory keeps to the calls of the operation it makes a value for. -/
theorem fresh_ofFactory {id : OperationId} {c : ClassDescriptor P} {method : Method P}
    {operator : Party} {nesting : Nesting} {op : Operation P}
    (h : ofFactory id c method operator nesting = .ok op) :
    op.Fresh id ∧ op.parent = some nesting.parent ∧ op.contract.returns = method.returns ∧
      op.contract.arguments = nesting.arguments := by
  unfold ofFactory at h
  split at h
  next hs =>
    cases hm : ofMethod id c method operator with
    | error e => rw [hm] at h; cases h
    | ok made =>
      rw [hm] at h
      cases h
      obtain ⟨hf, -, hr, hrec, hmode⟩ := fresh_ofMethod hm
      have unaddressed : made.receiver = false := by simpa [hs] using hrec
      refine ⟨⟨hf.id_eq, hf.unbound, ⟨hf.wellMade.arity, fun _ => ⟨unaddressed, ?_⟩, ?_⟩⟩,
        rfl, hr, rfl⟩
      · simp [hmode]
      · simp [unaddressed]
  next => cases h

theorem fresh_ofGetter {id : OperationId} {c : ClassDescriptor P} {field : Field P}
    {operator : Party} {op : Operation P} (h : ofGetter id c field operator = .ok op) :
    op.Fresh id ∧ op.parent = none := by
  unfold ofGetter at h
  split at h
  next => cases h
  next accessor ha =>
    cases h
    refine ⟨.of_member (fun _ => rfl) rfl (by simp) ?_ ?_, rfl⟩
    · cases field.isStatic <;> simp [receiverType]
    · cases field.isStatic <;> simp [receiverType]

theorem fresh_ofSetter {id : OperationId} {c : ClassDescriptor P} {field : Field P}
    {operator : Party} {op : Operation P} (h : ofSetter id c field operator = .ok op) :
    op.Fresh id ∧ op.parent = none := by
  unfold ofSetter at h
  split at h
  next => cases h
  next accessor ha =>
    cases h
    refine ⟨.of_member (fun _ => rfl) rfl (by simp) ?_ ?_, rfl⟩
    · cases field.isStatic <;> simp [receiverType]
    · cases field.isStatic <;> simp [receiverType]

theorem fresh_ofInjection {id : OperationId} {c : ClassDescriptor P} {field : Field P}
    {operator : Party} {op : Operation P} (h : ofInjection id c field operator = .ok op) :
    op.Fresh id ∧ op.parent = none := by
  unfold ofInjection at h
  split at h
  next => cases h
  next accessor ha =>
    cases h
    refine ⟨.of_member (unbound_freshSlots rfl) rfl (by simp) ?_ ?_, rfl⟩
    · cases field.isStatic <;> simp [receiverType, freshSlots]
    · cases field.isStatic <;> simp [receiverType]

end Operation

namespace Bean

structure Fitting (b : Bean P) : Prop where
  wellMade : ∀ (id : Nat) op, b.operation? id = some op → op.WellMade
  fits : ∀ (id : Nat) op, b.operation? id = some op → ∀ slot ∈ op.slots, ∀ binding,
    slot.binding = some binding → binding.Fits b op slot.parameter

namespace Fitting

variable {b : Bean P}

theorem of_empty (h : b.operations = #[]) : b.Fitting where
  wellMade := fun id op ho => by simp [operation?, h] at ho
  fits := fun id op ho => by simp [operation?, h] at ho

theorem append (h : b.Fitting) {op : Operation P} (hf : op.Fresh b.operations.size) :
    (b.append op).Fitting where
  wellMade := by
    intro id old ho
    rcases operation?_of_append ho with ⟨-, rfl⟩ | ho
    · exact hf.wellMade
    · exact h.wellMade id old ho
  fits := by
    intro id old ho slot hs binding hb
    rcases operation?_of_append ho with ⟨-, rfl⟩ | ho
    · obtain ⟨index, hi⟩ := List.getElem?_of_mem hs
      have hu := hf.unbound index
      simp [Operation.binding?, hi, hb] at hu
    · exact (h.fits id old ho slot hs binding hb).mono (.append b op) (.refl old)

theorem put (h : b.Fitting) {id index : Nat} {op bound : Operation P} {slot : Slot P}
    {binding : Binding P} (ho : b.operation? id = some op) (hs : op.slots[index]? = some slot)
    (hf : binding.Fits b op slot.parameter) (hb : op.bind index binding = .ok bound) :
    (b.put id bound).Fitting where
  wellMade := by
    intro i old hi
    rcases operation?_of_put ho hi with ⟨-, rfl⟩ | ⟨-, hi⟩
    · exact (h.wellMade id op ho).mono (Operation.grows_bind hb)
    · exact h.wellMade i old hi
  fits := by
    intro i old hi slot' hs' binding' hb'
    have hg := Operation.grows_bind hb
    have he := Extends.put ho hg
    rcases operation?_of_put ho hi with ⟨-, rfl⟩ | ⟨-, hi⟩
    · obtain ⟨slot'', hs'', -, rfl⟩ := Operation.bind_eq_ok.mp hb
      obtain rfl : slot = slot'' := Option.some.inj (hs.symm.trans hs'')
      rcases List.mem_or_eq_of_mem_set hs' with hm | rfl
      · exact (h.fits id op ho slot' hm binding' hb').mono he hg
      · cases hb'
        exact hf.mono he hg
    · exact (h.fits i old hi slot' hs' binding' hb').mono he (.refl old)

end Fitting

def Bound (b : Bean P) : Prop :=
  ∀ (id : Nat) op, b.operation? id = some op → ∀ slot ∈ op.slots,
    ∃ binding, slot.binding = some binding ∧ binding.Fits b op slot.parameter

def Constructed (b : Bean P) : Prop :=
  ∃ (id : Nat) (op : Operation P),
    b.operation? id = some op ∧ op.mode = .construct ∧ op.parent = none

theorem Constructed.mono {b later : Bean P} (h : b.Constructed) (hb : b.Extends later) :
    later.Constructed := by
  obtain ⟨id, op, ho, hm, hp⟩ := h
  obtain ⟨op', ho', hg⟩ := hb.operations id op ho
  exact ⟨id, op', ho', by rw [hg.mode_eq, hm], by rw [hg.parent_eq, hp]⟩

def Supplied (b : Bean P) (d : Directory) : Prop :=
  ∀ (id : Nat) op, b.operation? id = some op → ∀ (index : Nat) binding,
    op.binding? index = some binding → binding.Known d

namespace Supplied

variable {b : Bean P} {d : Directory}

theorem of_empty (h : b.operations = #[]) : b.Supplied d :=
  fun id op ho => by simp [operation?, h] at ho

theorem append (h : b.Supplied d) {op : Operation P} (hu : ∀ index, op.binding? index = none) :
    (b.append op).Supplied d := by
  intro id old ho index binding hb
  rcases operation?_of_append ho with ⟨-, rfl⟩ | ho
  · rw [hu index] at hb
    cases hb
  · exact h id old ho index binding hb

theorem put (h : b.Supplied d) {id index : Nat} {op bound : Operation P} {binding : Binding P}
    (ho : b.operation? id = some op) (hk : binding.Known d)
    (hb : op.bind index binding = .ok bound) : (b.put id bound).Supplied d := by
  intro i old hi index' binding' hb'
  rcases operation?_of_put ho hi with ⟨-, rfl⟩ | ⟨-, hi⟩
  · rw [Operation.binding?_bind hb] at hb'
    split at hb'
    next => cases hb'; exact hk
    next => exact h id op ho index' binding' hb'
  · exact h i old hi index' binding' hb'

end Supplied

structure Scanned (b : Bean P) (d : Directory) : Prop where
  linked : b.Linked
  fitting : b.Fitting
  bound : b.Bound
  supplied : b.Supplied d
  constructed : b.source.isConstruction = true → b.Constructed

/-- Another directory will do if it knows as much. -/
theorem Scanned.of_known {b : Bean P} {d d' : Directory} (h : b.Scanned d)
    (known : ∀ party key, (d.contains party key || d.isPending party key) = true →
      (d'.contains party key || d'.isPending party key) = true) : b.Scanned d' where
  linked := h.linked
  fitting := h.fitting
  bound := h.bound
  supplied := by
    intro id op ho index binding hb
    have supplied := h.supplied id op ho index binding hb
    cases binding with
    | service key party required =>
      cases required with
      | true => exact known party key supplied
      | false => trivial
    | constant value => trivial
    | argument argument => trivial
    | operation nested => trivial
  constructed := h.constructed

end Bean

end Injector

import Mathlib.Logic.Relation
import Injector.Proofs.Bean.Fit
import Injector.Scan.Basic

/-!
# What a scan can do to its bean

It adds an operation of its own, binds a slot, or binds a slot to an operation made for it. Each of
these keeps the forest of operations and lets the bean grow; so does a whole run of them.
-/

set_option autoImplicit false

namespace Injector

variable {P : Platform}

namespace Scan

/-- The operations that come without a parent, as the next one of the bean. -/
inductive Made (f : ScanFrame P) (b : Bean P) : Operation P → Prop
  | constructor {constructor : Constructor P}
      (selected : b.descriptor.selectConstructor = .ok constructor) :
      Made f b (Operation.ofConstructor b.operations.size b.descriptor constructor f.installer none)
  | field {m : FieldMatch P} {call : FieldCall} {op : Operation P}
      (allowed : m.allows call = true)
      (access : checkAccess m.owner m.field.name m.field.visibility m.context = .ok ())
      (built : m.build b.operations.size call = .ok op) : Made f b op
  | method {m : MethodMatch P} {op : Operation P}
      (access : checkAccess m.owner m.method.name m.method.visibility m.context = .ok ())
      (built : Operation.ofMethod b.operations.size m.owner m.method
        (.extension m.context.extension) = .ok op) : Made f b op
  | injection {declared : DeclaredField P} {context : ScanContext} {extension : ExtensionKey}
      {op : Operation P}
      (access : checkAccess declared.owner declared.field.name declared.field.visibility
        context = .ok ())
      (built : Operation.ofInjection b.operations.size declared.owner declared.field
        (.extension extension) = .ok op) : Made f b op

inductive Nested (r : BindingRequest P) (id : OperationId) : Operation P → Prop
  | factory {owner : ClassDescriptor P} {method : Method P} {op : Operation P}
      (returns : r.checkFactory owner method = .ok ())
      (built : Operation.ofFactory id owner method r.operator r.nesting = .ok op) : Nested r id op
  | constructor {owner : ClassDescriptor P} {constructor : Constructor P}
      (returns : r.checkConstructed owner = .ok ())
      (selected : owner.selectConstructor = .ok constructor) :
      Nested r id (Operation.ofConstructor id owner constructor r.operator (some r.nesting))

theorem Made.fresh {f : ScanFrame P} {b : Bean P} {op : Operation P} (h : Made f b op) :
    op.Fresh b.operations.size ∧ op.parent = none := by
  cases h with
  | constructor selected => exact ⟨Operation.fresh_ofConstructor _ _ _ _ none, rfl⟩
  | @field m call _ allowed access built =>
    cases call with
    | newGetter => exact Operation.fresh_ofGetter built
    | newSetter => exact Operation.fresh_ofSetter built
  | method access built =>
    obtain ⟨hf, hp, -⟩ := Operation.fresh_ofMethod built
    exact ⟨hf, hp⟩
  | injection access built => exact Operation.fresh_ofInjection built

theorem Nested.fresh {r : BindingRequest P} {id : OperationId} {op : Operation P}
    (h : Nested r id op) :
    op.Fresh id ∧ op.parent = some r.operation.id ∧
      (∃ type, op.contract.returns = some type ∧ (type == r.parameter.type) = true) ∧
      op.contract.arguments = r.operation.contract.arguments := by
  cases h with
  | @factory owner method _ returns built =>
    obtain ⟨hf, hp, hr, ha⟩ := Operation.fresh_ofFactory built
    refine ⟨hf, hp, ?_, ha⟩
    rw [hr]
    unfold BindingRequest.checkFactory at returns
    split at returns
    next ht => simpa [Option.any_eq_true] using ht
    next => cases returns
  | @constructor owner made returns selected =>
    refine ⟨Operation.fresh_ofConstructor _ _ _ _ _, rfl, ⟨owner.type, rfl, ?_⟩, rfl⟩
    unfold BindingRequest.checkConstructed at returns
    split at returns
    next ht => exact ht
    next => cases returns

inductive Change (f : ScanFrame P) : Bean P → Bean P → Prop
  | add {b : Bean P} {op : Operation P} (made : Made f b op) : Change f b (b.append op)
  | bind {b : Bean P} {id index : Nat} {op bound : Operation P} {slot : Slot P}
      {binding : Binding P} (found : b.operation? id = some op)
      (ready : ∀ j, index ≤ j → op.binding? j = none) (slotAt : op.slots[index]? = some slot)
      (plain : Bean.nestedOperation binding = none) (fits : binding.Fits b op slot.parameter)
      (known : binding.Known f.host.directory) (done : op.bind index binding = .ok bound) :
      Change f b (b.put id bound)
  | nest {b : Bean P} {r : BindingRequest P} {op bound new : Operation P} {slot : Slot P}
      (found : b.operation? r.operation.id = some op) (grown : r.operation.Grows op)
      (ready : ∀ j, r.index ≤ j → op.binding? j = none)
      (slotAt : op.slots[r.index]? = some slot) (parameter : slot.parameter = r.parameter)
      (nested : Nested r b.operations.size new)
      (done : op.bind r.index (.operation new.id) = .ok bound) :
      Change f b ((b.append new).put r.operation.id bound)
  | close {b : Bean P} : Change f b { b with scanned := true }

namespace Change

variable {f : ScanFrame P} {b later : Bean P}

theorem grows (h : Change f b later) : b.Extends later := by
  cases h with
  | add made => exact .append b _
  | bind found ready slotAt plain fits known done =>
    exact .put found (Operation.grows_bind done)
  | nest found grown ready slotAt parameter nested done =>
    exact (Bean.Extends.append b _).trans
      (.put (Bean.operation?_append_of_some found _) (Operation.grows_bind done))
  | close => exact ⟨rfl, rfl, rfl, fun _ op ho => ⟨op, ho, .refl op⟩⟩

theorem linked (h : Change f b later) (hb : b.Linked) : later.Linked := by
  cases h with
  | add made =>
    obtain ⟨hf, hp⟩ := made.fresh
    exact hb.append hf.id_eq hp hf.unbound
  | bind found ready slotAt plain fits known done => exact hb.put found ready done plain
  | nest found grown ready slotAt parameter nested done =>
    obtain ⟨hf, hp, -⟩ := nested.fresh
    exact hb.nest found ready hf.id_eq hp hf.unbound done
  | close => exact ⟨⟨hb.id_eq, hb.parent_lt⟩, hb.children_eq⟩

theorem fitting (h : Change f b later) (hb : b.Fitting) : later.Fitting := by
  cases h with
  | add made => exact hb.append made.fresh.1
  | bind found ready slotAt plain fits known done => exact hb.put found slotAt fits done
  | @nest r op bound new slot found grown ready slotAt parameter nested done =>
    obtain ⟨hf, hp, hr, ha⟩ := nested.fresh
    refine (hb.append hf).put (Bean.operation?_append_of_some found new) slotAt ?_ done
    refine ⟨new, ?_, parameter ▸ hr, ?_⟩
    · rw [Bean.operation?_append, if_pos hf.id_eq]
    · rw [ha, grown.contract_eq]
  | close =>
    refine ⟨hb.wellMade, fun id op ho slot hs binding hbound => ?_⟩
    exact (hb.fits id op ho slot hs binding hbound).mono (Change.close (f := f)).grows (.refl op)

theorem supplied (h : Change f b later) (hb : b.Supplied f.host.directory) :
    later.Supplied f.host.directory := by
  cases h with
  | add made => exact hb.append made.fresh.1.unbound
  | bind found ready slotAt plain fits known done => exact hb.put found known done
  | nest found grown ready slotAt parameter nested done =>
    refine (hb.append nested.fresh.1.unbound).put (Bean.operation?_append_of_some found _) ?_ done
    exact trivial
  | close => exact hb

end Change

abbrev Reaches (f : ScanFrame P) : Bean P → Bean P → Prop := Relation.ReflTransGen (Change f)

namespace Reaches

variable {f : ScanFrame P} {b later : Bean P}

/-- An invariant of each change is one of any number of them. -/
theorem keeps (h : Reaches f b later) {invariant : Bean P → Prop}
    (step : ∀ old new, Change f old new → invariant old → invariant new) (hb : invariant b) :
    invariant later := by
  induction h with
  | refl => exact hb
  | tail _ change ih => exact step _ _ change ih

theorem grows (h : Reaches f b later) : b.Extends later :=
  h.keeps (fun _ _ change grown => grown.trans change.grows) (.refl b)

theorem linked (h : Reaches f b later) (hb : b.Linked) : later.Linked :=
  h.keeps (fun _ _ change => change.linked) hb

theorem fitting (h : Reaches f b later) (hb : b.Fitting) : later.Fitting :=
  h.keeps (fun _ _ change => change.fitting) hb

theorem supplied (h : Reaches f b later) (hb : b.Supplied f.host.directory) :
    later.Supplied f.host.directory :=
  h.keeps (fun _ _ change => change.supplied) hb

end Reaches

end Scan

end Injector

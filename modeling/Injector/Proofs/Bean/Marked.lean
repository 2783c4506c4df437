import Injector.Proofs.Hook.Usage
import Injector.Proofs.Scan.Local

/-!
# The markers on the parameters of a bean

Operations come from members, and where the members that a scan comes to carry markers in use, so do
all parameters that are to be resolved.
-/

set_option autoImplicit false

namespace Injector

variable {P : Platform}

theorem Operation.params_of_slots {op : Operation P} {params : List (Parameter P)}
    (h : op.slots = freshSlots params) : op.params = params := by
  rw [Operation.params, h, freshSlots, List.map_map]
  exact List.map_id params

theorem ClassDescriptor.mem_of_selectConstructor {c : ClassDescriptor P}
    {constructor : Constructor P} (h : c.selectConstructor = .ok constructor) :
    constructor ∈ c.constructors := by
  have first : ∀ {p : Constructor P → Bool} {only : Constructor P},
      c.constructors.filter p = [only] → only ∈ c.constructors := by
    intro p only one
    have listed : only ∈ c.constructors.filter p := by rw [one]; exact List.mem_cons_self
    exact (List.mem_filter.mp listed).1
  unfold selectConstructor at h
  split at h
  next injected =>
    cases h
    exact first injected
  next =>
    split at h
    next visible =>
      cases h
      exact first visible
    next => cases h
    next => cases h
  next => cases h

section Markers

variable {inUse : MarkerType P → Prop}

def MarkedWithin (inUse : MarkerType P → Prop) (params : List (Parameter P)) : Prop :=
  ∀ p ∈ params, ∀ marker ∈ p.markers, inUse marker.toMarkerType

def Bean.MarkedWithin (inUse : MarkerType P → Prop) (bean : Bean P) : Prop :=
  ∀ (id : Nat) op, bean.operation? id = some op → Injector.MarkedWithin inUse op.params

def SlotCall.MarkedWithin (inUse : MarkerType P → Prop) : SlotCall P → Prop
  | .bindFactory _ method => Injector.MarkedWithin inUse method.params
  | .bindConstructor owner =>
    ∀ constructor ∈ owner.constructors, Injector.MarkedWithin inUse constructor.params
  | _ => True

def ClassDescriptor.MarkedWithin (inUse : MarkerType P → Prop) (cls : ClassDescriptor P) : Prop :=
  ∀ marker ∈ cls.placed, inUse marker.toMarkerType

theorem markedWithin_nil : MarkedWithin inUse [] := fun _ hp => by cases hp

theorem Bean.markedWithin_of_empty {bean : Bean P} (h : bean.operations = #[]) :
    bean.MarkedWithin inUse := fun id op ho => by
  rw [Bean.operation?, h, Array.getElem?_empty] at ho
  cases ho

/-- Binding a slot leaves the parameters as they are. -/
theorem upheld_markedWithin (inUse : MarkerType P → Prop) (f : ScanFrame P) :
    Scan.Upheld f (Bean.MarkedWithin inUse) fun op => MarkedWithin inUse op.params where
  bound := by
    intro id index binding bean bean' marked bound i op ho
    obtain ⟨old, new, found, grown, rfl⟩ := Scan.put_of_slotBound bound
    rcases Bean.operation?_of_put found ho with ⟨-, rfl⟩ | ⟨-, ho⟩
    · rw [grown.params]
      exact marked id old found
    · exact marked i op ho
  appended := by
    intro op marks bean marked i later hl
    rcases Bean.operation?_of_append hl with ⟨-, rfl⟩ | hl
    · exact marks
    · exact marked i later hl

section Members

variable {id : OperationId} {owner : ClassDescriptor P} {operator : Party} {op : Operation P}

theorem markedWithin_ofMethod {method : Method P} (marks : MarkedWithin inUse method.params)
    (h : Operation.ofMethod id owner method operator = .ok op) : MarkedWithin inUse op.params := by
  unfold Operation.ofMethod at h
  split at h
  next => cases h
  next =>
    cases h
    rwa [Operation.params_of_slots rfl]

theorem markedWithin_ofFactory {method : Method P} {nesting : Nesting}
    (marks : MarkedWithin inUse method.params)
    (h : Operation.ofFactory id owner method operator nesting = .ok op) :
    MarkedWithin inUse op.params := by
  unfold Operation.ofFactory at h
  split at h
  next =>
    cases made : Operation.ofMethod id owner method operator with
    | error e =>
      rw [made] at h
      cases h
    | ok plain =>
      rw [made] at h
      cases h
      show MarkedWithin inUse plain.params
      exact markedWithin_ofMethod marks made
  next => cases h

theorem markedWithin_ofInjection {field : Field P}
    (marks : ∀ marker ∈ field.markers, inUse marker.toMarkerType)
    (h : Operation.ofInjection id owner field operator = .ok op) :
    MarkedWithin inUse op.params := by
  unfold Operation.ofInjection at h
  split at h
  next => cases h
  next =>
    cases h
    rw [Operation.params_of_slots rfl]
    intro p hp
    rw [List.mem_singleton] at hp
    subst hp
    exact marks

/-- Neither reading a field nor writing it takes a parameter. -/
theorem markedWithin_build {m : FieldMatch P} {call : FieldCall} (h : m.build id call = .ok op) :
    MarkedWithin inUse op.params := by
  cases call with
  | newGetter =>
    simp only [FieldMatch.build, Operation.ofGetter] at h
    split at h
    · cases h
    · cases h
      exact markedWithin_nil
  | newSetter =>
    simp only [FieldMatch.build, Operation.ofSetter] at h
    split at h
    · cases h
    · cases h
      exact markedWithin_nil

/-- What a handler may ask for adds no other markers. -/
theorem SlotCall.MarkedWithin.fit {call : SlotCall P} (h : call.MarkedWithin inUse)
    (r : BindingRequest P) :
    Scan.SlotCall.Fit (fun op => Injector.MarkedWithin inUse op.params) r call := by
  cases call with
  | bindFactory owner method => exact fun id op built => markedWithin_ofFactory h built
  | bindConstructor owner =>
    intro constructor selected id
    show Injector.MarkedWithin inUse (Operation.params _)
    rw [Operation.params_of_slots rfl]
    exact h constructor (ClassDescriptor.mem_of_selectConstructor selected)
  | _ => trivial

end Members

namespace ClassDescriptor.MarkedWithin

variable {cls : ClassDescriptor P}

theorem markers (h : cls.MarkedWithin inUse) :
    ∀ marker ∈ cls.markers, inUse marker.toMarkerType := fun marker hm =>
  h marker (by simp [placed, hm])

theorem field (h : cls.MarkedWithin inUse) {declared : DeclaredField P}
    (hd : declared ∈ cls.fieldWalk) :
    ∀ marker ∈ declared.field.markers, inUse marker.toMarkerType := fun marker hm =>
  h marker (by
    simp only [placed, List.mem_append, List.mem_flatMap]
    exact .inl (.inl (.inr ⟨declared, hd, hm⟩)))

theorem method (h : cls.MarkedWithin inUse) {declared : DeclaredMethod P}
    (hd : declared ∈ cls.methodWalk) :
    (∀ marker ∈ declared.method.markers, inUse marker.toMarkerType) ∧
      Injector.MarkedWithin inUse declared.method.params := by
  have listed : ∀ marker, marker ∈ declared.method.markers ∨
      (∃ p ∈ declared.method.params, marker ∈ p.markers) → inUse marker.toMarkerType := by
    intro marker hm
    apply h
    simp only [placed, List.mem_append, List.mem_flatMap]
    exact .inl (.inr ⟨declared, hd, hm⟩)
  exact ⟨fun marker hm => listed marker (.inl hm),
    fun p hp marker hm => listed marker (.inr ⟨p, hp, hm⟩)⟩

theorem constructor (h : cls.MarkedWithin inUse) {constructor : Constructor P}
    (hc : constructor ∈ cls.constructors) : Injector.MarkedWithin inUse constructor.params :=
  fun p hp marker hm => h marker (by
    simp only [placed, List.mem_append, List.mem_flatMap]
    exact .inr ⟨constructor, hc, p, hp, hm⟩)

end ClassDescriptor.MarkedWithin

end Markers

end Injector

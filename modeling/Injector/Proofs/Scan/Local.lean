import Mathlib.Tactic.Choose
import Injector.Proofs.Scan.Steps
import Injector.Scan.Match

/-!
# Calls of handlers are local

What they do depends on the bean and the queue alone, and they change nothing else. So they go the
same way wherever the bean and the queue are the same, and whatever a scan keeps apart from these is
left alone.
-/

set_option autoImplicit false

namespace Injector

variable {P : Platform}

namespace Scan

def place (s : Scan P) (bean : Bean P) (queue : List OperationId) : Scan P := { s with bean, queue }

/-- The step depends on the bean and the queue alone, changes nothing else, and keeps `invariant`
of the bean. -/
def Local {α : Type} (invariant : Bean P → Prop) (step : StateM (Scan P) α) : Prop :=
  ∃ act : Bean P → List OperationId → α × Bean P × List OperationId,
    (∀ s, step s = ((act s.bean s.queue).1, s.place (act s.bean s.queue).2.1
      (act s.bean s.queue).2.2)) ∧
    ∀ bean queue, invariant bean → invariant (act bean queue).2.1

section Laws

variable {α β : Type} {invariant : Bean P → Prop} {step : ScanM P α}

theorem local_pure (a : α) : Local invariant (pure a : ScanM P α).run :=
  ⟨fun bean queue => (.ok a, bean, queue), fun _ => rfl, fun _ _ h => h⟩

theorem local_throw (e : Error) : Local invariant (throw e : ScanM P α).run :=
  ⟨fun bean queue => (.error e, bean, queue), fun _ => rfl, fun _ _ h => h⟩

theorem Local.bind {next : α → ScanM P β} (h : Local invariant step.run)
    (hn : ∀ a, Local invariant (next a).run) : Local invariant (step >>= next).run := by
  obtain ⟨act, runs, keeps⟩ := h
  choose later runs' keeps' using hn
  refine ⟨fun bean queue => match act bean queue with
    | (.ok a, bean', queue') => later a bean' queue'
    | (.error e, bean', queue') => (.error e, bean', queue'), ?_, ?_⟩
  · intro s
    show (step >>= next) s = _
    rw [bind_apply]
    rw [ExceptT.run] at runs
    rw [runs s]
    dsimp only
    rcases act s.bean s.queue with ⟨e | a, bean, queue⟩
    · rfl
    · exact runs' a _
  · intro bean queue hb
    have hb' := keeps bean queue hb
    dsimp only
    rcases acted : act bean queue with ⟨e | a, bean', queue'⟩
    · rw [acted] at hb'
      exact hb'
    · rw [acted] at hb'
      exact keeps' a bean' queue' hb'

/-- What follows may rely on what is known of the result. -/
theorem local_except_bind {x : Except Error α} {next : α → ScanM P β}
    (h : ∀ a, x = .ok a → Local invariant (next a).run) :
    Local invariant (liftM x >>= next).run := by
  cases x with
  | ok a => exact h a rfl
  | error e => exact local_throw e

end Laws

section Steps

variable {invariant : Bean P → Prop} {f : ScanFrame P}

theorem local_nextId : Local invariant (nextId (P := P)).run :=
  ⟨fun bean queue => (.ok bean.operations.size, bean, queue), fun _ => rfl, fun _ _ h => h⟩

theorem local_bindingAt (id index : Nat) : Local invariant (bindingAt (P := P) id index).run :=
  ⟨fun bean queue => (.ok ((bean.operation? id).bind (·.binding? index)), bean, queue),
    fun _ => rfl, fun _ _ h => h⟩

theorem local_append {op : Operation P} (h : ∀ bean, invariant bean → invariant (bean.append op)) :
    Local invariant (append op).run :=
  ⟨fun bean queue => (.ok op.id, bean.append op, queue ++ [op.id]), fun _ => rfl,
    fun bean _ hb => h bean hb⟩

theorem operationAt_of_some (f : ScanFrame P) {s : Scan P} {id : Nat} {op : Operation P}
    (h : s.bean.operation? id = some op) : operationAt f id s = (.ok op, s) := by
  unfold operationAt
  rw [get_bind_apply, h]
  rfl

theorem operationAt_of_none (f : ScanFrame P) {s : Scan P} {id : Nat}
    (h : s.bean.operation? id = none) :
    operationAt f id s = (.error (.unknownOperation f.beanType id), s) := by
  unfold operationAt
  rw [get_bind_apply, h]
  rfl

def slotBound (f : ScanFrame P) (id index : Nat) (binding : Binding P) (bean : Bean P) :
    Except Error (Bean P) :=
  match bean.operation? id with
  | none => .error (.unknownOperation f.beanType id)
  | some op => (op.bind index binding).map fun bound => bean.put id bound

theorem bindSlot_eq (f : ScanFrame P) (id index : Nat) (binding : Binding P) (s : Scan P) :
    bindSlot f id index binding s = match slotBound f id index binding s.bean with
      | .ok bean => (.ok ⟨⟩, s.place bean s.queue)
      | .error e => (.error e, s) := by
  unfold bindSlot slotBound
  rw [bind_apply]
  cases found : s.bean.operation? id with
  | none =>
    rw [operationAt_of_none f found]
  | some op =>
    rw [operationAt_of_some f found]
    dsimp only
    rw [bind_apply]
    cases op.bind index binding with
    | error e => rfl
    | ok bound => rfl

theorem local_bindSlot {id index : Nat} {binding : Binding P}
    (h : ∀ bean bean', invariant bean → slotBound f id index binding bean = .ok bean' →
      invariant bean') : Local invariant (bindSlot f id index binding).run := by
  refine ⟨fun bean queue => match slotBound f id index binding bean with
    | .ok bean' => (.ok ⟨⟩, bean', queue)
    | .error e => (.error e, bean, queue), ?_, ?_⟩
  · intro s
    show bindSlot f id index binding s = _
    rw [bindSlot_eq]
    dsimp only
    cases slotBound f id index binding s.bean with
    | error e => rfl
    | ok bean => rfl
  · intro bean queue hb
    dsimp only
    cases hs : slotBound f id index binding bean with
    | error e => exact hb
    | ok bean' => exact h bean bean' hb hs

/-- The one operation grew. -/
theorem put_of_slotBound {id index : Nat} {binding : Binding P} {b b' : Bean P}
    (h : slotBound f id index binding b = .ok b') :
    ∃ op bound, b.operation? id = some op ∧ op.Grows bound ∧ b' = b.put id bound := by
  unfold slotBound at h
  split at h
  next => cases h
  next op found =>
    cases bound : op.bind index binding with
    | error e =>
      rw [bound] at h
      cases h
    | ok op' =>
      rw [bound] at h
      cases h
      exact ⟨op, op', found, Operation.grows_bind bound, rfl⟩

end Steps

structure Upheld (f : ScanFrame P) (invariant : Bean P → Prop) (fit : Operation P → Prop) :
    Prop where
  bound : ∀ id index binding bean bean', invariant bean →
    slotBound f id index binding bean = .ok bean' → invariant bean'
  appended : ∀ op, fit op → ∀ bean, invariant bean → invariant (bean.append op)

theorem upheld_true (f : ScanFrame P) : Upheld f (fun _ => True) fun _ => True :=
  ⟨fun _ _ _ _ _ _ _ => trivial, fun _ _ _ _ => trivial⟩

/-- A bean grows whatever is done to it. -/
theorem upheld_extends (f : ScanFrame P) (b : Bean P) : Upheld f b.Extends fun _ => True where
  bound := by
    intro id index binding old new grown bound
    obtain ⟨op, op', found, grown', rfl⟩ := put_of_slotBound bound
    exact grown.trans (.put found grown')
  appended := fun op _ old grown => grown.trans (.append old op)

section Calls

variable {invariant : Bean P → Prop} {fit : Operation P → Prop} {f : ScanFrame P}
  {r : BindingRequest P}

theorem local_ensureUnbound (r : BindingRequest P) : Local invariant (ensureUnbound r).run := by
  unfold ensureUnbound
  apply (local_bindingAt _ _).bind
  intro binding
  split
  · exact local_throw _
  · exact local_pure _

theorem local_commit (upheld : Upheld f invariant fit) (r : BindingRequest P)
    (binding : Binding P) : Local invariant (commit f r binding).run :=
  local_bindSlot (upheld.bound _ _ binding)

theorem local_bindValue (upheld : Upheld f invariant fit) (value : P.Datum) :
    Local invariant (bindValue f r value).run := by
  unfold bindValue
  apply (local_ensureUnbound r).bind
  intro _
  split
  · exact local_commit upheld r _
  · exact local_throw _

theorem local_bindNull (upheld : Upheld f invariant fit) : Local invariant (bindNull f r).run := by
  unfold bindNull
  apply (local_ensureUnbound r).bind
  intro _
  split
  · exact local_throw _
  · exact local_commit upheld r _

theorem local_bindArgument (upheld : Upheld f invariant fit) (argument : Nat) :
    Local invariant (bindArgument f r argument).run := by
  unfold bindArgument
  apply (local_ensureUnbound r).bind
  intro _
  exact local_except_bind fun _ _ => local_commit upheld r _

theorem local_bindService (upheld : Upheld f invariant fit) (key : DependencyKey) :
    Local invariant (bindService f r key).run := by
  unfold bindService
  apply (local_ensureUnbound r).bind
  intro _
  exact local_except_bind fun _ _ => local_commit upheld r _

theorem local_attach (upheld : Upheld f invariant fit) {nested : Operation P} (h : fit nested) :
    Local invariant (attach f r nested).run := by
  unfold attach
  apply (local_append (upheld.appended nested h)).bind
  intro id
  apply (local_commit upheld r _).bind
  exact fun _ => local_pure _

theorem local_bindFactory (upheld : Upheld f invariant fit) {owner : ClassDescriptor P}
    {method : Method P}
    (h : ∀ id op, Operation.ofFactory id owner method r.operator r.nesting = .ok op → fit op) :
    Local invariant (bindFactory f r owner method).run := by
  unfold bindFactory
  apply (local_ensureUnbound r).bind
  intro _
  apply local_except_bind
  intro _ _
  apply local_nextId.bind
  intro id
  apply local_except_bind
  intro nested made
  exact local_attach upheld (h id nested made)

theorem local_bindConstructor (upheld : Upheld f invariant fit) {owner : ClassDescriptor P}
    (h : ∀ constructor, owner.selectConstructor = .ok constructor → ∀ id,
      fit (Operation.ofConstructor id owner constructor r.operator (some r.nesting))) :
    Local invariant (bindConstructor f r owner).run := by
  unfold bindConstructor
  apply (local_ensureUnbound r).bind
  intro _
  apply local_except_bind
  intro _ _
  apply local_except_bind
  intro constructor selected
  apply local_nextId.bind
  intro id
  exact local_attach upheld (h constructor selected id)

def SlotCall.Fit (fit : Operation P → Prop) (r : BindingRequest P) : SlotCall P → Prop
  | .bindFactory owner method =>
    ∀ id op, Operation.ofFactory id owner method r.operator r.nesting = .ok op → fit op
  | .bindConstructor owner =>
    ∀ constructor, owner.selectConstructor = .ok constructor → ∀ id,
      fit (Operation.ofConstructor id owner constructor r.operator (some r.nesting))
  | _ => True

theorem SlotCall.fit_true (call : SlotCall P) : SlotCall.Fit (fun _ => True) r call := by
  cases call with
  | bindFactory owner method => exact fun _ _ _ => trivial
  | bindConstructor owner => exact fun _ _ _ => trivial
  | _ => trivial

theorem local_answerSlot (upheld : Upheld f invariant fit) (call : SlotCall P)
    (h : SlotCall.Fit fit r call) : Local invariant (answerSlot f r call) := by
  cases call with
  | bindValue value => exact local_bindValue upheld value
  | bindNull => exact local_bindNull upheld
  | bindArgument argument => exact local_bindArgument upheld argument
  | bindFactory owner method => exact local_bindFactory upheld h
  | bindConstructor owner => exact local_bindConstructor upheld h
  | bindService key => exact local_bindService upheld key
  | isBound =>
    exact ⟨fun bean queue => (((bean.operation? r.operation.id).bind (·.binding? r.index)).isSome,
      bean, queue), fun _ => rfl, fun _ _ h => h⟩

/-- Access is checked and the operation made before it is added. -/
theorem local_grant (upheld : Upheld f invariant fit) {check : Except Error Unit}
    {build : OperationId → Except Error (Operation P)}
    (h : check = .ok () → ∀ id op, build id = .ok op → fit op) :
    Local invariant (liftM check >>= fun _ => nextId >>= fun id => liftM (build id) >>= append :
      ScanM P OperationId).run := by
  apply local_except_bind
  intro _ granted
  apply local_nextId.bind
  intro id
  apply local_except_bind
  intro op made
  exact local_append (upheld.appended op (h granted id op made))

theorem local_answerField (upheld : Upheld f invariant fit) (m : FieldMatch P) (call : FieldCall)
    (h : m.allows call = true →
      checkAccess m.owner m.field.name m.field.visibility m.context = .ok () →
        ∀ id op, m.build id call = .ok op → fit op) : Local invariant (answerField m call) := by
  unfold answerField newFieldOperation
  split
  next allowed => exact local_grant upheld (h allowed)
  next => exact local_throw _

theorem local_answerMethod (upheld : Upheld f invariant fit) (m : MethodMatch P)
    (call : MethodCall)
    (h : checkAccess m.owner m.method.name m.method.visibility m.context = .ok () →
      ∀ id op, Operation.ofMethod id m.owner m.method (.extension m.context.extension) = .ok op →
        fit op) : Local invariant (answerMethod m call) :=
  local_grant upheld h

end Calls

end Scan

end Injector

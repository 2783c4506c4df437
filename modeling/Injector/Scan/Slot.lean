import Injector.Scan.State
import Injector.Text.Record

/-!
# What a handler may do with a parameter that waits to be bound

Every call first makes sure that the slot is unbound and that the value fits; only then does it
change the bean.
-/

set_option autoImplicit false

namespace Injector

variable {P : Platform}

namespace BindingRequest

def target (r : BindingRequest P) : String := r.operation.target

def inspect (r : BindingRequest P) : String :=
  Text.record "BindingSlot"
    [("operation", s!"OperationId({r.operation.id})"), ("index", toString r.index),
     ("parameter", Text.quoted r.parameter.name), ("extension", r.context.extension.inspect)]

def operator (r : BindingRequest P) : Party := .extension r.context.extension

/-- Nested operations are called with the arguments of the operation they make a value for. -/
def nesting (r : BindingRequest P) : Nesting := ⟨r.operation.id, r.operation.contract.arguments⟩

def mismatch (r : BindingRequest P) : Error :=
  if r.parameter.type.isPrimitive then .primitiveMismatch r.target r.index r.parameter.type
  else .constantTypeMismatch r.target r.index r.parameter.type

def checkArgument (r : BindingRequest P) (argument : Nat) : Except Error Unit :=
  match r.operation.contract.arguments[argument]? with
  | none => .error (.invalidArgumentIndex r.target r.index argument r.parameter.type none)
  | some type =>
    if type == r.parameter.type then .ok ()
    else .error (.invalidArgumentIndex r.target r.index argument r.parameter.type (some type))

def checkFactory (r : BindingRequest P) (owner : ClassDescriptor P) (method : Method P) :
    Except Error Unit :=
  if method.returns.any (· == r.parameter.type) then .ok ()
  else .error (.invalidFactory (Operation.targetOf owner.type method.name .invoke)
    s!"it does not return {r.parameter.type.name}")

def checkConstructed (r : BindingRequest P) (owner : ClassDescriptor P) : Except Error Unit :=
  if owner.type == r.parameter.type then .ok ()
  else .error (.invalidFactory (Operation.targetOf owner.type "new" .construct)
    s!"it does not construct {r.parameter.type.name}")

end BindingRequest

namespace Scan

def ensureUnbound (r : BindingRequest P) : ScanM P Unit := do
  match ← bindingAt r.operation.id r.index with
  | some existing => throw (.alreadyBound r.target r.index existing.kind)
  | none => return

def commit (f : ScanFrame P) (r : BindingRequest P) (binding : Binding P) : ScanM P Unit :=
  bindSlot f r.operation.id r.index binding

def bindValue (f : ScanFrame P) (r : BindingRequest P) (value : P.Datum) : ScanM P Unit := do
  ensureUnbound r
  if P.hasType value r.parameter.type then commit f r (.constant (some value))
  else throw r.mismatch

def bindNull (f : ScanFrame P) (r : BindingRequest P) : ScanM P Unit := do
  ensureUnbound r
  if r.parameter.type.isPrimitive then
    throw (.nullPrimitive r.target r.index r.parameter.type)
  else commit f r (.constant none)

def bindArgument (f : ScanFrame P) (r : BindingRequest P) (argument : Nat) : ScanM P Unit := do
  ensureUnbound r
  (r.checkArgument argument : Except Error Unit)
  commit f r (.argument argument)

def attach (f : ScanFrame P) (r : BindingRequest P) (nested : Operation P) :
    ScanM P OperationId := do
  let id ← append nested
  commit f r (.operation id)
  return id

def bindFactory (f : ScanFrame P) (r : BindingRequest P) (owner : ClassDescriptor P)
    (method : Method P) : ScanM P OperationId := do
  ensureUnbound r
  (r.checkFactory owner method : Except Error Unit)
  let nested ← (Operation.ofFactory (← nextId) owner method r.operator r.nesting :
    Except Error (Operation P))
  attach f r nested

def bindConstructor (f : ScanFrame P) (r : BindingRequest P) (owner : ClassDescriptor P) :
    ScanM P OperationId := do
  ensureUnbound r
  (r.checkConstructed owner : Except Error Unit)
  let constructor ← (owner.selectConstructor : Except Error (Constructor P))
  attach f r (Operation.ofConstructor (← nextId) owner constructor r.operator (some r.nesting))

def bindService (f : ScanFrame P) (r : BindingRequest P) (key : DependencyKey) :
    ScanM P Unit := do
  ensureUnbound r
  let binding ← (f.host.directory.lookup r.party key (!r.parameter.optional) :
    Except Error (Binding P))
  commit f r binding

def answerSlot (f : ScanFrame P) (r : BindingRequest P) :
    (call : SlotCall P) → StateM (Scan P) call.Reply
  | .bindValue value => (bindValue f r value).run
  | .bindNull => (bindNull f r).run
  | .bindArgument argument => (bindArgument f r argument).run
  | .bindFactory owner method => (bindFactory f r owner method).run
  | .bindConstructor owner => (bindConstructor f r owner).run
  | .bindService key => (bindService f r key).run
  | .isBound => fun s =>
    ((((s.bean.operation? r.operation.id).bind (·.binding? r.index)).isSome : Bool), s)

end Scan

end Injector

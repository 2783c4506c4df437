import Injector.Operation.Basic

/-!
# Operations made from members

The arguments of a call are the receiver, where the member is not static, followed by the parameters
of the member; a nested operation is called with the arguments of its parent instead.
-/

set_option autoImplicit false

namespace Injector

variable {P : Platform}

/-- The operation that a nested one makes a value for, with the arguments of its calls. -/
structure Nesting where
  parent : OperationId
  arguments : List TypeKey

namespace Operation

def receiverType (c : ClassDescriptor P) (isStatic : Bool) : List TypeKey :=
  if isStatic then [] else [c.type]

def freshSlots (params : List (Parameter P)) : List (Slot P) := params.map fun p => ⟨p, none⟩

def ofConstructor (id : OperationId) (c : ClassDescriptor P) (constructor : Constructor P)
    (operator : Party) (nesting : Option Nesting) : Operation P where
  id := id
  declaring := c.type
  member := "new"
  mode := .construct
  operator := operator
  accessor := ⟨constructor.accessor, constructor.params.length, targetOf c.type "new" .construct⟩
  contract :=
    { arguments := (nesting.map (·.arguments)).getD (constructor.params.map (·.type))
      returns := some c.type }
  slots := freshSlots constructor.params
  receiver := false
  parent := nesting.map (·.parent)

def ofMethod (id : OperationId) (c : ClassDescriptor P) (method : Method P) (operator : Party) :
    Except Error (Operation P) :=
  match method.accessor with
  | none => .error (.missingAccessor c.type method.name "invoker")
  | some accessor =>
    let arguments := receiverType c method.isStatic ++ method.params.map (·.type)
    .ok
      { id, operator, accessor := ⟨accessor, arguments.length, targetOf c.type method.name .invoke⟩
        declaring := c.type
        member := method.name
        mode := .invoke
        contract := ⟨arguments, method.returns⟩
        slots := freshSlots method.params
        receiver := !method.isStatic }

/-- Only a static method can make a value for another operation. -/
def ofFactory (id : OperationId) (c : ClassDescriptor P) (method : Method P) (operator : Party)
    (nesting : Nesting) : Except Error (Operation P) :=
  if method.isStatic then
    (ofMethod id c method operator).map fun op =>
      { op with
        contract := { op.contract with arguments := nesting.arguments }
        parent := some nesting.parent }
  else .error (.invalidFactory (targetOf c.type method.name .invoke)
    "factory methods must be static")

def fieldParameter (field : Field P) : Parameter P where
  name := field.name
  type := field.type
  markers := field.markers

def ofGetter (id : OperationId) (c : ClassDescriptor P) (field : Field P) (operator : Party) :
    Except Error (Operation P) :=
  match field.getter with
  | none => .error (.missingAccessor c.type field.name "getter")
  | some accessor =>
    let arguments := receiverType c field.isStatic
    .ok
      { id, operator, accessor := ⟨accessor, arguments.length, targetOf c.type field.name .get⟩
        declaring := c.type
        member := field.name
        mode := .get
        contract := ⟨arguments, some field.type⟩
        slots := []
        receiver := !field.isStatic }

def ofSetter (id : OperationId) (c : ClassDescriptor P) (field : Field P) (operator : Party) :
    Except Error (Operation P) :=
  match field.setter with
  | none => .error (.missingAccessor c.type field.name "setter")
  | some accessor =>
    let arguments := receiverType c field.isStatic ++ [field.type]
    .ok
      { id, operator, accessor := ⟨accessor, arguments.length, targetOf c.type field.name .set⟩
        declaring := c.type
        member := field.name
        mode := .set
        contract := ⟨arguments, none⟩
        slots := []
        receiver := !field.isStatic }

def ofInjection (id : OperationId) (c : ClassDescriptor P) (field : Field P) (operator : Party) :
    Except Error (Operation P) :=
  match field.setter with
  | none => .error (.missingAccessor c.type field.name "setter")
  | some accessor =>
    let arguments := receiverType c field.isStatic
    .ok
      { id, operator
        accessor := ⟨accessor, arguments.length + 1, targetOf c.type field.name .inject⟩
        declaring := c.type
        member := field.name
        mode := .inject
        contract := ⟨arguments, none⟩
        slots := freshSlots [fieldParameter field]
        receiver := !field.isStatic }

end Operation

end Injector

import Injector.Class.Basic
import Injector.Scenario.World

/-!
# Scripts

What the handlers of a scenario do when they are called. A marker may carry a script of its own,
which then takes the place of the handler's.
-/

set_option autoImplicit false

namespace Injector.Scenario

inductive FieldAction where
  | newGetter
  | newSetter
  | info
  | marker (name : String)
  | fail (text : String)
  | attempt (action : FieldAction)
deriving Inhabited

inductive MethodAction where
  | newOperation
  | info
  | marker (name : String)
  | fail (text : String)
  | attempt (action : MethodAction)
deriving Inhabited

inductive SlotAction where
  | info
  | null
  | value (literal : Literal)
  | argument (index : Nat)
  | factory (classId : String) (index : Nat)
  | construct (classId : String)
  /-- Without a type the service is of the type of the parameter. -/
  | service (type name : Option String)
  | notRegistered (requiredBy : Option String)
  | fail (text : String)
  | attempt (action : SlotAction)
deriving Inhabited

structure Payload where
  /-- The payload as it was written. -/
  written : Option String := none
  field : Option (List FieldAction) := none
  method : Option (List MethodAction) := none
  binding : Option (List SlotAction) := none

structure Script where
  startFailure : Option String := none
  endFailure : Option String := none
  field : Option (List FieldAction) := none
  method : Option (List MethodAction) := none
  binding : Option (List SlotAction) := none

/-- The platform of scenarios. A handler remembers how many times it was called. -/
abbrev platform : Platform where
  World := World
  Datum := Value
  typeOf := fun value => .named value.type
  Payload := Payload
  Memory := Nat

def markerType (name : String) : MarkerType platform where
  key := ⟨.ofName name⟩
  declaredHook := fun w =>
    if name = MarkerKey.inject.name then none else List.lookup name w.hooks

/-- The marker that chooses a constructor carries nothing. -/
def placed (name : String) (payload : Payload) : Marker platform :=
  ⟨markerType name, if name = MarkerKey.inject.name then {} else payload⟩

end Injector.Scenario

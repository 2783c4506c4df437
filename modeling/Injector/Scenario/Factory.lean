import Injector.Scenario.Script
import Injector.Service.Registration

/-!
# Factories of a scenario

They ask for services in turn, and then fail or make a value out of what they got.
-/

set_option autoImplicit false

namespace Injector.Scenario

structure Need where
  key : DependencyKey
  /-- The namespace of a service that need not be of the type of its key. Without one, the
  service is one of the application and has to be of that type. -/
  untypedIn : Option Party := none
  /-- A failure to find the service is kept in its place. -/
  lenient : Bool := false

structure Recipe where
  type : String
  content : Content := .nothing
  needs : List Need := []
  fail : Option (String × String) := none

abbrev Making :=
  ExceptT Error (StateT World (Dialog (ServiceCall platform) ServiceCall.Reply))

namespace Making

def request (party : Party) (key : DependencyKey) : Making Value := do
  let call : ServiceCall platform := ⟨party, key, ← get⟩
  let (result, w) ← (ExceptT.lift (StateT.lift (Dialog.say call)) :
    Making (Except Error Value × World))
  set w
  (result : Except Error Value)

def typed (key : DependencyKey) (value : Value) : Except Error Value :=
  if platform.hasType value key.type then .ok value
  else .error (.invocationFailed key.display s!"type mismatch: expected {key.type.name}")

def need (n : Need) : Making Value := do
  match n.untypedIn with
  | some party => request party n.key
  | none =>
    let value ← request .application n.key
    (typed n.key value : Except Error Value)

def collect (n : Need) : Making Ingredient :=
  if n.lenient then
    tryCatch (do return .value (some (← need n))) fun e => return .failure e
  else do return .value (some (← need n))

end Making

namespace Recipe

def product (r : Recipe) (ingredients : List Ingredient) : Making Value := do
  if isObjectType r.type then
    let (value, w) := (← get).make r.type ingredients
    set w
    return value
  else return .ofContent r.type r.content

def making (r : Recipe) : Making Value := do
  modify fun w => w.note (.making r.type)
  let ingredients ← r.needs.mapM Making.collect
  match r.fail with
  | some (target, text) => throw (.invocationFailed target text)
  | none => r.product ingredients

def factory (r : Recipe) : Factory platform := fun w => r.making.run w

end Recipe

end Injector.Scenario

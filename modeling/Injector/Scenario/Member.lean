import Injector.Scenario.Script

/-!
# The accessors behind the members of a scenario's classes

Code given as a short description, and fields that store what was last written.
-/

set_option autoImplicit false

namespace Injector.Scenario

/-- What an accessor does, the first that applies: check arguments, fail, return an argument,
return a value, make an object. -/
structure Body where
  expect : List (Nat × String) := []
  fail : Option (String × String) := none
  argument : Option Nat := none
  result : Option Literal := none
  make : Option String := none

def logCall (label : String) (args : List (Option Value)) : Effect platform Unit :=
  modify fun w => w.note (.called label args)

def makeObject (type : String) (args : List (Option Value)) :
    Effect platform (Option Value) := do
  let (value, w) := (← get).make type (args.map .value)
  set w
  return some value

def evaluate (literal : Literal) : Effect platform (Option Value) := do
  let (value, w) := literal.eval (← get)
  set w
  return value

def expectArgument (args : List (Option Value)) (e : Nat × String) : Effect platform Unit := do
  discard (requireArgument (P := platform) (.ofName e.2) args e.1 : Except Error Value)

def Body.accessor (b : Body) (label : String) (made : Option String) : Accessor platform :=
  fun args => Code.ofEffect do
    logCall label args
    b.expect.forM (expectArgument args)
    match b.fail, b.argument, b.result, b.make.or made with
    | some (target, text), _, _, _ => throw (.invocationFailed target text)
    | none, some index, _, _ => return (args[index]?).join
    | none, none, some literal, _ => evaluate literal
    | none, none, none, some type => makeObject type args
    | none, none, none, none => return none

def receiverSerial (label : String) (args : List (Option Value)) : Except Error Nat :=
  match args with
  | some (.object _ serial) :: _ => .ok serial
  | _ => .error (.invocationFailed label "receiver is not an object")

def storedGetter (label owner field : String) (isStatic : Bool) : Accessor platform :=
  fun args => Code.ofEffect do
    logCall label args
    let w ← get
    if isStatic then return w.readStatic owner field
    else return w.readField (← receiverSerial label args) field

def storedSetter (label owner field : String) (isStatic : Bool) : Accessor platform :=
  fun args => Code.ofEffect do
    logCall label args
    let w ← get
    if isStatic then set (w.writeStatic owner field (args[0]?).join)
    else set (w.writeField (← receiverSerial label args) field (args[1]?).join)
    return none

inductive FieldAccess where
  | stored
  | code (body : Body)

def constructor (owner type : String) (visibility : Visibility)
    (params : List (Parameter platform)) (markers : List (Marker platform)) (body : Body) :
    Constructor platform :=
  ⟨visibility, params, markers, body.accessor s!"{owner}.new" (some type)⟩

def getter (owner field : String) (isStatic : Bool) : FieldAccess → Accessor platform
  | .stored => storedGetter s!"{owner}.{field} get" owner field isStatic
  | .code body => body.accessor s!"{owner}.{field} get" none

def setter (owner field : String) (isStatic : Bool) : FieldAccess → Accessor platform
  | .stored => storedSetter s!"{owner}.{field} set" owner field isStatic
  | .code body => body.accessor s!"{owner}.{field} set" none

def methodAccessor (owner method : String) (body : Body) : Accessor platform :=
  body.accessor s!"{owner}.{method}" none

/-- The classes of a scenario by their ids, the last one first. -/
abbrev ClassTable := List (String × ClassDescriptor platform)

def ClassTable.find? (t : ClassTable) (id : String) : Option (ClassDescriptor platform) :=
  List.lookup id t

end Injector.Scenario

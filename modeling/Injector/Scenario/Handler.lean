import Injector.Class.Inspect
import Injector.Scan.Slot
import Injector.Scenario.Member

/-!
# Handlers that follow a script

Every callback is counted and logged; then the actions for it run in order, and the first that fails
ends the callback.
-/

set_option autoImplicit false

namespace Injector.Scenario

abbrev Talk (Q : Type) (R : Q → Type) := ExceptT Error (StateT World (Dialog Q R))

namespace Talk

variable {Q : Type} {R : Q → Type}

def note (entry : Entry) : Talk Q R Unit := modify fun w => w.note entry

def say (question : Q) : Talk Q R (R question) :=
  ExceptT.lift (StateT.lift (Dialog.say question))

def granted {α : Type} (reply : Except Error α) : Talk Q R α := liftExcept reply

def evaluate (literal : Literal) : Talk Q R (Option Value) := do
  let (value, w) := literal.eval (← get)
  set w
  return value

def outcome (talk : Talk Q R Unit) (memory : Nat) (w : World) : Dialog Q R (Outcome platform) := do
  let (result, w) ← talk.run w
  return (result, memory, w)

end Talk

def writtenOn (markers : List (Marker platform)) (name : String) : Option String :=
  (markers.find? (·.key == ⟨.ofName name⟩)).bind (·.payload.written)

def chosenScript {α : Type} (markers : List (Marker platform))
    (own : Payload → Option (List α)) (fallback : Option (List α)) : Option (List α) :=
  (markers.findSome? fun m => own m.payload).or fallback

namespace FieldAction

variable (m : FieldMatch platform)

abbrev FieldTalk := Talk FieldCall fun _ => Except Error OperationId

def run : FieldAction → FieldTalk Unit
  | .newGetter => do
    let id ← Talk.granted (← Talk.say .newGetter)
    Talk.note (.operationMade id)
  | .newSetter => do
    let id ← Talk.granted (← Talk.say .newSetter)
    Talk.note (.operationMade id)
  | .info =>
    Talk.note (.fieldInfo m.context.beanType.name m.context.extension.name m.field.type.name
      m.field.visibility.display m.field.isStatic)
  | .marker name => Talk.note (.marker (writtenOn m.markers name))
  | .fail text => throw (.extensionFailed m.context.extension text)
  | .attempt action => tryCatch (run action) fun e => Talk.note (.tried (sorted e))

def callback (tag : String) (count : Nat) (script : Option (List FieldAction)) :
    FieldTalk Unit := do
  Talk.note (.fieldMatched tag count m.owner.type.name m.field.name m.caps
    (m.markers.map (·.key.name)))
  match chosenScript m.markers (·.field) script with
  | some actions => actions.forM (run m)
  | none => throw m.unhandled

end FieldAction

namespace MethodAction

variable (m : MethodMatch platform)

abbrev MethodTalk := Talk MethodCall fun _ => Except Error OperationId

def run : MethodAction → MethodTalk Unit
  | .newOperation => do
    let id ← Talk.granted (← Talk.say .newOperation)
    Talk.note (.operationMade id)
  | .info =>
    Talk.note (.methodInfo m.context.beanType.name m.context.extension.name
      m.method.visibility.display m.method.isStatic m.method.isDefault)
  | .marker name => Talk.note (.marker (writtenOn m.markers name))
  | .fail text => throw (.extensionFailed m.context.extension text)
  | .attempt action => tryCatch (run action) fun e => Talk.note (.tried (sorted e))

def callback (tag : String) (count : Nat) (script : Option (List MethodAction)) :
    MethodTalk Unit := do
  Talk.note (.methodMatched tag count m.owner.type.name m.method.name
    (m.markers.map (·.key.name)))
  match chosenScript m.markers (·.method) script with
  | some actions => actions.forM (run m)
  | none => throw m.unhandled

end MethodAction

namespace SlotAction

variable (classes : ClassTable) (r : BindingRequest platform)

abbrev SlotTalk := Talk (SlotCall platform) SlotCall.Reply

def isBound : SlotTalk Bool := Talk.say (Q := SlotCall platform) .isBound

def bindPlainly (call : SlotCall platform) (h : call.Reply = Except Error Unit) :
    SlotTalk Unit := do
  let reply ← Talk.say call
  Talk.granted (cast h reply)

def bindNested (call : SlotCall platform) (h : call.Reply = Except Error OperationId) :
    SlotTalk Unit := do
  let reply ← Talk.say call
  let id ← Talk.granted (cast h reply)
  Talk.note (.nestedMade id)

def unknownClass (id : String) : Error := .invocationFailed id "no such class"

def classOf (id : String) : SlotTalk (ClassDescriptor platform) :=
  match classes.find? id with
  | some c => return c
  | none => throw (unknownClass id)

def methodOf (id : String) (index : Nat) :
    SlotTalk (ClassDescriptor platform × Method platform) := do
  let owner ← classOf classes id
  match owner.methods[index]? with
  | some method => return (owner, method)
  | none => throw (unknownClass id)

def serviceKey (type name : Option String) : DependencyKey :=
  ⟨(type.map TypeKey.ofName).getD r.parameter.type, name⟩

def run : SlotAction → SlotTalk Unit
  | .info => do
    Talk.note (.slotInfo r.parameter.type.name r.parameter.optional r.context.extension.name
      r.context.beanType.name r.operation.id (← isBound) r.inspect)
  | .null => bindPlainly .bindNull rfl
  | .value literal => do
    match ← Talk.evaluate literal with
    | some found => bindPlainly (.bindValue found) rfl
    | none => bindPlainly .bindNull rfl
  | .argument index => bindPlainly (.bindArgument index) rfl
  | .factory id index => do
    let (owner, method) ← methodOf classes id index
    bindNested (.bindFactory owner method) rfl
  | .construct id => do
    let owner ← classOf classes id
    bindNested (.bindConstructor owner) rfl
  | .service type name => bindPlainly (.bindService (serviceKey r type name)) rfl
  | .notRegistered requiredBy => throw (.notRegistered ⟨r.parameter.type, none⟩ requiredBy [])
  | .fail text => throw (.extensionFailed r.context.extension text)
  | .attempt action => tryCatch (run action) fun e => Talk.note (.tried (sorted e))

def callback (tag : String) (count : Nat) (script : Option (List SlotAction)) :
    SlotTalk Unit := do
  Talk.note (.bindingRequested tag count r.target r.index r.parameter.name
    (r.marker.map (·.key.name)))
  match chosenScript r.marker.toList (·.binding) script with
  | some actions => actions.forM (run classes r)
  | none => throw r.unhandled

end SlotAction

def startEntry (tag : String) (count : Nat) (context : ScanContext) : Entry :=
  .started tag count context.beanType.name context.extension.name
    (context.installer.extension?.map (·.name)) context.fullAccess

def failIf (extension : ExtensionKey) : Option String → Except Error Unit
  | none => .ok ()
  | some text => .error (.extensionFailed extension text)

def handler (classes : ClassTable) (tag : String) (script : Script) : Handler platform where
  memory := 0
  onStart := fun context calls w =>
    (failIf context.extension script.startFailure, calls + 1,
      w.note (startEntry tag (calls + 1) context))
  onEnd := fun context calls w =>
    (failIf context.extension script.endFailure, calls + 1,
      w.note (.ended tag (calls + 1) context.beanType.name))
  onField := fun m calls w =>
    (FieldAction.callback m tag (calls + 1) script.field).outcome (calls + 1) w
  onMethod := fun m calls w =>
    (MethodAction.callback m tag (calls + 1) script.method).outcome (calls + 1) w
  onBinding := fun r calls w =>
    (SlotAction.callback classes r tag (calls + 1) script.binding).outcome (calls + 1) w

abbrev ScriptTable := List (String × Script)

def scriptOf (scripts : ScriptTable) (name : String) : Script := (scripts.lookup name).getD {}

def extension (classes : ClassTable) (scripts : ScriptTable) (name origin : String) :
    Extension platform where
  name := name
  newHandler := fun w =>
    (handler classes name (scriptOf scripts name), w.note (.handlerMade name origin))

def extensionMaker (classes : ClassTable) (scripts : ScriptTable) : ExtensionMaker platform :=
  fun key w => (extension classes scripts key.name "default", w.note (.extensionMade key.name))

end Injector.Scenario

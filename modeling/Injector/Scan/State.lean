import Injector.Bean.Basic
import Injector.Extension
import Injector.Hook.Catalog
import Injector.Service.Directory

/-!
# The state of one scan

The bean as it grows, the operations that wait to be resolved, and the extensions that take part.
The transcript holds, in order, what handlers were shown and how they replied; the calls tell which
handlers these were.
-/

set_option autoImplicit false

namespace Injector

variable {P : Platform}

/-- A value that only statements speak about; a program that runs does not keep it. -/
structure Ghost (α : Type) where
  holds : α → Prop
  exists_holds : ∃ a, holds = (a = ·)

namespace Ghost

variable {α : Type}

def of (a : α) : Ghost α := ⟨(a = ·), a, rfl⟩

noncomputable def value (g : Ghost α) : α := g.exists_holds.choose

theorem value_of (a : α) : (of a).value = a :=
  (congrFun (of a).exists_holds.choose_spec a).mp rfl

end Ghost

structure Host (P : Platform) where
  limit : Nat
  directory : Directory
  make : ExtensionMaker P

structure Contributor (P : Platform) where
  key : ExtensionKey
  handler : Handler P
  context : ScanContext

/-- What the handler is told about the scan where `extension` is the key that led to it. Keys of one
extension may differ in their names. -/
def Contributor.contextFor (c : Contributor P) (extension : ExtensionKey) : ScanContext :=
  { c.context with extension }

inductive ScanEvent (P : Platform) where
  | started (context : ScanContext) (preset : Bool)
  | fieldMatched (shown : FieldMatch P)
  | methodMatched (shown : MethodMatch P)
  /-- The operation left the queue. -/
  | resolving (id : OperationId)
  | bindingRequested (shown : BindingRequest P)
  | ended (context : ScanContext)
  /-- The bean as it stands when a handler can look at it: before its first call and after
  each. -/
  | stood (bean : Ghost (Bean P))
  /-- How the callback before it ended. -/
  | replied (result : Except Error Unit)

structure Call (P : Platform) where
  contributor : Contributor P
  event : ScanEvent P
  bean : Ghost (Bean P)
  world : Ghost P.World
  result : Except Error Unit
  memory : P.Memory
  left : Ghost P.World

structure Scan (P : Platform) where
  world : P.World
  catalog : Catalog
  extensions : Extensions P
  bean : Bean P
  /-- Operations that wait, the oldest first. -/
  queue : List OperationId := []
  /-- How many more operations may be resolved. -/
  remaining : Nat
  /-- In the order in which they were activated. -/
  contributors : List (Contributor P) := []
  /-- A handler for the extension that installed the bean. -/
  preset : Option (Handler P)
  transcript : Array (ScanEvent P) := #[]
  /-- The callbacks made so far. -/
  calls : Array (Call P) := #[]

def Call.made (c : Contributor P) (event : ScanEvent P) (s : Scan P) (outcome : Outcome P) :
    Call P where
  contributor := c
  event := event
  bean := .of s.bean
  world := .of s.world
  result := outcome.1
  memory := outcome.2.1
  left := .of outcome.2.2

/-- A step of a scan. What it did before it failed stays done. -/
abbrev ScanM (P : Platform) := ExceptT Error (StateM (Scan P))

structure ScanFrame (P : Platform) where
  host : Host P
  model : HookModel
  beanType : TypeKey
  installer : Party

namespace Scan

def record (event : ScanEvent P) : ScanM P Unit :=
  modify fun s => { s with transcript := s.transcript.push event }

def observe : StateM (Scan P) Unit :=
  modify fun s => { s with transcript := s.transcript.push (.stood (.of s.bean)) }

def close (call : Call P) (world : P.World) : ScanM P Unit :=
  modify fun s => { s with world, calls := s.calls.push call }

def withCatalog {α : Type} (step : P.World → CatalogM α) : ScanM P α := do
  let s ← get
  let (result, catalog) := (step s.world).run.run s.catalog
  set { s with catalog }
  (result : Except Error α)

def hookOf (f : ScanFrame P) (marker : Marker P) : ScanM P (Option HookDescriptor) := do
  let found ← withCatalog fun w => Catalog.lookup w f.model marker.toMarkerType
  return found.map (·.value)

def nextId : ScanM P OperationId := return (← get).bean.operations.size

def append (op : Operation P) : ScanM P OperationId := do
  modify fun s => { s with bean := s.bean.append op, queue := s.queue ++ [op.id] }
  return op.id

def operationAt (f : ScanFrame P) (id : OperationId) : ScanM P (Operation P) := do
  match (← get).bean.operation? id with
  | some op => return op
  | none => throw (.unknownOperation f.beanType id)

def bindSlot (f : ScanFrame P) (id : OperationId) (index : Nat) (binding : Binding P) :
    ScanM P Unit := do
  let op ← operationAt f id
  let op ← (op.bind index binding : Except Error (Operation P))
  modify fun s =>
    { s with bean := { s.bean with operations := s.bean.operations.setIfInBounds id op } }

def bindingAt (id : OperationId) (index : Nat) : ScanM P (Option (Binding P)) := do
  return ((← get).bean.operation? id).bind (·.binding? index)

end Scan

end Injector

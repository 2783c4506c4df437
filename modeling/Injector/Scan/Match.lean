import Injector.Scan.Resolution
import Injector.Class.Hierarchy

/-!
# Matching members with extensions

The markers on a member are grouped by the extension they lead to, and each extension is shown its
own group once. A field with a single binding marker is not matched but injected.
-/

set_option autoImplicit false

namespace Injector

variable {P : Platform}

structure HookGroup (P : Platform) where
  extension : ExtensionKey
  caps : FieldCaps
  markers : List (Marker P)

namespace HookGroup

def ofHit (h : Hit P) : HookGroup P := ⟨h.hook.extension, h.hook.capabilities.fieldCaps, [h.marker]⟩

def add (g : HookGroup P) (h : Hit P) : HookGroup P :=
  { g with
    caps := g.caps.union h.hook.capabilities.fieldCaps
    markers := g.markers ++ [h.marker] }

/-- Groups keep the order in which their extensions were first met. -/
def insert (h : Hit P) : List (HookGroup P) → List (HookGroup P)
  | [] => [ofHit h]
  | g :: rest =>
    if g.extension == h.hook.extension then g.add h :: rest else g :: insert h rest

def ofHits (hits : List (Hit P)) : List (HookGroup P) :=
  hits.foldl (fun groups h => insert h groups) []

end HookGroup

inductive FieldClaim (P : Platform) where
  | unclaimed
  | conflict (member binding : Hit P)
  | duplicate (first second : Hit P)
  | injected (binding : Hit P)
  | matched (groups : List (HookGroup P))

/-- Method hooks do not claim fields. A single member marker makes a group by itself. -/
def FieldClaim.ofHits (hits : List (Hit P)) : FieldClaim P :=
  let bindings := hits.filter (·.hook.capabilities.binding)
  let members := hits.filter fun h => !h.hook.capabilities.binding && h.hook.capabilities.field
  match members, bindings with
  | [], [] => .unclaimed
  | [], [binding] => .injected binding
  | [], first :: second :: _ => .duplicate first second
  | member :: _, binding :: _ => .conflict member binding
  | [member], [] => .matched [HookGroup.ofHit member]
  | members, [] => .matched (HookGroup.ofHits members)

/-- Members that anyone may reach are open to every extension, others only with full access or
where the class is open to the extension's module. -/
def checkAccess (owner : ClassDescriptor P) (member : String) (visibility : Visibility)
    (context : ScanContext) : Except Error Unit :=
  if visibility == .anyone || context.fullAccess || owner.isOpenTo context.extension.module then
    .ok ()
  else .error (.inaccessible owner.type member context.extension)

namespace FieldMatch

def allows (m : FieldMatch P) : FieldCall → Bool
  | .newGetter => m.caps.gettable
  | .newSetter => m.caps.settable

def modeName : FieldCall → String
  | .newGetter => "get"
  | .newSetter => "set"

def build (m : FieldMatch P) (id : OperationId) : FieldCall → Except Error (Operation P)
  | .newGetter => Operation.ofGetter id m.owner m.field (.extension m.context.extension)
  | .newSetter => Operation.ofSetter id m.owner m.field (.extension m.context.extension)

end FieldMatch

namespace Scan

def hitsOf (f : ScanFrame P) : List (Marker P) → ScanM P (List (Hit P))
  | [] => return []
  | marker :: rest => do
    match ← hookOf f marker with
    | none => hitsOf f rest
    | some hook => return ⟨marker, hook⟩ :: (← hitsOf f rest)

def newFieldOperation (m : FieldMatch P) (call : FieldCall) : ScanM P OperationId := do
  if m.allows call then
    (checkAccess m.owner m.field.name m.field.visibility m.context : Except Error Unit)
    let op ← (m.build (← nextId) call : Except Error (Operation P))
    append op
  else
    throw (.accessNotPermitted m.context.extension m.owner.type m.field.name
      (FieldMatch.modeName call))

def newMethodOperation (m : MethodMatch P) : ScanM P OperationId := do
  (checkAccess m.owner m.method.name m.method.visibility m.context : Except Error Unit)
  let op ← (Operation.ofMethod (← nextId) m.owner m.method (.extension m.context.extension) :
    Except Error (Operation P))
  append op

def answerField (m : FieldMatch P) (call : FieldCall) :
    StateM (Scan P) (Except Error OperationId) := (newFieldOperation m call).run

def answerMethod (m : MethodMatch P) (_ : MethodCall) :
    StateM (Scan P) (Except Error OperationId) := (newMethodOperation m).run

def showField (f : ScanFrame P) (declared : DeclaredField P) (g : HookGroup P) :
    ScanM P Unit := do
  let contributor ← activate f g.extension
  let shown : FieldMatch P :=
    ⟨declared.owner, declared.field, g.markers, g.caps, contributor.contextFor g.extension⟩
  record (.fieldMatched shown)
  converse contributor (.fieldMatched shown) (contributor.handler.onField shown)
    (answerField shown)

def showMethod (f : ScanFrame P) (declared : DeclaredMethod P) (g : HookGroup P) :
    ScanM P Unit := do
  let contributor ← activate f g.extension
  let shown : MethodMatch P :=
    ⟨declared.owner, declared.method, g.markers, contributor.contextFor g.extension⟩
  record (.methodMatched shown)
  converse contributor (.methodMatched shown) (contributor.handler.onMethod shown)
    (answerMethod shown)

def inject (f : ScanFrame P) (declared : DeclaredField P) (extension : ExtensionKey) :
    ScanM P Unit := do
  let contributor ← activate f extension
  let field := declared.field
  (checkAccess declared.owner field.name field.visibility (contributor.contextFor extension) :
    Except Error Unit)
  let op ← (Operation.ofInjection (← nextId) declared.owner field (.extension extension) :
    Except Error (Operation P))
  discard (append op)

def matchField (f : ScanFrame P) (declared : DeclaredField P) : ScanM P Unit := do
  let owner := declared.owner.type
  match FieldClaim.ofHits (← hitsOf f declared.field.markers) with
  | .unclaimed => return
  | .conflict member binding =>
    throw (.conflictingFieldMarkers owner declared.field.name member.marker.key
      binding.marker.key)
  | .duplicate first second =>
    throw (.duplicateBindingHook s!"Field {owner.short}::{declared.field.name}"
      first.marker.key second.marker.key)
  | .injected binding => inject f declared binding.hook.extension
  | .matched groups => groups.forM (showField f declared)

/-- Neither binding hooks nor field hooks match methods. -/
def matchMethod (f : ScanFrame P) (declared : DeclaredMethod P) : ScanM P Unit := do
  let hits ← hitsOf f declared.method.markers
  let invoked := hits.filter fun h => !h.hook.capabilities.binding && h.hook.capabilities.invokable
  (HookGroup.ofHits invoked).forM (showMethod f declared)

end Scan

end Injector

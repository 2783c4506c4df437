import Injector.Hook.Descriptor
import Injector.Class.Basic

/-!
# The catalog of hooks of one container

A marker's own declaration is validated once and kept; the declarations of a class are merged, level
by level, with those of its superclasses. A marker maps to one extension with one set of
capabilities, and descriptors are shared, not copied.
-/

set_option autoImplicit false

namespace Injector

variable {P : Platform}

/-- A value made once and then shared. The serial tells it from equal values made elsewhere. -/
structure Shared (α : Type) where
  serial : Nat
  value : α

structure ModelLevel where
  type : TypeKey
  serial : Nat
  entries : List (Shared HookDescriptor)

namespace ModelLevel

def find? (l : ModelLevel) (marker : MarkerKey) : Option (Shared HookDescriptor) :=
  l.entries.find? (·.value.marker == marker)

end ModelLevel

abbrev HookModel := List ModelLevel

namespace HookModel

def find? (model : HookModel) (marker : MarkerKey) : Option (Shared HookDescriptor) :=
  model.findSome? (·.find? marker)

end HookModel

structure Catalog where
  /-- Own declarations already validated; a marker without a hook is kept too. -/
  own : List (MarkerKey × Option (Shared HookDescriptor)) := []
  typeHooks : List (TypeKey × ExtensionKey) := []
  models : List (TypeKey × HookModel) := []
  /-- How many shared values were made. -/
  minted : Nat := 0

/-- Failures keep what was learned before them. -/
abbrev CatalogM := ExceptT Error (StateM Catalog)

namespace Catalog

def typeHook? (c : Catalog) (type : TypeKey) : Option ExtensionKey :=
  (c.typeHooks.find? (·.1 == type)).map (·.2)

/-- One extension binds the parameters of a type; naming the same one again changes nothing. -/
def addTypeHook (c : Catalog) (type : TypeKey) (extension : ExtensionKey) :
    Except Error Catalog :=
  match c.typeHook? type with
  | none => .ok { c with typeHooks := c.typeHooks ++ [(type, extension)] }
  | some existing =>
    if existing == extension then .ok c
    else .error (.conflictingTypeHook type existing extension)

def mint : CatalogM Nat := do
  let c ← get
  set { c with minted := c.minted + 1 }
  return c.minted

def keepOwn (marker : MarkerKey) (found : Option (Shared HookDescriptor)) : CatalogM Unit :=
  modify fun c => { c with own := c.own ++ [(marker, found)] }

/-- The marker's own hook. A declaration that is refused is not kept, and read again next
time. -/
def declared (w : P.World) (marker : MarkerType P) :
    CatalogM (Option (Shared HookDescriptor)) := do
  let c ← get
  match c.own.find? (·.1 == marker.key) with
  | some known => return known.2
  | none =>
    match marker.declaredHook w with
    | none =>
      keepOwn marker.key none
      return none
    | some spec =>
      let descriptor ← (spec.validate marker.key : Except Error HookDescriptor)
      let serial ← mint
      keepOwn marker.key (some ⟨serial, descriptor⟩)
      return some ⟨serial, descriptor⟩

/-- What a declaration on a class has to agree with: an earlier one of the same class, else one
inherited, else the marker's own. -/
def visible (w : P.World) (above : HookModel) (entries : List (Shared HookDescriptor))
    (marker : MarkerType P) : CatalogM (Option (Shared HookDescriptor)) :=
  match entries.find? (·.value.marker == marker.key) with
  | some found => return some found
  | none =>
    match above.find? marker.key with
    | some found => return some found
    | none => declared w marker

def addDeclaration (w : P.World) (type : TypeKey) (above : HookModel)
    (entries : List (Shared HookDescriptor)) (declaration : MarkerType P × HookSpec) :
    CatalogM (List (Shared HookDescriptor)) := do
  let marker := declaration.1
  let descriptor ← (declaration.2.validate marker.key : Except Error HookDescriptor)
  match ← visible w above entries marker with
  | some existing =>
    if existing.value.agrees descriptor then return entries
    else throw (.conflictingHook marker.key (some type) existing.value.extension
      descriptor.extension)
  | none =>
    let serial ← mint
    return entries ++ [⟨serial, descriptor⟩]

def model? (c : Catalog) (type : TypeKey) : Option HookModel :=
  (c.models.find? (·.1 == type)).map (·.2)

/-- Keeps a model, unless there is one for the type; that one is kept then. -/
def keepModel (type : TypeKey) (model : HookModel) : CatalogM HookModel := do
  let c ← get
  match c.model? type with
  | some known => return known
  | none =>
    set { c with models := c.models ++ [(type, model)] }
    return model

/-- The model of a class whose superclass has the model `above`. A superclass of the same type
has taken its place already. -/
def addLevel (w : P.World) (body : ClassBody P) (above : HookModel) : CatalogM HookModel := do
  let entries ← body.declarations.foldlM (addDeclaration w body.type above) []
  let serial ← mint
  keepModel body.type (⟨body.type, serial, entries⟩ :: above)

mutual

def modelFor (w : P.World) : ClassDescriptor P → CatalogM HookModel
  | ⟨body, superclass, _⟩ => do
    match (← get).model? body.type with
    | some known => return known
    | none => addLevel w body (← modelAbove w superclass)

def modelAbove (w : P.World) : Option (ClassDescriptor P) → CatalogM HookModel
  | none => return []
  | some superclass => modelFor w superclass

end

def lookup (w : P.World) (model : HookModel) (marker : MarkerType P) :
    CatalogM (Option (Shared HookDescriptor)) :=
  match model.find? marker.key with
  | some found => return some found
  | none => declared w marker

end Catalog

end Injector

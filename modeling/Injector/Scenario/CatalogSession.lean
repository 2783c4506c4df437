import Injector.Hook.Catalog
import Injector.Scenario.Member

/-!
# Sessions with a catalog of hooks

Shared descriptors and models are numbered in the order in which answers first show them.
-/

set_option autoImplicit false

namespace Injector.Scenario

def fixedMarker (key : MarkerKey) (hook : Option HookSpec) : MarkerType platform :=
  ⟨key, fun _ => hook⟩

inductive CatalogStep where
  | addTypeHook (type : String) (extension : ExtensionKey)
  | typeHook (type : String)
  | setHook (marker : String) (hook : Option HookSpec)
  | declared (marker : MarkerType platform)
  | lookup (classId : String) (marker : MarkerType platform)
  | model (classId : String)

inductive CatalogReply where
  | nothing
  | name (name : Option String)
  | descriptor (found : Option (Nat × HookDescriptor))
  | model (number : Nat) (type : TypeKey) (parent : Option (Nat × TypeKey))

structure CatalogSession where
  classes : ClassTable
  world : World
  catalog : Catalog := {}
  /-- Serials in the order they were shown. -/
  descriptorsShown : List Nat := []
  modelsShown : List Nat := []

def numberOf (shown : List Nat) (serial : Nat) : Nat × List Nat :=
  match shown.idxOf? serial with
  | some number => (number, shown)
  | none => (shown.length, shown ++ [serial])

abbrev CatalogSessionM := ExceptT Error (StateM CatalogSession)

namespace CatalogSessionM

def onCatalog {α : Type} (step : World → CatalogM α) : CatalogSessionM α := do
  let s ← get
  let (result, catalog) := (step s.world).run.run s.catalog
  set { s with catalog }
  (result : Except Error α)

def modelOf (classId : String) : CatalogSessionM HookModel := do
  match (← get).classes.find? classId with
  | some c => onCatalog fun w => Catalog.modelFor w c
  | none => return []

def shownModel (level : ModelLevel) : CatalogSessionM Nat := do
  let s ← get
  let (number, modelsShown) := numberOf s.modelsShown level.serial
  set { s with modelsShown }
  return number

def shownDescriptor : Option (Shared HookDescriptor) → CatalogSessionM CatalogReply
  | none => return .descriptor none
  | some found => do
    let s ← get
    let (number, descriptorsShown) := numberOf s.descriptorsShown found.serial
    set { s with descriptorsShown }
    return .descriptor (some (number, found.value))

def model (classId : String) : CatalogSessionM CatalogReply := do
  match ← modelOf classId with
  | [] => return .nothing
  | [level] => return .model (← shownModel level) level.type none
  | level :: above :: _ =>
    let number ← shownModel level
    let parent ← shownModel above
    return .model number level.type (some (parent, above.type))

def take : CatalogStep → CatalogSessionM CatalogReply
  | .addTypeHook type extension => do
    let s ← get
    let catalog ← (s.catalog.addTypeHook (.ofName type) extension : Except Error Catalog)
    set { s with catalog }
    return .nothing
  | .typeHook type => do
    return .name (((← get).catalog.typeHook? (.ofName type)).map (·.name))
  | .setHook marker hook => do
    modify fun s => { s with world := s.world.setHook marker hook }
    return .nothing
  | .declared marker => do
    shownDescriptor (← onCatalog fun w => Catalog.declared w marker)
  | .lookup classId marker => do
    let model ← modelOf classId
    shownDescriptor (← onCatalog fun w => Catalog.lookup w model marker)
  | .model classId => model classId

end CatalogSessionM

def CatalogSession.steps (s : CatalogSession) :
    List CatalogStep → List (Except Error CatalogReply)
  | [] => []
  | step :: rest =>
    let (result, s) := (CatalogSessionM.take step).run.run s
    result :: s.steps rest

end Injector.Scenario

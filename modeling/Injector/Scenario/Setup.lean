import Injector.Container.Builder
import Injector.Scenario.Factory
import Injector.Scenario.Handler

/-!
# Setting up a scenario

Its classes and scripts, and the steps that build its container.
-/

set_option autoImplicit false

namespace Injector.Scenario

structure Setup where
  classes : ClassTable := []
  scripts : ScriptTable := []
  /-- The ids of the classes that are found without being named. -/
  discovered : List String := []

namespace Setup

def maker (s : Setup) : ExtensionMaker platform := extensionMaker s.classes s.scripts

def discoveredClasses (s : Setup) : List (ClassDescriptor platform) :=
  (s.discovered.filterMap s.classes.find?).mergeSort fun a b => decide (a.type.name ≤ b.type.name)

end Setup

/-- What a value is registered for besides its type. Only services of the application have names
here. -/
inductive Placement where
  | application
  | named (name : String)
  | extension (key : ExtensionKey)

def Placement.address (type : String) : Placement → Address
  | application => ⟨.application, ⟨.ofName type, none⟩⟩
  | named name => ⟨.application, ⟨.ofName type, some name⟩⟩
  | extension key => ⟨.extension key, ⟨.ofName type, none⟩⟩

inductive BuildStep where
  | allowOverride (allow : Bool)
  | maxDeferred (limit : Nat)
  | settings (settings : Settings)
  | value (type : String) (content : Content) (placement : Placement)
  | singleton (recipe : Recipe)
  | transient (recipe : Recipe)
  | installExtension (name : String)
  | typeHook (type : String) (extension : ExtensionKey)
  | bean (classId : String)
  | discovered

def addClass (s : Setup) (b : Builder platform) (id : String) : Builder platform :=
  match s.classes.find? id with
  | some c => b.bean c
  | none => b

def BuildStep.run (s : Setup) (b : Builder platform) (w : World) :
    BuildStep → Builder platform × World
  | allowOverride allow => (b.allowOverride allow, w)
  | maxDeferred limit => (b.maxDeferred limit, w)
  | settings given => (b.withSettings given, w)
  | .value type content placement =>
    let (made, w) := w.realize type content
    (b.register (placement.address type) (.value made), w)
  | singleton recipe =>
    (b.register (Placement.application.address recipe.type) (.singleton recipe.factory), w)
  | transient recipe =>
    (b.register (Placement.application.address recipe.type) (.transient recipe.factory), w)
  | installExtension name =>
    (b.installExtension (.ofName name) (extension s.classes s.scripts name "installed"), w)
  | typeHook type key => (b.typeHook (.ofName type) key, w)
  | bean id => (addClass s b id, w)
  | discovered => (s.discoveredClasses.foldl (fun b c => b.bean c) b, w)

def runBuild (s : Setup) (b : Builder platform) (w : World) :
    List BuildStep → Builder platform × World
  | [] => (b, w)
  | step :: rest =>
    let (b, w) := step.run s b w
    runBuild s b w rest

end Injector.Scenario

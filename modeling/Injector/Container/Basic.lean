import Injector.Scan.Basic
import Injector.Service.Resolution
import Injector.Service.Graph
import Injector.Settings
import Injector.Text.Record

/-!
# The container

Services, extensions and hooks against which beans are scanned, installed and invoked.
-/

set_option autoImplicit false

namespace Injector

variable {P : Platform}

structure Container (P : Platform) where
  settings : Settings
  services : Services P
  listing : Listing := .inOrder
  /-- Beans that become services once all are scanned. -/
  pending : List DependencyKey := []
  catalog : Catalog
  extensions : Extensions P
  make : ExtensionMaker P
  built : List (Address × P.Datum) := []
  inFlight : List Address := []
  journal : List (ServiceEvent P) := []

namespace Container

def directory (c : Container P) : Directory := c.services.directory c.listing c.pending

def resolver (c : Container P) : Resolver P := c.services.resolve c.listing

def host (c : Container P) : Host P := ⟨c.settings.maxDeferred, c.directory, c.make⟩

def lookup (c : Container P) (party : Party) (key : DependencyKey) (required : Bool) :
    Except Error (Binding P) := c.directory.lookup party key required

def inspect (c : Container P) : String :=
  Text.record "Container"
    [("registered", toString c.services.length), ("extensions", toString c.extensions.length)]

end Container

structure Deployment (P : Platform) where
  container : Container P
  world : P.World

abbrev DeploymentM (P : Platform) := ExceptT Error (StateM (Deployment P))

namespace Deployment

def live (d : Deployment P) : Live P :=
  ⟨d.world, d.container.built, d.container.inFlight, d.container.journal⟩

def absorb (d : Deployment P) (live : Live P) : Deployment P where
  world := live.world
  container :=
    { d.container with
      built := live.built
      inFlight := live.inFlight
      journal := live.journal }

def run {α : Type} (body : Run P α) : DeploymentM P α := fun d =>
  let (result, live) := body d.live
  (result, d.absorb live)

def resolve (party : Party) (key : DependencyKey) : DeploymentM P P.Datum := fun d =>
  run (d.container.resolver party key) d

def resolveTyped (party : Party) (key : DependencyKey) : DeploymentM P P.Datum := do
  let value ← resolve party key
  if P.hasType value key.type then return value
  else throw (.invocationFailed key.display s!"type mismatch: expected {key.type.name}")

def beginScan (d : Deployment P) (bean : Bean P) (preset : Option (Handler P)) : Scan P where
  world := d.world
  catalog := d.container.catalog
  extensions := d.container.extensions
  bean := bean
  remaining := d.container.settings.maxDeferred
  preset := preset

def endScan (d : Deployment P) (s : Scan P) : Deployment P where
  world := s.world
  container := { d.container with catalog := s.catalog, extensions := s.extensions }

/-- Scans a bean. After a failure the bean has the operations made so far. -/
def scan (bean : Bean P) (preset : Option (Handler P)) :
    StateM (Deployment P) (Except Error Unit × Bean P) := fun d =>
  let (result, s) := (Scan.scanBean d.container.host).run.run (d.beginScan bean preset)
  ((result, s.bean), d.endScan s)

def install (c : ClassDescriptor P) (source : Source P) (installer : Party)
    (preset : Option (Handler P)) : DeploymentM P (Bean P) := do
  let (result, bean) ← (scan ⟨c, source, installer, #[], false, none⟩ preset :
    StateM (Deployment P) (Except Error Unit × Bean P))
  (result : Except Error Unit)
  return bean

def obtainExtension (key : ExtensionKey) : DeploymentM P (Extension P) := do
  let d ← get
  let (extension, extensions, world) ←
    (d.container.make.obtain key d.container.extensions d.world :
      Except Error (Extension P × Extensions P × P.World))
  set { d with world, container := { d.container with extensions } }
  return extension

end Deployment

end Injector

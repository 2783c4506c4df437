import Injector.Container.Basic

/-!
# Building a container

Services, extensions, type hooks and beans are collected; then the beans are scanned, registered as
services of the application, and the graph of services is checked.
-/

set_option autoImplicit false

namespace Injector

variable {P : Platform}

structure Builder (P : Platform) where
  settings : Settings := {}
  services : Services P := []
  listing : Listing := .inOrder
  catalog : Catalog := {}
  extensions : Extensions P := []
  beans : List (ClassDescriptor P) := []
  /-- Registrations that were refused, the first one first. -/
  errors : List Error := []
  make : ExtensionMaker P

namespace Builder

def withSettings (b : Builder P) (settings : Settings) : Builder P := { b with settings }

def allowOverride (b : Builder P) (allow : Bool) : Builder P :=
  { b with settings := { b.settings with allowOverride := allow } }

def maxDeferred (b : Builder P) (limit : Nat) : Builder P :=
  { b with settings := { b.settings with maxDeferred := limit } }

def refuse (b : Builder P) (e : Error) : Builder P := { b with errors := b.errors ++ [e] }

/-- Whether a service may take the place of another is decided by the settings at this time. -/
def register (b : Builder P) (address : Address) (provider : Provider P) : Builder P :=
  match b.services.register ⟨address, provider, []⟩ b.settings.allowOverride with
  | .ok services => { b with services }
  | .error e => b.refuse e

def installExtension (b : Builder P) (type : TypeKey) (extension : Extension P) : Builder P :=
  { b with extensions := b.extensions.install ⟨type, false⟩ extension }

def typeHook (b : Builder P) (type : TypeKey) (extension : ExtensionKey) : Builder P :=
  match b.catalog.addTypeHook type extension with
  | .ok catalog => { b with catalog }
  | .error e => b.refuse e

def bean (b : Builder P) (c : ClassDescriptor P) : Builder P := { b with beans := b.beans ++ [c] }

def container (b : Builder P) : Container P where
  settings := b.settings
  services := b.services
  listing := b.listing
  catalog := b.catalog
  extensions := b.extensions
  make := b.make

def beanKey (c : ClassDescriptor P) : DependencyKey := ⟨c.type, none⟩

/-- Beans may need each other, so their keys count as known while they are scanned. -/
def pendingKeys (services : Services P) (allowOverride : Bool) :
    List DependencyKey → List (ClassDescriptor P) → Except Error (List DependencyKey)
  | pending, [] => .ok pending
  | pending, c :: rest =>
    let key := beanKey c
    if (services.contains ⟨.application, key⟩ && !allowOverride) || pending.contains key then
      .error (.alreadyRegistered key)
    else pendingKeys services allowOverride (pending ++ [key]) rest

def scanBeans : List (ClassDescriptor P) → DeploymentM P (List (Bean P))
  | [] => return []
  | c :: rest => do
    let bean ← Deployment.install c .construction .application none
    return bean :: (← scanBeans rest)

def setPending (pending : List DependencyKey) : DeploymentM P Unit :=
  modify fun d => { d with container := { d.container with pending } }

def beanRegistration (bean : Bean P) : Registration P where
  address := ⟨.application, beanKey bean.descriptor⟩
  provider := .bean bean
  dependencies := bean.serviceDependencies

def registerBean (bean : Bean P) : DeploymentM P Unit := do
  let d ← get
  let services ← (d.container.services.register (beanRegistration bean)
    d.container.settings.allowOverride : Except Error (Services P))
  set { d with container := { d.container with services } }

def applicationGraph (services : Services P) : Graph :=
  (services.filter (·.address.party == .application)).map fun r =>
    (r.address.key, r.dependencies)

def checkGraph : DeploymentM P Unit := do
  (applicationGraph (← get).container.services).check

def buildBeans (b : Builder P) : DeploymentM P Unit := do
  let pending ← (pendingKeys b.services b.settings.allowOverride [] b.beans :
    Except Error (List DependencyKey))
  setPending pending
  let beans ← scanBeans b.beans
  setPending []
  beans.forM registerBean
  checkGraph

def build (b : Builder P) (world : P.World) : Except Error (Container P) × P.World :=
  match b.errors with
  | e :: _ => (.error e, world)
  | [] =>
    let (result, d) := b.buildBeans.run.run ⟨b.container, world⟩
    (result.map fun _ => d.container, d.world)

end Builder

end Injector

import Injector.Scenario.Setup
import Injector.Scenario.Step

/-!
# Sessions

A container is built step by step, and then used step by step. Every step is answered with what it
came to and with what was logged since the step before.
-/

set_option autoImplicit false

namespace Injector.Scenario

structure Session where
  setup : Setup
  deployment : Deployment platform
  beans : List (String × Bean platform) := []

abbrev SessionM := ExceptT Answer (StateM Session)

namespace SessionM

def world : SessionM World := return (← get).deployment.world

def setWorld (world : World) : SessionM Unit :=
  modify fun s => { s with deployment := { s.deployment with world } }

def evaluate (literal : Literal) : SessionM (Option Value) := do
  let (value, w) := literal.eval (← world)
  setWorld w
  return value

def evaluateAll (literals : List Literal) : SessionM (List (Option Value)) := do
  let (values, w) := evalAll (← world) literals
  setWorld w
  return values

def attempt {α : Type} (step : DeploymentM platform α) : SessionM (Except Error α) := do
  let s ← get
  let (result, deployment) := step.run.run s.deployment
  set { s with deployment }
  return result

def granted {α : Type} : Except Error α → SessionM α
  | .ok value => return value
  | .error e => throw (.failed (sorted e))

def deploy {α : Type} (step : DeploymentM platform α) : SessionM α := do
  granted (← attempt step)

def beanNamed (name : String) : SessionM (Bean platform) := do
  match (← get).beans.lookup name with
  | some bean => return bean
  | none => throw .noBean

def putBean (name : String) (bean : Bean platform) : SessionM Unit :=
  modify fun s => { s with beans := World.assign s.beans name bean }

def operationOf (bean : Bean platform) (index : Nat) : SessionM (Operation platform) :=
  match bean.operation? index with
  | some op => return op
  | none => throw .noOperation

def classNamed (id : String) : SessionM (ClassDescriptor platform) := do
  match (← get).setup.classes.find? id with
  | some c => return c
  | none => throw .noBean

def form (value : Option Value) : SessionM Form := return .of (← world) value

def save (name : Option String) (value : Option Value) : SessionM Unit := do
  match name with
  | some name => setWorld ((← world).writeVariable name value)
  | none => return

def yielded (saved : Option String) (value : Option Value) : SessionM Reply := do
  save saved value
  return .form (← form value)

/-- The bean as it is shown. Showing it names its operations. -/
def shown (name : String) (bean : Bean platform) : SessionM Reply := do
  let bean := bean.operationNames.2
  putBean name bean
  return .bean bean

def sourceOf (i : Installation) : SessionM (Source platform) := do
  match i.source with
  | some literal =>
    match ← evaluate literal with
    | some value => return .instance value
    | none => return .absent
  | none => return if i.sourceless then .absent else .construction

def presetHandler (preset : Option Script) : SessionM (Option (Handler platform)) := do
  let classes := (← get).setup.classes
  return preset.map (handler classes "preset")

def install (i : Installation) : SessionM Reply := do
  let c ← classNamed i.classId
  let source ← sourceOf i
  let preset ← presetHandler i.preset
  let bean ← deploy (Deployment.install c source i.installer preset)
  shown i.name bean

def new (i : Installation) : SessionM Reply := do
  let c ← classNamed i.classId
  let bean : Bean platform := ⟨c, ← sourceOf i, i.installer, #[], false, none⟩
  putBean i.name bean
  return .text bean.inspect

def scan (name : String) (preset : Option Script) : SessionM Reply := do
  let bean ← beanNamed name
  let preset ← presetHandler preset
  let s ← get
  let ((result, bean), deployment) := Deployment.scan bean preset s.deployment
  set { s with deployment }
  putBean name bean
  granted result
  shown name bean

def names (name : String) : SessionM Reply := do
  let (names, bean) := (← beanNamed name).operationNames
  putBean name bean
  return .names names

def resolverOf (obstacle : Option Obstacle) : SessionM (Resolver platform) := do
  let container := (← get).deployment.container
  return match obstacle with
    | some o => o.resolver
    | none => container.resolver

def invoke (i : Invocation) : SessionM Reply := do
  let bean ← beanNamed i.bean
  let op ← operationOf (← beanNamed (i.owner.getD i.bean)) i.operation
  let args ← evaluateAll i.args
  let result ← deploy (Deployment.run (bean.invoke (← resolverOf i.obstacle) op.id args))
  yielded i.save result

def fitted (args : List (Option Value)) (length : Nat) : List (Option Value) :=
  args.take length ++ List.replicate (length - args.length) none

def invokeEach (bean : Bean platform) (args : List (Option Value)) :
    List (Operation platform) → SessionM (List (Except Error Form))
  | [] => return []
  | op :: rest => do
    let call := bean.invoke (← resolverOf none) op.id (fitted args op.contract.arguments.length)
    let result ← attempt (Deployment.run call)
    let w ← world
    let shown := (result.map (Form.of w)).mapError sorted
    return shown :: (← invokeEach bean args rest)

def invokeAll (name : String) (args : List Literal) : SessionM Reply := do
  let bean ← beanNamed name
  let args ← evaluateAll args
  return .forms (← invokeEach bean args bean.operations.toList)

def accessor (name : String) (operation : Nat) (args : List Literal) : SessionM Reply := do
  let op ← operationOf (← beanNamed name) operation
  let args ← evaluateAll args
  let result ← deploy (Deployment.run ((op.accessor.invoke args).run (← resolverOf none)))
  return .accessor op.accessor.inspect (← form result)

def instantiate (name : String) (obstacle : Option Obstacle) (saved : Option String) :
    SessionM Reply := do
  let bean ← beanNamed name
  let value ← deploy (Deployment.run (bean.instantiate (← resolverOf obstacle)))
  yielded saved (some value)

def resolve (address : Address) (saved : Option String) : SessionM Reply := do
  let value ← deploy (Deployment.resolveTyped address.party address.key)
  yielded saved (some value)

def resolveUntyped (address : Address) (saved : Option String) : SessionM Reply := do
  let value ← deploy (Deployment.resolve address.party address.key)
  yielded saved (some value)

def lookup (address : Address) (required : Bool) : SessionM Reply := do
  let container := (← get).deployment.container
  return .binding (← granted (container.lookup address.party address.key required))

def take : Step → SessionM Reply
  | .install i => install i
  | .new i => new i
  | .scan bean preset => scan bean preset
  | .dump bean => do shown bean (← beanNamed bean)
  | .names bean => names bean
  | .invoke i => invoke i
  | .invokeAll bean args => invokeAll bean args
  | .accessor bean operation args => accessor bean operation args
  | .instantiate bean obstacle saved => instantiate bean obstacle saved
  | .resolve address saved => resolve address saved
  | .resolveUntyped address saved => resolveUntyped address saved
  | .lookup address required => lookup address required
  | .setHook marker hook => do
    setWorld ((← world).setHook marker hook)
    return .nothing
  | .extension name => do
    let extensions := (← get).deployment.container.extensions
    return .name ((extensions.find? ⟨.ofName name, false⟩).map (·.name))
  | .activate key => do return .text (← deploy (Deployment.obtainExtension key)).name
  | .settings => do return .settings (← get).deployment.container.settings
  | .registeredClasses => do
    return .types ((← get).setup.discoveredClasses.map (·.type.name))
  | .showValue literal => do return .form (← form (← evaluate literal))

end SessionM

structure Response where
  answer : Answer
  log : List Entry
  installed : Option (List String)

def takeLog (s : Session) : List Entry × Session :=
  (s.deployment.world.log.toList,
    { s with deployment := { s.deployment with world := { s.deployment.world with log := #[] } } })

def Session.respond (s : Session) (answer : Answer) : Response × Session :=
  let (log, s) := takeLog s
  (⟨answer, log, some (s.deployment.container.extensions.keys.map (·.name))⟩, s)

def Session.step (s : Session) (step : Step) : Response × Session :=
  match (SessionM.take step).run.run s with
  | (.ok reply, s) => s.respond (.ok reply)
  | (.error answer, s) => s.respond answer

def Session.steps (s : Session) : List Step → List Response
  | [] => []
  | step :: rest =>
    let (response, s) := s.step step
    response :: s.steps rest

def runSession (setup : Setup) (w : World) (build : List BuildStep) (steps : List Step) :
    List Response :=
  let (builder, w) := runBuild setup { make := setup.maker } w build
  match builder.build w with
  | (.error e, w) => [⟨.failed (sorted e), w.log.toList, none⟩]
  | (.ok container, w) =>
    let s : Session := { setup, deployment := ⟨container, w⟩ }
    let (response, s) := s.respond (.ok (.text container.inspect))
    response :: s.steps steps

end Injector.Scenario

import Injector.Proofs.Container.Assembly
import Injector.Proofs.Scan.Outlook
import Injector.Proofs.Service.Namespace

/-!
# Namespaces do not leak into each other

What happens to the beans of an extension depends on the services of that extension alone: neither
a scan nor a call of an operation can tell containers apart that differ elsewhere. Where a service
is missing, others are suggested in the order in which the container lists them, and so that order
is all there is to tell.
-/

set_option autoImplicit false

namespace Injector

variable {P : Platform}

/-- Beans become services of the application, so a container that is built has nothing but values
for an extension if its builder was given nothing else. -/
theorem Builder.valuesIn_of_build {b : Builder P} {extension : ExtensionKey}
    (given : b.services.ValuesIn (.extension extension)) {world world' : P.World}
    {c : Container P} (built : b.build world = (.ok c, world')) :
    c.services.ValuesIn (.extension extension) := by
  apply of_build built
  rw [ends_buildBeans_iff]
  refine ⟨fun pending _ => ?_, fun _ _ => trivial⟩
  apply (ends_scanBeans_scanned b.beans _).imp
  rintro beans d ⟨-, -, persists⟩
  have scanned : d.container.services.ValuesIn (.extension extension) := by
    rw [persists.services]
    exact given
  have registered : Ends (beans.forM registerBean) ⟨{ d.container with pending := [] }, d.world⟩
      (fun _ d' => d'.container.services.ValuesIn (.extension extension)) fun _ _ => True := by
    apply ends_forM
    · exact scanned
    · intro bean _ d' values
      rw [ends_registerBean_iff]
      have elsewhere : ¬ ((beanRegistration bean).address.party == .extension extension) = true :=
        Bool.false_ne_true
      exact ⟨fun services registered =>
        Services.valuesIn_register values (fun here => absurd here elsewhere) registered,
        fun _ _ => trivial⟩
  exact registered.imp fun _ _ values => ⟨fun _ _ => values, fun _ _ => trivial⟩

namespace Bean

/-- A bean is bound to services of the namespace it was installed in. -/
theorem Fitting.within {b : Bean P} (fitting : b.Fitting) : b.Within b.installer := by
  intro id op ho key home required bound
  obtain ⟨slot, hs, hb⟩ := List.mem_map.mp bound
  exact (fitting.fits id op ho slot hs _ hb).1

end Bean

namespace Deployment

/-- The containers are set up alike, in the same world, and agree on the services of the extension,
none of which is just being resolved. What the application and other extensions have registered, and
what became of it so far, may be different. -/
structure Agrees (extension : ExtensionKey) (d d' : Deployment P) : Prop where
  world : d'.world = d.world
  settings : d'.container.settings = d.container.settings
  catalog : d'.container.catalog = d.container.catalog
  extensions : d'.container.extensions = d.container.extensions
  make : d'.container.make = d.container.make
  services : d.container.services.Share (.extension extension) d'.container.services
  values : d.container.services.ValuesIn (.extension extension)
  free : ∀ a ∈ d.container.inFlight, ¬ (a.party == .extension extension) = true
  free' : ∀ a ∈ d'.container.inFlight, ¬ (a.party == .extension extension) = true

structure Heedless (like : Error → Error → Prop) (d : Deployment P) (preset : Option (Handler P)) :
    Prop where
  preset : ∀ h, preset = some h → h.Heedless like
  installed : d.container.extensions.Heedless like
  made : d.container.make.Heedless like

def MissesAlike (like : Error → Error → Prop) (extension : ExtensionKey) (d d' : Deployment P) :
    Prop :=
  ∀ key, like (d.container.directory.notRegistered (.extension extension) key)
    (d'.container.directory.notRegistered (.extension extension) key)

def invokeAll (b : Bean P) : List (OperationId × List (Option P.Datum)) →
    StateM (Deployment P) (List (Except Error (Option P.Datum)))
  | [] => return []
  | (id, args) :: rest => do
    let d ← get
    let result ← (run (b.invoke d.container.resolver id args)).run
    let results ← invokeAll b rest
    return result :: results

section Scans

variable {extension : ExtensionKey} {d d' : Deployment P} {tolerance : Tolerance}

/-- The scans go the same way and leave the same behind. -/
theorem Agrees.scan (agrees : d.Agrees extension d')
    (missing : d.MissesAlike tolerance.like extension d') {preset : Option (Handler P)}
    (heedless : d.Heedless tolerance.like preset) {b : Bean P}
    (installer : b.installer = .extension extension) :
    Likewise tolerance.like (d.scan b preset).1.1 (d'.scan b preset).1.1 ∧
      (d'.scan b preset).1.2 = (d.scan b preset).1.2 ∧
        (d.scan b preset).2.Agrees extension (d'.scan b preset).2 := by
  have start : d'.beginScan b preset = d.beginScan b preset := by
    rw [beginScan, beginScan, agrees.world, agrees.catalog, agrees.extensions, agrees.settings]
  have alike : d.container.host.Alike tolerance.like (d.beginScan b preset).bean.installer
      d'.container.host := by
    rw [show (d.beginScan b preset).bean.installer = .extension extension from installer]
    exact
      { limit := congrArg Settings.maxDeferred agrees.settings
        make := agrees.make
        lookup := fun key required => agrees.services.lookup key required (missing key)
        heedless := heedless.made }
  have parallel : Scan.Parallel tolerance.like (d.beginScan b preset) (d.beginScan b preset) :=
    { same := ⟨#[], #[], rfl⟩
      preset := heedless.preset
      contributors := List.forall_mem_nil _
      extensions := heedless.installed }
  have together := Scan.together_scanBean_on tolerance alike parallel
  have result := together.likewise fun _ _ _ _ _ => rfl
  have parallel := together.states
  unfold Deployment.scan
  rw [start]
  dsimp only [ExceptT.run, StateT.run]
  generalize (Scan.scanBean d.container.host (d.beginScan b preset) :
    Except Error Unit × Scan P) = here at result parallel ⊢
  generalize (Scan.scanBean d'.container.host (d.beginScan b preset) :
    Except Error Unit × Scan P) = there at result parallel ⊢
  obtain ⟨x, t⟩ := here
  obtain ⟨x', t'⟩ := there
  obtain ⟨transcript, calls, rfl⟩ := parallel.same
  exact ⟨result, rfl, rfl, agrees.settings, rfl, rfl, agrees.make, agrees.services, agrees.values,
    agrees.free, agrees.free'⟩

theorem Agrees.beside (agrees : d.Agrees extension d') :
    d.live.Beside (.extension extension) d'.live := ⟨agrees.world, agrees.free, agrees.free'⟩

/-- What is matched comes to the same on containers that agree, and they still do. -/
theorem Agrees.run (agrees : d.Agrees extension d') {like : Error → Error → Prop} {α : Type}
    {step step' : Run P α} (matched : Run.Matched like (.extension extension) step step') :
    Likewise like (Deployment.run step d).1 (Deployment.run step' d').1 ∧
      Agrees extension (Deployment.run step d).2 (Deployment.run step' d').2 := by
  have together := matched _ _ agrees.beside
  have absorbed : ∀ l l', l.Beside (.extension extension) l' →
      Agrees extension (d.absorb l) (d'.absorb l') := fun l l' beside =>
    ⟨beside.world, agrees.settings, agrees.catalog, agrees.extensions, agrees.make,
      agrees.services, agrees.values, beside.free, beside.free'⟩
  refine ⟨together.likewise fun _ _ _ _ h => h.1.symm, absorbed _ _ ?_⟩
  exact (together.mono (fun _ _ _ _ h => h.2) fun _ _ h => h).states

theorem Agrees.invokeAll (agrees : d.Agrees extension d')
    (missing : d.MissesAlike tolerance.like extension d') {b : Bean P}
    (within : b.Within (.extension extension))
    (behaves : b.Behaves tolerance.like (.extension extension) d.container.resolver
      d'.container.resolver) (calls : List (OperationId × List (Option P.Datum))) :
    List.Forall₂ (Likewise tolerance.like) (Deployment.invokeAll b calls d).1
      (Deployment.invokeAll b calls d').1 := by
  induction calls generalizing d d' with
  | nil => exact .nil
  | cons call rest ih =>
    have resolves := matched_resolve agrees.services agrees.values missing
    obtain ⟨same, agrees'⟩ := agrees.run
      (Bean.matched_invokeWithin within resolves behaves (b.operations.size + 1) call.1 call.2)
    exact .cons same (ih agrees' missing behaves)

end Scans

end Deployment

end Injector

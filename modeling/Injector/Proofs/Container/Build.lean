import Injector.Container.Builder
import Injector.Proofs.Scan.Attempt
import Injector.Proofs.Service.Registration
import Injector.Proofs.Service.Resolution

/-!
# What a build leaves behind

A builder that was given values, extensions, type hooks and beans, but no factories, ends in a
container in which each service is a value or a bean that was scanned, with all that it needs, and
whose graph of services was checked.
-/

set_option autoImplicit false

namespace Injector

variable {P : Platform}

inductive Builder.Plain : Builder P → Prop
  | new (make : ExtensionMaker P) (listing : Listing) : Plain { make, listing }
  | withSettings {b : Builder P} (h : Plain b) (settings : Settings) :
      Plain (b.withSettings settings)
  | allowOverride {b : Builder P} (h : Plain b) (allow : Bool) : Plain (b.allowOverride allow)
  | maxDeferred {b : Builder P} (h : Plain b) (limit : Nat) : Plain (b.maxDeferred limit)
  | value {b : Builder P} (h : Plain b) (address : Address) (value : P.Datum) :
      Plain (b.register address (.value value))
  | installExtension {b : Builder P} (h : Plain b) (type : TypeKey) (extension : Extension P) :
      Plain (b.installExtension type extension)
  | typeHook {b : Builder P} (h : Plain b) (type : TypeKey) (extension : ExtensionKey) :
      Plain (b.typeHook type extension)
  | bean {b : Builder P} (h : Plain b) (c : ClassDescriptor P) : Plain (b.bean c)

namespace Services

variable {s registered : Services P} {r : Registration P}

theorem plain_register {allowOverride : Bool} (plain : ∀ other ∈ s, other.Plain)
    (new : r.Plain) (h : s.register r allowOverride = .ok registered) :
    ∀ other ∈ registered, other.Plain := by
  intro other ho
  rcases mem_register h ho with rfl | ho
  · exact new
  · exact plain other ho

end Services

namespace Builder

variable {b : Builder P}

theorem Plain.services (h : b.Plain) : ∀ r ∈ b.services, r.Plain := by
  induction h with
  | new make listing => exact fun _ hr => by cases hr
  | withSettings _ _ ih => exact ih
  | allowOverride _ _ ih => exact ih
  | maxDeferred _ _ ih => exact ih
  | value _ address value ih =>
    unfold register
    split
    next registered =>
      have new : (⟨address, .value value, []⟩ : Registration P).Plain := trivial
      exact Services.plain_register ih new registered
    next => exact ih
  | installExtension _ _ _ ih => exact ih
  | typeHook _ type extension ih =>
    unfold Builder.typeHook
    split
    next => exact ih
    next => exact ih
  | bean _ _ ih => exact ih

/-- The graph tells of each service of the application what it needs. -/
theorem needs?_applicationGraph (s : Services P) (key : DependencyKey) :
    (applicationGraph s).needs? key = (s.find? ⟨.application, key⟩).map (·.dependencies) := by
  rw [Graph.needs?, applicationGraph, List.find?_map, List.find?_filter, Option.map_map]
  simp only [Bool.decide_and, Bool.decide_eq_true]
  rfl

theorem length_applicationGraph (s : Services P) : (applicationGraph s).length ≤ s.length := by
  rw [applicationGraph, List.length_map]
  exact List.length_filter_le _ s

end Builder

structure Container.Ready (c : Container P) : Prop where
  plain : ∀ r ∈ c.services, r.Plain
  inFlight : c.inFlight = []

theorem Container.Ready.pending {c : Container P} (h : c.Ready) (pending : List DependencyKey) :
    Ready { c with pending } := ⟨h.plain, h.inFlight⟩

namespace Deployment

/-- A bean is kept only if it was scanned with success; whatever the scan did stays. -/
theorem ends_install_iff {d : Deployment P} {c : ClassDescriptor P} {source : Source P}
    {installer : Party} {preset : Option (Handler P)} {ok : Bean P → Deployment P → Prop}
    {failed : Error → Deployment P → Prop} :
    Ends (install c source installer preset) d ok failed ↔
      ((d.scan (.fresh c source installer) preset).1.1 = .ok ⟨⟩ →
        ok (d.scan (.fresh c source installer) preset).1.2
          (d.scan (.fresh c source installer) preset).2) ∧
        ∀ e, (d.scan (.fresh c source installer) preset).1.1 = .error e →
          failed e (d.scan (.fresh c source installer) preset).2 := by
  unfold install
  rw [ends_bind, ends_state, ends_bind, ends_except]
  exact and_congr_left fun _ => ⟨fun h => h ⟨⟩, fun h _ => h⟩

/-- A scan changes neither services nor what is in flight. -/
theorem ends_install {d : Deployment P} (ready : d.container.Ready) (c : ClassDescriptor P) :
    Ends (install c .construction .application none) d
      (fun bean d' => bean.Built ∧ d'.container.Ready) fun _ _ => True := by
  rw [ends_install_iff]
  refine ⟨fun scanned => ?_, fun _ _ => trivial⟩
  obtain ⟨grown, good⟩ := d.scanned_scan c .construction .application none scanned
  exact ⟨⟨⟨_, good⟩, grown.source, grown.installer⟩, ready.plain, ready.inFlight⟩

end Deployment

namespace Builder

variable {b : Builder P} {d : Deployment P}

theorem ends_scanBeans (classes : List (ClassDescriptor P)) (ready : d.container.Ready) :
    Ends (scanBeans classes) d
      (fun beans d' => (∀ bean ∈ beans, bean.Built) ∧ d'.container.Ready) fun _ _ => True := by
  induction classes generalizing d with
  | nil => exact ⟨List.forall_mem_nil _, ready⟩
  | cons c rest ih =>
    unfold scanBeans
    apply (Deployment.ends_install ready c).bind
    rintro bean d' ⟨built, ready'⟩
    apply (ih ready').bind
    rintro beans d'' ⟨all, ready''⟩
    exact ⟨List.forall_mem_cons.mpr ⟨built, all⟩, ready''⟩

theorem ends_registerBean_iff {bean : Bean P} {ok : Unit → Deployment P → Prop}
    {failed : Error → Deployment P → Prop} :
    Ends (registerBean bean) d ok failed ↔
      (∀ services, d.container.services.register (beanRegistration bean)
        d.container.settings.allowOverride = .ok services →
          ok ⟨⟩ ⟨{ d.container with services }, d.world⟩) ∧
      ∀ e, d.container.services.register (beanRegistration bean)
        d.container.settings.allowOverride = .error e → failed e d := by
  unfold registerBean
  rw [ends_bind, ends_get, ends_bind, ends_except]
  rfl

theorem ends_registerBean {bean : Bean P} (built : bean.Built) (ready : d.container.Ready) :
    Ends (registerBean bean) d (fun _ d' => d'.container.Ready) fun _ _ => True := by
  have new : (beanRegistration bean).Plain := ⟨built, rfl⟩
  rw [ends_registerBean_iff]
  refine ⟨fun services registered => ?_, fun _ _ => trivial⟩
  exact ⟨Services.plain_register ready.plain new registered, ready.inFlight⟩

/-- The stages of a build: the keys are accepted, the classes scanned while their keys are pending
and the beans registered, and then the graph is checked. -/
theorem ends_buildBeans_iff {ok : Unit → Deployment P → Prop}
    {failed : Error → Deployment P → Prop} :
    Ends b.buildBeans d ok failed ↔
      (∀ pending, pendingKeys b.services b.settings.allowOverride [] b.beans = .ok pending →
        Ends (scanBeans b.beans) ⟨{ d.container with pending }, d.world⟩
          (fun beans d => Ends (beans.forM registerBean)
            ⟨{ d.container with pending := [] }, d.world⟩
            (fun _ d => (∀ u, (applicationGraph d.container.services).check = .ok u → ok u d) ∧
              ∀ e, (applicationGraph d.container.services).check = .error e → failed e d)
            failed)
          failed) ∧
      ∀ e, pendingKeys b.services b.settings.allowOverride [] b.beans = .error e → failed e d := by
  have check : ∀ d : Deployment P, Ends checkGraph d ok failed ↔
      (∀ u, (applicationGraph d.container.services).check = .ok u → ok u d) ∧
        ∀ e, (applicationGraph d.container.services).check = .error e → failed e d := by
    intro d
    unfold checkGraph
    rw [ends_bind, ends_get, ends_except]
  unfold buildBeans setPending
  rw [ends_bind, ends_except]
  simp only [ends_bind, ends_modify, check]

theorem ends_buildBeans (plain : b.Plain) (world : P.World) :
    Ends b.buildBeans ⟨b.container, world⟩
      (fun _ d => d.container.Ready ∧ (applicationGraph d.container.services).check = .ok ⟨⟩)
      fun _ _ => True := by
  have start : b.container.Ready := ⟨plain.services, rfl⟩
  rw [ends_buildBeans_iff]
  refine ⟨fun pending _ => ?_, fun _ _ => trivial⟩
  apply (ends_scanBeans b.beans (start.pending pending)).imp
  rintro beans d ⟨built, ready⟩
  have registered : Ends (beans.forM registerBean)
      ⟨{ d.container with pending := [] }, d.world⟩ (fun _ d' => d'.container.Ready)
      fun _ _ => True :=
    ends_forM (ready.pending []) fun bean hb _ ready' => ends_registerBean (built bean hb) ready'
  apply registered.imp
  exact fun _ _ ready' => ⟨fun _ checked => ⟨ready', checked⟩, fun _ _ => trivial⟩

/-- A build that nothing was refused for ends as the work on the beans does. -/
theorem build_cases (accepted : b.errors = []) {world : P.World} {ok : Container P → Prop}
    {failed : Error → Prop} (ends : Ends b.buildBeans ⟨b.container, world⟩
      (fun _ d => ok d.container) fun e _ => failed e) :
    (∃ c, (b.build world).1 = .ok c ∧ ok c) ∨ ∃ e, (b.build world).1 = .error e ∧ failed e := by
  have result : (b.build world).1 =
      (b.buildBeans ⟨b.container, world⟩).1.map fun _ =>
        (b.buildBeans ⟨b.container, world⟩).2.container := by
    unfold build
    rw [accepted]
    rfl
  rw [result]
  rcases ends.cases with ⟨_, d, run, good⟩ | ⟨e, d, run, bad⟩
  · rw [run]
    exact .inl ⟨d.container, rfl, good⟩
  · rw [run]
    exact .inr ⟨e, rfl, bad⟩

/-- Where the work on the beans can end in one way alone, so does the build. -/
theorem build_of_ends (accepted : b.errors = []) {world : P.World} {d : Deployment P}
    (ends : Ends b.buildBeans ⟨b.container, world⟩ (fun _ d' => d' = d) fun _ _ => False) :
    b.build world = (.ok d.container, d.world) := by
  have whole : b.build world = ((b.buildBeans ⟨b.container, world⟩).1.map fun _ =>
      (b.buildBeans ⟨b.container, world⟩).2.container,
        (b.buildBeans ⟨b.container, world⟩).2.world) := by
    unfold build
    rw [accepted]
    rfl
  rcases ends.cases with ⟨_, _, run, rfl⟩ | ⟨_, _, _, never⟩
  · rw [whole, run]
    rfl
  · exact never.elim

theorem accepted_of_build {world : P.World} {c : Container P}
    (built : (b.build world).1 = .ok c) : b.errors = [] := by
  unfold build at built
  split at built
  next => cases built
  next accepted => exact accepted

/-- What the work on the beans comes to holds of the container. -/
theorem of_build {world world' : P.World} {c : Container P} {ok : Container P → Prop}
    (built : b.build world = (.ok c, world')) (ends : Ends b.buildBeans ⟨b.container, world⟩
      (fun _ d => ok d.container) fun _ _ => True) : ok c := by
  have result : (b.build world).1 = .ok c := by rw [built]
  rcases build_cases (accepted_of_build result) ends with ⟨c', success, good⟩ | ⟨e, failure, -⟩
  · cases result.symm.trans success
    exact good
  · cases result.symm.trans failure

theorem ready_of_build (plain : b.Plain) {world world' : P.World} {c : Container P}
    (built : b.build world = (.ok c, world')) :
    c.Ready ∧ (applicationGraph c.services).check = .ok ⟨⟩ := by
  apply of_build built
  exact ends_buildBeans plain world

end Builder

end Injector

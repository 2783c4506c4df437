import Injector.Proofs.Container.Build

/-!
# Resolving from a container that was built

The check of its graph is enough: whatever was resolved before, each service of the application can
be found, also where beans need each other through optional parameters.
-/

set_option autoImplicit false

namespace Injector

variable {P : Platform}

/-- A type check that fails comes after the service was resolved. -/
theorem Deployment.state_resolveTyped (party : Party) (key : DependencyKey) (d : Deployment P) :
    (resolveTyped party key d).2 = (resolve party key d).2 := by
  unfold resolveTyped
  rw [bind_apply]
  rcases (resolve party key d : Except Error P.Datum × Deployment P) with ⟨_ | value, d'⟩
  · rfl
  · by_cases typed : P.hasType value key.type = true
    · simp only [if_pos typed]
      rfl
    · simp only [if_neg typed]
      rfl

/-- The container after services were resolved in it, some of them in vain, one after the other,
while its world went on. -/
inductive Container.Served (c : Container P) : Deployment P → Prop
  | start (world : P.World) : Served c ⟨c, world⟩
  | resolve {d : Deployment P} (h : Served c d) (party : Party) (key : DependencyKey) :
      Served c (Deployment.resolve party key d).2
  | resolveTyped {d : Deployment P} (h : Served c d) (party : Party) (key : DependencyKey) :
      Served c (Deployment.resolveTyped party key d).2
  | wait {d : Deployment P} (h : Served c d) (world : P.World) : Served c { d with world }

namespace Container

variable {c : Container P} {d : Deployment P} {key : DependencyKey}

/-- A resolution ends with as many services in flight as before. -/
theorem Ready.inFlight_resolve (ready : c.Ready) (productive : ∀ r ∈ c.services, r.Productive)
    (services : d.container.services = c.services) (listing : d.container.listing = c.listing)
    (idle : d.container.inFlight = []) (party : Party) (key : DependencyKey) :
    (Deployment.resolve party key d).2.container.inFlight = [] := by
  have calm : Services.Calm c.resolver [] :=
    Services.calm_resolveWithin ready.plain productive (c.services.length + 1) []
  have ends := (calm party key d.live idle).imp_failed fun _ _ h => h.1
  show (d.container.resolver party key d.live).2.inFlight = []
  rw [Container.resolver, services, listing]
  exact Ends.state (fun l : Live P => l.inFlight = []) ends

theorem Served.kept (ready : c.Ready) (productive : ∀ r ∈ c.services, r.Productive)
    (h : c.Served d) : d.container.services = c.services ∧ d.container.listing = c.listing ∧
      d.container.inFlight = [] := by
  induction h with
  | start world => exact ⟨rfl, rfl, ready.inFlight⟩
  | resolve h party key ih =>
    obtain ⟨services, listing, idle⟩ := ih
    exact ⟨services, listing, ready.inFlight_resolve productive services listing idle party key⟩
  | resolveTyped h party key ih =>
    rw [Deployment.state_resolveTyped]
    obtain ⟨services, listing, idle⟩ := ih
    exact ⟨services, listing, ready.inFlight_resolve productive services listing idle party key⟩
  | wait h world ih => exact ih

/-- None of the services in flight is needed, as there are none. -/
theorem clear_nil (keys : List DependencyKey) : Services.Clear [] keys := by
  intro address ha
  cases ha

theorem resolves_of_check (ready : c.Ready) (productive : ∀ r ∈ c.services, r.Productive)
    (checked : (Builder.applicationGraph c.services).check = .ok ⟨⟩) (served : c.Served d)
    (registered : c.services.contains ⟨.application, key⟩ = true) :
    ∃ value, (Deployment.resolve .application key d).1 = .ok value := by
  obtain ⟨services, listing, idle⟩ := served.kept ready productive
  obtain ⟨safe, order, all⟩ := Graph.ordered_of_check checked
  have reads := Builder.needs?_applicationGraph c.services
  have known : safe.contains key = true := by
    obtain ⟨r, found⟩ := Option.isSome_iff_exists.mp registered
    have needs : (Builder.applicationGraph c.services).needs? key = some r.dependencies := by
      rw [reads, found, Option.map_some]
    obtain ⟨entry, he, hk, -⟩ := Graph.needs?_eq_some needs
    rw [← List.contains_congr hk]
    exact all entry he
  have enough : safe.length ≤ c.services.length + 1 :=
    calc safe.length ≤ (Builder.applicationGraph c.services).length := order.length_le
      _ ≤ c.services.length := Builder.length_applicationGraph c.services
      _ ≤ c.services.length + 1 := Nat.le_succ _
  have finds : ¬ Services.Fails c.resolver [] key :=
    Services.not_fails_of_ordered ready.plain productive reads order known enough (clear_nil safe)
  show ∃ value, (d.container.resolver .application key d.live).1 = .ok value
  rw [Container.resolver, services, listing]
  rcases ran : c.services.resolve c.listing .application key d.live with ⟨e | value, l⟩
  · exact absurd ⟨d.live, e, l, idle, ran⟩ finds
  · exact ⟨value, rfl⟩

end Container

/-- A build without factories that succeeds is a promise: as long as accessors return something,
every service of the application can be resolved, after whatever other resolutions. -/
theorem Builder.resolves_of_build {b : Builder P} (plain : b.Plain) {world world' : P.World}
    {c : Container P} (built : b.build world = (.ok c, world'))
    (productive : ∀ r ∈ c.services, r.Productive) {d : Deployment P} (served : c.Served d)
    {key : DependencyKey} (registered : c.services.contains ⟨.application, key⟩ = true) :
    ∃ value, (Deployment.resolve .application key d).1 = .ok value := by
  obtain ⟨ready, checked⟩ := ready_of_build plain built
  exact Container.resolves_of_check ready productive checked served registered

def ClassDescriptor.madeOf (type : TypeKey) (part : Parameter .bare) : ClassDescriptor .bare where
  type := type
  constructors :=
    [{ visibility := .anyone
       params := [part]
       markers := []
       accessor := fun _ => .done (.ok (some type.identity)) }]

def ClassDescriptor.hen : ClassDescriptor .bare :=
  madeOf ⟨.numbered 0, "Hen"⟩ { name := "nest", type := ⟨.numbered 1, "Nest"⟩ }

/-- The hen needs her nest, which can do without her. -/
def ClassDescriptor.nest : ClassDescriptor .bare :=
  madeOf ⟨.numbered 1, "Nest"⟩ { name := "hen", type := ⟨.numbered 0, "Hen"⟩, optional := true }

namespace Builder

def farm : Builder .bare :=
  (bean { make := Deployment.empty.container.make } .hen).bean .nest

def farmKeys : List DependencyKey := [beanKey .hen, beanKey .nest]

end Builder

def Deployment.farm (pending : List DependencyKey) (scanned : List (ClassDescriptor .bare)) :
    Deployment .bare where
  world := ()
  container :=
    { Builder.farm.container with
      pending
      catalog :=
        { models := scanned.zipIdx.map fun (c, serial) => (c.type, [⟨c.type, serial, []⟩])
          minted := scanned.length } }

def Bean.hen : Bean .bare :=
  ((Deployment.farm Builder.farmKeys []).scan (.fresh .hen .construction .application) none).1.2

def Bean.nest : Bean .bare :=
  ((Deployment.farm Builder.farmKeys [.hen]).scan (.fresh .nest .construction .application)
    none).1.2

theorem Bean.productive_of_operations {b : Bean P} {op : Operation P}
    (operations : b.operations = #[op])
    (returns : ∀ args w, (op.accessor.accessor args w).Gives
      fun ended => ∃ value, ended.1 = .ok (some value)) :
    b.Productive := by
  intro top htop id other under ho
  have hm : other ∈ b.operations := Array.mem_of_getElem? ho
  rw [operations, Array.mem_singleton] at hm
  rw [hm]
  exact returns

def Container.farm : Container .bare :=
  { (Deployment.farm [] [.hen, .nest]).container with
    services := [Builder.beanRegistration .hen, Builder.beanRegistration .nest] }

theorem Builder.check_farm : (applicationGraph Container.farm.services).check = .ok ⟨⟩ := by
  have graph : applicationGraph Container.farm.services =
      [(beanKey .hen, [beanKey .nest]), (beanKey .nest, [])] := rfl
  have sorted : farmKeys.Pairwise fun a b => Graph.before a b = true := List.pairwise_pair.mpr rfl
  have keys : Graph.keys [(beanKey .hen, [beanKey .nest]), (beanKey .nest, [])] = farmKeys :=
    List.mergeSort_of_pairwise sorted
  rw [graph, Graph.check, keys]
  rfl

theorem Builder.install_hen : Deployment.install .hen .construction .application none
    (.farm farmKeys []) = (.ok .hen, .farm farmKeys [.hen]) := rfl

theorem Builder.install_nest : Deployment.install .nest .construction .application none
    (.farm farmKeys [.hen]) = (.ok .nest, .farm farmKeys [.hen, .nest]) := rfl

theorem Builder.scanBeans_farm : scanBeans [.hen, .nest] (.farm farmKeys []) =
    (.ok [.hen, .nest], .farm farmKeys [.hen, .nest]) := by
  unfold scanBeans scanBeans
  rw [bind_apply, install_hen]
  dsimp only
  rw [bind_apply, bind_apply, install_nest]
  rfl

/-- Only the classes of beans matter when they are registered. -/
theorem Builder.registerBeans_farm {hen nest : Bean .bare} (hh : hen.descriptor = .hen)
    (hn : nest.descriptor = .nest) :
    [hen, nest].forM registerBean (.farm [] [.hen, .nest]) =
      (.ok ⟨⟩, ⟨{ (Deployment.farm [] [.hen, .nest]).container with
        services := [beanRegistration hen, beanRegistration nest] }, ()⟩) := by
  obtain ⟨⟩ := hen
  obtain ⟨⟩ := nest
  cases hh
  cases hn
  rfl

theorem Builder.build_farm : farm.build () = (.ok Container.farm, ()) := by
  have pending : pendingKeys farm.services farm.settings.allowOverride [] farm.beans =
      .ok farmKeys := rfl
  have registered : [Bean.hen, Bean.nest].forM registerBean (.farm [] [.hen, .nest]) =
      (.ok ⟨⟩, ⟨Container.farm, ()⟩) := registerBeans_farm rfl rfl
  refine build_of_ends (d := ⟨Container.farm, ()⟩) rfl ?_
  rw [ends_buildBeans_iff, pending]
  refine ⟨fun keys hk => ?_, fun e he => by cases he⟩
  cases hk
  show Ends (scanBeans [.hen, .nest]) (.farm farmKeys []) _ _
  rw [ends_of_ok scanBeans_farm]
  show Ends ([Bean.hen, Bean.nest].forM registerBean) (.farm [] [.hen, .nest]) _ _
  rw [ends_of_ok registered]
  refine ⟨fun _ _ => rfl, fun e he => ?_⟩
  rw [check_farm] at he
  cases he

theorem Builder.resolves_of_build_farm :
    farm.Plain ∧ farm.build () = (.ok Container.farm, ()) ∧
      (∀ r ∈ Container.farm.services, r.Productive) ∧
      Container.farm.Served
        (Deployment.resolve .application (beanKey .hen) ⟨Container.farm, ()⟩).2 ∧
      Container.farm.services.contains ⟨.application, beanKey .nest⟩ = true ∧
      ∃ value, (Deployment.resolve .application (beanKey .nest)
        (Deployment.resolve .application (beanKey .hen) ⟨Container.farm, ()⟩).2).1 = .ok value := by
  have plain : farm.Plain := ((Plain.new _ _).bean .hen).bean .nest
  have productive : ∀ r ∈ Container.farm.services, r.Productive := by
    rintro r hr b hb
    rcases List.mem_pair.mp hr with rfl | rfl
    · cases hb
      exact Bean.productive_of_operations rfl fun _ _ => ⟨_, rfl⟩
    · cases hb
      exact Bean.productive_of_operations rfl fun _ _ => ⟨_, rfl⟩
  have served := (Container.Served.start (c := .farm) ()).resolve .application (beanKey .hen)
  have registered : Container.farm.services.contains ⟨.application, beanKey .nest⟩ = true := rfl
  exact ⟨plain, build_farm, productive, served, registered,
    resolves_of_build plain build_farm productive served registered⟩

end Injector

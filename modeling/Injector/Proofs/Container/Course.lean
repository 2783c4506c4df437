import Injector.Proofs.Container.Assembly
import Injector.Proofs.Container.Resolve
import Injector.Proofs.Service.Depth
import Injector.Proofs.Service.Trace

/-!
# What is done with a container once it is built

Services are asked for, by the caller and by factories and beans that run, and some of them fail;
through all of this services in flight are entered and left in order, and a service that is made
once has one instance.
-/

set_option autoImplicit false

namespace Injector

variable {P : Platform}

/-- A container after whatever was done with it: services were resolved, client code and operations
of beans ran and asked for services, beans were scanned and extensions made. Any of this may have
failed, and the world goes on in between. -/
inductive Container.Course (c : Container P) : Deployment P → Prop
  | start (world : P.World) : Course c ⟨c, world⟩
  | wait {d : Deployment P} (h : Course c d) (world : P.World) : Course c { d with world }
  | resolve {d : Deployment P} (h : Course c d) (party : Party) (key : DependencyKey) :
      Course c (Deployment.resolve party key d).2
  | resolveTyped {d : Deployment P} (h : Course c d) (party : Party) (key : DependencyKey) :
      Course c (Deployment.resolveTyped party key d).2
  | ask {d : Deployment P} (h : Course c d) (client : Factory P) :
      Course c (Deployment.run (client.run c.resolver) d).2
  /-- The resolver that the caller gives is its own, and asks that of the container. -/
  | invoke {d : Deployment P} (h : Course c d) (resolver : Party → DependencyKey → Factory P)
      (bean : Bean P) (id : OperationId) (args : List (Option P.Datum)) :
      Course c (Deployment.run (bean.invoke
        (fun party key => (resolver party key).run c.resolver) id args) d).2
  | instantiate {d : Deployment P} (h : Course c d) (resolver : Party → DependencyKey → Factory P)
      (bean : Bean P) :
      Course c (Deployment.run (bean.instantiate
        fun party key => (resolver party key).run c.resolver) d).2
  | scan {d : Deployment P} (h : Course c d) (bean : Bean P) (preset : Option (Handler P)) :
      Course c (d.scan bean preset).2
  | obtainExtension {d : Deployment P} (h : Course c d) (key : ExtensionKey) :
      Course c (Deployment.obtainExtension key d).2

structure Container.Unused (c : Container P) : Prop where
  built : c.built = []
  inFlight : c.inFlight = []
  journal : c.journal = []

namespace Builder

variable {b : Builder P} {d : Deployment P}

theorem ends_scanBeans_unused (classes : List (ClassDescriptor P)) (h : d.container.Unused) :
    Ends (scanBeans classes) d (fun _ d' => d'.container.Unused) fun _ _ => True := by
  induction classes generalizing d with
  | nil => exact h
  | cons c rest ih =>
    have scanned : (d.scan (.fresh c .construction .application) none).2.container.Unused :=
      ⟨h.built, h.inFlight, h.journal⟩
    unfold scanBeans
    rw [ends_bind, Deployment.ends_install_iff]
    refine ⟨fun _ => ?_, fun _ _ => trivial⟩
    rw [ends_bind]
    exact (ih scanned).imp fun _ _ h' => h'

theorem ends_buildBeans_unused (b : Builder P) (world : P.World) :
    Ends b.buildBeans ⟨b.container, world⟩ (fun _ d => d.container.Unused) fun _ _ => True := by
  rw [ends_buildBeans_iff]
  refine ⟨fun pending _ => ?_, fun _ _ => trivial⟩
  apply (ends_scanBeans_unused b.beans ⟨rfl, rfl, rfl⟩).imp
  intro beans d h
  have registered : Ends (beans.forM registerBean) ⟨{ d.container with pending := [] }, d.world⟩
      (fun _ d' => d'.container.Unused) fun _ _ => True := by
    apply ends_forM ⟨h.built, h.inFlight, h.journal⟩
    intro bean _ d' h'
    rw [ends_registerBean_iff]
    exact ⟨fun _ _ => ⟨h'.built, h'.inFlight, h'.journal⟩, fun _ _ => trivial⟩
  apply registered.imp
  exact fun _ _ h' => ⟨fun _ _ => h', fun _ _ => trivial⟩

theorem unused_of_build {world world' : P.World} {c : Container P}
    (built : b.build world = (.ok c, world')) : c.Unused := by
  apply of_build built
  exact ends_buildBeans_unused b world

end Builder

namespace Container

variable {c : Container P} {d : Deployment P}

structure Goes (c : Container P) (d : Deployment P) : Prop where
  services : d.container.services = c.services
  listing : d.container.listing = c.listing
  proceeds : ∀ world, c.services.Proceeds (Deployment.live ⟨c, world⟩) d.live

/-- Catalog, extensions and world may change in any way. -/
theorem Goes.aside {d' : Deployment P} (h : c.Goes d)
    (services : d'.container.services = d.container.services)
    (listing : d'.container.listing = d.container.listing)
    (live : d'.live = { d.live with world := d'.world }) : c.Goes d' where
  services := services.trans h.services
  listing := listing.trans h.listing
  proceeds := by
    intro world
    rw [live]
    exact Services.Proceeds.worldly _ _ _ d'.world (h.proceeds world)

theorem goes_start (c : Container P) (world : P.World) : c.Goes ⟨c, world⟩ where
  services := rfl
  listing := rfl
  proceeds := fun start =>
    Services.Proceeds.worldly _ (Deployment.live ⟨c, start⟩) _ world (.refl _ _)

theorem Goes.obtainExtension (h : c.Goes d) (key : ExtensionKey) :
    c.Goes (Deployment.obtainExtension key d).2 := by
  apply Ends.state fun d' : Deployment P => c.Goes d'
  unfold Deployment.obtainExtension
  rw [ends_bind, ends_get, ends_bind, ends_except]
  exact ⟨fun _ _ => h.aside rfl rfl rfl, fun _ _ => h⟩

theorem Goes.idle (unused : c.Unused) (h : c.Goes d) : d.container.inFlight = [] :=
  (h.proceeds d.world).inFlight.trans unused.inFlight

/-- What runs leaves what it enters, so this is one more thing that happened. -/
theorem Goes.run {α : Type} {step : Run P α} (unused : c.Unused) (h : c.Goes d)
    (orderly : c.services.Orderly [] step) : c.Goes (Deployment.run step d).2 where
  services := h.services
  listing := h.listing
  proceeds := fun world => (h.proceeds world).trans (orderly d.live (h.idle unused))

/-- A resolver that asks the container leaves what it enters, as the container does. -/
theorem orderly_resolver (c : Container P) (resolver : Party → DependencyKey → Factory P)
    (party : Party) (key : DependencyKey) :
    c.services.Orderly [] ((resolver party key).run c.resolver) :=
  Services.orderly_run (Services.orderly_resolve c.services.proper_nil) (resolver party key)

theorem Goes.resolve_eq_run (h : c.Goes d) (party : Party) (key : DependencyKey) :
    Deployment.resolve party key d = Deployment.run (c.resolver party key) d := by
  rw [Container.resolver, ← h.services, ← h.listing]
  rfl

theorem Goes.resolve (unused : c.Unused) (h : c.Goes d) (party : Party) (key : DependencyKey) :
    c.Goes (Deployment.resolve party key d).2 := by
  rw [h.resolve_eq_run]
  exact h.run unused (Services.orderly_resolve c.services.proper_nil party key)

theorem Course.goes (unused : c.Unused) (h : c.Course d) : c.Goes d := by
  induction h with
  | start world => exact goes_start c world
  | wait h world ih => exact ih.aside rfl rfl rfl
  | resolve h party key ih => exact ih.resolve unused party key
  | resolveTyped h party key ih =>
    rw [Deployment.state_resolveTyped]
    exact ih.resolve unused party key
  | ask h client ih =>
    have resolves : ∀ party key, c.services.Orderly [] (c.resolver party key) :=
      Services.orderly_resolve c.services.proper_nil
    exact ih.run unused (Services.orderly_run resolves client)
  | invoke h resolver bean id args ih =>
    exact ih.run unused (Services.orderly_invoke (orderly_resolver _ resolver) bean id args)
  | instantiate h resolver bean ih =>
    exact ih.run unused (Services.orderly_instantiate (orderly_resolver _ resolver) bean)
  | scan h bean preset ih => exact ih.aside rfl rfl rfl
  | obtainExtension h key ih => exact ih.obtainExtension key

theorem Goes.nested (unused : c.Unused) (h : c.Goes d) :
    c.services.Nested [] d.container.journal := by
  obtain ⟨since, told, nested⟩ := (h.proceeds d.world).journal
  have start : (Deployment.live ⟨c, d.world⟩).journal = [] := unused.journal
  rw [start, List.nil_append] at told
  have idle : (Deployment.live ⟨c, d.world⟩).inFlight = [] := unused.inFlight
  rw [idle] at nested
  have same : d.container.journal = since := told
  rwa [same]

theorem Goes.story (unused : c.Unused) (h : c.Goes d) {a : Address} {r : Registration P}
    (found : c.services.find? a = some r) (once : r.IsOnce) :
    Story (d.live.built? a) (stages a d.container.journal) := by
  have free : (Deployment.live ⟨c, d.world⟩).isInFlight a = false := by
    show c.inFlight.any (· == a) = false
    rw [unused.inFlight]
    rfl
  apply (h.proceeds d.world).told a r found once free
  have unbuilt : (Deployment.live ⟨c, d.world⟩).built? a = none := by
    show (c.built.find? (·.1 == a)).map (·.2) = none
    rw [unused.built]
    rfl
  have untold : (Deployment.live ⟨c, d.world⟩).journal = [] := unused.journal
  rw [unbuilt, untold]
  exact .new

/-- Nothing stands in the way of a service that is registered when no service is in flight. -/
theorem Goes.resolve_eq (unused : c.Unused) (h : c.Goes d) {party : Party} {key : DependencyKey}
    {r : Registration P} (found : c.services.find? ⟨party, key⟩ = some r) :
    c.resolver party key d.live =
      ((Services.provide c.resolver r (d.live.enter ⟨party, key⟩)).1,
        (Services.provide c.resolver r (d.live.enter ⟨party, key⟩)).2.leave ⟨party, key⟩
          (Services.provide c.resolver r (d.live.enter ⟨party, key⟩)).1) := by
  have idle : d.live.inFlight = [] := h.idle unused
  have proper : c.services.Proper d.live.inFlight := by
    rw [idle]
    exact c.services.proper_nil
  have free : d.live.isInFlight ⟨party, key⟩ = false := by
    rw [Live.isInFlight, idle]
    rfl
  rw [Container.resolver, Services.resolve_eq_visit proper, Services.visit, found]
  exact Services.whileInFlight_of_free free

end Container

structure Deployment.MadeOnce (d : Deployment P) (a : Address) : Prop where
  /-- The instances made are the one that is kept, if there is one. -/
  made : (stages a d.container.journal).filterMap Stage.made? = (d.live.built? a).toList
  /-- Whoever got an instance got this one. -/
  shared : ∀ value, .left (.ok value) ∈ stages a d.container.journal →
    d.live.built? a = some value
  /-- No instance is begun while another is being made or after one was made, and as long as there
  is none each attempt begins one. -/
  coherent : Story.Coherent [] (stages a d.container.journal)
  again : ∀ value, d.live.built? a = some value → resolve a.party a.key d =
    (.ok value, d.absorb ((d.live.enter a).leave a (.ok value)))
  anew : d.live.built? a = none → ∃ home during, (home == a) = true ∧
    (resolve a.party a.key d).2.container.journal = d.container.journal ++
      .entered a :: .begun home :: (during ++ [.left a (resolve a.party a.key d).1])

namespace Container

variable {c : Container P} {d : Deployment P} {a : Address} {r : Registration P}

theorem Goes.again (unused : c.Unused) (h : c.Goes d) (found : c.services.find? a = some r)
    (once : r.IsOnce) {value : P.Datum} (known : d.live.built? a = some value) :
    Deployment.resolve a.party a.key d =
      (.ok value, d.absorb ((d.live.enter a).leave a (.ok value))) := by
  have here : (r.address == a) = true := Services.address_of_find? found
  obtain ⟨build, provides, -⟩ := c.services.provide_of_isOnce c.resolver once
  have known' : (d.live.enter a).built? r.address = some value :=
    (Live.built?_congr here d.live).trans known
  have runs : c.resolver a.party a.key d.live =
      (.ok value, (d.live.enter a).leave a (.ok value)) := by
    rw [h.resolve_eq unused found, provides, Services.once_of_built known']
  rw [h.resolve_eq_run, Deployment.run, runs]

theorem Goes.anew (unused : c.Unused) (h : c.Goes d) (found : c.services.find? a = some r)
    (once : r.IsOnce) (unbuilt : d.live.built? a = none) :
    ∃ home during, (home == a) = true ∧
      (Deployment.resolve a.party a.key d).2.container.journal = d.container.journal ++
        .entered a :: .begun home ::
          (during ++ [.left a (Deployment.resolve a.party a.key d).1]) := by
  have here : (r.address == a) = true := Services.address_of_find? found
  obtain ⟨build, provides, orderly⟩ := c.services.provide_of_isOnce c.resolver once
  have unbuilt' : (d.live.enter a).built? r.address = none :=
    (Live.built?_congr here d.live).trans unbuilt
  have inside : c.services.Proper ((d.live.enter a).note (.begun r.address)).inFlight := by
    show c.services.Proper (d.container.inFlight ++ [a])
    rw [h.idle unused]
    exact c.services.proper_nil.snoc (Services.contains_of_find? found) rfl
  obtain ⟨since, told, -⟩ := (orderly _ (Services.orderly_resolve inside) _ rfl).journal
  have runs := h.resolve_eq unused found
  rw [provides, Services.once_of_unbuilt unbuilt'] at runs
  obtain ⟨outcome, last⟩ :=
    Services.journal_attempted r.address (build ((d.live.enter a).note (.begun r.address)))
  rw [told] at last
  rw [h.resolve_eq_run, Deployment.run, runs]
  refine ⟨r.address, since ++ [outcome], here, ?_⟩
  show (Services.attempted r.address _).journal ++ [.left a _] = _
  rw [last]
  simp [Live.enter, Live.note, Deployment.live]

end Container

namespace Builder

/-- While a container is used, services are entered and left in order. No service is entered that
is in flight already, whatever fails and whoever takes a failure for a missing value; so services
in flight are never more than there are, and each resolution ends as it began. -/
theorem disciplined_of_build {b : Builder P} {world world' : P.World} {c : Container P}
    (built : b.build world = (.ok c, world')) :
    (∀ d, c.Course d → d.container.services = c.services ∧ d.container.inFlight = [] ∧
      c.services.Disciplined [] d.container.journal) ∧
    ∀ live : Live P, c.services.Proper live.inFlight → ∀ party key,
      c.services.Resolves c.listing live party key := by
  have unused := unused_of_build built
  refine ⟨fun d course => ?_, fun live proper => Services.resolves_of_proper proper⟩
  have goes := course.goes unused
  exact ⟨goes.services, goes.idle unused, (goes.nested unused).disciplined c.services.proper_nil⟩

/-- The container of the farm after a hen was asked for, which is made when her nest is, and the
nest asks for the hen that is being made. -/
theorem disciplined_of_build_farm :
    farm.build () = (.ok Container.farm, ()) ∧
      Container.farm.Course
        (Deployment.resolve .application (beanKey .hen) ⟨Container.farm, ()⟩).2 ∧
      Container.farm.services.Disciplined []
        (Deployment.resolve .application (beanKey .hen) ⟨Container.farm, ()⟩).2.container.journal ∧
      Container.farm.services.Proper [⟨.application, beanKey .nest⟩] ∧
      Container.farm.services.Resolves .inOrder ⟨(), [], [⟨.application, beanKey .nest⟩], []⟩
        .application (beanKey .nest) := by
  have course := (Container.Course.start (c := .farm) ()).resolve .application (beanKey .hen)
  have proper : Container.farm.services.Proper [⟨.application, beanKey .nest⟩] :=
    (Services.proper_nil _).snoc rfl rfl
  obtain ⟨orderly, resolves⟩ := disciplined_of_build build_farm
  exact ⟨build_farm, course, (orderly _ course).2.2, proper, resolves _ proper _ _⟩

/-- A singleton or a bean of a container has one instance, whatever is done with the container:
whoever asks for the service while the instance is made fails, and once it is made it is what
everyone gets. An attempt that failed leaves none, so that the next one begins another. -/
theorem madeOnce_of_build {b : Builder P} {world world' : P.World} {c : Container P}
    (built : b.build world = (.ok c, world')) {a : Address} {r : Registration P}
    (found : c.services.find? a = some r) (once : r.IsOnce) {d : Deployment P}
    (course : c.Course d) : d.MadeOnce a := by
  have unused := unused_of_build built
  have goes := course.goes unused
  have story := goes.story unused found once
  exact
    { made := story.filterMap_made?
      shared := fun _ left => story.kept_of_left left
      coherent := story.coherent
      again := fun _ known => goes.again unused found once known
      anew := fun unbuilt => goes.anew unused found once unbuilt }

theorem madeOnce_of_build_farm :
    farm.build () = (.ok Container.farm, ()) ∧
      Container.farm.services.find? ⟨.application, beanKey .hen⟩ = some (beanRegistration .hen) ∧
      (beanRegistration .hen).IsOnce ∧
      Container.farm.Course
        (Deployment.resolve .application (beanKey .nest) ⟨Container.farm, ()⟩).2 ∧
      (Deployment.resolve .application (beanKey .nest) ⟨Container.farm, ()⟩).2.MadeOnce
        ⟨.application, beanKey .hen⟩ := by
  have found : Container.farm.services.find? ⟨.application, beanKey .hen⟩ =
      some (beanRegistration .hen) := rfl
  have course := (Container.Course.start (c := .farm) ()).resolve .application (beanKey .nest)
  exact ⟨build_farm, found, trivial, course, madeOnce_of_build build_farm found trivial course⟩

end Builder

end Injector

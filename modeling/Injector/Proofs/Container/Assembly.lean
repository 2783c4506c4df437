import Injector.Proofs.Container.Build
import Injector.Proofs.Service.Order

/-!
# What becomes of a builder, whatever was registered with it

While beans are scanned the directory stays the same; then each of them is registered, so what
counted as known while they were scanned is found in the container. Later scans change neither
services nor settings.
-/

set_option autoImplicit false

namespace Injector

variable {P : Platform}

/-- A builder as callers can make it. Beans become providers only when they are scanned. -/
inductive Builder.Assembled : Builder P → Prop
  | new (make : ExtensionMaker P) (listing : Listing) : Assembled { make, listing }
  | withSettings {b : Builder P} (h : Assembled b) (settings : Settings) :
      Assembled (b.withSettings settings)
  | allowOverride {b : Builder P} (h : Assembled b) (allow : Bool) :
      Assembled (b.allowOverride allow)
  | maxDeferred {b : Builder P} (h : Assembled b) (limit : Nat) : Assembled (b.maxDeferred limit)
  | register {b : Builder P} (h : Assembled b) (address : Address) (provider : Provider P)
      (given : ∀ bean, provider ≠ .bean bean) : Assembled (b.register address provider)
  | installExtension {b : Builder P} (h : Assembled b) (type : TypeKey)
      (extension : Extension P) : Assembled (b.installExtension type extension)
  | typeHook {b : Builder P} (h : Assembled b) (type : TypeKey) (extension : ExtensionKey) :
      Assembled (b.typeHook type extension)
  | bean {b : Builder P} (h : Assembled b) (c : ClassDescriptor P) : Assembled (b.bean c)

structure Container.Persists (c later : Container P) : Prop where
  settings : later.settings = c.settings
  services : later.services = c.services
  listing : later.listing = c.listing
  pending : later.pending = c.pending
  make : later.make = c.make

namespace Container.Persists

variable {c later last : Container P}

theorem refl (c : Container P) : c.Persists c := ⟨rfl, rfl, rfl, rfl, rfl⟩

theorem trans (h : c.Persists later) (k : later.Persists last) : c.Persists last :=
  ⟨k.settings.trans h.settings, k.services.trans h.services, k.listing.trans h.listing,
    k.pending.trans h.pending, k.make.trans h.make⟩

theorem directory (h : c.Persists later) : later.directory = c.directory := by
  rw [Container.directory, Container.directory, h.services, h.listing, h.pending]

end Container.Persists

theorem Deployment.persists_scan (d : Deployment P) (bean : Bean P) (preset : Option (Handler P)) :
    d.container.Persists (d.scan bean preset).2.container := ⟨rfl, rfl, rfl, rfl, rfl⟩

/-- What a container becomes: beans are scanned on it, with success or not, extensions are asked
for, and services and operations run. -/
inductive Container.History (c : Container P) (admits : Bean P → Option (Handler P) → Prop)
    (asks : ExtensionKey → Prop) : Deployment P → Prop
  | start (world : P.World) : History c admits asks ⟨c, world⟩
  | scan {d : Deployment P} (h : History c admits asks d) {bean : Bean P}
      {preset : Option (Handler P)} (admitted : admits bean preset) :
      History c admits asks (d.scan bean preset).2
  | obtainExtension {d : Deployment P} (h : History c admits asks d) {key : ExtensionKey}
      (asked : asks key) : History c admits asks (Deployment.obtainExtension key d).2
  | run {d : Deployment P} (h : History c admits asks d) (live : Live P) :
      History c admits asks (d.absorb live)

theorem Deployment.persists_obtainExtension (d : Deployment P) (key : ExtensionKey) :
    d.container.Persists (obtainExtension key d).2.container := by
  apply Ends.state fun d' : Deployment P => d.container.Persists d'.container
  unfold obtainExtension
  rw [ends_bind, ends_get, ends_bind, ends_except]
  exact ⟨fun _ _ => ⟨rfl, rfl, rfl, rfl, rfl⟩, fun _ _ => .refl _⟩

theorem Container.History.persists {c : Container P} {admits : Bean P → Option (Handler P) → Prop}
    {asks : ExtensionKey → Prop} {d : Deployment P} (h : c.History admits asks d) :
    c.Persists d.container := by
  induction h with
  | start world => exact .refl c
  | scan h admitted ih => exact ih.trans (Deployment.persists_scan _ _ _)
  | obtainExtension h asked ih => exact ih.trans (Deployment.persists_obtainExtension _ _)
  | run h live ih => exact ih.trans ⟨rfl, rfl, rfl, rfl, rfl⟩

theorem Deployment.ends_install_scanned (d : Deployment P) (c : ClassDescriptor P) :
    Ends (install c .construction .application none) d
      (fun bean d' => bean.descriptor = c ∧ bean.Scanned d.container.directory ∧
        d.container.Persists d'.container)
      fun _ d' => d.container.Persists d'.container := by
  have persists := d.persists_scan (.fresh c .construction .application) none
  rw [ends_install_iff]
  refine ⟨fun scanned => ?_, fun _ _ => persists⟩
  obtain ⟨grown, good⟩ := d.scanned_scan c .construction .application none scanned
  exact ⟨grown.descriptor, good, persists⟩

/-- With nothing pending, the service that an operation cannot do without is registered. -/
theorem Bean.Scanned.contains_of_bound {s : Services P} {listing : Listing} {bean : Bean P}
    (scanned : bean.Scanned (s.directory listing [])) {id : OperationId} {op : Operation P}
    {index : Nat} {key : DependencyKey} {party : Party} (found : bean.operation? id = some op)
    (bound : op.binding? index = some (.service key party true)) :
    s.contains ⟨party, key⟩ = true := by
  have known := scanned.supplied id op found index _ bound
  rwa [Binding.Known, Services.contains_directory, Directory.isPending, Services.directory,
    List.any_nil, Bool.and_false, Bool.or_false] at known

namespace Builder

variable {b : Builder P} {d : Deployment P}

/-- What holds of no services and is kept by each registration of a value or a factory. -/
theorem Assembled.services_induction {motive : Services P → Prop} (nil : motive [])
    (register : ∀ {s registered : Services P} {address : Address} {provider : Provider P}
      {allowOverride : Bool}, motive s → (∀ bean, provider ≠ .bean bean) →
      s.register ⟨address, provider, []⟩ allowOverride = .ok registered → motive registered)
    (h : b.Assembled) : motive b.services := by
  induction h with
  | new make listing => exact nil
  | withSettings _ _ ih => exact ih
  | allowOverride _ _ ih => exact ih
  | maxDeferred _ _ ih => exact ih
  | register _ address provider given ih =>
    unfold Builder.register
    split
    next registered => exact register ih given registered
    next => exact ih
  | installExtension _ _ _ ih => exact ih
  | typeHook _ _ _ ih =>
    unfold Builder.typeHook
    split
    next => exact ih
    next => exact ih
  | bean _ _ ih => exact ih

/-- Services that the builder was given are no beans, and declare no needs. -/
theorem Assembled.given (h : b.Assembled) :
    ∀ r ∈ b.services, (∀ bean, r.provider ≠ .bean bean) ∧ r.dependencies = [] := by
  refine h.services_induction (motive := fun s => ∀ r ∈ s,
    (∀ bean, r.provider ≠ .bean bean) ∧ r.dependencies = []) (List.forall_mem_nil _) ?_
  intro s registered address provider allowOverride ih given done r hr
  rcases Services.mem_register done hr with rfl | hr
  · exact ⟨given, rfl⟩
  · exact ih r hr

theorem Assembled.services (h : b.Assembled) :
    ∀ r ∈ b.services, ∀ bean, r.provider ≠ .bean bean := fun r hr => (h.given r hr).1

theorem pendingKeys_eq {services : Services P} {allow : Bool} {classes : List (ClassDescriptor P)}
    {pending keys : List DependencyKey}
    (h : pendingKeys services allow pending classes = .ok keys) :
    keys = pending ++ classes.map beanKey := by
  induction classes generalizing pending with
  | nil =>
    cases h
    simp
  | cons c rest ih =>
    unfold pendingKeys at h
    dsimp only at h
    split at h
    next => cases h
    next =>
      rw [ih h]
      simp

theorem ends_scanBeans_scanned (classes : List (ClassDescriptor P)) (d : Deployment P) :
    Ends (scanBeans classes) d
      (fun beans d' => beans.map (·.descriptor) = classes ∧
        (∀ bean ∈ beans, bean.Scanned d.container.directory) ∧ d.container.Persists d'.container)
      fun _ _ => True := by
  induction classes generalizing d with
  | nil => exact ⟨rfl, List.forall_mem_nil _, .refl _⟩
  | cons c rest ih =>
    unfold scanBeans
    apply ((d.ends_install_scanned c).imp_failed fun _ _ _ => trivial).bind
    rintro bean d' ⟨rfl, scanned, persists⟩
    apply (ih d').bind
    rintro beans d'' ⟨rfl, all, persists'⟩
    rw [persists.directory] at all
    exact ⟨rfl, List.forall_mem_cons.mpr ⟨scanned, all⟩, persists.trans persists'⟩

structure Registered (beans : List (Bean P)) (s later : Services P) : Prop where
  mem : ∀ r ∈ later, r ∈ s ∨ ∃ bean ∈ beans, r = beanRegistration bean
  contains : ∀ a, later.contains a = true ↔
    s.contains a = true ∨ ∃ bean ∈ beans, ((beanRegistration bean).address == a) = true

theorem registered_of_registerAll {s later : Services P} {allowOverride : Bool}
    {beans : List (Bean P)}
    (h : s.registerAll allowOverride (beans.map beanRegistration) = .ok later) :
    Registered beans s later := by
  induction beans generalizing s with
  | nil =>
    cases h
    exact ⟨fun r hr => .inl hr, fun a => by simp⟩
  | cons bean rest ih =>
    rw [List.map_cons, Services.registerAll_cons] at h
    cases first : s.register (beanRegistration bean) allowOverride with
    | error e =>
      rw [first] at h
      cases h
    | ok next =>
      rw [first] at h
      have others := ih h
      refine ⟨?_, ?_⟩
      · intro r hr
        rcases others.mem r hr with hr | ⟨other, ho, rfl⟩
        · rcases Services.mem_register first hr with rfl | hr
          · exact .inr ⟨bean, List.mem_cons_self, rfl⟩
          · exact .inl hr
        · exact .inr ⟨other, List.mem_cons_of_mem bean ho, rfl⟩
      · intro a
        rw [others.contains a, Services.contains_of_register first, Bool.or_eq_true]
        simp only [List.mem_cons, exists_eq_or_imp]
        tauto

/-- Beans are registered one after the other. -/
theorem ends_registerBeans (beans : List (Bean P)) (d : Deployment P) :
    Ends (beans.forM registerBean) d
      (fun _ d' => d.container.services.registerAll d.container.settings.allowOverride
        (beans.map beanRegistration) = .ok d'.container.services ∧
          d'.container.pending = d.container.pending)
      fun e _ => d.container.services.registerAll d.container.settings.allowOverride
        (beans.map beanRegistration) = .error e := by
  induction beans generalizing d with
  | nil => exact ⟨rfl, rfl⟩
  | cons bean rest ih =>
    show Ends (registerBean bean >>= fun _ => rest.forM registerBean) d _ _
    rw [ends_bind, ends_registerBean_iff, List.map_cons, Services.registerAll_cons]
    constructor
    · intro services registered
      rw [registered]
      exact ih ⟨{ d.container with services }, d.world⟩
    · intro e refused
      rw [refused]
      rfl

/-- Whatever was known while beans were scanned is registered in the end. -/
theorem Registered.supplies {beans : List (Bean P)} {s later : Services P}
    {listing listing' : Listing} (h : Registered beans s later) {bean : Bean P}
    (scanned : bean.Scanned
      (s.directory listing (beans.map fun bean => beanKey bean.descriptor))) :
    bean.Scanned (later.directory listing' []) := by
  apply scanned.of_known
  intro party key known
  rw [Services.contains_directory, Bool.or_eq_true] at known ⊢
  rw [h.contains]
  rcases known with known | pending
  · exact .inl (.inl known)
  · rw [Directory.isPending, Bool.and_eq_true, List.any_eq_true] at pending
    obtain ⟨application, other, listed, same⟩ := pending
    obtain ⟨maker, hm, rfl⟩ := List.mem_map.mp listed
    exact .inl (.inr ⟨maker, hm, Address.beq_iff.mpr ⟨BEq.symm application, same⟩⟩)

theorem ends_buildBeans_scanned (assembled : b.Assembled) (world : P.World) :
    Ends b.buildBeans ⟨b.container, world⟩
      (fun _ d => (∀ r ∈ d.container.services, ∀ bean, r.provider = .bean bean →
        bean.Scanned (d.container.services.directory d.container.listing [])) ∧
          d.container.pending = [])
      fun _ _ => True := by
  rw [ends_buildBeans_iff]
  refine ⟨fun pending hpending => ?_, fun _ _ => trivial⟩
  apply (ends_scanBeans_scanned b.beans _).imp
  rintro beans d ⟨classes, scanned, persists⟩
  have keys : pending = beans.map fun bean => beanKey bean.descriptor := by
    rw [pendingKeys_eq hpending, ← classes, List.map_map]
    rfl
  have services : d.container.services = b.services := persists.services
  apply (ends_registerBeans beans _).mono
  swap
  · exact fun _ _ _ => trivial
  rintro _ d' ⟨all, pending'⟩
  have registered := registered_of_registerAll all
  refine ⟨fun _ _ => ⟨?_, pending'⟩, fun _ _ => trivial⟩
  intro r hr bean provider
  rcases registered.mem r hr with hr | ⟨other, ho, rfl⟩
  · exact absurd provider (assembled.services r (services ▸ hr) bean)
  · obtain rfl : other = bean := Provider.bean.inj provider
    apply registered.supplies
    rw [services, ← keys]
    exact scanned other ho

/-- The beans of a container are scanned, with what it holds for directory. -/
theorem scanned_of_build (assembled : b.Assembled) {world world' : P.World} {c : Container P}
    (built : b.build world = (.ok c, world')) :
    (∀ r ∈ c.services, ∀ bean, r.provider = .bean bean → bean.Scanned c.directory) ∧
      c.pending = [] := by
  have ended : (∀ r ∈ c.services, ∀ bean, r.provider = .bean bean →
      bean.Scanned (c.services.directory c.listing [])) ∧ c.pending = [] := by
    apply of_build built
    exact ends_buildBeans_scanned assembled world
  rw [Container.directory, ended.2]
  exact ⟨ended.1, rfl⟩

end Builder

end Injector

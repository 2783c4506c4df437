import Injector.Proofs.Bean.Dependencies
import Injector.Proofs.Container.Repeat
import Injector.Proofs.Container.Resolve
import Injector.Proofs.Service.Acyclic
import Injector.Proofs.Service.Order

/-!
# The order in which beans are added

Each bean is scanned with the same result wherever it comes, for no scan sees what another left
behind; the same services are registered then, and the check of their graph goes by their names.
-/

set_option autoImplicit false

namespace Injector

variable {P : Platform} {V : Usage P}

namespace Builder

variable {b : Builder P} {classes classes' : List (ClassDescriptor P)} {beans : List (Bean P)}
  {world world' : P.World} {services : Services P}

def scanning (b : Builder P) (pending : List DependencyKey) (world : P.World) : Deployment P :=
  ⟨{ b.container with pending }, world⟩

/-- Nothing was refused, and the classes are scanned one after the other with success. -/
def Scans (b : Builder P) (classes : List (ClassDescriptor P)) (world : P.World)
    (beans : List (Bean P)) : Prop :=
  b.errors = [] ∧ ∃ pending, pendingKeys b.services b.settings.allowOverride [] classes =
    .ok pending ∧ ∃ d, scanBeans classes (b.scanning pending world) = (.ok beans, d)

def registering (b : Builder P) (beans : List (Bean P)) : Except Error (Services P) :=
  b.services.registerAll b.settings.allowOverride (beans.map beanRegistration)

def Registers (b : Builder P) (key : DependencyKey) : Prop :=
  (∃ r ∈ b.services, (r.address.party == .application) = true ∧ r.address.key = key) ∨
    ∃ c ∈ b.beans, beanKey c = key

/-- Different keys are printed differently. -/
def Legible (b : Builder P) : Prop :=
  ∀ key key', b.Registers key → b.Registers key' → key.display = key'.display →
    (key == key') = true

section Pending

variable {s : Services P} {allowOverride : Bool} {pending keys : List DependencyKey}
  {c c' : ClassDescriptor P}

/-- The class can be scanned: its key is not pending yet, and if it is taken, it may be taken
over. -/
structure Free (s : Services P) (allowOverride : Bool) (pending : List DependencyKey)
    (c : ClassDescriptor P) : Prop where
  vacant : (s.contains ⟨.application, beanKey c⟩ && !allowOverride) = false
  new : pending.contains (beanKey c) = false

theorem free_iff : Free s allowOverride pending c ↔
    ¬ ((s.contains ⟨.application, beanKey c⟩ && !allowOverride) ||
      pending.contains (beanKey c)) = true := by
  rw [Bool.or_eq_true, not_or, Bool.not_eq_true, Bool.not_eq_true]
  exact ⟨fun h => ⟨h.vacant, h.new⟩, fun h => ⟨h.1, h.2⟩⟩

/-- A class that is pending keeps out only those with the same key. -/
theorem free_snoc : Free s allowOverride (pending ++ [beanKey c]) c' ↔
    Free s allowOverride pending c' ∧ ¬ (beanKey c == beanKey c') = true := by
  rw [free_iff, free_iff, Bool.or_eq_true, Graph.contains_snoc, Bool.or_eq_true,
    BEq.comm (a := beanKey c)]
  tauto

/-- Keys are accepted if each class is free and no two keys are equal. -/
theorem pendingKeys_iff : (∃ keys, pendingKeys s allowOverride pending classes = .ok keys) ↔
    (∀ c ∈ classes, Free s allowOverride pending c) ∧
      classes.Pairwise fun c c' => ¬ (beanKey c == beanKey c') = true := by
  induction classes generalizing pending with
  | nil => simp [pendingKeys]
  | cons c rest ih =>
    unfold pendingKeys
    dsimp only
    rw [List.forall_mem_cons, List.pairwise_cons]
    split
    next refused =>
      constructor
      · rintro ⟨keys, h⟩
        cases h
      · rintro ⟨⟨free, -⟩, -⟩
        exact absurd refused (free_iff.mp free)
    next accepted =>
      have free : Free s allowOverride pending c := free_iff.mpr accepted
      rw [ih]
      simp only [free_snoc, forall_and]
      tauto

theorem pendingKeys_perm (perm : classes.Perm classes')
    (h : pendingKeys s allowOverride [] classes = .ok keys) :
    pendingKeys s allowOverride [] classes' = .ok (classes'.map beanKey) := by
  obtain ⟨free, apart⟩ := pendingKeys_iff.mp ⟨keys, h⟩
  have apart' : classes'.Pairwise fun c c' => ¬ (beanKey c == beanKey c') = true :=
    (perm.pairwise_iff fun apart same => apart (BEq.symm same)).mp apart
  obtain ⟨keys', h'⟩ := pendingKeys_iff.mpr ⟨fun c hc => free c (perm.mem_iff.mpr hc), apart'⟩
  rw [h', pendingKeys_eq h', List.nil_append]

end Pending

section Scanning

def outcome (d : Deployment P) (c : ClassDescriptor P) : Except Error Unit × Bean P :=
  (d.scan (.fresh c .construction .application) none).1

/-- Each class is scanned as if it were the only one. -/
theorem ends_scanBeans_outcome (regular : b.Regular V) {d₀ : Deployment P}
    (h₀ : V.Stems b d₀.container) (described : ∀ c ∈ classes, V.classes c) {d : Deployment P}
    (h : V.Stems b d.container)
    (hosts : d₀.container.host.Twins b .application d.container.host) :
    Ends (scanBeans classes) d
      (fun beans _ => beans = classes.map (fun c => (outcome d₀ c).2) ∧
        ∀ c ∈ classes, (outcome d₀ c).1 = .ok ⟨⟩)
      fun _ _ => ∃ c ∈ classes, (outcome d₀ c).1 ≠ .ok ⟨⟩ := by
  induction classes generalizing d with
  | nil => exact ⟨rfl, List.forall_mem_nil _⟩
  | cons c rest ih =>
    rw [List.forall_mem_cons] at described
    have same : outcome d₀ c = (d.scan (.fresh c .construction .application) none).1 :=
      Deployment.scan_alike regular h₀ h hosts described.1 (Bean.markedWithin_of_empty rfl) .none
    have scanned := Deployment.stems_scan regular h
      (admits_fresh described.1 .construction .application)
    unfold scanBeans
    rw [ends_bind, Deployment.ends_install_iff]
    constructor
    · intro success
      have failed : (∃ c' ∈ rest, (outcome d₀ c').1 ≠ .ok ⟨⟩) →
          ∃ c' ∈ c :: rest, (outcome d₀ c').1 ≠ .ok ⟨⟩ := by
        rintro ⟨c', hc, failed⟩
        exact ⟨c', List.mem_cons_of_mem c hc, failed⟩
      apply ((ih described.2 scanned hosts).imp_failed fun _ _ => failed).bind
      rintro beans d' ⟨rfl, all⟩
      rw [List.map_cons, same]
      exact ⟨rfl, List.forall_mem_cons.mpr ⟨same ▸ success, all⟩⟩
    · intro e failure
      refine ⟨c, List.mem_cons_self, ?_⟩
      rw [same]
      intro success
      cases success.symm.trans failure

theorem host_twins_scanning {pending pending' : List DependencyKey}
    (perm : pending.Perm pending') :
    (b.scanning pending world).container.host.Twins b .application
      (b.scanning pending' world').container.host where
  make := rfl
  make' := rfl
  limit := rfl
  lookup := by
    intro key required
    let directory (pending : List DependencyKey) := b.services.directory b.listing pending
    have same : (directory pending').isPending .application key =
        (directory pending).isPending .application key := by
      show (_ && pending'.any _) = (_ && pending.any _)
      rw [perm.any_eq]
    show (directory pending').lookup .application key required =
      (directory pending).lookup .application key required
    unfold Directory.lookup
    rw [same]
    rfl

/-- In another order the same beans come out of the scans. -/
theorem Scans.perm (assembled : b.Assembled) (regular : b.Regular V)
    (described : ∀ c ∈ classes, V.classes c) (perm : classes.Perm classes') (world' : P.World)
    (h : b.Scans classes world beans) :
    ∃ beans', b.Scans classes' world' beans' ∧ beans.Perm beans' := by
  obtain ⟨accepted, pending, keys, d, run⟩ := h
  have keys' := pendingKeys_perm perm keys
  have listed := pendingKeys_eq keys
  rw [List.nil_append] at listed
  have stems : ∀ pending world, V.Stems b (b.scanning pending world).container :=
    fun pending world => ⟨rfl, (stems_container assembled).kept⟩
  have described' : ∀ c ∈ classes', V.classes c := fun c hc => described c (perm.mem_iff.mpr hc)
  -- In either order, each class is scanned as on the container that has scanned nothing yet.
  have first := ends_scanBeans_outcome regular (stems pending world) described
    (stems pending world) (host_twins_scanning (.refl pending))
  have second := ends_scanBeans_outcome regular (stems pending world) described'
    (stems (classes'.map beanKey) world')
    (host_twins_scanning (listed ▸ perm.map beanKey))
  obtain ⟨rfl, all⟩ := first.of_ok run
  rcases second.cases with ⟨beans', d', run', rfl, -⟩ | ⟨e, d', run', c, hc, failed⟩
  · exact ⟨_, ⟨accepted, _, keys', d', run'⟩, perm.map _⟩
  · exact absurd (all c (perm.mem_iff.mpr hc)) failed

end Scanning

section Registering

theorem Scans.descriptors (h : b.Scans classes world beans) :
    beans.map (·.descriptor) = classes := by
  obtain ⟨-, pending, -, d, run⟩ := h
  exact ((ends_scanBeans_scanned classes _).of_ok run).1

/-- Beans that were scanned together have different keys, and take the place of services only where
that is allowed. -/
theorem Scans.apart (h : b.Scans classes world beans) :
    (beans.map beanRegistration).Pairwise Services.Apart ∧
      ∀ r ∈ beans.map beanRegistration,
        (b.services.contains r.address && !b.settings.allowOverride) = false := by
  have descriptors := h.descriptors
  obtain ⟨-, pending, keys, -⟩ := h
  obtain ⟨free, apart⟩ := pendingKeys_iff.mp ⟨pending, keys⟩
  rw [← descriptors] at free apart
  constructor
  · rw [List.pairwise_map] at apart ⊢
    exact apart.imp fun apart same => apart (Address.beq_iff.mp same).2
  · intro r hr
    obtain ⟨bean, hb, rfl⟩ := List.mem_map.mp hr
    exact (free bean.descriptor (List.mem_map_of_mem hb)).vacant

theorem Scans.registering (h : b.Scans classes world beans) :
    ∃ services, b.registering beans = .ok services :=
  Services.exists_registerAll h.apart.2 h.apart.1

theorem Scans.unique {beans' : List (Bean P)} (h : b.Scans classes world beans)
    (h' : b.Scans classes world beans') : beans = beans' := by
  obtain ⟨-, pending, keys, d, run⟩ := h
  obtain ⟨-, pending', keys', d', run'⟩ := h'
  cases keys.symm.trans keys'
  cases run.symm.trans run'
  rfl

/-- While a bean was scanned it was known what is registered in the end. -/
theorem Scans.scanned (h : b.Scans classes world beans)
    (registered : b.registering beans = .ok services) :
    ∀ bean ∈ beans, bean.Scanned (services.directory b.listing []) := by
  obtain ⟨-, pending, keys, d, run⟩ := h
  obtain ⟨descriptors, scanned, -⟩ := (ends_scanBeans_scanned classes _).of_ok run
  intro bean hb
  apply (registered_of_registerAll registered).supplies
  have listed : pending = beans.map fun bean => beanKey bean.descriptor := by
    rw [pendingKeys_eq keys, ← descriptors, List.map_map]
    rfl
  rw [← listed]
  exact scanned bean hb

end Registering

section Graphs

variable {r : Registration P}

/-- A service was given to the builder, or it is one of the beans. -/
theorem mem_registering (registered : b.registering beans = .ok services) (hr : r ∈ services) :
    r ∈ b.services ∨ ∃ bean ∈ beans, r = beanRegistration bean :=
  (registered_of_registerAll registered).mem r hr

theorem distinct_registering (assembled : b.Assembled)
    (registered : b.registering beans = .ok services) : Services.Distinct services := by
  have given : Services.Distinct b.services := assembled.services_induction
    (motive := Services.Distinct) .nil fun distinct _ done =>
      Services.distinct_register distinct done
  exact Services.distinct_registerAll given registered

/-- Whatever a bean declares to need is registered. -/
theorem Scans.closed (assembled : b.Assembled) (h : b.Scans classes world beans)
    (registered : b.registering beans = .ok services) : (applicationGraph services).Closed := by
  intro key needed needs other ho
  rw [needs?_applicationGraph, Option.map_eq_some_iff] at needs
  obtain ⟨r, found, rfl⟩ := needs
  rcases mem_registering registered (List.mem_of_find?_eq_some found) with given | ⟨bean, hb, rfl⟩
  · rw [(assembled.given r given).2] at ho
    cases ho
  · obtain ⟨_, id, -, -, op, hop, index, bound⟩ := Bean.needs_of_mem_serviceDependencies ho
    have known := (h.scanned registered bean hb).contains_of_bound hop bound
    rw [needs?_applicationGraph, Option.isSome_map]
    exact known

theorem Scans.legible (legible : b.Legible) (perm : classes.Perm b.beans)
    (h : b.Scans classes world beans) (registered : b.registering beans = .ok services) :
    ∀ e ∈ applicationGraph services, ∀ e' ∈ applicationGraph services,
      e.1.display = e'.1.display → (e.1 == e'.1) = true := by
  have listed : ∀ e ∈ applicationGraph services, b.Registers e.1 := by
    intro e he
    obtain ⟨r, hr, rfl⟩ := List.mem_map.mp he
    obtain ⟨hm, application⟩ := List.mem_filter.mp hr
    rcases mem_registering registered hm with given | ⟨bean, hb, rfl⟩
    · exact .inl ⟨r, given, application, rfl⟩
    · have described : bean.descriptor ∈ classes := by
        rw [← h.descriptors]
        exact List.mem_map_of_mem hb
      exact .inr ⟨bean.descriptor, perm.mem_iff.mp described, rfl⟩
  exact fun e he e' he' => legible e.1 e'.1 (listed e he) (listed e' he')

end Graphs

section Built

/-- A build scans the beans and registers them, and then the check of the graph decides. -/
theorem ends_buildBeans_stages (accepted : b.errors = []) (world : P.World) :
    Ends b.buildBeans ⟨b.container, world⟩
      (fun _ d => ∃ beans, b.Scans b.beans world beans ∧
        b.registering beans = .ok d.container.services ∧
        (applicationGraph d.container.services).check = .ok ⟨⟩)
      fun e _ => ∀ beans services, b.Scans b.beans world beans →
        b.registering beans = .ok services → (applicationGraph services).check = .error e := by
  rw [ends_buildBeans_iff]
  constructor
  swap
  · rintro e refused beans services ⟨-, pending, keys, -⟩
    cases keys.symm.trans refused
  intro pending keys
  apply (ends_scanBeans_scanned b.beans _).traced.mono
  swap
  · rintro e d ⟨-, failed⟩ beans services ⟨-, pending', keys', d', run⟩
    cases keys.symm.trans keys'
    cases run.symm.trans failed
  rintro beans d ⟨⟨-, -, persists⟩, run⟩
  have scans : b.Scans b.beans world beans := ⟨accepted, pending, keys, d, run⟩
  have stays : d.container.services.registerAll d.container.settings.allowOverride
      (beans.map beanRegistration) = b.registering beans := by
    rw [persists.services, persists.settings]
    rfl
  apply (ends_registerBeans beans _).mono
  · rintro _ d' ⟨registered, -⟩
    replace registered : b.registering beans = .ok d'.container.services :=
      stays.symm.trans registered
    refine ⟨fun _ checked => ⟨beans, scans, registered, checked⟩, ?_⟩
    intro e unchecked beans' services' scans' registered'
    obtain rfl := scans.unique scans'
    cases registered.symm.trans registered'
    exact unchecked
  · intro e d' refused
    obtain ⟨services, registered⟩ := scans.registering
    cases registered.symm.trans (stays.symm.trans refused)

theorem build_stages (accepted : b.errors = []) (world : P.World) :
    (∃ c, (b.build world).1 = .ok c ∧ ∃ beans, b.Scans b.beans world beans ∧
      b.registering beans = .ok c.services ∧ (applicationGraph c.services).check = .ok ⟨⟩) ∨
    ∃ e, (b.build world).1 = .error e ∧ ∀ beans services, b.Scans b.beans world beans →
      b.registering beans = .ok services → (applicationGraph services).check = .error e := by
  apply build_cases accepted
  exact ends_buildBeans_stages accepted world

theorem scans_of_build {c : Container P} (built : (b.build world).1 = .ok c) :
    ∃ beans, b.Scans b.beans world beans ∧ b.registering beans = .ok c.services := by
  rcases build_stages (accepted_of_build built) world with
    ⟨c', success, beans, scans, registered, -⟩ | ⟨e, failure, -⟩
  · cases built.symm.trans success
    exact ⟨beans, scans, registered⟩
  · cases built.symm.trans failure

/-- Once the beans were scanned and registered, the check of the graph decides. -/
theorem build_of_scans (h : b.Scans b.beans world beans)
    (registered : b.registering beans = .ok services) :
    (b.build world).1.map (·.services) =
      (applicationGraph services).check.map fun _ => services := by
  rcases build_stages h.1 world with ⟨c, success, beans', scans, listed, checked⟩ |
    ⟨e, failure, unchecked⟩
  · obtain rfl := h.unique scans
    cases registered.symm.trans listed
    rw [success, checked]
    rfl
  · rw [failure, unchecked beans services h registered]
    rfl

theorem exists_build (h : b.Scans b.beans world beans)
    (registered : b.registering beans = .ok services) :
    (∃ c, (b.build world).1 = .ok c) ↔ (applicationGraph services).check = .ok ⟨⟩ := by
  have decided := build_of_scans h registered
  constructor
  · rintro ⟨c, success⟩
    rw [success] at decided
    cases checked : (applicationGraph services).check with
    | ok => rfl
    | error e =>
      rw [checked] at decided
      cases decided
  · intro checked
    rw [checked] at decided
    cases success : (b.build world).1 with
    | ok c => exact ⟨c, rfl⟩
    | error e =>
      rw [success] at decided
      cases decided

theorem build_circular (h : b.Scans b.beans world beans)
    (registered : b.registering beans = .ok services) {e : Error}
    (unchecked : (applicationGraph services).check = .error e) :
    (b.build world).1 = .error e := by
  have decided := build_of_scans h registered
  rw [unchecked] at decided
  cases failure : (b.build world).1 with
  | ok c =>
    rw [failure] at decided
    cases decided
  | error e' =>
    rw [failure] at decided
    cases decided
    rfl

end Built

section Reordered

/-- In another order the same services are registered, and their graph is checked with the same
result. -/
theorem Scans.agree (assembled : b.Assembled) (regular : b.Regular V) (legible : b.Legible)
    (perm : b.beans.Perm classes) {beans' : List (Bean P)} {services' : Services P}
    (h : b.Scans b.beans world beans) (h' : b.Scans classes world' beans')
    (registered : b.registering beans = .ok services)
    (registered' : b.registering beans' = .ok services') :
    services.Perm services' ∧ (∀ a, services.find? a = services'.find? a) ∧
      (applicationGraph services').check = (applicationGraph services).check := by
  have same : services.Perm services' := by
    obtain ⟨beans'', scans, reordered⟩ := h.perm assembled regular regular.beans perm world'
    obtain rfl := h'.unique scans
    have both : Services.Reordered (b.registering beans) (b.registering beans') :=
      Services.registerAll_perm (reordered.map beanRegistration) h.apart.1
    rw [registered, registered'] at both
    cases both with
    | registered same => exact same
  have found := Services.find?_perm same (distinct_registering assembled registered)
  have graphs : (applicationGraph services).Perm (applicationGraph services') :=
    (same.filter _).map _
  have needs : ∀ key, (applicationGraph services').needs? key =
      (applicationGraph services).needs? key := by
    intro key
    rw [needs?_applicationGraph, needs?_applicationGraph, found]
  exact ⟨same, found, Graph.check_perm graphs needs (h.closed assembled registered)
    (h.legible legible (.refl _) registered)⟩

theorem Scans.reordered (assembled : b.Assembled) (regular : b.Regular V) (legible : b.Legible)
    (perm : b.beans.Perm classes) (world' : P.World) (h : b.Scans b.beans world beans)
    (registered : b.registering beans = .ok services) :
    ∃ beans' services', b.Scans classes world' beans' ∧
      b.registering beans' = .ok services' ∧
        (applicationGraph services').check = (applicationGraph services).check := by
  obtain ⟨beans', scans', -⟩ := h.perm assembled regular regular.beans perm world'
  obtain ⟨services', registered'⟩ := scans'.registering
  exact ⟨beans', services', scans', registered',
    (h.agree assembled regular legible perm scans' registered registered').2.2⟩

structure Interchangeable (b b' : Builder P) (world world' : P.World) : Prop where
  success : (∃ c, (b.build world).1 = .ok c) ↔ ∃ c, (b'.build world').1 = .ok c
  services : ∀ c c', (b.build world).1 = .ok c → (b'.build world').1 = .ok c' →
    c.services.Perm c'.services ∧ ∀ a, c.services.find? a = c'.services.find? a
  circular : ∀ beans, b.Scans b.beans world beans → ∃ services,
    b.registering beans = .ok services ∧ ((applicationGraph services).Cyclic →
      ∃ chain, (b.build world).1 = .error (.circularDependency chain) ∧
        (b'.build world').1 = .error (.circularDependency chain))

/-- The order in which beans were added does not matter: either order succeeds, and then the same
services are registered, each bean with the same operations, bindings and dependencies; or neither
does, and a cycle of services is reported with the same chain. -/
theorem interchangeable_of_perm (assembled : b.Assembled) (regular : b.Regular V)
    (legible : b.Legible) (perm : b.beans.Perm classes) (world world' : P.World) :
    b.Interchangeable { b with beans := classes } world world' where
  success := by
    constructor
    · rintro ⟨c, built⟩
      obtain ⟨beans, scans, registered⟩ := scans_of_build built
      obtain ⟨beans', services', scans', registered', same⟩ :=
        scans.reordered assembled regular legible perm world' registered
      have checked := (exists_build scans registered).mp ⟨c, built⟩
      exact (exists_build (b := { b with beans := classes }) scans' registered').mpr
        (same.trans checked)
    · rintro ⟨c', built⟩
      -- The other builder need not be assembled: only the scans are taken back to this one.
      obtain ⟨beans', scans', registered'⟩ := scans_of_build built
      have described : ∀ cls ∈ classes, V.classes cls :=
        fun cls hc => regular.beans cls (perm.mem_iff.mpr hc)
      obtain ⟨beans, scans, -⟩ := Scans.perm assembled regular described perm.symm world scans'
      obtain ⟨services, registered⟩ := scans.registering
      have same := (scans.agree assembled regular legible perm scans' registered registered').2.2
      have checked := (exists_build (b := { b with beans := classes }) scans' registered').mp
        ⟨c', built⟩
      exact (exists_build scans registered).mpr (same.symm.trans checked)
  services := by
    intro c c' built built'
    obtain ⟨beans, scans, registered⟩ := scans_of_build built
    obtain ⟨beans', scans', registered'⟩ := scans_of_build built'
    obtain ⟨same, found, -⟩ :=
      scans.agree assembled regular legible perm scans' registered registered'
    exact ⟨same, found⟩
  circular := by
    intro beans scans
    obtain ⟨services, registered⟩ := scans.registering
    refine ⟨services, registered, fun cyclic => ?_⟩
    obtain ⟨chain, unchecked⟩ := Graph.check_of_cyclic (scans.closed assembled registered) cyclic
    obtain ⟨beans', services', scans', registered', same⟩ :=
      scans.reordered assembled regular legible perm world' registered
    exact ⟨chain, build_circular scans registered unchecked,
      build_circular (b := { b with beans := classes }) scans' registered' (same.trans unchecked)⟩

end Reordered

end Builder

def Usage.farm : Usage .bare where
  classes := fun c => c = .hen ∨ c = .nest
  markers := fun _ => False
  hook := fun _ => none
  extensions := fun _ => False
  superclass := by
    rintro c s (rfl | rfl) hs <;> cases hs
  declared := by
    rintro c (rfl | rfl) d hd <;> cases hd
  class_eq := by
    rintro c c' (rfl | rfl) (rfl | rfl) same <;> first | rfl | cases same
  key_eq := fun _ _ h => h.elim
  hook_eq := fun _ h => h.elim
  extension_eq := fun _ _ h => h.elim
  hooks := fun _ h => h.elim
  declares := by
    rintro c (rfl | rfl) d hd <;> cases hd
  placed := by
    rintro c (rfl | rfl) marker hm <;> cases hm

theorem Builder.regular_farm : farm.Regular .farm where
  beans := fun _ hc => List.mem_pair.mp hc
  typeHooks := List.forall_mem_nil _
  installed := fun _ _ found => by cases found
  made := fun _ h => h.elim

theorem Builder.legible_farm : farm.Legible := by
  have apart : (beanKey .hen).display ≠ (beanKey .nest).display := by decide
  rintro key key' (⟨r, hr, -⟩ | ⟨c, hc, rfl⟩) (⟨r', hr', -⟩ | ⟨c', hc', rfl⟩) same
  · cases hr
  · cases hr
  · cases hr'
  · rcases List.mem_pair.mp hc with rfl | rfl <;> rcases List.mem_pair.mp hc' with rfl | rfl
    · rfl
    · exact absurd same apart
    · exact absurd same.symm apart
    · rfl

/-- With the nest before the hen, the farm is built as well. -/
theorem Builder.interchangeable_of_perm_farm :
    farm.beans = [.hen, .nest] ∧
      farm.Interchangeable { farm with beans := [.nest, .hen] } () () ∧
        ∃ c, (build { farm with beans := [.nest, .hen] } ()).1 = .ok c ∧
          c.services.find? ⟨.application, beanKey .hen⟩ = some (beanRegistration .hen) := by
  have assembled : farm.Assembled := ((Assembled.new _ _).bean .hen).bean .nest
  have perm : farm.beans.Perm [.nest, .hen] := List.Perm.swap _ _ []
  have same := interchangeable_of_perm assembled regular_farm legible_farm perm () ()
  have built : (farm.build ()).1 = .ok Container.farm := congrArg Prod.fst build_farm
  obtain ⟨c, built'⟩ := same.success.mp ⟨_, built⟩
  have found := (same.services _ c built built').2 ⟨.application, beanKey .hen⟩
  exact ⟨rfl, same, c, built', found.symm⟩

end Injector

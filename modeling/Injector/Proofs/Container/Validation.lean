import Injector.Proofs.Container.Order

/-!
# What a build has its graph checked for

Keys are pending while beans are scanned, and all of them are registered before the check; so every
service that a bean cannot do without is found there, and only a cycle can be wrong with the graph.
-/

set_option autoImplicit false

namespace Injector

variable {P : Platform}

namespace Builder

variable {b : Builder P} {beans : List (Bean P)} {services : Services P} {world : P.World}

/-- The graph of the services is complete, and the build ends as its cycles have it. -/
structure Validated (b : Builder P) (world : P.World) (beans : List (Bean P))
    (services : Services P) : Prop where
  supplied : ∀ bean ∈ beans, ∀ top, bean.constructor? = some top →
    ∀ id, bean.Under top.id id → ∀ key, bean.Needs id key →
      ((applicationGraph services).needs? key).isSome = true
  closed : (applicationGraph services).Closed
  complete : ∀ key requiredBy suggestions,
    (applicationGraph services).check ≠ .error (.notRegistered key requiredBy suggestions)
  accepts : (∃ c, (b.build world).1 = .ok c ∧ c.services = services) ↔
    ¬ (applicationGraph services).Cyclic
  reports : (applicationGraph services).Cyclic → ∃ chain,
    (b.build world).1 = .error (.circularDependency chain) ∧
      (applicationGraph services).Cycle chain

/-- What runs under the constructor of a bean finds the services it is bound to. -/
theorem Scans.supplied (h : b.Scans b.beans world beans)
    (registered : b.registering beans = .ok services) {bean : Bean P} (hb : bean ∈ beans) {id : Nat}
    {key : DependencyKey} (needs : bean.Needs id key) :
    ((applicationGraph services).needs? key).isSome = true := by
  obtain ⟨op, found, index, bound⟩ := needs
  rw [needs?_applicationGraph, Option.isSome_map]
  exact (h.scanned registered bean hb).contains_of_bound found bound

theorem exists_build_services (h : b.Scans b.beans world beans)
    (registered : b.registering beans = .ok services) :
    (∃ c, (b.build world).1 = .ok c ∧ c.services = services) ↔
      (applicationGraph services).check = .ok ⟨⟩ := by
  rw [← exists_build h registered]
  constructor
  · rintro ⟨c, built, -⟩
    exact ⟨c, built⟩
  · rintro ⟨c, built⟩
    obtain ⟨beans', scans, listed⟩ := scans_of_build built
    obtain rfl := h.unique scans
    cases registered.symm.trans listed
    exact ⟨c, built, rfl⟩

theorem Scans.validated (assembled : b.Assembled) (h : b.Scans b.beans world beans)
    (registered : b.registering beans = .ok services) : b.Validated world beans services := by
  have closed := h.closed assembled registered
  have decided := Graph.decided_of_closed closed
  refine ⟨fun bean hb _ _ _ _ _ needs => h.supplied registered hb needs, closed, ?_, ?_, ?_⟩
  · intro key requiredBy suggestions missing
    obtain ⟨chain, circular, -⟩ := Graph.cycle_of_check closed missing
    cases circular
  · rw [exists_build_services h registered]
    exact decided.accepts
  · intro cyclic
    obtain ⟨chain, unchecked, cycle⟩ := decided.reports cyclic
    exact ⟨chain, build_circular h registered unchecked, cycle⟩

structure Validates (b : Builder P) (world : P.World) : Prop where
  graphs : ∀ g : Graph, g.Closed → g.Decided
  /-- Once the beans are scanned nothing but a cycle is in the way. -/
  builds : ∀ beans, b.Scans b.beans world beans →
    ∃ services, b.registering beans = .ok services ∧ b.Validated world beans services

/-- The check accepts exactly the graphs without cycles and reports a cycle of any other, if they
lack no service; and no graph that a build comes to lacks one. -/
theorem validates_of_assembled (assembled : b.Assembled) (world : P.World) : b.Validates world where
  graphs := fun _ closed => Graph.decided_of_closed closed
  builds := by
    intro beans scans
    obtain ⟨services, registered⟩ := scans.registering
    exact ⟨services, registered, scans.validated assembled registered⟩

end Builder

def Graph.brood : Graph :=
  [(Builder.beanKey .hen, [Builder.beanKey .nest]), (Builder.beanKey .nest, [Builder.beanKey .hen])]

theorem Graph.closed_brood : brood.Closed := by
  have listed : ∀ entry ∈ brood, ∀ other ∈ entry.2, (brood.needs? other).isSome = true := by
    rintro entry he other ho
    rcases List.mem_pair.mp he with rfl | rfl
    · rw [List.mem_singleton.mp ho]
      rfl
    · rw [List.mem_singleton.mp ho]
      rfl
  intro key needed needs other ho
  obtain ⟨entry, he, -, rfl⟩ := needs?_eq_some needs
  exact listed entry he other ho

theorem Graph.cyclic_brood : brood.Cyclic := by
  have there : brood.Needs (Builder.beanKey .hen) (Builder.beanKey .nest) := ⟨_, rfl, rfl⟩
  have back : brood.Needs (Builder.beanKey .nest) (Builder.beanKey .hen) := ⟨_, rfl, rfl⟩
  exact ⟨Builder.beanKey .hen, .head there (.single back)⟩

theorem Builder.scans_farm : farm.Scans farm.beans () [.hen, .nest] :=
  ⟨rfl, farmKeys, rfl, _, scanBeans_farm⟩

theorem Builder.validates_of_assembled_farm :
    farm.Assembled ∧ farm.Scans farm.beans () [.hen, .nest] ∧
      (∃ services, farm.registering [.hen, .nest] = .ok services ∧
        ¬ (applicationGraph services).Cyclic) ∧
      Graph.brood.Closed ∧ Graph.brood.Cyclic ∧
        ∃ chain, Graph.brood.check = .error (.circularDependency chain) ∧
          Graph.brood.Cycle chain := by
  have assembled : farm.Assembled := ((Assembled.new _ _).bean .hen).bean .nest
  have validates := validates_of_assembled assembled ()
  obtain ⟨services, registered, validated⟩ := validates.builds _ scans_farm
  have built : (farm.build ()).1 = .ok Container.farm := congrArg Prod.fst build_farm
  obtain ⟨beans, scans, listed⟩ := scans_of_build built
  obtain rfl := scans_farm.unique scans
  cases registered.symm.trans listed
  exact ⟨assembled, scans_farm, ⟨_, registered, validated.accepts.mp ⟨_, built, rfl⟩⟩,
    Graph.closed_brood, Graph.cyclic_brood,
    (validates.graphs _ Graph.closed_brood).reports Graph.cyclic_brood⟩

end Injector

import Injector.Proofs.Bean.Evaluation

/-!
# What a bean declares to need

The walk that collects it comes to an end of its own, whatever its budget, and lists each service
once; making the instance asks for no service that the application has to have besides these.
-/

set_option autoImplicit false

namespace Injector

variable {P : Platform}

def Binding.entry? {ι : Type} (entry : Party → DependencyKey → ι) : Binding P → Option ι
  | .service key party _ => some (entry party key)
  | _ => none

namespace Bean

/-- One round of the walk. It takes the first of the operations that wait, if there is such an
operation, and puts those nested in it before the others. -/
inductive Visit (b : Bean P) :
    List OperationId × List DependencyKey → List OperationId × List DependencyKey → Prop
  | gone {id : OperationId} {waiting : List OperationId} {found : List DependencyKey}
      (absent : b.operation? id = none) : Visit b (id :: waiting, found) (waiting, found)
  | visited {id : OperationId} {waiting : List OperationId} {found : List DependencyKey}
      {op : Operation P} (there : b.operation? id = some op) :
      Visit b (id :: waiting, found) (op.nested.reverse ++ waiting,
        ((op.bindings.filterMap fun binding => binding).filterMap requiredService).foldl
          addNew found)

def request? (b : Bean P) : Deed P → Option (Binding P)
  | .asked id index _ => (b.operation? id).bind (·.binding? index)
  | .called .. => none

/-- Each request for a service is noted, and no accessor touches these notes or makes a request of
its own. -/
structure Notes (b : Bean P) (resolve : Resolver P) {ι : Type} (log : P.World → List ι)
    (entry : Party → DependencyKey → ι) : Prop where
  service : ∀ party key live,
    log (resolve party key live).2.world = log live.world ++ [entry party key]
  accessor : ∀ (id : Nat) op, b.operation? id = some op → ∀ values live,
    log ((op.accessor.accessor values).run resolve live).2.world = log live.world

structure Inquires (b : Bean P) (top : Operation P) (resolve : Resolver P) (live : Live P)
    (deeds : List (Deed P)) : Prop where
  /-- They are those of a call of the constructor without arguments, -/
  evaluates : b.Evaluates resolve top.id top (top.contract.arguments.map fun _ => none) live deeds
    (b.invoke resolve top.id (top.contract.arguments.map fun _ => none) live)
  /-- after which nothing else is done. -/
  ended : (b.instantiate resolve live).2 =
    (b.invoke resolve top.id (top.contract.arguments.map fun _ => none) live).2
  /-- No service that the application has to have is asked for without being declared. -/
  declared : ∀ key, .service key .application true ∈ deeds.filterMap b.request? →
    b.serviceDependencies.contains key = true
  /-- Nothing was asked for besides. -/
  heard : ∀ {ι : Type} (log : P.World → List ι) (entry : Party → DependencyKey → ι),
    b.Notes resolve log entry → log (b.instantiate resolve live).2.world =
      log live.world ++ (deeds.filterMap b.request?).filterMap (Binding.entry? entry)

structure Declares (b : Bean P) (top : Operation P) : Prop where
  /-- However far the walk has come, it goes on to an end, and has then found what is declared. -/
  ends : ∀ state, Relation.ReflTransGen b.Visit ([top.id], []) state →
    Relation.ReflTransGen b.Visit state ([], b.serviceDependencies)
  once : b.serviceDependencies.Pairwise fun key other => (key == other) = false
  /-- It is declared as it is bound, -/
  needed : ∀ key ∈ b.serviceDependencies, ∃ id, b.Under top.id id ∧ b.Needs id key
  /-- and up to equality of keys it is all that is bound in this way, and nothing else. -/
  exact : ∀ key, b.serviceDependencies.contains key = true ↔
    ∃ id other, b.Under top.id id ∧ b.Needs id other ∧ (key == other) = true
  asked : ∀ resolve live, ∃ deeds, b.Inquires top resolve live deeds

variable {b : Bean P} {root id : Nat} {seen waiting : List Nat} {found keys : List DependencyKey}
  {top op : Operation P}

theorem visit_rightUnique : Relator.RightUnique b.Visit := by
  intro state next next' h h'
  cases h with
  | gone absent =>
    cases h' with
    | gone => rfl
    | visited there => cases absent.symm.trans there
  | visited there =>
    cases h' with
    | gone absent => cases absent.symm.trans there
    | visited there' =>
      obtain rfl := Option.some.inj (there.symm.trans there')
      rfl

/-- The budget is not what ends the walk. -/
theorem visits_collectDependencies (linked : b.Linked) (htop : b.operation? root = some top)
    (hparent : top.parent = none) {visits : Nat} (walk : Walk b root seen waiting)
    (budget : seen.length + visits = b.operations.size) :
    Relation.ReflTransGen b.Visit (waiting, found)
      ([], b.collectDependencies visits waiting found) := by
  induction visits generalizing seen waiting found with
  | zero =>
    have hle := walk.length_le
    obtain rfl : waiting = [] := List.eq_nil_of_length_eq_zero (by omega)
    exact .refl
  | succ visits ih =>
    cases waiting with
    | nil => exact .refl
    | cons id waiting =>
      obtain ⟨op, ho⟩ := exists_operation? (walk.bound id (by simp))
      have spent : (seen ++ [id]).length + visits = b.operations.size := by
        rw [List.length_append, List.length_singleton]
        omega
      rw [collectDependencies_cons ho]
      exact (ih (walk.step linked htop hparent ho) spent).head (.visited ho)

theorem visits_serviceDependencies (linked : b.Linked) (htop : b.constructor? = some top) :
    Relation.ReflTransGen b.Visit ([top.id], []) ([], b.serviceDependencies) := by
  obtain ⟨there, -, hparent⟩ := constructor?_eq_some linked htop
  rw [serviceDependencies, htop]
  exact visits_collectDependencies linked there hparent (.start there) (Nat.zero_add _)

theorem visits_of_visits {state last : List OperationId × List DependencyKey}
    (ends : Relation.ReflTransGen b.Visit state ([], keys))
    (come : Relation.ReflTransGen b.Visit state last) :
    Relation.ReflTransGen b.Visit last ([], keys) := by
  rcases Relation.ReflTransGen.total_of_right_unique visit_rightUnique come ends with on | back
  · exact on
  · rcases back.cases_head with rfl | ⟨next, visit, -⟩
    · exact .refl
    · cases visit

theorem pairwise_foldl_addNew (h : found.Pairwise fun key other => (key == other) = false) :
    (keys.foldl addNew found).Pairwise fun key other => (key == other) = false := by
  induction keys generalizing found with
  | nil => exact h
  | cons new rest ih =>
    apply ih
    unfold addNew
    split
    · exact h
    next absent =>
      rw [List.pairwise_append]
      refine ⟨h, List.pairwise_singleton _ _, fun key at_ other new => ?_⟩
      rw [List.mem_singleton.mp new]
      rw [Bool.eq_false_iff]
      exact fun same => absent
        (List.contains_iff_exists_mem_beq.mpr ⟨key, at_, BEq.symm same⟩)

theorem pairwise_collectDependencies {visits : Nat}
    (h : found.Pairwise fun key other => (key == other) = false) :
    (b.collectDependencies visits waiting found).Pairwise
      fun key other => (key == other) = false := by
  fun_induction collectDependencies b visits waiting found with
  | case1 => exact h
  | case2 => exact h
  | case3 _ _ _ _ _ ih => exact ih h
  | case4 _ _ _ _ _ _ _ ih => exact ih (pairwise_foldl_addNew h)

theorem pairwise_serviceDependencies :
    b.serviceDependencies.Pairwise fun key other => (key == other) = false := by
  unfold serviceDependencies
  split
  · exact .nil
  · exact pairwise_collectDependencies .nil

theorem needed_of_mem (htop : b.constructor? = some top) {key : DependencyKey}
    (declared : key ∈ b.serviceDependencies) : ∃ id, b.Under top.id id ∧ b.Needs id key := by
  obtain ⟨made, id, htop', under, needs⟩ := needs_of_mem_serviceDependencies declared
  obtain rfl := Option.some.inj (htop.symm.trans htop')
  exact ⟨id, under, needs⟩

section Asked

variable {resolve : Resolver P} {args : List (Option P.Datum)} {live last : Live P}
  {deeds : List (Deed P)}

/-- The result of the constructor is looked at, and that is all. -/
theorem instantiate_snd (source : b.source = .construction) (htop : b.constructor? = some top) :
    (b.instantiate resolve live).2 =
      (b.invoke resolve top.id (top.contract.arguments.map fun _ => none) live).2 := by
  unfold instantiate
  rw [source]
  dsimp only
  rw [htop]
  dsimp only
  rw [bind_apply]
  rcases (b.invoke resolve top.id (top.contract.arguments.map fun _ => none) live :
    Except Error (Option P.Datum) × Live P) with ⟨e | _ | value, last⟩ <;> rfl

theorem Story.log_eq_of_notes {ι : Type} {log : P.World → List ι}
    {entry : Party → DependencyKey → ι} (h : b.Story resolve args live deeds last)
    (notes : b.Notes resolve log entry) : log last.world =
      log live.world ++ (deeds.filterMap b.request?).filterMap (Binding.entry? entry) := by
  induction h with
  | start => simp
  | @asked deeds mid last id index op key party required reply _ there bound ran ih =>
    have noted := notes.service party key mid
    rw [ran, ih] at noted
    rw [noted]
    simp [request?, there, bound, Binding.entry?]
  | @called deeds mid last id op values reply _ there _ ran ih =>
    have kept := notes.accessor id op there values mid
    rw [ran] at kept
    rw [kept, ih]
    simp [request?]

theorem contains_of_request (linked : b.Linked) (htop : b.constructor? = some top)
    (places : deeds.map Deed.place <+: b.plan top.id) {key : DependencyKey}
    (requested : .service key .application true ∈ deeds.filterMap b.request?) :
    b.serviceDependencies.contains key = true := by
  obtain ⟨deed, at_, request⟩ := List.mem_filterMap.mp requested
  cases deed with
  | called => cases request
  | asked id index reply =>
    have under : b.Under top.id id :=
      under_of_mem_planWithin (places.subset (List.mem_map_of_mem at_))
    obtain ⟨op, there, bound⟩ := Option.bind_eq_some_iff.mp request
    exact contains_serviceDependencies linked htop under ⟨op, there, index, bound⟩

theorem exists_inquires (linked : b.Linked) (fitting : b.Fitting) (furnished : b.Furnished)
    (source : b.source = .construction) (htop : b.constructor? = some top) :
    ∃ deeds, b.Inquires top resolve live deeds := by
  obtain ⟨there, -⟩ := constructor?_eq_some linked htop
  have ended : (b.instantiate resolve live).2 =
      (b.invoke resolve top.id (top.contract.arguments.map fun _ => none) live).2 :=
    instantiate_snd source htop
  obtain ⟨deeds, evaluates⟩ : ∃ deeds, b.Evaluates resolve top.id top
      (top.contract.arguments.map fun _ => none) live deeds
        (b.invoke resolve top.id (top.contract.arguments.map fun _ => none) live) :=
    evaluates_invoke linked fitting furnished there (List.length_map _) live
  exact ⟨deeds, {
    evaluates
    ended
    declared := fun _ requested => contains_of_request linked htop evaluates.places requested
    heard := fun log entry notes => ended ▸ evaluates.story.log_eq_of_notes notes }⟩

end Asked

theorem contains_serviceDependencies_iff (linked : b.Linked) (htop : b.constructor? = some top)
    {key : DependencyKey} : b.serviceDependencies.contains key = true ↔
      ∃ id other, b.Under top.id id ∧ b.Needs id other ∧ (key == other) = true := by
  constructor
  · intro declared
    obtain ⟨other, at_, same⟩ := List.contains_iff_exists_mem_beq.mp declared
    obtain ⟨id, under, needs⟩ := needed_of_mem htop at_
    exact ⟨id, other, under, needs, same⟩
  · rintro ⟨id, other, under, needs, same⟩
    obtain ⟨listed, at_, same'⟩ := List.contains_iff_exists_mem_beq.mp
      (contains_serviceDependencies linked htop under needs)
    exact List.contains_iff_exists_mem_beq.mpr ⟨listed, at_, BEq.trans same same'⟩

/-- A bean whose operations fit together declares what its constructor needs. -/
theorem declares_of_constructor (linked : b.Linked) (fitting : b.Fitting)
    (furnished : b.Furnished) (source : b.source = .construction)
    (htop : b.constructor? = some top) : b.Declares top where
  ends := fun _ => visits_of_visits (visits_serviceDependencies linked htop)
  once := pairwise_serviceDependencies
  needed := fun _ => needed_of_mem htop
  exact := fun _ => contains_serviceDependencies_iff linked htop
  asked := fun _ _ => exists_inquires linked fitting furnished source htop

end Bean

end Injector

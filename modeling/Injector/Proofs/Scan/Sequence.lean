import Injector.Proofs.Bean.Tree
import Injector.Proofs.Scan.LifeCycle

/-!
# The order of the callbacks of a scan of a new bean

First everything that makes the instance is resolved; then the fields are shown, and after them the
methods; and then what was made for these is resolved. Operations are never overtaken, so the slots
that are asked for come in order.
-/

set_option autoImplicit false

namespace Injector

variable {P : Platform}

namespace Scan

variable {f : ScanFrame P} {s s' : Scan P}

section Invariants

theorem upheld_singleTree (f : ScanFrame P) :
    Upheld f Bean.SingleTree fun op => op.parent.isSome = true where
  bound := by
    intro id index binding b b' tree bound
    obtain ⟨op, op', found, grown, rfl⟩ := put_of_slotBound bound
    exact tree.put found grown
  appended := fun _ nested _ tree => tree.append nested

end Invariants

/-- The bean as it is when the members are shown: if it makes its instance, then nothing but what
that needs is there, and all of it is bound. -/
structure Opened (construction : Bool) (b : Bean P) : Prop where
  linked : b.Linked
  tree : construction = true → b.SingleTree
  complete : ∀ (id : Nat) op, b.operation? id = some op → op.isComplete = true
  empty : construction = false → b.operations.size = 0

theorem Settled.complete (h : Settled f 0 s) (id : Nat) (op : Operation P)
    (ho : s.bean.operation? id = some op) : op.isComplete = true := by
  rw [Operation.isComplete_iff]
  intro index hi
  exact (h.frontier.bound_iff id op ho (Nat.zero_le id) index hi).mpr
    (.inl (Bean.lt_of_operation? ho))

structure Toured (levels : List (ClassDescriptor P)) (first : Nat ×ₗ Nat) (calls : List (Call P)) :
    Prop where
  split : ∃ fields methods requests, calls = fields ++ methods ++ requests ∧
    (∃ places, Walked levels places fields) ∧ ShownMethods methods ∧ Asked first requests

section Phases

theorem Attends.weaken {α : Type} {invariant weaker : Bean P → Prop} {step : ScanM P α}
    {ok : α → List (Call P) → Scan P → Prop} {failed : List (Call P) → Prop}
    (h : Attends f invariant s step ok failed) (imp : ∀ b, invariant b → weaker b) :
    Attends f weaker s step (fun a calls s' => ok a calls s' ∧ invariant s'.bean) failed := by
  apply Ends.mono h
  · rintro a s' ⟨calls, spans, enrolled, ha⟩
    exact ⟨calls, spans.mono imp, enrolled, ha, spans.kept⟩
  · rintro _ s' ⟨calls, spans, dismissed, hf⟩
    exact ⟨calls, spans.mono imp, dismissed, hf⟩

/-- The constructor is the first operation, and only what it needs is made along with it. -/
theorem attends_scanConstructor (hs : Progress f 0 0 0 0 s) (empty : s.bean.operations.size = 0) :
    Attends f Bean.Founded s (scanConstructor f s.bean.descriptor)
      (fun _ calls s' => AskedUpTo (toLex (0, 0)) (toLex (s'.bean.operations.size, 0)) calls ∧
        Opened true s'.bean ∧ Settled f 0 s')
      (Asked (toLex (0, 0))) := by
  have founded : s.bean.Founded := Bean.founded_of_empty empty
  unfold scanConstructor
  apply (reads_except fun _ h => h).bind_attends founded asked_nil
  intro constructor selected
  apply (reads_nextId s).bind_attends founded asked_nil
  rintro _ rfl
  let op := Operation.ofConstructor s.bean.operations.size s.bean.descriptor constructor
    f.installer none
  have unattended : Unattended s
      { s with bean := s.bean.append op, queue := s.queue ++ [op.id] } :=
    ⟨rfl, rfl, rfl, rfl, .refl _⟩
  have tree : (s.bean.append op).SingleTree := .of_empty empty rfl rfl
  have added : Attends f Bean.Founded s (Functor.discard (append op))
      (fun _ calls s' => calls = [] ∧ s'.bean = s.bean.append op) (Asked (toLex (0, 0))) :=
    ends_discard.mpr
      ⟨[], .of_unattended unattended tree.founded, .of_unattended unattended, rfl, rfl⟩
  have appended := (atomic_append hs (.constructor selected)).leads
  apply (added.and_leads (Leads.discard appended)).bind
  rintro _ _ s' _ ⟨⟨rfl, same⟩, -, hs', -⟩
  have drained := attends_drain (upheld_singleTree f) (fun _ nested => nested) (same ▸ tree) hs'
  apply ((drained.weaken fun _ => Bean.SingleTree.founded).and_leads (leads_drain hs')).mono
  · rintro _ calls s'' ⟨⟨asked, tree'⟩, -, settled⟩
    exact ⟨asked, ⟨settled.linked, fun _ => tree', settled.complete, by simp⟩, settled⟩
  · exact fun _ asked => asked

theorem attends_scanMembers {invariant : Bean P → Prop}
    (upheld : Upheld f invariant fun _ => True) (hb : invariant s.bean) (hs : Settled f 0 s)
    (c : ClassDescriptor P) :
    Attends f invariant s (scanMembers f c)
      (fun _ calls _ => Toured c.levels.reverse (toLex (s.bean.operations.size, 0)) calls)
      (Toured c.levels.reverse (toLex (s.bean.operations.size, 0))) := by
  have start : Progress f 0 s.bean.operations.size 0 s.bean.operations.size s := hs
  obtain ⟨places, sorted, -, located⟩ := exists_places [] c.levels.reverse
  unfold scanMembers
  have fields := (attends_fields upheld located sorted hb).and_leads
    (Leads.forM start fun declared _ _ h => leads_matchField declared h)
  apply (fields.mono (fun _ _ _ h => h) fun calls walked =>
    Toured.mk ⟨calls, [], [], by simp, ⟨places, walked⟩, by simp [ShownMethods], asked_nil⟩).bind
  rintro _ fields s₁ hb₁ ⟨walked, -, h₁⟩
  have methods := (attends_methods upheld hb₁ c.methodWalk).and_leads
    (Leads.forM h₁ fun declared _ _ h => leads_matchMethod declared h)
  apply (methods.mono (fun _ _ _ h => h) fun calls shown =>
    Toured.mk ⟨fields, calls, [], by simp, ⟨places, walked⟩, shown, asked_nil⟩).bind
  rintro _ methods s₂ hb₂ ⟨shown, -, h₂⟩
  apply (attends_drain upheld (fun _ _ => trivial) hb₂ h₂).mono
  · intro _ requests _ asked
    exact ⟨fields, methods, requests, by simp, ⟨places, walked⟩, shown, asked.toAsked⟩
  · intro requests asked
    exact ⟨fields, methods, requests, by simp, ⟨places, walked⟩, shown, asked⟩

end Phases

inductive Staged (construction : Bool) (levels : List (ClassDescriptor P)) (s : Scan P) : Prop
  | intro {b : Bean P} {built members ends : List (Call P)} (opened : Opened construction b)
      (calls : s.calls.toList = built ++ members ++ ends)
      (asked : AskedUpTo (toLex (0, 0)) (toLex (b.operations.size, 0)) built)
      (toured : Toured levels (toLex (b.operations.size, 0)) members)
      (ended : ∀ call ∈ ends, call.event.isEnd = true)
      (seen : ∀ call ∈ members, b.Extends call.bean.value) (grown : b.Extends s.bean)

theorem Staged.append {construction : Bool} {levels : List (ClassDescriptor P)}
    {ends : List (Call P)} (h : Staged construction levels s)
    (calls : s'.calls.toList = s.calls.toList ++ ends)
    (ended : ∀ call ∈ ends, call.event.isEnd = true) (bean : s.bean.Extends s'.bean) :
    Staged construction levels s' := by
  obtain ⟨opened, calls', asked, toured, ended', seen, grown⟩ := h
  rw [calls', List.append_assoc] at calls
  exact ⟨opened, calls, asked, toured, List.forall_mem_append.mpr ⟨ended', ended⟩, seen,
    grown.trans bean⟩

section Stages

variable {given : Option (Handler P)}

theorem attends_built (hs : Settled f 0 s) (empty : s.bean.operations.size = 0) (bean : Bean P)
    (descriptor : bean.descriptor = s.bean.descriptor) :
    Attends f Bean.Founded s
      (if bean.source.isConstruction then scanConstructor f bean.descriptor else pure ⟨⟩)
      (fun _ calls s' => AskedUpTo (toLex (0, 0)) (toLex (s'.bean.operations.size, 0)) calls ∧
        Opened bean.source.isConstruction s'.bean ∧ Settled f 0 s')
      (Asked (toLex (0, 0))) := by
  have start : Progress f 0 0 0 0 s := by
    rw [Settled, empty] at hs
    exact hs
  cases construction : bean.source.isConstruction with
  | true =>
    rw [if_pos rfl, descriptor]
    exact attends_scanConstructor start empty
  | false =>
    rw [if_neg (by simp)]
    exact Attends.pure (Bean.founded_of_empty empty)
      ⟨askedUpTo_nil, ⟨hs.linked, by simp, hs.complete, fun _ => empty⟩, hs⟩

def Building (s : Scan P) : Prop := Asked (toLex (0, 0)) s.calls.toList ∧ s.bean.Founded

theorem building_of_quiet (empty : s.bean.operations.size = 0) (unheard : s.calls = #[])
    (unattended : Unattended s s') (quiet : Quiet s s') : Building s' := by
  refine ⟨?_, Bean.founded_of_empty (by rw [quiet.bean, empty])⟩
  rw [unattended.calls, unheard]
  exact asked_nil

/-- Wherever the scan stops, its calls are in stages; it may come no further than the
constructor. -/
theorem ends_scanOperations (hs : Settled f 0 s) (empty : s.bean.operations.size = 0)
    (unheard : s.calls = #[]) :
    Ends (scanOperations f s.bean) s
      (fun _ s' => Staged s.bean.source.isConstruction s.bean.descriptor.levels.reverse s')
      fun _ s' => Building s' ∨
        Staged s.bean.source.isConstruction s.bean.descriptor.levels.reverse s' := by
  have checks : Ends (checkClassMarkers f s.bean.descriptor) s
      (fun _ s₁ => Unattended s s₁ ∧ Quiet s s₁)
      fun _ s' => Building s' ∨
        Staged s.bean.source.isConstruction s.bean.descriptor.levels.reverse s' := by
    have hush : Hush (fun _ => True) (checkClassMarkers f s.bean.descriptor) :=
      (hush_compositional _).checkClassMarkers f s.bean.descriptor
    apply ((hush s trivial).and (silent_activating.checkClassMarkers f s.bean.descriptor s)).mono
    · exact fun _ _ h => ⟨h.1.1, h.2⟩
    · exact fun _ _ h => .inl (building_of_quiet empty unheard h.1.1 h.2)
  apply Ends.bind checks
  rintro _ s₁ ⟨unattended, quiet⟩
  have hs₁ : Settled f 0 s₁ := by
    rw [Settled, quiet.bean]
    exact quiet.progress hs
  have builds := attends_built hs₁ (by rw [quiet.bean, empty]) s.bean (by rw [quiet.bean])
  have since : ∀ {calls : List (Call P)} {s' : Scan P}, s'.calls.toList = s₁.calls.toList ++ calls →
      s'.calls.toList = calls := by
    intro calls s' since
    rw [since, unattended.calls, unheard]
    rfl
  have built : Ends (if s.bean.source.isConstruction then scanConstructor f s.bean.descriptor
      else pure ⟨⟩) s₁
      (fun _ s₂ => Opened s.bean.source.isConstruction s₂.bean ∧ Settled f 0 s₂ ∧
        AskedUpTo (toLex (0, 0)) (toLex (s₂.bean.operations.size, 0)) s₂.calls.toList)
      fun _ s' => Building s' ∨
        Staged s.bean.source.isConstruction s.bean.descriptor.levels.reverse s' := by
    apply Ends.mono builds
    · rintro _ s₂ ⟨calls, spans, -, asked, opened, settled⟩
      exact ⟨opened, settled, since spans.calls ▸ asked⟩
    · rintro _ s' ⟨calls, spans, -, asked⟩
      exact .inl ⟨since spans.calls ▸ asked, spans.kept⟩
  apply Ends.bind built
  rintro _ s₂ ⟨opened, settled, asked⟩
  have staged : ∀ {members : List (Call P)} {s' : Scan P}, Spans s₂.bean.Extends s₂ members s' →
      Toured s.bean.descriptor.levels.reverse (toLex (s₂.bean.operations.size, 0)) members →
        Staged s.bean.source.isConstruction s.bean.descriptor.levels.reverse s' := by
    intro members s' spans toured
    exact ⟨opened, by rw [spans.calls, List.append_nil], asked, toured, by simp, spans.seen,
      spans.kept⟩
  apply Ends.mono (attends_scanMembers (upheld_extends f s₂.bean) (.refl _) settled
    s.bean.descriptor)
  · rintro _ s' ⟨members, spans, -, toured⟩
    exact staged spans toured
  · rintro _ s' ⟨members, spans, -, toured⟩
    exact .inr (staged spans toured)

theorem Farewell.isEnd {told : List (Contributor P)} {ends : List (Call P)}
    (h : Farewell told s ends s') : ∀ call ∈ ends, call.event.isEnd = true := by
  intro call hc
  rw [h.ended call hc]
  rfl

/-- The end of the scan adds nothing but what it says to those who take part. -/
theorem ends_scanWith_staged (hs : Settled f 0 s) (empty : s.bean.operations.size = 0)
    (unheard : s.calls = #[]) (roster : Roster f given [] s) :
    Ends (scanWith f s.bean) s
      (fun _ s' => Staged s.bean.source.isConstruction s.bean.descriptor.levels.reverse s')
      fun _ s' => Building s' ∨
        Staged s.bean.source.isConstruction s.bean.descriptor.levels.reverse s' := by
  rw [scanWith_eq]
  have operations := (ends_scanOperations hs empty unheard).and
    (attentive_scanOperations (upheld_true f) s.bean s trivial)
  apply Ends.bind (operations.imp_failed fun _ _ h => h.1)
  rintro _ s₁ ⟨staged, -, -, enrolled, -⟩
  have roster₁ := enrolled.roster given roster
  rw [ends_bind, ends_get, ends_bind]
  apply ((ends_farewell roster₁.attendance roster₁.distinct roster₁.contexts
    fun c hc => roster₁.contributor?_key hc).and (silent_activating.finish s₁.contributors s₁)).mono
  · rintro _ s₂ ⟨⟨-, ends, farewell⟩, quiet⟩
    have change : Change f s₁.bean { s₁.bean with scanned := true } := .close
    have grown : s₁.bean.Extends { s₂.bean with scanned := true } := by
      rw [quiet.bean]
      exact change.grows
    rw [ends_modify]
    exact staged.append farewell.calls farewell.isEnd grown
  · rintro _ s₂ ⟨⟨-, told, ends, -, farewell⟩, quiet⟩
    exact .inr (staged.append farewell.calls farewell.isEnd (quiet.bean ▸ .refl _))

/-- The frame of the scan is known only once the hooks of the class are. -/
theorem ends_scanBean_staged (host : Host P) (empty : s.bean.operations = #[])
    (queue : s.queue = []) (calls : s.calls = #[]) (transcript : s.transcript = #[])
    (contributors : s.contributors = []) :
    Ends (scanBean host) s
      (fun _ s' => Staged s.bean.source.isConstruction s.bean.descriptor.levels.reverse s')
      fun _ s' => Building s' ∨
        Staged s.bean.source.isConstruction s.bean.descriptor.levels.reverse s' := by
  have size : s.bean.operations.size = 0 := by
    rw [empty]
    rfl
  have looks : Hush (fun _ => True) (withCatalog fun w => Catalog.modelFor w s.bean.descriptor) :=
    hush_withCatalog _
  apply ends_scanBean_of
  · exact fun _ => .inl (building_of_quiet size calls (.refl s) (.refl s))
  apply ((looks s trivial).and (silent_withCatalog _ s)).mono
  · rintro model s' ⟨⟨unattended, -⟩, quiet⟩
    have roster : Roster ⟨host, model, s.bean.type, s.bean.installer⟩ s.preset [] s' :=
      (roster_begin _ calls transcript contributors rfl).unattended unattended
    have size' : s'.bean.operations.size = 0 := by rw [quiet.bean, size]
    have settled : Settled ⟨host, model, s.bean.type, s.bean.installer⟩ 0 s' := by
      have linked : s'.bean.Linked := .of_empty (by rw [quiet.bean, empty])
      rw [← size']
      exact settled_begin linked (by rw [quiet.bean]) (quiet.queue.trans queue)
    have ran := ends_scanWith_staged settled size' (unattended.calls.trans calls) roster
    rw [quiet.bean] at ran
    exact ran
  · exact fun _ _ h => .inl (building_of_quiet size calls h.1.1 h.2)

end Stages

end Scan

namespace ScanEvent

def isMember (event : ScanEvent P) : Bool := event.field?.isSome || event.isMethod

theorem asks_of_only {event : ScanEvent P}
    (h : event.isStart = true ∨ event.slot?.isSome = true) :
    event.field? = none ∧ event.isMethod = false := by
  cases event <;> simp_all [isStart, slot?, field?, isMethod]

theorem field_of_only {event : ScanEvent P}
    (h : event.isStart = true ∨ event.field?.isSome = true) :
    event.slot? = none ∧ event.isMethod = false := by
  cases event <;> simp_all [isStart, slot?, field?, isMethod]

theorem method_of_only {event : ScanEvent P} (h : event.isStart = true ∨ event.isMethod = true) :
    event.slot? = none ∧ event.field? = none := by
  cases event <;> simp_all [isStart, slot?, field?, isMethod]

theorem end_of_isEnd {event : ScanEvent P} (h : event.isEnd = true) :
    event.slot? = none ∧ event.field? = none ∧ event.isMethod = false := by
  cases event <;> simp_all [isEnd, slot?, field?, isMethod]

end ScanEvent

structure Sequenced (construction : Bool) (levels : List (ClassDescriptor P)) (s : Scan P) :
    Prop where
  /-- No callback is missing from the calls. -/
  told : s.callbacks = s.calls.toList.map (·.event)
  /-- No parameter is asked for before one of an operation before, or before one to its left. -/
  requested : (slotsOf s.calls.toList).Pairwise (· < ·)
  /-- The operation that makes the instance is the first one. -/
  constructor : construction = true → ∀ top, s.bean.constructor? = some top → top.id = 0
  /-- When members are shown, all that the instance needs is bound. -/
  bound : construction = true → ∀ call ∈ s.calls.toList, call.event.isMember = true →
    call.bean.value.ConstructorBound
  /-- No field is shown once a method was. -/
  fieldsFirst : s.calls.toList.Pairwise fun call later =>
    call.event.isMethod = true → later.event.field? = none
  /-- Fields are shown level by level, and within a level as they are declared. -/
  fields : ∃ places : List (Nat ×ₗ Nat), places.Pairwise (· ≤ ·) ∧
    List.Forall₂ (FieldAt levels) places (fieldsOf s.calls.toList)
  /-- Once a parameter was asked for that the instance can do without, no member is shown. -/
  requestsLast : s.calls.toList.Pairwise fun call later =>
    ∀ slot, call.event.slot? = some slot →
      ¬ (construction = true ∧ s.bean.Under 0 (ofLex slot).1) → later.event.isMember = false

namespace Scan

theorem Building.sequenced {construction : Bool} {levels : List (ClassDescriptor P)} {s : Scan P}
    (h : Building s) (linked : s.bean.Linked)
    (told : s.callbacks = s.calls.toList.map (·.event)) : Sequenced construction levels s := by
  have others : ∀ call ∈ s.calls.toList, call.event.field? = none ∧ call.event.isMethod = false :=
    fun call hc => ScanEvent.asks_of_only (h.1.only call hc)
  have members : ∀ call ∈ s.calls.toList, call.event.isMember = false := by
    intro call hc
    simp [ScanEvent.isMember, others call hc]
  have none : fieldsOf s.calls.toList = [] := fieldsOf_eq_nil fun call hc => (others call hc).1
  refine ⟨told, h.1.ordered, ?_, ?_, ?_, ⟨[], by simp, none ▸ .nil⟩, ?_⟩
  · exact fun _ _ made => h.2.id_eq linked made
  · intro _ call hc member
    rw [members call hc] at member
    cases member
  · exact List.pairwise_of_forall_mem_list fun _ _ later hl _ => (others later hl).1
  · exact List.pairwise_of_forall_mem_list fun _ _ later hl _ _ _ => members later hl

/-- What the early ones have with all that come after them, and the late ones with all before. -/
theorem pairwise_of_split {α : Type} {relation : α → α → Prop} {early late : List α}
    (left : ∀ x ∈ early, ∀ y, relation x y) (right : ∀ y ∈ late, ∀ x, relation x y) :
    (early ++ late).Pairwise relation := by
  rw [List.pairwise_append]
  exact ⟨List.pairwise_of_forall_mem_list fun x hx y _ => left x hx y,
    List.pairwise_of_forall_mem_list fun x _ y hy => right y hy x, fun x hx y _ => left x hx y⟩

/-- The calls of each phase are of one kind, apart from those that activate extensions. -/
structure Phases (built fields methods requests ends : List (Call P)) : Prop where
  built : ∀ call ∈ built, call.event.field? = none ∧ call.event.isMethod = false
  fields : ∀ call ∈ fields, call.event.slot? = none ∧ call.event.isMethod = false
  methods : ∀ call ∈ methods, call.event.slot? = none ∧ call.event.field? = none
  requests : ∀ call ∈ requests, call.event.field? = none ∧ call.event.isMethod = false
  ends : ∀ call ∈ ends,
    call.event.slot? = none ∧ call.event.field? = none ∧ call.event.isMethod = false

namespace Phases

variable {built fields methods requests ends : List (Call P)}

theorem slotsOf_eq (h : Phases built fields methods requests ends) :
    slotsOf (built ++ fields ++ methods ++ requests ++ ends) =
      slotsOf built ++ slotsOf requests := by
  have inFields : slotsOf fields = [] := slotsOf_eq_nil fun call hc => (h.fields call hc).1
  have inMethods : slotsOf methods = [] := slotsOf_eq_nil fun call hc => (h.methods call hc).1
  have inEnds : slotsOf ends = [] := slotsOf_eq_nil fun call hc => (h.ends call hc).1
  simp [slotsOf_append, inFields, inMethods, inEnds]

theorem fieldsOf_eq (h : Phases built fields methods requests ends) :
    fieldsOf (built ++ fields ++ methods ++ requests ++ ends) = fieldsOf fields := by
  have inBuilt : fieldsOf built = [] := fieldsOf_eq_nil fun call hc => (h.built call hc).1
  have inMethods : fieldsOf methods = [] := fieldsOf_eq_nil fun call hc => (h.methods call hc).2
  have inRequests : fieldsOf requests = [] := fieldsOf_eq_nil fun call hc => (h.requests call hc).1
  have inEnds : fieldsOf ends = [] := fieldsOf_eq_nil fun call hc => (h.ends call hc).2.1
  simp [fieldsOf_append, inBuilt, inMethods, inRequests, inEnds]

/-- Only after the instance can be made, and before the end of the scan, members are shown. -/
theorem of_isMember (h : Phases built fields methods requests ends) {call : Call P}
    (hc : call ∈ built ++ fields ++ methods ++ requests ++ ends)
    (member : call.event.isMember = true) : call ∈ fields ++ methods ++ requests := by
  simp only [List.mem_append] at hc ⊢
  rcases hc with (((hc | hc) | hc) | hc) | hc
  · simp [ScanEvent.isMember, h.built call hc] at member
  · exact .inl (.inl hc)
  · exact .inl (.inr hc)
  · exact .inr hc
  · simp [ScanEvent.isMember, h.ends call hc] at member

theorem fieldsFirst (h : Phases built fields methods requests ends) :
    (built ++ fields ++ methods ++ requests ++ ends).Pairwise fun call later =>
      call.event.isMethod = true → later.event.field? = none := by
  have halves : built ++ fields ++ methods ++ requests ++ ends =
      (built ++ fields) ++ (methods ++ requests ++ ends) := by simp
  rw [halves]
  apply pairwise_of_split
  · intro call hc later method
    have other : call.event.isMethod = false :=
      (List.mem_append.mp hc).elim (fun hc => (h.built call hc).2) fun hc => (h.fields call hc).2
    rw [other] at method
    cases method
  · intro later hl call _
    rw [List.mem_append, List.mem_append] at hl
    rcases hl with (hl | hl) | hl
    · exact (h.methods later hl).2
    · exact (h.requests later hl).1
    · exact (h.ends later hl).2.1

/-- What is asked for once members were shown is asked for after all of them. -/
theorem requestsLast (h : Phases built fields methods requests ends)
    {needed : Nat ×ₗ Nat → Prop} (all : ∀ slot ∈ slotsOf built, needed slot) :
    (built ++ fields ++ methods ++ requests ++ ends).Pairwise fun call later =>
      ∀ slot, call.event.slot? = some slot → ¬ needed slot → later.event.isMember = false := by
  have halves : built ++ fields ++ methods ++ requests ++ ends =
      (built ++ fields ++ methods) ++ (requests ++ ends) := by simp
  rw [halves]
  apply pairwise_of_split
  · intro call hc later slot asks other
    rw [List.mem_append, List.mem_append] at hc
    rcases hc with (hc | hc) | hc
    · exact absurd (all slot (List.mem_filterMap.mpr ⟨call, hc, asks⟩)) other
    · rw [(h.fields call hc).1] at asks
      cases asks
    · rw [(h.methods call hc).1] at asks
      cases asks
  · intro later hl call _ _ _
    rcases List.mem_append.mp hl with hl | hl
    · simp [ScanEvent.isMember, h.requests later hl]
    · simp [ScanEvent.isMember, h.ends later hl]

end Phases

/-- What is asked for before members are shown is needed to make the instance. -/
theorem Opened.inTree {construction : Bool} {b later : Bean P} (h : Opened construction b)
    (grown : b.Extends later) {slot : Nat ×ₗ Nat} (lt : slot < toLex (b.operations.size, 0)) :
    construction = true ∧ later.Under 0 (ofLex slot).1 := by
  have room : (ofLex slot).1 < b.operations.size := by
    simpa [Prod.Lex.lt_iff] using lt
  cases construction with
  | true => exact ⟨rfl, grown.under ((h.tree rfl).under h.linked room)⟩
  | false =>
    rw [h.empty rfl] at room
    cases room

theorem Staged.sequenced {construction : Bool} {levels : List (ClassDescriptor P)} {s : Scan P}
    (h : Staged construction levels s) (told : s.callbacks = s.calls.toList.map (·.event)) :
    Sequenced construction levels s := by
  obtain @⟨b, built, members, ends, opened, calls, asked, toured, ended, seen, grown⟩ := h
  obtain ⟨fields, methods, requests, rfl, ⟨places, walked⟩, shown, asked'⟩ := toured.split
  have phases : Phases built fields methods requests ends :=
    { built := fun call hc => ScanEvent.asks_of_only (asked.only call hc)
      fields := fun call hc => ScanEvent.field_of_only (walked.only call hc)
      methods := fun call hc => ScanEvent.method_of_only (shown call hc)
      requests := fun call hc => ScanEvent.asks_of_only (asked'.only call hc)
      ends := fun call hc => ScanEvent.end_of_isEnd (ended call hc) }
  have inOrder : s.calls.toList = built ++ fields ++ methods ++ requests ++ ends := by
    simp [calls]
  refine ⟨told, ?_, ?_, ?_, ?_, ?_, ?_⟩
  · rw [inOrder, phases.slotsOf_eq, List.pairwise_append]
    exact ⟨asked.ordered, asked'.ordered, fun slot hs slot' hs' =>
      (asked.lt_last slot hs).trans_le (asked'.first_le slot' hs')⟩
  · intro makes top made
    obtain ⟨top', made', first, -⟩ :=
      grown.constructorBound (opened.tree makes) opened.linked opened.complete
    obtain rfl : top = top' := Option.some.inj (made.symm.trans made')
    exact first
  · intro makes call hc member
    rw [inOrder] at hc
    have grown' := seen call (phases.of_isMember hc member)
    exact grown'.constructorBound (opened.tree makes) opened.linked opened.complete
  · rw [inOrder]
    exact phases.fieldsFirst
  · obtain ⟨places', sorted, -, located⟩ := walked.located
    rw [inOrder, phases.fieldsOf_eq]
    exact ⟨places', sorted, located⟩
  · rw [inOrder]
    exact phases.requestsLast fun slot hs => opened.inTree grown (asked.lt_last slot hs)

end Scan

/-- However a scan of a new bean ends, and whatever handlers do, its callbacks come in order. -/
theorem Attempt.sequenced_run (a : Attempt P) (c : ClassDescriptor P) (source : Source P)
    (installer : Party) :
    Sequenced source.isConstruction c.levels.reverse (a.run (.fresh c source installer)).2 := by
  have ends : Ends (Scan.scanBean a.deployment.container.host)
      (a.deployment.beginScan (.fresh c source installer) a.preset)
      (fun _ s' => Scan.Staged source.isConstruction c.levels.reverse s')
      fun _ s' => Scan.Building s' ∨
        Scan.Staged source.isConstruction c.levels.reverse s' :=
    Scan.ends_scanBean_staged _ rfl rfl rfl rfl rfl
  have told := a.told_run (.fresh c source installer)
  have linked : (a.run (.fresh c source installer)).2.bean.Linked := by
    obtain ⟨f, reached⟩ := a.follows_run (Bean.Linked.of_empty (b := .fresh c source installer) rfl)
    rw [List.cons_append, List.pairwise_cons] at reached
    have reaches := reached.1 (a.bean (.fresh c source installer)) (by simp)
    exact reaches.linked (.of_empty rfl)
  rcases ends.cases with ⟨_, s', ran, staged⟩ | ⟨e, s', ran, building | staged⟩
  · have run : a.run (.fresh c source installer) = (.ok ⟨⟩, s') := ran
    rw [run] at told ⊢
    exact staged.sequenced told
  · have run : a.run (.fresh c source installer) = (.error e, s') := ran
    rw [run] at told linked ⊢
    exact building.sequenced linked told
  · have run : a.run (.fresh c source installer) = (.error e, s') := ran
    rw [run] at told ⊢
    exact staged.sequenced told

end Injector

import Mathlib.Data.Prod.Lex
import Mathlib.Data.List.Forall2
import Injector.Proofs.Scan.Activation
import Injector.Class.Hierarchy

/-!
# The walks over the members of a class

Each field is shown to the extensions it matches before the next one is, from the root class down
and as they are declared; methods are shown by another walk, and neither walk asks for the value of
a parameter.
-/

set_option autoImplicit false

namespace Injector

variable {P : Platform}

namespace ScanEvent

def field? : ScanEvent P → Option (DeclaredField P)
  | fieldMatched shown => some ⟨shown.owner, shown.field⟩
  | _ => none

theorem field?_of_isStart {event : ScanEvent P} (h : event.isStart = true) :
    event.field? = none := by
  cases event with
  | started context preset => rfl
  | _ => cases h

def isMethod : ScanEvent P → Bool
  | methodMatched _ => true
  | _ => false

end ScanEvent

def fieldsOf (calls : List (Call P)) : List (DeclaredField P) := calls.filterMap (·.event.field?)

theorem fieldsOf_append (calls later : List (Call P)) :
    fieldsOf (calls ++ later) = fieldsOf calls ++ fieldsOf later := List.filterMap_append

theorem fieldsOf_eq_nil {calls : List (Call P)} (h : ∀ call ∈ calls, call.event.field? = none) :
    fieldsOf calls = [] := List.filterMap_eq_nil_iff.mpr h

/-- The field has this place: the number of its class among the levels, and its own among the
fields of that class. -/
def FieldAt (levels : List (ClassDescriptor P)) (place : Nat ×ₗ Nat) (declared : DeclaredField P) :
    Prop :=
  levels[(ofLex place).1]? = some declared.owner ∧
    declared.owner.fields[(ofLex place).2]? = some declared.field

/-- The fields of one level, which comes after those of `above`. -/
theorem fieldAt_level (above below : List (ClassDescriptor P)) (level : ClassDescriptor P) :
    List.Forall₂ (FieldAt (above ++ level :: below))
      ((List.range level.fields.length).map fun i => toLex (above.length, i))
      level.declaredFields := by
  rw [ClassDescriptor.declaredFields, List.forall₂_map_left_iff, List.forall₂_map_right_iff,
    List.forall₂_iff_get]
  refine ⟨List.length_range, fun i hi hj => ⟨?_, ?_⟩⟩
  · simp
  · simp only [List.get_eq_getElem, List.getElem_range, ofLex_toLex]
    exact List.getElem?_eq_getElem hj

/-- A field comes after those of the levels before its own, and after those declared before it. -/
theorem exists_places (above levels : List (ClassDescriptor P)) :
    ∃ places : List (Nat ×ₗ Nat), places.Pairwise (· < ·) ∧
      (∀ place ∈ places, toLex (above.length, 0) ≤ place) ∧
        List.Forall₂ (FieldAt (above ++ levels)) places
          (levels.flatMap ClassDescriptor.declaredFields) := by
  induction levels generalizing above with
  | nil => exact ⟨[], by simp, by simp, .nil⟩
  | cons level below ih =>
    obtain ⟨places, sorted, after, located⟩ := ih (above ++ [level])
    rw [List.length_append, List.length_singleton] at after
    rw [List.append_assoc, List.singleton_append] at located
    refine ⟨(List.range level.fields.length).map (fun i => toLex (above.length, i)) ++ places,
      ?_, ?_, ?_⟩
    · rw [List.pairwise_append, List.pairwise_map]
      refine ⟨?_, sorted, ?_⟩
      · have declared : ∀ {i j : Nat}, i < j → toLex (above.length, i) < toLex (above.length, j) :=
          fun lt => Prod.Lex.toLex_lt_toLex.mpr (.inr ⟨rfl, lt⟩)
        exact List.pairwise_lt_range.imp declared
      · rw [List.forall_mem_map]
        intro i _ place hp
        exact (Prod.Lex.toLex_lt_toLex.mpr (.inl (Nat.lt_succ_self _))).trans_le (after place hp)
    · rw [List.forall_mem_append, List.forall_mem_map]
      refine ⟨fun i _ => Prod.Lex.toLex_le_toLex.mpr (.inr ⟨rfl, Nat.zero_le i⟩), ?_⟩
      intro place hp
      exact (Prod.Lex.toLex_le_toLex.mpr (.inl (Nat.lt_succ_self _))).trans (after place hp)
    · exact List.rel_append (fieldAt_level above below level) located

namespace Scan

variable {f : ScanFrame P} {invariant : Bean P → Prop} {fit : Operation P → Prop} {s : Scan P}

section Fields

def ShownField (declared : DeclaredField P) (calls : List (Call P)) : Prop :=
  ∀ call ∈ calls, call.event.isStart = true ∨ call.event.field? = some declared

theorem shownField_of_starts {declared : DeclaredField P} {calls : List (Call P)}
    (h : Starts calls) : ShownField declared calls := fun call hc => Or.inl (h call hc)

theorem ShownField.append {declared : DeclaredField P} {calls later : List (Call P)}
    (h : ShownField declared calls) (k : ShownField declared later) :
    ShownField declared (calls ++ later) := List.forall_mem_append.mpr ⟨h, k⟩

theorem attends_showField (upheld : Upheld f invariant fit)
    (fits : ∀ (m : FieldMatch P) call id op, m.build id call = .ok op → fit op)
    (hb : invariant s.bean) (declared : DeclaredField P) (g : HookGroup P) :
    Attends f invariant s (showField f declared g) (fun _ calls _ => ShownField declared calls)
      (ShownField declared) := by
  let shown : Contributor P → FieldMatch P := fun c =>
    ⟨declared.owner, declared.field, g.markers, g.caps, c.contextFor g.extension⟩
  have talks : ∀ c s, invariant s.bean →
      Ends (converse c (.fieldMatched (shown c)) (c.handler.onField (shown c))
          (answerField (shown c))) s
        (fun _ s' => Talks invariant c (.fieldMatched (shown c)) s s')
        fun _ s' => Talks invariant c (.fieldMatched (shown c)) s s' := fun c s hb =>
    ends_converse (fun call => local_answerField upheld _ call fun _ _ => fits _ call) hb
  have only : ∀ calls, Shows (fun c => .fieldMatched (shown c)) calls →
      ShownField declared calls := by
    rintro _ ⟨starts, last, rfl, activates, matched⟩
    apply (shownField_of_starts activates).append
    intro call hc
    refine Or.inr ?_
    rw [matched call (Option.mem_toList.mp hc)]
    rfl
  exact (attends_announce (fun _ => rfl) (fun _ => ⟨rfl, rfl⟩) talks hb).mono
    (fun _ calls _ => only calls) only

/-- The operation that writes a field is made without a callback. -/
theorem attends_inject (upheld : Upheld f invariant fun _ => True) (hb : invariant s.bean)
    (declared : DeclaredField P) (extension : ExtensionKey) :
    Attends f invariant s (inject f declared extension) (fun _ calls _ => Starts calls) Starts := by
  unfold inject
  apply ((attends_activate hb).mono (fun _ _ _ h => h) fun _ h => h).bind
  rintro c calls s' hb' ⟨starts, -⟩
  have added : Hush invariant (liftM (checkAccess declared.owner declared.field.name
      declared.field.visibility (c.contextFor extension)) >>= fun _ => nextId >>= fun id =>
        liftM (Operation.ofInjection id declared.owner declared.field (.extension extension)) >>=
          fun op => Functor.discard (append op)) := by
    apply (hush_except _).bind
    intro _
    apply local_nextId.hush.bind
    intro id
    apply (hush_except _).bind
    intro op
    exact (hush_compositional invariant).discard (local_append (upheld.appended op trivial)).hush
  apply (added.attends hb').mono
  · rintro _ _ _ rfl
    simpa using starts
  · rintro _ rfl
    simpa using starts

theorem attends_forM {α : Type} {xs : List α} {step : α → ScanM P PUnit}
    {only : List (Call P) → Prop} (nothing : only [])
    (append : ∀ calls later, only calls → only later → only (calls ++ later))
    (h : ∀ x s, invariant s.bean →
      Attends f invariant s (step x) (fun _ calls _ => only calls) only)
    (hb : invariant s.bean) :
    Attends f invariant s (xs.forM step) (fun _ calls _ => only calls) only := by
  induction xs generalizing s with
  | nil => exact Attends.pure hb nothing
  | cons x xs ih =>
    show Attends f invariant s (step x >>= fun _ => xs.forM step) _ _
    apply (h x s hb).bind
    intro _ calls s' hb' shown
    exact (ih hb').mono (fun _ later _ => append calls later shown)
      fun later => append calls later shown

theorem attends_matchField (upheld : Upheld f invariant fun _ => True) (hb : invariant s.bean)
    (declared : DeclaredField P) :
    Attends f invariant s (matchField f declared) (fun _ calls _ => ShownField declared calls)
      (ShownField declared) := by
  have nothing : ShownField declared [] := shownField_of_starts starts_nil
  unfold matchField
  apply ((hush_compositional invariant).hitsOf f declared.field.markers).bind_attends hb nothing
  intro hits s' hb'
  split
  next => exact Attends.pure hb' nothing
  next => exact Attends.throw hb' nothing
  next => exact Attends.throw hb' nothing
  next =>
    exact (attends_inject upheld hb' declared _).mono (fun _ _ _ => shownField_of_starts)
      fun _ => shownField_of_starts
  next =>
    exact attends_forM nothing (fun _ _ => ShownField.append)
      (fun g _ hb => attends_showField upheld (fun _ _ _ _ _ => trivial) hb declared g) hb'

/-- The fields that are shown have places among `places`, none before that of the one before. -/
structure Walked (levels : List (ClassDescriptor P)) (places : List (Nat ×ₗ Nat))
    (calls : List (Call P)) : Prop where
  only : ∀ call ∈ calls, call.event.isStart = true ∨ call.event.field?.isSome = true
  located : ∃ shown : List (Nat ×ₗ Nat), shown.Pairwise (· ≤ ·) ∧ shown ⊆ places ∧
    List.Forall₂ (FieldAt levels) shown (fieldsOf calls)

theorem walked_nil (levels : List (ClassDescriptor P)) (places : List (Nat ×ₗ Nat)) :
    Walked levels places [] :=
  ⟨by simp, [], by simp, by simp, .nil⟩

theorem ShownField.walked {levels : List (ClassDescriptor P)} {declared : DeclaredField P}
    {place : Nat ×ₗ Nat} {calls : List (Call P)} (h : ShownField declared calls)
    (here : FieldAt levels place declared) : Walked levels [place] calls where
  only := by
    intro call hc
    apply (h call hc).imp_right
    intro shown
    rw [shown]
    rfl
  located := by
    refine ⟨(fieldsOf calls).map fun _ => place, ?_, ?_, ?_⟩
    · rw [List.pairwise_map]
      exact List.pairwise_of_forall fun _ _ => le_rfl
    · intro shown hs
      simpa using (List.mem_map.mp hs).choose_spec.2.symm
    · rw [List.forall₂_map_left_iff, List.forall₂_same]
      intro field hf
      obtain ⟨call, hc, shown⟩ := List.mem_filterMap.mp hf
      rcases h call hc with start | same
      · rw [ScanEvent.field?_of_isStart start] at shown
        cases shown
      · rw [same] at shown
        cases shown
        exact here

theorem Walked.append {levels : List (ClassDescriptor P)} {place : Nat ×ₗ Nat}
    {places : List (Nat ×ₗ Nat)} {calls later : List (Call P)} (h : Walked levels [place] calls)
    (k : Walked levels places later) (before : ∀ other ∈ places, place < other) :
    Walked levels (place :: places) (calls ++ later) where
  only := List.forall_mem_append.mpr ⟨h.only, k.only⟩
  located := by
    obtain ⟨shown, sorted, among, located⟩ := h.located
    obtain ⟨shown', sorted', among', located'⟩ := k.located
    refine ⟨shown ++ shown', ?_, ?_, ?_⟩
    · rw [List.pairwise_append]
      refine ⟨sorted, sorted', fun p hp p' hp' => ?_⟩
      rw [List.mem_singleton.mp (among hp)]
      exact (before p' (among' hp')).le
    · rw [List.append_subset]
      exact ⟨fun p hp => by simp [List.mem_singleton.mp (among hp)],
        fun p hp => List.mem_cons_of_mem _ (among' hp)⟩
    · rw [fieldsOf_append]
      exact List.rel_append located located'

theorem Walked.mono {levels : List (ClassDescriptor P)} {places places' : List (Nat ×ₗ Nat)}
    {calls : List (Call P)} (h : Walked levels places calls) (more : places ⊆ places') :
    Walked levels places' calls := by
  obtain ⟨shown, sorted, among, located⟩ := h.located
  exact ⟨h.only, shown, sorted, List.Subset.trans among more, located⟩

theorem attends_fields (upheld : Upheld f invariant fun _ => True)
    {levels : List (ClassDescriptor P)} {walk : List (DeclaredField P)} {places : List (Nat ×ₗ Nat)}
    (located : List.Forall₂ (FieldAt levels) places walk) (sorted : places.Pairwise (· < ·))
    (hb : invariant s.bean) :
    Attends f invariant s (walk.forM (matchField f)) (fun _ calls _ => Walked levels places calls)
      (Walked levels places) := by
  induction located generalizing s with
  | nil => exact Attends.pure hb (walked_nil levels [])
  | @cons place declared places walk here located ih =>
    rw [List.pairwise_cons] at sorted
    have first : ∀ calls, ShownField declared calls → Walked levels (place :: places) calls :=
      fun calls shown => (shown.walked here).mono (by simp)
    have matched := (attends_matchField upheld hb declared).mono (fun _ _ _ h => h) first
    show Attends f invariant s (matchField f declared >>= fun _ => walk.forM (matchField f)) _ _
    apply matched.bind
    intro _ calls s' hb' shown
    exact (ih sorted.2 hb').mono
      (fun _ _ _ walked => (shown.walked here).append walked sorted.1)
      fun _ walked => (shown.walked here).append walked sorted.1

end Fields

section Methods

def ShownMethods (calls : List (Call P)) : Prop :=
  ∀ call ∈ calls, call.event.isStart = true ∨ call.event.isMethod = true

theorem attends_showMethod (upheld : Upheld f invariant fit)
    (fits : ∀ id owner (method : Method P) operator op,
      Operation.ofMethod id owner method operator = .ok op → fit op)
    (hb : invariant s.bean) (declared : DeclaredMethod P) (g : HookGroup P) :
    Attends f invariant s (showMethod f declared g) (fun _ calls _ => ShownMethods calls)
      ShownMethods := by
  let shown : Contributor P → MethodMatch P := fun c =>
    ⟨declared.owner, declared.method, g.markers, c.contextFor g.extension⟩
  have talks : ∀ c s, invariant s.bean →
      Ends (converse c (.methodMatched (shown c)) (c.handler.onMethod (shown c))
          (answerMethod (shown c))) s
        (fun _ s' => Talks invariant c (.methodMatched (shown c)) s s')
        fun _ s' => Talks invariant c (.methodMatched (shown c)) s s' := fun c s hb =>
    ends_converse (fun call => local_answerMethod upheld _ call fun _ id => fits id _ _ _) hb
  have only : ∀ calls, Shows (fun c => .methodMatched (shown c)) calls → ShownMethods calls := by
    rintro _ ⟨starts, last, rfl, activates, matched⟩
    rw [ShownMethods, List.forall_mem_append]
    refine ⟨fun call hc => Or.inl (activates call hc), fun call hc => Or.inr ?_⟩
    rw [matched call (Option.mem_toList.mp hc)]
    rfl
  exact (attends_announce (fun _ => rfl) (fun _ => ⟨rfl, rfl⟩) talks hb).mono
    (fun _ calls _ => only calls) only

theorem attends_matchMethod (upheld : Upheld f invariant fit)
    (fits : ∀ id owner (method : Method P) operator op,
      Operation.ofMethod id owner method operator = .ok op → fit op)
    (hb : invariant s.bean) (declared : DeclaredMethod P) :
    Attends f invariant s (matchMethod f declared) (fun _ calls _ => ShownMethods calls)
      ShownMethods := by
  have nothing : ShownMethods ([] : List (Call P)) := by simp [ShownMethods]
  unfold matchMethod
  apply ((hush_compositional invariant).hitsOf f declared.method.markers).bind_attends hb nothing
  intro hits s' hb'
  exact attends_forM nothing (fun _ _ h k => List.forall_mem_append.mpr ⟨h, k⟩)
    (fun g _ hb => attends_showMethod upheld fits hb declared g) hb'

theorem attends_methods (upheld : Upheld f invariant fun _ => True) (hb : invariant s.bean)
    (walk : List (DeclaredMethod P)) :
    Attends f invariant s (walk.forM (matchMethod f)) (fun _ calls _ => ShownMethods calls)
      ShownMethods :=
  attends_forM (by simp [ShownMethods]) (fun _ _ h k => List.forall_mem_append.mpr ⟨h, k⟩)
    (fun declared _ hb => attends_matchMethod upheld (fun _ _ _ _ _ _ => trivial) hb declared) hb

end Methods

end Scan

end Injector

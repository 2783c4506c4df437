import Injector.Proofs.Lists
import Injector.Proofs.Service.Journal

/-!
# Reading the journal

Which services are in flight at a point of it follows from what is told before, and the story of a
service tells whether an instance is being made, and which one was.
-/

set_option autoImplicit false

namespace Injector

variable {P : Platform}

def ServiceEvent.inFlight (stack : List Address) : ServiceEvent P → List Address
  | entered a => stack ++ [a]
  | left .. => stack.dropLast
  | _ => stack

def inFlightAfter (told : List (ServiceEvent P)) (stack : List Address) : List Address :=
  told.foldl ServiceEvent.inFlight stack

theorem inFlightAfter_append (told later : List (ServiceEvent P)) (stack : List Address) :
    inFlightAfter (told ++ later) stack = inFlightAfter later (inFlightAfter told stack) :=
  List.foldl_append

namespace Services

variable {s : Services P} {stack : List Address} {journal told rest : List (ServiceEvent P)}
  {event : ServiceEvent P} {a : Address}

/-- The event can happen while `stack` is in flight. What is told of the making of an instance is
told of the innermost service. -/
def Allows (s : Services P) (stack : List Address) : ServiceEvent P → Prop
  | .entered a => s.contains a = true ∧ stack.any (· == a) = false
  | .left a _ => stack.getLast? = some a
  | .refused a chain => s.Refuses stack a chain
  | .begun a | .built a _ | .failed a => ∃ b, stack.getLast? = some b ∧ (a == b) = true

def Obeys (s : Services P) : List Address → List (ServiceEvent P) → Prop
  | _, [] => True
  | stack, event :: rest => s.Allows stack event ∧ s.Obeys (event.inFlight stack) rest

theorem obeys_append : s.Obeys stack (told ++ rest) ↔
    s.Obeys stack told ∧ s.Obeys (inFlightAfter told stack) rest := by
  induction told generalizing stack with
  | nil => exact (iff_of_eq (true_and _)).symm
  | cons event told ih =>
    show _ ∧ s.Obeys _ (told ++ rest) ↔ (_ ∧ s.Obeys _ told) ∧ _
    rw [ih, and_assoc]
    rfl

theorem Proper.allows (h : s.Proper (stack ++ [a])) : s.Allows stack (.entered a) := by
  refine ⟨h.registered a (List.mem_append_right stack List.mem_cons_self), ?_⟩
  rw [List.any_eq_false]
  intro b hb
  rw [(List.pairwise_append.mp h.distinct).2.2 b hb a List.mem_cons_self]
  exact Bool.false_ne_true

theorem Proper.dropLast (h : s.Proper stack) : s.Proper stack.dropLast where
  distinct := h.distinct.sublist (List.dropLast_sublist stack)
  registered := fun a ha => h.registered a ((List.dropLast_sublist stack).subset ha)

theorem Allows.proper (allows : s.Allows stack event) (proper : s.Proper stack) :
    s.Proper (event.inFlight stack) := by
  cases event with
  | entered a => exact proper.snoc allows.1 allows.2
  | left a result => exact proper.dropLast
  | refused a chain | begun a | built a value | failed a => exact proper

theorem Obeys.proper (obeys : s.Obeys stack told) (proper : s.Proper stack) :
    s.Proper (inFlightAfter told stack) := by
  induction told generalizing stack with
  | nil => exact proper
  | cons event told ih => exact ih obeys.2 (obeys.1.proper proper)

theorem inFlight_of_marks (marks : event.Marks a) (stack : List Address) :
    event.inFlight stack = stack := by
  cases event with
  | begun b | built b value | failed b => rfl
  | entered b | left b result | refused b chain => exact marks.elim

theorem allows_of_marks {outer : List Address} (marks : event.Marks a) :
    s.Allows (outer ++ [a]) event := by
  cases event with
  | begun b | built b value | failed b => exact ⟨a, List.getLast?_concat, marks⟩
  | entered b | left b result | refused b chain => exact marks.elim

theorem Nested.inFlightAfter_eq (h : s.Nested stack told) : inFlightAfter told stack = stack := by
  induction h with
  | nil => rfl
  | @mark outer a event rest marks _ ih =>
    show inFlightAfter rest (event.inFlight _) = _
    rw [inFlight_of_marks marks, ih]
  | refused _ _ ih => exact ih
  | @entered stack a result inside rest _ _ _ inner outer =>
    show inFlightAfter (inside ++ .left a result :: rest) (stack ++ [a]) = stack
    rw [inFlightAfter_append, inner]
    show inFlightAfter rest (stack ++ [a]).dropLast = stack
    rw [List.dropLast_concat, outer]

theorem Nested.obeys (h : s.Nested stack told) : s.Obeys stack told := by
  induction h with
  | nil => exact trivial
  | @mark outer a event rest marks _ ih =>
    refine ⟨allows_of_marks marks, ?_⟩
    rw [inFlight_of_marks marks]
    exact ih
  | refused refuses _ ih => exact ⟨refuses, ih⟩
  | @entered stack a result inside rest proper h _ inner outer =>
    have last : (stack ++ [a]).getLast? = some a := List.getLast?_concat
    refine ⟨proper.allows, obeys_append.mpr ⟨inner, ?_⟩⟩
    show s.Obeys (inFlightAfter inside (stack ++ [a])) (.left a result :: rest)
    rw [h.inFlightAfter_eq]
    refine ⟨last, ?_⟩
    show s.Obeys (stack ++ [a]).dropLast rest
    rw [List.dropLast_concat]
    exact outer

/-- What the journal tells was done in order: at each point the services in flight are registered
and distinct, so they are no more than there are services, and what comes next can happen there. In
the end the services in flight are those that were in the beginning. -/
structure Disciplined (s : Services P) (stack : List Address) (journal : List (ServiceEvent P)) :
    Prop where
  proper : ∀ told rest, journal = told ++ rest → s.Proper (inFlightAfter told stack)
  bounded : ∀ told rest, journal = told ++ rest → (inFlightAfter told stack).length ≤ s.length
  allowed : ∀ told event rest, journal = told ++ event :: rest →
    s.Allows (inFlightAfter told stack) event
  settled : inFlightAfter journal stack = stack

theorem Nested.disciplined (h : s.Nested stack journal) (proper : s.Proper stack) :
    s.Disciplined stack journal where
  proper := by
    rintro told rest rfl
    exact (obeys_append.mp h.obeys).1.proper proper
  bounded := by
    rintro told rest rfl
    exact ((obeys_append.mp h.obeys).1.proper proper).length_le
  allowed := by
    rintro told event rest rfl
    exact (obeys_append.mp h.obeys).2.1
  settled := h.inFlightAfter_eq

end Services

def Stage.made? : Stage P → Option P.Datum
  | built value => some value
  | _ => none

namespace Story

variable {told later before after : List (Stage P)} {kept : Option P.Datum} {made : List P.Datum}
  {stage : Stage P}

/-- The instances made are the one that is kept. -/
theorem filterMap_made? (h : Story kept told) : told.filterMap Stage.made? = kept.toList := by
  induction h with
  | new => rfl
  | failed _ e ih | built _ value ih | found _ ih =>
    rw [List.filterMap_append, ih]
    rfl

/-- Whoever got an instance got the one that is kept. -/
theorem kept_of_left (h : Story kept told) {value : P.Datum} (left : .left (.ok value) ∈ told) :
    kept = some value := by
  induction h with
  | new => cases left
  | failed _ e ih =>
    rcases List.mem_append.mp left with left | left
    · cases ih left
    · simp at left
  | built _ made ih =>
    rcases List.mem_append.mp left with left | left
    · cases ih left
    · simp at left
      rw [left]
  | found _ ih =>
    rcases List.mem_append.mp left with left | left
    · exact ih left
    · simp at left
      rw [left]

/-- What follows a stage when the instances in `made` were made before. The one there is is found;
otherwise one is begun, and it is made or that fails before anything else happens. -/
inductive Leads : List P.Datum → Stage P → List (Stage P) → Prop
  | begins {after : List (Stage P)} : Leads [] .entered (.begun :: after)
  | finds {made : List P.Datum} {value : P.Datum} {after : List (Stage P)} :
      Leads (value :: made) .entered (.left (.ok value) :: after)
  | fails {e : Error} {after : List (Stage P)} :
      Leads [] .begun (.failed :: .left (.error e) :: after)
  | builds {value : P.Datum} {after : List (Stage P)} :
      Leads [] .begun (.built value :: .left (.ok value) :: after)
  | failed {made : List P.Datum} {after : List (Stage P)} : Leads made .failed after
  | built {made : List P.Datum} {value : P.Datum} {after : List (Stage P)} :
      Leads made (.built value) after
  | left {made : List P.Datum} {result : Except Error P.Datum} {after : List (Stage P)} :
      Leads made (.left result) after

theorem Leads.append (h : Leads made stage after) (later : List (Stage P)) :
    Leads made stage (after ++ later) := by
  cases h with
  | begins => exact .begins
  | finds => exact .finds
  | fails => exact .fails
  | builds => exact .builds
  | failed => exact .failed
  | built => exact .built
  | left => exact .left

def Coherent (made : List P.Datum) (told : List (Stage P)) : Prop :=
  ∀ before stage after, told = before ++ stage :: after →
    Leads (made ++ before.filterMap Stage.made?) stage after

theorem coherent_nil (made : List P.Datum) : Coherent made [] := by
  intro before stage after cut
  simp at cut

theorem Coherent.append (h : Coherent made told)
    (k : Coherent (made ++ told.filterMap Stage.made?) later) : Coherent made (told ++ later) := by
  intro before stage after cut
  rcases append_eq_append_cons cut with ⟨mid, inside, rfl⟩ | ⟨mid, rfl, inside⟩
  · exact (h before stage mid inside).append later
  · rw [List.filterMap_append, ← List.append_assoc]
    exact k mid stage after inside

theorem coherent_cons (first : Leads made stage told)
    (rest : Coherent (made ++ stage.made?.toList) told) : Coherent made (stage :: told) := by
  intro before other after cut
  cases before with
  | nil =>
    obtain ⟨rfl, rfl⟩ := List.cons.inj cut
    simpa using first
  | cons earlier before =>
    obtain ⟨rfl, inside⟩ := List.cons.inj cut
    have next := rest before other after inside
    rw [List.append_assoc] at next
    have same : (stage :: before).filterMap Stage.made? =
        stage.made?.toList ++ before.filterMap Stage.made? := by
      cases stage <;> rfl
    rwa [same]

/-- One start ends before the next, there is none once there is an instance, and until then each
time the service is entered there is another. -/
theorem coherent (h : Story kept told) : Coherent [] told := by
  induction h with
  | new => exact coherent_nil []
  | failed h e ih =>
    apply ih.append
    rw [h.filterMap_made?]
    apply coherent_cons .begins
    apply coherent_cons .fails
    exact coherent_cons .failed (coherent_cons .left (coherent_nil _))
  | built h value ih =>
    apply ih.append
    rw [h.filterMap_made?]
    apply coherent_cons .begins
    apply coherent_cons .builds
    exact coherent_cons .built (coherent_cons .left (coherent_nil _))
  | found h ih =>
    apply ih.append
    rw [h.filterMap_made?]
    exact coherent_cons .finds (coherent_cons .left (coherent_nil _))

end Story

end Injector

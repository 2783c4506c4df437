import Mathlib.Data.List.Basic
import Injector.Proofs.Service.Registration
import Injector.Proofs.Service.Asking

/-!
# What the journal of the services tells

Services are entered and left like brackets, each while it is not in flight itself, and what happens
to one service that is made once is a story: attempts that failed, perhaps one that succeeded, and
from then on its instance.
-/

set_option autoImplicit false

namespace Injector

variable {P : Platform}

inductive Stage (P : Platform) where
  | entered
  | begun
  | built (value : P.Datum)
  | failed
  | left (result : Except Error P.Datum)

namespace ServiceEvent

def stage? (a : Address) : ServiceEvent P → Option (Stage P)
  | entered b => if b == a then some .entered else none
  | left b result => if b == a then some (.left result) else none
  | refused .. => none
  | begun b => if b == a then some .begun else none
  | built b value => if b == a then some (.built value) else none
  | failed b => if b == a then some .failed else none

def Marks (a : Address) : ServiceEvent P → Prop
  | begun b => (b == a) = true
  | built b _ => (b == a) = true
  | failed b => (b == a) = true
  | _ => False

theorem stage?_of_marks {a b : Address} {event : ServiceEvent P} (h : event.Marks a)
    (apart : (a == b) = false) : event.stage? b = none := by
  cases event with
  | begun c | built c value | failed c =>
    have elsewhere : (c == b) = false := by rw [BEq.congr_left h, apart]
    simp [stage?, elsewhere]
  | entered c | left c result | refused c chain => exact h.elim

end ServiceEvent

def stages (a : Address) (journal : List (ServiceEvent P)) : List (Stage P) :=
  journal.filterMap (·.stage? a)

theorem stages_append (a : Address) (journal later : List (ServiceEvent P)) :
    stages a (journal ++ later) = stages a journal ++ stages a later := List.filterMap_append

/-- The story of a service that is made once, with the instance it has come to. Each attempt ends
before anything else happens to the service, and the instance is made at most once. -/
inductive Story : Option P.Datum → List (Stage P) → Prop
  | new : Story none []
  | failed {told : List (Stage P)} (h : Story none told) (e : Error) :
      Story none (told ++ [.entered, .begun, .failed, .left (.error e)])
  | built {told : List (Stage P)} (h : Story none told) (value : P.Datum) :
      Story (some value) (told ++ [.entered, .begun, .built value, .left (.ok value)])
  | found {told : List (Stage P)} {value : P.Datum} (h : Story (some value) told) :
      Story (some value) (told ++ [.entered, .left (.ok value)])

def Registration.IsOnce (r : Registration P) : Prop :=
  match r.provider with
  | .singleton _ => True
  | .bean _ => True
  | _ => False

theorem Live.built?_congr {a b : Address} (h : (a == b) = true) (live : Live P) :
    live.built? a = live.built? b := by
  have same : (fun entry : Address × P.Datum => entry.1 == a) = fun entry => entry.1 == b := by
    funext entry
    exact BEq.congr_right h
  unfold built?
  rw [same]

theorem Live.built?_keep_apart {a b : Address} (apart : (a == b) = false) (live : Live P)
    (value : P.Datum) : (live.keep a value).built? b = live.built? b := by
  simp [keep, built?, List.find?_append, apart]

theorem stages_congr {a b : Address} (h : (a == b) = true) (journal : List (ServiceEvent P)) :
    stages a journal = stages b journal := by
  unfold stages
  congr 1
  funext event
  cases event <;> simp [ServiceEvent.stage?, BEq.congr_right h]

namespace Services

variable {s : Services P} {stack : List Address} {a : Address}

structure Proper (s : Services P) (stack : List Address) : Prop where
  distinct : stack.Pairwise fun a b => (a == b) = false
  registered : ∀ a ∈ stack, s.contains a = true

theorem proper_nil (s : Services P) : s.Proper [] :=
  ⟨.nil, List.forall_mem_nil _⟩

theorem Proper.snoc (h : s.Proper stack) (known : s.contains a = true)
    (free : stack.any (· == a) = false) : s.Proper (stack ++ [a]) where
  distinct := by
    rw [List.pairwise_append]
    refine ⟨h.distinct, List.pairwise_singleton _ a, fun b hb c hc => ?_⟩
    rw [List.mem_singleton.mp hc, ← Bool.not_eq_true]
    rw [List.any_eq_false] at free
    exact free b hb
  registered := by
    intro b hb
    rcases List.mem_append.mp hb with hb | hb
    · exact h.registered b hb
    · rw [List.mem_singleton.mp hb]
      exact known

theorem address_of_find? {r : Registration P} (found : s.find? a = some r) :
    (r.address == a) = true := by
  unfold find? at found
  have same := List.find?_some found
  exact same

theorem exists_of_contains (known : s.contains a = true) : ∃ r ∈ s, (r.address == a) = true := by
  obtain ⟨r, found⟩ := Option.isSome_iff_exists.mp known
  exact ⟨r, List.mem_of_find?_eq_some found, address_of_find? found⟩

/-- Each service in flight takes up a registration of its own. -/
theorem length_le_of_distinct (distinct : stack.Pairwise fun a b => (a == b) = false)
    (registered : ∀ a ∈ stack, ∃ r ∈ s, (r.address == a) = true) : stack.length ≤ s.length := by
  induction stack generalizing s with
  | nil => exact Nat.zero_le _
  | cons a rest ih =>
    rw [List.pairwise_cons] at distinct
    obtain ⟨r, hr, same⟩ := registered a List.mem_cons_self
    have others : ∀ b ∈ rest, ∃ r ∈ s.eraseP (·.address == a), (r.address == b) = true := by
      intro b hb
      obtain ⟨r', hr', same'⟩ := registered b (List.mem_cons_of_mem a hb)
      have apart : ¬ (r'.address == a) = true := by
        rw [BEq.congr_left same', BEq.comm, distinct.1 b hb]
        exact Bool.false_ne_true
      have kept : r' ∈ s.eraseP fun r => r.address == a :=
        (List.mem_eraseP_of_neg (p := fun r : Registration P => r.address == a) apart).mpr hr'
      exact ⟨r', kept, same'⟩
    have shorter : (s.eraseP fun r => r.address == a).length = s.length - 1 :=
      List.length_eraseP_of_mem hr same
    have positive := List.length_pos_of_mem hr
    have fewer := ih distinct.2 others
    rw [List.length_cons]
    omega

theorem Proper.length_le (h : s.Proper stack) : stack.length ≤ s.length :=
  length_le_of_distinct h.distinct fun a ha => exists_of_contains (h.registered a ha)

structure Refuses (s : Services P) (stack : List Address) (a : Address)
    (chain : List DependencyKey) : Prop where
  registered : s.contains a = true
  chain_eq : ∃ outer entry inner, stack = outer ++ entry :: inner ∧ (entry == a) = true ∧
    (∀ b ∈ outer, (b == a) = false) ∧ chain = (entry :: inner).map (·.key) ++ [a.key]

/-- What can be told of while `stack` is in flight. A service is left as it was entered, with the
same services in flight. -/
inductive Nested (s : Services P) : List Address → List (ServiceEvent P) → Prop
  | nil {stack : List Address} : Nested s stack []
  | mark {outer : List Address} {a : Address} {event : ServiceEvent P}
      {rest : List (ServiceEvent P)} (marks : event.Marks a) (h : Nested s (outer ++ [a]) rest) :
      Nested s (outer ++ [a]) (event :: rest)
  | refused {stack : List Address} {a : Address} {chain : List DependencyKey}
      {rest : List (ServiceEvent P)} (refuses : s.Refuses stack a chain)
      (h : Nested s stack rest) : Nested s stack (.refused a chain :: rest)
  | entered {stack : List Address} {a : Address} {result : Except Error P.Datum}
      {inside rest : List (ServiceEvent P)} (proper : s.Proper (stack ++ [a]))
      (h : Nested s (stack ++ [a]) inside) (k : Nested s stack rest) :
      Nested s stack (.entered a :: (inside ++ .left a result :: rest))

theorem Nested.append {events later : List (ServiceEvent P)} (h : s.Nested stack events)
    (k : s.Nested stack later) : s.Nested stack (events ++ later) := by
  induction h with
  | nil => exact k
  | mark marks _ ih => exact .mark marks (ih k)
  | refused refuses _ ih => exact .refused refuses (ih k)
  | @entered stack a result inside rest proper h _ _ ih =>
    rw [List.cons_append, List.append_assoc, List.cons_append]
    exact .entered proper h (ih k)

theorem nested_of_marks {events : List (ServiceEvent P)} (h : ∀ event ∈ events, event.Marks a) :
    s.Nested (stack ++ [a]) events := by
  induction events with
  | nil => exact .nil
  | cons event rest ih =>
    rw [List.forall_mem_cons] at h
    exact .mark h.1 (ih h.2)

theorem stages_of_marks {b : Address} {events : List (ServiceEvent P)}
    (h : ∀ event ∈ events, event.Marks a) (apart : (a == b) = false) : stages b events = [] := by
  apply List.filterMap_eq_nil_iff.mpr
  exact fun event he => ServiceEvent.stage?_of_marks (h event he) apart

structure Proceeds (s : Services P) (live later : Live P) : Prop where
  inFlight : later.inFlight = live.inFlight
  journal : ∃ since, later.journal = live.journal ++ since ∧ s.Nested live.inFlight since
  /-- Nothing happens to a service that was in flight throughout. -/
  untouched : ∀ a, live.isInFlight a = true →
    stages a later.journal = stages a live.journal ∧ later.built? a = live.built? a
  told : ∀ a r, s.find? a = some r → r.IsOnce → live.isInFlight a = false →
    Story (live.built? a) (stages a live.journal) → Story (later.built? a) (stages a later.journal)

namespace Proceeds

variable {live later last : Live P}

theorem refl (s : Services P) (live : Live P) : s.Proceeds live live :=
  ⟨rfl, ⟨[], (List.append_nil _).symm, .nil⟩, fun _ _ => ⟨rfl, rfl⟩, fun _ _ _ _ _ h => h⟩

theorem isInFlight (h : s.Proceeds live later) (a : Address) :
    later.isInFlight a = live.isInFlight a := by
  unfold Live.isInFlight
  rw [h.inFlight]

theorem trans (h : s.Proceeds live later) (k : s.Proceeds later last) : s.Proceeds live last where
  inFlight := k.inFlight.trans h.inFlight
  journal := by
    obtain ⟨since, hs, hn⟩ := h.journal
    obtain ⟨after, ha, kn⟩ := k.journal
    rw [h.inFlight] at kn
    exact ⟨since ++ after, by rw [ha, hs, List.append_assoc], hn.append kn⟩
  untouched := by
    intro a ha
    obtain ⟨hj, hb⟩ := h.untouched a ha
    obtain ⟨kj, kb⟩ := k.untouched a ((h.isInFlight a).trans ha)
    exact ⟨kj.trans hj, kb.trans hb⟩
  told := fun a r found once free story =>
    k.told a r found once ((h.isInFlight a).trans free) (h.told a r found once free story)

/-- The world may change in any way. -/
theorem worldly (s : Services P) (live : Live P) : Live.Worldly (s.Proceeds live) :=
  fun _ _ h => ⟨h.inFlight, h.journal, h.untouched, h.told⟩

end Proceeds

end Services

end Injector

import Injector.Service.Registration

/-!
# What a registration changes

The service is found at its address, and every other service is where it was.
-/

set_option autoImplicit false

namespace Injector

variable {P : Platform}

namespace Services

variable {s registered : Services P} {r : Registration P} {allowOverride : Bool}

theorem find?_cons (other : Registration P) (s : Services P) (a : Address) :
    find? (other :: s) a = if other.address == a then some other else s.find? a := by
  unfold find?
  rw [List.find?_cons]
  cases other.address == a <;> rfl

theorem find?_congr {a a' : Address} (h : (a == a') = true) (s : Services P) :
    s.find? a = s.find? a' := by
  induction s with
  | nil => rfl
  | cons other rest ih => rw [find?_cons, find?_cons, BEq.congr_right h, ih]

/-- The service that takes the place of another is found wherever that was. -/
theorem find?_replaced (s : Services P) (r : Registration P) (a : Address) :
    find? (s.map fun other => if other.address == r.address then r else other) a =
      if r.address == a then (s.find? a).map fun _ => r else s.find? a := by
  induction s with
  | nil => simp [find?]
  | cons other rest ih =>
    rw [List.map_cons, find?_cons, find?_cons, ih]
    by_cases replaced : (other.address == r.address) = true
    · rw [if_pos replaced, BEq.congr_left replaced]
      by_cases here : (r.address == a) = true
      · simp [here]
      · simp [here]
    · rw [if_neg replaced]
      by_cases here : (r.address == a) = true
      · rw [← BEq.congr_right here, if_neg replaced, if_pos here, if_neg replaced, if_pos here]
      · simp [here]

theorem find?_of_register (h : s.register r allowOverride = .ok registered) (a : Address) :
    registered.find? a = if r.address == a then some r else s.find? a := by
  unfold register at h
  split at h
  next known =>
    split at h
    next =>
      cases h
      rw [find?_replaced]
      by_cases here : (r.address == a) = true
      · obtain ⟨old, found⟩ := Option.isSome_iff_exists.mp known
        rw [if_pos here, if_pos here, ← find?_congr here, found, Option.map_some]
      · rw [if_neg here, if_neg here]
    next => cases h
  next new =>
    cases h
    have unknown : s.find? r.address = none := by
      rw [← Option.not_isSome_iff_eq_none]
      exact new
    rw [find?, List.find?_append, List.find?_singleton]
    by_cases here : (r.address == a) = true
    · rw [find?_congr here] at unknown
      rw [if_pos here, if_pos here, ← find?, unknown, Option.none_or]
    · rw [if_neg here, if_neg here, ← find?, Option.or_none]

theorem contains_of_register (h : s.register r allowOverride = .ok registered) (a : Address) :
    registered.contains a = (r.address == a || s.contains a) := by
  rw [contains, contains, find?_of_register h]
  cases r.address == a <;> rfl

theorem mem_register (h : s.register r allowOverride = .ok registered)
    {other : Registration P} (ho : other ∈ registered) : other = r ∨ other ∈ s := by
  unfold register at h
  split at h
  next =>
    split at h
    next =>
      cases h
      obtain ⟨old, hold, rfl⟩ := List.mem_map.mp ho
      by_cases replaced : (old.address == r.address) = true
      · exact Or.inl (if_pos replaced)
      · rw [if_neg replaced]
        exact Or.inr hold
    next => cases h
  next =>
    cases h
    rcases List.mem_append.mp ho with ho | ho
    · exact Or.inr ho
    · exact Or.inl (List.mem_singleton.mp ho)

theorem contains_directory (s : Services P) (listing : Listing) (pending : List DependencyKey)
    (party : Party) (key : DependencyKey) :
    (s.directory listing pending).contains party key = s.contains ⟨party, key⟩ := by
  rw [Bool.eq_iff_iff, Directory.contains, directory, List.any_map, List.any_eq_true, contains,
    find?, List.find?_isSome]
  rfl

end Services

end Injector

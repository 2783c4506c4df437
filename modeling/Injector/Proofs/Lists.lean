/-!
# Lists read up to a point

What stands in a list can depend on all that comes before it.
-/

set_option autoImplicit false

namespace Injector

/-- A list that is two lists and is cut at an element is cut in one of the two. -/
theorem append_eq_append_cons {α : Type} {first second before after : List α} {x : α}
    (h : first ++ second = before ++ x :: after) :
    (∃ mid, first = before ++ x :: mid ∧ after = mid ++ second) ∨
      ∃ mid, before = first ++ mid ∧ second = mid ++ x :: after := by
  rcases List.append_eq_append_iff.mp h with ⟨mid, hb, hs⟩ | ⟨mid, hf, hx⟩
  · exact Or.inr ⟨mid, hb, hs⟩
  · cases mid with
    | nil =>
      rw [List.append_nil] at hf
      exact Or.inr ⟨[], by rw [hf, List.append_nil], hx.symm⟩
    | cons y mid =>
      rw [List.cons_append, List.cons.injEq] at hx
      obtain ⟨rfl, hx⟩ := hx
      exact Or.inl ⟨mid, hf, hx⟩

theorem getElem?_of_drop {α : Type} {list rest : List α} {a : α} {i : Nat}
    (h : list.drop i = a :: rest) : list[i]? = some a ∧ list.drop (i + 1) = rest := by
  constructor
  · rw [← List.head?_drop, h]
    rfl
  · rw [← List.tail_drop, h]
    rfl

section Standing

variable {α : Type} (stands : List α → α → Prop) [∀ earlier a, Decidable (stands earlier a)]

/-- The entries of a list that stand, where it depends on all before it whether one does. -/
def standing (earlier : List α) : List α → List α
  | [] => []
  | a :: rest =>
    if stands earlier a then a :: standing (earlier ++ [a]) rest
    else standing (earlier ++ [a]) rest

variable {stands} {earlier list : List α} {a : α}

theorem standing_append (list list' : List α) : standing stands earlier (list ++ list') =
    standing stands earlier list ++ standing stands (earlier ++ list) list' := by
  induction list generalizing earlier with
  | nil => simp [standing]
  | cons x rest ih =>
    simp only [List.cons_append, standing, ih, List.append_assoc, List.nil_append]
    split <;> rfl

/-- What stands does so at some place in the list. -/
theorem standing_eq_append_cons {before after : List α}
    (h : standing stands earlier list = before ++ a :: after) :
    ∃ met unmet, list = met ++ a :: unmet ∧ stands (earlier ++ met) a ∧
      before = standing stands earlier met := by
  induction list generalizing earlier before with
  | nil => simp [standing] at h
  | cons x rest ih =>
    have later {before : List α}
        (h : standing stands (earlier ++ [x]) rest = before ++ a :: after) :
        ∃ met unmet, x :: rest = (x :: met) ++ a :: unmet ∧ stands (earlier ++ x :: met) a ∧
          before = standing stands (earlier ++ [x]) met := by
      obtain ⟨met, unmet, rfl, stood, rfl⟩ := ih h
      exact ⟨met, unmet, rfl, by simpa using stood, rfl⟩
    rw [standing] at h
    by_cases stood : stands earlier x
    · rw [if_pos stood] at h
      obtain ⟨rfl, hrest⟩ | ⟨before, rfl, hrest⟩ := List.cons_eq_append_iff.mp h
      · obtain ⟨rfl, -⟩ := List.cons.inj hrest
        exact ⟨[], rest, rfl, by simpa using stood, rfl⟩
      · obtain ⟨met, unmet, split, stood', rfl⟩ := later hrest
        exact ⟨x :: met, unmet, split, stood', by rw [standing, if_pos stood]⟩
    · rw [if_neg stood] at h
      obtain ⟨met, unmet, split, stood', rfl⟩ := later h
      exact ⟨x :: met, unmet, split, stood', by rw [standing, if_neg stood]⟩

theorem mem_of_mem_standing (h : a ∈ standing stands earlier list) : a ∈ list := by
  obtain ⟨before, after, split⟩ := List.append_of_mem h
  obtain ⟨met, unmet, rfl, -, -⟩ := standing_eq_append_cons split
  simp

end Standing

end Injector

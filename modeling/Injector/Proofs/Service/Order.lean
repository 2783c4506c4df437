import Mathlib.Data.List.Perm.Basic
import Injector.Proofs.Service.Registration

/-!
# The order in which services are registered

Services with different addresses do not get into each other's way, so in any order the same ones
are registered, or some registration is refused; and what is found at an address does not depend on
the order.
-/

set_option autoImplicit false

namespace Injector

variable {P : Platform}

namespace Services

variable {s s' : Services P} {r r' : Registration P} {allowOverride : Bool}

def registerAll (s : Services P) (allowOverride : Bool) (rs : List (Registration P)) :
    Except Error (Services P) :=
  rs.foldlM (fun s r => s.register r allowOverride) s

theorem registerAll_cons (rs : List (Registration P)) :
    s.registerAll allowOverride (r :: rs) =
      s.register r allowOverride >>= fun s => s.registerAll allowOverride rs := rfl

def Apart (r r' : Registration P) : Prop := ¬ (r.address == r'.address) = true

theorem Apart.symm (h : Apart r r') : Apart r' r := fun same => h (BEq.symm same)

def Distinct (s : Services P) : Prop := s.Pairwise Apart

theorem Distinct.perm (h : Distinct s) (perm : s.Perm s') : Distinct s' :=
  (perm.pairwise_iff Apart.symm).mp h

theorem find?_perm (perm : s.Perm s') (distinct : Distinct s) (a : Address) :
    s.find? a = s'.find? a := by
  induction perm with
  | nil => rfl
  | cons r _ ih =>
    rw [find?_cons, find?_cons, ih (List.pairwise_cons.mp distinct).2]
  | swap r r' rest =>
    have apart : Apart r' r := (List.pairwise_cons.mp distinct).1 r List.mem_cons_self
    rw [find?_cons, find?_cons, find?_cons, find?_cons]
    by_cases here : (r'.address == a) = true
    · have other : ¬ (r.address == a) = true := fun same =>
        apart (BEq.trans here (BEq.symm same))
      rw [if_pos here, if_neg other, if_pos here]
    · rw [if_neg here, if_neg here]
  | trans first _ ih ih' => rw [ih distinct, ih' (Distinct.perm distinct first)]

theorem contains_perm (perm : s.Perm s') (a : Address) : s.contains a = s'.contains a := by
  rw [Bool.eq_iff_iff, contains, contains, find?, find?, List.find?_isSome, List.find?_isSome]
  simp only [perm.mem_iff]

/-- Taking the place of a service leaves the addresses as they are. -/
theorem distinct_register {registered : Services P} (distinct : Distinct s)
    (h : s.register r allowOverride = .ok registered) : Distinct registered := by
  unfold register at h
  split at h
  next known =>
    split at h
    next =>
      cases h
      refine List.Pairwise.map _ ?_ distinct
      intro a b apart
      unfold Apart at apart ⊢
      by_cases ha : (a.address == r.address) = true <;>
        by_cases hb : (b.address == r.address) = true
      · exact absurd (BEq.trans ha (BEq.symm hb)) apart
      · rw [if_pos ha, if_neg hb, ← BEq.congr_left ha]
        exact apart
      · rw [if_neg ha, if_pos hb, ← BEq.congr_right hb]
        exact apart
      · rw [if_neg ha, if_neg hb]
        exact apart
    next => cases h
  next new =>
    cases h
    refine List.pairwise_append.mpr ⟨distinct, List.pairwise_singleton _ _, ?_⟩
    intro other ho own hr same
    obtain rfl := List.mem_singleton.mp hr
    exact new (List.find?_isSome.mpr ⟨other, ho, same⟩)

theorem distinct_registerAll {registered : Services P} {rs : List (Registration P)}
    (distinct : Distinct s) (h : s.registerAll allowOverride rs = .ok registered) :
    Distinct registered := by
  induction rs generalizing s with
  | nil =>
    cases h
    exact distinct
  | cons r rest ih =>
    rw [registerAll_cons] at h
    cases first : s.register r allowOverride with
    | error e =>
      rw [first] at h
      cases h
    | ok next =>
      rw [first] at h
      exact ih (distinct_register distinct first) h

inductive Reordered : Except Error (Services P) → Except Error (Services P) → Prop
  | registered {s s' : Services P} (perm : s.Perm s') : Reordered (.ok s) (.ok s')
  | refused {e e' : Error} : Reordered (.error e) (.error e')

namespace Reordered

variable {x x' x'' : Except Error (Services P)}

theorem refl (x : Except Error (Services P)) : Reordered x x := by
  cases x with
  | error e => exact .refused
  | ok s => exact .registered (.refl s)

theorem trans (h : Reordered x x') (k : Reordered x' x'') : Reordered x x'' := by
  cases h with
  | refused =>
    cases k
    exact .refused
  | registered perm =>
    cases k with
    | registered perm' => exact .registered (perm.trans perm')

theorem bind {next : Services P → Except Error (Services P)} (h : Reordered x x')
    (hn : ∀ s s', s.Perm s' → Reordered (next s) (next s')) :
    Reordered (x >>= next) (x' >>= next) := by
  cases h with
  | refused => exact .refused
  | registered perm => exact hn _ _ perm

end Reordered

theorem register_perm (perm : s.Perm s') (r : Registration P) (allowOverride : Bool) :
    Reordered (s.register r allowOverride) (s'.register r allowOverride) := by
  unfold register
  rw [contains_perm perm]
  split
  · split
    · exact .registered (perm.map _)
    · exact .refused
  · exact .registered (perm.append_right _)

theorem registerAll_perm_services (perm : s.Perm s') (rs : List (Registration P)) :
    Reordered (s.registerAll allowOverride rs) (s'.registerAll allowOverride rs) := by
  induction rs generalizing s s' with
  | nil => exact .registered perm
  | cons r rest ih =>
    rw [registerAll_cons, registerAll_cons]
    exact (register_perm perm r allowOverride).bind fun _ _ perm => ih perm

def put (s : Services P) (r : Registration P) : Services P :=
  if s.contains r.address then s.map fun other => if other.address == r.address then r else other
  else s ++ [r]

theorem register_eq (s : Services P) (r : Registration P) (allowOverride : Bool) :
    s.register r allowOverride =
      if (s.contains r.address && !allowOverride) = true then
        .error (.alreadyRegistered r.address.key)
      else .ok (s.put r) := by
  unfold register put
  cases s.contains r.address <;> cases allowOverride <;> rfl

theorem contains_put (s : Services P) (r : Registration P) (a : Address) :
    (s.put r).contains a = (r.address == a || s.contains a) := by
  have registered : s.register r true = .ok (s.put r) := by
    rw [register_eq, Bool.not_true, Bool.and_false]
    rfl
  exact contains_of_register registered a

theorem put_of_contains (h : s.contains r.address = true) :
    s.put r = s.map fun other => if other.address == r.address then r else other := if_pos h

theorem put_of_not_contains (h : ¬ s.contains r.address = true) : s.put r = s ++ [r] := if_neg h

theorem contains_put_apart (apart : Apart r r') :
    (s.put r).contains r'.address = s.contains r'.address := by
  rw [contains_put, Bool.eq_false_iff.mpr apart, Bool.false_or]

theorem put_swap (s : Services P) (apart : Apart r r') :
    ((s.put r).put r').Perm ((s.put r').put r) := by
  have first := contains_put_apart (s := s) apart
  have second := contains_put_apart (s := s) apart.symm
  by_cases known : s.contains r.address = true <;> by_cases known' : s.contains r'.address = true
  · rw [put_of_contains (first.trans known'), put_of_contains (second.trans known),
      put_of_contains known, put_of_contains known', List.map_map, List.map_map]
    apply List.Perm.of_eq
    apply List.map_congr_left
    intro service _
    have other : (r.address == r'.address) = false := Bool.eq_false_iff.mpr apart
    have other' : (r'.address == r.address) = false := Bool.eq_false_iff.mpr apart.symm
    by_cases here : (service.address == r.address) = true
    · have there : (service.address == r'.address) = false :=
        Bool.eq_false_iff.mpr fun there => apart (BEq.trans (BEq.symm here) there)
      simp [here, there, other]
    · by_cases there : (service.address == r'.address) = true <;> simp [here, there, other']
  · have unknown : ¬ (s.put r).contains r'.address = true := by rwa [first]
    rw [put_of_not_contains unknown, put_of_contains (second.trans known),
      put_of_contains known, put_of_not_contains known', List.map_append, List.map_singleton,
      if_neg apart.symm]
  · have unknown : ¬ (s.put r').contains r.address = true := by rwa [second]
    rw [put_of_contains (first.trans known'), put_of_not_contains unknown,
      put_of_not_contains known, put_of_contains known', List.map_append, List.map_singleton,
      if_neg apart]
  · have unknown : ¬ (s.put r').contains r.address = true := by rwa [second]
    have unknown' : ¬ (s.put r).contains r'.address = true := by rwa [first]
    rw [put_of_not_contains unknown', put_of_not_contains unknown, put_of_not_contains known,
      put_of_not_contains known', List.append_assoc, List.append_assoc]
    exact (List.Perm.swap r' r []).append_left s

/-- Where none is refused, all are registered. -/
theorem exists_registerAll {rs : List (Registration P)}
    (free : ∀ r ∈ rs, (s.contains r.address && !allowOverride) = false)
    (apart : rs.Pairwise Apart) :
    ∃ registered, s.registerAll allowOverride rs = .ok registered := by
  induction rs generalizing s with
  | nil => exact ⟨s, rfl⟩
  | cons r rest ih =>
    rw [List.forall_mem_cons] at free
    rw [List.pairwise_cons] at apart
    rw [registerAll_cons, register_eq, if_neg (Bool.eq_false_iff.mp free.1)]
    apply ih _ apart.2
    intro r' hr
    rw [contains_put_apart (apart.1 r' hr)]
    exact free.2 r' hr

/-- Neither registration decides whether the other is refused. -/
theorem register_swap (apart : Apart r r') :
    Reordered (s.register r allowOverride >>= fun s => s.register r' allowOverride)
      (s.register r' allowOverride >>= fun s => s.register r allowOverride) := by
  rw [register_eq, register_eq s r']
  split
  next refused =>
    split
    next => exact .refused
    next =>
      show Reordered _ ((s.put r').register r allowOverride)
      rw [register_eq, contains_put_apart apart.symm, if_pos refused]
      exact .refused
  next allowed =>
    show Reordered ((s.put r).register r' allowOverride) _
    rw [register_eq, contains_put_apart apart]
    split
    next => exact .refused
    next =>
      show Reordered _ ((s.put r').register r allowOverride)
      rw [register_eq, contains_put_apart apart.symm, if_neg allowed]
      exact .registered (put_swap s apart)

/-- Registration in another order registers the same services. -/
theorem registerAll_perm {rs rs' : List (Registration P)} (perm : rs.Perm rs')
    (apart : rs.Pairwise Apart) :
    Reordered (s.registerAll allowOverride rs) (s.registerAll allowOverride rs') := by
  induction perm generalizing s with
  | nil => exact .refl _
  | cons r _ ih =>
    rw [registerAll_cons, registerAll_cons]
    cases s.register r allowOverride with
    | error e => exact .refused
    | ok s => exact ih (List.pairwise_cons.mp apart).2
  | swap r r' rest =>
    have swapped : Reordered
        (s.register r' allowOverride >>= fun s => s.register r allowOverride)
        (s.register r allowOverride >>= fun s => s.register r' allowOverride) :=
      register_swap ((List.pairwise_cons.mp apart).1 r List.mem_cons_self)
    have later : ∀ s s' : Services P, s.Perm s' → Reordered (s.registerAll allowOverride rest)
        (s'.registerAll allowOverride rest) := fun _ _ perm => registerAll_perm_services perm rest
    simpa only [registerAll_cons, bind_assoc] using swapped.bind later
  | trans first _ ih ih' =>
    exact (ih apart).trans (ih' ((first.pairwise_iff Apart.symm).mp apart))

end Services

end Injector

import Mathlib.Data.List.Basic
import Injector.Text.Suggestion

/-!
# Which names are suggested, and in which order

Names that contain each other lead as long as no other name begins like the requested one for eight
characters or more: what a common start counts for grows with its length, and what containment
counts for does not.
-/

set_option autoImplicit false

namespace Injector.Suggestion

def lowered (name : String) : List Char := Text.lowerChars name.toList

def loweredShort (name : String) : List Char :=
  Text.lowerChars (TypeName.shortenChars name.toList)

def Overlap (a b : List Char) : Prop := a <:+: b ∨ b <:+: a

structure LongestStart (a b common : List Char) : Prop where
  left : common <+: a
  right : common <+: b
  longest : ∀ other, other <+: a → other <+: b → other.length ≤ common.length

inductive Matches (requested name : String) : Match → Prop
  | whole (overlap : Overlap (lowered requested) (lowered name)) : Matches requested name .wholeName
  | short (apart : ¬ Overlap (lowered requested) (lowered name))
      (overlap : Overlap (loweredShort requested) (loweredShort name)) :
      Matches requested name .shortName
  | start {common : List Char} (apart : ¬ Overlap (lowered requested) (lowered name))
      (apartShort : ¬ Overlap (loweredShort requested) (loweredShort name))
      (start : LongestStart (loweredShort name) (loweredShort requested) common)
      (long : 3 ≤ common.length) : Matches requested name (.commonStart common.length)

theorem eitherContains_iff {a b : List Char} : eitherContains a b = true ↔ Overlap a b := by
  rw [eitherContains, Bool.or_eq_true, hasInfix_iff, hasInfix_iff, Overlap]

instance (a b : List Char) : Decidable (Overlap a b) := decidable_of_iff _ eitherContains_iff

theorem matchNames_eq (requested name : String) : matchNames requested name =
    if Overlap (lowered requested) (lowered name) then some .wholeName
    else if Overlap (loweredShort requested) (loweredShort name) then some .shortName
    else if 3 ≤ commonStart (loweredShort name) (loweredShort requested) then
      some (.commonStart (commonStart (loweredShort name) (loweredShort requested)))
    else none :=
  if_congr eitherContains_iff rfl (if_congr eitherContains_iff rfl rfl)

theorem exists_longestStart (a b : List Char) :
    ∃ common, LongestStart a b common ∧ common.length = commonStart a b := by
  have nothing : ∀ {a b}, (∀ other, other <+: a → other <+: b → other.length ≤ 0) →
      LongestStart a b [] := fun longest => ⟨List.nil_prefix, List.nil_prefix, longest⟩
  induction a generalizing b with
  | nil => exact ⟨[], nothing fun _ inA _ => inA.length_le, rfl⟩
  | cons c a ih =>
    cases b with
    | nil => exact ⟨[], nothing fun _ _ inB => inB.length_le, rfl⟩
    | cons d b =>
      rw [commonStart]
      split
      next same =>
        subst same
        obtain ⟨common, ⟨left, right, longest⟩, length⟩ := ih b
        refine ⟨c :: common, ⟨List.cons_prefix_cons.mpr ⟨rfl, left⟩,
          List.cons_prefix_cons.mpr ⟨rfl, right⟩, ?_⟩, congrArg (· + 1) length⟩
        intro other inA inB
        cases other with
        | nil => exact Nat.zero_le _
        | cons e other =>
          exact Nat.succ_le_succ (longest other (List.cons_prefix_cons.mp inA).2
            (List.cons_prefix_cons.mp inB).2)
      next differ =>
        refine ⟨[], nothing fun other inA inB => ?_, rfl⟩
        cases other with
        | nil => exact Nat.zero_le _
        | cons e other =>
          have here := (List.cons_prefix_cons.mp inA).1
          exact absurd (here.symm.trans (List.cons_prefix_cons.mp inB).1) differ

theorem LongestStart.length_eq {a b common : List Char} (h : LongestStart a b common) :
    common.length = commonStart a b := by
  obtain ⟨other, k, length⟩ := exists_longestStart a b
  rw [← length]
  exact Nat.le_antisymm (k.longest common h.left h.right) (h.longest other k.left k.right)

theorem matchNames_eq_some {requested name : String} {found : Match} :
    matchNames requested name = some found ↔ Matches requested name found := by
  rw [matchNames_eq]
  constructor
  · intro h
    split at h
    next overlap =>
      cases h
      exact .whole overlap
    next apart =>
      split at h
      next overlap =>
        cases h
        exact .short apart overlap
      next apartShort =>
        split at h
        next long =>
          cases h
          obtain ⟨common, start, length⟩ := exists_longestStart (loweredShort name)
            (loweredShort requested)
          rw [← length]
          exact .start apart apartShort start (length ▸ long)
        next => cases h
  · intro h
    cases h with
    | whole overlap => exact if_pos overlap
    | short apart overlap =>
      rw [if_neg apart]
      exact if_pos overlap
    | start apart apartShort start long =>
      rw [start.length_eq] at long ⊢
      rw [if_neg apart, if_neg apartShort]
      exact if_pos long

/-- No name of the kind of `better` is left out where `worse` is listed, or comes after it. -/
def Precedes (available listed : List String) (better worse : String) : Prop :=
  ∀ before after, listed = before ++ worse :: after → before.count better = available.count better

def Scores (requested : String) (score : Nat) (name : String) : Bool :=
  (matchNames requested name).map Match.score == some score

section Ranking

variable {requested better worse : String} {available : List String} {limit : Nat}

theorem names_candidates (requested : String) (available : List String) :
    (candidates requested available).map (·.1) =
      available.filter fun name => name != requested && (matchNames requested name).isSome := by
  have names : ∀ name, ((matchNames requested name).map fun found => (name, found)).map (·.1) =
      Option.guard (fun name => (matchNames requested name).isSome) name := by
    intro name
    cases h : matchNames requested name <;> simp [Option.guard, h]
  rw [candidates, List.map_filterMap, funext names, List.filterMap_eq_filter, List.filter_filter]
  exact List.filter_congr fun name _ => Bool.and_comm _ _

theorem matches_of_mem_candidates {entry : String × Match}
    (h : entry ∈ candidates requested available) : Matches requested entry.1 entry.2 := by
  obtain ⟨name, -, found⟩ := List.mem_filterMap.mp h
  obtain ⟨kind, kindOf, rfl⟩ := Option.map_eq_some_iff.mp found
  exact matchNames_eq_some.mp kindOf

def ranked (requested : String) (available : List String) : List (String × Match) :=
  (candidates requested available).mergeSort fun a b => decide (b.2.score ≤ a.2.score)

theorem suggest_eq : suggest requested available limit =
    ((ranked requested available).take limit).map (·.1) := rfl

theorem ranked_perm : (ranked requested available).Perm (candidates requested available) :=
  List.mergeSort_perm _ _

theorem score_trans (a b c : String × Match) (ab : decide (b.2.score ≤ a.2.score) = true)
    (bc : decide (c.2.score ≤ b.2.score) = true) : decide (c.2.score ≤ a.2.score) = true :=
  decide_eq_true (Nat.le_trans (of_decide_eq_true bc) (of_decide_eq_true ab))

theorem score_total (a b : String × Match) :
    (decide (b.2.score ≤ a.2.score) || decide (a.2.score ≤ b.2.score)) = true := by
  rw [Bool.or_eq_true, decide_eq_true_iff, decide_eq_true_iff]
  exact Nat.le_total _ _

theorem pairwise_ranked (requested : String) (available : List String) :
    (ranked requested available).Pairwise fun a b => b.2.score ≤ a.2.score :=
  (List.pairwise_mergeSort score_trans score_total _).imp of_decide_eq_true

theorem Matches.eq {name : String} {kind kind' : Match} (h : Matches requested name kind)
    (k : Matches requested name kind') : kind = kind' :=
  Option.some.inj ((matchNames_eq_some.mpr h).symm.trans (matchNames_eq_some.mpr k))

theorem count_ranked (available : List String) {name : String} {kind : Match}
    (other : name ≠ requested) (found : Matches requested name kind) :
    ((ranked requested available).map (·.1)).count name = available.count name := by
  rw [(ranked_perm.map (·.1)).count_eq, names_candidates]
  apply List.count_filter
  rw [matchNames_eq_some.mpr found, Bool.and_eq_true, bne_iff_ne]
  exact ⟨other, rfl⟩

/-- Sorting does not move names of one score past each other. -/
theorem filter_ranked {p : String × Match → Bool} {score : Nat}
    (level : ∀ entry ∈ (candidates requested available).filter p, entry.2.score = score) :
    (ranked requested available).filter p = (candidates requested available).filter p := by
  have sorted : ((candidates requested available).filter p).Pairwise
      fun a b => decide (b.2.score ≤ a.2.score) = true :=
    List.pairwise_of_forall_mem_list fun a inA b inB =>
      decide_eq_true (Nat.le_of_eq ((level b inB).trans (level a inA).symm))
  have kept : ((candidates requested available).filter p).Sublist (ranked requested available) :=
    List.sublist_mergeSort score_trans score_total sorted List.filter_sublist
  have within := kept.filter p
  rw [List.filter_filter, funext fun entry => Bool.and_self (p entry)] at within
  exact (within.eq_of_length (ranked_perm.filter p).length_eq.symm).symm

theorem filter_names_ranked (requested : String) (available : List String) (score : Nat) :
    ((ranked requested available).map (·.1)).filter (Scores requested score) =
      available.filter fun name => name != requested && Scores requested score name := by
  have level : ∀ entry ∈ (candidates requested available).filter
      (Scores requested score ∘ (·.1)), entry.2.score = score := by
    intro entry at_
    obtain ⟨at_, scores⟩ := List.mem_filter.mp at_
    have found := matchNames_eq_some.mpr (matches_of_mem_candidates at_)
    simpa [Scores, found] using scores
  rw [List.filter_map, filter_ranked level, ← List.filter_map, names_candidates,
    List.filter_filter]
  refine List.filter_congr fun name _ => ?_
  cases found : matchNames requested name <;> simp [Scores, found, Bool.and_comm]

/-- A name of higher score comes before. -/
theorem precedes_of_score {kind kind' : Match} (other : better ≠ requested)
    (high : Matches requested better kind) (low : Matches requested worse kind')
    (lower : kind'.score < kind.score) :
    Precedes available (suggest requested available limit) better worse := by
  intro before after split
  obtain ⟨front, back, taken, rfl, rest⟩ := List.map_eq_append_iff.mp (suggest_eq.symm.trans split)
  obtain ⟨entry, back, rfl, rfl, -⟩ := List.map_eq_cons_iff.mp rest
  have all : ranked requested available =
      front ++ (entry :: back ++ (ranked requested available).drop limit) := by
    conv_lhs => rw [← List.take_append_drop limit (ranked requested available), taken]
    rw [List.append_assoc]
  have member : ∀ e ∈ ranked requested available, Matches requested e.1 e.2 :=
    fun e at_ => matches_of_mem_candidates (ranked_perm.mem_iff.mp at_)
  have sorted := pairwise_ranked requested available
  rw [all] at sorted member
  have none_left : ((entry :: back ++ (ranked requested available).drop limit).map (·.1)).count
      better = 0 := by
    rw [List.count_eq_zero]
    intro listed
    obtain ⟨e, at_, rfl⟩ := List.mem_map.mp listed
    have kindE := (member e (List.mem_append_right front at_)).eq high
    have kindEntry := (member entry (by simp)).eq low
    have below : e.2.score ≤ entry.2.score := by
      rcases List.mem_cons.mp at_ with rfl | at_
      · exact Nat.le_refl _
      · exact (List.pairwise_cons.mp (List.pairwise_append.mp sorted).2.1).1 e at_
    rw [kindE, kindEntry] at below
    omega
  rw [← count_ranked available other high, all, List.map_append,
    List.count_append, none_left]
  rfl

theorem count_suggest_le (name : String) :
    (suggest requested available limit).count name ≤ available.count name := by
  have within : ((ranked requested available).take limit).Sublist (ranked requested available) :=
    List.take_sublist _ _
  calc (suggest requested available limit).count name
      ≤ ((ranked requested available).map (·.1)).count name := (within.map _).count_le name
    _ = ((candidates requested available).map (·.1)).count name := (ranked_perm.map _).count_eq name
    _ ≤ available.count name := by
      rw [names_candidates]
      exact List.filter_sublist.count_le name

theorem exists_candidate {name : String} (h : name ∈ suggest requested available limit) :
    ∃ entry ∈ candidates requested available, entry.1 = name := by
  obtain ⟨entry, at_, named⟩ := List.mem_map.mp h
  exact ⟨entry, ranked_perm.mem_iff.mp (List.mem_of_mem_take at_), named⟩

theorem requested_notMem : requested ∉ suggest requested available limit := by
  intro listed
  obtain ⟨entry, at_, named⟩ := exists_candidate listed
  have kept := List.mem_map_of_mem (f := (·.1)) at_
  rw [named, names_candidates, List.mem_filter, Bool.and_eq_true, bne_iff_ne] at kept
  exact kept.2.1 rfl

end Ranking

structure Suggests (requested : String) (available : List String) (limit : Nat)
    (listed : List String) : Prop where
  bounded : listed.length ≤ limit
  taken : ∀ name, listed.count name ≤ available.count name
  other : requested ∉ listed
  alike : ∀ name ∈ listed, ∃ kind, Matches requested name kind
  filled : listed.length < limit → ∀ name kind, name ≠ requested → Matches requested name kind →
    listed.count name = available.count name
  whole : ∀ name found length, name ≠ requested → Matches requested name .wholeName →
    Matches requested found (.commonStart length) → length < 10 →
      Precedes available listed name found
  short : ∀ name found length, name ≠ requested → Matches requested name .shortName →
    Matches requested found (.commonStart length) → length < 8 →
      Precedes available listed name found
  /-- A long start in common counts for more than containment. -/
  overWhole : ∀ name found length, found ≠ requested → Matches requested name .wholeName →
    Matches requested found (.commonStart length) → 10 < length →
      Precedes available listed found name
  overShort : ∀ name found length, found ≠ requested → Matches requested name .shortName →
    Matches requested found (.commonStart length) → 8 < length →
      Precedes available listed found name
  /-- Between equals the first that is available comes first. -/
  stable : ∀ score, listed.filter (Scores requested score) <+:
    available.filter fun name => name != requested && Scores requested score name

/-- Names that contain each other lead unless the common start of another name is long, and then
they do not. -/
theorem suggests (requested : String) (available : List String) (limit : Nat) :
    Suggests requested available limit (suggest requested available limit) where
  bounded := by
    rw [suggest_eq, List.length_map]
    exact List.length_take_le _ _
  taken := count_suggest_le
  other := requested_notMem
  alike := by
    intro name listed
    obtain ⟨entry, at_, rfl⟩ := exists_candidate listed
    exact ⟨entry.2, matches_of_mem_candidates at_⟩
  filled := by
    intro room name kind other found
    rw [suggest_eq, List.length_map, List.length_take] at room
    have all : (ranked requested available).take limit = ranked requested available :=
      List.take_of_length_le (by omega)
    rw [suggest_eq, all]
    exact count_ranked available other found
  whole := fun _ _ length other contained begun few =>
    precedes_of_score other contained begun (show length * 10 < 100 by omega)
  short := fun _ _ length other contained begun few =>
    precedes_of_score other contained begun (show length * 10 < 80 by omega)
  overWhole := fun _ _ length other contained begun many =>
    precedes_of_score other begun contained (show 100 < length * 10 by omega)
  overShort := fun _ _ length other contained begun many =>
    precedes_of_score other begun contained (show 80 < length * 10 by omega)
  stable := by
    intro score
    rw [suggest_eq, ← filter_names_ranked, List.map_take]
    exact (List.take_prefix _ _).filter _

def ContainmentFirst (requested : String) (available listed : List String) : Prop :=
  ∀ name found length, name ≠ requested →
    Matches requested name .wholeName ∨ Matches requested name .shortName →
      Matches requested found (.commonStart length) → Precedes available listed name found

/-- Eleven letters in common leave no room for a name that is contained in the requested one. -/
theorem not_containmentFirst_widget : ¬ ContainmentFirst "app::WidgetServise"
    ["app::Widget", "app::WidgetService"]
    (suggest "app::WidgetServise" ["app::Widget", "app::WidgetService"] 1) := by
  have found : candidates "app::WidgetServise" ["app::Widget", "app::WidgetService"] =
      [("app::Widget", .wholeName), ("app::WidgetService", .commonStart 11)] := by decide +kernel
  have listed : suggest "app::WidgetServise" ["app::Widget", "app::WidgetService"] 1 =
      ["app::WidgetService"] := by
    rw [suggest, found, List.mergeSort]
    simp [List.MergeSort.Internal.splitInTwo, Match.score]
  have kinds : ∀ entry ∈
      [("app::Widget", Match.wholeName), ("app::WidgetService", .commonStart 11)],
      Matches "app::WidgetServise" entry.1 entry.2 := by
    rw [← found]
    exact fun _ => matches_of_mem_candidates
  have contained := kinds ("app::Widget", .wholeName) (by simp)
  have begun := kinds ("app::WidgetService", .commonStart 11) (by simp)
  intro first
  have lost := first "app::Widget" "app::WidgetService" 11 (by decide) (.inl contained) begun
    [] [] listed
  exact absurd lost (by decide)

end Injector.Suggestion

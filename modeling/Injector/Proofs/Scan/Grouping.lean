import Mathlib.Data.List.Induction
import Injector.Proofs.Scan.Claim

/-!
# How markers are grouped

Each extension that is named gets one group, in the order in which the extensions are named first,
with all markers that name it and with what these allow; so grouping loses no marker, repeats none
and keeps their order.
-/

set_option autoImplicit false

namespace Injector

variable {P : Platform}

def Hit.names (hit : Hit P) (extension : ExtensionKey) : Bool := extension == hit.hook.extension

theorem Hit.names_trans {hit other : Hit P} {a b : ExtensionKey} (h : hit.names a = true)
    (k : hit.names b = true) (l : other.names a = true) : other.names b = true :=
  BEq.trans k (BEq.trans (BEq.symm h) l)

namespace HookGroup

variable {hits : List (Hit P)} {groups : List (HookGroup P)} {g : HookGroup P} {hit : Hit P}

def own (g : HookGroup P) (hits : List (Hit P)) : List (Hit P) :=
  hits.filter (·.names g.extension)

def place (g : HookGroup P) (hits : List (Hit P)) : Nat := hits.findIdx (·.names g.extension)

/-- The groups are those of the extensions that are named, in order, each with its own markers. -/
structure Partition (hits : List (Hit P)) (groups : List (HookGroup P)) : Prop where
  covered : ∀ hit ∈ hits, ∃ g ∈ groups, hit.names g.extension = true
  distinct : groups.Pairwise fun g other => (g.extension == other.extension) = false
  named : ∀ g ∈ groups, ∃ hit ∈ hits, hit.names g.extension = true
  ordered : groups.Pairwise fun g later => g.place hits < later.place hits
  markers : ∀ g ∈ groups, g.markers = (g.own hits).map (·.marker)
  caps : ∀ g ∈ groups, ∀ call, g.caps.allows call =
    (g.own hits).any (·.hook.capabilities.fieldCaps.allows call)

theorem names_ofHit (hit : Hit P) : hit.names (ofHit hit).extension = true := BEq.rfl

def grown (hit : Hit P) (g : HookGroup P) : HookGroup P :=
  if hit.names g.extension then g.add hit else g

@[simp]
theorem extension_grown (hit : Hit P) (g : HookGroup P) :
    (g.grown hit).extension = g.extension := by
  unfold grown
  split <;> rfl

theorem grown_of_not_names (h : hit.names g.extension = false) : g.grown hit = g :=
  if_neg (Bool.eq_false_iff.mp h)

theorem own_snoc (g : HookGroup P) (hits : List (Hit P)) (hit : Hit P) :
    g.own (hits ++ [hit]) = g.own hits ++ if hit.names g.extension then [hit] else [] := by
  rw [own, List.filter_append, List.filter_cons, List.filter_nil]
  rfl

theorem place_snoc_of_named (h : ∃ other ∈ hits, other.names g.extension = true) :
    g.place (hits ++ [hit]) = g.place hits := by
  rw [place, List.findIdx_append, if_pos (List.findIdx_lt_length.mpr h)]
  rfl

theorem insert_cons (hit : Hit P) (g : HookGroup P) (rest : List (HookGroup P)) :
    insert hit (g :: rest) =
      if hit.names g.extension then g.add hit :: rest else g :: insert hit rest := rfl

/-- Markers are added to the group of their extension, or they begin one. -/
theorem insert_eq (distinct : groups.Pairwise fun g other =>
    (g.extension == other.extension) = false) (hit : Hit P) :
    insert hit groups = groups.map (grown hit) ++
      if groups.any (hit.names ·.extension) then [] else [ofHit hit] := by
  induction groups with
  | nil => rfl
  | cons g rest ih =>
    rw [List.pairwise_cons] at distinct
    rw [insert_cons, List.map_cons, List.any_cons]
    by_cases known : hit.names g.extension = true
    · have others : ∀ other ∈ rest, hit.names other.extension = false := by
        intro other ho
        rw [Bool.eq_false_iff]
        intro names
        have same : (g.extension == other.extension) = true := BEq.trans known (BEq.symm names)
        rw [distinct.1 other ho] at same
        cases same
      have kept : rest.map (grown hit) = rest := by
        rw [List.map_congr_left fun other ho => grown_of_not_names (others other ho), List.map_id']
      rw [if_pos known, known, Bool.true_or, if_pos rfl, kept, List.append_nil, grown, if_pos known]
    · have apart : hit.names g.extension = false := Bool.eq_false_iff.mpr known
      rw [if_neg known, apart, Bool.false_or, ih distinct.2, grown_of_not_names apart,
        List.cons_append]

namespace Partition

theorem nil : Partition ([] : List (Hit P)) [] where
  covered := List.forall_mem_nil _
  distinct := .nil
  named := List.forall_mem_nil _
  ordered := .nil
  markers := List.forall_mem_nil _
  caps := List.forall_mem_nil _

/-- No marker so far leads to an extension without a group. -/
theorem unnamed (h : Partition hits groups)
    (new : groups.any (hit.names ·.extension) = false) :
    ∀ other ∈ hits, other.names hit.hook.extension = false := by
  intro other ho
  rw [Bool.eq_false_iff]
  intro names
  obtain ⟨g, hg, named⟩ := h.covered other ho
  rw [List.any_eq_false] at new
  exact new g hg (Hit.names_trans names named BEq.rfl)

theorem markers_grown (h : g.markers = (g.own hits).map (·.marker)) :
    (g.grown hit).markers = ((g.grown hit).own (hits ++ [hit])).map (·.marker) := by
  have own_grown : (g.grown hit).own (hits ++ [hit]) = g.own (hits ++ [hit]) := by
    rw [own, own, extension_grown]
  rw [own_grown, own_snoc, grown]
  by_cases names : hit.names g.extension = true
  · rw [if_pos names, if_pos names, List.map_append, ← h]
    rfl
  · rw [if_neg names, if_neg names, List.append_nil, h]

theorem caps_grown {call : FieldCall}
    (h : g.caps.allows call = (g.own hits).any (·.hook.capabilities.fieldCaps.allows call)) :
    (g.grown hit).caps.allows call =
      ((g.grown hit).own (hits ++ [hit])).any (·.hook.capabilities.fieldCaps.allows call) := by
  have own_grown : (g.grown hit).own (hits ++ [hit]) = g.own (hits ++ [hit]) := by
    rw [own, own, extension_grown]
  rw [own_grown, own_snoc, grown]
  by_cases names : hit.names g.extension = true
  · rw [if_pos names, if_pos names, List.any_append, ← h, add, FieldCaps.allows_union]
    simp
  · rw [if_neg names, if_neg names, List.append_nil, h]

/-- The place of a group that has a marker does not depend on later ones. -/
theorem place_grown (h : Partition hits groups) (hg : g ∈ groups) :
    (g.grown hit).place (hits ++ [hit]) = g.place hits := by
  rw [place, extension_grown]
  exact place_snoc_of_named (h.named g hg)

theorem place_lt (h : Partition hits groups) (hg : g ∈ groups) : g.place hits < hits.length :=
  List.findIdx_lt_length.mpr (h.named g hg)

/-- One more marker for an extension that has a group. -/
theorem grow (h : Partition hits groups) (known : groups.any (hit.names ·.extension) = true) :
    Partition (hits ++ [hit]) (groups.map (grown hit)) where
  covered := by
    obtain ⟨mine, hm, names⟩ := List.any_eq_true.mp known
    rw [List.forall_mem_append, List.forall_mem_singleton]
    constructor
    · intro other ho
      obtain ⟨g, hg, named⟩ := h.covered other ho
      exact ⟨g.grown hit, List.mem_map_of_mem hg, by rwa [extension_grown]⟩
    · exact ⟨mine.grown hit, List.mem_map_of_mem hm, by rwa [extension_grown]⟩
  distinct := by
    rw [List.pairwise_map]
    simpa only [extension_grown] using h.distinct
  named := by
    rw [List.forall_mem_map]
    intro g hg
    obtain ⟨other, ho, named⟩ := h.named g hg
    exact ⟨other, List.mem_append_left _ ho, by rwa [extension_grown]⟩
  ordered := by
    rw [List.pairwise_map]
    apply h.ordered.imp_of_mem
    intro g later hg hl before
    rwa [h.place_grown hg, h.place_grown hl]
  markers := List.forall_mem_map.mpr fun g hg => markers_grown (h.markers g hg)
  caps := List.forall_mem_map.mpr fun g hg call => caps_grown (h.caps g hg call)

/-- The first marker for its extension. -/
theorem begin (h : Partition hits groups) (new : groups.any (hit.names ·.extension) = false) :
    Partition (hits ++ [hit]) (groups ++ [ofHit hit]) := by
  have unnamed := h.unnamed new
  have others : ∀ g ∈ groups, hit.names g.extension = false := by
    simpa only [List.any_eq_false, Bool.not_eq_true] using new
  have kept : ∀ g ∈ groups, g.grown hit = g := fun g hg => grown_of_not_names (others g hg)
  have own : (ofHit hit).own (hits ++ [hit]) = [hit] := by
    have none : (ofHit hit).own hits = [] :=
      List.filter_eq_nil_iff.mpr fun other ho => Bool.eq_false_iff.mp (unnamed other ho)
    rw [own_snoc, none, List.nil_append, if_pos (names_ofHit hit)]
  have last : (ofHit hit).place (hits ++ [hit]) = hits.length := by
    have none : hits.findIdx (·.names (ofHit hit).extension) = hits.length :=
      List.findIdx_eq_length_of_false unnamed
    rw [place, List.findIdx_append, none, if_neg (Nat.lt_irrefl _), List.findIdx_cons,
      names_ofHit hit]
    exact Nat.zero_add _
  exact
    { covered := by
        rw [List.forall_mem_append, List.forall_mem_singleton]
        constructor
        · intro other ho
          obtain ⟨g, hg, named⟩ := h.covered other ho
          exact ⟨g, List.mem_append_left _ hg, named⟩
        · exact ⟨ofHit hit, by simp, names_ofHit hit⟩
      distinct := by
        rw [List.pairwise_append]
        refine ⟨h.distinct, List.pairwise_singleton _ _, fun g hg other ho => ?_⟩
        rw [List.mem_singleton.mp ho]
        exact others g hg
      named := by
        rw [List.forall_mem_append, List.forall_mem_singleton]
        constructor
        · intro g hg
          obtain ⟨other, ho, named⟩ := h.named g hg
          exact ⟨other, List.mem_append_left _ ho, named⟩
        · exact ⟨hit, by simp, names_ofHit hit⟩
      ordered := by
        rw [List.pairwise_append]
        refine ⟨h.ordered.imp_of_mem ?_, List.pairwise_singleton _ _, fun g hg other ho => ?_⟩
        · intro g later hg hl before
          rwa [← kept g hg, ← kept later hl, h.place_grown hg, h.place_grown hl]
        · rw [List.mem_singleton.mp ho, last, ← kept g hg, h.place_grown hg]
          exact h.place_lt hg
      markers := by
        rw [List.forall_mem_append, List.forall_mem_singleton, own]
        refine ⟨fun g hg => ?_, rfl⟩
        rw [← kept g hg]
        exact markers_grown (h.markers g hg)
      caps := by
        rw [List.forall_mem_append, List.forall_mem_singleton, own]
        refine ⟨fun g hg call => ?_, fun call => by simp [ofHit]⟩
        rw [← kept g hg]
        exact caps_grown (h.caps g hg call) }

/-- One more marker. -/
theorem snoc (h : Partition hits groups) (hit : Hit P) :
    Partition (hits ++ [hit]) (insert hit groups) := by
  rw [insert_eq h.distinct]
  cases known : groups.any (hit.names ·.extension) with
  | true =>
    rw [if_pos rfl, List.append_nil]
    exact h.grow known
  | false =>
    have kept : groups.map (grown hit) = groups := by
      rw [List.any_eq_false] at known
      have same : ∀ g ∈ groups, g.grown hit = g := fun g hg =>
        grown_of_not_names (Bool.eq_false_iff.mpr (known g hg))
      rw [List.map_congr_left same, List.map_id']
    rw [if_neg Bool.false_ne_true, kept]
    exact h.begin known

end Partition

/-- Whatever the markers are, they are grouped by the extensions they lead to. -/
theorem partition_ofHits (hits : List (Hit P)) : Partition hits (ofHits hits) := by
  induction hits using List.reverseRecOn with
  | nil => exact .nil
  | append_singleton hits hit ih =>
    have step : ofHits (hits ++ [hit]) = insert hit (ofHits hits) := by
      rw [ofHits, List.foldl_append]
      rfl
    rw [step]
    exact ih.snoc hit

end HookGroup

end Injector

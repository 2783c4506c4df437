import Mathlib.Data.List.Nodup
import Mathlib.Data.List.Perm.Subperm
import Mathlib.Logic.Relation
import Injector.Proofs.Bean.Forest

/-!
# What making the instance of a bean needs

The walk over the constructor and the operations nested in it meets no operation twice, since each
has one parent; so it is over before its budget is, and it has met them all.
-/

set_option autoImplicit false

namespace Injector

variable {P : Platform}

namespace Operation

theorem filterMap_nestedOperation (op : Operation P) :
    (op.bindings.filterMap fun binding => binding).filterMap Bean.nestedOperation = op.nested := by
  rw [List.filterMap_filterMap, nested]

theorem contains_requiredServices {op : Operation P} {key : DependencyKey} {index : Nat}
    (h : op.binding? index = some (.service key .application true)) :
    ((op.bindings.filterMap fun binding => binding).filterMap Bean.requiredService).contains
      key = true := by
  rw [List.contains_iff_exists_mem_beq, List.filterMap_filterMap]
  refine ⟨key, ?_, BEq.refl key⟩
  rw [List.mem_filterMap]
  exact ⟨_, List.mem_of_getElem? (binding?_eq_some.mp h), rfl⟩

theorem needs_of_mem_requiredServices {op : Operation P} {key : DependencyKey}
    (h : key ∈ (op.bindings.filterMap fun binding => binding).filterMap Bean.requiredService) :
    ∃ index, op.binding? index = some (.service key .application true) := by
  rw [List.filterMap_filterMap, List.mem_filterMap] at h
  obtain ⟨binding, hm, hr⟩ := h
  obtain ⟨index, hi⟩ := List.getElem?_of_mem hm
  refine ⟨index, ?_⟩
  rw [binding?_eq_some, hi]
  unfold Bean.requiredService at hr
  cases binding with
  | none => cases hr
  | some binding =>
    dsimp only [Option.bind_some] at hr
    split at hr
    next =>
      cases hr
      rfl
    next => cases hr

end Operation

namespace Bean

variable {b : Bean P} {root id : Nat} {seen waiting : List Nat} {found keys : List DependencyKey}

theorem contains_addNew {key new : DependencyKey} :
    (addNew found new).contains key = true ↔
      found.contains key = true ∨ (key == new) = true := by
  unfold addNew
  split
  next h =>
    refine ⟨Or.inl, fun hk => hk.elim (fun hk => hk) fun hk => ?_⟩
    rw [List.contains_iff_exists_mem_beq] at h ⊢
    obtain ⟨other, ho, hn⟩ := h
    exact ⟨other, ho, BEq.trans hk hn⟩
  next => simp [List.contains_eq_any_beq, List.any_append]

theorem contains_foldl_addNew {key : DependencyKey} :
    (keys.foldl addNew found).contains key = true ↔
      found.contains key = true ∨ keys.contains key = true := by
  induction keys generalizing found with
  | nil => simp
  | cons new rest ih =>
    rw [List.foldl_cons, ih, contains_addNew, List.contains_cons, Bool.or_eq_true, or_assoc]

/-- The operation runs when `root` does: it is `root` or makes a value for one that runs. -/
def Under (b : Bean P) : Nat → Nat → Prop :=
  Relation.ReflTransGen fun id child => ∃ index, b.Holds id index child

def Needs (b : Bean P) (id : Nat) (key : DependencyKey) : Prop :=
  ∃ op, b.operation? id = some op ∧
    ∃ index, op.binding? index = some (.service key .application true)

/-- The operations in `seen` were visited and led to all others that wait, each once. -/
structure Walk (b : Bean P) (root : Nat) (seen waiting : List Nat) : Prop where
  nodup : (seen ++ waiting).Nodup
  bound : ∀ id ∈ seen ++ waiting, id < b.operations.size
  origin : ∀ id ∈ seen ++ waiting, id = root ∨
    ∃ op, b.operation? id = some op ∧ ∃ parent ∈ seen, op.parent = some parent

namespace Walk

theorem start {top : Operation P} (htop : b.operation? root = some top) :
    Walk b root [] [root] := by
  refine ⟨by simp, ?_, fun id hid => Or.inl (by simpa using hid)⟩
  intro id hid
  obtain rfl : id = root := by simpa using hid
  exact lt_of_operation? htop

theorem length_le (h : Walk b root seen waiting) :
    seen.length + waiting.length ≤ b.operations.size := by
  have subset : seen ++ waiting ⊆ List.range b.operations.size := fun id hid =>
    List.mem_range.mpr (h.bound id hid)
  have hle := (h.nodup.subperm subset).length_le
  rw [List.length_append, List.length_range] at hle
  exact hle

theorem step (linked : b.Linked) {top op : Operation P} (htop : b.operation? root = some top)
    (hparent : top.parent = none) (h : Walk b root seen (id :: waiting))
    (ho : b.operation? id = some op) :
    Walk b root (seen ++ [id]) (op.nested.reverse ++ waiting) := by
  have child : ∀ c ∈ op.nested, ∃ new, b.operation? c = some new ∧ new.parent = some id := by
    intro c hc
    obtain ⟨index, hi⟩ := Operation.mem_nested.mp hc
    exact linked.parent_of_holds ⟨op, ho, hi⟩
  have perm : ((seen ++ [id]) ++ (op.nested.reverse ++ waiting)).Perm
      (op.nested ++ (seen ++ id :: waiting)) := by
    have hrev := (List.reverse_perm op.nested).append_left (seen ++ [id])
    have hswap := (hrev.trans List.perm_append_comm).append_right waiting
    simpa [List.append_assoc] using hswap
  have fresh : ∀ c ∈ op.nested, c ∉ seen ++ id :: waiting := by
    intro c hc hmem
    obtain ⟨new, hnew, hnp⟩ := child c hc
    rcases h.origin c hmem with rfl | ⟨other, hother, parent, hseen, hp⟩
    · obtain rfl : top = new := Option.some.inj (htop.symm.trans hnew)
      rw [hparent] at hnp
      cases hnp
    · obtain rfl : new = other := Option.some.inj (hnew.symm.trans hother)
      obtain rfl : id = parent := Option.some.inj (hnp.symm.trans hp)
      exact List.disjoint_of_nodup_append h.nodup hseen List.mem_cons_self
  have mem : ∀ c, c ∈ (seen ++ [id]) ++ (op.nested.reverse ++ waiting) →
      c ∈ op.nested ∨ c ∈ seen ++ id :: waiting := fun c hc =>
    List.mem_append.mp (perm.mem_iff.mp hc)
  refine ⟨?_, ?_, ?_⟩
  · rw [perm.nodup_iff, List.nodup_append']
    refine ⟨?_, h.nodup, fun c hc hm => fresh c hc hm⟩
    rw [← linked.children_eq id op ho]
    exact linked.nodup_children id
  · intro c hc
    rcases mem c hc with hc | hc
    · obtain ⟨new, hnew, -⟩ := child c hc
      exact lt_of_operation? hnew
    · exact h.bound c hc
  · intro c hc
    rcases mem c hc with hc | hc
    · obtain ⟨new, hnew, hnp⟩ := child c hc
      exact Or.inr ⟨new, hnew, id, by simp, hnp⟩
    · rcases h.origin c hc with rfl | ⟨other, hother, parent, hseen, hp⟩
      · exact Or.inl rfl
      · exact Or.inr ⟨other, hother, parent, List.mem_append_left _ hseen, hp⟩

end Walk

theorem collectDependencies_cons {op : Operation P} (ho : b.operation? id = some op)
    (visits : Nat) :
    b.collectDependencies (visits + 1) (id :: waiting) found =
      b.collectDependencies visits (op.nested.reverse ++ waiting)
        (((op.bindings.filterMap fun binding => binding).filterMap requiredService).foldl
          addNew found) := by
  rw [collectDependencies, ho, ← Operation.filterMap_nestedOperation]

/-- The budget that is left is for the operations not visited yet. -/
theorem contains_collectDependencies (linked : b.Linked) {top : Operation P}
    (htop : b.operation? root = some top) (hparent : top.parent = none) {visits : Nat}
    (found : List DependencyKey) (walk : Walk b root seen waiting)
    (budget : seen.length + visits = b.operations.size) :
    (∀ key, found.contains key = true →
      (b.collectDependencies visits waiting found).contains key = true) ∧
    ∀ id ∈ waiting, ∀ id', b.Under id id' → ∀ key, b.Needs id' key →
      (b.collectDependencies visits waiting found).contains key = true := by
  induction visits generalizing seen waiting found with
  | zero =>
    have hle := walk.length_le
    have empty : waiting = [] := List.eq_nil_of_length_eq_zero (by omega)
    subst empty
    exact ⟨fun _ h => h, fun _ h => by cases h⟩
  | succ visits ih =>
    cases waiting with
    | nil => exact ⟨fun _ h => h, fun _ h => by cases h⟩
    | cons id waiting =>
      obtain ⟨op, ho⟩ := exists_operation? (walk.bound id (by simp))
      have spent : (seen ++ [id]).length + visits = b.operations.size := by
        rw [List.length_append, List.length_singleton]
        omega
      obtain ⟨kept, visited⟩ := ih (((op.bindings.filterMap fun binding => binding).filterMap
        requiredService).foldl addNew found) (walk.step linked htop hparent ho) spent
      rw [collectDependencies_cons ho]
      refine ⟨fun key hk => kept key (contains_foldl_addNew.mpr (Or.inl hk)), ?_⟩
      intro other hother id' under key needs
      rcases List.mem_cons.mp hother with rfl | hother
      · rcases under.cases_head with rfl | ⟨c, ⟨index, holder, hholder, hb⟩, under⟩
        · obtain ⟨op', ho', index, hb⟩ := needs
          obtain rfl : op = op' := Option.some.inj (ho.symm.trans ho')
          apply kept
          rw [contains_foldl_addNew]
          exact Or.inr (Operation.contains_requiredServices hb)
        · obtain rfl : op = holder := Option.some.inj (ho.symm.trans hholder)
          have nested : c ∈ op.nested := Operation.mem_nested.mpr ⟨index, hb⟩
          exact visited c (by simp [nested]) id' under key needs
      · exact visited other (by simp [hother]) id' under key needs

theorem constructor?_eq_some (linked : b.Linked) {top : Operation P}
    (h : b.constructor? = some top) :
    b.operation? top.id = some top ∧ top.mode = .construct ∧ top.parent = none := by
  have hm := Array.mem_of_find?_eq_some h
  have hp := Array.find?_some h
  rw [Bool.and_eq_true, Option.isNone_iff_eq_none, beq_iff_eq] at hp
  exact ⟨linked.id_mem hm, hp.1, hp.2⟩

/-- All that the constructor and what runs under it cannot do without. -/
theorem contains_serviceDependencies (linked : b.Linked) {top : Operation P}
    (htop : b.constructor? = some top) (under : b.Under top.id id) {key : DependencyKey}
    (needs : b.Needs id key) : b.serviceDependencies.contains key = true := by
  obtain ⟨found, -, hparent⟩ := constructor?_eq_some linked htop
  have collected := contains_collectDependencies linked found hparent [] (.start found)
    (Nat.zero_add _)
  rw [serviceDependencies, htop]
  exact collected.2 top.id (by simp) id under key needs

theorem mem_foldl_addNew {key : DependencyKey} (h : key ∈ keys.foldl addNew found) :
    key ∈ found ∨ key ∈ keys := by
  induction keys generalizing found with
  | nil => exact .inl h
  | cons new rest ih =>
    rcases ih h with h | h
    · unfold addNew at h
      split at h
      · exact .inl h
      · rcases List.mem_append.mp h with h | h
        · exact .inl h
        · exact .inr (List.mem_singleton.mp h ▸ List.mem_cons_self)
    · exact .inr (List.mem_cons_of_mem new h)

/-- Nothing is collected that does not run under the root. -/
theorem needs_of_mem_collectDependencies {visits : Nat}
    (reached : ∀ id ∈ waiting, b.Under root id)
    (sound : ∀ key ∈ found, ∃ id, b.Under root id ∧ b.Needs id key) :
    ∀ key ∈ b.collectDependencies visits waiting found, ∃ id, b.Under root id ∧ b.Needs id key := by
  induction visits generalizing waiting found with
  | zero => exact sound
  | succ visits ih =>
    cases waiting with
    | nil => exact sound
    | cons id waiting =>
      rw [List.forall_mem_cons] at reached
      cases ho : b.operation? id with
      | none =>
        rw [collectDependencies, ho]
        exact ih reached.2 sound
      | some op =>
        rw [collectDependencies_cons ho]
        apply ih
        · intro c hc
          rcases List.mem_append.mp hc with hc | hc
          · obtain ⟨index, hi⟩ := Operation.mem_nested.mp (List.mem_reverse.mp hc)
            exact reached.1.tail ⟨index, op, ho, hi⟩
          · exact reached.2 c hc
        · intro key hk
          rcases mem_foldl_addNew hk with hk | hk
          · exact sound key hk
          · obtain ⟨index, hi⟩ := Operation.needs_of_mem_requiredServices hk
            exact ⟨id, reached.1, op, ho, index, hi⟩

/-- What is declared to be needed is bound to an operation that runs under the constructor. -/
theorem needs_of_mem_serviceDependencies {key : DependencyKey} (h : key ∈ b.serviceDependencies) :
    ∃ top id, b.constructor? = some top ∧ b.Under top.id id ∧ b.Needs id key := by
  unfold serviceDependencies at h
  split at h
  next => cases h
  next top made =>
    have start : ∀ id ∈ [top.id], b.Under top.id id := fun id hid => by
      rw [List.mem_singleton.mp hid]
      exact .refl
    obtain ⟨id, under, needs⟩ := needs_of_mem_collectDependencies start
      (List.forall_mem_nil _) key h
    exact ⟨top, id, made, under, needs⟩

end Bean

end Injector

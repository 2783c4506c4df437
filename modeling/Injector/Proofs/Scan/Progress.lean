import Mathlib.Data.List.Pairwise
import Injector.Proofs.Ends
import Injector.Proofs.Scan.Change

/-!
# How far a scan has come

Slots are bound in the order of the operations and, within one, of its parameters; the operations
that wait are those from one of them on. Between two moments of a scan its bean has only gone
through changes, and so has every bean that a handler could look at.
-/

set_option autoImplicit false

namespace Injector

variable {P : Platform}

namespace Scan

/-- Of the operations from `base` on, exactly the slots before slot `i` of operation `k` are
bound, and the operations from `q` on wait. -/
structure Frontier (b : Bean P) (queue : List OperationId) (base k i q : Nat) : Prop where
  queue_eq : queue = List.range' q (b.operations.size - q)
  base_le : base ≤ k
  q_le : q ≤ b.operations.size
  room : k < b.operations.size ∨ k = b.operations.size ∧ i = 0
  bound_iff : ∀ (id : Nat) op, b.operation? id = some op → base ≤ id → ∀ j < op.slots.length,
    (op.binding? j).isSome ↔ id < k ∨ id = k ∧ j < i

namespace Frontier

variable {b : Bean P} {queue : List OperationId} {base k i q : Nat}

/-- No slot from the frontier on is bound. -/
theorem ready (h : Frontier b queue base k i q) {op : Operation P}
    (ho : b.operation? k = some op) (j : Nat) (hj : i ≤ j) : op.binding? j = none := by
  by_cases hl : j < op.slots.length
  · have hiff := h.bound_iff k op ho h.base_le j hl
    cases hb : op.binding? j with
    | none => rfl
    | some binding =>
      rw [hb] at hiff
      have := hiff.mp rfl
      omega
  · rw [Operation.binding?, List.getElem?_eq_none (by omega)]
    rfl

theorem append (h : Frontier b queue base k i q) {op : Operation P}
    (hf : op.Fresh b.operations.size) :
    Frontier (b.append op) (queue ++ [op.id]) base k i q where
  queue_eq := by
    have hq := h.q_le
    rw [Bean.size_append, h.queue_eq, hf.id_eq, Nat.sub_add_comm hq, List.range'_1_concat,
      Nat.add_sub_of_le hq]
  base_le := h.base_le
  q_le := by
    rw [Bean.size_append]
    exact Nat.le_succ_of_le h.q_le
  room := by
    have hr := h.room
    rw [Bean.size_append]
    omega
  bound_iff := by
    intro id old ho hb j hj
    rcases Bean.operation?_of_append ho with ⟨hn, rfl⟩ | ho
    · have hr := h.room
      rw [hf.unbound j]
      simp only [Option.isSome_none, Bool.false_eq_true, false_iff]
      omega
    · exact h.bound_iff id old ho hb j hj

/-- Past the last slot of an operation the next operation comes. -/
theorem next (h : Frontier b queue base k i q) {op : Operation P}
    (ho : b.operation? k = some op) (hi : op.slots.length ≤ i) :
    Frontier b queue base (k + 1) 0 q where
  queue_eq := h.queue_eq
  base_le := Nat.le_succ_of_le h.base_le
  q_le := h.q_le
  room := by
    have hk := Bean.lt_of_operation? ho
    omega
  bound_iff := by
    intro id old hid hb j hj
    rw [h.bound_iff id old hid hb j hj]
    by_cases he : id = k
    · subst he
      obtain rfl : op = old := Option.some.inj (ho.symm.trans hid)
      omega
    · omega

/-- The slot at the frontier is bound. -/
theorem put (h : Frontier b queue base k i q) {op bound : Operation P} {binding : Binding P}
    (ho : b.operation? k = some op) (hb : op.bind i binding = .ok bound) :
    Frontier (b.put k bound) queue base k (i + 1) q where
  queue_eq := by
    rw [Bean.size_put]
    exact h.queue_eq
  base_le := h.base_le
  q_le := by
    rw [Bean.size_put]
    exact h.q_le
  room := by
    rw [Bean.size_put]
    exact Or.inl (Bean.lt_of_operation? ho)
  bound_iff := by
    intro id old hid hbase j hj
    rcases Bean.operation?_of_put ho hid with ⟨he, rfl⟩ | ⟨he, hid⟩
    · rw [(Operation.grows_bind hb).length_eq] at hj
      have hiff := h.bound_iff k op ho h.base_le j hj
      rw [Operation.binding?_bind hb]
      by_cases hji : j = i
      · rw [if_pos hji]
        simp only [Option.isSome_some, true_iff]
        omega
      · rw [if_neg hji, hiff]
        omega
    · rw [h.bound_iff id old hid hbase j hj]
      omega

end Frontier

/-- A scan of a bean whose operations before `base` come from earlier scans. -/
structure Progress (f : ScanFrame P) (base k i q : Nat) (s : Scan P) : Prop where
  linked : s.bean.Linked
  installer : s.bean.installer = f.installer
  frontier : Frontier s.bean s.queue base k i q

namespace Progress

variable {f : ScanFrame P} {base k i q : Nat} {s s' : Scan P}

/-- Only the bean and the queue matter. -/
theorem of_eq (h : Progress f base k i q s) (hb : s'.bean = s.bean) (hq : s'.queue = s.queue) :
    Progress f base k i q s' where
  linked := hb ▸ h.linked
  installer := hb ▸ h.installer
  frontier := by
    rw [hb, hq]
    exact h.frontier

theorem unbound (h : Progress f base k i q s) :
    (s.bean.operation? k).bind (·.binding? i) = none := by
  cases ho : s.bean.operation? k with
  | none => rfl
  | some op => exact h.frontier.ready ho i (Nat.le_refl i)

end Progress

def Settled (f : ScanFrame P) (base : Nat) (s : Scan P) : Prop :=
  Progress f base s.bean.operations.size 0 s.bean.operations.size s

noncomputable def seen (s : Scan P) : List (Bean P) :=
  s.transcript.toList.filterMap fun
    | .stood bean => some bean.value
    | _ => none

structure Quiet (s s' : Scan P) : Prop where
  bean : s'.bean = s.bean
  queue : s'.queue = s.queue
  seen : s'.seen = s.seen

namespace Quiet

variable {s s' s'' : Scan P}

theorem refl (s : Scan P) : Quiet s s := ⟨rfl, rfl, rfl⟩

theorem trans (h : Quiet s s') (k : Quiet s' s'') : Quiet s s'' :=
  ⟨k.bean.trans h.bean, k.queue.trans h.queue, k.seen.trans h.seen⟩

theorem progress {f : ScanFrame P} {base k i q : Nat} (h : Quiet s s')
    (hs : Progress f base k i q s) : Progress f base k i q s' :=
  hs.of_eq h.bean h.queue

end Quiet

def Follows (f : ScanFrame P) (s s' : Scan P) : Prop :=
  ∃ since, s'.seen = s.seen ++ since ∧ (s.bean :: since ++ [s'.bean]).Pairwise (Reaches f)

namespace Follows

variable {f : ScanFrame P} {s s' s'' : Scan P}

theorem reaches (h : Follows f s s') : Reaches f s.bean s'.bean := by
  obtain ⟨since, -, hp⟩ := h
  rw [List.cons_append, List.pairwise_cons] at hp
  exact hp.1 _ (by simp)

theorem of_reaches (hb : Reaches f s.bean s'.bean) (hs : s'.seen = s.seen) : Follows f s s' :=
  ⟨[], by simpa using hs, by simpa using hb⟩

theorem refl (s : Scan P) : Follows f s s := of_reaches .refl rfl

theorem of_quiet (h : Quiet s s') : Follows f s s' :=
  of_reaches (h.bean ▸ Relation.ReflTransGen.refl) h.seen

theorem trans (h : Follows f s s') (k : Follows f s' s'') : Follows f s s'' := by
  have hr := h.reaches
  have kr := k.reaches
  obtain ⟨since, hs, hp⟩ := h
  obtain ⟨later, ks, kp⟩ := k
  refine ⟨since ++ later, by rw [ks, hs, List.append_assoc], ?_⟩
  rw [List.pairwise_append] at hp
  rw [List.cons_append, List.pairwise_cons] at kp
  have happ : s.bean :: (since ++ later) ++ [s''.bean] =
      (s.bean :: since) ++ (later ++ [s''.bean]) := by simp
  rw [happ, List.pairwise_append]
  refine ⟨hp.1, kp.2, ?_⟩
  intro old ho new hn
  exact (hp.2.2 old ho s'.bean (by simp)).trans (kp.1 new hn)

/-- A handler looks at the bean as it stands. -/
theorem observed (hb : s'.bean = s.bean) (hs : s'.seen = s.seen ++ [s.bean]) :
    Follows f s s' := by
  refine ⟨[s.bean], hs, ?_⟩
  rw [hb]
  simp [Relation.ReflTransGen.refl]

end Follows

def Leads {α : Type} (f : ScanFrame P) (s : Scan P) (step : ScanM P α) (ok : α → Scan P → Prop) :
    Prop :=
  Ends step s (fun a s' => Follows f s s' ∧ ok a s') fun _ s' => Follows f s s'

namespace Leads

variable {α β : Type} {f : ScanFrame P} {s : Scan P} {step : ScanM P α} {ok : α → Scan P → Prop}

theorem mono {ok' : α → Scan P → Prop} (h : Leads f s step ok)
    (hok : ∀ a s', ok a s' → ok' a s') : Leads f s step ok' :=
  Ends.mono h (fun a s' hs => ⟨hs.1, hok a s' hs.2⟩) fun _ _ hs => hs

theorem follows (h : Leads f s step ok) :
    Leads f s step fun a s' => Follows f s s' ∧ ok a s' :=
  Ends.mono h (fun _ _ hs => ⟨hs.1, hs⟩) fun _ _ hs => hs

theorem bind {next : α → ScanM P β} {ok' : β → Scan P → Prop} (h : Leads f s step ok)
    (hn : ∀ a s', ok a s' → Leads f s' (next a) ok') : Leads f s (step >>= next) ok' := by
  apply Ends.bind h
  intro a s' hs
  exact Ends.mono (hn a s' hs.2) (fun _ _ hs' => ⟨hs.1.trans hs'.1, hs'.2⟩)
    fun _ _ hs' => hs.1.trans hs'

/-- What led to where the step starts from is part of the way. -/
theorem after {s' : Scan P} (h : Leads f s' step ok) (hs : Follows f s s') :
    Ends step s' (fun a s'' => Follows f s s'' ∧ ok a s'') fun _ s'' => Follows f s s'' :=
  Ends.mono h (fun _ _ ha => ⟨hs.trans ha.1, ha.2⟩) fun _ _ he => hs.trans he

theorem pure {a : α} (h : ok a s) : Leads f s (Pure.pure a) ok := ⟨.refl s, h⟩

theorem throw {e : Error} : Leads f s (MonadExcept.throw e : ScanM P α) ok := Follows.refl s

/-- An error that is only told differently. -/
theorem rethrow (h : Leads f s step ok) (tell : Error → Error) :
    Leads f s (tryCatch step fun e => MonadExcept.throw (tell e)) ok := ends_tryCatch.mpr h

theorem discard {ok : Scan P → Prop} (h : Leads f s step fun _ s' => ok s') :
    Leads f s (Functor.discard step) fun _ s' => ok s' := ends_discard.mpr h

/-- An invariant of each step of a list is one of the whole. -/
theorem forM {xs : List α} {step : α → ScanM P PUnit} {invariant : Scan P → Prop}
    (hs : invariant s)
    (h : ∀ x ∈ xs, ∀ s, invariant s → Leads f s (step x) fun _ s' => invariant s') :
    Leads f s (xs.forM step) fun _ s' => invariant s' := by
  induction xs generalizing s with
  | nil => exact ⟨.refl s, hs⟩
  | cons x xs ih =>
    show Leads f s (step x >>= fun _ => xs.forM step) _
    exact (h x (by simp) s hs).bind fun _ s' hs' => ih hs' fun y hy => h y (by simp [hy])

end Leads

end Scan

end Injector

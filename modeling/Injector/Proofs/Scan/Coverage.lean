import Mathlib.Data.List.Nodup
import Injector.Proofs.Scan.Licence
import Injector.Proofs.Scan.Rounds

/-!
# Every parameter has its round

Parameters are taken up in the order of the operations and, within one, of its parameters, each of
them once and still unbound. A scan that succeeds leaves none out; one that fails has come as far as
the round that failed.
-/

set_option autoImplicit false

namespace Injector

variable {P : Platform}

namespace Bean

variable {b later : Bean P} {base k k' i : Nat}

def arity (b : Bean P) (id : OperationId) : Nat := ((b.operation? id).map (·.params.length)).getD 0

def parametersBefore (b : Bean P) (base k i : Nat) : List (OperationId × Nat) :=
  (List.range' base (k - base)).flatMap (fun id => (List.range (b.arity id)).map (Prod.mk id)) ++
    (List.range i).map (Prod.mk k)

def parametersFrom (b : Bean P) (base : Nat) : List (OperationId × Nat) :=
  b.parametersBefore base b.operations.size 0

theorem arity_of_some {op : Operation P} (found : b.operation? k = some op) :
    b.arity k = op.params.length := by rw [arity, found]; rfl

theorem Extends.arity_eq (h : b.Extends later) (room : k < b.operations.size) :
    later.arity k = b.arity k := by
  obtain ⟨op, found⟩ := exists_operation? room
  obtain ⟨op', found', grown⟩ := h.operations k op found
  rw [arity_of_some found, arity_of_some found', grown.params]

/-- What has been passed stays the same. -/
theorem Extends.parametersBefore_eq (h : b.Extends later) (room : k ≤ b.operations.size) :
    later.parametersBefore base k i = b.parametersBefore base k i := by
  unfold parametersBefore
  congr 1
  refine List.flatMap_congr fun id at_ => ?_
  rw [List.mem_range'_1] at at_
  rw [h.arity_eq (by omega)]

theorem parametersBefore_self (b : Bean P) (base : Nat) : b.parametersBefore base base 0 = [] := by
  simp [parametersBefore]

theorem parametersBefore_succ (b : Bean P) (base k i : Nat) :
    b.parametersBefore base k (i + 1) = b.parametersBefore base k i ++ [(k, i)] := by
  simp [parametersBefore, List.range_succ]

theorem parametersBefore_next (le : base ≤ k) :
    b.parametersBefore base (k + 1) 0 = b.parametersBefore base k (b.arity k) := by
  have last : List.range' base (k + 1 - base) = List.range' base (k - base) ++ [k] := by
    rw [Nat.sub_add_comm le, List.range'_1_concat, Nat.add_sub_of_le le]
  rw [parametersBefore, last]
  simp [parametersBefore]

theorem parametersBefore_mono (le : base ≤ k) (h : k ≤ k') :
    b.parametersBefore base k 0 <+: b.parametersBefore base k' 0 := by
  induction h with
  | refl => exact List.prefix_refl _
  | @step k' h ih =>
    refine ih.trans ?_
    rw [parametersBefore_next (Nat.le_trans le h)]
    exact ⟨(List.range (b.arity k')).map (Prod.mk k'), by simp [parametersBefore]⟩

theorem Extends.parametersFrom_mono (h : b.Extends later) (le : base ≤ b.operations.size) :
    b.parametersFrom base <+: later.parametersFrom base := by
  have same : later.parametersBefore base b.operations.size 0 = b.parametersFrom base :=
    h.parametersBefore_eq (Nat.le_refl _)
  rw [← same]
  exact parametersBefore_mono le h.size_le

/-- Parameter `i` of operation `k` and those before it are among all. -/
theorem parametersBefore_within (le : base ≤ k) (room : k < b.operations.size)
    (inBounds : i < b.arity k) : b.parametersBefore base k (i + 1) <+: b.parametersFrom base := by
  have within : b.parametersBefore base k (i + 1) <+: b.parametersBefore base k (b.arity k) := by
    obtain ⟨rest, arity⟩ := Nat.exists_eq_add_of_le (Nat.succ_le_of_lt inBounds)
    refine (List.prefix_append_right_inj _).mpr (List.IsPrefix.map _ ?_)
    rw [arity]
    exact ⟨_, List.range_add.symm⟩
  rw [← parametersBefore_next le] at within
  exact within.trans (parametersBefore_mono (Nat.le_succ_of_le le) room)

theorem parametersFrom_nodup (b : Bean P) (base : Nat) : (b.parametersFrom base).Nodup := by
  have apart : ∀ id id' : OperationId, id ≠ id' → List.Disjoint
      ((List.range (b.arity id)).map (Prod.mk id))
      ((List.range (b.arity id')).map (Prod.mk id')) := by
    intro id id' different place at_ at_'
    obtain ⟨_, -, rfl⟩ := List.mem_map.mp at_
    obtain ⟨_, -, same⟩ := List.mem_map.mp at_'
    exact different (congrArg Prod.fst same).symm
  rw [parametersFrom, parametersBefore, List.range_zero, List.map_nil, List.append_nil,
    List.nodup_flatMap]
  exact ⟨fun id _ => List.nodup_range.map fun _ _ same => congrArg Prod.snd same,
    (List.pairwise_lt_range' 1).imp fun lt => apart _ _ (Nat.ne_of_lt lt)⟩

end Bean

namespace Scan

def Round.place (r : Round P) : OperationId × Nat := (r.id, r.index)

namespace Rounds

variable {f : ScanFrame P} {start : Catalog} {base k i q : Nat} {done : List (Round P)}
  {s s' : Scan P}

/-- The rounds so far were about parameters that waited to be bound, from the first on, with none
left out. -/
structure Tally (f : ScanFrame P) (start : Catalog) (base : Nat) (done : List (Round P))
    (s : Scan P) : Prop where
  due : ∀ r ∈ done, r.frame = f ∧ start.Grows r.before.catalog ∧ ∃ op, r.Due op
  within : done.map Round.place <+: s.bean.parametersFrom base
  learned : start.Grows s.catalog
  base_le : base ≤ s.bean.operations.size

structure Abreast (f : ScanFrame P) (start : Catalog) (base k i q : Nat) (done : List (Round P))
    (s : Scan P) : Prop extends Progress f base k i q s, Tally f start base done s where
  reached : done.map Round.place = s.bean.parametersBefore base k i

theorem Tally.later (h : Tally f start base done s) (follows : Follows f s s')
    (learned : s.catalog.Grows s'.catalog) : Tally f start base done s' where
  due := h.due
  within := h.within.trans (follows.reaches.grows.parametersFrom_mono h.base_le)
  learned := h.learned.trans learned
  base_le := Nat.le_trans h.base_le follows.reaches.grows.size_le

theorem Abreast.room (h : Abreast f start base k i q done s) : k ≤ s.bean.operations.size := by
  have room := h.frontier.room
  omega

theorem Abreast.later {q' : Nat} (h : Abreast f start base k i q done s) (follows : Follows f s s')
    (learned : s.catalog.Grows s'.catalog) (progress : Progress f base k i q' s') :
    Abreast f start base k i q' done s' where
  toProgress := progress
  toTally := h.toTally.later follows learned
  reached := by rw [h.reached, follows.reaches.grows.parametersBefore_eq h.room]

theorem StopsAt.last {rounds : List (Round P)} {e e' : Error} {r : Round P} (h : StopsAt rounds e)
    (hr : r ∈ rounds) (failed : r.result = .error e') :
    e = e' ∧ rounds.getLast? = some r := by
  rcases h with fine | ⟨earlier, last, rfl, fine, stopped⟩
  · cases (fine r hr).symm.trans failed
  rcases List.mem_append.mp hr with before | at_
  · cases (fine r before).symm.trans failed
  · obtain rfl := List.mem_singleton.mp at_
    exact ⟨Except.error.inj (stopped.symm.trans failed), List.getLast?_concat ..⟩

def Advances {α : Type} {step : ScanM P α} (rounds : Rounds step) (f : ScanFrame P)
    (start : Catalog) (base : Nat) (done : List (Round P)) (s : Scan P)
    (ok : α → List (Round P) → Scan P → Prop) : Prop :=
  Ends step s (fun a s' => ok a (done ++ rounds s) s') fun _ s' =>
    Tally f start base (done ++ rounds s) s'

section Steps

variable {α β : Type} {step : ScanM P α} {next : α → ScanM P β}

theorem Advances.mono {rounds : Rounds step} {ok ok' : α → List (Round P) → Scan P → Prop}
    (h : rounds.Advances f start base done s ok) (hok : ∀ a done s, ok a done s → ok' a done s) :
    rounds.Advances f start base done s ok' :=
  Ends.mono h (fun _ _ ha => hok _ _ _ ha) fun _ _ he => he

theorem Advances.bind {first : Rounds step} {rest : ∀ a, Rounds (next a)}
    {ok : α → List (Round P) → Scan P → Prop} {ok' : β → List (Round P) → Scan P → Prop}
    (h : first.Advances f start base done s ok)
    (hn : ∀ a done s, ok a done s → (rest a).Advances f start base done s ok') :
    (Rounds.bind first rest).Advances f start base done s ok' := by
  rcases Ends.cases h with ⟨a, s', ran, ha⟩ | ⟨e, s', ran, tally⟩
  · have rounds : done ++ Rounds.bind first rest s = (done ++ first s) ++ rest a s' := by
      rw [Rounds.bind, ran, List.append_assoc]
    unfold Advances
    rw [ends_bind, ends_of_ok ran, rounds]
    exact hn a _ s' ha
  · have rounds : Rounds.bind first rest s = first s := by rw [Rounds.bind, ran, List.append_nil]
    unfold Advances
    rw [ends_bind, ends_of_error ran, rounds]
    exact tally

theorem Advances.ite {c : Prop} [Decidable c] {step' : ScanM P α} {r : Rounds step}
    {r' : Rounds step'} {ok : α → List (Round P) → Scan P → Prop}
    (h : r.Advances f start base done s ok) (h' : r'.Advances f start base done s ok) :
    (Rounds.ite r r' : Rounds (if c then step else step')).Advances f start base done s ok := by
  unfold Advances Rounds.ite
  by_cases hc : c
  · simp only [if_pos hc]
    exact h
  · simp only [if_neg hc]
    exact h'

theorem advances_pure {a : α} {ok : α → List (Round P) → Scan P → Prop} (h : ok a done s) :
    (none : Rounds (pure a : ScanM P α)).Advances f start base done s ok := by
  show ok a (done ++ []) s
  rw [List.append_nil]
  exact h

theorem advances_throw {e : Error} {ok : α → List (Round P) → Scan P → Prop}
    (h : Tally f start base done s) :
    (none : Rounds (throw e : ScanM P α)).Advances f start base done s ok := by
  show Tally f start base (done ++ []) s
  rw [List.append_nil]
  exact h

/-- A step in which nothing is resolved leaves the rounds as far as they have come. -/
theorem Abreast.keeps {ok : α → Scan P → Prop} (h : Abreast f start base k i q done s)
    (leads : Leads f s step ok) (learns : Learns step) :
    (none : Rounds step).Advances f start base done s fun a done' s' => ok a s' ∧
      ∀ q', Progress f base k i q' s' → Abreast f start base k i q' done' s' := by
  have nothing : done ++ (none : Rounds step) s = done := List.append_nil done
  unfold Advances
  rw [nothing]
  apply (Ends.and leads (learns s)).mono
  · rintro a s' ⟨⟨follows, ha⟩, learned⟩
    exact ⟨ha, fun q' progress => h.later follows learned progress⟩
  · rintro _ s' ⟨follows, learned⟩
    exact h.toTally.later follows learned

theorem Abreast.silent (h : Abreast f start base k i q done s) (silent : Silent step)
    (learns : Learns step) : (none : Rounds step).Advances f start base done s fun _ done' s' =>
      Quiet s s' ∧ Abreast f start base k i q done' s' :=
  (h.keeps (silent.leads f s) learns).mono fun _ _ _ ⟨quiet, keep⟩ =>
    ⟨quiet, keep q (quiet.progress h.toProgress)⟩

end Steps

section Resolving

/-- The round of the parameter at the frontier. -/
theorem Abreast.one {op : Operation P} {parameter : Parameter P}
    (h : Abreast f start base k i q done s) (found : s.bean.operation? k = some op)
    (atFrontier : op.params[i]? = some parameter) :
    (one f k i parameter).Advances f start base done s fun _ done' s' =>
      Follows f s s' ∧ Abreast f start base k (i + 1) q done' s' := by
  let r : Round P := ⟨f, k, i, parameter, s⟩
  have due : ∀ r' ∈ done ++ [r],
      r'.frame = f ∧ start.Grows r'.before.catalog ∧ ∃ op, r'.Due op := by
    rw [List.forall_mem_append, List.forall_mem_singleton]
    exact ⟨h.due, rfl, h.learned, op, found, h.linked.id_eq k op found, atFrontier,
      h.frontier.ready found i (Nat.le_refl i)⟩
  have room := Bean.lt_of_operation? found
  have inBounds : i < s.bean.arity k := by
    rw [Bean.arity_of_some found]
    exact (List.getElem?_eq_some_iff.mp atFrontier).1
  -- The round counts as gone through also where it fails.
  have reached : ∀ {s'}, Follows f s s' →
      (done ++ [r]).map Round.place = s'.bean.parametersBefore base k (i + 1) := by
    intro s' follows
    have grown := follows.reaches.grows
    rw [List.map_append, h.reached, Bean.parametersBefore_succ,
      grown.parametersBefore_eq (Nat.le_of_lt room)]
    rfl
  have tally : ∀ {s'}, Follows f s s' → s.catalog.Grows s'.catalog →
      Tally f start base (done ++ [r]) s' := by
    intro s' follows learned
    have grown := follows.reaches.grows
    refine ⟨due, ?_, h.learned.trans learned, Nat.le_trans h.base_le grown.size_le⟩
    rw [reached follows]
    exact Bean.parametersBefore_within h.frontier.base_le
      (Nat.lt_of_lt_of_le room grown.size_le) (by rw [grown.arity_eq room]; exact inBounds)
  apply (Ends.and (leads_resolveParameter h.toProgress found atFrontier)
    ((learns_consulting f).resolveParameter k i parameter s)).mono
  · rintro _ s' ⟨⟨follows, progress⟩, learned⟩
    exact ⟨follows, progress, tally follows learned, reached follows⟩
  · rintro _ s' ⟨follows, learned⟩
    exact tally follows learned

theorem Abreast.resolveParameters {op : Operation P} {earlier parameters : List (Parameter P)}
    (h : Abreast f start base k i q done s) (found : s.bean.operation? k = some op)
    (left : op.params = earlier ++ parameters) (passed : earlier.length = i) :
    (resolveParameters f k i parameters).Advances f start base done s fun _ done' s' =>
      Abreast f start base (k + 1) 0 q done' s' := by
  induction parameters generalizing i done s op earlier with
  | nil =>
    have ended : op.params.length = i := by rw [left, List.append_nil, passed]
    have stays : Leads f s (pure PUnit.unit) fun _ s' => s' = s := Leads.pure rfl
    apply (h.keeps stays (learns_compositional.pure PUnit.unit)).mono
    rintro _ done' _ ⟨rfl, keep⟩
    have abreast := keep q h.toProgress
    have next := h.frontier.next found (by simpa [Operation.params] using Nat.le_of_eq ended)
    refine ⟨⟨h.linked, h.installer, next⟩, abreast.toTally, ?_⟩
    rw [abreast.reached, Bean.parametersBefore_next h.frontier.base_le,
      Bean.arity_of_some found, ended]
  | cons parameter rest ih =>
    have atFrontier : op.params[i]? = some parameter := by
      rw [left, ← passed]
      simp
    have unbound := h.toProgress.unbound
    apply (h.keeps (reads_bindingAt s k i).leads (learns_compositional.bindingAt k i)).bind
    rintro _ done' _ ⟨⟨rfl, rfl⟩, keep⟩
    rw [unbound]
    apply ((keep q h.toProgress).one found atFrontier).bind
    rintro _ done'' s' ⟨follows, next⟩
    obtain ⟨op', found', grown⟩ := follows.reaches.grows.operations k op found
    have left' : op'.params = (earlier ++ [parameter]) ++ rest := by
      rw [grown.params, left, List.append_assoc]
      rfl
    exact ih next found' left' (by simp [passed])

theorem Abreast.resolveOperation (h : Abreast f start base k 0 q done s) :
    (resolveOperation f k).Advances f start base done s fun _ done' s' =>
      Abreast f start base (k + 1) 0 q done' s' := by
  apply (h.keeps (reads_operationAt f s k).leads (learns_compositional.operationAt f k)).bind
  rintro op done' _ ⟨⟨rfl, found⟩, keep⟩
  exact (keep q h.toProgress).resolveParameters found (List.nil_append _).symm rfl

def Finished (f : ScanFrame P) (start : Catalog) (base : Nat) (done : List (Round P)) (s : Scan P) :
    Prop :=
  Abreast f start base s.bean.operations.size 0 s.bean.operations.size done s

/-- If nothing waits, the frontier is behind the last operation. -/
theorem Abreast.dequeue (h : Abreast f start base k 0 k done s) :
    (none : Rounds (dequeue (P := P))).Advances f start base done s fun taken done' s' =>
      taken = .none ∧ Finished f start base done' s' ∨
        taken = some k ∧ Abreast f start base k 0 (k + 1) done' s' := by
  have leads := leads_dequeue h.toProgress
  have queue := h.frontier.queue_eq
  have le := h.frontier.q_le
  unfold Advances
  rw [show done ++ (none : Rounds (Scan.dequeue (P := P))) s = done from List.append_nil done]
  rcases waiting : s.queue with _ | ⟨id, rest⟩
  · have run : Scan.dequeue s = (.ok .none, s) := by
      unfold Scan.dequeue
      rw [get_bind_apply, waiting]
      rfl
    rw [waiting, eq_comm, List.range'_eq_nil_iff] at queue
    have last : k = s.bean.operations.size := by omega
    have finished : Finished f start base done s := by
      unfold Finished
      rw [← last]
      exact h
    rw [ends_of_ok run]
    exact .inl ⟨rfl, finished⟩
  · have run : Scan.dequeue s = (.ok (some id), { s with queue := rest }) := by
      unfold Scan.dequeue
      rw [get_bind_apply, waiting]
      rfl
    rw [ends_of_ok run]
    obtain ⟨follows, ⟨taken, -⟩ | ⟨taken, progress⟩⟩ := leads.of_ok run
    · cases taken
    · exact .inr ⟨taken, h.later follows (.refl _) progress⟩

theorem Abreast.drainWithin (remaining : Nat) (h : Abreast f start base k 0 k done s) :
    (drainWithin f remaining).Advances f start base done s fun _ => Finished f start base := by
  induction remaining generalizing k done s with
  | zero =>
    apply h.dequeue.bind
    rintro taken done' s' (⟨rfl, finished⟩ | ⟨rfl, abreast⟩)
    · exact advances_pure finished
    · exact advances_throw abreast.toTally
  | succ remaining ih =>
    apply h.dequeue.bind
    rintro taken done' s' (⟨rfl, finished⟩ | ⟨rfl, abreast⟩)
    · exact advances_pure finished
    · have spends : Silent (spend (P := P)) := silent_modify fun _ => ⟨rfl, rfl, rfl⟩
      have learns : Learns (spend (P := P)) := learns_modify fun _ => rfl
      apply (abreast.silent spends learns).bind
      rintro _ done₁ s₁ ⟨-, h₁⟩
      apply (h₁.silent (silent_record (by simp)) (learns_record _)).bind
      rintro _ done₂ s₂ ⟨-, h₂⟩
      apply h₂.resolveOperation.bind
      intro _ done₃ s₃ h₃
      exact ih h₃

theorem Abreast.drain (h : Abreast f start base k 0 k done s) :
    (drain f).Advances f start base done s fun _ => Finished f start base := by
  apply (h.silent silent_get learns_compositional.get).bind
  rintro s₀ done' s' ⟨-, h'⟩
  exact h'.drainWithin s₀.remaining

end Resolving

section Members

theorem Abreast.scanConstructor (h : Abreast f start base k 0 k done s) :
    (scanConstructor f s.bean.descriptor).Advances f start base done s fun _ =>
      Finished f start base := by
  have selects : Reads s (liftM s.bean.descriptor.selectConstructor) fun constructor =>
      s.bean.descriptor.selectConstructor = .ok constructor :=
    reads_except fun _ selected => selected
  apply (h.keeps selects.leads (learns_except _)).bind
  rintro constructor done₁ _ ⟨⟨rfl, selected⟩, keep₁⟩
  apply ((keep₁ _ h.toProgress).keeps (reads_nextId _).leads learns_compositional.nextId).bind
  rintro _ done₂ _ ⟨⟨rfl, rfl⟩, keep₂⟩
  have appended := (atomic_append h.toProgress (.constructor selected)).leads
  apply ((keep₂ _ h.toProgress).keeps (Leads.discard appended)
    (learns_compositional.discard (learns_append _))).bind
  rintro _ done₃ s₃ ⟨⟨progress, -⟩, keep₃⟩
  exact (keep₃ _ progress).drain

/-- Members are matched one after another, and nothing is resolved while they are. -/
theorem Abreast.forM {α : Type} {visit : α → ScanM P Unit}
    (h : Abreast f start base k 0 k done s)
    (leads : ∀ member s, Progress f base k 0 k s →
      Leads f s (visit member) fun _ => Progress f base k 0 k)
    (learns : ∀ member, Learns (visit member)) (members : List α) :
    (none : Rounds (members.forM visit)).Advances f start base done s fun _ =>
      Abreast f start base k 0 k := by
  have walk : Leads f s (members.forM visit) fun _ => Progress f base k 0 k :=
    Leads.forM h.toProgress fun member _ s' hs => leads member s' hs
  apply (h.keeps walk (learns_compositional.forM fun member _ => learns member)).mono
  rintro _ done' s' ⟨progress, keep⟩
  exact keep k progress

theorem Finished.scanMembers (h : Finished f start base done s) (c : ClassDescriptor P) :
    (scanMembers f c).Advances f start base done s fun _ => Finished f start base := by
  apply (Abreast.forM h (fun declared _ hs => leads_matchField declared hs)
    (learns_consulting f).matchField c.fieldWalk).bind
  intro _ done₁ s₁ fields
  apply (fields.forM (fun declared _ hs => leads_matchMethod declared hs)
    (learns_consulting f).matchMethod c.methodWalk).bind
  intro _ done₂ s₂ methods
  exact methods.drain

/-- The end of the scan adds no operation. -/
theorem Finished.close (h : Finished f start base done s) :
    (none : Rounds (closing (P := P))).Advances f start base done s fun _ =>
      Finished f start base := by
  have leads : Leads f s closing fun _ s' =>
      s'.bean.operations = s.bean.operations ∧ Settled f base s' := by
    have kept : Ends closing s (fun _ s' => s'.bean.operations = s.bean.operations)
        fun _ _ => True := by
      unfold closing
      rw [ends_bind, ends_get, ends_bind]
      exact ((silent_activating.finish s.contributors) s).mono
        (fun _ s' quiet => (congrArg Bean.operations quiet.bean :
          s'.bean.operations = s.bean.operations)) fun _ _ _ => trivial
    exact (Ends.and (leads_finish h.toProgress) kept).mono
      (fun _ _ ⟨⟨follows, settled⟩, same⟩ => ⟨follows, same, settled⟩) fun _ _ h => h.1
  have learns : Learns (closing (P := P)) :=
    learns_compositional.get.bind fun s =>
      (learns_activating.finish s.contributors).bind fun _ => learns_modify fun _ => rfl
  apply (Abreast.keeps h leads learns).mono
  rintro _ done' s' ⟨⟨same, settled⟩, keep⟩
  rw [Settled, same] at settled
  have finished := keep _ settled
  rw [← same] at finished
  exact finished

/-- The rounds of a scan of which the frame is known. -/
theorem Finished.scanWith (h : Finished f start base done s) :
    (scanWith f s.bean).Advances f start base done s fun _ => Finished f start base := by
  have markers := Abreast.silent h (silent_activating.checkClassMarkers f s.bean.descriptor)
    (learns_compositional.checkClassMarkers f s.bean.descriptor)
  have operations : (scanOperations f s.bean).Advances f start base done s fun _ =>
      Finished f start base := by
    apply markers.bind
    rintro _ done' s' ⟨quiet, h'⟩
    have start' : Finished f start base done' s' := by
      unfold Finished
      rw [quiet.bean]
      exact h'
    have constructed : (Rounds.ite (scanConstructor f s.bean.descriptor) none :
        Rounds (if s.bean.source.isConstruction then
          Scan.scanConstructor f s.bean.descriptor else pure ⟨⟩)).Advances f start base done' s'
          fun _ => Finished f start base := by
      have made := Abreast.scanConstructor start'
      rw [quiet.bean] at made
      exact made.ite (advances_pure start')
    apply constructed.bind
    intro _ done'' s'' finished
    exact finished.scanMembers s.bean.descriptor
  have whole : (Rounds.bind (scanOperations f s.bean) fun _ => none).Advances f start base done s
      fun _ => Finished f start base := operations.bind fun _ _ _ finished => finished.close
  unfold Advances
  rw [scanWith_closing]
  exact whole

def frame? (host : Host P) (s : Scan P) : Except Error (ScanFrame P) :=
  (Catalog.modelFor s.world s.bean.descriptor s.catalog).1.map fun model =>
    ⟨host, model, s.bean.type, s.bean.installer⟩

structure Covers (host : Host P) (s s' : Scan P) (rounds : List (Round P)) : Prop where
  due : ∀ r ∈ rounds, frame? host s = .ok r.frame ∧ s.catalog.Grows r.before.catalog ∧
    ∃ op, r.Due op
  within : rounds.map Round.place <+: s'.bean.parametersFrom s.bean.operations.size

theorem covers_nil (host : Host P) (s s' : Scan P) : Covers host s s' [] where
  due := List.forall_mem_nil _
  within := List.nil_prefix

theorem Tally.covers {host : Host P} (known : frame? host s = .ok f)
    (h : Tally f s.catalog s.bean.operations.size done s') : Covers host s s' done where
  due := fun r hr => by
    obtain ⟨rfl, learned, due⟩ := h.due r hr
    exact ⟨known, learned, due⟩
  within := h.within

/-- Before anything is resolved. -/
theorem finished_begin (linked : s.bean.Linked) (installer : s.bean.installer = f.installer)
    (queue : s.queue = []) (learned : start.Grows s.catalog) :
    Finished f start s.bean.operations.size [] s where
  toProgress := settled_begin linked installer queue
  due := List.forall_mem_nil _
  within := List.nil_prefix
  learned := learned
  base_le := Nat.le_refl _
  reached := (Bean.parametersBefore_self s.bean _).symm

def looks (s : Scan P) : ScanM P HookModel :=
  withCatalog fun w => Catalog.modelFor w s.bean.descriptor

theorem scanBean_of_scanned (host : Host P) (scanned : s.bean.scanned = true) :
    scanBean host s = [] := by
  show [] ++ (if s.bean.scanned = true then [] else _) = []
  rw [if_pos scanned, List.append_nil]

theorem scanBean_of_fresh (host : Host P) (fresh : ¬s.bean.scanned = true) :
    scanBean host s = match (looks s s : Except Error HookModel × Scan P) with
      | (.ok model, s') => scanWith ⟨host, model, s.bean.type, s.bean.installer⟩ s.bean s'
      | (.error _, _) => [] := by
  show [] ++ (if s.bean.scanned = true then [] else [] ++ _) = _
  rw [if_neg fresh, List.nil_append, List.nil_append]
  unfold looks
  rcases (withCatalog (fun w => Catalog.modelFor w s.bean.descriptor) s :
    Except Error HookModel × Scan P) with ⟨_ | _, _⟩ <;> rfl

theorem frame?_of_looks {model : HookModel} (host : Host P) (ran : looks s s = (.ok model, s')) :
    frame? host s = .ok ⟨host, model, s.bean.type, s.bean.installer⟩ := by
  have result := congrArg Prod.fst (Eq.symm (withCatalog_apply _ s) |>.trans ran)
  dsimp only at result
  rw [frame?, result]
  rfl

/-- A scan that succeeds has resolved all parameters of the operations that it made, in order and
each of them once. -/
theorem covers_scanBean (host : Host P) (linked : s.bean.Linked) (queue : s.queue = []) :
    Ends (Scan.scanBean host) s
      (fun _ s' => Covers host s s' (scanBean host s) ∧
        (scanBean host s).map Round.place = s'.bean.parametersFrom s.bean.operations.size)
      fun _ s' => Covers host s s' (scanBean host s) := by
  by_cases scanned : s.bean.scanned = true
  · rw [ends_of_error (scanBean_refused host scanned), scanBean_of_scanned host scanned]
    exact covers_nil host s s
  apply ends_scanBean_of
  · exact fun refused => absurd refused scanned
  have learns : Learns (looks s) :=
    learns_compositional.withCatalog fun w => Catalog.confined_modelFor w s.bean.descriptor
  have silent : Silent (looks s) := silent_withCatalog _
  rw [scanBean_of_fresh host scanned]
  rcases (Ends.traced ((silent s).and (learns s))).cases with
    ⟨model, s', ran, ⟨quiet, learned⟩, -⟩ | ⟨e, s', ran, -⟩
  · have known := frame?_of_looks host ran
    rw [ran]
    show Ends (looks s) s _ _
    rw [ends_of_ok ran]
    have first := finished_begin (f := ⟨host, model, s.bean.type, s.bean.installer⟩)
      (quiet.bean ▸ linked) (by rw [quiet.bean]) (quiet.queue.trans queue) learned
    have scans := first.scanWith
    rw [quiet.bean] at scans
    apply Ends.mono scans
    · intro _ last finished
      exact ⟨finished.toTally.covers known, finished.reached⟩
    · intro _ last tally
      exact tally.covers known
  · rw [ran]
    show Ends (looks s) s _ _
    rw [ends_of_error ran]
    exact covers_nil host s s'

end Members

end Rounds

end Scan

namespace Attempt

def rounds (a : Attempt P) (b : Bean P) : List (Scan.Round P) :=
  Scan.Rounds.scanBean a.deployment.container.host (a.deployment.beginScan b a.preset)

/-- Every parameter is bound by whom it is for to bind it, and the scan ends with the first of them
that is not bound. -/
structure Prioritizes (a : Attempt P) (b : Bean P) : Prop where
  /-- Hooks are looked up with the model of the class, and types as the container knows them. -/
  frame : ∀ r ∈ a.rounds b, Scan.Rounds.frame? a.deployment.container.host
    (a.deployment.beginScan b a.preset) = .ok r.frame
  types : ∀ r ∈ a.rounds b, ∀ type,
    r.before.catalog.typeHook? type = a.deployment.container.catalog.typeHook? type
  prioritized : ∀ r ∈ a.rounds b, ∃ op, r.Due op ∧ ∀ hits looked,
    Scan.hitsOf r.frame r.parameter.markers r.before = (.ok hits, looked) →
      r.Prioritized op hits looked
  requests : requestsOf (a.run b).2.calls.toList =
    (a.rounds b).flatMap fun r => requestsOf r.calls
  failed : ∀ r ∈ a.rounds b, ∀ e, r.result = .error e →
    (a.run b).1 = .error e ∧ (a.rounds b).getLast? = some r
  once : ((a.rounds b).map Scan.Round.place).Nodup
  within : (a.rounds b).map Scan.Round.place <+:
    (a.run b).2.bean.parametersFrom b.operations.size
  all : (a.run b).1 = .ok ⟨⟩ → (a.rounds b).map Scan.Round.place =
    (a.run b).2.bean.parametersFrom b.operations.size

/-- A binding marker comes before a type hook, and a type hook before a service, for every parameter
of every scan, whatever handlers do. -/
theorem prioritizes_run (earlier : List (Attempt P)) (a : Attempt P) (c : ClassDescriptor P)
    (source : Source P) (installer : Party) :
    a.Prioritizes (after earlier (.fresh c source installer)) := by
  have linked := (linked_after earlier (b := .fresh c source installer) (.of_empty rfl)).2
  generalize after earlier (.fresh c source installer) = b at linked ⊢
  let host := a.deployment.container.host
  let start := a.deployment.beginScan b a.preset
  have ends : Ends (Scan.scanBean host) start (fun _ s' => Scan.Rounds.Covers host start s'
      (a.rounds b) ∧ (a.rounds b).map Scan.Round.place = s'.bean.parametersFrom b.operations.size)
      fun _ s' => Scan.Rounds.Covers host start s' (a.rounds b) :=
    Scan.Rounds.covers_scanBean host linked rfl
  have tells : Ends (Scan.scanBean host) start (fun _ s' => Scan.Rounds.Requested (a.rounds b)
      start s' ∧ ∀ r ∈ a.rounds b, r.result = .ok ⟨⟩) fun e s' =>
        Scan.Rounds.Requested (a.rounds b) start s' ∧ Scan.Rounds.StopsAt (a.rounds b) e :=
    Scan.Rounds.tells_scanBean host start
  have covers : Scan.Rounds.Covers host start (a.run b).2 (a.rounds b) :=
    Ends.state (Scan.Rounds.Covers host start · (a.rounds b))
      (ends.mono (fun _ _ h => h.1) fun _ _ h => h)
  have requested : Scan.Rounds.Requested (a.rounds b) start (a.run b).2 :=
    Ends.state (Scan.Rounds.Requested (a.rounds b) start ·)
      (tells.mono (fun _ _ h => h.1) fun _ _ h => h.1)
  have failed : ∀ r ∈ a.rounds b, ∀ e, r.result = .error e →
      (a.run b).1 = .error e ∧ (a.rounds b).getLast? = some r := by
    intro r hr e failed
    rcases result : (a.run b).1 with e' | _
    · obtain ⟨rfl, last⟩ := (tells.of_error (Prod.ext result rfl)).2.last hr failed
      exact ⟨rfl, last⟩
    · cases ((tells.of_ok (Prod.ext result rfl)).2 r hr).symm.trans failed
  exact {
    frame := fun r hr => (covers.due r hr).1
    types := fun r hr => Scan.typeHook?_of_grows (covers.due r hr).2.1
    prioritized := fun r hr =>
      let ⟨op, due⟩ := (covers.due r hr).2.2
      ⟨op, due, fun _ _ => Scan.Round.prioritized due⟩
    requests := requested
    failed := failed
    once := covers.within.sublist.nodup (Bean.parametersFrom_nodup _ _)
    within := covers.within
    all := fun ok => (ends.of_ok (Prod.ext ok rfl)).2 }

end Attempt

/-- The one parameter of the constructor. -/
example : ((Attempt.mk .empty none).rounds (.fresh .cart .construction .application)).map
    Scan.Round.place = [(0, 0)] := rfl

end Injector

import Injector.Proofs.Scan.Kinds
import Injector.Proofs.Scan.Farewell
import Injector.Proofs.Scan.Priority

/-!
# The rounds of a scan

Every parameter that is resolved, in order, with the state in which it is taken up. Handlers are
asked for bindings in these rounds alone, and a round that fails is the last.
-/

set_option autoImplicit false

namespace Injector

variable {P : Platform}

namespace Scan

def closing : ScanM P PUnit := do
  finish (← get).contributors
  modify fun s => { s with bean := { s.bean with scanned := true } }

theorem scanWith_closing (f : ScanFrame P) (bean : Bean P) :
    scanWith f bean = scanOperations f bean >>= fun _ => closing := scanWith_eq f bean

def Rounds {α : Type} (_step : ScanM P α) : Type := Scan P → List (Round P)

namespace Rounds

def none {α : Type} {step : ScanM P α} : Rounds step := fun _ => []

def one (f : ScanFrame P) (id : OperationId) (index : Nat) (parameter : Parameter P) :
    Rounds (Scan.resolveParameter f id index parameter) := fun s => [⟨f, id, index, parameter, s⟩]

def bind {α β : Type} {step : ScanM P α} {next : α → ScanM P β} (first : Rounds step)
    (rest : ∀ a, Rounds (next a)) : Rounds (step >>= next) := fun s =>
  first s ++ match (step s : Except Error α × Scan P) with
    | (.ok a, s') => rest a s'
    | (.error _, _) => []

def same {α : Type} {step step' : ScanM P α} (_h : step = step') (rounds : Rounds step) :
    Rounds step' := rounds

def ite {α : Type} {c : Prop} [Decidable c] {step step' : ScanM P α} (r : Rounds step)
    (r' : Rounds step') : Rounds (if c then step else step') := fun s => if c then r s else r' s

variable (f : ScanFrame P)

def resolveParameters (id : OperationId) : (index : Nat) → (parameters : List (Parameter P)) →
    Rounds (Scan.resolveParameters f id index parameters)
  | _, [] => none
  | index, parameter :: rest => bind none fun
    | some _ => resolveParameters id (index + 1) rest
    | .none => bind (one f id index parameter) fun _ => resolveParameters id (index + 1) rest

def resolveOperation (id : OperationId) : Rounds (Scan.resolveOperation f id) :=
  bind none fun op => resolveParameters f id 0 op.params

def drainWithin : (remaining : Nat) → Rounds (Scan.drainWithin f remaining)
  | 0 => bind none fun _ => none
  | remaining + 1 => bind none fun
    | .none => none
    | some id => bind none fun _ => bind none fun _ => bind (resolveOperation f id) fun _ =>
      drainWithin remaining

def drain : Rounds (Scan.drain f) := bind none fun s => drainWithin f s.remaining

def scanConstructor (c : ClassDescriptor P) : Rounds (Scan.scanConstructor f c) :=
  bind none fun _ => bind none fun _ => bind none fun _ => drain f

def scanMembers (c : ClassDescriptor P) : Rounds (Scan.scanMembers f c) :=
  bind none fun _ => bind none fun _ => drain f

def scanOperations (bean : Bean P) : Rounds (Scan.scanOperations f bean) :=
  bind none fun _ => bind (ite (scanConstructor f bean.descriptor) none) fun _ =>
    scanMembers f bean.descriptor

def scanWith (bean : Bean P) : Rounds (Scan.scanWith f bean) :=
  same (scanWith_closing f bean).symm (bind (scanOperations f bean) fun _ => none)

def scanBean (host : Host P) : Rounds (Scan.scanBean host) :=
  bind none fun s => ite none (bind none fun _ => scanWith _ s.bean)

end Rounds

def requests (s : Scan P) : List (Call P) := requestsOf s.calls.toList

def Mute {α : Type} (step : ScanM P α) : Prop :=
  ∀ s, Ends step s (fun _ s' => s'.requests = s.requests) fun _ s' => s'.requests = s.requests

section Muteness

variable {α β : Type} {f : ScanFrame P} {step : ScanM P α}

theorem mute_compositional : Compositional (@Mute P) := omits_compositional ScanEvent.isRequest

theorem Mute.bind {next : α → ScanM P β} (h : Mute step) (hn : ∀ a, Mute (next a)) :
    Mute (step >>= next) := mute_compositional.bind h hn

theorem Hush.mute (h : Hush (fun _ => True) step) : Mute step := h.omits

theorem mute_matchField (f : ScanFrame P) (declared : DeclaredField P) :
    Mute (matchField f declared) := by
  apply omits_of_attends f fun s => attends_matchField (upheld_true f) trivial declared
  intro calls shown call at_
  have told := shown call at_
  cases event : call.event <;>
    simp [event, ScanEvent.isStart, ScanEvent.field?, ScanEvent.isRequest] at told ⊢

theorem mute_matchMethod (f : ScanFrame P) (declared : DeclaredMethod P) :
    Mute (matchMethod f declared) := by
  apply omits_of_attends f fun s => attends_matchMethod (upheld_true f)
    (fun _ _ _ _ _ _ => trivial) trivial declared
  intro calls shown call at_
  have told := shown call at_
  cases event : call.event <;>
    simp [event, ScanEvent.isStart, ScanEvent.isMethod, ScanEvent.isRequest] at told ⊢

theorem mute_append (op : Operation P) : Mute (append op) := omits_append op

theorem mute_finish (contributors : List (Contributor P)) : Mute (finish contributors) :=
  omits_finish (fun _ => rfl) contributors

end Muteness

namespace Rounds

/-- How a step that goes through these rounds fails: the last of them failed so, or none did. -/
def StopsAt (rounds : List (Round P)) (e : Error) : Prop :=
  (∀ r ∈ rounds, r.result = .ok ⟨⟩) ∨
    ∃ earlier last, rounds = earlier ++ [last] ∧ (∀ r ∈ earlier, r.result = .ok ⟨⟩) ∧
      last.result = .error e

def Requested (rounds : List (Round P)) (s s' : Scan P) : Prop :=
  s'.requests = s.requests ++ rounds.flatMap fun r => requestsOf r.calls

section Telling

variable {rounds later : List (Round P)} {s s' s'' : Scan P} {e : Error}

theorem Requested.append (h : Requested rounds s s') (k : Requested later s' s'') :
    Requested (rounds ++ later) s s'' := by
  rw [Requested, k, h, List.flatMap_append, List.append_assoc]

theorem StopsAt.append (all : ∀ r ∈ rounds, r.result = .ok ⟨⟩) (h : StopsAt later e) :
    StopsAt (rounds ++ later) e := by
  rcases h with fine | ⟨earlier, last, rfl, fine, failed⟩
  · exact .inl (List.forall_mem_append.mpr ⟨all, fine⟩)
  · exact .inr ⟨rounds ++ earlier, last, by rw [List.append_assoc],
      List.forall_mem_append.mpr ⟨all, fine⟩, failed⟩

def Tells {α : Type} {step : ScanM P α} (rounds : Rounds step) : Prop :=
  ∀ s, Ends step s (fun _ s' => Requested (rounds s) s s' ∧ ∀ r ∈ rounds s, r.result = .ok ⟨⟩)
    fun e s' => Requested (rounds s) s s' ∧ StopsAt (rounds s) e

variable {α β : Type} {step step' : ScanM P α} {next : α → ScanM P β}

theorem tells_none (h : Mute step) : (none : Rounds step).Tells := by
  intro s
  have requested : ∀ {s' : Scan P}, s'.requests = s.requests → Requested [] s s' := by
    intro s' same
    rw [Requested, same, List.flatMap_nil, List.append_nil]
  exact (h s).mono (fun _ _ same => ⟨requested same, by simp [none]⟩)
    fun _ _ same => ⟨requested same, .inl (by simp [none])⟩

theorem Tells.bind {first : Rounds step} {rest : ∀ a, Rounds (next a)} (h : first.Tells)
    (hn : ∀ a, (rest a).Tells) : (bind first rest).Tells := by
  intro s
  rcases (h s).cases with ⟨a, s', ran, requested, fine⟩ | ⟨e, s', ran, requested, stops⟩
  · have rounds : Rounds.bind first rest s = first s ++ rest a s' := by rw [Rounds.bind, ran]
    rw [ends_bind, ends_of_ok ran, rounds]
    apply (hn a s').mono
    · exact fun _ _ later => ⟨requested.append later.1, List.forall_mem_append.mpr ⟨fine, later.2⟩⟩
    · exact fun _ _ later => ⟨requested.append later.1, later.2.append fine⟩
  · have rounds : Rounds.bind first rest s = first s := by rw [Rounds.bind, ran, List.append_nil]
    rw [ends_bind, ends_of_error ran, rounds]
    exact ⟨requested, stops⟩

/-- A step before which nothing is resolved. -/
theorem tells_after {rest : ∀ a, Rounds (next a)} (h : Mute step) (hn : ∀ a, (rest a).Tells) :
    (Rounds.bind (none : Rounds step) rest).Tells := (tells_none h).bind hn

theorem Tells.ite {c : Prop} [Decidable c] {r : Rounds step} {r' : Rounds step'} (h : r.Tells)
    (h' : r'.Tells) : (Rounds.ite r r' : Rounds (if c then step else step')).Tells := by
  intro s
  by_cases hc : c
  · have rounds : (Rounds.ite r r' : Rounds (if c then step else step')) s = r s := if_pos hc
    rw [if_pos hc, rounds]
    exact h s
  · have rounds : (Rounds.ite r r' : Rounds (if c then step else step')) s = r' s := if_neg hc
    rw [if_neg hc, rounds]
    exact h' s

variable (f : ScanFrame P)

theorem tells_one (id index : Nat) (parameter : Parameter P) :
    (one f id index parameter).Tells := by
  intro s
  let r : Round P := ⟨f, id, index, parameter, s⟩
  have attends : Attentive f (fun _ => True) (Scan.resolveParameter f id index parameter) :=
    (attentive_compositional f _).resolveParameter (attentive_delegate (upheld_true f))
      (fun op index parameter => (hush_bindToService (upheld_true f) op index parameter).attentive)
      id index parameter
  have requested : ∀ {s' calls}, Spans (fun _ => True) s calls s' → r.after = s' →
      Requested [r] s s' := by
    intro s' calls spans after
    have since : r.calls = calls := by
      rw [Round.calls, after, spans.calls]
      simp [r]
    rw [Requested, requests, spans.calls, requestsOf_append, List.flatMap_singleton, since]
    rfl
  rcases (Ends.traced (attends s trivial)).cases with
    ⟨_, s', ran, ⟨calls, spans, -⟩, -⟩ | ⟨e, s', ran, ⟨calls, spans, -⟩, -⟩
  · have run : r.run = (.ok ⟨⟩, s') := ran
    rw [ends_of_ok ran]
    exact ⟨requested spans (congrArg Prod.snd run),
      List.forall_mem_singleton.mpr (congrArg Prod.fst run)⟩
  · have run : r.run = (.error e, s') := ran
    rw [ends_of_error ran]
    exact ⟨requested spans (congrArg Prod.snd run),
      .inr ⟨[], r, rfl, List.forall_mem_nil _, congrArg Prod.fst run⟩⟩

theorem tells_resolveParameters (id : Nat) (parameters : List (Parameter P)) (index : Nat) :
    (resolveParameters f id index parameters).Tells := by
  induction parameters generalizing index with
  | nil => exact tells_none (mute_compositional.pure _)
  | cons parameter rest ih =>
    apply tells_after (mute_compositional.bindingAt id index)
    intro binding
    cases binding with
    | some _ => exact ih (index + 1)
    | none => exact (tells_one f id index parameter).bind fun _ => ih (index + 1)

theorem tells_resolveOperation (id : Nat) : (resolveOperation f id).Tells :=
  tells_after (mute_compositional.operationAt f id) fun op =>
    tells_resolveParameters f id op.params 0

theorem tells_drain : (drain f).Tells := by
  have within : ∀ remaining, (drainWithin f remaining).Tells := by
    intro remaining
    induction remaining with
    | zero =>
      apply tells_after hush_dequeue.mute
      intro taken
      cases taken with
      | none => exact tells_none (mute_compositional.pure _)
      | some id => exact tells_none (hush_throw _).mute
    | succ remaining ih =>
      apply tells_after hush_dequeue.mute
      intro taken
      cases taken with
      | none => exact tells_none (mute_compositional.pure _)
      | some id =>
        exact tells_after hush_spend.mute fun _ => tells_after (hush_record rfl).mute fun _ =>
          (tells_resolveOperation f id).bind fun _ => ih
  exact tells_after hush_get.mute fun s => within s.remaining

theorem tells_scanConstructor (c : ClassDescriptor P) : (scanConstructor f c).Tells :=
  tells_after (hush_except _).mute fun _ => tells_after mute_compositional.nextId fun _ =>
    tells_after (mute_compositional.discard (mute_append _)) fun _ => tells_drain f

theorem tells_scanMembers (c : ClassDescriptor P) : (scanMembers f c).Tells :=
  tells_after (mute_compositional.forM fun declared _ => mute_matchField f declared) fun _ =>
    tells_after (mute_compositional.forM fun declared _ => mute_matchMethod f declared) fun _ =>
      tells_drain f

theorem tells_scanOperations (bean : Bean P) : (scanOperations f bean).Tells :=
  tells_after (mute_compositional.checkClassMarkers f bean.descriptor) fun _ =>
    ((tells_scanConstructor f _).ite (tells_none (mute_compositional.pure _))).bind fun _ =>
      tells_scanMembers f _

theorem tells_scanWith (bean : Bean P) : (scanWith f bean).Tells := by
  have closes : Mute (closing (P := P)) :=
    hush_get.mute.bind fun s => (mute_finish s.contributors).bind fun _ => fun _ => rfl
  have tells : (Rounds.bind (scanOperations f bean) fun _ => none).Tells :=
    (tells_scanOperations f bean).bind fun _ => tells_none closes
  intro s
  rw [scanWith_closing]
  exact tells s

theorem tells_scanBean (host : Host P) : (scanBean host).Tells :=
  tells_after hush_get.mute fun s => (tells_none (hush_throw _).mute).ite
    (tells_after (hush_withCatalog _).mute fun _ => tells_scanWith _ s.bean)

end Telling

end Rounds

end Scan

end Injector

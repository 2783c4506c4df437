import Mathlib.Data.Prod.Lex
import Injector.Proofs.Scan.Activation
import Injector.Proofs.Scan.Resolve

/-!
# Which parameters extensions are asked to bind

Operations are resolved in the order of their ids, and each one parameter by parameter, so the slots
that are asked for come in lexicographic order.
-/

set_option autoImplicit false

namespace Injector

variable {P : Platform}

def ScanEvent.slot? : ScanEvent P → Option (Nat ×ₗ Nat)
  | bindingRequested shown => some (toLex (shown.operation.id, shown.index))
  | _ => none

theorem ScanEvent.slot?_of_isStart {event : ScanEvent P} (h : event.isStart = true) :
    event.slot? = none := by
  cases event with
  | started context preset => rfl
  | _ => cases h

def slotsOf (calls : List (Call P)) : List (Nat ×ₗ Nat) := calls.filterMap (·.event.slot?)

theorem slotsOf_append (calls later : List (Call P)) :
    slotsOf (calls ++ later) = slotsOf calls ++ slotsOf later := List.filterMap_append

theorem slotsOf_eq_nil {calls : List (Call P)} (h : ∀ call ∈ calls, call.event.slot? = none) :
    slotsOf calls = [] := List.filterMap_eq_nil_iff.mpr h

namespace Scan

structure Asked (first : Nat ×ₗ Nat) (calls : List (Call P)) : Prop where
  only : ∀ call ∈ calls, call.event.isStart = true ∨ call.event.slot?.isSome = true
  first_le : ∀ slot ∈ slotsOf calls, first ≤ slot
  ordered : (slotsOf calls).Pairwise (· < ·)

structure AskedUpTo (first last : Nat ×ₗ Nat) (calls : List (Call P)) : Prop
    extends Asked first calls where
  lt_last : ∀ slot ∈ slotsOf calls, slot < last

section Slots

variable {first next last : Nat ×ₗ Nat} {calls later : List (Call P)}

theorem slotsOf_starts (h : Starts calls) : slotsOf calls = [] :=
  slotsOf_eq_nil fun call hc => ScanEvent.slot?_of_isStart (h call hc)

theorem AskedUpTo.append (h : AskedUpTo first next calls) (le : first ≤ next)
    (k : Asked next later) : Asked first (calls ++ later) where
  only := List.forall_mem_append.mpr ⟨h.only, k.only⟩
  first_le := by
    rw [slotsOf_append, List.forall_mem_append]
    exact ⟨h.first_le, fun slot hs => le.trans (k.first_le slot hs)⟩
  ordered := by
    rw [slotsOf_append, List.pairwise_append]
    exact ⟨h.ordered, k.ordered, fun slot hs slot' hs' =>
      (h.lt_last slot hs).trans_le (k.first_le slot' hs')⟩

theorem AskedUpTo.trans (h : AskedUpTo first next calls) (k : AskedUpTo next last later)
    (le : first ≤ next) (le' : next ≤ last) : AskedUpTo first last (calls ++ later) where
  toAsked := h.append le k.toAsked
  lt_last := by
    rw [slotsOf_append, List.forall_mem_append]
    exact ⟨fun slot hs => (h.lt_last slot hs).trans_le le', k.lt_last⟩

theorem askedUpTo_starts (h : Starts calls) : AskedUpTo first last calls := by
  have none : slotsOf calls = [] := slotsOf_starts h
  refine ⟨⟨fun call hc => Or.inl (h call hc), ?_, ?_⟩, ?_⟩ <;> simp [none]

theorem askedUpTo_nil : AskedUpTo first last ([] : List (Call P)) := askedUpTo_starts starts_nil

theorem asked_nil : Asked first ([] : List (Call P)) :=
  (askedUpTo_nil : AskedUpTo first first ([] : List (Call P))).toAsked

/-- An extension is asked for one parameter. -/
theorem Shows.asked {request : Contributor P → BindingRequest P} {id index : Nat}
    (h : Shows (fun c => .bindingRequested (request c)) calls)
    (operation : ∀ c, (request c).operation.id = id) (parameter : ∀ c, (request c).index = index) :
    AskedUpTo (toLex (id, index)) (toLex (id, index + 1)) calls := by
  obtain ⟨starts, last, rfl, activates, shown⟩ := h
  have lt : toLex (id, index) < toLex (id, index + 1) := by simp [Prod.Lex.toLex_lt_toLex]
  have started : AskedUpTo (toLex (id, index)) (toLex (id, index)) starts :=
    askedUpTo_starts activates
  apply started.trans _ le_rfl lt.le
  cases last with
  | none => exact askedUpTo_nil
  | some call =>
    have slot : call.event.slot? = some (toLex (id, index)) := by
      rw [shown call rfl, ScanEvent.slot?, operation, parameter]
    have slots : slotsOf [call] = [toLex (id, index)] := by simp [slotsOf, slot]
    refine ⟨⟨by simp [slot], ?_, ?_⟩, ?_⟩
    · simp [slots]
    · simp [slots]
    · simpa [slots] using lt

end Slots

theorem SlotCall.fit_nested {fit : Operation P → Prop}
    (nests : ∀ op, op.parent.isSome = true → fit op) (r : BindingRequest P) (call : SlotCall P) :
    SlotCall.Fit fit r call := by
  cases call with
  | bindFactory owner method =>
    intro id op made
    obtain ⟨-, parent, -⟩ := Operation.fresh_ofFactory made
    exact nests op (by rw [parent]; rfl)
  | bindConstructor owner => exact fun _ _ _ => nests _ rfl
  | _ => trivial

section Steps

variable {f : ScanFrame P} {invariant : Bean P → Prop} {fit : Operation P → Prop}
  {base k index q : Nat} {s : Scan P}

/-- What comes after an extension was asked for a parameter makes no callbacks. -/
theorem attends_delegate (upheld : Upheld f invariant fit)
    (nests : ∀ op, op.parent.isSome = true → fit op) (hb : invariant s.bean) (op : Operation P)
    (index : Nat) (parameter : Parameter P) (extension : ExtensionKey)
    (marker : Option (Marker P)) :
    Attends f invariant s (delegate f op index parameter extension marker)
      (fun _ calls _ => AskedUpTo (toLex (op.id, index)) (toLex (op.id, index + 1)) calls)
      (AskedUpTo (toLex (op.id, index)) (toLex (op.id, index + 1))) := by
  let request : Contributor P → BindingRequest P := fun c =>
    { operation := op, index, parameter, marker, party := f.installer
      context := c.contextFor extension }
  let talk : Contributor P → ScanM P Unit := fun c =>
    tryCatch (converse c (.bindingRequested (request c)) (c.handler.onBinding (request c))
      (answerSlot f (request c))) fun e => throw (e.requiredBy op.target)
  have regroup : delegate f op index parameter extension marker =
      (activate f extension >>= fun c => record (.bindingRequested (request c)) >>= fun _ =>
        talk c) >>= fun _ => bindingAt op.id index >>= fun binding =>
          binding.elim (throw (.bindingNotSet extension op.target index)) fun _ => pure ⟨⟩ := by
    simp only [delegate, bind_assoc]
    refine bind_congr fun c => bind_congr fun _ => bind_congr fun _ => bind_congr fun binding => ?_
    cases binding <;> rfl
  have talks : ∀ c s, invariant s.bean → Ends (talk c) s
      (fun _ s' => Talks invariant c (.bindingRequested (request c)) s s')
      fun _ s' => Talks invariant c (.bindingRequested (request c)) s s' := by
    intro c s hb
    apply ends_tryCatch.mpr
    apply ends_converse _ hb
    exact fun call => local_answerSlot upheld call (SlotCall.fit_nested nests _ call)
  have asks : ∀ calls, Shows (fun c => .bindingRequested (request c)) calls →
      AskedUpTo (toLex (op.id, index)) (toLex (op.id, index + 1)) calls := fun _ shows =>
    shows.asked (fun _ => rfl) fun _ => rfl
  have announced : Attends f invariant s (activate f extension >>= fun c =>
      record (.bindingRequested (request c)) >>= fun _ => talk c)
      (fun _ calls _ => AskedUpTo (toLex (op.id, index)) (toLex (op.id, index + 1)) calls)
      (AskedUpTo (toLex (op.id, index)) (toLex (op.id, index + 1))) :=
    (attends_announce (fun _ => rfl) (fun _ => ⟨rfl, rfl⟩) talks hb).mono
      (fun _ calls _ => asks calls) asks
  rw [regroup]
  apply announced.bind
  intro _ calls s' hb' asked
  apply (reads_bindingAt s' op.id index).bind_attends hb'
  · simpa using asked
  · intro binding _
    cases binding with
    | none => exact Attends.throw hb' (by simpa using asked)
    | some _ => exact Attends.pure hb' (by simpa using asked)

theorem attends_resolveParameter (upheld : Upheld f invariant fit)
    (nests : ∀ op, op.parent.isSome = true → fit op) (hb : invariant s.bean)
    (linked : s.bean.Linked) (id index : Nat) (parameter : Parameter P) :
    Attends f invariant s (resolveParameter f id index parameter)
      (fun _ calls _ => AskedUpTo (toLex (id, index)) (toLex (id, index + 1)) calls)
      (AskedUpTo (toLex (id, index)) (toLex (id, index + 1))) := by
  unfold resolveParameter
  apply (reads_operationAt f s id).bind_attends hb askedUpTo_nil
  intro op found
  obtain rfl : op.id = id := linked.id_eq id op found
  apply ((hush_compositional invariant).bindingHook f _ _ none).bind_attends hb askedUpTo_nil
  intro hit s' hb'
  cases hit with
  | some hit => exact attends_delegate upheld nests hb' op index parameter _ _
  | none =>
    apply hush_get.bind_attends hb' askedUpTo_nil
    intro _ s'' hb''
    split
    next => exact attends_delegate upheld nests hb'' op index parameter _ _
    next =>
      apply ((hush_bindToService upheld op index parameter).attends hb'').mono
      · rintro _ _ _ rfl
        exact askedUpTo_nil
      · rintro _ rfl
        exact askedUpTo_nil

/-- The parameters that are left are those from the frontier on. -/
theorem attends_resolveParameters (upheld : Upheld f invariant fit)
    (nests : ∀ op, op.parent.isSome = true → fit op) {parameters : List (Parameter P)}
    (hb : invariant s.bean) (hs : Progress f base k index q s)
    (hleft : ∃ op, s.bean.operation? k = some op ∧ op.params.drop index = parameters) :
    Attends f invariant s (resolveParameters f k index parameters)
      (fun _ calls _ => AskedUpTo (toLex (k, index)) (toLex (k + 1, 0)) calls)
      (Asked (toLex (k, index))) := by
  induction parameters generalizing index s with
  | nil => exact Attends.pure hb askedUpTo_nil
  | cons parameter rest ih =>
    obtain ⟨op, ho, hd⟩ := hleft
    obtain ⟨hp, hrest⟩ := getElem?_of_drop hd
    unfold resolveParameters
    apply (reads_bindingAt s k index).bind_attends hb asked_nil
    rintro binding bound
    rw [bound, hs.unbound]
    have first := ((attends_resolveParameter upheld nests hb hs.linked k index parameter).mono
      (fun _ _ _ asked => asked) fun _ asked => asked.toAsked).and_leads
        (leads_resolveParameter hs ho hp)
    apply first.bind
    rintro _ calls s' hb' ⟨asked, follows, hs'⟩
    obtain ⟨op', ho', grown⟩ := follows.reaches.grows.operations k op ho
    have later := ih hb' hs' ⟨op', ho', by rw [grown.params, hrest]⟩
    have le : toLex (k, index) ≤ toLex (k, index + 1) := by simp [Prod.Lex.toLex_le_toLex]
    have le' : toLex (k, index + 1) ≤ toLex (k + 1, 0) := by simp [Prod.Lex.toLex_le_toLex]
    exact later.mono (fun _ _ _ asked' => asked.trans asked' le le')
      fun _ asked' => asked.append le asked'

theorem attends_resolveOperation (upheld : Upheld f invariant fit)
    (nests : ∀ op, op.parent.isSome = true → fit op) (hb : invariant s.bean)
    (hs : Progress f base k 0 q s) :
    Attends f invariant s (resolveOperation f k)
      (fun _ calls _ => AskedUpTo (toLex (k, 0)) (toLex (k + 1, 0)) calls)
      (Asked (toLex (k, 0))) := by
  unfold resolveOperation
  apply (reads_operationAt f s k).bind_attends hb asked_nil
  intro op ho
  exact attends_resolveParameters upheld nests hb hs ⟨op, ho, rfl⟩

theorem attends_dequeue (hb : invariant s.bean) (hs : Progress f base k 0 k s) :
    Attends f invariant s dequeue
      (fun taken calls s' => calls = [] ∧ Follows f s s' ∧
        (taken = none ∧ Settled f base s' ∨ taken = some k ∧ Progress f base k 0 (k + 1) s'))
      (Asked (toLex (k, 0))) := by
  have silent :
      Attends f invariant s dequeue (fun _ calls _ => calls = []) (Asked (toLex (k, 0))) :=
    (hush_dequeue.attends hb).mono (fun _ _ _ none => none) fun _ none => none ▸ asked_nil
  exact silent.and_leads (leads_dequeue hs)

/-- The operations that wait are those from one of them on, and so are the ones that come. -/
theorem attends_drainWithin (upheld : Upheld f invariant fit)
    (nests : ∀ op, op.parent.isSome = true → fit op) (remaining : Nat) (hb : invariant s.bean)
    (hs : Progress f base k 0 k s) :
    Attends f invariant s (drainWithin f remaining)
      (fun _ calls s' => AskedUpTo (toLex (k, 0)) (toLex (s'.bean.operations.size, 0)) calls)
      (Asked (toLex (k, 0))) := by
  induction remaining generalizing k s with
  | zero =>
    unfold drainWithin
    apply (attends_dequeue hb hs).bind
    rintro taken _ s' hb' ⟨rfl, -, ⟨rfl, hs'⟩ | ⟨rfl, -⟩⟩
    · exact Attends.pure hb' askedUpTo_nil
    · exact Attends.throw hb' asked_nil
  | succ remaining ih =>
    unfold drainWithin
    apply (attends_dequeue hb hs).bind
    rintro taken _ s' hb' ⟨rfl, -, ⟨rfl, hs'⟩ | ⟨rfl, hs'⟩⟩
    · exact Attends.pure hb' askedUpTo_nil
    · have spends : Silent (spend (P := P)) := silent_modify fun _ => ⟨rfl, rfl, rfl⟩
      apply hush_spend.bind_attends_silent spends hb' asked_nil
      intro _ s₁ hb₁ h₁
      apply (hush_record rfl).bind_attends_silent (silent_record (by simp)) hb₁ asked_nil
      intro _ s₂ hb₂ h₂
      have hs₂ := (h₁.trans h₂).progress hs'
      apply ((attends_resolveOperation upheld nests hb₂ hs₂).and_leads
        (leads_resolveOperation hs₂)).bind
      rintro _ calls s₃ hb₃ ⟨asked, -, hs₃⟩
      have le : toLex (k, 0) ≤ toLex (k + 1, 0) := by simp [Prod.Lex.toLex_le_toLex]
      apply ((ih hb₃ hs₃).and_leads (leads_drainWithin remaining hs₃)).mono
      · rintro _ later s₄ ⟨asked', follows, -⟩
        obtain ⟨op, ho⟩ := Bean.exists_operation? hs₃.frontier.q_le
        obtain ⟨op', ho', -⟩ := follows.reaches.grows.operations k op ho
        have room : k + 1 ≤ s₄.bean.operations.size := Bean.lt_of_operation? ho'
        have le' : toLex (k + 1, 0) ≤ toLex (s₄.bean.operations.size, 0) := by
          simp only [Prod.Lex.toLex_le_toLex]
          omega
        exact asked.trans asked' le le'
      · exact fun later asked' => asked.append le asked'

theorem attends_drain (upheld : Upheld f invariant fit)
    (nests : ∀ op, op.parent.isSome = true → fit op) (hb : invariant s.bean)
    (hs : Progress f base k 0 k s) :
    Attends f invariant s (drain f)
      (fun _ calls s' => AskedUpTo (toLex (k, 0)) (toLex (s'.bean.operations.size, 0)) calls)
      (Asked (toLex (k, 0))) :=
  attends_drainWithin upheld nests s.remaining hb hs

end Steps

end Scan

end Injector

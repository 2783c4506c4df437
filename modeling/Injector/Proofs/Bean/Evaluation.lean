import Injector.Proofs.Bean.Postorder
import Injector.Proofs.Service.Resolution

/-!
# What happens in a call

Services are asked for and accessors called one by one, each where the one before it left off; a
call goes through the tree under the operation in post-order and ends with the first of them that
fails.
-/

set_option autoImplicit false

namespace Injector

variable {P : Platform}

inductive Deed (P : Platform) where
  /-- The service of a parameter was asked for. -/
  | asked (id : OperationId) (index : Nat) (reply : Except Error P.Datum)
  /-- The accessor of an operation was called with these values. -/
  | called (id : OperationId) (values : List (Option P.Datum))
      (reply : Except Error (Option P.Datum))

namespace Deed

def place : Deed P → Place
  | asked id index _ => .service id index
  | called id _ _ => .accessor id

def accessor? : Deed P → Option OperationId
  | asked .. => none
  | called id _ _ => some id

def entry? {ι : Type} (entry : OperationId → List (Option P.Datum) → ι) : Deed P → Option ι
  | asked .. => none
  | called id values _ => some (entry id values)

theorem accessor?_place (deed : Deed P) : deed.place.accessor? = deed.accessor? := by
  cases deed <;> rfl

end Deed

inductive Gives (id : OperationId) (args : List (Option P.Datum)) (earlier : List (Deed P)) :
    Option (Binding P) × Nat → Option P.Datum → Prop
  | constant {value : Option P.Datum} {index : Nat} :
      Gives id args earlier (some (.constant value), index) value
  | argument {argument index : Nat} {value : Option P.Datum}
      (passed : args[argument]? = some value) :
      Gives id args earlier (some (.argument argument), index) value
  | nested {child index : Nat} {values : List (Option P.Datum)} {value : Option P.Datum}
      (result : .called child values (.ok value) ∈ earlier) :
      Gives id args earlier (some (.operation child), index) value
  | service {key : DependencyKey} {party : Party} {required : Bool} {index : Nat} {value : P.Datum}
      (resolved : .asked id index (.ok value) ∈ earlier) :
      Gives id args earlier (some (.service key party required), index) (some value)
  | null {key : DependencyKey} {party : Party} {index : Nat} {e : Error}
      (unresolved : .asked id index (.error e) ∈ earlier) (absorbed : e.isAbsorbed = true) :
      Gives id args earlier (some (.service key party false), index) none

theorem Gives.mono {id : OperationId} {args : List (Option P.Datum)} {earlier later : List (Deed P)}
    {entry : Option (Binding P) × Nat} {value : Option P.Datum}
    (h : Gives id args earlier entry value) (more : earlier ⊆ later) :
    Gives id args later entry value := by
  cases h with
  | constant => exact .constant
  | argument passed => exact .argument passed
  | nested result => exact .nested (more result)
  | service resolved => exact .service (more resolved)
  | null unresolved absorbed => exact .null (more unresolved) absorbed

namespace Operation

def Addresses (op : Operation P) (args receiver : List (Option P.Datum)) : Prop :=
  if op.receiver = true then
    ∃ first, args.head? = some (some first) ∧ receiver = [some first]
  else receiver = []

def Writes (op : Operation P) (args given : List (Option P.Datum)) : Prop :=
  if op.mode = .set then
    ∃ value, args[if op.receiver then 1 else 0]? = some value ∧ given = [value]
  else given = []

inductive Receives (op : Operation P) (id : OperationId) (args : List (Option P.Datum))
    (earlier : List (Deed P)) : List (Option P.Datum) → Prop
  | values {receiver params given : List (Option P.Datum)} (addressed : op.Addresses args receiver)
      (produced : List.Forall₂ (Gives id args earlier) op.bindings.zipIdx params)
      (written : op.Writes args given) : Receives op id args earlier (receiver ++ (params ++ given))

theorem Receives.mono {op : Operation P} {id : OperationId} {args values : List (Option P.Datum)}
    {earlier later : List (Deed P)} (h : op.Receives id args earlier values)
    (more : earlier ⊆ later) : op.Receives id args later values := by
  obtain ⟨addressed, params, written⟩ := h
  exact .values addressed (params.imp fun _ _ gives => gives.mono more) written

end Operation

namespace Bean

/-- What happened in calls with these arguments, each where the one before it left off. -/
inductive Story (b : Bean P) (resolve : Resolver P) (args : List (Option P.Datum))
    (live : Live P) : List (Deed P) → Live P → Prop
  | start : Story b resolve args live [] live
  | asked {deeds : List (Deed P)} {mid last : Live P} {id index : Nat} {op : Operation P}
      {key : DependencyKey} {party : Party} {required : Bool} {reply : Except Error P.Datum}
      (before : Story b resolve args live deeds mid) (found : b.operation? id = some op)
      (bound : op.binding? index = some (.service key party required))
      (ran : resolve party key mid = (reply, last)) :
      Story b resolve args live (deeds ++ [.asked id index reply]) last
  | called {deeds : List (Deed P)} {mid last : Live P} {id : Nat} {op : Operation P}
      {values : List (Option P.Datum)} {reply : Except Error (Option P.Datum)}
      (before : Story b resolve args live deeds mid) (found : b.operation? id = some op)
      (receives : op.Receives id args deeds values)
      (ran : (op.accessor.accessor values).run resolve mid = (reply, last)) :
      Story b resolve args live (deeds ++ [.called id values reply]) last

inductive Stops (b : Bean P) : Deed P → Error → Prop
  | accessor {id : OperationId} {values : List (Option P.Datum)} {e : Error} :
      Stops b (.called id values (.error e)) e
  | required {id index : Nat} {op : Operation P} {key : DependencyKey} {party : Party} {e : Error}
      (found : b.operation? id = some op)
      (bound : op.binding? index = some (.service key party true)) :
      Stops b (.asked id index (.error e)) e
  | grave {id index : Nat} {e : Error} (kept : e.isAbsorbed = false) :
      Stops b (.asked id index (.error e)) e

/-- Why the call of `id` fails like this, after these deeds: the last of them failed, or a parameter
has no binding. -/
inductive Breaks (b : Bean P) (id : OperationId) (deeds : List (Deed P)) (e : Error) : Prop
  | deed {deed : Deed P} (last : deeds.getLast? = some deed) (stops : b.Stops deed e)
  | unbound {holder index : Nat} {op : Operation P} (under : b.Under id holder)
      (found : b.operation? holder = some op) (empty : op.bindings[index]? = some none)
      (told : e = .invocationFailed op.target s!"parameter {index} is not bound")

section Parts

variable {b : Bean P} {resolve : Resolver P} {args : List (Option P.Datum)} {live mid last : Live P}
  {deeds later : List (Deed P)} {order order' : List Place} {id : Nat} {op : Operation P}
  {e : Error}

structure Done (b : Bean P) (resolve : Resolver P) (args : List (Option P.Datum)) (live : Live P)
    (order : List Place) (deeds : List (Deed P)) (last : Live P) : Prop where
  story : b.Story resolve args live deeds last
  order : deeds.map Deed.place = order
  fine : ∀ deed ∈ deeds, ∀ e, ¬ b.Stops deed e

structure BrokenOff (b : Bean P) (resolve : Resolver P) (args : List (Option P.Datum))
    (live : Live P) (order : List Place) (e : Error) (deeds : List (Deed P)) (last : Live P) :
    Prop where
  story : b.Story resolve args live deeds last
  within : deeds.map Deed.place <+: order
  only : ∀ deed ∈ deeds, ∀ e', b.Stops deed e' → e' = e ∧ deeds.getLast? = some deed

structure Yields (b : Bean P) (resolve : Resolver P) (args : List (Option P.Datum)) (live : Live P)
    (id : OperationId) (value : Option P.Datum) (deeds : List (Deed P)) (last : Live P) : Prop
    extends Done b resolve args live (b.plan id) deeds last where
  result : ∃ values, deeds.getLast? = some (.called id values (.ok value))

theorem Story.append (h : b.Story resolve args live deeds mid)
    (k : b.Story resolve args mid later last) :
    b.Story resolve args live (deeds ++ later) last := by
  induction k with
  | start => rwa [List.append_nil]
  | asked _ found bound ran ih =>
    rw [← List.append_assoc]
    exact .asked ih found bound ran
  | called _ found receives ran ih =>
    rw [← List.append_assoc]
    exact .called ih found (receives.mono (List.subset_append_right _ _)) ran

theorem Done.nil : Done b resolve args live [] [] live := ⟨.start, rfl, List.forall_mem_nil _⟩

theorem Done.append (h : Done b resolve args live order deeds mid)
    (k : Done b resolve args mid order' later last) :
    Done b resolve args live (order ++ order') (deeds ++ later) last where
  story := h.story.append k.story
  order := by rw [List.map_append, h.order, k.order]
  fine := fun deed at_ => (List.mem_append.mp at_).elim (h.fine deed) (k.fine deed)

theorem Done.snoc (h : Done b resolve args live order deeds mid) {deed : Deed P}
    (story : b.Story resolve args live (deeds ++ [deed]) last) (fine : ∀ e, ¬ b.Stops deed e) :
    Done b resolve args live (order ++ [deed.place]) (deeds ++ [deed]) last where
  story := story
  order := by rw [List.map_append, h.order]; rfl
  fine := fun other at_ => (List.mem_append.mp at_).elim (h.fine other) fun at_ =>
    List.mem_singleton.mp at_ ▸ fine

theorem Stops.eq {deed : Deed P} {e' : Error} (h : b.Stops deed e) (k : b.Stops deed e') :
    e = e' := by
  cases h <;> cases k <;> rfl

theorem BrokenOff.widen (h : BrokenOff b resolve args live order e deeds last)
    (more : order <+: order') : BrokenOff b resolve args live order' e deeds last :=
  ⟨h.story, h.within.trans more, h.only⟩

/-- It was not done at all. -/
theorem Done.brokenOff (h : Done b resolve args live order deeds last) (more : order <+: order')
    (e : Error) : BrokenOff b resolve args live order' e deeds last where
  story := h.story
  within := h.order ▸ more
  only := fun deed at_ e' stops => absurd stops (h.fine deed at_ e')

/-- The next deed failed. -/
theorem Done.stop (h : Done b resolve args live order deeds mid) {deed : Deed P}
    (story : b.Story resolve args live (deeds ++ [deed]) last) (stops : b.Stops deed e) :
    BrokenOff b resolve args live (order ++ [deed.place]) e (deeds ++ [deed]) last where
  story := story
  within := by rw [List.map_append, h.order]; exact List.prefix_refl _
  only := by
    intro other at_ e' stops'
    rcases List.mem_append.mp at_ with at_ | at_
    · exact absurd stops' (h.fine other at_ e')
    · obtain rfl := List.mem_singleton.mp at_
      exact ⟨stops'.eq stops, List.getLast?_concat ..⟩

theorem Done.breakOff (h : Done b resolve args live order deeds mid)
    (k : BrokenOff b resolve args mid order' e later last) :
    BrokenOff b resolve args live (order ++ order') e (deeds ++ later) last where
  story := h.story.append k.story
  within := by
    rw [List.map_append, h.order, List.prefix_append_right_inj]
    exact k.within
  only := by
    intro deed at_ e' stops
    rcases List.mem_append.mp at_ with at_ | at_
    · exact absurd stops (h.fine deed at_ e')
    · obtain ⟨same, end_⟩ := k.only deed at_ e' stops
      exact ⟨same, by rw [List.getLast?_append, end_]; rfl⟩

/-- What happened before does not matter. -/
theorem Breaks.after (h : b.Breaks id later e) (deeds : List (Deed P)) :
    b.Breaks id (deeds ++ later) e := by
  cases h with
  | deed last stops => exact .deed (by rw [List.getLast?_append, last]; rfl) stops
  | unbound under found empty told => exact .unbound under found empty told

/-- A call that fails for one that makes a value for it fails for the same reason. -/
theorem Breaks.of_nested {index child : Nat} (held : b.Holds id index child)
    (h : b.Breaks child deeds e) : b.Breaks id deeds e := by
  cases h with
  | deed last stops => exact .deed last stops
  | unbound under found empty told => exact .unbound (under.head ⟨index, held⟩) found empty told

end Parts

section Calls

variable {b : Bean P} {resolve : Resolver P} {args : List (Option P.Datum)} {live : Live P}
  {id : Nat} {op : Operation P} {nested : OperationId → Run P (Option P.Datum)}

def NestedDone (b : Bean P) (resolve : Resolver P) (args : List (Option P.Datum))
    (op : Operation P) (nested : OperationId → Run P (Option P.Datum)) : Prop :=
  ∀ (index child : Nat), op.binding? index = some (.operation child) → ∀ live,
    Ends (nested child) live
      (fun value last => ∃ deeds, Yields b resolve args live child value deeds last)
      fun e last => ∃ deeds, BrokenOff b resolve args live (b.plan child) e deeds last ∧
        b.Breaks child deeds e

/-- A service that is asked for is the one deed of its parameter. -/
theorem ends_resolve_done (found : b.operation? id = some op) {index : Nat} {key : DependencyKey}
    {party : Party} (bound : op.binding? index = some (.service key party true)) (live : Live P) :
    Ends (resolve party key >>= fun value => pure (some value)) live
      (fun value last => ∃ deeds, Done b resolve args live [.service id index] deeds last ∧
        Gives id args deeds (some (.service key party true), index) value)
      fun e last => ∃ deeds, BrokenOff b resolve args live [.service id index] e deeds last ∧
        b.Breaks id deeds e := by
  rw [ends_bind]
  rcases ran : (resolve party key live : Except Error P.Datum × Live P) with ⟨e | value, last⟩
  · have story : b.Story resolve args live [.asked id index (.error e)] last :=
      .asked .start found bound ran
    have stops : b.Stops (.asked id index (.error e)) e := .required found bound
    rw [ends_of_error ran]
    exact ⟨_, Done.nil.stop story stops, .deed rfl stops⟩
  · have story : b.Story resolve args live [.asked id index (.ok value)] last :=
      .asked .start found bound ran
    rw [ends_of_ok ran]
    exact ⟨_, Done.nil.snoc story (fun _ stops => by cases stops), .service (by simp)⟩

theorem ends_resolveOptional_done (found : b.operation? id = some op) {index : Nat}
    {key : DependencyKey} {party : Party}
    (bound : op.binding? index = some (.service key party false)) (live : Live P) :
    Ends (resolveOptional resolve party key) live
      (fun value last => ∃ deeds, Done b resolve args live [.service id index] deeds last ∧
        Gives id args deeds (some (.service key party false), index) value)
      fun e last => ∃ deeds, BrokenOff b resolve args live [.service id index] e deeds last ∧
        b.Breaks id deeds e := by
  unfold Ends resolveOptional
  rcases ran : (resolve party key live : Except Error P.Datum × Live P) with ⟨e | value, last⟩
  · have story : b.Story resolve args live [.asked id index (.error e)] last :=
      .asked .start found bound ran
    dsimp only
    rw [show (e.isNotRegistered || e.isCircular) = e.isAbsorbed from rfl]
    cases absorbed : e.isAbsorbed with
    | true =>
      have fine : ∀ e', ¬ b.Stops (.asked id index (.error e)) e' := by
        intro e' stops
        cases stops with
        | required found' bound' =>
          obtain rfl := Option.some.inj (found.symm.trans found')
          cases bound.symm.trans bound'
        | grave kept => cases kept.symm.trans absorbed
      exact ⟨_, Done.nil.snoc story fine, .null (by simp) absorbed⟩
    | false =>
      have stops : b.Stops (.asked id index (.error e)) e := .grave absorbed
      exact ⟨_, Done.nil.stop story stops, .deed rfl stops⟩
  · have story : b.Story resolve args live [.asked id index (.ok value)] last :=
      .asked .start found bound ran
    exact ⟨_, Done.nil.snoc story (fun _ stops => by cases stops), .service (by simp)⟩

theorem ends_parameterValue_done (found : b.operation? id = some op)
    (passed : ∀ (index argument : Nat), op.binding? index = some (.argument argument) →
      argument < args.length)
    (made : b.NestedDone resolve args op nested) {entry : Option (Binding P)} {index : Nat}
    (at_ : op.bindings[index]? = some entry) (live : Live P) :
    Ends (parameterValue resolve nested op args index entry) live
      (fun value last => ∃ deeds,
        Done b resolve args live (parameterPlan b.plan id (entry, index)) deeds last ∧
          Gives id args deeds (entry, index) value)
      fun e last => ∃ deeds,
        BrokenOff b resolve args live (parameterPlan b.plan id (entry, index)) e deeds last ∧
          b.Breaks id deeds e := by
  cases entry with
  | none => exact ⟨[], Done.nil.brokenOff List.nil_prefix _, .unbound .refl found at_ rfl⟩
  | some binding =>
    have bound : op.binding? index = some binding := Operation.binding?_eq_some.mpr at_
    cases binding with
    | constant value => exact ⟨[], .nil, .constant⟩
    | argument argument =>
      have value := List.getElem?_eq_getElem (passed index argument bound)
      refine ⟨[], .nil, .argument ?_⟩
      rw [value]
      rfl
    | operation child =>
      apply (made index child bound live).mono
      · rintro value last ⟨deeds, yields⟩
        obtain ⟨values, result⟩ := yields.result
        exact ⟨deeds, yields.toDone, .nested (List.mem_of_getLast? result)⟩
      · rintro e last ⟨deeds, broken, breaks⟩
        exact ⟨deeds, broken, breaks.of_nested ⟨op, found, bound⟩⟩
    | service key party required =>
      cases required with
      | true => exact ends_resolve_done found bound live
      | false => exact ends_resolveOptional_done found bound live

/-- The parameters are gone through in turn. -/
theorem ends_parameterValues_done (found : b.operation? id = some op)
    (passed : ∀ (index argument : Nat), op.binding? index = some (.argument argument) →
      argument < args.length)
    (made : b.NestedDone resolve args op nested) (position : Nat)
    (bindings : List (Option (Binding P)))
    (at_ : ∀ entry ∈ bindings.zipIdx position, op.bindings[entry.2]? = some entry.1)
    (live : Live P) :
    Ends (parameterValues resolve nested op args position bindings) live
      (fun values last => ∃ deeds, Done b resolve args live
        ((bindings.zipIdx position).flatMap (parameterPlan b.plan id)) deeds last ∧
          List.Forall₂ (Gives id args deeds) (bindings.zipIdx position) values)
      fun e last => ∃ deeds, BrokenOff b resolve args live
        ((bindings.zipIdx position).flatMap (parameterPlan b.plan id)) e deeds last ∧
          b.Breaks id deeds e := by
  induction bindings generalizing position live with
  | nil => exact ⟨[], .nil, .nil⟩
  | cons entry rest ih =>
    rw [List.zipIdx_cons, List.forall_mem_cons] at at_
    unfold parameterValues
    rw [ends_bind, List.zipIdx_cons, List.flatMap_cons]
    apply (ends_parameterValue_done found passed made at_.1 live).mono
    · rintro value mid ⟨deeds, first, gives⟩
      rw [ends_bind]
      apply (ih (position + 1) at_.2 mid).mono
      · rintro values last ⟨later, others, produced⟩
        exact ⟨deeds ++ later, first.append others,
          .cons (gives.mono (List.subset_append_left _ _))
            (produced.imp fun _ _ gives => gives.mono (List.subset_append_right _ _))⟩
      · rintro e last ⟨later, broken, breaks⟩
        exact ⟨deeds ++ later, first.breakOff broken, breaks.after deeds⟩
    · rintro e last ⟨deeds, broken, breaks⟩
      exact ⟨deeds, broken.widen (List.prefix_append _ _), breaks⟩

def Furnished (b : Bean P) : Prop :=
  ∀ (id : Nat) op, b.operation? id = some op → op.mode = .set →
    op.contract.arguments.length = (if op.receiver then 1 else 0) + 1

theorem Furnished.append (h : b.Furnished) (written : op.mode = .set →
    op.contract.arguments.length = (if op.receiver then 1 else 0) + 1) :
    (b.append op).Furnished := by
  intro id old found writes
  rcases operation?_of_append found with ⟨-, rfl⟩ | found
  · exact written writes
  · exact h id old found writes

theorem Furnished.put (h : b.Furnished) {bound : Operation P} (found : b.operation? id = some op)
    (grows : op.Grows bound) : (b.put id bound).Furnished := by
  intro other old there writes
  rcases operation?_of_put found there with ⟨-, rfl⟩ | ⟨-, there⟩
  · rw [grows.mode_eq] at writes
    rw [grows.contract_eq, grows.receiver_eq]
    exact h id op found writes
  · exact h other old there writes

theorem receives_passed {deeds : List (Deed P)} {params : List (Option P.Datum)}
    (addressed : op.receiver = true → ∃ receiver, args.head? = some (some receiver))
    (produced : List.Forall₂ (Gives id args deeds) op.bindings.zipIdx params)
    (written : op.mode = .set → args.length = (if op.receiver then 1 else 0) + 1) :
    op.Receives id args deeds (op.passed args params) := by
  refine .values ?_ produced ?_
  · unfold Operation.Addresses
    split
    next needed =>
      obtain ⟨receiver, head⟩ := addressed needed
      exact ⟨receiver, head, by rw [head]; rfl⟩
    next => rfl
  · unfold Operation.Writes
    split
    next writes =>
      have value := List.getElem?_eq_getElem (l := args) (i := if op.receiver then 1 else 0)
        (by rw [written writes]; omega)
      exact ⟨_, value, by rw [value]; rfl⟩
    next => rfl

/-- Once the parameters are there the accessor is called. -/
theorem ends_call_done (found : b.operation? id = some op) (wellMade : op.WellMade)
    (complete : args.length = op.contract.arguments.length)
    (written : op.mode = .set → args.length = (if op.receiver then 1 else 0) + 1)
    {order : List Place} {deeds : List (Deed P)} {params : List (Option P.Datum)} {mid : Live P}
    (done : Done b resolve args live order deeds mid)
    (produced : List.Forall₂ (Gives id args deeds) op.bindings.zipIdx params) :
    Ends ((op.call args params).run resolve) mid
      (fun value last => ∃ deeds, Done b resolve args live (order ++ [.accessor id]) deeds last ∧
        ∃ values, deeds.getLast? = some (.called id values (.ok value)))
      fun e last => ∃ deeds, BrokenOff b resolve args live (order ++ [.accessor id]) e deeds last ∧
        (b.Breaks id deeds e ∨ op.Misses args e) := by
  have length : params.length = op.slots.length := by
    rw [← produced.length_eq, List.length_zipIdx, Operation.bindings, List.length_map]
  rcases Operation.call_eq wellMade complete length with ⟨-, addressed, call⟩ | ⟨e, misses, call⟩
  · have receives := receives_passed addressed produced written
    rw [call]
    rcases ran : ((op.accessor.accessor (op.passed args params)).run resolve mid :
      Except Error (Option P.Datum) × Live P) with ⟨e | value, last⟩
    · have story := done.story.called found receives ran
      rw [ends_of_error ran]
      exact ⟨_, done.stop story .accessor, .inl (.deed (List.getLast?_concat ..) .accessor)⟩
    · have story := done.story.called found receives ran
      rw [ends_of_ok ran]
      exact ⟨_, done.snoc story (fun _ stops => by cases stops), _, List.getLast?_concat ..⟩
  · rw [call]
    exact ⟨deeds, done.brokenOff (List.prefix_append _ _) e, .inr misses⟩

theorem ends_invokeWithin_done (linked : b.Linked) (fitting : b.Fitting) (furnished : b.Furnished)
    (resolve : Resolver P) (depth : Nat) (found : b.operation? id = some op)
    (complete : args.length = op.contract.arguments.length) (deep : b.operations.size < id + depth)
    (live : Live P) :
    Ends (b.invokeWithin resolve depth id args) live
      (fun value last => ∃ deeds, Yields b resolve args live id value deeds last)
      fun e last => ∃ deeds, BrokenOff b resolve args live (b.plan id) e deeds last ∧
        (b.Breaks id deeds e ∨ op.Misses args e) := by
  induction depth generalizing id op live with
  | zero =>
    have inBounds := lt_of_operation? found
    omega
  | succ depth ih =>
    have wellMade := fitting.wellMade id op found
    have passed : ∀ (index argument : Nat), op.binding? index = some (.argument argument) →
        argument < args.length := by
      intro index argument bound
      obtain ⟨slot, at_, holds⟩ := Option.bind_eq_some_iff.mp bound
      obtain ⟨type, listed, -⟩ := fitting.fits id op found slot (List.mem_of_getElem? at_) _ holds
      rw [complete]
      exact (List.getElem?_eq_some_iff.mp listed).1
    have made : b.NestedDone resolve args op fun child =>
        b.invokeWithin resolve depth child args := by
      intro index child bound live
      obtain ⟨new, there, parent, younger, same⟩ := fitting.nested linked found bound
      apply (ih there (complete.trans (congrArg List.length same.symm)) (by omega) live).imp_failed
      rintro e last ⟨deeds, broken, breaks⟩
      have meets : ¬ new.Misses args e :=
        not_misses_of_makes (fitting.wellMade child new there) (.inr parent)
      exact ⟨deeds, broken, breaks.resolve_right meets⟩
    have order := plan_eq linked found
    unfold invokeWithin
    rw [found]
    dsimp only
    rw [if_pos complete, ends_bind]
    apply (ends_parameterValues_done found passed made 0 op.bindings
      (fun entry at_ => List.mem_zipIdx_iff_getElem?.mp at_) live).mono
    · rintro params mid ⟨deeds, done, produced⟩
      have call := ends_call_done found wellMade complete
        (fun writes => complete.trans (furnished id op found writes)) done produced
      rw [← order] at call
      apply call.imp
      rintro value last ⟨deeds, done, result⟩
      exact ⟨deeds, done, result⟩
    · rintro e last ⟨deeds, broken, breaks⟩
      exact ⟨deeds, broken.widen (order ▸ List.prefix_append _ _), .inl breaks⟩

/-- The accessors note that they are called and with what, and nobody calls one of them to have a
service made. -/
structure Logs (b : Bean P) (resolve : Resolver P) {ι : Type} (log : P.World → List ι)
    (entry : OperationId → List (Option P.Datum) → ι) : Prop where
  accessor : ∀ (id : Nat) op, b.operation? id = some op → ∀ values live,
    log ((op.accessor.accessor values).run resolve live).2.world =
      log live.world ++ [entry id values]
  service : ∀ party key live, log (resolve party key live).2.world = log live.world

theorem Story.log_eq {ι : Type} {log : P.World → List ι}
    {entry : OperationId → List (Option P.Datum) → ι} {deeds : List (Deed P)} {last : Live P}
    (h : b.Story resolve args live deeds last) (logs : b.Logs resolve log entry) :
    log last.world = log live.world ++ deeds.filterMap (Deed.entry? entry) := by
  induction h with
  | start => simp
  | @asked deeds mid last id index op key party required reply _ _ _ ran ih =>
    have kept := logs.service party key mid
    rw [ran] at kept
    rw [kept, ih]
    simp [Deed.entry?]
  | @called deeds mid last id op values reply _ found _ ran ih =>
    have noted := logs.accessor id op found values mid
    rw [ran] at noted
    rw [noted, ih]
    simp [Deed.entry?]

/-- The order of the tree under an operation: what makes values for an operation comes before it, in
the order of its parameters, and each operation of the tree comes once. -/
structure PostOrdered (b : Bean P) (id : OperationId) : Prop where
  tree : ∀ (id : Nat) op, b.operation? id = some op →
    b.postorder id = op.nested.flatMap b.postorder ++ [id]
  all : ∀ other, other ∈ b.postorder id ↔ b.Under id other
  once : (b.postorder id).Nodup

structure Evaluates (b : Bean P) (resolve : Resolver P) (id : OperationId) (op : Operation P)
    (args : List (Option P.Datum)) (live : Live P) (deeds : List (Deed P))
    (outcome : Except Error (Option P.Datum) × Live P) : Prop where
  story : b.Story resolve args live deeds outcome.2
  places : deeds.map Deed.place <+: b.plan id
  once : (deeds.map Deed.place).Nodup
  calls : deeds.filterMap Deed.accessor? <+: b.postorder id
  result : ∀ value, outcome.1 = .ok value → deeds.map Deed.place = b.plan id ∧
    deeds.filterMap Deed.accessor? = b.postorder id ∧
      ∃ values, deeds.getLast? = some (.called id values (.ok value))
  failed : ∀ e, outcome.1 = .error e → b.Breaks id deeds e ∨ op.Misses args e
  stopped : ∀ deed ∈ deeds, ∀ e, b.Stops deed e →
    outcome.1 = .error e ∧ deeds.getLast? = some deed
  logged : ∀ {ι : Type} (log : P.World → List ι) (entry : OperationId → List (Option P.Datum) → ι),
    b.Logs resolve log entry →
      log outcome.2.world = log live.world ++ deeds.filterMap (Deed.entry? entry)

theorem postOrdered (linked : b.Linked) (found : b.operation? id = some op) : b.PostOrdered id where
  tree := fun _ _ => postorder_eq linked
  all := fun _ => mem_postorder linked found
  once := nodup_postorder linked id

theorem accessors_place (deeds : List (Deed P)) :
    (deeds.map Deed.place).filterMap Place.accessor? = deeds.filterMap Deed.accessor? := by
  rw [List.filterMap_map]
  exact List.filterMap_congr fun deed _ => deed.accessor?_place

/-- A call goes through the tree under the operation, and stops where something fails. -/
theorem evaluates_invoke (linked : b.Linked) (fitting : b.Fitting) (furnished : b.Furnished)
    (found : b.operation? id = some op) (complete : args.length = op.contract.arguments.length)
    (live : Live P) :
    ∃ deeds, b.Evaluates resolve id op args live deeds (b.invoke resolve id args live) := by
  have calls : ∀ {deeds : List (Deed P)}, deeds.map Deed.place <+: b.plan id →
      deeds.filterMap Deed.accessor? <+: b.postorder id := by
    intro deeds within
    rw [← accessors_place]
    exact within.filterMap _
  have ends := ends_invokeWithin_done linked fitting furnished resolve (b.operations.size + 1) found
    complete (by omega) live
  rcases ends.cases with
    ⟨value, last, ran, deeds, yields⟩ | ⟨e, last, ran, deeds, broken, breaks⟩
  · have order := yields.order
    have all : deeds.filterMap Deed.accessor? = b.postorder id := by
      rw [← accessors_place, order, postorder]
    rw [invoke, ran]
    exact ⟨deeds, {
      story := yields.story
      places := order ▸ List.prefix_refl _
      once := order ▸ nodup_plan linked id
      calls := all ▸ List.prefix_refl _
      result := fun _ ok => Except.ok.inj ok ▸ ⟨order, all, yields.result⟩
      failed := fun e error => by cases error
      stopped := fun deed at_ e stops => absurd stops (yields.fine deed at_ e)
      logged := fun log entry logs => yields.story.log_eq logs }⟩
  · rw [invoke, ran]
    exact ⟨deeds, {
      story := broken.story
      places := broken.within
      once := broken.within.sublist.nodup (nodup_plan linked id)
      calls := calls broken.within
      result := fun value ok => by cases ok
      failed := fun _ error => Except.error.inj error ▸ breaks
      stopped := by
        intro deed at_ e' stops
        obtain ⟨same, last⟩ := broken.only deed at_ e' stops
        exact ⟨same ▸ rfl, last⟩
      logged := fun log entry logs => broken.story.log_eq logs }⟩

end Calls

end Bean

end Injector

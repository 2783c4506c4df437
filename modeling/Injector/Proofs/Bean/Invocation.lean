import Injector.Proofs.Bean.Dependencies
import Injector.Proofs.Bean.Fit
import Injector.Proofs.Ends

/-!
# Running the operations of a scanned bean

Every slot is bound and every operation is called with as many arguments as it takes, so a run fails
only where a service or an accessor does. Whoever resolves services says what holds before and after
each of them, and what their failures are.
-/

set_option autoImplicit false

namespace Injector

variable {P : Platform}

theorem ends_resolveOptional {resolve : Resolver P} {party : Party} {key : DependencyKey}
    {live : Live P} {invariant : Live P → Prop} {failed : Error → Live P → Prop}
    (h : Ends (resolve party key) live (fun _ l => invariant l) fun e l =>
      if e.isNotRegistered || e.isCircular then invariant l else failed e l) :
    Ends (resolveOptional resolve party key) live (fun _ l => invariant l) failed := by
  unfold Ends resolveOptional
  rcases h.cases with ⟨value, l, hr, hl⟩ | ⟨e, l, hr, hl⟩
  · rw [hr]
    exact hl
  · rw [hr]
    dsimp only
    by_cases absorbed : (e.isNotRegistered || e.isCircular) = true
    · rw [if_pos absorbed] at hl ⊢
      exact hl
    · rw [if_neg absorbed] at hl ⊢
      exact hl

structure Operation.Misses (op : Operation P) (args : List (Option P.Datum)) (e : Error) :
    Prop where
  receiver : op.receiver = true
  null : args.head? = some none
  error : e = .nullReceiver op.target

def Operation.passed (op : Operation P) (args params : List (Option P.Datum)) :
    List (Option P.Datum) :=
  (if op.receiver then [args.head?.join] else []) ++ (params ++
    if op.mode = .set then [(args[if op.receiver then 1 else 0]?).join] else [])

/-- Called with what its contract says and a value for each parameter, an operation passes as many
values to its accessor as that takes, unless there is no instance. -/
theorem Operation.call_eq {op : Operation P} (wellMade : op.WellMade)
    {args params : List (Option P.Datum)} (hargs : args.length = op.contract.arguments.length)
    (hparams : params.length = op.slots.length) :
    ((op.passed args params).length = op.accessor.arity ∧
      (op.receiver = true → ∃ receiver, args.head? = some (some receiver)) ∧
        op.call args params = op.accessor.accessor (op.passed args params)) ∨
    ∃ e, op.Misses args e ∧ op.call args params = .done (.error e) := by
  have arity : (op.passed args params).length = op.accessor.arity := by
    rw [wellMade.arity, passed, List.length_append, List.length_append, hparams, ← Nat.add_assoc]
    congr 2
    · split <;> rfl
    · split <;> rfl
  have passes : op.accessor.invoke (op.passed args params) =
      op.accessor.accessor (op.passed args params) := by
    rw [MemberAccessor.invoke, if_pos arity]
  cases needed : op.receiver with
  | false =>
    refine .inl ⟨arity, fun absurd => (by cases absurd), ?_⟩
    rw [← passes]
    simp [call, passed, needed]
  | true =>
    cases args with
    | nil => exact absurd (List.length_eq_zero_iff.mp hargs.symm) (wellMade.addressed needed)
    | cons first rest =>
      cases first with
      | none => exact .inr ⟨_, ⟨needed, rfl, rfl⟩, by simp [call, needed]⟩
      | some receiver =>
        refine .inl ⟨arity, fun _ => ⟨receiver, rfl⟩, ?_⟩
        rw [← passes]
        simp [call, passed, needed]

namespace Bean

/-- What the services and accessors do that are met under `root`. -/
structure Running (b : Bean P) (resolve : Resolver P) (root : Nat) (invariant : Live P → Prop)
    (result : Option P.Datum → Prop) (failed : Error → Live P → Prop) : Prop where
  required : ∀ id op index key party, b.Under root id → b.operation? id = some op →
    op.binding? index = some (.service key party true) → ∀ live, invariant live →
      Ends (resolve party key) live (fun _ l => invariant l) failed
  optional : ∀ id op index key party, b.Under root id → b.operation? id = some op →
    op.binding? index = some (.service key party false) → ∀ live, invariant live →
      Ends (resolve party key) live (fun _ l => invariant l) fun e l =>
        if e.isNotRegistered || e.isCircular then invariant l else failed e l
  accessor : ∀ id op, b.Under root id → b.operation? id = some op → ∀ values,
    values.length = op.accessor.arity → ∀ live, invariant live →
      Ends ((op.accessor.accessor values).run resolve) live
        (fun value l => invariant l ∧ result value) failed

variable {b : Bean P} {d : Directory} {resolve : Resolver P} {root id : Nat}
  {invariant : Live P → Prop} {result : Option P.Datum → Prop} {failed : Error → Live P → Prop}
  {op : Operation P} {args : List (Option P.Datum)} {live : Live P}

theorem ends_parameterValue (running : b.Running resolve root invariant result failed)
    (under : b.Under root id) (ho : b.operation? id = some op)
    {nested : OperationId → Run P (Option P.Datum)}
    (made : ∀ (index child : Nat), op.binding? index = some (.operation child) → ∀ live,
      invariant live → Ends (nested child) live (fun _ l => invariant l) failed)
    (position : Nat) {index : Nat} {binding : Binding P} (hb : op.binding? index = some binding)
    (hs : invariant live) :
    Ends (parameterValue resolve nested op args position (some binding)) live
      (fun _ l => invariant l) failed := by
  cases binding with
  | constant value => exact hs
  | argument argument => exact hs
  | operation child => exact made index child hb live hs
  | service key party required =>
    cases required with
    | true =>
      show Ends (resolve party key >>= fun value => pure (some value)) live _ _
      rw [ends_bind]
      exact running.required id op index key party under ho hb live hs
    | false =>
      exact ends_resolveOptional (running.optional id op index key party under ho hb live hs)

theorem ends_parameterValues (running : b.Running resolve root invariant result failed)
    (under : b.Under root id) (ho : b.operation? id = some op)
    {nested : OperationId → Run P (Option P.Datum)}
    (made : ∀ (index child : Nat), op.binding? index = some (.operation child) → ∀ live,
      invariant live → Ends (nested child) live (fun _ l => invariant l) failed)
    (position : Nat) (bindings : List (Option (Binding P)))
    (bound : ∀ entry ∈ bindings, ∃ index binding, entry = some binding ∧
      op.binding? index = some binding)
    (hs : invariant live) :
    Ends (parameterValues resolve nested op args position bindings) live
      (fun values l => invariant l ∧ values.length = bindings.length) failed := by
  induction bindings generalizing position live with
  | nil => exact ⟨hs, rfl⟩
  | cons entry rest ih =>
    obtain ⟨index, binding, rfl, hb⟩ := bound entry List.mem_cons_self
    unfold parameterValues
    apply (ends_parameterValue running under ho made position hb hs).bind
    intro value l hl
    have hrest := ih (position + 1) (fun entry he => bound entry (List.mem_cons_of_mem _ he)) hl
    apply hrest.bind
    rintro values l' ⟨hl', hlength⟩
    exact ⟨hl', by rw [List.length_cons, List.length_cons, hlength]⟩

theorem ends_call (running : b.Running resolve root invariant result failed)
    (under : b.Under root id) (ho : b.operation? id = some op) (wellMade : op.WellMade)
    (hargs : args.length = op.contract.arguments.length) {params : List (Option P.Datum)}
    (hparams : params.length = op.slots.length) (hs : invariant live) :
    Ends ((op.call args params).run resolve) live (fun value l => invariant l ∧ result value)
      fun e l => failed e l ∨ op.Misses args e := by
  rcases Operation.call_eq wellMade hargs hparams with ⟨hlength, -, call⟩ | ⟨e, misses, call⟩
  · rw [call]
    exact (running.accessor id op under ho _ hlength live hs).imp_failed fun _ _ h => .inl h
  · rw [call]
    exact .inr misses

/-- An operation that makes a value needs no instance. -/
theorem not_misses_of_makes {e : Error} (wellMade : op.WellMade)
    (makes : op.mode = .construct ∨ op.parent.isSome) : ¬ op.Misses args e := by
  intro misses
  have none_needed := (wellMade.makes makes).1
  rw [misses.receiver] at none_needed
  cases none_needed

/-- A nested operation is called with the arguments of the one it makes a value for. -/
theorem Fitting.nested (fitting : b.Fitting) (linked : b.Linked) (ho : b.operation? id = some op)
    {index child : Nat} (hb : op.binding? index = some (.operation child)) :
    ∃ new, b.operation? child = some new ∧ new.parent.isSome = true ∧ id < child ∧
      new.contract.arguments = op.contract.arguments := by
  obtain ⟨new, hnew, hparent⟩ := linked.parent_of_holds ⟨op, ho, hb⟩
  obtain ⟨slot, hslot, hbound⟩ := Option.bind_eq_some_iff.mp hb
  obtain ⟨nested, hnested, -, same⟩ := fitting.fits id op ho slot
    (List.mem_of_getElem? hslot) _ hbound
  obtain rfl : new = nested := Option.some.inj (hnew.symm.trans hnested)
  have younger := linked.parent_lt child new id hnew hparent
  exact ⟨new, hnew, by rw [hparent]; rfl, younger, same⟩

theorem Scanned.bindings (scanned : b.Scanned d) (ho : b.operation? id = some op) :
    ∀ entry ∈ op.bindings, ∃ index binding, entry = some binding ∧
      op.binding? index = some binding := by
  intro entry he
  obtain ⟨slot, hslot, rfl⟩ := List.mem_map.mp he
  obtain ⟨binding, hb, -⟩ := scanned.bound id op ho slot hslot
  obtain ⟨index, hi⟩ := List.getElem?_of_mem hslot
  exact ⟨index, binding, hb, by rw [Operation.binding?, hi]; exact hb⟩

/-- Nested operations are younger than those they are nested in, so the depth is enough. -/
theorem ends_invokeWithin (scanned : b.Scanned d)
    (running : b.Running resolve root invariant result failed) (depth : Nat)
    (args : List (Option P.Datum)) (under : b.Under root id) (ho : b.operation? id = some op)
    (hargs : args.length = op.contract.arguments.length)
    (deep : b.operations.size < id + depth) (hs : invariant live) :
    Ends (b.invokeWithin resolve depth id args) live (fun value l => invariant l ∧ result value)
      fun e l => failed e l ∨ op.Misses args e := by
  induction depth generalizing id op live with
  | zero =>
    have hlt := lt_of_operation? ho
    omega
  | succ depth ih =>
    have made : ∀ (index child : Nat), op.binding? index = some (.operation child) → ∀ live,
        invariant live → Ends (b.invokeWithin resolve depth child args) live
          (fun _ l => invariant l) failed := by
      intro index child hb live hs
      obtain ⟨new, hnew, hparent, younger, same⟩ := scanned.fitting.nested scanned.linked ho hb
      rw [← same] at hargs
      have wellMade := scanned.fitting.wellMade child new hnew
      apply (ih (under.tail ⟨index, op, ho, hb⟩) hnew hargs (by omega) hs).mono
      · exact fun _ _ h => h.1
      · exact fun _ _ h => h.resolve_right (not_misses_of_makes wellMade (.inr hparent))
    unfold invokeWithin
    rw [ho]
    dsimp only
    rw [if_pos hargs]
    apply ((ends_parameterValues running under ho made 0 op.bindings
      (scanned.bindings ho) hs).imp_failed fun _ _ h => .inl h).bind
    rintro params l ⟨hl, hlength⟩
    have hparams : params.length = op.slots.length := by simpa [Operation.bindings] using hlength
    exact ends_call running under ho (scanned.fitting.wellMade id op ho) hargs hparams hl

theorem parameterValues_congr {nested nested' : OperationId → Run P (Option P.Datum)}
    (bindings : List (Option (Binding P)))
    (same : ∀ child, some (.operation child) ∈ bindings → nested child = nested' child)
    (position : Nat) :
    parameterValues resolve nested op args position bindings =
      parameterValues resolve nested' op args position bindings := by
  induction bindings generalizing position with
  | nil => rfl
  | cons binding rest ih =>
    have first : parameterValue resolve nested op args position binding =
        parameterValue resolve nested' op args position binding := by
      match binding with
      | some (.operation child) => exact same child List.mem_cons_self
      | none | some (.constant _) | some (.argument _) => rfl
      | some (.service _ _ true) | some (.service _ _ false) => rfl
    unfold parameterValues
    rw [first, ih fun child hc => same child (List.mem_cons_of_mem binding hc)]

theorem invokeWithin_of_absent (absent : b.operation? id = none) (depth : Nat) :
    b.invokeWithin resolve depth id args = throw (.unknownOperation b.type id) := by
  cases depth with
  | zero => rfl
  | succ depth =>
    unfold invokeWithin
    rw [absent]

/-- An operation nests only operations made after it. -/
theorem lt_of_nested (linked : b.Linked) {op : Operation P} (found : b.operation? id = some op)
    {child : OperationId} (nests : some (.operation child) ∈ op.bindings) : id < child := by
  obtain ⟨slot, hslot, hb⟩ := List.mem_map.mp nests
  obtain ⟨index, hi⟩ := List.getElem?_of_mem hslot
  have holds : b.Holds id index child := ⟨op, found, by rw [Operation.binding?, hi]; exact hb⟩
  obtain ⟨new, hnew, hparent⟩ := linked.parent_of_holds holds
  exact linked.parent_lt child new id hnew hparent

/-- Any depth that is enough gives the same run, so none of them cuts it short. -/
theorem invokeWithin_eq (linked : b.Linked) {depth depth' : Nat}
    (deep : b.operations.size < id + depth) (deep' : b.operations.size < id + depth') :
    b.invokeWithin resolve depth id args = b.invokeWithin resolve depth' id args := by
  induction depth generalizing id depth' with
  | zero =>
    have absent : b.operation? id = none := Array.getElem?_eq_none (by omega)
    rw [invokeWithin_of_absent absent, invokeWithin_of_absent absent]
  | succ depth ih =>
    cases ho : b.operation? id with
    | none => rw [invokeWithin_of_absent ho, invokeWithin_of_absent ho]
    | some op =>
      have hlt := lt_of_operation? ho
      cases depth' with
      | zero => omega
      | succ depth' =>
        have nested : ∀ child, some (.operation child) ∈ op.bindings →
            b.invokeWithin resolve depth child args = b.invokeWithin resolve depth' child args := by
          intro child hc
          have younger := lt_of_nested linked ho hc
          exact ih (by omega) (by omega)
        unfold invokeWithin
        rw [ho]
        dsimp only
        rw [parameterValues_congr op.bindings nested]

theorem exists_constructor (h : b.Constructed) : ∃ top, b.constructor? = some top := by
  obtain ⟨id, op, ho, hm, hp⟩ := h
  rw [← Option.isSome_iff_exists, constructor?, Array.find?_isSome]
  refine ⟨op, Array.mem_of_getElem? ho, ?_⟩
  rw [hm, hp]
  rfl

/-- A scanned bean has an instance unless a service or an accessor under its constructor fails. -/
theorem ends_instantiate (scanned : b.Scanned d) (source : b.source = .construction)
    {top : Operation P} (htop : b.constructor? = some top)
    (running : b.Running resolve top.id invariant (·.isSome = true) failed)
    (hs : invariant live) :
    Ends (b.instantiate resolve) live (fun _ l => invariant l) failed := by
  obtain ⟨ho, hmode, -⟩ := constructor?_eq_some scanned.linked htop
  have wellMade := scanned.fitting.wellMade top.id top ho
  have run := ends_invokeWithin scanned running (b.operations.size + 1)
    (top.contract.arguments.map fun _ => none) .refl ho (by simp) (by omega) hs
  unfold instantiate
  rw [source]
  dsimp only
  rw [htop]
  dsimp only
  apply Ends.bind (run.imp_failed fun _ _ h =>
    h.resolve_right (not_misses_of_makes wellMade (.inl hmode)))
  rintro value l ⟨hl, hsome⟩
  obtain ⟨made, rfl⟩ := Option.isSome_iff_exists.mp hsome
  exact hl

end Bean

end Injector

import Injector.Proofs.Bean.Evaluation
import Injector.Proofs.Bean.Optional
import Injector.Proofs.Scan.Access

/-!
# Calls of the operations that scans make

Whatever scans were tried on a bean, a call of one of its operations goes once through the tree
under it, in post-order, and passes each accessor what the bindings say.
-/

set_option autoImplicit false

namespace Injector

variable {P : Platform}

namespace Operation

variable {id : OperationId} {c : ClassDescriptor P} {field : Field P} {operator : Party}
  {op : Operation P}

theorem mode_ofGetter (h : ofGetter id c field operator = .ok op) : op.mode = .get := by
  unfold ofGetter at h
  split at h
  · cases h
  · cases h
    rfl

theorem mode_ofInjection (h : ofInjection id c field operator = .ok op) : op.mode = .inject := by
  unfold ofInjection at h
  split at h
  · cases h
  · cases h
    rfl

/-- The value comes after the instance. -/
theorem length_arguments_ofSetter (h : ofSetter id c field operator = .ok op) :
    op.contract.arguments.length = (if op.receiver then 1 else 0) + 1 := by
  unfold ofSetter at h
  split at h
  · cases h
  · cases h
    dsimp only
    cases field.isStatic <;> rfl

end Operation

namespace Scan

section Written

variable {f : ScanFrame P} {b later : Bean P} {op : Operation P}

theorem Made.written (h : Made f b op) (writes : op.mode = .set) :
    op.contract.arguments.length = (if op.receiver then 1 else 0) + 1 := by
  cases h with
  | constructor => cases writes
  | @field m call _ allowed access built =>
    cases call with
    | newGetter => cases (Operation.mode_ofGetter built).symm.trans writes
    | newSetter => exact Operation.length_arguments_ofSetter built
  | method access built =>
    obtain ⟨-, -, -, -, mode⟩ := Operation.fresh_ofMethod built
    cases mode.symm.trans writes
  | injection access built => cases (Operation.mode_ofInjection built).symm.trans writes

theorem Change.furnished (h : Change f b later) (furnished : b.Furnished) : later.Furnished := by
  cases h with
  | add made => exact furnished.append made.written
  | bind found ready slotAt plain fits known done =>
    exact furnished.put found (Operation.grows_bind done)
  | @nest r op bound new slot found grown ready slotAt parameter nested done =>
    obtain ⟨fresh, parent, -⟩ := nested.fresh
    have reads : new.mode ≠ .set := (fresh.wellMade.makes (.inr (by rw [parent]; rfl))).2
    exact (furnished.append fun writes => absurd writes reads).put
      (Bean.operation?_append_of_some found new) (Operation.grows_bind done)
  | close => exact furnished

theorem Reaches.furnished (h : Reaches f b later) (furnished : b.Furnished) : later.Furnished :=
  h.keeps (fun _ _ change => change.furnished) furnished

end Written

end Scan

namespace Attempt

theorem sound_after (attempts : List (Attempt P)) {b : Bean P} (linked : b.Linked)
    (fitting : b.Fitting) (furnished : b.Furnished) :
    (after attempts b).Linked ∧ (after attempts b).Fitting ∧ (after attempts b).Furnished := by
  induction attempts generalizing b with
  | nil => exact ⟨linked, fitting, furnished⟩
  | cons a rest ih =>
    obtain ⟨f, reached⟩ := a.follows_run linked
    have reaches : Scan.Reaches f b (a.bean b) :=
      (List.pairwise_cons.mp reached).1 (a.bean b) (by simp)
    exact ih (reaches.linked linked) (reaches.fitting fitting) (reaches.furnished furnished)

/-- A call runs what is under the operation once, depth first and from left to right, and each
accessor receives what its bindings say; if something fails, the call ends there. -/
theorem evaluates_after (attempts : List (Attempt P)) (c : ClassDescriptor P) (source : Source P)
    (installer : Party) (resolve : Resolver P) {id : OperationId} {op : Operation P}
    {args : List (Option P.Datum)}
    (found : (after attempts (.fresh c source installer)).operation? id = some op)
    (complete : args.length = op.contract.arguments.length) (live : Live P) :
    (after attempts (.fresh c source installer)).PostOrdered id ∧
      ∃ deeds, (after attempts (.fresh c source installer)).Evaluates resolve id op args live deeds
        ((after attempts (.fresh c source installer)).invoke resolve id args live) := by
  have empty : (Bean.fresh c source installer).operations = #[] := rfl
  have unfurnished : (Bean.fresh c source installer).Furnished := by
    intro id op found
    simp [Bean.operation?, empty] at found
  obtain ⟨linked, fitting, furnished⟩ :=
    sound_after attempts (.of_empty empty) (.of_empty empty) unfurnished
  exact ⟨Bean.postOrdered linked found,
    Bean.evaluates_invoke linked fitting furnished found complete live⟩

end Attempt

def Bean.wheeledCart : Bean .bare :=
  Attempt.after [⟨.robbed, none⟩] (.fresh .cart .construction .application)

theorem Attempt.evaluates_after_cart : ∃ op, Bean.wheeledCart.operation? 0 = some op ∧
    op.contract.arguments.length = 1 ∧ Bean.wheeledCart.postorder 0 = [1, 0] ∧
      (Bean.wheeledCart.invoke Container.workshop.resolver 0 [none] .idle).1.isOk = true ∧
        Bean.wheeledCart.PostOrdered 0 ∧ ∃ deeds, Bean.wheeledCart.Evaluates
          Container.workshop.resolver 0 op [none] .idle deeds
            (Bean.wheeledCart.invoke Container.workshop.resolver 0 [none] .idle) := by
  have made : (Bean.wheeledCart.operation? 0).map (·.contract.arguments.length) = some 1 := by
    decide +kernel
  obtain ⟨op, found, length⟩ := Option.map_eq_some_iff.mp made
  have complete : ([none] : List (Option Identity)).length = op.contract.arguments.length :=
    length.symm
  have order : Bean.wheeledCart.postorder 0 = [1, 0] := by decide +kernel
  obtain ⟨ordered, evaluates⟩ := evaluates_after [⟨.robbed, none⟩] .cart .construction .application
    Container.workshop.resolver found complete .idle
  exact ⟨op, found, length, order, by decide +kernel, ordered, evaluates⟩

end Injector

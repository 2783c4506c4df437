import Injector.Proofs.Ends
import Injector.Service.Resolution

/-!
# Code that asks for services

What makes a service, and what runs when an operation is called, asks for services and changes the
world, and does nothing else. So what every answer and every change of the world keeps is kept
throughout, and resolvers that answer the same wherever it holds are the same to it.
-/

set_option autoImplicit false

namespace Injector

variable {P : Platform} {α β : Type}

namespace Run

def Agree (invariant : Live P → Prop) (step step' : Run P α) : Prop :=
  ∀ live, invariant live → step live = step' live ∧ invariant (step live).2

variable {invariant : Live P → Prop} {step step' : Run P α}

theorem agree_pure (a : α) : Agree invariant (pure a : Run P α) (pure a) :=
  fun _ hl => ⟨rfl, hl⟩

theorem agree_throw (e : Error) : Agree invariant (throw e : Run P α) (throw e) :=
  fun _ hl => ⟨rfl, hl⟩

theorem Agree.bind {next next' : α → Run P β} (h : Agree invariant step step')
    (hn : ∀ a, Agree invariant (next a) (next' a)) :
    Agree invariant (step >>= next) (step' >>= next') := by
  intro live hl
  obtain ⟨same, kept⟩ := h live hl
  rw [bind_apply, bind_apply, ← same]
  rcases ran : (step live : Except Error α × Live P) with ⟨e | a, l⟩
  · rw [ran] at kept
    exact ⟨rfl, kept⟩
  · rw [ran] at kept
    exact hn a l kept

end Run

open Run

def Live.Worldly (invariant : Live P → Prop) : Prop :=
  ∀ live world, invariant live → invariant { live with world }

def Services.Steady (resolve : Resolver P) (stack : List Address) : Prop :=
  ∀ party key (live : Live P), live.inFlight = stack → (resolve party key live).2.inFlight = stack

theorem Services.Steady.agree {resolve : Resolver P} {stack : List Address}
    (steady : Steady resolve stack) (party : Party) (key : DependencyKey) :
    Agree (fun live : Live P => live.inFlight = stack) (resolve party key) (resolve party key) :=
  fun live hs => ⟨rfl, steady party key live hs⟩

section Asking

variable {invariant : Live P → Prop} {resolve resolve' : Resolver P}

theorem agree_resolveOptional {party : Party} {key : DependencyKey}
    (h : Agree invariant (resolve party key) (resolve' party key)) :
    Agree invariant (resolveOptional resolve party key) (resolveOptional resolve' party key) := by
  intro live hl
  obtain ⟨same, kept⟩ := h live hl
  unfold resolveOptional
  rw [← same]
  rcases ran : (resolve party key live : Except Error P.Datum × Live P) with ⟨e | value, l⟩
  · rw [ran] at kept
    refine ⟨rfl, ?_⟩
    dsimp only
    split
    · exact kept
    · exact kept
  · rw [ran] at kept
    exact ⟨rfl, kept⟩

/-- Code goes on from each answer as it would from the other resolver's. -/
theorem Code.agree_run (worldly : Live.Worldly invariant)
    (h : ∀ party key, Agree invariant (resolve party key) (resolve' party key))
    (code : Code P α) : Agree invariant (code.run resolve) (code.run resolve') := by
  have held : ∀ (d : Dialog (ServiceCall P) ServiceCall.Reply (Except Error α × P.World))
      (live : Live P), invariant live →
      d.run (answer resolve) live = d.run (answer resolve') live ∧
        invariant (d.run (answer resolve) live).2 := by
    intro d
    induction d with
    | done result => exact fun live hl => ⟨rfl, hl⟩
    | ask call next ih =>
      intro live hl
      obtain ⟨same, kept⟩ := h call.party call.key _ (worldly live call.world hl)
      have answered : answer resolve call live = answer resolve' call live := by
        unfold answer
        rw [same]
      rw [Dialog.run_ask, Dialog.run_ask]
      show (next (answer resolve call live).1).run (answer resolve) (answer resolve call live).2 =
          (next (answer resolve' call live).1).run (answer resolve')
            (answer resolve' call live).2 ∧
        invariant ((next (answer resolve call live).1).run (answer resolve)
          (answer resolve call live).2).2
      rw [← answered]
      exact ih _ _ kept
  intro live hl
  obtain ⟨same, kept⟩ := held (code live.world) live hl
  unfold run
  rw [← same]
  exact ⟨rfl, worldly _ _ kept⟩

theorem Code.steady_run {stack : List Address} (code : Code P α)
    (steady : Services.Steady resolve stack) {live : Live P} (hs : live.inFlight = stack) :
    (code.run resolve live).2.inFlight = stack :=
  (agree_run (fun _ _ hl => hl) steady.agree code live hs).2

namespace Bean

variable {nested nested' : OperationId → Run P (Option P.Datum)}

theorem agree_parameterValue (h : ∀ party key, Agree invariant (resolve party key)
    (resolve' party key)) (hn : ∀ id, Agree invariant (nested id) (nested' id))
    (op : Operation P) (args : List (Option P.Datum)) (index : Nat)
    (binding : Option (Binding P)) :
    Agree invariant (parameterValue resolve nested op args index binding)
      (parameterValue resolve' nested' op args index binding) := by
  match binding with
  | none => exact agree_throw _
  | some (.constant value) => exact agree_pure value
  | some (.argument argument) => exact agree_pure _
  | some (.operation id) => exact hn id
  | some (.service key party true) => exact (h party key).bind fun _ => agree_pure _
  | some (.service key party false) => exact agree_resolveOptional (h party key)

theorem agree_parameterValues (h : ∀ party key, Agree invariant (resolve party key)
    (resolve' party key)) (hn : ∀ id, Agree invariant (nested id) (nested' id))
    (op : Operation P) (args : List (Option P.Datum)) (index : Nat)
    (bindings : List (Option (Binding P))) :
    Agree invariant (parameterValues resolve nested op args index bindings)
      (parameterValues resolve' nested' op args index bindings) := by
  induction bindings generalizing index with
  | nil => exact agree_pure []
  | cons binding rest ih =>
    unfold parameterValues
    apply (agree_parameterValue h hn op args index binding).bind
    intro value
    exact (ih (index + 1)).bind fun _ => agree_pure _

theorem agree_invokeWithin (worldly : Live.Worldly invariant)
    (h : ∀ party key, Agree invariant (resolve party key) (resolve' party key)) (b : Bean P)
    (depth : Nat) (id : OperationId) (args : List (Option P.Datum)) :
    Agree invariant (b.invokeWithin resolve depth id args)
      (b.invokeWithin resolve' depth id args) := by
  induction depth generalizing id with
  | zero => exact agree_throw _
  | succ depth ih =>
    unfold invokeWithin
    split
    · exact agree_throw _
    · split
      · apply (agree_parameterValues h ih _ args 0 _).bind
        exact fun params => Code.agree_run worldly h _
      · exact agree_throw _

theorem agree_instantiate (worldly : Live.Worldly invariant)
    (h : ∀ party key, Agree invariant (resolve party key) (resolve' party key)) (b : Bean P) :
    Agree invariant (b.instantiate resolve) (b.instantiate resolve') := by
  unfold instantiate
  split
  · exact agree_pure _
  · exact agree_throw _
  · split
    · exact agree_throw _
    · apply (agree_invokeWithin worldly h b _ _ _).bind
      intro value
      cases value with
      | none => exact agree_throw _
      | some value => exact agree_pure value

end Bean

end Asking

end Injector

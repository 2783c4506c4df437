import Injector.Proofs.Container.Invocation
import Injector.Proofs.Service.Fault

/-!
# Services that a parameter can do without

Such a parameter is null when its service cannot be had and the error tells of a missing service or
of a cycle. Whether that is the service itself or one far below it makes no difference; all other
failures end the call.
-/

set_option autoImplicit false

namespace Injector

variable {P : Platform}

namespace Services

variable {s : Services P} {listing : Listing} {live : Live P} {a : Address} {e : Error}

/-- What may be behind it when the service at `a` is passed as null. -/
inductive Lacks (s : Services P) (listing : Listing) (e : Error) (live : Live P) (a : Address) :
    Prop
  | absent (unregistered : s.find? a = none)
  /-- It comes back to a service that was in flight before. -/
  | returning {path : List Address} {last : Live P} {c : Address}
    (descent : s.Descent listing e live a path last c) (before : live.isInFlight c = true)
    (told : e = .circularDependency (last.cycle c))
  /-- It is registered itself, but not all that it is made from. -/
  | needing {path : List Address} {last : Live P} {c : Address}
    (descent : s.Descent listing e live a path last c) (below : path ≠ [])
    (unregistered : s.find? c = none)
    (told : e = (s.directory listing []).notRegistered c.party c.key)
  /-- The cycle lies below it. -/
  | looping {path : List Address} {last : Live P} {c : Address}
    (descent : s.Descent listing e live a path last c) (before : live.isInFlight c = false)
    (entered : path.any (· == c) = true) (told : e = .circularDependency (last.cycle c))
  /-- Code of its own, or of one that it is made from, reports such an error. -/
  | raising {path : List Address} {last : Live P} {c : Address} {r : Registration P}
    (descent : s.Descent listing e live a path last c) (found : s.find? c = some r)
    (own : r.Raises (s.resolve listing) (last.inFlight ++ [c]) e)

theorem lacks_of_absorbed (proper : s.Proper live.inFlight)
    (failed : (s.resolve listing a.party a.key).FailsWith live e) (absorbed : e.isAbsorbed = true) :
    s.Lacks listing e live a := by
  obtain ⟨path, last, c, descent, fault⟩ := exists_fault proper failed absorbed
  cases fault with
  | missing unregistered told =>
    cases descent with
    | here => exact .absent unregistered
    | under failed found free asks inside deeper =>
      exact .needing (.under failed found free asks inside deeper) (List.cons_ne_nil _ _)
        unregistered told
  | refused inFlight told =>
    -- It was in flight from the start, or it is on the way that was taken down to it.
    rw [Live.isInFlight, descent.inFlight, List.any_append, Bool.or_eq_true] at inFlight
    rcases inFlight with before | entered
    · exact .returning descent before told
    · cases before : live.isInFlight c with
      | true => exact .returning descent before told
      | false => exact .looping descent before entered told
  | raised found free own => exact .raising descent found own

end Services

namespace Bean

variable {b : Bean P} {resolve : Resolver P} {op : Operation P} {args : List (Option P.Datum)}
  {id : OperationId} {index : Nat} {nested : OperationId → Run P (Option P.Datum)}

def firstValues (b : Bean P) (resolve : Resolver P) (op : Operation P)
    (args : List (Option P.Datum)) (count : Nat) : Run P (List (Option P.Datum)) :=
  parameterValues resolve (fun nested => b.invoke resolve nested args) op args 0
    (op.bindings.take count)

def callWith (b : Bean P) (resolve : Resolver P) (op : Operation P) (args : List (Option P.Datum))
    (count : Nat) (values : List (Option P.Datum)) : Run P (Option P.Datum) := do
  let others ← parameterValues resolve (fun nested => b.invoke resolve nested args) op args count
    (op.bindings.drop count)
  (op.call args (values ++ others)).run resolve

theorem parameterValues_append (position : Nat) (bindings others : List (Option (Binding P))) :
    parameterValues resolve nested op args position (bindings ++ others) = do
      let values ← parameterValues resolve nested op args position bindings
      let later ← parameterValues resolve nested op args (position + bindings.length) others
      return values ++ later := by
  induction bindings generalizing position with
  | nil => simp [parameterValues]
  | cons binding rest ih =>
    have shift : position + 1 + rest.length = position + (rest.length + 1) := by omega
    simp [parameterValues, ih, shift]

theorem bindings_split {binding : Binding P} (bound : op.binding? index = some binding) :
    op.bindings = op.bindings.take index ++ some binding :: op.bindings.drop (index + 1) ∧
      (op.bindings.take index).length = index := by
  obtain ⟨slot, at_, holds⟩ := Option.bind_eq_some_iff.mp bound
  have entry : op.bindings[index]? = some (some binding) := by
    rw [Operation.bindings, List.getElem?_map, at_, Option.map_some, holds]
  obtain ⟨inBounds, same⟩ := List.getElem?_eq_some_iff.mp entry
  refine ⟨?_, by rw [List.length_take]; omega⟩
  rw [← same, ← List.drop_eq_getElem_cons inBounds, List.take_append_drop]

/-- A call as it is seen from one of its parameters. -/
theorem invoke_eq (linked : b.Linked) (found : b.operation? id = some op)
    (complete : args.length = op.contract.arguments.length) {binding : Binding P}
    (bound : op.binding? index = some binding) :
    b.invoke resolve id args = b.firstValues resolve op args index >>= fun values =>
      parameterValue resolve (fun nested => b.invoke resolve nested args) op args index
        (some binding) >>= fun value =>
          b.callWith resolve op args (index + 1) (values ++ [value]) := by
  obtain ⟨split, length⟩ := bindings_split bound
  let nested := fun child => b.invoke resolve child args
  have values : parameterValues resolve nested op args 0 op.bindings =
      b.firstValues resolve op args index >>= fun first =>
        parameterValue resolve nested op args index (some binding) >>= fun value =>
          parameterValues resolve nested op args (index + 1) (op.bindings.drop (index + 1)) >>=
            fun others => pure ((first ++ [value]) ++ others) := by
    conv_lhs => rw [split]
    rw [parameterValues_append, length, Nat.zero_add]
    simp [firstValues, nested, parameterValues]
  have call : b.invoke resolve id args = parameterValues resolve nested op args 0 op.bindings >>=
      fun params => (op.call args params).run resolve := by
    have same : ∀ child, some (.operation child) ∈ op.bindings →
        b.invokeWithin resolve b.operations.size child args = nested child := by
      intro child nests
      have younger := lt_of_nested linked found nests
      exact invokeWithin_eq linked (by omega) (by omega)
    conv_lhs => unfold invoke invokeWithin
    rw [found]
    dsimp only
    rw [if_pos complete, parameterValues_congr op.bindings same]
  rw [call, values]
  simp [callWith, nested]

structure Spares (b : Bean P) (s : Services P) (listing : Listing) (id : OperationId)
    (op : Operation P) (args : List (Option P.Datum)) (index : Nat) (a : Address) (live : Live P) :
    Prop where
  /-- A parameter before it ends the call. -/
  earlier : ∀ e l, b.firstValues (s.resolve listing) op args index live = (.error e, l) →
    b.invoke (s.resolve listing) id args live = (.error e, l)
  /-- What is in flight when the service is asked for was so when the call began. -/
  steady : ∀ values l, b.firstValues (s.resolve listing) op args index live = (.ok values, l) →
    l.inFlight = live.inFlight
  given : ∀ values l value l',
    b.firstValues (s.resolve listing) op args index live = (.ok values, l) →
    s.resolve listing a.party a.key l = (.ok value, l') →
      b.invoke (s.resolve listing) id args live =
        b.callWith (s.resolve listing) op args (index + 1) (values ++ [some value]) l'
  null : ∀ values l e l',
    b.firstValues (s.resolve listing) op args index live = (.ok values, l) →
    s.resolve listing a.party a.key l = (.error e, l') → e.isAbsorbed = true →
      s.Lacks listing e l a ∧ b.invoke (s.resolve listing) id args live =
        b.callWith (s.resolve listing) op args (index + 1) (values ++ [none]) l'
  failed : ∀ values l e l', b.firstValues (s.resolve listing) op args index live = (.ok values, l) →
    s.resolve listing a.party a.key l = (.error e, l') → e.isAbsorbed = false →
      b.invoke (s.resolve listing) id args live = (.error e, l')

variable {s : Services P} {listing : Listing} {live : Live P} {a : Address}

theorem steady_firstValues (steady : Services.Steady resolve live.inFlight)
    {values : List (Option P.Datum)} {l : Live P}
    (ran : b.firstValues resolve op args index live = (.ok values, l)) :
    l.inFlight = live.inFlight := by
  let kept (l : Live P) : Prop := l.inFlight = live.inFlight
  have worldly : Live.Worldly kept := fun _ _ h => h
  have calls : ∀ child,
      Run.Agree kept (b.invoke resolve child args) (b.invoke resolve child args) := fun child =>
    agree_invokeWithin worldly steady.agree b (b.operations.size + 1) child args
  have agrees := agree_parameterValues steady.agree calls op args 0 (op.bindings.take index)
  have after := (agrees live rfl).2
  rw [show parameterValues _ _ _ _ _ _ live = _ from ran] at after
  exact after

/-- Where its service cannot be had, the parameter is null if the error is one of those that a
missing service and a cycle cause, and the call fails with any other. So it is for each call, those
of nested operations included. -/
theorem spares_optional (linked : b.Linked) (proper : s.Proper live.inFlight)
    (found : b.operation? id = some op) (complete : args.length = op.contract.arguments.length)
    (bound : op.binding? index = some (.service a.key a.party false)) :
    b.Spares s listing id op args index a live := by
  have call : b.invoke (s.resolve listing) id args live = _ :=
    congrFun (invoke_eq linked found complete bound) live
  have meets : ∀ values l, b.firstValues (s.resolve listing) op args index live = (.ok values, l) →
      b.invoke (s.resolve listing) id args live =
        (resolveOptional (s.resolve listing) a.party a.key >>= fun value =>
          b.callWith (s.resolve listing) op args (index + 1) (values ++ [value])) l := by
    intro values l first
    rw [call, bind_apply, first]
    rfl
  have steady : ∀ values l, b.firstValues (s.resolve listing) op args index live = (.ok values, l) →
      l.inFlight = live.inFlight :=
    fun _ _ first => steady_firstValues (Services.steady_resolve proper) first
  constructor
  case earlier =>
    intro e l first
    rw [call, bind_apply, first]
  case steady => exact steady
  case given =>
    intro values l value l' first ran
    rw [meets values l first, bind_apply, resolveOptional, ran]
  case null =>
    intro values l e l' first ran absorbed
    have proper' : s.Proper l.inFlight := by
      rw [steady values l first]
      exact proper
    refine ⟨Services.lacks_of_absorbed proper' ⟨l', ran⟩ absorbed, ?_⟩
    have spared : (e.isNotRegistered || e.isCircular) = true := absorbed
    rw [meets values l first, bind_apply, resolveOptional, ran]
    dsimp only
    rw [if_pos spared]
  case failed =>
    intro values l e l' first ran kept
    have other : ¬(e.isNotRegistered || e.isCircular) = true := Bool.eq_false_iff.mp kept
    rw [meets values l first, bind_apply, resolveOptional, ran]
    dsimp only
    rw [if_neg other]

end Bean

namespace DependencyKey

def wheel : DependencyKey := ⟨⟨.numbered 1, "Wheel"⟩, none⟩

def tyre : DependencyKey := ⟨⟨.numbered 2, "Tyre"⟩, none⟩

end DependencyKey

def Factory.wheelwright : Factory .bare := fun world =>
  .ask ⟨.application, .tyre, world⟩ fun (reply, world) => .done (reply, world)

def Builder.workshop : Builder .bare :=
  ({ make := Deployment.empty.container.make } : Builder .bare).register
    ⟨.application, .wheel⟩ (.transient .wheelwright)

def Container.workshop : Container .bare := Builder.workshop.container

theorem Builder.build_workshop : workshop.build () = (.ok .workshop, ()) := by
  have single : (applicationGraph workshop.services).keys = [.wheel] := List.mergeSort_singleton _
  have checked : (applicationGraph workshop.services).check = .ok ⟨⟩ := by
    rw [Graph.check, single]
    rfl
  refine build_of_ends (d := ⟨.workshop, ()⟩) rfl ?_
  rw [ends_buildBeans_iff]
  refine ⟨fun pending hp => ?_, fun e he => by cases he⟩
  cases hp
  refine ⟨fun _ _ => rfl, fun e he => ?_⟩
  have clear := checked.symm.trans he
  cases clear

def Bean.cart : Bean .bare :=
  ((Deployment.mk Container.workshop ()).scan (.fresh .cart .construction .application) none).1.2

theorem Container.hosts_cart : workshop.Hosts .cart :=
  .scanned (History.start (c := workshop) ()) rfl

def Live.idle : Live .bare := { world := () }

def Error.noTyre : Error :=
  Container.workshop.directory.notRegistered .application .tyre

theorem Bean.spares_optional_cart : cart.Linked ∧
    Container.workshop.services.Proper Live.idle.inFlight ∧ ∃ op, cart.operation? 0 = some op ∧
      op.contract.arguments.length = 1 ∧
      op.binding? 0 = some (.service .wheel .application false) ∧
        cart.Spares Container.workshop.services .inOrder 0 op [none] 0 ⟨.application, .wheel⟩
          .idle := by
  have linked : cart.Linked := (Deployment.scanned_scan _ _ _ _ _ rfl).2.linked
  have proper := Services.proper_nil Container.workshop.services
  exact ⟨linked, proper, _, rfl, rfl, rfl, spares_optional linked proper rfl rfl rfl⟩

/-- Wheels are registered and nothing is in flight, yet the cart is made without one: the error
that ends the making of the wheel tells of a missing service. -/
theorem Bean.wheel_spared_cart : Builder.workshop.build () = (.ok .workshop, ()) ∧
    Container.workshop.Hosts cart ∧ Live.idle.inFlight = [] ∧
      Container.workshop.services.contains ⟨.application, .wheel⟩ = true ∧
        ∃ op later, cart.operation? 0 = some op ∧
          op.binding? 0 = some (.service .wheel .application false) ∧
            Container.workshop.resolver .application .wheel .idle =
              (.error .noTyre, later) ∧
            cart.invoke Container.workshop.resolver 0 [none] .idle =
              cart.callWith Container.workshop.resolver op [none] 1 [none] later ∧
            cart.callWith Container.workshop.resolver op [none] 1 [none] later =
              (.ok (some (.numbered 0)), later) :=
  ⟨Builder.build_workshop, Container.hosts_cart, rfl, rfl, _, _, rfl, rfl, rfl, rfl, rfl⟩

end Injector

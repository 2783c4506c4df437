import Injector.Proofs.Service.Depth
import Injector.Proofs.Service.Resolution

/-!
# Where a failure of a service comes from

Factories, accessors and beans hand on the failures of what they ask for, so the service that failed
first may lie any number of services below the one that was asked for. There it was missing, or in
flight already, or its own code gave up.
-/

set_option autoImplicit false

namespace Injector

variable {P : Platform}

def Run.FailsWith {α : Type} (step : Run P α) (live : Live P) (e : Error) : Prop :=
  ∃ later, step live = (.error e, later)

theorem Run.failsWith_of_result {α : Type} {step : Run P α} {live : Live P} {e : Error}
    (h : (step live : Except Error α × Live P).1 = .error e) : step.FailsWith live e :=
  ⟨_, Prod.ext h rfl⟩

open Services (Steady)

namespace Code

inductive Poses {α : Type} (resolve : Resolver P) :
    Dialog (ServiceCall P) ServiceCall.Reply (Except Error α × P.World) → Live P →
      ServiceCall P → Live P → Prop
  | now {call : ServiceCall P}
    {next : call.Reply → Dialog (ServiceCall P) ServiceCall.Reply (Except Error α × P.World)}
    {live : Live P} : Poses resolve (.ask call next) live call { live with world := call.world }
  | later {asked call : ServiceCall P}
    {next : asked.Reply → Dialog (ServiceCall P) ServiceCall.Reply (Except Error α × P.World)}
    {live inner : Live P}
    (rest : Poses resolve (next (answer resolve asked live).1) (answer resolve asked live).2 call
      inner) : Poses resolve (.ask asked next) live call inner

variable {α : Type} {resolve : Resolver P} {stack : List Address}

/-- What is in flight stays so from one question to the next. -/
theorem Poses.inFlight
    {dialog : Dialog (ServiceCall P) ServiceCall.Reply (Except Error α × P.World)}
    {live inner : Live P} {call : ServiceCall P} (h : Poses resolve dialog live call inner)
    (steady : Steady resolve stack) (hs : live.inFlight = stack) :
    inner.inFlight = stack := by
  induction h with
  | now => exact hs
  | @later asked call next live inner _ ih =>
    exact ih (steady asked.party asked.key { live with world := asked.world } hs)

end Code

namespace Registration

inductive Executes (r : Registration P) (stack : List Address) :
    {α : Type} → Code P α → Live P → Prop
  | factory {make : Factory P} {start : Live P}
    (provider : r.provider = .singleton make ∨ r.provider = .transient make)
    (begun : start.inFlight = stack) : Executes r stack make start
  | accessor {bean : Bean P} {op : Operation P} {values : List (Option P.Datum)} {start : Live P}
    (provider : r.provider = .bean bean) (listed : op ∈ bean.operations)
    (begun : start.inFlight = stack) : Executes r stack (op.accessor.accessor values) start

theorem Executes.begun {r : Registration P} {stack : List Address} {α : Type} {code : Code P α}
    {start : Live P} (h : r.Executes stack code start) : start.inFlight = stack := by
  cases h with
  | factory _ begun => exact begun
  | accessor _ _ begun => exact begun

/-- While it is made, the service asks for the one at `b`: code that runs does, or its bean, which
cannot do without it. -/
inductive Asks (r : Registration P) (resolve : Resolver P) (stack : List Address) (b : Address)
    (inner : Live P) : Prop
  | code {α : Type} {code : Code P α} {start : Live P} {call : ServiceCall P}
    (executes : r.Executes stack code start)
    (posed : Code.Poses resolve (code start.world) start call inner)
    (address : b = ⟨call.party, call.key⟩)
  | bean {bean : Bean P} {op : Operation P} (provider : r.provider = .bean bean)
    (listed : op ∈ bean.operations)
    (bound : some (.service b.key b.party true) ∈ op.bindings)

/-- Code that runs while the service is made fails by itself, with an error that it was not given
in reply. -/
inductive Raises (r : Registration P) (resolve : Resolver P) (stack : List Address) (e : Error) :
    Prop
  | code {α : Type} {code : Code P α} {start : Live P} (executes : r.Executes stack code start)
    (failed : (code.run resolve).FailsWith start e)
    (own : ∀ call inner, Code.Poses resolve (code start.world) start call inner →
      ¬ (resolve call.party call.key).FailsWith inner e)

end Registration

namespace Bean

variable {b : Bean P} {op : Operation P} {resolve : Resolver P} {stack : List Address}
  {args : List (Option P.Datum)} {live : Live P}

/-- What fails in the bean with an error that an optional parameter absorbs: a service that it
cannot do without, or an accessor. -/
def Owes (b : Bean P) (resolve : Resolver P) (stack : List Address) (e : Error) : Prop :=
  ∃ op ∈ b.operations,
    (∃ key party inner, some (.service key party true) ∈ op.bindings ∧ inner.inFlight = stack ∧
      (resolve party key).FailsWith inner e) ∨
    ∃ values start, start.inFlight = stack ∧
      ((op.accessor.accessor values).run resolve).FailsWith start e

def Owing {α : Type} (b : Bean P) (resolve : Resolver P) (stack : List Address) (step : Run P α) :
    Prop :=
  ∀ live : Live P, live.inFlight = stack → Ends step live (fun _ l => l.inFlight = stack)
    fun e _ => e.isAbsorbed = true → b.Owes resolve stack e

variable {α β : Type} {step : Run P α}

theorem owing_pure (a : α) : b.Owing resolve stack (pure a : Run P α) := fun _ hs => hs

theorem owing_throw {e : Error} (h : e.isAbsorbed = false) :
    b.Owing resolve stack (throw e : Run P α) := by
  intro live hs absorbed
  rw [h] at absorbed
  cases absorbed

theorem Owing.bind {next : α → Run P β} (h : b.Owing resolve stack step)
    (hn : ∀ a, b.Owing resolve stack (next a)) : b.Owing resolve stack (step >>= next) :=
  fun live hs => (h live hs).bind fun a l hl => hn a l hl

theorem owing_parameterValue (steady : Steady resolve stack) (listed : op ∈ b.operations)
    {nested : OperationId → Run P (Option P.Datum)}
    (made : ∀ child, b.Owing resolve stack (nested child)) (position : Nat)
    {binding : Option (Binding P)} (bound : binding ∈ op.bindings) :
    b.Owing resolve stack (parameterValue resolve nested op args position binding) := by
  match binding with
  | none => exact owing_throw rfl
  | some (.constant value) => exact owing_pure value
  | some (.argument argument) => exact owing_pure _
  | some (.operation child) => exact made child
  | some (.service key party true) =>
    have asks : b.Owing resolve stack (resolve party key) := by
      intro live hs
      have kept := steady party key live hs
      apply (Ends.as_run (resolve party key) live).mono
      · intro value l ran
        rw [ran] at kept
        exact kept
      · exact fun e l ran _ => ⟨op, listed, .inl ⟨key, party, live, bound, hs, l, ran⟩⟩
    exact asks.bind fun _ => owing_pure _
  | some (.service key party false) =>
    intro live hs
    have kept := steady party key live hs
    -- What this parameter absorbs does not reach the bean, and nothing else is absorbed by others.
    have spared : Ends (resolve party key) live (fun _ l => l.inFlight = stack) fun e l =>
        if e.isNotRegistered || e.isCircular then l.inFlight = stack
        else e.isAbsorbed = true → b.Owes resolve stack e := by
      apply (Ends.as_run (resolve party key) live).mono
      · intro value l ran
        rw [ran] at kept
        exact kept
      · intro e l ran
        rw [ran] at kept
        split
        · exact kept
        · exact fun absorbed => absurd absorbed ‹_›
    exact ends_resolveOptional spared

theorem owing_parameterValues (steady : Steady resolve stack) (listed : op ∈ b.operations)
    {nested : OperationId → Run P (Option P.Datum)}
    (made : ∀ child, b.Owing resolve stack (nested child)) (position : Nat)
    (bindings : List (Option (Binding P))) (bound : bindings ⊆ op.bindings) :
    b.Owing resolve stack (parameterValues resolve nested op args position bindings) := by
  induction bindings generalizing position with
  | nil => exact owing_pure []
  | cons binding rest ih =>
    rw [List.cons_subset] at bound
    exact (owing_parameterValue steady listed made position bound.1).bind fun _ =>
      (ih (position + 1) bound.2).bind fun _ => owing_pure _

theorem owing_call (steady : Steady resolve stack) (listed : op ∈ b.operations)
    (params : List (Option P.Datum)) :
    b.Owing resolve stack ((op.call args params).run resolve) := by
  have invokes : ∀ values, b.Owing resolve stack ((op.accessor.invoke values).run resolve) := by
    intro values
    unfold MemberAccessor.invoke
    split
    · intro live hs
      have kept := Code.steady_run (op.accessor.accessor values) steady hs
      apply (Ends.as_run ((op.accessor.accessor values).run resolve) live).mono
      · intro value l ran
        rw [ran] at kept
        exact kept
      · exact fun e l ran _ => ⟨op, listed, .inr ⟨values, live, hs, l, ran⟩⟩
    · exact owing_throw rfl
  unfold Operation.call
  dsimp only
  split
  · split
    · exact owing_throw rfl
    · exact invokes _
  · exact invokes _

theorem owing_invokeWithin (steady : Steady resolve stack) (depth : Nat) (id : OperationId) :
    b.Owing resolve stack (b.invokeWithin resolve depth id args) := by
  induction depth generalizing id with
  | zero => exact owing_throw rfl
  | succ depth ih =>
    unfold invokeWithin
    split
    · exact owing_throw rfl
    next op found =>
      have listed : op ∈ b.operations := Array.mem_of_getElem? found
      split
      · exact (owing_parameterValues steady listed ih 0 op.bindings
          (List.Subset.refl _)).bind fun params => owing_call steady listed params
      · exact owing_throw rfl

theorem owing_instantiate (steady : Steady resolve stack) :
    b.Owing resolve stack (b.instantiate resolve) := by
  unfold instantiate
  split
  · exact owing_pure _
  · exact owing_throw rfl
  · split
    · exact owing_throw rfl
    · refine (owing_invokeWithin steady _ _).bind fun value => ?_
      cases value with
      | none => exact owing_throw rfl
      | some value => exact owing_pure value

end Bean

namespace Services

variable {s : Services P} {listing : Listing} {resolve : Resolver P} {r : Registration P}
  {live last : Live P}  {a b : Address} {stack path : List Address} {e : Error}

def Answers (r : Registration P) (resolve : Resolver P) (stack : List Address) (e : Error) : Prop :=
  (∃ b inner, r.Asks resolve stack b inner ∧ inner.inFlight = stack ∧
    (resolve b.party b.key).FailsWith inner e) ∨ r.Raises resolve stack e

theorem answers_of_code (steady : Steady resolve stack) {α : Type} {code : Code P α}
    (executes : r.Executes stack code live) (failed : (code.run resolve).FailsWith live e) :
    Answers r resolve stack e := by
  -- Code may go on after a failure and give up later with the same error: if any reply was this
  -- error, the service asked for is taken to be the reason.
  by_cases asked : ∃ call inner, Code.Poses resolve (code live.world) live call inner ∧
      (resolve call.party call.key).FailsWith inner e
  · obtain ⟨call, inner, posed, fails⟩ := asked
    exact .inl ⟨⟨call.party, call.key⟩, inner, .code executes posed rfl,
      posed.inFlight steady executes.begun, fails⟩
  · refine .inr (.code executes failed fun call inner posed fails => asked ?_)
    exact ⟨call, inner, posed, fails⟩

theorem answers_of_bean {bean : Bean P} (steady : Steady resolve stack)
    (provider : r.provider = .bean bean) (begun : live.inFlight = stack)
    (failed : (bean.instantiate resolve).FailsWith live e) (absorbed : e.isAbsorbed = true) :
    Answers r resolve stack e := by
  obtain ⟨later, ran⟩ := failed
  obtain ⟨op, listed, owed⟩ :=
    (Bean.owing_instantiate steady live begun).of_error ran absorbed
  rcases owed with ⟨key, party, inner, bound, hs, fails⟩ | ⟨values, start, hs, fails⟩
  · exact .inl ⟨⟨party, key⟩, inner, .bean provider listed bound, hs, fails⟩
  · exact answers_of_code steady (.accessor provider listed hs) fails

/-- An instance that there is already does not fail. -/
theorem failsWith_of_once {build : Run P P.Datum} (failed : (once a build).FailsWith live e) :
    build.FailsWith (live.note (.begun a)) e := by
  obtain ⟨later, ran⟩ := failed
  cases known : live.built? a with
  | some value =>
    rw [once_of_built known] at ran
    cases ran
  | none =>
    rw [once_of_unbuilt known] at ran
    exact Run.failsWith_of_result (congrArg Prod.fst ran)

theorem answers_of_provide (steady : Steady resolve stack) (begun : live.inFlight = stack)
    (failed : (provide resolve r).FailsWith live e) (absorbed : e.isAbsorbed = true) :
    Answers r resolve stack e := by
  have noted : (live.note (.begun r.address)).inFlight = stack := begun
  cases provider : r.provider with
  | value value =>
    rw [provide, provider] at failed
    obtain ⟨later, ran⟩ := failed
    cases ran
  | transient make =>
    rw [provide, provider] at failed
    exact answers_of_code steady (.factory (.inr provider) begun) failed
  | singleton make =>
    rw [provide, provider] at failed
    exact answers_of_code steady (.factory (.inl provider) noted) (failsWith_of_once failed)
  | bean bean =>
    rw [provide, provider] at failed
    exact answers_of_bean steady provider noted (failsWith_of_once failed) absorbed

/-- From the service at `a` down to one that it fails for. Each of those on the path is made while
those before it are in flight, asks for the next and cannot do without it, and all fail alike. -/
inductive Descent (s : Services P) (listing : Listing) (e : Error) :
    Live P → Address → List Address → Live P → Address → Prop
  | here {live : Live P} {a : Address}
      (failed : (s.resolve listing a.party a.key).FailsWith live e) :
      Descent s listing e live a [] live a
  | under {live inner last : Live P} {a b c : Address} {r : Registration P} {path : List Address}
      (failed : (s.resolve listing a.party a.key).FailsWith live e) (found : s.find? a = some r)
      (free : live.isInFlight a = false)
      (asks : r.Asks (s.resolve listing) (live.inFlight ++ [a]) b inner)
      (inside : inner.inFlight = live.inFlight ++ [a])
      (deeper : Descent s listing e inner b path last c) :
      Descent s listing e live a (a :: path) last c

theorem Descent.inFlight (h : s.Descent listing e live a path last b) :
    last.inFlight = live.inFlight ++ path := by
  induction h with
  | here => exact (List.append_nil _).symm
  | under _ _ _ _ inside _ ih => rw [ih, inside, List.append_assoc]; rfl

inductive Fault (s : Services P) (listing : Listing) (e : Error) (live : Live P) (a : Address) :
    Prop
  | missing (unregistered : s.find? a = none)
    (told : e = (s.directory listing []).notRegistered a.party a.key)
  | refused (inFlight : live.isInFlight a = true) (told : e = .circularDependency (live.cycle a))
  | raised {r : Registration P} (found : s.find? a = some r) (free : live.isInFlight a = false)
    (own : r.Raises (s.resolve listing) (live.inFlight ++ [a]) e)

theorem steady_resolve {stack : List Address} (proper : s.Proper stack) :
    Steady (s.resolve listing) stack := by
  rintro party key live rfl
  exact (proceeds_resolveWithin (s.length + 1) party key proper).inFlight

/-- One level of a failure: the fault is here, or what the service asked for failed alike. -/
theorem fault_or_asks (proper : s.Proper live.inFlight)
    (failed : (s.resolve listing a.party a.key).FailsWith live e) (absorbed : e.isAbsorbed = true) :
    s.Fault listing e live a ∨ ∃ r b inner, s.find? a = some r ∧ live.isInFlight a = false ∧
      r.Asks (s.resolve listing) (live.inFlight ++ [a]) b inner ∧
        inner.inFlight = live.inFlight ++ [a] ∧
          (s.resolve listing b.party b.key).FailsWith inner e := by
  obtain ⟨later, ran⟩ := failed
  rw [resolve_eq_visit proper, visit] at ran
  cases found : s.find? a with
  | none =>
    rw [found] at ran
    cases ran
    exact .inl (.missing found rfl)
  | some r =>
    rw [found] at ran
    dsimp only at ran
    cases entered : live.isInFlight a with
    | true =>
      rw [whileInFlight_of_inFlight entered] at ran
      cases ran
      exact .inl (.refused entered rfl)
    | false =>
      rw [whileInFlight_of_free entered] at ran
      have inside := proper.snoc (contains_of_find? found) entered
      have fails : (provide (s.resolve listing) r).FailsWith (live.enter a) e :=
        Run.failsWith_of_result (congrArg Prod.fst ran)
      rcases answers_of_provide (steady_resolve inside) rfl fails absorbed with
        ⟨b, inner, asks, hs, fails⟩ | own
      · exact .inr ⟨r, b, inner, rfl, rfl, asks, hs, fails⟩
      · exact .inl (.raised found entered own)

/-- A failure that an optional parameter absorbs has its origin in a fault, however far below. On
the way down ever more services are in flight, and there are only so many. -/
theorem exists_fault (proper : s.Proper live.inFlight)
    (failed : (s.resolve listing a.party a.key).FailsWith live e) (absorbed : e.isAbsorbed = true) :
    ∃ path last b, s.Descent listing e live a path last b ∧ s.Fault listing e last b := by
  induction free : s.length - live.inFlight.length using Nat.strongRecOn generalizing live a with
  | ind n ih =>
    rcases fault_or_asks proper failed absorbed with
      fault | ⟨r, b, inner, found, entered, asks, inside, fails⟩
    · exact ⟨[], live, a, .here failed, fault⟩
    · have proper' : s.Proper inner.inFlight := by
        rw [inside]
        exact proper.snoc (contains_of_find? found) entered
      -- One more service is in flight while the next is made, so there are fewer left to enter.
      have longer : inner.inFlight.length = live.inFlight.length + 1 := by
        rw [inside, List.length_append, List.length_singleton]
      have bounded := proper'.length_le
      obtain ⟨path, last, c, deeper, fault⟩ :=
        ih (s.length - inner.inFlight.length) (by omega) proper' fails rfl
      exact ⟨a :: path, last, c, .under failed found entered asks inside deeper, fault⟩

end Services

end Injector

import Injector.Proofs.Service.Discipline
import Injector.Proofs.Service.Order
import Injector.Proofs.Tolerance

/-!
# The services of one namespace

What is found at its addresses depends on them alone, and so does what is suggested where nothing
is, up to the order in which they are listed. Where they are values they are had without anything
else being asked, so what uses no other services goes the same way wherever these are the same.
-/

set_option autoImplicit false

namespace Injector

variable {P : Platform}

namespace Services

def inNamespace (s : Services P) (party : Party) : Services P :=
  s.filter (·.address.party == party)

/-- The party has values only, which is all that an extension can be given. -/
def ValuesIn (s : Services P) (party : Party) : Prop :=
  ∀ r ∈ s.inNamespace party, ∃ value, r.provider = .value value

/-- The services of the party are the same, whatever the order they were registered in. -/
structure Share (party : Party) (s s' : Services P) : Prop where
  own : (s.inNamespace party).Perm (s'.inNamespace party)
  distinct : Distinct (s.inNamespace party)

theorem find?_inNamespace (s : Services P) (party : Party) (key : DependencyKey) :
    (s.inNamespace party).find? ⟨party, key⟩ = s.find? ⟨party, key⟩ := by
  unfold find? inNamespace
  rw [List.find?_filter]
  congr 1
  funext r
  rw [Bool.eq_iff_iff, decide_eq_true_iff, Address.beq_iff]
  exact ⟨fun h => h.2, fun h => ⟨h.1, h⟩⟩

/-- It stays so where values are registered for the party, or anything is for others. -/
theorem valuesIn_register {s registered : Services P} {party : Party} {r : Registration P}
    {allowOverride : Bool} (values : s.ValuesIn party)
    (given : (r.address.party == party) = true → ∃ value, r.provider = .value value)
    (h : s.register r allowOverride = .ok registered) : registered.ValuesIn party := by
  intro other ho
  obtain ⟨listed, here⟩ := List.mem_filter.mp ho
  rcases mem_register h listed with rfl | listed
  · exact given here
  · exact values other (List.mem_filter.mpr ⟨listed, here⟩)

/-- All services of the party are listed, in some order. -/
theorem listedIn_perm (s : Services P) (listing : Listing) (pending : List DependencyKey)
    (party : Party) : ((s.directory listing pending).listedIn party).Perm
      ((s.inNamespace party).map (·.address.key.listed)) := by
  have own : (s.directory listing pending).registered.filter (·.party == party) =
      (s.inNamespace party).map (·.address) := by
    rw [directory, List.filter_map]
    rfl
  unfold Directory.listedIn
  rw [own]
  have arranged := (listing.perm ((s.inNamespace party).map (·.address))).map
    fun a : Address => a.key.listed
  rwa [List.map_map] at arranged

section Lookup

variable {s s' : Services P} {party : Party} {listing listing' : Listing}
  {pending pending' : List DependencyKey}

theorem Share.find? (share : Share party s s') (key : DependencyKey) :
    s'.find? ⟨party, key⟩ = s.find? ⟨party, key⟩ := by
  rw [← s'.find?_inNamespace, ← s.find?_inNamespace, find?_perm share.own share.distinct]

/-- What is suggested instead of a missing service is looked for among the same. -/
theorem Share.notRegistered (share : Share party s s') (listing listing' : Listing)
    (pending pending' : List DependencyKey) (key : DependencyKey) :
    ((s.directory listing pending).notRegistered party key).Alike
      ((s'.directory listing' pending').notRegistered party key) := by
  apply Error.Alike.suggested
  exact (s.listedIn_perm listing pending party).trans
    ((share.own.map _).trans (s'.listedIn_perm listing' pending' party).symm)

/-- Only the application waits for services. -/
theorem Share.lookup {extension : ExtensionKey} {like : Error → Error → Prop}
    (share : Share (.extension extension) s s') (key : DependencyKey) (required : Bool)
    (missing : like ((s.directory listing pending).notRegistered (.extension extension) key)
      ((s'.directory listing' pending').notRegistered (.extension extension) key)) :
    Likewise like
      ((s.directory listing pending).lookup (.extension extension) key required :
        Except Error (Binding P))
      ((s'.directory listing' pending').lookup (.extension extension) key required) := by
  unfold Directory.lookup
  rw [contains_directory, contains_directory, contains, contains, share.find?]
  have idle : ∀ d : Directory, d.isPending (.extension extension) key = false := fun _ => rfl
  rw [idle, idle]
  split
  · exact .error missing
  · exact .ok _

/-- A value is there at once. -/
theorem resolve_value {r : Registration P} {key : DependencyKey} {value : P.Datum}
    (found : s.find? ⟨party, key⟩ = some r) (provider : r.provider = .value value) {live : Live P}
    (free : live.isInFlight ⟨party, key⟩ = false) :
    s.resolve listing party key live =
      (.ok value, (live.enter ⟨party, key⟩).leave ⟨party, key⟩ (.ok value)) := by
  rw [resolve_of_some found, whileInFlight_of_free free]
  unfold provide
  rw [provider]
  rfl

end Lookup

end Services

/-- Seen from a namespace of which nothing is being resolved, all that is live is the world. -/
structure Live.Beside (party : Party) (live live' : Live P) : Prop where
  world : live'.world = live.world
  free : ∀ a ∈ live.inFlight, ¬ (a.party == party) = true
  free' : ∀ a ∈ live'.inFlight, ¬ (a.party == party) = true

theorem Live.isInFlight_of_free {live : Live P} {party : Party}
    (free : ∀ a ∈ live.inFlight, ¬ (a.party == party) = true) (key : DependencyKey) :
    live.isInFlight ⟨party, key⟩ = false := by
  rw [isInFlight, List.any_eq_false]
  intro a ha same
  exact free a ha (Address.beq_iff.mp same).1

theorem Live.Beside.setWorld {party : Party} {live live' : Live P} (h : live.Beside party live')
    (world : P.World) : Live.Beside party { live with world } { live' with world } :=
  ⟨rfl, h.free, h.free'⟩

namespace Run

variable {α β : Type} {like : Error → Error → Prop} {party : Party} {step step' : Run P α}

def Matched (like : Error → Error → Prop) (party : Party) (step step' : Run P α) : Prop :=
  ∀ live live' : Live P, live.Beside party live' →
    Together like step step' live live' (fun a a' l l' => a' = a ∧ l.Beside party l')
      (Live.Beside party)

theorem matched_pure (a : α) : Matched like party (pure a : Run P α) (pure a) :=
  fun _ _ beside => ⟨rfl, beside⟩

theorem matched_throw {e e' : Error} (h : like e e') :
    Matched like party (throw e : Run P α) (throw e') :=
  fun _ _ beside => together_throw h beside

theorem Matched.bind {next next' : α → Run P β} (h : Matched like party step step')
    (hn : ∀ a, Matched like party (next a) (next' a)) :
    Matched like party (step >>= next) (step' >>= next') := by
  intro live live' beside
  apply (h live live' beside).bind
  rintro _ a l l' ⟨rfl, beside'⟩
  exact hn a l l' beside'

end Run

open Run

section Resolving

variable {s s' : Services P} {party : Party} {listing listing' : Listing} {tolerance : Tolerance}

theorem matched_resolve {like : Error → Error → Prop} (share : Services.Share party s s')
    (values : s.ValuesIn party)
    (missing : ∀ key, like ((s.directory listing []).notRegistered party key)
      ((s'.directory listing' []).notRegistered party key)) (key : DependencyKey) :
    Matched like party (s.resolve listing party key) (s'.resolve listing' party key) := by
  have same := share.find? key
  cases found : s.find? ⟨party, key⟩ with
  | none =>
    rw [Services.resolve_of_none found, Services.resolve_of_none (same.trans found)]
    exact matched_throw (missing key)
  | some r =>
    intro live live' beside
    have here : r ∈ s.inNamespace party :=
      List.mem_of_find?_eq_some ((s.find?_inNamespace party key).trans found)
    obtain ⟨value, provider⟩ := values r here
    apply Together.of_ok
      (Services.resolve_value found provider (Live.isInFlight_of_free beside.free key))
      (Services.resolve_value (same.trans found) provider
        (Live.isInFlight_of_free beside.free' key))
    refine ⟨rfl, beside.world, ?_, ?_⟩
    · rw [Live.inFlight_leave_enter]
      exact beside.free
    · rw [Live.inFlight_leave_enter]
      exact beside.free'

theorem resolveOptional_of_ok {resolve : Resolver P} {key : DependencyKey} {live l : Live P}
    {value : P.Datum} (run : resolve party key live = (.ok value, l)) :
    resolveOptional resolve party key live = (.ok (some value), l) := by
  unfold resolveOptional
  rw [run]

theorem resolveOptional_of_error {resolve : Resolver P} {key : DependencyKey} {live l : Live P}
    {e : Error} (run : resolve party key live = (.error e, l)) :
    resolveOptional resolve party key live =
      if e.isNotRegistered || e.isCircular then (.ok none, l) else (.error e, l) := by
  unfold resolveOptional
  rw [run]

theorem matched_resolveOptional {resolve resolve' : Resolver P} {key : DependencyKey}
    (h : Matched tolerance.like party (resolve party key) (resolve' party key)) :
    Matched tolerance.like party (resolveOptional resolve party key)
      (resolveOptional resolve' party key) := by
  intro live live' beside
  rcases (h live live' beside).cases with ⟨a, _, l, l', run, run', rfl, kept⟩ |
    ⟨e, e', l, l', run, run', alike, kept⟩
  · exact .of_ok (resolveOptional_of_ok run) (resolveOptional_of_ok run') ⟨rfl, kept⟩
  · have ends := resolveOptional_of_error run
    have ends' := resolveOptional_of_error run'
    rw [tolerance.absorbed e e' alike] at ends'
    by_cases absorbed : (e.isNotRegistered || e.isCircular) = true
    · rw [if_pos absorbed] at ends ends'
      exact .of_ok ends ends' ⟨rfl, kept⟩
    · rw [if_neg absorbed] at ends ends'
      exact .of_error ends ends' alike kept

end Resolving

namespace Code

variable {like : Error → Error → Prop} {party : Party} {resolve resolve' : Resolver P} {α : Type}

structure Ending (like : Error → Error → Prop) (e e' : Except Error α × P.World) : Prop where
  result : Likewise like e.1 e'.1
  world : e'.2 = e.2

/-- The code asks for services of the party alone, and does not look into what it is told of those
that are missing. -/
def Modest (like : Error → Error → Prop) (party : Party) (code : Code P α) : Prop :=
  ∀ w, (code w).Mirrors (fun call => call.party = party) (fun _ => Ending like) (Ending like)
    (code w)

/-- Such code goes the same way where the services of the party are had alike. -/
theorem Modest.matched {code : Code P α} (modest : code.Modest like party)
    (h : ∀ key, Matched like party (resolve party key) (resolve' party key)) :
    Matched like party (code.run resolve) (code.run resolve') := by
  have answers : ∀ call : ServiceCall P, call.party = party → ∀ l l', l.Beside party l' →
      Ending like (answer resolve call l).1 (answer resolve' call l').1 ∧
        Live.Beside party (answer resolve call l).2 (answer resolve' call l').2 := by
    rintro ⟨_, key, world⟩ rfl l l' beside
    have together := h key _ _ (beside.setWorld world)
    have kept := (together.mono (fun _ _ _ _ h => h.2) fun _ _ h => h).states
    exact ⟨⟨together.likewise fun _ _ _ _ h => h.1.symm, kept.world⟩, kept⟩
  intro live live' beside
  obtain ⟨ending, kept⟩ := (modest live.world).run answers beside
  have ran : ∀ (r : Resolver P) l, code.run r l = (((code l.world).run (answer r) l).1.1,
      { ((code l.world).run (answer r) l).2 with
        world := ((code l.world).run (answer r) l).1.2 }) := fun _ _ => rfl
  have ran' := ran resolve' live'
  rw [beside.world] at ran'
  exact .of_likewise (ran resolve live) ran' ending.result
    (fun _ => ⟨rfl, ending.world, kept.free, kept.free'⟩) ⟨ending.world, kept.free, kept.free'⟩

end Code

namespace Bean

def Within (b : Bean P) (party : Party) : Prop :=
  ∀ (id : Nat) op, b.operation? id = some op → ∀ key home required,
    some (.service key home required) ∈ op.bindings → home = party

def Behaves (like : Error → Error → Prop) (party : Party) (resolve resolve' : Resolver P)
    (b : Bean P) : Prop :=
  ∀ (id : Nat) op, b.operation? id = some op → ∀ args,
    Matched like party ((op.accessor.accessor args).run resolve)
      ((op.accessor.accessor args).run resolve')

variable {tolerance : Tolerance} {resolve resolve' : Resolver P} {party : Party}
  {nested nested' : OperationId → Run P (Option P.Datum)}

theorem matched_parameterValue
    (h : ∀ key, Matched tolerance.like party (resolve party key) (resolve' party key))
    (hn : ∀ id, Matched tolerance.like party (nested id) (nested' id)) (op : Operation P)
    (args : List (Option P.Datum)) (index : Nat) {binding : Option (Binding P)}
    (within : ∀ key home required, binding = some (.service key home required) → home = party) :
    Matched tolerance.like party (parameterValue resolve nested op args index binding)
      (parameterValue resolve' nested' op args index binding) := by
  match binding with
  | none => exact matched_throw (tolerance.refl _)
  | some (.constant value) => exact matched_pure value
  | some (.argument argument) => exact matched_pure _
  | some (.operation id) => exact hn id
  | some (.service key home true) =>
    obtain rfl := within key home true rfl
    exact (h key).bind fun _ => matched_pure _
  | some (.service key home false) =>
    obtain rfl := within key home false rfl
    exact matched_resolveOptional (h key)

theorem matched_parameterValues
    (h : ∀ key, Matched tolerance.like party (resolve party key) (resolve' party key))
    (hn : ∀ id, Matched tolerance.like party (nested id) (nested' id)) (op : Operation P)
    (args : List (Option P.Datum)) (index : Nat) {bindings : List (Option (Binding P))}
    (within : ∀ key home required, some (.service key home required) ∈ bindings → home = party) :
    Matched tolerance.like party (parameterValues resolve nested op args index bindings)
      (parameterValues resolve' nested' op args index bindings) := by
  induction bindings generalizing index with
  | nil => exact matched_pure []
  | cons binding rest ih =>
    unfold parameterValues
    apply (matched_parameterValue h hn op args index fun key home required same =>
      within key home required (same ▸ List.mem_cons_self)).bind
    intro value
    exact (ih (index + 1) fun key home required listed =>
      within key home required (List.mem_cons_of_mem _ listed)).bind fun _ => matched_pure _

/-- Whatever the operation is called with, its accessor is called, or it is refused. -/
theorem matched_call {op : Operation P}
    (h : ∀ args, Matched tolerance.like party ((op.accessor.accessor args).run resolve)
      ((op.accessor.accessor args).run resolve')) (args params : List (Option P.Datum)) :
    Matched tolerance.like party ((op.call args params).run resolve)
      ((op.call args params).run resolve') := by
  have refused : ∀ e, Matched tolerance.like party
      ((Code.done (.error e) : Code P (Option P.Datum)).run resolve)
      ((Code.done (.error e)).run resolve') := fun e _ _ beside =>
    ⟨tolerance.refl e, beside⟩
  have invoked : ∀ given, Matched tolerance.like party ((op.accessor.invoke given).run resolve)
      ((op.accessor.invoke given).run resolve') := by
    intro given
    unfold MemberAccessor.invoke
    split
    · exact h given
    · exact refused _
  unfold Operation.call
  dsimp only
  generalize (if op.mode = .set then _ else [] : List (Option P.Datum)) = given
  split
  · split
    · exact refused _
    · exact invoked _
  · exact invoked _

theorem matched_invokeWithin {b : Bean P} (within : b.Within party)
    (h : ∀ key, Matched tolerance.like party (resolve party key) (resolve' party key))
    (behaves : b.Behaves tolerance.like party resolve resolve') (depth : Nat)
    (id : OperationId) (args : List (Option P.Datum)) :
    Matched tolerance.like party (b.invokeWithin resolve depth id args)
      (b.invokeWithin resolve' depth id args) := by
  induction depth generalizing id with
  | zero => exact matched_throw (tolerance.refl _)
  | succ depth ih =>
    unfold invokeWithin
    split
    next => exact matched_throw (tolerance.refl _)
    next op ho =>
      split
      next =>
        apply (matched_parameterValues h ih op args 0 (within id op ho)).bind
        exact fun params => matched_call (behaves id op ho) args params
      next => exact matched_throw (tolerance.refl _)

end Bean

end Injector

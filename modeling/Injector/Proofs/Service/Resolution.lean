import Injector.Proofs.Bean.Invocation
import Injector.Proofs.Service.Asking
import Injector.Proofs.Service.Graph
import Injector.Service.Resolution

/-!
# Finding services that are values or scanned beans

A resolution leaves the services in flight as they were, and if it fails a service was missing or in
flight already, which an optional parameter does not mind. So a failure comes up from a required
service, and in an order where required services come first there is none.
-/

set_option autoImplicit false

namespace Injector

variable {P : Platform}

theorem ends_thenAlways {α : Type} {body : Run P α} {after : Except Error α → Live P → Live P}
    {live : Live P} {ok : α → Live P → Prop} {failed : Error → Live P → Prop} :
    Ends (Run.thenAlways body after) live ok failed ↔
      Ends body live (fun a l => ok a (after (.ok a) l))
        fun e l => failed e (after (.error e) l) := by
  unfold Ends Run.thenAlways
  rcases (body live : Except Error α × Live P) with ⟨_ | _, l⟩ <;> rfl

def Error.isAbsorbed (e : Error) : Bool := e.isNotRegistered || e.isCircular

structure Bean.Built (b : Bean P) : Prop where
  scanned : ∃ d, b.Scanned d
  source : b.source = .construction
  installer : b.installer = .application

/-- The accessors that run when the instance is made return something, whatever they are given and
whatever becomes of the services that they ask for. -/
def Bean.Productive (b : Bean P) : Prop :=
  ∀ top, b.constructor? = some top → ∀ id op, b.Under top.id id → b.operation? id = some op →
    ∀ args w, (op.accessor.accessor args w).Gives fun ended => ∃ value, ended.1 = .ok (some value)

def Registration.Plain (r : Registration P) : Prop :=
  match r.provider with
  | .value _ => True
  | .bean b => b.Built ∧ r.dependencies = b.serviceDependencies
  | _ => False

def Registration.Productive (r : Registration P) : Prop :=
  ∀ b, r.provider = .bean b → b.Productive

namespace Services

variable {s : Services P} {listing : Listing} {resolve : Resolver P} {stack : List Address}
  {address : Address} {party : Party} {key : DependencyKey} {r : Registration P}
  {failure : Error → Prop} {live : Live P} {depth : Nat}

/-- While `stack` is in flight, services are found or fail as an optional parameter allows. -/
def Calm (resolve : Resolver P) (stack : List Address) : Prop :=
  ∀ party key (live : Live P), live.inFlight = stack →
    Ends (resolve party key) live (fun _ l => l.inFlight = stack) fun e l =>
      l.inFlight = stack ∧ e.isAbsorbed = true

def Fails (resolve : Resolver P) (stack : List Address) (key : DependencyKey) : Prop :=
  ∃ l e l', l.inFlight = stack ∧ resolve .application key l = (.error e, l')

theorem ends_whileInFlight {body : Run P P.Datum} (free : live.isInFlight address = false)
    (h : Ends body (live.enter address) (fun _ l => l.inFlight = live.inFlight ++ [address])
      fun e l => l.inFlight = live.inFlight ++ [address] ∧ failure e) :
    Ends (whileInFlight address body) live (fun _ l => l.inFlight = live.inFlight)
      fun e l => l.inFlight = live.inFlight ∧ failure e := by
  have left : ∀ (l : Live P) result, l.inFlight = live.inFlight ++ [address] →
      (l.leave address result).inFlight = live.inFlight := by
    intro l result hl
    show l.inFlight.dropLast = _
    rw [hl, List.dropLast_concat]
  unfold whileInFlight
  rw [ends_bind, ends_get, free, if_neg Bool.false_ne_true, ends_bind, ends_set, ends_thenAlways]
  apply h.mono
  · exact fun value l hl => left l (.ok value) hl
  · exact fun e l hl => ⟨left l (.error e) hl.1, hl.2⟩

theorem ends_once {build : Run P P.Datum} (hs : live.inFlight = stack)
    (h : ∀ l : Live P, l.inFlight = stack → Ends build l (fun _ l' => l'.inFlight = stack)
      fun e l' => l'.inFlight = stack ∧ failure e) :
    Ends (once address build) live (fun _ l => l.inFlight = stack)
      fun e l => l.inFlight = stack ∧ failure e := by
  unfold once
  rw [ends_bind, ends_get]
  cases live.built? address with
  | some value => exact hs
  | none =>
    show Ends (modify _ >>= fun _ => tryCatch build _ >>= fun value => _) live _ _
    rw [ends_bind, ends_modify, ends_bind, ends_tryCatch]
    exact h (live.note (.begun address)) hs

/-- Code that returns something does so whatever it is told of the services that it asks for. -/
theorem ends_productive {code : Code P (Option P.Datum)}
    (gives : ∀ w, (code w).Gives fun ended => ∃ value, ended.1 = .ok (some value))
    (calm : Calm resolve stack) (hs : live.inFlight = stack) {failed : Error → Live P → Prop} :
    Ends (code.run resolve) live (fun value l => l.inFlight = stack ∧ value.isSome = true)
      failed := by
  have steady : Steady resolve stack := fun party key l hl =>
    Ends.state (fun l : Live P => l.inFlight = stack)
      ((calm party key l hl).imp_failed fun _ _ h => h.1)
  have kept := Code.steady_run code steady hs
  obtain ⟨value, result⟩ := (gives live.world).run (Code.answer resolve) live
  have ran : code.run resolve live = (.ok (some value), (code.run resolve live).2) :=
    Prod.ext result rfl
  rw [ends_of_ok ran]
  exact ⟨kept, rfl⟩

/-- What a bean needs is what it may fail for. -/
theorem running {b : Bean P} (built : b.Built) (productive : b.Productive) {top : Operation P}
    (htop : b.constructor? = some top)
    (calm : Calm resolve stack) :
    b.Running resolve top.id (·.inFlight = stack) (·.isSome = true) fun e l =>
      l.inFlight = stack ∧ e.isAbsorbed = true ∧
        ∃ key, b.serviceDependencies.contains key = true ∧ Fails resolve stack key where
  required := by
    intro id op index key party under ho hb l hl
    obtain ⟨d, scanned⟩ := built.scanned
    obtain ⟨slot, hslot, hbound⟩ := Option.bind_eq_some_iff.mp hb
    obtain ⟨hparty, -⟩ := scanned.fitting.fits id op ho slot (List.mem_of_getElem? hslot) _ hbound
    rw [built.installer] at hparty
    subst hparty
    have needed : b.serviceDependencies.contains key = true :=
      Bean.contains_serviceDependencies scanned.linked htop under ⟨op, ho, index, hb⟩
    apply (calm .application key l hl).traced.mono
    · exact fun _ _ h => h.1
    · rintro e l' ⟨⟨hl', he⟩, failed⟩
      exact ⟨hl', he, key, needed, l, e, l', hl, failed⟩
  optional := by
    intro id op index key party under ho hb l hl
    apply (calm party key l hl).imp_failed
    rintro e l' ⟨hl', absorbed⟩
    exact (if_pos absorbed).mpr hl'
  accessor := by
    intro id op under ho values _ l hl
    exact ends_productive (productive top htop id op under ho values) calm hl

theorem ends_provide (plain : r.Plain) (productive : r.Productive) (hs : live.inFlight = stack)
    (calm : Calm resolve stack) :
    Ends (provide resolve r) live (fun _ l => l.inFlight = stack) fun e l =>
      l.inFlight = stack ∧ e.isAbsorbed = true ∧
        ∃ key, r.dependencies.contains key = true ∧ Fails resolve stack key := by
  obtain ⟨address, provider, dependencies⟩ := r
  cases provider with
  | value value => exact hs
  | singleton make => exact plain.elim
  | transient make => exact plain.elim
  | bean b =>
    obtain ⟨built, rfl⟩ := plain
    obtain ⟨d, scanned⟩ := built.scanned
    have construction : b.source.isConstruction = true := by rw [built.source]; rfl
    obtain ⟨top, htop⟩ := Bean.exists_constructor (scanned.constructed construction)
    have runs := running built (productive b rfl) htop calm
    exact ends_once hs fun l hl => Bean.ends_instantiate scanned built.source htop runs hl

/-- A service that is not in flight fails only for one that it needs. -/
theorem ends_entered (plain : ∀ r ∈ s, r.Plain) (productive : ∀ r ∈ s, r.Productive)
    (calm : ∀ stack, Calm (s.resolveWithin listing depth) stack)
    (found : s.find? ⟨party, key⟩ = some r) (free : live.isInFlight ⟨party, key⟩ = false) :
    Ends (s.resolveWithin listing (depth + 1) party key) live
      (fun _ l => l.inFlight = live.inFlight) fun e l => l.inFlight = live.inFlight ∧
        e.isAbsorbed = true ∧ ∃ other, r.dependencies.contains other = true ∧
          Fails (s.resolveWithin listing depth) (live.inFlight ++ [⟨party, key⟩]) other := by
  unfold resolveWithin
  rw [found]
  apply ends_whileInFlight free
  have listed : r ∈ s := List.mem_of_find?_eq_some found
  exact ends_provide (plain r listed) (productive r listed) rfl (calm _)

theorem calm_resolveWithin (plain : ∀ r ∈ s, r.Plain) (productive : ∀ r ∈ s, r.Productive)
    (depth : Nat) (stack : List Address) : Calm (s.resolveWithin listing depth) stack := by
  induction depth generalizing stack with
  | zero => exact fun _ _ _ hs => ⟨hs, rfl⟩
  | succ depth ih =>
    rintro party key live rfl
    cases found : s.find? ⟨party, key⟩ with
    | none =>
      unfold resolveWithin
      rw [found]
      exact ⟨rfl, rfl⟩
    | some r =>
      cases free : live.isInFlight ⟨party, key⟩ with
      | true =>
        unfold resolveWithin whileInFlight
        rw [found]
        dsimp only
        rw [ends_bind, ends_get, free, if_pos rfl, ends_bind, ends_set]
        exact ⟨rfl, rfl⟩
      | false =>
        exact (ends_entered plain productive ih found free).imp_failed fun _ _ h => ⟨h.1, h.2.1⟩

def Clear (stack : List Address) (keys : List DependencyKey) : Prop :=
  ∀ address ∈ stack, ∀ key, keys.contains key = true → (address == ⟨.application, key⟩) = false

theorem Clear.isInFlight {keys : List DependencyKey} (h : Clear live.inFlight keys)
    (hk : keys.contains key = true) : live.isInFlight ⟨.application, key⟩ = false := by
  rw [Live.isInFlight, List.any_eq_false]
  intro address ha
  rw [h address ha key hk]
  exact Bool.false_ne_true

/-- A service that is not among `keys` can be in flight while these are found. -/
theorem Clear.snoc {keys : List DependencyKey} {last : DependencyKey}
    (h : Clear stack (keys ++ [last])) (new : keys.contains last = false)
    (same : (key == last) = true) : Clear (stack ++ [⟨.application, key⟩]) keys := by
  intro address ha other ho
  rcases List.mem_append.mp ha with ha | ha
  · exact h address ha other (Graph.contains_snoc.mpr (Or.inl ho))
  · obtain rfl := List.mem_singleton.mp ha
    rw [Bool.eq_false_iff]
    intro hk
    have again : (other == last) = true := BEq.trans (BEq.symm (Address.beq_iff.mp hk).2) same
    rw [List.contains_congr again, new] at ho
    cases ho

/-- Where required services come first, each is found once those before it are: by induction on
the order, since what a service needs is found while the service itself is in flight. -/
theorem not_fails_of_ordered {g : Graph} {safe : List DependencyKey}
    (plain : ∀ r ∈ s, r.Plain) (productive : ∀ r ∈ s, r.Productive)
    (reads : ∀ key, g.needs? key = (s.find? ⟨.application, key⟩).map (·.dependencies))
    (order : g.Ordered safe) (known : safe.contains key = true) (enough : safe.length ≤ depth)
    (clear : Clear stack safe) : ¬ Fails (s.resolveWithin listing depth) stack key := by
  induction order generalizing key depth stack with
  | nil => cases known
  | @snoc safe needed last before new needs met ih =>
    rw [List.length_append, List.length_singleton] at enough
    rcases Graph.contains_snoc.mp known with earlier | same
    · have clear' : Clear stack safe := fun address ha other ho =>
        clear address ha other (Graph.contains_snoc.mpr (Or.inl ho))
      exact ih earlier (by omega) clear'
    · rintro ⟨live, e, live', rfl, failed⟩
      cases depth with
      | zero => omega
      | succ depth =>
        rw [← Graph.needs?_congr same, reads, Option.map_eq_some_iff] at needs
        obtain ⟨r, found, rfl⟩ := needs
        obtain ⟨-, -, other, needed, fails⟩ := Ends.of_error (ends_entered plain productive
          (calm_resolveWithin plain productive depth) found (clear.isInFlight known)) failed
        obtain ⟨listed, hm, hb⟩ := List.contains_iff_exists_mem_beq.mp needed
        have earlier : safe.contains other = true := by
          rw [List.contains_congr hb]
          exact met listed hm
        exact ih earlier (by omega) (clear.snoc new same) fails

end Services

end Injector

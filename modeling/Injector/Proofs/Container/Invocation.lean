import Injector.Proofs.Container.Assembly
import Injector.Proofs.Container.Resolve
import Injector.Proofs.Service.Discipline

/-!
# Running the operations of beans against the container they were scanned on

What a scan took for granted is there when an operation runs, so it fails only where an accessor or
a registered service does, or where the caller gives no instance.
-/

set_option autoImplicit false

namespace Injector

variable {P : Platform}

/-- Beans that were scanned with success, while the container was built or later on. -/
inductive Container.Hosts (c : Container P) : Bean P → Prop
  | registered {r : Registration P} {bean : Bean P} (listed : r ∈ c.services)
      (provider : r.provider = .bean bean) : Hosts c bean
  | scanned {d : Deployment P} (h : c.History (fun _ _ => True) (fun _ => True) d)
      {cls : ClassDescriptor P} {source : Source P} {installer : Party}
      {preset : Option (Handler P)}
      (success : (d.scan (.fresh cls source installer) preset).1.1 = .ok ⟨⟩) :
      Hosts c (d.scan (.fresh cls source installer) preset).1.2

inductive Bean.Cause (b : Bean P) (s : Services P) (listing : Listing) (root : OperationId)
    (args : List (Option P.Datum)) (e : Error) (live : Live P) : Prop
  /-- An accessor failed that was given as many values as it takes. -/
  | accessor {id : OperationId} {op : Operation P} {values : List (Option P.Datum)}
      {before : Live P} (under : b.Under root id) (found : b.operation? id = some op)
      (arity : values.length = op.accessor.arity)
      (raised : (op.accessor.accessor values).run (s.resolve listing) before = (.error e, live))
  /-- A service failed that is registered. -/
  | service {id : OperationId} {op : Operation P} {index : Nat} {key : DependencyKey}
      {party : Party} {required : Bool} {r : Registration P} {before : Live P}
      (under : b.Under root id) (found : b.operation? id = some op)
      (bound : op.binding? index = some (.service key party required))
      (registered : s.find? ⟨party, key⟩ = some r)
      (raised : Services.whileInFlight ⟨party, key⟩
        (Services.provide (s.resolveWithin listing s.length) r) before = (.error e, live))
  /-- The operation itself needs an instance, and was given none. -/
  | receiver {op : Operation P} (found : b.operation? root = some op) (misses : op.Misses args e)

structure Bean.Accountable (b : Bean P) (s : Services P) (listing : Listing) (id : OperationId)
    (args : List (Option P.Datum)) (live : Live P) : Prop where
  ended : ∀ depth > b.operations.size,
    b.invokeWithin (s.resolve listing) depth id args = b.invoke (s.resolve listing) id args
  failures : Ends (b.invoke (s.resolve listing) id args) live (fun _ _ => True)
    (b.Cause s listing id args)

namespace Container

variable {c : Container P} {bean : Bean P}

theorem Hosts.scanned_bean (h : c.Hosts bean) (pending : c.pending = [])
    (scanned : ∀ r ∈ c.services, ∀ bean, r.provider = .bean bean → bean.Scanned c.directory) :
    bean.Scanned (c.services.directory c.listing []) := by
  have directory : c.directory = c.services.directory c.listing [] := by
    rw [Container.directory, pending]
  rw [← directory]
  cases h with
  | registered listed provider => exact scanned _ listed _ provider
  | scanned h success =>
    rw [← h.persists.directory]
    exact (Deployment.scanned_scan _ _ _ _ _ success).2

/-- The services that a bean cannot do without are registered, and its other services may be
missing. -/
theorem running_of_scanned {s : Services P} {listing : Listing}
    (scanned : bean.Scanned (s.directory listing []))
    (root : OperationId) (args : List (Option P.Datum)) :
    bean.Running (s.resolve listing) root (fun _ => True) (fun _ => True)
      (bean.Cause s listing root args) where
  required := by
    intro id op index key party under ho hb live _
    obtain ⟨r, found⟩ := Option.isSome_iff_exists.mp (scanned.contains_of_bound ho hb)
    rw [Services.resolve_of_some found]
    apply (Ends.as_run _ live).mono
    · exact fun _ _ _ => trivial
    · exact fun e l run => .service under ho hb found run
  optional := by
    intro id op index key party under ho hb live _
    cases found : s.find? ⟨party, key⟩ with
    | none =>
      have absorbed : (((s.directory listing []).notRegistered party key).isNotRegistered ||
        ((s.directory listing []).notRegistered party key).isCircular) = true := rfl
      rw [Services.resolve_of_none found, ends_throw, if_pos absorbed]
      trivial
    | some r =>
      rw [Services.resolve_of_some found]
      apply (Ends.as_run _ live).mono
      · exact fun _ _ _ => trivial
      · intro e l run
        split
        · trivial
        · exact .service under ho hb found run
  accessor := by
    intro id op under ho values arity live _
    apply (Ends.as_run _ live).mono
    · exact fun _ _ _ => ⟨trivial, trivial⟩
    · exact fun e l run => .accessor under ho arity run

end Container

/-- Run against a container that was built, an operation of a bean that was scanned with success
comes to an end, and it fails only for a cause that is not the bean's own: no operation, binding or
required service is missing, and no accessor is given too few values or too many. -/
theorem Builder.accountable_of_build {b : Builder P} (assembled : b.Assembled)
    {world world' : P.World} {c : Container P} (built : b.build world = (.ok c, world'))
    {bean : Bean P} (hosted : c.Hosts bean) {id : OperationId} {op : Operation P}
    (found : bean.operation? id = some op) {args : List (Option P.Datum)}
    (complete : args.length = op.contract.arguments.length) (live : Live P) :
    bean.Accountable c.services c.listing id args live := by
  obtain ⟨all, pending⟩ := scanned_of_build assembled built
  have scanned := hosted.scanned_bean pending all
  have running := Container.running_of_scanned scanned id args
  constructor
  · intro depth deep
    exact Bean.invokeWithin_eq scanned.linked (by omega) (by omega)
  · apply (Bean.ends_invokeWithin scanned running (bean.operations.size + 1) args .refl found
      complete (by omega) trivial).mono
    · exact fun _ _ _ => trivial
    · rintro e l (cause | misses)
      · exact cause
      · exact .receiver found misses

theorem Builder.accountable_of_build_farm :
    farm.Assembled ∧ farm.build () = (.ok Container.farm, ()) ∧ Container.farm.Hosts .hen ∧
      ∃ op, Bean.hen.operation? 0 = some op ∧ op.contract.arguments.length = 1 ∧
        Bean.hen.Accountable Container.farm.services .inOrder 0 [none] ⟨(), [], [], []⟩ := by
  have assembled : farm.Assembled := ((Assembled.new _ _).bean .hen).bean .nest
  have hosted : Container.farm.Hosts .hen := .registered List.mem_cons_self rfl
  have found : Bean.hen.operation? 0 = some _ := rfl
  exact ⟨assembled, build_farm, hosted, _, found, rfl,
    accountable_of_build assembled build_farm hosted found rfl ⟨(), [], [], []⟩⟩

end Injector

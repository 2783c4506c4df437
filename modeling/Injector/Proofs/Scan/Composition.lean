import Injector.Proofs.Hook.Catalog
import Injector.Scan.Basic

/-!
# What a scan is put together from

There are few such steps. What each of these has, and a sequence has if its parts do, is had by
whatever they make up: by the lookup of hooks, by the activation of extensions, and by the
resolution of operations if extensions that are asked for a parameter have it.
-/

set_option autoImplicit false

namespace Injector

variable {P : Platform}

namespace Scan

/-- A property of steps that goes from the parts to the whole. Looking something up has it, and so
has giving up for any reason but the limit. -/
structure Compositional (good : {α : Type} → ScanM P α → Prop) : Prop where
  pure : ∀ {α : Type} (a : α), good (pure a)
  throw : ∀ {α : Type} {e : Error}, e.isLimit = false → good (throw e : ScanM P α)
  get : good get
  bind : ∀ {α β : Type} {step : ScanM P α} {next : α → ScanM P β},
    good step → (∀ a, good (next a)) → good (step >>= next)
  withCatalog : ∀ {α : Type} {step : P.World → CatalogM α},
    (∀ w, Catalog.Confined (step w)) → good (withCatalog step)

namespace Compositional

variable {good : {α : Type} → ScanM P α → Prop} {f : ScanFrame P}

theorem discard {α : Type} {step : ScanM P α} (h : Compositional good) (hs : good step) :
    good (Functor.discard step) :=
  h.bind hs fun _ => h.pure _

theorem forM {α : Type} {xs : List α} {step : α → ScanM P PUnit} (h : Compositional good)
    (hs : ∀ x ∈ xs, good (step x)) : good (xs.forM step) := by
  induction xs with
  | nil => exact h.pure _
  | cons x xs ih =>
    show good (step x >>= fun _ => xs.forM step)
    exact h.bind (hs x (by simp)) fun _ => ih fun y hy => hs y (by simp [hy])

theorem nextId (h : Compositional good) : good (nextId (P := P)) :=
  h.bind h.get fun _ => h.pure _

theorem bindingAt (h : Compositional good) (id index : Nat) :
    good (bindingAt (P := P) id index) :=
  h.bind h.get fun _ => h.pure _

theorem operationAt (h : Compositional good) (f : ScanFrame P) (id : OperationId) :
    good (operationAt f id) := by
  unfold Scan.operationAt
  apply h.bind h.get
  intro s
  split
  · exact h.pure _
  · exact h.throw rfl

theorem hookOf (h : Compositional good) (f : ScanFrame P) (marker : Marker P) :
    good (hookOf f marker) :=
  h.bind (h.withCatalog fun w => Catalog.confined_lookup w f.model _) fun _ => h.pure _

theorem hitsOf (h : Compositional good) (f : ScanFrame P) (markers : List (Marker P)) :
    good (hitsOf f markers) := by
  induction markers with
  | nil => exact h.pure _
  | cons marker rest ih =>
    unfold Scan.hitsOf
    apply h.bind (h.hookOf f marker)
    intro hook
    cases hook with
    | none => exact ih
    | some hook => exact h.bind ih fun _ => h.pure _

theorem bindingHook (h : Compositional good) (f : ScanFrame P) (target : String)
    (markers : List (Marker P)) (found : Option (Hit P)) :
    good (bindingHook f target found markers) := by
  induction markers generalizing found with
  | nil => exact h.pure _
  | cons marker rest ih =>
    unfold Scan.bindingHook
    apply h.bind (h.hookOf f marker)
    intro hook
    cases hook with
    | none => exact ih found
    | some hook =>
      dsimp only
      split
      · cases found with
        | none => exact ih _
        | some first => exact h.throw rfl
      · exact ih found

theorem checkClassMarkers (h : Compositional good) (f : ScanFrame P) (c : ClassDescriptor P) :
    good (checkClassMarkers f c) :=
  h.forM fun marker _ => h.discard (h.hookOf f marker)

theorem resolveParameter (h : Compositional good)
    (delegates : ∀ op index parameter extension marker,
      good (delegate f op index parameter extension marker))
    (binds : ∀ op index parameter, good (bindToService f op index parameter)) (id index : Nat)
    (parameter : Parameter P) : good (resolveParameter f id index parameter) := by
  unfold Scan.resolveParameter
  apply h.bind (h.operationAt f id)
  intro op
  apply h.bind (h.bindingHook f _ _ none)
  intro hit
  cases hit with
  | some hit => exact delegates op index parameter _ _
  | none =>
    apply h.bind h.get
    intro s
    split
    · exact delegates op index parameter _ _
    · exact binds op index parameter

theorem resolveOperation (h : Compositional good)
    (delegates : ∀ op index parameter extension marker,
      good (delegate f op index parameter extension marker))
    (binds : ∀ op index parameter, good (bindToService f op index parameter)) (id : Nat) :
    good (resolveOperation f id) := by
  have remaining : ∀ (parameters : List (Parameter P)) index,
      good (resolveParameters f id index parameters) := by
    intro parameters
    induction parameters with
    | nil => exact fun _ => h.pure _
    | cons parameter rest ih =>
      intro index
      unfold resolveParameters
      apply h.bind (h.bindingAt id index)
      intro binding
      split
      · exact ih _
      · exact h.bind (h.resolveParameter delegates binds id index parameter) fun _ => ih _
  unfold Scan.resolveOperation
  apply h.bind (h.operationAt f id)
  exact fun op => remaining op.params 0

end Compositional

structure Activating (good : {α : Type} → ScanM P α → Prop) : Prop
    extends Compositional good where
  install : ∀ f key, good (install (P := P) f key)
  takeHandler : ∀ fullAccess extension, good (takeHandler (P := P) fullAccess extension)
  record : ∀ {event : ScanEvent P}, (∀ bean, event ≠ .stood bean) →
    (∀ id, event ≠ .resolving id) → good (record event)
  close : ∀ call world, good (close (P := P) call world)
  settle : ∀ result, good (settle (P := P) result)
  seat : ∀ change : List (Contributor P) → List (Contributor P),
    good (modify fun s : Scan P => { s with contributors := change s.contributors })

namespace Activating

variable {good : {α : Type} → ScanM P α → Prop}

theorem start (h : Activating good) (f : ScanFrame P) (key : ExtensionKey) :
    good (start f key) := by
  unfold Scan.start
  apply h.bind (h.install f key)
  intro extension
  apply h.bind (h.takeHandler _ extension)
  intro taken
  apply h.bind (h.record (by simp) (by simp))
  intro _
  apply h.bind h.get
  intro s
  apply h.bind (h.close _ _)
  intro _
  apply h.bind (h.settle _)
  intro _
  exact h.bind (h.seat fun contributors => contributors ++ [_]) fun _ => h.pure _

theorem activate (h : Activating good) (f : ScanFrame P) (key : ExtensionKey) :
    good (activate f key) := by
  unfold Scan.activate
  apply h.bind h.get
  intro s
  split
  · exact h.pure _
  · exact h.start f key

/-- What is done after a dialog. -/
theorem closes (h : Activating good) (c : Contributor P) (call : Call P) (memory : P.Memory)
    (world : P.World) (result : Except Error Unit) :
    good (Scan.close call world >>= fun _ =>
      modify (fun s : Scan P => { s with contributors := remember c memory s.contributors }) >>=
        fun _ => Scan.settle result) := by
  apply h.bind (h.close call world)
  intro _
  exact h.bind (h.seat (remember c memory)) fun _ => h.settle result

theorem finish (h : Activating good) (contributors : List (Contributor P)) :
    good (finish contributors) := by
  induction contributors with
  | nil => exact h.pure _
  | cons c rest ih =>
    unfold Scan.finish
    apply h.bind (h.record (by simp) (by simp))
    intro _
    apply h.bind h.get
    intro s
    apply h.bind (h.close _ _)
    intro _
    exact h.bind (h.settle _) fun _ => ih

end Activating

structure Draining (good : {α : Type} → ScanM P α → Prop) : Prop extends Compositional good where
  dequeue : good dequeue
  spend : good spend
  resolving : ∀ id, good (record (.resolving id))
  limit : ∀ f : ScanFrame P,
    good (MonadExcept.throw (.resolutionLimitExceeded f.beanType f.host.limit) : ScanM P Unit)

theorem Draining.drain {good : {α : Type} → ScanM P α → Prop} {f : ScanFrame P} (h : Draining good)
    (resolves : ∀ id, good (resolveOperation f id)) : good (drain f) := by
  have within : ∀ remaining, good (drainWithin f remaining) := by
    intro remaining
    induction remaining with
    | zero =>
      unfold drainWithin
      apply h.bind h.dequeue
      intro taken
      cases taken with
      | none => exact h.pure _
      | some id => exact h.limit f
    | succ remaining ih =>
      unfold drainWithin
      apply h.bind h.dequeue
      intro taken
      cases taken with
      | none => exact h.pure _
      | some id =>
        apply h.bind h.spend
        intro _
        apply h.bind (h.resolving id)
        intro _
        exact h.bind (resolves id) fun _ => ih
  exact h.bind h.get fun s => within s.remaining

theorem not_limit_requiredBy {e : Error} (h : e.isLimit = false) (target : String) :
    (e.requiredBy target).isLimit = false := by
  cases e with
  | notRegistered requested requiredBy suggestions => cases requiredBy <;> rfl
  | _ => exact h

theorem not_limit_of_lookup {d : Directory} {party : Party} {key : DependencyKey} {required : Bool}
    {e : Error} (h : (d.lookup party key required : Except Error (Binding P)) = .error e) :
    e.isLimit = false := by
  unfold Directory.lookup at h
  split at h
  · cases h
    rfl
  · cases h

theorem not_limit_of_checkAccess {owner : ClassDescriptor P} {member : String}
    {visibility : Visibility} {context : ScanContext} {e : Error}
    (h : checkAccess owner member visibility context = .error e) : e.isLimit = false := by
  unfold checkAccess at h
  split at h
  · cases h
  · cases h
    rfl

theorem not_limit_of_ofInjection {id : OperationId} {c : ClassDescriptor P} {field : Field P}
    {operator : Party} {e : Error} (h : Operation.ofInjection id c field operator = .error e) :
    e.isLimit = false := by
  unfold Operation.ofInjection at h
  split at h
  · cases h
    rfl
  · cases h

theorem not_limit_of_selectConstructor {c : ClassDescriptor P} {e : Error}
    (h : c.selectConstructor = .error e) : e.isLimit = false := by
  unfold ClassDescriptor.selectConstructor at h
  split at h
  · cases h
  · split at h <;> cases h <;> rfl
  · cases h
    rfl

structure Consulting (f : ScanFrame P) (good : {α : Type} → ScanM P α → Prop) : Prop
    extends Compositional good where
  decision : ∀ {α : Type} {x : Except Error α}, (∀ e, x = .error e → e.isLimit = false) →
    good (liftM x : ScanM P α)
  rethrow : ∀ {step : ScanM P Unit} (target : String), good step →
    good (tryCatch step fun e => MonadExcept.throw (e.requiredBy target))
  activate : ∀ key, good (activate f key)
  announce : ∀ {event : ScanEvent P}, (∀ bean, event ≠ .stood bean) →
    (∀ id, event ≠ .resolving id) → (∀ result, event ≠ .replied result) → good (record event)
  field : ∀ (c : Contributor P) shown,
    good (converse c (.fieldMatched shown) (c.handler.onField shown) (answerField shown))
  method : ∀ (c : Contributor P) shown,
    good (converse c (.methodMatched shown) (c.handler.onMethod shown) (answerMethod shown))
  request : ∀ (c : Contributor P) shown,
    good (converse c (.bindingRequested shown) (c.handler.onBinding shown) (answerSlot f shown))
  append : ∀ op, good (append (P := P) op)
  bindSlot : ∀ id index binding, good (bindSlot f id index binding)

namespace Consulting

variable {good : {α : Type} → ScanM P α → Prop} {f : ScanFrame P}

theorem delegate (h : Consulting f good) (op : Operation P) (index : Nat)
    (parameter : Parameter P) (extension : ExtensionKey) (marker : Option (Marker P)) :
    good (delegate f op index parameter extension marker) := by
  unfold Scan.delegate
  apply h.bind (h.activate extension)
  intro contributor
  apply h.bind (h.announce (by simp) (by simp) (by simp))
  intro _
  apply h.bind (h.rethrow _ (h.request contributor _))
  intro _
  apply h.bind (h.bindingAt _ _)
  intro binding
  split
  · exact h.pure _
  · exact h.throw rfl

theorem bindToService (h : Consulting f good) (op : Operation P) (index : Nat)
    (parameter : Parameter P) : good (bindToService f op index parameter) := by
  unfold Scan.bindToService
  split
  next binding _ => exact h.bindSlot op.id index binding
  next e missing => exact h.throw (not_limit_requiredBy (not_limit_of_lookup missing) op.target)

theorem resolveParameter (h : Consulting f good) (id index : Nat) (parameter : Parameter P) :
    good (resolveParameter f id index parameter) :=
  h.toCompositional.resolveParameter h.delegate h.bindToService id index parameter

theorem resolveOperation (h : Consulting f good) (id : Nat) : good (resolveOperation f id) :=
  h.toCompositional.resolveOperation h.delegate h.bindToService id

theorem showField (h : Consulting f good) (declared : DeclaredField P) (g : HookGroup P) :
    good (showField f declared g) := by
  unfold Scan.showField
  apply h.bind (h.activate g.extension)
  intro contributor
  exact h.bind (h.announce (by simp) (by simp) (by simp)) fun _ => h.field contributor _

theorem showMethod (h : Consulting f good) (declared : DeclaredMethod P) (g : HookGroup P) :
    good (showMethod f declared g) := by
  unfold Scan.showMethod
  apply h.bind (h.activate g.extension)
  intro contributor
  exact h.bind (h.announce (by simp) (by simp) (by simp)) fun _ => h.method contributor _

theorem inject (h : Consulting f good) (declared : DeclaredField P) (extension : ExtensionKey) :
    good (inject f declared extension) := by
  unfold Scan.inject
  apply h.bind (h.activate extension)
  intro contributor
  apply h.bind (h.decision fun _ refused => not_limit_of_checkAccess refused)
  intro _
  apply h.bind h.nextId
  intro id
  apply h.bind (h.decision fun _ missing => not_limit_of_ofInjection missing)
  exact fun op => h.discard (h.append op)

theorem matchField (h : Consulting f good) (declared : DeclaredField P) :
    good (matchField f declared) := by
  unfold Scan.matchField
  apply h.bind (h.hitsOf f declared.field.markers)
  intro hits
  split
  · exact h.pure _
  · exact h.throw rfl
  · exact h.throw rfl
  · exact h.inject declared _
  · exact h.forM fun g _ => h.showField declared g

theorem matchMethod (h : Consulting f good) (declared : DeclaredMethod P) :
    good (matchMethod f declared) := by
  unfold Scan.matchMethod
  apply h.bind (h.hitsOf f declared.method.markers)
  intro hits
  exact h.forM fun g _ => h.showMethod declared g

/-- A whole scan, if it may meet the limit and comes to its end with the property. -/
theorem scanWith (h : Consulting f good) (draining : Draining good)
    (finishes : ∀ contributors, good (finish (P := P) contributors))
    (marks : good (modify fun s : Scan P => { s with bean := { s.bean with scanned := true } }))
    (bean : Bean P) : good (scanWith f bean) := by
  have drains : good (drain f) := draining.drain h.resolveOperation
  have constructs : good (scanConstructor f bean.descriptor) := by
    unfold scanConstructor
    apply h.bind (h.decision fun _ none => not_limit_of_selectConstructor none)
    intro constructor
    apply h.bind h.nextId
    intro id
    exact h.bind (h.discard (h.append _)) fun _ => drains
  have rest : good (scanMembers f bean.descriptor >>= fun _ => get >>= fun s =>
      finish s.contributors >>= fun _ =>
        modify fun s : Scan P => { s with bean := { s.bean with scanned := true } }) := by
    apply h.bind
    · apply h.bind (h.forM fun declared _ => h.matchField declared)
      intro _
      exact h.bind (h.forM fun declared _ => h.matchMethod declared) fun _ => drains
    · intro _
      apply h.bind h.get
      intro s
      exact h.bind (finishes s.contributors) fun _ => marks
  unfold Scan.scanWith
  apply h.bind (h.checkClassMarkers f bean.descriptor)
  intro _
  split
  · exact h.bind constructs fun _ => rest
  · exact rest

end Consulting

end Scan

end Injector

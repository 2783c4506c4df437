import Injector.Proofs.Bean.Marked
import Injector.Proofs.Scan.Claim
import Injector.Proofs.Together
import Injector.Scan.Basic

/-!
# Scans in step

Two scans of the same bean go in step if they do wherever they look at their containers, call
handlers or fail. What there is to show of these is a `Pairing`; everything else a scan does is put
together from them, so the scans are in step from beginning to end.
-/

set_option autoImplicit false

namespace Injector

variable {P : Platform}

/-- What two scans that are in step have in common, and which of their errors count as one. -/
structure Terms (P : Platform) where
  like : Error → Error → Prop
  related : Scan P → Scan P → Prop
  /-- The scans are related, and the contributors take part in them. -/
  attended : Contributor P → Contributor P → Scan P → Scan P → Prop
  markers : MarkerType P → Prop
  extensions : ExtensionKey → Prop

namespace Scan

def Paired {α : Type} (like : Error → Error → Prop) (related : Scan P → Scan P → Prop)
    (good : α → Prop) (step step' : ScanM P α) : Prop :=
  ∀ s s', related s s' →
    Together like step step' s s' (fun a a' t t' => a = a' ∧ good a ∧ related t t') related

section Laws

variable {α β : Type} {like : Error → Error → Prop} {related : Scan P → Scan P → Prop}
  {good : α → Prop} {later : β → Prop} {step step' : ScanM P α} {next next' : α → ScanM P β}

theorem paired_pure {a : α} (h : good a) : Paired like related good (pure a) (pure a) :=
  fun _ _ hs => ⟨rfl, h, hs⟩

theorem paired_throw {e e' : Error} (h : like e e') :
    Paired like related good (throw e) (throw e') := fun _ _ hs => ⟨h, hs⟩

theorem Paired.bind (h : Paired like related good step step')
    (hn : ∀ a, good a → Paired like related later (next a) (next' a)) :
    Paired like related later (step >>= next) (step' >>= next') := by
  intro s s' hs
  apply (h s s' hs).bind
  rintro a _ t t' ⟨rfl, ha, ht⟩
  exact hn a ha t t' ht

theorem paired_except_bind {x : Except Error α} (refl : ∀ e, like e e)
    (h : ∀ a, x = .ok a → Paired like related later (next a) (next' a)) :
    Paired like related later (liftM x >>= next) (liftM x >>= next') := by
  cases x with
  | ok a => exact h a rfl
  | error e => exact paired_throw (refl e)

/-- A step that comes to the same in both. -/
theorem paired_of_same (refl : ∀ e, like e e)
    (h : ∀ s s', related s s' → (step s : Except Error α × Scan P).1 = (step' s').1 ∧
      related (step s).2 (step' s').2) : Paired like related (fun _ => True) step step' := by
  intro s s' hs
  obtain ⟨result, state⟩ := h s s' hs
  rcases run : (step s : Except Error α × Scan P) with ⟨e | a, t⟩
  all_goals
    rcases run' : (step' s' : Except Error α × Scan P) with ⟨e' | a', t'⟩
    all_goals
      rw [run, run'] at result state
      cases result
  · exact .of_error run run' (refl e) state
  · exact .of_ok run run' ⟨rfl, trivial, state⟩

theorem Paired.discard (h : Paired like related good step step') :
    Paired like related (fun _ => True) (Functor.discard step) (Functor.discard step') :=
  h.bind fun _ _ => paired_pure trivial

theorem paired_forM {xs : List α} {each each' : α → ScanM P PUnit}
    (h : ∀ x ∈ xs, Paired like related (fun _ => True) (each x) (each' x)) :
    Paired like related (fun _ => True) (xs.forM each) (xs.forM each') := by
  intro s s' hs
  have kept : Together like (xs.forM each) (xs.forM each') s s' (fun _ _ => related) related :=
    .forM hs fun x hx t t' ht => (h x hx t t' ht).mono (fun _ _ _ _ ht => ht.2.2) fun _ _ ht => ht
  exact kept.mono (fun _ _ _ _ ht => ⟨rfl, trivial, ht⟩) fun _ _ ht => ht

end Laws

section Answers

variable {f f' : ScanFrame P}

theorem bindSlot_congr (h : f'.beanType = f.beanType) (id index : Nat) (binding : Binding P) :
    bindSlot f' id index binding = bindSlot f id index binding := by
  unfold bindSlot operationAt
  rw [h]

/-- What a handler is answered depends on the container only where services are looked up. -/
theorem answerSlot_congr (beanType : f'.beanType = f.beanType) (r : BindingRequest P)
    {call : SlotCall P} (lookup : ∀ key, call = .bindService key → ∀ required,
      (f'.host.directory.lookup r.party key required : Except Error (Binding P)) =
        f.host.directory.lookup r.party key required) :
    answerSlot f' r call = answerSlot f r call := by
  have committed : commit f' r = commit f r :=
    funext fun binding => bindSlot_congr beanType _ _ binding
  have attached : attach f' r = attach f r := by
    unfold attach
    rw [committed]
  cases call with
  | bindValue value =>
    show (bindValue f' r value).run = (bindValue f r value).run
    unfold bindValue
    rw [committed]
  | bindNull =>
    show (bindNull f' r).run = (bindNull f r).run
    unfold bindNull
    rw [committed]
  | bindArgument argument =>
    show (bindArgument f' r argument).run = (bindArgument f r argument).run
    unfold bindArgument
    rw [committed]
  | bindFactory owner method =>
    show (bindFactory f' r owner method).run = (bindFactory f r owner method).run
    unfold bindFactory
    rw [attached]
  | bindConstructor owner =>
    show (bindConstructor f' r owner).run = (bindConstructor f r owner).run
    unfold bindConstructor
    rw [attached]
  | bindService key =>
    show (bindService f' r key).run = (bindService f r key).run
    unfold bindService
    rw [committed, lookup key rfl]
  | isBound => rfl

end Answers

def Leading (extensions : ExtensionKey → Prop) (hook : Option HookDescriptor) : Prop :=
  ∀ found, hook = some found → extensions found.extension

/-- Wherever the scans look at their containers or call handlers, they go the same way. -/
structure Pairing (t : Terms P) (f f' : ScanFrame P) : Prop where
  refl : ∀ e, t.like e e
  requiredBy : ∀ e e' target, t.like e e' → t.like (e.requiredBy target) (e'.requiredBy target)
  beanType : f'.beanType = f.beanType
  installer : f'.installer = f.installer
  limit : f'.host.limit = f.host.limit
  lookup : ∀ key required, Likewise t.like
    (f.host.directory.lookup f.installer key required : Except Error (Binding P))
    (f'.host.directory.lookup f.installer key required)
  bean : ∀ s s', t.related s s' → s'.bean = s.bean
  queue : ∀ s s', t.related s s' → s'.queue = s.queue
  remaining : ∀ s s', t.related s s' → s'.remaining = s.remaining
  typeHook : ∀ s s', t.related s s' → ∀ type,
    s'.catalog.typeHook? type = s.catalog.typeHook? type
  leads : ∀ s s', t.related s s' → ∀ type extension,
    s.catalog.typeHook? type = some extension → t.extensions extension
  marked : ∀ s s', t.related s s' → s.bean.MarkedWithin t.markers
  placed : ∀ s s' bean queue, t.related s s' → bean.MarkedWithin t.markers →
    t.related (s.place bean queue) (s'.place bean queue)
  spent : ∀ s s', t.related s s' → ∀ remaining,
    t.related { s with remaining } { s' with remaining }
  noted : ∀ event, Paired t.like t.related (fun _ => True) (record event) (record event)
  hooked : ∀ marker : Marker P, t.markers marker.toMarkerType →
    Paired t.like t.related (Leading t.extensions) (hookOf f marker) (hookOf f' marker)
  activated : ∀ key, t.extensions key → ∀ s s', t.related s s' →
    Together t.like (activate f key) (activate f' key) s s' t.attended t.related
  attended : ∀ c c' s s', t.attended c c' s s' → t.related s s' ∧ c'.context = c.context
  shown : ∀ event c c' s s', t.attended c c' s s' →
    Together t.like (record event) (record event) s s' (fun _ _ => t.attended c c')
      t.related
  onField : ∀ shown c c' s s', t.attended c c' s s' →
    Together t.like
      (converse c (.fieldMatched shown) (c.handler.onField shown) (answerField shown))
      (converse c' (.fieldMatched shown) (c'.handler.onField shown) (answerField shown))
      s s' (fun _ _ => t.related) t.related
  onMethod : ∀ shown c c' s s', MarkedWithin t.markers shown.method.params →
    t.attended c c' s s' → Together t.like
      (converse c (.methodMatched shown) (c.handler.onMethod shown) (answerMethod shown))
      (converse c' (.methodMatched shown) (c'.handler.onMethod shown) (answerMethod shown))
      s s' (fun _ _ => t.related) t.related
  onBinding : ∀ request c c' s s', request.party = f.installer → t.attended c c' s s' →
    Together t.like
      (converse c (.bindingRequested request) (c.handler.onBinding request)
        (answerSlot f request))
      (converse c' (.bindingRequested request) (c'.handler.onBinding request)
        (answerSlot f' request))
      s s' (fun _ _ => t.related) t.related
  ended : ∀ s s', t.related s s' → Together t.like (finish s.contributors)
    (finish s'.contributors) s s' (fun _ _ => t.related) t.related

namespace Pairing

variable {t : Terms P} {f f' : ScanFrame P} {α : Type}

/-- What depends on the bean and the queue alone goes the same way in both. -/
theorem apply_local (pairing : Pairing t f f') {step : StateM (Scan P) α}
    (h : Local (Bean.MarkedWithin t.markers) step) {s s' : Scan P} (hs : t.related s s') :
    (step s).1 = (step s').1 ∧ t.related (step s).2 (step s').2 := by
  obtain ⟨act, runs, keeps⟩ := h
  have marked := keeps s.bean s.queue (pairing.marked s s' hs)
  rw [runs s, runs s', pairing.bean s s' hs, pairing.queue s s' hs]
  exact ⟨rfl, pairing.placed s s' _ _ hs marked⟩

theorem paired_local (pairing : Pairing t f f') {step : ScanM P α}
    (h : Local (Bean.MarkedWithin t.markers) step.run) :
    Paired t.like t.related (fun _ => True) step step :=
  paired_of_same pairing.refl fun _ _ hs => pairing.apply_local h hs

/-- A step that only has to lead to states that are related again. -/
theorem paired_unit {step step' : ScanM P Unit}
    (h : ∀ s s', t.related s s' →
      Together t.like step step' s s' (fun _ _ => t.related) t.related) :
    Paired t.like t.related (fun _ => True) step step' := fun s s' hs =>
  (h s s' hs).mono (fun _ _ _ _ hu => ⟨rfl, trivial, hu⟩) fun _ _ hu => hu

section Steps

variable (pairing : Pairing t f f')
include pairing

theorem paired_operationAt (id : Nat) :
    Paired t.like t.related (fun op => MarkedWithin t.markers op.params) (operationAt f id)
      (operationAt f' id) := by
  intro s s' hs
  unfold operationAt
  rw [together_get, pairing.bean s s' hs, pairing.beanType]
  cases found : s.bean.operation? id with
  | none => exact together_throw (pairing.refl _) hs
  | some op => exact ⟨rfl, pairing.marked s s' hs id op found, hs⟩

theorem paired_append {op : Operation P} (marks : MarkedWithin t.markers op.params) :
    Paired t.like t.related (fun _ => True) (append op) (append op) :=
  pairing.paired_local (local_append ((upheld_markedWithin t.markers f).appended op marks))

theorem paired_bindToService (op : Operation P) (index : Nat) (parameter : Parameter P) :
    Paired t.like t.related (fun _ => True) (bindToService f op index parameter)
      (bindToService f' op index parameter) := by
  have found := pairing.lookup ⟨parameter.type, none⟩ (!parameter.optional)
  unfold bindToService
  rw [pairing.installer]
  generalize f.host.directory.lookup f.installer _ _ = here at found ⊢
  generalize f'.host.directory.lookup f.installer _ _ = there at found ⊢
  cases found with
  | ok binding =>
    dsimp only
    rw [bindSlot_congr pairing.beanType]
    exact pairing.paired_local
      (local_bindSlot ((upheld_markedWithin t.markers f).bound op.id index binding))
  | error like => exact paired_throw (pairing.requiredBy _ _ _ like)

theorem paired_bindingHook (target : String) {markers : List (Marker P)}
    (hm : ∀ marker ∈ markers, t.markers marker.toMarkerType) {found : Option (Hit P)}
    (hf : ∀ hit, found = some hit → t.extensions hit.hook.extension) :
    Paired t.like t.related (fun found => ∀ hit, found = some hit → t.extensions hit.hook.extension)
      (bindingHook f target found markers) (bindingHook f' target found markers) := by
  induction markers generalizing found with
  | nil => exact paired_pure hf
  | cons marker rest ih =>
    rw [List.forall_mem_cons] at hm
    unfold bindingHook
    apply (pairing.hooked marker hm.1).bind
    intro hook leading
    cases hook with
    | none => exact ih hm.2 hf
    | some hook =>
      dsimp only
      split
      · cases found with
        | some first => exact paired_throw (pairing.refl _)
        | none =>
          apply ih hm.2
          rintro _ ⟨⟩
          exact leading hook rfl
      · exact ih hm.2 hf

/-- The handler is shown the same in both. -/
theorem contextFor {c c' : Contributor P} {s s' : Scan P} (h : t.attended c c' s s')
    (extension : ExtensionKey) : c'.contextFor extension = c.contextFor extension := by
  rw [Contributor.contextFor, (pairing.attended c c' s s' h).2, Contributor.contextFor]

theorem paired_delegate (op : Operation P) (index : Nat) (parameter : Parameter P)
    {extension : ExtensionKey} (hk : t.extensions extension) (marker : Option (Marker P)) :
    Paired t.like t.related (fun _ => True) (delegate f op index parameter extension marker)
      (delegate f' op index parameter extension marker) := by
  intro s s' hs
  unfold delegate
  apply (pairing.activated extension hk s s' hs).bind
  intro c c' u u' attended
  rw [pairing.installer, pairing.contextFor attended]
  -- Only the party of the request decides how it is answered.
  generalize asked : BindingRequest.mk op index parameter marker f.installer
    (c.contextFor extension) = request
  have party : request.party = f.installer := by rw [← asked]
  apply (pairing.shown _ c c' u u' attended).bind
  intro _ _ u u' attended
  apply Together.bind
  · apply Together.rethrow
    · exact pairing.onBinding request c c' u u' party attended
    · exact fun e e' like => pairing.requiredBy e e' _ like
  · intro _ _ v v' hv
    apply (pairing.paired_local (local_bindingAt op.id index) v v' hv).bind
    rintro binding _ v v' ⟨rfl, -, hv⟩
    cases binding with
    | some binding => exact ⟨rfl, trivial, hv⟩
    | none => exact together_throw (pairing.refl _) hv

theorem paired_resolveParameter (id index : Nat) {parameter : Parameter P}
    (hm : ∀ marker ∈ parameter.markers, t.markers marker.toMarkerType) :
    Paired t.like t.related (fun _ => True) (resolveParameter f id index parameter)
      (resolveParameter f' id index parameter) := by
  unfold resolveParameter
  apply (pairing.paired_operationAt id).bind
  intro op _
  have unmarked : ∀ hit, (none : Option (Hit P)) = some hit → t.extensions hit.hook.extension :=
    fun _ some => by cases some
  apply (pairing.paired_bindingHook _ hm unmarked).bind
  intro hit leading
  cases hit with
  | some hit => exact pairing.paired_delegate op index parameter (leading hit rfl) _
  | none =>
    intro s s' hs
    rw [together_get]
    dsimp only
    rw [pairing.typeHook s s' hs]
    cases hooked : s.catalog.typeHook? parameter.type with
    | some extension =>
      have leads := pairing.leads s s' hs _ _ hooked
      exact pairing.paired_delegate op index parameter leads _ s s' hs
    | none => exact pairing.paired_bindToService op index parameter s s' hs

theorem paired_resolveParameters (id : Nat) {params : List (Parameter P)}
    (marks : MarkedWithin t.markers params) (index : Nat) :
    Paired t.like t.related (fun _ => True) (resolveParameters f id index params)
      (resolveParameters f' id index params) := by
  induction params generalizing index with
  | nil => exact paired_pure trivial
  | cons parameter rest ih =>
    have later := ih (fun p hp => marks p (by simp [hp])) (index + 1)
    unfold resolveParameters
    apply (pairing.paired_local (local_bindingAt id index)).bind
    intro binding _
    cases binding with
    | some binding => exact later
    | none =>
      apply (pairing.paired_resolveParameter id index (marks parameter (by simp))).bind
      exact fun _ _ => later

theorem paired_resolveOperation (id : Nat) :
    Paired t.like t.related (fun _ => True) (resolveOperation f id) (resolveOperation f' id) := by
  unfold resolveOperation
  apply (pairing.paired_operationAt id).bind
  intro op marks
  exact pairing.paired_resolveParameters id marks 0

theorem paired_dequeue : Paired t.like t.related (fun _ => True) dequeue dequeue := by
  intro s s' hs
  have marked := pairing.marked s s' hs
  have bean := pairing.bean s s' hs
  unfold dequeue
  rw [together_get, pairing.queue s s' hs]
  cases s.queue with
  | nil => exact ⟨rfl, trivial, hs⟩
  | cons id queue =>
    refine ⟨rfl, trivial, ?_⟩
    show t.related (s.place s.bean queue) (s'.place s'.bean queue)
    rw [bean]
    exact pairing.placed s s' s.bean queue hs marked

theorem paired_spend : Paired t.like t.related (fun _ => True) spend spend := by
  intro s s' hs
  refine ⟨rfl, trivial, ?_⟩
  show t.related { s with remaining := s.remaining - 1 }
    { s' with remaining := s'.remaining - 1 }
  rw [pairing.remaining s s' hs]
  exact pairing.spent s s' hs _

/-- The queues run dry together, or the limit is met in both. -/
theorem paired_drainWithin (remaining : Nat) :
    Paired t.like t.related (fun _ => True) (drainWithin f remaining)
      (drainWithin f' remaining) := by
  induction remaining with
  | zero =>
    unfold drainWithin
    rw [pairing.beanType, pairing.limit]
    apply pairing.paired_dequeue.bind
    intro taken _
    cases taken with
    | none => exact paired_pure trivial
    | some id => exact paired_throw (pairing.refl _)
  | succ remaining ih =>
    unfold drainWithin
    apply pairing.paired_dequeue.bind
    intro taken _
    cases taken with
    | none => exact paired_pure trivial
    | some id =>
      apply pairing.paired_spend.bind
      intro _ _
      apply (pairing.noted (.resolving id)).bind
      intro _ _
      exact (pairing.paired_resolveOperation id).bind fun _ _ => ih

theorem paired_drain : Paired t.like t.related (fun _ => True) (drain f) (drain f') := by
  intro s s' hs
  unfold drain
  rw [together_get]
  dsimp only
  rw [pairing.remaining s s' hs]
  exact pairing.paired_drainWithin s.remaining s s' hs

theorem paired_hitsOf {markers : List (Marker P)}
    (hm : ∀ marker ∈ markers, t.markers marker.toMarkerType) :
    Paired t.like t.related (fun hits => ∀ hit ∈ hits, t.extensions hit.hook.extension)
      (hitsOf f markers) (hitsOf f' markers) := by
  induction markers with
  | nil => exact paired_pure (List.forall_mem_nil _)
  | cons marker rest ih =>
    rw [List.forall_mem_cons] at hm
    unfold hitsOf
    apply (pairing.hooked marker hm.1).bind
    intro hook leading
    cases hook with
    | none => exact ih hm.2
    | some hook =>
      apply (ih hm.2).bind
      intro hits all
      exact paired_pure (List.forall_mem_cons.mpr ⟨leading hook rfl, all⟩)

theorem paired_showField (declared : DeclaredField P) {g : HookGroup P}
    (hk : t.extensions g.extension) :
    Paired t.like t.related (fun _ => True) (showField f declared g) (showField f' declared g) := by
  apply paired_unit
  intro s s' hs
  unfold showField
  apply (pairing.activated _ hk s s' hs).bind
  intro c c' u u' attended
  dsimp only
  rw [pairing.contextFor attended]
  apply (pairing.shown _ c c' u u' attended).bind
  intro _ _ u u' attended
  exact pairing.onField _ c c' u u' attended

theorem paired_showMethod {declared : DeclaredMethod P}
    (marks : MarkedWithin t.markers declared.method.params) {g : HookGroup P}
    (hk : t.extensions g.extension) :
    Paired t.like t.related (fun _ => True) (showMethod f declared g)
      (showMethod f' declared g) := by
  apply paired_unit
  intro s s' hs
  unfold showMethod
  apply (pairing.activated _ hk s s' hs).bind
  intro c c' u u' attended
  dsimp only
  rw [pairing.contextFor attended]
  apply (pairing.shown _ c c' u u' attended).bind
  intro _ _ u u' attended
  exact pairing.onMethod _ c c' u u' marks attended

theorem paired_inject {declared : DeclaredField P}
    (hm : ∀ marker ∈ declared.field.markers, t.markers marker.toMarkerType)
    {extension : ExtensionKey} (hk : t.extensions extension) :
    Paired t.like t.related (fun _ => True) (inject f declared extension)
      (inject f' declared extension) := by
  intro s s' hs
  unfold inject
  apply (pairing.activated _ hk s s' hs).bind
  intro c c' u u' attended
  dsimp only
  rw [pairing.contextFor attended]
  refine paired_except_bind pairing.refl (fun _ _ => ?_) u u'
    (pairing.attended c c' u u' attended).1
  apply (pairing.paired_local local_nextId).bind
  intro id _
  apply paired_except_bind pairing.refl
  intro op made
  exact (pairing.paired_append (markedWithin_ofInjection hm made)).discard

theorem paired_matchField {declared : DeclaredField P}
    (hm : ∀ marker ∈ declared.field.markers, t.markers marker.toMarkerType) :
    Paired t.like t.related (fun _ => True) (matchField f declared) (matchField f' declared) := by
  unfold matchField
  apply (pairing.paired_hitsOf hm).bind
  intro hits all
  cases claimed : FieldClaim.ofHits hits with
  | unclaimed => exact paired_pure trivial
  | conflict member binding => exact paired_throw (pairing.refl _)
  | duplicate first second => exact paired_throw (pairing.refl _)
  | injected binding =>
    have listed : binding ∈ hits.filter (·.hook.capabilities.binding) := by
      rw [(FieldClaim.injected_eq claimed).2]
      exact List.mem_cons_self
    exact pairing.paired_inject hm (all binding (List.mem_filter.mp listed).1)
  | matched groups =>
    obtain rfl := FieldClaim.matched_eq claimed
    apply paired_forM
    intro g hg
    have leading := HookGroup.forall_ofHits (fun hit hh => all hit (List.mem_filter.mp hh).1) g hg
    exact pairing.paired_showField declared leading

theorem paired_matchMethod {declared : DeclaredMethod P}
    (hm : ∀ marker ∈ declared.method.markers, t.markers marker.toMarkerType)
    (marks : MarkedWithin t.markers declared.method.params) :
    Paired t.like t.related (fun _ => True) (matchMethod f declared)
      (matchMethod f' declared) := by
  unfold matchMethod
  apply (pairing.paired_hitsOf hm).bind
  intro hits all
  apply paired_forM
  intro g hg
  have leading := HookGroup.forall_ofHits (fun hit hh => all hit (List.mem_filter.mp hh).1) g hg
  exact pairing.paired_showMethod marks leading

theorem paired_scanConstructor {cls : ClassDescriptor P} (hcls : cls.MarkedWithin t.markers) :
    Paired t.like t.related (fun _ => True) (scanConstructor f cls) (scanConstructor f' cls) := by
  unfold scanConstructor
  rw [pairing.installer]
  apply paired_except_bind pairing.refl
  intro constructor selected
  have marks := hcls.constructor (ClassDescriptor.mem_of_selectConstructor selected)
  apply (pairing.paired_local local_nextId).bind
  intro id _
  apply Paired.bind
  · apply Paired.discard
    apply pairing.paired_append
    rw [Operation.params_of_slots rfl]
    exact marks
  · exact fun _ _ => pairing.paired_drain

theorem paired_scanMembers {cls : ClassDescriptor P} (hcls : cls.MarkedWithin t.markers) :
    Paired t.like t.related (fun _ => True) (scanMembers f cls) (scanMembers f' cls) := by
  unfold scanMembers
  apply (paired_forM fun declared hd => pairing.paired_matchField (hcls.field hd)).bind
  intro _ _
  apply (paired_forM fun declared hd =>
    pairing.paired_matchMethod (hcls.method hd).1 (hcls.method hd).2).bind
  exact fun _ _ => pairing.paired_drain

/-- What a scan does last: the handlers are told, and the bean counts as scanned. -/
theorem paired_finish : Paired t.like t.related (fun _ => True)
    (get >>= fun s : Scan P => finish s.contributors >>= fun _ =>
      modify fun s => { s with bean := { s.bean with scanned := true } })
    (get >>= fun s : Scan P => finish s.contributors >>= fun _ =>
      modify fun s => { s with bean := { s.bean with scanned := true } }) := by
  apply paired_unit
  intro s s' hs
  rw [together_get]
  apply (pairing.ended s s' hs).bind
  intro _ _ u u' hu
  show t.related (u.place { u.bean with scanned := true } u.queue)
    (u'.place { u'.bean with scanned := true } u'.queue)
  rw [pairing.bean u u' hu, pairing.queue u u' hu]
  exact pairing.placed u u' _ _ hu (pairing.marked u u' hu)

/-- The scans are in step. -/
theorem paired_scanWith {bean : Bean P} (hcls : bean.descriptor.MarkedWithin t.markers) :
    Paired t.like t.related (fun _ => True) (scanWith f bean) (scanWith f' bean) := by
  have checked : Paired t.like t.related (fun _ => True) (checkClassMarkers f bean.descriptor)
      (checkClassMarkers f' bean.descriptor) :=
    paired_forM fun marker hm => (pairing.hooked marker (hcls.markers marker hm)).discard
  have members := (pairing.paired_scanMembers hcls).bind fun _ _ => pairing.paired_finish
  unfold scanWith
  apply checked.bind
  intro _ _
  split
  · exact (pairing.paired_scanConstructor hcls).bind fun _ _ => members
  · exact members

end Steps

end Pairing

end Scan

end Injector

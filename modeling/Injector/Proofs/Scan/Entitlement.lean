import Injector.Proofs.Scan.Attempt
import Injector.Proofs.Scan.Warrant

/-!
# Whole scans make only operations that they are entitled to

The walk over the members shows an extension the markers that lead to it, and with them what it may
do; the queue is worked off by asking extensions or looking up services.
-/

set_option autoImplicit false

namespace Injector

variable {P : Platform}

namespace Scan

variable {f : ScanFrame P} {cls : ClassDescriptor P} {base : Nat} {s : Scan P}

section Members

theorem warrants_hookOf (hs : Warranted f cls base s) (marker : Marker P) :
    Warrants f cls base s (hookOf f marker) fun hook s' =>
      ∃ found, s'.catalog.Maps f.model marker.toMarkerType found ∧ hook = found.map (·.value) := by
  unfold hookOf
  apply (warrants_withCatalog hs (fun w => Catalog.confined_lookup w f.model _)
    (Catalog.ends_lookup_maps s.world f.model _ s.catalog)).bind
  intro found s' _ hs' maps
  exact .pure hs' ⟨found, maps, rfl⟩

theorem warrants_hitsOf (hs : Warranted f cls base s) (markers : List (Marker P)) :
    Warrants f cls base s (hitsOf f markers) fun hits s' =>
      Found s'.catalog f.model markers hits := by
  induction markers generalizing s with
  | nil => exact .pure hs .nil
  | cons marker rest ih =>
    unfold hitsOf
    apply (warrants_hookOf hs marker).bind
    rintro _ s' _ hs' ⟨found, maps, rfl⟩
    cases found with
    | none =>
      apply Ends.imp (ih hs')
      rintro hits s'' ⟨⟨later, hs''⟩, found⟩
      exact ⟨⟨later, hs''⟩, .skip (maps.mono later.catalog) found⟩
    | some hook =>
      apply (ih hs').bind
      intro hits s'' later hs'' found
      exact .pure hs'' (.hit (maps.mono later.catalog) found)

/-- What an extension is told of a scan that it may reach. -/
theorem mayReach_of_standsFor {key : ExtensionKey} {c : Contributor P} (h : StandsFor f key c)
    {owner : ClassDescriptor P} {member : String} {visibility : Visibility}
    (access : checkAccess owner member visibility (c.contextFor key) = .ok ()) :
    f.installer.MayReach key owner visibility := by
  apply Party.mayReach_of_checkAccess access
  rw [ScanFrame.contextFor_eq h.2 h.1]
  exact id

theorem warrants_showField {declared : DeclaredField P} (walked : declared ∈ cls.fieldWalk)
    {g : HookGroup P} {hits : List (Hit P)}
    (hg : g ∈ HookGroup.ofHits (hits.filter (·.hook.capabilities.isFieldHook)))
    (hs : Warranted f cls base s) (found : Found s.catalog f.model declared.field.markers hits) :
    Warrants f cls base s (showField f declared g) fun _ _ => True := by
  unfold showField
  apply (warrants_activate hs g.extension).bind
  intro c s₁ later₁ hs₁ stands
  dsimp only
  let m : FieldMatch P :=
    ⟨declared.owner, declared.field, g.markers, g.caps, c.contextFor g.extension⟩
  apply (lawful_record (by simp) (by simp) s₁ hs₁).bind
  intro _ s₂ later₂ hs₂ _
  apply warrants_converse hs₂
  intro s' later call
  apply local_answerField upheld_standing
  intro allowed access id op built
  have known := found.mono ((later₁.trans later₂).trans later).catalog
  rw [FieldMatch.allows_eq] at allowed
  obtain ⟨hit, hh, leads, permits⟩ := HookGroup.exists_allowing hg allowed
  obtain ⟨hh, kind⟩ := List.mem_filter.mp hh
  have enough : hit.hook.capabilities.permits call = true := by
    cases call with
    | newGetter => exact Bool.and_eq_true_iff.mpr ⟨kind, permits⟩
    | newSetter => exact Bool.and_eq_true_iff.mpr ⟨kind, permits⟩
  exact .field (m := m) walked (known.marked hh leads enough) (mayReach_of_standsFor stands access)
    built (.refl op)

theorem warrants_showMethod {declared : DeclaredMethod P} (walked : declared ∈ cls.methodWalk)
    {g : HookGroup P} {hits : List (Hit P)}
    (hg : g ∈ HookGroup.ofHits (hits.filter (·.hook.capabilities.isMethodHook)))
    (hs : Warranted f cls base s) (found : Found s.catalog f.model declared.method.markers hits) :
    Warrants f cls base s (showMethod f declared g) fun _ _ => True := by
  unfold showMethod
  apply (warrants_activate hs g.extension).bind
  intro c s₁ later₁ hs₁ stands
  dsimp only
  let m : MethodMatch P := ⟨declared.owner, declared.method, g.markers, c.contextFor g.extension⟩
  apply (lawful_record (by simp) (by simp) s₁ hs₁).bind
  intro _ s₂ later₂ hs₂ _
  apply warrants_converse hs₂
  intro s' later call
  apply local_answerMethod upheld_standing
  intro access id op built
  have known := found.mono ((later₁.trans later₂).trans later).catalog
  obtain ⟨hit, hh, leads⟩ := HookGroup.exists_hit hg
  obtain ⟨hh, kind⟩ := List.mem_filter.mp hh
  exact .method (m := m) walked (known.marked hh leads kind) (mayReach_of_standsFor stands access)
    built (.refl op)

theorem warrants_append (hs : Warranted f cls base s) {op : Operation P}
    (origin : Origin f cls s.catalog s.transcript.toList op) :
    Warrants f cls base s (append op) fun _ _ => True :=
  ⟨hs.place (upheld_standing.appended op origin s.bean hs.standing), trivial⟩

theorem warrants_inject {declared : DeclaredField P} (walked : declared ∈ cls.fieldWalk)
    {hits : List (Hit P)} {binding : Hit P} (injected : FieldClaim.ofHits hits = .injected binding)
    (hs : Warranted f cls base s) (found : Found s.catalog f.model declared.field.markers hits) :
    Warrants f cls base s (inject f declared binding.hook.extension) fun _ _ => True := by
  unfold inject
  apply (warrants_activate hs _).bind
  intro c s₁ later₁ hs₁ stands
  unfold Warrants
  rw [ends_bind, ends_except]
  refine ⟨fun _ access => ?_, fun _ _ => ⟨.refl s₁, hs₁⟩⟩
  apply (lawful_compositional.nextId s₁ hs₁).bind
  intro id s₂ later₂ hs₂ _
  unfold Warrants
  rw [ends_bind, ends_except]
  refine ⟨fun op built => ends_discard.mpr ?_, fun _ _ => ⟨.refl s₂, hs₂⟩⟩
  have reached : f.installer.MayReach binding.hook.extension declared.owner
      declared.field.visibility := mayReach_of_standsFor stands access
  have known := (found.mono (later₁.trans later₂).catalog).soleBinding injected
  exact warrants_append hs₂ (.injection walked known reached built (.refl op))

theorem lawful_matchField {declared : DeclaredField P} (walked : declared ∈ cls.fieldWalk) :
    Lawful f cls base (matchField f declared) := by
  intro s hs
  unfold matchField
  apply (warrants_hitsOf hs declared.field.markers).bind
  intro hits s₁ _ hs₁ found
  cases claimed : FieldClaim.ofHits hits with
  | unclaimed => exact .pure hs₁ trivial
  | conflict member binding => exact .throw hs₁
  | duplicate first second => exact .throw hs₁
  | injected binding => exact warrants_inject walked claimed hs₁ found
  | matched groups =>
    obtain rfl := FieldClaim.matched_eq claimed
    apply Warrants.forM hs₁
    intro g hg s₂ later hs₂
    exact warrants_showField walked hg hs₂ (found.mono later.catalog)

theorem lawful_matchMethod {declared : DeclaredMethod P} (walked : declared ∈ cls.methodWalk) :
    Lawful f cls base (matchMethod f declared) := by
  intro s hs
  unfold matchMethod
  apply (warrants_hitsOf hs declared.method.markers).bind
  intro hits s₁ _ hs₁ found
  apply Warrants.forM hs₁
  intro g hg s₂ later hs₂
  exact warrants_showMethod walked hg hs₂ (found.mono later.catalog)

end Members

section Queue

theorem warrants_resolveParameter {id index : Nat} {parameter : Parameter P} {op : Operation P}
    (hs : Warranted f cls base s) (ho : s.bean.operation? id = some op)
    (hp : op.params[index]? = some parameter) :
    Warrants f cls base s (resolveParameter f id index parameter) fun _ _ => True := by
  unfold resolveParameter Warrants
  rw [ends_bind, ends_of_ok (operationAt_of_some f ho)]
  apply (lawful_compositional.bindingHook f _ _ none s hs).bind
  intro hit s₁ later hs₁ _
  have held : Holds s₁.bean op := Holds.mono ⟨id, op, ho, .refl op⟩ later.bean
  cases hit with
  | some hit => exact warrants_delegate hs₁ held hp _ _
  | none =>
    unfold Warrants
    rw [ends_bind, ends_get]
    split
    next => exact warrants_delegate hs₁ held hp _ _
    next => exact lawful_bindToService op index parameter s₁ hs₁

/-- The parameters that are left are those of the operation from `index` on. -/
theorem warrants_resolveParameters {id index : Nat} {parameters : List (Parameter P)}
    (hs : Warranted f cls base s)
    (left : ∃ op, s.bean.operation? id = some op ∧ op.params.drop index = parameters) :
    Warrants f cls base s (resolveParameters f id index parameters) fun _ _ => True := by
  induction parameters generalizing index s with
  | nil => exact .pure hs trivial
  | cons parameter rest ih =>
    obtain ⟨op, ho, hd⟩ := left
    obtain ⟨hp, hrest⟩ := getElem?_of_drop hd
    have next : ∀ s', Later s s' →
        ∃ op, s'.bean.operation? id = some op ∧ op.params.drop (index + 1) = rest := by
      intro s' later
      obtain ⟨op', ho', grown⟩ := later.bean.operations id op ho
      exact ⟨op', ho', by rw [grown.params, hrest]⟩
    unfold resolveParameters
    have looked : Warrants f cls base s (bindingAt id index) fun _ s' => s' = s :=
      ⟨⟨.refl s, hs⟩, rfl⟩
    apply looked.bind
    rintro binding _ _ _ rfl
    cases binding with
    | some _ => exact ih hs (next _ (.refl _))
    | none =>
      apply (warrants_resolveParameter hs ho hp).bind
      intro _ s' later hs' _
      exact ih hs' (next s' later)

theorem lawful_resolveOperation (id : OperationId) :
    Lawful f cls base (resolveOperation f id) := by
  intro s hs
  unfold resolveOperation Warrants
  rw [ends_bind]
  cases ho : s.bean.operation? id with
  | none =>
    unfold Ends
    rw [operationAt_of_none f ho]
    exact ⟨.refl s, hs⟩
  | some op =>
    rw [ends_of_ok (operationAt_of_some f ho)]
    exact warrants_resolveParameters hs ⟨op, ho, rfl⟩

theorem lawful_dequeue : Lawful f cls base (dequeue (P := P)) := by
  intro s hs
  unfold dequeue Warrants
  rw [ends_bind, ends_get]
  split
  · exact ⟨⟨.refl s, hs⟩, trivial⟩
  · exact ⟨hs.of_eq rfl rfl rfl rfl, trivial⟩

theorem lawful_spend : Lawful f cls base (spend (P := P)) :=
  lawful_modify fun _ => ⟨rfl, rfl, rfl, rfl⟩

theorem lawful_drainWithin (remaining : Nat) : Lawful f cls base (drainWithin f remaining) := by
  induction remaining with
  | zero =>
    unfold drainWithin
    apply lawful_dequeue.bind
    intro taken
    cases taken with
    | none => exact lawful_compositional.pure _
    | some _ => exact lawful_throw _
  | succ remaining ih =>
    unfold drainWithin
    apply lawful_dequeue.bind
    intro taken
    cases taken with
    | none => exact lawful_compositional.pure _
    | some id =>
      apply lawful_spend.bind
      intro _
      apply (lawful_record (by simp) (by simp)).bind
      intro _
      exact (lawful_resolveOperation id).bind fun _ => ih

theorem lawful_drain : Lawful f cls base (drain f) :=
  fun s hs => lawful_drainWithin s.remaining s hs

end Queue

section Scans

theorem lawful_finish (contributors : List (Contributor P)) :
    Lawful f cls base (finish contributors) := by
  induction contributors with
  | nil => exact lawful_compositional.pure _
  | cons c rest ih =>
    unfold finish
    apply (lawful_record (by simp) (by simp)).bind
    intro _
    apply lawful_compositional.get.bind
    intro s
    apply (lawful_close _ _).bind
    intro _
    exact (lawful_settle _).bind fun _ => ih

theorem lawful_scanConstructor : Lawful f cls base (scanConstructor f cls) := by
  intro s hs
  unfold scanConstructor Warrants
  rw [ends_bind, ends_except]
  refine ⟨fun constructor selected => ?_, fun _ _ => ⟨.refl s, hs⟩⟩
  apply (lawful_compositional.nextId s hs).bind
  intro id s₁ _ hs₁ _
  have appended : Warrants f cls base s₁ (Functor.discard (append
      (Operation.ofConstructor id cls constructor f.installer none))) fun _ _ => True :=
    ends_discard.mpr (warrants_append hs₁ (.constructor selected (.refl _)))
  exact appended.bind fun _ s₂ _ hs₂ _ => lawful_drain s₂ hs₂

theorem lawful_scanMembers : Lawful f cls base (scanMembers f cls) := by
  unfold scanMembers
  apply Lawful.bind fun s hs => .forM hs fun _ walked s' _ hs' => lawful_matchField walked s' hs'
  intro _
  apply Lawful.bind fun s hs => .forM hs fun _ walked s' _ hs' => lawful_matchMethod walked s' hs'
  exact fun _ => lawful_drain

theorem Warranted.close (hs : Warranted f cls base s) :
    Later s { s with bean := { s.bean with scanned := true } } ∧
      Warranted f cls base { s with bean := { s.bean with scanned := true } } :=
  have closed := (Change.close (f := f) (b := s.bean)).grows
  hs.place ⟨closed, hs.founded.entitled, fun r asked => (hs.founded.posed r asked).mono closed⟩

theorem lawful_scanWith (bean : Bean P) (described : bean.descriptor = cls) :
    Lawful f cls base (scanWith f bean) := by
  have rest : Lawful f cls base (scanMembers f bean.descriptor >>= fun _ => get >>= fun s =>
      finish s.contributors >>= fun _ =>
        modify fun s => { s with bean := { s.bean with scanned := true } }) := by
    rw [described]
    apply lawful_scanMembers.bind
    intro _
    apply lawful_compositional.get.bind
    intro s
    exact (lawful_finish s.contributors).bind fun _ s hs => warrants_modify hs.close
  unfold scanWith
  apply (lawful_compositional.checkClassMarkers f bean.descriptor).bind
  intro _
  split
  · rw [described] at rest ⊢
    exact lawful_scanConstructor.bind fun _ => rest
  · exact rest

/-- Before a scan there is nothing to be entitled to. -/
theorem warranted_begin (f : ScanFrame P) (cls : ClassDescriptor P)
    (contributors : s.contributors = []) (transcript : s.transcript = #[]) :
    Warranted f cls s.bean.operations.size s := by
  refine ⟨by simp [contributors], ⟨?_, by simp [transcript]⟩, ?_⟩
  · intro id op le ho
    exact absurd (Bean.lt_of_operation? ho) (Nat.not_lt.mpr le)
  · intro past bean rest cut
    simp [transcript] at cut

/-- What a scan leaves: the model of the class is known, and the scan was entitled to all that it
made; or the model could not be had, and nothing was made. -/
def Upright (b : Bean P) (s : Scan P) : Prop :=
  (∃ f : ScanFrame P, f.installer = b.installer ∧ s.catalog.model? b.type = some f.model ∧
    Warranted f b.descriptor b.operations.size s) ∨
  (s.bean = b ∧ s.transcript = #[])

theorem ends_scanBean_upright (host : Host P) (contributors : s.contributors = [])
    (transcript : s.transcript = #[]) :
    Ends (scanBean host) s (fun _ s' => Upright s.bean s') fun _ s' => Upright s.bean s' := by
  have nothing : ∀ catalog, Upright s.bean { s with catalog } := fun _ => .inr ⟨rfl, transcript⟩
  apply ends_scanBean_of
  · exact fun _ => nothing s.catalog
  rw [ends_withCatalog]
  apply ((Catalog.ends_modelFor_known s.world s.bean.descriptor s.catalog).and
    (Catalog.confined_modelFor s.world s.bean.descriptor s.catalog)).mono
  · rintro model learned ⟨known, grows⟩
    let f : ScanFrame P := ⟨host, model, s.bean.type, s.bean.installer⟩
    have upright : ∀ s', Later { s with catalog := learned } s' ∧
        Warranted f s.bean.descriptor s.bean.operations.size s' → Upright s.bean s' := by
      rintro s' ⟨later, hs'⟩
      exact .inl ⟨f, rfl, later.catalog.models _ _ known, hs'⟩
    have start := warranted_begin f s.bean.descriptor contributors transcript
    apply Ends.mono (lawful_scanWith (f := f) s.bean rfl _ (start.learn grows).2)
    · exact fun _ s' h => upright s' h.1
    · exact fun _ s' h => upright s' h
  · exact fun _ catalog _ => nothing catalog

end Scans

end Scan

end Injector

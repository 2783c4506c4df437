import Injector.Proofs.Handler
import Injector.Proofs.Scan.Pairing

/-!
# Two scans of the same bean on containers with different pasts

What can be seen of them is the same: the bean, the queue, the limit and the transcript; and what
their containers have learned and installed cannot be told apart. Looking up hooks keeps it so, and
so do the calls of handlers.
-/

set_option autoImplicit false

namespace Injector

variable {P : Platform}

structure Host.Twins (b : Builder P) (installer : Party) (host host' : Host P) : Prop where
  make : host.make = b.make
  make' : host'.make = b.make
  limit : host'.limit = host.limit
  lookup : ∀ key required, (host'.directory.lookup installer key required :
    Except Error (Binding P)) = host.directory.lookup installer key required

structure ScanFrame.Twins (V : Usage P) (b : Builder P) (f f' : ScanFrame P) : Prop
    extends Host.Twins b f.installer f.host f'.host where
  beanType : f'.beanType = f.beanType
  installer : f'.installer = f.installer
  agree : V.Agree f.model f'.model
  leads : V.Leads f.model

namespace Scan

structure Twins (V : Usage P) (b : Builder P) (cs cs' : List (Contributor P)) (s s' : Scan P) :
    Prop where
  bean : s'.bean = s.bean
  queue : s'.queue = s.queue
  remaining : s'.remaining = s.remaining
  transcript : s'.transcript = s.transcript
  contributors : s.contributors = cs
  contributors' : s'.contributors = cs'
  preset : Option.Rel (Handler.Alike V) s.preset s'.preset
  left : V.Kept b s.catalog s.extensions
  right : V.Kept b s'.catalog s'.extensions
  marked : s.bean.MarkedWithin V.markers

section Steps

variable {α : Type} {V : Usage P} {b : Builder P} {f f' : ScanFrame P} {s s' : Scan P}
  {cs cs' : List (Contributor P)}

theorem Twins.setWorld (hs : Twins V b cs cs' s s') (w w' : P.World) :
    Twins V b cs cs' { s with world := w } { s' with world := w' } := { hs with }

theorem Twins.close (hs : Twins V b cs cs' s s') (call call' : Call P) (w w' : P.World) :
    Twins V b cs cs' { s with world := w, calls := s.calls.push call }
      { s' with world := w', calls := s'.calls.push call' } := { hs with }

theorem Twins.record (hs : Twins V b cs cs' s s') (event : ScanEvent P) :
    Twins V b cs cs' { s with transcript := s.transcript.push event }
      { s' with transcript := s'.transcript.push event } :=
  { hs with transcript := by rw [hs.transcript] }

theorem Twins.learn (hs : Twins V b cs cs' s s') {c c' : Catalog} (both : Catalog.Both V c c')
    (types : c.typeHooks = s.catalog.typeHooks) (types' : c'.typeHooks = s'.catalog.typeHooks) :
    Twins V b cs cs' { s with catalog := c } { s' with catalog := c' } :=
  { hs with
    left := hs.left.learn both.left types
    right := hs.right.learn both.right types' }

theorem Twins.join (hs : Twins V b cs cs' s s') (c c' : Contributor P) :
    Twins V b (cs ++ [c]) (cs' ++ [c']) { s with contributors := s.contributors ++ [c] }
      { s' with contributors := s'.contributors ++ [c'] } :=
  { hs with
    contributors := by rw [hs.contributors]
    contributors' := by rw [hs.contributors'] }

theorem Twins.remember (hs : Twins V b cs cs' s s') (c c' : Contributor P)
    (memory memory' : P.Memory) :
    Twins V b (Scan.remember c memory cs) (Scan.remember c' memory' cs')
      { s with contributors := Scan.remember c memory s.contributors }
      { s' with contributors := Scan.remember c' memory' s'.contributors } :=
  { hs with
    contributors := by rw [hs.contributors]
    contributors' := by rw [hs.contributors'] }

theorem Twins.place (hs : Twins V b cs cs' s s') (bean : Bean P) (queue : List OperationId)
    (marked : bean.MarkedWithin V.markers) :
    Twins V b cs cs' (s.place bean queue) (s'.place bean queue) :=
  { hs with
    bean := rfl
    queue := rfl
    marked }

theorem Twins.observe (hs : Twins V b cs cs' s s') :
    Twins V b cs cs' (Scan.observe s).2 (Scan.observe s').2 := by
  have same : ScanEvent.stood (.of s'.bean) = .stood (.of s.bean) := by rw [hs.bean]
  show Twins V b cs cs' { s with transcript := s.transcript.push (.stood (.of s.bean)) }
    { s' with transcript := s'.transcript.push (.stood (.of s'.bean)) }
  rw [same]
  exact hs.record (.stood (.of s.bean))

/-- A call of a handler goes the same way in both. -/
theorem Twins.local {step : StateM (Scan P) α} (hs : Twins V b cs cs' s s')
    (h : Local (Bean.MarkedWithin V.markers) step) :
    (step s).1 = (step s').1 ∧ Twins V b cs cs' (step s).2 (step s').2 := by
  obtain ⟨act, runs, keeps⟩ := h
  have marked := keeps s.bean s.queue hs.marked
  rw [runs s, runs s', hs.bean, hs.queue]
  exact ⟨rfl, hs.place _ _ marked⟩

theorem paired_record (event : ScanEvent P) :
    Paired Eq (Twins V b cs cs') (fun _ => True) (Scan.record event) (Scan.record event) :=
  fun _ _ hs => ⟨rfl, trivial, hs.record event⟩

theorem paired_settle (result : Except Error Unit) :
    Paired Eq (Twins V b cs cs') (fun _ => True) (settle result) (settle result) := by
  unfold settle
  apply (paired_record _).bind
  intro _ _ s s' hs
  exact together_except (likewise_refl (fun _ => rfl) _) (fun _ _ => ⟨rfl, trivial, hs⟩)
    fun _ _ => hs

/-- What goes the same way on any two faithful catalogs does so in the scans. -/
theorem together_withCatalog {step step' : P.World → CatalogM α} {ok : α → α → Prop}
    (hs : Twins V b cs cs' s s')
    (h : Together Eq (step s.world) (step' s'.world) s.catalog s'.catalog
      (fun a a' c c' => ok a a' ∧ Catalog.Both V c c') fun c c' => Catalog.Both V c c')
    (confined : ∀ w, Catalog.Confined (step w)) (confined' : ∀ w, Catalog.Confined (step' w)) :
    Together Eq (withCatalog step) (withCatalog step') s s'
      (fun a a' t t' => ok a a' ∧ Twins V b cs cs' t t') (Twins V b cs cs') := by
  have both := h.and_ends (confined s.world s.catalog) (confined' s'.world s'.catalog)
  rcases both.cases with ⟨a, a', c, c', run, run', ⟨same, faithful⟩, grows, grows'⟩ |
    ⟨e, _, c, c', run, run', rfl, faithful, ⟨_, grows, -⟩, _, grows', -⟩
  · apply Together.of_ok (by rw [withCatalog_apply, run]) (by rw [withCatalog_apply, run'])
    exact ⟨same, hs.learn faithful grows.typeHooks grows'.typeHooks⟩
  · apply Together.of_error (by rw [withCatalog_apply, run]) (by rw [withCatalog_apply, run']) rfl
    exact hs.learn faithful grows.typeHooks grows'.typeHooks

theorem paired_hookOf (frames : f.Twins V b f') {marker : Marker P}
    (hm : V.markers marker.toMarkerType) :
    Paired Eq (Twins V b cs cs') (Leading V.extensions) (hookOf f marker) (hookOf f' marker) := by
  intro s s' hs
  have both : Catalog.Both V s.catalog s'.catalog := ⟨hs.left.faithful, hs.right.faithful⟩
  have found : Together Eq (Catalog.lookup s.world f.model marker.toMarkerType)
      (Catalog.lookup s'.world f'.model marker.toMarkerType) s.catalog s'.catalog
      (fun found found' c c' => (found.map (·.value) = found'.map (·.value) ∧
        Leading V.extensions (found.map (·.value))) ∧ Catalog.Both V c c')
      fun c c' => Catalog.Both V c c' := by
    apply ((Catalog.together_lookup both hm frames.agree).and_ends
      (Catalog.ends_lookup_extension both.left hm frames.leads) (Ends.as_run _ _)).mono
    · rintro found found' c c' ⟨⟨same, faithful⟩, leading, -⟩
      exact ⟨⟨same, leading⟩, faithful⟩
    · exact fun _ _ h => h.1
  unfold hookOf
  apply (together_withCatalog hs found (fun w => Catalog.confined_lookup w _ _)
    fun w => Catalog.confined_lookup w _ _).bind
  rintro found found' t t' ⟨⟨same, leading⟩, ht⟩
  exact ⟨same, leading, ht⟩

end Steps

end Scan

end Injector

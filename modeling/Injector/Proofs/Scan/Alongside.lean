import Injector.Proofs.Scan.Company

/-!
# Scans that have a builder in common

Twins go on alongside each other through a whole scan: each step of the one is the step of the
other, with the same result. Every extension that a step comes to is one in use.
-/

set_option autoImplicit false

namespace Injector

variable {P : Platform}

namespace Scan

variable {V : Usage P} {b : Builder P} {f f' : ScanFrame P} {s s' : Scan P}

def alongside (V : Usage P) (b : Builder P) : Terms P where
  like := Eq
  related := Alongside V b
  attended := Attended V b
  markers := V.markers
  extensions := V.extensions

theorem pairing_alongside (frames : f.Twins V b f') (regular : b.Regular V) :
    Pairing (alongside V b) f f' where
  refl _ := rfl
  requiredBy := by
    rintro e e' target rfl
    rfl
  beanType := frames.beanType
  installer := frames.installer
  limit := frames.limit
  lookup := by
    intro key required
    rw [frames.lookup]
    exact likewise_refl (fun _ => rfl) _
  bean := fun _ _ ⟨_, _, _, _, hs⟩ => hs.bean
  queue := fun _ _ ⟨_, _, _, _, hs⟩ => hs.queue
  remaining := fun _ _ ⟨_, _, _, _, hs⟩ => hs.remaining
  typeHook := by
    rintro s s' ⟨_, _, _, _, hs⟩ type
    rw [hs.left.typeHook?, hs.right.typeHook?]
  leads := by
    rintro s s' ⟨_, _, _, _, hs⟩ type extension hooked
    rw [hs.left.typeHook?] at hooked
    exact regular.typeHook hooked
  marked := fun _ _ ⟨_, _, _, _, hs⟩ => hs.marked
  placed := fun _ _ bean queue ⟨sight, cs, cs', company, hs⟩ marked =>
    ⟨sight, cs, cs', company, hs.place bean queue marked⟩
  spent := fun _ _ ⟨sight, cs, cs', company, hs⟩ _ =>
    ⟨sight, cs, cs', company, { hs with remaining := rfl }⟩
  noted event := Paired.alongside fun _ _ => paired_record event
  hooked _ hm := Paired.alongside fun _ _ => paired_hookOf frames hm
  activated _ hk _ _ hs := together_activate frames regular hk hs
  attended := fun _ _ _ _ h => ⟨h.alongside, h.context⟩
  shown event _ _ _ _ h := together_record event h
  onField _ _ _ _ _ h := together_converse
    (fun call _ => local_answerField (upheld_markedWithin V.markers f) _ call
      fun _ _ _ _ => markedWithin_build)
    (fun _ same _ _ alike _ _ => same.onField _ _ _ alike _ _) h
  onMethod _ _ _ _ _ marks h := together_converse
    (fun call _ => local_answerMethod (upheld_markedWithin V.markers f) _ call
      fun _ _ _ => markedWithin_ofMethod marks)
    (fun _ same _ _ alike _ _ => same.onMethod _ _ _ alike _ _) h
  onBinding := by
    intro request c c' s s' party h
    have answers : answerSlot f' request = answerSlot f request := by
      funext call
      apply answerSlot_congr frames.beanType
      intro key _ required
      rw [party]
      exact frames.lookup key required
    rw [answers]
    exact together_converse
      (fun call marks => local_answerSlot (upheld_markedWithin V.markers f) call (marks.fit _))
      (fun _ same _ _ alike _ _ => same.onBinding _ _ _ alike _ _) h
  ended := by
    rintro s s' ⟨sight, cs, cs', company, hs⟩
    rw [hs.contributors, hs.contributors']
    -- What the handlers remember no longer matters: none is asked again.
    exact (together_finish company hs).mono (fun _ _ _ _ ht => ⟨sight, cs, cs', company, ht⟩)
      fun _ _ ht => ⟨sight, cs, cs', company, ht⟩

/-- A scan goes the same way on any two containers that came from one builder. -/
theorem together_scanBean {host host' : Host P} (regular : b.Regular V)
    (hosts : host.Twins b s.bean.installer host') (hcls : V.classes s.bean.descriptor)
    (hs : Alongside V b s s') :
    Together Eq (scanBean host) (scanBean host') s s'
      (fun _ _ t t' => Alongside V b t t') (Alongside V b) := by
  obtain ⟨sight, cs, cs', company, hs⟩ := hs
  unfold scanBean
  rw [together_get, hs.bean]
  dsimp only
  split
  · exact together_throw rfl ⟨sight, cs, cs', company, hs⟩
  · have models : Together Eq (Catalog.modelFor s.world s.bean.descriptor)
        (Catalog.modelFor s'.world s.bean.descriptor) s.catalog s'.catalog
        (fun model model' c c' => (V.Agree model model' ∧ V.Leads model) ∧ Catalog.Both V c c')
        fun c c' => Catalog.Both V c c' :=
      (Catalog.together_models ⟨hs.left.faithful, hs.right.faithful⟩ hcls).mono
        (fun _ _ _ _ h => ⟨⟨h.1, h.2.1⟩, h.2.2⟩) fun _ _ h => h
    apply ((together_withCatalog hs models (fun w => Catalog.confined_modelFor w _)
      fun w => Catalog.confined_modelFor w _).imp_failed
        fun _ _ ht => ⟨sight, cs, cs', company, ht⟩).bind
    rintro model model' t t' ⟨⟨agree, leads⟩, ht⟩
    have frames : ScanFrame.Twins V b ⟨host, model, s.bean.type, s.bean.installer⟩
        ⟨host', model', s.bean.type, s.bean.installer⟩ := { hosts with
      beanType := rfl
      installer := rfl
      agree
      leads }
    exact ((pairing_alongside frames regular).paired_scanWith (V.placed _ hcls) t t'
      ⟨sight, cs, cs', company, ht⟩).mono
      (fun _ _ _ _ h => h.2.2) fun _ _ h => h

end Scan

end Injector

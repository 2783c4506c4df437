import Injector.Proofs.Container.Assembly
import Injector.Proofs.Scan.Alongside

/-!
# What a container scanned before cannot be seen

Whatever it has learned about hooks and whatever extensions it has installed meanwhile, a scan comes
to the same result, the same bean and the same callbacks as on a container that has not.
-/

set_option autoImplicit false

namespace Injector

variable {P : Platform} {V : Usage P} {b : Builder P}

namespace Usage

/-- The bean is of a class in use, and so are the members that it has operations of; the handler
does not depend on what happens outside of the scan. -/
structure Admits (V : Usage P) (bean : Bean P) (preset : Option (Handler P)) : Prop where
  described : V.classes bean.descriptor
  marked : bean.MarkedWithin V.markers
  preset : Option.Rel (Handler.Alike V) preset preset

/-- The container came from the builder, and it has learned only what is so. -/
structure Stems (V : Usage P) (b : Builder P) (c : Container P) : Prop where
  make : c.make = b.make
  kept : V.Kept b c.catalog c.extensions

end Usage

theorem Container.Persists.host_twins {c left right : Container P} (h : c.Persists left)
    (h' : c.Persists right) (make : c.make = b.make) (installer : Party) :
    left.host.Twins b installer right.host where
  make := h.make.trans make
  make' := h'.make.trans make
  limit := by
    show right.settings.maxDeferred = left.settings.maxDeferred
    rw [h.settings, h'.settings]
  lookup := by
    intro key required
    show right.directory.lookup installer key required =
      left.directory.lookup installer key required
    rw [h.directory, h'.directory]

namespace Deployment

variable {d d' : Deployment P} {bean : Bean P} {preset preset' : Option (Handler P)}

/-- Containers that look the same to a scan do not make it differ. -/
theorem together_scan (regular : b.Regular V) (h : V.Stems b d.container)
    (h' : V.Stems b d'.container)
    (hosts : d.container.host.Twins b bean.installer d'.container.host)
    (described : V.classes bean.descriptor) (marked : bean.MarkedWithin V.markers)
    (alike : Option.Rel (Handler.Alike V) preset preset') :
    Together Eq (Scan.scanBean d.container.host) (Scan.scanBean d'.container.host)
      (d.beginScan bean preset) (d'.beginScan bean preset')
      (fun _ _ t t' => Scan.Alongside V b t t') (Scan.Alongside V b) := by
  have start : Scan.Alongside V b (d.beginScan bean preset) (d'.beginScan bean preset') :=
    ⟨fun _ _ _ => True, [], [], .nil,
      { bean := rfl
        queue := rfl
        remaining := hosts.limit
        transcript := rfl
        contributors := rfl
        contributors' := rfl
        preset := alike
        left := h.kept
        right := h'.kept
        marked }⟩
  exact Scan.together_scanBean regular hosts described start

theorem scan_alike (regular : b.Regular V) (h : V.Stems b d.container)
    (h' : V.Stems b d'.container)
    (hosts : d.container.host.Twins b bean.installer d'.container.host)
    (described : V.classes bean.descriptor) (marked : bean.MarkedWithin V.markers)
    (alike : Option.Rel (Handler.Alike V) preset preset') :
    (d.scan bean preset).1 = (d'.scan bean preset').1 := by
  have together := together_scan regular h h' hosts described marked alike
  obtain ⟨sight, cs, cs', -, twins⟩ := together.states
  exact Prod.ext (together.same_result fun _ _ _ _ _ => rfl) twins.bean.symm

theorem stems_scan (regular : b.Regular V) (h : V.Stems b d.container)
    (admitted : V.Admits bean preset) : V.Stems b (d.scan bean preset).2.container := by
  have hosts := (Container.Persists.refl d.container).host_twins (.refl _) h.make bean.installer
  obtain ⟨sight, cs, cs', -, twins⟩ := (together_scan regular h h hosts admitted.described
    admitted.marked admitted.preset).states
  exact ⟨h.make, twins.left⟩

theorem stems_obtainExtension (regular : b.Regular V) (h : V.Stems b d.container)
    {key : ExtensionKey} (asked : V.extensions key) :
    V.Stems b (obtainExtension key d).2.container := by
  apply Ends.state fun d' : Deployment P => V.Stems b d'.container
  unfold obtainExtension
  rw [ends_bind, ends_get, ends_bind, ends_except, h.make]
  refine ⟨?_, fun _ _ => h⟩
  rintro ⟨e, later, u⟩ obtained
  rcases h.kept.obtain_alike regular h.kept asked d.world d.world with
    ⟨_, _, _, _, _, _, run, -, -, kept, -⟩ | ⟨run, -⟩
  · cases run.symm.trans obtained
    exact ⟨h.make, kept⟩
  · cases run.symm.trans obtained

end Deployment

theorem Container.History.stems {c : Container P} (regular : b.Regular V) (h : V.Stems b c)
    {d : Deployment P} (past : c.History V.Admits V.extensions d) : V.Stems b d.container := by
  induction past with
  | start world => exact h
  | scan past admitted ih => exact Deployment.stems_scan regular ih admitted
  | obtainExtension past asked ih => exact Deployment.stems_obtainExtension regular ih asked
  | run past live ih => exact ⟨ih.make, ih.kept⟩

namespace Builder

/-- Only type hooks are known of a catalog that no class was scanned with. -/
theorem Assembled.catalog (h : b.Assembled) :
    b.catalog = { typeHooks := b.catalog.typeHooks } := by
  induction h with
  | new make listing => rfl
  | withSettings _ _ ih => exact ih
  | allowOverride _ _ ih => exact ih
  | maxDeferred _ _ ih => exact ih
  | register _ address provider _ ih =>
    unfold Builder.register
    split
    next => exact ih
    next => exact ih
  | installExtension _ _ _ ih => exact ih
  | @typeHook b _ type extension ih =>
    unfold Builder.typeHook Catalog.addTypeHook
    split
    next added =>
      split at added
      next =>
        cases added
        dsimp only
        rw [ih]
      next =>
        split at added
        next =>
          cases added
          exact ih
        next => cases added
    next => exact ih
  | bean _ _ ih => exact ih

theorem stems_container (assembled : b.Assembled) : V.Stems b b.container where
  make := rfl
  kept :=
    { faithful := by
        rw [Builder.container, assembled.catalog]
        exact Catalog.faithful_empty _
      typeHooks := rfl
      installed := fun _ _ given => given
      made := by
        intro key _ missing e found
        have none : b.container.extensions.find? key = none := missing
        rw [none] at found
        cases found }

theorem admits_fresh {cls : ClassDescriptor P} (hcls : V.classes cls) (source : Source P)
    (installer : Party) : V.Admits (.fresh cls source installer) none :=
  ⟨hcls, Bean.markedWithin_of_empty rfl, .none⟩

theorem ends_scanBeans_stems (regular : b.Regular V) {classes : List (ClassDescriptor P)}
    (described : ∀ c ∈ classes, V.classes c) {d : Deployment P} (h : V.Stems b d.container) :
    Ends (scanBeans classes) d (fun _ d' => V.Stems b d'.container) fun _ _ => True := by
  induction classes generalizing d with
  | nil => exact h
  | cons c rest ih =>
    rw [List.forall_mem_cons] at described
    unfold scanBeans
    rw [ends_bind, Deployment.ends_install_iff]
    refine ⟨fun _ => ?_, fun _ _ => trivial⟩
    have scanned := Deployment.stems_scan regular h
      (admits_fresh described.1 .construction .application)
    exact (ih described.2 scanned).bind fun _ _ ht => ht

theorem ends_registerBeans_stems (beans : List (Bean P)) {d : Deployment P}
    (h : V.Stems b d.container) :
    Ends (beans.forM registerBean) d (fun _ d' => V.Stems b d'.container) fun _ _ => True := by
  have step : ∀ bean ∈ beans, ∀ d : Deployment P, V.Stems b d.container →
      Ends (registerBean bean) d (fun _ d' => V.Stems b d'.container) fun _ _ => True := by
    intro bean _ d stems
    rw [ends_registerBean_iff]
    exact ⟨fun _ _ => ⟨stems.make, stems.kept⟩, fun _ _ => trivial⟩
  exact ends_forM h step

theorem ends_buildBeans_stems (assembled : b.Assembled) (regular : b.Regular V)
    (world : P.World) :
    Ends b.buildBeans ⟨b.container, world⟩ (fun _ d => V.Stems b d.container)
      fun _ _ => True := by
  rw [ends_buildBeans_iff]
  refine ⟨fun pending _ => ?_, fun _ _ => trivial⟩
  have start : V.Stems b { b.container with pending } :=
    ⟨rfl, (stems_container assembled).kept⟩
  apply (ends_scanBeans_stems regular regular.beans start).imp
  intro beans d stems
  have idle : V.Stems b { d.container with pending := [] } := ⟨stems.make, stems.kept⟩
  apply (ends_registerBeans_stems beans idle).imp
  intro _ d stems
  exact ⟨fun _ _ => stems, fun _ _ => trivial⟩

theorem stems_of_build (assembled : b.Assembled) (regular : b.Regular V) {world world' : P.World}
    {c : Container P} (built : b.build world = (.ok c, world')) : V.Stems b c := by
  apply of_build built
  exact ends_buildBeans_stems assembled regular world

/-- Scans leave nothing behind that a later scan could see: after any two histories of a container
that was built, a new bean is scanned with the same result, the same operations and bindings, and
the same callbacks. -/
theorem scan_after_history (assembled : b.Assembled) (regular : b.Regular V)
    {world world' : P.World} {c : Container P} (built : b.build world = (.ok c, world'))
    {d d' : Deployment P} (past : c.History V.Admits V.extensions d)
    (past' : c.History V.Admits V.extensions d') {cls : ClassDescriptor P} (hcls : V.classes cls)
    (source : Source P) (installer : Party) {preset preset' : Option (Handler P)}
    (alike : Option.Rel (Handler.Alike V) preset preset') :
    (Attempt.run ⟨d, preset⟩ (.fresh cls source installer)).1 =
        (Attempt.run ⟨d', preset'⟩ (.fresh cls source installer)).1 ∧
      (Attempt.run ⟨d, preset⟩ (.fresh cls source installer)).2.bean =
        (Attempt.run ⟨d', preset'⟩ (.fresh cls source installer)).2.bean ∧
      (Attempt.run ⟨d, preset⟩ (.fresh cls source installer)).2.transcript =
        (Attempt.run ⟨d', preset'⟩ (.fresh cls source installer)).2.transcript := by
  have stems := stems_of_build assembled regular built
  have hosts := past.persists.host_twins past'.persists stems.make
    (Bean.fresh cls source installer).installer
  have marked : (Bean.fresh cls source installer).MarkedWithin V.markers :=
    Bean.markedWithin_of_empty rfl
  have together := Deployment.together_scan regular (past.stems regular stems)
    (past'.stems regular stems) hosts hcls marked alike
  have same := together.same_result fun _ _ _ _ _ => rfl
  obtain ⟨sight, cs, cs', -, twins⟩ := together.states
  exact ⟨same, twins.bean.symm, twins.transcript.symm⟩

end Builder

def ExtensionKey.glow : ExtensionKey := ⟨.ofName "lamp::Glow", true⟩

def MarkerType.lit : MarkerType .bare where
  key := ⟨.ofName "lamp::Lit"⟩
  declaredHook := fun _ => some { extension := .glow, field := some .get }

def ClassDescriptor.lamp : ClassDescriptor .bare where
  type := .ofName "lamp::Lamp"
  fields :=
    [{ name := "bulb"
       type := .ofName "lamp::Bulb"
       visibility := .anyone
       isStatic := true
       markers := [{ MarkerType.lit with payload := () }]
       getter := some fun _ => .done (.ok none)
       setter := none }]

def Builder.dark : Builder .bare := { make := Deployment.empty.container.make }

theorem Handler.alike_idle (V : Usage .bare) : Handler.idle.Alike V .idle :=
  ⟨fun _ _ => True,
    { onStart := fun _ _ _ _ _ _ => ⟨rfl, trivial⟩
      onEnd := fun _ _ _ _ _ _ => ⟨rfl, trivial⟩
      onField := fun _ _ _ _ _ _ => .done ⟨rfl, trivial⟩
      onMethod := fun _ _ _ _ _ _ => .done ⟨rfl, trivial⟩
      onBinding := fun _ _ _ _ _ _ => .done ⟨rfl, trivial⟩ }, trivial⟩

def Usage.lamps : Usage .bare where
  classes := fun c => c = .lamp
  markers := fun m => m = .lit
  hook := fun _ => some { extension := .glow, field := some .get }
  extensions := fun k => k = .glow
  superclass := by
    rintro c s rfl hs
    cases hs
  declared := by
    rintro c rfl d hd
    cases hd
  class_eq := by
    rintro c c' rfl rfl -
    rfl
  key_eq := by
    rintro m m' rfl rfl -
    rfl
  hook_eq := by
    rintro m rfl w
    rfl
  extension_eq := by
    rintro k k' rfl rfl -
    rfl
  hooks := by
    rintro m rfl spec hs
    cases hs
    rfl
  declares := by
    rintro c rfl d hd
    cases hd
  placed := by
    rintro c rfl marker hm
    have only : ClassDescriptor.lamp.placed = [{ MarkerType.lit with payload := () }] := rfl
    rw [only, List.mem_singleton] at hm
    rw [hm]

theorem Builder.regular_dark : dark.Regular .lamps where
  beans := List.forall_mem_nil _
  typeHooks := List.forall_mem_nil _
  installed := fun _ _ found => by cases found
  made := fun _ _ _ _ _ _ => Handler.alike_idle _

theorem Builder.build_dark : dark.build () = (.ok dark.container, ()) := by
  have keys : Graph.keys [] = [] := List.mergeSort_nil
  have checked : Graph.check [] = .ok ⟨⟩ := by
    rw [Graph.check, keys]
    rfl
  have ends : Ends dark.buildBeans ⟨dark.container, ()⟩ (fun _ d => d = ⟨dark.container, ()⟩)
      fun _ _ => False := by
    show Ends (liftM (Graph.check []) : DeploymentM .bare Unit) ⟨dark.container, ()⟩ _ _
    rw [checked]
    rfl
  exact build_of_ends (d := ⟨dark.container, ()⟩) rfl ends

theorem Builder.scan_after_history_lamp :
    dark.build () = (.ok dark.container, ()) ∧
      ∃ d : Deployment .bare, dark.container.History Usage.lamps.Admits Usage.lamps.extensions d ∧
        d.container.extensions.length = 1 ∧
          (Attempt.run ⟨⟨dark.container, ()⟩, none⟩ (.fresh .lamp .absent .application)).1 =
              (Attempt.run ⟨d, none⟩ (.fresh .lamp .absent .application)).1 ∧
            (Attempt.run ⟨⟨dark.container, ()⟩, none⟩ (.fresh .lamp .absent .application)).2.bean =
              (Attempt.run ⟨d, none⟩ (.fresh .lamp .absent .application)).2.bean ∧
            (Attempt.run ⟨⟨dark.container, ()⟩, none⟩
              (.fresh .lamp .absent .application)).2.transcript =
              (Attempt.run ⟨d, none⟩ (.fresh .lamp .absent .application)).2.transcript := by
  have past : dark.container.History Usage.lamps.Admits Usage.lamps.extensions
      ⟨dark.container, ()⟩ := Container.History.start (c := dark.container) ()
  have described : Usage.lamps.classes .lamp := rfl
  have past' := past.scan (admits_fresh described .absent .application)
  have installed : ((⟨dark.container, ()⟩ : Deployment .bare).scan
      (.fresh .lamp .absent .application) none).2.container.extensions.length = 1 := by
    decide +kernel
  exact ⟨build_dark, _, past', installed, scan_after_history (.new _ _) regular_dark build_dark past
    past' rfl .absent .application .none⟩

end Injector

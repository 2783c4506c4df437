import Injector.Container.Basic
import Injector.Proofs.Scan.Run

/-!
# Scans as callers see them

What callers can rely on when they scan a bean, as often as they like and wherever they like. All
that was ever seen of the bean is a forest of operations that only grew, and a scan that succeeds
on a new bean leaves every parameter with a binding that fits it.
-/

set_option autoImplicit false

namespace Injector

variable {P : Platform}

def Bean.fresh (c : ClassDescriptor P) (source : Source P) (installer : Party) : Bean P :=
  ⟨c, source, installer, #[], false, none⟩

structure Attempt (P : Platform) where
  deployment : Deployment P
  preset : Option (Handler P)

namespace Attempt

def run (a : Attempt P) (b : Bean P) : Except Error Unit × Scan P :=
  (Scan.scanBean a.deployment.container.host).run.run (a.deployment.beginScan b a.preset)

def bean (a : Attempt P) (b : Bean P) : Bean P := (a.deployment.scan b a.preset).1.2

/-- The bean before the first call, and then, call by call, at every moment at which a handler
could look at it, and after the call. -/
noncomputable def observed : List (Attempt P) → Bean P → List (Bean P)
  | [], b => [b]
  | a :: rest, b => b :: (a.run b).2.seen ++ observed rest (a.bean b)

theorem ends_run (a : Attempt P) {b : Bean P} (linked : b.Linked) :
    Ends (Scan.scanBean a.deployment.container.host) (a.deployment.beginScan b a.preset)
      (fun _ s' => ∃ f : ScanFrame P, f.host = a.deployment.container.host ∧
        Scan.Follows f (a.deployment.beginScan b a.preset) s' ∧
          Scan.Settled f b.operations.size s' ∧
            (b.source.isConstruction = true → s'.bean.Constructed))
      fun _ s' => ∃ f : ScanFrame P, Scan.Follows f (a.deployment.beginScan b a.preset) s' :=
  Scan.ends_scanBean _ linked rfl

theorem follows_run (a : Attempt P) {b : Bean P} (linked : b.Linked) :
    ∃ f : ScanFrame P, (b :: (a.run b).2.seen ++ [a.bean b]).Pairwise (Scan.Reaches f) := by
  have ends : Ends (Scan.scanBean a.deployment.container.host)
      (a.deployment.beginScan b a.preset)
      (fun _ s' => ∃ f : ScanFrame P, Scan.Follows f (a.deployment.beginScan b a.preset) s')
      fun _ s' => ∃ f : ScanFrame P, Scan.Follows f (a.deployment.beginScan b a.preset) s' := by
    apply (a.ends_run linked).imp
    rintro _ s' ⟨f, -, hf, -⟩
    exact ⟨f, hf⟩
  obtain ⟨f, since, hs, hp⟩ := Ends.state (fun s' => ∃ f : ScanFrame P,
    Scan.Follows f (a.deployment.beginScan b a.preset) s') ends
  have hseen : (a.run b).2.seen = since := hs
  rw [hseen]
  exact ⟨f, hp⟩

theorem linked_observed (attempts : List (Attempt P)) {b : Bean P} (linked : b.Linked) :
    (∀ later ∈ observed attempts b, b.Extends later ∧ later.Linked) ∧
      (observed attempts b).Pairwise Bean.Extends := by
  induction attempts generalizing b with
  | nil =>
    simp only [observed, List.mem_singleton, forall_eq, List.pairwise_singleton, and_true]
    exact ⟨.refl b, linked⟩
  | cons a rest ih =>
    obtain ⟨f, hp⟩ := a.follows_run linked
    rw [List.cons_append, List.pairwise_cons, List.pairwise_append] at hp
    obtain ⟨reached, among, -, before⟩ := hp
    have last := reached (a.bean b) (by simp)
    obtain ⟨after, ordered⟩ := ih (last.linked linked)
    have extends_first : ∀ later ∈ (a.run b).2.seen ++ observed rest (a.bean b),
        b.Extends later ∧ later.Linked := by
      intro later hl
      rcases List.mem_append.mp hl with hl | hl
      · have reach := reached later (by simp [hl])
        exact ⟨reach.grows, reach.linked linked⟩
      · exact ⟨last.grows.trans (after later hl).1, (after later hl).2⟩
    have grown : ∀ old ∈ (a.run b).2.seen, ∀ later ∈ observed rest (a.bean b),
        old.Extends later := fun old ho later hl =>
      (before old ho (a.bean b) (by simp)).grows.trans (after later hl).1
    show (∀ later ∈ b :: ((a.run b).2.seen ++ observed rest (a.bean b)), _) ∧
      (b :: ((a.run b).2.seen ++ observed rest (a.bean b))).Pairwise _
    rw [List.forall_mem_cons, List.pairwise_cons, List.pairwise_append]
    exact ⟨⟨⟨.refl b, linked⟩, extends_first⟩, fun later hl => (extends_first later hl).1,
      among.imp fun h => h.grows, ordered, grown⟩

/-- Whatever scans are tried, and whatever handlers do meanwhile, no operation and no binding is
ever changed or removed, and the operations are always a forest. -/
theorem forest_observed (attempts : List (Attempt P)) (c : ClassDescriptor P)
    (source : Source P) (installer : Party) :
    (∀ b ∈ observed attempts (.fresh c source installer), b.IsForest) ∧
      (observed attempts (.fresh c source installer)).Pairwise Bean.Extends := by
  obtain ⟨linked, ordered⟩ := linked_observed attempts
    (Bean.Linked.of_empty (b := .fresh c source installer) rfl)
  exact ⟨fun b hb => (linked b hb).2.isForest, ordered⟩

end Attempt

namespace Deployment

theorem scanned_scan (d : Deployment P) (c : ClassDescriptor P) (source : Source P)
    (installer : Party) (preset : Option (Handler P))
    (h : (d.scan (.fresh c source installer) preset).1.1 = .ok ⟨⟩) :
    (Bean.fresh c source installer).Extends (d.scan (.fresh c source installer) preset).1.2 ∧
      (d.scan (.fresh c source installer) preset).1.2.Scanned d.container.directory := by
  have empty : (Bean.fresh c source installer).operations = #[] := rfl
  have linked := Bean.Linked.of_empty empty
  have ends := Attempt.ends_run ⟨d, preset⟩ linked
  obtain ⟨f, hhost, hf, settled, constructed⟩ := ends.of_ok (Prod.ext h rfl)
  have reach := hf.reaches
  have grown : (Bean.fresh c source installer).Extends
      (d.scan (.fresh c source installer) preset).1.2 := reach.grows
  have fitting := reach.fitting (.of_empty empty)
  have supplied := reach.supplied (.of_empty empty)
  rw [hhost] at supplied
  refine ⟨grown, reach.linked linked, fitting, ?_, supplied, ?_⟩
  · intro id op ho slot hs
    obtain ⟨index, hi⟩ := List.getElem?_of_mem hs
    have hlt := (List.getElem?_eq_some_iff.mp hi).1
    have hsome := (settled.frontier.bound_iff id op ho (Nat.zero_le id) index hlt).mpr
      (Or.inl (Bean.lt_of_operation? ho))
    obtain ⟨binding, hb⟩ := Option.isSome_iff_exists.mp hsome
    rw [Operation.binding?, hi] at hb
    exact ⟨binding, hb, fitting.fits id op ho slot hs binding hb⟩
  · intro hc
    rw [grown.source] at hc
    exact constructed hc

/-- Every parameter of every operation has a binding that fits it. -/
theorem bound_scan (d : Deployment P) (c : ClassDescriptor P) (source : Source P)
    (installer : Party) (preset : Option (Handler P))
    (h : (d.scan (.fresh c source installer) preset).1.1 = .ok ⟨⟩) :
    (d.scan (.fresh c source installer) preset).1.2.Bound :=
  (d.scanned_scan c source installer preset h).2.bound

end Deployment

def Handler.idle : Handler .bare where
  memory := ()
  onStart := fun _ memory world => (.ok (), memory, world)
  onEnd := fun _ memory world => (.ok (), memory, world)
  onField := fun _ memory world => .done (.ok (), memory, world)
  onMethod := fun _ memory world => .done (.ok (), memory, world)
  onBinding := fun _ memory world => .done (.ok (), memory, world)

def Deployment.empty : Deployment .bare where
  world := ()
  container :=
    { settings := {}
      services := []
      catalog := {}
      extensions := []
      make := fun _ world => (⟨"idle", fun world => (.idle, world)⟩, world) }

def ClassDescriptor.cart : ClassDescriptor .bare where
  type := ⟨.numbered 0, "Cart"⟩
  constructors :=
    [{ visibility := .anyone
       params := [{ name := "wheel", type := ⟨.numbered 1, "Wheel"⟩, optional := true }]
       markers := []
       accessor := fun _ => .done (.ok (some (.numbered 0))) }]

def ClassDescriptor.wheel : ClassDescriptor .bare where
  type := ⟨.numbered 1, "Wheel"⟩
  constructors :=
    [{ visibility := .anyone
       params := [{ name := "rim", type := ⟨.numbered 6, "Rim"⟩ }]
       markers := []
       accessor := fun _ => .done (.ok (some (.numbered 1))) }]

def ExtensionKey.smith : ExtensionKey := ⟨⟨.numbered 7, "smith::Smith"⟩, true⟩

def Handler.forging : Handler .bare :=
  { Handler.idle with
    onBinding := fun _ memory world =>
      .ask (.bindConstructor .wheel) fun _ => .done (.ok (), memory, world) }

def Deployment.smithy : Deployment .bare where
  world := ()
  container :=
    { settings := {}
      services := [⟨⟨.application, ⟨⟨.numbered 6, "Rim"⟩, none⟩⟩, .value (.numbered 6), []⟩]
      catalog := { typeHooks := [(⟨.numbered 1, "Wheel"⟩, .smith)] }
      extensions := []
      make := fun _ world => (⟨"smith", fun world => (.forging, world)⟩, world) }

theorem ok_of_isOk {ε : Type} {x : Except ε Unit} (h : x.isOk = true) : x = .ok ⟨⟩ := by
  cases x with
  | ok a => rfl
  | error e => cases h

/-- The cart is made with a wheel that is made with the rim. -/
theorem Deployment.bound_scan_cart :
    (smithy.scan (.fresh .cart .construction .application) none).1.1 = .ok ⟨⟩ ∧
      (smithy.scan (.fresh .cart .construction .application) none).1.2.operations.toList.map
        (·.parent) = [none, some 0] ∧
      (smithy.scan (.fresh .cart .construction .application) none).1.2.Bound := by
  have h : (smithy.scan (.fresh .cart .construction .application) none).1.1 = .ok ⟨⟩ :=
    ok_of_isOk (by decide +kernel)
  exact ⟨h, by decide +kernel, smithy.bound_scan .cart .construction .application none h⟩

end Injector

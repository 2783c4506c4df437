import Injector.Proofs.Bean.Declaration
import Injector.Proofs.Scan.Evaluation

/-!
# What scanned beans declare to need

Before the scan that succeeds others may have failed, and some may be tried after it; the bean has
its constructor from then on, and its operations fit together at all times.
-/

set_option autoImplicit false

namespace Injector

variable {P : Platform}

namespace Attempt

theorem after_append (first rest : List (Attempt P)) (b : Bean P) :
    after (first ++ rest) b = after rest (after first b) := by
  induction first generalizing b with
  | nil => rfl
  | cons a first ih => exact ih (a.bean b)

/-- Once a scan succeeded the constructor is there to stay. -/
theorem constructed_after (before later : List (Attempt P)) {a : Attempt P} {b : Bean P}
    (linked : b.Linked) (source : b.source = .construction)
    (scanned : (a.run (after before b)).1 = .ok ⟨⟩) :
    (after (before ++ a :: later) b).Constructed := by
  obtain ⟨grown, linked'⟩ := linked_after before linked
  obtain ⟨f, -, follows, -, constructed⟩ := (a.ends_run linked').of_ok (Prod.ext scanned rfl)
  have made : (a.bean (after before b)).Constructed :=
    constructed (by rw [grown.source, source]; rfl)
  rw [after_append]
  exact made.mono (linked_after later (follows.reaches.linked linked')).1

theorem sound_fresh (attempts : List (Attempt P)) (c : ClassDescriptor P) (source : Source P)
    (installer : Party) :
    (after attempts (.fresh c source installer)).Linked ∧
      (after attempts (.fresh c source installer)).Fitting ∧
        (after attempts (.fresh c source installer)).Furnished := by
  have empty : (Bean.fresh c source installer).operations = #[] := rfl
  apply sound_after attempts (.of_empty empty) (.of_empty empty)
  intro id op found
  simp [Bean.operation?, empty] at found

/-- Whatever scans were tried before and after one that succeeded, a bean that is made by its
constructor declares exactly the services of the application that its constructor and the
operations under it cannot do without. Making the instance asks for no others of this kind. -/
theorem declares_after (before later : List (Attempt P)) (a : Attempt P) (c : ClassDescriptor P)
    (installer : Party)
    (scanned : (a.run (after before (.fresh c .construction installer))).1 = .ok ⟨⟩) :
    ∃ top, (after (before ++ a :: later) (.fresh c .construction installer)).constructor? =
        some top ∧
      (after (before ++ a :: later) (.fresh c .construction installer)).Declares top := by
  have new : (Bean.fresh c .construction installer).Linked := .of_empty rfl
  obtain ⟨linked, fitting, furnished⟩ :=
    sound_fresh (before ++ a :: later) c .construction installer
  obtain ⟨grown, -⟩ := linked_after (before ++ a :: later) new
  obtain ⟨top, htop⟩ := Bean.exists_constructor (constructed_after before later new rfl scanned)
  exact ⟨top, htop, Bean.declares_of_constructor linked fitting furnished grown.source htop⟩

/-- The cart declares the rim of its wheel. -/
theorem declares_after_cart :
    (run ⟨.smithy, none⟩ (.fresh .cart .construction .application)).1 = .ok ⟨⟩ ∧
      (after [⟨.smithy, none⟩]
        (.fresh .cart .construction .application)).serviceDependencies.map (·.type.name) =
          ["Rim"] ∧
      ∃ top, (after [⟨.smithy, none⟩] (.fresh .cart .construction .application)).constructor? =
          some top ∧
        (after [⟨.smithy, none⟩] (.fresh .cart .construction .application)).Declares top := by
  have scanned : (run ⟨.smithy, none⟩ (.fresh .cart .construction .application)).1 = .ok ⟨⟩ :=
    ok_of_isOk (by decide +kernel)
  have declared : (after [⟨.smithy, none⟩]
      (.fresh .cart .construction .application)).serviceDependencies.map (·.type.name) =
        ["Rim"] := by decide +kernel
  exact ⟨scanned, declared, declares_after [] [] ⟨.smithy, none⟩ .cart .application scanned⟩

/-- The nest can do without the hen. -/
example : Bean.nest.serviceDependencies = [] := rfl

end Attempt

end Injector

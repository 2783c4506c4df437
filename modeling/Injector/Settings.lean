/-!
# Limits and switches of a container
-/

set_option autoImplicit false

namespace Injector

structure Settings where
  /-- How many operations one scan may resolve. -/
  maxDeferred : Nat := 10000
  /-- Whether a service may take the place of one registered before. -/
  allowOverride : Bool := false
deriving DecidableEq

end Injector

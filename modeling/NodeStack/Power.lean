/-!
# `NodeStack.Power`: powers of whole numbers

Bounds are written as powers, such as `2 ^ 64`, both in definitions that need nothing but the core
library and in proofs that import more of it. Here the core instance is preferred, so that a power
is the same term in both.
-/

set_option autoImplicit false

attribute [instance(1100), default_instance 20000] instPowNat

/-
Powers of natural numbers.

`b ^ n` is the power that the core library defines, in every file of this library and
whatever other powers a file can see. A definition then means the same next to a library
of algebra, where the powers of a monoid would be preferred, as it does without one.
-/

set_option autoImplicit false

namespace Rollup

attribute [instance (10000), default_instance (10000)] instPowNat

end Rollup

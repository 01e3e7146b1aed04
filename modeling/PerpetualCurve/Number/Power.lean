/-!
# Powers

A power of a whole number is the one of the core library, also where another instance is in scope,
so that a bound such as `2 ^ 128` is the same term in every module.
-/

namespace PerpetualCurve

attribute [instance (1100), default_instance 10001] instPowNat

end PerpetualCurve

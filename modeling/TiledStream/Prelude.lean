/-! Powers and the zero of numbers are those of the core library, also where an algebraic library
with its own is at hand. -/

namespace TiledStream

attribute [default_instance 20000] instPowNat

instance (priority := 2000) naturalPower : Pow Nat Nat := instPowNat

instance (priority := 2000) naturalZero : Zero Nat := Zero.ofOfNat0

end TiledStream

/-!
# Powers

Wherever a power of a whole number is written, it is the one of the core library: other instances
that may be in scope do not take its place, so that every module means the same by it.
-/

attribute [instance (1100), default_instance 20000] instPowNat

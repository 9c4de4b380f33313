/-!
# Powers and sums of numbers

The powers and the empty sum of numbers are those of the core library, also where a larger library
has its own. So a definition means the same to a program as to the proofs about it.
-/

attribute [instance (20000), default_instance 20000] instPowNat

attribute [instance (20000)] Zero.ofOfNat0

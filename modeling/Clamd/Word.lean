/-!
# Sizes of words

The numbers from which on a count of bits is too small.
-/

namespace Clamd.Word

/-- The first number that does not fit 16 bits. -/
def end16 : Nat := 0x10000

/-- The first number that does not fit 32 bits. -/
def end32 : Nat := 0x100000000

/-- The first number that does not fit 64 bits of which one is the sign. -/
def end63 : Nat := 0x8000000000000000

/-- The first number that does not fit 64 bits. -/
def end64 : Nat := 0x10000000000000000

end Clamd.Word

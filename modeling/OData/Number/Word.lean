/-!
# Words

The ranges of the whole numbers of 64 bits.
-/

namespace OData.Number

/-- Numbers of 64 bits without a sign are those below this one. -/
def wordLimit : Nat := 0x10000000000000000

/-- Numbers of 64 bits with a sign are below this one, and no less than its negative. -/
def signedLimit : Nat := 0x8000000000000000

end OData.Number

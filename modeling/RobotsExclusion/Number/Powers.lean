/-!
# Powers

The powers of two and of ten, and the integers of 64 bits with sign.
-/

namespace RobotsExclusion

def twoTo (exponent : Nat) : Nat :=
  Nat.pow 2 exponent

def tenTo (exponent : Nat) : Nat :=
  Nat.pow 10 exponent

/-- Whether an integer has 64 bits with sign. -/
def isSignedWord (value : Int) : Bool :=
  -(twoTo 63 : Int) ≤ value && value < twoTo 63

end RobotsExclusion

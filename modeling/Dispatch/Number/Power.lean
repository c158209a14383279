/-!
# Powers of two and of ten

The bounds of words and the weights of binary and decimal places.
-/

set_option autoImplicit false

namespace Dispatch

def twoTo (n : Nat) : Nat := Nat.pow 2 n

def tenTo (n : Nat) : Nat := Nat.pow 10 n

example : twoTo 64 = 18446744073709551616 := by decide
example : tenTo 9 = 1000000000 := by decide

end Dispatch

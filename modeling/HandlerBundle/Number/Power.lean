/-!
# Powers of two and ten

The scales that the binary and decimal forms of numbers are read and written in.

## Main definitions

* `twoTo`, `tenTo` — powers of two and of ten.
-/

namespace HandlerBundle

/-- A power of two. -/
def twoTo (n : Nat) : Nat := Nat.pow 2 n

/-- A power of ten. -/
def tenTo (n : Nat) : Nat := Nat.pow 10 n

end HandlerBundle

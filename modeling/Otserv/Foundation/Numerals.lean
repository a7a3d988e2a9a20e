import Mathlib.Data.UInt
import Mathlib.Order.Lattice.Nat

/-!
# Numerals

Powers, sums and orders of numbers mean the same everywhere if they are those of the algebra of
these numbers. That a finite type of a literal size is not empty has a name here.
-/

namespace Otserv.Foundation

instance neZero_three : NeZero 3 := ⟨by decide⟩

instance neZero_four : NeZero 4 := ⟨by decide⟩

instance neZero_ten : NeZero 10 := ⟨by decide⟩

instance neZero_flags : NeZero 128 := ⟨by decide⟩

end Otserv.Foundation

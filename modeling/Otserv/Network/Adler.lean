import Otserv.Network.Messages
import Mathlib.Tactic.Linarith
import Mathlib.Tactic.Ring

/-!
# The checksum is Adler-32

The sums are reduced after blocks only. A block is so short that they stay below `2 ^ 32` until
then (`adlerChunk_eq`), and reducing after every byte gives the same in the end
(`adlerChecksum_eq`).
-/

namespace Otserv.Network

/-- The two sums of Adler-32 over natural numbers, each reduced after every byte. -/
def adlerSums (reduce : Nat → Nat) : List UInt8 → Nat → Nat → Nat × Nat
  | [], a, b => (a, b)
  | byte :: bytes, a, b =>
    adlerSums reduce bytes (reduce (a + byte.toNat)) (reduce (b + reduce (a + byte.toNat)))

variable (reduce : Nat → Nat) (bytes : List UInt8)

theorem adlerSums_append (more : List UInt8) (a b : Nat) :
    adlerSums reduce (bytes ++ more) a b =
      adlerSums reduce more (adlerSums reduce bytes a b).1 (adlerSums reduce bytes a b).2 := by
  induction bytes generalizing a b with
  | nil => rfl
  | cons byte bytes ih => exact ih _ _

/-- Reducing at the end is enough. -/
theorem adlerSums_mod (a b : Nat) :
    adlerSums (· % 65521) bytes (a % 65521) (b % 65521) =
      ((adlerSums id bytes a b).1 % 65521, (adlerSums id bytes a b).2 % 65521) := by
  induction bytes generalizing a b with
  | nil => rfl
  | cons byte bytes ih =>
    have low : (a % 65521 + byte.toNat) % 65521 = (a + byte.toNat) % 65521 := by omega
    have high : (b % 65521 + (a + byte.toNat) % 65521) % 65521 =
        (b + (a + byte.toNat)) % 65521 := by omega
    rw [adlerSums, low, high]
    exact ih _ _

/-- **The sums of a block do not overflow**, as long as the largest ones that there could be do
not. -/
theorem adlerChunk_eq (a b : UInt32)
    (room : 2 * b.toNat + 2 * (bytes.length * a.toNat) +
      255 * (bytes.length * (bytes.length + 1)) < 2 ^ 33) :
    ((adlerChunk bytes a b).1.toNat, (adlerChunk bytes a b).2.toNat) =
      adlerSums id bytes a.toNat b.toNat := by
  induction bytes generalizing a b with
  | nil => rfl
  | cons byte bytes ih =>
    have isByte := byte.toNat_lt
    rw [List.length_cons] at room
    have first : (a + byte.toUInt32).toNat = a.toNat + byte.toNat := by
      rw [UInt32.toNat_add, UInt8.toNat_toUInt32]
      refine Nat.mod_eq_of_lt ?_
      nlinarith
    have second : (b + (a + byte.toUInt32)).toNat = b.toNat + (a.toNat + byte.toNat) := by
      rw [UInt32.toNat_add, first]
      refine Nat.mod_eq_of_lt ?_
      nlinarith
    rw [adlerChunk, ih _ _ (by rw [first, second]; nlinarith), first, second]
    rfl

theorem adlerLoop_toNat (chunks : Nat) (a b : UInt32) (enough : bytes.length ≤ chunks)
    (smallA : a.toNat < 65521) (smallB : b.toNat < 65521) :
    (adlerLoop chunks bytes a b).toNat =
      (adlerSums (· % 65521) bytes a.toNat b.toNat).2 * 65536 +
        (adlerSums (· % 65521) bytes a.toNat b.toNat).1 := by
  have joined {a b : UInt32} (smallA : a.toNat < 65521) (smallB : b.toNat < 65521) :
      (b <<< 16 ||| a).toNat = b.toNat * 65536 + a.toNat := by
    have shifted : (b <<< 16).toNat = b.toNat <<< 16 := by
      rw [UInt32.toNat_shiftLeft]
      exact Nat.mod_eq_of_lt (by rw [Nat.shiftLeft_eq]; simp; omega)
    rw [UInt32.toNat_or, shifted, ← Nat.shiftLeft_add_eq_or_of_lt (by omega), Nat.shiftLeft_eq]
  induction chunks generalizing bytes a b with
  | zero =>
    rw [List.eq_nil_of_length_eq_zero (Nat.le_zero.mp enough)]
    exact joined smallA smallB
  | succ chunks ih =>
    rw [adlerLoop]
    by_cases done : bytes = []
    · rw [if_pos done, done]
      exact joined smallA smallB
    · have short := List.length_take_le 5552 bytes
      have block := adlerChunk_eq (bytes.take 5552) a b (by nlinarith)
      rw [if_neg done]
      generalize adlerChunk (bytes.take 5552) a b = sums at block
      obtain ⟨sumA, sumB⟩ := sums
      have carried := adlerSums_mod (bytes.take 5552) a.toNat b.toNat
      rw [← block, Nat.mod_eq_of_lt smallA, Nat.mod_eq_of_lt smallB] at carried
      have lessA := sumA.toNat.mod_lt (by decide : 0 < 65521)
      have lessB := sumB.toNat.mod_lt (by decide : 0 < 65521)
      have rest := ih (bytes.drop 5552) (sumA % 65521) (sumB % 65521)
        (by rw [List.length_drop]; omega) lessA lessB
      have all := adlerSums_append (· % 65521) (bytes.take 5552) (bytes.drop 5552) a.toNat b.toNat
      rw [List.take_append_drop, carried] at all
      rw [all]
      exact rest

/-- **The checksum is that of Adler-32**, and until the sums of a block are reduced nothing is
lost of them, whatever they were before. -/
theorem adlerChecksum_eq {data : List UInt8} (fits : data.length ≤ NETWORKMESSAGE_MAXSIZE) :
    (adlerChecksum data).toNat =
        (adlerSums (· % 65521) data 1 0).2 * 65536 + (adlerSums (· % 65521) data 1 0).1 ∧
      ∀ (block : List UInt8) (a b : UInt32), block.length ≤ 5552 → a < 65521 → b < 65521 →
        ((adlerChunk block a b).1.toNat, (adlerChunk block a b).2.toNat) =
          adlerSums id block a.toNat b.toNat := by
  constructor
  · rw [adlerChecksum, if_neg (Nat.not_lt.mpr fits)]
    exact adlerLoop_toNat data data.length 1 0 (Nat.le_refl _) (by decide) (by decide)
  · intro block a b short smallA smallB
    have lessA : a.toNat < 65521 := smallA
    have lessB : b.toNat < 65521 := smallB
    exact adlerChunk_eq block a b (by nlinarith)

/-- The checksum of "Wikipedia". -/
theorem adlerChecksum_eq_word :
    (adlerChecksum [0x57, 0x69, 0x6B, 0x69, 0x70, 0x65, 0x64, 0x69, 0x61]).toNat = 0x11E60398 := by
  rw [(adlerChecksum_eq (by decide)).1]
  decide

end Otserv.Network

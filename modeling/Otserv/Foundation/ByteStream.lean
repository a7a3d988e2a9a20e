import Mathlib.Tactic.Positivity
import Mathlib.Tactic.Zify

/-!
# Streams of bytes

Whole numbers are written as a fixed number of bytes, the lowest first, and texts
as their length in two bytes and their bytes. A value is read off the front of a
stream with what is left, or not at all when the stream is too short.

Reading a number back gives it modulo `256 ^ width`, as a number from 0
(`readUnsigned_writeInt`) or centred around 0 (`readSigned_writeInt`), so a value of
the written range survives exactly in the reader's own range. A text of at most
65535 bytes is read back whole (`readString_writeString`).
-/

namespace Otserv.Foundation

/-- What is read off the front of a stream, and what is left of it. -/
abbrev Read (α : Type*) := Option (α × List UInt8)

/-! ## Whole numbers -/

def writeNat : Nat → Nat → List UInt8
  | 0, _ => []
  | width + 1, value => UInt8.ofNat (value % 256) :: writeNat width (value / 256)

def readNat : Nat → List UInt8 → Read Nat
  | 0, bytes => some (0, bytes)
  | _ + 1, [] => none
  | width + 1, byte :: bytes =>
    (readNat width bytes).map fun (value, rest) => (byte.toNat + 256 * value, rest)

theorem readNat_writeNat (width value : Nat) (rest : List UInt8) :
    readNat width (writeNat width value ++ rest) = some (value % 256 ^ width, rest) := by
  induction width generalizing value with
  | zero => simp [readNat, writeNat, Nat.mod_one]
  | succ width ih =>
    have low : (UInt8.ofNat (value % 256)).toNat = value % 256 := by simp
    rw [writeNat, List.cons_append, readNat, ih, Option.map_some, low, pow_succ',
      Nat.mod_mul]

variable (width : Nat) (value : Int)

/-- A number as `width` bytes, a negative one in two's complement. -/
def writeInt : List UInt8 :=
  writeNat width (value % 256 ^ width).toNat

variable (bytes : List UInt8)

/-- Read an unsigned number of `width` bytes. -/
def readUnsigned : Read Int :=
  (readNat width bytes).map fun (value, rest) => ((value : Int), rest)

/-- Read a signed number of `width` bytes, in two's complement. -/
def readSigned : Read Int :=
  (readNat width bytes).map fun (value, rest) => ((value : Int).bmod (256 ^ width), rest)

variable (rest : List UInt8)

/-- The bytes written stand for the number modulo the range of the width. -/
theorem readNat_writeInt :
    readNat width (writeInt width value ++ rest) =
      some ((value % 256 ^ width).toNat, rest) := by
  have below : (value % 256 ^ width).toNat < 256 ^ width := by
    zify
    omega
  rw [writeInt, readNat_writeNat, Nat.mod_eq_of_lt below]

theorem readUnsigned_writeInt :
    readUnsigned width (writeInt width value ++ rest) = some (value % 256 ^ width, rest) := by
  have lower : 0 ≤ value % 256 ^ width := value.emod_nonneg (by positivity)
  simp only [readUnsigned, readNat_writeInt, Option.map_some, Int.toNat_of_nonneg lower]

theorem readSigned_writeInt :
    readSigned width (writeInt width value ++ rest) =
      some (value.bmod (256 ^ width), rest) := by
  have lower : 0 ≤ value % 256 ^ width := value.emod_nonneg (by positivity)
  have same : (value % 256 ^ width).bmod (256 ^ width) = value.bmod (256 ^ width) := by
    have natural : (256 : Int) ^ width = ((256 ^ width : Nat) : Int) := by push_cast; rfl
    rw [natural, Int.emod_bmod]
  simp only [readSigned, readNat_writeInt, Option.map_some, Int.toNat_of_nonneg lower, same]

/-! ## Texts -/

/-- Read the next `count` bytes. -/
def readBytes (count : Nat) (bytes : List UInt8) : Read (List UInt8) :=
  if bytes.length < count then none else some (bytes.take count, bytes.drop count)

theorem readBytes_append (text rest : List UInt8) :
    readBytes text.length (text ++ rest) = some (text, rest) := by
  have long : ¬ (text ++ rest).length < text.length := by simp
  rw [readBytes, if_neg long, List.take_left, List.drop_left]

/-- A text longer than its length field can say is written as an empty one. -/
def writeString (text : List UInt8) : List UInt8 :=
  if text.length > 65535 then writeNat 2 0 else writeNat 2 text.length ++ text

def readString : Read (List UInt8) :=
  (readNat 2 bytes).bind fun (length, rest) => readBytes length rest

theorem readString_writeString {text : List UInt8} (short : text.length ≤ 65535)
    (rest : List UInt8) : readString (writeString text ++ rest) = some (text, rest) := by
  have fits : text.length % 256 ^ 2 = text.length := Nat.mod_eq_of_lt (by omega)
  rw [readString, writeString, if_neg (by omega), List.append_assoc, readNat_writeNat, fits,
    Option.bind_some]
  exact readBytes_append text rest

end Otserv.Foundation

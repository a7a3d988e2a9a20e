import Otserv.Foundation.Numerals
import Otserv.Foundation.BlockRounds

/-!
# XTEA

A buffer is encrypted in blocks of two little-endian words, all blocks in each of 32 rounds.
The rounds of `decrypt` take the sums of `encrypt` backwards, so that it undoes `encrypt` on
a buffer of any length (`decrypt_encrypt`).
-/

namespace Otserv.Network

open Foundation

/-- The bytes of a buffer and of what lies behind it. -/
@[ext] structure Buffer where
  byte : Nat → UInt8

instance : CoeFun Buffer fun _ => Nat → UInt8 := ⟨Buffer.byte⟩

namespace Xtea

/-- `xtea::key`. -/
abbrev Key := Fin 4 → UInt32

def Key.get (k : Key) (index : UInt32) : UInt32 := k (Fin.ofNat 4 index.toNat)

def delta : UInt32 := 0x9E3779B9

/-! ## Blocks -/

variable (data : Buffer)

/-- Four bytes read as a word. -/
def load (j : Nat) : UInt32 :=
  (data j).toUInt32 ||| (data (j + 1)).toUInt32 <<< 8 ||| (data (j + 2)).toUInt32 <<< 16 |||
    (data (j + 3)).toUInt32 <<< 24

/-- The bytes of a word. -/
def byteOf (word : UInt32) : Nat → UInt8
  | 0 => word.toUInt8
  | 1 => (word >>> 8).toUInt8
  | 2 => (word >>> 16).toUInt8
  | _ => (word >>> 24).toUInt8

/-- The left and the right word of the block at a place. -/
def readBlock (j : Nat) (data : Buffer) : UInt32 × UInt32 := (load data j, load data (j + 4))

def writeBlock (j : Nat) (block : UInt32 × UInt32) (data : Buffer) : Buffer where
  byte place :=
    if place < j ∨ j + 8 ≤ place then data place
    else if place < j + 4 then byteOf block.1 (place - j)
    else byteOf block.2 (place - (j + 4))

theorem byteOf_load (j index : Nat) (inside : index < 4) :
    byteOf (load data j) index = data (j + index) := by
  match index, inside with
  | 0, _ | 1, _ | 2, _ | 3, _ =>
    simp only [byteOf, load]
    apply UInt8.toBitVec_inj.mp
    ext i bound
    simp [BitVec.getElem_setWidth] <;> grind

theorem load_of_bytes {data : Buffer} {j : Nat} {word : UInt32}
    (bytes : ∀ index < 4, data (j + index) = byteOf word index) : load data j = word := by
  have first := bytes 0 (by omega)
  have second := bytes 1 (by omega)
  have third := bytes 2 (by omega)
  have fourth := bytes 3 (by omega)
  rw [load, second, third, fourth]
  rw [Nat.add_zero] at first
  rw [first]
  simp only [byteOf]
  apply UInt32.toBitVec_inj.mp
  ext i bound
  simp [-UInt32.toUInt32_toUInt8, BitVec.getElem_setWidth]
  grind

/-- The blocks of a buffer. -/
def blocks : BlockStore Buffer (UInt32 × UInt32) where
  width := 8
  read := readBlock
  write := writeBlock
  read_write := by
    intro place block data
    refine Prod.ext (load_of_bytes fun index inside => ?_) (load_of_bytes fun index inside => ?_)
    · simp only [writeBlock]
      rw [if_neg (by omega), if_pos (by omega), Nat.add_sub_cancel_left]
    · simp only [writeBlock]
      rw [if_neg (by omega), if_neg (by omega), Nat.add_sub_cancel_left]
  write_read := by
    intro place data
    ext other
    simp only [writeBlock, readBlock]
    split_ifs with outside left
    · rfl
    · rw [byteOf_load data place _ (by omega), Nat.add_sub_cancel' (by omega)]
    · rw [byteOf_load data (place + 4) _ (by omega), Nat.add_sub_cancel' (by omega)]
  write_write := by
    intro place first second data
    ext other
    simp only [writeBlock]
    split_ifs <;> rfl
  write_comm := by
    intro place other block otherBlock data apart
    ext found
    simp only [writeBlock]
    split_ifs <;> first | rfl | omega

/-! ## Rounds -/

/-- The loop of `apply_rounds`: a block begins at every eighth byte below the length. -/
def applyRounds (start length : Nat) (round : UInt32 × UInt32 → UInt32 × UInt32) : Buffer :=
  blocks.forEach round ((length + 7) / 8) start data

def encryptRound (k : Key) (sum next_sum : UInt32) (block : UInt32 × UInt32) : UInt32 × UInt32 :=
  let left := block.1
  let right := block.2
  let left := left + (((right <<< 4 ^^^ right >>> 5) + right) ^^^ (sum + k.get (sum &&& 3)))
  let right :=
    right + (((left <<< 4 ^^^ left >>> 5) + left) ^^^
      (next_sum + k.get ((next_sum >>> 11) &&& 3)))
  (left, right)

def decryptRound (k : Key) (sum next_sum : UInt32) (block : UInt32 × UInt32) : UInt32 × UInt32 :=
  let left := block.1
  let right := block.2
  let right :=
    right - (((left <<< 4 ^^^ left >>> 5) + left) ^^^ (sum + k.get ((sum >>> 11) &&& 3)))
  let left :=
    left - (((right <<< 4 ^^^ right >>> 5) + right) ^^^
      (next_sum + k.get (next_sum &&& 3)))
  (left, right)

/-- The rounds of `encrypt` that are left. -/
def encryptLoop (start length : Nat) (k : Key) : Nat → UInt32 → UInt32 → Buffer → Buffer
  | 0, _, _, data => data
  | rounds + 1, sum, next_sum, data =>
    encryptLoop start length k rounds next_sum (next_sum + delta)
      (applyRounds data start length (encryptRound k sum next_sum))

/-- `xtea::encrypt`, of the bytes from `start` on. -/
def encrypt (data : Buffer) (start length : Nat) (k : Key) : Buffer :=
  encryptLoop start length k 32 0 (0 + delta) data

/-- The rounds of `decrypt` that are left. -/
def decryptLoop (start length : Nat) (k : Key) : Nat → UInt32 → UInt32 → Buffer → Buffer
  | 0, _, _, data => data
  | rounds + 1, sum, next_sum, data =>
    decryptLoop start length k rounds next_sum (next_sum - delta)
      (applyRounds data start length (decryptRound k sum next_sum))

/-- `xtea::decrypt`, of the bytes from `start` on. -/
def decrypt (data : Buffer) (start length : Nat) (k : Key) : Buffer :=
  decryptLoop start length k 32 (delta <<< 5) ((delta <<< 5) - delta) data

/-! ## Decryption undoes encryption -/

section Inverse

variable (start length : Nat) (k : Key) (index : Nat)

/-- The round with its place in the schedule. -/
def encryptAt (data : Buffer) : Buffer :=
  applyRounds data start length
    (encryptRound k (UInt32.ofNat index * delta) (UInt32.ofNat (index + 1) * delta))

def decryptAt (data : Buffer) : Buffer :=
  applyRounds data start length
    (decryptRound k (UInt32.ofNat (index + 1) * delta) (UInt32.ofNat index * delta))

theorem decryptRound_encryptRound (sum next_sum : UInt32) :
    Function.LeftInverse (decryptRound k next_sum sum) (encryptRound k sum next_sum) := by
  intro block
  simp only [encryptRound, decryptRound, UInt32.add_sub_cancel]

theorem ofNat_succ_mul : UInt32.ofNat (index + 1) * delta = UInt32.ofNat index * delta + delta := by
  rw [UInt32.ofNat_add, UInt32.add_mul]
  exact congrArg _ delta.one_mul

theorem encryptLoop_eq (rounds : Nat) : ∀ (index : Nat) (data : Buffer),
    encryptLoop start length k rounds (UInt32.ofNat index * delta)
        (UInt32.ofNat (index + 1) * delta) (upTo (encryptAt start length k) index data) =
      upTo (encryptAt start length k) (index + rounds) data := by
  induction rounds with
  | zero => exact fun _ _ => rfl
  | succ rounds ih =>
    intro index data
    rw [encryptLoop, ← ofNat_succ_mul]
    have next := ih (index + 1) data
    have places : index + 1 + rounds = index + (rounds + 1) := by omega
    rw [places] at next
    exact next

theorem decryptLoop_eq (rounds : Nat) : ∀ data : Buffer,
    decryptLoop start length k rounds (UInt32.ofNat rounds * delta)
        (UInt32.ofNat rounds * delta - delta) data =
      downFrom (decryptAt start length k) rounds data := by
  induction rounds with
  | zero => exact fun _ => rfl
  | succ rounds ih =>
    intro data
    have before : UInt32.ofNat (rounds + 1) * delta - delta = UInt32.ofNat rounds * delta := by
      rw [ofNat_succ_mul, UInt32.add_sub_cancel]
    rw [decryptLoop, downFrom, before, ih]
    rfl

variable (data : Buffer)

theorem encrypt_eq : encrypt data start length k = upTo (encryptAt start length k) 32 data :=
  encryptLoop_eq start length k 32 0 data

theorem decrypt_eq : decrypt data start length k = downFrom (decryptAt start length k) 32 data :=
  decryptLoop_eq start length k 32 data

/-- **Decryption undoes encryption**, on every byte of the buffer and behind it. -/
theorem decrypt_encrypt : decrypt (encrypt data start length k) start length k = data := by
  rw [encrypt_eq, decrypt_eq]
  refine upTo_leftInverse (fun index => ?_) 32 data
  exact BlockStore.forEach_leftInverse (decryptRound_encryptRound k _ _) _ _

theorem decrypt_agree {data other : Buffer}
    (agree : blocks.Agree ((length + 7) / 8) start data other) :
    blocks.Agree ((length + 7) / 8) start (decrypt data start length k)
      (decrypt other start length k) := by
  rw [decrypt_eq, decrypt_eq]
  exact downFrom_related (fun index data other agree => agree.forEach _) 32 data other agree

end Inverse

end Xtea

end Otserv.Network

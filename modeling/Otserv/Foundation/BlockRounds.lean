import Mathlib.Logic.Function.Basic

/-!
# Rounds over the blocks of a memory

A memory is read and written in blocks of one width, at any place. A round changes a block,
and is made on a number of blocks one after the other (`forEach`). Undoing the round on the
same blocks in the same order gives the memory back (`forEach_leftInverse`), and a sequence
of changes is undone by undoing each, the last one first (`upTo_leftInverse`). Memories with
the same blocks have the same blocks afterwards (`Agree.forEach`).
-/

namespace Otserv.Foundation

/-- Reading and writing blocks of a memory; blocks that do not overlap are apart. -/
structure BlockStore (Memory Block : Type*) where
  width : Nat
  read : Nat → Memory → Block
  write : Nat → Block → Memory → Memory
  read_write : ∀ place block memory, read place (write place block memory) = block
  write_read : ∀ place memory, write place (read place memory) memory = memory
  write_write : ∀ place first second memory,
    write place second (write place first memory) = write place second memory
  write_comm : ∀ place other block otherBlock memory, place + width ≤ other →
    write place block (write other otherBlock memory) =
      write other otherBlock (write place block memory)

namespace BlockStore

variable {Memory Block : Type*} (store : BlockStore Memory Block)

theorem read_write_before {place other : Nat} (before : other + store.width ≤ place)
    (block : Block) (memory : Memory) :
    store.read place (store.write other block memory) = store.read place memory := by
  have same := store.write_comm other place block (store.read place memory) memory before
  rw [store.write_read] at same
  rw [same, store.read_write]

/-- A round on a number of blocks, from a place on. -/
def forEach (round : Block → Block) : Nat → Nat → Memory → Memory
  | 0, _, memory => memory
  | blocks + 1, place, memory =>
    forEach round blocks (place + store.width)
      (store.write place (round (store.read place memory)) memory)

variable {store} (round : Block → Block)

/-- Blocks before those that are changed may be written before or after. -/
theorem forEach_write {place : Nat} (block : Block) :
    ∀ (blocks first : Nat) (memory : Memory), place + store.width ≤ first →
      store.forEach round blocks first (store.write place block memory) =
        store.write place block (store.forEach round blocks first memory) := by
  intro blocks
  induction blocks with
  | zero => exact fun _ _ _ => rfl
  | succ blocks ih =>
    intro first memory before
    have later : place + store.width ≤ first + store.width := by omega
    rw [forEach, forEach, store.read_write_before before, ← store.write_comm _ _ _ _ _ before,
      ih _ _ later]

/-- **A round on blocks is undone block by block.** -/
theorem forEach_leftInverse {round undo : Block → Block}
    (inverse : Function.LeftInverse undo round) (blocks : Nat) :
    ∀ place, Function.LeftInverse (store.forEach undo blocks place)
      (store.forEach round blocks place) := by
  induction blocks with
  | zero => exact fun _ _ => rfl
  | succ blocks ih =>
    intro place memory
    have before : place + store.width ≤ place + store.width := Nat.le_refl _
    rw [forEach, forEach, forEach_write round _ _ _ _ before, store.read_write,
      store.write_write, inverse, ← forEach_write round _ _ _ _ before, store.write_read,
      ih]

/-- Every block is changed, and by itself. -/
theorem read_forEach : ∀ (blocks index place : Nat) (memory : Memory),
    index < blocks →
      store.read (place + store.width * index) (store.forEach round blocks place memory) =
        round (store.read (place + store.width * index) memory) := by
  intro blocks
  induction blocks with
  | zero => exact fun _ _ _ inside => absurd inside (Nat.not_lt_zero _)
  | succ blocks ih =>
    intro index place memory inside
    rw [forEach]
    cases index with
    | zero =>
      rw [Nat.mul_zero, Nat.add_zero, forEach_write round _ _ _ _ (Nat.le_refl _),
        store.read_write]
    | succ index =>
      have next : place + store.width * (index + 1) =
          place + store.width + store.width * index := by
        rw [Nat.mul_succ]
        omega
      have before : place + store.width ≤ place + store.width + store.width * index := by
        omega
      rw [next, ih index _ _ (Nat.lt_of_succ_lt_succ inside), store.read_write_before before]

/-- Two memories have the same blocks there. -/
def Agree (store : BlockStore Memory Block) (blocks place : Nat) (memory other : Memory) : Prop :=
  ∀ index < blocks, store.read (place + store.width * index) memory =
    store.read (place + store.width * index) other

theorem Agree.forEach {blocks place : Nat} {memory other : Memory}
    (agree : store.Agree blocks place memory other) (round : Block → Block) :
    store.Agree blocks place (store.forEach round blocks place memory)
      (store.forEach round blocks place other) := by
  intro index inside
  rw [read_forEach round blocks index place _ inside, read_forEach round blocks index place _ inside,
    agree index inside]

end BlockStore

/-! ## Sequences of changes -/

section Sequences

variable {Memory : Type*}

/-- The changes below a number, one after the other. -/
def upTo (change : Nat → Memory → Memory) : Nat → Memory → Memory
  | 0, memory => memory
  | count + 1, memory => change count (upTo change count memory)

/-- The changes below a number, the last one first. -/
def downFrom (change : Nat → Memory → Memory) : Nat → Memory → Memory
  | 0, memory => memory
  | count + 1, memory => downFrom change count (change count memory)

theorem upTo_leftInverse {change undo : Nat → Memory → Memory}
    (inverse : ∀ index, Function.LeftInverse (undo index) (change index)) (count : Nat) :
    Function.LeftInverse (downFrom undo count) (upTo change count) := by
  induction count with
  | zero => exact fun _ => rfl
  | succ count ih =>
    intro memory
    rw [upTo, downFrom, inverse count, ih]

theorem downFrom_related {related : Memory → Memory → Prop} {change : Nat → Memory → Memory}
    (preserves : ∀ index memory other, related memory other →
      related (change index memory) (change index other)) (count : Nat) :
    ∀ memory other, related memory other →
      related (downFrom change count memory) (downFrom change count other) := by
  induction count with
  | zero => exact fun _ _ holds => holds
  | succ count ih => exact fun _ _ holds => ih _ _ (preserves count _ _ holds)

end Sequences

end Otserv.Foundation

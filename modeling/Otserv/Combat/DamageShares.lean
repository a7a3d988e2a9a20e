import Mathlib.Algebra.BigOperators.Ring.Finset
import Mathlib.Algebra.Order.Field.Rat

/-!
# Shares of the damage

A creature counts the damage of each attacker in 64 bits, that of a summon of a player for the
player. The share of an attacker divides its damage by the sum of all, and that is counted in 32
bits. So the shares are fair if and only if the whole damage fits into 32 bits (`fair_iff`).
-/

namespace Otserv.DamageShares

/-- An attacker; if it is a summon, with its master and whether that is a player. -/
structure Attacker where
  id : UInt32
  master : Option (UInt32 × Bool) := none

/-- Who the damage is counted for. -/
def Attacker.creditedTo (attacker : Attacker) : UInt32 :=
  match attacker.master with
  | some (master, true) => master
  | _ => attacker.id

abbrev CountMap := List (UInt32 × Int64)

/-- The counter of an attacker is raised, or made. -/
def CountMap.add (attackerId : UInt32) (damagePoints : Int64) : CountMap → CountMap
  | [] => [(attackerId, damagePoints)]
  | (id, total) :: rest =>
    if id = attackerId then (id, total + damagePoints) :: rest
    else (id, total) :: CountMap.add attackerId damagePoints rest

def addDamagePoints (damageMap : CountMap) (hit : Attacker × Int64) : CountMap :=
  if hit.2 ≤ 0 then damageMap else CountMap.add hit.1.creditedTo hit.2 damageMap

/-- What `getDamageRatio` has of an attacker's damage and of all damage, behind its loop. -/
def damageRatio (attackerId : UInt32) (damageMap : CountMap) : UInt64 × UInt32 :=
  damageMap.foldl (fun (attackerDamage, totalDamage) (id, total) =>
    (if id = attackerId then attackerDamage + total.toUInt64 else attackerDamage,
      totalDamage + total.toUInt64.toUInt32)) (0, 0)

/-- `getDamageRatio`, exactly: a quotient by zero is zero. -/
def getDamageRatio (attackerId : UInt32) (damageMap : CountMap) : ℚ :=
  ((damageRatio attackerId damageMap).1.toNat : ℚ) / (damageRatio attackerId damageMap).2.toNat

/-- `getGainedExperience`, exactly. -/
def getGainedExperience (lostExperience : Nat) (attackerId : UInt32) (damageMap : CountMap) :
    Nat :=
  (damageRatio attackerId damageMap).1.toNat * lostExperience /
    (damageRatio attackerId damageMap).2.toNat

/-! ## What is counted -/

/-- The damage that was dealt for some of the attackers. -/
def credited (who : UInt32 → Bool) : List (Attacker × Int64) → Nat
  | [] => 0
  | hit :: hits =>
    (if ¬ hit.2 ≤ 0 ∧ who hit.1.creditedTo then hit.2.toInt.toNat else 0) + credited who hits

/-- The damage that is counted for some of the attackers. -/
def counted (who : UInt32 → Bool) : CountMap → Nat
  | [] => 0
  | entry :: rest => (if who entry.1 then entry.2.toInt.toNat else 0) + counted who rest

/-- Every counter is positive. -/
def Positive (damageMap : CountMap) : Prop := ∀ entry ∈ damageMap, 0 < entry.2.toInt

/-- The shares are the exact ones, and add up to the whole. -/
structure Fair (hits : List (Attacker × Int64)) (damageMap : CountMap) : Prop where
  exact (attackerId : UInt32) :
    (damageRatio attackerId damageMap).1.toNat = credited (· == attackerId) hits ∧
      (damageRatio attackerId damageMap).2.toNat = credited (fun _ => true) hits
  share (attackerId : UInt32) :
    0 ≤ getDamageRatio attackerId damageMap ∧ getDamageRatio attackerId damageMap ≤ 1
  sum : damageMap ≠ [] →
    (damageMap.map fun entry => getDamageRatio entry.1 damageMap).sum = 1
  experience (lostExperience : Nat) :
    (damageMap.map fun entry => getGainedExperience lostExperience entry.1 damageMap).sum ≤
      lostExperience

variable {who : UInt32 → Bool} {damageMap : CountMap} {attackerId : UInt32}
  {damagePoints : Int64}

theorem toInt_add_of_small {one other : Int64} (first : 0 < one.toInt) (second : 0 < other.toInt)
    (small : one.toInt.toNat + other.toInt.toNat < 2 ^ 63) :
    (one + other).toInt = one.toInt + other.toInt := by
  rw [Int64.toInt_add, Int.bmod_eq_of_le (by omega) (by omega)]

theorem counted_le : counted who damageMap ≤ counted (fun _ => true) damageMap := by
  induction damageMap with
  | nil => exact Nat.le_refl 0
  | cons entry rest ih =>
    rw [counted, counted, if_pos rfl]
    split <;> omega

theorem add_spec (positive : Positive damageMap) (some_ : 0 < damagePoints.toInt)
    (small : counted (fun _ => true) damageMap + damagePoints.toInt.toNat < 2 ^ 63) :
    Positive (CountMap.add attackerId damagePoints damageMap) ∧
      counted who (CountMap.add attackerId damagePoints damageMap) = counted who damageMap +
        if who attackerId then damagePoints.toInt.toNat else 0 := by
  induction damageMap with
  | nil => exact ⟨by simpa [Positive, CountMap.add] using some_, by simp [CountMap.add, counted]⟩
  | cons entry rest ih =>
    obtain ⟨id, total⟩ := entry
    obtain ⟨first, others⟩ := List.forall_mem_cons.mp positive
    rw [counted, if_pos rfl] at small
    rw [CountMap.add]
    by_cases same : id = attackerId
    · have sum := toInt_add_of_small first some_ (by omega)
      rw [if_pos same]
      refine ⟨List.forall_mem_cons.mpr ⟨?_, others⟩, ?_⟩
      · rw [sum]
        exact Int.add_pos first some_
      · rw [counted, counted, sum, same]
        dsimp only at first ⊢
        split <;> omega
    · obtain ⟨stays, counts⟩ := ih others (by omega)
      rw [if_neg same]
      refine ⟨List.forall_mem_cons.mpr ⟨first, stays⟩, ?_⟩
      rw [counted, counted, counts, Nat.add_assoc]

theorem keys_add : (CountMap.add attackerId damagePoints damageMap).map Prod.fst =
    if attackerId ∈ damageMap.map Prod.fst then damageMap.map Prod.fst
    else damageMap.map Prod.fst ++ [attackerId] := by
  induction damageMap with
  | nil => rfl
  | cons entry rest ih =>
    rw [CountMap.add]
    by_cases same : entry.1 = attackerId
    · rw [if_pos same, List.map_cons, List.map_cons, if_pos (same ▸ List.mem_cons_self)]
    · rw [if_neg same, List.map_cons, ih, List.map_cons]
      simp only [List.mem_cons, Ne.symm same, false_or]
      split <;> rfl

theorem run_spec {hits : List (Attacker × Int64)} (positive : Positive damageMap)
    (small : counted (fun _ => true) damageMap + credited (fun _ => true) hits < 2 ^ 63) :
    Positive (hits.foldl addDamagePoints damageMap) ∧ ∀ who,
      counted who (hits.foldl addDamagePoints damageMap) =
        counted who damageMap + credited who hits := by
  induction hits generalizing damageMap with
  | nil => exact ⟨positive, fun _ => rfl⟩
  | cons hit hits ih =>
    rw [List.foldl_cons, addDamagePoints]
    split_ifs with nothing
    · simp only [credited, nothing, not_true, false_and, if_false, Nat.zero_add] at small ⊢
      exact ih positive small
    · simp only [credited, nothing, not_false_iff, true_and, if_true] at small ⊢
      have some_ : 0 < hit.2.toInt := Int64.lt_iff_toInt_lt.mp (Int64.not_le.mp nothing)
      have step (who : UInt32 → Bool) := @add_spec who damageMap hit.1.creditedTo hit.2 positive
        some_ (by omega)
      obtain ⟨stays, counts⟩ := ih (step fun _ => true).1 (by
        rw [(step _).2, if_pos rfl]
        omega)
      exact ⟨stays, fun who => by rw [counts, (step who).2, Nat.add_assoc]⟩

/-- No attacker is counted twice. -/
theorem nodup_run (hits : List (Attacker × Int64)) (nodup : (damageMap.map Prod.fst).Nodup) :
    ((hits.foldl addDamagePoints damageMap).map Prod.fst).Nodup := by
  induction hits generalizing damageMap with
  | nil => exact nodup
  | cons hit hits ih =>
    refine ih ?_
    rw [addDamagePoints]
    split
    · exact nodup
    · rw [keys_add]
      split
      · exact nodup
      next fresh => exact List.nodup_append.mpr ⟨nodup, List.pairwise_singleton _ _, by
          rintro _ old _ new rfl
          exact fresh (List.mem_singleton.mp new ▸ old)⟩

/-- The loop of `getDamageRatio` counts modulo the widths of its variables. -/
theorem foldl_damageRatio (positive : Positive damageMap) (attackerDamage : UInt64)
    (totalDamage : UInt32) :
    let sums := damageMap.foldl (fun (attackerDamage, totalDamage) (id, total) =>
      (if id = attackerId then attackerDamage + total.toUInt64 else attackerDamage,
        totalDamage + total.toUInt64.toUInt32)) (attackerDamage, totalDamage)
    sums.1.toNat = (attackerDamage.toNat + counted (· == attackerId) damageMap) % 2 ^ 64 ∧
      sums.2.toNat = (totalDamage.toNat + counted (fun _ => true) damageMap) % 2 ^ 32 := by
  induction damageMap generalizing attackerDamage totalDamage with
  | nil =>
    exact ⟨(Nat.mod_eq_of_lt attackerDamage.toNat_lt).symm,
      (Nat.mod_eq_of_lt totalDamage.toNat_lt).symm⟩
  | cons entry rest ih =>
    obtain ⟨first, others⟩ := List.forall_mem_cons.mp positive
    have isTotal : entry.2.toUInt64.toNat = entry.2.toInt.toNat :=
      Int64.toNat_toUInt64_of_le (Int64.le_iff_toInt_le.mpr (Int.le_of_lt first))
    obtain ⟨own, all⟩ := ih others
      (if entry.1 = attackerId then attackerDamage + entry.2.toUInt64 else attackerDamage)
      (totalDamage + entry.2.toUInt64.toUInt32)
    refine ⟨own.trans ?_, all.trans ?_⟩
    · rw [counted]
      by_cases same : entry.1 = attackerId
      · simp only [same, if_true, beq_self_eq_true, UInt64.toNat_add, isTotal]
        omega
      · simp only [same, if_false, beq_iff_eq, Nat.zero_add]
    · rw [counted, if_pos rfl, UInt32.toNat_add, UInt64.toNat_toUInt32, isTotal]
      omega

theorem counted_of_fresh {key : UInt32} (fresh : key ∉ damageMap.map Prod.fst) :
    counted (· == key) damageMap = 0 := by
  induction damageMap with
  | nil => rfl
  | cons entry rest ih =>
    obtain ⟨first, others⟩ := not_or.mp (List.mem_cons.not.mp fresh)
    rw [counted, ih others, beq_eq_false_iff_ne.mpr (Ne.symm first)]
    rfl

theorem counted_of_mem (nodup : (damageMap.map Prod.fst).Nodup) {entry : UInt32 × Int64}
    (member : entry ∈ damageMap) : counted (· == entry.1) damageMap = entry.2.toInt.toNat := by
  induction damageMap with
  | nil => cases member
  | cons head rest ih =>
    obtain ⟨fresh, others⟩ := List.nodup_cons.mp nodup
    rw [counted]
    rcases List.mem_cons.mp member with rfl | later
    · rw [counted_of_fresh fresh, beq_self_eq_true]
      rfl
    · have apart : head.1 ≠ entry.1 := fun same => fresh (same ▸ List.mem_map_of_mem later)
      rw [ih others later, beq_eq_false_iff_ne.mpr apart]
      exact Nat.zero_add _

theorem sum_counted (nodup : (damageMap.map Prod.fst).Nodup) :
    (damageMap.map fun entry => counted (· == entry.1) damageMap).sum =
      counted (fun _ => true) damageMap := by
  have sum_all (entries : CountMap) :
      (entries.map fun entry => entry.2.toInt.toNat).sum = counted (fun _ => true) entries := by
    induction entries with
    | nil => rfl
    | cons entry rest ih => rw [List.map_cons, List.sum_cons, ih, counted, if_pos rfl]
  rw [← sum_all]
  exact congrArg List.sum (List.map_congr_left fun entry member => counted_of_mem nodup member)

/-- Rounding each part down makes no more of the whole. -/
theorem sum_div_le {α : Type} (parts : List α) (part : α → Nat) (whole divisor : Nat) :
    (parts.map fun each => part each * whole / divisor).sum ≤
      (parts.map part).sum * whole / divisor := by
  induction parts with
  | nil => exact Nat.zero_le _
  | cons first parts ih =>
    rw [List.map_cons, List.sum_cons, List.map_cons, List.sum_cons, Nat.add_mul]
    exact (Nat.add_le_add_left ih _).trans (Nat.div_add_div_le_add_div)

/-- The shares are fair if and only if the whole damage fits into 32 bits. -/
theorem fair_iff {hits : List (Attacker × Int64)}
    (small : credited (fun _ => true) hits < 2 ^ 63) :
    Fair hits (hits.foldl addDamagePoints []) ↔ credited (fun _ => true) hits < 2 ^ 32 := by
  constructor
  · intro fair
    rw [← (fair.exact 0).2]
    exact UInt32.toNat_lt _
  intro fits
  obtain ⟨positive, counts⟩ := @run_spec [] hits (fun _ => nofun) (by
    rw [counted, Nat.zero_add]
    exact small)
  have nodup := @nodup_run [] hits List.nodup_nil
  generalize hits.foldl addDamagePoints [] = damageMap at positive counts nodup ⊢
  simp only [counted, Nat.zero_add] at counts
  have ratio (attackerId : UInt32) :
      (damageRatio attackerId damageMap).1.toNat = counted (· == attackerId) damageMap ∧
        (damageRatio attackerId damageMap).2.toNat = counted (fun _ => true) damageMap := by
    obtain ⟨own, all⟩ := @foldl_damageRatio damageMap attackerId positive 0 0
    have least := @counted_le (· == attackerId) damageMap
    have whole := counts fun _ => true
    refine ⟨own.trans ?_, all.trans ?_⟩
    · rw [UInt64.toNat_zero, Nat.zero_add, Nat.mod_eq_of_lt (by omega)]
    · rw [UInt32.toNat_zero, Nat.zero_add, Nat.mod_eq_of_lt (by omega)]
  have sum := sum_counted nodup
  refine ⟨fun attackerId => ?_, fun attackerId => ?_, fun some_ => ?_, fun lostExperience => ?_⟩
  · rw [← counts, ← counts]
    exact ratio attackerId
  · rw [getDamageRatio, (ratio attackerId).1, (ratio attackerId).2]
    exact ⟨div_nonneg (Nat.cast_nonneg _) (Nat.cast_nonneg _),
      div_le_one_of_le₀ (Nat.cast_le.mpr counted_le) (Nat.cast_nonneg _)⟩
  · have whole : counted (fun _ => true) damageMap ≠ 0 := by
      cases damageMap with
      | nil => exact absurd rfl some_
      | cons entry rest =>
        have := positive entry List.mem_cons_self
        rw [counted, if_pos rfl]
        omega
    have cast := congrArg ((Nat.cast : ℕ → ℚ)) sum
    rw [Nat.cast_list_sum, List.map_map] at cast
    simp only [getDamageRatio, (ratio _).1, (ratio _).2, div_eq_mul_inv, List.sum_map_mul_right]
    exact (congrArg (· * _) cast).trans (mul_inv_cancel₀ (Nat.cast_ne_zero.mpr whole))
  · simp only [getGainedExperience, (ratio _).1, (ratio _).2]
    refine (sum_div_le _ _ _ _).trans ?_
    rw [sum]
    exact Nat.div_le_of_le_mul (Nat.le_refl _)

/-- One hits for 3 and the summon of another for 1. -/
theorem fair_iff_quarters :
    Fair [(⟨1, none⟩, 3), (⟨9, some (2, true)⟩, 1)]
      (List.foldl addDamagePoints [] [(⟨1, none⟩, 3), (⟨9, some (2, true)⟩, 1)]) :=
  (fair_iff (by decide)).mpr (by decide)

/-- Two hits of 2^31 each are all the damage, which is counted as none. -/
theorem not_fair : ¬ ∀ hits : List (Attacker × Int64),
    credited (fun _ => true) hits < 2 ^ 63 → Fair hits (hits.foldl addDamagePoints []) := by
  intro fair
  have always := fair [(⟨1, none⟩, 2147483648), (⟨2, none⟩, 2147483648)] (by decide +kernel)
  exact absurd ((always.exact 1).2) (by decide +kernel)

end Otserv.DamageShares

import Mathlib.Data.List.Chain

/-!
# The connection throttle

`Ban::acceptConnection` counts the calls of an address that come soon after one another, and
blocks the address at the sixth. The counter is at most five between the calls, and so a burst is
cut off before its seventh call (`length_le_of_accepted`). Times are milliseconds and do not wrap around.
-/

namespace Otserv.Bans

open Function (update update_self update_of_ne)

structure ConnectBlock where
  lastAttempt : Nat
  blockTime : Nat
  count : Nat

abbrev IpConnectMap := UInt32 → Option ConnectBlock

/-- `Ban::acceptConnection`, given what is stored of the address. -/
def attempt (currentTime : Nat) : Option ConnectBlock → Bool × ConnectBlock
  | none => (true, ⟨currentTime, 0, 1⟩)
  | some connectBlock =>
    if connectBlock.blockTime > currentTime then
      (false, { connectBlock with blockTime := connectBlock.blockTime + 250 })
    else
      let timeDiff := currentTime - connectBlock.lastAttempt
      let connectBlock := { connectBlock with lastAttempt := currentTime }
      if timeDiff ≤ 5000 then
        if connectBlock.count + 1 > 5 then
          if timeDiff ≤ 500 then
            (false, { connectBlock with count := 0, blockTime := currentTime + 3000 })
          else (true, { connectBlock with count := 0 })
        else (true, { connectBlock with count := connectBlock.count + 1 })
      else (true, { connectBlock with count := 1 })

def acceptConnection (ipConnectMap : IpConnectMap) (clientIP : UInt32) (currentTime : Nat) :
    Bool × IpConnectMap :=
  let result := attempt currentTime (ipConnectMap clientIP)
  (result.1, update ipConnectMap clientIP (some result.2))

/-- The answers to a run of calls, each with the address. -/
def answers : IpConnectMap → List (UInt32 × Nat) → List (UInt32 × Bool)
  | _, [] => []
  | ipConnectMap, (clientIP, currentTime) :: calls =>
    let result := acceptConnection ipConnectMap clientIP currentTime
    (clientIP, result.1) :: answers result.2 calls

/-! ## One address -/

/-- The answers to an address that calls at these times. -/
def answersTo : Option ConnectBlock → List Nat → List Bool
  | _, [] => []
  | block, time :: times => (attempt time block).1 :: answersTo (attempt time block).2 times

/-- What is stored of the address after its calls. -/
def stored (block : Option ConnectBlock) (times : List Nat) : Option ConnectBlock :=
  times.foldl (fun block time => some (attempt time block).2) block

/-- What is given to all that has one address. -/
def ofAddress {α : Type*} (clientIP : UInt32) (entries : List (UInt32 × α)) : List α :=
  (entries.filter fun entry => entry.1 = clientIP).map Prod.snd

/-- **Calls of other addresses change nothing.** -/
theorem answers_of (ipConnectMap : IpConnectMap) (clientIP : UInt32)
    (calls : List (UInt32 × Nat)) : ofAddress clientIP (answers ipConnectMap calls) =
      answersTo (ipConnectMap clientIP) (ofAddress clientIP calls) := by
  induction calls generalizing ipConnectMap with
  | nil => rfl
  | cons call calls ih =>
    obtain ⟨ip, time⟩ := call
    have rest := ih (acceptConnection ipConnectMap ip time).2
    by_cases here : ip = clientIP
    · subst here
      simp only [acceptConnection, update_self] at rest
      simp only [answers, acceptConnection, ofAddress, List.filter_cons, decide_true, if_true,
        List.map_cons, answersTo] at rest ⊢
      rw [rest]
    · simp only [acceptConnection, update_of_ne (Ne.symm here)] at rest
      simp only [answers, acceptConnection, ofAddress, List.filter_cons, here, decide_false,
        Bool.false_eq_true, if_false] at rest ⊢
      exact rest

variable {block : ConnectBlock} {before : Option ConnectBlock}

theorem answersTo_append (before : Option ConnectBlock) (times more : List Nat) :
    answersTo before (times ++ more) =
      answersTo before times ++ answersTo (stored before times) more := by
  induction times generalizing before with
  | nil => rfl
  | cons time times ih => exact congrArg (_ :: ·) (ih _)

theorem length_answersTo (before : Option ConnectBlock) (times : List Nat) :
    (answersTo before times).length = times.length := by
  induction times generalizing before with
  | nil => rfl
  | cons time times ih => exact congrArg Nat.succ (ih _)

/-- The counter is at most five. -/
def Counts (before : Option ConnectBlock) : Prop := ∀ block ∈ before, block.count ≤ 5

theorem counts_attempt (counts : Counts before) (time : Nat) :
    (attempt time before).2.count ≤ 5 := by
  cases before with
  | none => exact Nat.le_of_ble_eq_true rfl
  | some block =>
    have atMost := counts block rfl
    simp only [attempt]
    split_ifs <;> simp only [] <;> omega

theorem counts_stored (counts : Counts before) (times : List Nat) :
    Counts (stored before times) := by
  induction times generalizing before with
  | nil => exact counts
  | cons time times ih =>
    refine ih fun block isBlock => ?_
    obtain rfl := Option.some.inj isBlock
    exact counts_attempt counts time

theorem lastAttempt_of_accepted {time : Nat} (accepted : (attempt time before).1 = true) :
    (attempt time before).2.lastAttempt = time := by
  cases before with
  | none => rfl
  | some block =>
    simp only [attempt] at accepted ⊢
    split_ifs at accepted ⊢ <;> rfl

/-- In a burst every accepted call raises the counter. -/
theorem length_le_of_accepted {times : List Nat} (atMost : block.count ≤ 5)
    (burst : (block.lastAttempt :: times).IsChain fun last time => time ≤ last + 500)
    (accepted : false ∉ answersTo (some block) times) : block.count + times.length ≤ 5 := by
  induction times generalizing block with
  | nil => exact atMost
  | cons time times ih =>
    obtain ⟨soon, rest⟩ := List.isChain_cons_cons.mp burst
    simp only [answersTo, List.mem_cons, not_or, Bool.false_eq, Bool.not_eq_false] at accepted
    obtain ⟨first, later⟩ := accepted
    have last := lastAttempt_of_accepted first
    rw [← last] at rest
    have counted : (attempt time (some block)).2.count = block.count + 1 ∧ block.count < 5 := by
      have close : time - block.lastAttempt ≤ 500 := by omega
      have closer : time - block.lastAttempt ≤ 5000 := by omega
      simp only [attempt, close, closer, if_true] at first ⊢
      split_ifs at first ⊢
      exact ⟨rfl, by omega⟩
    have onwards := ih (by omega) rest later
    rw [List.length_cons]
    omega

theorem accepted_of_slow {times : List Nat} (free : block.blockTime = 0)
    (slow : (block.lastAttempt :: times).IsChain fun last time => last + 500 < time) :
    false ∉ answersTo (some block) times := by
  induction times generalizing block with
  | nil => exact List.not_mem_nil
  | cons time times ih =>
    obtain ⟨late, rest⟩ := List.isChain_cons_cons.mp slow
    have apart : ¬ time - block.lastAttempt ≤ 500 := by omega
    have step : (attempt time (some block)).1 = true ∧
        (attempt time (some block)).2.blockTime = 0 := by
      simp only [attempt, free, apart, Nat.not_lt_zero, gt_iff_lt, if_false]
      split_ifs <;> exact ⟨rfl, rfl⟩
    rw [← lastAttempt_of_accepted step.1] at rest
    simp only [answersTo, List.mem_cons, step.1, not_or]
    exact ⟨Bool.false_ne_true, ih step.2 rest⟩

theorem refused_of_blocked {times : List Nat} (blocked : ∀ time ∈ times, time < block.blockTime) :
    true ∉ answersTo (some block) times := by
  induction times generalizing block with
  | nil => exact List.not_mem_nil
  | cons time times ih =>
    obtain ⟨now, later⟩ := List.forall_mem_cons.mp blocked
    simp only [answersTo, attempt, if_pos now, List.mem_cons, not_or]
    exact ⟨Bool.false_ne_true.symm, ih fun time member => Nat.lt_add_right 250 (later time member)⟩

/-- What the throttle promises an address that calls at these times. -/
structure Throttled (times : List Nat) (given : List Bool) : Prop where
  /-- Of seven calls with at most 500 ms between them one is refused. -/
  burst : ∀ before seven after, times = before ++ seven ++ after → seven.length = 7 →
    (seven.IsChain fun last time => time ≤ last + 500) →
      false ∈ (given.drop before.length).take 7
  /-- Who always waits for more than 500 ms is never refused. -/
  slow : (times.IsChain fun last time => last + 500 < time) → false ∉ given
  /-- After a refusal outside of a block the calls of the next 3000 ms are refused. -/
  blocked : ∀ before time soon after, times = before ++ time :: (soon ++ after) →
    (∀ block ∈ stored none before, block.blockTime ≤ time) →
      given[before.length]? = some false → (∀ next ∈ soon, next < time + 3000) →
        true ∉ (given.drop (before.length + 1)).take soon.length

/-- **The throttle is sound and fair** to every address in every run of calls: its answers are
those to its own calls, and they keep the promise. -/
theorem throttle_sound (calls : List (UInt32 × Nat)) (clientIP : UInt32) :
    ofAddress clientIP (answers (fun _ => none) calls) =
        answersTo none (ofAddress clientIP calls) ∧
      Throttled (ofAddress clientIP calls)
        (ofAddress clientIP (answers (fun _ => none) calls)) := by
  have own := answers_of (fun _ => none) clientIP calls
  refine ⟨own, ?_⟩
  rw [own]
  generalize ofAddress clientIP calls = times
  refine ⟨?_, ?_, ?_⟩
  · rintro before seven after rfl isSeven burst
    have part : ((answersTo none (before ++ seven ++ after)).drop before.length).take 7 =
        answersTo (stored none before) seven := by
      rw [List.append_assoc, answersTo_append, List.drop_left' (length_answersTo _ _),
        answersTo_append, List.take_left' ((length_answersTo _ _).trans isSeven)]
    rw [part]
    by_contra accepted
    obtain ⟨first, others, rfl⟩ := List.exists_cons_of_length_eq_add_one isSeven
    simp only [answersTo, List.mem_cons, not_or, Bool.false_eq, Bool.not_eq_false] at accepted
    have counts := counts_attempt (@counts_stored none nofun before) first
    have few := length_le_of_accepted counts
      ((lastAttempt_of_accepted accepted.1).symm ▸ burst) accepted.2
    rw [List.length_cons] at isSeven
    omega
  · intro slow
    cases times with
    | nil => exact List.not_mem_nil
    | cons time times =>
      simp only [answersTo, attempt, List.mem_cons, not_or]
      exact ⟨Bool.false_ne_true, accepted_of_slow rfl slow⟩
  · rintro before time soon after rfl free refused near
    rw [answersTo_append, List.getElem?_append_right (Nat.le_of_eq (length_answersTo _ _)),
      length_answersTo, Nat.sub_self, answersTo, List.getElem?_cons_zero,
      Option.some_inj] at refused
    have starts : (attempt time (stored none before)).2.blockTime = time + 3000 := by
      cases isStored : stored none before with
      | none => simp [isStored, attempt] at refused
      | some block =>
        have open_ := Nat.not_lt.mpr (free block isStored)
        simp only [isStored, attempt, gt_iff_lt, open_, if_false] at refused ⊢
        split_ifs at refused ⊢
        rfl
    have part : ((answersTo none (before ++ time :: (soon ++ after))).drop
        (before.length + 1)).take soon.length =
          answersTo (attempt time (stored none before)).2 soon := by
      rw [answersTo_append, ← List.drop_drop, List.drop_left' (length_answersTo _ _), answersTo,
        List.drop_succ_cons, List.drop_zero, answersTo_append,
        List.take_left' (length_answersTo _ _)]
    rw [part]
    exact refused_of_blocked fun next member => starts.symm ▸ near next member

end Otserv.Bans

import Otserv.Logins.WaitList

/-!
# Places in the login queue

A player is told how many wait before it, and keeps its place when it tries again in time; nobody
is let in before its turn (`Queued`). A player who is not in a list yet is treated so. One who is
in a list is not: the slot that `findClient` counts is that of the entries behind it, and when it
has to go on waiting, its number is overwritten where its timeout should be. All goes well in the
runs in which whoever tries again is let in, as there is room for those before it as well as for
those behind it (`queued_throughout`).
-/

namespace Otserv.Logins

open Foundation

theorem getTimeout_pos (slot : Nat) : 0 < getTimeout slot := Nat.lt_add_left _ (by decide)

theorem mem_cleanupList {time : Int} {list : WaitList} {entry : Int × Nat} :
    entry ∈ cleanupList time list ↔ entry ∈ list ∧ time < entry.1 := by
  rw [cleanupList, List.mem_filter, decide_eq_true_iff, Int.not_le]

theorem findEntry_ne_length {guid : Nat} {list : WaitList} :
    findEntry guid list ≠ list.length ↔ guid ∈ list.map Prod.snd := by
  rw [findEntry, ne_eq, List.findIdx_eq_length]
  constructor
  · intro found
    by_contra absent
    refine found fun entry isEntry => ?_
    rw [beq_eq_false_iff_ne]
    rintro rfl
    exact absent (List.mem_map_of_mem isEntry)
  · intro isThere none
    obtain ⟨entry, isEntry, rfl⟩ := List.mem_map.mp isThere
    have different := none entry isEntry
    rw [beq_self_eq_true] at different
    cases different

theorem findEntry_of_insert {guid : Nat} {before : WaitList}
    (absent : guid ∉ before.map Prod.snd) (timeout : Int) (behind : WaitList) :
    findEntry guid (before ++ (timeout, guid) :: behind) = before.length := by
  have atEnd : before.findIdx (fun entry => entry.2 == guid) = before.length :=
    not_not.mp (mt findEntry_ne_length.mp absent)
  rw [findEntry, List.findIdx_append, atEnd, if_neg (Nat.lt_irrefl _), List.findIdx_cons,
    beq_self_eq_true]
  exact Nat.zero_add _

namespace WaitLists

variable (lists : WaitLists) {player : Player}

/-- All entries in the order of their places. -/
def entries : WaitList := lists.priorityWaitList ++ lists.waitList

/-- The players in the order of their places. -/
def guids : List Nat := lists.entries.map Prod.snd

/-- How many entries are ahead of a player: of all, when it is not in a list. -/
def ahead (guid : Nat) : Nat := findEntry guid lists.entries

/-- How many entries are counted for a player in a list: its own and those behind it in the list,
and for a player without premium all those in the list of the others. -/
def counted (guid : Nat) : Nat :=
  if guid ∈ lists.priorityWaitList.map Prod.snd then
    lists.priorityWaitList.length - findEntry guid lists.priorityWaitList
  else
    lists.priorityWaitList.length + (lists.waitList.length - findEntry guid lists.waitList)

variable {lists}

theorem entries_cleanup (time : Int) :
    (lists.cleanup time).entries = cleanupList time lists.entries :=
  (List.filter_append ..).symm

/-- The entries whose time has not come stay in their order. -/
theorem guids_cleanup_sublist (time : Int) : (lists.cleanup time).guids.Sublist lists.guids := by
  rw [guids, entries_cleanup]
  exact List.filter_sublist.map Prod.snd

/-- **`findClient`** of a player in a list. -/
theorem findClient_of_mem (isThere : player.guid ∈ lists.guids) :
    let found := lists.findClient player
    found.2.1 < (lists.get found.1).length ∧ found.2.2 = lists.counted player.guid + 1 := by
  rw [guids, entries, List.map_append, List.mem_append] at isThere
  rw [findClient, counted]
  by_cases isPriority : player.guid ∈ lists.priorityWaitList.map Prod.snd
  · rw [if_pos isPriority, if_pos (findEntry_ne_length.mpr isPriority)]
    exact ⟨Nat.lt_of_le_of_ne List.findIdx_le_length (findEntry_ne_length.mpr isPriority), rfl⟩
  · have isNormal := isThere.resolve_left isPriority
    rw [if_neg isPriority, if_neg (mt findEntry_ne_length.mp isPriority)]
    rw [if_pos (findEntry_ne_length.mpr isNormal)]
    exact ⟨Nat.lt_of_le_of_ne List.findIdx_le_length (findEntry_ne_length.mpr isNormal), rfl⟩

/-- **`findClient`** of a player in no list. -/
theorem findClient_of_not_mem (absent : player.guid ∉ lists.guids) :
    (lists.findClient player).2.1 = (lists.get (lists.findClient player).1).length := by
  rw [guids, entries, List.map_append, List.mem_append, not_or] at absent
  rw [findClient, if_neg (mt findEntry_ne_length.mp absent.1)]
  rw [if_neg (mt findEntry_ne_length.mp absent.2)]
  rfl

theorem entries_modify_sublist (priority : Bool) {change : WaitList → WaitList}
    (fewer : ∀ list, (change list).Sublist list) :
    (lists.modify priority change).entries.Sublist lists.entries := by
  cases priority with
  | false => exact (List.Sublist.refl _).append (fewer _)
  | true => exact (fewer _).append (.refl _)

end WaitLists

/-! ## What a player is told -/

theorem LoginCall.passes_iff {call : LoginCall} : call.Passes ↔
    ¬ (call.player.canAlwaysLogin = true ∨
      ACCOUNT_TYPE_GAMEMASTER ≤ call.player.accountType) := by
  rw [not_or, Bool.not_eq_true, Nat.not_le, Passes]

/-- What a call has to do. -/
structure Queued (before : LoginQueue) (call : LoginCall) (after : LoginQueue) : Prop where
  unexpired : ∀ entry ∈ after.lists.entries, call.time < entry.1
  refused : ∀ guid ∈ after.lists.guids, guid ∈ after.refused
  once : after.lists.guids.Nodup
  place : 0 < (call.answer before).2 → call.player.guid ∈ after.lists.guids ∧
    (call.answer before).2 = 1 + after.lists.ahead call.player.guid
  renewed : 0 < (call.answer before).2 →
    call.player.guid ∈ (before.lists.cleanup call.time).guids →
      after.lists.guids = (before.lists.cleanup call.time).guids ∧
        ∃ entry ∈ after.lists.entries, entry.2 = call.player.guid ∧
          entry.1 = call.time + (getTimeout (call.answer before).2 * 1000 : Nat)
  admitted : (call.answer before).2 = 0 → call.playersOnline + 1 +
    (before.lists.cleanup call.time).ahead call.player.guid ≤ call.maxPlayers

/-- Whoever tries again finds room for those before it, and for those behind it. -/
def Roomy (queue : LoginQueue) (call : LoginCall) : Prop :=
  call.player.guid ∈ (queue.lists.cleanup call.time).guids →
    call.playersOnline + 1 + (queue.lists.cleanup call.time).ahead call.player.guid ≤
        call.maxPlayers ∧
      call.playersOnline + 1 + (queue.lists.cleanup call.time).counted call.player.guid ≤
        call.maxPlayers

instance (queue : LoginQueue) (call : LoginCall) : Decidable (Roomy queue call) :=
  inferInstanceAs (Decidable (_ → _))

structure LoginQueue.Invariant (queue : LoginQueue) : Prop where
  once : queue.lists.guids.Nodup
  refused : ∀ guid ∈ queue.lists.guids, guid ∈ queue.refused

namespace LoginQueue

variable {queue : LoginQueue} {call : LoginCall}

theorem step_eq : clientLogins.step queue call = ⟨(call.answer queue).1,
    if (call.answer queue).2 ≠ 0 then call.player.guid :: queue.refused else queue.refused⟩ := rfl

theorem answer_of_not_passes (passes : ¬ call.Passes) : call.answer queue = (queue.lists, 0) :=
  if_pos (not_not.mp (mt LoginCall.passes_iff.mpr passes))

theorem answer_of_not_mem (passes : call.Passes) (limited : 0 < call.maxPlayers)
    (absent : call.player.guid ∉ (queue.lists.cleanup call.time).guids) :
    (call.answer queue = (queue.lists.cleanup call.time, 0) ∧
        (queue.lists.cleanup call.time).entries = [] ∧ call.playersOnline < call.maxPlayers) ∨
      ∃ before behind : WaitList, (queue.lists.cleanup call.time).entries = before ++ behind ∧
        (call.answer queue).2 = before.length + 1 ∧
          (call.answer queue).1.entries = before ++ (call.time +
            (getTimeout (before.length + 1) * 1000 : Nat), call.player.guid) :: behind := by
  have atEnd := WaitLists.findClient_of_not_mem absent
  rw [LoginCall.answer, WaitLists.clientLogin, if_neg (LoginCall.passes_iff.mp passes)]
  simp only []
  generalize queue.lists.cleanup call.time = lists at *
  split_ifs with open_ found enough premium
  · have nobody := open_.resolve_left (Nat.ne_of_gt limited)
    refine .inl ⟨rfl, ?_, nobody.2.2⟩
    rw [WaitLists.entries, nobody.1, nobody.2.1]
    rfl
  · exact absurd atEnd found
  · exact absurd atEnd found
  · exact .inr ⟨lists.priorityWaitList, lists.waitList, rfl, rfl, List.append_assoc ..⟩
  · refine .inr ⟨lists.entries, [], (List.append_nil _).symm, ?_, ?_⟩
    · rw [WaitLists.entries, List.length_append]
    · have all : lists.priorityWaitList.length + lists.waitList.length = lists.entries.length :=
        List.length_append.symm
      rw [← all]
      exact (List.append_assoc ..).symm

theorem answer_of_mem (passes : call.Passes)
    (isThere : call.player.guid ∈ (queue.lists.cleanup call.time).guids)
    (room : call.playersOnline + 1 + (queue.lists.cleanup call.time).counted call.player.guid ≤
      call.maxPlayers) :
    (call.answer queue).2 = 0 ∧
      (call.answer queue).1.entries.Sublist (queue.lists.cleanup call.time).entries := by
  obtain ⟨inList, slot⟩ := WaitLists.findClient_of_mem isThere
  rw [LoginCall.answer, WaitLists.clientLogin, if_neg (LoginCall.passes_iff.mp passes)]
  simp only []
  generalize queue.lists.cleanup call.time = lists at *
  have fits : call.playersOnline + (lists.findClient call.player).2.2 ≤ call.maxPlayers := by
    omega
  split_ifs with open_ found
  · exact ⟨rfl, .refl _⟩
  · exact ⟨rfl, WaitLists.entries_modify_sublist _ fun list => List.eraseIdx_sublist ..⟩
  · exact absurd (Nat.ne_of_lt inList) found
  · exact absurd (Nat.ne_of_lt inList) found

namespace Invariant

theorem cleanup (invariant : queue.Invariant) (time : Int) :
    (queue.lists.cleanup time).guids.Nodup ∧
      ∀ guid ∈ (queue.lists.cleanup time).guids, guid ∈ queue.refused := by
  have fewer := @WaitLists.guids_cleanup_sublist queue.lists time
  exact ⟨fewer.nodup invariant.once, fun guid isThere =>
    invariant.refused guid (fewer.subset isThere)⟩

theorem unexpired (time : Int) : ∀ entry ∈ (queue.lists.cleanup time).entries, time < entry.1 := by
  intro entry isThere
  rw [WaitLists.entries_cleanup] at isThere
  exact (mem_cleanupList.mp isThere).2

theorem queued_of_sublist (invariant : queue.Invariant) (zero : (call.answer queue).2 = 0)
    (fewer : (call.answer queue).1.entries.Sublist (queue.lists.cleanup call.time).entries)
    (room : call.playersOnline + 1 +
      (queue.lists.cleanup call.time).ahead call.player.guid ≤ call.maxPlayers) :
    Queued queue call (clientLogins.step queue call) := by
  obtain ⟨once, refused⟩ := invariant.cleanup call.time
  have guids := fewer.map Prod.snd
  have waits : ¬ 0 < (call.answer queue).2 := by
    rw [zero]
    exact Nat.lt_irrefl 0
  exact {
    unexpired := fun entry isThere => unexpired call.time entry (fewer.subset isThere)
    refused := fun guid isThere => by
      rw [step_eq, if_neg (not_not_intro zero)]
      exact refused guid (guids.subset isThere)
    once := guids.nodup once
    place := fun waiting => absurd waiting waits
    renewed := fun waiting => absurd waiting waits
    admitted := fun _ => room }

theorem queued_of_insert (invariant : queue.Invariant)
    (absent : call.player.guid ∉ (queue.lists.cleanup call.time).guids) {before behind : WaitList}
    (entries : (queue.lists.cleanup call.time).entries = before ++ behind)
    (slot : (call.answer queue).2 = before.length + 1)
    (after : (call.answer queue).1.entries = before ++ (call.time +
      (getTimeout (before.length + 1) * 1000 : Nat), call.player.guid) :: behind) :
    Queued queue call (clientLogins.step queue call) := by
  obtain ⟨once, refused⟩ := invariant.cleanup call.time
  have old := @unexpired queue call.time
  have guids : (call.answer queue).1.guids.Perm
      (call.player.guid :: (queue.lists.cleanup call.time).guids) := by
    rw [WaitLists.guids, WaitLists.guids, after, entries]
    exact List.perm_middle.map Prod.snd
  have isThere : call.player.guid ∈ (call.answer queue).1.guids :=
    guids.mem_iff.mpr List.mem_cons_self
  have waits : (call.answer queue).2 ≠ 0 := by
    rw [slot]
    exact Nat.succ_ne_zero _
  exact {
    unexpired := fun entry isEntry => by
      change entry ∈ (call.answer queue).1.entries at isEntry
      rw [after, List.mem_append, List.mem_cons] at isEntry
      rcases isEntry with isBefore | rfl | isBehind
      · exact old entry (entries ▸ List.mem_append_left _ isBefore)
      · exact Int.lt_add_of_pos_right _
          (Int.natCast_pos.mpr (Nat.mul_pos (getTimeout_pos _) (by decide)))
      · exact old entry (entries ▸ List.mem_append_right _ isBehind)
    refused := fun guid isGuid => by
      rw [step_eq, if_pos waits]
      rcases List.mem_cons.mp (guids.mem_iff.mp isGuid) with rfl | isOld
      · exact List.mem_cons_self
      · exact List.mem_cons_of_mem _ (refused guid isOld)
    once := guids.nodup_iff.mpr (List.nodup_cons.mpr ⟨absent, once⟩)
    place := fun _ => by
      refine ⟨isThere, ?_⟩
      change (call.answer queue).2 =
        1 + findEntry call.player.guid (call.answer queue).1.entries
      have ahead : call.player.guid ∉ before.map Prod.snd := by
        rw [WaitLists.guids, entries, List.map_append, List.mem_append, not_or] at absent
        exact absent.1
      rw [slot, after, Nat.add_comm]
      exact congrArg (1 + ·) (findEntry_of_insert ahead _ _).symm
    renewed := fun _ isOld => absurd isOld absent
    admitted := fun zero => absurd zero waits }

theorem queued (invariant : queue.Invariant) (passes : call.Passes)
    (limited : 0 < call.maxPlayers) (roomy : Roomy queue call) :
    Queued queue call (clientLogins.step queue call) := by
  by_cases isThere : call.player.guid ∈ (queue.lists.cleanup call.time).guids
  · obtain ⟨room, counted⟩ := roomy isThere
    obtain ⟨zero, fewer⟩ := answer_of_mem passes isThere counted
    exact invariant.queued_of_sublist zero fewer room
  · rcases answer_of_not_mem passes limited isThere with
      ⟨answer, nobody, open_⟩ | ⟨before, behind, entries, slot, after⟩
    · refine invariant.queued_of_sublist (congrArg Prod.snd answer) ?_ ?_
      · rw [answer]
      · rw [WaitLists.ahead, nobody]
        exact open_
    · exact invariant.queued_of_insert isThere entries slot after

theorem step (invariant : queue.Invariant) (limited : 0 < call.maxPlayers)
    (roomy : call.Passes → Roomy queue call) : (clientLogins.step queue call).Invariant := by
  by_cases passes : call.Passes
  · have queued := invariant.queued passes limited (roomy passes)
    exact ⟨queued.once, queued.refused⟩
  · have same : clientLogins.step queue call = queue := by
      rw [step_eq, answer_of_not_passes passes]
      rfl
    rw [same]
    exact invariant

end Invariant

end LoginQueue

/-- **The login queue is fair** after every call that passes the first check, throughout every run
in which whoever tries again finds room for those before it and for those behind it. -/
theorem queued_throughout {start : LoginQueue} (initial : start.Invariant)
    {calls : List LoginCall} (legal : clientLogins.Legal start calls)
    (roomy : clientLogins.Throughout (fun queue call _ => call.Passes → Roomy queue call)
      start calls) :
    clientLogins.Throughout (fun before call after => call.Passes → Queued before call after)
      start calls :=
  .of_invariant (fun _ _ invariant allowed guard =>
    ⟨fun passes => invariant.queued passes allowed.2 (guard passes),
      invariant.step allowed.2 guard⟩) initial legal roomy

theorem invariant_empty : LoginQueue.Invariant {} :=
  ⟨List.nodup_nil, fun _ isThere => absurd isThere List.not_mem_nil⟩

/-- The server is full of `10`; player `1` waits, then player `2`, who has premium, and both try
again in time when there is room. -/
theorem queued_throughout_retry :
    clientLogins.Throughout (fun before call after => call.Passes → Queued before call after) {}
      [⟨{ guid := 1 }, 0, 10, 10⟩, ⟨{ guid := 2, isPremium := true }, 1000, 10, 10⟩,
        ⟨{ guid := 2, isPremium := true }, 6000, 8, 10⟩, ⟨{ guid := 1 }, 7000, 8, 10⟩] :=
  queued_throughout invariant_empty (by decide) (by decide)

/-- The first of two in the list tries again and goes on waiting: it is told place `3`, and its
entry is that of nobody. -/
theorem number_overwritten :
    ¬ clientLogins.Throughout (fun before call after => call.Passes → Queued before call after) {}
      [⟨{ guid := 1 }, 0, 10, 10⟩, ⟨{ guid := 2 }, 1000, 10, 10⟩, ⟨{ guid := 1 }, 5000, 10, 10⟩] := by
  rintro ⟨-, -, queued, -⟩
  have place := (queued (by decide)).place (by decide)
  revert place
  decide

end Otserv.Logins

import Otserv.Foundation.Runs

/-!
# Wars of a guild

A guild keeps its wars in a map, by the number of the other guild. A war that has finished stays
in the map and counts as none: `addWar` then says that it has added another, but `emplace` leaves
the one that is there. What a script is told of an added war is so in every run that finds no
other finished war in its place (`wars_recorded_iff`), and scripts cannot get rid of one
(`finished_stays`).
-/

namespace Otserv.Guilds

open Foundation

structure GuildWar where
  id : Nat := 0
  status : Nat := 0
  kills : Nat := 0
  killsMax : Nat := 0
  goldBet : Nat := 0
  duration : Int := 0
  started : Int := 0
  ended : Int := 0
  forced : Bool := false
  init : Bool := false
deriving DecidableEq

/-- The war with each guild. -/
abbrev GuildWarMap := Nat → Option GuildWar

namespace GuildWarMap

variable (wars : GuildWarMap) (guildId : Nat)

/-- `m_mGuildWars.emplace`. -/
def emplace (war : GuildWar) : GuildWarMap :=
  if (wars guildId).isSome then wars else Function.update wars guildId (some war)

/-- `Guild::getWar` makes a war where there is none. -/
def getWar : GuildWarMap × GuildWar := (wars.emplace guildId {}, (wars guildId).getD {})

def isInWar : Bool :=
  match wars guildId with
  | none => false
  | some _ => (wars.getWar guildId).2.status == 2

def isInAnyWar : Bool :=
  match wars guildId with
  | none => false
  | some _ => (wars.getWar guildId).2.status != 3

def addWar (war : GuildWar) : GuildWarMap × Bool :=
  if wars.isInAnyWar guildId then (wars, false) else (wars.emplace guildId war, true)

/-- `Guild::removeWar`, and whether the database has removed the war when it is asked to. -/
def removeWar (remove executed : Bool) : GuildWarMap × Bool :=
  if !wars.isInAnyWar guildId then (wars, false)
  else if remove && !executed then (wars, false)
  else (Function.update wars guildId none, true)

/-- What `Guild::getWar` gives is changed. -/
def changeWar (change : GuildWar → GuildWar) : GuildWarMap :=
  let (wars, war) := wars.getWar guildId
  Function.update wars guildId (some (change war))

/-- `luaGuildSetWarStatus`. -/
def setWarStatus (status : Nat) : GuildWarMap :=
  if !wars.isInAnyWar guildId then wars
  else wars.changeWar guildId fun war => { war with status := status }

/-- `luaGuildAddWarKill`. -/
def addWarKill (kills : Nat) : GuildWarMap :=
  if !wars.isInWar guildId then wars
  else wars.changeWar guildId fun war => { war with kills := (war.kills + kills) % 2 ^ 16 }

end GuildWarMap

inductive WarOp where
  | addWar (guildId : Nat) (war : GuildWar)
  | removeWar (guildId : Nat) (remove executed : Bool)
  | changeWar (guildId : Nat) (change : GuildWar → GuildWar)
  | setWarStatus (guildId status : Nat)
  | addWarKill (guildId kills : Nat)

/-- What scripts can do: they do not keep what `Guild::getWar` gives. -/
def WarOp.Scripted : WarOp → Prop
  | .changeWar _ _ => False
  | _ => True

def guildWars : System GuildWarMap WarOp where
  legal _ _ := True
  step wars
    | .addWar guildId war => (wars.addWar guildId war).1
    | .removeWar guildId remove executed => (wars.removeWar guildId remove executed).1
    | .changeWar guildId change => wars.changeWar guildId change
    | .setWarStatus guildId status => wars.setWarStatus guildId status
    | .addWarKill guildId kills => wars.addWarKill guildId kills

namespace GuildWarMap

variable {wars : GuildWarMap} {guildId : Nat} {war : GuildWar}

theorem isInWar_iff : wars.isInWar guildId = true ↔ ∃ war ∈ wars guildId, war.status = 2 := by
  rw [isInWar]
  cases isWar : wars guildId with
  | none => exact iff_of_false nofun nofun
  | some war => simp [getWar, isWar]

theorem isInAnyWar_iff : wars.isInAnyWar guildId = true ↔ ∃ war ∈ wars guildId, war.status ≠ 3 := by
  rw [isInAnyWar]
  cases isWar : wars guildId with
  | none => exact iff_of_false nofun nofun
  | some war => simp [getWar, isWar]

theorem isInAnyWar_eq_false_iff :
    wars.isInAnyWar guildId = false ↔ ∀ war ∈ wars guildId, war.status = 3 := by
  rw [← Bool.not_eq_true, isInAnyWar_iff]
  constructor
  · intro none war isWar
    by_contra going
    exact none ⟨war, isWar, going⟩
  · rintro finished ⟨war, isWar, going⟩
    exact going (finished war isWar)

theorem emplace_of_some (isWar : wars guildId = some war) (other : GuildWar) :
    wars.emplace guildId other = wars := if_pos (isWar ▸ rfl)

theorem emplace_of_none (isNone : wars guildId = none) (other : GuildWar) :
    wars.emplace guildId other = Function.update wars guildId (some other) :=
  if_neg (by rw [isNone]; exact Bool.false_ne_true)

/-! ## What a script is told -/

/-- The war with the guild has the number, the status, the kills and the bet of another. -/
def Records (wars : GuildWarMap) (guildId : Nat) (war : GuildWar) : Prop :=
  ∃ recorded ∈ wars guildId, recorded.id = war.id ∧ recorded.status = war.status ∧
    recorded.kills = war.kills ∧ recorded.goldBet = war.goldBet

/-- What the answer of `addWar` says. -/
structure Answered (before : GuildWarMap) (op : WarOp) (after : GuildWarMap) : Prop where
  added : ∀ guildId war, op = .addWar guildId war → (before.addWar guildId war).2 = true →
    after.Records guildId war ∧ (war.status ≠ 3 → after.isInAnyWar guildId = true)
  refused : ∀ guildId war, op = .addWar guildId war → (before.addWar guildId war).2 = false →
    after = before
  restarted : ∀ guildId war, op = .addWar guildId war →
    (∀ finished ∈ before guildId, finished.status = 3) → (before.addWar guildId war).2 = true

/-- No other war than the one that is added has finished in its place. -/
def Vacant (wars : GuildWarMap) (op : WarOp) : Prop :=
  ∀ guildId war, op = .addWar guildId war → ∀ finished ∈ wars guildId, finished.status = 3 →
    finished.id = war.id ∧ finished.status = war.status ∧
      finished.kills = war.kills ∧ finished.goldBet = war.goldBet

theorem addWar_of_isInAnyWar (inWar : wars.isInAnyWar guildId = true) :
    wars.addWar guildId war = (wars, false) := if_pos inWar

theorem addWar_of_not_isInAnyWar (noWar : wars.isInAnyWar guildId = false) :
    wars.addWar guildId war = (wars.emplace guildId war, true) :=
  if_neg (Bool.eq_false_iff.mp noWar)

variable {finished : GuildWar} {op : WarOp}

theorem answered_of_vacant (vacant : wars.Vacant op) :
    wars.Answered op (guildWars.step wars op) := by
  refine ⟨?_, ?_, ?_⟩
  · rintro guildId war rfl added
    have noWar : wars.isInAnyWar guildId = false := by
      by_contra inWar
      rw [addWar_of_isInAnyWar (Bool.not_eq_false _ ▸ inWar)] at added
      cases added
    change (wars.addWar guildId war).1.Records guildId war ∧
      (war.status ≠ 3 → (wars.addWar guildId war).1.isInAnyWar guildId = true)
    rw [addWar_of_not_isInAnyWar noWar]
    cases isWar : wars guildId with
    | none =>
      have isAdded : (wars.emplace guildId war) guildId = some war := by
        rw [emplace_of_none isWar, Function.update_self]
      exact ⟨⟨war, isAdded, rfl, rfl, rfl, rfl⟩,
        fun going => isInAnyWar_iff.mpr ⟨war, isAdded, going⟩⟩
    | some finished =>
      have status := isInAnyWar_eq_false_iff.mp noWar finished isWar
      have same := vacant guildId war rfl finished isWar status
      rw [emplace_of_some isWar]
      exact ⟨⟨finished, isWar, same⟩, fun going => absurd (same.2.1.symm.trans status) going⟩
  · rintro guildId war rfl refused
    cases inWar : wars.isInAnyWar guildId with
    | true => exact congrArg Prod.fst (addWar_of_isInAnyWar inWar)
    | false =>
      rw [addWar_of_not_isInAnyWar inWar] at refused
      cases refused
  · rintro guildId war rfl finished
    rw [addWar_of_not_isInAnyWar (isInAnyWar_eq_false_iff.mpr finished)]

theorem vacant_of_answered (answered : wars.Answered op (guildWars.step wars op)) :
    wars.Vacant op := by
  rintro guildId war rfl finished isFinished status
  have noWar : wars.isInAnyWar guildId = false := by
    refine isInAnyWar_eq_false_iff.mpr fun other isOther => ?_
    rwa [Option.mem_unique isOther isFinished]
  have added := @addWar_of_not_isInAnyWar wars guildId war noWar
  obtain ⟨⟨recorded, isRecorded, same⟩, -⟩ :=
    answered.added guildId war rfl (congrArg Prod.snd added)
  change recorded ∈ (wars.addWar guildId war).1 guildId at isRecorded
  rw [added, emplace_of_some isFinished] at isRecorded
  rwa [Option.mem_unique isFinished isRecorded]

/-- **What `addWar` answers is so**, throughout a run, exactly when no other war than the one that
is added has finished in its place. -/
theorem wars_recorded_iff (start : GuildWarMap) (ops : List WarOp) :
    guildWars.Throughout Answered start ops ↔
      guildWars.Throughout (fun before op _ => before.Vacant op) start ops :=
  ⟨.mono fun _ _ => vacant_of_answered,
    .mono fun _ _ => answered_of_vacant⟩

/-- A guild fights another, the war is finished by a script, and the guild starts a second one: the
script is told that it has been added, and there is no war. -/
theorem second_war_lost :
    ¬ guildWars.Throughout Answered (fun _ => none)
        [.addWar 5 { id := 1, status := 2 }, .setWarStatus 5 3,
          .addWar 5 { id := 2, status := 2 }] := by
  rintro ⟨-, -, answered, -⟩
  have going := (answered.added 5 _ rfl (by decide)).2 (by decide)
  revert going
  decide

/-! ## Finished wars -/

theorem emplace_of_ne {other : Nat} (different : guildId ≠ other) (war : GuildWar) :
    wars.emplace other war guildId = wars guildId := by
  rw [emplace]
  split_ifs
  · rfl
  · exact Function.update_of_ne different _ _

theorem changeWar_of_ne {other : Nat} (different : guildId ≠ other)
    (change : GuildWar → GuildWar) : wars.changeWar other change guildId = wars guildId :=
  (Function.update_of_ne different _ _).trans (emplace_of_ne different {})

theorem isInWar_of_finished (status : finished.status = 3)
    (isFinished : wars guildId = some finished) :
    wars.isInWar guildId = false ∧ wars.isInAnyWar guildId = false := by
  rw [isInAnyWar_eq_false_iff, ← Bool.not_eq_true, isInWar_iff, isFinished]
  constructor
  · rintro ⟨war, ⟨⟩, fighting⟩
    rw [status] at fighting
    cases fighting
  · rintro war ⟨⟩
    exact status

theorem finished_step (status : finished.status = 3)
    (isFinished : wars guildId = some finished) (scripts : op.Scripted) :
    guildWars.step wars op guildId = some finished := by
  obtain ⟨noWar, noneAtAll⟩ := isInWar_of_finished status isFinished
  cases op with
  | addWar other war =>
    rw [← isFinished]
    by_cases here : guildId = other
    · subst here
      change (wars.addWar guildId war).1 guildId = _
      rw [addWar_of_not_isInAnyWar noneAtAll, emplace_of_some isFinished]
    · change (wars.addWar other war).1 guildId = _
      rw [addWar]
      split_ifs
      · rfl
      · exact emplace_of_ne here war
  | removeWar other remove executed =>
    rw [← isFinished]
    change (wars.removeWar other remove executed).1 guildId = _
    rw [removeWar]
    split_ifs with none
    · rfl
    · rfl
    · refine Function.update_of_ne ?_ _ _
      rintro rfl
      rw [noneAtAll] at none
      exact none rfl
  | changeWar other change => exact scripts.elim
  | setWarStatus other status =>
    rw [← isFinished]
    change wars.setWarStatus other status guildId = _
    rw [setWarStatus]
    split_ifs with none
    · rfl
    · refine changeWar_of_ne ?_ _
      rintro rfl
      rw [noneAtAll] at none
      exact none rfl
  | addWarKill other kills =>
    rw [← isFinished]
    change wars.addWarKill other kills guildId = _
    rw [addWarKill]
    split_ifs with none
    · rfl
    · refine changeWar_of_ne ?_ _
      rintro rfl
      rw [noWar] at none
      exact none rfl

/-- **A finished war stays as it is** in every run of what scripts can do, and there is never
another with the same guild. -/
theorem finished_stays (status : finished.status = 3) {start : GuildWarMap}
    (isFinished : start guildId = some finished) {ops : List WarOp}
    (scripted : guildWars.Throughout (fun _ op _ => op.Scripted) start ops) :
    guildWars.run start ops guildId = some finished :=
  @System.run_invariant _ _ guildWars (fun wars => wars guildId = some finished) _
    (fun _ _ isFinished _ scripts => finished_step status isFinished scripts) start ops isFinished
    (.mono (fun _ _ _ => trivial) scripted) scripted

theorem finished_stays_script : guildWars.run (fun _ => some { id := 1, status := 3 })
    [.addWar 5 { id := 2, status := 2 }, .removeWar 5 true true] 5 = some { id := 1, status := 3 } :=
  finished_stays rfl rfl ⟨trivial, trivial, trivial⟩

end GuildWarMap

end Otserv.Guilds

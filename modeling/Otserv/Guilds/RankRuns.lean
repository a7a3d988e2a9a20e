import Otserv.Foundation.FirstPlaces
import Otserv.Guilds.GuildRanks

/-!
# Runs of changes to ranks

In a guild that is kept, the members are counted, exactly one rank that is not removed is the
default, and every member has the rank that it was last given, whatever that is called now
(`Kept`). Every operation keeps that, or does not, by what it finds (`Meets`): a rank may come as
a second default, a default may be edited away, a name may go to two ranks, and the number of
members is lessened for whom there is no record (`kept_iff_meets`).
-/

namespace Otserv.GuildRanks

open Foundation

namespace Guild

variable (guild : Guild)

def names : List String := guild.ranks.map (·.name)

/-- A rank that is not removed is the default. -/
def DefaultAt (place : Nat) : Prop :=
  ∃ rank, guild.ranks[place]? = some rank ∧ rank.isDefault = true ∧ rank.removed = false

end Guild

/-- The members are counted, there is one default, and every member has the rank that it was
given. -/
structure Kept (state : State) : Prop where
  counted : state.guild.memberCount.toNat = state.guild.members.length
  default : ∃! place, state.guild.DefaultAt place
  ranked : ∀ member ∈ state.guild.members, ∃ place rank,
    state.given member.guid = some place ∧ state.place member.rank = some place ∧
      state.guild.ranks[place]? = some rank ∧ state.guild.getMemberRank member.guid = some rank

/-- A rank may get another name. If members have its name, it is the first that is called so and
comes before all that are called by the new name; if members have the new name, it comes after
the first that is called so. -/
def Renamable (state : State) (rankName : String) (place : Nat) (rank : GuildRank) : Prop :=
  ∀ member ∈ state.guild.members,
    (member.rank = rank.name → state.place rank.name = some place ∧
      ∀ before < place, state.guild.names[before]? ≠ some rankName) ∧
    (member.rank = rankName → ∀ first ∈ state.place rankName, first < place)

/-- What an operation has to find. -/
def Meets (state : State) : Op → Prop
  | .addRank _ _ _ isDefault _ => isDefault = false
  | .editRank rankId rankName _ isDefault =>
    (if isDefault then ∃ rank ∈ state.guild.getRankById rankId, rank.removed = false
      else ∀ rank ∈ state.guild.getRankById rankId, rank.isDefault = false) ∧
    ∀ place rank, state.guild.ranks.findIdx? (fun rank => rank.id = rankId) = some place →
      state.guild.ranks[place]? = some rank → rank.name ≠ rankName →
      Renamable state rankName place rank
  | .removeRank _ => True
  | .addMember member =>
    state.guild.members.length + 1 < 2 ^ 32 ∧ (state.place member.rank).isSome ∧
      ∀ other ∈ state.guild.members, other.guid = member.guid →
        state.place other.rank = state.place member.rank
  | .removeMember guid =>
    (state.guild.members.filter fun member => member.guid = guid).length = 1
  | .setMemberRank guid rankId =>
    ∀ place, state.guild.members.findIdx? (fun member => member.guid = guid) = some place →
      (∀ rank ∈ state.guild.getRankById rankId, state.place rank.name =
        state.guild.ranks.findIdx? fun rank => rank.id = rankId) ∧
      ∀ index other, index ≠ place → state.guild.members[index]? = some other →
        other.guid = guid →
        state.place other.rank = state.guild.ranks.findIdx? fun rank => rank.id = rankId

/-! ## Ranks and names -/

variable {state : State} {guild : Guild} {name : String} {place : Nat}

theorem place_eq_some_iff : state.place name = some place ↔
    FirstAt state.guild.names name place := by
  rw [← FirstAt.findIdx?_eq_some_iff, Guild.names, List.findIdx?_map]
  rfl

theorem getElem?_of_findIdx? {which : GuildRank → Bool}
    (found : guild.ranks.findIdx? which = some place) :
    ∃ rank, guild.ranks[place]? = some rank ∧ which rank = true ∧
      guild.ranks.find? which = some rank := by
  obtain ⟨inside, holds, -⟩ := List.findIdx?_eq_some_iff_getElem.mp found
  refine ⟨guild.ranks[place], List.getElem?_eq_getElem inside, holds, ?_⟩
  rw [List.find?_eq_bind_findIdx?_getElem?, found]
  exact List.getElem?_eq_getElem inside

theorem findIdx?_of_find? {which : GuildRank → Bool} {rank : GuildRank}
    (found : guild.ranks.find? which = some rank) :
    ∃ place, guild.ranks.findIdx? which = some place ∧ guild.ranks[place]? = some rank := by
  rw [List.find?_eq_bind_findIdx?_getElem?] at found
  exact Option.bind_eq_some_iff.mp found

theorem getMemberRank_of_place {guid : UInt32} {member : GuildMember}
    (isMember : guild.members.find? (·.guid = guid) = some member)
    (isPlace : guild.ranks.findIdx? (fun rank => rank.name = member.rank) = some place) :
    guild.getMemberRank guid = guild.ranks[place]? := by
  obtain ⟨rank, isRank, -, found⟩ := getElem?_of_findIdx? isPlace
  rw [Guild.getMemberRank, isMember, isRank]
  exact found

/-- Every member has a rank, and it is the one that it was given. -/
def Ranked (state : State) : Prop :=
  ∀ member ∈ state.guild.members, ∃ place,
    state.given member.guid = some place ∧ state.place member.rank = some place

theorem ranked_iff : Ranked state ↔ ∀ member ∈ state.guild.members, ∃ place rank,
    state.given member.guid = some place ∧ state.place member.rank = some place ∧
      state.guild.ranks[place]? = some rank ∧ state.guild.getMemberRank member.guid = some rank := by
  constructor
  · intro ranked member isMember
    obtain ⟨place, isGiven, isPlace⟩ := ranked member isMember
    obtain ⟨rank, isRank, -⟩ := getElem?_of_findIdx? isPlace
    refine ⟨place, rank, isGiven, isPlace, isRank, ?_⟩
    cases isFirst : state.guild.members.find? fun other => other.guid = member.guid with
    | none =>
      have not := List.find?_eq_none.mp isFirst member isMember
      simp at not
    | some first =>
      obtain ⟨firstPlace, firstGiven, isFirstPlace⟩ :=
        ranked first (List.mem_of_find?_eq_some isFirst)
      have sameGuid : first.guid = member.guid := by simpa using List.find?_some isFirst
      obtain rfl : firstPlace = place := by
        rw [sameGuid, isGiven] at firstGiven
        exact (Option.some.inj firstGiven).symm
      rw [getMemberRank_of_place isFirst isFirstPlace, isRank]
  · intro ranked member isMember
    obtain ⟨place, -, isGiven, isPlace, -⟩ := ranked member isMember
    exact ⟨place, isGiven, isPlace⟩

theorem kept_iff : Kept state ↔
    state.guild.memberCount.toNat = state.guild.members.length ∧
      (∃! place, state.guild.DefaultAt place) ∧ Ranked state := by
  rw [ranked_iff]
  exact ⟨fun kept => ⟨kept.counted, kept.default, kept.ranked⟩,
    fun ⟨counted, default, ranked⟩ => ⟨counted, default, ranked⟩⟩

/-- What carries a run: no rank that is removed is the default. -/
structure Invariant (state : State) : Prop where
  kept : Kept state
  current : ∀ rank ∈ state.guild.ranks, rank.isDefault = true → rank.removed = false

/-! ## Each operation -/

theorem ranked_congr {after : State} (members : after.guild.members = state.guild.members)
    (given : after.given = state.given) (names : after.guild.names = state.guild.names) :
    Ranked after ↔ Ranked state := by
  have place (name : String) : after.place name = state.place name := by
    rw [State.place, State.place]
    have found (ranks : List GuildRank) : (ranks.findIdx? fun rank => rank.name = name) =
        (ranks.map (·.name)).findIdx? fun each => each = name := by
      rw [List.findIdx?_map]
      rfl
    rw [found, found]
    exact congrArg _ names
  simp only [Ranked, members, given, place]

section AddRank

variable (rankId : UInt32) (rankName : String) (permissions : Int32) (isDefault leader : Bool)

theorem ranked_addRank (ranked : Ranked state) :
    Ranked (state.apply (.addRank rankId rankName permissions isDefault leader)) := by
  intro member isMember
  obtain ⟨place, isGiven, isPlace⟩ := ranked member isMember
  refine ⟨place, isGiven, ?_⟩
  rw [place_eq_some_iff] at isPlace ⊢
  have added := isPlace.append [rankName]
  simpa [State.apply, Guild.addRank, Guild.names] using added

theorem defaultAt_addRank : (guild.addRank rankId rankName permissions isDefault leader).DefaultAt
    place ↔ guild.DefaultAt place ∨ place = guild.ranks.length ∧ isDefault = true := by
  rw [Guild.DefaultAt, Guild.addRank, Guild.DefaultAt]
  simp only [List.getElem?_append, List.getElem?_singleton]
  split
  next inside => simp [Nat.ne_of_lt inside]
  next outside =>
    have none : guild.ranks[place]? = none := List.getElem?_eq_none (Nat.not_lt.mp outside)
    simp only [none, reduceCtorEq, false_and, exists_false, false_or]
    split
    next here =>
      have same : place = guild.ranks.length := by omega
      simp [same]
    next => simp; omega

theorem kept_addRank (invariant : Invariant state) :
    Kept (state.apply (.addRank rankId rankName permissions isDefault leader)) ↔
      Meets state (.addRank rankId rankName permissions isDefault leader) := by
  obtain ⟨counted, ⟨first, isFirst, only⟩, ranked⟩ := kept_iff.mp invariant.kept
  rw [kept_iff, Meets, and_iff_right (by exact counted),
    and_iff_left (ranked_addRank rankId rankName permissions isDefault leader ranked)]
  have inside : first < state.guild.ranks.length := by
    obtain ⟨rank, isRank, -⟩ := isFirst
    exact (List.getElem?_eq_some_iff.mp isRank).1
  simp only [State.apply, defaultAt_addRank]
  cases isDefault with
  | false => simpa using ⟨first, isFirst, only⟩
  | true =>
    have two : ¬∃! place, state.guild.DefaultAt place ∨ place = state.guild.ranks.length := by
      rintro ⟨place, -, unique⟩
      have old := unique first (.inl isFirst)
      have new := unique state.guild.ranks.length (.inr rfl)
      omega
    simpa using two

end AddRank

section RemoveRank

variable (rankId : UInt32)

theorem removeRank_ranks (place : Nat) : (guild.removeRank rankId).ranks[place]? =
    guild.ranks[place]?.map fun rank =>
      if guild.ranks.findIdx? (fun rank => rank.id = rankId) = some place ∧ rank.isDefault = false
      then { rank with removed := true } else rank := by
  rw [Guild.removeRank, Guild.getRankById]
  cases found : guild.ranks.findIdx? fun rank => decide (rank.id = rankId) with
  | none =>
    have absent : guild.ranks.find? (fun rank => decide (rank.id = rankId)) = none := by
      rw [List.find?_eq_bind_findIdx?_getElem?, found]
      rfl
    simp [absent]
  | some marked =>
    obtain ⟨rank, isRank, -, isFirst⟩ := getElem?_of_findIdx? found
    rw [isFirst]
    dsimp only
    split
    next default =>
      by_cases here : marked = place
      · subst here
        simp [isRank, default]
      · simp [here]
    next notDefault =>
      simp only [Guild.changeRank, found, List.getElem?_modify]
      by_cases here : marked = place
      · subst here
        simp [isRank, notDefault]
      · simp [here]

theorem kept_removeRank (invariant : Invariant state) : Kept (state.apply (.removeRank rankId)) := by
  obtain ⟨counted, default, ranked⟩ := kept_iff.mp invariant.kept
  have ranks := @removeRank_ranks state.guild rankId
  have members : (state.guild.removeRank rankId).members = state.guild.members ∧
      (state.guild.removeRank rankId).memberCount = state.guild.memberCount := by
    rw [Guild.removeRank]
    split
    · split
      · exact ⟨rfl, rfl⟩
      · rw [Guild.changeRank]
        split <;> exact ⟨rfl, rfl⟩
    · exact ⟨rfl, rfl⟩
  have names : (state.guild.removeRank rankId).names = state.guild.names := by
    refine List.ext_getElem? fun place => ?_
    simp only [Guild.names, List.getElem?_map, ranks, Option.map_map]
    congr 1
    funext rank
    simp only [Function.comp]
    split <;> rfl
  have defaults (place : Nat) : (state.guild.removeRank rankId).DefaultAt place ↔
      state.guild.DefaultAt place := by
    rw [Guild.DefaultAt, Guild.DefaultAt, ranks]
    cases isRank : state.guild.ranks[place]? with
    | none => simp
    | some rank =>
      by_cases marked : state.guild.ranks.findIdx? (fun rank => decide (rank.id = rankId)) =
          some place ∧ rank.isDefault = false
      · simp [marked.1, marked.2]
      · simp [marked]
  refine kept_iff.mpr ⟨?_, ?_, (@ranked_congr state (state.apply (.removeRank rankId)) members.1 rfl
    names).mpr ranked⟩
  · exact (congrArg _ members.2).trans (counted.trans (congrArg _ members.1.symm))
  · simpa [State.apply, defaults] using default

theorem current_removeRank (invariant : Invariant state) :
    ∀ rank ∈ (state.guild.removeRank rankId).ranks, rank.isDefault = true →
      rank.removed = false := by
  intro rank isRank isDefault
  obtain ⟨place, isPlace⟩ := List.getElem?_of_mem isRank
  rw [removeRank_ranks, Option.map_eq_some_iff] at isPlace
  obtain ⟨old, isOld, rfl⟩ := isPlace
  split at isDefault
  next marked => simp [marked.2] at isDefault
  next => simp_all [invariant.current old (List.mem_of_getElem? isOld)]

end RemoveRank

/-! ## Members -/

theorem kept_addMember (invariant : Invariant state) (member : GuildMember) :
    Kept (state.apply (.addMember member)) ↔ Meets state (.addMember member) := by
  obtain ⟨counted, default, ranked⟩ := kept_iff.mp invariant.kept
  have isCount : (state.apply (.addMember member)).guild.memberCount.toNat =
      (state.guild.members.length + 1) % 2 ^ 32 := by
    rw [← counted]
    exact UInt32.toNat_add ..
  have isLength : (state.apply (.addMember member)).guild.members.length =
      state.guild.members.length + 1 := by
    simp [State.apply, Guild.addMember]
  have isPlace (name : String) : (state.apply (.addMember member)).place name = state.place name :=
    rfl
  have isGiven (guid : UInt32) : (state.apply (.addMember member)).given guid =
      if guid = member.guid then state.place member.rank else state.given guid :=
    Function.update_apply ..
  have isMember (other : GuildMember) : other ∈ (state.apply (.addMember member)).guild.members ↔
      other ∈ state.guild.members ∨ other = member := by
    simp [State.apply, Guild.addMember]
  rw [kept_iff, isCount, isLength, Meets, and_iff_right (a := ∃! place, _) (by exact default)]
  refine and_congr ?_ ?_
  · constructor
    · intro same
      omega
    · exact Nat.mod_eq_of_lt
  · simp only [Ranked, isMember, isGiven, isPlace]
    constructor
    · intro after
      obtain ⟨place, given, found⟩ := after member (.inr rfl)
      refine ⟨by simp [found], fun other isOther sameGuid => ?_⟩
      obtain ⟨place, given, found⟩ := after other (.inl isOther)
      rw [if_pos sameGuid] at given
      rw [found, given]
    · rintro ⟨named, same⟩ other (isOther | rfl)
      · obtain ⟨place, given, found⟩ := ranked other isOther
        refine ⟨place, ?_, found⟩
        split
        next sameGuid => rw [← same other isOther sameGuid, found]
        next => exact given
      · obtain ⟨place, found⟩ := Option.isSome_iff_exists.mp named
        exact ⟨place, by rw [if_pos rfl, found], found⟩

theorem kept_removeMember (invariant : Invariant state) (guid : UInt32) :
    Kept (state.apply (.removeMember guid)) ↔ Meets state (.removeMember guid) := by
  obtain ⟨counted, default, ranked⟩ := kept_iff.mp invariant.kept
  have below : state.guild.memberCount.toNat < 2 ^ 32 := UInt32.toNat_lt _
  have isCount : (state.apply (.removeMember guid)).guild.memberCount.toNat =
      (2 ^ 32 - 1 + state.guild.members.length) % 2 ^ 32 := by
    rw [← counted]
    exact UInt32.toNat_sub ..
  have parts : (state.guild.members.filter fun member => member.guid = guid).length +
      (state.guild.members.filter fun member => member.guid ≠ guid).length =
      state.guild.members.length := by
    simpa using List.length_eq_length_filter_add (l := state.guild.members)
      (fun member => decide (member.guid = guid)) |>.symm
  have isLength : (state.apply (.removeMember guid)).guild.members.length =
      (state.guild.members.filter fun member => member.guid ≠ guid).length := rfl
  have rankedAfter : Ranked (state.apply (.removeMember guid)) := by
    intro member isMember
    obtain ⟨isOld, other⟩ := List.mem_filter.mp isMember
    obtain ⟨place, given, found⟩ := ranked member isOld
    refine ⟨place, ?_, found⟩
    exact (Function.update_of_ne (of_decide_eq_true other) ..).trans given
  rw [kept_iff, isCount, isLength, Meets, and_iff_left ⟨by exact default, rankedAfter⟩]
  omega

theorem kept_setMemberRank (invariant : Invariant state) {guid rankId : UInt32}
    (legal : (state.guild.getRankById rankId).isSome) :
    Kept (state.apply (.setMemberRank guid rankId)) ↔ Meets state (.setMemberRank guid rankId) := by
  obtain ⟨counted, default, ranked⟩ := kept_iff.mp invariant.kept
  obtain ⟨rank, isRank⟩ := Option.isSome_iff_exists.mp legal
  rw [kept_iff, Meets, isRank]
  have isPlace (name : String) :
      (state.apply (.setMemberRank guid rankId)).place name = state.place name := by
    rw [State.place, State.place, State.apply, Guild.setMemberRank, isRank]
    split <;> rfl
  have isGiven (other : UInt32) : (state.apply (.setMemberRank guid rankId)).given other =
      if other = guid then state.guild.ranks.findIdx? fun rank => rank.id = rankId
      else state.given other := Function.update_apply ..
  have sameDefault : (∃! place, (state.apply (.setMemberRank guid rankId)).guild.DefaultAt place) ∧
      (state.apply (.setMemberRank guid rankId)).guild.memberCount.toNat =
        (state.apply (.setMemberRank guid rankId)).guild.members.length := by
    rw [State.apply, Guild.setMemberRank, isRank]
    split
    · exact ⟨default, by rw [List.length_modify]; exact counted⟩
    · exact ⟨default, counted⟩
  rw [and_iff_right sameDefault.2, and_iff_right sameDefault.1]
  cases found : state.guild.members.findIdx? fun member => decide (member.guid = guid) with
  | none =>
    have same : (state.apply (.setMemberRank guid rankId)).guild = state.guild := by
      rw [State.apply, Guild.setMemberRank, found]
    refine iff_of_true (fun member isMember => ?_) (by simp)
    rw [same] at isMember
    have other : member.guid ≠ guid := by
      simpa using List.findIdx?_eq_none_iff.mp found member isMember
    simpa [isGiven, isPlace, other] using ranked member isMember
  | some place =>
    obtain ⟨inside, isFirst, -⟩ := List.findIdx?_eq_some_iff_getElem.mp found
    have sameGuid : state.guild.members[place].guid = guid := of_decide_eq_true isFirst
    have isMember (index : Nat) :
        (state.apply (.setMemberRank guid rankId)).guild.members[index]? =
          state.guild.members[index]?.map fun member =>
            if index = place then { member with rank := rank.name } else member := by
      rw [State.apply, Guild.setMemberRank, found, isRank]
      simp [List.getElem?_modify, eq_comm]
    obtain ⟨target, isTarget, -⟩ := findIdx?_of_find? isRank
    simp only [Option.mem_def, Option.some_inj, forall_eq', isTarget]
    constructor
    · intro after
      constructor
      · obtain ⟨given, isThis, found⟩ := after
          { state.guild.members[place] with rank := rank.name }
          (List.mem_of_getElem? (i := place) (by simp [isMember, inside]))
        rw [isGiven, if_pos sameGuid, isTarget] at isThis
        rw [← isPlace, found, isThis]
      · intro index other apart isOther otherGuid
        obtain ⟨given, isThis, found⟩ := after other
          (List.mem_of_getElem? (i := index) (by simp [isMember, isOther, apart]))
        rw [isGiven, if_pos otherGuid, isTarget] at isThis
        rw [← isPlace, found, isThis]
    · rintro ⟨named, others⟩ member isIn
      obtain ⟨index, isIndex⟩ := List.getElem?_of_mem isIn
      rw [isMember, Option.map_eq_some_iff] at isIndex
      obtain ⟨old, isOld, rfl⟩ := isIndex
      by_cases here : index = place
      · subst here
        have sameOld : old.guid = guid := by
          rw [List.getElem?_eq_getElem inside, Option.some_inj] at isOld
          rw [← isOld, sameGuid]
        exact ⟨target, by simp [isGiven, sameOld, isTarget], by simp [isPlace, named]⟩
      · rw [if_neg here, isGiven, isPlace]
        split
        next sameOld => exact ⟨target, isTarget, others index old here isOld sameOld⟩
        next => exact ranked old (List.mem_of_getElem? isOld)

/-! ## Renaming -/

variable (which : GuildRank → Bool) (change : GuildRank → GuildRank)

theorem changeRank_ranks (place : Nat) :
    (guild.changeRank which change).ranks[place]? = guild.ranks[place]?.map fun rank =>
      if guild.ranks.findIdx? which = some place then change rank else rank := by
  rw [Guild.changeRank]
  cases found : guild.ranks.findIdx? which with
  | none => simp
  | some first => simp [List.getElem?_modify]

theorem changeRank_members :
    (guild.changeRank which change).members = guild.members ∧
      (guild.changeRank which change).memberCount = guild.memberCount := by
  rw [Guild.changeRank]
  split <;> exact ⟨rfl, rfl⟩

theorem findIdx?_changeRank {change : GuildRank → GuildRank}
    {search : GuildRank → Bool} (unseen : ∀ rank, search (change rank) = search rank) :
    (guild.changeRank which change).ranks.findIdx? search = guild.ranks.findIdx? search := by
  have answers (ranks : List GuildRank) :
      ranks.findIdx? search = (ranks.map search).findIdx? id := by
    rw [List.findIdx?_map]
    rfl
  rw [answers, answers]
  congr 1
  refine List.ext_getElem? fun place => ?_
  simp only [List.getElem?_map, changeRank_ranks, Option.map_map]
  congr 1
  funext rank
  split
  · exact unseen rank
  · rfl

section EditRank

variable {rankId : UInt32} (rankName : String) (permissions : Int32) (isDefault : Bool)

/-- The default is taken from its rank if it goes to another. -/
def Guild.cleared (guild : Guild) (isDefault : Bool) : Guild :=
  if isDefault then guild.changeRank (·.isDefault) fun rank => { rank with isDefault := false }
  else guild

theorem editRank_eq : guild.editRank rankId rankName permissions isDefault =
    match (guild.cleared isDefault).getRankById rankId with
    | some rank =>
      { (guild.cleared isDefault).changeRank (·.id = rankId) fun rank =>
          { rank with name := rankName, permissions, isDefault } with
        members := (guild.cleared isDefault).members.map
          (.renamed rank.name rankName) }
    | none => guild.cleared isDefault := rfl

theorem cleared_ranks (guild : Guild) (isDefault : Bool) (place : Nat) :
    (guild.cleared isDefault).ranks[place]? = guild.ranks[place]?.map fun rank =>
      if isDefault = true ∧ guild.ranks.findIdx? (·.isDefault) = some place then
        { rank with isDefault := false } else rank := by
  cases isDefault with
  | false => simp [Guild.cleared]
  | true => simp [Guild.cleared, changeRank_ranks]

theorem cleared_members (guild : Guild) (isDefault : Bool) :
    (guild.cleared isDefault).members = guild.members ∧
      (guild.cleared isDefault).memberCount = guild.memberCount := by
  rw [Guild.cleared]
  split
  · exact changeRank_members ..
  · exact ⟨rfl, rfl⟩

theorem findIdx?_cleared (guild : Guild) (isDefault : Bool) (rankId : UInt32) :
    ((guild.cleared isDefault).ranks.findIdx? fun rank => rank.id = rankId) =
      guild.ranks.findIdx? fun rank => rank.id = rankId := by
  rw [Guild.cleared]
  split
  · exact findIdx?_changeRank _ fun _ => rfl
  · rfl

theorem editRank_none (absent : guild.ranks.findIdx? (fun rank => rank.id = rankId) = none) :
    guild.editRank rankId rankName permissions isDefault = guild.cleared isDefault := by
  have notFound : (guild.cleared isDefault).getRankById rankId = none := by
    rw [Guild.getRankById, List.find?_eq_bind_findIdx?_getElem?, findIdx?_cleared, absent]
    rfl
  rw [editRank_eq, notFound]

theorem editRank_some {target : Nat} {rank : GuildRank}
    (isTarget : guild.ranks.findIdx? (fun rank => rank.id = rankId) = some target)
    (isRank : guild.ranks[target]? = some rank) :
    (guild.editRank rankId rankName permissions isDefault).members =
        guild.members.map (GuildMember.renamed rank.name rankName) ∧
      (guild.editRank rankId rankName permissions isDefault).memberCount = guild.memberCount ∧
      ∀ place, (guild.editRank rankId rankName permissions isDefault).ranks[place]? =
        ((guild.cleared isDefault).ranks[place]?).map fun rank =>
          if target = place then { rank with name := rankName, permissions, isDefault }
          else rank := by
  obtain ⟨found, isFound, sameName⟩ : ∃ found,
      (guild.cleared isDefault).getRankById rankId = some found ∧ found.name = rank.name := by
    rw [Guild.getRankById, List.find?_eq_bind_findIdx?_getElem?, findIdx?_cleared, isTarget,
      Option.bind_some, cleared_ranks, isRank]
    refine ⟨_, rfl, ?_⟩
    split <;> rfl
  have isEdit : guild.editRank rankId rankName permissions isDefault =
      { (guild.cleared isDefault).changeRank (·.id = rankId) fun rank =>
          { rank with name := rankName, permissions, isDefault } with
        members := (guild.cleared isDefault).members.map
          (.renamed found.name rankName) } := by
    rw [editRank_eq, isFound]
  obtain ⟨members, count⟩ := cleared_members guild isDefault
  rw [isEdit, sameName]
  refine ⟨congrArg _ members, (changeRank_members ..).2.trans count, fun place => ?_⟩
  refine (changeRank_ranks ..).trans ?_
  rw [findIdx?_cleared, isTarget]
  simp only [Option.some_inj]

end EditRank

theorem Invariant.sole (invariant : Invariant state) : ∃ first,
    state.guild.ranks.findIdx? (·.isDefault) = some first ∧
      (∀ place rank, state.guild.ranks[place]? = some rank →
        (rank.isDefault = true ↔ place = first)) ∧
      ∀ place, state.guild.DefaultAt place ↔ place = first := by
  obtain ⟨first, isFirst, only⟩ := invariant.kept.default
  have isOnly : ∀ place rank, state.guild.ranks[place]? = some rank →
      (rank.isDefault = true ↔ place = first) := by
    intro place rank isRank
    constructor
    · intro isDefault
      exact only place ⟨rank, isRank, isDefault,
        invariant.current rank (List.mem_of_getElem? isRank) isDefault⟩
    · rintro rfl
      obtain ⟨other, isOther, isDefault, -⟩ := isFirst
      rwa [← Option.some.inj (isOther.symm.trans isRank)]
  refine ⟨first, ?_, isOnly, fun place => ⟨only place, fun here => here ▸ isFirst⟩⟩
  obtain ⟨rank, isRank, isDefault, -⟩ := isFirst
  obtain ⟨inside, same⟩ := List.getElem?_eq_some_iff.mp isRank
  refine List.findIdx?_eq_some_iff_getElem.mpr ⟨inside, by rwa [same], fun before less found => ?_⟩
  have isOther := (isOnly before _ (List.getElem?_eq_getElem (Nat.lt_trans less inside))).mp found
  omega

theorem Invariant.not_default_cleared (invariant : Invariant state) {place : Nat}
    {rank : GuildRank} (isRank : (state.guild.cleared true).ranks[place]? = some rank) :
    rank.isDefault = false := by
  obtain ⟨first, isFirst, isOnly, -⟩ := invariant.sole
  rw [cleared_ranks, isFirst, Option.map_eq_some_iff] at isRank
  obtain ⟨old, isOld, rfl⟩ := isRank
  have isDefault := isOnly place old isOld
  split
  next => rfl
  next other =>
    rw [eq_self, true_and, Option.some_inj] at other
    exact Bool.eq_false_iff.mpr fun default => other (isDefault.mp default).symm

section EditRank

variable {rankId : UInt32} {rankName : String} {permissions : Int32} {isDefault : Bool}

theorem Invariant.defaultAt_editRank (invariant : Invariant state) {target first : Nat}
    {rank : GuildRank}
    (isTarget : state.guild.ranks.findIdx? (fun rank => rank.id = rankId) = some target)
    (isRank : state.guild.ranks[target]? = some rank)
    (isFirst : ∀ place, state.guild.DefaultAt place ↔ place = first) (place : Nat) :
    (state.guild.editRank rankId rankName permissions isDefault).DefaultAt place ↔
      if place = target then isDefault = true ∧ rank.removed = false
      else isDefault = false ∧ place = first := by
  have ranks := (editRank_some rankName permissions isDefault isTarget isRank).2.2 place
  rw [Guild.DefaultAt, ranks]
  split
  next here =>
    subst here
    rw [cleared_ranks, isRank]
    by_cases taken : isDefault = true ∧
        state.guild.ranks.findIdx? (·.isDefault) = some target <;> simp [taken]
  next other =>
    simp only [if_neg (Ne.symm other)]
    cases isDefault with
    | false => simpa [Guild.DefaultAt, Guild.cleared] using isFirst place
    | true =>
      simp only [Option.map_id', reduceCtorEq, false_and, iff_false]
      rintro ⟨found, isFound, default, -⟩
      rw [invariant.not_default_cleared isFound] at default
      cases default

theorem Invariant.default_editRank (invariant : Invariant state) :
    (∃! place, (state.guild.editRank rankId rankName permissions isDefault).DefaultAt place) ↔
      if isDefault then ∃ rank ∈ state.guild.getRankById rankId, rank.removed = false
      else ∀ rank ∈ state.guild.getRankById rankId, rank.isDefault = false := by
  obtain ⟨first, -, isOnly, isFirst⟩ := invariant.sole
  cases isTarget : state.guild.ranks.findIdx? fun rank => decide (rank.id = rankId) with
  | none =>
    have absent : state.guild.getRankById rankId = none := by
      rw [Guild.getRankById, List.find?_eq_bind_findIdx?_getElem?, isTarget]
      rfl
    rw [editRank_none rankName permissions isDefault isTarget, absent]
    cases isDefault with
    | false => simpa [Guild.cleared] using invariant.kept.default
    | true =>
      refine iff_of_false ?_ (by simp)
      rintro ⟨place, ⟨rank, isRank, default, -⟩, -⟩
      rw [invariant.not_default_cleared isRank] at default
      cases default
  | some target =>
    obtain ⟨rank, isRank, -, isFound⟩ := getElem?_of_findIdx? isTarget
    have found : state.guild.getRankById rankId = some rank := isFound
    have default := @Invariant.defaultAt_editRank state rankId rankName permissions isDefault
      invariant target first rank isTarget isRank isFirst
    simp only [default, found, Option.mem_def, Option.some_inj, exists_eq_left', forall_eq']
    cases isDefault with
    | false =>
      have isOld := isOnly target rank isRank
      simp only [reduceCtorEq, false_and, true_and, if_false_left]
      constructor
      · rintro ⟨place, ⟨apart, rfl⟩, -⟩
        exact Bool.eq_false_iff.mpr fun default => apart (isOld.mp default).symm
      · intro notDefault
        refine ⟨first, ⟨?_, rfl⟩, fun place isPlace => isPlace.2⟩
        rintro rfl
        simp [isOld.mpr rfl] at notDefault
    | true =>
      simp only [true_and, reduceCtorEq, false_and, if_false_right]
      constructor
      · rintro ⟨place, ⟨-, current⟩, -⟩
        exact current
      · intro current
        exact ⟨target, ⟨rfl, current⟩, fun place isPlace => isPlace.1⟩

theorem names_editRank {target : Nat} {rank : GuildRank}
    (isTarget : guild.ranks.findIdx? (fun rank => rank.id = rankId) = some target)
    (isRank : guild.ranks[target]? = some rank) :
    (guild.editRank rankId rankName permissions isDefault).names =
      guild.names.set target rankName := by
  have isName : guild.names[target]? = some rank.name := by
    rw [Guild.names, List.getElem?_map, isRank]
    rfl
  refine List.ext_getElem? fun place => ?_
  rw [FirstAt.getElem?_set_changed isName, Guild.names, List.getElem?_map,
    (editRank_some rankName permissions isDefault isTarget isRank).2.2, cleared_ranks]
  by_cases here : place = target
  · subst here
    simp [isRank]
  · rw [if_neg here, Guild.names, List.getElem?_map, Option.map_map, Option.map_map]
    congr 1
    funext each
    simp only [Function.comp, if_neg (Ne.symm here)]
    split <;> rfl

theorem names_cleared (isDefault : Bool) : (guild.cleared isDefault).names = guild.names := by
  refine List.ext_getElem? fun place => ?_
  simp only [Guild.names, List.getElem?_map, cleared_ranks, Option.map_map]
  congr 1
  funext each
  split <;> rfl

/-- The condition on the names. -/
theorem ranked_editRank (ranked : Ranked state) {target : Nat} {rank : GuildRank}
    (isTarget : state.guild.ranks.findIdx? (fun rank => rank.id = rankId) = some target)
    (isRank : state.guild.ranks[target]? = some rank) :
    Ranked (state.apply (.editRank rankId rankName permissions isDefault)) ↔
      (rank.name ≠ rankName → Renamable state rankName target rank) := by
  have isName : state.guild.names[target]? = some rank.name := by
    rw [Guild.names, List.getElem?_map, isRank]
    rfl
  have isNames := @names_editRank state.guild rankId rankName permissions isDefault target rank
    isTarget isRank
  have isMembers := (editRank_some rankName permissions isDefault isTarget isRank).1
  by_cases sameName : rank.name = rankName
  · -- nobody is renamed
    have members : (state.guild.editRank rankId rankName permissions isDefault).members =
        state.guild.members := by
      rw [isMembers, sameName]
      refine (List.map_congr_left fun member _ => ?_).trans (List.map_id _)
      exact if_neg fun renamed => renamed.1 renamed.2
    have names : (state.guild.editRank rankId rankName permissions isDefault).names =
        state.guild.names := by
      rw [isNames, ← sameName]
      refine List.ext_getElem? fun place => ?_
      rw [FirstAt.getElem?_set_changed isName]
      split
      next here => rw [here, isName]
      next => rfl
    rw [@ranked_congr state (state.apply (.editRank rankId rankName permissions isDefault))
      members rfl names]
    exact iff_of_true ranked fun apart => absurd sameName apart
  · have each (member : GuildMember) (isMember : member ∈ state.guild.members) :
        (∃ place, state.given member.guid = some place ∧
          FirstAt (state.guild.names.set target rankName)
            (member.renamed rank.name rankName).rank place) ↔
          (member.rank = rank.name → state.place rank.name = some target ∧
            ∀ before < target, state.guild.names[before]? ≠ some rankName) ∧
          (member.rank = rankName → ∀ first ∈ state.place rankName, first < target) := by
      obtain ⟨place, given, found⟩ := ranked member isMember
      have isFirst := place_eq_some_iff.mp found
      simp only [given, Option.some_inj, exists_eq_left']
      by_cases isOld : member.rank = rank.name
      · have notNew : member.rank ≠ rankName := isOld ▸ sameName
        have renamed : (member.renamed rank.name rankName).rank = rankName := by
          rw [GuildMember.renamed, if_pos ⟨notNew, isOld⟩]
        rw [isOld] at isFirst found
        simp only [renamed, isFirst.set_old_iff isName sameName, isOld, found, sameName,
          forall_const, Option.some_inj, false_imp_iff, and_true]
      · have renamed : (member.renamed rank.name rankName).rank = member.rank := by
          rw [GuildMember.renamed, if_neg fun both => isOld both.2]
        by_cases isNew : member.rank = rankName
        · rw [isNew] at isFirst found
          have apart : rankName ≠ rank.name := .symm sameName
          simp only [renamed, isNew, isFirst.set_new_iff isName sameName, found, apart,
            false_imp_iff, forall_const, Option.mem_def, Option.some_inj, forall_eq', true_and]
        · simp only [renamed, isOld, isNew, false_imp_iff, and_self, iff_true]
          exact isFirst.set_other isName isOld isNew
    have member (each : GuildMember) :
        (∃ place, (state.apply (.editRank rankId rankName permissions isDefault)).given
            (each.renamed rank.name rankName).guid = some place ∧
          (state.apply (.editRank rankId rankName permissions isDefault)).place
            (each.renamed rank.name rankName).rank = some place) ↔
          ∃ place, state.given each.guid = some place ∧
            FirstAt (state.guild.names.set target rankName)
              (each.renamed rank.name rankName).rank place := by
      have sameGuid : (each.renamed rank.name rankName).guid = each.guid := by
        rw [GuildMember.renamed]
        split <;> rfl
      simp only [place_eq_some_iff, sameGuid, ← isNames]
      rfl
    simp only [State.apply] at member
    rw [Ranked, imp_iff_right sameName, Renamable]
    simp only [State.apply, isMembers, List.forall_mem_map, member]
    exact forall₂_congr each

theorem kept_editRank (invariant : Invariant state) :
    Kept (state.apply (.editRank rankId rankName permissions isDefault)) ↔
      Meets state (.editRank rankId rankName permissions isDefault) := by
  obtain ⟨counted, -, ranked⟩ := kept_iff.mp invariant.kept
  have default := @Invariant.default_editRank state rankId rankName permissions isDefault invariant
  rw [kept_iff, Meets, ← default]
  cases isTarget : state.guild.ranks.findIdx? fun rank => decide (rank.id = rankId) with
  | none =>
    have isEdit := editRank_none rankName permissions isDefault isTarget
    have same := @ranked_congr state (state.apply (.editRank rankId rankName permissions isDefault))
      ((congrArg Guild.members isEdit).trans (cleared_members ..).1) rfl
      ((congrArg Guild.names isEdit).trans (names_cleared isDefault))
    have isCount : (state.apply (.editRank rankId rankName permissions
        isDefault)).guild.memberCount.toNat = (state.apply (.editRank rankId rankName permissions
          isDefault)).guild.members.length := by
      simp only [State.apply]
      rw [isEdit, (cleared_members ..).1, (cleared_members ..).2, counted]
    rw [and_iff_right isCount, and_iff_left (same.mpr ranked)]
    simp [State.apply]
  | some target =>
    obtain ⟨rank, isRank, -⟩ := getElem?_of_findIdx? isTarget
    obtain ⟨members, count, -⟩ := editRank_some rankName permissions isDefault isTarget isRank
    have isCount : (state.apply (.editRank rankId rankName permissions
        isDefault)).guild.memberCount.toNat = (state.apply (.editRank rankId rankName permissions
          isDefault)).guild.members.length := by
      simp only [State.apply]
      rw [members, count, List.length_map, counted]
    rw [and_iff_right isCount, ranked_editRank ranked isTarget isRank]
    refine and_congr_right fun _ => ?_
    constructor
    · rintro renamable place other same isOther
      obtain rfl := Option.some.inj same
      obtain rfl := Option.some.inj (isRank.symm.trans isOther)
      exact renamable
    · intro renamable
      exact renamable target rank rfl isRank

theorem current_editRank (invariant : Invariant state)
    (meets : Meets state (.editRank rankId rankName permissions isDefault)) :
    ∀ rank ∈ (state.guild.editRank rankId rankName permissions isDefault).ranks,
      rank.isDefault = true → rank.removed = false := by
  intro rank isRank default
  obtain ⟨place, isPlace⟩ := List.getElem?_of_mem isRank
  have cleared (other : GuildRank) (isOther : (state.guild.cleared isDefault).ranks[place]? =
      some other) (default : other.isDefault = true) : other.removed = false := by
    cases isDefault with
    | false => exact invariant.current other (List.mem_of_getElem? isOther) default
    | true =>
      rw [invariant.not_default_cleared isOther] at default
      cases default
  cases isTarget : state.guild.ranks.findIdx? fun rank => decide (rank.id = rankId) with
  | none =>
    rw [editRank_none rankName permissions isDefault isTarget] at isPlace
    exact cleared rank isPlace default
  | some target =>
    obtain ⟨edited, isEdited, -, isFound⟩ := getElem?_of_findIdx? isTarget
    rw [(editRank_some rankName permissions isDefault isTarget isEdited).2.2,
      Option.map_eq_some_iff] at isPlace
    obtain ⟨other, isOther, rfl⟩ := isPlace
    split at default
    next here =>
      subst here
      obtain rfl : isDefault = true := default
      have meets := meets.1
      obtain ⟨found, isThis, current⟩ := meets
      obtain rfl : found = edited := Option.some.inj (isThis.symm.trans isFound)
      rw [cleared_ranks, isEdited] at isOther
      obtain rfl := Option.some.inj isOther
      rw [if_pos rfl]
      split <;> exact current
    next other => simpa [other] using cleared _ isOther default

end EditRank

/-! ## Runs -/

/-- **A step.** What is kept stays so exactly when the operation finds what it has to find. -/
theorem kept_apply_iff (invariant : Invariant state) {op : Op} (legal : op.Legal state) :
    Kept (state.apply op) ↔ Meets state op := by
  cases op with
  | addRank rankId rankName permissions isDefault leader => exact kept_addRank _ _ _ _ _ invariant
  | editRank rankId rankName permissions isDefault => exact kept_editRank invariant
  | removeRank rankId => exact iff_of_true (kept_removeRank rankId invariant) trivial
  | addMember member => exact kept_addMember invariant member
  | removeMember guid => exact kept_removeMember invariant guid
  | setMemberRank guid rankId => exact kept_setMemberRank invariant legal

theorem invariant_apply (invariant : Invariant state) {op : Op} (legal : op.Legal state)
    (kept : Kept (state.apply op)) : Invariant (state.apply op) := by
  have meets := (kept_apply_iff invariant legal).mp kept
  refine ⟨kept, ?_⟩
  cases op with
  | addRank rankId rankName permissions isDefault leader =>
    intro rank isRank
    rcases List.mem_append.mp isRank with isOld | isNew
    · exact invariant.current rank isOld
    · obtain rfl := List.mem_singleton.mp isNew
      exact fun _ => rfl
  | editRank rankId rankName permissions isDefault => exact current_editRank invariant meets
  | removeRank rankId => exact current_removeRank rankId invariant
  | addMember member => exact invariant.current
  | removeMember guid => exact invariant.current
  | setMemberRank guid rankId =>
    have ranks : (state.guild.setMemberRank guid rankId).ranks = state.guild.ranks := by
      rw [Guild.setMemberRank]
      split <;> rfl
    simpa [State.apply, ranks] using invariant.current

/-! ## Loading -/

/-- The rows of a guild: ranks with different names, of which one is the default, and members of
whom each has one row with a rank that exists. -/
structure Rows (ranks : List RankRow) (members : List MemberRow) : Prop where
  names : (ranks.map (·.name)).Nodup
  default : ∃! place : Nat, ∃ row, ranks[place]? = some row ∧ row.isDefault = true
  known : ∀ row ∈ members, ∃ rank ∈ ranks, rank.id = row.rankId
  players : (members.map (·.id)).Nodup
  few : members.length < 2 ^ 32

def RankRow.rank (row : RankRow) : GuildRank where
  id := row.id
  name := row.name
  permissions := row.permissions
  isDefault := row.isDefault
  leader := row.leader

variable (ranks : List RankRow)

theorem foldl_addRank (guild : Guild) :
    ranks.foldl (fun guild row =>
      guild.addRank row.id row.name row.permissions row.isDefault row.leader) guild =
      { guild with ranks := guild.ranks ++ ranks.map RankRow.rank } := by
  induction ranks generalizing guild with
  | nil => simp
  | cons row ranks ih =>
    rw [List.foldl_cons, ih]
    simp [Guild.addRank, RankRow.rank]

theorem foldl_addMember (members : List MemberRow) (guild : Guild) :
    members.foldl (fun guild row => guild.addMember (row.member guild)) guild =
      { guild with
        members := guild.members ++ members.map (·.member guild)
        memberCount := guild.memberCount + .ofNat members.length } := by
  induction members generalizing guild with
  | nil => simp
  | cons row members ih =>
    have same (other : MemberRow) : other.member (guild.addMember (row.member guild)) =
        other.member guild := rfl
    rw [List.foldl_cons, ih]
    simp only [same]
    simp [Guild.addMember, UInt32.ofNat_add, UInt32.add_assoc, UInt32.add_comm 1]

theorem load_eq (members : List MemberRow) :
    Guild.load ranks members =
      { ranks := ranks.map RankRow.rank
        members := members.map (·.member { ranks := ranks.map RankRow.rank })
        memberCount := .ofNat members.length } := by
  rw [Guild.load, foldl_addRank, foldl_addMember]
  simp

variable {members : List MemberRow}

theorem find?_of_nodup (nodup : (members.map (·.id)).Nodup)
    {row : MemberRow} (isRow : row ∈ members) :
    members.find? (fun other => other.id = row.id) = some row := by
  have isSome : (members.find? fun other => decide (other.id = row.id)).isSome :=
    List.find?_isSome.mpr ⟨row, isRow, decide_eq_true rfl⟩
  obtain ⟨found, isFound⟩ := Option.isSome_iff_exists.mp isSome
  have sameId : found.id = row.id := by simpa using List.find?_some isFound
  rw [isFound, List.inj_on_of_nodup_map nodup (List.mem_of_find?_eq_some isFound) isRow sameId]

theorem row_rank {ranks : List RankRow} (rows : Rows ranks members)
    {row : MemberRow} (isRow : row ∈ members) :
    ∃ place, (ranks.findIdx? fun rank => rank.id = row.rankId) = some place ∧
      (State.load ranks members).place
        (row.member { ranks := ranks.map RankRow.rank }).rank = some place := by
  obtain ⟨rank, isRank, sameId⟩ := rows.known row isRow
  have isSome : (ranks.find? fun rank => decide (rank.id = row.rankId)).isSome :=
    List.find?_isSome.mpr ⟨rank, isRank, decide_eq_true sameId⟩
  obtain ⟨found, isFound⟩ := Option.isSome_iff_exists.mp isSome
  have isLoaded : (ranks.map RankRow.rank).find? (fun rank => rank.id = row.rankId) =
      some found.rank := by
    rw [List.find?_map]
    exact congrArg (Option.map RankRow.rank) isFound
  rw [List.find?_eq_bind_findIdx?_getElem?] at isFound
  obtain ⟨place, isPlace, isThere⟩ := Option.bind_eq_some_iff.mp isFound
  refine ⟨place, isPlace, place_eq_some_iff.mpr ?_⟩
  have names : (State.load ranks members).guild.names = ranks.map (·.name) := by
    rw [State.load, load_eq]
    simp [Guild.names, RankRow.rank]
  rw [names, MemberRow.member, Guild.getRankById, isLoaded]
  exact .of_nodup rows.names (by simp [isThere, RankRow.rank])

theorem invariant_load {ranks : List RankRow}
    (rows : Rows ranks members) : Invariant (.load ranks members) := by
  have isGuild : (State.load ranks members).guild = _ := load_eq ranks members
  refine ⟨kept_iff.mpr ⟨?_, ?_, ?_⟩, ?_⟩
  · rw [isGuild]
    simpa using Nat.mod_eq_of_lt rows.few
  · have same (place : Nat) : (State.load ranks members).guild.DefaultAt place ↔
        ∃ row, ranks[place]? = some row ∧ row.isDefault = true := by
      rw [isGuild]
      simp [Guild.DefaultAt, RankRow.rank]
    simpa [same] using rows.default
  · intro member isMember
    rw [isGuild, List.mem_map] at isMember
    obtain ⟨row, isRow, rfl⟩ := isMember
    obtain ⟨place, isPlace, isNamed⟩ := row_rank rows isRow
    refine ⟨place, ?_, isNamed⟩
    change (members.find? fun other => decide (other.id = row.id)).bind _ = some place
    rw [find?_of_nodup rows.players isRow, Option.bind_some, isPlace]
  · intro rank isRank _
    rw [isGuild, List.mem_map] at isRank
    obtain ⟨row, -, rfl⟩ := isRank
    rfl

/-- **Guilds.** After every operation of a run the members of a guild are counted, it has one
default rank, and its members have the ranks that they were given, exactly when each operation
finds what it has to find. -/
theorem kept_iff_meets {ranks : List RankRow} {members : List MemberRow}
    (rows : Rows ranks members) {ops : List Op}
    (legal : rankSystem.Legal (.load ranks members) ops) :
    rankSystem.Throughout (fun _ _ after => Kept after) (.load ranks members) ops ↔
      rankSystem.Throughout (fun before op _ => Meets before op) (.load ranks members) ops := by
  refine System.Throughout.iff_of_invariant ?_ (invariant_load rows) legal
  intro before op invariant legal
  exact ⟨kept_apply_iff invariant legal, fun kept => invariant_apply invariant legal kept⟩

/-- The ranks of a guild: leaders, and members by default. -/
def ranksOfGuild : List RankRow :=
  [⟨1, "Leader", 7, false, true⟩, ⟨2, "Member", 0, true, false⟩]

/-- A leader and a member. -/
def membersOfGuild : List MemberRow :=
  [⟨10, "Ash", 1, 50, 0, 1, 0⟩, ⟨11, "Brock", 1, 40, 0, 2, 0⟩]

theorem rows_guild : Rows ranksOfGuild membersOfGuild where
  names := by decide
  default := by
    refine ⟨1, ⟨_, rfl, rfl⟩, fun place ⟨row, isRow, isDefault⟩ => ?_⟩
    match place with
    | 0 =>
      cases isRow
      cases isDefault
    | 1 => rfl
    | place + 2 => cases isRow
  known := by decide
  players := by decide
  few := by decide

/-- The members get another name, a third one comes, and one leaves. -/
theorem kept_iff_meets_guild :
    rankSystem.Throughout (fun _ _ after => Kept after) (.load ranksOfGuild membersOfGuild)
      [.editRank 2 "Novice" 0 true, .addMember ⟨12, 1, "Misty", "Novice", 30, 0, 0⟩,
        .removeMember 11] := by
  have legal : rankSystem.Legal (.load ranksOfGuild membersOfGuild)
      [.editRank 2 "Novice" 0 true, .addMember ⟨12, 1, "Misty", "Novice", 30, 0, 0⟩,
        .removeMember 11] := ⟨trivial, trivial, trivial, trivial⟩
  refine (kept_iff_meets rows_guild legal).mpr
    ⟨⟨⟨_, rfl, rfl⟩, fun place rank isPlace isRank _ => ?_⟩,
      ⟨by decide, by decide, by decide⟩, rfl, trivial⟩
  cases isPlace
  cases isRank
  unfold Renamable
  decide

/-- The number of members is lessened for somebody who is no member. -/
theorem removeMember_unknown :
    ¬∀ (ranks : List RankRow) (members : List MemberRow) (ops : List Op), Rows ranks members →
      rankSystem.Legal (.load ranks members) ops →
      rankSystem.Throughout (fun _ _ after => Kept after) (.load ranks members) ops := by
  intro all
  have kept := all ranksOfGuild membersOfGuild [.removeMember 99] rows_guild ⟨trivial, trivial⟩
  exact absurd kept.1.counted (by decide)

end Otserv.GuildRanks

import Otserv.Pathfinding.NodeTable

/-!
# Keeping a distance

`getDistanceStep` looks for a step of a monster that is to keep a distance from its target, or to
flee from it. There are four cases of a target in a diagonal and four of one that is not, and they
try the directions in the same way, each in an order of its own. How fast the steps follow each
other is left out.
-/

namespace Otserv.Monsters

open Pathfinding
open Otserv.World (Position)
open Otserv.World.Position (getOffsetX getOffsetY getDistanceX getDistanceY)

section Steps

variable (canWalkTo : Direction → Bool) (boolean_random flee : Bool)

/-- A direction, if the monster can walk there. -/
def one (direction : Direction) : Option Direction :=
  if canWalkTo direction then some direction else none

/-- One of two directions. -/
def either (first second : Direction) : Option Direction :=
  if canWalkTo first ∧ canWalkTo second then some (if boolean_random then first else second)
  else (one canWalkTo first).or (one canWalkTo second)

/-- The directions from a target in a diagonal: to escape, to the corner, to flee, and to slide
along the target when there is a place to go on from. -/
structure Diagonal where
  escape : Direction × Direction
  corner : Direction
  fleeing : Direction × Direction
  slides : List (Direction × Direction)

def Diagonal.step (diagonal : Diagonal) : Option Direction :=
  (either canWalkTo boolean_random diagonal.escape.1 diagonal.escape.2).or <|
    (one canWalkTo diagonal.corner).or <|
      (if flee then either canWalkTo boolean_random diagonal.fleeing.1 diagonal.fleeing.2
        else none).or <|
        (diagonal.slides.find? fun slide => canWalkTo slide.1 && canWalkTo slide.2).map Prod.fst

/-- The directions from a target that is straight ahead: away from it, to the sides at which the
target is not, and to each side with the corner next to it. -/
structure Straight where
  away : Direction
  sides : Direction × Direction
  corners : (Direction × Direction) × (Direction × Direction)
  toward : Direction

/-- The sides at which the target is not. -/
def Straight.side (straight : Straight) (offset : Int) : Option Direction :=
  if canWalkTo straight.sides.1 ∧ canWalkTo straight.sides.2 ∧ offset = 0 then
    some (if boolean_random then straight.sides.1 else straight.sides.2)
  else if canWalkTo straight.sides.1 ∧ offset ≤ 0 then some straight.sides.1
  else if canWalkTo straight.sides.2 ∧ offset ≥ 0 then some straight.sides.2
  else none

/-- When there is a corner, a side is preferred to its corner. -/
def Straight.corner (straight : Straight) : Option Direction :=
  let (corner, other) := (straight.corners.1.2, straight.corners.2.2)
  if canWalkTo corner ∨ canWalkTo other then
    if canWalkTo corner ∧ canWalkTo other then some (if boolean_random then corner else other)
    else [straight.corners.1.1, corner, straight.corners.2.1, other].find? canWalkTo
  else none

def Straight.step (straight : Straight) (offset : Int) : Option Direction :=
  (one canWalkTo straight.away).or <|
    (straight.side canWalkTo boolean_random offset).or <|
      (if flee then either canWalkTo boolean_random straight.sides.1 straight.sides.2
        else none).or <|
        (straight.corner canWalkTo boolean_random).or <|
          if flee then one canWalkTo straight.toward else none

/-- The target is in the north west. -/
def northWest : Diagonal :=
  ⟨(.south, .east), .southeast, (.north, .west), [(.west, .southwest), (.north, .northeast)]⟩

def southEast : Diagonal :=
  ⟨(.west, .north), .northwest, (.south, .east), [(.south, .southwest), (.east, .northeast)]⟩

def southWest : Diagonal :=
  ⟨(.north, .east), .northeast, (.south, .west), [(.west, .northwest), (.south, .southeast)]⟩

def northEast : Diagonal :=
  ⟨(.west, .south), .southwest, (.north, .east), [(.east, .southeast), (.north, .northwest)]⟩

def north : Straight :=
  ⟨.south, (.west, .east), ((.west, .southwest), (.east, .southeast)), .north⟩

def south : Straight :=
  ⟨.north, (.west, .east), ((.west, .northwest), (.east, .northeast)), .south⟩

def west : Straight :=
  ⟨.east, (.north, .south), ((.south, .southeast), (.north, .northeast)), .west⟩

def east : Straight :=
  ⟨.west, (.north, .south), ((.north, .northwest), (.south, .southwest)), .east⟩

/-- The step from a target at another position. -/
def stepFrom (offsetx offsety : Int) : Option Direction :=
  if |offsetx| = |offsety| ∧ offsetx ≥ 1 ∧ offsety ≥ 1 then
    northWest.step canWalkTo boolean_random flee
  else if |offsetx| = |offsety| ∧ offsetx ≤ -1 ∧ offsety ≤ -1 then
    southEast.step canWalkTo boolean_random flee
  else if |offsetx| = |offsety| ∧ offsetx ≥ 1 ∧ offsety ≤ -1 then
    southWest.step canWalkTo boolean_random flee
  else if |offsetx| = |offsety| ∧ offsetx ≤ -1 ∧ offsety ≥ 1 then
    northEast.step canWalkTo boolean_random flee
  else if |offsety| > |offsetx| then
    (if offsety < 0 then south else north).step canWalkTo boolean_random flee offsetx
  else (if offsetx < 0 then east else west).step canWalkTo boolean_random flee offsety

/-- `getRandomStep`, with the directions as they were shuffled. -/
def getRandomStep (dirList : List Direction) : Option Direction := dirList.find? canWalkTo

/-- `getDistanceStep`: the answer, and the direction that is set. -/
def getDistanceStep (targetDistance : Int) (isSightClear : Bool) (dirList : List Direction)
    (creaturePos targetPos : Position) : Bool × Option Direction :=
  let distance := max (getDistanceX creaturePos targetPos) (getDistanceY creaturePos targetPos)
  if ¬ flee ∧ (distance > targetDistance ∨ ¬ isSightClear) then (false, none)
  else if ¬ flee ∧ distance = targetDistance then (true, none)
  else
    let offsetx := getOffsetX creaturePos targetPos
    let offsety := getOffsetY creaturePos targetPos
    if offsetx = 0 ∧ offsety = 0 then
      let direction := getRandomStep canWalkTo dirList
      (direction.isSome, direction)
    else (true, stepFrom canWalkTo boolean_random flee offsetx offsety)

end Steps

/-! ## The directions that are found -/

/-- Only a neighbor that can be walked to is found, and of a kind. -/
def Leads (canWalkTo : Direction → Bool) (kind : Direction → Prop) (step : Option Direction) :
    Prop :=
  ∀ direction, step = some direction → canWalkTo direction ∧ kind direction

section Kinds

variable {canWalkTo : Direction → Bool} {boolean_random flee : Bool} {kind : Direction → Prop}
  {step other : Option Direction} {first second : Direction}

theorem Leads.or (leads : Leads canWalkTo kind step) (others : Leads canWalkTo kind other) :
    Leads canWalkTo kind (step.or other) := by
  intro direction found
  rcases Option.or_eq_some_iff.mp found with found | ⟨-, found⟩
  · exact leads direction found
  · exact others direction found

theorem Leads.whenFleeing (leads : flee → Leads canWalkTo kind step) :
    Leads canWalkTo kind (if flee then step else none) := by
  intro direction found
  split_ifs at found with flees
  exact leads flees direction found

theorem leads_some (walks : canWalkTo first) (isKind : kind first) :
    Leads canWalkTo kind (some first) := by
  rintro _ ⟨⟩
  exact ⟨walks, isKind⟩

theorem leads_one (isKind : kind first) : Leads canWalkTo kind (one canWalkTo first) := by
  unfold one
  split_ifs with walks
  · exact leads_some walks isKind
  · exact nofun

theorem leads_either (isKind : kind first) (alsoKind : kind second) :
    Leads canWalkTo kind (either canWalkTo boolean_random first second) := by
  unfold either
  split_ifs with both random
  · exact leads_some both.1 isKind
  · exact leads_some both.2 alsoKind
  · exact (leads_one isKind).or (leads_one alsoKind)

theorem Diagonal.leads {diagonal : Diagonal} (escape : kind diagonal.escape.1)
    (escapes : kind diagonal.escape.2) (corner : kind diagonal.corner)
    (fleeing : flee → kind diagonal.fleeing.1 ∧ kind diagonal.fleeing.2)
    (slides : ∀ slide ∈ diagonal.slides, kind slide.1) :
    Leads canWalkTo kind (diagonal.step canWalkTo boolean_random flee) := by
  refine (leads_either escape escapes).or <| (leads_one corner).or <| .or
    (.whenFleeing fun flees => leads_either (fleeing flees).1 (fleeing flees).2) ?_
  intro direction found
  obtain ⟨slide, isSlide, rfl⟩ := Option.map_eq_some_iff.mp found
  have walks := List.find?_some isSlide
  rw [Bool.and_eq_true] at walks
  exact ⟨walks.1, slides slide (List.mem_of_find?_eq_some isSlide)⟩

theorem Straight.leads {straight : Straight} {offset : Int} (away : kind straight.away)
    (sides : kind straight.sides.1 ∧ kind straight.sides.2)
    (corners : kind straight.corners.1.1 ∧ kind straight.corners.1.2 ∧
      kind straight.corners.2.1 ∧ kind straight.corners.2.2)
    (toward : flee → kind straight.toward) :
    Leads canWalkTo kind (straight.step canWalkTo boolean_random flee offset) := by
  refine (leads_one away).or <| .or ?_ <| .or
    (.whenFleeing fun _ => leads_either sides.1 sides.2) <| .or ?_
      (.whenFleeing fun flees => leads_one (toward flees))
  · unfold Straight.side
    split_ifs with both random low high
    · exact leads_some both.1 sides.1
    · exact leads_some both.2.1 sides.2
    · exact leads_some low.1 sides.1
    · exact leads_some high.1 sides.2
    · exact nofun
  · unfold Straight.corner
    dsimp only
    split_ifs with some_ both random
    · exact leads_some both.1 corners.2.1
    · exact leads_some both.2 corners.2.2.2
    · intro direction found
      refine ⟨List.find?_some found, ?_⟩
      have among := List.mem_of_find?_eq_some found
      simp only [List.mem_cons, List.not_mem_nil, or_false] at among
      rcases among with rfl | rfl | rfl | rfl
      exacts [corners.1, corners.2.1, corners.2.2.1, corners.2.2.2]
    · exact nofun

end Kinds

/-! ## Fleeing -/

section Fleeing

variable {canWalkTo : Direction → Bool} {boolean_random : Bool}

theorem either_isSome {first second : Direction} :
    (either canWalkTo boolean_random first second).isSome =
      (canWalkTo first || canWalkTo second) := by
  unfold either one
  cases canWalkTo first <;> cases canWalkTo second <;> rfl

theorem one_isSome (direction : Direction) :
    (one canWalkTo direction).isSome = canWalkTo direction := by
  unfold one
  cases canWalkTo direction <;> rfl

variable {direction : Direction} (walks : canWalkTo direction)
include walks

theorem Diagonal.isSome {diagonal : Diagonal} (among : direction ∈
      [diagonal.escape.1, diagonal.escape.2, diagonal.fleeing.1, diagonal.fleeing.2]) :
    (diagonal.step canWalkTo boolean_random true).isSome := by
  simp only [List.mem_cons, List.not_mem_nil, or_false] at among
  simp only [Diagonal.step, if_true, Option.isSome_or, either_isSome]
  rcases among with rfl | rfl | rfl | rfl <;> simp [walks]

theorem Straight.isSome {straight : Straight} {offset : Int} (among : direction ∈
      [straight.away, straight.sides.1, straight.sides.2, straight.toward]) :
    (straight.step canWalkTo boolean_random true offset).isSome := by
  simp only [List.mem_cons, List.not_mem_nil, or_false] at among
  simp only [Straight.step, if_true, Option.isSome_or, either_isSome, one_isSome]
  rcases among with rfl | rfl | rfl | rfl <;> simp [walks]

theorem stepFrom_isSome {offsetx offsety : Int}
    (cardinal : direction ∈ [.north, .east, .south, .west]) :
    (stepFrom canWalkTo boolean_random true offsetx offsety).isSome := by
  unfold stepFrom
  split_ifs
  iterate 4 exact Diagonal.isSome walks (by revert cardinal; cases direction <;> decide)
  iterate 4 exact Straight.isSome walks (by revert cardinal; cases direction <;> decide)

end Fleeing

/-! ## Distances -/

/-- A step does not bring the target nearer. -/
def NotCloser (offsetx offsety : Int) (direction : Direction) : Prop :=
  max |offsetx| |offsety| ≤ max |offsetx + direction.offset.1| |offsety + direction.offset.2|

/-- A coordinate does not change toward zero. -/
def Away (offset change : Int) : Prop := 0 ≤ offset ∧ 0 ≤ change ∨ offset ≤ 0 ∧ change ≤ 0

theorem Away.le {offset change : Int} (away : Away offset change) :
    |offset| ≤ |offset + change| := by
  rcases away with ⟨low, more⟩ | ⟨high, less⟩
  · rw [abs_of_nonneg low, abs_of_nonneg (add_nonneg low more)]
    omega
  · rw [abs_of_nonpos high, abs_of_nonpos (add_nonpos high less)]
    omega

variable {offsetx offsety : Int} {direction : Direction}

theorem notCloser_vertical (most : |offsetx| ≤ |offsety|)
    (away : Away offsety direction.offset.2) : NotCloser offsetx offsety direction := by
  rw [NotCloser, max_eq_right most]
  exact away.le.trans (le_max_right _ _)

theorem notCloser_horizontal (most : |offsety| ≤ |offsetx|)
    (away : Away offsetx direction.offset.1) : NotCloser offsetx offsety direction := by
  rw [NotCloser, max_eq_left most]
  exact away.le.trans (le_max_left _ _)

theorem notCloser_diagonal (same : |offsetx| = |offsety|)
    (away : Away offsetx direction.offset.1 ∨ Away offsety direction.offset.2) :
    NotCloser offsetx offsety direction :=
  away.elim (notCloser_horizontal same.ge) (notCloser_vertical same.le)

/-- No step that is found brings the target nearer, unless the monster flees. -/
theorem notCloser_of_stepFrom {canWalkTo : Direction → Bool} {boolean_random flee : Bool} :
    Leads canWalkTo (fun direction => flee = false → NotCloser offsetx offsety direction)
      (stepFrom canWalkTo boolean_random flee offsetx offsety) := by
  unfold stepFrom
  split_ifs
  iterate 4
    next target =>
      refine Diagonal.leads ?_ ?_ ?_ (fun flees => by simp [flees])
        (List.forall_mem_cons.mpr ⟨?_, List.forall_mem_cons.mpr ⟨?_, nofun⟩⟩)
      all_goals
        intro _
        refine notCloser_diagonal target.1 ?_
        simp [Away, northWest, southEast, southWest, northEast, Direction.offset]
        omega
  iterate 2
    next vertical _ =>
      refine Straight.leads ?_ ⟨?_, ?_⟩ ⟨?_, ?_, ?_, ?_⟩ (fun flees => by simp [flees])
      all_goals
        intro _
        refine notCloser_vertical vertical.le ?_
        simp only [Away, north, south, Direction.offset]
        omega
  iterate 2
    next horizontal _ =>
      refine Straight.leads ?_ ⟨?_, ?_⟩ ⟨?_, ?_, ?_, ?_⟩ (fun flees => by simp [flees])
      all_goals
        intro _
        refine notCloser_horizontal (not_lt.mp horizontal) ?_
        simp only [Away, west, east, Direction.offset]
        omega

/-- Away from the border of the map, the coordinates change as the direction says. -/
theorem getOffset_next {pos targetPos : Position} (inner : Pathfinding.Inner pos)
    (direction : Direction) :
    getOffsetX (getNextPosition direction pos) targetPos =
        getOffsetX pos targetPos + direction.offset.1 ∧
      getOffsetY (getNextPosition direction pos) targetPos =
        getOffsetY pos targetPos + direction.offset.2 := by
  obtain ⟨west, east, north, south⟩ := inner
  unfold getOffsetX getOffsetY Position.getX Position.getY
  cases direction <;>
    simp only [getNextPosition, Direction.offset, UInt16.toNat_add, UInt16.toNat_sub,
      UInt16.toNat_one] <;>
    omega

/-- What `getDistanceStep` does, wherever the monster may walk and whatever is drawn. -/
theorem getDistanceStep_spec (canWalkTo : Direction → Bool) (boolean_random flee : Bool)
    (targetDistance : Int) (isSightClear : Bool) {dirList : List Direction}
    (shuffled : dirList.Perm [.north, .west, .east, .south]) {creaturePos targetPos : Position}
    (inner : Pathfinding.Inner creaturePos) :
    Leads canWalkTo (fun direction =>
        flee = false → ¬ (creaturePos.x = targetPos.x ∧ creaturePos.y = targetPos.y) →
          max (getDistanceX creaturePos targetPos) (getDistanceY creaturePos targetPos) ≤
            max (getDistanceX (getNextPosition direction creaturePos) targetPos)
              (getDistanceY (getNextPosition direction creaturePos) targetPos))
        (getDistanceStep canWalkTo boolean_random flee targetDistance isSightClear dirList
          creaturePos targetPos).2 ∧
      (flee = true → (∃ direction ∈ [.north, .east, .south, .west], canWalkTo direction) →
        (getDistanceStep canWalkTo boolean_random flee targetDistance isSightClear dirList
          creaturePos targetPos).2.isSome) := by
  unfold getDistanceStep
  dsimp only
  constructor
  · split_ifs with far near on
    · exact nofun
    · exact nofun
    · intro direction found
      refine ⟨List.find?_some found, fun _ apart => absurd ⟨?_, ?_⟩ apart⟩
      · apply UInt16.toNat_inj.mp
        have := on.1
        unfold getOffsetX Position.getX at this
        omega
      · apply UInt16.toNat_inj.mp
        have := on.2
        unfold getOffsetY Position.getY at this
        omega
    · intro direction found
      obtain ⟨walks, notCloser⟩ := notCloser_of_stepFrom direction found
      obtain ⟨sameX, sameY⟩ := @getOffset_next _ targetPos inner direction
      refine ⟨walks, fun stays _ => ?_⟩
      unfold getDistanceX getDistanceY
      rw [sameX, sameY]
      exact notCloser stays
  · rintro rfl ⟨direction, cardinal, walks⟩
    rw [if_neg (fun refused => refused.1 rfl), if_neg (fun refused => refused.1 rfl)]
    split_ifs
    · refine List.find?_isSome.mpr ⟨direction, shuffled.mem_iff.mpr ?_, walks⟩
      revert cardinal
      cases direction <;> decide
    · exact stepFrom_isSome walks cardinal

/-- A fleeing monster whose target is in the north west and that can walk only to the west. -/
theorem getDistanceStep_spec_cornered :
    (getDistanceStep (· == .west) true true 4 true [.north, .west, .east, .south] ⟨100, 100, 7⟩
      ⟨98, 98, 7⟩).2.isSome :=
  (getDistanceStep_spec (· == .west) true true 4 true (List.Perm.refl _)
    (by unfold Pathfinding.Inner; decide)).2 rfl
    ⟨.west, by decide, rfl⟩

end Otserv.Monsters

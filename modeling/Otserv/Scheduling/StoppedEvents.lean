import Otserv.Foundation.Runs
import Otserv.Scheduling.Scheduler

/-!
# Events that are stopped

An event that was added is in one place at a time: posted, waited for by its timer,
expired, given to the dispatcher, executed or deleted (`Tracked.placed`). From there it goes
on until it is executed, unless it was stopped or the system shut down
(`Tracked.delivered`).

`stopEvent` reaches an event as long as its timer has not expired. It then takes the way
that ends in its being deleted (`Doomed`), so a run in which no event is stopped after its
timer expired, and no timer expires while the event is being stopped, executes no stopped
event (`stops_sound`).
-/

namespace Otserv.Scheduling

open Foundation
open List (map_cons filterMap_cons map_nil cons_append count_cons count_append mem_filter mem_map
  count_pos_iff mem_filterMap mem_append mem_append_left mem_cons mem_append_right mem_cons_self
  mem_cons_of_mem filterMap_append filterMap_nil count_nil append_nil length_append length_nil
  length_cons ne_nil_of_mem)

/-- What the two threads do, and the calls made to them. -/
inductive Op where
  | addEvent (task : Event)
  | stopEvent (eventId : UInt32)
  | addTask (address : Nat)
  | shutdownScheduler
  | shutdownDispatcher
  | closeScheduler
  | closeDispatcher
  | runNext
  | expire (event : Event)
  | swap
  | execute
deriving DecidableEq

/-- A step of one of the two threads on its own. -/
def Op.own : Op → Bool
  | .runNext | .expire _ | .swap | .execute => true
  | _ => false

/-- Tasks are new when they are added, and the ids of events are what `addEvent` gave. -/
def legal (world : World) : Op → Prop
  | .addEvent task => task.eventId = 0
  | .stopEvent eventId => eventId = 0 ∨ ∃ event ∈ world.added, event.eventId = eventId
  | .runNext => world.stopped = false ∧ world.posts ≠ []
  | .expire event => world.stopped = false ∧ event ∈ world.waiting
  | .swap =>
    world.dispatcherState ≠ .terminated ∧ world.tmpTaskList = [] ∧ world.taskList ≠ []
  | .execute => world.tmpTaskList ≠ []
  | _ => True

instance (world : World) : (op : Op) → Decidable (legal world op)
  | .addEvent _ => inferInstanceAs (Decidable (_ = _))
  | .stopEvent _ => inferInstanceAs (Decidable (_ ∨ _))
  | .runNext | .expire _ | .swap => inferInstanceAs (Decidable (_ ∧ _))
  | .execute => inferInstanceAs (Decidable (_ ≠ _))
  | .addTask _ | .shutdownScheduler | .shutdownDispatcher | .closeScheduler | .closeDispatcher =>
    .isTrue trivial

def step (world : World) : Op → World
  | .addEvent task => world.addEvent task
  | .stopEvent eventId => world.stopEvent eventId
  | .addTask address => world.addTask (.plain address)
  | .shutdownScheduler => world.shutdownScheduler
  | .shutdownDispatcher => world.shutdownDispatcher
  | .closeScheduler => { world with schedulerState := .closing }
  | .closeDispatcher => { world with dispatcherState := .closing }
  | .runNext => world.runNext
  | .expire event => world.expire event
  | .swap => world.swap
  | .execute => world.execute

def system : System World Op := ⟨legal, step⟩

instance (world : World) (op : Op) : Decidable (system.legal world op) :=
  inferInstanceAs (Decidable (legal world op))

/-! ## The property -/

def Handler.insert? : Handler → Option Event
  | .insert event => some event
  | _ => none

def Handler.expired? : Handler → Option Event
  | .expired event _ => some event
  | _ => none

namespace World

variable (world : World)

/-- One of the threads has been told to end. -/
def shutDown : Prop := world.schedulerState ≠ .running ∨ world.dispatcherState ≠ .running

/-- The event is still on its way. -/
def pending (event : Event) : Prop :=
  .insert event ∈ world.posts ∨ event ∈ world.waiting ∨ .expired event false ∈ world.posts ∨
    .ofEvent event ∈ world.taskList ∨ .ofEvent event ∈ world.tmpTaskList

/-- The events of posted calls, of expired timers, and of tasks. -/
def inserts : List Event := world.posts.filterMap Handler.insert?

def expireds : List Event := world.posts.filterMap Handler.expired?

def tasks : List Event := (world.tmpTaskList ++ world.taskList).filterMap Task.event?

end World

/-- What the queues promise. -/
structure Sound (world : World) : Prop where
  /-- Every id is used once. -/
  ids : (world.added.map Event.eventId).Nodup
  /-- Nothing is executed twice. -/
  once : world.executed.Nodup
  /-- An event is executed, or still on its way, unless it was stopped or the system shut
  down. -/
  kept : ∀ event ∈ world.added, event ∈ world.executed ∨ event ∈ world.cancelled ∨
    world.shutDown ∨ world.pending event
  /-- What was stopped is not executed. -/
  never : ∀ event ∈ world.cancelled, event ∉ world.executed

/-- Ids are left, no event is stopped whose timer has expired, and no timer expires while
its event is being stopped. -/
def InTime (world : World) : Op → Prop
  | .addEvent _ => world.lastEventId ≠ 0xFFFFFFFF
  | .stopEvent eventId => ∀ event ∈ world.added, event.eventId = eventId →
      .expired event false ∉ world.posts ∧ .ofEvent event ∉ world.taskList ∧
        .ofEvent event ∉ world.tmpTaskList
  | .expire event => .cancel event.eventId ∉ world.posts
  | _ => True

instance (world : World) : (op : Op) → Decidable (InTime world op)
  | .addEvent _ => inferInstanceAs (Decidable (_ ≠ _))
  | .stopEvent _ => inferInstanceAs (Decidable (∀ _ ∈ _, _))
  | .expire _ => inferInstanceAs (Decidable (_ ∉ _))
  | .addTask _ | .shutdownScheduler | .shutdownDispatcher | .closeScheduler | .closeDispatcher
  | .runNext | .swap | .execute => .isTrue trivial

/-! ## Where the events are -/

section Places

variable {world : World} {event : Event}

/-- The handler of the event and the cancellation after it are posted. -/
def InsertThenCancel (event : Event) : List Handler → Prop
  | [] => False
  | .insert other :: posts =>
    other = event ∧ .cancel event.eventId ∈ posts ∨ InsertThenCancel event posts
  | _ :: posts => InsertThenCancel event posts

/-- A stopped event is on the way that ends in its being deleted. -/
def Doomed (world : World) (event : Event) : Prop :=
  event ∈ world.deleted ∨ .expired event true ∈ world.posts ∨
    event ∈ world.waiting ∧ .cancel event.eventId ∈ world.posts ∨
    InsertThenCancel event world.posts

/-- All the places at which an event can be. -/
def World.places (world : World) : List Event :=
  world.inserts ++ world.waiting ++ world.expireds ++ world.tasks ++ world.executed ++
    world.deleted

structure Tracked (world : World) : Prop where
  placed : ∀ event, world.places.count event = world.added.count event
  ids : (world.added.map Event.eventId).Nodup
  issued : ∀ event ∈ world.added, event.eventId ≠ 0 ∧ event.eventId ≤ world.lastEventId
  named : ∀ timer ∈ world.timers, ∀ event, timer.waiting = some event →
    timer.eventId = event.eventId
  timed : ∀ eventId, (world.timers.map Timer.eventId).count eventId =
    ((world.waiting ++ world.expireds).map Event.eventId).count eventId
  doomed : ∀ event ∈ world.cancelled, Doomed world event
  stopped : ∀ eventId, .cancel eventId ∈ world.posts → eventId ≤ world.lastEventId ∧
    ∀ event ∈ world.added, event.eventId = eventId →
      event ∈ world.cancelled ∨ event ∈ world.executed
  aborted : ∀ event, .expired event true ∈ world.posts → event ∈ world.cancelled ∨ world.shutDown
  deleted : ∀ event ∈ world.deleted, event ∈ world.cancelled ∨ world.shutDown
  all : .cancelAll ∈ world.posts → world.shutDown
  halted : world.stopped = true → world.shutDown

end Places

/-! ## Timers that are cancelled -/

section Timers

variable (which : Timer → Prop) [DecidablePred which] (timers : List Timer) (event : Event)

theorem count_cancel :
    ((timers.map fun timer => if which timer then timer.cancel else timer).filterMap
        Timer.waiting).count event +
      (((timers.filter which).flatMap Timer.aborts).filterMap Handler.expired?).count event =
        (timers.filterMap Timer.waiting).count event := by
  induction timers with
  | nil => rfl
  | cons timer timers ih =>
    by_cases isIt : which timer
    · cases waits : timer.waiting with
      | none => simpa [isIt, Timer.cancel, Timer.aborts, waits] using ih
      | some waited =>
        simp only [map_cons, isIt, if_true, filterMap_cons, Timer.cancel, waits,
          List.filter_cons_of_pos, decide_true, List.flatMap_cons, Timer.aborts,
          Option.toList_some, map_nil, cons_append, List.nil_append,
          Handler.expired?, count_cons] at ih ⊢
        omega
    · cases waits : timer.waiting with
      | none => simpa [isIt, waits] using ih
      | some waited =>
        simp only [map_cons, isIt, if_false, filterMap_cons, waits, decide_false,
          Bool.false_eq_true, not_false_eq_true, List.filter_cons_of_neg,
          count_cons] at ih ⊢
        omega

theorem cancel_perm :
    ((timers.map fun timer => if which timer then timer.cancel else timer).filterMap
      Timer.waiting ++ ((timers.filter which).flatMap Timer.aborts).filterMap
        Handler.expired?).Perm (timers.filterMap Timer.waiting) := by
  rw [List.perm_iff_count]
  intro event
  rw [count_append, count_cancel]

theorem mem_aborts (handler : Handler) :
    handler ∈ (timers.filter which).flatMap Timer.aborts ↔
      ∃ timer ∈ timers, which timer ∧ ∃ event, timer.waiting = some event ∧
        handler = .expired event true := by
  simp only [List.mem_flatMap, mem_filter, decide_eq_true_eq, Timer.aborts, mem_map,
    Option.mem_toList]
  constructor
  · rintro ⟨timer, ⟨member, isIt⟩, event, waits, rfl⟩
    exact ⟨timer, member, isIt, event, waits, rfl⟩
  · rintro ⟨timer, member, isIt, event, waits, rfl⟩
    exact ⟨timer, ⟨member, isIt⟩, event, waits, rfl⟩

theorem length_aborts :
    (((timers.filter which).flatMap Timer.aborts).filterMap Handler.expired?).length =
      ((timers.filter which).flatMap Timer.aborts).length := by
  rw [List.length_filterMap_eq_countP, List.countP_eq_length]
  intro handler member
  obtain ⟨_, _, _, _, _, rfl⟩ := (mem_aborts which timers handler).mp member
  rfl

/-- No call is posted by a timer. -/
theorem inserts_aborts :
    ((timers.filter which).flatMap Timer.aborts).filterMap Handler.insert? = [] := by
  rw [List.filterMap_eq_nil_iff]
  intro handler member
  obtain ⟨_, _, _, _, _, rfl⟩ := (mem_aborts which timers handler).mp member
  rfl

theorem eventIds_cancel :
    (timers.map fun timer => if which timer then timer.cancel else timer).map Timer.eventId =
      timers.map Timer.eventId := by
  rw [List.map_map]
  refine List.map_congr_left fun timer _ => ?_
  rw [Function.comp_apply]
  split <;> rfl

end Timers

/-! ## One place for each event -/

namespace Tracked

variable {world : World} {event other : Event}

theorem count_places (world : World) (event : Event) :
    world.places.count event = world.inserts.count event + world.waiting.count event +
      world.expireds.count event + world.tasks.count event + world.executed.count event +
        world.deleted.count event := by
  simp only [World.places, count_append]

theorem unique (tracked : Tracked world) (member : event ∈ world.added)
    (otherMember : other ∈ world.added) (same : event.eventId = other.eventId) : event = other :=
  List.inj_on_of_nodup_map tracked.ids member otherMember same

/-- An event is at no two places. -/
theorem once (tracked : Tracked world) (event : Event) :
    world.inserts.count event + world.waiting.count event + world.expireds.count event +
      world.tasks.count event + world.executed.count event + world.deleted.count event ≤ 1 := by
  have nodup : world.added.Nodup := tracked.ids.of_map
  rw [← count_places, tracked.placed event]
  exact List.nodup_iff_count_le_one.mp nodup event

theorem mem_added_iff (tracked : Tracked world) : event ∈ world.added ↔ event ∈ world.places := by
  rw [← count_pos_iff, ← count_pos_iff, tracked.placed event]

theorem mem_inserts : event ∈ world.inserts ↔ .insert event ∈ world.posts := by
  simp only [World.inserts, mem_filterMap]
  constructor
  · rintro ⟨handler, member, isInsert⟩
    cases handler <;> simp_all [Handler.insert?]
  · intro member
    exact ⟨_, member, rfl⟩

theorem mem_expireds :
    event ∈ world.expireds ↔ ∃ aborted, .expired event aborted ∈ world.posts := by
  simp only [World.expireds, mem_filterMap]
  constructor
  · rintro ⟨handler, member, isExpired⟩
    cases handler with
    | expired other aborted =>
      obtain rfl : other = event := Option.some.inj isExpired
      exact ⟨aborted, member⟩
    | _ => cases isExpired
  · rintro ⟨aborted, member⟩
    exact ⟨_, member, rfl⟩

theorem mem_tasks :
    event ∈ world.tasks ↔ .ofEvent event ∈ world.tmpTaskList ∨ .ofEvent event ∈ world.taskList := by
  rw [← mem_append]
  simp only [World.tasks, mem_filterMap]
  constructor
  · rintro ⟨task, member, isEvent⟩
    cases task <;> simp_all [Task.event?]
  · intro member
    exact ⟨_, member, rfl⟩

theorem mem_waiting : event ∈ world.waiting ↔ ∃ timer ∈ world.timers, timer.waiting = some event :=
  mem_filterMap

theorem somewhere (tracked : Tracked world) (member : event ∈ world.added) :
    event ∈ world.inserts ∨ event ∈ world.waiting ∨ event ∈ world.expireds ∨
      event ∈ world.tasks ∨ event ∈ world.executed ∨ event ∈ world.deleted := by
  have placed := tracked.mem_added_iff.mp member
  simpa only [World.places, mem_append, or_assoc] using placed

theorem eq_of_timed (tracked : Tracked world) (waits : event ∈ world.waiting)
    (expired : other ∈ world.expireds) : event.eventId ≠ other.eventId := by
  intro same
  have member {event : Event} (at_ : event ∈ world.waiting ∨ event ∈ world.expireds) :
      event ∈ world.added := by
    rw [tracked.mem_added_iff]
    simp only [World.places, mem_append]
    tauto
  obtain rfl := tracked.unique (member (.inl waits)) (member (.inr expired)) same
  have once := tracked.once event
  have := count_pos_iff.mpr waits
  have := count_pos_iff.mpr expired
  omega

variable {posts : List Handler}

theorem insertThenCancel_append (more : List Handler)
    (both : InsertThenCancel event posts) : InsertThenCancel event (posts ++ more) := by
  induction posts with
  | nil => exact both.elim
  | cons handler posts ih =>
    cases handler with
    | insert other =>
      rcases both with ⟨same, cancelled⟩ | further
      · exact .inl ⟨same, mem_append_left _ cancelled⟩
      · exact .inr (ih further)
    | _ => exact ih both

theorem insertThenCancel_of_mem (member : .insert event ∈ posts) :
    InsertThenCancel event (posts ++ [.cancel event.eventId]) := by
  induction posts with
  | nil => cases member
  | cons handler posts ih =>
    rcases mem_cons.mp member with rfl | later
    · exact .inl ⟨rfl, mem_append_right _ mem_cons_self⟩
    · cases handler with
      | insert other => exact .inr (ih later)
      | _ => exact ih later

theorem mem_of_insertThenCancel (both : InsertThenCancel event posts) : .insert event ∈ posts := by
  induction posts with
  | nil => exact both.elim
  | cons handler posts ih =>
    cases handler with
    | insert other =>
      rcases both with ⟨rfl, -⟩ | further
      · exact mem_cons_self
      · exact mem_cons_of_mem _ (ih further)
    | _ => exact mem_cons_of_mem _ (ih both)

theorem not_executed (tracked : Tracked world) (cancelled : event ∈ world.cancelled) :
    event ∉ world.executed := by
  intro executed
  have once := tracked.once event
  have := count_pos_iff.mpr executed
  rcases tracked.doomed event cancelled with deleted | aborted | ⟨waits, -⟩ | both
  · have := count_pos_iff.mpr deleted
    omega
  · have := count_pos_iff.mpr (mem_expireds.mpr ⟨_, aborted⟩)
    omega
  · have := count_pos_iff.mpr waits
    omega
  · have := count_pos_iff.mpr (mem_inserts.mpr (mem_of_insertThenCancel both))
    omega

/-- **The queues keep their promise** where the events are tracked. -/
theorem sound (tracked : Tracked world) : Sound world where
  ids := tracked.ids
  once := by
    rw [List.nodup_iff_count_le_one]
    intro event
    have once := tracked.once event
    omega
  kept := by
    intro event member
    rcases tracked.somewhere member with posted | waits | expired | given | executed | deleted
    · exact .inr (.inr (.inr (.inl (mem_inserts.mp posted))))
    · exact .inr (.inr (.inr (.inr (.inl waits))))
    · obtain ⟨aborted, posted⟩ := mem_expireds.mp expired
      cases aborted with
      | false => exact .inr (.inr (.inr (.inr (.inr (.inl posted)))))
      | true =>
        rcases tracked.aborted event posted with cancelled | shut
        · exact .inr (.inl cancelled)
        · exact .inr (.inr (.inl shut))
    · exact .inr (.inr (.inr (.inr (.inr (.inr (mem_tasks.mp given).symm)))))
    · exact .inl executed
    · rcases tracked.deleted event deleted with cancelled | shut
      · exact .inr (.inl cancelled)
      · exact .inr (.inr (.inl shut))
  never := fun event cancelled => tracked.not_executed cancelled

/-! ## Steps that keep the events tracked -/

theorem empty : Tracked {} := by
  constructor <;> simp [World.places, World.inserts, World.waiting, World.expireds, World.tasks]

theorem next_id {last id : UInt32} (left : last ≠ 0xFFFFFFFF) :
    last + 1 ≠ 0 ∧ ¬ last + 1 ≤ last ∧ (id ≤ last → id ≤ last + 1) := by
  have small := last.toNat_lt
  have notLast : last.toNat ≠ 0xFFFFFFFF := fun same => left (UInt32.toNat_inj.mp same)
  have next : (last + 1).toNat = last.toNat + 1 := by
    exact Nat.mod_eq_of_lt (by simp; omega)
  refine ⟨fun zero => ?_, ?_, fun below => ?_⟩
  · rw [zero] at next
    simp at next
  · rw [UInt32.le_iff_toNat_le]
    omega
  · rw [UInt32.le_iff_toNat_le] at below ⊢
    omega

theorem doomed_post (doomed : Doomed world event) : Doomed (world.post posts) event := by
  rcases doomed with deleted | aborted | ⟨waits, cancel⟩ | both
  · exact .inl deleted
  · exact .inr (.inl (mem_append_left _ aborted))
  · exact .inr (.inr (.inl ⟨waits, mem_append_left _ cancel⟩))
  · exact .inr (.inr (.inr (insertThenCancel_append posts both)))

section

variable (tracked : Tracked world)
include tracked

theorem addEvent {task : Event} (unset : task.eventId = 0)
    (left : world.lastEventId ≠ 0xFFFFFFFF) : Tracked (world.addEvent task) := by
  obtain ⟨notZero, above, -⟩ := @next_id world.lastEventId 0 left
  have raised (id : UInt32) := (@next_id world.lastEventId id left).2.2
  have other {old : Event} (member : old ∈ world.added) : old.eventId ≠ world.lastEventId + 1 := by
    intro same
    have below := (tracked.issued old member).2
    rw [same] at below
    exact above below
  rw [World.addEvent, if_pos unset]
  constructor
  · intro event
    have placed := tracked.placed event
    rw [count_places] at placed ⊢
    simp only [World.inserts, World.waiting, World.expireds, World.tasks, filterMap_append,
      filterMap_cons, filterMap_nil, Handler.insert?, Handler.expired?,
      count_append, count_cons, count_nil] at placed ⊢
    omega
  · refine List.nodup_cons.mpr ⟨?_, tracked.ids⟩
    intro member
    obtain ⟨old, present, same⟩ := mem_map.mp member
    exact other present same
  · intro event member
    rcases mem_cons.mp member with rfl | old
    · exact ⟨notZero, UInt32.le_refl _⟩
    · exact ⟨(tracked.issued event old).1, raised _ (tracked.issued event old).2⟩
  · exact tracked.named
  · intro eventId
    simpa only [World.waiting, World.expireds, filterMap_append, filterMap_cons,
      filterMap_nil, Handler.expired?, append_nil] using tracked.timed eventId
  · exact fun event cancelled => doomed_post (tracked.doomed event cancelled)
  · intro eventId posted
    have posted : .cancel eventId ∈ world.posts := by simpa using posted
    obtain ⟨known, settled⟩ := tracked.stopped eventId posted
    refine ⟨raised _ known, fun event member same => ?_⟩
    rcases mem_cons.mp member with rfl | old
    · rw [← same] at known
      exact absurd known above
    · exact settled event old same
  · intro event posted
    exact tracked.aborted event (by simpa using posted)
  · exact tracked.deleted
  · intro posted
    exact tracked.all (by simpa using posted)
  · exact tracked.halted

theorem stopEvent {eventId : UInt32}
    (known : eventId = 0 ∨ ∃ event ∈ world.added, event.eventId = eventId)
    (inTime : InTime world (.stopEvent eventId)) : Tracked (world.stopEvent eventId) := by
  rw [World.stopEvent]
  split_ifs with zero
  · exact tracked
  constructor
  · intro event
    have placed := tracked.placed event
    rw [count_places] at placed ⊢
    simpa [World.inserts, World.waiting, World.expireds, World.tasks, filterMap_cons,
      Handler.insert?, Handler.expired?] using placed
  · exact tracked.ids
  · exact tracked.issued
  · exact tracked.named
  · intro eventId
    simpa [World.waiting, World.expireds, filterMap_cons, Handler.expired?]
      using tracked.timed eventId
  · intro event cancelled
    rcases mem_append.mp cancelled with now | before
    · -- by the guard the event is posted, waited for, or already being deleted
      simp only [World.unexecuted, mem_filter, decide_eq_true_eq] at now
      obtain ⟨member, rfl, notExecuted⟩ := now
      obtain ⟨notExpired, notGiven, notTaken⟩ := inTime event member rfl
      rcases tracked.somewhere member with posted | waits | expired | given | executed | deleted
      · exact .inr (.inr (.inr (insertThenCancel_of_mem (mem_inserts.mp posted))))
      · exact .inr (.inr (.inl ⟨waits, mem_append_right _ mem_cons_self⟩))
      · obtain ⟨aborted, posted⟩ := mem_expireds.mp expired
        cases aborted with
        | false => exact absurd posted notExpired
        | true => exact .inr (.inl (mem_append_left _ posted))
      · rcases mem_tasks.mp given with taken | given
        · exact absurd taken notTaken
        · exact absurd given notGiven
      · exact absurd executed notExecuted
      · exact .inl deleted
    · exact doomed_post (tracked.doomed event before)
  · intro other posted
    rcases mem_append.mp posted with before | now
    · obtain ⟨below, settled⟩ := tracked.stopped other before
      refine ⟨below, fun event member same => ?_⟩
      exact (settled event member same).imp (mem_append_right _) id
    · obtain rfl : other = eventId := by simpa using now
      obtain ⟨event, member, same⟩ := known.resolve_left zero
      refine ⟨same ▸ (tracked.issued event member).2, fun event member same => ?_⟩
      by_cases executed : event ∈ world.executed
      · exact .inr executed
      · refine .inl (mem_append_left _ ?_)
        simp only [World.unexecuted, mem_filter, decide_eq_true_eq]
        exact ⟨member, same, executed⟩
  · intro event posted
    exact (tracked.aborted event (by simpa using posted)).imp (mem_append_right _) id
  · intro event deleted
    exact (tracked.deleted event deleted).imp (mem_append_right _) id
  · intro posted
    exact tracked.all (by simpa using posted)
  · exact tracked.halted

theorem keep {after : World} (posts : after.posts = world.posts)
    (timers : after.timers = world.timers) (last : after.lastEventId = world.lastEventId)
    (added : after.added = world.added) (cancelled : after.cancelled = world.cancelled)
    (deleted : after.deleted = world.deleted) (stopped : after.stopped = world.stopped)
    (executed : ∀ event ∈ world.executed, event ∈ after.executed)
    (moved : ∀ event, after.tasks.count event + after.executed.count event =
      world.tasks.count event + world.executed.count event)
    (shut : world.shutDown → after.shutDown) : Tracked after := by
  have inserts : after.inserts = world.inserts := by rw [World.inserts, posts]; rfl
  have expireds : after.expireds = world.expireds := by rw [World.expireds, posts]; rfl
  have waiting : after.waiting = world.waiting := by rw [World.waiting, timers]; rfl
  constructor
  · intro event
    have placed := tracked.placed event
    have moved := moved event
    rw [count_places] at placed ⊢
    rw [inserts, waiting, expireds, deleted, added]
    omega
  · rw [added]
    exact tracked.ids
  · rw [added, last]
    exact tracked.issued
  · rw [timers]
    exact tracked.named
  · rw [timers, waiting, expireds]
    exact tracked.timed
  · intro event stop
    rw [Doomed, deleted, posts, waiting]
    exact tracked.doomed event (cancelled ▸ stop)
  · intro eventId posted
    obtain ⟨known, settled⟩ := tracked.stopped eventId (posts ▸ posted)
    rw [last, added, cancelled]
    exact ⟨known, fun event member same => (settled event member same).imp id (executed event)⟩
  · intro event posted
    rw [cancelled]
    exact (tracked.aborted event (posts ▸ posted)).imp id shut
  · intro event isDeleted
    rw [cancelled]
    exact (tracked.deleted event (deleted ▸ isDeleted)).imp id shut
  · exact fun posted => shut (tracked.all (posts ▸ posted))
  · exact fun isStopped => shut (tracked.halted (stopped ▸ isStopped))

theorem addTask (address : Nat) : Tracked (world.addTask (.plain address)) := by
  rw [World.addTask]
  split_ifs with running
  · refine tracked.keep rfl rfl rfl rfl rfl rfl rfl (fun _ => id) (fun event => ?_) id
    simp [World.tasks, filterMap_cons, Task.event?]
  · exact tracked.keep rfl rfl rfl rfl rfl rfl rfl (fun _ => id) (fun _ => rfl) id

theorem shutdownDispatcher : Tracked world.shutdownDispatcher := by
  refine tracked.keep rfl rfl rfl rfl rfl rfl rfl (fun _ => id) (fun event => ?_) id
  simp [World.shutdownDispatcher, World.tasks, filterMap_cons, Task.event?]

theorem swap : Tracked world.swap := by
  refine tracked.keep rfl rfl rfl rfl rfl rfl rfl (fun _ => id) (fun event => ?_) id
  simp [World.swap, World.tasks, Nat.add_comm]

theorem execute : Tracked world.execute := by
  rw [World.execute]
  cases isTmp : world.tmpTaskList with
  | nil => exact tracked
  | cons task tasks =>
    cases task with
    | ofEvent event =>
      refine tracked.keep rfl rfl rfl rfl rfl rfl rfl (fun _ => mem_cons_of_mem _)
        (fun other => ?_) id
      simp only [World.tasks, isTmp, cons_append, filterMap_cons, Task.event?,
        count_cons]
      omega
    | plain address =>
      refine tracked.keep rfl rfl rfl rfl rfl rfl rfl (fun _ => id) (fun event => ?_) id
      simp [World.tasks, isTmp, filterMap_cons, Task.event?]
    | shutdown =>
      refine tracked.keep rfl rfl rfl rfl rfl rfl rfl (fun _ => id) (fun event => ?_)
        (fun shut => .inr (by simp))
      simp [World.tasks, isTmp, filterMap_cons, Task.event?]

theorem shutdownScheduler : Tracked world.shutdownScheduler := by
  have shut : world.shutdownScheduler.shutDown := .inl (by simp [World.shutdownScheduler])
  constructor
  · intro event
    have placed := tracked.placed event
    rw [count_places] at placed ⊢
    simpa [World.shutdownScheduler, World.inserts, World.waiting, World.expireds, World.tasks,
      filterMap_cons, Handler.insert?, Handler.expired?] using placed
  · exact tracked.ids
  · exact tracked.issued
  · exact tracked.named
  · intro eventId
    simpa [World.shutdownScheduler, World.waiting, World.expireds, filterMap_cons,
      Handler.expired?] using tracked.timed eventId
  · exact fun event cancelled => doomed_post (tracked.doomed event cancelled)
  · intro eventId posted
    exact tracked.stopped eventId (by simpa [World.shutdownScheduler] using posted)
  · exact fun _ _ => .inr shut
  · exact fun _ _ => .inr shut
  · exact fun _ => shut
  · exact fun _ => shut

theorem expire (waits : event ∈ world.waiting)
    (inTime : .cancel event.eventId ∉ world.posts) : Tracked (world.expire event) := by
  -- the event is waited for once, and that is the only wait that ends
  have cancels := count_cancel (fun timer => timer.waiting = some event) world.timers
  have ended (other : Event) :
      (((world.timers.filter fun timer => timer.waiting = some event).flatMap
        Timer.aborts).filterMap Handler.expired?).count other = if event = other then 1 else 0 := by
    have once := tracked.once event
    have here := count_pos_iff.mpr waits
    have onlyIt : ∀ ended ∈ ((world.timers.filter fun timer => timer.waiting = some event).flatMap
        Timer.aborts).filterMap Handler.expired?, ended = event := by
      intro ended member
      obtain ⟨handler, posted, isExpired⟩ := mem_filterMap.mp member
      obtain ⟨timer, -, isIt, _, waited, rfl⟩ := (mem_aborts _ _ _).mp posted
      rw [isIt] at waited
      rw [Option.some.inj waited]
      exact (Option.some.inj isExpired).symm
    have gone : event ∉ (world.timers.map fun timer =>
        if timer.waiting = some event then timer.cancel else timer).filterMap Timer.waiting := by
      intro member
      obtain ⟨timer, present, isWaiting⟩ := mem_filterMap.mp member
      obtain ⟨old, -, rfl⟩ := mem_map.mp present
      split_ifs at isWaiting with isIt
      · cases isWaiting
      · exact isIt isWaiting
    by_cases same : event = other
    · subst same
      have total := cancels event
      rw [List.count_eq_zero_of_not_mem gone] at total
      rw [if_pos rfl]
      have waited : world.waiting.count event =
        (world.timers.filterMap Timer.waiting).count event := rfl
      omega
    · rw [if_neg same, List.count_eq_zero]
      intro member
      exact same (onlyIt other member).symm
  have moved (other : Event) : (world.expire event).waiting.count other +
      (if event = other then 1 else 0) = world.waiting.count other := by
    rw [← ended other]
    exact cancels other
  have appended (other : Event) : (world.expire event).expireds.count other =
      world.expireds.count other + if event = other then 1 else 0 := by
    simp only [World.expire, World.expireds, filterMap_append, filterMap_cons,
      filterMap_nil, Handler.expired?, count_append, count_cons, count_nil,
      beq_iff_eq, Nat.zero_add]
  constructor
  · intro other
    have placed := tracked.placed other
    have moved := moved other
    have inserts : (world.expire event).inserts = world.inserts := by
      simp [World.expire, World.inserts, filterMap_cons, Handler.insert?]
    have tasks : (world.expire event).tasks = world.tasks := rfl
    have executed : (world.expire event).executed = world.executed := rfl
    have deleted : (world.expire event).deleted = world.deleted := rfl
    have added : (world.expire event).added = world.added := rfl
    rw [count_places] at placed ⊢
    rw [inserts, appended other, tasks, executed, deleted, added]
    omega
  · exact tracked.ids
  · exact tracked.issued
  · intro timer member other waited
    obtain ⟨old, present, rfl⟩ := mem_map.mp member
    split_ifs at waited ⊢ with isIt
    · cases waited
    · exact tracked.named old present other waited
  · intro eventId
    have perm : ((world.expire event).waiting ++ (world.expire event).expireds).Perm
        (world.waiting ++ world.expireds) := by
      rw [List.perm_iff_count]
      intro other
      rw [count_append, count_append, appended other, ← moved other]
      omega
    have names := eventIds_cancel (fun timer => timer.waiting = some event) world.timers
    rw [(perm.map Event.eventId).count_eq, ← tracked.timed eventId]
    exact congrArg (List.count eventId) names
  · intro other cancelled
    rcases tracked.doomed other cancelled with deleted | aborted | ⟨still, cancel⟩ | both
    · exact .inl deleted
    · exact .inr (.inl (mem_append_left _ aborted))
    · have apart : other ≠ event := by
        rintro rfl
        exact inTime cancel
      have still : other ∈ (world.expire event).waiting := by
        rw [← count_pos_iff]
        have := moved other
        have := count_pos_iff.mpr still
        rw [if_neg apart.symm] at *
        omega
      exact .inr (.inr (.inl ⟨still, mem_append_left _ cancel⟩))
    · exact .inr (.inr (.inr (insertThenCancel_append _ both)))
  · intro eventId posted
    exact tracked.stopped eventId (by simpa [World.expire] using posted)
  · intro other posted
    exact tracked.aborted other (by simpa [World.expire] using posted)
  · exact tracked.deleted
  · intro posted
    exact tracked.all (by simpa [World.expire] using posted)
  · exact tracked.halted

theorem untimed (posted : event ∈ world.inserts) :
    ∀ timer ∈ world.timers, timer.eventId ≠ event.eventId := by
  intro timer member same
  have isName : timer.eventId ∈ world.timers.map Timer.eventId := List.mem_map_of_mem member
  have counted := count_pos_iff.mpr isName
  rw [tracked.timed timer.eventId, count_pos_iff, same] at counted
  obtain ⟨other, present, sameId⟩ := mem_map.mp counted
  have added {event : Event} (at_ : event ∈ world.inserts ∨ event ∈ world.waiting ∨
      event ∈ world.expireds) : event ∈ world.added := by
    rw [tracked.mem_added_iff]
    simp only [World.places, mem_append]
    tauto
  have otherAdded : other ∈ world.added := added (.inr (mem_append.mp present))
  obtain rfl := tracked.unique otherAdded (added (.inl posted)) sameId
  have once := tracked.once other
  have := count_pos_iff.mpr posted
  rcases mem_append.mp present with waits | expired
  · have := count_pos_iff.mpr waits
    omega
  · have := count_pos_iff.mpr expired
    omega

variable {aborted : Bool} {posts : List Handler}

theorem startTimer_eq (isPosts : world.posts = .insert event :: posts) :
    { world with posts := posts }.startTimer event =
      { world with posts := posts, timers := world.timers ++ [⟨event.eventId, some event⟩] } := by
  have posted : event ∈ world.inserts := by
    rw [mem_inserts, isPosts]
    exact mem_cons_self
  rw [World.startTimer, if_neg]
  intro any
  obtain ⟨timer, member, same⟩ := List.any_eq_true.mp any
  exact tracked.untimed posted timer member (of_decide_eq_true same)

theorem runNext_insert (isPosts : world.posts = .insert event :: posts) :
    Tracked ({ world with posts := posts }.startTimer event) := by
  rw [tracked.startTimer_eq isPosts]
  have later {handler : Handler} (member : handler ∈ posts) : handler ∈ world.posts := by
    rw [isPosts]
    exact mem_cons_of_mem _ member
  constructor
  · intro other
    have placed := tracked.placed other
    rw [count_places] at placed ⊢
    simp only [World.inserts, World.waiting, World.expireds, World.tasks, isPosts,
      filterMap_append, filterMap_cons, filterMap_nil, Handler.insert?,
      Handler.expired?, count_append, count_cons, count_nil] at placed ⊢
    omega
  · exact tracked.ids
  · exact tracked.issued
  · intro timer member other waited
    rcases mem_append.mp member with old | new
    · exact tracked.named timer old other waited
    · obtain rfl := List.mem_singleton.mp new
      rw [Option.some.inj waited]
  · intro eventId
    have timed := tracked.timed eventId
    simp only [World.waiting, World.expireds, isPosts, filterMap_append, filterMap_cons,
      filterMap_nil, Handler.expired?, List.map_append, map_cons, map_nil,
      count_append, count_cons, count_nil] at timed ⊢
    omega
  · intro other cancelled
    rcases tracked.doomed other cancelled with deleted | aborted | ⟨waits, cancel⟩ | both
    · exact .inl deleted
    · rw [isPosts] at aborted
      exact .inr (.inl (by simpa using aborted))
    · rw [isPosts] at cancel
      refine .inr (.inr (.inl ⟨?_, by simpa using cancel⟩))
      rw [World.waiting, filterMap_append]
      exact mem_append_left _ waits
    · rw [isPosts] at both
      rcases both with ⟨rfl, cancel⟩ | further
      · refine .inr (.inr (.inl ⟨?_, cancel⟩))
        rw [World.waiting, filterMap_append]
        exact mem_append_right _ mem_cons_self
      · exact .inr (.inr (.inr further))
  · exact fun eventId posted => tracked.stopped eventId (later posted)
  · exact fun other posted => tracked.aborted other (later posted)
  · exact tracked.deleted
  · exact fun posted => tracked.all (later posted)
  · exact tracked.halted

theorem runNext_cancel {head : Handler}
    (isPosts : world.posts = head :: posts) (which : Timer → Prop) [DecidablePred which]
    (neither : head.insert? = none ∧ head.expired? = none) (stopped : Bool)
    (meant : ∀ timer ∈ world.timers, ∀ event, which timer → timer.waiting = some event →
      event ∈ world.cancelled ∨ world.shutDown)
    (kept : ∀ eventId, .cancel eventId ∈ head :: posts → .cancel eventId ∈ posts ∨
      ∀ timer ∈ world.timers, timer.eventId = eventId → which timer)
    (shut : stopped = true → world.shutDown) :
    Tracked { world with
      timers := world.timers.map fun timer => if which timer then timer.cancel else timer
      posts := posts ++ (world.timers.filter which).flatMap Timer.aborts
      stopped := stopped } := by
  have later {handler : Handler} (member : handler ∈ posts) : handler ∈ world.posts := by
    rw [isPosts]
    exact mem_cons_of_mem _ member
  have ofPosts {handler : Handler} (notAborted : ∀ event, handler ≠ .expired event true)
      (member : handler ∈ posts ++ (world.timers.filter which).flatMap Timer.aborts) :
      handler ∈ world.posts := by
    rcases mem_append.mp member with old | new
    · exact later old
    · obtain ⟨_, _, _, event, _, same⟩ := (mem_aborts _ _ _).mp new
      exact absurd same (notAborted event)
  have cancels := count_cancel which world.timers
  have noInserts := inserts_aborts which world.timers
  constructor
  · intro other
    have placed := tracked.placed other
    have cancels := cancels other
    rw [count_places] at placed ⊢
    simp only [World.inserts, World.waiting, World.expireds, World.tasks, isPosts,
      filterMap_append, filterMap_cons, neither.1, neither.2, noInserts,
      append_nil, count_append] at placed cancels ⊢
    omega
  · exact tracked.ids
  · exact tracked.issued
  · intro timer member other waited
    obtain ⟨old, present, rfl⟩ := mem_map.mp member
    split_ifs at waited ⊢ with isIt
    · cases waited
    · exact tracked.named old present other waited
  · intro eventId
    have perm : ((world.timers.map fun timer => if which timer then timer.cancel
        else timer).filterMap Timer.waiting ++ (posts ++ (world.timers.filter which).flatMap
          Timer.aborts).filterMap Handler.expired?).Perm (world.waiting ++ world.expireds) := by
      rw [List.perm_iff_count]
      intro other
      have cancels := cancels other
      simp only [World.waiting, World.expireds, isPosts, filterMap_append,
        filterMap_cons, neither.2, count_append] at cancels ⊢
      omega
    have names := eventIds_cancel which world.timers
    have counted := (perm.map Event.eventId).count_eq eventId
    rw [← tracked.timed eventId] at counted
    refine .trans (congrArg (List.count eventId) names) ?_
    exact counted.symm
  · intro other cancelled
    rcases tracked.doomed other cancelled with deleted | aborted | ⟨waits, cancel⟩ | both
    · exact .inl deleted
    · rw [isPosts] at aborted
      rcases mem_cons.mp aborted with rfl | aborted
      · cases neither.2
      · exact .inr (.inl (mem_append_left _ aborted))
    · obtain ⟨timer, member, waited⟩ := mem_waiting.mp waits
      have name := tracked.named timer member other waited
      by_cases isIt : which timer
      · refine .inr (.inl (mem_append_right _ ?_))
        exact (mem_aborts _ _ _).mpr ⟨timer, member, isIt, other, waited, rfl⟩
      · rw [isPosts] at cancel
        rcases kept other.eventId cancel with further | all
        · refine .inr (.inr (.inl ⟨?_, mem_append_left _ further⟩))
          refine mem_filterMap.mpr ⟨timer, mem_map.mpr ⟨timer, member, ?_⟩, waited⟩
          rw [if_neg isIt]
        · exact absurd (all timer member name) isIt
    · rw [isPosts] at both
      refine .inr (.inr (.inr (insertThenCancel_append _ ?_)))
      cases head with
      | insert _ => cases neither.1
      | _ => exact both
  · intro eventId posted
    exact tracked.stopped eventId (ofPosts (fun _ => by simp) posted)
  · intro other posted
    rcases mem_append.mp posted with old | new
    · exact tracked.aborted other (later old)
    · obtain ⟨timer, member, isIt, event, waited, same⟩ := (mem_aborts _ _ _).mp new
      obtain rfl : other = event := by simpa using same
      exact meant timer member other isIt waited
  · exact tracked.deleted
  · intro posted
    exact tracked.all (ofPosts (fun _ => by simp) posted)
  · exact shut

theorem eraseTimer_expired (expired : event ∈ world.expireds) :
    (world.timers.filter fun timer => timer.eventId = event.eventId).flatMap Timer.aborts = [] ∧
      (world.timers.filter fun timer => timer.eventId ≠ event.eventId).filterMap Timer.waiting =
        world.waiting := by
  have free : ∀ timer ∈ world.timers, timer.eventId = event.eventId → timer.waiting = none := by
    intro timer member same
    cases waited : timer.waiting with
    | none => rfl
    | some other =>
      have waits : other ∈ world.waiting := mem_waiting.mpr ⟨timer, member, waited⟩
      have name := tracked.named timer member other waited
      exact absurd (name.symm.trans same) (tracked.eq_of_timed waits expired)
  constructor
  · rw [List.eq_nil_iff_forall_not_mem]
    intro handler member
    obtain ⟨timer, present, same, _, waited, -⟩ := (mem_aborts _ _ _).mp member
    rw [free timer present same] at waited
    cases waited
  · rw [World.waiting, List.filterMap_filter]
    refine List.filterMap_congr fun timer member => ?_
    by_cases same : timer.eventId = event.eventId
    · rw [free timer member same]
      simp [same]
    · simp [same]

theorem eventId_ne (isPosts : world.posts = .expired event aborted :: posts)
    (at_ : other ∈ world.waiting ∨ other ∈ posts.filterMap Handler.expired?) :
    other.eventId ≠ event.eventId := by
  intro same
  have once := tracked.once event
  simp only [World.expireds, isPosts, filterMap_cons, Handler.expired?,
    List.count_cons_self] at once
  have isPlaced : other ∈ world.added ∧ event ∈ world.added := by
    rw [tracked.mem_added_iff, tracked.mem_added_iff]
    simp only [World.places, World.expireds, isPosts, filterMap_cons, Handler.expired?,
      mem_append, mem_cons]
    tauto
  obtain rfl := tracked.unique isPlaced.1 isPlaced.2 same
  rcases at_ with waits | expired
  · have := count_pos_iff.mpr waits
    omega
  · have := count_pos_iff.mpr expired
    omega

theorem leave (isPosts : world.posts = .expired event aborted :: posts) {after : World}
    (isPosts' : after.posts = posts)
    (timers : after.timers = world.timers.filter fun timer => timer.eventId ≠ event.eventId)
    (last : after.lastEventId = world.lastEventId) (added : after.added = world.added)
    (cancelled : after.cancelled = world.cancelled) (executed : after.executed = world.executed)
    (stopped : after.stopped = world.stopped)
    (moved : ∀ other, after.tasks.count other + after.deleted.count other =
      world.tasks.count other + world.deleted.count other + if event = other then 1 else 0)
    (keeps : ∀ other ∈ world.deleted, other ∈ after.deleted)
    (deletes : ∀ other ∈ after.deleted, other ∈ world.deleted ∨
      other = event ∧ (event ∈ world.cancelled ∨ world.shutDown))
    (stays : aborted = true → event ∈ after.deleted) (shut : world.shutDown ↔ after.shutDown) :
    Tracked after := by
  have expired : event ∈ world.expireds := by
    rw [mem_expireds, isPosts]
    exact ⟨aborted, mem_cons_self⟩
  have later {handler : Handler} (member : handler ∈ posts) : handler ∈ world.posts := by
    rw [isPosts]
    exact mem_cons_of_mem _ member
  obtain ⟨-, waiting⟩ := tracked.eraseTimer_expired expired
  have waits : after.waiting = world.waiting := by
    rw [World.waiting, timers, waiting]
  constructor
  · intro other
    have placed := tracked.placed other
    have moved := moved other
    rw [count_places] at placed ⊢
    rw [waits, executed, added]
    simp only [World.inserts, World.expireds, isPosts', isPosts, filterMap_cons,
      Handler.insert?, Handler.expired?, count_cons, beq_iff_eq] at placed ⊢
    omega
  · rw [added]
    exact tracked.ids
  · rw [added, last]
    exact tracked.issued
  · rw [timers]
    exact fun timer member => tracked.named timer (mem_filter.mp member).1
  · intro eventId
    have timed := tracked.timed eventId
    have filtered : (world.timers.filter fun timer => timer.eventId ≠ event.eventId).map
        Timer.eventId = (world.timers.map Timer.eventId).filter (· ≠ event.eventId) := by
      rw [List.filter_map]
      rfl
    rw [timers, waits, filtered]
    simp only [World.expireds, isPosts', isPosts, filterMap_cons, Handler.expired?,
      List.map_append, map_cons, count_append, count_cons, beq_iff_eq] at timed ⊢
    by_cases here : event.eventId = eventId
    · subst here
      rw [List.count_eq_zero_of_not_mem, List.count_eq_zero_of_not_mem,
        List.count_eq_zero_of_not_mem]
      · intro member
        obtain ⟨old, present, same⟩ := mem_map.mp member
        exact tracked.eventId_ne isPosts (.inr present) same
      · intro member
        obtain ⟨old, present, same⟩ := mem_map.mp member
        exact tracked.eventId_ne isPosts (.inl present) same
      · intro member
        exact of_decide_eq_true (mem_filter.mp member).2 rfl
    · rw [if_neg here, Nat.add_zero] at timed
      have others : ((world.timers.map Timer.eventId).filter (· ≠ event.eventId)).count eventId =
          (world.timers.map Timer.eventId).count eventId :=
        List.count_filter (decide_eq_true fun same => here same.symm)
      rw [others, timed]
  · intro other stop
    rcases tracked.doomed other (cancelled ▸ stop) with isDeleted | posted | ⟨still, cancel⟩ | both
    · exact .inl (keeps other isDeleted)
    · rw [isPosts] at posted
      rcases mem_cons.mp posted with same | further
      · simp only [Handler.expired.injEq] at same
        rw [same.1]
        exact .inl (stays same.2.symm)
      · exact .inr (.inl (isPosts' ▸ further))
    · rw [isPosts] at cancel
      refine .inr (.inr (.inl ⟨waits ▸ still, ?_⟩))
      rw [isPosts']
      simpa using cancel
    · rw [isPosts] at both
      exact .inr (.inr (.inr (isPosts' ▸ both)))
  · intro eventId posted
    rw [isPosts'] at posted
    rw [last, added, cancelled, executed]
    exact tracked.stopped eventId (later posted)
  · intro other posted
    rw [isPosts'] at posted
    rw [cancelled, ← shut]
    exact tracked.aborted other (later posted)
  · intro other isDeleted
    rw [cancelled, ← shut]
    rcases deletes other isDeleted with before | ⟨rfl, why⟩
    · exact tracked.deleted other before
    · exact why
  · intro posted
    rw [isPosts'] at posted
    exact shut.mp (tracked.all (later posted))
  · intro isStopped
    rw [stopped] at isStopped
    exact shut.mp (tracked.halted isStopped)

theorem runNext_expired (isPosts : world.posts = .expired event aborted :: posts) :
    Tracked ({ world with posts := posts }.onExpired event aborted) := by
  have posted : .expired event aborted ∈ world.posts := by
    rw [isPosts]
    exact mem_cons_self
  have expired : event ∈ world.expireds := mem_expireds.mpr ⟨aborted, posted⟩
  have noAborts := (tracked.eraseTimer_expired expired).1
  rw [World.onExpired, World.eraseTimer, World.addTask]
  simp only [noAborts, append_nil]
  split_ifs with deleted running
  · refine tracked.leave isPosts rfl rfl rfl rfl rfl rfl rfl (fun other => ?_)
      (fun _ => mem_cons_of_mem _) (fun other member => ?_) (fun _ => mem_cons_self)
      .rfl
    · simp only [World.tasks, count_cons, beq_iff_eq]
      omega
    · rcases mem_cons.mp member with rfl | before
      · refine .inr ⟨rfl, ?_⟩
        rcases Bool.or_eq_true_iff.mp deleted with wasAborted | terminated
        · exact tracked.aborted other (wasAborted ▸ posted)
        · exact .inr (.inl (by simp [of_decide_eq_true terminated]))
      · exact .inl before
  · refine tracked.leave isPosts rfl rfl rfl rfl rfl rfl rfl (fun other => ?_)
      (fun _ => id) (fun _ => .inl) (fun wasAborted => ?_) .rfl
    · simp only [World.tasks, filterMap_append, filterMap_cons, filterMap_nil,
        Task.event?, count_append, count_cons, count_nil, beq_iff_eq]
      omega
    · rw [wasAborted] at deleted
      exact absurd rfl deleted
  · refine tracked.leave isPosts rfl rfl rfl rfl rfl rfl rfl (fun other => ?_)
      (fun _ => mem_cons_of_mem _) (fun other member => ?_) (fun _ => mem_cons_self)
      .rfl
    · simp only [World.tasks, Task.event?, Option.toList_some, cons_append, List.nil_append,
        count_cons, beq_iff_eq]
      omega
    · rcases mem_cons.mp member with rfl | before
      · exact .inr ⟨rfl, .inr (.inr running)⟩
      · exact .inl before

theorem runNext : Tracked world.runNext := by
  rw [World.runNext]
  cases isPosts : world.posts with
  | nil => exact tracked
  | cons handler posts =>
    have here : handler ∈ world.posts := by
      rw [isPosts]
      exact mem_cons_self
    cases handler with
    | insert event => exact tracked.runNext_insert isPosts
    | expired event aborted => exact tracked.runNext_expired isPosts
    | cancel eventId =>
      refine tracked.runNext_cancel isPosts (fun timer => timer.eventId = eventId) ⟨rfl, rfl⟩
        world.stopped (fun timer member event same waited => ?_) (fun other posted => ?_)
        tracked.halted
      · have waits : event ∈ world.waiting := mem_waiting.mpr ⟨timer, member, waited⟩
        have once := tracked.once event
        have := count_pos_iff.mpr waits
        have added : event ∈ world.added := by
          rw [tracked.mem_added_iff]
          simp only [World.places, mem_append]
          tauto
        have name := tracked.named timer member event waited
        rcases (tracked.stopped eventId here).2 event added (name.symm.trans same) with
          cancelled | executed
        · exact .inl cancelled
        · have := count_pos_iff.mpr executed
          omega
      · rcases mem_cons.mp posted with same | further
        · simp only [Handler.cancel.injEq] at same
          exact .inr fun timer _ name => name.trans same
        · exact .inl further
    | cancelAll =>
      have shut := tracked.all here
      have cancelled := tracked.runNext_cancel isPosts (fun _ => True) ⟨rfl, rfl⟩ true
        (fun _ _ _ _ _ => .inr shut) (fun _ _ => .inr fun _ _ _ => trivial) fun _ => shut
      simp only [if_true, decide_true, List.filter_true] at cancelled
      exact cancelled

end

end Tracked

variable {world : World}

/-- **Every step in time** leaves the events tracked. -/
theorem step_tracked (tracked : Tracked world) {op : Op}
    (isLegal : legal world op) (inTime : InTime world op) : Tracked (step world op) := by
  cases op with
  | addEvent task => exact tracked.addEvent isLegal inTime
  | stopEvent eventId => exact tracked.stopEvent isLegal inTime
  | addTask address => exact tracked.addTask address
  | shutdownScheduler => exact tracked.shutdownScheduler
  | shutdownDispatcher => exact tracked.shutdownDispatcher
  | closeScheduler =>
    exact tracked.keep rfl rfl rfl rfl rfl rfl rfl (fun _ => id) (fun _ => rfl)
      fun _ => .inl (by simp [step])
  | closeDispatcher =>
    exact tracked.keep rfl rfl rfl rfl rfl rfl rfl (fun _ => id) (fun _ => rfl)
      fun _ => .inr (by simp [step])
  | runNext => exact tracked.runNext
  | expire event => exact tracked.expire isLegal.2 inTime
  | swap => exact tracked.swap
  | execute => exact tracked.execute

/-! ## The work that is left -/

/-- How many steps the threads can make on their own, at most. -/
def World.work (world : World) : Nat :=
  world.posts.length + 5 * world.inserts.length + 3 * world.expireds.length +
    5 * world.waiting.length + 2 * world.taskList.length + world.tmpTaskList.length

/-- The threads have nothing left to do. -/
def Idle (world : World) : Prop := ∀ op, op.own = true → ¬ legal world op

theorem work_cancel {world after : World} {head : Handler} {posts : List Handler}
    (isPosts : world.posts = head :: posts) (which : Timer → Prop) [DecidablePred which]
    (isTimers : after.timers =
      world.timers.map fun timer => if which timer then timer.cancel else timer)
    (isPosts' : after.posts = posts ++ (world.timers.filter which).flatMap Timer.aborts)
    (taskList : after.taskList = world.taskList) (tmp : after.tmpTaskList = world.tmpTaskList) :
    after.work < world.work := by
  have moved := (cancel_perm which world.timers).length_eq
  rw [length_append, length_aborts] at moved
  have headParts : (head :: posts).filterMap Handler.insert? =
      [head].filterMap Handler.insert? ++ posts.filterMap Handler.insert? ∧
      (head :: posts).filterMap Handler.expired? =
        [head].filterMap Handler.expired? ++ posts.filterMap Handler.expired? := by
    rw [← filterMap_append, ← filterMap_append]
    exact ⟨rfl, rfl⟩
  simp only [World.work, World.inserts, World.expireds, World.waiting, isPosts', isTimers,
    taskList, tmp, headParts.1, headParts.2, filterMap_append, inserts_aborts,
    length_append, length_nil, length_aborts, isPosts, length_cons]
  omega

theorem work_step (tracked : Tracked world) {op : Op} (own : op.own = true)
    (isLegal : legal world op) : (step world op).work < world.work := by
  cases op with
  | runNext =>
    obtain ⟨head, posts, isPosts⟩ := List.exists_cons_of_ne_nil isLegal.2
    rw [step, World.runNext, isPosts]
    dsimp only
    cases head with
    | insert event =>
      rw [World.runHandler, tracked.startTimer_eq isPosts]
      simp only [World.work, World.inserts, World.expireds, World.waiting, isPosts,
        filterMap_append, filterMap_cons, filterMap_nil, Handler.insert?,
        Handler.expired?, length_append, length_cons, length_nil]
      omega
    | cancel eventId => exact work_cancel isPosts (·.eventId = eventId) rfl rfl rfl rfl
    | cancelAll =>
      refine work_cancel isPosts (fun _ => True) ?_ ?_ rfl rfl
      · rfl
      · simp only [decide_true, List.filter_true]
        rfl
    | expired event aborted =>
      have expired : event ∈ world.expireds := by
        rw [Tracked.mem_expireds, isPosts]
        exact ⟨aborted, mem_cons_self⟩
      obtain ⟨noAborts, waiting⟩ := tracked.eraseTimer_expired expired
      have bound (tasks : List Task) (fewer : tasks.length ≤ world.taskList.length + 1)
          (deleted : List Event) :
          World.work { world with
            posts := posts
            timers := world.timers.filter fun timer => timer.eventId ≠ event.eventId
            taskList := tasks
            deleted := deleted } < world.work := by
        simp only [World.work, World.inserts, World.expireds, isPosts, filterMap_cons,
          Handler.insert?, Handler.expired?, length_cons]
        rw [World.waiting, waiting]
        omega
      rw [World.runHandler, World.onExpired, World.eraseTimer, World.addTask]
      simp only [noAborts, append_nil]
      split_ifs
      · exact bound _ (Nat.le_succ _) _
      · exact bound _ (by simp) _
      · exact bound _ (Nat.le_succ _) _
  | expire event =>
    obtain ⟨timer, member, waited⟩ := Tracked.mem_waiting.mp isLegal.2
    have moved := (cancel_perm (fun timer => timer.waiting = some event) world.timers).length_eq
    have some_ : 0 < (((world.timers.filter fun timer => timer.waiting = some event).flatMap
        Timer.aborts).filterMap Handler.expired?).length := by
      rw [length_aborts, List.length_pos_iff_exists_mem]
      exact ⟨_, (mem_aborts _ _ _).mpr ⟨timer, member, waited, event, waited, rfl⟩⟩
    simp only [step, World.expire, World.work, World.inserts, World.expireds, World.waiting,
      filterMap_append, filterMap_cons, filterMap_nil, Handler.insert?,
      Handler.expired?, length_append, length_cons, length_nil] at moved ⊢
    omega
  | swap =>
    obtain ⟨-, isNil, notNil⟩ := isLegal
    have := List.length_pos_iff.mpr notNil
    simp only [step, World.swap, World.work, World.inserts, World.expireds, World.waiting, isNil,
      length_nil]
    omega
  | execute =>
    cases isTmp : world.tmpTaskList with
    | nil => exact absurd isTmp isLegal
    | cons task tasks =>
      cases task <;>
      · simp only [step, World.execute, World.work, World.inserts, World.expireds,
          World.waiting, isTmp, length_cons]
        omega
  | _ => cases own

theorem Tracked.delivered (tracked : Tracked world) (idle : Idle world)
    {event : Event} (member : event ∈ world.added) :
    event ∈ world.executed ∨ event ∈ world.cancelled ∨ world.shutDown := by
  -- a handler or a timer is left only when the scheduler has ended
  have stopped (left : legal world .runNext ∨ legal world (.expire event) ∨
      world.stopped = true) : world.shutDown := by
    rcases left with handler | timer | stopped
    · exact absurd handler (idle _ rfl)
    · exact absurd timer (idle _ rfl)
    · exact tracked.halted stopped
  have posts {handler : Handler} (posted : handler ∈ world.posts) : world.shutDown := by
    apply stopped
    cases isStopped : world.stopped with
    | true => exact .inr (.inr rfl)
    | false => exact .inl ⟨isStopped, ne_nil_of_mem posted⟩
  rcases tracked.sound.kept event member with executed | cancelled | shut | pending
  · exact .inl executed
  · exact .inr (.inl cancelled)
  · exact .inr (.inr shut)
  refine .inr (.inr ?_)
  rcases pending with posted | waits | posted | given | taken
  · exact posts posted
  · apply stopped
    cases isStopped : world.stopped with
    | true => exact .inr (.inr rfl)
    | false => exact .inr (.inl ⟨isStopped, waits⟩)
  · exact posts posted
  · by_cases isNil : world.tmpTaskList = []
    · by_cases terminated : world.dispatcherState = .terminated
      · exact .inr (by simp [terminated])
      · exact absurd ⟨terminated, isNil, ne_nil_of_mem given⟩ (idle .swap rfl)
    · exact absurd isNil (idle .execute rfl)
  · exact absurd (ne_nil_of_mem taken) (idle .execute rfl)

/-- **A stopped event never runs** when it is stopped in time. In every run in which ids are
left, no event is stopped whose timer has expired, and no timer expires while its event is
being stopped, the queues keep their promise after each step. Left alone, the two threads
come to an end, and by then each event was executed, or was stopped, or the system shut
down. -/
theorem stops_sound {ops : List Op} (isLegal : system.Legal {} ops)
    (inTime : system.Throughout (fun before op _ => InTime before op) {} ops) :
    system.Throughout (fun _ _ after => Sound after) {} ops ∧
      ∀ own, system.Legal (system.run {} ops) own →
        system.Throughout (fun before op _ => op.own = true ∧ InTime before op)
          (system.run {} ops) own →
        own.length ≤ (system.run {} ops).work ∧
          (Idle (system.run (system.run {} ops) own) →
            ∀ event ∈ (system.run (system.run {} ops) own).added,
              event ∈ (system.run (system.run {} ops) own).executed ∨
              event ∈ (system.run (system.run {} ops) own).cancelled ∨
              (system.run (system.run {} ops) own).shutDown) := by
  have stepTracked (before : World) (op : Op) (tracked : Tracked before)
      (isLegal : system.legal before op) (inTime : InTime before op) :
      Tracked (system.step before op) := step_tracked tracked isLegal inTime
  have reached : Tracked (system.run {} ops) :=
    System.run_invariant stepTracked .empty isLegal inTime
  constructor
  · refine .of_invariant (fun before op tracked isLegal inTime => ?_)
      Tracked.empty isLegal inTime
    have after := stepTracked before op tracked isLegal inTime
    exact ⟨after.sound, after⟩
  · intro own ownLegal ownSteps
    constructor
    · refine System.length_le_of_decreases (fun before op tracked isLegal inTime => ?_)
        reached ownLegal ownSteps
      exact ⟨stepTracked before op tracked isLegal inTime.2, work_step tracked inTime.1 isLegal⟩
    · intro idle event member
      have final : Tracked (system.run (system.run {} ops) own) :=
        System.run_invariant (fun before op tracked isLegal inTime =>
          stepTracked before op tracked isLegal inTime.2) reached ownLegal ownSteps
      exact final.delivered idle member

/-- One event is executed, another is stopped in time. -/
theorem stops_sound_twoEvents : Sound (system.run {} [.addEvent ⟨1, 0⟩, .addEvent ⟨2, 0⟩, .runNext,
    .runNext, .stopEvent 2, .expire ⟨1, 1⟩, .runNext, .runNext, .runNext, .swap, .execute]) := by
  have steps := (@stops_sound [.addEvent ⟨1, 0⟩, .addEvent ⟨2, 0⟩, .runNext, .runNext, .stopEvent 2,
    .expire ⟨1, 1⟩, .runNext, .runNext, .runNext, .swap, .execute] (by decide) (by decide)).1
  exact steps.2.2.2.2.2.2.2.2.2.2.1

/-- The timer has expired and the dispatcher has the task when the event is stopped: it is
executed all the same. -/
theorem stopped_after_expiry : ¬ ∀ ops, system.Legal {} ops →
    system.Throughout (fun _ _ after => Sound after) {} ops := by
  intro always
  have sound := always [.addEvent ⟨1, 0⟩, .runNext, .expire ⟨1, 1⟩, .runNext, .stopEvent 1, .swap,
    .execute] (by decide)
  have stopped := sound.2.2.2.2.2.2.1.never ⟨1, 1⟩ (by decide)
  exact stopped (by decide)

end Otserv.Scheduling

import Otserv.Network.OutputPool

/-!
# One chain of timers

A registered protocol should be listed once, one event for `sendAll` be pending while there are
registered protocols and never two, and what a protocol wrote be handed over once and in order,
except for what is in its buffer (`Autosent`).

Whether an event is scheduled is decided from the list, which is empty between the last
`removeProtocolFromAutosend` and the event that is still to come. A protocol that is added then
starts another chain of events, and both go on (`autosends_iff`).
-/

namespace Otserv.Network

open Foundation
open Function (update update_self update_of_ne)

variable {Protocol : Type}

/-- What was handed over, and what is in the buffer. -/
def Output.onTheWay (output : Output) : List UInt8 :=
  output.sent.flatten ++ output.outputBuffer.getD []

structure Autosent [DecidableEq Protocol] (pool : OutputMessagePool Protocol) : Prop where
  single : pool.pending ≤ 1
  pending : (∃ protocol, pool.registered protocol = true) → pool.pending ≠ 0
  listed : ∀ protocol, pool.bufferedProtocols.count protocol =
    if pool.registered protocol then 1 else 0
  bytes : ∀ protocol, (pool.outputs protocol).onTheWay = (pool.outputs protocol).written

/-- A protocol is added to an empty list when no event is pending. -/
def AddsToIdle (pool : OutputMessagePool Protocol) : PoolOp Protocol → Prop
  | .add _ => pool.bufferedProtocols = [] → pool.pending = 0
  | .remove _ | .fire | .write .. | .send _ => True

/-! ## Outputs -/

namespace Output

variable (output : Output)

/-- Handing the buffer over loses and repeats nothing. -/
theorem onTheWay_send : output.send.onTheWay = output.onTheWay := by
  unfold send
  split
  next => rfl
  next buffer filled =>
    rw [onTheWay, onTheWay, filled, List.flatten_append, List.flatten_singleton]
    exact List.append_nil _

theorem written_send : output.send.written = output.written := by
  unfold send
  split <;> rfl

variable (size : Nat)

theorem onTheWay_getOutputBuffer : (output.getOutputBuffer size).onTheWay = output.onTheWay := by
  unfold getOutputBuffer
  split
  next empty =>
    rw [onTheWay, onTheWay, empty]
    rfl
  next buffer filled =>
    by_cases full : MAX_PROTOCOL_BODY_LENGTH < buffer.length + size
    · rw [if_pos full]
      refine .trans ?_ output.onTheWay_send
      have taken : output.send.outputBuffer = none := by
        rw [send, filled]
      rw [onTheWay, onTheWay, taken]
      rfl
    · rw [if_neg full]

theorem written_getOutputBuffer : (output.getOutputBuffer size).written = output.written := by
  unfold getOutputBuffer
  split
  next => rfl
  next buffer _ =>
    by_cases full : MAX_PROTOCOL_BODY_LENGTH < buffer.length + size
    · rw [if_pos full]
      exact output.written_send
    · rw [if_neg full]

theorem getOutputBuffer_isSome :
    ∃ buffer, (output.getOutputBuffer size).outputBuffer = some buffer := by
  unfold getOutputBuffer
  split
  next => exact ⟨[], rfl⟩
  next buffer filled =>
    by_cases full : MAX_PROTOCOL_BODY_LENGTH < buffer.length + size
    · rw [if_pos full]
      exact ⟨[], rfl⟩
    · rw [if_neg full]
      exact ⟨buffer, filled⟩

theorem onTheWay_append {output : Output} {buffer : List UInt8}
    (filled : output.outputBuffer = some buffer) (bytes : List UInt8) :
    (output.append bytes).onTheWay = output.onTheWay ++ bytes := by
  rw [onTheWay, onTheWay, append, filled]
  exact (List.append_assoc _ _ _).symm

end Output

/-! ## The pool -/

namespace OutputMessagePool

variable [DecidableEq Protocol] (pool : OutputMessagePool Protocol)

/-- What the loop of `sendAll` leaves as it is. -/
theorem sendBuffers_frame (protocols : List Protocol) :
    (pool.sendBuffers protocols).bufferedProtocols = pool.bufferedProtocols ∧
      (pool.sendBuffers protocols).pending = pool.pending ∧
        (pool.sendBuffers protocols).registered = pool.registered := by
  induction protocols generalizing pool with
  | nil => exact ⟨rfl, rfl, rfl⟩
  | cons protocol protocols ih => exact ih (pool.setOutput protocol _)

/-- A property of outputs that handing over keeps goes through the loop of `sendAll`. -/
theorem sendBuffers_outputs (property : Output → Prop)
    (kept : ∀ output : Output, property output → property output.send)
    (protocols : List Protocol) (holds : ∀ protocol, property (pool.outputs protocol)) :
    ∀ protocol, property ((pool.sendBuffers protocols).outputs protocol) := by
  induction protocols generalizing pool with
  | nil => exact holds
  | cons protocol protocols ih =>
    apply ih
    exact (Function.forall_update_iff pool.outputs fun _ output => property output).mpr
      ⟨kept _ (holds protocol), fun other _ => holds other⟩

variable {pool}

theorem empty_iff (listed : ∀ protocol, pool.bufferedProtocols.count protocol =
    if pool.registered protocol then 1 else 0) :
    pool.bufferedProtocols ≠ [] ↔ ∃ protocol, pool.registered protocol = true := by
  constructor
  · intro some
    obtain ⟨protocol, isListed⟩ := List.exists_mem_of_ne_nil _ some
    refine ⟨protocol, ?_⟩
    by_contra notRegistered
    have count := listed protocol
    rw [if_neg notRegistered, List.count_eq_zero] at count
    exact count isListed
  · rintro ⟨protocol, isRegistered⟩ none
    have count := listed protocol
    rw [none, if_pos isRegistered] at count
    cases count

end OutputMessagePool

namespace Autosent

variable [DecidableEq Protocol] {pool : OutputMessagePool Protocol}

section

variable (autosent : Autosent pool)
include autosent

variable (protocol : Protocol)

theorem setOutput {output : Output}
    (bytes : output.onTheWay = output.written) : Autosent (pool.setOutput protocol output) :=
  { autosent with
    bytes := (Function.forall_update_iff pool.outputs
      fun _ output => output.onTheWay = output.written).mpr
        ⟨bytes, fun other _ => autosent.bytes other⟩ }

theorem write (size : Nat) (bytes : List UInt8) : Autosent (pool.write protocol size bytes) := by
  apply autosent.setOutput
  obtain ⟨buffer, filled⟩ := (pool.outputs protocol).getOutputBuffer_isSome size
  rw [Output.onTheWay_append filled, Output.onTheWay_getOutputBuffer, autosent.bytes]
  exact congrArg (· ++ bytes) ((pool.outputs protocol).written_getOutputBuffer size).symm

/-- The buffer of one protocol is handed over. -/
theorem send : Autosent (pool.setOutput protocol (pool.outputs protocol).send) := by
  apply autosent.setOutput
  rw [Output.onTheWay_send, Output.written_send, autosent.bytes]

/-- **The event comes**, and is scheduled again while there are registered protocols. -/
theorem fire : Autosent pool.fire := by
  have only : pool.pending - 1 = 0 := by
    have single := autosent.single
    omega
  unfold OutputMessagePool.fire OutputMessagePool.sendAll
  extract_lets sent
  obtain ⟨list, pending, registered⟩ :=
    ({ pool with pending := pool.pending - 1 } : OutputMessagePool Protocol).sendBuffers_frame
      pool.bufferedProtocols
  have listed : ∀ protocol, sent.bufferedProtocols.count protocol =
      if sent.registered protocol then 1 else 0 := by
    intro protocol
    rw [list, registered]
    exact autosent.listed protocol
  have bytes : ∀ protocol,
      (sent.outputs protocol).onTheWay = (sent.outputs protocol).written := by
    refine OutputMessagePool.sendBuffers_outputs _
      (fun output => output.onTheWay = output.written) (fun output same => ?_)
      pool.bufferedProtocols autosent.bytes
    rw [Output.onTheWay_send, Output.written_send, same]
  have none : sent.pending = 0 := pending.trans only
  by_cases some : sent.bufferedProtocols ≠ []
  · rw [if_pos some]
    refine ⟨?_, fun _ => Nat.succ_ne_zero _, listed, bytes⟩
    exact Nat.le_of_eq (congrArg (· + 1) none)
  · rw [if_neg some]
    refine ⟨?_, fun isRegistered => ?_, listed, bytes⟩
    · rw [none]
      exact Nat.zero_le 1
    · exact absurd ((OutputMessagePool.empty_iff listed).mpr isRegistered) some

theorem remove : Autosent (pool.removeProtocolFromAutosend protocol) := by
  unfold OutputMessagePool.removeProtocolFromAutosend
  by_cases present : protocol ∈ pool.bufferedProtocols
  · rw [if_pos present]
    refine ⟨autosent.single, fun isRegistered => ?_, fun other => ?_, autosent.bytes⟩
    · obtain ⟨other, isRegistered⟩ := isRegistered
      refine autosent.pending ⟨other, ?_⟩
      by_cases same : other = protocol
      · have removed : update pool.registered protocol false other = true := isRegistered
        rw [same, update_self] at removed
        cases removed
      · exact (update_of_ne same ..).symm.trans isRegistered
    · show (swapRemove protocol pool.bufferedProtocols).count other =
        if update pool.registered protocol false other then 1 else 0
      rw [(swapRemove_perm_erase present).count_eq]
      by_cases same : other = protocol
      · have before := autosent.listed protocol
        rw [same, List.count_erase_self, update_self, before]
        split <;> rfl
      · rw [List.count_erase_of_ne same, update_of_ne same]
        exact autosent.listed other
  · rw [if_neg present]
    exact autosent

theorem added {protocol : Protocol}
    (notRegistered : pool.registered protocol = false) {pending : Nat} (one : pending = 1) :
    Autosent ({ pool with
      pending := pending
      bufferedProtocols := pool.bufferedProtocols ++ [protocol]
      registered := update pool.registered protocol true } :
        OutputMessagePool Protocol) := by
  refine ⟨Nat.le_of_eq one, fun _ none => ?_, fun other => ?_, autosent.bytes⟩
  · exact absurd (one.symm.trans none) Nat.one_ne_zero
  · show (pool.bufferedProtocols ++ [protocol]).count other =
      if update pool.registered protocol true other then 1 else 0
    rw [List.count_append, autosent.listed]
    by_cases same : other = protocol
    · rw [same, notRegistered, update_self, List.count_singleton_self]
      rfl
    · rw [update_of_ne same, List.count_singleton]
      simp [Ne.symm same]

/-- **A protocol is added**: the chain stays single where the list is not empty or no event is
pending. -/
theorem add_iff {protocol : Protocol} (notRegistered : pool.registered protocol = false) :
    Autosent (pool.addProtocolToAutosend protocol) ↔
      (pool.bufferedProtocols = [] → pool.pending = 0) := by
  unfold OutputMessagePool.addProtocolToAutosend
  extract_lets scheduled
  by_cases none : pool.bufferedProtocols = []
  · have isScheduled : scheduled = pool.scheduleSendAll := if_pos none
    rw [isScheduled]
    constructor
    · intro after _
      have single : pool.pending + 1 ≤ 1 := after.single
      omega
    · exact fun idle => autosent.added notRegistered (congrArg (· + 1) (idle none))
  · have isScheduled : scheduled = pool := if_neg none
    rw [isScheduled]
    refine iff_of_true (autosent.added notRegistered ?_) fun isEmpty => absurd isEmpty none
    have single := autosent.single
    have pending := autosent.pending ((OutputMessagePool.empty_iff autosent.listed).mp none)
    omega

end

end Autosent

/-- **One chain of timers.** Every registered protocol is listed once, one event is pending while
there are any and never two, and what was written is handed over once and in order, exactly
where no protocol is added to an empty list while an event is still pending. -/
theorem autosends_iff [DecidableEq Protocol] {ops : List (PoolOp Protocol)}
    (legal : (pools Protocol).Legal {} ops) :
    (pools Protocol).Throughout (fun _ _ after => Autosent after) {} ops ↔
      (pools Protocol).Throughout (fun before op _ => AddsToIdle before op) {} ops := by
  have initial : Autosent ({} : OutputMessagePool Protocol) :=
    { single := Nat.zero_le 1
      pending := fun ⟨_, isRegistered⟩ => Bool.noConfusion isRegistered
      listed := fun _ => rfl
      bytes := fun _ => rfl }
  refine System.Throughout.iff_of_invariant (fun before op autosent isLegal => ?_) initial legal
  cases op with
  | add protocol => exact ⟨autosent.add_iff isLegal, id⟩
  | remove protocol => exact ⟨iff_of_true (autosent.remove protocol) trivial, id⟩
  | fire => exact ⟨iff_of_true autosent.fire trivial, id⟩
  | write protocol size bytes =>
    exact ⟨iff_of_true (autosent.write protocol size bytes) trivial, id⟩
  | send protocol => exact ⟨iff_of_true (autosent.send protocol) trivial, id⟩

/-- Two protocols write, and one of them logs out. -/
def twoProtocols : List (PoolOp Nat) :=
  [.add 0, .write 0 2 [1, 2], .add 1, .fire, .write 1 1 [3], .remove 0, .fire]

theorem autosends_iff_two :
    (pools Nat).Throughout (fun _ _ after => Autosent after) {} twoProtocols ↔
      (pools Nat).Throughout (fun before op _ => AddsToIdle before op) {} twoProtocols := by
  refine autosends_iff ?_
  exact ⟨rfl, trivial, rfl, Nat.one_ne_zero, trivial, trivial, Nat.one_ne_zero, trivial⟩

/-- The only player logs out, and another one logs in before the event comes: two events are
pending, and go on for ever. -/
theorem two_chains :
    ∃ ops, (pools Nat).Legal {} ops ∧
      ¬(pools Nat).Throughout (fun _ _ after => Autosent after) {} ops ∧
      ((pools Nat).run {} ops).pending = 2 := by
  refine ⟨[.add 0, .remove 0, .add 1], ⟨rfl, trivial, rfl, trivial⟩, ?_, by decide⟩
  rintro ⟨-, -, after, -⟩
  exact absurd after.single (by decide)

/-! ## What is written arrives -/

/-- What was written is handed over once and in order, except for what is in the buffers. -/
def Whole (pool : OutputMessagePool Protocol) : Prop :=
  ∀ protocol, (pool.outputs protocol).onTheWay = (pool.outputs protocol).written

theorem Whole.step [DecidableEq Protocol] {pool : OutputMessagePool Protocol} (whole : Whole pool)
    (op : PoolOp Protocol) : Whole ((pools Protocol).step pool op) := by
  -- the outputs do not depend on who is registered and what is pending
  have idle : Autosent ({ outputs := pool.outputs } : OutputMessagePool Protocol) :=
    ⟨Nat.zero_le 1, fun ⟨_, isRegistered⟩ => Bool.noConfusion isRegistered, fun _ => rfl, whole⟩
  cases op with
  | add protocol =>
    show Whole (pool.addProtocolToAutosend protocol)
    unfold OutputMessagePool.addProtocolToAutosend
    split <;> exact whole
  | remove protocol =>
    show Whole (pool.removeProtocolFromAutosend protocol)
    unfold OutputMessagePool.removeProtocolFromAutosend
    split <;> exact whole
  | fire =>
    have sent : Whole (.sendBuffers { pool with pending := pool.pending - 1 }
        pool.bufferedProtocols) :=
      OutputMessagePool.sendBuffers_outputs _ (fun output => output.onTheWay = output.written)
        (fun output same => by rw [output.onTheWay_send, output.written_send, same]) _ whole
    show Whole pool.fire
    unfold OutputMessagePool.fire OutputMessagePool.sendAll
    dsimp only
    split <;> exact sent
  | write protocol size bytes => exact (idle.write protocol size bytes).bytes
  | send protocol => exact (idle.send protocol).bytes

/-- **Nothing that is written is lost or repeated** in any run, also where two chains of events go
on. -/
theorem runs_whole [DecidableEq Protocol] (ops : List (PoolOp Protocol)) :
    Whole ((pools Protocol).run {} ops) := by
  have initial : Whole ({} : OutputMessagePool Protocol) := fun _ => rfl
  generalize ({} : OutputMessagePool Protocol) = start at initial
  induction ops generalizing start with
  | nil => exact initial
  | cons op ops ih => exact ih _ (initial.step op)

end Otserv.Network

import Otserv.Connections.Connection

/-!
# The write queue

Messages should be passed to `onSendMessage` in the order in which they were accepted, one write
be outstanding at most, all accepted messages be written before the socket is closed after a
close without force, and the socket be closed as soon as a close with force is asked for, be it
by a timeout, an error or from outside (`Sound`).

`closed` stands for both kinds of close, and `close` returns when it is set. So a connection that
was closed without force, and still has messages to write, does not heed a close with force
(`writes_sound_iff`).
-/

namespace Otserv.Connections

open Foundation

variable {Message : Type}

namespace Connection

variable (connection : Connection Message)

/-- As many writes are over, without an error, as there are messages. -/
def drain : Connection Message :=
  (connections Message).run connection
    (List.replicate connection.messageQueue.length (.onWriteOperation false .ok))

/-- It was closed without force, and the socket is still open. -/
def Closing : Prop :=
  connection.closed = true ∧ connection.socketOpen = true

end Connection

structure Sound (connection : Connection Message) : Prop where
  inOrder : connection.sent <+: connection.accepted
  single : connection.writing ≤ 1
  /-- After a close without force, a write is outstanding while the socket is open. -/
  goesOn : connection.closed = true → connection.forced = false →
    connection.socketOpen = true → connection.writing = 1
  complete : connection.closed = true → connection.forced = false →
    connection.socketOpen = false → connection.written = connection.accepted
  drains : connection.closed = true → connection.forced = false →
    connection.drain.socketOpen = false ∧ connection.drain.written = connection.accepted
  heeds : connection.forced = true → connection.socketOpen = false

/-- A close with force is not asked for while the connection is closing, unless the step leaves
nobody who holds the connection. -/
def Heeded (connection : Connection Message) : ConnectionOp Message → Prop
  | .close force => force = true → ¬connection.Closing
  | .handleTimeout => ¬connection.Closing
  | .parseHeader result => result = .error → ¬connection.Closing
  | .parsePacket result => result = .error → ¬connection.Closing
  | .readNext started => started ≠ .ok → ¬connection.Closing
  | .onWriteOperation error started =>
    error = true ∨ connection.messageQueue.tail ≠ [] ∧ started ≠ .ok →
      connection.Closing → connection.reading = none
  | .send .. | .expireRead | .expireWrite => True

/-! ## The invariant -/

/-- What holds of the queue, whatever the connection was closed by. -/
structure Connection.Queued (connection : Connection Message) : Prop where
  single : connection.writing ≤ 1
  inOrder : connection.sent <+: connection.accepted
  /-- The message in front is being written. -/
  front : connection.writing ≠ 0 → connection.messageQueue ≠ [] ∧ ∃ before,
    connection.accepted = before ++ connection.messageQueue ∧
      connection.sent = before ++ connection.messageQueue.take 1

structure Connection.Invariant (connection : Connection Message) : Prop
    extends connection.Queued where
  unforced : connection.forced = false →
    connection.accepted = connection.written ++ connection.messageQueue ∧
      connection.sent = connection.written ++ connection.messageQueue.take 1 ∧
        (connection.messageQueue ≠ [] → connection.writing ≠ 0)
  opened : connection.closed = false →
    connection.forced = false ∧ connection.socketOpen = true
  ended : connection.closed = true → connection.forced = false →
    (connection.socketOpen = true ↔ connection.messageQueue ≠ [])
  heeds : connection.forced = true → connection.socketOpen = false

namespace Connection

variable {connection : Connection Message}

/-- A change of the timers and the reads. -/
theorem Invariant.of_same (invariant : connection.Invariant) {after : Connection Message}
    (queue : after.messageQueue = connection.messageQueue)
    (closed : after.closed = connection.closed) (socket : after.socketOpen = connection.socketOpen)
    (writing : after.writing = connection.writing) (accepted : after.accepted = connection.accepted)
    (sent : after.sent = connection.sent) (written : after.written = connection.written)
    (forced : after.forced = connection.forced) : after.Invariant := by
  obtain ⟨⟨single, inOrder, front⟩, unforced, opened, ended, heeds⟩ := invariant
  refine ⟨⟨?_, ?_, ?_⟩, ?_, ?_, ?_, ?_⟩ <;>
    simpa only [queue, closed, socket, writing, accepted, sent, written, forced]

/-! ## Closing the socket -/

section Sockets

variable (connection)

theorem socketOpen_closeSocket : connection.closeSocket.socketOpen = false := by
  unfold closeSocket
  by_cases isOpen : connection.socketOpen = true
  · rw [if_pos isOpen]
  · rw [if_neg isOpen]
    exact eq_false_of_ne_true isOpen

theorem closeSocket_of_closed {connection : Connection Message}
    (socket : connection.socketOpen = false) : connection.closeSocket = connection := by
  rw [closeSocket, if_neg (by rw [socket]; exact Bool.false_ne_true)]

theorem closeSocket_frame : connection.closeSocket.messageQueue = connection.messageQueue ∧
    connection.closeSocket.closed = connection.closed ∧
    connection.closeSocket.writing = connection.writing ∧
    connection.closeSocket.accepted = connection.accepted ∧
    connection.closeSocket.sent = connection.sent ∧
    connection.closeSocket.written = connection.written ∧
    connection.closeSocket.forced = connection.forced ∧
    connection.closeSocket.reading = connection.reading ∧
    connection.closeSocket.parsing = connection.parsing := by
  unfold closeSocket
  split <;> exact ⟨rfl, rfl, rfl, rfl, rfl, rfl, rfl, rfl, rfl⟩

end Sockets

/-- Nobody would hold the connection after a close. -/
def Idle (connection : Connection Message) : Prop :=
  connection.reading = none ∧ connection.writing = 0 ∧ connection.parsing = false

/-- The destructor has nothing to close, where the invariant holds. -/
theorem Invariant.settle_eq (invariant : connection.Invariant) :
    connection.settle = connection := by
  unfold settle
  by_cases ending : connection.closed ∧ connection.reading = none ∧ connection.writing = 0 ∧
      connection.parsing = false
  · rw [if_pos ending]
    refine closeSocket_of_closed ?_
    cases forced : connection.forced with
    | true => exact invariant.heeds forced
    | false =>
      refine eq_false_of_ne_true fun isOpen => ?_
      have some := (invariant.ended ending.1 forced).mp isOpen
      exact (invariant.unforced forced).2.2 some ending.2.2.1
  · rw [if_neg ending]

theorem Queued.closeSocket (queued : connection.Queued) (closed : connection.closed = true)
    (none : connection.messageQueue = [])
    (complete : connection.forced = false →
      connection.accepted = connection.written ∧ connection.sent = connection.written) :
    connection.closeSocket.Invariant := by
  obtain ⟨queue, stillClosed, writing, accepted, sent, written, forced, -, -⟩ :=
    connection.closeSocket_frame
  refine ⟨⟨?_, ?_, ?_⟩, ?_, ?_, ?_, fun _ => connection.socketOpen_closeSocket⟩
  · rw [writing]
    exact queued.single
  · rw [sent, accepted]
    exact queued.inOrder
  · rw [writing, queue, accepted, sent]
    exact queued.front
  · rw [forced, accepted, written, queue, sent, none, List.take_nil, List.append_nil]
    exact fun unforced =>
      ⟨(complete unforced).1, (complete unforced).2, fun some => absurd rfl some⟩
  · rw [stillClosed, closed]
    exact nofun
  · rw [queue, none, connection.socketOpen_closeSocket]
    exact fun _ _ => iff_of_false nofun fun some => some rfl

/-! ## Writes -/

section

variable (invariant : connection.Invariant)
include invariant

/-- **The last message is written.** -/
theorem Invariant.lastWritten {msg : Message}
    {started : Started} (busy : connection.writing ≠ 0) (only : connection.messageQueue = [msg]) :
    (connection.onWriteOperation false started).Invariant := by
  obtain ⟨-, before, accepted, sent⟩ := invariant.front busy
  have none : connection.writing - 1 = 0 := by
    have single := invariant.single
    omega
  rw [only, List.take_one, List.head?_cons, Option.toList_some] at sent
  rw [only] at accepted
  have all : connection.sent = connection.accepted := sent.trans accepted.symm
  have complete : connection.forced = false →
      connection.accepted = connection.written ++ [msg] ∧
        connection.sent = connection.written ++ [msg] := by
    intro forced
    have law := (invariant.unforced forced).1
    rw [only] at law
    exact ⟨law, all.trans law⟩
  have popped : ({ connection with
      writing := connection.writing - 1
      writeTimer := false
      messageQueue := []
      written := connection.written ++ [msg] } : Connection Message).Queued := by
    refine ⟨?_, ?_, fun still => absurd none still⟩
    · show connection.writing - 1 ≤ 1
      omega
    · exact all ▸ List.prefix_refl _
  unfold onWriteOperation
  simp only [only, Bool.false_eq_true, if_false, List.tail_cons, List.head?_cons,
    Option.toList_some]
  by_cases closed : connection.closed = true
  · rw [if_pos closed]
    exact popped.closeSocket closed rfl complete
  · rw [if_neg closed]
    refine ⟨popped, fun forced => ?_, invariant.opened, fun isClosed => absurd isClosed closed,
      invariant.heeds⟩
    refine ⟨?_, ?_, fun some => absurd rfl some⟩
    · rw [List.append_nil]
      exact (complete forced).1
    · show _ = (connection.written ++ [msg]) ++ []
      rw [List.append_nil]
      exact (complete forced).2

/-- What holds behind a message that was written, when another one is started. -/
theorem Invariant.next {msg next : Message} {rest : List Message} (busy : connection.writing ≠ 0)
    (waiting : connection.messageQueue = msg :: next :: rest) :
    ∃ before, connection.accepted = (before ++ [msg]) ++ next :: rest ∧
      connection.sent ++ [next] = (before ++ [msg]) ++ [next] := by
  obtain ⟨-, before, accepted, sent⟩ := invariant.front busy
  rw [waiting] at accepted sent
  refine ⟨before, ?_, ?_⟩
  · rw [accepted, List.append_assoc]
    rfl
  · rw [sent]
    rfl

/-- **A message is written**, and the next one is being written. -/
theorem Invariant.nextWritten {msg next : Message}
    {rest : List Message} (busy : connection.writing ≠ 0)
    (waiting : connection.messageQueue = msg :: next :: rest) :
    (connection.onWriteOperation false .ok).Invariant := by
  obtain ⟨before, accepted, sent⟩ := invariant.next busy waiting
  have one : connection.writing - 1 + 1 = 1 := by
    have single := invariant.single
    omega
  have some : connection.messageQueue ≠ [] := by
    rw [waiting]
    exact List.cons_ne_nil _ _
  unfold onWriteOperation
  simp only [waiting, Bool.false_eq_true, if_false, List.tail_cons, List.head?_cons,
    Option.toList_some, internalSend]
  refine ⟨⟨Nat.le_of_eq one, ?_, fun _ => ⟨List.cons_ne_nil _ _, before ++ [msg], accepted, sent⟩⟩,
    fun forced => ?_, invariant.opened, fun closed forced => ?_, invariant.heeds⟩
  · rw [sent, accepted]
    exact (List.prefix_append_right_inj _).mpr ⟨rest, rfl⟩
  · obtain ⟨law, sentLaw, -⟩ := invariant.unforced forced
    rw [waiting] at law sentLaw
    refine ⟨?_, ?_, fun _ => Nat.succ_ne_zero _⟩
    · rw [law, List.append_assoc]
      rfl
    · rw [sentLaw]
      rfl
  · exact iff_of_true ((invariant.ended closed forced).mpr some) (List.cons_ne_nil _ _)

/-! ## What is sound -/

/-- While the queue is not empty, the writes go on to its end. -/
theorem Invariant.drains (closed : connection.closed = true) (forced : connection.forced = false) :
    connection.drain.socketOpen = false ∧ connection.drain.written = connection.accepted := by
  unfold drain
  -- induction on how many messages are left
  induction left : connection.messageQueue.length generalizing connection with
  | zero =>
    have none := List.length_eq_zero_iff.mp left
    obtain ⟨accepted, -, -⟩ := invariant.unforced forced
    rw [none, List.append_nil] at accepted
    refine ⟨eq_false_of_ne_true fun isOpen => ?_, accepted.symm⟩
    exact (invariant.ended closed forced).mp isOpen none
  | succ count ih =>
    have some : connection.messageQueue ≠ [] := List.length_pos_iff.mp (by omega)
    have busy := (invariant.unforced forced).2.2 some
    have after : (connection.onWriteOperation false .ok).Invariant ∧
        (connection.onWriteOperation false .ok).closed = true ∧
        (connection.onWriteOperation false .ok).forced = false ∧
        (connection.onWriteOperation false .ok).accepted = connection.accepted ∧
        (connection.onWriteOperation false .ok).messageQueue.length = count := by
      obtain ⟨msg, rest, waiting⟩ := List.exists_cons_of_ne_nil some
      cases rest with
      | nil =>
        have lastOne : connection.onWriteOperation false .ok = ({ connection with
            writing := connection.writing - 1
            writeTimer := false
            messageQueue := []
            written := connection.written ++ [msg] } : Connection Message).closeSocket := by
          simp only [onWriteOperation, waiting, Bool.false_eq_true, if_false, List.tail_cons,
            List.head?_cons, Option.toList_some, closed, if_true]
        refine ⟨invariant.lastWritten busy waiting, ?_⟩
        rw [lastOne]
        obtain ⟨queue, stillClosed, -, accepted, -, -, stillForced, -, -⟩ := closeSocket_frame
          ({ connection with
            writing := connection.writing - 1
            writeTimer := false
            messageQueue := []
            written := connection.written ++ [msg] } : Connection Message)
        rw [waiting] at left
        refine ⟨stillClosed.trans closed, stillForced.trans forced, accepted, ?_⟩
        rw [queue]
        exact Nat.succ.inj left
      | cons next rest =>
        refine ⟨invariant.nextWritten busy waiting, ?_⟩
        simp only [onWriteOperation, waiting, Bool.false_eq_true, if_false, List.tail_cons,
          List.head?_cons, Option.toList_some, internalSend]
        rw [waiting] at left
        exact ⟨closed, forced, trivial, Nat.succ.inj left⟩
    obtain ⟨next, stillClosed, stillUnforced, accepted, fewer⟩ := after
    rw [List.replicate_succ, System.run_cons]
    have step : (connections Message).step connection (.onWriteOperation false .ok) =
        connection.onWriteOperation false .ok := next.settle_eq
    rw [step, ← accepted]
    exact ih next stillClosed stillUnforced fewer

theorem Invariant.sound : Sound connection where
  inOrder := invariant.inOrder
  single := invariant.single
  goesOn := by
    intro closed forced isOpen
    have busy := (invariant.unforced forced).2.2 ((invariant.ended closed forced).mp isOpen)
    have single := invariant.single
    omega
  complete := by
    intro closed forced isClosed
    have none : connection.messageQueue = [] := by
      by_contra some
      have isOpen := (invariant.ended closed forced).mpr some
      rw [isClosed] at isOpen
      cases isOpen
    have accepted := (invariant.unforced forced).1
    rw [none, List.append_nil] at accepted
    exact accepted.symm
  drains := fun closed forced => invariant.drains closed forced
  heeds := invariant.heeds

end

/-! ## Closing with force -/

theorem Queued.of_forced (queued : connection.Queued) (forced : connection.forced = true)
    (closed : connection.closed = true) (socket : connection.socketOpen = false) :
    connection.Invariant := by
  refine ⟨queued, fun unforced => ?_, fun opened => ?_, fun _ unforced => ?_, fun _ => socket⟩
  · exact absurd (forced.symm.trans unforced) (by decide)
  · exact absurd (closed.symm.trans opened) (by decide)
  · exact absurd (forced.symm.trans unforced) (by decide)

theorem Queued.closeSocket_queued (queued : connection.Queued) : connection.closeSocket.Queued := by
  obtain ⟨queue, -, writing, accepted, sent, -, -, -, -⟩ := connection.closeSocket_frame
  refine ⟨?_, ?_, ?_⟩
  · rw [writing]
    exact queued.single
  · rw [sent, accepted]
    exact queued.inOrder
  · rw [writing, queue, accepted, sent]
    exact queued.front

/-- A step is sound where the guard holds, and then the invariant goes on. -/
structure Exact (guard : Prop) (after : Connection Message) : Prop where
  sound_iff : Sound after ↔ guard
  invariant : Sound after → after.Invariant

theorem Exact.congr {guard other : Prop} (isExact : Exact guard connection)
    (same : guard ↔ other) : Exact other connection :=
  ⟨isExact.sound_iff.trans same, isExact.invariant⟩

theorem Invariant.exact (invariant : connection.Invariant) {guard : Prop} (holds : guard) :
    Exact guard connection.settle := by
  rw [invariant.settle_eq]
  exact ⟨iff_of_true invariant.sound holds, fun _ => invariant⟩

/-- **A close with force** is heeded unless the connection is closing and still held. -/
theorem Queued.exact_close (queued : connection.Queued) :
    Exact (connection.Closing → connection.Idle) (connection.close true).settle := by
  by_cases closed : connection.closed = true
  · have result : connection.close true = { connection with forced := true } := by
      simp only [close, closed, Bool.or_true, if_true]
    have marked : ({ connection with forced := true } : Connection Message).Queued :=
      ⟨queued.single, queued.inOrder, queued.front⟩
    rw [result]
    by_cases isOpen : connection.socketOpen = true
    · by_cases idle : connection.Idle
      · have ending : ({ connection with forced := true } : Connection Message).settle =
            ({ connection with forced := true } : Connection Message).closeSocket :=
          if_pos ⟨closed, idle⟩
        have frame := closeSocket_frame ({ connection with forced := true } : Connection Message)
        have invariant := marked.closeSocket_queued.of_forced frame.2.2.2.2.2.2.1
          (frame.2.1.trans closed) (socketOpen_closeSocket _)
        rw [ending]
        exact ⟨iff_of_true invariant.sound fun _ => idle, fun _ => invariant⟩
      · have held : ({ connection with forced := true } : Connection Message).settle =
            { connection with forced := true } := if_neg fun ending => idle ending.2
        rw [held]
        have notSound : ¬Sound ({ connection with forced := true } : Connection Message) :=
          fun sound => absurd (isOpen.symm.trans (sound.heeds rfl)) (by decide)
        refine ⟨iff_of_false notSound fun heeded => ?_, fun sound => absurd sound notSound⟩
        exact idle (heeded ⟨closed, isOpen⟩)
    · have invariant := marked.of_forced rfl closed (eq_false_of_ne_true isOpen)
      exact invariant.exact fun closing => absurd closing.2 isOpen
  · have result : connection.close true =
        ({ connection with forced := true, closed := true } : Connection Message).closeSocket := by
      simp only [close, eq_false_of_ne_true closed, Bool.or_true, Bool.false_eq_true, if_false,
        or_true, if_true]
    have marked : ({ connection with forced := true, closed := true } :
        Connection Message).Queued := ⟨queued.single, queued.inOrder, queued.front⟩
    have frame := closeSocket_frame
      ({ connection with forced := true, closed := true } : Connection Message)
    have invariant := marked.closeSocket_queued.of_forced frame.2.2.2.2.2.2.1 frame.2.1
      (socketOpen_closeSocket _)
    rw [result]
    exact invariant.exact fun closing => absurd closing.1 closed

theorem Queued.exact_close_of_open (queued : connection.Queued)
    (opened : connection.closed ≠ true) {guard : Prop} (holds : guard) :
    Exact guard (connection.close true).settle :=
  queued.exact_close.congr (iff_of_true (fun closing => absurd closing.1 opened) holds)

section

variable (invariant : connection.Invariant)
include invariant

theorem Invariant.busy_of_closing (closing : connection.Closing) : connection.writing ≠ 0 := by
  cases forced : connection.forced with
  | true => exact absurd (closing.2.symm.trans (invariant.heeds forced)) (by decide)
  | false =>
    exact (invariant.unforced forced).2.2 ((invariant.ended closing.1 forced).mp closing.2)

theorem Invariant.exact_close : Exact (¬connection.Closing) (connection.close true).settle := by
  refine invariant.toQueued.exact_close.congr ⟨fun heeded closing => ?_, fun notClosing closing =>
    absurd closing notClosing⟩
  exact invariant.busy_of_closing closing (heeded closing).2.1

/-! ## The steps -/

theorem Invariant.exact_send (msg : Message)
    (started : Started) : Exact True (connection.send msg started).settle := by
  unfold send
  by_cases closed : connection.closed = true
  · rw [if_pos closed]
    exact invariant.exact trivial
  rw [if_neg closed]
  obtain ⟨unforced, -⟩ := invariant.opened (eq_false_of_ne_true closed)
  obtain ⟨accepted, sent, writes⟩ := invariant.unforced unforced
  by_cases none : connection.messageQueue = []
  · have idle : connection.writing = 0 := by
      by_contra busy
      exact (invariant.front busy).1 none
    rw [none, List.append_nil] at accepted
    rw [none, List.take_nil, List.append_nil] at sent
    simp only [none, List.nil_append, if_true]
    cases started with
    | ok =>
      refine Invariant.exact ?_ trivial
      refine ⟨⟨?_, ?_, fun _ => ⟨List.cons_ne_nil _ _, connection.sent, ?_, rfl⟩⟩,
        fun _ => ⟨?_, ?_, fun _ => Nat.succ_ne_zero _⟩, invariant.opened,
        fun isClosed => absurd isClosed closed, invariant.heeds⟩
      · show connection.writing + 1 ≤ 1
        omega
      · exact (sent.trans accepted.symm) ▸ List.prefix_refl _
      · show connection.accepted ++ [msg] = connection.sent ++ [msg]
        rw [sent, accepted]
      · show connection.accepted ++ [msg] = connection.written ++ [msg]
        rw [accepted]
      · show connection.sent ++ [msg] = connection.written ++ [msg]
        rw [sent]
    | threw timer =>
      refine Queued.exact_close_of_open ?_ ?_ trivial
      · refine ⟨invariant.single, ?_, fun busy => absurd idle busy⟩
        exact (sent.trans accepted.symm) ▸ List.prefix_refl _
      · exact closed
  · simp only [if_neg none]
    have one : 1 ≤ connection.messageQueue.length := List.length_pos_iff.mpr none
    have first : (connection.messageQueue ++ [msg]).take 1 = connection.messageQueue.take 1 :=
      List.take_append_of_le_length one
    have some : connection.messageQueue ++ [msg] ≠ [] := List.append_ne_nil_of_left_ne_nil none _
    refine Invariant.exact ?_ trivial
    refine ⟨⟨invariant.single, ?_, fun busy => ⟨some, ?_⟩⟩,
      fun _ => ⟨?_, ?_, fun _ => writes none⟩, invariant.opened,
      fun isClosed => absurd isClosed closed, invariant.heeds⟩
    · exact invariant.inOrder.trans (List.prefix_append _ _)
    · obtain ⟨-, before, law, sentLaw⟩ := invariant.front busy
      refine ⟨before, ?_, ?_⟩
      · rw [law, List.append_assoc]
      · rw [first, sentLaw]
    · rw [accepted, List.append_assoc]
    · rw [first, sent]

/-- What a step asks of the invariant when a close with force comes behind a change of the timers
and the reads. -/
theorem Invariant.exact_close_same
    {after : Connection Message} (same : connection.Invariant → after.Invariant)
    (closed : after.closed = connection.closed)
    (socket : after.socketOpen = connection.socketOpen) :
    Exact (¬connection.Closing) (after.close true).settle := by
  refine (same invariant).exact_close.congr ?_
  rw [Closing, Closing, closed, socket]

theorem Invariant.exact_write (error : Bool)
    (started : Started) (busy : connection.writing ≠ 0) (idle : connection.parsing = false) :
    Exact (Heeded connection (.onWriteOperation error started))
      (connection.onWriteOperation error started).settle := by
  have ending : connection.writing - 1 = 0 := by
    have single := invariant.single
    omega
  cases error with
  | true =>
    refine .congr
      (Queued.exact_close ⟨?_, invariant.inOrder, fun still => absurd ending still⟩)
      ⟨fun heeded _ closing => (heeded closing).1,
        fun heeded closing => ⟨heeded (.inl rfl) closing, ending, idle⟩⟩
    show connection.writing - 1 ≤ 1
    omega
  | false =>
    obtain ⟨some, -⟩ := invariant.front busy
    obtain ⟨msg, rest, waiting⟩ := List.exists_cons_of_ne_nil some
    cases rest with
    | nil =>
      refine (invariant.lastWritten busy waiting).exact fun failed => ?_
      rw [waiting] at failed
      exact failed.elim nofun fun left => absurd rfl left.1
    | cons next rest =>
      cases started with
      | ok =>
        refine (invariant.nextWritten busy waiting).exact fun failed => ?_
        exact failed.elim nofun fun left => absurd rfl left.2
      | threw timer =>
        obtain ⟨before, accepted, sent⟩ := invariant.next busy waiting
        unfold onWriteOperation
        simp only [waiting, Bool.false_eq_true, if_false, List.tail_cons, List.head?_cons,
          Option.toList_some, internalSend]
        refine .congr (Queued.exact_close ⟨?_, ?_, fun still => absurd ending still⟩)
          ⟨fun heeded _ closing => (heeded closing).1,
            fun heeded closing => ⟨heeded (.inr ⟨?_, nofun⟩) closing, ending, idle⟩⟩
        · show connection.writing - 1 ≤ 1
          omega
        · rw [sent, accepted]
          exact (List.prefix_append_right_inj _).mpr ⟨rest, rfl⟩
        · rw [waiting]
          exact List.cons_ne_nil _ _

theorem Invariant.exact_closed (force : Bool) :
    Exact (Heeded connection (.close force)) (connection.close force).settle := by
  cases force with
  | true => exact invariant.exact_close.congr ⟨fun heeded _ => heeded, fun heeded => heeded rfl⟩
  | false =>
    refine Invariant.exact ?_ nofun
    unfold close
    by_cases closed : connection.closed = true
    · simp only [if_pos closed, Bool.or_false]
      exact invariant
    · have unclosed := eq_false_of_ne_true closed
      obtain ⟨unforced, isOpen⟩ := invariant.opened unclosed
      obtain ⟨accepted, sent, writes⟩ := invariant.unforced unforced
      simp only [if_neg closed, Bool.or_false, Bool.false_eq_true, or_false]
      by_cases none : connection.messageQueue = []
      · rw [if_pos none]
        rw [none, List.append_nil] at accepted
        rw [none, List.take_nil, List.append_nil] at sent
        exact Queued.closeSocket ⟨invariant.single, invariant.inOrder, invariant.front⟩ rfl none
          fun _ => ⟨accepted, sent⟩
      · rw [if_neg none]
        exact ⟨⟨invariant.single, invariant.inOrder, invariant.front⟩, invariant.unforced, nofun,
          fun _ _ => iff_of_true isOpen none, invariant.heeds⟩

theorem Invariant.exact_readPart (part : Part) (started : Started) :
    Exact (started ≠ .ok → ¬connection.Closing) (connection.readPart part started).settle := by
  cases started with
  | ok =>
    refine Invariant.exact ?_ fun failed => absurd rfl failed
    exact invariant.of_same rfl rfl rfl rfl rfl rfl rfl rfl
  | threw timer =>
    refine .congr (invariant.exact_close_same (fun old => ?_) rfl rfl)
      ⟨fun heeded _ => heeded, fun heeded => heeded nofun⟩
    exact old.of_same rfl rfl rfl rfl rfl rfl rfl rfl

end

theorem Exact.of_holds {guard : Prop} {after : Connection Message}
    (isExact : Exact guard after) (holds : guard) {other : Prop} (also : other) :
    Exact other after :=
  isExact.congr (iff_of_true holds also)

theorem Invariant.exact_header (invariant : connection.Invariant) (result : HeaderResult) :
    Exact (Heeded connection (.parseHeader result)) (connection.parseHeader result).settle := by
  have received : ({ connection with reading := none, readTimer := false } :
      Connection Message).Invariant := invariant.of_same rfl rfl rfl rfl rfl rfl rfl rfl
  cases result with
  | error =>
    exact received.exact_close.congr ⟨fun heeded _ => heeded, fun heeded => heeded rfl⟩
  | tooFast =>
    unfold parseHeader
    by_cases closed : connection.closed = true
    · simp only [if_pos closed]
      exact received.exact nofun
    · simp only [if_neg closed]
      exact (received.exact_closed false).of_holds nofun nofun
  | refused =>
    unfold parseHeader
    by_cases closed : connection.closed = true
    · simp only [if_pos closed]
      exact received.exact nofun
    · simp only [if_neg closed]
      exact received.toQueued.exact_close_of_open closed nofun
  | next started =>
    unfold parseHeader
    by_cases closed : connection.closed = true
    · simp only [if_pos closed]
      exact received.exact nofun
    · simp only [if_neg closed]
      exact (received.exact_readPart .content started).of_holds
        (fun _ closing => closed closing.1) nofun

theorem Invariant.exact_packet (invariant : connection.Invariant) (result : PacketResult) :
    Exact (Heeded connection (.parsePacket result)) (connection.parsePacket result).settle := by
  have received : ({ connection with reading := none, readTimer := false } :
      Connection Message).Invariant := invariant.of_same rfl rfl rfl rfl rfl rfl rfl rfl
  cases result with
  | error =>
    exact received.exact_close.congr ⟨fun heeded _ => heeded, fun heeded => heeded rfl⟩
  | refused =>
    unfold parsePacket
    by_cases closed : connection.closed = true
    · simp only [if_pos closed]
      exact received.exact nofun
    · simp only [if_neg closed]
      exact received.toQueued.exact_close_of_open closed nofun
  | handled =>
    unfold parsePacket
    by_cases closed : connection.closed = true
    · simp only [if_pos closed]
      exact received.exact nofun
    · simp only [if_neg closed]
      refine Invariant.exact ?_ nofun
      exact received.of_same rfl rfl rfl rfl rfl rfl rfl rfl

/-- **A step** is sound exactly where a close with force is heeded. -/
theorem Invariant.exact_step (invariant : connection.Invariant) (op : ConnectionOp Message)
    (legal : (connections Message).legal connection op) :
    Exact (Heeded connection op) ((connections Message).step connection op) := by
  cases op with
  | send msg started => exact invariant.exact_send msg started
  | close force => exact invariant.exact_closed force
  | onWriteOperation error started =>
    exact invariant.exact_write error started legal.1 legal.2
  | parseHeader result => exact invariant.exact_header result
  | parsePacket result => exact invariant.exact_packet result
  | readNext started =>
    have same : ({ connection with parsing := false } : Connection Message).Invariant :=
      invariant.of_same rfl rfl rfl rfl rfl rfl rfl rfl
    exact same.exact_readPart .header started
  | expireRead =>
    refine Invariant.exact ?_ trivial
    exact invariant.of_same rfl rfl rfl rfl rfl rfl rfl rfl
  | expireWrite =>
    refine Invariant.exact ?_ trivial
    exact invariant.of_same rfl rfl rfl rfl rfl rfl rfl rfl
  | handleTimeout =>
    refine invariant.exact_close_same (fun old => ?_) rfl rfl
    exact old.of_same rfl rfl rfl rfl rfl rfl rfl rfl

end Connection

/-- **Messages are written in their order, and closing ends with a closed socket**, exactly where
no close with force is asked for while the connection is closing and still held by somebody. -/
theorem writes_sound_iff {ops : List (ConnectionOp Message)}
    (legal : (connections Message).Legal {} ops) :
    (connections Message).Throughout (fun _ _ after => Sound after) {} ops ↔
      (connections Message).Throughout (fun before op _ => Heeded before op) {} ops := by
  have initial : ({} : Connection Message).Invariant :=
    { single := Nat.zero_le 1
      inOrder := List.nil_prefix
      front := fun busy => absurd rfl busy
      unforced := fun _ => ⟨rfl, rfl, fun some => absurd rfl some⟩
      opened := fun _ => ⟨rfl, rfl⟩
      ended := nofun
      heeds := nofun }
  refine System.Throughout.iff_of_invariant (fun before op invariant isLegal => ?_) initial legal
  have isExact := invariant.exact_step op isLegal
  exact ⟨isExact.sound_iff, isExact.invariant⟩

/-- Two messages are written after a close without force. -/
def farewell : List (ConnectionOp Nat) :=
  [.send 0 .ok, .send 1 .ok, .close false, .onWriteOperation false .ok, .send 2 .ok,
    .parseHeader .refused, .onWriteOperation false .ok]

theorem writes_sound_iff_farewell :
    (connections Nat).Throughout (fun _ _ after => Sound after) {} farewell ↔
      (connections Nat).Throughout (fun before op _ => Heeded before op) {} farewell := by
  refine writes_sound_iff ?_
  exact ⟨trivial, trivial, trivial, ⟨Nat.one_ne_zero, rfl⟩, trivial, ⟨rfl, rfl⟩,
    ⟨Nat.one_ne_zero, rfl⟩, trivial⟩

/-- The peer does not read, and the write of the last message times out. -/
theorem stalled_write :
    ∃ ops, (connections Nat).Legal {} ops ∧
      ¬(connections Nat).Throughout (fun _ _ after => Sound after) {} ops ∧
      ((connections Nat).run {} ops).socketOpen = true := by
  refine ⟨[.send 0 .ok, .close false, .expireWrite, .handleTimeout], ?_, ?_, rfl⟩
  · exact ⟨trivial, trivial, rfl, ⟨Nat.one_ne_zero, rfl⟩, trivial⟩
  · rintro ⟨-, -, -, timedOut, -⟩
    exact absurd (timedOut.heeds rfl) (by decide)

end Otserv.Connections

import Otserv.Foundation.Runs

/-!
# A connection

Messages wait in a queue, and the one in front is being written. `close` without force leaves the
socket open while there are messages, and the write handler closes it behind the last one; the
destructor closes it when nobody holds the connection any more, which is when it was closed and
no operation on the socket is outstanding.

A step is what runs under `connectionLock`. While a protocol handles a packet the lock stays
with it, so that only what the protocol does comes in between. It is kept which messages were
accepted, passed to `onSendMessage` and written, and whether a close with force was asked for.
-/

namespace Otserv.Connections

open Foundation

/-- The part of a packet that is being read. -/
inductive Part where
  | header | content
deriving DecidableEq

/-- How setting a timer and starting an operation on the socket went; the timer may have been
set when something is thrown. -/
inductive Started where
  | ok
  | threw (timer : Bool)
deriving DecidableEq

/-- How `parseHeader` ends. -/
inductive HeaderResult where
  | error
  /-- Too many packets for the time. -/
  | tooFast
  /-- A size that is not allowed. -/
  | refused
  | next (started : Started)
deriving DecidableEq

/-- How `parsePacket` goes on. -/
inductive PacketResult where
  | error
  /-- No protocol can be made for it. -/
  | refused
  | handled
deriving DecidableEq

structure Connection (Message : Type) where
  messageQueue : List Message := []
  closed : Bool := false
  socketOpen : Bool := true
  reading : Option Part := some .header
  /-- How many writes are outstanding. -/
  writing : Nat := 0
  readTimer : Bool := true
  writeTimer : Bool := false
  /-- How many timers have expired whose handler has not run. -/
  expired : Nat := 0
  /-- The protocol handles a packet. -/
  parsing : Bool := false
  accepted : List Message := []
  sent : List Message := []
  written : List Message := []
  forced : Bool := false

namespace Connection

variable {Message : Type} (connection : Connection Message)

def closeSocket : Connection Message :=
  if connection.socketOpen then
    { connection with readTimer := false, writeTimer := false, socketOpen := false }
  else connection

/-- `Connection::close` under the lock. -/
def close (force : Bool) : Connection Message :=
  let connection := { connection with forced := connection.forced || force }
  if connection.closed then connection
  else
    let connection := { connection with closed := true }
    if connection.messageQueue = [] ∨ force then connection.closeSocket else connection

def internalSend (msg : Message) : Started → Connection Message
  | .ok =>
    { connection with
      sent := connection.sent ++ [msg]
      writeTimer := true
      writing := connection.writing + 1 }
  | .threw timer =>
    { connection with
      sent := connection.sent ++ [msg]
      writeTimer := connection.writeTimer || timer }.close true

def send (msg : Message) (started : Started) : Connection Message :=
  if connection.closed then connection
  else
    let queued :=
      { connection with
        messageQueue := connection.messageQueue ++ [msg]
        accepted := connection.accepted ++ [msg] }
    if connection.messageQueue = [] then queued.internalSend msg started else queued

/-- The write of the message in front is over. -/
def onWriteOperation (error : Bool) (started : Started) : Connection Message :=
  let popped :=
    { connection with
      writing := connection.writing - 1
      writeTimer := false
      messageQueue := connection.messageQueue.tail
      written := if error then connection.written
        else connection.written ++ connection.messageQueue.head?.toList }
  if error then { popped with messageQueue := [] }.close true
  else
    match popped.messageQueue with
    | msg :: _ => popped.internalSend msg started
    | [] => if popped.closed then popped.closeSocket else popped

/-- A timer was not cancelled. -/
def handleTimeout : Connection Message :=
  { connection with expired := connection.expired - 1 }.close true

/-- The next part is read. -/
def readPart (part : Part) : Started → Connection Message
  | .ok => { connection with readTimer := true, reading := some part }
  | .threw timer =>
    { connection with readTimer := connection.readTimer || timer }.close true

def parseHeader (result : HeaderResult) : Connection Message :=
  let received := { connection with reading := none, readTimer := false }
  match result with
  | .error => received.close true
  | .tooFast => if received.closed then received else received.close false
  | .refused => if received.closed then received else received.close true
  | .next started => if received.closed then received else received.readPart .content started

/-- `Connection::parsePacket` until the protocol handles the packet. -/
def parsePacket (result : PacketResult) : Connection Message :=
  let received := { connection with reading := none, readTimer := false }
  match result with
  | .error => received.close true
  | .refused => if received.closed then received else received.close true
  | .handled => if received.closed then received else { received with parsing := true }

/-- `Connection::parsePacket` behind the protocol. -/
def readNext (started : Started) : Connection Message :=
  { connection with parsing := false }.readPart .header started

/-- The destructor, where nobody holds the connection any more. -/
def settle : Connection Message :=
  if connection.closed ∧ connection.reading = none ∧ connection.writing = 0 ∧
      connection.parsing = false then connection.closeSocket
  else connection

end Connection

inductive ConnectionOp (Message : Type) where
  | send (msg : Message) (started : Started)
  | close (force : Bool)
  | onWriteOperation (error : Bool) (started : Started)
  | parseHeader (result : HeaderResult)
  | parsePacket (result : PacketResult)
  | readNext (started : Started)
  | expireRead
  | expireWrite
  | handleTimeout

/-- What the handlers, the protocol and other threads do with a connection. -/
def connections (Message : Type) : System (Connection Message) (ConnectionOp Message) where
  legal connection
    | .send .. | .close _ => True
    | .onWriteOperation .. => connection.writing ≠ 0 ∧ connection.parsing = false
    | .parseHeader _ => connection.reading = some .header ∧ connection.parsing = false
    | .parsePacket _ => connection.reading = some .content ∧ connection.parsing = false
    | .readNext _ => connection.parsing = true
    | .expireRead => connection.readTimer = true
    | .expireWrite => connection.writeTimer = true
    | .handleTimeout => connection.expired ≠ 0 ∧ connection.parsing = false
  step connection op :=
    Connection.settle <|
      match op with
      | .send msg started => connection.send msg started
      | .close force => connection.close force
      | .onWriteOperation error started => connection.onWriteOperation error started
      | .parseHeader result => connection.parseHeader result
      | .parsePacket result => connection.parsePacket result
      | .readNext started => connection.readNext started
      | .expireRead =>
        { connection with readTimer := false, expired := connection.expired + 1 }
      | .expireWrite =>
        { connection with writeTimer := false, expired := connection.expired + 1 }
      | .handleTimeout => connection.handleTimeout

end Otserv.Connections

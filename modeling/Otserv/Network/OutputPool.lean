import Otserv.Foundation.Runs
import Otserv.Foundation.SwapRemove
import Otserv.Network.Messages

/-!
# Buffered output

A protocol writes into its output buffer, which is handed to `Protocol::send` when a message
does not fit in behind what is there, and else by `OutputMessagePool::sendAll`. That is a
scheduled event, which schedules itself again while there are registered protocols.

What was written and what was handed over is kept, protocol by protocol. `sendFeatures` hands
the buffer over at once.
-/

namespace Otserv.Network

open Foundation

/-- A protocol's output, with what it wrote and the messages that were handed to
`Protocol::send`. -/
structure Output where
  outputBuffer : Option (List UInt8) := none
  written : List UInt8 := []
  sent : List (List UInt8) := []

namespace Output

variable (output : Output)

/-- `Protocol::send` of the current buffer, which is left empty. -/
def send : Output :=
  match output.outputBuffer with
  | none => output
  | some buffer => { output with outputBuffer := none, sent := output.sent ++ [buffer] }

/-- `Protocol::getOutputBuffer`: the buffer for a message of the size. -/
def getOutputBuffer (size : Nat) : Output :=
  match output.outputBuffer with
  | none => { output with outputBuffer := some [] }
  | some buffer =>
    if MAX_PROTOCOL_BODY_LENGTH < buffer.length + size then
      { output.send with outputBuffer := some [] }
    else output

/-- Bytes are appended to the buffer. -/
def append (bytes : List UInt8) : Output :=
  { output with
    outputBuffer := output.outputBuffer.map (· ++ bytes)
    written := output.written ++ bytes }

end Output

/-- The pool, with the outputs of the protocols. -/
structure OutputMessagePool (Protocol : Type) where
  bufferedProtocols : List Protocol := []
  /-- How many events for `sendAll` are pending. -/
  pending : Nat := 0
  outputs : Protocol → Output := fun _ => {}
  /-- Who was added and has not been removed since. -/
  registered : Protocol → Bool := fun _ => false

namespace OutputMessagePool

variable {Protocol : Type} [DecidableEq Protocol] (pool : OutputMessagePool Protocol)

def scheduleSendAll : OutputMessagePool Protocol := { pool with pending := pool.pending + 1 }

variable (protocol : Protocol)

def setOutput (output : Output) : OutputMessagePool Protocol :=
  { pool with outputs := Function.update pool.outputs protocol output }

/-- The loop of `sendAll`. -/
def sendBuffers (protocols : List Protocol) : OutputMessagePool Protocol :=
  protocols.foldl (fun pool protocol => pool.setOutput protocol (pool.outputs protocol).send) pool

def sendAll : OutputMessagePool Protocol :=
  let sent := pool.sendBuffers pool.bufferedProtocols
  if sent.bufferedProtocols ≠ [] then sent.scheduleSendAll else sent

def addProtocolToAutosend : OutputMessagePool Protocol :=
  let scheduled := if pool.bufferedProtocols = [] then pool.scheduleSendAll else pool
  { scheduled with
    bufferedProtocols := scheduled.bufferedProtocols ++ [protocol]
    registered := Function.update scheduled.registered protocol true }

def removeProtocolFromAutosend : OutputMessagePool Protocol :=
  if protocol ∈ pool.bufferedProtocols then
    { pool with
      bufferedProtocols := swapRemove protocol pool.bufferedProtocols
      registered := Function.update pool.registered protocol false }
  else pool

/-- A message is written. -/
def write (size : Nat) (bytes : List UInt8) : OutputMessagePool Protocol :=
  pool.setOutput protocol (((pool.outputs protocol).getOutputBuffer size).append bytes)

/-- The event that was scheduled comes. -/
def fire : OutputMessagePool Protocol := { pool with pending := pool.pending - 1 }.sendAll

end OutputMessagePool

inductive PoolOp (Protocol : Type) where
  | add (protocol : Protocol)
  | remove (protocol : Protocol)
  | fire
  | write (protocol : Protocol) (size : Nat) (bytes : List UInt8)
  /-- The current buffer is handed over at once. -/
  | send (protocol : Protocol)

/-- What the protocols and the scheduler do; a protocol is added while it is not registered. -/
def pools (Protocol : Type) [DecidableEq Protocol] :
    System (OutputMessagePool Protocol) (PoolOp Protocol) where
  legal pool
    | .add protocol => pool.registered protocol = false
    | .fire => pool.pending ≠ 0
    | .remove _ | .write .. | .send _ => True
  step pool
    | .add protocol => pool.addProtocolToAutosend protocol
    | .remove protocol => pool.removeProtocolFromAutosend protocol
    | .fire => pool.fire
    | .write protocol size bytes => pool.write protocol size bytes
    | .send protocol => pool.setOutput protocol (pool.outputs protocol).send

end Otserv.Network

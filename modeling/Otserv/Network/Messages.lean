import Otserv.Network.Xtea

/-!
# Messages

An outgoing message is written behind room for its headers: the length of the body, the
checksum, and the length of the frame. A connection reads a frame by the length in its
header, and gives the message to the protocol, which decrypts it.

The first message of a connection, before which no key is set, and the timers are left out.
What `deflate` does to a message is an argument, and so are the clock and the packets that
are allowed for each second.
-/

namespace Otserv.Network

namespace Buffer

/-- `memcpy` into the buffer. -/
def store (buffer : Buffer) (place : Nat) (bytes : List UInt8) : Buffer where
  byte at_ := if place ≤ at_ then (bytes[at_ - place]?).getD (buffer at_) else buffer at_

/-- The bytes of the buffer from a place on. -/
def bytes (buffer : Buffer) (place length : Nat) : List UInt8 :=
  (List.range length).map fun index => buffer (place + index)

end Buffer

/-- The bytes of a `uint16_t`. -/
def bytes16 (value : UInt16) : List UInt8 := [value.toUInt8, (value >>> 8).toUInt8]

/-- The bytes of a `uint32_t`. -/
def bytes32 (value : UInt32) : List UInt8 := (List.range 4).map (Xtea.byteOf value)

def load16 (buffer : Buffer) (place : Nat) : UInt16 :=
  (buffer place).toUInt16 ||| (buffer (place + 1)).toUInt16 <<< 8

/-! ## The checksum -/

def NETWORKMESSAGE_MAXSIZE : Nat := 65535

/-- The inner loop of `adlerChecksum`. -/
def adlerChunk : List UInt8 → UInt32 → UInt32 → UInt32 × UInt32
  | [], a, b => (a, b)
  | byte :: bytes, a, b => adlerChunk bytes (a + byte.toUInt32) (b + (a + byte.toUInt32))

/-- The outer loop of `adlerChecksum`, of at most so many chunks. -/
def adlerLoop : Nat → List UInt8 → UInt32 → UInt32 → UInt32
  | 0, _, a, b => b <<< 16 ||| a
  | chunks + 1, bytes, a, b =>
    if bytes = [] then b <<< 16 ||| a
    else
      let (a, b) := adlerChunk (bytes.take 5552) a b
      adlerLoop chunks (bytes.drop 5552) (a % 65521) (b % 65521)

def adlerChecksum (data : List UInt8) : UInt32 :=
  if data.length > NETWORKMESSAGE_MAXSIZE then 0 else adlerLoop data.length data 1 0

/-! ## Messages -/

def INITIAL_BUFFER_POSITION : UInt16 := 8
def HEADER_LENGTH : Nat := 2
def CHECKSUM_LENGTH : Nat := 4
def XTEA_MULTIPLE : Nat := 8
def MAX_BODY_LENGTH : Nat :=
  NETWORKMESSAGE_MAXSIZE - HEADER_LENGTH - CHECKSUM_LENGTH - XTEA_MULTIPLE
def MAX_PROTOCOL_BODY_LENGTH : Nat := MAX_BODY_LENGTH - 10

structure NetworkMessage where
  buffer : Buffer
  length : UInt16 := 0
  position : UInt16 := INITIAL_BUFFER_POSITION
  overrun : Bool := false

namespace NetworkMessage

variable (msg : NetworkMessage)

def canAdd (size : Nat) : Bool := size + msg.position.toNat < MAX_BODY_LENGTH

def canRead (size : Nat) : Bool :=
  !(msg.position.toNat + size > msg.length.toNat + 8 ∨
    size ≥ NETWORKMESSAGE_MAXSIZE - msg.position.toNat)

def addBytes (bytes : List UInt8) : NetworkMessage :=
  if !msg.canAdd bytes.length then msg
  else
    { msg with
      buffer := msg.buffer.store msg.position.toNat bytes
      position := msg.position + UInt16.ofNat bytes.length
      length := msg.length + UInt16.ofNat bytes.length }

def addPaddingBytes (n : Nat) : NetworkMessage :=
  if !msg.canAdd n then msg
  else
    { msg with
      buffer := msg.buffer.store msg.position.toNat (List.replicate n 0x33)
      length := msg.length + UInt16.ofNat n }

/-- `get<uint16_t>`. -/
def get16 : UInt16 × NetworkMessage :=
  if !msg.canRead 2 then (0, { msg with overrun := true })
  else (load16 msg.buffer msg.position.toNat, { msg with position := msg.position + 2 })

/-- `get<uint32_t>`. -/
def get32 : UInt32 × NetworkMessage :=
  if !msg.canRead 4 then (0, { msg with overrun := true })
  else (Xtea.load msg.buffer msg.position.toNat, { msg with position := msg.position + 4 })

def getLengthHeader : UInt16 := load16 msg.buffer 0

/-- What is left to be read. -/
def body : List UInt8 := msg.buffer.bytes msg.position.toNat msg.length.toNat

end NetworkMessage

structure OutputMessage extends NetworkMessage where
  outputBufferStart : UInt16 := INITIAL_BUFFER_POSITION

namespace OutputMessage

variable (msg : OutputMessage)

def add_header (bytes : List UInt8) : OutputMessage :=
  let start := msg.outputBufferStart - UInt16.ofNat bytes.length
  { msg with
    outputBufferStart := start
    buffer := msg.buffer.store start.toNat bytes
    length := msg.length + UInt16.ofNat bytes.length }

def writeMessageLength : OutputMessage := msg.add_header (bytes16 msg.length)

def addCryptoHeader (addChecksum compression : Bool) : OutputMessage :=
  let msg :=
    if compression then msg.add_header (bytes32 0)
    else if addChecksum then
      msg.add_header (bytes32 (adlerChecksum
        (msg.buffer.bytes msg.outputBufferStart.toNat msg.length.toNat)))
    else msg
  msg.writeMessageLength

/-- The bytes that are sent. -/
def frame : List UInt8 := msg.buffer.bytes msg.outputBufferStart.toNat msg.length.toNat

end OutputMessage

/-- The padding of `XTEA_encrypt`: the message must be a multiple of 8. -/
def OutputMessage.pad (msg : OutputMessage) : OutputMessage :=
  let paddingBytes := msg.length.toNat % 8
  if paddingBytes ≠ 0 then
    { msg with toNetworkMessage := msg.addPaddingBytes (8 - paddingBytes) }
  else msg

/-! ## The protocol -/

structure Protocol where
  key : Xtea.Key
  encryptionEnabled : Bool := false
  checksumEnabled : Bool := true
  rawMessages : Bool := false
  compression : Bool := false

namespace Protocol

variable (protocol : Protocol)

/-- `Protocol::XTEA_encrypt`. -/
def XTEA_encrypt (msg : OutputMessage) : OutputMessage :=
  let msg := msg.pad
  { msg with
    buffer := Xtea.encrypt msg.buffer msg.outputBufferStart.toNat msg.length.toNat protocol.key }

/-- `Protocol::onSendMessage`. -/
def onSendMessage (compress : OutputMessage → OutputMessage) (msg : OutputMessage) :
    OutputMessage :=
  if protocol.rawMessages then msg
  else
    let compressed := protocol.compression && decide (64 < msg.length.toNat)
    let msg := if compressed then compress msg else msg
    let msg := msg.writeMessageLength
    if protocol.encryptionEnabled then
      (protocol.XTEA_encrypt msg).addCryptoHeader protocol.checksumEnabled compressed
    else msg

/-- `Protocol::XTEA_decrypt`: the message when it was decrypted. -/
def XTEA_decrypt (msg : NetworkMessage) : Option NetworkMessage :=
  if ((msg.length.toNat : Int) - 6) % 8 ≠ 0 then none
  else
    let msg :=
      { msg with
        buffer := Xtea.decrypt msg.buffer msg.position.toNat (msg.length.toNat - 6) protocol.key }
    let (innerLength, msg) := msg.get16
    if innerLength.toNat + 8 > msg.length.toNat then none
    else some { msg with length := innerLength }

/-- `Protocol::onRecvMessage`: the message that is parsed. -/
def onRecvMessage (msg : NetworkMessage) : Option NetworkMessage :=
  if protocol.encryptionEnabled then protocol.XTEA_decrypt msg else some msg

end Protocol

/-! ## The connection -/

structure Connection where
  msg : NetworkMessage
  closed : Bool := false
  timeConnected : Int
  packetsSent : UInt32 := 0

namespace Connection

variable (connection : Connection)

/-- The seconds that `parseHeader` counts the packets for. -/
def timePassed (now : Int) : UInt32 :=
  max 1 (UInt32.ofInt (now - connection.timeConnected + 1))

/-- The packet is one too many for the seconds. -/
def exceeds (now : Int) (maxPackets : UInt32) : Bool :=
  (connection.packetsSent + 1) / connection.timePassed now > maxPackets

/-- `Connection::parseHeader`: how many bytes are read then, into the body of the message. -/
def parseHeader (now : Int) (maxPackets : UInt32) : Option (UInt16 × Connection) :=
  if connection.closed then none
  else if connection.exceeds now maxPackets then none
  else
    let size := connection.msg.getLengthHeader
    if size = 0 ∨ size.toNat ≥ NETWORKMESSAGE_MAXSIZE - 16 then none
    else
      let restarts := connection.timePassed now > 2
      some (size, { connection with
        timeConnected := if restarts then now else connection.timeConnected
        packetsSent := if restarts then 0 else connection.packetsSent + 1
        msg := { connection.msg with
          length := size + UInt16.ofNat HEADER_LENGTH
          position := 2 } })

/-- `Connection::parsePacket` of a message that is not the first: the message that is
parsed. -/
def parsePacket (protocol : Protocol) : Option NetworkMessage :=
  if connection.closed then none
  else
    let msg := connection.msg
    let len := (msg.length.toNat : Int) - msg.position.toNat - CHECKSUM_LENGTH
    let checksum :=
      if len > 0 then
        adlerChecksum (msg.buffer.bytes (msg.position.toNat + CHECKSUM_LENGTH) len.toNat)
      else 0
    let (recvChecksum, msg) := msg.get32
    let msg :=
      if recvChecksum ≠ checksum then
        { msg with position := msg.position - UInt16.ofNat CHECKSUM_LENGTH }
      else msg
    protocol.onRecvMessage msg

/-- Bytes come into the buffer, from a place on. -/
def fill (place : Nat) (bytes : List UInt8) : Connection :=
  { connection with msg := { connection.msg with
    buffer := connection.msg.buffer.store place bytes } }

/-- A frame is read from the bytes that come in: the message that is parsed, and the bytes
behind the frame. -/
def receive (protocol : Protocol) (now : Int) (maxPackets : UInt32) (stream : List UInt8) :
    Option (NetworkMessage × List UInt8) :=
  if stream.length < HEADER_LENGTH then none
  else
    let connection := connection.fill 0 (stream.take HEADER_LENGTH)
    match connection.parseHeader now maxPackets with
    | none => none
    | some (size, connection) =>
      let stream := stream.drop HEADER_LENGTH
      if stream.length < size.toNat then none
      else
        let connection := connection.fill HEADER_LENGTH (stream.take size.toNat)
        (connection.parsePacket protocol).map fun msg => (msg, stream.drop size.toNat)

end Connection

end Otserv.Network

import Otserv.Network.Messages

/-!
# Frames

The frame that a protocol sends for a body is read by a connection, and gives a protocol with
the same key the body, unless the body has the full length that `getOutputBuffer` lets it
have (`frame_round_trip_iff`): there is no room for the padding of that body, the last block
is cut off, and the receiver drops the message.
-/

namespace Otserv.Network

open Foundation

/-! ## Bytes of buffers -/

namespace Buffer

variable (buffer : Buffer) (place length : Nat) (bytes : List UInt8)

@[simp] theorem length_bytes : (buffer.bytes place length).length = length := by
  rw [Buffer.bytes, List.length_map, List.length_range]

theorem getElem_bytes {index : Nat} (inside : index < (buffer.bytes place length).length) :
    (buffer.bytes place length)[index] = buffer (place + index) := by
  simp only [Buffer.bytes, List.getElem_map, List.getElem_range]

theorem bytes_congr {buffer other : Buffer} {place length : Nat}
    (same : ∀ index < length, buffer (place + index) = other (place + index)) :
    buffer.bytes place length = other.bytes place length :=
  List.map_congr_left fun index inside => same index (List.mem_range.mp inside)

theorem byte_of_bytes {buffer other : Buffer} {place length : Nat}
    (same : buffer.bytes place length = other.bytes place length) :
    ∀ index < length, buffer (place + index) = other (place + index) := fun index inside =>
  List.map_inj_left.mp same index (List.mem_range.mpr inside)

theorem bytes_add (more : Nat) : buffer.bytes place (length + more) =
    buffer.bytes place length ++ buffer.bytes (place + length) more := by
  simp only [Buffer.bytes, List.range_add, List.map_append, List.map_map, Function.comp_def,
    Nat.add_assoc]

/-- What was stored is there. -/
theorem bytes_store : (buffer.store place bytes).bytes place bytes.length = bytes := by
  apply List.ext_getElem (length_bytes _ _ _)
  intro index inside bound
  rw [getElem_bytes]
  simp only [Buffer.store, Nat.le_add_right, if_true, Nat.add_sub_cancel_left,
    List.getElem?_eq_getElem bound, Option.getD_some]

theorem bytes_store_behind {other : Nat} (behind : other + length ≤ place) :
    (buffer.store place bytes).bytes other length = buffer.bytes other length := by
  apply bytes_congr
  intro index inside
  simp only [Buffer.store]
  rw [if_neg (by omega)]

theorem bytes_store_before {other : Nat} (before : place + bytes.length ≤ other) :
    (buffer.store place bytes).bytes other length = buffer.bytes other length := by
  apply bytes_congr
  intro index inside
  simp only [Buffer.store]
  rw [if_pos (by omega), List.getElem?_eq_none (by omega), Option.getD_none]

end Buffer

theorem load16_of_bytes {buffer : Buffer} {place : Nat} {value : UInt16}
    (bytes : buffer.bytes place 2 = bytes16 value) : load16 buffer place = value := by
  obtain ⟨first, second⟩ : buffer place = value.toUInt8 ∧
      buffer (place + 1) = (value >>> 8).toUInt8 := by
    simpa [Buffer.bytes, bytes16, List.range_succ] using bytes
  rw [load16, first, second]
  apply UInt16.toBitVec_inj.mp
  ext i bound
  simp [-UInt16.toUInt16_toUInt8, BitVec.getElem_setWidth]
  grind

theorem load_of_bytes32 {buffer : Buffer} {place : Nat} {value : UInt32}
    (bytes : buffer.bytes place 4 = bytes32 value) : Xtea.load buffer place = value := by
  apply Xtea.load_of_bytes
  intro index inside
  exact List.map_inj_left.mp bytes index (List.mem_range.mpr inside)

/-! ## The sender -/

variable (memory : Buffer)

/-- A message with a body, as `addBytes` writes it. -/
def OutputMessage.ofBody (body : List UInt8) : OutputMessage where
  toNetworkMessage := ({ buffer := memory } : NetworkMessage).addBytes body

/-- The padding of a body with its length in front, if there is room. -/
def paddingOf (length : Nat) : Nat :=
  if (length + 2) % 8 ≠ 0 ∧ 8 - (length + 2) % 8 + (8 + length) < MAX_BODY_LENGTH then
    8 - (length + 2) % 8
  else 0

/-- What is encrypted: the length of the body, the body and the padding. -/
def paddedLength (length : Nat) : Nat := length + 2 + paddingOf length

theorem paddedLength_mod {length : Nat} (short : length ≤ MAX_PROTOCOL_BODY_LENGTH) :
    paddedLength length % 8 = 0 ↔ length < MAX_PROTOCOL_BODY_LENGTH := by
  have body : MAX_BODY_LENGTH = 65521 := rfl
  have protocol : MAX_PROTOCOL_BODY_LENGTH = 65511 := rfl
  rw [paddedLength, paddingOf]
  split_ifs <;> omega

theorem paddedLength_le {length : Nat} (short : length ≤ MAX_PROTOCOL_BODY_LENGTH) :
    paddedLength length ≤ 65513 := by
  have body : MAX_BODY_LENGTH = 65521 := rfl
  have protocol : MAX_PROTOCOL_BODY_LENGTH = 65511 := rfl
  rw [paddedLength, paddingOf]
  split_ifs <;> omega

theorem toNat_ofNat16 {value : Nat} (small : value < 65536) : (UInt16.ofNat value).toNat = value :=
  UInt16.toNat_ofNat_of_lt' small

theorem bytes16_length (value : UInt16) : (bytes16 value).length = 2 := rfl

theorem bytes32_length (value : UInt32) : (bytes32 value).length = 4 := rfl

theorem add_header_eq (msg : OutputMessage) (bytes : List UInt8) {start size : UInt16}
    (begins : msg.outputBufferStart - size = start) (isSize : UInt16.ofNat bytes.length = size) :
    msg.add_header bytes =
      { msg with
        outputBufferStart := start
        buffer := msg.buffer.store start.toNat bytes
        length := msg.length + size } := by
  rw [OutputMessage.add_header, isSize, begins]

theorem writeMessageLength_ofBody {body : List UInt8}
    (short : body.length ≤ MAX_PROTOCOL_BODY_LENGTH) :
    (OutputMessage.ofBody memory body).writeMessageLength =
      { buffer := (memory.store 8 body).store 6 (bytes16 (UInt16.ofNat body.length))
        length := UInt16.ofNat (body.length + 2)
        position := UInt16.ofNat (8 + body.length)
        outputBufferStart := 6 } := by
  have small : body.length ≤ 65511 := short
  have room : ({ buffer := memory } : NetworkMessage).canAdd body.length = true := by
    have added : body.length + 8 < 65521 := by omega
    exact decide_eq_true added
  have added : ({ buffer := memory } : NetworkMessage).addBytes body =
      { buffer := memory.store 8 body
        length := UInt16.ofNat body.length
        position := UInt16.ofNat (8 + body.length) } := by
    rw [NetworkMessage.addBytes, room, UInt16.ofNat_add 8 body.length]
    simp only [Bool.not_true, Bool.false_eq_true, if_false, UInt16.zero_add]
    rfl
  rw [OutputMessage.writeMessageLength, OutputMessage.ofBody, added, UInt16.ofNat_add _ 2]
  have begins : INITIAL_BUFFER_POSITION - 2 = 6 := by decide
  exact @add_header_eq _ _ 6 2 begins rfl

theorem pad_ofBody {body : List UInt8} (short : body.length ≤ MAX_PROTOCOL_BODY_LENGTH) :
    ∃ padded : Buffer,
      padded.bytes 6 2 = bytes16 (UInt16.ofNat body.length) ∧
      padded.bytes 8 body.length = body ∧
      (OutputMessage.ofBody memory body).writeMessageLength.pad =
        { buffer := padded
          length := UInt16.ofNat (paddedLength body.length)
          position := UInt16.ofNat (8 + body.length)
          outputBufferStart := 6 } := by
  have small : body.length ≤ 65511 := short
  have lengthBytes : ((memory.store 8 body).store 6 (bytes16 (UInt16.ofNat body.length))).bytes 6 2 =
      bytes16 (UInt16.ofNat body.length) := Buffer.bytes_store _ 6 (bytes16 _)
  have bodyBytes : ((memory.store 8 body).store 6 (bytes16 (UInt16.ofNat body.length))).bytes 8
      body.length = body := by
    rw [Buffer.bytes_store_before _ _ _ _ (Nat.le_refl 8)]
    exact memory.bytes_store 8 body
  rw [writeMessageLength_ofBody memory short]
  generalize (memory.store 8 body).store 6 (bytes16 (UInt16.ofNat body.length)) = written at *
  have length : (UInt16.ofNat (body.length + 2)).toNat = body.length + 2 :=
    toNat_ofNat16 (by omega)
  have position : (UInt16.ofNat (8 + body.length)).toNat = 8 + body.length :=
    toNat_ofNat16 (by omega)
  simp only [OutputMessage.pad, length, NetworkMessage.addPaddingBytes, NetworkMessage.canAdd,
    position]
  by_cases remains : (body.length + 2) % 8 ≠ 0
  · rw [if_pos remains]
    by_cases room : 8 - (body.length + 2) % 8 + (8 + body.length) < MAX_BODY_LENGTH
    · have padding : paddingOf body.length = 8 - (body.length + 2) % 8 := if_pos ⟨remains, room⟩
      refine ⟨written.store (8 + body.length)
        (List.replicate (8 - (body.length + 2) % 8) 0x33), ?_, ?_, ?_⟩
      · rw [Buffer.bytes_store_behind _ _ _ _ (by omega), lengthBytes]
      · rw [Buffer.bytes_store_behind _ _ _ _ (by omega), bodyBytes]
      · simp only [room, decide_true, Bool.not_true, Bool.false_eq_true, if_false, paddedLength,
          padding, UInt16.ofNat_add]
    · have padding : paddingOf body.length = 0 := if_neg fun both => room both.2
      refine ⟨written, lengthBytes, bodyBytes, ?_⟩
      simp only [room, decide_false, Bool.not_false, if_true, paddedLength, padding, Nat.add_zero]
  · have padding : paddingOf body.length = 0 := if_neg fun both => remains both.1
    refine ⟨written, lengthBytes, bodyBytes, ?_⟩
    rw [if_neg remains]
    simp only [paddedLength, padding, Nat.add_zero]

theorem addCryptoHeader_eq (encrypted : Buffer) {length : Nat} (fits : length < 65536)
    (position : UInt16) :
    ({ buffer := encrypted
       length := UInt16.ofNat length
       position := position
       outputBufferStart := 6 } : OutputMessage).addCryptoHeader true false =
      { buffer := (encrypted.store 2 (bytes32 (adlerChecksum (encrypted.bytes 6 length)))).store 0
          (bytes16 (UInt16.ofNat (length + 4)))
        length := UInt16.ofNat (length + 6)
        position := position
        outputBufferStart := 0 } := by
  have small : (UInt16.ofNat length).toNat = length := toNat_ofNat16 fits
  have begins : (6 : UInt16) - 4 = 2 := by decide
  have starts : (2 : UInt16) - 2 = 0 := by decide
  have six : (6 : UInt16).toNat = 6 := rfl
  have four : UInt16.ofNat (length + 4) = UInt16.ofNat length + 4 := UInt16.ofNat_add ..
  have both : UInt16.ofNat (length + 6) = UInt16.ofNat length + 4 + 2 := by
    rw [← four]
    exact UInt16.ofNat_add (length + 4) 2
  simp only [OutputMessage.addCryptoHeader, Bool.false_eq_true, if_false, if_true, small, six]
  generalize adlerChecksum (encrypted.bytes 6 length) = checksum
  rw [@add_header_eq _ _ 2 4 begins rfl, OutputMessage.writeMessageLength,
    @add_header_eq _ _ 0 2 starts rfl, four, both]
  rfl

/-- The protocol of a connection that encrypts, checks and does not compress. -/
def encrypting (key : Xtea.Key) : Protocol := { key := key, encryptionEnabled := true }

/-- **The frame of a body**: its length, the checksum, and what was encrypted. -/
theorem frame_ofBody (key : Xtea.Key) (compress : OutputMessage → OutputMessage)
    (memory : Buffer) {body : List UInt8} (short : body.length ≤ MAX_PROTOCOL_BODY_LENGTH) :
    ∃ padded : Buffer,
      padded.bytes 6 2 = bytes16 (UInt16.ofNat body.length) ∧
      padded.bytes 8 body.length = body ∧
      ((encrypting key).XTEA_encrypt
        (OutputMessage.ofBody memory body).writeMessageLength).length =
          UInt16.ofNat (paddedLength body.length) ∧
      let payload := (Xtea.encrypt padded 6 (paddedLength body.length) key).bytes 6
        (paddedLength body.length)
      ((encrypting key).onSendMessage compress (OutputMessage.ofBody memory body)).frame =
        bytes16 (UInt16.ofNat (paddedLength body.length + 4)) ++
          (bytes32 (adlerChecksum payload) ++ payload) := by
  obtain ⟨padded, lengthBytes, bodyBytes, pads⟩ := pad_ofBody memory short
  refine ⟨padded, lengthBytes, bodyBytes, congrArg (fun msg : OutputMessage => msg.length) pads, ?_⟩
  have fits := paddedLength_le short
  generalize paddedLength body.length = length at *
  have small : (UInt16.ofNat length).toNat = length := toNat_ofNat16 (by omega)
  have six : (6 : UInt16).toNat = 6 := rfl
  have sends : (encrypting key).onSendMessage compress (.ofBody memory body) =
      ((encrypting key).XTEA_encrypt
        (OutputMessage.ofBody memory body).writeMessageLength).addCryptoHeader true false := rfl
  have encrypts : (encrypting key).XTEA_encrypt
        (OutputMessage.ofBody memory body).writeMessageLength =
      { buffer := Xtea.encrypt padded 6 length key
        length := UInt16.ofNat length
        position := UInt16.ofNat (8 + body.length)
        outputBufferStart := 6 } := by
    simp only [Protocol.XTEA_encrypt, pads, small, six]
    rfl
  simp only [sends, encrypts, addCryptoHeader_eq _ (by omega : length < 65536),
    OutputMessage.frame]
  generalize Xtea.encrypt padded 6 length key = encrypted
  generalize adlerChecksum (encrypted.bytes 6 length) = checksum
  have whole : (UInt16.ofNat (length + 6)).toNat = 2 + (4 + length) := by
    rw [toNat_ofNat16 (by omega)]
    omega
  have atZero : (0 : UInt16).toNat = 0 := rfl
  have behind : 0 + (bytes16 (UInt16.ofNat (length + 4))).length ≤ 2 := Nat.le_refl 2
  have further : 0 + (bytes16 (UInt16.ofNat (length + 4))).length ≤ 6 := by
    omega
  have last : 2 + (bytes32 checksum).length ≤ 6 := Nat.le_of_eq (by rw [bytes32_length])
  rw [whole, atZero, Buffer.bytes_add, Buffer.bytes_add, Nat.zero_add,
    Buffer.bytes_store_before _ _ _ _ behind, Buffer.bytes_store_before _ _ _ _ further,
    Buffer.bytes_store_before _ _ _ _ last]
  have header : ((encrypted.store 2 (bytes32 checksum)).store 0
      (bytes16 (UInt16.ofNat (length + 4)))).bytes 0 2 = bytes16 (UInt16.ofNat (length + 4)) :=
    Buffer.bytes_store _ 0 (bytes16 _)
  have check : (encrypted.store 2 (bytes32 checksum)).bytes 2 4 = bytes32 checksum :=
    Buffer.bytes_store _ 2 (bytes32 _)
  rw [header, check]

/-! ## The receiver -/

theorem parseHeader_accepts {connection : Connection} {now : Int} {maxPackets : UInt32}
    (isOpen : connection.closed = false) (allowed : connection.exceeds now maxPackets = false)
    {size : UInt16} (header : connection.msg.getLengthHeader = size)
    (within : ¬(size = 0 ∨ size.toNat ≥ NETWORKMESSAGE_MAXSIZE - 16)) :
    ∃ opened : Connection, connection.parseHeader now maxPackets = some (size, opened) ∧
      opened.msg = { connection.msg with
        length := size + UInt16.ofNat HEADER_LENGTH, position := 2 } ∧ opened.closed = false := by
  unfold Connection.parseHeader
  simp only [isOpen, allowed, header, if_neg within, Bool.false_eq_true, if_false]
  exact ⟨_, rfl, rfl, rfl⟩

variable {protocol : Protocol}

theorem parsePacket_checked {connection : Connection}
    (isOpen : connection.closed = false) {length : Nat} (some_ : 0 < length)
    (fits : length + 6 < 65536) (msgLength : connection.msg.length = UInt16.ofNat (length + 6))
    (position : connection.msg.position = 2) (checksum : connection.msg.buffer.bytes 2 4 =
      bytes32 (adlerChecksum (connection.msg.buffer.bytes 6 length))) :
    connection.parsePacket protocol =
      protocol.onRecvMessage { connection.msg with position := 6 } := by
  have lengthNat : connection.msg.length.toNat = length + 6 := by
    rw [msgLength]
    exact toNat_ofNat16 fits
  have positionNat : connection.msg.position.toNat = 2 := by
    rw [position]
    rfl
  have len : ((length + 6 : Nat) : Int) - (2 : Nat) - (CHECKSUM_LENGTH : Nat) = length := by
    have four : CHECKSUM_LENGTH = 4 := rfl
    omega
  have positive : (length : Int) > 0 := by omega
  have reads : connection.msg.canRead 4 = true := by
    rw [NetworkMessage.canRead, lengthNat, positionNat]
    have large : NETWORKMESSAGE_MAXSIZE = 65535 := rfl
    simp only [large, Bool.not_eq_true', decide_eq_false_iff_not]
    omega
  have moved : (2 : UInt16) + 4 = 6 := by decide
  have received : connection.msg.get32 =
      (adlerChecksum (connection.msg.buffer.bytes 6 length), { connection.msg with position := 6 }) := by
    rw [NetworkMessage.get32, reads, positionNat, load_of_bytes32 checksum, position, moved]
    rfl
  have behind : 2 + CHECKSUM_LENGTH = 6 := rfl
  unfold Connection.parsePacket
  simp only [isOpen, lengthNat, positionNat, len, if_pos positive, received, behind,
    Int.toNat_natCast, Bool.false_eq_true, if_false, ne_eq, not_true]

theorem receive_frame {connection : Connection} {now : Int}
    {maxPackets : UInt32} (isOpen : connection.closed = false)
    (allowed : connection.exceeds now maxPackets = false) {payload : List UInt8}
    (some_ : 0 < payload.length) (fits : payload.length + 4 < NETWORKMESSAGE_MAXSIZE - 16)
    (rest : List UInt8) :
    ∃ buffer : Buffer, buffer.bytes 6 payload.length = payload ∧
      connection.receive protocol now maxPackets
          (bytes16 (UInt16.ofNat (payload.length + 4)) ++
            (bytes32 (adlerChecksum payload) ++ payload) ++ rest) =
        (protocol.onRecvMessage
          { buffer := buffer
            length := UInt16.ofNat (payload.length + 6)
            position := 6
            overrun := connection.msg.overrun }).map fun msg => (msg, rest) := by
  have bound : payload.length + 4 < 65519 := fits
  set size := UInt16.ofNat (payload.length + 4) with isSize
  have sizeNat : size.toNat = payload.length + 4 := toNat_ofNat16 (by omega)
  set checksum := adlerChecksum payload with isChecksum
  set content := bytes32 checksum ++ payload with isContent
  have contentLength : content.length = payload.length + 4 := by
    rw [isContent, List.length_append, bytes32_length, Nat.add_comm]
  have takes : (bytes16 size ++ content ++ rest).take HEADER_LENGTH = bytes16 size := by
    exact List.take_left' (bytes16_length size)
  have drops : (bytes16 size ++ content ++ rest).drop HEADER_LENGTH = content ++ rest := by
    exact List.drop_left' (bytes16_length size)
  have long : ¬(bytes16 size ++ content ++ rest).length < HEADER_LENGTH := by
    have two : HEADER_LENGTH = 2 := rfl
    simp only [List.length_append, bytes16_length, two]
    omega
  have header : (connection.fill 0 (bytes16 size)).msg.getLengthHeader = size :=
    load16_of_bytes (Buffer.bytes_store _ 0 (bytes16 size))
  have nonzero : ¬(size = 0 ∨ size.toNat ≥ NETWORKMESSAGE_MAXSIZE - 16) := by
    rintro (zero | large)
    · rw [zero] at sizeNat
      have none : (0 : UInt16).toNat = 0 := rfl
      omega
    · omega
  have still : (connection.fill 0 (bytes16 size)).closed = false := isOpen
  have within : (connection.fill 0 (bytes16 size)).exceeds now maxPackets = false := allowed
  obtain ⟨opened, parses, openedMsg, openedOpen⟩ :=
    parseHeader_accepts still within header nonzero
  have enough : ¬(content ++ rest).length < size.toNat := by
    rw [List.length_append, contentLength, sizeNat]
    omega
  have takesContent : (content ++ rest).take size.toNat = content := by
    rw [sizeNat]
    exact List.take_left' contentLength
  have dropsContent : (content ++ rest).drop size.toNat = rest := by
    rw [sizeNat]
    exact List.drop_left' contentLength
  have receives : connection.receive protocol now maxPackets (bytes16 size ++ content ++ rest) =
      ((opened.fill HEADER_LENGTH content).parsePacket protocol).map fun msg => (msg, rest) := by
    unfold Connection.receive
    rw [if_neg long, takes, drops]
    simp only [parses]
    rw [if_neg enough, takesContent, dropsContent]
  -- the bytes that were read are the checksum and the payload
  have stored : (opened.fill HEADER_LENGTH content).msg.buffer.bytes 2 (4 + payload.length) =
      content := by
    rw [Nat.add_comm, ← contentLength]
    exact Buffer.bytes_store _ 2 content
  rw [Buffer.bytes_add, isContent] at stored
  obtain ⟨checksumBytes, payloadBytes⟩ := List.append_inj stored (Buffer.length_bytes _ _ _)
  have filledOpen : (opened.fill HEADER_LENGTH content).closed = false := openedOpen
  have filled : (opened.fill HEADER_LENGTH content).msg =
      { buffer := (opened.fill HEADER_LENGTH content).msg.buffer
        length := UInt16.ofNat (payload.length + 6)
        position := 2
        overrun := connection.msg.overrun } := by
    have six : UInt16.ofNat (payload.length + 6) = size + UInt16.ofNat HEADER_LENGTH :=
      UInt16.ofNat_add (payload.length + 4) 2
    simp only [Connection.fill, openedMsg, six]
  refine ⟨(opened.fill HEADER_LENGTH content).msg.buffer, payloadBytes, ?_⟩
  rw [receives, parsePacket_checked filledOpen some_ (by omega) (by rw [filled])
    (by rw [filled]) (by rw [payloadBytes]; exact checksumBytes), filled]

/-! ## Decryption -/

theorem agree_iff_bytes {data other : Buffer} {place length : Nat} (whole : length % 8 = 0) :
    Xtea.blocks.Agree ((length + 7) / 8) place data other ↔
      data.bytes place length = other.bytes place length := by
  constructor
  · intro agree
    apply Buffer.bytes_congr
    intro index inside
    have same := agree (index / 8) (by omega)
    have left : Xtea.load data (place + 8 * (index / 8)) =
        Xtea.load other (place + 8 * (index / 8)) := congrArg Prod.fst same
    have right : Xtea.load data (place + 8 * (index / 8) + 4) =
        Xtea.load other (place + 8 * (index / 8) + 4) := congrArg Prod.snd same
    by_cases first : index % 8 < 4
    · have split : place + index = place + 8 * (index / 8) + index % 8 := by omega
      rw [split, ← Xtea.byteOf_load data _ _ first, ← Xtea.byteOf_load other _ _ first, left]
    · have inSecond : index % 8 - 4 < 4 := by omega
      have split : place + index = place + 8 * (index / 8) + 4 + (index % 8 - 4) := by omega
      rw [split, ← Xtea.byteOf_load data _ _ inSecond, ← Xtea.byteOf_load other _ _ inSecond,
        right]
  · intro same index inside
    have bytes : ∀ offset < 8,
        data (place + 8 * index + offset) = other (place + 8 * index + offset) := by
      intro offset small
      have at_ := Buffer.byte_of_bytes same (8 * index + offset) (by omega)
      rwa [← Nat.add_assoc] at at_
    have words : ∀ offset ≤ 4, Xtea.load data (place + 8 * index + offset) =
        Xtea.load other (place + 8 * index + offset) := by
      intro offset small
      simp only [Xtea.load, Nat.add_assoc (place + 8 * index)]
      rw [bytes offset (by omega), bytes (offset + 1) (by omega), bytes (offset + 2) (by omega),
        bytes (offset + 3) (by omega)]
    exact Prod.ext (words 0 (by omega)) (words 4 (by omega))

theorem XTEA_decrypt_none {msg : NetworkMessage} {length : Nat}
    (msgLength : msg.length.toNat = length + 6) (rough : length % 8 ≠ 0) :
    protocol.XTEA_decrypt msg = none := by
  unfold Protocol.XTEA_decrypt
  rw [msgLength, if_pos (by omega)]

theorem XTEA_decrypt_some {key : Xtea.Key} {msg : NetworkMessage} {length : Nat} {padded : Buffer}
    {body : List UInt8} (whole : length % 8 = 0) (msgLength : msg.length.toNat = length + 6)
    (fits : length + 6 < 65536) (position : msg.position = 6) (room : body.length + 2 ≤ length)
    (encrypted : msg.buffer.bytes 6 length = (Xtea.encrypt padded 6 length key).bytes 6 length)
    (lengthBytes : padded.bytes 6 2 = bytes16 (UInt16.ofNat body.length))
    (bodyBytes : padded.bytes 8 body.length = body) :
    ∃ after, (encrypting key).XTEA_decrypt msg = some after ∧ after.body = body := by
  have decrypted : (Xtea.decrypt msg.buffer 6 length key).bytes 6 length =
      padded.bytes 6 length := by
    have agree := Xtea.decrypt_agree 6 length key ((agree_iff_bytes whole).mpr encrypted)
    rw [Xtea.decrypt_encrypt] at agree
    exact (agree_iff_bytes whole).mp agree
  generalize isPlain : Xtea.decrypt msg.buffer 6 length key = plain at decrypted
  have parts : length = 2 + (body.length + (length - 2 - body.length)) := by omega
  rw [parts, Buffer.bytes_add, Buffer.bytes_add, Buffer.bytes_add, Buffer.bytes_add,
    lengthBytes, bodyBytes] at decrypted
  obtain ⟨plainLength, others⟩ := List.append_inj decrypted (Buffer.length_bytes _ _ _)
  obtain ⟨plainBody, -⟩ := List.append_inj others (Buffer.length_bytes _ _ _)
  have inner : (UInt16.ofNat body.length).toNat = body.length := toNat_ofNat16 (by omega)
  have innerLength : load16 plain 6 = UInt16.ofNat body.length := load16_of_bytes plainLength
  have six : (6 : UInt16).toNat = 6 := rfl
  have moved : (6 : UInt16) + 2 = 8 := by decide
  have large : NETWORKMESSAGE_MAXSIZE = 65535 := rfl
  obtain ⟨buffer, msgSize, msgPosition, overrun⟩ := msg
  subst position
  have reads : ({ buffer := plain, length := msgSize, position := 6, overrun := overrun } :
      NetworkMessage).canRead 2 = true := by
    simp only [NetworkMessage.canRead, msgLength, six, large, Bool.not_eq_true',
      decide_eq_false_iff_not]
    omega
  have received : ({ buffer := plain, length := msgSize, position := 6, overrun := overrun } :
      NetworkMessage).get16 = (UInt16.ofNat body.length,
        { buffer := plain, length := msgSize, position := 8, overrun := overrun }) := by
    rw [NetworkMessage.get16, reads]
    simp only [Bool.not_true, Bool.false_eq_true, if_false, six, innerLength, moved]
  have blocks : ¬(((length + 6 : Nat) : Int) - 6) % 8 ≠ 0 := by omega
  have within : ¬(UInt16.ofNat body.length).toNat + 8 > length + 6 := by omega
  refine ⟨{ buffer := plain, length := UInt16.ofNat body.length, position := 8, overrun := overrun },
    ?_, ?_⟩
  · unfold Protocol.XTEA_decrypt
    simp only [msgLength, six, Nat.add_sub_cancel, encrypting, isPlain, received, if_neg blocks,
      if_neg within]
  · simp only [NetworkMessage.body, inner]
    exact plainBody

/-! ## Round trip -/

theorem receive_sent (key : Xtea.Key) (compress : OutputMessage → OutputMessage)
    (memory : Buffer) {body : List UInt8} (short : body.length ≤ MAX_PROTOCOL_BODY_LENGTH)
    {connection : Connection} {now : Int} {maxPackets : UInt32}
    (isOpen : connection.closed = false) (allowed : connection.exceeds now maxPackets = false)
    (rest : List UInt8) :
    ∃ padded buffer : Buffer,
      padded.bytes 6 2 = bytes16 (UInt16.ofNat body.length) ∧
      padded.bytes 8 body.length = body ∧
      buffer.bytes 6 (paddedLength body.length) =
        (Xtea.encrypt padded 6 (paddedLength body.length) key).bytes 6
          (paddedLength body.length) ∧
      connection.receive (encrypting key) now maxPackets
          (((encrypting key).onSendMessage compress (OutputMessage.ofBody memory body)).frame ++
            rest) =
        ((encrypting key).XTEA_decrypt
          { buffer := buffer
            length := UInt16.ofNat (paddedLength body.length + 6)
            position := 6
            overrun := connection.msg.overrun }).map fun msg => (msg, rest) := by
  obtain ⟨padded, lengthBytes, bodyBytes, -, frame⟩ := frame_ofBody key compress memory short
  have fits := paddedLength_le short
  have room : body.length + 2 ≤ paddedLength body.length := Nat.le_add_right _ _
  generalize paddedLength body.length = length at *
  simp only [frame]
  have payloadLength : ((Xtea.encrypt padded 6 length key).bytes 6 length).length = length :=
    Buffer.length_bytes _ _ _
  obtain ⟨payload, isPayload⟩ :
      ∃ payload, (Xtea.encrypt padded 6 length key).bytes 6 length = payload := ⟨_, rfl⟩
  rw [isPayload] at payloadLength ⊢
  have some_ : 0 < payload.length := by omega
  have accepted : payload.length + 4 < NETWORKMESSAGE_MAXSIZE - 16 := by
    have limit : NETWORKMESSAGE_MAXSIZE - 16 = 65519 := rfl
    omega
  obtain ⟨buffer, stored, receives⟩ :=
    @receive_frame (encrypting key) connection now maxPackets isOpen allowed payload some_ accepted
      rest
  rw [payloadLength] at receives stored
  exact ⟨padded, buffer, lengthBytes, bodyBytes, stored.trans isPayload.symm, receives⟩

/-- **A frame gives back its body in exactly the cases in which there is room for the
padding**: for every body that is shorter than `MAX_PROTOCOL_BODY_LENGTH`. Then what is
encrypted is a multiple of 8. Decryption undoes encryption in any case. -/
theorem frame_round_trip_iff (key : Xtea.Key) (compress : OutputMessage → OutputMessage)
    (memory : Buffer) {body : List UInt8} (short : body.length ≤ MAX_PROTOCOL_BODY_LENGTH)
    {connection : Connection} {now : Int} {maxPackets : UInt32}
    (isOpen : connection.closed = false) (allowed : connection.exceeds now maxPackets = false)
    (rest : List UInt8) :
    let protocol := encrypting key
    let msg := OutputMessage.ofBody memory body
    (∀ (data : Buffer) (start length : Nat), length % 8 = 0 →
      Xtea.decrypt (Xtea.encrypt data start length key) start length key = data) ∧
    ((protocol.XTEA_encrypt msg.writeMessageLength).length.toNat % 8 = 0 ↔
      body.length < MAX_PROTOCOL_BODY_LENGTH) ∧
    ((∃ received, connection.receive protocol now maxPackets
        ((protocol.onSendMessage compress msg).frame ++ rest) = some (received, rest) ∧
      received.body = body) ↔ body.length < MAX_PROTOCOL_BODY_LENGTH) := by
  have fits := paddedLength_le short
  have room : body.length + 2 ≤ paddedLength body.length := Nat.le_add_right _ _
  have whole := paddedLength_mod short
  refine ⟨fun data start length _ => Xtea.decrypt_encrypt start length key data, ?_, ?_⟩
  · obtain ⟨-, -, -, encryptedLength, -⟩ := frame_ofBody key compress memory short
    rw [encryptedLength, toNat_ofNat16 (by omega)]
    exact whole
  obtain ⟨padded, buffer, lengthBytes, bodyBytes, encrypted, receives⟩ :=
    receive_sent key compress memory short isOpen allowed rest
  have msgLength : (UInt16.ofNat (paddedLength body.length + 6)).toNat =
      paddedLength body.length + 6 := toNat_ofNat16 (by omega)
  simp only [receives]
  rw [← whole]
  constructor
  · rintro ⟨received, found, -⟩
    by_contra rough
    rw [XTEA_decrypt_none msgLength rough] at found
    cases found
  · intro even
    obtain ⟨after, decrypted, isBody⟩ := @XTEA_decrypt_some key
      { buffer := buffer
        length := UInt16.ofNat (paddedLength body.length + 6)
        position := 6
        overrun := connection.msg.overrun }
      _ padded body even msgLength (by omega) rfl room encrypted lengthBytes bodyBytes
    refine ⟨after, ?_, isBody⟩
    rw [decrypted]
    rfl

/-- A connection that has just been made. -/
def newConnection : Connection := { msg := { buffer := ⟨fun _ => 0⟩ }, timeConnected := 0 }

theorem frame_round_trip_hello :
    let protocol := encrypting fun _ => 7
    let msg := OutputMessage.ofBody ⟨fun _ => 0⟩ [104, 101, 108, 108, 111]
    (∀ (data : Buffer) (start length : Nat), length % 8 = 0 →
      Xtea.decrypt (Xtea.encrypt data start length fun _ => 7) start length (fun _ => 7) = data) ∧
    ((protocol.XTEA_encrypt msg.writeMessageLength).length.toNat % 8 = 0 ↔
      5 < MAX_PROTOCOL_BODY_LENGTH) ∧
    ((∃ received, newConnection.receive protocol 0 25
        ((protocol.onSendMessage id msg).frame ++ []) = some (received, []) ∧
      received.body = [104, 101, 108, 108, 111]) ↔ 5 < MAX_PROTOCOL_BODY_LENGTH) :=
  frame_round_trip_iff (fun _ => 7) id ⟨fun _ => 0⟩ (by decide) rfl (by decide) []

/-- A body of the full length is not received. -/
theorem full_body_dropped : ∃ body : List UInt8, body.length = MAX_PROTOCOL_BODY_LENGTH ∧
    ¬∃ received, newConnection.receive (encrypting fun _ => 7) 0 25
      (((encrypting fun _ => 7).onSendMessage id (OutputMessage.ofBody ⟨fun _ => 0⟩ body)).frame ++
        []) = some (received, []) ∧ received.body = body := by
  have full : (List.replicate MAX_PROTOCOL_BODY_LENGTH (0 : UInt8)).length =
      MAX_PROTOCOL_BODY_LENGTH := List.length_replicate
  refine ⟨_, full, ?_⟩
  rintro ⟨received, found, -⟩
  obtain ⟨padded, buffer, -, -, -, receives⟩ := @receive_sent (fun _ => 7) id ⟨fun _ => 0⟩ _
    (Nat.le_of_eq full) newConnection 0 25 rfl (by decide) []
  have length : paddedLength MAX_PROTOCOL_BODY_LENGTH = 65513 := by decide
  rw [receives, full, length, XTEA_decrypt_none (toNat_ofNat16 (by decide)) (by decide)] at found
  cases found

end Otserv.Network

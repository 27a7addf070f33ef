import LegendOfStealth.Library.TracedRead
import LegendOfStealth.Protocol.Basic

/-!
# Packets and their codec

A packet object is a class, the 4-byte type tag that its base class registers
first, and the cells its own constructor registers with `AddField`.
`Serialize` walks the registered fields and grows a byte vector;
`Deserialize` walks them again with a running offset into the received buffer.
The length argument of `Deserialize` is never consulted, and neither the bytes
behind the buffer nor the width of the fields stop a read, so reads are modelled
as traced reads of an unbounded store.
-/

namespace LegendOfStealth.Protocol

open LegendOfStealth.Library

/-- The values of `PacketType`. -/
inductive PacketType where
  | undefined
  | joinRequest
  | joinResponse
  | playerDidJoin
  | playerDidLeave
  | serverShutdown
  deriving DecidableEq, Repr

/-- The numeric value of a `PacketType`. -/
def PacketType.toNat : PacketType → Nat
  | .undefined => 0
  | .joinRequest => 1
  | .joinResponse => 2
  | .playerDidJoin => 3
  | .playerDidLeave => 4
  | .serverShutdown => 5

/-- A `PacketType` as the 4-byte value of the `_type` cell. -/
def PacketType.toDword (type : PacketType) : Dword :=
  BitVec.ofNat 32 type.toNat

/-- A `PacketType` as the key of the factory's map. -/
def PacketType.toByte (type : PacketType) : Byte :=
  BitVec.ofNat 8 type.toNat

/-- The concrete subclasses of `Packet`. -/
inductive PacketClass where
  | joinRequestPacket
  | joinResponsePacket
  | playerDidJoinPacket
  | playerDidLeavePacket
  | serverShutdownPacket
  deriving DecidableEq, Repr

/-- The tag that the constructor of each class passes to `Packet`. -/
def PacketClass.packetType : PacketClass → PacketType
  | .joinRequestPacket => .joinRequest
  | .joinResponsePacket => .joinResponse
  | .playerDidJoinPacket => .playerDidJoin
  | .playerDidLeavePacket => .playerDidLeave
  | .serverShutdownPacket => .serverShutdown

/-- The values of `FieldType`. -/
inductive FieldType where
  | uint32
  | int32
  | float32
  | byte
  deriving DecidableEq, Repr

/-- An entry of `_fields`: the field type together with the content of the cell
that the registered pointer addresses.  Signed and floating-point cells are kept
as their 32-bit pattern, which is all that the codec copies. -/
inductive Field where
  | uint32 (cell : Dword)
  | int32 (cell : Dword)
  | float32 (cell : Dword)
  | byte (cell : Byte)
  deriving DecidableEq, Repr

namespace Field

/-- The `FieldType` a cell was registered with. -/
def fieldType : Field → FieldType
  | .uint32 _ => .uint32
  | .int32 _ => .int32
  | .float32 _ => .float32
  | .byte _ => .byte

/-- The number of bytes by which the encoder's buffer and the decoder's offset
grow for a field. -/
def width : Field → Nat
  | .uint32 _ | .int32 _ | .float32 _ => 4
  | .byte _ => 1

/-- `PacketFactory::NetworkDword`: the cell in network byte order. -/
def networkDword (host : Host) (cell : Dword) : Dword :=
  htonl host cell

/-- The bytes that `Serialize` pushes for one field. -/
def serialize (host : Host) : Field → List Byte
  | .uint32 cell | .int32 cell | .float32 cell => store host (networkDword host cell)
  | .byte cell => [cell]

end Field

/-- The four reads of `*((unsigned*) buf)`. -/
def readDword (host : Host) (offset : Nat) : TracedRead Nat Byte Dword := do
  let m₀ ← TracedRead.read offset
  let m₁ ← TracedRead.read (offset + 1)
  let m₂ ← TracedRead.read (offset + 2)
  let m₃ ← TracedRead.read (offset + 3)
  pure (load host m₀ m₁ m₂ m₃)

/-- `PacketFactory::ReadUInt`. -/
def readUInt (host : Host) (offset : Nat) : TracedRead Nat Byte Dword := do
  let no ← readDword host offset
  pure (ntohl host no)

/-- `PacketFactory::ReadInt`; `memcpy` into an `int` keeps the bit pattern. -/
def readInt (host : Host) (offset : Nat) : TracedRead Nat Byte Dword := do
  let no ← readDword host offset
  pure (ntohl host no)

/-- `PacketFactory::ReadFloat`; `memcpy` into a `float` keeps the bit pattern. -/
def readFloat (host : Host) (offset : Nat) : TracedRead Nat Byte Dword := do
  let no ← readDword host offset
  pure (ntohl host no)

/-- One pass through the `switch` of `Deserialize`: the cell receives what is
read at the running offset. -/
def Field.deserialize (host : Host) (offset : Nat) : Field → TracedRead Nat Byte Field
  | .uint32 _ => do
      let value ← readUInt host offset
      pure (.uint32 value)
  | .int32 _ => do
      let value ← readInt host offset
      pure (.int32 value)
  | .float32 _ => do
      let value ← readFloat host offset
      pure (.float32 value)
  | .byte _ => do
      let value ← TracedRead.read offset
      pure (.byte value)

/-- The loop of `Deserialize` from a running offset: the overwritten fields and
the offset reached. -/
def deserializeFields (host : Host) : Nat → List Field → TracedRead Nat Byte (List Field × Nat)
  | offset, [] => pure ([], offset)
  | offset, field :: rest => do
      let field' ← field.deserialize host offset
      let result ← deserializeFields host (offset + field.width) rest
      pure (field' :: result.1, result.2)

/-! ## Packet objects -/

/-- A `Packet` object.  `fields` are the cells registered after the leading
`AddField(BYTE, &_type)`; `udpPacket` is the received `UDPpacket`, if any. -/
structure Packet where
  packetClass : PacketClass
  type : Dword
  fields : List Field
  udpPacket : Option Nat
  deriving DecidableEq, Repr

namespace Packet

/-- `GetPacketType`: the raw content of the tag cell. -/
def getPacketType (packet : Packet) : Dword :=
  packet.type

/-- The `port` member, through a pointer cast to `JoinRequestPacket`. -/
def port (packet : Packet) : Dword :=
  match packet.fields with
  | .uint32 cell :: _ => cell
  | _ => 0

/-- `SetUdpPacket`. -/
def setUdpPacket (udpPacket : Option Nat) (packet : Packet) : Packet :=
  { packet with udpPacket := udpPacket }

/-- `Serialize`: the byte of the tag cell, then every registered cell. -/
def serialize (host : Host) (packet : Packet) : List Byte :=
  firstByte host packet.type :: packet.fields.flatMap (Field.serialize host)

/-- The `pktlen` that `Serialize` reports. -/
def pktlen (packet : Packet) : Nat :=
  1 + (packet.fields.map Field.width).sum

/-- `Deserialize`: overwrite the tag byte and every registered cell, and return
the number of bytes read.  `buflen` is accepted and ignored. -/
def deserialize (host : Host) (packet : Packet) (_buflen : Int) :
    TracedRead Nat Byte (Packet × Nat) := do
  let tag ← TracedRead.read 0
  let result ← deserializeFields host 1 packet.fields
  pure ({ packet with type := setFirstByte host packet.type tag, fields := result.1 }, result.2)

end Packet

/-- The object that a class's default constructor builds. -/
def newPacket (packetClass : PacketClass) : Packet where
  packetClass := packetClass
  type := packetClass.packetType.toDword
  fields :=
    match packetClass with
    | .joinRequestPacket => [.uint32 0]
    | .joinResponsePacket => [.byte 0, .uint32 0, .uint32 0]
    | .playerDidJoinPacket => [.uint32 0, .uint32 0]
    | .playerDidLeavePacket => [.uint32 0]
    | .serverShutdownPacket => []
  udpPacket := none

/-- The number of bytes a packet of a class occupies on the wire. -/
def PacketClass.wireLength (packetClass : PacketClass) : Nat :=
  (newPacket packetClass).pktlen

/-! ## Messages -/

/-- The content of a packet: its class together with the values of the fields
that the class declares. -/
inductive Message where
  | joinRequest (port : Dword)
  | joinResponse (response : Bool) (playerID team : Dword)
  | playerDidJoin (playerID team : Dword)
  | playerDidLeave (playerID : Dword)
  | serverShutdown
  deriving DecidableEq, Repr

namespace Message

/-- The class whose objects carry a message. -/
def packetClass : Message → PacketClass
  | .joinRequest _ => .joinRequestPacket
  | .joinResponse _ _ _ => .joinResponsePacket
  | .playerDidJoin _ _ => .playerDidJoinPacket
  | .playerDidLeave _ => .playerDidLeavePacket
  | .serverShutdown => .serverShutdownPacket

/-- A default-constructed object of the message's class after its fields have
been assigned. -/
def packet (message : Message) : Packet where
  packetClass := message.packetClass
  type := message.packetClass.packetType.toDword
  fields :=
    match message with
    | .joinRequest port => [.uint32 port]
    | .joinResponse response playerID team =>
        [.byte (if response then 1 else 0), .uint32 playerID, .uint32 team]
    | .playerDidJoin playerID team => [.uint32 playerID, .uint32 team]
    | .playerDidLeave playerID => [.uint32 playerID]
    | .serverShutdown => []
  udpPacket := none

/-- The bytes of a message on the wire. -/
def bytes (host : Host) (message : Message) : List Byte :=
  message.packet.serialize host

end Message

end LegendOfStealth.Protocol

import LegendOfStealth.Library.SelfDelimiting
import LegendOfStealth.Protocol.Codec

/-!
# The wire format

What a receiver can rely on: the registered fields come back bit for bit, and the
byte of the tag fixes the length of a packet.  The fields cross between hosts of
any byte order.  The tag does not: it is a 4-byte cell of which the codec copies
the byte at the lowest address, and that is the least significant byte on one
kind of host and the most significant one on the other.
-/

namespace LegendOfStealth.Protocol

open LegendOfStealth.Library

theorem map_width_eq_of_schema_eq {first second : List Field}
    (schema : first.map Field.fieldType = second.map Field.fieldType) :
    first.map Field.width = second.map Field.width := by
  induction first generalizing second with
  | nil =>
      have empty : second = [] := by simpa using schema
      rw [empty]
  | cons field rest ih =>
      cases second with
      | nil => simp at schema
      | cons other others =>
          simp only [List.map_cons, List.cons.injEq] at schema
          rw [List.map_cons, List.map_cons, Field.width_eq_of_fieldType_eq schema.1, ih schema.2]

/-- `Deserialize` reports the number of bytes that `Serialize` produced for the
same schema. -/
theorem Packet.deserialize_length (host : Host) {sent target : Packet} (buflen : Int)
    (schema : target.fields.map Field.fieldType = sent.fields.map Field.fieldType)
    (memory : Nat → Byte) :
    ((target.deserialize host buflen).value memory).2 = (sent.serialize host).length := by
  rw [Packet.serialize_length, Packet.pktlen, ← map_width_eq_of_schema_eq schema]
  exact deserializeFields_offset host 1 target.fields memory

theorem setFirstByte_toDword (type other : PacketType) :
    setFirstByte .littleEndian type.toDword (firstByte .littleEndian other.toDword) =
      other.toDword := by
  cases type <;> cases other <;> decide

/-- What `Deserialize` of a sender's bytes leaves in a target with the same field
types: every cell and the byte of the tag as the sender had them, and the length
that was written.  Between values of `PacketType` the byte of the tag is the whole
tag. -/
structure Packet.Restores (sent target : Packet) (result : Packet × Nat) : Prop where
  fields : result.1.fields = sent.fields
  tag : firstByte .littleEndian result.1.type = firstByte .littleEndian sent.type
  type : ∀ old type : PacketType, target.type = old.toDword → sent.type = type.toDword →
    result.1.type = sent.type
  length : result.2 = (sent.serialize .littleEndian).length

/-- Codec round trip over every schema, whatever stands behind the bytes and
whatever the target's cells held before. -/
theorem Packet.restores_serialize (sent target : Packet) (trailing : List Byte)
    (behind : Nat → Byte) (buflen : Int)
    (schema : target.fields.map Field.fieldType = sent.fields.map Field.fieldType) :
    sent.Restores target ((target.deserialize .littleEndian buflen).value
      (storeOf (sent.serialize .littleEndian ++ trailing) behind)) := by
  have held := (holds_append_iff _ 0 _ _).mp
    (holds_storeOf (sent.serialize .littleEndian ++ trailing) behind)
  have restored := Packet.deserialize_of_holds .littleEndian buflen schema held.1
  refine ⟨?_, ?_, ?_, Packet.deserialize_length .littleEndian buflen schema _⟩
  · rw [restored]
  · rw [restored]
    exact firstByte_setFirstByte .littleEndian target.type _
  · intro old type oldType sentType
    rw [restored, sentType]
    change setFirstByte .littleEndian target.type _ = _
    rw [oldType, setFirstByte_toDword]

/-- A packet with a field of every type. -/
theorem Packet.restores_serialize_mixed :
    Packet.Restores ⟨.joinRequestPacket, 1, [.byte 1, .int32 2, .float32 3, .uint32 4], none⟩
      ⟨.joinRequestPacket, 2, [.byte 9, .int32 9, .float32 9, .uint32 9], none⟩
      (((⟨.joinRequestPacket, 2, [.byte 9, .int32 9, .float32 9, .uint32 9], none⟩ :
        Packet).deserialize .littleEndian 0).value
          (storeOf [1, 1, 0, 0, 0, 2, 0, 0, 0, 3, 0, 0, 0, 4, 5] fun _ => 0)) :=
  Packet.restores_serialize
    ⟨.joinRequestPacket, 1, [.byte 1, .int32 2, .float32 3, .uint32 4], none⟩
    ⟨.joinRequestPacket, 2, [.byte 9, .int32 9, .float32 9, .uint32 9], none⟩ [5] (fun _ => 0) 0 rfl

/-! ## Packets of the concrete classes -/

/-- An object of a concrete class: the tag that its constructor passed on, and the
cells that it registered, whatever they hold. -/
structure ConcretePacket where
  packet : Packet
  type : packet.type = packet.packetClass.packetType.toDword
  schema : packet.fields.map Field.fieldType =
    (newPacket packet.packetClass).fields.map Field.fieldType

namespace ConcretePacket

/-- The object that carries a message. -/
def ofMessage (message : Message) : ConcretePacket where
  packet := message.packet
  type := rfl
  schema := message.packet_schema.symm

/-- The class and the values of the fields. -/
def content (concrete : ConcretePacket) : PacketClass × List Field :=
  (concrete.packet.packetClass, concrete.packet.fields)

/-- What `Serialize` produces. -/
def bytes (host : Host) (concrete : ConcretePacket) : List Byte :=
  concrete.packet.serialize host

theorem bytes_ne_nil (host : Host) (concrete : ConcretePacket) : concrete.bytes host ≠ [] :=
  Packet.serialize_ne_nil host concrete.packet

theorem schema_eq {first second : ConcretePacket}
    (sameClass : first.packet.packetClass = second.packet.packetClass) :
    first.packet.fields.map Field.fieldType = second.packet.fields.map Field.fieldType := by
  rw [first.schema, second.schema, sameClass]

/-- The fields of one schema are determined by their bytes. -/
theorem fields_eq_of_bytes_eq {host : Host} {first second : ConcretePacket}
    (sameClass : first.packet.packetClass = second.packet.packetClass)
    (same : first.bytes host = second.bytes host) :
    first.packet.fields = second.packet.fields := by
  have restores : ∀ sent : ConcretePacket, sent.packet.packetClass = second.packet.packetClass →
      (((second.packet.deserialize host 0).value
        (storeOf (sent.bytes host) fun _ => 0)).1).fields = sent.packet.fields := by
    intro sent sentClass
    rw [Packet.deserialize_of_holds host 0 (schema_eq sentClass).symm
      (holds_storeOf (sent.bytes host) _)]
  rw [← restores first sameClass, same, restores second rfl]

theorem firstByte_type (concrete : ConcretePacket) :
    firstByte .littleEndian concrete.packet.type = concrete.packet.packetClass.packetType.toByte := by
  rw [concrete.type]
  cases concrete.packet.packetClass <;> rfl

theorem packetClass_eq_of_toByte_eq {first second : PacketClass}
    (same : first.packetType.toByte = second.packetType.toByte) : first = second := by
  cases first <;> cases second <;> revert same <;> decide

/-- On a little-endian host the wire format is self-delimiting. -/
theorem selfDelimiting : SelfDelimiting content (bytes .littleEndian) := by
  apply SelfDelimiting.of_tag fun concrete => concrete.packet.packetClass
  · intro first second rest others same
    have tags := (List.cons.inj same).1
    rw [firstByte_type, firstByte_type] at tags
    exact packetClass_eq_of_toByte_eq tags
  · intro first second sameClass
    rw [bytes, bytes, Packet.serialize_length, Packet.serialize_length, Packet.pktlen,
      Packet.pktlen, map_width_eq_of_schema_eq (schema_eq sameClass)]
  · intro first second sameClass same
    exact Prod.ext sameClass (fields_eq_of_bytes_eq sameClass same)

theorem eq_of_content_eq {first second : Message}
    (same : (ofMessage first).content = (ofMessage second).content) : first = second := by
  cases first <;> cases second <;>
    simp_all [content, ofMessage, Message.packet, Message.packetClass]
  rename_i response _ _ response' _ _
  cases response <;> cases response' <;> simp_all

/-- The wire format is self-delimiting: equal streams of packets of the concrete
classes carry the same packets, and no packet's bytes are a proper prefix of
another's. -/
theorem streams_determine_packets :
    (∀ first second : List ConcretePacket,
      first.flatMap (bytes .littleEndian) = second.flatMap (bytes .littleEndian) →
        first.map content = second.map content) ∧
      ∀ first second : ConcretePacket,
        first.bytes .littleEndian <+: second.bytes .littleEndian →
          first.content = second.content :=
  ⟨fun _ _ same => selfDelimiting.map_content_eq (bytes_ne_nil .littleEndian) same,
    fun _ _ isPrefix => selfDelimiting.content_eq_of_isPrefix isPrefix⟩

/-- A packet that was received over UDP has the bytes of the packet that was sent. -/
theorem streams_determine_packets_received :
    let sent := ofMessage (.playerDidJoin 2 1)
    let received : ConcretePacket := ⟨sent.packet.setUdpPacket (some 0), rfl, rfl⟩
    [sent, received].map content = [received, sent].map content ∧
      received.content = sent.content :=
  ⟨streams_determine_packets.1 _ _ rfl, streams_determine_packets.2 _ _ ⟨[], rfl⟩⟩

/-- The bytes of a list of messages determine the messages. -/
theorem messages_eq_of_flatMap_eq {first second : List Message}
    (same : first.flatMap (Message.bytes .littleEndian) =
      second.flatMap (Message.bytes .littleEndian)) : first = second := by
  have bytesOf : ∀ messages : List Message,
      messages.flatMap (Message.bytes .littleEndian) =
        (messages.map ofMessage).flatMap (bytes .littleEndian) := by
    intro messages
    rw [List.flatMap_map]
    rfl
  rw [bytesOf, bytesOf] at same
  have contents := selfDelimiting.map_content_eq (bytes_ne_nil .littleEndian) same
  rw [List.map_map, List.map_map] at contents
  exact List.map_injective_iff.mpr (fun _ _ => eq_of_content_eq) contents

/-! ## Byte order -/

/-- The bytes of the fields are the same on every host. -/
theorem flatMap_serialize_eq (sender receiver : Host) (fields : List Field) :
    fields.flatMap (Field.serialize sender) = fields.flatMap (Field.serialize receiver) := by
  have sameField : Field.serialize sender = Field.serialize receiver := by
    funext field
    cases field <;> simp [Field.serialize, Field.networkDword, store_htonl]
  rw [sameField]

/-- What a receiver makes of a sender's bytes in a given object. -/
def receive (sender receiver : Host) (concrete target : ConcretePacket) (behind : Nat → Byte)
    (buflen : Int) : Packet :=
  ((target.packet.deserialize receiver buflen).value (storeOf (concrete.bytes sender) behind)).1

/-- In an object of the packet's class a receiver finds the type and the values of
the fields that the sender had. -/
def Recovers (sender receiver : Host) (concrete : ConcretePacket) : Prop :=
  ∀ (target : ConcretePacket) (behind : Nat → Byte) (buflen : Int),
    target.packet.packetClass = concrete.packet.packetClass →
      (receive sender receiver concrete target behind buflen).getPacketType =
          concrete.packet.getPacketType ∧
        (receive sender receiver concrete target behind buflen).fields = concrete.packet.fields

/-- The wire format does not depend on the two hosts: both produce the same bytes,
and the receiver recovers what the sender had. -/
structure Portable (sender receiver : Host) (concrete : ConcretePacket) : Prop where
  sameBytes : concrete.bytes sender = concrete.bytes receiver
  recovers : concrete.Recovers sender receiver

/-- Between any two hosts the fields are recovered, and the receiver's raw byte
pointer overwrites a byte of its own tag with a byte of the sender's. -/
theorem receive_eq (sender receiver : Host) {concrete target : ConcretePacket}
    (sameClass : target.packet.packetClass = concrete.packet.packetClass)
    (behind : Nat → Byte) (buflen : Int) :
    receive sender receiver concrete target behind buflen =
      { target.packet with
        type := setFirstByte receiver concrete.packet.type
          (firstByte sender concrete.packet.type)
        fields := concrete.packet.fields } := by
  have held := holds_storeOf (concrete.bytes sender) behind
  rw [bytes, Packet.serialize, flatMap_serialize_eq sender receiver, holds_cons_iff] at held
  rcases held with ⟨tag, cells⟩
  have sameType : target.packet.type = concrete.packet.type := by
    rw [target.type, concrete.type, sameClass]
  simp [receive, Packet.deserialize, bytes, Packet.serialize,
    flatMap_serialize_eq sender receiver, tag,
    deserializeFields_of_holds receiver 1 (schema_eq sameClass) cells, sameType]

/-- The raw byte of a tag is the same on two hosts only if they are of one kind. -/
theorem firstByte_eq_iff (sender receiver : Host) (packetClass : PacketClass) :
    firstByte sender packetClass.packetType.toDword =
        firstByte receiver packetClass.packetType.toDword ↔ sender = receiver := by
  cases sender <;> cases receiver <;> cases packetClass <;> decide

/-- Writing a sender's raw byte restores a tag only if the hosts are of one kind. -/
theorem setFirstByte_eq_iff (sender receiver : Host) (packetClass : PacketClass) :
    setFirstByte receiver packetClass.packetType.toDword
        (firstByte sender packetClass.packetType.toDword) = packetClass.packetType.toDword ↔
      sender = receiver := by
  cases sender <;> cases receiver <;> cases packetClass <;> decide

theorem bytes_eq_iff (sender receiver : Host) (concrete : ConcretePacket) :
    concrete.bytes sender = concrete.bytes receiver ↔ sender = receiver := by
  rw [bytes, bytes, Packet.serialize, Packet.serialize, flatMap_serialize_eq sender receiver,
    List.cons.injEq, and_iff_left rfl, concrete.type]
  exact firstByte_eq_iff sender receiver concrete.packet.packetClass

/-- A receiver recovers a packet exactly when its host is of the sender's kind. -/
theorem recovers_iff (sender receiver : Host) (concrete : ConcretePacket) :
    concrete.Recovers sender receiver ↔ sender = receiver := by
  rw [← setFirstByte_eq_iff sender receiver concrete.packet.packetClass, ← concrete.type]
  constructor
  · intro recovers
    have received := (recovers concrete (fun _ => 0) 0 rfl).1
    rw [receive_eq sender receiver rfl] at received
    exact received
  · intro restored target behind buflen sameClass
    rw [receive_eq sender receiver sameClass]
    exact ⟨restored, rfl⟩

/-- The wire format of a packet is the same for two hosts exactly when they have
the same byte order. -/
theorem portable_iff (sender receiver : Host) (concrete : ConcretePacket) :
    concrete.Portable sender receiver ↔ sender = receiver := by
  constructor
  · intro portable
    exact (recovers_iff sender receiver concrete).mp portable.recovers
  · intro sameHost
    exact ⟨(bytes_eq_iff sender receiver concrete).mpr sameHost,
      (recovers_iff sender receiver concrete).mpr sameHost⟩

/-- A join request from a little-endian host is not understood on a big-endian
one. -/
theorem not_portable_joinRequest :
    ¬ ∀ (sender receiver : Host) (concrete : ConcretePacket),
      concrete.Portable sender receiver := by
  intro claimed
  have portable := claimed .littleEndian .bigEndian (ofMessage (.joinRequest 7))
  have differ : (ofMessage (.joinRequest 7)).bytes .littleEndian ≠
      (ofMessage (.joinRequest 7)).bytes .bigEndian := by decide
  exact differ portable.sameBytes

end ConcretePacket

end LegendOfStealth.Protocol

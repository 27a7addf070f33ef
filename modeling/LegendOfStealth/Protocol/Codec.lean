import LegendOfStealth.Protocol.Packet

/-!
# What the codec reads and writes

The decoder reads exactly as many consecutive bytes as the encoder writes for
the same registered fields, and reading them back restores every cell.  The
induction is over the field list, with the running offset generalized.
-/

namespace LegendOfStealth.Protocol

open LegendOfStealth.Library

@[simp]
theorem store_length (host : Host) (value : Dword) : (store host value).length = 4 := by
  cases host <;> rfl

@[simp]
theorem Field.serialize_length (host : Host) (field : Field) :
    (field.serialize host).length = field.width := by
  cases field <;> simp [Field.serialize, Field.width]

@[simp]
theorem Packet.serialize_length (host : Host) (packet : Packet) :
    (packet.serialize host).length = packet.pktlen := by
  simp [Packet.serialize, Packet.pktlen, List.length_flatMap, Nat.add_comm]

theorem Packet.serialize_ne_nil (host : Host) (packet : Packet) :
    packet.serialize host ≠ [] := by
  simp [Packet.serialize]

@[simp]
theorem reads_readDword (host : Host) (offset : Nat) (memory : Nat → Byte) :
    (readDword host offset).reads memory = List.range' offset 4 := by
  simp [readDword, List.range'_succ]

/-- One field is read from as many consecutive bytes as it is wide. -/
theorem Field.reads_deserialize (host : Host) (offset : Nat) (field : Field)
    (memory : Nat → Byte) :
    (field.deserialize host offset).reads memory = List.range' offset field.width := by
  cases field <;> simp [Field.deserialize, Field.width, readUInt, readInt, readFloat]

/-- The loop reads consecutive bytes from its offset on, whatever they hold. -/
theorem reads_deserializeFields (host : Host) (offset : Nat) (fields : List Field)
    (memory : Nat → Byte) :
    (deserializeFields host offset fields).reads memory =
      List.range' offset (fields.map Field.width).sum := by
  induction fields generalizing offset with
  | nil => simp [deserializeFields]
  | cons field rest ih =>
      simp [deserializeFields, Field.reads_deserialize, ih]

theorem deserializeFields_offset (host : Host) (offset : Nat) (fields : List Field)
    (memory : Nat → Byte) :
    ((deserializeFields host offset fields).value memory).2 =
      offset + (fields.map Field.width).sum := by
  induction fields generalizing offset with
  | nil => simp [deserializeFields]
  | cons field rest ih => simp [deserializeFields, ih, Nat.add_assoc]

/-- `Deserialize` reads every byte of the packet's wire length, no matter how
many bytes were received. -/
theorem Packet.reads_deserialize (host : Host) (packet : Packet) (buflen : Int)
    (memory : Nat → Byte) :
    (packet.deserialize host buflen).reads memory = List.range' 0 packet.pktlen := by
  simp [Packet.deserialize, Packet.pktlen, reads_deserializeFields, Nat.add_comm 1,
    List.range'_succ]

/-! ## Round trip -/

theorem value_readDword (host : Host) (offset : Nat) (memory : Nat → Byte) :
    (readDword host offset).value memory = load host (memory offset) (memory (offset + 1))
      (memory (offset + 2)) (memory (offset + 3)) := by
  simp [readDword]

/-- Bytes in network order load as the network-order value. -/
theorem load_networkOrder (host : Host) (value : Dword) :
    load host (byteOf value 3) (byteOf value 2) (byteOf value 1) (byteOf value 0) =
      htonl host value := by
  cases host with
  | littleEndian => rfl
  | bigEndian => exact ofBytes_byteOf value

/-- A cell in network order is read back as the cell that was written. -/
theorem readDword_of_holds (host : Host) (offset : Nat) (cell : Dword) {memory : Nat → Byte}
    (held : Holds memory offset (store host (htonl host cell))) :
    ntohl host ((readDword host offset).value memory) = cell := by
  rw [store_htonl] at held
  rcases held with ⟨held₀, held₁, held₂, held₃, -⟩
  rw [value_readDword, held₀, held₁, held₂, held₃, load_networkOrder, ntohl_htonl]

/-- A field read where another field of the same type was written receives the
written cell. -/
theorem Field.deserialize_of_holds (host : Host) (offset : Nat) {sent target : Field}
    (sameType : target.fieldType = sent.fieldType) {memory : Nat → Byte}
    (held : Holds memory offset (sent.serialize host)) :
    (target.deserialize host offset).value memory = sent := by
  cases sent with
  | uint32 cell | int32 cell | float32 cell =>
      cases target <;> simp only [Field.fieldType, reduceCtorEq] at sameType
      simpa [Field.deserialize, readUInt, readInt, readFloat] using
        readDword_of_holds host offset cell held
  | byte cell =>
      cases target <;> simp only [Field.fieldType, reduceCtorEq] at sameType
      simpa [Field.deserialize, Field.serialize] using held

theorem Field.width_eq_of_fieldType_eq {first second : Field}
    (sameType : first.fieldType = second.fieldType) : first.width = second.width := by
  cases first <;> cases second <;> simp_all [Field.fieldType, Field.width]

/-- The decoder's loop restores every cell of the written fields, whatever the
target's cells held before. -/
theorem deserializeFields_of_holds (host : Host) (offset : Nat) {sent target : List Field}
    (sameSchema : target.map Field.fieldType = sent.map Field.fieldType)
    {memory : Nat → Byte}
    (held : Holds memory offset (sent.flatMap (Field.serialize host))) :
    ((deserializeFields host offset target).value memory).1 = sent := by
  induction sent generalizing offset target with
  | nil =>
      have empty : target = [] := by simpa using sameSchema
      subst target
      rfl
  | cons field rest ih =>
      cases target with
      | nil => simp at sameSchema
      | cons first others =>
          simp only [List.map_cons, List.cons.injEq] at sameSchema
          rcases sameSchema with ⟨sameType, sameRest⟩
          rw [List.flatMap_cons, holds_append_iff, Field.serialize_length] at held
          have widthEq := Field.width_eq_of_fieldType_eq sameType
          have head := Field.deserialize_of_holds host offset sameType held.1
          have tail := ih (offset + field.width) sameRest held.2
          simp [deserializeFields, head, widthEq, tail]

/-- Deserializing into a packet with the same schema restores the sender's tag
byte and every cell. -/
theorem Packet.deserialize_of_holds (host : Host) {sent target : Packet} (buflen : Int)
    (sameSchema : target.fields.map Field.fieldType = sent.fields.map Field.fieldType)
    {memory : Nat → Byte} (held : Holds memory 0 (sent.serialize host)) :
    ((target.deserialize host buflen).value memory).1 =
      { target with
        type := setFirstByte host target.type (firstByte host sent.type)
        fields := sent.fields } := by
  rcases held with ⟨tag, cells⟩
  simp [Packet.deserialize, tag, deserializeFields_of_holds host 1 sameSchema cells]

theorem store_load (host : Host) (m₀ m₁ m₂ m₃ : Byte) :
    store host (load host m₀ m₁ m₂ m₃) = [m₀, m₁, m₂, m₃] := by
  cases host <;> simp [store, load]

theorem htonl_ntohl (host : Host) (value : Dword) : htonl host (ntohl host value) = value := by
  cases host <;> simp [ntohl, htonl]

/-- A field that has been read is written back as the bytes that it was read from. -/
theorem Field.serialize_deserialize (host : Host) (offset : Nat) (field : Field)
    (memory : Nat → Byte) :
    ((field.deserialize host offset).value memory).serialize host =
      (List.range' offset field.width).map memory := by
  have dword : store host (htonl host (ntohl host ((readDword host offset).value memory))) =
      (List.range' offset 4).map memory := by
    rw [htonl_ntohl, value_readDword, store_load]
    rfl
  cases field with
  | uint32 cell | int32 cell | float32 cell => exact dword
  | byte cell => rfl

/-- The decoder's loop is undone by the encoder's. -/
theorem flatMap_serialize_deserializeFields (host : Host) (offset : Nat) (fields : List Field)
    (memory : Nat → Byte) :
    ((deserializeFields host offset fields).value memory).1.flatMap (Field.serialize host) =
      (List.range' offset (fields.map Field.width).sum).map memory := by
  induction fields generalizing offset with
  | nil => simp [deserializeFields]
  | cons field rest ih =>
      have tail := ih (offset + field.width)
      simp [deserializeFields, Field.serialize_deserialize, tail, ← List.range'_append_1]

/-- A packet that has deserialized itself serializes to the bytes that it has read. -/
theorem Packet.serialize_deserialize (host : Host) (packet : Packet) (buflen : Int)
    (memory : Nat → Byte) :
    ((packet.deserialize host buflen).value memory).1.serialize host =
      (List.range' 0 packet.pktlen).map memory := by
  have cells := flatMap_serialize_deserializeFields host 1 packet.fields memory
  simp [Packet.deserialize, Packet.serialize, Packet.pktlen, cells, Nat.add_comm 1,
    List.range'_succ]

theorem Message.bytes_ne_nil (host : Host) (message : Message) : message.bytes host ≠ [] :=
  Packet.serialize_ne_nil host message.packet

/-- A message's packet registers the same field types as its class's default
object. -/
theorem Message.packet_schema (message : Message) :
    (newPacket message.packetClass).fields.map Field.fieldType =
      message.packet.fields.map Field.fieldType := by
  cases message <;> rfl

/-- On a little-endian host the tag of a message is its first byte. -/
theorem Message.firstByte_type (message : Message) :
    firstByte .littleEndian message.packet.type = message.packetClass.packetType.toByte := by
  cases message <;> rfl

end LegendOfStealth.Protocol

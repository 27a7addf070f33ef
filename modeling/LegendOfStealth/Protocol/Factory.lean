import LegendOfStealth.Protocol.Codec

/-!
# The packet factory

`ReadPacket` selects a constructor by the first byte of the buffer and lets the
new object deserialize itself.  Two things that its signature suggests do not
happen: the buffer length bounds no read, and the out-parameter for the consumed
length is never assigned.  Three of the five packet classes are registered.
-/

namespace LegendOfStealth.Protocol

open LegendOfStealth.Library

/-- The constructor map that `PacketFactory::PacketFactory` fills. -/
def factoryMap : List (Byte × PacketClass) :=
  [(PacketType.joinRequest.toByte, .joinRequestPacket),
    (PacketType.joinResponse.toByte, .joinResponsePacket),
    (PacketType.playerDidJoin.toByte, .playerDidJoinPacket)]

/-- `_map.count(type)` followed by `_map[type]`. -/
def constructorFor (type : Byte) : Option PacketClass :=
  factoryMap.lookup type

/-- `PacketFactory::ReadPacket`: the packet, or `none` for `NULL`, and the final
value of the out-parameter `packetlen`. -/
def readPacket (host : Host) (bufferlen packetlen : Int) :
    TracedRead Nat Byte (Option Packet × Int) := do
  let type ← TracedRead.read 0
  match constructorFor type with
  | none => pure (none, packetlen)
  | some packetClass => do
      let result ← (newPacket packetClass).deserialize host bufferlen
      pure (some result.1, packetlen)

/-- The classes that the factory can construct. -/
def PacketClass.Registered (packetClass : PacketClass) : Prop :=
  constructorFor packetClass.packetType.toByte = some packetClass

instance : DecidablePred PacketClass.Registered := fun packetClass =>
  inferInstanceAs (Decidable (constructorFor packetClass.packetType.toByte = some packetClass))

theorem constructorFor_packetType {packetClass built : PacketClass}
    (selected : constructorFor packetClass.packetType.toByte = some built) :
    built = packetClass := by
  cases packetClass <;> cases built <;> revert selected <;> decide

/-- The key of a constructed class is its own tag. -/
theorem constructorFor_eq_some {type : Byte} {packetClass : PacketClass}
    (selected : constructorFor type = some packetClass) :
    type = packetClass.packetType.toByte := by
  simp only [constructorFor, factoryMap, List.lookup_cons, List.lookup_nil] at selected
  grind [PacketClass.packetType]

variable (host : Host) (bufferlen packetlen : Int) (memory : Nat → Byte)

theorem readPacket_of_unregistered (unknown : constructorFor (memory 0) = none) :
    (readPacket host bufferlen packetlen).value memory = (none, packetlen) ∧
      (readPacket host bufferlen packetlen).reads memory = [0] := by
  simp [readPacket, unknown]

theorem readPacket_of_registered {packetClass : PacketClass}
    (selected : constructorFor (memory 0) = some packetClass) :
    (readPacket host bufferlen packetlen).value memory =
        (some (((newPacket packetClass).deserialize host bufferlen).value memory).1,
          packetlen) ∧
      (readPacket host bufferlen packetlen).reads memory =
        0 :: List.range' 0 packetClass.wireLength := by
  simp [readPacket, selected, Packet.reads_deserialize, PacketClass.wireLength]

/-- On a little-endian host a packet carries the tag that selected its class. -/
theorem readPacket_type {packetClass : PacketClass}
    (selected : constructorFor (memory 0) = some packetClass) :
    ∃ packet, ((readPacket .littleEndian bufferlen packetlen).value memory).1 = some packet ∧
      packet.getPacketType = packetClass.packetType.toDword := by
  rw [(readPacket_of_registered .littleEndian bufferlen packetlen memory selected).1]
  refine ⟨_, rfl, ?_⟩
  have tag : memory 0 = firstByte .littleEndian packetClass.packetType.toDword := by
    rw [constructorFor_eq_some selected]
    cases packetClass <;> rfl
  change setFirstByte .littleEndian packetClass.packetType.toDword (memory 0) = _
  rw [tag, setFirstByte_firstByte]

/-- `ReadPacket` returns a packet exactly for a registered first byte. -/
theorem readPacket_isSome_iff :
    ((readPacket host bufferlen packetlen).value memory).1.isSome ↔
      (constructorFor (memory 0)).isSome := by
  cases selected : constructorFor (memory 0) with
  | none => simp [readPacket_of_unregistered host bufferlen packetlen memory selected]
  | some packetClass =>
      simp [readPacket_of_registered host bufferlen packetlen memory selected]

theorem readPacket_packetlen :
    ((readPacket host bufferlen packetlen).value memory).2 = packetlen := by
  cases selected : constructorFor (memory 0) with
  | none => simp [readPacket_of_unregistered host bufferlen packetlen memory selected]
  | some packetClass =>
      simp [readPacket_of_registered host bufferlen packetlen memory selected]

/-- What a caller needs of `ReadPacket` on received bytes: no read outside them,
and no packet from fewer bytes than its class has on the wire. -/
structure ReadsReceivedBytes (received : List Byte) (behind : Nat → Byte) : Prop where
  inBounds : ∀ i ∈ (readPacket host received.length packetlen).reads (storeOf received behind),
    i < received.length
  truncated : ∀ packetClass : PacketClass,
    storeOf received behind 0 = packetClass.packetType.toByte →
      received.length < packetClass.wireLength →
        ((readPacket host received.length packetlen).value (storeOf received behind)).1 = none

/-- `ReadPacket` stays within a non-empty buffer exactly when the first byte
selects no constructor or the buffer holds the whole packet. -/
theorem readsReceivedBytes_iff (received : List Byte) (behind : Nat → Byte)
    (nonempty : received ≠ []) :
    ReadsReceivedBytes host packetlen received behind ↔
      ∀ packetClass, constructorFor (storeOf received behind 0) = some packetClass →
        packetClass.wireLength ≤ received.length := by
  have positive : 0 < received.length := List.length_pos_iff.mpr nonempty
  cases selected : constructorFor (storeOf received behind 0) with
  | none =>
      obtain ⟨valueEq, readsEq⟩ := readPacket_of_unregistered host received.length packetlen
        (storeOf received behind) selected
      constructor
      · simp
      · intro _
        exact ⟨by simp [readsEq, positive], by simp [valueEq]⟩
  | some packetClass =>
      obtain ⟨valueEq, readsEq⟩ := readPacket_of_registered host received.length packetlen
        (storeOf received behind) selected
      constructor
      · rintro ⟨inBounds, -⟩ _ same
        cases same
        by_contra short
        have outside := inBounds received.length (by
          rw [readsEq]
          simp only [List.mem_cons, List.mem_range'_1]
          omega)
        omega
      · intro long
        have enough := long packetClass rfl
        constructor
        · rw [readsEq]
          simp only [List.mem_cons, List.mem_range'_1]
          omega
        · intro other tag short
          rw [tag] at selected
          rw [constructorFor_packetType selected] at enough
          omega

/-- The bound holds of a complete packet: a join request with its five bytes. -/
theorem readsReceivedBytes_joinRequest :
    ([1, 0, 0, 0, 7] : List Byte) ≠ [] ∧
      ReadsReceivedBytes .littleEndian 0 [1, 0, 0, 0, 7] (fun _ => 0) :=
  ⟨by decide,
    (readsReceivedBytes_iff .littleEndian 0 [1, 0, 0, 0, 7] (fun _ => 0) (by decide)).mpr
      (by decide)⟩

/-- A single byte that selects a join request makes `ReadPacket` read past it. -/
theorem not_readsReceivedBytes_truncated :
    ¬ ∀ (host : Host) (packetlen : Int) (received : List Byte) (behind : Nat → Byte),
      received ≠ [] → ReadsReceivedBytes host packetlen received behind := by
  intro claimed
  have bounded := (claimed .littleEndian 0 [1] (fun _ => 0) (by decide)).inBounds
  revert bounded
  decide

/-- The start of a buffer that is long enough. -/
theorem map_storeOf_range' (received : List Byte) (behind : Nat → Byte) {n : Nat}
    (long : n ≤ received.length) :
    (List.range' 0 n).map (storeOf received behind) = received.take n := by
  apply List.ext_getElem
  · simp [Nat.min_eq_left long]
  · intro i bound _
    have inside : i < received.length := by
      rw [List.length_map, List.length_range'] at bound
      omega
    simp [storeOf_of_lt received behind inside]

theorem packetClass_eq_of_toDword_eq {first second : PacketClass}
    (same : first.packetType.toDword = second.packetType.toDword) : first = second := by
  cases first <;> cases second <;> revert same <;> decide

/-- A decoded packet agrees with the bytes that it was decoded from: its class is the
one whose constructor passes on the tag that it carries, no other class has this tag,
and it serializes to the bytes that it takes up on the wire. -/
structure Agrees (received : List Byte) (packetClass : PacketClass) (packet : Packet) : Prop where
  sameClass : packet.packetClass = packetClass
  tag : packet.getPacketType = packet.packetClass.packetType.toDword
  downcast : ∀ other : PacketClass, packet.getPacketType = other.packetType.toDword →
    packet.packetClass = other
  bytes : packet.serialize .littleEndian = received.take packetClass.wireLength

/-- From a buffer with all the bytes of the class that its first byte selects, the
factory makes a packet that agrees with it. -/
theorem readPacket_agrees {received : List Byte} {behind : Nat → Byte} {packetClass : PacketClass}
    (selected : constructorFor (storeOf received behind 0) = some packetClass)
    (long : packetClass.wireLength ≤ received.length) :
    ∃ packet,
      ((readPacket .littleEndian received.length packetlen).value (storeOf received behind)).1 =
          some packet ∧
        Agrees received packetClass packet := by
  have read := (readPacket_of_registered .littleEndian received.length packetlen
    (storeOf received behind) selected).1
  rcases readPacket_type received.length packetlen (storeOf received behind) selected with
    ⟨packet, built, tag⟩
  refine ⟨packet, built, ?_⟩
  rw [read, Option.some.injEq] at built
  have sameClass : packet.packetClass = packetClass := by
    rw [← built]
    rfl
  refine ⟨sameClass, by rw [tag, sameClass], ?_, ?_⟩
  · intro other carries
    rw [sameClass]
    exact packetClass_eq_of_toDword_eq (tag.symm.trans carries)
  · rw [← built, Packet.serialize_deserialize]
    exact map_storeOf_range' received behind long

/-- A join response whose flag is neither 0 nor 1. -/
theorem readPacket_agrees_joinResponse :
    ∃ packet,
      ((readPacket .littleEndian 10 0).value (storeOf [2, 9, 0, 0, 0, 3, 0, 0, 0, 7] fun _ => 0)).1 =
          some packet ∧
        Agrees [2, 9, 0, 0, 0, 3, 0, 0, 0, 7] .joinResponsePacket packet :=
  @readPacket_agrees 0 [2, 9, 0, 0, 0, 3, 0, 0, 0, 7] (fun _ => 0) _ rfl (by decide)

/-! ## Agreement of sender and receiver -/

/-- The reader understands a message: from its serialized bytes and anything
behind them it builds the packet that was serialized. -/
def Readable (message : Message) : Prop :=
  ∀ (trailing : List Byte) (behind : Nat → Byte) (packetlen : Int),
    ((readPacket .littleEndian (message.bytes .littleEndian ++ trailing).length packetlen).value
        (storeOf (message.bytes .littleEndian ++ trailing) behind)).1 =
      some message.packet

/-- Deserializing a message's bytes into a default object of its class gives the
message's packet. -/
theorem deserialize_message_bytes (message : Message) (bufferlen : Int) {memory : Nat → Byte}
    (held : Holds memory 0 (message.bytes .littleEndian)) :
    (((newPacket message.packetClass).deserialize .littleEndian bufferlen).value memory).1 =
      message.packet := by
  rw [Packet.deserialize_of_holds .littleEndian bufferlen message.packet_schema held]
  cases message <;> simp [Message.packet, Message.packetClass, newPacket]

/-- The first byte that the reader sees is the tag of the message's class. -/
theorem storeOf_message_bytes_zero (message : Message) (trailing : List Byte)
    (behind : Nat → Byte) :
    storeOf (message.bytes .littleEndian ++ trailing) behind 0 =
      message.packetClass.packetType.toByte := by
  rw [storeOf_of_lt _ _ (by simp [Message.bytes, Packet.serialize])]
  exact message.firstByte_type

theorem Readable.registered {message : Message} (readable : Readable message) :
    message.packetClass.Registered := by
  have built := readable [] (fun _ => 0) 0
  cases selected : constructorFor message.packetClass.packetType.toByte with
  | none =>
      rw [← storeOf_message_bytes_zero message [] (fun _ => 0)] at selected
      rw [(readPacket_of_unregistered _ _ _ _ selected).1] at built
      contradiction
  | some packetClass =>
      rw [PacketClass.Registered, selected, constructorFor_packetType selected]

theorem readable_of_registered {message : Message}
    (registered : message.packetClass.Registered) : Readable message := by
  intro trailing behind packetlen
  have held := (holds_append_iff _ 0 _ _).mp
    (holds_storeOf (message.bytes .littleEndian ++ trailing) behind)
  have selected : constructorFor (storeOf (message.bytes .littleEndian ++ trailing) behind 0) =
      some message.packetClass := by
    rw [storeOf_message_bytes_zero]
    exact registered
  rw [(readPacket_of_registered _ _ _ _ selected).1,
    deserialize_message_bytes message _ held.1]

/-- Exactly the messages of the registered classes are readable. -/
theorem readable_iff_registered (message : Message) :
    Readable message ↔ message.packetClass.Registered :=
  ⟨Readable.registered, readable_of_registered⟩

/-- The leave packet that a kick sends to every client cannot be read by one. -/
theorem not_readable_playerDidLeave : ¬ ∀ message : Message, Readable message := by
  intro claimed
  have registered := (claimed (.playerDidLeave 1)).registered
  revert registered
  decide

end LegendOfStealth.Protocol

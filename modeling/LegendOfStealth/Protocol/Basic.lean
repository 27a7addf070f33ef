import Mathlib.Data.BitVec

/-!
# Bytes, double words and host byte order

The protocol moves 4-byte cells between host memory and the network with
`htonl` and `ntohl`, and single bytes through a raw pointer to a cell.  Both
depend on the byte order of the host, so every definition that looks at memory
takes the host as an explicit argument.
-/

namespace LegendOfStealth.Protocol

/-- `typedef unsigned char byte`. -/
abbrev Byte := BitVec 8

/-- A 4-byte cell, as the value that the host reads from it. -/
abbrev Dword := BitVec 32

/-- The byte order of the machine a program runs on. -/
inductive Host where
  | littleEndian
  | bigEndian
  deriving DecidableEq, Repr

/-- The transport-layer protocols of `TLProtocol`. -/
inductive TLProtocol where
  | udp
  | tcp
  deriving DecidableEq, Repr

/-- The values of `Team`. -/
inductive Team where
  | spy
  | merc
  deriving DecidableEq, Repr

/-- The numeric value of a `Team`, which is what an `unsigned` field stores. -/
def Team.toDword : Team → Dword
  | .spy => 0
  | .merc => 1

/-- The values of `ProtocolPhase`. -/
inductive ProtocolPhase where
  | none
  | negot
  | lobby
  | game
  deriving DecidableEq, Repr

/-- The `i`-th least significant byte of a double word. -/
def byteOf (value : Dword) (i : Nat) : Byte :=
  value.extractLsb' (8 * i) 8

/-- The double word with the given bytes, most significant first. -/
def ofBytes (b₃ b₂ b₁ b₀ : Byte) : Dword :=
  b₃ ++ b₂ ++ b₁ ++ b₀

/-- The four bytes of a cell at increasing addresses. -/
def store : Host → Dword → List Byte
  | .littleEndian, value => [byteOf value 0, byteOf value 1, byteOf value 2, byteOf value 3]
  | .bigEndian, value => [byteOf value 3, byteOf value 2, byteOf value 1, byteOf value 0]

/-- The value of a cell whose bytes at increasing addresses are given. -/
def load : Host → Byte → Byte → Byte → Byte → Dword
  | .littleEndian, m₀, m₁, m₂, m₃ => ofBytes m₃ m₂ m₁ m₀
  | .bigEndian, m₀, m₁, m₂, m₃ => ofBytes m₀ m₁ m₂ m₃

/-- Host to network byte order: a byte swap on a little-endian host only. -/
def htonl : Host → Dword → Dword
  | .littleEndian, value =>
      ofBytes (byteOf value 0) (byteOf value 1) (byteOf value 2) (byteOf value 3)
  | .bigEndian, value => value

/-- Network to host byte order, which is the same permutation. -/
def ntohl (host : Host) (value : Dword) : Dword :=
  htonl host value

/-- The byte a raw pointer to a 4-byte cell reads: the one at the lowest address. -/
def firstByte : Host → Dword → Byte
  | .littleEndian, value => byteOf value 0
  | .bigEndian, value => byteOf value 3

/-- Writing through a raw byte pointer changes the byte at the lowest address
and leaves the other three. -/
def setFirstByte : Host → Dword → Byte → Dword
  | .littleEndian, value, b => ofBytes (byteOf value 3) (byteOf value 2) (byteOf value 1) b
  | .bigEndian, value, b => ofBytes b (byteOf value 2) (byteOf value 1) (byteOf value 0)

@[simp]
theorem ofBytes_byteOf (value : Dword) :
    ofBytes (byteOf value 3) (byteOf value 2) (byteOf value 1) (byteOf value 0) = value := by
  apply BitVec.eq_of_getLsbD_eq
  intro i bound
  simp only [ofBytes, byteOf, BitVec.getLsbD_append, BitVec.getLsbD_extractLsb']
  grind

private theorem byteOf_ofBytes (b₃ b₂ b₁ b₀ : Byte) :
    byteOf (ofBytes b₃ b₂ b₁ b₀) 0 = b₀ ∧ byteOf (ofBytes b₃ b₂ b₁ b₀) 1 = b₁ ∧
      byteOf (ofBytes b₃ b₂ b₁ b₀) 2 = b₂ ∧ byteOf (ofBytes b₃ b₂ b₁ b₀) 3 = b₃ := by
  refine ⟨?_, ?_, ?_, ?_⟩ <;>
  · apply BitVec.eq_of_getLsbD_eq
    intro i bound
    simp only [ofBytes, byteOf, BitVec.getLsbD_append, BitVec.getLsbD_extractLsb']
    grind

@[simp]
theorem byteOf_ofBytes_zero (b₃ b₂ b₁ b₀ : Byte) : byteOf (ofBytes b₃ b₂ b₁ b₀) 0 = b₀ :=
  (byteOf_ofBytes b₃ b₂ b₁ b₀).1

@[simp]
theorem byteOf_ofBytes_one (b₃ b₂ b₁ b₀ : Byte) : byteOf (ofBytes b₃ b₂ b₁ b₀) 1 = b₁ :=
  (byteOf_ofBytes b₃ b₂ b₁ b₀).2.1

@[simp]
theorem byteOf_ofBytes_two (b₃ b₂ b₁ b₀ : Byte) : byteOf (ofBytes b₃ b₂ b₁ b₀) 2 = b₂ :=
  (byteOf_ofBytes b₃ b₂ b₁ b₀).2.2.1

@[simp]
theorem byteOf_ofBytes_three (b₃ b₂ b₁ b₀ : Byte) : byteOf (ofBytes b₃ b₂ b₁ b₀) 3 = b₃ :=
  (byteOf_ofBytes b₃ b₂ b₁ b₀).2.2.2

@[simp]
theorem ntohl_htonl (host : Host) (value : Dword) : ntohl host (htonl host value) = value := by
  cases host <;> simp [ntohl, htonl]

/-- The four bytes a host pushes for a cell in network order are its bytes from
the most significant down, whatever the host. -/
theorem store_htonl (host : Host) (value : Dword) :
    store host (htonl host value) =
      [byteOf value 3, byteOf value 2, byteOf value 1, byteOf value 0] := by
  cases host <;> simp [store, htonl]

@[simp]
theorem firstByte_setFirstByte (host : Host) (value : Dword) (b : Byte) :
    firstByte host (setFirstByte host value b) = b := by
  cases host <;> simp [firstByte, setFirstByte]

@[simp]
theorem setFirstByte_firstByte (host : Host) (value : Dword) :
    setFirstByte host value (firstByte host value) = value := by
  cases host <;> simp [firstByte, setFirstByte]

end LegendOfStealth.Protocol

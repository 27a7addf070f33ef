import LegendOfStealth.Protocol.Packet

/-!
# Receiving bytes

`Socket::GetData` copies received bytes into a fresh buffer.  On TCP it keeps
reading, into a buffer twice as large, for as long as a call fills the length it
asked for; the running offset, the capacity and the last count are separate
variables and are updated in the order of the source.  The memory behind the
buffer is part of the store, so a write outside the capacity has a meaning here
and is recorded by its window.
-/

namespace LegendOfStealth.Net

open LegendOfStealth.Library LegendOfStealth.Protocol

/-- What one call of `SDLNet_TCP_Recv` or `SDLNet_UDP_Recv` finds. -/
inductive Recv where
  | data (chunk : List Byte)
  | closed
  | error
  deriving DecidableEq, Repr

/-- The value that `SDLNet_TCP_Recv` returns. -/
def Recv.num : Recv → Int
  | .data chunk => chunk.length
  | .closed => 0
  | .error => -1

/-- The bytes that a call stores. -/
def Recv.chunk : Recv → List Byte
  | .data chunk => chunk
  | .closed | .error => []

theorem Recv.num_pos_of_head {recv : Recv} {byte : Byte} (first : recv.chunk.head? = some byte) :
    0 < recv.num := by
  cases recv with
  | data chunk =>
      cases chunk with
      | nil => contradiction
      | cons byte rest => exact Int.natCast_pos.mpr (Nat.succ_pos _)
  | closed => contradiction
  | error => contradiction

/-- Overwrite a store with a chunk from a position on. -/
def writeAt (memory : Nat → Byte) (position : Nat) (chunk : List Byte) : Nat → Byte :=
  fun i => if position ≤ i then chunk.getD (i - position) (memory i) else memory i

theorem writeAt_zero (memory : Nat → Byte) (chunk : List Byte) :
    writeAt memory 0 chunk = storeOf chunk memory := by
  funext i
  simp [writeAt, storeOf]

/-- The part of the buffer that a receive call may write, and the capacity that
the buffer has at that moment. -/
structure Window where
  offset : Int
  length : Nat
  capacity : Nat
  deriving DecidableEq, Repr

/-- The window lies inside the buffer. -/
def Window.Fits (window : Window) : Prop :=
  0 ≤ window.offset ∧ window.offset + window.length ≤ window.capacity

instance : DecidablePred Window.Fits := fun window =>
  inferInstanceAs (Decidable (0 ≤ window.offset ∧ window.offset + window.length ≤ window.capacity))

/-- The local variables of the TCP branch.  `windows` records the write window
of every receive call made so far. -/
structure ReceiveState where
  memory : Nat → Byte
  maxlen : Nat
  totread : Int
  num : Int
  windows : List Window

namespace ReceiveState

/-- The state after the first call, which asks for 128 bytes. -/
def first (memory : Nat → Byte) (recv : Recv) : ReceiveState where
  memory := writeAt memory 0 recv.chunk
  maxlen := 128
  totread := recv.num
  num := recv.num
  windows := [⟨0, 128, 128⟩]

/-- One pass through the loop body: the count of the previous call is added to
the offset, the buffer is doubled, and the next call writes at the offset. -/
def again (state : ReceiveState) (recv : Recv) : ReceiveState :=
  let totread := state.totread + state.num
  let maxlen := state.maxlen * 2
  { memory := writeAt state.memory totread.toNat recv.chunk
    maxlen := maxlen
    totread := totread
    num := recv.num
    windows := state.windows ++ [⟨totread, maxlen, maxlen⟩] }

end ReceiveState

/-- `while (num == maxlen)`, given what the coming receive calls find.  The
result is absent when the loop asks for more than was given: the call blocks. -/
def receiveLoop : List Recv → ReceiveState → Option (ReceiveState × List Recv)
  | [], state => if state.num = state.maxlen then none else some (state, [])
  | recv :: rest, state =>
      if state.num = state.maxlen then receiveLoop rest (state.again recv)
      else some (state, recv :: rest)

/-- The TCP branch of `GetData`, on fresh memory with arbitrary content. -/
def getDataTCP (memory : Nat → Byte) : List Recv → Option (ReceiveState × List Recv)
  | [] => none
  | recv :: rest => receiveLoop rest (ReceiveState.first memory recv)

/-- The size that the UDP branch allocates for a datagram. -/
def udpPacketSize : Nat := 1024

/-- The UDP branch of `GetData`: the copied datagram, if one was received. -/
def getDataUDP : Recv → Option (List Byte)
  | .data datagram => some (datagram.take udpPacketSize)
  | .closed | .error => none

/-- Every receive call fills what it is asked for, first `maxlen` bytes and then twice
as much each time. -/
def Fills : Nat → List Recv → Prop
  | _, [] => True
  | maxlen, recv :: rest => recv.num = maxlen ∧ Fills (maxlen * 2) rest

theorem receiveLoop_eq_none_iff {recvs : List Recv} {state : ReceiveState} :
    receiveLoop recvs state = none ↔
      state.num = state.maxlen ∧ Fills (state.maxlen * 2) recvs := by
  induction recvs generalizing state with
  | nil => simp [receiveLoop, Fills]
  | cons recv rest ih =>
      rw [receiveLoop]
      by_cases full : state.num = state.maxlen
      · rw [if_pos full, ih, and_iff_right full]
        rfl
      · rw [if_neg full]
        simp [full]

/-- The TCP branch blocks exactly when the receive calls keep filling the buffer until
there is nothing left. -/
theorem getDataTCP_eq_none_iff {memory : Nat → Byte} {recvs : List Recv} :
    getDataTCP memory recvs = none ↔ Fills 128 recvs := by
  cases recvs with
  | nil => exact ⟨fun _ => trivial, fun _ => rfl⟩
  | cons recv rest =>
      rw [getDataTCP, receiveLoop_eq_none_iff]
      rfl

theorem receiveLoop_memory_zero {recvs rest : List Recv} {state result : ReceiveState}
    (begun : 0 < state.totread) (asked : 0 < state.maxlen)
    (returned : receiveLoop recvs state = some (result, rest)) :
    0 < result.totread ∧ result.memory 0 = state.memory 0 := by
  induction recvs generalizing state with
  | nil =>
      rw [receiveLoop] at returned
      split at returned
      · contradiction
      · cases returned
        exact ⟨begun, rfl⟩
  | cons recv recvs ih =>
      rw [receiveLoop] at returned
      split at returned
      · rename_i full
        have further : 0 < (state.again recv).totread := by
          change 0 < state.totread + state.num
          omega
        have doubled : 0 < (state.again recv).maxlen := by
          change 0 < state.maxlen * 2
          omega
        rcases ih further doubled returned with ⟨positive, kept⟩
        refine ⟨positive, kept.trans ?_⟩
        change writeAt state.memory (state.again recv).totread.toNat recv.chunk 0 = state.memory 0
        rw [writeAt, if_neg (by omega)]
      · cases returned
        exact ⟨begun, rfl⟩

theorem getDataTCP_of_not_pos {recv : Recv} (nothing : ¬ 0 < recv.num) (memory : Nat → Byte)
    (recvs : List Recv) :
    getDataTCP memory (recv :: recvs) = some (ReceiveState.first memory recv, recvs) := by
  have notFull : (ReceiveState.first memory recv).num ≠ (ReceiveState.first memory recv).maxlen := by
    change recv.num ≠ 128
    omega
  rw [getDataTCP]
  cases recvs with
  | nil => rw [receiveLoop, if_neg notFull]
  | cons next later => rw [receiveLoop, if_neg notFull]

/-- The branch reports a positive length exactly when the first call delivers
something, and the buffer starts with the first byte of that. -/
theorem getDataTCP_start {memory : Nat → Byte} {recv : Recv} {recvs rest : List Recv}
    {result : ReceiveState} (returned : getDataTCP memory (recv :: recvs) = some (result, rest)) :
    (0 < result.totread ↔ 0 < recv.num) ∧
      (0 < recv.num → some (result.memory 0) = recv.chunk.head?) := by
  by_cases delivers : 0 < recv.num
  · rcases receiveLoop_memory_zero delivers (show 0 < 128 by decide) returned with ⟨positive, kept⟩
    refine ⟨iff_of_true positive delivers, fun _ => ?_⟩
    rw [kept]
    cases recv with
    | data chunk =>
        cases chunk with
        | nil => contradiction
        | cons byte more => rfl
    | closed => contradiction
    | error => contradiction
  · rw [getDataTCP_of_not_pos delivers] at returned
    cases returned
    exact ⟨Iff.rfl, fun positive => absurd positive delivers⟩

/-! ## Bursts -/

/-- The chunks of one burst, for a loop that first asks for `maxlen` bytes: each
call but the last is filled, the last delivers something but does not fill. -/
def Burst : Nat → List (List Byte) → Prop
  | _, [] => False
  | maxlen, [last] => 1 ≤ last.length ∧ last.length < maxlen
  | maxlen, chunk :: next :: rest => chunk.length = maxlen ∧ Burst (maxlen * 2) (next :: rest)

/-- The TCP branch delivers a burst: it returns, reports the number of received
bytes, leaves them at the start of the buffer, and never asks a receive call to
write outside it. -/
structure DeliversBurst (memory : Nat → Byte) (chunks : List (List Byte))
    (result : ReceiveState) : Prop where
  returns : getDataTCP memory (chunks.map .data) = some (result, [])
  length : result.totread = chunks.flatten.length
  content : Holds result.memory 0 chunks.flatten
  windows : ∀ window ∈ result.windows, window.Fits

/-- The loop only adds windows. -/
theorem receiveLoop_windows {recvs rest : List Recv} {state result : ReceiveState}
    (returned : receiveLoop recvs state = some (result, rest)) :
    ∀ window ∈ state.windows, window ∈ result.windows := by
  induction recvs generalizing state with
  | nil =>
      simp only [receiveLoop] at returned
      split at returned
      · contradiction
      · cases returned
        exact fun _ member => member
  | cons recv recvs ih =>
      simp only [receiveLoop] at returned
      split at returned
      · intro window member
        exact ih returned window (List.mem_append_left _ member)
      · cases returned
        exact fun _ member => member

/-- The second window of a burst does not fit the doubled buffer. -/
theorem not_fits_second : ¬ (⟨256, 256, 256⟩ : Window).Fits := by
  decide

/-- After a filled first call the loop writes from byte 256 on, because the
first 128 bytes are counted twice, into a buffer of 256 bytes. -/
theorem receiveLoop_first_full {memory : Nat → Byte} {chunk : List Byte} {recv : Recv}
    {recvs rest : List Recv} {result : ReceiveState} (full : chunk.length = 128)
    (returned : receiveLoop (recv :: recvs) (ReceiveState.first memory (.data chunk)) =
      some (result, rest)) :
    (⟨256, 256, 256⟩ : Window) ∈ result.windows := by
  have entered : (ReceiveState.first memory (.data chunk)).num =
      (ReceiveState.first memory (.data chunk)).maxlen := by
    simp [ReceiveState.first, Recv.num, full]
  rw [receiveLoop, if_pos entered] at returned
  exact receiveLoop_windows returned _ (by
    simp [ReceiveState.again, ReceiveState.first, Recv.num, full])

/-- `GetData` delivers a burst exactly when the first receive call returns fewer
than 128 bytes. -/
theorem getDataTCP_delivers_iff (memory : Nat → Byte) (chunk : List Byte)
    (rest : List (List Byte)) (burst : Burst 128 (chunk :: rest)) :
    (∃ result, DeliversBurst memory (chunk :: rest) result) ↔ chunk.length < 128 := by
  constructor
  · rintro ⟨result, delivers⟩
    cases rest with
    | nil => exact burst.2
    | cons next rest =>
        exact absurd (delivers.windows _ (receiveLoop_first_full burst.1 delivers.returns))
          not_fits_second
  · intro short
    cases rest with
    | cons next rest =>
        have full : chunk.length = 128 := burst.1
        omega
    | nil =>
        have notEntered : ¬ (chunk.length : Int) = 128 := by omega
        refine ⟨ReceiveState.first memory (.data chunk), ?_, ?_, ?_, ?_⟩
        · simp [getDataTCP, receiveLoop, ReceiveState.first, Recv.num, notEntered]
        · simp [ReceiveState.first, Recv.num]
        · simpa [ReceiveState.first, Recv.chunk, writeAt_zero] using holds_storeOf chunk memory
        · simp [ReceiveState.first, Window.Fits]

/-- A burst of three bytes is delivered. -/
theorem getDataTCP_delivers_three :
    Burst 128 [[1, 2, 3]] ∧ ∃ result, DeliversBurst (fun _ => 0) [[1, 2, 3]] result :=
  ⟨by simp [Burst], (getDataTCP_delivers_iff (fun _ => 0) [1, 2, 3] [] (by simp [Burst])).mpr
    (by decide)⟩

/-- A burst of 129 bytes is not delivered. -/
theorem not_getDataTCP_delivers_burst :
    ¬ ∀ (memory : Nat → Byte) (chunks : List (List Byte)), Burst 128 chunks →
      ∃ result, DeliversBurst memory chunks result := by
  intro claimed
  have burst : Burst 128 [List.replicate 128 1, [1]] := by simp [Burst]
  obtain ⟨result, delivers⟩ := claimed (fun _ => 0) _ burst
  exact not_fits_second (delivers.windows _
    (receiveLoop_first_full (by simp) delivers.returns))

end LegendOfStealth.Net

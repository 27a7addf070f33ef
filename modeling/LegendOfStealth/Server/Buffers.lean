import LegendOfStealth.Library.Heap
import LegendOfStealth.Library.Transition
import LegendOfStealth.Server.Loop

/-!
# Who releases the outgoing buffers

`Serialize` returns an array that its caller is to release, and `SendPacket(byte*, int)`
releases what it is given.  `SendPacketQueue` gives it the storage of a queue, which
stays the queue's; `AddPacketToQueue` releases the array it was returned nowhere.

The functions of this module are those of the client, with the memory that they
allocate, use and release beside the data.
-/

namespace LegendOfStealth.Server

open LegendOfStealth.Library LegendOfStealth.Net LegendOfStealth.Protocol

/-- The capacity that a full vector moves to. -/
abbrev Growth := Nat → Nat

/-- The storage of a `vector<byte>`: none until the first byte is pushed. -/
structure Storage where
  block : Option Nat
  capacity : Nat
  deriving DecidableEq, Repr

namespace Storage

/-- The storage of a new vector. -/
def empty : Storage :=
  ⟨none, 0⟩

/-- `push_back` on a vector of `size` bytes. -/
def pushBack (growth : Growth) (size : Nat) (storage : Storage) (heap : Heap) : Storage × Heap :=
  if size = storage.capacity then
    -- the bytes move to a new block, and the old one is released
    let block := heap.allocated
    let heap := heap.allocate
    let heap :=
      match storage.block with
      | some old => (heap.access old).release old
      | none => heap
    (⟨some block, growth storage.capacity⟩, heap.access block)
  else
    match storage.block with
    | some block => (storage, heap.access block)
    | none => (storage, heap)

/-- Push bytes one by one. -/
def pushAll (growth : Growth) : Nat → Nat → Storage → Heap → Storage × Heap
  | 0, _, storage, heap => (storage, heap)
  | count + 1, size, storage, heap =>
      let pushed := storage.pushBack growth size heap
      pushAll growth count (size + 1) pushed.1 pushed.2

/-- The end of a vector's life. -/
def destroy (storage : Storage) (heap : Heap) : Heap :=
  match storage.block with
  | some block => heap.release block
  | none => heap

/-- What the vector is to release. -/
def owned (storage : Storage) : List Nat :=
  storage.block.toList

/-- A `push_back` releases a block that it replaces and uses no other than its own. -/
theorem keeps_pushBack (growth : Growth) (size : Nat) (storage : Storage) (heap : Heap) :
    Heap.Keeps heap storage.owned (storage.pushBack growth size heap).2
      (storage.pushBack growth size heap).1.owned := by
  rcases storage with ⟨block, capacity⟩
  simp only [pushBack, owned]
  by_cases full : size = capacity
  · rw [if_pos full]
    cases block with
    | none =>
        exact (Heap.keeps_allocate heap []).trans (Heap.keeps_access List.mem_cons_self)
    | some old =>
        let fresh := heap.allocated
        have moved : Heap.Keeps heap [old] heap.allocate [old, fresh] :=
          (Heap.keeps_allocate heap [old]).reorder (.refl _) (.swap ..)
        have copied : Heap.Keeps heap.allocate [old, fresh] (heap.allocate.access old)
            [old, fresh] := Heap.keeps_access List.mem_cons_self
        exact moved.trans (copied.trans ((Heap.keeps_release _ [fresh] old).trans
          (Heap.keeps_access List.mem_cons_self)))
  · rw [if_neg full]
    cases block with
    | none => exact .refl heap []
    | some block => exact Heap.keeps_access List.mem_cons_self

theorem keeps_pushAll (growth : Growth) (count size : Nat) (storage : Storage) (heap : Heap) :
    Heap.Keeps heap storage.owned (storage.pushAll growth count size heap).2
      (storage.pushAll growth count size heap).1.owned := by
  induction count generalizing size storage heap with
  | zero => exact .refl heap _
  | succ count ih =>
      exact (storage.keeps_pushBack growth size heap).trans (ih (size + 1) _ _)

theorem keeps_destroy (storage : Storage) (heap : Heap) :
    Heap.Keeps heap storage.owned (storage.destroy heap) [] := by
  rcases storage with ⟨_ | block, capacity⟩
  · exact .refl heap []
  · exact heap.keeps_release [] block

/-- A vector of `size` bytes without storage is empty and has no capacity. -/
def Housed (storage : Storage) (size : Nat) : Prop :=
  storage.block = none → storage.capacity = 0 ∧ size = 0

theorem housed_empty : empty.Housed 0 :=
  fun _ => ⟨rfl, rfl⟩

theorem housed_pushBack (growth : Growth) {size : Nat} {storage : Storage} (heap : Heap)
    (housed : storage.Housed size) : (storage.pushBack growth size heap).1.Housed (size + 1) := by
  rcases storage with ⟨block, capacity⟩
  simp only [pushBack]
  split
  · exact nofun
  · rename_i room
    cases block with
    | none =>
        rcases housed rfl with ⟨unreserved, nothing⟩
        exact absurd (nothing.trans unreserved.symm) room
    | some block => exact nofun

theorem housed_pushAll (growth : Growth) (count : Nat) {size : Nat} {storage : Storage}
    (heap : Heap) (housed : storage.Housed size) :
    (storage.pushAll growth count size heap).1.Housed (size + count) := by
  induction count generalizing size storage heap with
  | zero => exact housed
  | succ count ih =>
      rw [pushAll, ← Nat.add_assoc, Nat.add_right_comm]
      exact ih _ (housed_pushBack growth heap housed)

end Storage

/-- `Serialize`, for a packet of some length: the bytes are collected in a local vector
and copied into the array that is returned. -/
def serializeBuffer (growth : Growth) (length : Nat) (heap : Heap) : Nat × Heap :=
  let buffer := Storage.empty.pushAll growth length 0 heap
  let array := buffer.2.allocated
  let heap := buffer.2.allocate
  let heap :=
    match buffer.1.block with
    | some block => (heap.access block).access array
    | none => heap
  (array, buffer.1.destroy heap)

/-- The array that `Serialize` returns is for the caller to release. -/
theorem keeps_serializeBuffer (growth : Growth) (length : Nat) (heap : Heap) :
    Heap.Keeps heap [] (serializeBuffer growth length heap).2
      [(serializeBuffer growth length heap).1] := by
  have collected := Storage.empty.keeps_pushAll growth length 0 heap
  simp only [serializeBuffer]
  generalize Storage.empty.pushAll growth length 0 heap = buffer at collected ⊢
  have allocated := Heap.keeps_allocate buffer.2 buffer.1.owned
  have copied : Heap.Keeps buffer.2.allocate (buffer.2.allocated :: buffer.1.owned)
      (match buffer.1.block with
        | some block => (buffer.2.allocate.access block).access buffer.2.allocated
        | none => buffer.2.allocate)
      (buffer.2.allocated :: buffer.1.owned) := by
    rcases buffer with ⟨⟨_ | block, capacity⟩, after⟩
    · exact .refl _ _
    · exact (Heap.keeps_access (List.mem_cons_of_mem _ List.mem_cons_self)).trans
        (Heap.keeps_access List.mem_cons_self)
  have destroyed := (buffer.1.keeps_destroy (match buffer.1.block with
    | some block => (buffer.2.allocate.access block).access buffer.2.allocated
    | none => buffer.2.allocate)).frame [buffer.2.allocated]
  exact collected.trans (allocated.trans (copied.trans
    (destroyed.reorder (List.perm_append_singleton _ _).symm (.refl _))))

theorem fresh_serializeBuffer (growth : Growth) (length : Nat) (heap : Heap) :
    heap.allocated ≤ (serializeBuffer growth length heap).1 ∧
      (serializeBuffer growth length heap).1 < (serializeBuffer growth length heap).2.allocated := by
  have collected := (Storage.empty.keeps_pushAll growth length 0 heap).grows
  simp only [serializeBuffer]
  generalize Storage.empty.pushAll growth length 0 heap = buffer at collected ⊢
  refine ⟨collected, ?_⟩
  rcases buffer with ⟨⟨_ | block, capacity⟩, after⟩
  · exact Nat.lt_succ_self _
  · simp [Storage.destroy, Heap.allocate]

/-- `SendPacket(byte*, int)`: the buffer is read and released. -/
def sendBuffer (buffer : Nat) (heap : Heap) : Heap :=
  (heap.access buffer).release buffer

theorem keeps_sendBuffer (buffer : Nat) (heap : Heap) :
    Heap.Keeps heap [buffer] (sendBuffer buffer heap) [] :=
  (Heap.keeps_access List.mem_cons_self).trans (Heap.keeps_release _ [] buffer)

/-- The queue for a transport protocol. -/
def Client.queue (proto : TLProtocol) (client : Client) : List Byte :=
  match proto with
  | .tcp => client.tcpPktQueue
  | .udp => client.udpPktQueue

theorem Client.queue_addPacketToQueue (host : Host) (proto : TLProtocol) (packet : Packet)
    (client : Client) :
    (client.addPacketToQueue host proto packet).queue proto =
      client.queue proto ++ packet.serialize host := by
  cases proto <;> rfl

theorem Client.queue_sendPacketQueue_of_ne {proto other : TLProtocol} (differ : other ≠ proto)
    (transport : Transport) (client : Client) :
    (client.sendPacketQueue proto transport).2.queue other = client.queue other := by
  cases proto <;> cases other <;> first | contradiction | (simp only [sendPacketQueue]; split <;> rfl)

/-- A client, the storage of its queues, and the heap. -/
structure BufferedClient where
  client : Client
  tcpStorage : Storage
  udpStorage : Storage
  heap : Heap

namespace BufferedClient

/-- A client that was just made. -/
def start (client : Client) : BufferedClient :=
  ⟨client, .empty, .empty, .empty⟩

/-- The storage of the queue for a transport protocol. -/
def storage (proto : TLProtocol) (buffered : BufferedClient) : Storage :=
  match proto with
  | .tcp => buffered.tcpStorage
  | .udp => buffered.udpStorage

/-- The queue for a transport protocol has changed its storage. -/
def setStorage (proto : TLProtocol) (storage : Storage) (buffered : BufferedClient) :
    BufferedClient :=
  match proto with
  | .tcp => { buffered with tcpStorage := storage }
  | .udp => { buffered with udpStorage := storage }

/-- `AddPacketToQueue`. -/
def addPacketToQueue (host : Host) (growth : Growth) (proto : TLProtocol) (packet : Packet)
    (buffered : BufferedClient) : BufferedClient :=
  let len := (packet.serialize host).length
  let buf := serializeBuffer growth len buffered.heap
  let store := (buffered.storage proto).pushAll growth len (buffered.client.queue proto).length
    (buf.2.access buf.1)
  { buffered.setStorage proto store.1 with
    client := buffered.client.addPacketToQueue host proto packet
    heap := store.2 }

/-- `SendPacketQueue`: `&(*queue)[0]` is the storage of the queue. -/
def sendPacketQueue (proto : TLProtocol) (transport : Transport) (buffered : BufferedClient) :
    BufferedClient :=
  if buffered.client.queue proto = [] then buffered
  else
    { buffered with
      client := (buffered.client.sendPacketQueue proto transport).2
      heap :=
        match (buffered.storage proto).block with
        | some block => sendBuffer block buffered.heap
        | none => buffered.heap }

/-- `SendPacket`. -/
def sendPacket (host : Host) (growth : Growth) (packet : Packet) (transport : Transport)
    (buffered : BufferedClient) : BufferedClient :=
  let buf := serializeBuffer growth (packet.serialize host).length buffered.heap
  { buffered with
    client := (buffered.client.sendPacket host transport packet).2
    heap := sendBuffer buf.1 buf.2 }

/-- `~Client`: the queues are destroyed in the reverse order of their declaration. -/
def destroy (buffered : BufferedClient) : Heap :=
  buffered.tcpStorage.destroy (buffered.udpStorage.destroy buffered.heap)

/-- A call on a client, with the transport's answer. -/
inductive Call
  | addPacketToQueue (proto : TLProtocol) (packet : Packet)
  | sendPacketQueue (proto : TLProtocol) (transport : Transport)
  | sendPacket (packet : Packet) (transport : Transport)

/-- One call. -/
def call (host : Host) (growth : Growth) : Call → BufferedClient → BufferedClient
  | .addPacketToQueue proto packet => addPacketToQueue host growth proto packet
  | .sendPacketQueue proto transport => sendPacketQueue proto transport
  | .sendPacket packet transport => sendPacket host growth packet transport

/-- A sequence of calls. -/
def run (host : Host) (growth : Growth) (calls : List Call) (buffered : BufferedClient) :
    BufferedClient :=
  calls.foldl (fun buffered next => buffered.call host growth next) buffered

/-- The call puts a packet on a queue. -/
def Call.queues : Call → Bool
  | .addPacketToQueue _ _ => true
  | _ => false

/-- The call sends a queue that is not empty. -/
def Flushes (buffered : BufferedClient) : Call → Prop
  | .sendPacketQueue proto _ => buffered.client.queue proto ≠ []
  | _ => False

/-! ## What a call does to the heap -/

section Calls

variable {host : Host} {growth : Growth} {proto : TLProtocol} {packet : Packet}
  {transport : Transport} {buffered : BufferedClient}

/-- What the two queues are to release. -/
def owned (buffered : BufferedClient) : List Nat :=
  buffered.tcpStorage.owned ++ buffered.udpStorage.owned

/-- What the queue that is not concerned is to release. -/
def others (proto : TLProtocol) (buffered : BufferedClient) : List Nat :=
  match proto with
  | .tcp => buffered.udpStorage.owned
  | .udp => buffered.tcpStorage.owned

theorem owned_perm (proto : TLProtocol) (buffered : BufferedClient) :
    buffered.owned.Perm ((buffered.storage proto).owned ++ buffered.others proto) := by
  cases proto with
  | tcp => exact .refl _
  | udp => exact List.perm_append_comm

theorem owned_setStorage_perm (proto : TLProtocol) (storage : Storage)
    (buffered : BufferedClient) :
    (buffered.setStorage proto storage).owned.Perm (storage.owned ++ buffered.others proto) := by
  cases proto with
  | tcp => exact .refl _
  | udp => exact List.perm_append_comm

theorem keeps_sendPacket (host : Host) (growth : Growth) (packet : Packet) (transport : Transport)
    (buffered : BufferedClient) :
    Heap.Keeps buffered.heap buffered.owned
      (buffered.sendPacket host growth packet transport).heap
      (buffered.sendPacket host growth packet transport).owned :=
  ((keeps_serializeBuffer growth (packet.serialize host).length buffered.heap).trans
    (keeps_sendBuffer _ _)).frame buffered.owned

/-- The array that was serialized for a queue is nobody's. -/
theorem keeps_addPacketToQueue (host : Host) (growth : Growth) (proto : TLProtocol)
    (packet : Packet) (buffered : BufferedClient) :
    ∃ array, buffered.heap.allocated ≤ array ∧
      array < (buffered.addPacketToQueue host growth proto packet).heap.allocated ∧
        Heap.Keeps buffered.heap buffered.owned
          (buffered.addPacketToQueue host growth proto packet).heap
          (array :: (buffered.addPacketToQueue host growth proto packet).owned) := by
  let len := (packet.serialize host).length
  let buf := serializeBuffer growth len buffered.heap
  have fresh := fresh_serializeBuffer growth len buffered.heap
  have serialized : Heap.Keeps buffered.heap buffered.owned (buf.2.access buf.1)
      (buf.1 :: buffered.owned) :=
    ((keeps_serializeBuffer growth len buffered.heap).frame buffered.owned).trans
      (Heap.keeps_access List.mem_cons_self)
  have stored := ((buffered.storage proto).keeps_pushAll growth len
    (buffered.client.queue proto).length (buf.2.access buf.1)).frame
      (buf.1 :: buffered.others proto)
  refine ⟨buf.1, fresh.1, ?_, serialized.trans (stored.reorder ?_ ?_)⟩
  · have grows := stored.grows
    rw [Heap.allocated_access] at grows
    exact Nat.lt_of_lt_of_le fresh.2 grows
  · exact ((owned_perm proto buffered).cons _).trans List.perm_middle.symm
  · exact ((owned_setStorage_perm proto _ buffered).cons _).trans List.perm_middle.symm

/-- The books are in order: nothing is charged before it is allocated, names are used
only while they are live as long as nothing is charged twice, and a queue that is not
empty has storage. -/
structure Accounted (buffered : BufferedClient) : Prop where
  bounded : buffered.heap.Bounded buffered.owned
  honest : buffered.heap.Sole buffered.owned → buffered.heap.stale = []
  housed : ∀ proto, (buffered.storage proto).Housed (buffered.client.queue proto).length

/-- Everything allocated is released once, or waits for one of the queues to do so. -/
def Covered (buffered : BufferedClient) : Prop :=
  buffered.heap.Covered buffered.owned

/-- Nothing is released twice, counting what the queues will release. -/
def Sole (buffered : BufferedClient) : Prop :=
  buffered.heap.Sole buffered.owned

theorem accounted_sendPacket (accounted : buffered.Accounted) :
    (buffered.sendPacket host growth packet transport).Accounted := by
  have keeps := keeps_sendPacket host growth packet transport buffered
  constructor
  · exact keeps.bounded accounted.bounded
  · intro sole
    exact keeps.honest accounted.bounded accounted.honest
      ((keeps.sole_iff accounted.bounded).mp sole)
  · intro proto
    have housed := accounted.housed proto
    cases proto <;> exact housed

theorem accounted_addPacketToQueue (accounted : buffered.Accounted) :
    (buffered.addPacketToQueue host growth proto packet).Accounted ∧
      ((buffered.addPacketToQueue host growth proto packet).Sole ↔ buffered.Sole) ∧
        ¬ (buffered.addPacketToQueue host growth proto packet).Covered := by
  rcases keeps_addPacketToQueue host growth proto packet buffered with ⟨array, new, below, keeps⟩
  rcases keeps.lose accounted.bounded new below with ⟨bounded, sole, lost⟩
  refine ⟨⟨bounded, ?_, ?_⟩, sole, lost⟩
  · intro soleNext
    exact keeps.honest accounted.bounded accounted.honest (sole.mp soleNext)
  · let buf := serializeBuffer growth (packet.serialize host).length buffered.heap
    have stored := Storage.housed_pushAll growth (packet.serialize host).length
      (buf.2.access buf.1) (accounted.housed proto)
    rw [← List.length_append, ← Client.queue_addPacketToQueue] at stored
    intro other
    have housed := accounted.housed other
    cases proto <;> cases other <;> first | exact stored | exact housed

/-- Sending a queue that is not empty releases a block that the queue goes on to use. -/
theorem accounted_sendPacketQueue (accounted : buffered.Accounted)
    (nonempty : buffered.client.queue proto ≠ []) :
    (buffered.sendPacketQueue proto transport).Accounted ∧
      ((buffered.sendPacketQueue proto transport).Covered ↔ buffered.Covered) ∧
        ¬ (buffered.sendPacketQueue proto transport).Sole := by
  cases there : (buffered.storage proto).block with
  | none =>
      have empty := (accounted.housed proto there).2
      exact absurd (List.eq_nil_of_length_eq_zero empty) nonempty
  | some block =>
      have own : block ∈ buffered.owned := by
        apply (owned_perm proto buffered).mem_iff.mpr
        apply List.mem_append_left
        simp [Storage.owned, there]
      have heap : (buffered.sendPacketQueue proto transport).heap =
          (buffered.heap.access block).release block := by
        rw [sendPacketQueue, if_neg nonempty]
        simp only [there]
        rfl
      have owned : (buffered.sendPacketQueue proto transport).owned = buffered.owned := by
        rw [sendPacketQueue, if_neg nonempty]
        rfl
      have twice : ¬ (buffered.sendPacketQueue proto transport).Sole := by
        rw [Sole, heap, owned]
        exact Heap.not_sole_release own
      have accessed : Heap.Keeps buffered.heap buffered.owned (buffered.heap.access block)
          buffered.owned := Heap.keeps_access own
      refine ⟨⟨?_, fun sole => absurd sole twice, ?_⟩, ?_, twice⟩
      · rw [heap, owned]
        exact Heap.bounded_release (accessed.bounded accounted.bounded) own
      · intro other
        have housed := accounted.housed other
        rw [sendPacketQueue, if_neg nonempty]
        by_cases same : other = proto
        · subst same
          intro unhoused
          exact absurd (unhoused.symm.trans there) nofun
        · rw [Client.queue_sendPacketQueue_of_ne same]
          cases other <;> exact housed
      · rw [Covered, heap, owned, Heap.covered_release_iff own, accessed.covered_iff]
        rfl

theorem sendPacketQueue_of_empty (empty : buffered.client.queue proto = []) :
    buffered.sendPacketQueue proto transport = buffered :=
  if_pos empty

theorem accounted_call (host : Host) (growth : Growth) (accounted : buffered.Accounted)
    (call : Call) :
    (buffered.call host growth call).Accounted ∧
      ((buffered.call host growth call).Sole ↔ buffered.Sole ∧ ¬ buffered.Flushes call) ∧
        ((buffered.call host growth call).Covered ↔ buffered.Covered ∧ call.queues = false) := by
  cases call with
  | addPacketToQueue proto packet =>
      rcases accounted_addPacketToQueue accounted with ⟨next, sole, lost⟩
      refine ⟨next, ?_, ?_⟩
      · exact sole.trans (and_iff_left not_false).symm
      · exact iff_of_false lost fun kept => Bool.false_ne_true kept.2.symm
  | sendPacketQueue proto transport =>
      by_cases empty : buffered.client.queue proto = []
      · have same : buffered.call host growth (.sendPacketQueue proto transport) = buffered :=
          sendPacketQueue_of_empty empty
        rw [same]
        refine ⟨accounted, ?_, ?_⟩
        · exact (and_iff_left (not_not.mpr empty)).symm
        · exact (and_iff_left rfl).symm
      · rcases accounted_sendPacketQueue accounted empty with ⟨next, covered, twice⟩
        refine ⟨next, ?_, ?_⟩
        · exact iff_of_false twice fun sole => sole.2 empty
        · exact covered.trans (and_iff_left rfl).symm
  | sendPacket packet transport =>
      have keeps := keeps_sendPacket host growth packet transport buffered
      refine ⟨accounted_sendPacket accounted, ?_, ?_⟩
      · exact (keeps.sole_iff accounted.bounded).trans (and_iff_left not_false).symm
      · exact keeps.covered_iff.trans (and_iff_left rfl).symm

end Calls

/-! ## Whole runs -/

section Runs

variable {host : Host} {growth : Growth} {buffered : BufferedClient}

theorem accounted_run (host : Host) (growth : Growth) (accounted : buffered.Accounted)
    (calls : List Call) :
    (buffered.run host growth calls).Accounted ∧
      ((buffered.run host growth calls).Covered ↔
        buffered.Covered ∧ ∀ call ∈ calls, call.queues = false) := by
  induction calls generalizing buffered with
  | nil => exact ⟨accounted, by simp [run]⟩
  | cons next rest ih =>
      rcases accounted_call host growth accounted next with ⟨after, -, covered⟩
      rcases ih after with ⟨final, coveredRest⟩
      refine ⟨final, coveredRest.trans ?_⟩
      rw [covered, List.forall_mem_cons, and_assoc]

/-- Nothing is released twice exactly when no queue is sent that is not empty. -/
theorem sole_run_iff (host : Host) (growth : Growth) (accounted : buffered.Accounted)
    (calls : List Call) :
    (buffered.run host growth calls).Sole ↔
      buffered.Sole ∧ Meets (fun next buffered => some (buffered.call host growth next))
        (fun buffered next => ¬ buffered.Flushes next) calls buffered := by
  induction calls generalizing buffered with
  | nil => exact (and_iff_left trivial).symm
  | cons next rest ih =>
      rcases accounted_call host growth accounted next with ⟨after, sole, -⟩
      rw [Meets, run, List.foldl_cons]
      exact (ih after).trans (by simp [sole, and_assoc])

/-- Without calls that queue a packet, the queues stay empty. -/
theorem meets_of_not_queues {calls : List Call} (empty : ∀ proto, buffered.client.queue proto = [])
    (never : ∀ call ∈ calls, call.queues = false) :
    Meets (fun next buffered => some (buffered.call host growth next))
      (fun buffered next => ¬ buffered.Flushes next) calls buffered := by
  induction calls generalizing buffered with
  | nil => trivial
  | cons next rest ih =>
      rcases List.forall_mem_cons.mp never with ⟨first, others⟩
      rintro _ ⟨rfl⟩
      cases next with
      | addPacketToQueue proto packet => contradiction
      | sendPacketQueue proto transport =>
          have same : buffered.call host growth (.sendPacketQueue proto transport) = buffered :=
            sendPacketQueue_of_empty (empty proto)
          rw [same]
          exact ⟨not_not.mpr (empty proto), ih empty others⟩
      | sendPacket packet transport =>
          refine ⟨not_false, ih ?_ others⟩
          intro proto
          have unqueued := empty proto
          cases proto <;> exact unqueued

theorem keeps_destroy (buffered : BufferedClient) :
    Heap.Keeps buffered.heap buffered.owned buffered.destroy [] := by
  have udp := (buffered.udpStorage.keeps_destroy buffered.heap).frame buffered.tcpStorage.owned
  have tcp := buffered.tcpStorage.keeps_destroy (buffered.udpStorage.destroy buffered.heap)
  exact (udp.reorder List.perm_append_comm (.refl _)).trans tcp

theorem clean_destroy_iff (accounted : buffered.Accounted) :
    buffered.destroy.Clean ↔ buffered.Sole ∧ buffered.Covered := by
  have keeps := keeps_destroy buffered
  have honest : buffered.destroy.Sole [] → buffered.destroy.stale = [] := fun sole =>
    keeps.honest accounted.bounded accounted.honest ((keeps.sole_iff accounted.bounded).mp sole)
  rw [Heap.clean_iff (keeps.bounded accounted.bounded) honest, keeps.sole_iff accounted.bounded,
    keeps.covered_iff]
  rfl

theorem accounted_start {client : Client} (empty : ∀ proto, client.queue proto = []) :
    (start client).Accounted ∧ (start client).Sole ∧ (start client).Covered := by
  refine ⟨⟨Heap.bounded_empty, fun _ => rfl, ?_⟩, Heap.sole_empty, Heap.covered_empty⟩
  intro proto
  have housed : ((start client).client.queue proto).length = 0 := congrArg List.length (empty proto)
  rw [housed]
  cases proto <;> exact Storage.housed_empty

end Runs

section Lifetime

variable {connection : Connection} {addr : Addr} {playerID : Dword} {team : Team}
  {udpPort : Dword} {tcpSocket : Socket} {client : Client}

/-- A client that was just made has two empty queues. -/
theorem queue_newClient
    (made : newClient connection addr playerID team udpPort tcpSocket = .ok client)
    (proto : TLProtocol) : client.queue proto = [] := by
  rcases newClient_eq_ok_iff.mp made with ⟨udpSocket, -, rfl⟩
  cases proto <;> rfl

/-- Over a client's whole life every array and every storage is released exactly once,
and not used afterwards, exactly when no packet is put on a queue. -/
theorem clean_lifetime_iff
    (made : newClient connection addr playerID team udpPort tcpSocket = .ok client) (host : Host)
    (growth : Growth) (calls : List Call) :
    ((start client).run host growth calls).destroy.Clean ↔
      ∀ call ∈ calls, call.queues = false := by
  have empty := queue_newClient made
  rcases accounted_start empty with ⟨accounted, sole, covered⟩
  rcases accounted_run host growth accounted calls with ⟨final, coveredRun⟩
  rw [clean_destroy_iff final, sole_run_iff host growth accounted, and_iff_right sole, coveredRun,
    and_iff_right covered]
  exact and_iff_right_of_imp (meets_of_not_queues empty)

/-- The first player's client, whose sockets were opened. -/
def firstClient : Client :=
  ⟨0, 1, .spy, 7, .ofHandle .tcp 0 [], .ofHandle .udp 0 [], [], [], []⟩

/-- A packet that is sent directly. -/
theorem clean_lifetime_sendPacket :
    newClient (.joining 7 fun _ => true) 0 1 .spy 7 (.ofHandle .tcp 0 []) = .ok firstClient ∧
      ((start firstClient).run .littleEndian (2 * · + 1)
        [.sendPacket (Client.joinResponse firstClient.player).packet acceptAll]).destroy.Clean := by
  have made : newClient (.joining 7 fun _ => true) 0 1 .spy 7 (.ofHandle .tcp 0 []) = .ok firstClient :=
    rfl
  refine ⟨made, (clean_lifetime_iff made _ _ _).mpr ?_⟩
  exact List.forall_mem_singleton.mpr rfl

/-- A packet that is queued and sent: the array is released never, the storage of the
queue twice. -/
theorem not_clean_lifetime_queued :
    ¬ ∀ (connection : Connection) (addr : Addr) (playerID : Dword) (team : Team)
        (udpPort : Dword) (tcpSocket : Socket) (client : Client) (host : Host) (growth : Growth)
        (calls : List Call),
      newClient connection addr playerID team udpPort tcpSocket = .ok client →
        ((start client).run host growth calls).destroy.Clean := by
  intro claimed
  have clean := claimed (.joining 7 fun _ => true) 0 1 .spy 7 (.ofHandle .tcp 0 []) firstClient
    .littleEndian (2 * · + 1)
    [.addPacketToQueue .tcp (Message.playerDidLeave 3).packet, .sendPacketQueue .tcp acceptAll] rfl
  revert clean
  decide

end Lifetime

end BufferedClient

end LegendOfStealth.Server

import LegendOfStealth.Net.Receive
import LegendOfStealth.Protocol.Factory
import Mathlib.Data.List.ReduceOption
import Mathlib.Logic.Relation

/-!
# Sockets and the parse loop

`Socket::GetPacket` first empties the packet queue.  Only then does it receive,
and cut the received bytes into packets by calling the packet reader until the
remaining length reaches zero or the reader gives up.  The loop has no counter,
so it is executed with fuel; "returns" always means that some fuel is enough.

The reader is a parameter of the loop.  `factoryReader` is the one that the
program uses.
-/

namespace LegendOfStealth.Net

open LegendOfStealth.Library LegendOfStealth.Protocol

/-- A packet reader: given the buffer from its pointer on, the remaining length
and the out-parameter, it returns a packet or `NULL` and the out-parameter. -/
abbrev Reader := (Nat → Byte) → Int → Int → Option Packet × Int

/-- `PacketFactory::ReadPacket` as a reader. -/
def factoryReader (host : Host) : Reader :=
  fun buffer bufferlen packetlen => (readPacket host bufferlen packetlen).value buffer

/-- The variables of the loop, with the socket's packet queue. -/
structure ParseState where
  len : Int
  read : Int
  pqueue : List Packet
  numRecv : Nat
  deriving DecidableEq

/-- The outcome of one pass: the loop condition fails, a packet was queued, or
the reader returned `NULL`. -/
inductive Pass where
  | finished
  | queued (state : ParseState)
  | untrusted

/-- The buffer as seen through `buf+read`. -/
def bufferFrom (memory : Nat → Byte) (read : Int) : Nat → Byte :=
  fun i => memory (read + i).toNat

@[simp]
theorem bufferFrom_zero (memory : Nat → Byte) : bufferFrom memory 0 = memory := by
  funext i
  simp [bufferFrom]

/-- One pass of `while (len > 0)`. -/
def parsePass (reader : Reader) (udpPacket : Option Nat) (memory : Nat → Byte)
    (state : ParseState) : Pass :=
  if 0 < state.len then
    match reader (bufferFrom memory state.read) state.len 0 with
    | (some packet, plen) =>
        .queued
          { len := state.len - plen
            read := state.read + plen
            pqueue := state.pqueue ++ [packet.setUdpPacket udpPacket]
            numRecv := state.numRecv + 1 }
    | (none, _) => .untrusted
  else .finished

/-- The loop with fuel: the final variables, and whether the data turned out not
to be trustworthy. -/
def parseLoop (reader : Reader) (udpPacket : Option Nat) (memory : Nat → Byte) :
    Nat → ParseState → Option (ParseState × Bool)
  | 0, _ => none
  | fuel + 1, state =>
      match parsePass reader udpPacket memory state with
      | .finished => some (state, false)
      | .queued next => parseLoop reader udpPacket memory fuel next
      | .untrusted => some (state, true)

/-- The variables before the first pass. -/
def ParseState.start (len : Int) (pqueue : List Packet) : ParseState :=
  ⟨len, 0, pqueue, 0⟩

/-- What the loop relies on for a received buffer: it ends, and every call that
returns a packet reports a consumed length between one and the remaining length. -/
structure ParsesBuffer (reader : Reader) (udpPacket : Option Nat) (memory : Nat → Byte)
    (len : Int) : Prop where
  terminates : ∃ fuel, (parseLoop reader udpPacket memory fuel (.start len [])).isSome
  consumes : ∀ state,
    Relation.ReflTransGen
        (fun state next => parsePass reader udpPacket memory state = .queued next)
        (.start len []) state →
      0 < state.len →
        ∀ packet plen,
          reader (bufferFrom memory state.read) state.len 0 = (some packet, plen) →
            1 ≤ plen ∧ plen ≤ state.len

/-- A reader that returns a packet and reports no consumed length keeps the loop
where it is, whatever has been queued. -/
theorem parseLoop_stuck {reader : Reader} {udpPacket : Option Nat} {memory : Nat → Byte}
    {state : ParseState} {packet : Packet} (positive : 0 < state.len)
    (stuck : reader (bufferFrom memory state.read) state.len 0 = (some packet, 0))
    (fuel : Nat) : parseLoop reader udpPacket memory fuel state = none := by
  induction fuel generalizing state with
  | zero => rfl
  | succ fuel ih =>
      rw [parseLoop, parsePass, if_pos positive, stuck]
      exact ih (by simpa using positive) (by simpa using stuck)

/-- A buffer whose first bytes the reader refuses is dropped in the first pass. -/
theorem parseLoop_untrusted {reader : Reader} {udpPacket : Option Nat} {memory : Nat → Byte}
    {state : ParseState} (positive : 0 < state.len)
    (refused : (reader (bufferFrom memory state.read) state.len 0).1 = none) (fuel : Nat) :
    parseLoop reader udpPacket memory (fuel + 1) state = some (state, true) := by
  rw [parseLoop, parsePass, if_pos positive]
  cases result : reader (bufferFrom memory state.read) state.len 0 with
  | mk packet plen =>
      rw [result] at refused
      cases refused
      rfl

theorem parseLoop_pqueue {reader : Reader} {udpPacket : Option Nat} {memory : Nat → Byte}
    {fuel : Nat} {state final : ParseState} {untrusted : Bool}
    (parsed : parseLoop reader udpPacket memory fuel state = some (final, untrusted)) :
    state.pqueue <+: final.pqueue := by
  induction fuel generalizing state with
  | zero => contradiction
  | succ fuel ih =>
      rw [parseLoop] at parsed
      split at parsed
      · cases parsed
        exact List.prefix_rfl
      · rename_i next pass
        have appended : state.pqueue <+: next.pqueue := by
          unfold parsePass at pass
          split at pass
          · split at pass
            · cases pass
              exact List.prefix_append ..
            · contradiction
          · contradiction
        exact appended.trans (ih parsed)
      · cases parsed
        exact List.prefix_rfl

/-- A reader that returns a packet for the start of the buffer leaves that packet
at the front of an empty queue. -/
theorem parseLoop_head {reader : Reader} {udpPacket : Option Nat} {memory : Nat → Byte}
    {fuel : Nat} {len : Int} {final : ParseState} {untrusted : Bool} {packet : Packet}
    (positive : 0 < len) (built : (reader memory len 0).1 = some packet)
    (parsed : parseLoop reader udpPacket memory fuel (.start len []) =
      some (final, untrusted)) :
    ∃ rest, final.pqueue = packet.setUdpPacket udpPacket :: rest := by
  cases fuel with
  | zero => contradiction
  | succ fuel =>
      have result : reader (bufferFrom memory (ParseState.start len []).read)
          (ParseState.start len []).len 0 = (some packet, (reader memory len 0).2) := by
        rw [← built]
        simp [ParseState.start]
      rw [parseLoop, parsePass, if_pos (show 0 < (ParseState.start len []).len from positive),
        result] at parsed
      rcases parseLoop_pqueue parsed with ⟨rest, appended⟩
      exact ⟨rest, appended.symm⟩

theorem factoryReader_of_unregistered (host : Host) {buffer : Nat → Byte}
    (unknown : constructorFor (buffer 0) = none) (len : Int) :
    factoryReader host buffer len 0 = (none, 0) :=
  (readPacket_of_unregistered host len 0 buffer unknown).1

/-- A registered first byte gives a packet and a reported length of zero. -/
theorem factoryReader_of_registered (host : Host) {buffer : Nat → Byte}
    {packetClass : PacketClass} (selected : constructorFor (buffer 0) = some packetClass)
    (len : Int) : ∃ packet, factoryReader host buffer len 0 = (some packet, 0) := by
  have isSome := (readPacket_isSome_iff host len 0 buffer).mpr (by rw [selected]; rfl)
  rcases Option.isSome_iff_exists.mp isSome with ⟨packet, built⟩
  exact ⟨packet, Prod.ext built (readPacket_packetlen host len 0 buffer)⟩

/-- The parse loop never ends exactly when there is something to parse and it starts
with the tag of a registered class. -/
theorem parseLoop_factoryReader_eq_none_iff {host : Host} {udpPacket : Option Nat}
    {memory : Nat → Byte} {len : Int} {pqueue : List Packet} :
    (∀ fuel, parseLoop (factoryReader host) udpPacket memory fuel (.start len pqueue) = none) ↔
      0 < len ∧ (constructorFor (memory 0)).isSome := by
  constructor
  · intro runs
    have once := runs 1
    by_cases positive : 0 < (ParseState.start len pqueue).len
    · refine ⟨positive, ?_⟩
      cases selected : constructorFor (memory 0) with
      | some packetClass => rfl
      | none =>
          have refused := factoryReader_of_unregistered host selected len
          rw [parseLoop_untrusted positive (by simp [ParseState.start, refused])] at once
          contradiction
    · rw [parseLoop, parsePass, if_neg positive] at once
      contradiction
  · rintro ⟨positive, registered⟩ fuel
    rcases Option.isSome_iff_exists.mp registered with ⟨packetClass, selected⟩
    rcases factoryReader_of_registered host selected len with ⟨packet, built⟩
    exact parseLoop_stuck positive (by simpa [ParseState.start] using built) fuel

/-- The parse loop handles a non-empty buffer as it should exactly when the first
byte is the tag of no registered class. -/
theorem parsesBuffer_factoryReader_iff (host : Host) (udpPacket : Option Nat)
    (received : List Byte) (behind : Nat → Byte) (nonempty : received ≠ []) :
    ParsesBuffer (factoryReader host) udpPacket (storeOf received behind) received.length ↔
      constructorFor (storeOf received behind 0) = none := by
  have positive : (0 : Int) < received.length := by
    have := List.length_pos_iff.mpr nonempty
    omega
  constructor
  · intro parses
    cases selected : constructorFor (storeOf received behind 0) with
    | none => rfl
    | some packetClass =>
        rcases factoryReader_of_registered host selected received.length with ⟨packet, built⟩
        have reported := parses.consumes _ .refl positive packet 0 (by
          simpa [ParseState.start] using built)
        omega
  · intro unknown
    let start := ParseState.start received.length []
    have startPositive : 0 < start.len := positive
    have refused : factoryReader host (bufferFrom (storeOf received behind) start.read)
        start.len 0 = (none, 0) := by
      simpa [start, ParseState.start] using
        factoryReader_of_unregistered host unknown received.length
    have stops : parsePass (factoryReader host) udpPacket (storeOf received behind) start =
        .untrusted := by
      rw [parsePass, if_pos startPositive, refused]
    refine ⟨⟨1, ?_⟩, ?_⟩
    · rw [parseLoop_untrusted startPositive (by rw [refused])]
      rfl
    · intro state reached stillPositive packet plen built
      cases reached.cases_head with
      | inl same =>
          subst same
          rw [refused] at built
          simp at built
      | inr later =>
          rcases later with ⟨next, pass, -⟩
          rw [stops] at pass
          contradiction

/-- A buffer that starts with an unregistered tag is parsed. -/
theorem parsesBuffer_unregistered :
    ([9, 1] : List Byte) ≠ [] ∧
      ParsesBuffer (factoryReader .littleEndian) none (storeOf [9, 1] fun _ => 0)
        ([9, 1] : List Byte).length :=
  ⟨by decide,
    (parsesBuffer_factoryReader_iff .littleEndian none [9, 1] (fun _ => 0) (by decide)).mpr
      (by decide)⟩

/-- A complete join request keeps the loop running forever. -/
theorem not_parsesBuffer_joinRequest :
    ¬ ∀ (host : Host) (udpPacket : Option Nat) (received : List Byte) (behind : Nat → Byte),
      received ≠ [] →
        ParsesBuffer (factoryReader host) udpPacket (storeOf received behind)
          received.length := by
  intro claimed
  obtain ⟨fuel, terminates⟩ :=
    (claimed .littleEndian none [1, 0, 0, 0, 7] (fun _ => 0) (by decide)).terminates
  have selected : constructorFor (storeOf ([1, 0, 0, 0, 7] : List Byte) (fun _ => 0) 0) =
      some .joinRequestPacket := by decide
  obtain ⟨packet, built⟩ := factoryReader_of_registered .littleEndian selected
    ([1, 0, 0, 0, 7] : List Byte).length
  rw [parseLoop_stuck (by decide) (by simpa [ParseState.start] using built)] at terminates
  contradiction

/-! ## Sockets -/

/-- A `Socket`.  `handle` is the connection behind `_tcp` or `_udp`, `incoming`
what the coming receive calls on it find, `sent` the bytes that the transport
has accepted from it, and `freed` the `UDPpacket`s that have been freed. -/
structure Socket where
  protocol : TLProtocol
  handle : Nat
  pqueue : List Packet
  tcpDisconnect : Bool
  incoming : List Recv
  sent : List Byte
  udpPackets : Nat
  freed : List Nat
  deriving DecidableEq

namespace Socket

/-- A socket object around an open handle. -/
def ofHandle (protocol : TLProtocol) (handle : Nat) (incoming : List Recv) : Socket :=
  ⟨protocol, handle, [], false, incoming, [], 0, []⟩

/-- `HasActivity`: queued packets, or something to receive. -/
def hasActivity (socket : Socket) : Bool :=
  !socket.pqueue.isEmpty || !socket.incoming.isEmpty

/-- `IsConnectionOpen`, for a socket whose `_tcp` is not `NULL`. -/
def isConnectionOpen (socket : Socket) : Bool :=
  !socket.tcpDisconnect

/-- The buffer, the length and the `UDPpacket` that `GetData` hands back. -/
structure Data where
  buf : Option (Nat → Byte)
  len : Int
  udpPacket : Option Nat

/-- `GetData`, on fresh memory with arbitrary content.  It is absent when a
receive call blocks. -/
def getData (memory : Nat → Byte) (socket : Socket) : Option (Data × Socket) :=
  match socket.protocol with
  | .udp =>
      match socket.incoming with
      | [] => none
      | recv :: rest =>
          let socket' := { socket with incoming := rest, udpPackets := socket.udpPackets + 1 }
          match getDataUDP recv with
          | some datagram =>
              some (⟨some (storeOf datagram memory), datagram.length, some socket.udpPackets⟩,
                socket')
          | none => some (⟨none, 0, some socket.udpPackets⟩, socket')
  | .tcp =>
      match getDataTCP memory socket.incoming with
      | none => none
      | some (state, rest) =>
          some (⟨some state.memory, state.totread, none⟩, { socket with incoming := rest })

/-- The first branch of `GetPacket`, and its last statement: pop the queue. -/
def popPacket (socket : Socket) : Option Packet × Socket :=
  match socket.pqueue with
  | [] => (none, socket)
  | packet :: rest => (some packet, { socket with pqueue := rest })

/-- `GetPacket`, with fuel for the parse loop.  It is absent when the call does
not return: a receive call blocks or the fuel does not suffice. -/
def getPacket (reader : Reader) (memory : Nat → Byte) (fuel : Nat) (socket : Socket) :
    Option (Option Packet × Socket) :=
  if socket.pqueue ≠ [] then some socket.popPacket
  else if !socket.hasActivity then some (none, socket)
  else
    match socket.getData memory with
    | none => none
    | some (data, socket) =>
        match data.buf with
        | none => some (none, { socket with tcpDisconnect := socket.protocol = .tcp })
        | some buf =>
            if data.len = 0 then
              some (none, { socket with tcpDisconnect := socket.protocol = .tcp })
            else
              match parseLoop reader data.udpPacket buf fuel (.start data.len socket.pqueue) with
              | none => none
              | some (state, untrusted) =>
                  some (popPacket
                    { socket with
                      pqueue := state.pqueue
                      freed := if untrusted then socket.freed ++ data.udpPacket.toList
                        else socket.freed })

/-- The outcome of a `GetPacket` call that returns.  Receiving keeps a socket's
protocol and handle and sends nothing, and a call that returns a packet has not
found the connection closed. -/
structure Received (socket : Socket) where
  packet : Option Packet
  after : Socket
  protocol : after.protocol = socket.protocol
  handle : after.handle = socket.handle
  sent : after.sent = socket.sent
  stillOpen : packet.isSome → after.tcpDisconnect = socket.tcpDisconnect

theorem popPacket_eq (socket : Socket) :
    ∃ pqueue, socket.popPacket.2 = { socket with pqueue := pqueue } := by
  unfold popPacket
  split
  · exact ⟨socket.pqueue, rfl⟩
  · rename_i rest _
    exact ⟨rest, rfl⟩

theorem getData_keeps {memory : Nat → Byte} {socket next : Socket} {data : Data}
    (received : socket.getData memory = some (data, next)) :
    next.protocol = socket.protocol ∧ next.handle = socket.handle ∧ next.sent = socket.sent ∧
      next.tcpDisconnect = socket.tcpDisconnect ∧ next.pqueue = socket.pqueue := by
  unfold getData at received
  split at received
  · split at received
    · contradiction
    · simp only at received
      split at received <;> cases received <;> simp
  · split at received
    · contradiction
    · cases received
      simp

theorem getPacket_keeps {reader : Reader} {memory : Nat → Byte} {fuel : Nat}
    {socket next : Socket} {packet : Option Packet}
    (returned : socket.getPacket reader memory fuel = some (packet, next)) :
    next.protocol = socket.protocol ∧ next.handle = socket.handle ∧ next.sent = socket.sent ∧
      (packet.isSome → next.tcpDisconnect = socket.tcpDisconnect) := by
  unfold getPacket at returned
  split at returned
  · rcases socket.popPacket_eq with ⟨pqueue, popped⟩
    simp only [Option.some.injEq] at returned
    rw [returned] at popped
    subst popped
    simp
  split at returned
  · cases returned
    simp
  split at returned
  · contradiction
  rename_i data received got
  rcases getData_keeps got with ⟨protocol, handle, sent, disconnect, -⟩
  split at returned
  · cases returned
    exact ⟨protocol, handle, sent, by simp⟩
  split at returned
  · cases returned
    exact ⟨protocol, handle, sent, by simp⟩
  split at returned
  · contradiction
  · obtain ⟨pqueue, popped⟩ := popPacket_eq
      { received with
        pqueue := _
        freed := _ }
    simp only [Option.some.injEq] at returned
    rw [returned] at popped
    subst popped
    exact ⟨protocol, handle, sent, fun _ => disconnect⟩

/-- The outcome of a call that leaves the socket as it is. -/
def Received.unchanged (packet : Option Packet) (socket : Socket) : Received socket :=
  ⟨packet, socket, rfl, rfl, rfl, fun _ => rfl⟩

/-- The outcome of a call of the modelled `GetPacket`. -/
def Received.ofGetPacket {reader : Reader} {memory : Nat → Byte} {fuel : Nat} {socket : Socket}
    {outcome : Option Packet × Socket}
    (returned : socket.getPacket reader memory fuel = some outcome) : Received socket where
  packet := outcome.1
  after := outcome.2
  protocol := (getPacket_keeps returned).1
  handle := (getPacket_keeps returned).2.1
  sent := (getPacket_keeps returned).2.2.1
  stillOpen := (getPacket_keeps returned).2.2.2

/-- A short chunk on a fresh TCP socket goes through the parse loop as a whole. -/
theorem getPacket_chunk (reader : Reader) (memory : Nat → Byte) (fuel handle : Nat)
    {chunk : List Byte} (nonempty : chunk ≠ []) (short : chunk.length < 128) :
    (ofHandle .tcp handle [.data chunk]).getPacket reader memory fuel =
      (parseLoop reader none (storeOf chunk memory) fuel (.start chunk.length [])).map
        fun result => popPacket { ofHandle .tcp handle [] with pqueue := result.1.pqueue } := by
  have notFull : ¬ (chunk.length : Int) = 128 := by omega
  have received : (ofHandle .tcp handle [.data chunk]).getData memory =
      some (⟨some (storeOf chunk memory), chunk.length, none⟩, ofHandle .tcp handle []) := by
    simp [getData, ofHandle, getDataTCP, receiveLoop, ReceiveState.first, Recv.num, Recv.chunk,
      notFull, writeAt_zero]
  have active : (ofHandle .tcp handle [.data chunk]).hasActivity = true := rfl
  have someBytes : ¬ (chunk.length : Int) = 0 := by
    have := List.length_pos_iff.mpr nonempty
    omega
  have idle : (ofHandle .tcp handle [.data chunk]).pqueue = [] := rfl
  have idle' : (ofHandle .tcp handle []).pqueue = [] := rfl
  rw [getPacket, if_neg (by simp [idle]), active, if_neg (by simp), received]
  simp only [if_neg someBytes, idle']
  cases parseLoop reader none (storeOf chunk memory) fuel (.start chunk.length []) with
  | none => rfl
  | some result =>
      simp [ofHandle]

/-- The first receive call delivers the tag of a registered class. -/
def StartsRegistered : List Recv → Prop
  | .data (tag :: _) :: _ => (constructorFor tag).isSome
  | _ => False

theorem startsRegistered_iff {recv : Recv} {rest : List Recv} :
    StartsRegistered (recv :: rest) ↔
      ∃ tag, recv.chunk.head? = some tag ∧ (constructorFor tag).isSome := by
  cases recv with
  | data chunk => cases chunk <;> simp [StartsRegistered, Recv.chunk]
  | closed => simp [StartsRegistered, Recv.chunk]
  | error => simp [StartsRegistered, Recv.chunk]

/-- On an idle TCP socket a call that has received something returns exactly when the
parse loop, if it is entered, ends. -/
theorem getPacket_eq_none_iff {reader : Reader} {memory : Nat → Byte} {fuel : Nat}
    {socket : Socket} {state : ReceiveState} {rest : List Recv} (tcp : socket.protocol = .tcp)
    (empty : socket.pqueue = []) (active : socket.incoming ≠ [])
    (got : getDataTCP memory socket.incoming = some (state, rest)) :
    socket.getPacket reader memory fuel = none ↔
      state.totread ≠ 0 ∧
        parseLoop reader none state.memory fuel (.start state.totread []) = none := by
  have data : socket.getData memory =
      some (⟨some state.memory, state.totread, none⟩, { socket with incoming := rest }) := by
    simp [getData, tcp, got]
  have busy : socket.hasActivity = true := by simpa [hasActivity, empty] using active
  rw [getPacket, if_neg (by simpa using empty), busy, if_neg (by simp), data]
  by_cases nothing : state.totread = 0
  · simp [nothing]
  · simp only [if_neg nothing, empty]
    cases parseLoop reader none state.memory fuel (.start state.totread []) with
    | none => simp [nothing]
    | some result => simp

/-- With the factory as reader a call on an idle TCP socket never returns exactly when
the receive calls keep filling the buffer, or what they deliver starts with the
tag of a registered class. -/
theorem getPacket_factoryReader_eq_none_iff {host : Host} {memory : Nat → Byte}
    {socket : Socket} (tcp : socket.protocol = .tcp) (empty : socket.pqueue = [])
    (active : socket.incoming ≠ []) :
    (∀ fuel, socket.getPacket (factoryReader host) memory fuel = none) ↔
      Fills 128 socket.incoming ∨ StartsRegistered socket.incoming := by
  cases got : getDataTCP memory socket.incoming with
  | none =>
      have fills := getDataTCP_eq_none_iff.mp got
      refine iff_of_true ?_ (.inl fills)
      intro fuel
      have busy : socket.hasActivity = true := by simpa [hasActivity, empty] using active
      rw [getPacket, if_neg (by simpa using empty), busy, if_neg (by simp)]
      simp [getData, tcp, got]
  | some result =>
      rcases result with ⟨state, rest⟩
      have noFill : ¬ Fills 128 socket.incoming := by
        intro fills
        rw [getDataTCP_eq_none_iff.mpr fills] at got
        contradiction
      rw [or_iff_right noFill]
      simp only [getPacket_eq_none_iff tcp empty active got]
      rw [forall_and, parseLoop_factoryReader_eq_none_iff]
      cases incoming : socket.incoming with
      | nil => exact absurd incoming active
      | cons recv recvs =>
          rw [incoming] at got
          rcases getDataTCP_start got with ⟨positive, starts⟩
          constructor
          · rintro ⟨-, someBytes, registered⟩
            have first := starts (positive.mp someBytes)
            exact startsRegistered_iff.mpr ⟨_, first.symm, registered⟩
          · intro registered
            rcases startsRegistered_iff.mp registered with ⟨tag, first, known⟩
            have delivers : 0 < recv.num := recv.num_pos_of_head first
            have same := starts delivers
            rw [first, Option.some.injEq] at same
            have someBytes := positive.mpr delivers
            exact ⟨fun _ => Int.ne_of_gt someBytes, someBytes, same ▸ known⟩

/-! ### Delivery -/

/-- The results of successive `GetPacket` calls, oldest first, each on whatever
memory its buffer is allocated from. -/
inductive Calls (reader : Reader) : Socket → List (Option Packet) → Socket → Prop
  | nil (socket : Socket) : Calls reader socket [] socket
  | cons {socket middle last : Socket} {result : Option Packet}
      {results : List (Option Packet)} (memory : Nat → Byte) (fuel : Nat) :
      socket.getPacket reader memory fuel = some (result, middle) →
      Calls reader middle results last →
      Calls reader socket (result :: results) last

/-- Receiving delivers a list of packets: some calls return all of them, and no
calls return anything but a first part of them. -/
structure Delivers (reader : Reader) (socket : Socket) (packets : List Packet) : Prop where
  complete : ∃ results last, Calls reader socket results last ∧ results.reduceOption = packets
  correct : ∀ results last, Calls reader socket results last →
    results.reduceOption <+: packets

/-- With the factory as reader, a call on an empty queue never returns a packet:
either the first byte is unregistered, or the loop does not end. -/
theorem getPacket_factoryReader {host : Host} {memory : Nat → Byte} {fuel : Nat}
    {socket next : Socket} {result : Option Packet} (empty : socket.pqueue = [])
    (returned : socket.getPacket (factoryReader host) memory fuel = some (result, next)) :
    result = none ∧ next.pqueue = [] := by
  unfold getPacket at returned
  rw [if_neg (by simpa using empty)] at returned
  split at returned
  · cases returned
    exact ⟨rfl, empty⟩
  split at returned
  · contradiction
  rename_i data received got
  have stillEmpty : received.pqueue = [] := (getData_keeps got).2.2.2.2.trans empty
  split at returned
  · cases returned
    exact ⟨rfl, stillEmpty⟩
  rename_i buf _
  split at returned
  · cases returned
    exact ⟨rfl, stillEmpty⟩
  rename_i nonzero
  split at returned
  · contradiction
  rename_i state untrusted parsed
  have unchanged : state.pqueue = [] := by
    cases fuel with
    | zero => contradiction
    | succ fuel =>
        rcases lt_or_ge 0 data.len with positive | notPositive
        · cases selected : constructorFor (buf 0) with
          | none =>
              have refused := factoryReader_of_unregistered host selected data.len
              rw [parseLoop_untrusted positive (by simp [ParseState.start, refused])] at parsed
              cases parsed
              exact stillEmpty
          | some packetClass =>
              rcases factoryReader_of_registered host selected data.len with ⟨packet, built⟩
              rw [parseLoop_stuck positive (by simpa [ParseState.start] using built)] at parsed
              contradiction
        · rw [parseLoop, parsePass, if_neg (by simpa [ParseState.start] using notPositive)]
            at parsed
          cases parsed
          exact stillEmpty
  rw [unchanged] at returned
  cases returned
  exact ⟨rfl, rfl⟩

theorem Calls.reduceOption_eq_nil {host : Host} {socket last : Socket}
    {results : List (Option Packet)} (empty : socket.pqueue = [])
    (calls : Calls (factoryReader host) socket results last) : results.reduceOption = [] := by
  induction calls with
  | nil => rfl
  | cons memory fuel returned _ ih =>
      rcases getPacket_factoryReader empty returned with ⟨rfl, stillEmpty⟩
      rw [List.reduceOption_cons_of_none]
      exact ih stillEmpty

/-- Nothing that arrives is ever delivered, so delivery is right for the empty
list of packets only. -/
theorem delivers_factoryReader_iff (host : Host) {socket : Socket} (empty : socket.pqueue = [])
    (packets : List Packet) :
    Delivers (factoryReader host) socket packets ↔ packets = [] := by
  constructor
  · rintro ⟨⟨results, last, calls, delivered⟩, -⟩
    rw [← delivered]
    exact calls.reduceOption_eq_nil empty
  · rintro rfl
    refine ⟨⟨[], socket, .nil socket, rfl⟩, ?_⟩
    intro results last calls
    rw [calls.reduceOption_eq_nil empty]

/-- Whatever chunks arrive, in particular any cutting of the bytes of the
messages, the calls deliver the messages exactly when there are none. -/
theorem delivers_chunks_iff (host : Host) (handle : Nat) (messages : List Message)
    (chunks : List (List Byte)) :
    Delivers (factoryReader host) (.ofHandle .tcp handle (chunks.map .data))
        (messages.map Message.packet) ↔ messages = [] := by
  rw [delivers_factoryReader_iff host rfl]
  exact List.map_eq_nil_iff

/-- A single join request that arrives in one chunk is not delivered. -/
theorem not_delivers_joinRequest :
    ¬ ∀ (handle : Nat) (messages : List Message) (chunks : List (List Byte)),
      (∀ message ∈ messages, message.packetClass.Registered) →
      (∀ chunk ∈ chunks, chunk ≠ [] ∧ chunk.length < 128) →
      chunks.flatten = messages.flatMap (Message.bytes .littleEndian) →
        Delivers (factoryReader .littleEndian) (.ofHandle .tcp handle (chunks.map .data))
          (messages.map Message.packet) := by
  intro claimed
  have delivers := claimed 0 [.joinRequest 7] [Message.bytes .littleEndian (.joinRequest 7)]
    (by decide) (by decide) (by decide)
  rw [delivers_factoryReader_iff .littleEndian rfl] at delivers
  contradiction

end Socket

end LegendOfStealth.Net

import LegendOfStealth.Net.Disconnect

/-!
# Datagrams and the packets that are built from them

On UDP every receive call allocates a `UDPpacket`, and every `Packet` that is built from the
datagram keeps a pointer to it.  `GetPacket` frees the `UDPpacket` when the reader refuses
the rest of the datagram; nothing else does.

`Inbox` is a socket with the packets that it has returned, so that what they point to can be
asked for later.
-/

namespace LegendOfStealth.Net

open LegendOfStealth.Library LegendOfStealth.Protocol

/-- A packet of the loop is one that was there, or points to the datagram. -/
theorem parseLoop_udpPacket {reader : Reader} {udpPacket : Option Nat} {memory : Nat → Byte}
    {fuel : Nat} {state final : ParseState} {untrusted : Bool}
    (parsed : parseLoop reader udpPacket memory fuel state = some (final, untrusted)) :
    ∀ packet ∈ final.pqueue, packet ∈ state.pqueue ∨ packet.udpPacket = udpPacket := by
  induction fuel generalizing state with
  | zero => contradiction
  | succ fuel ih =>
      rw [parseLoop] at parsed
      split at parsed
      · cases parsed
        exact fun packet member => .inl member
      · rename_i next pass
        intro packet member
        have later := ih parsed packet member
        unfold parsePass at pass
        split at pass
        · split at pass
          · cases pass
            rcases later with queued | built
            · rcases List.mem_append.mp queued with before | now
              · exact .inl before
              · exact .inr (congrArg Packet.udpPacket (List.mem_singleton.mp now))
            · exact .inr built
          · contradiction
        · contradiction
      · cases parsed
        exact fun packet member => .inl member

/-- An empty datagram is not refused. -/
theorem parseLoop_of_empty {reader : Reader} {udpPacket : Option Nat} {memory : Nat → Byte}
    {fuel : Nat} {final : ParseState} {untrusted : Bool}
    (parsed : parseLoop reader udpPacket memory fuel (.start 0 []) = some (final, untrusted)) :
    untrusted = false := by
  cases fuel with
  | zero => contradiction
  | succ fuel =>
      rw [parseLoop, parsePass, if_neg (by simp [ParseState.start])] at parsed
      cases parsed
      rfl

/-- A receive call on a UDP socket allocates a `UDPpacket`, whatever it finds. -/
theorem Socket.getData_udp {socket : Socket} {memory : Nat → Byte} {recv : Recv}
    {rest : List Recv} (udp : socket.protocol = .udp) (incoming : socket.incoming = recv :: rest) :
    socket.getData memory =
      some (⟨(getDataUDP recv).map (storeOf · memory), ((getDataUDP recv).getD []).length,
          some socket.udpPackets⟩,
        { socket with incoming := rest, udpPackets := socket.udpPackets + 1 }) := by
  cases got : getDataUDP recv with
  | none => simp [getData, udp, incoming, got]
  | some datagram => simp [getData, udp, incoming, got]

/-- A socket, and the packets that it has returned. -/
structure Inbox where
  socket : Socket
  returned : List Packet

namespace Inbox

/-- A UDP socket that nothing has been received on. -/
def start (handle : Nat) : Inbox :=
  ⟨.ofHandle .udp handle [], []⟩

/-- The packets there are, returned or waiting. -/
def packets (inbox : Inbox) : List Packet :=
  inbox.returned ++ inbox.socket.pqueue

/-- The socket when a call is made. -/
def before (call : Call) (inbox : Inbox) : Socket :=
  { inbox.socket with incoming := inbox.socket.incoming ++ call.recvs }

/-- A call of `GetPacket`, when more datagrams have arrived. -/
def step (reader : Reader) : Step Call Inbox := fun call inbox =>
  ((inbox.before call).getPacket reader call.memory call.fuel).map fun result =>
    ⟨result.2, inbox.returned ++ result.1.toList⟩

/-- No packet points to a `UDPpacket` that has been freed, and none has been freed twice. -/
structure Sound (inbox : Inbox) : Prop where
  points : ∀ packet ∈ inbox.packets, ∀ n ∈ inbox.socket.freed, packet.udpPacket ≠ some n
  once : inbox.socket.freed.Nodup

/-- The call receives a datagram, and the reader refuses the rest of it after a packet has
been built. -/
def RefusesLate (reader : Reader) (inbox : Inbox) (call : Call) : Prop :=
  inbox.socket.pqueue = [] ∧ ∃ recv ∈ (inbox.before call).incoming.head?,
    ∃ datagram ∈ getDataUDP recv, ∃ state,
      parseLoop reader (some inbox.socket.udpPackets) (storeOf datagram call.memory) call.fuel
          (.start datagram.length []) = some (state, true) ∧ state.pqueue ≠ []

/-- `UDPpacket`s are numbered in the order in which they are allocated. -/
structure Numbered (inbox : Inbox) : Prop where
  protocol : inbox.socket.protocol = .udp
  freed : ∀ n ∈ inbox.socket.freed, n < inbox.socket.udpPackets
  points : ∀ packet ∈ inbox.packets, ∀ n, packet.udpPacket = some n → n < inbox.socket.udpPackets

/-- The call builds no packet and frees nothing. -/
structure Idle (reader : Reader) (inbox : Inbox) (call : Call) (next : Inbox) : Prop where
  packets : next.packets = inbox.packets
  freed : next.socket.freed = inbox.socket.freed
  udpPackets : inbox.socket.udpPackets ≤ next.socket.udpPackets
  keeps : ¬ RefusesLate reader inbox call

/-- The call parses a datagram. -/
structure Parses (reader : Reader) (inbox : Inbox) (call : Call) (next : Inbox)
    (built : List Packet) (untrusted : Bool) : Prop where
  packets : next.packets = inbox.packets ++ built
  points : ∀ packet ∈ built, packet.udpPacket = some inbox.socket.udpPackets
  freed : next.socket.freed =
    inbox.socket.freed ++ if untrusted then [inbox.socket.udpPackets] else []
  udpPackets : next.socket.udpPackets = inbox.socket.udpPackets + 1
  refuses : RefusesLate reader inbox call ↔ untrusted = true ∧ built ≠ []

section Step

variable {reader : Reader} {call : Call} {inbox next : Inbox}

theorem packets_of_popPacket {socket after : Socket} {packet : Option Packet}
    (popped : socket.popPacket = (packet, after)) (returned : List Packet) :
    packets ⟨after, returned ++ packet.toList⟩ = returned ++ socket.pqueue ∧
      after.freed = socket.freed ∧ after.udpPackets = socket.udpPackets := by
  unfold Socket.popPacket at popped
  split at popped
  · rename_i empty
    cases popped
    simp [packets, empty]
  · rename_i first rest waiting
    cases popped
    simp [packets, waiting]

/-- What a call refuses late, when it is known what it receives. -/
theorem refusesLate_iff {recv : Recv} {rest : List Recv} {datagram : List Byte}
    (empty : inbox.socket.pqueue = []) (incoming : (inbox.before call).incoming = recv :: rest)
    (got : getDataUDP recv = some datagram) :
    RefusesLate reader inbox call ↔ ∃ state,
      parseLoop reader (some inbox.socket.udpPackets) (storeOf datagram call.memory) call.fuel
          (.start datagram.length []) = some (state, true) ∧ state.pqueue ≠ [] := by
  simp [RefusesLate, empty, incoming, got]

/-- A call that finds packets in the queue receives nothing. -/
theorem idle_of_queued (queued : inbox.socket.pqueue ≠ []) {packet : Option Packet}
    {after : Socket}
    (returned : (inbox.before call).getPacket reader call.memory call.fuel =
      some (packet, after)) :
    Idle reader inbox call ⟨after, inbox.returned ++ packet.toList⟩ := by
  rw [Socket.getPacket, if_pos (by exact queued)] at returned
  obtain ⟨moved, freed, udpPackets⟩ :=
    packets_of_popPacket (Option.some.inj returned) inbox.returned
  constructor
  · exact moved
  · exact freed
  · exact udpPackets.ge
  · exact fun refuses => queued refuses.1

/-- A call that receives a datagram parses it, unless it is empty. -/
theorem parses_of_datagram (udp : inbox.socket.protocol = .udp)
    (empty : inbox.socket.pqueue = []) {recv : Recv} {rest : List Recv}
    (incoming : (inbox.before call).incoming = recv :: rest) {datagram : List Byte}
    (got : getDataUDP recv = some datagram) {packet : Option Packet} {after : Socket}
    (returned : (inbox.before call).getPacket reader call.memory call.fuel =
      some (packet, after)) :
    Idle reader inbox call ⟨after, inbox.returned ++ packet.toList⟩ ∨ ∃ built untrusted,
      Parses reader inbox call ⟨after, inbox.returned ++ packet.toList⟩ built untrusted := by
  have noQueue : (inbox.before call).pqueue = [] := empty
  have active : (inbox.before call).hasActivity = true := by
    simp [Socket.hasActivity, incoming]
  rw [Socket.getPacket, if_neg (not_not.mpr noQueue), active, if_neg (by simp),
    Socket.getData_udp (by exact udp) incoming, got] at returned
  simp only [Option.map_some, Option.getD_some] at returned
  by_cases nothing : (datagram.length : Int) = 0
  · left
    simp only [if_pos nothing] at returned
    cases returned
    constructor
    · simp [packets, noQueue, empty]
    · rfl
    · exact Nat.le_succ _
    · rw [refusesLate_iff empty incoming got, nothing]
      rintro ⟨state, parsed, -⟩
      exact absurd (parseLoop_of_empty parsed) (by decide)
  · right
    simp only [if_neg nothing, noQueue] at returned
    split at returned
    · contradiction
    rename_i state untrusted parsed
    obtain ⟨moved, freed, udpPackets⟩ :=
      packets_of_popPacket (Option.some.inj returned) inbox.returned
    refine ⟨state.pqueue, untrusted, ?_, ?_, ?_, udpPackets, ?_⟩
    · simpa [packets, empty] using moved
    · intro packet member
      rcases parseLoop_udpPacket parsed packet member with queued | points
      · exact absurd queued List.not_mem_nil
      · exact points
    · rw [freed]
      cases untrusted with
      | false => simp [before]
      | true => simp [before]
    · rw [refusesLate_iff empty incoming got]
      constructor
      · rintro ⟨other, refused, built⟩
        cases parsed.symm.trans refused
        exact ⟨rfl, built⟩
      · rintro ⟨rfl, built⟩
        exact ⟨state, parsed, built⟩

theorem step_cases (udp : inbox.socket.protocol = .udp)
    (stepped : step reader call inbox = some next) :
    next.socket.protocol = .udp ∧
      (Idle reader inbox call next ∨
        ∃ built untrusted, Parses reader inbox call next built untrusted) := by
  rcases Option.map_eq_some_iff.mp stepped with ⟨⟨packet, after⟩, returned, rfl⟩
  refine ⟨(Socket.getPacket_keeps returned).1.trans udp, ?_⟩
  by_cases empty : inbox.socket.pqueue = []
  · have noQueue : (inbox.before call).pqueue = [] := empty
    cases incoming : (inbox.before call).incoming with
    | nil =>
        left
        have inactive : (inbox.before call).hasActivity = false := by
          simp [Socket.hasActivity, noQueue, incoming]
        rw [Socket.getPacket, if_neg (not_not.mpr noQueue), inactive, if_pos Bool.not_false]
          at returned
        cases returned
        constructor
        · simp [packets, before]
        · rfl
        · exact le_rfl
        · rintro ⟨-, recv, first, -⟩
          simp [incoming] at first
    | cons recv rest =>
        cases got : getDataUDP recv with
        | some datagram => exact parses_of_datagram udp empty incoming got returned
        | none =>
            left
            have active : (inbox.before call).hasActivity = true := by
              simp [Socket.hasActivity, incoming]
            rw [Socket.getPacket, if_neg (not_not.mpr noQueue), active, if_neg (by simp),
              Socket.getData_udp (by exact udp) incoming, got] at returned
            cases returned
            constructor
            · simp [packets, noQueue, empty]
            · rfl
            · exact Nat.le_succ _
            · rintro ⟨-, found, first, datagram, delivered, -⟩
              rw [incoming, List.head?_cons, Option.mem_some_iff] at first
              subst first
              rw [got] at delivered
              contradiction
  · exact .inl (idle_of_queued empty returned)

theorem numbered_start (handle : Nat) : Numbered (start handle) := by
  constructor
  · rfl
  · simp [start, Socket.ofHandle]
  · simp [start, Socket.ofHandle, packets]

theorem Numbered.step (numbered : Numbered inbox) (stepped : step reader call inbox = some next) :
    Numbered next := by
  obtain ⟨udp, idle | ⟨built, untrusted, parses⟩⟩ := step_cases numbered.protocol stepped
  · constructor
    · exact udp
    · rw [idle.freed]
      exact fun n freed => (numbered.freed n freed).trans_le idle.udpPackets
    · rw [idle.packets]
      exact fun packet member n points =>
        (numbered.points packet member n points).trans_le idle.udpPackets
  · constructor
    · exact udp
    · rw [parses.freed, parses.udpPackets]
      intro n freed
      rcases List.mem_append.mp freed with before | now
      · exact Nat.lt_succ_of_lt (numbered.freed n before)
      · cases untrusted with
        | false => exact absurd now List.not_mem_nil
        | true => exact (List.mem_singleton.mp now).trans_lt (Nat.lt_succ_self _)
    · rw [parses.packets, parses.udpPackets]
      intro packet member n points
      rcases List.mem_append.mp member with before | now
      · exact Nat.lt_succ_of_lt (numbered.points packet before n points)
      · rw [parses.points packet now, Option.some.injEq] at points
        exact points ▸ Nat.lt_succ_self _

/-- A call keeps what it should exactly if it does not refuse a datagram late. -/
theorem sound_step_iff (numbered : Numbered inbox) (sound : Sound inbox)
    (stepped : step reader call inbox = some next) :
    Sound next ↔ ¬ RefusesLate reader inbox call := by
  obtain ⟨-, idle | ⟨built, untrusted, parses⟩⟩ := step_cases numbered.protocol stepped
  · apply iff_of_true
    · constructor
      · rw [idle.packets, idle.freed]
        exact sound.points
      · rw [idle.freed]
        exact sound.once
    · exact idle.keeps
  rw [parses.refuses]
  constructor
  · rintro ⟨points, -⟩ ⟨rfl, some⟩
    obtain ⟨packet, member⟩ := List.exists_mem_of_ne_nil built some
    refine points packet ?_ inbox.socket.udpPackets ?_ (parses.points packet member)
    · rw [parses.packets]
      exact List.mem_append_right _ member
    · rw [parses.freed]
      exact List.mem_append_right _ List.mem_cons_self
  · intro kept
    constructor
    · rw [parses.packets, parses.freed]
      intro packet member n freed points
      rcases List.mem_append.mp member with before | now
      · have old := numbered.points packet before n points
        rcases List.mem_append.mp freed with freed | freed
        · exact sound.points packet before n freed points
        · cases untrusted with
          | false => exact List.not_mem_nil freed
          | true => exact absurd (List.mem_singleton.mp freed) old.ne
      · rw [parses.points packet now, Option.some.injEq] at points
        subst points
        rcases List.mem_append.mp freed with freed | freed
        · exact absurd (numbered.freed _ freed) (lt_irrefl _)
        · cases untrusted with
          | false => exact List.not_mem_nil freed
          | true => exact kept ⟨rfl, List.ne_nil_of_mem now⟩
    · rw [parses.freed]
      cases untrusted with
      | false => simpa using sound.once
      | true =>
          refine List.nodup_append.mpr ⟨sound.once, List.nodup_singleton _, ?_⟩
          intro n freed other now
          rw [List.mem_singleton.mp now]
          exact (numbered.freed n freed).ne

end Step

/-- Ownership of datagrams: in every run of `GetPacket` calls on a UDP socket no packet that
was returned or waits ever points to a freed `UDPpacket`, and none is freed twice, exactly if
no call refuses the rest of a datagram after a packet has been built from it. -/
theorem always_sound_iff (reader : Reader) (handle : Nat) (calls : List Call) :
    Always (step reader) Sound calls (start handle) ↔
      Meets (step reader) (fun inbox call => ¬ RefusesLate reader inbox call) calls
        (start handle) := by
  apply always_iff_meets Numbered
  · intro inbox call next numbered sound stepped
    exact ⟨numbered.step stepped, sound_step_iff numbered sound stepped⟩
  · exact numbered_start handle
  · constructor
    · simp [start, Socket.ofHandle]
    · exact List.nodup_nil

end Inbox

end LegendOfStealth.Net

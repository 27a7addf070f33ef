import LegendOfStealth.Net.Socket

/-!
# Data that cannot be trusted

The comment in `GetPacket` says that none of the received data can be trusted when
a part of it is no packet.  The loop has queued the packets before that part by
then, and nothing takes them back: the call goes on to return the first of them,
and over UDP all of them refer to a `UDPpacket` that has been freed.
-/

namespace LegendOfStealth.Net

open LegendOfStealth.Library LegendOfStealth.Protocol

/-- What the reader returns in one call: a packet, and the length that it reports. -/
abbrev ReadOutcome := Packet × Int

/-- From a position of the buffer on, the reader returns the given packets, one call
after the other, and then `NULL`. -/
def ReadsThenRefuses (reader : Reader) (memory : Nat → Byte) :
    Int → Int → List ReadOutcome → Prop
  | len, read, [] => (reader (bufferFrom memory read) len 0).1 = none
  | len, read, (packet, plen) :: rest =>
      reader (bufferFrom memory read) len 0 = (some packet, plen) ∧
        ReadsThenRefuses reader memory (len - plen) (read + plen) rest

/-- Every reported length is positive, and together they leave something over. -/
structure Consumes (len : Int) (outcomes : List ReadOutcome) : Prop where
  positive : ∀ outcome ∈ outcomes, 1 ≤ outcome.2
  within : (outcomes.map Prod.snd).sum < len

theorem Consumes.tail {len plen : Int} {packet : Packet} {rest : List ReadOutcome}
    (consumes : Consumes len ((packet, plen) :: rest)) : Consumes (len - plen) rest := by
  constructor
  · intro outcome member
    exact consumes.positive outcome (List.mem_cons_of_mem _ member)
  · have within := consumes.within
    rw [List.map_cons, List.sum_cons] at within
    omega

theorem Consumes.pos {len : Int} {outcomes : List ReadOutcome} (consumes : Consumes len outcomes) :
    0 < len := by
  induction outcomes generalizing len with
  | nil => exact consumes.within
  | cons outcome rest ih =>
      have remaining := ih consumes.tail
      have reported := consumes.positive outcome List.mem_cons_self
      omega

/-- The packets as they are queued. -/
def queuedPackets (udpPacket : Option Nat) (outcomes : List ReadOutcome) : List Packet :=
  outcomes.map fun outcome => outcome.1.setUdpPacket udpPacket

/-- With enough fuel the loop ends at the part that is no packet, and every packet
before it is on the queue. -/
theorem parseLoop_refuses {reader : Reader} (udpPacket : Option Nat) {memory : Nat → Byte}
    {outcomes : List ReadOutcome} {state : ParseState} (consumes : Consumes state.len outcomes)
    (refuses : ReadsThenRefuses reader memory state.len state.read outcomes) (fuel : Nat) :
    (parseLoop reader udpPacket memory fuel state).map
        (fun result => (result.1.pqueue, result.2)) =
      if outcomes.length < fuel then
        some (state.pqueue ++ queuedPackets udpPacket outcomes, true)
      else none := by
  induction outcomes generalizing state fuel with
  | nil =>
      cases fuel with
      | zero => rfl
      | succ fuel =>
          rw [parseLoop_untrusted consumes.pos refuses]
          simp [queuedPackets]
  | cons outcome rest ih =>
      rcases outcome with ⟨packet, plen⟩
      rcases refuses with ⟨built, later⟩
      cases fuel with
      | zero => rfl
      | succ fuel =>
          rw [parseLoop, parsePass, if_pos consumes.pos, built]
          simp only
          rw [ih consumes.tail later fuel]
          simp [queuedPackets]

/-- The factory as reader, if it reported the length of the packets it returns. -/
def reportingReader (host : Host) : Reader :=
  fun buffer len plen =>
    match (factoryReader host buffer len plen).1 with
    | none => (none, plen)
    | some packet => (some packet, packet.pktlen)

/-! ## The call -/

namespace Socket

/-- Data that cannot be trusted is dropped whole: the call returns `NULL`, nothing
of it stays on the queue, and no packet within reach refers to a freed `UDPpacket`. -/
structure DropsWhole (reader : Reader) (memory : Nat → Byte) (socket : Socket) : Prop where
  returns : ∃ fuel next, socket.getPacket reader memory fuel = some (none, next)
  empty : ∀ fuel result next, socket.getPacket reader memory fuel = some (result, next) →
    next.pqueue = []
  reachable : ∀ fuel result next, socket.getPacket reader memory fuel = some (result, next) →
    ∀ packet ∈ result.toList ++ next.pqueue, ∀ udpPacket ∈ packet.udpPacket,
      udpPacket ∉ next.freed

section Call

variable {reader : Reader} {memory buf : Nat → Byte} {socket received : Socket} {data : Data}
  {outcomes : List ReadOutcome}

theorem hasActivity_of_getData (got : socket.getData memory = some (data, received)) :
    socket.hasActivity = true := by
  have busy : socket.incoming ≠ [] := by
    intro idle
    rw [getData, idle] at got
    cases protocol : socket.protocol with
    | udp =>
        rw [protocol] at got
        contradiction
    | tcp =>
        rw [protocol] at got
        contradiction
  simpa [hasActivity] using Or.inr busy

/-- What a call makes of data that cannot be trusted, with enough fuel. -/
theorem getPacket_refuses (empty : socket.pqueue = [])
    (got : socket.getData memory = some (data, received)) (buffer : data.buf = some buf)
    (consumes : Consumes data.len outcomes)
    (refuses : ReadsThenRefuses reader buf data.len 0 outcomes) (fuel : Nat) :
    socket.getPacket reader memory fuel =
      if outcomes.length < fuel then
        some (popPacket
          { received with
            pqueue := queuedPackets data.udpPacket outcomes
            freed := received.freed ++ data.udpPacket.toList })
      else none := by
  have active : socket.hasActivity = true := hasActivity_of_getData got
  have stillEmpty : received.pqueue = [] := (getData_keeps got).2.2.2.2.trans empty
  have something : data.len ≠ 0 := Int.ne_of_gt consumes.pos
  have start : Consumes (ParseState.start data.len []).len outcomes := consumes
  have parsed := parseLoop_refuses data.udpPacket start refuses fuel
  rw [getPacket, if_neg (not_not.mpr empty), active, if_neg (by simp), got]
  simp only [buffer, if_neg something, stillEmpty]
  cases result : parseLoop reader data.udpPacket buf fuel (.start data.len []) with
  | none =>
      rw [result] at parsed
      split at parsed
      · contradiction
      · rename_i short
        rw [if_neg short]
  | some ended =>
      rcases ended with ⟨state, untrusted⟩
      rw [result] at parsed
      split at parsed
      · rename_i enough
        simp only [Option.map_some, Option.some.injEq, Prod.mk.injEq] at parsed
        rcases parsed with ⟨queued, rfl⟩
        simp only [if_pos enough, queued]
        rfl
      · contradiction

/-- A packet before the untrusted part is returned. -/
theorem DropsWhole.outcomes_eq_nil (drops : socket.DropsWhole reader memory)
    (empty : socket.pqueue = []) (got : socket.getData memory = some (data, received))
    (buffer : data.buf = some buf) (consumes : Consumes data.len outcomes)
    (refuses : ReadsThenRefuses reader buf data.len 0 outcomes) : outcomes = [] := by
  rcases drops.returns with ⟨fuel, next, returned⟩
  rw [getPacket_refuses empty got buffer consumes refuses] at returned
  split at returned
  · cases outcomes with
    | nil => rfl
    | cons outcome rest => simp [popPacket, queuedPackets] at returned
  · contradiction

/-- Untrusted data is dropped whole exactly when the part that is no packet comes
first. -/
theorem dropsWhole_iff (empty : socket.pqueue = [])
    (got : socket.getData memory = some (data, received)) (buffer : data.buf = some buf)
    (consumes : Consumes data.len outcomes)
    (refuses : ReadsThenRefuses reader buf data.len 0 outcomes) :
    socket.DropsWhole reader memory ↔ outcomes = [] := by
  have call := getPacket_refuses empty got buffer consumes refuses
  constructor
  · intro drops
    exact drops.outcomes_eq_nil empty got buffer consumes refuses
  · rintro rfl
    have dropped : ∀ fuel result next, socket.getPacket reader memory fuel = some (result, next) →
        result = none ∧ next.pqueue = [] := by
      intro fuel result next returned
      rw [call] at returned
      split at returned
      · cases returned
        exact ⟨rfl, rfl⟩
      · contradiction
    refine ⟨⟨1, _, call 1⟩, fun fuel result next returned => (dropped fuel result next returned).2,
      ?_⟩
    intro fuel result next returned packet member
    rcases dropped fuel result next returned with ⟨rfl, unqueued⟩
    simp [unqueued] at member

end Call

/-- A datagram that starts with an unregistered tag is dropped. -/
theorem dropsWhole_unregistered :
    ∃ socket : Socket, socket.incoming = [.data [9, 1]] ∧
      socket.DropsWhole (reportingReader .littleEndian) fun _ => 0 := by
  have consumes : Consumes 2 [] := ⟨by simp, by decide⟩
  have refuses : ReadsThenRefuses (reportingReader .littleEndian) (storeOf [9, 1] fun _ => 0) 2 0
      [] := rfl
  exact ⟨.ofHandle .udp 0 [.data [9, 1]], rfl,
    (dropsWhole_iff rfl rfl rfl consumes refuses).mpr rfl⟩

/-- A datagram with a join request and one byte more is not dropped. -/
theorem not_dropsWhole_joinRequest :
    ¬ ∀ (reader : Reader) (memory buf : Nat → Byte) (socket received : Socket) (data : Data)
        (outcomes : List ReadOutcome), socket.pqueue = [] →
      socket.getData memory = some (data, received) → data.buf = some buf →
        Consumes data.len outcomes → ReadsThenRefuses reader buf data.len 0 outcomes →
          socket.DropsWhole reader memory := by
  intro claimed
  have consumes : Consumes 6 [((Message.joinRequest 7).packet, 5)] := ⟨by simp, by decide⟩
  have refuses : ReadsThenRefuses (reportingReader .littleEndian)
      (storeOf [1, 0, 0, 0, 7, 9] fun _ => 0) 6 0 [((Message.joinRequest 7).packet, 5)] :=
    ⟨rfl, rfl⟩
  have drops := claimed _ (fun _ => 0) _ (.ofHandle .udp 0 [.data [1, 0, 0, 0, 7, 9]]) _ _ _
    rfl rfl rfl consumes refuses
  exact List.cons_ne_nil _ _ (drops.outcomes_eq_nil rfl rfl rfl consumes refuses)

end Socket

end LegendOfStealth.Net

import LegendOfStealth.Server.Loop

/-!
# The join handshake as a system

Clients connect and send a join request, the network delivers its bytes, the
listener thread accepts connections, and the server takes them one by one and
flushes its queues.  The steps of the four interleave freely.  What a client has
sent is part of the type of its connection, so that the bytes at the server's end
are always the first bytes of a join request.

The parse loop of `GetPacket` depends on the consumed length that the reader
reports, the packets do not.  The program's own reader reports zero.
-/

namespace LegendOfStealth

open LegendOfStealth.Library LegendOfStealth.Net LegendOfStealth.Protocol
open LegendOfStealth.Server

/-- A client's TCP connection: what the network still carries and what has arrived
at the server's end. -/
structure Link (clientHost : Host) where
  port : Dword
  requested : Bool
  inFlight : List Byte
  arrived : List Byte
  sent : arrived ++ inFlight =
    if requested then (Message.joinRequest port).bytes clientHost else []

namespace Link

variable {clientHost : Host}

/-- A connection on which nothing has been sent. -/
def connected (clientHost : Host) (port : Dword) : Link clientHost :=
  ⟨port, false, [], [], rfl⟩

/-- `_tcpSocket->SendPacket(&pkt)` in `ConnectToServer`. -/
def sendJoinRequest (link : Link clientHost) : Link clientHost :=
  ⟨link.port, true, (Message.joinRequest link.port).bytes clientHost, [], rfl⟩

/-- Some of the bytes arrive. -/
def deliver (count : Nat) (link : Link clientHost) : Link clientHost :=
  ⟨link.port, link.requested, link.inFlight.drop count,
    link.arrived ++ link.inFlight.take count, by
      rw [List.append_assoc, List.take_append_drop]
      exact link.sent⟩

/-- What a receive call at the server's end finds. -/
def incoming (link : Link clientHost) : List Recv :=
  if link.arrived = [] then [] else [.data link.arrived]

theorem arrived_prefix (link : Link clientHost) :
    link.arrived <+: (Message.joinRequest link.port).bytes clientHost := by
  have sent := link.sent
  split at sent
  · exact ⟨link.inFlight, sent⟩
  · rw [(List.append_eq_nil_iff.mp sent).1]
    exact List.nil_prefix

end Link

/-- A reader that builds the packets of `ReadPacket`, whatever length it reports. -/
structure PacketReader (host : Host) where
  read : Reader
  packets : ∀ buffer bufferlen packetlen,
    (read buffer bufferlen packetlen).1 = (factoryReader host buffer bufferlen packetlen).1

namespace PacketReader

/-- `PacketFactory::ReadPacket`. -/
def factory (host : Host) : PacketReader host :=
  ⟨factoryReader host, fun _ _ _ => rfl⟩

/-- A `GetPacket` call as the outcome of a receive; a call that does not return
is not used. -/
def receive {host : Host} (reader : PacketReader host) (memory : Nat → Byte) (fuel : Nat)
    (socket : Socket) : Socket.Received socket :=
  if returns : (socket.getPacket reader.read memory fuel).isSome then
    .ofGetPacket (Option.some_get returns).symm
  else .unchanged none socket

theorem packet_receive {host : Host} {reader : PacketReader host} {memory : Nat → Byte}
    {fuel : Nat} {socket : Socket} {outcome : Option Packet × Socket}
    (returned : socket.getPacket reader.read memory fuel = some outcome) :
    (reader.receive memory fuel socket).packet = outcome.1 := by
  have returns : (socket.getPacket reader.read memory fuel).isSome := by
    rw [returned]
    rfl
  rw [receive, dif_pos returns]
  simp [Socket.Received.ofGetPacket, returned]

end PacketReader

/-! ## The system -/

/-- What happened to a connection that the server took from the listener. -/
structure Take where
  handle : Nat
  hadRoom : Bool
  discarded : List Socket

/-- The clients' connections, those that wait for `SDLNet_TCP_Accept`, those in
`_newConnections`, and the server.  `takes` records what the server took. -/
structure System (clientHost : Host) where
  links : List (Link clientHost)
  backlog : List Nat
  newConnections : List Nat
  server : Server
  takes : List Take

namespace System

/-- The steps of the four parties.  `setup` holds the answers of the calls that
set up a connection's sockets. -/
inductive Action where
  | connect (port : Dword)
  | sendJoinRequest (handle : Nat)
  | deliver (handle count : Nat)
  | accept
  | take (setup : Connection) (memory : Nat → Byte) (fuel : Nat)
  | flush (answers : FlushAnswers)

variable {clientHost serverHost : Host}

/-- Nobody has connected yet. -/
def initial (clientHost : Host) : System clientHost :=
  ⟨[], [], [], Server.initial, []⟩

/-- The connection that the server takes: all sends on it succeed. -/
def connection (reader : PacketReader serverHost) (setup : Connection) (memory : Nat → Byte)
    (fuel handle : Nat) (link : Link clientHost) : Connection :=
  { setup with
    handle := handle
    incoming := link.incoming
    hasActivity := (Socket.ofHandle .tcp handle link.incoming).hasActivity
    receive := reader.receive memory fuel
    send := acceptAll }

/-- `GetPacket` is called on the connection and does not return. -/
def Hangs (reader : PacketReader serverHost) (memory : Nat → Byte) (fuel : Nat)
    (server : Server) (connection : Connection) : Prop :=
  server.HasRoom ∧ connection.hasActivity = true ∧
    connection.socket.getPacket reader.read memory fuel = none

instance (reader : PacketReader serverHost) (memory : Nat → Byte) (fuel : Nat)
    (server : Server) (connection : Connection) :
    Decidable (Hangs reader memory fuel server connection) :=
  decidable_of_iff
    (server.HasRoom ∧ connection.hasActivity = true ∧
      (connection.socket.getPacket reader.read memory fuel).isNone = true)
    (by rw [Option.isNone_iff_eq_none]; rfl)

/-- One pass of the loop of `HandleNewTCPConnections` on a taken connection. -/
def takeLink (reader : PacketReader serverHost) (setup : Connection) (memory : Nat → Byte)
    (fuel handle : Nat) (link : Link clientHost) (server : Server) : Option (Server × Take) :=
  let connection := connection reader setup memory fuel handle link
  if Hangs reader memory fuel server connection then none
  else
    match server.handleConnection serverHost connection with
    | .error _ => none
    | .ok after =>
        some (after, ⟨handle, decide server.HasRoom, after.dropped.drop server.dropped.length⟩)

/-- One step of one party. -/
def step (reader : PacketReader serverHost) : Step Action (System clientHost)
  | .connect port, system =>
      some { system with
        links := system.links ++ [.connected clientHost port]
        backlog := system.backlog ++ [system.links.length] }
  | .sendJoinRequest handle, system =>
      match system.links[handle]? with
      | none => none
      | some link =>
          if link.requested then none
          else some { system with links := system.links.set handle link.sendJoinRequest }
  | .deliver handle count, system =>
      some { system with links := system.links.modify handle (Link.deliver count) }
  | .accept, system =>
      match system.backlog with
      | [] => none
      | handle :: rest =>
          some { system with
            backlog := rest
            newConnections := system.newConnections ++ [handle] }
  | .take setup memory fuel, system =>
      match system.newConnections with
      | [] => none
      | handle :: rest =>
          match system.links[handle]? with
          | none => none
          | some link =>
              match takeLink reader setup memory fuel handle link system.server with
              | none => none
              | some (after, take) =>
                  some { system with
                    newConnections := rest
                    server := after
                    takes := system.takes ++ [take] }
  | .flush answers, system =>
      some { system with server := system.server.flushClientPacketQueues serverHost answers }

/-! ## No silent drop -/

/-- A join response has been sent on the socket. -/
def Answered (serverHost : Host) (socket : Socket) : Prop :=
  ∃ response playerID team,
    socket.sent = (Message.joinResponse response playerID team).bytes serverHost

/-- No connection that the server took while it had room was discarded without a
join response. -/
def NoSilentDrop (serverHost : Host) (system : System clientHost) : Prop :=
  ∀ take ∈ system.takes, take.hadRoom = true →
    ∀ socket ∈ take.discarded, Answered serverHost socket

/-- Whenever the server takes a connection while it has room, part of the join
request has arrived, and both hosts write the tag of a packet first. -/
def Heard (serverHost : Host) (system : System clientHost) : Action → Prop
  | .take _ _ _ => ∀ handle rest link, system.newConnections = handle :: rest →
      system.links[handle]? = some link → system.server.HasRoom →
        link.arrived ≠ [] ∧ clientHost = .littleEndian ∧ serverHost = .littleEndian
  | _ => True

/-- The first byte that arrives is the tag of a join request. -/
theorem arrived_eq_cons {link : Link .littleEndian} (arrived : link.arrived ≠ []) :
    ∃ rest, link.arrived = PacketType.joinRequest.toByte :: rest ∧ rest.length ≤ 4 := by
  rcases link.arrived_prefix with ⟨later, whole⟩
  rcases List.exists_cons_of_ne_nil arrived with ⟨first, rest, shape⟩
  have length := congrArg List.length whole
  rw [shape] at whole length
  rw [List.length_append, Message.bytes, Packet.serialize_length] at length
  refine ⟨rest, ?_, ?_⟩
  · rw [shape]
    congr 1
    exact (List.cons.inj whole).1.trans (Message.firstByte_type (.joinRequest link.port))
  · change _ = 5 at length
    simp only [List.length_cons] at length
    omega

theorem getPacket_incoming {reader : PacketReader .littleEndian} {memory : Nat → Byte}
    {fuel handle : Nat} {link : Link .littleEndian} (arrived : link.arrived ≠ [])
    {outcome : Option Packet × Socket}
    (returned : (Socket.ofHandle .tcp handle link.incoming).getPacket reader.read memory fuel =
      some outcome) :
    ∃ packet, outcome.1 = some packet ∧
      packet.getPacketType = PacketType.joinRequest.toDword := by
  rcases arrived_eq_cons arrived with ⟨rest, shape, short⟩
  have selected : constructorFor (storeOf link.arrived memory 0) = some .joinRequestPacket := by
    rw [shape]
    rfl
  obtain ⟨packet, built, tagged⟩ :=
    readPacket_type link.arrived.length 0 (storeOf link.arrived memory) selected
  have positive : (0 : Int) < link.arrived.length := by
    have := List.length_pos_iff.mpr arrived
    omega
  rw [Link.incoming, if_neg arrived, Socket.getPacket_chunk reader.read memory fuel handle arrived
    (by rw [shape, List.length_cons]; omega)] at returned
  rcases Option.map_eq_some_iff.mp returned with ⟨⟨final, untrusted⟩, parsed, popped⟩
  rcases parseLoop_head positive ((reader.packets _ _ _).trans built) parsed with ⟨later, queued⟩
  rw [queued] at popped
  cases popped
  exact ⟨_, rfl, tagged⟩

/-- What it means that the server took a connection. -/
theorem takeLink_eq_some {reader : PacketReader serverHost} {setup : Connection}
    {memory : Nat → Byte} {fuel handle : Nat} {link : Link clientHost} {server after : Server}
    {take : Take}
    (taken : takeLink reader setup memory fuel handle link server = some (after, take)) :
    ¬ Hangs reader memory fuel server (connection reader setup memory fuel handle link) ∧
      server.handleConnection serverHost (connection reader setup memory fuel handle link) =
          .ok after ∧
        take = ⟨handle, decide server.HasRoom, after.dropped.drop server.dropped.length⟩ := by
  unfold takeLink at taken
  simp only at taken
  split at taken
  · contradiction
  rename_i returns
  split at taken
  · contradiction
  rename_i after handled
  cases taken
  exact ⟨returns, handled, rfl⟩

/-- Part of a join request that has arrived is a request, if the call that reads it
returns. -/
theorem requests_connection {reader : PacketReader .littleEndian} {setup : Connection}
    {memory : Nat → Byte} {fuel handle : Nat} {link : Link .littleEndian} {server : Server}
    (room : server.HasRoom) (arrived : link.arrived ≠ [])
    (returns : ¬ Hangs reader memory fuel server
      (connection reader setup memory fuel handle link)) :
    (connection reader setup memory fuel handle link).Requests := by
  have active : (connection reader setup memory fuel handle link).hasActivity = true := by
    change (Socket.ofHandle .tcp handle link.incoming).hasActivity = true
    rw [Link.incoming, if_neg arrived]
    rfl
  obtain ⟨outcome, returned⟩ : ∃ outcome,
      (connection reader setup memory fuel handle link).socket.getPacket reader.read memory fuel =
        some outcome :=
    Option.ne_none_iff_exists'.mp fun hangs => returns ⟨room, active, hangs⟩
  rcases getPacket_incoming arrived returned with ⟨packet, found, tagged⟩
  exact ⟨active, packet, (PacketReader.packet_receive returned).trans found, tagged⟩

/-- A connection on which part of the request has arrived is not discarded while
the server has room. -/
theorem takeLink_discarded {reader : PacketReader .littleEndian} {setup : Connection}
    {memory : Nat → Byte} {fuel handle : Nat} {link : Link .littleEndian}
    {server after : Server} {take : Take} (room : server.HasRoom) (arrived : link.arrived ≠ [])
    (taken : takeLink reader setup memory fuel handle link server = some (after, take)) :
    take.discarded = [] := by
  rcases takeLink_eq_some taken with ⟨returns, handled, rfl⟩
  have requests := requests_connection room arrived returns
  have responds : server.Responds .littleEndian
      (connection reader setup memory fuel handle link) := by
    have some := Message.bytes_ne_nil .littleEndian (Client.joinResponse server.nextPlayer)
    simpa [Responds, connection, acceptAll] using some
  rcases handleConnection_cases handled with
    ⟨closed, -⟩ | ⟨-, refuses, -⟩ | ⟨-, client, -, rfl⟩
  · exact absurd room closed
  · exact absurd ⟨room, requests, responds⟩ refuses
  · change ((server.announced .littleEndian _).dropped).drop server.dropped.length = []
    rw [dropped_announced]
    exact List.drop_length

/-- A step takes no connection, or the first one in `_newConnections`. -/
theorem takes_of_step {reader : PacketReader serverHost} {system after : System clientHost}
    {action : Action} (stepped : step reader action system = some after) :
    after.takes = system.takes ∨
      ∃ setup memory fuel handle rest link server take, action = .take setup memory fuel ∧
        system.newConnections = handle :: rest ∧ system.links[handle]? = some link ∧
          takeLink reader setup memory fuel handle link system.server = some (server, take) ∧
            after.takes = system.takes ++ [take] := by
  cases action with
  | connect port => cases stepped; exact .inl rfl
  | sendJoinRequest handle =>
      simp only [step] at stepped
      split at stepped
      · contradiction
      · split at stepped
        · contradiction
        · cases stepped; exact .inl rfl
  | deliver handle count => cases stepped; exact .inl rfl
  | accept =>
      simp only [step] at stepped
      split at stepped
      · contradiction
      · cases stepped; exact .inl rfl
  | take setup memory fuel =>
      simp only [step] at stepped
      split at stepped
      · contradiction
      rename_i handle rest pending
      split at stepped
      · contradiction
      rename_i link found
      split at stepped
      · contradiction
      rename_i server take taken
      cases stepped
      exact .inr ⟨setup, memory, fuel, handle, rest, link, server, take, rfl, pending, found,
        taken, rfl⟩
  | flush answers => cases stepped; exact .inl rfl

/-- In every run in which something of a join request has arrived whenever the
server takes its connection while it has room, no joining player is silently
dropped. -/
theorem noSilentDrop_of_heard {reader : PacketReader serverHost} {system : System clientHost}
    (reached : Reachable (step reader) (Heard serverHost) (initial clientHost) system) :
    NoSilentDrop serverHost system := by
  induction reached with
  | start => exact fun take member => absurd member List.not_mem_nil
  | @next state successor action _ heard stepped ih =>
      rcases takes_of_step stepped with same | ⟨_, _, _, handle, rest, link, server, take, rfl,
        pending, found, taken, takes⟩
      · intro take member
        exact ih take (same ▸ member)
      · intro old member hadRoom socket discarded
        rw [takes, List.mem_append, List.mem_singleton] at member
        rcases member with earlier | rfl
        · exact ih old earlier hadRoom socket discarded
        · have room : state.server.HasRoom := by
            rcases takeLink_eq_some taken with ⟨-, -, rfl⟩
            exact of_decide_eq_true hadRoom
          rcases heard handle rest link pending found room with ⟨arrived, rfl, rfl⟩
          rw [takeLink_discarded room arrived taken] at discarded
          contradiction

/-- A reader that also reports the length of the packet it built. -/
def measuring (host : Host) : PacketReader host where
  read buffer bufferlen packetlen :=
    let packet := (factoryReader host buffer bufferlen packetlen).1
    (packet, (packet.map fun built => (built.pktlen : Int)).getD packetlen)
  packets _ _ _ := rfl

/-- A client connects and sends its request, one byte of it arrives, and the
listener accepts the connection. -/
def oneByteArrives : List Action :=
  [.connect 7, .sendJoinRequest 0, .deliver 0 1, .accept]

theorem heard_oneByteArrives (action : Action) (member : action ∈ oneByteArrives)
    (system : System clientHost) : Heard serverHost system action := by
  simp only [oneByteArrives, List.mem_cons, List.not_mem_nil, or_false] at member
  rcases member with rfl | rfl | rfl | rfl <;> trivial

/-- With such a reader the server then answers the request. -/
theorem noSilentDrop_oneByte :
    ∃ system : System .littleEndian,
      system.takes.map Take.hadRoom = [true] ∧ NoSilentDrop .littleEndian system :=
  ⟨_, rfl, noSilentDrop_of_heard (.next
    (.run heard_oneByteArrives .start
      (rfl : runActions (step (measuring .littleEndian)) _ (initial .littleEndian) = _))
    (by
      intro handle rest link pending found room
      cases pending
      cases found
      exact ⟨by decide, rfl, rfl⟩)
    (rfl : step (measuring .littleEndian) (.take (.joining 0 fun _ => true) (fun _ => 0) 2) _ =
      _))⟩

/-- The server takes a connection whose request is still under way. -/
def requestUnderWay : List Action :=
  [.connect 7, .sendJoinRequest 0, .accept, .take (.joining 0 fun _ => true) (fun _ => 0) 0]

/-- Such a connection is dropped without a word. -/
theorem not_noSilentDrop_requestUnderWay :
    ¬ ∀ (clientHost serverHost : Host) (reader : PacketReader serverHost)
      (system : System clientHost),
      Reachable (step reader) (fun _ _ => True) (initial clientHost) system →
        NoSilentDrop serverHost system := by
  intro claimed
  have answered := claimed .littleEndian .littleEndian (.factory .littleEndian)
    ((runActions (step (.factory .littleEndian)) requestUnderWay
      (initial .littleEndian)).get (by decide))
    (.run (fun _ _ _ => trivial) .start (Option.some_get _).symm)
  obtain ⟨response, playerID, team, sent⟩ := answered ⟨0, true, [.ofHandle .tcp 0 []]⟩
    (List.mem_singleton_self _) rfl _ (List.mem_singleton_self _)
  exact absurd sent.symm (Message.bytes_ne_nil _ _)

end System

end LegendOfStealth

import LegendOfStealth.System.Join

/-!
# The handshake with the program's own reader

`ReadPacket` does not report how long a packet is, so the parse loop of `GetPacket` never
ends once it has built one.  With it the handshake comes to nothing: nobody is ever admitted
or answered, and a single byte of a join request keeps the server from taking any other
connection.
-/

namespace LegendOfStealth

open LegendOfStealth.Library LegendOfStealth.Net LegendOfStealth.Protocol
open LegendOfStealth.Server

theorem PacketReader.packet_receive_factory {host : Host} (memory : Nat → Byte) (fuel : Nat)
    {socket : Socket} (empty : socket.pqueue = []) :
    ((PacketReader.factory host).receive memory fuel socket).packet = none := by
  cases returned : socket.getPacket (factoryReader host) memory fuel with
  | none =>
      rw [PacketReader.receive, dif_neg (by simp [PacketReader.factory, returned])]
      rfl
  | some outcome =>
      have received : ((PacketReader.factory host).receive memory fuel socket).packet =
          outcome.1 := PacketReader.packet_receive returned
      exact received.trans (Socket.getPacket_factoryReader empty returned).1

/-- A connection on which no packet is found is discarded. -/
theorem Server.acceptNewClient_of_no_packet {host : Host} {connection : Connection}
    (server : Server) (quiet : (connection.receive connection.socket).packet = none) :
    ∃ socket, socket.handle = connection.handle ∧ socket.sent = [] ∧
      server.acceptNewClient host connection connection.socket = .ok (server.discard socket) := by
  unfold acceptNewClient
  cases active : connection.hasActivity with
  | false => exact ⟨connection.socket, rfl, rfl, rfl⟩
  | true =>
      refine ⟨(connection.receive connection.socket).after, ?_, ?_, ?_⟩
      · exact (connection.receive connection.socket).handle
      · exact (connection.receive connection.socket).sent
      · rw [if_neg (by simp)]
        simp only [quiet]
        rfl

theorem Server.flushClientPacketQueues_of_empty {server : Server}
    (empty : server.clients = []) (host : Host) (answers : FlushAnswers) :
    server.flushClientPacketQueues host answers = server := by
  rw [flushClientPacketQueues, sweep, empty]
  rfl

namespace System

variable {clientHost serverHost : Host}

/-- Nobody has been admitted, and every connection that was taken has been discarded
without a byte. -/
structure Stalled (system : System clientHost) : Prop where
  protoPhase : system.server.protoPhase = .lobby
  clients : system.server.clients = []
  dropped : system.server.dropped.map (fun socket => (socket.handle, socket.sent)) =
    system.takes.map fun take => (take.handle, [])

theorem stalled_initial : Stalled (initial clientHost) :=
  ⟨rfl, rfl, rfl⟩

theorem Stalled.hasRoom {system : System clientHost} (stalled : Stalled system) :
    system.server.HasRoom := by
  constructor
  · exact stalled.protoPhase
  · rw [stalled.clients]
    decide

/-- Taking a connection discards it. -/
theorem server_of_takeLink {setup : Connection} {memory : Nat → Byte} {fuel handle : Nat}
    {link : Link clientHost} {server after : Server} {take : Take} (room : server.HasRoom)
    (taken : takeLink (.factory serverHost) setup memory fuel handle link server =
      some (after, take)) :
    take.handle = handle ∧ ∃ socket, socket.handle = handle ∧ socket.sent = [] ∧
      after = server.discard socket := by
  rcases takeLink_eq_some taken with ⟨-, handled, rfl⟩
  rcases bind_eq_ok_iff.mp handled with ⟨socket, made, handled⟩
  rcases Connection.getNewSocket_eq_ok_iff.mp made with ⟨-, rfl⟩
  rw [if_pos (hasRoom_iff.mpr room)] at handled
  have quiet : ((connection (.factory serverHost) setup memory fuel handle link).receive
      (connection (.factory serverHost) setup memory fuel handle link).socket).packet = none :=
    PacketReader.packet_receive_factory memory fuel rfl
  rcases acceptNewClient_of_no_packet server quiet with ⟨socket, same, unused, discarded⟩
  rw [discarded] at handled
  cases handled
  exact ⟨rfl, socket, same, unused, rfl⟩

/-- Every step leaves it at that. -/
theorem Stalled.step {system next : System clientHost} {action : Action}
    (stalled : Stalled system)
    (stepped : step (.factory serverHost) action system = some next) : Stalled next := by
  cases action with
  | connect port =>
      cases stepped
      exact ⟨stalled.protoPhase, stalled.clients, stalled.dropped⟩
  | sendJoinRequest handle =>
      simp only [System.step] at stepped
      split at stepped
      · contradiction
      split at stepped
      · contradiction
      cases stepped
      exact ⟨stalled.protoPhase, stalled.clients, stalled.dropped⟩
  | deliver handle count =>
      cases stepped
      exact ⟨stalled.protoPhase, stalled.clients, stalled.dropped⟩
  | accept =>
      simp only [System.step] at stepped
      split at stepped
      · contradiction
      cases stepped
      exact ⟨stalled.protoPhase, stalled.clients, stalled.dropped⟩
  | take setup memory fuel =>
      simp only [System.step] at stepped
      split at stepped
      · contradiction
      split at stepped
      · contradiction
      split at stepped
      · contradiction
      rename_i after take taken
      rcases server_of_takeLink stalled.hasRoom taken with ⟨handle, socket, same, unused, rfl⟩
      cases stepped
      constructor
      · exact stalled.protoPhase
      · exact stalled.clients
      · rw [List.map_append, ← stalled.dropped]
        simp [Server.discard, same, unused, handle]
  | flush answers =>
      cases stepped
      have idle := flushClientPacketQueues_of_empty stalled.clients serverHost answers
      constructor
      · rw [idle]
        exact stalled.protoPhase
      · rw [idle]
        exact stalled.clients
      · rw [idle]
        exact stalled.dropped

/-- Nobody ever joins: with the program's own reader the roster is empty in every state that
the system reaches, and every connection that the server took was discarded without a byte
having been sent on it. -/
theorem never_joins {system : System clientHost}
    (reached : Reachable (step (.factory serverHost)) (fun _ _ => True) (initial clientHost)
      system) :
    system.server.clients = [] ∧
      system.server.dropped.map (fun socket => (socket.handle, socket.sent)) =
        system.takes.map fun take => (take.handle, []) := by
  have stalled : Stalled system :=
    reached.invariant stalled_initial fun _ stalled _ stepped => stalled.step stepped
  exact ⟨stalled.clients, stalled.dropped⟩

/-- Part of its request has arrived on the first connection in `_newConnections`. -/
def Blocked (handle : Nat) (system : System clientHost) : Prop :=
  ∃ rest link, system.newConnections = handle :: rest ∧ system.links[handle]? = some link ∧
    link.arrived ≠ []

theorem requested_of_arrived {link : Link clientHost} (arrived : link.arrived ≠ []) :
    link.requested = true := by
  have sent := link.sent
  split at sent
  · assumption
  · exact absurd (List.append_eq_nil_iff.mp sent).1 arrived

/-- The call that reads what has arrived does not return. -/
theorem hangs_of_arrived {setup : Connection} {memory : Nat → Byte} {fuel handle : Nat}
    {link : Link .littleEndian} {server : Server} (room : server.HasRoom)
    (arrived : link.arrived ≠ []) :
    Hangs (.factory serverHost) memory fuel server
      (connection (.factory serverHost) setup memory fuel handle link) := by
  rcases arrived_eq_cons arrived with ⟨rest, shape, -⟩
  have incoming : link.incoming = [.data (PacketType.joinRequest.toByte :: rest)] := by
    rw [Link.incoming, if_neg arrived, shape]
  refine ⟨room, ?_, ?_⟩
  · change (Socket.ofHandle .tcp handle link.incoming).hasActivity = true
    rw [incoming]
    rfl
  · change (Socket.ofHandle .tcp handle link.incoming).getPacket (factoryReader serverHost)
      memory fuel = none
    rw [incoming]
    have registered : Socket.StartsRegistered [.data (PacketType.joinRequest.toByte :: rest)] :=
      Socket.startsRegistered_iff.mpr ⟨_, rfl, rfl⟩
    exact (Socket.getPacket_factoryReader_eq_none_iff rfl rfl (List.cons_ne_nil _ _)).mpr
      (.inr registered) fuel

theorem Blocked.not_taken {system : System .littleEndian} {handle : Nat}
    (blocked : Blocked handle system) (stalled : Stalled system) (setup : Connection)
    (memory : Nat → Byte) (fuel : Nat) :
    System.step (.factory serverHost) (.take setup memory fuel) system = none := by
  rcases blocked with ⟨rest, link, waiting, found, arrived⟩
  have hangs : Hangs (.factory serverHost) memory fuel system.server
      (connection (.factory serverHost) setup memory fuel handle link) :=
    hangs_of_arrived stalled.hasRoom arrived
  simp only [System.step, waiting, found, takeLink, if_pos hangs]

/-- The connection stays where it is, and so do those behind it. -/
theorem Blocked.step {system next : System .littleEndian} {handle : Nat} {action : Action}
    (blocked : Blocked handle system) (stalled : Stalled system)
    (stepped : System.step (.factory serverHost) action system = some next) :
    Blocked handle next ∧ next.takes = system.takes ∧
      system.newConnections <+: next.newConnections := by
  rcases blocked with ⟨rest, link, waiting, found, arrived⟩
  cases action with
  | connect port =>
      cases stepped
      refine ⟨⟨rest, link, waiting, ?_, arrived⟩, rfl, List.prefix_rfl⟩
      exact List.getElem?_append_left (List.getElem?_eq_some_iff.mp found).1 ▸ found
  | sendJoinRequest other =>
      simp only [System.step] at stepped
      split at stepped
      · contradiction
      rename_i sender sends
      split at stepped
      · contradiction
      rename_i silent
      cases stepped
      have apart : other ≠ handle := by
        rintro rfl
        cases found.symm.trans sends
        exact silent (requested_of_arrived arrived)
      refine ⟨⟨rest, link, waiting, ?_, arrived⟩, rfl, List.prefix_rfl⟩
      exact (List.getElem?_set_ne apart).trans found
  | deliver other count =>
      cases stepped
      refine ⟨?_, rfl, List.prefix_rfl⟩
      by_cases same : other = handle
      · refine ⟨rest, link.deliver count, waiting, ?_, ?_⟩
        · simp [same, found]
        · simp [Link.deliver, arrived]
      · refine ⟨rest, link, waiting, ?_, arrived⟩
        simp [same, found]
  | accept =>
      simp only [System.step] at stepped
      split at stepped
      · contradiction
      rename_i accepted _ _
      cases stepped
      refine ⟨⟨rest ++ [accepted], link, ?_, found, arrived⟩, rfl, List.prefix_append ..⟩
      simp [waiting]
  | take setup memory fuel =>
      rw [Blocked.not_taken ⟨rest, link, waiting, found, arrived⟩ stalled] at stepped
      contradiction
  | flush answers =>
      cases stepped
      exact ⟨⟨rest, link, waiting, found, arrived⟩, rfl, List.prefix_rfl⟩

/-- One byte blocks the server: once part of a join request has arrived on the connection
that is next, no connection is ever taken again, and those that wait keep waiting in their
order. -/
theorem blocked_forever {system final : System .littleEndian} {handle : Nat}
    (reached : Reachable (step (.factory serverHost)) (fun _ _ => True) (initial .littleEndian)
      system)
    (blocked : Blocked handle system)
    (later : Reachable (step (.factory serverHost)) (fun _ _ => True) system final) :
    final.takes = system.takes ∧ system.newConnections <+: final.newConnections ∧
      ∀ setup memory fuel, step (.factory serverHost) (.take setup memory fuel) final = none := by
  have stalled : Stalled system :=
    reached.invariant stalled_initial fun _ stalled _ stepped => stalled.step stepped
  have still : Stalled final ∧ Blocked handle final ∧ final.takes = system.takes ∧
      system.newConnections <+: final.newConnections := by
    induction later with
    | start => exact ⟨stalled, blocked, rfl, List.prefix_rfl⟩
    | next _ _ stepped ih =>
        obtain ⟨stalled, blocked, taken, waiting⟩ := ih
        obtain ⟨blocked, same, appended⟩ := blocked.step stalled stepped
        exact ⟨stalled.step stepped, blocked, same.trans taken, waiting.trans appended⟩
  obtain ⟨stalled, blocked, taken, waiting⟩ := still
  exact ⟨taken, waiting, blocked.not_taken stalled⟩

/-- A request that is still under way when its connection is taken. -/
theorem never_joins_requestUnderWay :
    ∃ system : System .littleEndian, system.takes.map Take.handle = [0] ∧
      system.server.clients = [] ∧
        system.server.dropped.map (fun socket => (socket.handle, socket.sent)) = [(0, [])] := by
  obtain ⟨system, ran⟩ := Option.isSome_iff_exists.mp (by decide :
    (runActions (step (.factory .littleEndian)) requestUnderWay
      (initial .littleEndian)).isSome = true)
  have reached : Reachable (step (.factory .littleEndian)) (fun _ _ => True)
      (initial .littleEndian) system := .run (fun _ _ _ => trivial) .start ran
  obtain ⟨clients, dropped⟩ := never_joins reached
  cases ran
  exact ⟨_, rfl, clients, dropped⟩

/-- One byte arrives before the connection is taken, and another client connects. -/
theorem blocked_forever_oneByte :
    ∃ system final : System .littleEndian,
      runActions (step (.factory .littleEndian)) oneByteArrives (initial .littleEndian) =
          some system ∧
        runActions (step (.factory .littleEndian)) [.connect 8, .accept] system = some final ∧
          final.newConnections = [0, 1] ∧ final.takes = [] ∧
            ∀ setup memory fuel,
              step (.factory .littleEndian) (.take setup memory fuel) final = none := by
  have reached : Reachable (step (.factory .littleEndian)) (fun _ _ => True)
      (initial .littleEndian) _ := .run (fun _ _ _ => trivial) .start
    (rfl : runActions _ oneByteArrives _ = some _)
  obtain ⟨taken, -, stuck⟩ := blocked_forever reached
    (show Blocked 0 _ from ⟨[], _, rfl, rfl, List.cons_ne_nil _ _⟩)
    (.run (fun _ _ _ => trivial) .start (rfl : runActions _ [.connect 8, .accept] _ = some _))
  exact ⟨_, _, rfl, rfl, rfl, taken, stuck⟩

end System

end LegendOfStealth

import LegendOfStealth.Server.Admission

/-!
# Runs of the server and admission control

A run takes actions, each a call of one of the functions that `ServerLoop` makes
on the clients.  An invariant of runs is proved for the three things that can
happen to the server: a connection is dropped, a player is admitted, the queues
are flushed.
-/

namespace LegendOfStealth.Server

open LegendOfStealth.Library LegendOfStealth.Net LegendOfStealth.Protocol

/-- What the environment gives in one pass of `ServerLoop`. -/
structure Turn where
  pending : List Connection
  isConnected : Addr → Bool
  answers : FlushAnswers

/-- One pass of `ServerLoop`: whether the loop goes on, and the server. -/
def serverLoopPass (host : Host) (turn : Turn) (server : Server) :
    Except Failure (Bool × Server) :=
  if server.protoPhase = .none then
    pure (false, server.broadcast host turn.isConnected .tcp Message.serverShutdown.packet)
  else do
    let handled ← server.handleNewTCPConnections host turn.pending
    pure (true, handled.flushClientPacketQueues host turn.answers)

/-! ## Actions -/

/-- The steps of a run. -/
inductive Action where
  | handleNewTCPConnections (pending : List Connection)
  | acceptNewClient (connection : Connection)
  | flushClientPacketQueues (answers : FlushAnswers)

/-- The state after an action that does not fail. -/
def act (host : Host) : Step Action Server
  | .handleNewTCPConnections pending, server =>
      (server.handleNewTCPConnections host pending).toOption
  | .acceptNewClient connection, server =>
      (connection.getNewSocket >>= fun socket =>
        server.acceptNewClient host connection socket).toOption
  | .flushClientPacketQueues answers, server =>
      some (server.flushClientPacketQueues host answers)

namespace Action

/-- The action is one that `ServerLoop` takes by itself. -/
def FromLoop : Action → Prop
  | .handleNewTCPConnections _ | .flushClientPacketQueues _ => True
  | .acceptNewClient _ => False

/-- Every connection that the action admits has a property, in the state in which
it is admitted. -/
def Admissions (host : Host) (property : Server → Connection → Prop) (server : Server) :
    Action → Prop
  | .handleNewTCPConnections pending =>
      Along (handleConnection host)
        (fun server connection => server.Admits host connection → property server connection)
        pending server
  | .acceptNewClient connection =>
      connection.Requests ∧ server.Responds host connection → property server connection
  | .flushClientPacketQueues _ => True

/-- A flush is made with answers that have a property. -/
def Flushes (property : FlushAnswers → Prop) : Action → Prop
  | .flushClientPacketQueues answers => property answers
  | _ => True

/-- Every TCP transport that the action uses takes a whole buffer or fails. -/
def Atomic : Action → Prop
  | .handleNewTCPConnections pending => ∀ connection ∈ pending, AllOrNothing connection.send
  | .acceptNewClient connection => AllOrNothing connection.send
  | .flushClientPacketQueues answers => ∀ addr, AllOrNothing (answers.tcpSend addr)

theorem admissions_of_forall {host : Host} {property : Server → Connection → Prop}
    (all : ∀ server connection, property server connection) (action : Action) {server : Server} :
    action.Admissions host property server := by
  cases action with
  | handleNewTCPConnections pending =>
      have along : Along (handleConnection host) (fun _ _ => True) pending server :=
        along_of_forall (fun _ _ => trivial) server
      refine along.mono ?_
      exact fun server connection _ _ => all server connection
  | acceptNewClient connection => exact fun _ => all server connection
  | flushClientPacketQueues answers => trivial

theorem flushes_of_forall {property : FlushAnswers → Prop} (all : ∀ answers, property answers)
    (action : Action) : action.Flushes property := by
  cases action with
  | flushClientPacketQueues answers => exact all answers
  | _ => trivial

theorem Atomic.admissions {host : Host} {server : Server} {action : Action}
    (atomic : action.Atomic) :
    action.Admissions host (fun _ connection => AllOrNothing connection.send) server := by
  cases action with
  | handleNewTCPConnections pending =>
      refine (along_of_forall atomic server).mono ?_
      exact fun _ _ atomic _ => atomic
  | acceptNewClient connection => exact fun _ => atomic
  | flushClientPacketQueues answers => trivial

theorem Atomic.flushes {action : Action} (atomic : action.Atomic) :
    action.Flushes fun answers => ∀ addr, AllOrNothing (answers.tcpSend addr) := by
  cases action with
  | flushClientPacketQueues answers => exact atomic
  | _ => trivial

end Action

theorem toOption_eq_some_iff {α : Type} {result : Except Failure α} {value : α} :
    result.toOption = some value ↔ result = .ok value := by
  cases result <;> simp [Except.toOption]

section Invariant

variable {host : Host} {invariant : Server → Prop} (property : Server → Connection → Prop)
  (flushable : FlushAnswers → Prop)
  (dropped : ∀ {server connection after}, invariant server → Dropped server connection after →
    invariant after)
  (admitted : ∀ {server connection client}, invariant server → property server connection →
    connection.Requests ∧ server.Responds host connection →
      Welcomed host server connection client →
        invariant ((server.announced host connection).pushClient client))
  (flushed : ∀ {server answers}, invariant server → flushable answers →
    invariant (server.flushClientPacketQueues host answers))

include dropped admitted

theorem handleConnection_invariant {server after : Server} {connection : Connection}
    (initially : invariant server)
    (permitted : server.Admits host connection → property server connection)
    (handled : server.handleConnection host connection = .ok after) : invariant after := by
  rcases handleConnection_cases handled with
    ⟨-, rfl⟩ | ⟨-, -, drops⟩ | ⟨admits, client, welcomed, rfl⟩
  · exact dropped initially ⟨_, server.nextPlayerId, rfl, rfl⟩
  · exact dropped initially drops
  · exact admitted initially (permitted admits) admits.2 welcomed

include flushed

/-- What droppings, admissions and flushes preserve, every action preserves. -/
theorem act_invariant {server after : Server} {action : Action} (initially : invariant server)
    (admissions : action.Admissions host property server) (flushes : action.Flushes flushable)
    (acted : act host action server = some after) : invariant after := by
  cases action with
  | handleNewTCPConnections pending =>
      exact foldlM_invariant (handleConnection_invariant property dropped admitted) initially
        admissions (toOption_eq_some_iff.mp acted)
  | acceptNewClient connection =>
      rcases bind_eq_ok_iff.mp (toOption_eq_some_iff.mp acted) with ⟨socket, made, accepted⟩
      rcases Connection.getNewSocket_eq_ok_iff.mp made with ⟨-, rfl⟩
      rcases acceptNewClient_cases accepted with ⟨-, drops⟩ | ⟨joins, client, welcomed, rfl⟩
      · exact dropped initially drops
      · exact admitted initially (admissions joins) joins welcomed
  | flushClientPacketQueues answers =>
      cases acted
      exact flushed initially flushes

end Invariant

/-! ## Admission control -/

/-- Exactly one client was appended, and only kicks changed the others. -/
def Appends (before after : Server) : Prop :=
  ∃ staying client, after.clients = staying ++ [client] ∧
    (staying.map Client.player).Sublist (before.clients.map Client.player) ∧
      client.addr = before.roster.nextAddr

/-- What handling one connection means for the clients and for the connection. -/
structure Handled (host : Host) (connection : Connection) (before after : Server) : Prop where
  appends : Appends before after ↔ before.Admits host connection
  refused : ¬ before.HasRoom → after.dropped = before.dropped ++
    [(connection.socket.sendPacket host connection.send refusal.packet).2]
  untouched : ¬ before.Admits host connection → after.clients = before.clients
  capacity : before.clients.length ≤ maxPlayers → after.clients.length ≤ maxPlayers

theorem not_appends_of_clients_eq {before after : Server} (same : after.clients = before.clients) :
    ¬ Appends before after := by
  rintro ⟨staying, client, shape, -, newest⟩
  have old : client ∈ before.clients := by
    rw [← same, shape]
    simp
  exact Nat.ne_of_lt (before.roster.fresh client old) newest

theorem players_announced (host : Host) (server : Server) (connection : Connection) :
    (server.announced host connection).clients.map Client.player =
      (server.clients.map Client.player).filter fun player =>
        connection.isConnected player.addr :=
  players_broadcast host connection.isConnected .tcp _ server.getNextPlayerID.2

theorem nextAddr_announced (host : Host) (server : Server) (connection : Connection) :
    (server.announced host connection).roster.nextAddr = server.roster.nextAddr :=
  (broadcast_passes host connection.isConnected .tcp _ server.getNextPlayerID.2).2.nextAddr

theorem dropped_announced (host : Host) (server : Server) (connection : Connection) :
    (server.announced host connection).dropped = server.dropped :=
  (broadcast_passes host connection.isConnected .tcp _ server.getNextPlayerID.2).2.dropped

/-- A welcomed client already has the identity that it gets in the vector. -/
theorem Welcomed.identity {host : Host} {server : Server} {connection : Connection}
    {client : Client} (welcomed : Welcomed host server connection client) :
    client.addr = (server.announced host connection).roster.nextAddr :=
  (congrArg Player.addr welcomed.player).trans (nextAddr_announced host server connection).symm

theorem clients_pushClient {server : Server} {client : Client}
    (identity : client.addr = server.roster.nextAddr) :
    (server.pushClient client).clients = server.clients ++ [client] := by
  simp only [pushClient, clients, Roster.pushBack, ← identity]

theorem handled_of_handleConnection {host : Host} {connection : Connection}
    {before after : Server} (handled : before.handleConnection host connection = .ok after) :
    Handled host connection before after := by
  rcases handleConnection_cases handled with
    ⟨closed, rfl⟩ | ⟨room, refuses, socket, counter, -, rfl⟩ | ⟨admits, client, welcomed, rfl⟩
  · have refuses : ¬ before.Admits host connection := fun admits => closed admits.1
    exact ⟨⟨fun appends => absurd appends (not_appends_of_clients_eq rfl),
      fun admits => absurd admits refuses⟩, fun _ => rfl, fun _ => rfl, id⟩
  · exact ⟨⟨fun appends => absurd appends (not_appends_of_clients_eq rfl),
      fun admits => absurd admits refuses⟩, fun closed => absurd room closed, fun _ => rfl, id⟩
  · have shape := clients_pushClient welcomed.identity
    have staying : ((before.announced host connection).clients.map Client.player).Sublist
        (before.clients.map Client.player) := by
      rw [players_announced]
      exact List.filter_sublist
    refine ⟨⟨fun _ => admits, fun _ => ⟨_, client, shape, staying, ?_⟩⟩,
      fun closed => absurd admits.1 closed, fun refuses => absurd admits refuses, fun _ => ?_⟩
    · exact congrArg Player.addr welcomed.player
    · have fewer := staying.length_le
      have free : before.clients.length < maxPlayers := admits.1.2
      simp only [List.length_map] at fewer
      rw [shape, List.length_append, List.length_singleton]
      omega

theorem capacity_of_act {host : Host} {server after : Server} {action : Action}
    (fromLoop : action.FromLoop) (bounded : server.clients.length ≤ maxPlayers)
    (acted : act host action server = some after) : after.clients.length ≤ maxPlayers := by
  cases action with
  | handleNewTCPConnections pending =>
      have anyConnection : Along (handleConnection host) (fun _ _ => True) pending server :=
        along_of_forall (fun _ _ => trivial) server
      exact foldlM_invariant
        (fun bounded _ handled => (handled_of_handleConnection handled).capacity bounded) bounded
        anyConnection (toOption_eq_some_iff.mp acted)
  | acceptNewClient connection => exact fromLoop.elim
  | flushClientPacketQueues answers =>
      cases acted
      have fewer := (players_flushClientPacketQueues host answers server).length_le
      simp only [List.length_map] at fewer
      exact fewer.trans bounded

/-- The connections are handled one after the other, each in the state that the
earlier ones left. -/
def HandledInOrder (host : Host) : List Connection → Server → Server → Prop :=
  Chain fun before connection after =>
    before.handleConnection host connection = .ok after ∧ Handled host connection before after

/-- Admission control: if the socket constructors succeed, the call returns the
server that handling the pending connections in order leads to, and each of them
becomes a client exactly when it is admitted.  So the server never exceeds its
capacity. -/
theorem admission_control (host : Host) :
    (∀ (server : Server) (pending : List Connection),
      (∀ connection ∈ pending, connection.TcpSetup ∧ connection.UdpSetup) →
        ∃ after, server.handleNewTCPConnections host pending = .ok after ∧
          HandledInOrder host pending server after) ∧
      ∀ server, Reachable (act host) (fun _ action => action.FromLoop) initial server →
        server.clients.length ≤ maxPlayers := by
  constructor
  · intro server pending setup
    have succeeds : Along (handleConnection host)
        (fun before connection => Succeeds (before.handleConnection host connection))
        pending server :=
      (along_of_forall setup server).mono fun before connection setup =>
        succeeds_handleConnection_iff.mpr ⟨setup.1, fun _ _ => setup.2⟩
    rcases succeeds_foldlM_iff.mpr succeeds with ⟨after, handled⟩
    refine ⟨after, handled, (chain_of_foldlM handled).mono ?_⟩
    intro before connection next stepped
    exact ⟨stepped, handled_of_handleConnection stepped⟩
  · intro server reached
    induction reached with
    | start => exact Nat.zero_le _
    | next _ fromLoop acted bounded => exact capacity_of_act fromLoop bounded acted

/-- A connection that brings a join request and on which every call succeeds. -/
def Connection.joining (port : Dword) (isConnected : Addr → Bool) : Connection where
  handle := 0
  peer := 0
  incoming := []
  tcpAllocSet := true
  tcpAddSocket := true
  hasActivity := true
  receive := .unchanged (some (Message.joinRequest port).packet)
  udpAllocSet := true
  udpOpen := some 0
  udpAddSocket := true
  udpBind := true
  send := acceptAll
  isConnected := isConnected

/-- One such connection is admitted to an empty server. -/
theorem admission_control_joining :
    initial.Admits .littleEndian (.joining 7 fun _ => true) ∧
      (∃ after, initial.handleNewTCPConnections .littleEndian [.joining 7 fun _ => true] =
          .ok after ∧
        HandledInOrder .littleEndian [.joining 7 fun _ => true] initial after) ∧
      initial.clients.length ≤ maxPlayers :=
  ⟨⟨⟨rfl, by decide⟩, ⟨rfl, _, rfl, rfl⟩, by decide⟩,
    (admission_control .littleEndian).1 initial [.joining 7 fun _ => true]
      (by simp [Connection.TcpSetup, Connection.UdpSetup, Connection.joining]),
    (admission_control .littleEndian).2 initial .start⟩

end LegendOfStealth.Server

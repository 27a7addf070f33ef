import LegendOfStealth.Library.FallibleFold
import LegendOfStealth.Library.Transition
import LegendOfStealth.Server.State

/-!
# Admission of new connections

`HandleNewTCPConnections` wraps every pending connection in a socket and either
hands it to `AcceptNewClient` or refuses it.  Whatever SDL_net answers on the way
is a field of the connection.  A failed call surfaces as an exception, or as a
null handle that is used all the same; no caller catches either.
-/

namespace LegendOfStealth.Server

open LegendOfStealth.Library LegendOfStealth.Net LegendOfStealth.Protocol

/-- How a constructor fails. -/
inductive Failure where
  | runtimeError (message : String)
  | nullDereference
  deriving DecidableEq, Repr

/-- A pending `TCPsocket` with what the environment answers while the server
handles it: the calls that set up its sockets, the activity and the packet found
on it, its transport, and whether each client is connected when it is announced. -/
structure Connection where
  handle : Nat
  peer : Dword
  incoming : List Recv
  tcpAllocSet : Bool
  tcpAddSocket : Bool
  hasActivity : Bool
  receive : (socket : Socket) → Socket.Received socket
  udpAllocSet : Bool
  udpOpen : Option Nat
  udpAddSocket : Bool
  udpBind : Bool
  send : Transport
  isConnected : Addr → Bool

/-- A call that throws when it does not succeed. -/
def require (succeeded : Bool) (failure : Failure) : Except Failure Unit :=
  if succeeded then .ok () else .error failure

@[simp]
theorem require_eq_ok_iff {succeeded : Bool} {failure : Failure} {value : Unit} :
    require succeeded failure = .ok value ↔ succeeded = true := by
  cases succeeded <;> simp [require]

/-- `GetOctalIP`. -/
def getOctalIP (ip : Dword) : String :=
  toString ((ip >>> 24) &&& 0xFF).toNat ++ "." ++ toString ((ip >>> 16) &&& 0xFF).toNat ++ "." ++
    toString ((ip >>> 8) &&& 0xFF).toNat ++ "." ++ toString (ip &&& 0xFF).toNat

namespace Connection

/-- `GetNewSocket`: `Socket(TCPsocket)` on the handle. -/
def getNewSocket (connection : Connection) : Except Failure Socket := do
  require connection.tcpAllocSet (.runtimeError "Failed to allocate socket set")
  require connection.tcpAddSocket (.runtimeError "Failed to add TCP socket to set")
  pure (.ofHandle .tcp connection.handle connection.incoming)

/-- `CreateUDP`: a failed open is logged, and the null handle is used. -/
def createUDP (connection : Connection) : Except Failure Nat :=
  match connection.udpOpen with
  | none => .error .nullDereference
  | some handle => .ok handle

/-- `Socket(UDP, ipaddr, 0)`, through `Init`. -/
def newSocketUDP (connection : Connection) : Except Failure Socket := do
  require connection.udpAllocSet (.runtimeError "Failed to allocate socket set")
  let handle ← connection.createUDP
  require connection.udpAddSocket (.runtimeError "Failed to add UDP socket to set")
  require connection.udpBind
    (.runtimeError ("Failed to bind address " ++ getOctalIP connection.peer))
  pure (.ofHandle .udp handle [])

/-- Every call that sets up the TCP socket succeeds. -/
def TcpSetup (connection : Connection) : Prop :=
  connection.tcpAllocSet = true ∧ connection.tcpAddSocket = true

/-- Every call that sets up the UDP socket succeeds. -/
def UdpSetup (connection : Connection) : Prop :=
  connection.udpAllocSet = true ∧ connection.udpOpen.isSome ∧ connection.udpAddSocket = true ∧
    connection.udpBind = true

/-- The socket that `GetNewSocket` makes. -/
def socket (connection : Connection) : Socket :=
  .ofHandle .tcp connection.handle connection.incoming

theorem getNewSocket_eq_ok_iff {connection : Connection} {socket : Socket} :
    connection.getNewSocket = .ok socket ↔ connection.TcpSetup ∧ socket = connection.socket := by
  simp only [getNewSocket, bind_eq_ok_iff, require_eq_ok_iff, TcpSetup, Connection.socket]
  constructor
  · rintro ⟨-, allocated, -, added, made⟩
    cases made
    exact ⟨⟨allocated, added⟩, rfl⟩
  · rintro ⟨⟨allocated, added⟩, rfl⟩
    exact ⟨(), allocated, (), added, rfl⟩

theorem succeeds_newSocketUDP_iff {connection : Connection} :
    Succeeds connection.newSocketUDP ↔ connection.UdpSetup := by
  simp only [Succeeds, newSocketUDP, bind_eq_ok_iff, require_eq_ok_iff, UdpSetup, createUDP]
  constructor
  · rintro ⟨_, -, allocated, handle, opened, -, added, -, bound, -⟩
    refine ⟨allocated, ?_, added, bound⟩
    cases answered : connection.udpOpen with
    | none => rw [answered] at opened; contradiction
    | some _ => rfl
  · rintro ⟨allocated, opened, added, bound⟩
    rcases Option.isSome_iff_exists.mp opened with ⟨handle, opened⟩
    exact ⟨.ofHandle .udp handle [], (), allocated, handle, by rw [opened], (), added, (), bound,
      rfl⟩

end Connection

/-- `Client::Client`. -/
def newClient (connection : Connection) (addr : Addr) (playerID : Dword) (team : Team)
    (udpPort : Dword) (tcpSocket : Socket) : Except Failure Client := do
  let udpSocket ← connection.newSocketUDP
  pure ⟨addr, playerID, team, udpPort, tcpSocket, udpSocket, [], [], []⟩

/-- What a refused player is told. -/
def refusal : Message :=
  .joinResponse false 0 0

/-! ## The functions of the server -/

/-- `delete socket`, for a connection that is not admitted. -/
def discard (socket : Socket) (server : Server) : Server :=
  { server with dropped := server.dropped ++ [socket] }

/-- `_clients.push_back(client)`. -/
def pushClient (client : Client) (server : Server) : Server :=
  { server with
    roster := server.roster.pushBack client
    history := server.history ++ [.joined client.player] }

/-- The end of `AcceptNewClient`, once the client object is there: respond, then
announce and append the client if the response was sent. -/
def respondTo (host : Host) (connection : Connection) (client : Client) (server : Server) :
    Server :=
  let response := client.sendJoinResponsePacket host connection.send
  if !response.1 then server.discard response.2.tcpSocket
  else
    (server.broadcast host connection.isConnected .tcp
      (Event.joined client.player).message.packet).pushClient response.2

/-- `AcceptNewClient`. -/
def acceptNewClient (host : Host) (connection : Connection) (clientTcpSocket : Socket)
    (server : Server) : Except Failure Server :=
  if !connection.hasActivity then pure (server.discard clientTcpSocket)
  else
    let received := connection.receive clientTcpSocket
    match received.packet with
    | none => pure (server.discard received.after)
    | some packet =>
        if packet.getPacketType ≠ PacketType.joinRequest.toDword then
          pure (server.discard received.after)
        else do
          let client ← newClient connection server.roster.nextAddr server.getNextPlayerID.1
            server.getTeamForNextPlayer packet.port received.after
          pure (server.getNextPlayerID.2.respondTo host connection client)

/-- One pass of the loop of `HandleNewTCPConnections`. -/
def handleConnection (host : Host) (server : Server) (connection : Connection) :
    Except Failure Server := do
  let socket ← connection.getNewSocket
  if server.protoPhase = .lobby ∧ !server.isServerFull then
    server.acceptNewClient host connection socket
  else
    pure (server.discard (socket.sendPacket host connection.send refusal.packet).2)

/-- `HandleNewTCPConnections`, for the connections that the listener hands over
during the call. -/
def handleNewTCPConnections (host : Host) (pending : List Connection) (server : Server) :
    Except Failure Server :=
  pending.foldlM (handleConnection host) server

/-! ## What one connection does -/

/-- The phase and the capacity let a player in. -/
def HasRoom (server : Server) : Prop :=
  server.protoPhase = .lobby ∧ server.clients.length < maxPlayers

instance (server : Server) : Decidable server.HasRoom :=
  inferInstanceAs (Decidable (_ ∧ _))

/-- The player that an admission makes. -/
def nextPlayer (server : Server) : Player :=
  ⟨server.roster.nextAddr, server.nextPlayerId, server.getTeamForNextPlayer⟩

/-- There is activity, and the first packet is a join request. -/
def Connection.Requests (connection : Connection) : Prop :=
  connection.hasActivity = true ∧
    ∃ packet, (connection.receive connection.socket).packet = some packet ∧
      packet.getPacketType = PacketType.joinRequest.toDword

/-- The join response is sent. -/
def Responds (host : Host) (server : Server) (connection : Connection) : Prop :=
  connection.send ((Client.joinResponse server.nextPlayer).bytes host) ≠ 0

instance (host : Host) (server : Server) (connection : Connection) :
    Decidable (server.Responds host connection) :=
  inferInstanceAs (Decidable (_ ≠ _))

/-- The connection becomes a client. -/
def Admits (host : Host) (server : Server) (connection : Connection) : Prop :=
  server.HasRoom ∧ connection.Requests ∧ server.Responds host connection

/-- The client that an admission appends: it has been sent its join response and
has nothing queued. -/
structure Welcomed (host : Host) (server : Server) (connection : Connection)
    (client : Client) : Prop where
  player : client.player = server.nextPlayer
  protocol : client.tcpSocket.protocol = .tcp
  handle : client.tcpSocket.handle = connection.handle
  sent : client.tcpSocket.sent =
    acceptedBytes .tcp (connection.send ((Client.joinResponse server.nextPlayer).bytes host))
      ((Client.joinResponse server.nextPlayer).bytes host)
  tcpPktQueue : client.tcpPktQueue = []
  udpPktQueue : client.udpPktQueue = []
  tcpQueued : client.tcpQueued = []

/-- The server after the announcement of its next player. -/
def announced (host : Host) (server : Server) (connection : Connection) : Server :=
  server.getNextPlayerID.2.broadcast host connection.isConnected .tcp
    (Event.joined server.nextPlayer).message.packet

/-- The server after a connection was dropped: at most its counter has moved. -/
def Dropped (server : Server) (connection : Connection) (after : Server) : Prop :=
  ∃ socket nextPlayerId, socket.handle = connection.handle ∧
    after = { server with
      nextPlayerId := nextPlayerId
      dropped := server.dropped ++ [socket] }

theorem acceptNewClient_of_not_requests {host : Host} {connection : Connection} {server : Server}
    (silent : ¬ connection.Requests) :
    ∃ socket, socket.handle = connection.handle ∧
      server.acceptNewClient host connection connection.socket = .ok (server.discard socket) := by
  have keptHandle : (connection.receive connection.socket).after.handle = connection.handle :=
    (connection.receive connection.socket).handle
  unfold acceptNewClient
  cases active : connection.hasActivity with
  | false => exact ⟨connection.socket, rfl, rfl⟩
  | true =>
      refine ⟨_, keptHandle, ?_⟩
      rw [if_neg (by simp)]
      cases packetEq : (connection.receive connection.socket).packet with
      | none => simp only [packetEq]; rfl
      | some packet =>
          have mismatch : packet.getPacketType ≠ PacketType.joinRequest.toDword :=
            fun joinRequest => silent ⟨active, packet, packetEq, joinRequest⟩
          simp only [packetEq, if_pos mismatch]
          rfl

theorem acceptNewClient_of_requests {host : Host} {connection : Connection} {server : Server}
    (requests : connection.Requests) :
    ∃ port, server.acceptNewClient host connection connection.socket =
      (newClient connection server.roster.nextAddr server.nextPlayerId
        server.getTeamForNextPlayer port (connection.receive connection.socket).after >>=
          fun client => pure (server.getNextPlayerID.2.respondTo host connection client)) := by
  rcases requests with ⟨active, packet, packetEq, joinRequest⟩
  refine ⟨packet.port, ?_⟩
  simp only [acceptNewClient, active, packetEq, joinRequest]
  rfl

theorem newClient_eq_ok_iff {connection : Connection} {addr : Addr} {playerID : Dword}
    {team : Team} {udpPort : Dword} {tcpSocket : Socket} {client : Client} :
    newClient connection addr playerID team udpPort tcpSocket = .ok client ↔
      ∃ udpSocket, connection.newSocketUDP = .ok udpSocket ∧
        client = ⟨addr, playerID, team, udpPort, tcpSocket, udpSocket, [], [], []⟩ := by
  simp only [newClient, bind_eq_ok_iff]
  constructor
  · rintro ⟨udpSocket, made, built⟩
    cases built
    exact ⟨udpSocket, made, rfl⟩
  · rintro ⟨udpSocket, made, rfl⟩
    exact ⟨udpSocket, made, rfl⟩

theorem respondTo_of_responds {host : Host} {connection : Connection} {server : Server}
    {client : Client} (player : client.player = server.nextPlayer)
    (received : client.tcpSocket = (connection.receive connection.socket).after)
    (queues : client.tcpPktQueue = [] ∧ client.udpPktQueue = [] ∧ client.tcpQueued = [])
    (responds : server.Responds host connection) :
    ∃ welcomed, Welcomed host server connection welcomed ∧
      server.getNextPlayerID.2.respondTo host connection client =
        (server.announced host connection).pushClient welcomed := by
  have tcp : client.tcpSocket.protocol = .tcp :=
    (congrArg Socket.protocol received).trans (connection.receive connection.socket).protocol
  have unused : client.tcpSocket.sent = [] :=
    (congrArg Socket.sent received).trans (connection.receive connection.socket).sent
  have handle : client.tcpSocket.handle = connection.handle :=
    (congrArg Socket.handle received).trans (connection.receive connection.socket).handle
  have sent : (client.sendJoinResponsePacket host connection.send).1 = true := by
    rw [Client.fst_sendJoinResponsePacket, player]
    simpa [Responds] using responds
  refine ⟨(client.sendJoinResponsePacket host connection.send).2,
    ⟨player, tcp, handle, ?_, queues.1, queues.2.1, queues.2.2⟩, ?_⟩
  · rw [← player]
    exact Client.sent_sendJoinResponsePacket tcp unused
  · simp only [respondTo, sent, player]
    rfl

theorem respondTo_of_not_responds {host : Host} {connection : Connection} {server : Server}
    {client : Client} (player : client.player = server.nextPlayer)
    (mute : ¬ server.Responds host connection) :
    server.getNextPlayerID.2.respondTo host connection client =
      server.getNextPlayerID.2.discard
        (client.sendJoinResponsePacket host connection.send).2.tcpSocket := by
  have failed : (client.sendJoinResponsePacket host connection.send).1 = false := by
    rw [Client.fst_sendJoinResponsePacket, player]
    simpa [Responds] using mute
  simp only [respondTo, failed]
  rfl

theorem acceptNewClient_cases {host : Host} {connection : Connection} {server after : Server}
    (accepted : server.acceptNewClient host connection connection.socket = .ok after) :
    (¬ (connection.Requests ∧ server.Responds host connection) ∧
        Dropped server connection after) ∨
      ((connection.Requests ∧ server.Responds host connection) ∧
        ∃ client, Welcomed host server connection client ∧
          after = (server.announced host connection).pushClient client) := by
  by_cases requests : connection.Requests
  · rcases acceptNewClient_of_requests requests with ⟨port, eq⟩
    rcases bind_eq_ok_iff.mp (eq.symm.trans accepted) with ⟨client, made, responded⟩
    rcases newClient_eq_ok_iff.mp made with ⟨udpSocket, -, rfl⟩
    cases responded
    by_cases responds : server.Responds host connection
    · exact .inr ⟨⟨requests, responds⟩, respondTo_of_responds rfl rfl ⟨rfl, rfl, rfl⟩ responds⟩
    · refine .inl ⟨fun joins => responds joins.2, ?_⟩
      refine ⟨_, server.nextPlayerId + 1, ?_, respondTo_of_not_responds rfl responds⟩
      exact (connection.receive connection.socket).handle
  · rcases acceptNewClient_of_not_requests requests with ⟨socket, handle, eq⟩
    cases eq.symm.trans accepted
    exact .inl ⟨fun joins => requests joins.1, socket, server.nextPlayerId, handle, rfl⟩

/-- `AcceptNewClient` returns exactly when a join request finds its UDP socket. -/
theorem succeeds_acceptNewClient_iff {host : Host} {connection : Connection} {server : Server} :
    Succeeds (server.acceptNewClient host connection connection.socket) ↔
      (connection.Requests → connection.UdpSetup) := by
  rw [← Connection.succeeds_newSocketUDP_iff]
  constructor
  · rintro ⟨after, accepted⟩ requests
    rcases acceptNewClient_of_requests requests with ⟨port, eq⟩
    rcases bind_eq_ok_iff.mp (eq.symm.trans accepted) with ⟨client, made, -⟩
    rcases newClient_eq_ok_iff.mp made with ⟨udpSocket, opened, -⟩
    exact ⟨udpSocket, opened⟩
  · intro setup
    by_cases requests : connection.Requests
    · rcases acceptNewClient_of_requests requests with ⟨port, eq⟩
      rcases setup requests with ⟨udpSocket, opened⟩
      exact ⟨_, eq.trans (bind_eq_ok_iff.mpr
        ⟨_, newClient_eq_ok_iff.mpr ⟨udpSocket, opened, rfl⟩, rfl⟩)⟩
    · rcases acceptNewClient_of_not_requests requests with ⟨socket, -, eq⟩
      exact ⟨_, eq⟩

theorem hasRoom_iff {server : Server} :
    (server.protoPhase = .lobby ∧ (!server.isServerFull) = true) ↔ server.HasRoom := by
  simp [HasRoom, isServerFull]

/-- The three ways in which a connection is handled without a failure. -/
theorem handleConnection_cases {host : Host} {connection : Connection} {server after : Server}
    (handled : server.handleConnection host connection = .ok after) :
    (¬ server.HasRoom ∧
        after = server.discard
          (connection.socket.sendPacket host connection.send refusal.packet).2) ∨
      (server.HasRoom ∧ ¬ server.Admits host connection ∧ Dropped server connection after) ∨
      (server.Admits host connection ∧
        ∃ client, Welcomed host server connection client ∧
          after = (server.announced host connection).pushClient client) := by
  rcases bind_eq_ok_iff.mp handled with ⟨socket, made, handled⟩
  rcases Connection.getNewSocket_eq_ok_iff.mp made with ⟨-, rfl⟩
  split at handled
  · rename_i room
    have room := hasRoom_iff.mp room
    rcases acceptNewClient_cases handled with ⟨refuses, dropped⟩ | ⟨joins, admitted⟩
    · exact .inr (.inl ⟨room, fun admits => refuses admits.2, dropped⟩)
    · exact .inr (.inr ⟨⟨room, joins⟩, admitted⟩)
  · rename_i room
    cases handled
    exact .inl ⟨fun hasRoom => room (hasRoom_iff.mpr hasRoom), rfl⟩

/-- Every call made to set up a connection succeeds: its TCP socket always, its
UDP socket if the connection gets as far as a join request. -/
def SetupSucceeds (server : Server) (connection : Connection) : Prop :=
  connection.TcpSetup ∧ (server.HasRoom → connection.Requests → connection.UdpSetup)

/-- A connection is handled without a failure exactly when its setup succeeds. -/
theorem succeeds_handleConnection_iff {host : Host} {connection : Connection} {server : Server} :
    Succeeds (server.handleConnection host connection) ↔ server.SetupSucceeds connection := by
  constructor
  · rintro ⟨after, handled⟩
    rcases bind_eq_ok_iff.mp handled with ⟨socket, made, handled⟩
    rcases Connection.getNewSocket_eq_ok_iff.mp made with ⟨tcpSetup, rfl⟩
    refine ⟨tcpSetup, fun room => ?_⟩
    rw [if_pos (hasRoom_iff.mpr room)] at handled
    exact succeeds_acceptNewClient_iff.mp ⟨after, handled⟩
  · rintro ⟨tcpSetup, udpSetup⟩
    have made : connection.getNewSocket = .ok connection.socket :=
      Connection.getNewSocket_eq_ok_iff.mpr ⟨tcpSetup, rfl⟩
    by_cases room : server.HasRoom
    · rcases succeeds_acceptNewClient_iff.mpr (udpSetup room) with ⟨after, accepted⟩
      refine ⟨after, bind_eq_ok_iff.mpr ⟨connection.socket, made, ?_⟩⟩
      rw [if_pos (hasRoom_iff.mpr room)]
      exact accepted
    · refine ⟨server.discard (connection.socket.sendPacket host connection.send refusal.packet).2,
        bind_eq_ok_iff.mpr ⟨connection.socket, made, ?_⟩⟩
      rw [if_neg fun admitting => room (hasRoom_iff.mp admitting)]
      rfl

end LegendOfStealth.Server

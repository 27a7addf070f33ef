import LegendOfStealth.Server.Admission

/-!
# The joining client

`ServerConnector::ConnectToServer` opens two sockets, sends a join request and
waits for the answer in two nested loops: the outer one looks at the time, the
inner one at the activity on the TCP socket.  The environment is a list of polls,
one for each time the inner condition is evaluated.

`sockets` records the `Socket` objects that exist; no definition reads it.
-/

namespace LegendOfStealth.Connector

open LegendOfStealth.Library LegendOfStealth.Net LegendOfStealth.Protocol
open LegendOfStealth.Server (Failure require)

/-- `client::ServerConnector`.  `team` is the value of the enum's cell. -/
structure ServerConnector where
  host : String
  tcpPort : Dword
  udpPort : Dword
  tcpSocket : Option Socket
  udpSocket : Option Socket
  tcpGet : Bool
  udpGet : Bool
  isConnected : Bool
  playerID : Dword
  team : Dword
  sockets : List (TLProtocol × Nat)
  deriving DecidableEq

/-- What the calls that set up the sockets answer.  An opened UDP socket comes with
the port it is bound to. -/
structure Setup where
  resolveHost : String → Dword → Bool
  udpAllocSet : Bool
  udpOpen : Option (Nat × Dword)
  udpAddSocket : Bool
  udpBind : Bool
  tcpAllocSet : Bool
  tcpOpen : Option Nat
  tcpAddSocket : Bool
  send : Transport

/-- What is found when `HasActivity` is called in the inner loop: whether the ten
seconds are over (if the outer loop asks first), what arrives for the `GetPacket` call
that follows, that is since the last call and, should this one wait for more, while it
waits, the memory that a receive buffer is allocated from, and what the id and the team
of a deleted response read as. -/
structure Poll where
  expired : Bool
  arrived : List Recv
  memory : Nat → Byte
  freed : Dword × Dword

/-- How `ConnectToServer` ends: it returns, an exception leaves it, it is still
waiting when the polls are over, a `GetPacket` call does not return, or the result
of a `GetPacket` call is used although it is `NULL`. -/
inductive Outcome where
  | returned (result : Bool) (connector : ServerConnector)
  | threw (failure : Failure) (connector : ServerConnector)
  | waiting (connector : ServerConnector)
  | blocked
  | nullUsed
  deriving DecidableEq

namespace ServerConnector

/-- `ServerConnector::ServerConnector`. -/
def new (host : String) (tcpPort udpPort : Dword) : ServerConnector :=
  ⟨host, tcpPort, udpPort, none, none, false, false, false, 0, Team.merc.toDword, []⟩

/-- `Socket(UDP, _host, _udpPort)`: the socket, and `GetListenPortUDP`.  A failed
open is logged, and the null handle is used. -/
def newSocketUDP (setup : Setup) (connector : ServerConnector) :
    Except Failure (Socket × Dword) := do
  require (setup.resolveHost connector.host connector.udpPort)
    (.runtimeError ("Failed to resolve host " ++ connector.host))
  require setup.udpAllocSet (.runtimeError "Failed to allocate socket set")
  match setup.udpOpen with
  | none => .error .nullDereference
  | some (handle, listenPort) =>
      require setup.udpAddSocket (.runtimeError "Failed to add UDP socket to set")
      require setup.udpBind (.runtimeError ("Failed to bind address " ++ connector.host))
      pure (.ofHandle .udp handle [], listenPort)

/-- `SocketTCP(_host, _tcpPort)`. -/
def newSocketTCP (setup : Setup) (connector : ServerConnector) : Except Failure Socket := do
  require (setup.resolveHost connector.host connector.tcpPort)
    (.runtimeError ("Failed to resolve host " ++ connector.host))
  require setup.tcpAllocSet (.runtimeError "Failed to allocate socket set")
  match setup.tcpOpen with
  | none => .error (.runtimeError ("Failed to connect to host " ++ connector.host))
  | some handle =>
      require setup.tcpAddSocket (.runtimeError "Failed to add TCP socket to set")
      pure (.ofHandle .tcp handle [])

/-- `_udpSocket = new Socket(..)`. -/
def setUdpSocket (socket : Socket) (connector : ServerConnector) : ServerConnector :=
  { connector with
    udpSocket := some socket
    sockets := connector.sockets ++ [(.udp, socket.handle)] }

/-- `_tcpSocket = new SocketTCP(..)`. -/
def setTcpSocket (socket : Socket) (connector : ServerConnector) : ServerConnector :=
  { connector with
    tcpSocket := some socket
    sockets := connector.sockets ++ [(.tcp, socket.handle)] }

/-- The object behind `_tcpSocket` has changed. -/
def updateTcpSocket (socket : Socket) (connector : ServerConnector) : ServerConnector :=
  { connector with tcpSocket := some socket }

/-- `delete` on a socket pointer. -/
def deleteSocket (proto : TLProtocol) (socket : Option Socket) (connector : ServerConnector) :
    ServerConnector :=
  match socket with
  | none => connector
  | some socket => { connector with sockets := connector.sockets.erase (proto, socket.handle) }

/-- `CleanUpSockets`. -/
def cleanUpSockets (connector : ServerConnector) : ServerConnector :=
  { (connector.deleteSocket .tcp connector.tcpSocket).deleteSocket .udp connector.udpSocket with
    tcpSocket := none
    udpSocket := none }

@[simp]
theorem isConnected_deleteSocket (proto : TLProtocol) (socket : Option Socket)
    (connector : ServerConnector) :
    (connector.deleteSocket proto socket).isConnected = connector.isConnected := by
  cases socket <;> rfl

theorem isConnected_cleanUpSockets (connector : ServerConnector) :
    connector.cleanUpSockets.isConnected = connector.isConnected := by
  simp [cleanUpSockets]

end ServerConnector

/-- The `response` member, through a pointer cast to `JoinResponsePacket`. -/
def response (packet : Packet) : Bool :=
  match packet.fields with
  | .byte cell :: _ => cell != 0
  | _ => false

namespace ServerConnector

/-- The two loops that wait for the response, as one.  `outer` says that the outer
condition is evaluated next: at the start, and whenever there was no activity.  An
admitted player's packet is deleted before its id and team are read. -/
def waitForResponse (reader : Reader) (fuel : Nat) :
    Bool → List Poll → Socket → ServerConnector → Outcome
  | _, [], socket, connector => .waiting (connector.updateTcpSocket socket)
  | outer, poll :: rest, socket, connector =>
      if outer && poll.expired then
        .returned false (connector.updateTcpSocket socket).cleanUpSockets
      else
        let socket := { socket with incoming := socket.incoming ++ poll.arrived }
        if !socket.hasActivity then waitForResponse reader fuel true rest socket connector
        else
          match socket.getPacket reader poll.memory fuel with
          | none => .blocked
          | some (none, _) => .nullUsed
          | some (some packet, socket) =>
              if packet.getPacketType ≠ PacketType.joinResponse.toDword then
                waitForResponse reader fuel false rest socket connector
              else if !response packet then
                .returned false (connector.updateTcpSocket socket).cleanUpSockets
              else
                .returned true
                  { connector.updateTcpSocket socket with
                    playerID := poll.freed.1
                    team := poll.freed.2
                    isConnected := true }

/-- `ConnectToServer`. -/
def connectToServer (host : Host) (reader : Reader) (fuel : Nat) (setup : Setup)
    (polls : List Poll) (connector : ServerConnector) : Outcome :=
  if connector.isConnected then .returned true connector
  else
    match connector.newSocketUDP setup with
    | .error failure => .threw failure connector
    | .ok (udpSocket, listenPort) =>
        let connector := connector.setUdpSocket udpSocket
        match connector.newSocketTCP setup with
        | .error failure => .threw failure connector
        | .ok tcpSocket =>
            let connector := connector.setTcpSocket tcpSocket
            if !tcpSocket.isConnectionOpen then .returned false connector.cleanUpSockets
            else
              let sent := tcpSocket.sendPacket host setup.send (Message.joinRequest listenPort).packet
              if !sent.1 then .returned false (connector.updateTcpSocket sent.2).cleanUpSockets
              else connector.waitForResponse reader fuel true polls sent.2

/-- `IsConnectedToServer`. -/
def isConnectedToServer (connector : ServerConnector) : Bool :=
  connector.isConnected

/-- `AssertIsConnected`.  The context is what the compiler puts for the name of the
getter. -/
def assertIsConnected (context : String) (connector : ServerConnector) : Except Failure Unit :=
  require connector.isConnected
    (.runtimeError (context ++ ": ServerConnector is not connected"))

/-- `GetTCPSocket`. -/
def getTCPSocket (context : String) (connector : ServerConnector) :
    Except Failure (Option Socket) := do
  connector.assertIsConnected context
  pure connector.tcpSocket

/-- `GetUDPSocket`. -/
def getUDPSocket (context : String) (connector : ServerConnector) :
    Except Failure (Option Socket) := do
  connector.assertIsConnected context
  pure connector.udpSocket

/-- `GetPlayerID`. -/
def getPlayerID (context : String) (connector : ServerConnector) : Except Failure Dword := do
  connector.assertIsConnected context
  pure connector.playerID

/-- `GetTeam`, as the value of the enum that it returns. -/
def getTeam (context : String) (connector : ServerConnector) : Except Failure Dword := do
  connector.assertIsConnected context
  pure connector.team

/-- The getters answer once the connector is connected, and throw before. -/
theorem getters_ok_iff (context : String) (connector : ServerConnector) (value : Dword) :
    (connector.getPlayerID context = .ok value ↔
        connector.isConnected = true ∧ connector.playerID = value) ∧
      (connector.getTeam context = .ok value ↔
        connector.isConnected = true ∧ connector.team = value) := by
  cases connected : connector.isConnected <;>
    simp [getPlayerID, getTeam, assertIsConnected, require, connected, bind, Except.bind, pure,
      Except.pure]

theorem socketGetters_ok_iff (context : String) (connector : ServerConnector)
    (socket : Option Socket) :
    (connector.getTCPSocket context = .ok socket ↔
        connector.isConnected = true ∧ connector.tcpSocket = socket) ∧
      (connector.getUDPSocket context = .ok socket ↔
        connector.isConnected = true ∧ connector.udpSocket = socket) := by
  cases connected : connector.isConnected <;>
    simp [getTCPSocket, getUDPSocket, assertIsConnected, require, connected, bind, Except.bind,
      pure, Except.pure]

/-- The object behind a socket pointer, as `sockets` records it. -/
def object (proto : TLProtocol) : Option Socket → List (TLProtocol × Nat)
  | none => []
  | some socket => [(proto, socket.handle)]

/-- `ServerConnector::~ServerConnector`: the objects that are deleted, in order. -/
def destroyed (connector : ServerConnector) : List (TLProtocol × Nat) :=
  (if !connector.tcpGet then object .tcp connector.tcpSocket else []) ++
    if !connector.udpGet then object .udp connector.udpSocket else []

end ServerConnector

end LegendOfStealth.Connector

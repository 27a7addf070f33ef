import LegendOfStealth.Net.Send

/-!
# The server's clients

A `server::Client` owns two sockets and one byte queue per transport protocol.
Packets are serialized when they are queued and handed over as one run of bytes
when the queue is flushed.

`addr` is the identity of the object, which is what the server compares when it
looks for a client in its vector.  `tcpQueued` records every byte that was ever
appended to the TCP queue; no definition reads it.
-/

namespace LegendOfStealth.Server

open LegendOfStealth.Net LegendOfStealth.Protocol

/-- The identity of a heap object. -/
abbrev Addr := Nat

/-- Who a client is: its object, its id and its team. -/
structure Player where
  addr : Addr
  playerID : Dword
  team : Team
  deriving DecidableEq, Repr

/-- `server::Client`. -/
structure Client where
  addr : Addr
  playerID : Dword
  team : Team
  udpPort : Dword
  tcpSocket : Socket
  udpSocket : Socket
  tcpPktQueue : List Byte
  udpPktQueue : List Byte
  tcpQueued : List Byte
  deriving DecidableEq

namespace Client

/-- Who the client is, without its sockets and queues. -/
def player (client : Client) : Player :=
  ⟨client.addr, client.playerID, client.team⟩

/-- Everything put on the client's TCP channel so far: the bytes that were sent,
then those that are queued. -/
def tcpStream (client : Client) : List Byte :=
  client.tcpSocket.sent ++ client.tcpPktQueue

/-- `AddPacketToQueue`. -/
def addPacketToQueue (host : Host) (proto : TLProtocol) (packet : Packet) (client : Client) :
    Client :=
  match proto with
  | .udp => { client with udpPktQueue := client.udpPktQueue ++ packet.serialize host }
  | .tcp =>
      { client with
        tcpPktQueue := client.tcpPktQueue ++ packet.serialize host
        tcpQueued := client.tcpQueued ++ packet.serialize host }

/-- `SendPacketQueue`: an empty queue counts as sent; any other queue is offered
to the socket once and then cleared, whatever the result. -/
def sendPacketQueue (proto : TLProtocol) (transport : Transport) (client : Client) :
    Bool × Client :=
  match proto with
  | .udp =>
      if client.udpPktQueue = [] then (true, client)
      else
        let result := client.udpSocket.sendBytes transport client.udpPktQueue
        (result.1, { client with udpSocket := result.2, udpPktQueue := [] })
  | .tcp =>
      if client.tcpPktQueue = [] then (true, client)
      else
        let result := client.tcpSocket.sendBytes transport client.tcpPktQueue
        (result.1, { client with tcpSocket := result.2, tcpPktQueue := [] })

/-- `SendPacket`: directly on the TCP socket, past the queue. -/
def sendPacket (host : Host) (transport : Transport) (packet : Packet) (client : Client) :
    Bool × Client :=
  let result := client.tcpSocket.sendPacket host transport packet
  (result.1, { client with tcpSocket := result.2 })

/-- What `SendJoinResponsePacket` tells a player who is admitted. -/
def joinResponse (player : Player) : Message :=
  .joinResponse true player.playerID player.team.toDword

/-- `SendJoinResponsePacket`. -/
def sendJoinResponsePacket (host : Host) (transport : Transport) (client : Client) :
    Bool × Client :=
  client.sendPacket host transport (joinResponse client.player).packet

@[simp]
theorem player_addPacketToQueue (host : Host) (proto : TLProtocol) (packet : Packet)
    (client : Client) : (client.addPacketToQueue host proto packet).player = client.player := by
  cases proto <;> rfl

@[simp]
theorem addr_addPacketToQueue (host : Host) (proto : TLProtocol) (packet : Packet)
    (client : Client) : (client.addPacketToQueue host proto packet).addr = client.addr := by
  cases proto <;> rfl

@[simp]
theorem tcpStream_addPacketToQueue_tcp (host : Host) (packet : Packet) (client : Client) :
    (client.addPacketToQueue host .tcp packet).tcpStream =
      client.tcpStream ++ packet.serialize host := by
  simp [tcpStream, addPacketToQueue]

@[simp]
theorem tcpQueued_addPacketToQueue_tcp (host : Host) (packet : Packet) (client : Client) :
    (client.addPacketToQueue host .tcp packet).tcpQueued =
      client.tcpQueued ++ packet.serialize host :=
  rfl

@[simp]
theorem tcpQueued_sendPacketQueue (proto : TLProtocol) (transport : Transport)
    (client : Client) :
    (client.sendPacketQueue proto transport).2.tcpQueued = client.tcpQueued := by
  cases proto <;> simp only [sendPacketQueue] <;> split <;> rfl

@[simp]
theorem player_sendPacketQueue (proto : TLProtocol) (transport : Transport) (client : Client) :
    (client.sendPacketQueue proto transport).2.player = client.player := by
  cases proto <;> simp only [sendPacketQueue] <;> split <;> rfl

@[simp]
theorem addr_sendPacketQueue (proto : TLProtocol) (transport : Transport) (client : Client) :
    (client.sendPacketQueue proto transport).2.addr = client.addr :=
  congrArg Player.addr (player_sendPacketQueue proto transport client)

@[simp]
theorem protocol_sendPacketQueue (proto : TLProtocol) (transport : Transport)
    (client : Client) :
    (client.sendPacketQueue proto transport).2.tcpSocket.protocol =
      client.tcpSocket.protocol := by
  cases proto <;> simp only [sendPacketQueue] <;> split <;> rfl

/-- A join response counts as sent when the transport's answer is not zero. -/
theorem fst_sendJoinResponsePacket (host : Host) (transport : Transport) (client : Client) :
    (client.sendJoinResponsePacket host transport).1 =
      (transport ((joinResponse client.player).bytes host) != 0) :=
  rfl

/-- A join response is the first thing that a fresh TCP socket sends. -/
theorem sent_sendJoinResponsePacket {host : Host} {transport : Transport} {client : Client}
    (tcp : client.tcpSocket.protocol = .tcp) (unused : client.tcpSocket.sent = []) :
    (client.sendJoinResponsePacket host transport).2.tcpSocket.sent =
      acceptedBytes .tcp (transport ((joinResponse client.player).bytes host))
        ((joinResponse client.player).bytes host) := by
  simp only [sendJoinResponsePacket, sendPacket, Socket.sendPacket, Socket.sendBytes, unused, tcp,
    List.nil_append]
  rfl

@[simp]
theorem tcpStream_sendPacketQueue_udp (transport : Transport) (client : Client) :
    (client.sendPacketQueue .udp transport).2.tcpStream = client.tcpStream := by
  simp only [sendPacketQueue]
  split <;> rfl

/-- Flushing the TCP queue moves bytes from the queue to the socket. -/
theorem tcpStream_sendPacketQueue_tcp {transport : Transport} (atomic : AllOrNothing transport)
    {client : Client} (tcp : client.tcpSocket.protocol = .tcp)
    (succeeded : (client.sendPacketQueue .tcp transport).1 = true) :
    (client.sendPacketQueue .tcp transport).2.tcpStream = client.tcpStream := by
  simp only [sendPacketQueue] at succeeded ⊢
  split
  · rfl
  · rename_i nonempty
    rw [if_neg nonempty] at succeeded
    simp [tcpStream, Socket.sent_of_sendBytes atomic tcp succeeded]

/-- A call that was to put bytes on the TCP socket returns `true` only if all of them
have been accepted. -/
def NoByteLost (client : Client) (bytes : List Byte) (result : Bool × Client) : Prop :=
  result.1 = true → result.2.tcpSocket.sent = client.tcpSocket.sent ++ bytes

theorem noByteLost_sendPacketQueue_iff {transport : Transport} (range : InRange transport)
    {client : Client} (tcp : client.tcpSocket.protocol = .tcp) :
    client.NoByteLost client.tcpPktQueue (client.sendPacketQueue .tcp transport) ↔
      client.tcpPktQueue = [] ∨ NothingOrAll transport client.tcpPktQueue := by
  by_cases empty : client.tcpPktQueue = []
  · simp [NoByteLost, sendPacketQueue, empty]
  · rw [or_iff_right empty, ← Socket.sent_sendBytes_iff range empty tcp]
    simp only [NoByteLost, sendPacketQueue, if_neg empty]

/-- No byte is lost by a flush of the TCP queue or by a direct send that reports
success exactly when the transport takes nothing or all of what it is offered. -/
theorem noByteLost_iff {transport : Transport} (range : InRange transport) {client : Client}
    (tcp : client.tcpSocket.protocol = .tcp) (host : Host) (packet : Packet) :
    (client.NoByteLost client.tcpPktQueue (client.sendPacketQueue .tcp transport) ↔
        client.tcpPktQueue = [] ∨ NothingOrAll transport client.tcpPktQueue) ∧
      (client.NoByteLost (packet.serialize host) (client.sendPacket host transport packet) ↔
        NothingOrAll transport (packet.serialize host)) :=
  ⟨noByteLost_sendPacketQueue_iff range tcp,
    Socket.sent_sendBytes_iff range (packet.serialize_ne_nil host) tcp⟩

/-- A client with three bytes on its TCP queue. -/
def threeQueued : Client :=
  ⟨0, 1, .merc, 7, .ofHandle .tcp 0 [], .ofHandle .udp 1 [], [4, 0, 0], [], []⟩

/-- The socket takes the three bytes. -/
theorem noByteLost_threeQueued :
    (threeQueued.NoByteLost [4, 0, 0] (threeQueued.sendPacketQueue .tcp acceptAll) ↔
        ([4, 0, 0] : List Byte) = [] ∨ NothingOrAll acceptAll [4, 0, 0]) ∧
      (threeQueued.NoByteLost [5]
          (threeQueued.sendPacket .littleEndian acceptAll Message.serverShutdown.packet) ↔
        NothingOrAll acceptAll [5]) :=
  noByteLost_iff inRange_acceptAll (rfl : threeQueued.tcpSocket.protocol = .tcp) .littleEndian
    Message.serverShutdown.packet

/-- The socket takes the first byte of the three, and the flush reports success. -/
theorem not_noByteLost_threeQueued :
    ¬ ∀ (transport : Transport) (client : Client), InRange transport →
      client.tcpSocket.protocol = .tcp →
        client.NoByteLost client.tcpPktQueue (client.sendPacketQueue .tcp transport) := by
  intro claimed
  let transport : Transport := fun buf => min 1 buf.length
  have range : InRange transport := by
    intro buf
    change -1 ≤ min 1 (buf.length : Int) ∧ min 1 (buf.length : Int) ≤ buf.length
    omega
  have lost := claimed transport threeQueued range rfl rfl
  revert lost
  decide

end Client

end LegendOfStealth.Server

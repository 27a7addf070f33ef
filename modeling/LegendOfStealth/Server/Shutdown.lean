import LegendOfStealth.Server.History

/-!
# The announcement of a shutdown

When `ServerLoop` finds that there is no phase left it broadcasts a shutdown
packet and leaves the loop.  `Broadcast` only fills queues, and the call that
empties them stands behind the `break`: everyone who is connected has the packet
queued, and nobody is sent anything.
-/

namespace LegendOfStealth.Server

open LegendOfStealth.Library LegendOfStealth.Net LegendOfStealth.Protocol

namespace Client

/-- Who the client is, and what its TCP socket has sent. -/
def handed (client : Client) : Player × List Byte :=
  (client.player, client.tcpSocket.sent)

theorem handed_addPacketToQueue (host : Host) (proto : TLProtocol) (packet : Packet)
    (client : Client) : (client.addPacketToQueue host proto packet).handed = client.handed := by
  cases proto <;> rfl

end Client

theorem handed_hearLeave (host : Host) (kicked client : Client) :
    (hearLeave host kicked client).handed = client.handed :=
  Client.handed_addPacketToQueue host .tcp _ client

/-- A broadcast leaves the connected clients, and their sockets as they were. -/
theorem handed_broadcast (host : Host) (isConnected : Addr → Bool) (proto : TLProtocol)
    (packet : Packet) (server : Server) :
    (server.broadcast host isConnected proto packet).clients.map Client.handed =
      (server.clients.map Client.handed).filter fun entry => isConnected entry.1.addr := by
  rw [(broadcast_passes host isConnected proto packet server).1]
  apply ErasingPass.survivors_map_key
  · exact Client.handed_addPacketToQueue host proto packet
  · exact handed_hearLeave host
  · exact fun _ => rfl

/-! ## The last pass -/

/-- The last pass of `ServerLoop` is a broadcast, and nothing else. -/
theorem serverLoopPass_of_none {host : Host} {turn : Turn} {server after : Server}
    (ended : server.protoPhase = .none) {continues : Bool}
    (ran : server.serverLoopPass host turn = .ok (continues, after)) :
    continues = false ∧
      after = server.broadcast host turn.isConnected .tcp Message.serverShutdown.packet := by
  rw [serverLoopPass, if_pos ended] at ran
  cases ran
  exact ⟨rfl, rfl⟩

/-- Every send to the client succeeds. -/
def Turn.Sends (turn : Turn) (client : Client) : Prop :=
  ∀ buf : List Byte, turn.answers.tcpSend client.addr buf = buf.length

/-- The client's socket has been handed a shutdown packet after everything that was
sent and queued before. -/
def ShutdownHanded (host : Host) (after : Server) (client : Client) : Prop :=
  ∃ survivor ∈ after.clients, survivor.addr = client.addr ∧
    ∃ earlier later, client.tcpStream <+: earlier ∧
      survivor.tcpSocket.sent = earlier ++ Message.serverShutdown.bytes host ++ later

/-- The last pass hands nothing to any socket. -/
theorem not_shutdownHanded {host : Host} {turn : Turn} {server after : Server}
    (ended : server.protoPhase = .none)
    (ran : server.serverLoopPass host turn = .ok (false, after)) {client : Client}
    (member : client ∈ server.clients) : ¬ ShutdownHanded host after client := by
  rintro ⟨survivor, survives, same, earlier, later, begins, sent⟩
  rw [(serverLoopPass_of_none ended ran).2] at survives
  have kept : survivor.handed ∈ server.clients.map Client.handed := by
    have listed := List.mem_map_of_mem (f := Client.handed) survives
    rw [handed_broadcast] at listed
    exact (List.mem_filter.mp listed).1
  rcases List.mem_map.mp kept with ⟨original, originalMem, handed⟩
  have sameObject : original = client := eq_of_addr_eq originalMem member
    ((congrArg (fun entry => entry.1.addr) handed).trans same)
  have unsent : client.tcpSocket.sent = survivor.tcpSocket.sent :=
    sameObject ▸ congrArg Prod.snd handed
  have longer := begins.length_le
  have nonempty := List.length_pos_iff.mpr (Message.bytes_ne_nil host .serverShutdown)
  have lengths := congrArg List.length (unsent.trans sent)
  simp only [Client.tcpStream, List.length_append] at longer lengths
  omega

/-- Shutdown is announced: a client that is connected and can be sent to is handed a
shutdown packet in the last pass exactly if there is no such client. -/
theorem shutdownHanded_iff {host : Host} {turn : Turn} {server after : Server}
    (ended : server.protoPhase = .none)
    (ran : server.serverLoopPass host turn = .ok (false, after)) :
    (∀ client ∈ server.clients, turn.isConnected client.addr = true → turn.Sends client →
        ShutdownHanded host after client) ↔
      ∀ client ∈ server.clients, ¬ (turn.isConnected client.addr = true ∧ turn.Sends client) := by
  constructor
  · intro announced client member reachable
    exact not_shutdownHanded ended ran member (announced client member reachable.1 reachable.2)
  · intro nobody client member connected sends
    exact absurd ⟨connected, sends⟩ (nobody client member)

/-- A server that one player has joined and whose phase is gone. -/
def ending : Server :=
  { (act .littleEndian (.handleNewTCPConnections [.joining 7 fun _ => true]) initial).get
      (by decide) with protoPhase := .none }

/-- Nobody is left out if the player is found disconnected. -/
theorem shutdownHanded_iff_ending :
    ∃ turn after, ending.serverLoopPass .littleEndian turn = .ok (false, after) ∧
      ∀ client ∈ ending.clients, turn.isConnected client.addr = true → turn.Sends client →
        ShutdownHanded .littleEndian after client := by
  let turn : Turn :=
    ⟨[], fun _ => false, ⟨fun _ => true, fun _ => acceptAll, fun _ => acceptAll⟩⟩
  have ran : ∃ after, ending.serverLoopPass .littleEndian turn = .ok (false, after) := ⟨_, rfl⟩
  rcases ran with ⟨after, ran⟩
  refine ⟨turn, after, ran, (shutdownHanded_iff rfl ran).mpr ?_⟩
  rintro client - ⟨connected, -⟩
  exact Bool.false_ne_true connected

/-- The player is connected and can be sent to, and is not told. -/
theorem not_shutdownHanded_ending :
    ¬ ∀ (host : Host) (turn : Turn) (server after : Server), server.protoPhase = .none →
      server.serverLoopPass host turn = .ok (false, after) →
        ∀ client ∈ server.clients, turn.isConnected client.addr = true → turn.Sends client →
          ShutdownHanded host after client := by
  intro claimed
  let turn : Turn :=
    ⟨[], fun _ => true, ⟨fun _ => true, fun _ => acceptAll, fun _ => acceptAll⟩⟩
  have ran : ∃ after, ending.serverLoopPass .littleEndian turn = .ok (false, after) := ⟨_, rfl⟩
  rcases ran with ⟨after, ran⟩
  have member : ending.clients.get ⟨0, by decide⟩ ∈ ending.clients := List.get_mem ..
  exact not_shutdownHanded rfl ran member
    (claimed .littleEndian turn ending after rfl ran _ member rfl fun _ => rfl)

end LegendOfStealth.Server

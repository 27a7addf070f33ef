import LegendOfStealth.Server.Delivery

/-!
# Queues after a pass over the vector

`Broadcast` and `FlushClientPacketQueues` queue a leave packet for everyone else
whenever they kick a client.  What a client that stays has queued and sent after
the loop depends on where the kicked clients stood: it hears of those before it
ahead of its own turn, and of those behind it after.
-/

namespace LegendOfStealth.Server

open LegendOfStealth.Library LegendOfStealth.Net LegendOfStealth.Protocol

/-- The leave packets for some players, in order. -/
def leaves (host : Host) (gone : List Player) : List Byte :=
  Event.announce host (gone.map .left)

theorem leaves_departures (host : Host) (gone : List Client) :
    Event.announce host (Event.departures gone) = leaves host (gone.map Client.player) := by
  rw [leaves, Event.departures_eq]

/-- The players of some clients that are among given players. -/
def among (gone : List Player) (clients : List Client) : List Player :=
  (clients.map Client.player).filter (· ∈ gone)

section Pass

variable {host : Host} {keep : Client → Bool} {visit : Client → Client}

theorem notifyAll_eq_leaves (gone : List Client) (client : Client) :
    (pass host keep visit).notifyAll gone client =
      client.hear (leaves host (gone.map Client.player)) := by
  rw [notifyAll_eq_hear, leaves_departures]

/-- The players that a pass over the vector kicks. -/
def kickedBy (pass : ErasingPass Client) (server : Server) : List Player :=
  (pass.erased server.clients).map Client.player

variable {server : Server} {before rest : List Client} {client : Client}

/-- The clients that a pass kicks before it comes to a given one are those of the
kicked ones that stand before it. -/
theorem erased_map_player (shape : server.clients = before ++ client :: rest) :
    ((pass host keep visit).erased before).map Client.player =
      among (kickedBy (pass host keep visit) server) before := by
  have distinct := players_nodup server
  rw [players, shape] at distinct
  rcases (pass host keep visit).erased_append_eq_filter (player_hearLeave host) distinct with
    ⟨later, -, earlier, -⟩
  rw [← shape] at earlier
  exact earlier

theorem mem_kickedBy_iff (shape : server.clients = before ++ client :: rest) :
    client.player ∈ kickedBy (pass host keep visit) server ↔
      keep (client.hear (leaves host (among (kickedBy (pass host keep visit) server) before))) =
        false := by
  have distinct := players_nodup server
  rw [players, shape, List.map_append, List.map_cons, List.nodup_middle, List.nodup_cons,
    ← List.map_append] at distinct
  have others : ∀ other ∈ before ++ rest, other.player ≠ client.player := fun other member same =>
    distinct.1 (same ▸ List.mem_map_of_mem member)
  have heard : (pass host keep visit).notifyAll ((pass host keep visit).erased before) client =
      client.hear (leaves host (((pass host keep visit).erased before).map Client.player)) :=
    notifyAll_eq_leaves _ client
  rw [← erased_map_player shape, ← heard]
  have erased := (pass host keep visit).key_mem_erased_iff (player_hearLeave host) others
  rwa [← shape] at erased

/-- A client that a pass keeps has heard of the clients kicked before its turn, has
been visited, and has then heard of the clients kicked after it. -/
theorem exists_survivor (shape : server.clients = before ++ client :: rest)
    (stays : client.player ∉ kickedBy (pass host keep visit) server) :
    (visit (client.hear (leaves host (among (kickedBy (pass host keep visit) server) before)))).hear
        (leaves host (among (kickedBy (pass host keep visit) server) rest)) ∈
      (pass host keep visit).survivors server.clients := by
  have kept : keep ((pass host keep visit).notifyAll
      ((pass host keep visit).erased before) client) = true := by
    rw [notifyAll_eq_leaves, erased_map_player shape]
    simpa using (mem_kickedBy_iff shape).not.mp stays
  rcases (pass host keep visit).survivors_append_cons_of_keep rest kept with
    ⟨first, second, later, survives, -, split⟩
  have distinct := players_nodup server
  rw [players, shape] at distinct
  rcases (pass host keep visit).erased_append_eq_filter (player_hearLeave host) distinct with
    ⟨later', split', -, laterEq⟩
  rw [split, List.append_cancel_left_eq] at split'
  subst split'
  rw [← shape] at laterEq
  have behind : later.map Client.player = among (kickedBy (pass host keep visit) server) rest := by
    rw [laterEq, List.map_cons]
    exact List.filter_cons_of_neg (mt of_decide_eq_true stays)
  rw [shape, survives, List.mem_append, List.mem_cons]
  right
  left
  rw [notifyAll_eq_leaves, behind, notifyAll_eq_leaves, erased_map_player shape]
  rfl

end Pass

/-! ## Broadcast -/

/-- What a client that stays has on its two queues after a broadcast, given what it
had and what it hears before and after its turn. -/
def broadcastQueues (host : Host) (proto : TLProtocol) (packet : Packet) (client : Client)
    (before after : List Byte) : List Byte × List Byte :=
  match proto with
  | .tcp =>
      (client.tcpPktQueue ++ before ++ packet.serialize host ++ after, client.udpPktQueue)
  | .udp =>
      (client.tcpPktQueue ++ before ++ after, client.udpPktQueue ++ packet.serialize host)

/-- The players whose clients are found disconnected. -/
def lost (isConnected : Addr → Bool) (server : Server) : List Player :=
  server.players.filter fun player => !isConnected player.addr

/-- A broadcast ends, keeps the connected clients in their order, and leaves the
packet on their queues, once, between the leave packets for the clients that were
kicked before and after. -/
structure Broadcasts (host : Host) (isConnected : Addr → Bool) (proto : TLProtocol)
    (packet : Packet) (server after : Server) : Prop where
  terminates : ∃ visited,
    Sweeps clients (broadcastBody host isConnected proto packet) 0 server visited after ∧
      visited.map Client.player = server.players
  stayed : after.players = server.players.filter fun player => isConnected player.addr
  queued : ∀ before client rest, server.clients = before ++ client :: rest →
    isConnected client.addr = true →
      ∃ survivor ∈ after.clients, survivor.player = client.player ∧
        (survivor.tcpPktQueue, survivor.udpPktQueue) =
          broadcastQueues host proto packet client
            (leaves host (among (server.lost isConnected) before))
            (leaves host (among (server.lost isConnected) rest))

theorem kickedBy_broadcastPass (host : Host) (isConnected : Addr → Bool) (proto : TLProtocol)
    (packet : Packet) (server : Server) :
    kickedBy (broadcastPass host isConnected proto packet) server = server.lost isConnected :=
  @ErasingPass.erased_map_key _ _ _ _ (fun player : Player => isConnected player.addr)
    (player_hearLeave host) (fun _ => rfl) server.clients

/-- `Broadcast` under any disconnects. -/
theorem broadcasts_broadcast (host : Host) (isConnected : Addr → Bool) (proto : TLProtocol)
    (packet : Packet) (server : Server) :
    Broadcasts host isConnected proto packet server
      (server.broadcast host isConnected proto packet) := by
  refine ⟨?_, players_broadcast host isConnected proto packet server, ?_⟩
  · exact ⟨_, (sweeps_implements
      (implements_passBody host _ (Client.addPacketToQueue host proto packet) (by simp) server)
      (.refl server)).1, ErasingPass.visitedFrom_map_key (player_hearLeave host) [] _⟩
  · intro before client rest shape connected
    have stays : client.player ∉ kickedBy (broadcastPass host isConnected proto packet) server := by
      rw [kickedBy_broadcastPass, lost, List.mem_filter]
      simp [Client.player, connected]
    have survives := exists_survivor shape stays
    have kicked : kickedBy (pass host (fun client => isConnected client.addr)
        (Client.addPacketToQueue host proto packet)) server = server.lost isConnected :=
      kickedBy_broadcastPass host isConnected proto packet server
    rw [kicked] at survives
    rw [(broadcast_passes host isConnected proto packet server).1]
    refine ⟨_, survives, by simp, ?_⟩
    cases proto <;> simp [broadcastQueues, Client.hear, Client.addPacketToQueue]

/-! ## Flush -/

/-- The flush of a client fails: what is on its TCP queue at its turn cannot be sent,
or what is on its UDP queue. -/
def FailsToFlush (answers : FlushAnswers) (client : Client) (heard : List Byte) : Prop :=
  (client.tcpPktQueue ++ heard ≠ [] ∧
      answers.tcpSend client.addr (client.tcpPktQueue ++ heard) = 0) ∨
    (client.udpPktQueue ≠ [] ∧ answers.udpSend client.addr client.udpPktQueue = 0)

/-- A flush gives every client one turn, keeps those that are connected and can be
sent to in their order, and hands them all that is queued for them at their turn.
What is left on their queues are the leave packets for the clients kicked later. -/
structure Flushes (host : Host) (answers : FlushAnswers) (server : Server) (kicked : List Player)
    (after : Server) : Prop where
  visits : ∃ visited, Sweeps clients (flushBody host answers) 0 server visited after ∧
    visited.map Client.player = server.players
  kicks : ∀ before client rest, server.clients = before ++ client :: rest →
    (client.player ∈ kicked ↔ answers.isConnected client.addr = false ∨
      FailsToFlush answers client (leaves host (among kicked before)))
  stayed : after.players = server.players.filter (· ∉ kicked)
  sent : ∀ before client rest, server.clients = before ++ client :: rest →
    client.player ∉ kicked →
      ∃ survivor ∈ after.clients, survivor.player = client.player ∧
        survivor.tcpSocket.sent =
            client.tcpSocket.sent ++ client.tcpPktQueue ++ leaves host (among kicked before) ∧
          survivor.tcpPktQueue = leaves host (among kicked rest) ∧
            survivor.udpSocket.sent = client.udpSocket.sent ++ client.udpPktQueue ∧
              survivor.udpPktQueue = []

theorem flushes_eq_false_iff (answers : FlushAnswers) (client : Client) (heard : List Byte) :
    flushes answers (client.hear heard) = false ↔
      answers.isConnected client.addr = false ∨ FailsToFlush answers client heard := by
  have answered : (client.hear heard).addr = client.addr := rfl
  simp only [flushes, Bool.and_eq_false_iff, answered, or_assoc]
  apply or_congr Iff.rfl
  simp only [FailsToFlush, Client.sendPacketQueue, Client.hear]
  by_cases queued : client.tcpPktQueue ++ heard = [] <;>
    by_cases udpQueued : client.udpPktQueue = [] <;>
      simp [queued, udpQueued, Socket.sendBytes]

theorem Client.sent_sendPacketQueue_tcp {transport : Transport} {client : Client}
    (atomic : AllOrNothing transport) (tcp : client.tcpSocket.protocol = .tcp)
    (sends : (client.sendPacketQueue .tcp transport).1 = true) :
    (client.sendPacketQueue .tcp transport).2.tcpSocket.sent =
        client.tcpSocket.sent ++ client.tcpPktQueue ∧
      (client.sendPacketQueue .tcp transport).2.tcpPktQueue = [] := by
  simp only [sendPacketQueue] at sends ⊢
  split
  · rename_i empty
    simp [empty]
  · rename_i queued
    rw [if_neg queued] at sends
    exact ⟨Socket.sent_of_sendBytes atomic tcp sends, rfl⟩

/-- A UDP queue that has been flushed is on the socket, and the TCP side is as it was. -/
theorem Client.sent_sendPacketQueue_udp {transport : Transport} {client : Client}
    (whole : ∀ buf, 0 ≤ transport buf) (udp : client.udpSocket.protocol = .udp)
    (sends : (client.sendPacketQueue .udp transport).1 = true) :
    (client.sendPacketQueue .udp transport).2.udpSocket.sent =
        client.udpSocket.sent ++ client.udpPktQueue ∧
      (client.sendPacketQueue .udp transport).2.udpPktQueue = [] ∧
        (client.sendPacketQueue .udp transport).2.tcpSocket = client.tcpSocket ∧
          (client.sendPacketQueue .udp transport).2.tcpPktQueue = client.tcpPktQueue := by
  simp only [sendPacketQueue] at sends ⊢
  split
  · rename_i empty
    simp [empty]
  · rename_i queued
    rw [if_neg queued] at sends
    have accepted : 0 < transport client.udpPktQueue := by
      have nonzero : transport client.udpPktQueue ≠ 0 := bne_iff_ne.mp sends
      have := whole client.udpPktQueue
      omega
    refine ⟨?_, rfl, rfl, rfl⟩
    simp [Socket.sendBytes, udp, acceptedBytes, accepted]

theorem Client.udp_sendPacketQueue_tcp (transport : Transport) (client : Client) :
    (client.sendPacketQueue .tcp transport).2.udpSocket = client.udpSocket ∧
      (client.sendPacketQueue .tcp transport).2.udpPktQueue = client.udpPktQueue := by
  simp only [sendPacketQueue]
  split <;> exact ⟨rfl, rfl⟩

/-- A client that is flushed has sent what was on its queues. -/
theorem flushed_of_flushes {answers : FlushAnswers} (client : Client)
    (tcp : client.tcpSocket.protocol = .tcp) (udp : client.udpSocket.protocol = .udp)
    (atomic : ∀ addr, AllOrNothing (answers.tcpSend addr))
    (whole : ∀ addr buf, 0 ≤ answers.udpSend addr buf)
    (sends : flushes answers client = true) :
    (flushed answers client).tcpSocket.sent = client.tcpSocket.sent ++ client.tcpPktQueue ∧
      (flushed answers client).tcpPktQueue = [] ∧
        (flushed answers client).udpSocket.sent = client.udpSocket.sent ++ client.udpPktQueue ∧
          (flushed answers client).udpPktQueue = [] := by
  simp only [flushes, Bool.and_eq_true] at sends
  rcases sends with ⟨⟨-, tcpSends⟩, udpSends⟩
  rcases Client.sent_sendPacketQueue_tcp (atomic _) tcp tcpSends with ⟨tcpSent, tcpEmpty⟩
  have other := Client.udp_sendPacketQueue_tcp (answers.tcpSend client.addr) client
  rcases Client.sent_sendPacketQueue_udp (whole client.addr) (other.1 ▸ udp) udpSends with
    ⟨udpSent, udpEmpty, kept⟩
  refine ⟨?_, ?_, ?_, udpEmpty⟩
  · rw [flushed, kept.1, tcpSent]
  · rw [flushed, kept.2, tcpEmpty]
  · rw [flushed, udpSent, other.1, other.2]

/-- `FlushClientPacketQueues` under any failures. -/
theorem flushes_flushClientPacketQueues (host : Host) {answers : FlushAnswers} {server : Server}
    (sockets : ∀ client ∈ server.clients,
      client.tcpSocket.protocol = .tcp ∧ client.udpSocket.protocol = .udp)
    (atomic : ∀ addr, AllOrNothing (answers.tcpSend addr))
    (whole : ∀ addr buf, 0 ≤ answers.udpSend addr buf) :
    Flushes host answers server (kickedBy (flushPass host answers) server)
      (server.flushClientPacketQueues host answers) := by
  have passes := flushClientPacketQueues_passes host answers server
  have kicks : ∀ before client rest, server.clients = before ++ client :: rest →
      (client.player ∈ kickedBy (flushPass host answers) server ↔
        answers.isConnected client.addr = false ∨ FailsToFlush answers client
          (leaves host (among (kickedBy (flushPass host answers) server) before))) := by
    intro before client rest shape
    exact (mem_kickedBy_iff shape).trans (flushes_eq_false_iff answers client _)
  refine ⟨?_, kicks, ?_, ?_⟩
  · rw [flushClientPacketQueues, flushBody_eq]
    exact ⟨_, (sweeps_implements (implements_passBody host _ _ (addr_flushed answers) server)
      (.refl server)).1, ErasingPass.visitedFrom_map_key (player_hearLeave host) [] _⟩
  · rw [players, passes.1]
    exact ErasingPass.survivors_map_key_eq_filter (player_flushed answers)
      (player_hearLeave host) (players_nodup server)
  · intro before client rest shape stays
    rcases sockets client (by simp [shape]) with ⟨tcp, udp⟩
    have survives := exists_survivor shape stays
    have sends := mt (kicks before client rest shape).mpr stays
    rw [← flushes_eq_false_iff, Bool.not_eq_false] at sends
    rcases flushed_of_flushes (client.hear _) tcp udp atomic whole sends with
      ⟨tcpSent, tcpEmpty, udpSent, udpEmpty⟩
    rw [passes.1]
    refine ⟨_, survives, by simp, ?_, ?_, udpSent, udpEmpty⟩
    · rw [List.append_assoc]
      exact tcpSent
    · exact (congrArg (· ++ _) tcpEmpty).trans (List.nil_append _)

/-- Two players have joined, and the first one's socket takes nothing: it is kicked,
and the second is sent its leave packet. -/
theorem flushes_firstFails :
    ∃ (answers : FlushAnswers) (server : Server),
      server.players = [⟨0, 1, .merc⟩, ⟨1, 2, .spy⟩] ∧
        Flushes .littleEndian answers server [⟨0, 1, .merc⟩]
          (server.flushClientPacketQueues .littleEndian answers) := by
  let answers : FlushAnswers :=
    ⟨fun _ => true, fun addr => if addr = 0 then fun _ => 0 else acceptAll, fun _ => acceptAll⟩
  let server := (act .littleEndian bothJoining initial).get (by decide)
  have atomic : ∀ addr, AllOrNothing (answers.tcpSend addr) := by
    intro addr
    by_cases first : addr = 0
    · exact fun _ => .inl (by simp [answers, first])
    · simpa [answers, first] using allOrNothing_acceptAll
  have kicked : kickedBy (flushPass .littleEndian answers) server = [⟨0, 1, .merc⟩] := by decide
  refine ⟨answers, server, by decide, ?_⟩
  rw [← kicked]
  exact flushes_flushClientPacketQueues .littleEndian (by decide) atomic
    fun _ buf => Int.natCast_nonneg buf.length

end LegendOfStealth.Server

import LegendOfStealth.Library.ErasingPass
import LegendOfStealth.Server.Client

/-!
# The server's state

The vector `_clients` is kept with the proof that its objects are distinct and
older than the next object to be made, so that identities can be compared as the
source compares pointers.  `history` and `dropped` record what happened to the
vector and to sockets that were deleted without a client; no definition reads
them.
-/

namespace LegendOfStealth.Server

open LegendOfStealth.Library LegendOfStealth.Net LegendOfStealth.Protocol

/-- `MAX_PLAYERS`. -/
def maxPlayers : Nat := 4

/-- A change of the vector `_clients`. -/
inductive Event where
  | joined (player : Player)
  | left (player : Player)
  deriving DecidableEq, Repr

namespace Event

/-- The player an event is about. -/
def player : Event → Player
  | .joined player | .left player => player

/-- What the other players are told about an event. -/
def message : Event → Message
  | .joined player => .playerDidJoin player.playerID player.team.toDword
  | .left player => .playerDidLeave player.playerID

/-- The bytes of the packets that announce a list of events. -/
def announce (host : Host) (events : List Event) : List Byte :=
  events.flatMap fun event => event.message.bytes host

/-- The events of clients that are removed one after the other. -/
def departures (gone : List Client) : List Event :=
  gone.map fun client => .left client.player

theorem departures_eq (gone : List Client) :
    departures gone = (gone.map Client.player).map .left := by
  simp [departures]

theorem left_mem_departures {gone : List Client} {player : Player} :
    .left player ∈ departures gone ↔ player ∈ gone.map Client.player := by
  simp [departures]

@[simp]
theorem departures_nil : departures [] = [] :=
  rfl

@[simp]
theorem departures_append (first second : List Client) :
    departures (first ++ second) = departures first ++ departures second :=
  List.map_append ..

@[simp]
theorem announce_nil (host : Host) : announce host [] = [] :=
  rfl

@[simp]
theorem announce_append (host : Host) (first second : List Event) :
    announce host (first ++ second) = announce host first ++ announce host second := by
  simp [announce]

@[simp]
theorem announce_singleton (host : Host) (event : Event) :
    announce host [event] = event.message.bytes host := by
  simp [announce]

end Event

/-- The vector `_clients`, and the identity of the next object to be made. -/
@[ext]
structure Roster where
  clients : List Client
  nextAddr : Addr
  distinct : (clients.map Client.addr).Nodup
  fresh : ∀ client ∈ clients, client.addr < nextAddr
  deriving DecidableEq

namespace Roster

/-- The empty vector. -/
def empty : Roster :=
  ⟨[], 0, by simp, by simp⟩

/-- Change every object in place. -/
def mapClients (roster : Roster) (f : Client → Client)
    (keepsAddr : ∀ client, (f client).addr = client.addr) : Roster where
  clients := roster.clients.map f
  nextAddr := roster.nextAddr
  distinct := by
    have same : Client.addr ∘ f = Client.addr := funext keepsAddr
    rw [List.map_map, same]
    exact roster.distinct
  fresh := by
    intro client member
    rcases List.mem_map.mp member with ⟨original, originalMem, rfl⟩
    exact (keepsAddr original).symm ▸ roster.fresh original originalMem

/-- Change the object at an index in place. -/
def modify (roster : Roster) (i : Nat) (f : Client → Client)
    (keepsAddr : ∀ client, (f client).addr = client.addr) : Roster where
  clients := roster.clients.modify i f
  nextAddr := roster.nextAddr
  distinct := by
    have same : (roster.clients.modify i f).map Client.addr =
        roster.clients.map Client.addr := by
      apply List.ext_getElem (by simp)
      intro j _ _
      simp only [List.getElem_map, List.getElem_modify]
      split
      · exact keepsAddr _
      · rfl
    rw [same]
    exact roster.distinct
  fresh := by
    intro client member
    rcases List.mem_iff_getElem.mp member with ⟨j, bound, rfl⟩
    rw [List.length_modify] at bound
    rw [List.getElem_modify]
    split
    · rw [keepsAddr]
      exact roster.fresh _ (List.getElem_mem bound)
    · exact roster.fresh _ (List.getElem_mem bound)

/-- `_clients.erase(_clients.begin() + i)`. -/
def eraseIdx (roster : Roster) (i : Nat) : Roster where
  clients := roster.clients.eraseIdx i
  nextAddr := roster.nextAddr
  distinct := roster.distinct.sublist ((List.eraseIdx_sublist _ i).map _)
  fresh := fun client member =>
    roster.fresh client ((List.eraseIdx_sublist _ i).subset member)

/-- `_clients.push_back(client)`, for an object made after all others. -/
def pushBack (roster : Roster) (client : Client) : Roster where
  clients := roster.clients ++ [{ client with addr := roster.nextAddr }]
  nextAddr := roster.nextAddr + 1
  distinct := by
    rw [List.map_append, List.nodup_append]
    refine ⟨roster.distinct, by simp, ?_⟩
    intro addr member other otherMem same
    rcases List.mem_map.mp member with ⟨old, oldMem, rfl⟩
    simp only [List.map_cons, List.map_nil, List.mem_singleton] at otherMem
    exact Nat.ne_of_lt (roster.fresh old oldMem) (same.trans otherMem)
  fresh := by
    intro old member
    rcases List.mem_append.mp member with oldMem | newMem
    · exact Nat.lt_succ_of_lt (roster.fresh old oldMem)
    · simp only [List.mem_singleton] at newMem
      subst newMem
      exact Nat.lt_succ_self _

end Roster

end LegendOfStealth.Server

namespace LegendOfStealth

open LegendOfStealth.Library LegendOfStealth.Net LegendOfStealth.Protocol
open LegendOfStealth.Server

/-- The `Server` object.  `nextPlayerId` is the static counter of
`GetNextPlayerID`. -/
structure Server where
  protoPhase : ProtocolPhase
  roster : Roster
  nextPlayerId : Dword
  history : List Event
  dropped : List Socket
  deriving DecidableEq

namespace Server

/-- The server as `Server::Server` leaves it. -/
def initial : Server :=
  ⟨.lobby, .empty, 1, [], []⟩

/-- The vector `_clients`. -/
def clients (server : Server) : List Client :=
  server.roster.clients

/-- `IsServerFull`. -/
def isServerFull (server : Server) : Bool :=
  decide (maxPlayers ≤ server.clients.length)

/-- `TeamCounts`: mercenaries and spies. -/
def teamCounts (server : Server) : Nat × Nat :=
  server.clients.foldl
    (fun counts client =>
      match client.team with
      | .spy => (counts.1, counts.2 + 1)
      | .merc => (counts.1 + 1, counts.2))
    (0, 0)

/-- `GetTeamForNextPlayer`. -/
def getTeamForNextPlayer (server : Server) : Team :=
  let (m, s) := server.teamCounts
  if s < m then .spy else .merc

/-- `GetNextPlayerID`: the counter before its increment. -/
def getNextPlayerID (server : Server) : Dword × Server :=
  (server.nextPlayerId, { server with nextPlayerId := server.nextPlayerId + 1 })

/-! ## Kicking a client -/

/-- The packet that `KickClient` queues for the others. -/
def leavePacket (kicked : Client) : Packet :=
  (Event.left kicked.player).message.packet

/-- What the kick of one client does to another. -/
def hearLeave (host : Host) (kicked client : Client) : Client :=
  client.addPacketToQueue host .tcp (leavePacket kicked)

/-- `KickClient`: every other object in the vector gets a leave packet, and the
client is erased if it was found.  No object is in the vector twice, so the first
index found is also the last. -/
def kickClient (host : Host) (kicked : Client) (server : Server) : Server :=
  let roster := server.roster.mapClients
    (fun client => if client.addr = kicked.addr then client else hearLeave host kicked client)
    (by intro client; split <;> simp [hearLeave])
  match server.clients.findIdx? (fun client => client.addr = kicked.addr) with
  | none => { server with roster := roster }
  | some kickIndex =>
      { server with
        roster := roster.eraseIdx kickIndex
        history := server.history ++ [.left kicked.player] }

/-- The part of the state that a pass over the vector does not touch, and the
events it records. -/
structure Passed (before : Server) (gone : List Client) (after : Server) : Prop where
  history : after.history = before.history ++ Event.departures gone
  protoPhase : after.protoPhase = before.protoPhase
  nextPlayerId : after.nextPlayerId = before.nextPlayerId
  dropped : after.dropped = before.dropped
  nextAddr : after.roster.nextAddr = before.roster.nextAddr

theorem Passed.refl (server : Server) : Passed server [] server :=
  ⟨by simp, rfl, rfl, rfl, rfl⟩

theorem eq_of_addr_eq {server : Server} {client other : Client} (member : client ∈ server.clients)
    (otherMem : other ∈ server.clients) (same : client.addr = other.addr) : client = other :=
  List.inj_on_of_nodup_map server.roster.distinct member otherMem same

theorem addr_ne_of_clients_eq {server : Server} {before after : List Client} {client : Client}
    (shape : server.clients = before ++ client :: after) :
    (∀ other ∈ before, ¬ other.addr = client.addr) ∧
      ∀ other ∈ after, ¬ other.addr = client.addr := by
  have distinct := server.roster.distinct
  rw [show server.roster.clients = before ++ client :: after from shape, List.map_append,
    List.map_cons, List.nodup_append, List.nodup_cons] at distinct
  rcases distinct with ⟨-, ⟨notAfter, -⟩, apart⟩
  exact ⟨fun other member => apart _ (List.mem_map_of_mem member) _ List.mem_cons_self,
    fun other member same => notAfter (same ▸ List.mem_map_of_mem member)⟩

theorem findIdx?_of_clients_eq {server : Server} {before after : List Client} {kicked : Client}
    (shape : server.clients = before ++ kicked :: after) :
    server.clients.findIdx? (fun client => client.addr = kicked.addr) =
      some before.length := by
  rw [shape, List.findIdx?_append, List.findIdx?_cons,
    List.findIdx?_eq_none_iff.mpr (by simpa using (addr_ne_of_clients_eq shape).1)]
  simp

/-- A kick tells everyone before and after the kicked client, and erases it. -/
theorem clients_kickClient {host : Host} {server : Server} {before after : List Client}
    {kicked : Client} (shape : server.clients = before ++ kicked :: after) :
    (server.kickClient host kicked).clients =
      before.map (hearLeave host kicked) ++ after.map (hearLeave host kicked) := by
  rcases addr_ne_of_clients_eq shape with ⟨othersBefore, othersAfter⟩
  have told : ∀ part : List Client, (∀ client ∈ part, ¬ client.addr = kicked.addr) →
      part.map (fun client =>
        if client.addr = kicked.addr then client else hearLeave host kicked client) =
      part.map (hearLeave host kicked) := fun part others =>
    List.map_congr_left fun client member => if_neg (others client member)
  simp only [kickClient, findIdx?_of_clients_eq shape]
  simp only [clients, Roster.eraseIdx, Roster.mapClients]
  rw [show server.roster.clients = before ++ kicked :: after from shape, List.map_append,
    List.map_cons, told before othersBefore, told after othersAfter,
    List.eraseIdx_append_of_length_le (by simp)]
  simp

/-- A kick is recorded, and changes nothing else. -/
theorem passed_kickClient {host : Host} {start server : Server} {gone : List Client}
    {before after : List Client} {kicked : Client} (passed : Passed start gone server)
    (shape : server.clients = before ++ kicked :: after) :
    Passed start (gone ++ [kicked]) (server.kickClient host kicked) := by
  refine ⟨?_, ?_, ?_, ?_, ?_⟩
  · simp only [kickClient, findIdx?_of_clients_eq shape, passed.history]
    simp [Event.departures]
  · rw [← passed.protoPhase]
    simp only [kickClient]
    split <;> rfl
  · rw [← passed.nextPlayerId]
    simp only [kickClient]
    split <;> rfl
  · rw [← passed.dropped]
    simp only [kickClient]
    split <;> rfl
  · rw [← passed.nextAddr]
    simp only [kickClient]
    split <;> rfl

/-! ## Passes over the vector -/

/-- The body of a loop over the vector that either changes the client at the
index or kicks it and steps the index back. -/
def passBody (host : Host) (keep : Client → Bool) (visit : Client → Client)
    (keepsAddr : ∀ client, (visit client).addr = client.addr)
    (i : Nat) (client : Client) (server : Server) : Server × Bool :=
  if keep client then ({ server with roster := server.roster.modify i visit keepsAddr }, false)
  else (server.kickClient host client, true)

/-- The pass that such a loop makes. -/
def pass (host : Host) (keep : Client → Bool) (visit : Client → Client) :
    ErasingPass Client :=
  ⟨keep, visit, hearLeave host⟩

theorem modify_append_cons (before after : List Client) (client : Client)
    (f : Client → Client) :
    (before ++ client :: after).modify before.length f = before ++ f client :: after := by
  induction before with
  | nil => rfl
  | cons first rest ih => simpa using ih

theorem implements_passBody (host : Host) (keep : Client → Bool) (visit : Client → Client)
    (keepsAddr : ∀ client, (visit client).addr = client.addr) (start : Server) :
    Implements clients (passBody host keep visit keepsAddr) (pass host keep visit)
      (Passed start) where
  keeps := by
    intro before after gone client server passed shape kept
    have kept : keep client = true := kept
    rw [passBody, if_pos kept]
    refine ⟨rfl, ?_, ?_⟩
    · change server.clients.modify before.length visit = _
      rw [shape]
      exact modify_append_cons before after client visit
    · exact ⟨passed.history, passed.protoPhase, passed.nextPlayerId, passed.dropped,
        passed.nextAddr⟩
  erases := by
    intro before after gone client server passed shape kept
    have kept : ¬ keep client = true := by simpa [pass] using kept
    rw [passBody, if_neg kept]
    exact ⟨rfl, clients_kickClient shape, passed_kickClient passed shape⟩

/-- What a loop over the vector does to the server. -/
theorem sweep_passBody (host : Host) (keep : Client → Bool) (visit : Client → Client)
    (keepsAddr : ∀ client, (visit client).addr = client.addr) (server : Server) :
    (sweep clients (passBody host keep visit keepsAddr) server).clients =
        (pass host keep visit).survivors server.clients ∧
      Passed server ((pass host keep visit).erased server.clients)
        (sweep clients (passBody host keep visit keepsAddr) server) :=
  sweep_implements (implements_passBody host keep visit keepsAddr server) (.refl server)

/-- The body of `Broadcast`, with the answer of `IsConnected` for each client. -/
def broadcastBody (host : Host) (isConnected : Addr → Bool) (proto : TLProtocol)
    (packet : Packet) (i : Nat) (client : Client) (server : Server) : Server × Bool :=
  if isConnected client.addr then
    ({ server with
        roster := server.roster.modify i (Client.addPacketToQueue host proto packet) (by simp) },
      false)
  else (server.kickClient host client, true)

/-- `Broadcast`. -/
def broadcast (host : Host) (isConnected : Addr → Bool) (proto : TLProtocol) (packet : Packet)
    (server : Server) : Server :=
  sweep clients (broadcastBody host isConnected proto packet) server

/-- The answers that the environment gives during `FlushClientPacketQueues`. -/
structure FlushAnswers where
  isConnected : Addr → Bool
  tcpSend : Addr → Transport
  udpSend : Addr → Transport

/-- The client after both its queues have been flushed. -/
def flushed (answers : FlushAnswers) (client : Client) : Client :=
  ((client.sendPacketQueue .tcp (answers.tcpSend client.addr)).2.sendPacketQueue .udp
    (answers.udpSend client.addr)).2

@[simp]
theorem addr_flushed (answers : FlushAnswers) (client : Client) :
    (flushed answers client).addr = client.addr := by
  simp [flushed]

/-- The body of `FlushClientPacketQueues`.  The UDP queue is only flushed when
the flush of the TCP queue has succeeded. -/
def flushBody (host : Host) (answers : FlushAnswers) (i : Nat) (client : Client)
    (server : Server) : Server × Bool :=
  if !answers.isConnected client.addr then (server.kickClient host client, true)
  else
    let tcp := client.sendPacketQueue .tcp (answers.tcpSend client.addr)
    if !tcp.1 || !(tcp.2.sendPacketQueue .udp (answers.udpSend client.addr)).1 then
      (server.kickClient host client, true)
    else
      ({ server with
          roster := server.roster.modify i (flushed answers) (addr_flushed answers) }, false)

/-- `FlushClientPacketQueues`. -/
def flushClientPacketQueues (host : Host) (answers : FlushAnswers) (server : Server) : Server :=
  sweep clients (flushBody host answers) server

/-- The pass that `Broadcast` makes. -/
def broadcastPass (host : Host) (isConnected : Addr → Bool) (proto : TLProtocol)
    (packet : Packet) : ErasingPass Client :=
  pass host (fun client => isConnected client.addr) (Client.addPacketToQueue host proto packet)

/-- The client is connected and both its queues are flushed. -/
def flushes (answers : FlushAnswers) (client : Client) : Bool :=
  answers.isConnected client.addr &&
    (client.sendPacketQueue .tcp (answers.tcpSend client.addr)).1 &&
    ((client.sendPacketQueue .tcp (answers.tcpSend client.addr)).2.sendPacketQueue .udp
      (answers.udpSend client.addr)).1

/-- The pass that `FlushClientPacketQueues` makes. -/
def flushPass (host : Host) (answers : FlushAnswers) : ErasingPass Client :=
  pass host (flushes answers) (flushed answers)

theorem broadcast_passes (host : Host) (isConnected : Addr → Bool) (proto : TLProtocol)
    (packet : Packet) (server : Server) :
    (server.broadcast host isConnected proto packet).clients =
        (broadcastPass host isConnected proto packet).survivors server.clients ∧
      Passed server ((broadcastPass host isConnected proto packet).erased server.clients)
        (server.broadcast host isConnected proto packet) :=
  sweep_passBody host _ _ (by simp) server

theorem flushBody_eq (host : Host) (answers : FlushAnswers) :
    flushBody host answers =
      passBody host (flushes answers) (flushed answers) (addr_flushed answers) := by
  funext i client server
  simp only [flushBody, passBody, flushes]
  by_cases connected : answers.isConnected client.addr = true <;>
    by_cases tcpSent : (client.sendPacketQueue .tcp (answers.tcpSend client.addr)).1 = true <;>
    by_cases udpSent : ((client.sendPacketQueue .tcp
      (answers.tcpSend client.addr)).2.sendPacketQueue .udp
        (answers.udpSend client.addr)).1 = true <;>
    simp [connected, tcpSent, udpSent]

theorem flushClientPacketQueues_passes (host : Host) (answers : FlushAnswers)
    (server : Server) :
    (server.flushClientPacketQueues host answers).clients =
        (flushPass host answers).survivors server.clients ∧
      Passed server ((flushPass host answers).erased server.clients)
        (server.flushClientPacketQueues host answers) := by
  rw [flushClientPacketQueues, flushBody_eq]
  exact sweep_passBody host _ _ (addr_flushed answers) server

@[simp]
theorem player_hearLeave (host : Host) (kicked client : Client) :
    (hearLeave host kicked client).player = client.player := by
  simp [hearLeave]

@[simp]
theorem player_flushed (answers : FlushAnswers) (client : Client) :
    (flushed answers client).player = client.player := by
  simp [flushed]

/-- A broadcast leaves exactly the connected players, in their order. -/
theorem players_broadcast (host : Host) (isConnected : Addr → Bool) (proto : TLProtocol)
    (packet : Packet) (server : Server) :
    (server.broadcast host isConnected proto packet).clients.map Client.player =
      (server.clients.map Client.player).filter fun player => isConnected player.addr := by
  rw [(broadcast_passes host isConnected proto packet server).1]
  apply ErasingPass.survivors_map_key
  · intro client
    exact Client.player_addPacketToQueue host proto packet client
  · intro gone client
    exact player_hearLeave host gone client
  · intro client
    rfl

theorem players_flushClientPacketQueues (host : Host) (answers : FlushAnswers)
    (server : Server) :
    ((server.flushClientPacketQueues host answers).clients.map Client.player).Sublist
      (server.clients.map Client.player) := by
  rw [(flushClientPacketQueues_passes host answers server).1]
  refine ErasingPass.survivors_sublist ?_ ?_ _
  · intro client
    exact player_flushed answers client
  · intro gone client
    exact player_hearLeave host gone client

end Server

end LegendOfStealth

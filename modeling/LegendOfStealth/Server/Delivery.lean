import LegendOfStealth.Server.History

/-!
# Delivery of membership events

Every client hears of every change of the vector after its own arrival: of an
arrival in the pass that announces it, of a departure from the kick itself.
Events of one pass reach different clients in different orders, so what a client
has been told agrees with the history player by player.
-/

namespace LegendOfStealth.Server

open LegendOfStealth.Library LegendOfStealth.Net LegendOfStealth.Protocol

/-- The packets queued for a client announce the log: up to the order of different
players, the history since the client joined. -/
structure Told (host : Host) (history : List Event) (client : Client) (log : List Event) :
    Prop where
  since : ∃ before since, history = before ++ .joined client.player :: since ∧
    SamePerKey Event.player log since
  queued : client.tcpQueued = Event.announce host log

theorem told_welcomed {host : Host} {server : Server} {connection : Connection}
    {client : Client} (welcomed : Welcomed host server connection client) :
    Told host ((server.announced host connection).pushClient client).history client [] :=
  ⟨⟨(server.announced host connection).history, [], rfl, .refl []⟩, welcomed.tcpQueued⟩

/-- A client that hears what the history records stays informed. -/
theorem Told.hear {host : Host} {history log news more : List Event} {client survivor : Client}
    (told : Told host history client log) (same : SamePerKey Event.player more news)
    (player : survivor.player = client.player)
    (queued : survivor.tcpQueued = client.tcpQueued ++ Event.announce host more) :
    Told host (history ++ news) survivor (log ++ more) := by
  rcases told with ⟨⟨before, since, rfl, sameSince⟩, oldQueued⟩
  refine ⟨⟨before, since ++ news, ?_, sameSince.append same⟩, ?_⟩
  · rw [player, List.append_assoc, List.cons_append]
  · rw [queued, oldQueued, Event.announce_append]

/-- Every client has been told what happened since it joined. -/
def Informed (host : Host) (server : Server) : Prop :=
  ∀ client ∈ server.clients, ∃ log, Told host server.history client log

theorem Informed.act {host : Host} {server after : Server} {action : Action}
    (informed : Informed host server) (acted : act host action server = some after) :
    Informed host after := by
  refine act_invariant (fun _ _ => True) (fun _ => True) ?_ ?_ ?_ informed ?_ ?_ acted
  · rintro server connection after informed ⟨socket, counter, -, rfl⟩
    exact informed
  · intro server connection client informed _ _ welcomed survivor member
    rw [clients_pushClient welcomed.identity, List.mem_append, List.mem_singleton] at member
    rcases member with stays | rfl
    · rcases hears_announced stays with ⟨before, old, after, later, shape, -, split, player, queued⟩
      obtain ⟨log, told⟩ := informed old (by simp [shape])
      rw [history_pushClient welcomed]
      have split := congrArg Event.departures split
      rw [Event.departures_append] at split
      exact ⟨_, told.hear (samePerKey_announced split) player queued⟩
    · exact ⟨[], told_welcomed welcomed⟩
  · intro server answers informed _ survivor member
    rcases hears_flushed member with ⟨old, oldMem, player, queued⟩
    rcases informed old oldMem with ⟨log, told⟩
    rw [(flushClientPacketQueues_passes host answers server).2.history]
    exact ⟨_, told.hear (.refl _) player queued⟩
  · exact action.admissions_of_forall fun _ _ => trivial
  · exact action.flushes_of_forall fun _ => trivial

/-- The channel carries the join response, then what was queued. -/
structure Coherent (host : Host) (client : Client) : Prop where
  protocol : client.tcpSocket.protocol = .tcp
  stream : client.tcpStream =
    (Client.joinResponse client.player).bytes host ++ client.tcpQueued

theorem Coherent.addPacketToQueue {host : Host} {client : Client} (coherent : Coherent host client)
    (packet : Packet) : Coherent host (client.addPacketToQueue host .tcp packet) := by
  refine ⟨coherent.protocol, ?_⟩
  rw [Client.tcpStream_addPacketToQueue_tcp, coherent.stream, Client.player_addPacketToQueue,
    Client.tcpQueued_addPacketToQueue_tcp, List.append_assoc]

theorem Coherent.flushed {host : Host} {answers : FlushAnswers} {client : Client}
    (coherent : Coherent host client) (atomic : ∀ addr, AllOrNothing (answers.tcpSend addr))
    (flushes : Server.flushes answers client = true) :
    Coherent host (Server.flushed answers client) := by
  simp only [Server.flushes, Bool.and_eq_true] at flushes
  constructor
  · simpa [Server.flushed] using coherent.protocol
  · rw [Server.flushed, Client.tcpStream_sendPacketQueue_udp,
      Client.tcpStream_sendPacketQueue_tcp (atomic _) coherent.protocol flushes.1.2,
      coherent.stream]
    simp

theorem coherent_welcomed {host : Host} {server : Server} {connection : Connection}
    {client : Client} (atomic : AllOrNothing connection.send)
    (responds : server.Responds host connection)
    (welcomed : Welcomed host server connection client) : Coherent host client := by
  refine ⟨welcomed.protocol, ?_⟩
  have accepted := (atomic ((Client.joinResponse server.nextPlayer).bytes host)).resolve_left
    responds
  simp [Client.tcpStream, welcomed.sent, welcomed.tcpPktQueue, welcomed.tcpQueued, accepted,
    acceptedBytes, welcomed.player]

/-- Every client's channel is coherent. -/
def AllCoherent (host : Host) (server : Server) : Prop :=
  ∀ client ∈ server.clients, Coherent host client

/-- All channels stay coherent as long as the transports are all-or-nothing. -/
theorem AllCoherent.act {host : Host} {server after : Server} {action : Action}
    (coherent : AllCoherent host server) (atomic : action.Atomic)
    (acted : act host action server = some after) : AllCoherent host after := by
  refine act_invariant
    (fun _ connection => AllOrNothing connection.send)
    (fun answers => ∀ addr, AllOrNothing (answers.tcpSend addr)) ?_ ?_ ?_ coherent
    atomic.admissions atomic.flushes acted
  · rintro server connection after coherent ⟨socket, counter, -, rfl⟩
    exact coherent
  · intro server connection client coherent atomic joins welcomed survivor member
    rw [clients_pushClient welcomed.identity, List.mem_append, List.mem_singleton] at member
    rcases member with stays | rfl
    · rw [(announced_passes host server connection).1] at stays
      exact (announcement host server connection).forall_survivors coherent
        (fun _ coherent _ => coherent.addPacketToQueue _)
        (fun _ _ coherent => coherent.addPacketToQueue _) survivor stays
    · exact coherent_welcomed atomic joins.2 welcomed
  · intro server answers coherent atomic survivor member
    rw [(flushClientPacketQueues_passes host answers server).1] at member
    exact (flushPass host answers).forall_survivors coherent
      (fun _ coherent flushes => coherent.flushed atomic flushes)
      (fun _ _ coherent => coherent.addPacketToQueue _) survivor member

/-! ## Exactly once -/

/-- A client's own arrival is the last event about it, and nothing else is
repeated. -/
theorem Recorded.exactly {server : Server} (recorded : Recorded server) {client : Client}
    (member : client ∈ server.clients) {before since : List Event}
    (shape : server.history = before ++ .joined client.player :: since) :
    ofKey Event.player client.player since = [] ∧
      ∀ player ≠ client.player, ofKey Event.player player since =
        (if .joined player ∈ since then [.joined player] else []) ++
          (if .left player ∈ since then [.left player] else []) := by
  constructor
  · have once := recorded.present client.player (List.mem_map_of_mem member)
    rw [shape, ofKey_append] at once
    rcases List.append_eq_singleton_iff.mp once with ⟨-, arrival⟩ | ⟨-, nothing⟩
    · rw [ofKey_cons_self Event.player client.player rfl] at arrival
      simpa using arrival
    · rw [ofKey_cons_self Event.player client.player rfl] at nothing
      contradiction
  · intro player other
    have split : ofKey Event.player player server.history =
        ofKey Event.player player before ++ ofKey Event.player player since := by
      rw [shape, ofKey_append, ofKey_cons_of_ne Event.player player
        (show (Event.joined client.player).player ≠ player from other.symm)]
    have joinedIff : .joined player ∈ since ↔ .joined player ∈ ofKey Event.player player since := by
      simp [mem_ofKey, Event.player]
    have leftIff : .left player ∈ since ↔ .left player ∈ ofKey Event.player player since := by
      simp [mem_ofKey, Event.player]
    simp only [joinedIff, leftIff]
    rcases recorded.suffix split with eq | eq | eq | eq <;> rw [eq] <;> simp

theorem delivering_of_reachable {host : Host} {server : Server}
    (reached : Reachable (act host) (fun _ action => action.Atomic) initial server) :
    Recorded server ∧ Informed host server ∧ AllCoherent host server := by
  induction reached with
  | start =>
      exact ⟨recorded_initial, fun _ member => absurd member List.not_mem_nil,
        fun _ member => absurd member List.not_mem_nil⟩
  | next _ atomic acted ih =>
      exact ⟨ih.1.act acted, ih.2.1.act acted, ih.2.2.act atomic acted⟩

/-- Membership events are delivered exactly once: in every run whose TCP sends
take a whole buffer or fail, a client's TCP channel carries its join response,
then one join and one leave packet, in this order, for every other player that
joined or left since the client did, and nothing else. -/
theorem membership_delivered {host : Host} {server : Server}
    (reached : Reachable (act host) (fun _ action => action.Atomic) initial server)
    {client : Client} (member : client ∈ server.clients) :
    ∃ before since log, server.history = before ++ .joined client.player :: since ∧
      client.tcpStream =
        (Client.joinResponse client.player).bytes host ++ Event.announce host log ∧
      (∀ event ∈ log, event.player ≠ client.player) ∧
      ∀ player ≠ client.player, ofKey Event.player player log =
        (if .joined player ∈ since then [.joined player] else []) ++
          (if .left player ∈ since then [.left player] else []) := by
  rcases delivering_of_reachable reached with ⟨recorded, informed, coherent⟩
  rcases informed client member with ⟨log, ⟨before, since, shape, same⟩, queued⟩
  rcases recorded.exactly member shape with ⟨own, others⟩
  refine ⟨before, since, log, shape, ?_, ?_, ?_⟩
  · rw [(coherent client member).stream, queued]
  · intro event eventMem about
    have found : event ∈ ofKey Event.player client.player log :=
      (mem_ofKey Event.player client.player).mpr ⟨eventMem, about⟩
    rw [same, own] at found
    contradiction
  · intro player other
    rw [same, others player other]

/-- Two connections that join in one call. -/
def bothJoining : Action :=
  .handleNewTCPConnections [.joining 7 fun _ => true, .joining 8 fun _ => true]

/-- Two connections in one call leave a first player who has been told of the
second. -/
theorem membership_delivered_joining :
    ∃ (server : Server) (client : Client), client ∈ server.clients ∧
      ∃ before since log, server.history = before ++ .joined client.player :: since ∧
        client.tcpStream =
          (Client.joinResponse client.player).bytes .littleEndian ++
            Event.announce .littleEndian log ∧
        (∀ event ∈ log, event.player ≠ client.player) ∧
        ∀ player ≠ client.player, ofKey Event.player player log =
          (if .joined player ∈ since then [.joined player] else []) ++
            (if .left player ∈ since then [.left player] else []) :=
  ⟨(act .littleEndian bothJoining initial).get (by decide), _, List.head_mem (by decide),
    membership_delivered
      (.next .start (by simp [bothJoining, Action.Atomic, Connection.joining,
        allOrNothing_acceptAll]) (Option.some_get _).symm) (List.head_mem (by decide))⟩

end LegendOfStealth.Server

import LegendOfStealth.Server.History

/-!
# Departures and the flag

`IsConnected` asks a flag of the client's TCP socket that only `GetPacket` sets,
and the server never reads from a socket once its client is in the vector.  So a
peer that has closed its connection is noticed only if a queue for it cannot be
sent.  A client whose flag is set is kicked during the next announcement, before
the announced client is in the vector, and that one never hears of it.
-/

namespace LegendOfStealth.Server

open LegendOfStealth.Library LegendOfStealth.Net LegendOfStealth.Protocol

namespace Client

/-- `IsConnected`. -/
def isConnected (client : Client) : Bool :=
  client.tcpSocket.isConnectionOpen

/-- Who the client is, and what it answers to `IsConnected`. -/
def standing (client : Client) : Player × Bool :=
  (client.player, client.isConnected)

@[simp]
theorem standing_addPacketToQueue (host : Host) (proto : TLProtocol) (packet : Packet)
    (client : Client) :
    (client.addPacketToQueue host proto packet).standing = client.standing := by
  cases proto <;> rfl

@[simp]
theorem standing_sendPacketQueue (proto : TLProtocol) (transport : Transport) (client : Client) :
    (client.sendPacketQueue proto transport).2.standing = client.standing := by
  cases proto <;> simp only [sendPacketQueue] <;> split <;> rfl

/-- The peer has closed the connection: no receive call returns anything. -/
def PeerClosed (client : Client) : Prop :=
  ∀ recv ∈ client.tcpSocket.incoming, recv.num ≤ 0

instance : DecidablePred PeerClosed := fun client =>
  inferInstanceAs (Decidable (∀ recv ∈ client.tcpSocket.incoming, recv.num ≤ 0))

end Client

@[simp]
theorem standing_hearLeave (host : Host) (kicked client : Client) :
    (hearLeave host kicked client).standing = client.standing := by
  simp [hearLeave]

@[simp]
theorem standing_flushed (answers : FlushAnswers) (client : Client) :
    (flushed answers client).standing = client.standing := by
  simp [flushed]

/-- Who is in the vector, and with which flag. -/
def standings (server : Server) : List (Player × Bool) :=
  server.clients.map Client.standing

/-- What `IsConnected` answers for an object in the vector. -/
def isConnected (server : Server) (addr : Addr) : Bool :=
  server.clients.any fun client => client.addr = addr && client.isConnected

theorem isConnected_addr {server : Server} {client : Client} (member : client ∈ server.clients) :
    server.isConnected client.addr = client.isConnected := by
  rw [Bool.eq_iff_iff, isConnected, List.any_eq_true]
  constructor
  · rintro ⟨other, otherMem, answers⟩
    rw [Bool.and_eq_true, decide_eq_true_eq] at answers
    rw [eq_of_addr_eq member otherMem answers.1.symm]
    exact answers.2
  · intro connected
    exact ⟨client, member, by simp [connected]⟩

/-- The clients in the vector answer as they did before the loop. -/
def AnswersAs (before server : Server) : Prop :=
  ∀ client ∈ server.clients, before.isConnected client.addr = client.isConnected

/-- A visit or a kick leaves the standing of those who stay. -/
theorem exists_standing_passBody {host : Host} {keep : Client → Bool} {visit : Client → Client}
    (keepsAddr : ∀ client, (visit client).addr = client.addr)
    (visitStanding : ∀ client, (visit client).standing = client.standing) {server : Server}
    {i : Nat} {client : Client} (here : server.clients[i]? = some client) {survivor : Client}
    (member : survivor ∈ (passBody host keep visit keepsAddr i client server).1.clients) :
    ∃ original ∈ server.clients, survivor.standing = original.standing := by
  by_cases kept : keep client = true
  · rw [passBody, if_pos kept] at member
    change survivor ∈ server.clients.modify i visit at member
    rcases List.mem_iff_getElem.mp member with ⟨j, bound, rfl⟩
    rw [List.length_modify] at bound
    refine ⟨server.clients[j], List.getElem_mem bound, ?_⟩
    rw [List.getElem_modify]
    split
    · exact visitStanding _
    · rfl
  · obtain ⟨bound, atIndex⟩ := List.getElem?_eq_some_iff.mp here
    have shape : server.clients =
        server.clients.take i ++ client :: server.clients.drop (i + 1) := by
      rw [← atIndex, List.getElem_cons_drop, List.take_append_drop]
    rw [passBody, if_neg kept, clients_kickClient shape, ← List.map_append] at member
    rcases List.mem_map.mp member with ⟨original, originalMem, rfl⟩
    refine ⟨original, ?_, standing_hearLeave host client original⟩
    rw [shape]
    rcases List.mem_append.mp originalMem with first | last
    · exact List.mem_append_left _ first
    · exact List.mem_append_right _ (List.mem_cons_of_mem _ last)

/-- A loop may ask each client for its flag when it comes to it. -/
theorem sweep_passBody_congr (host : Host) {keep asks : Client → Bool} {visit : Client → Client}
    (keepsAddr : ∀ client, (visit client).addr = client.addr)
    (visitStanding : ∀ client, (visit client).standing = client.standing) {server : Server}
    (agree : ∀ client, server.isConnected client.addr = client.isConnected →
      asks client = keep client) :
    sweep clients (passBody host asks visit keepsAddr) server =
      sweep clients (passBody host keep visit keepsAddr) server := by
  have initially : AnswersAs server server := fun _ member => isConnected_addr member
  refine sweep_congr ?_ initially
  intro i client state answers here
  have same := agree client (answers client (List.mem_of_getElem? here))
  constructor
  · rw [passBody, passBody, same]
  · intro survivor member
    rcases exists_standing_passBody keepsAddr visitStanding here member with
      ⟨original, originalMem, standing⟩
    rw [show survivor.addr = original.addr from congrArg (fun entry => entry.1.addr) standing,
      show survivor.isConnected = original.isConnected from congrArg Prod.snd standing]
    exact answers original originalMem

/-- `Broadcast`, asking each client when it comes to it. -/
def broadcastAsking (host : Host) (proto : TLProtocol) (packet : Packet) (server : Server) :
    Server :=
  sweep clients
    (fun i client => broadcastBody host (fun _ => client.isConnected) proto packet i client) server

theorem broadcastAsking_eq (host : Host) (proto : TLProtocol) (packet : Packet)
    (server : Server) :
    server.broadcastAsking host proto packet =
      server.broadcast host server.isConnected proto packet := by
  apply sweep_passBody_congr host (by simp) (by simp)
  intro client answers
  exact answers.symm

/-- `FlushClientPacketQueues`, asking each client when it comes to it. -/
def flushAsking (host : Host) (tcpSend udpSend : Addr → Transport) (server : Server) : Server :=
  sweep clients
    (fun i client => flushBody host ⟨fun _ => client.isConnected, tcpSend, udpSend⟩ i client) server

/-- The answers during a flush that asks the clients. -/
def flushAnswers (tcpSend udpSend : Addr → Transport) (server : Server) : FlushAnswers :=
  ⟨server.isConnected, tcpSend, udpSend⟩

theorem flushAsking_eq (host : Host) (tcpSend udpSend : Addr → Transport) (server : Server) :
    server.flushAsking host tcpSend udpSend =
      server.flushClientPacketQueues host (server.flushAnswers tcpSend udpSend) := by
  have sameBody : (fun i client =>
        flushBody host ⟨fun _ => client.isConnected, tcpSend, udpSend⟩ i client) =
      passBody host (fun client => flushes ⟨fun _ => client.isConnected, tcpSend, udpSend⟩ client)
        (flushed (server.flushAnswers tcpSend udpSend)) (addr_flushed _) := by
    funext i client
    rw [flushBody_eq]
    rfl
  rw [flushAsking, flushClientPacketQueues, flushBody_eq, sameBody]
  apply sweep_passBody_congr host _ (standing_flushed _)
  intro client answers
  simp only [flushes, flushAnswers, answers]

/-! ## One iteration -/

/-- A connection during whose announcement the clients are asked. -/
def asking (server : Server) (connection : Connection) : Connection :=
  { connection with isConnected := server.isConnected }

theorem announced_asking (host : Host) (server : Server) (connection : Connection) :
    server.announced host (server.asking connection) =
      server.getNextPlayerID.2.broadcastAsking host .tcp
        (Event.joined server.nextPlayer).message.packet :=
  (broadcastAsking_eq host .tcp _ server.getNextPlayerID.2).symm

/-- `HandleNewTCPConnections`, asking the clients. -/
def handleAsking (host : Host) (pending : List Connection) (server : Server) :
    Except Failure Server :=
  pending.foldlM
    (fun server connection => server.handleConnection host (server.asking connection)) server

/-- The client is as it was when it came to hear of the events of an iteration:
before all of them, or after the one that is its own arrival. -/
inductive Enters (host : Host) (before : Server) (fresh : List Event) :
    Client → List Event → Prop
  | present {client : Client} : client ∈ before.clients → Enters host before fresh client fresh
  | welcomed {server : Server} {connection : Connection} {client : Client}
      {since : List Event} (earlier : List Event) :
      Welcomed host server connection client → before.roster.nextAddr ≤ client.addr →
        fresh = earlier ++ .joined client.player :: since → Enters host before fresh client since

theorem Enters.append {host : Host} {before : Server} {fresh since : List Event} {client : Client}
    (enters : Enters host before fresh client since) (news : List Event) :
    Enters host before (fresh ++ news) client (since ++ news) := by
  cases enters with
  | present member => exact .present member
  | welcomed earlier welcomed young shape =>
      refine .welcomed earlier welcomed young ?_
      rw [shape, List.append_assoc, List.cons_append]

/-- Bytes have been put on the client's TCP channel: of its queue with the bytes
behind it, a first part was offered to the socket, and the rest is queued. -/
structure Carries (transport : Transport) (bytes : List Byte) (entered survivor : Client) :
    Prop where
  player : survivor.player = entered.player
  channel : ∃ offered, entered.tcpPktQueue ++ bytes = offered ++ survivor.tcpPktQueue ∧
    survivor.tcpSocket.sent = entered.tcpSocket.sent ++
      acceptedBytes entered.tcpSocket.protocol (transport offered) offered

theorem Client.tcp_sendPacketQueue_udp (transport : Transport) (client : Client) :
    (client.sendPacketQueue .udp transport).2.tcpPktQueue = client.tcpPktQueue ∧
      (client.sendPacketQueue .udp transport).2.tcpSocket = client.tcpSocket := by
  simp only [sendPacketQueue]
  split <;> exact ⟨rfl, rfl⟩

/-- A flush offers the whole TCP queue, and leaves it empty. -/
theorem tcp_flushed (answers : FlushAnswers) (client : Client) :
    (flushed answers client).tcpPktQueue = [] ∧
      (flushed answers client).tcpSocket.sent = client.tcpSocket.sent ++
        acceptedBytes client.tcpSocket.protocol
          (answers.tcpSend client.addr client.tcpPktQueue) client.tcpPktQueue := by
  rcases Client.tcp_sendPacketQueue_udp (answers.udpSend client.addr)
    (client.sendPacketQueue .tcp (answers.tcpSend client.addr)).2 with ⟨queue, socket⟩
  rw [flushed, queue, socket]
  simp only [Client.sendPacketQueue]
  split
  · rename_i empty
    rw [empty]
    cases client.tcpSocket.protocol <;> simp [acceptedBytes]
  · exact ⟨rfl, rfl⟩

theorem carries_flushed (answers : FlushAnswers) (client : Client) (first second : List Byte) :
    Carries (answers.tcpSend client.addr) (first ++ second) client
      ((flushed answers (client.hear first)).hear second) := by
  rcases tcp_flushed answers (client.hear first) with ⟨empty, sent⟩
  refine ⟨by simp, client.tcpPktQueue ++ first, ?_, sent⟩
  rw [Client.hear, empty, List.nil_append, List.append_assoc]

theorem standings_broadcastAsking (host : Host) (proto : TLProtocol) (packet : Packet)
    (server : Server) :
    (server.broadcastAsking host proto packet).standings = server.standings.filter Prod.snd := by
  have passes : (server.broadcastAsking host proto packet).clients =
      (pass host Client.isConnected (Client.addPacketToQueue host proto packet)).survivors
        server.clients :=
    (sweep_passBody host _ _ (by simp) server).1
  rw [standings, passes]
  apply ErasingPass.survivors_map_key
  · exact Client.standing_addPacketToQueue host proto packet
  · exact standing_hearLeave host
  · exact fun _ => rfl

/-- An admission leaves the clients that count as connected, and the new one. -/
theorem standings_admitted {host : Host} {connection : Connection} {server : Server}
    {client : Client} (welcomed : Welcomed host server (server.asking connection) client) :
    ((server.announced host (server.asking connection)).pushClient client).standings =
      server.standings.filter Prod.snd ++ [client.standing] := by
  rw [standings, clients_pushClient welcomed.identity, List.map_append]
  refine congrArg (· ++ [client.standing]) ?_
  change (server.announced host (server.asking connection)).standings = _
  rw [announced_asking]
  exact standings_broadcastAsking host .tcp _ server.getNextPlayerID.2

theorem not_mem_standings {server : Server} {client : Client} (member : client ∈ server.clients)
    (flagged : client.isConnected = false) : (client.player, true) ∉ server.standings := by
  intro listed
  rcases List.mem_map.mp listed with ⟨original, originalMem, standing⟩
  have sameObject : original = client := eq_of_addr_eq originalMem member
    (congrArg (fun entry => entry.1.addr) standing)
  rw [← sameObject, show original.isConnected = true from congrArg Prod.snd standing] at flagged
  contradiction

/-- Nobody arrives among departures. -/
theorem pairwise_departures {gone : List Client} (player : Player) :
    (Event.departures gone).Pairwise fun first second =>
      ∀ arrived, first = .joined arrived → second ≠ .left player := by
  rw [Event.departures, List.pairwise_map]
  apply List.pairwise_of_forall
  intro _ _ _ arrival
  contradiction

/-- After some connections have been handled: the clients have heard of the events
so far, everyone who is no longer there has left with one of them, those that count
as connected are still there, and those that do not are gone with the first
arrival. -/
structure Attended (host : Host) (before after : Server) (fresh : List Event) : Prop where
  history : after.history = before.history ++ fresh
  nextAddr : before.roster.nextAddr ≤ after.roster.nextAddr
  hears : ∀ survivor ∈ after.clients, ∃ entered since news,
    Enters host before fresh entered since ∧ SamePerKey Event.player news since ∧
      survivor = entered.hear (Event.announce host news)
  leaves : ∀ player ∈ before.players, player ∉ after.players → .left player ∈ fresh
  standings : ∀ player : Player, player.addr < before.roster.nextAddr →
    ((player, true) ∈ after.standings ↔ (player, true) ∈ before.standings)
  settled : ∀ client ∈ before.clients, client.isConnected = false →
    (∀ arrived, .joined arrived ∈ fresh → client.player ∉ after.players) ∧
      fresh.Pairwise fun first second =>
        ∀ arrived, first = .joined arrived → second ≠ .left client.player

namespace Attended

variable {host : Host} {before state : Server} {fresh : List Event}

theorem refl (server : Server) : Attended host server server [] := by
  refine ⟨(List.append_nil _).symm, Nat.le_refl _, ?_, fun _ stays goes => absurd stays goes,
    fun _ _ => Iff.rfl, fun _ _ _ => ⟨fun _ arrives => absurd arrives List.not_mem_nil, .nil⟩⟩
  intro survivor member
  exact ⟨survivor, [], [], .present member, .refl [], by simp [Client.hear]⟩

theorem drop {connection : Connection} {after : Server} (attended : Attended host before state fresh)
    (drops : Dropped state connection after) : Attended host before after fresh := by
  rcases drops with ⟨socket, counter, -, rfl⟩
  exact ⟨attended.history, attended.nextAddr, attended.hears, attended.leaves, attended.standings,
    attended.settled⟩

section Admission

variable {connection : Connection} {newcomer : Client}

theorem players_admitted (welcomed : Welcomed host state connection newcomer) (player : Player) :
    player ∈ ((state.announced host connection).pushClient newcomer).players ↔
      player ∈ (state.announced host connection).players ∨ player = state.nextPlayer := by
  rw [players, clients_pushClient welcomed.identity, List.map_append, List.mem_append,
    ← welcomed.player]
  simp [players]

theorem left_mem_admitted (welcomed : Welcomed host state connection newcomer) {player : Player}
    (present : player ∈ state.players)
    (left : player ∉ ((state.announced host connection).pushClient newcomer).players) :
    .left player ∈ Event.departures ((announcement host state connection).erased state.clients) := by
  rw [players_admitted welcomed, not_or] at left
  rw [Event.left_mem_departures]
  exact (List.mem_append.mp (perm_announced.mem_iff.mpr present)).resolve_left left.1

theorem hears_admitted (attended : Attended host before state fresh)
    (welcomed : Welcomed host state connection newcomer) {survivor : Client}
    (member : survivor ∈ ((state.announced host connection).pushClient newcomer).clients) :
    ∃ entered since news,
      Enters host before (fresh ++ (Event.departures
          ((announcement host state connection).erased state.clients) ++
        [.joined state.nextPlayer])) entered since ∧
        SamePerKey Event.player news since ∧ survivor = entered.hear (Event.announce host news) := by
  rw [clients_pushClient welcomed.identity, List.mem_append, List.mem_singleton] at member
  rcases member with stays | rfl
  · rcases exists_hear_of_announced stays with ⟨first, old, last, later, shape, -, split, rfl⟩
    rcases attended.hears old (by simp [shape]) with ⟨entered, since, news, enters, same, rfl⟩
    have split := congrArg Event.departures split
    rw [Event.departures_append] at split
    refine ⟨entered, _, _, enters.append _, same.append (samePerKey_announced split), ?_⟩
    rw [Client.hear_hear, ← Event.announce_append]
  · have young : before.roster.nextAddr ≤ survivor.addr := by
      rw [show survivor.addr = state.roster.nextAddr from congrArg Player.addr welcomed.player]
      exact attended.nextAddr
    let earlier := fresh ++ Event.departures ((announcement host state connection).erased
      state.clients)
    refine ⟨survivor, [], [], .welcomed earlier welcomed young ?_, .refl [],
      by simp [Client.hear]⟩
    rw [welcomed.player, ← List.append_assoc]

/-- An admission leaves out whoever is flagged. -/
theorem not_mem_players_admitted (attended : Attended host before state fresh)
    (welcomed : Welcomed host state (state.asking connection) newcomer) {client : Client}
    (member : client ∈ before.clients) (flagged : client.isConnected = false) :
    client.player ∉
      ((state.announced host (state.asking connection)).pushClient newcomer).players := by
  intro present
  have old := before.roster.fresh client member
  rcases List.mem_map.mp present with ⟨current, currentMem, player⟩
  have standing : current.standing ∈
      ((state.announced host (state.asking connection)).pushClient newcomer).standings :=
    List.mem_map_of_mem currentMem
  rw [standings_admitted welcomed, List.mem_append, List.mem_singleton] at standing
  rcases standing with stays | new
  · rcases List.mem_filter.mp stays with ⟨listed, connected⟩
    have entry : current.standing = (client.player, true) := Prod.ext player connected
    rw [entry, attended.standings client.player old] at listed
    exact not_mem_standings member flagged listed
  · have same : client.player = state.nextPlayer :=
      player.symm.trans ((congrArg Prod.fst new).trans welcomed.player)
    exact Nat.ne_of_lt (old.trans_le attended.nextAddr) (congrArg Player.addr same)

theorem push (attended : Attended host before state fresh)
    (welcomed : Welcomed host state (state.asking connection) newcomer) :
    Attended host before ((state.announced host (state.asking connection)).pushClient newcomer)
      (fresh ++ (Event.departures
          ((announcement host state (state.asking connection)).erased state.clients) ++
        [.joined state.nextPlayer])) where
  history := by
    rw [history_pushClient welcomed, attended.history, List.append_assoc]
  nextAddr := by
    refine attended.nextAddr.trans ?_
    exact (nextAddr_announced host state _).ge.trans (Nat.le_succ _)
  hears := fun _ member => attended.hears_admitted welcomed member
  leaves := by
    intro player present left
    by_cases stayed : player ∈ state.players
    · exact List.mem_append_right _ (List.mem_append_left _ (left_mem_admitted welcomed stayed left))
    · exact List.mem_append_left _ (attended.leaves player present stayed)
  standings := by
    intro player old
    have differs : (player, true) ≠ newcomer.standing := by
      intro same
      have new : player = state.nextPlayer := (congrArg Prod.fst same).trans welcomed.player
      exact Nat.ne_of_lt (old.trans_le attended.nextAddr) (congrArg Player.addr new)
    rw [standings_admitted welcomed, List.mem_append, List.mem_singleton, or_iff_left differs,
      List.mem_filter, ← attended.standings player old]
    simp
  settled := by
    intro client member flagged
    rcases attended.settled client member flagged with ⟨gone, unheard⟩
    refine ⟨fun _ _ => attended.not_mem_players_admitted welcomed member flagged, ?_⟩
    rw [List.pairwise_append, List.pairwise_append]
    refine ⟨unheard, ⟨pairwise_departures _, List.pairwise_singleton .., ?_⟩, ?_⟩
    · intro _ _ second last _ _ same
      rw [List.mem_singleton.mp last] at same
      contradiction
    · intro first firstMem second secondMem arrived arrival same
      subst arrival same
      rcases List.mem_append.mp secondMem with departure | last
      · rw [Event.left_mem_departures] at departure
        exact gone arrived firstMem (perm_announced.mem_iff.mp (List.mem_append_right _ departure))
      · simp at last

end Admission

end Attended

/-- Handling connections with the clients asked keeps the account of the events. -/
theorem exists_attended {host : Host} {pending : List Connection} {server middle : Server}
    (handled : server.handleAsking host pending = .ok middle) :
    ∃ fresh, Attended host server middle fresh := by
  have always : Along (fun server connection =>
      server.handleConnection host (server.asking connection)) (fun _ _ => True) pending server :=
    along_of_forall (fun _ _ => trivial) server
  have initially : ∃ fresh, Attended host server server fresh := ⟨[], .refl server⟩
  refine @foldlM_invariant _ _ _ _ _ (fun state => ∃ fresh, Attended host server state fresh) ?_ _ _ _
    initially always handled
  rintro state connection next ⟨fresh, attended⟩ - stepped
  rcases handleConnection_cases stepped with
    ⟨-, rfl⟩ | ⟨-, -, drops⟩ | ⟨-, newcomer, welcomed, rfl⟩
  · exact ⟨fresh, attended.drop ⟨_, state.nextPlayerId, rfl, rfl⟩⟩
  · exact ⟨fresh, attended.drop drops⟩
  · exact ⟨_, attended.push welcomed⟩

/-- Both queues of the client are sent. -/
def Client.queuesSent (tcpSend udpSend : Addr → Transport) (client : Client) : Bool :=
  (client.sendPacketQueue .tcp (tcpSend client.addr)).1 &&
    ((client.sendPacketQueue .tcp (tcpSend client.addr)).2.sendPacketQueue .udp
      (udpSend client.addr)).1

/-- The pass that a flush makes when it asks the clients. -/
def askingPass (host : Host) (tcpSend udpSend : Addr → Transport) : ErasingPass Client :=
  pass host (fun client => client.isConnected && client.queuesSent tcpSend udpSend)
    (flushed ⟨fun _ => true, tcpSend, udpSend⟩)

theorem flushAsking_passes (host : Host) (tcpSend udpSend : Addr → Transport)
    (server : Server) :
    (server.flushAsking host tcpSend udpSend).clients =
        (askingPass host tcpSend udpSend).survivors server.clients ∧
      Passed server ((askingPass host tcpSend udpSend).erased server.clients)
        (server.flushAsking host tcpSend udpSend) := by
  have sameBody : (fun i client =>
        flushBody host ⟨fun _ => client.isConnected, tcpSend, udpSend⟩ i client) =
      passBody host (fun client => client.isConnected && client.queuesSent tcpSend udpSend)
        (flushed ⟨fun _ => true, tcpSend, udpSend⟩) (addr_flushed _) := by
    funext i client
    rw [flushBody_eq]
    funext server
    simp only [passBody, flushes, Client.queuesSent, Bool.and_assoc]
    rfl
  rw [flushAsking, sameBody]
  exact sweep_passBody host _ _ (addr_flushed _) server

/-! ## Noticing a departure -/

/-- A client of a later state has been told of events: since it came to hear of them,
the packets about them have been offered to its socket or are queued for it. -/
def Hears (host : Host) (tcpSend : Addr → Transport) (before : Server) (fresh since : List Event)
    (survivor : Client) : Prop :=
  ∃ entered news, Enters host before fresh entered since ∧ SamePerKey Event.player news since ∧
    Carries (tcpSend entered.addr) (Event.announce host news) entered survivor

/-- The client is gone, and everyone who remains has been told so, including those
who joined during the iteration. -/
structure Departs (host : Host) (tcpSend : Addr → Transport) (before after : Server)
    (client : Client) : Prop where
  gone : ∀ other ∈ after.clients, other.addr ≠ client.addr
  told : ∃ fresh, after.history = before.history ++ fresh ∧
    ∀ survivor ∈ after.clients, ∃ since, Hears host tcpSend before fresh since survivor ∧
      .left client.player ∈ since

/-- When `FlushClientPacketQueues` comes to the client, one of its queues cannot be
sent. -/
def FailsToSend (host : Host) (tcpSend udpSend : Addr → Transport) (server : Server)
    (player : Player) : Prop :=
  ∃ before client after, server.clients = before ++ client :: after ∧ client.player = player ∧
    ((askingPass host tcpSend udpSend).notifyAll
      ((askingPass host tcpSend udpSend).erased before) client).queuesSent tcpSend udpSend = false

/-- The flush keeps a client exactly when it counts as connected and its queues can
be sent. -/
theorem mem_players_flushAsking {host : Host} {tcpSend udpSend : Addr → Transport}
    {server : Server} {before after : List Client} {client : Client}
    (shape : server.clients = before ++ client :: after) :
    client.player ∈ (server.flushAsking host tcpSend udpSend).players ↔
      client.isConnected = true ∧
        ((askingPass host tcpSend udpSend).notifyAll
          ((askingPass host tcpSend udpSend).erased before) client).queuesSent tcpSend udpSend =
            true := by
  have others : ∀ other ∈ before ++ after, other.player ≠ client.player := by
    rcases addr_ne_of_clients_eq shape with ⟨first, last⟩
    intro other member same
    rcases List.mem_append.mp member with earlier | later
    · exact first other earlier (congrArg Player.addr same)
    · exact last other later (congrArg Player.addr same)
  have connected : ∀ gone, ((askingPass host tcpSend udpSend).notifyAll gone client).isConnected =
      client.isConnected := by
    intro gone
    have standing : ((askingPass host tcpSend udpSend).notifyAll gone client).standing =
        client.standing := ErasingPass.key_notifyAll (standing_hearLeave host) gone client
    exact congrArg Prod.snd standing
  rw [players, (flushAsking_passes host tcpSend udpSend server).1, shape]
  rw [ErasingPass.key_mem_survivors_iff (player_flushed _) (player_hearLeave host) others]
  rw [← connected ((askingPass host tcpSend udpSend).erased before)]
  exact iff_of_eq (Bool.and_eq_true ..)

section Iteration

variable {host : Host} {tcpSend udpSend : Addr → Transport} {server middle : Server}
  {fresh : List Event}

/-- Of the clients that are there, the flush leaves those that count as connected and
can be sent to. -/
theorem mem_players_flushAsking_iff {client : Client} (member : client ∈ middle.clients) :
    client.player ∈ (middle.flushAsking host tcpSend udpSend).players ↔
      ¬ (client.tcpSocket.tcpDisconnect = true ∨
        middle.FailsToSend host tcpSend udpSend client.player) := by
  have flag : client.isConnected = true ↔ ¬ client.tcpSocket.tcpDisconnect = true := by
    simp [Client.isConnected, Socket.isConnectionOpen]
  rw [not_or, ← flag]
  constructor
  · intro stays
    refine ⟨?_, ?_⟩
    · rcases List.append_of_mem member with ⟨before, after, shape⟩
      exact ((mem_players_flushAsking shape).mp stays).1
    · rintro ⟨before, current, after, shape, same, fails⟩
      rw [← same, mem_players_flushAsking shape, fails] at stays
      exact Bool.false_ne_true stays.2
  · rintro ⟨connected, sends⟩
    rcases List.append_of_mem member with ⟨before, after, shape⟩
    exact (mem_players_flushAsking shape).mpr ⟨connected, Bool.of_not_eq_false fun fails =>
      sends ⟨before, client, after, shape, rfl, fails⟩⟩

theorem perm_flushAsking :
    ((middle.flushAsking host tcpSend udpSend).players ++
        ((askingPass host tcpSend udpSend).erased middle.clients).map Client.player).Perm
      middle.players := by
  rw [players, (flushAsking_passes host tcpSend udpSend middle).1]
  exact perm_pass (player_flushed _) middle.clients

theorem left_mem_flushAsking {player : Player} (present : player ∈ middle.players)
    (left : player ∉ (middle.flushAsking host tcpSend udpSend).players) :
    .left player ∈
      Event.departures ((askingPass host tcpSend udpSend).erased middle.clients) := by
  rw [Event.left_mem_departures]
  exact (List.mem_append.mp (perm_flushAsking.mem_iff.mpr present)).resolve_left left

theorem subset_flushAsking :
    (middle.flushAsking host tcpSend udpSend).players ⊆ middle.players :=
  fun _ member => perm_flushAsking.mem_iff.mp (List.mem_append_left _ member)

namespace Attended

variable (attended : Attended host server middle fresh)

include attended

theorem history_flushAsking :
    (middle.flushAsking host tcpSend udpSend).history = server.history ++
      (fresh ++
        Event.departures ((askingPass host tcpSend udpSend).erased middle.clients)) := by
  rw [(flushAsking_passes host tcpSend udpSend middle).2.history, attended.history,
    List.append_assoc]

/-- Everyone who remains hears of those whom the flush kicks. -/
theorem hears_flushAsking {survivor : Client}
    (member : survivor ∈ (middle.flushAsking host tcpSend udpSend).clients) :
    ∃ entered since news, Enters host server fresh entered since ∧
      SamePerKey Event.player news since ∧
        Carries (tcpSend entered.addr) (Event.announce host (news ++
          Event.departures ((askingPass host tcpSend udpSend).erased middle.clients)))
            entered survivor := by
  rw [(flushAsking_passes host tcpSend udpSend middle).1] at member
  rcases hears_of_mem_survivors member with ⟨first, current, last, later, shape, -, split, rfl⟩
  rcases attended.hears current (by simp [shape]) with ⟨entered, since, news, enters, same, rfl⟩
  refine ⟨entered, since, news, enters, same, ?_⟩
  rw [askingPass, split, Event.departures_append, ← List.append_assoc, Event.announce_append,
    Event.announce_append, Client.hear_hear]
  exact carries_flushed ⟨fun _ => true, tcpSend, udpSend⟩ entered _ _

end Attended

theorem Hears.of_append {since news gone : List Event} {entered survivor : Client}
    (enters : Enters host server fresh entered since) (same : SamePerKey Event.player news since)
    (carries : Carries (tcpSend entered.addr) (Event.announce host (news ++ gone)) entered
      survivor) : Hears host tcpSend server (fresh ++ gone) (since ++ gone) survivor :=
  ⟨entered, _, enters.append gone, same.append (.refl gone), carries⟩

/-- Nobody else has the identity of a client that is gone. -/
theorem Enters.eq_of_addr {entered client : Client} {since : List Event}
    (enters : Enters host server fresh entered since) (member : client ∈ server.clients)
    (same : entered.addr = client.addr) : entered = client := by
  cases enters with
  | present entered => exact eq_of_addr_eq entered member same
  | welcomed _ _ young _ =>
      exact absurd (same ▸ young) (Nat.not_le.mpr (server.roster.fresh client member))

/-- Whoever is still there has been told of a client that a queue could not be sent
for, and everyone who was there before of whoever is gone. -/
theorem Attended.told_of_left (attended : Attended host server middle fresh) {client : Client}
    (member : client ∈ server.clients)
    (left : client.player ∉ (middle.flushAsking host tcpSend udpSend).players)
    {survivor : Client} (survives : survivor ∈ (middle.flushAsking host tcpSend udpSend).clients)
    (within : client.player ∈ middle.players ∨ survivor.addr < server.roster.nextAddr) :
    ∃ since, Hears host tcpSend server (fresh ++
        Event.departures ((askingPass host tcpSend udpSend).erased middle.clients)) since
          survivor ∧ .left client.player ∈ since := by
  rcases attended.hears_flushAsking survives with ⟨entered, since, news, enters, same, carries⟩
  refine ⟨_, .of_append enters same carries, ?_⟩
  by_cases present : client.player ∈ middle.players
  · exact List.mem_append_right _ (left_mem_flushAsking present left)
  · have old := within.resolve_left present
    rw [show survivor.addr = entered.addr from congrArg Player.addr carries.player] at old
    cases enters with
    | present _ =>
        exact List.mem_append_left _
          (attended.leaves _ (List.mem_map_of_mem member) present)
    | welcomed _ _ young _ => exact absurd young (Nat.not_le.mpr old)

theorem Attended.gone_of_left (attended : Attended host server middle fresh) {client : Client}
    (member : client ∈ server.clients)
    (left : client.player ∉ (middle.flushAsking host tcpSend udpSend).players) :
    ∀ other ∈ (middle.flushAsking host tcpSend udpSend).clients, other.addr ≠ client.addr := by
  intro other survives same
  rcases attended.hears_flushAsking survives with ⟨entered, since, news, enters, -, carries⟩
  have sameObject : entered = client := enters.eq_of_addr member
    ((congrArg Player.addr carries.player).symm.trans same)
  rw [← sameObject, ← carries.player] at left
  exact left (List.mem_map_of_mem survives)

/-- A flagged client does not count as connected when the flush comes to it. -/
theorem Attended.left_of_flagged (attended : Attended host server middle fresh) {client : Client}
    (member : client ∈ server.clients) (flagged : client.tcpSocket.tcpDisconnect = true) :
    client.player ∉ (middle.flushAsking host tcpSend udpSend).players := by
  intro stays
  have unconnected : client.isConnected = false := by
    simp [Client.isConnected, Socket.isConnectionOpen, flagged]
  rcases List.mem_map.mp (subset_flushAsking stays) with ⟨current, currentMem, same⟩
  rw [← same, mem_players_flushAsking_iff currentMem, not_or] at stays
  have connected : current.isConnected = true := by
    simpa [Client.isConnected, Socket.isConnectionOpen] using stays.1
  have standing : current.standing = (client.player, true) := Prod.ext same connected
  have listed : (client.player, true) ∈ middle.standings :=
    standing ▸ List.mem_map_of_mem currentMem
  rw [attended.standings client.player (server.roster.fresh client member)] at listed
  exact not_mem_standings member unconnected listed

/-- Of a flagged client nobody hears who joined during the iteration. -/
theorem Attended.not_told (attended : Attended host server middle fresh) {client : Client}
    (member : client ∈ server.clients) (flagged : client.tcpSocket.tcpDisconnect = true)
    {survivor : Client} {since : List Event}
    (hears : Hears host tcpSend server (fresh ++
        Event.departures ((askingPass host tcpSend udpSend).erased middle.clients)) since survivor)
    (young : server.roster.nextAddr ≤ survivor.addr) : .left client.player ∉ since := by
  have unconnected : client.isConnected = false := by
    simp [Client.isConnected, Socket.isConnectionOpen, flagged]
  rcases attended.settled client member unconnected with ⟨gone, unheard⟩
  have ordered : (fresh ++
      Event.departures ((askingPass host tcpSend udpSend).erased middle.clients)).Pairwise
        fun first second => ∀ arrived, first = .joined arrived → second ≠ .left client.player := by
    rw [List.pairwise_append]
    refine ⟨unheard, pairwise_departures _, ?_⟩
    intro first firstMem second secondMem arrived arrival same
    subst arrival same
    rw [Event.left_mem_departures] at secondMem
    exact gone arrived firstMem (perm_flushAsking.mem_iff.mp (List.mem_append_right _ secondMem))
  rcases hears with ⟨entered, news, enters, -, carries⟩
  rw [show survivor.addr = entered.addr from congrArg Player.addr carries.player] at young
  cases enters with
  | present old => exact absurd young (Nat.not_le.mpr (server.roster.fresh entered old))
  | welcomed earlier _ _ shape =>
      rw [shape, List.pairwise_append, List.pairwise_cons] at ordered
      exact fun told => ordered.2.1.1 _ told _ rfl rfl

/-- A client that counts as connected stays until the flush comes to it. -/
theorem Attended.fails_of_left (attended : Attended host server middle fresh) {client : Client}
    (member : client ∈ server.clients) (unflagged : ¬ client.tcpSocket.tcpDisconnect = true)
    (left : client.player ∉ (middle.flushAsking host tcpSend udpSend).players) :
    middle.FailsToSend host tcpSend udpSend client.player := by
  have connected : client.isConnected = true := by
    simpa [Client.isConnected, Socket.isConnectionOpen] using unflagged
  have listed : (client.player, true) ∈ middle.standings := by
    rw [attended.standings client.player (server.roster.fresh client member)]
    exact connected ▸ List.mem_map_of_mem member
  rcases List.mem_map.mp listed with ⟨current, currentMem, standing⟩
  have same : current.player = client.player := congrArg Prod.fst standing
  have unflagged : ¬ current.tcpSocket.tcpDisconnect = true := by
    have connected : current.isConnected = true := congrArg Prod.snd standing
    simpa [Client.isConnected, Socket.isConnectionOpen] using connected
  rw [← same, mem_players_flushAsking_iff currentMem, not_not] at left
  exact same ▸ left.resolve_left unflagged

/-- A client that is gone has departed if everyone who remains was there before, or the
client was still there when the flush began. -/
theorem Attended.departs_of_left (attended : Attended host server middle fresh) {client : Client}
    (member : client ∈ server.clients)
    (left : client.player ∉ (middle.flushAsking host tcpSend udpSend).players)
    (within : ∀ survivor ∈ (middle.flushAsking host tcpSend udpSend).clients,
      client.player ∈ middle.players ∨ survivor.addr < server.roster.nextAddr) :
    Departs host tcpSend server (middle.flushAsking host tcpSend udpSend) client where
  gone := attended.gone_of_left member left
  told := by
    refine ⟨_, attended.history_flushAsking, ?_⟩
    intro survivor survives
    exact attended.told_of_left member left survives (within survivor survives)

theorem Departs.left {after : Server} {client : Client}
    (departs : Departs host tcpSend server after client) : client.player ∉ after.players := by
  intro stays
  rcases List.mem_map.mp stays with ⟨survivor, survives, player⟩
  exact departs.gone survivor survives (congrArg Player.addr player)

/-- If a flagged client has departed, nobody who joined during the iteration remains. -/
theorem Attended.accompanied_of_departs (attended : Attended host server middle fresh)
    {client : Client} (member : client ∈ server.clients)
    (flagged : client.tcpSocket.tcpDisconnect = true)
    (departs : Departs host tcpSend server (middle.flushAsking host tcpSend udpSend) client)
    {newcomer : Client} (present : newcomer ∈ middle.clients)
    (young : server.roster.nextAddr ≤ newcomer.addr) :
    newcomer.tcpSocket.tcpDisconnect = true ∨
      middle.FailsToSend host tcpSend udpSend newcomer.player := by
  by_contra kept
  rcases List.mem_map.mp ((mem_players_flushAsking_iff present).mpr kept) with
    ⟨survivor, survives, player⟩
  rcases departs.told with ⟨events, history, told⟩
  rw [attended.history_flushAsking, List.append_cancel_left_eq] at history
  subst history
  rcases told survivor survives with ⟨since, hears, heard⟩
  have young : server.roster.nextAddr ≤ survivor.addr := by
    rwa [show survivor.addr = newcomer.addr from congrArg Player.addr player]
  exact attended.not_told member flagged hears young heard

end Iteration

/-- A join request whose peer then closes the connection. -/
def closing : Connection :=
  { Connection.joining 7 fun _ => true with incoming := [.closed] }

/-- The server with that peer's client. -/
def deserted : Server :=
  (act .littleEndian (.handleNewTCPConnections [closing]) initial).get (by decide)

end LegendOfStealth.Server

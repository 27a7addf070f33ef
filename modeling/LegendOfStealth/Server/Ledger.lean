import LegendOfStealth.Server.EventOrder

/-!
# A ledger of runs

Runs are taken apart into single moves: one pass of the loop of
`HandleNewTCPConnections`, one call of `AcceptNewClient`, or one flush.  A ledger
keeps, beside the server, how often `GetNextPlayerID` has been called, what the
server has told about players and in which order, and whom the last move has
appended.  Nothing in the server depends on it.
-/

namespace LegendOfStealth.Server

open LegendOfStealth.Library LegendOfStealth.Net LegendOfStealth.Protocol

/-- The moves of a run. -/
inductive Move where
  | handleConnection (connection : Connection)
  | acceptNewClient (connection : Connection)
  | flushClientPacketQueues (answers : FlushAnswers)

instance (connection : Connection) : Decidable connection.Requests :=
  decidable_of_iff
    (connection.hasActivity = true ∧
      (connection.receive connection.socket).packet.any (fun packet =>
        packet.getPacketType = PacketType.joinRequest.toDword) = true)
    (by simp [Connection.Requests, Option.any_eq_true])

namespace Move

/-- The action that consists of the move. -/
def action : Move → Action
  | .handleConnection connection => .handleNewTCPConnections [connection]
  | .acceptNewClient connection => .acceptNewClient connection
  | .flushClientPacketQueues answers => .flushClientPacketQueues answers

/-- The move gets as far as the call of `GetNextPlayerID`. -/
def Identifies (server : Server) : Move → Prop
  | .handleConnection connection => server.HasRoom ∧ connection.Requests
  | .acceptNewClient connection => connection.Requests
  | .flushClientPacketQueues _ => False

instance (server : Server) : DecidablePred (Identifies server) := fun move =>
  match move with
  | .handleConnection _ => inferInstanceAs (Decidable (_ ∧ _))
  | .acceptNewClient connection => inferInstanceAs (Decidable connection.Requests)
  | .flushClientPacketQueues _ => inferInstanceAs (Decidable False)

/-- A join request on which every call succeeds, while everybody is connected. -/
def joins (port : Dword) : Move :=
  .handleConnection (.joining port fun _ => true)

end Move

/-- A server with what its run has done so far. -/
structure Ledger where
  server : Server
  calls : Nat
  log : List Message
  newest : Option Player

namespace Ledger

/-- The player that the last of some events has appended. -/
def appended (events : List Event) : Option Player :=
  match events.getLast? with
  | some (.joined player) => some player
  | _ => none

/-- Record a move that led to a server and made some events happen. -/
def record (move : Move) (ledger : Ledger) (events : List Event) (after : Server) : Ledger where
  server := after
  calls := ledger.calls + if move.Identifies ledger.server then 1 else 0
  log := ledger.log ++
    (if move.Identifies ledger.server then [Client.joinResponse ledger.server.nextPlayer]
      else []) ++ events.map Event.message
  newest := appended events

/-- Enter a move that led to a server: the events are what the history has grown
by. -/
def enter (move : Move) (ledger : Ledger) (after : Server) : Ledger :=
  ledger.record move (after.history.drop ledger.server.history.length) after

/-- Make a move. -/
def advance (host : Host) : Step Move Ledger :=
  fun move ledger => (act host move.action ledger.server).map (ledger.enter move)

/-- The ledger of a fresh server. -/
def initial : Ledger :=
  ⟨Server.initial, 0, [], none⟩

theorem act_of_advance {host : Host} {ledger after : Ledger} {move : Move}
    (advanced : advance host move ledger = some after) :
    act host move.action ledger.server = some after.server ∧
      after = ledger.enter move after.server := by
  rcases Option.map_eq_some_iff.mp advanced with ⟨server, acted, rfl⟩
  exact ⟨acted, rfl⟩

theorem advance_of_act {host : Host} {ledger : Ledger} {move : Move} {server : Server}
    (acted : act host move.action ledger.server = some server) :
    advance host move ledger = some (ledger.enter move server) := by
  rw [advance, acted]
  rfl

/-- The servers that ledgers reach are reached by actions. -/
theorem server_reachable {host : Host} {allowed : Server → Action → Prop} {ledger : Ledger}
    (reached : Reachable (advance host) (fun ledger move => allowed ledger.server move.action)
      initial ledger) :
    Reachable (act host) allowed Server.initial ledger.server := by
  induction reached with
  | start => exact .start
  | next _ permitted advanced ih => exact .next ih permitted (act_of_advance advanced).1

end Ledger

/-! ## What a move does -/

/-- Whatever comes of a response, the counter stays where `GetNextPlayerID` left
it. -/
theorem nextPlayerId_respondTo {host : Host} {connection : Connection} {client : Client}
    {server : Server} :
    (server.respondTo host connection client).nextPlayerId = server.nextPlayerId := by
  simp only [respondTo]
  split
  · rfl
  · exact (broadcast_passes host connection.isConnected .tcp _ server).2.nextPlayerId

/-- The counter moves by one exactly for a join request. -/
theorem nextPlayerId_of_acceptNewClient {host : Host} {connection : Connection}
    {server after : Server}
    (accepted : server.acceptNewClient host connection connection.socket = .ok after) :
    after.nextPlayerId = server.nextPlayerId + if connection.Requests then 1 else 0 := by
  by_cases requests : connection.Requests
  · rcases acceptNewClient_of_requests requests with ⟨port, eq⟩
    rcases bind_eq_ok_iff.mp (eq.symm.trans accepted) with ⟨client, -, responded⟩
    cases responded
    rw [if_pos requests, nextPlayerId_respondTo]
    rfl
  · rcases acceptNewClient_of_not_requests requests with ⟨socket, -, eq⟩
    cases eq.symm.trans accepted
    rw [if_neg requests]
    exact (BitVec.add_zero _).symm

/-- The counter moves by one exactly when a move calls `GetNextPlayerID`. -/
theorem nextPlayerId_of_act {host : Host} {move : Move} {server after : Server}
    (acted : act host move.action server = some after) :
    after.nextPlayerId = server.nextPlayerId + if move.Identifies server then 1 else 0 := by
  cases move with
  | handleConnection connection =>
      rcases (foldlM_cons_eq_ok_iff (handleConnection host)).mp (toOption_eq_some_iff.mp acted) with
        ⟨middle, handled, done⟩
      cases done
      rcases bind_eq_ok_iff.mp handled with ⟨socket, made, handled⟩
      rcases Connection.getNewSocket_eq_ok_iff.mp made with ⟨-, rfl⟩
      split at handled
      · rename_i room
        rw [nextPlayerId_of_acceptNewClient handled]
        simp [Move.Identifies, hasRoom_iff.mp room]
      · rename_i closed
        cases handled
        have noRoom : ¬ server.HasRoom := fun room => closed (hasRoom_iff.mpr room)
        simp [Move.Identifies, noRoom, discard]
  | acceptNewClient connection =>
      rcases bind_eq_ok_iff.mp (toOption_eq_some_iff.mp acted) with ⟨socket, made, accepted⟩
      rcases Connection.getNewSocket_eq_ok_iff.mp made with ⟨-, rfl⟩
      exact nextPlayerId_of_acceptNewClient accepted
  | flushClientPacketQueues answers =>
      cases acted
      rw [(flushClientPacketQueues_passes host answers server).2.nextPlayerId]
      exact (BitVec.add_zero _).symm

theorem act_cases {host : Host} {move : Move} {server after : Server}
    (acted : act host move.action server = some after) :
    (∃ connection, Dropped server connection after ∧
        ∀ property, move.action.Admissions host property server) ∨
      (∃ connection client, move.Identifies server ∧ Welcomed host server connection client ∧
        after = (server.announced host connection).pushClient client ∧
        ∀ property, move.action.Admissions host property server ↔ property server connection) ∨
      ∃ answers, move = .flushClientPacketQueues answers ∧
        after = server.flushClientPacketQueues host answers := by
  cases move with
  | handleConnection connection =>
      rcases (foldlM_cons_eq_ok_iff (handleConnection host)).mp (toOption_eq_some_iff.mp acted) with
        ⟨middle, handled, done⟩
      cases done
      rcases handleConnection_cases handled with
        ⟨closed, rfl⟩ | ⟨-, refuses, drops⟩ | ⟨admits, client, welcomed, rfl⟩
      · exact .inl ⟨connection, ⟨_, server.nextPlayerId, rfl, rfl⟩,
          fun _ => ⟨fun admits => absurd admits.1 closed, fun _ _ => trivial⟩⟩
      · exact .inl ⟨connection, drops,
          fun _ => ⟨fun admits => absurd admits refuses, fun _ _ => trivial⟩⟩
      · refine .inr (.inl ⟨connection, client, ⟨admits.1, admits.2.1⟩, welcomed, rfl, ?_⟩)
        intro property
        exact ⟨fun along => along.1 admits, fun holds => ⟨fun _ => holds, fun _ _ => trivial⟩⟩
  | acceptNewClient connection =>
      rcases bind_eq_ok_iff.mp (toOption_eq_some_iff.mp acted) with ⟨socket, made, accepted⟩
      rcases Connection.getNewSocket_eq_ok_iff.mp made with ⟨-, rfl⟩
      rcases acceptNewClient_cases accepted with ⟨refuses, drops⟩ | ⟨joins, client, welcomed, rfl⟩
      · exact .inl ⟨connection, drops, fun _ joins => absurd joins refuses⟩
      · refine .inr (.inl ⟨connection, client, joins.1, welcomed, rfl, ?_⟩)
        intro property
        exact ⟨fun admissions => admissions joins, fun holds _ => holds⟩
  | flushClientPacketQueues answers =>
      cases acted
      exact .inr (.inr ⟨answers, rfl, rfl⟩)

namespace Ledger

/-- Some of the players stay, in their order, and the others go; a player whom the
move has given an id may be appended.  The log says so, and those who stay hear
it: the arrival between the departures before and behind them. -/
structure Turnover (host : Host) (move : Move) (before after : Ledger)
    (staying gone arrived : List Player) : Prop where
  calls : after.calls = before.calls + if move.Identifies before.server then 1 else 0
  counter : after.server.nextPlayerId = before.server.nextPlayerId +
    if move.Identifies before.server then 1 else 0
  split : (staying ++ gone).Perm before.server.players
  order : staying.Sublist before.server.players
  players : after.server.players = staying ++ arrived
  identified : arrived = [] ∨
    move.Identifies before.server ∧ arrived = [before.server.nextPlayer]
  log : after.log = before.log ++
    (if move.Identifies before.server then [Client.joinResponse before.server.nextPlayer]
      else []) ++ (gone.map Event.left ++ arrived.map Event.joined).map Event.message
  newest : after.newest = arrived.getLast?
  hears : ∀ survivor ∈ after.server.clients,
    (∃ client ∈ before.server.clients, survivor.player = client.player ∧
      ∃ earlier later, gone = earlier ++ later ∧
        survivor.tcpQueued = client.tcpQueued ++ Event.announce host
          (earlier.map Event.left ++ arrived.map Event.joined ++ later.map Event.left)) ∨
      arrived = [survivor.player] ∧ survivor.tcpQueued = []

theorem enter_eq {move : Move} {ledger : Ledger} {after : Server} {events : List Event}
    (history : after.history = ledger.server.history ++ events) :
    ledger.enter move after = ledger.record move events after := by
  rw [enter, history, List.drop_left]

/-- What a move can do, with the events that are recorded. -/
theorem advance_cases {host : Host} {move : Move} {before after : Ledger}
    (advanced : advance host move before = some after) :
    (∃ connection, Dropped before.server connection after.server ∧
        after = before.record move [] after.server ∧
          ∀ property, move.action.Admissions host property before.server) ∨
      (∃ connection client, move.Identifies before.server ∧
        Welcomed host before.server connection client ∧
          after.server = (before.server.announced host connection).pushClient client ∧
            after = before.record move
              (Event.departures
                  ((announcement host before.server connection).erased before.server.clients) ++
                [.joined before.server.nextPlayer]) after.server ∧
              ∀ property, move.action.Admissions host property before.server ↔
                property before.server connection) ∨
      ∃ answers, move = .flushClientPacketQueues answers ∧
        after.server = before.server.flushClientPacketQueues host answers ∧
          after = before.record move
            (Event.departures ((flushPass host answers).erased before.server.clients))
            after.server := by
  rcases act_of_advance advanced with ⟨acted, entered⟩
  rcases act_cases acted with ⟨connection, drops, unconditional⟩ |
    ⟨connection, client, identifies, welcomed, pushed, admissions⟩ | ⟨answers, moved, flushed⟩
  · have history : after.server.history = before.server.history ++ [] := by
      rcases drops with ⟨socket, counted, -, dropped⟩
      rw [dropped, List.append_nil]
    exact .inl ⟨connection, drops, entered.trans (enter_eq history), unconditional⟩
  · have history := history_pushClient welcomed
    rw [← pushed] at history
    exact .inr (.inl ⟨connection, client, identifies, welcomed, pushed,
      entered.trans (enter_eq history), admissions⟩)
  · have history := (flushClientPacketQueues_passes host answers before.server).2.history
    rw [← flushed] at history
    exact .inr (.inr ⟨answers, moved, flushed, entered.trans (enter_eq history)⟩)

/-- Nobody is appended when players only leave. -/
theorem appended_left (gone : List Player) : appended (gone.map Event.left) = none := by
  rw [appended, List.getLast?_map]
  cases gone.getLast? <;> rfl

section Turnover

variable {host : Host} {move : Move} {before after : Ledger}

theorem turnover_of_dropped {connection : Connection}
    (advanced : advance host move before = some after)
    (drops : Dropped before.server connection after.server)
    (recorded : after = before.record move [] after.server) :
    Turnover host move before after before.server.players [] [] := by
  rcases drops with ⟨socket, counted, -, dropped⟩
  refine ⟨by rw [recorded]; rfl, nextPlayerId_of_act (act_of_advance advanced).1, by simp,
    List.Sublist.refl _, ?_, .inl rfl, by rw [recorded]; rfl, by rw [recorded]; rfl, ?_⟩
  · rw [dropped, List.append_nil]
    rfl
  · intro survivor member
    rw [dropped] at member
    exact .inl ⟨survivor, member, rfl, [], [], rfl, by simp⟩

theorem turnover_of_admitted {connection : Connection} {client : Client}
    (advanced : advance host move before = some after) (identifies : move.Identifies before.server)
    (welcomed : Welcomed host before.server connection client)
    (pushed : after.server = (before.server.announced host connection).pushClient client)
    (recorded : after = before.record move
      (Event.departures
          ((announcement host before.server connection).erased before.server.clients) ++
        [.joined before.server.nextPlayer]) after.server) :
    Turnover host move before after (before.server.announced host connection).players
      (((announcement host before.server connection).erased before.server.clients).map
        Client.player) [before.server.nextPlayer] := by
  have shape := clients_pushClient welcomed.identity
  refine ⟨by rw [recorded]; rfl, nextPlayerId_of_act (act_of_advance advanced).1, perm_announced,
    ?_, ?_, .inr ⟨identifies, rfl⟩, ?_, ?_, ?_⟩
  · rw [players, players_announced]
    exact List.filter_sublist
  · rw [pushed, players, shape, List.map_append, players, ← welcomed.player]
    rfl
  · rw [recorded, Event.departures_eq]
    rfl
  · rw [recorded]
    simp [record, appended]
  · intro survivor member
    rw [pushed, shape, List.mem_append, List.mem_singleton] at member
    rcases member with stays | rfl
    · rcases hears_announced stays with
        ⟨first, old, last, later, split, -, erased, player, queued⟩
      refine .inl ⟨old, by simp [split], player,
        ((announcement host before.server connection).erased first).map Client.player,
        later.map Client.player, ?_, ?_⟩
      · rw [erased, List.map_append]
      · rw [queued, Event.departures_eq, Event.departures_eq]
        rfl
    · exact .inr ⟨by rw [welcomed.player], welcomed.tcpQueued⟩

theorem turnover_of_flushed {answers : FlushAnswers}
    (advanced : advance host move before = some after)
    (flushed : after.server = before.server.flushClientPacketQueues host answers)
    (recorded : after = before.record move
      (Event.departures ((flushPass host answers).erased before.server.clients)) after.server) :
    Turnover host move before after after.server.players
      (((flushPass host answers).erased before.server.clients).map Client.player) [] := by
  refine ⟨by rw [recorded]; rfl, nextPlayerId_of_act (act_of_advance advanced).1, ?_, ?_, by simp,
    .inl rfl, ?_, ?_, ?_⟩
  · rw [players, flushed, (flushClientPacketQueues_passes host answers before.server).1]
    exact perm_pass (player_flushed answers) before.server.clients
  · rw [players, flushed]
    exact players_flushClientPacketQueues host answers before.server
  · rw [recorded, Event.departures_eq]
    simp [record]
  · rw [recorded, Event.departures_eq]
    exact appended_left _
  · intro survivor member
    rw [flushed] at member
    rcases hears_flushed member with ⟨old, oldMem, player, queued⟩
    refine .inl ⟨old, oldMem, player, _, [], (List.append_nil _).symm, ?_⟩
    rw [queued, Event.departures_eq]
    simp

/-- Every move is a turnover. -/
theorem exists_turnover (advanced : advance host move before = some after) :
    ∃ staying gone arrived, Turnover host move before after staying gone arrived := by
  rcases advance_cases advanced with ⟨connection, drops, recorded, -⟩ |
    ⟨connection, client, identifies, welcomed, pushed, recorded, -⟩ |
    ⟨answers, -, flushed, recorded⟩
  · exact ⟨_, _, _, turnover_of_dropped advanced drops recorded⟩
  · exact ⟨_, _, _, turnover_of_admitted advanced identifies welcomed pushed recorded⟩
  · exact ⟨_, _, _, turnover_of_flushed advanced flushed recorded⟩

end Turnover

end Ledger

end LegendOfStealth.Server

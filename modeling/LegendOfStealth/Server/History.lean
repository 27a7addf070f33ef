import LegendOfStealth.Library.PerKey
import LegendOfStealth.Server.Loop

/-!
# The history of the vector

A pass over the vector tells each client that stays of the clients erased before
its visit, of what the visit is about, and of the clients erased after, in this
order.  The history records the same events, and every player's part of it is
that of one life: it joins once and leaves at most once.
-/

namespace LegendOfStealth.Server

open LegendOfStealth.Library LegendOfStealth.Net LegendOfStealth.Protocol

/-- The client after bytes have been appended to its TCP queue. -/
def Client.hear (bytes : List Byte) (client : Client) : Client :=
  { client with
    tcpPktQueue := client.tcpPktQueue ++ bytes
    tcpQueued := client.tcpQueued ++ bytes }

@[simp]
theorem Client.player_hear (bytes : List Byte) (client : Client) :
    (client.hear bytes).player = client.player :=
  rfl

theorem Client.hear_hear (first second : List Byte) (client : Client) :
    (client.hear first).hear second = client.hear (first ++ second) := by
  simp [hear]

theorem Client.addPacketToQueue_event (host : Host) (event : Event) (client : Client) :
    client.addPacketToQueue host .tcp event.message.packet =
      client.hear (Event.announce host [event]) := by
  rw [Event.announce_singleton]
  rfl

section Pass

variable {host : Host} {keep : Client → Bool} {visit : Client → Client}

theorem perm_pass (visitPlayer : ∀ client, (visit client).player = client.player)
    (clients : List Client) :
    (((pass host keep visit).survivors clients).map Client.player ++
        ((pass host keep visit).erased clients).map Client.player).Perm
      (clients.map Client.player) :=
  ErasingPass.survivors_append_erased_perm visitPlayer
    (fun kicked client => player_hearLeave host kicked client) clients

theorem notifyAll_eq_hear (gone : List Client) (client : Client) :
    (pass host keep visit).notifyAll gone client =
      client.hear (Event.announce host (Event.departures gone)) := by
  induction gone generalizing client with
  | nil => simp [Client.hear]
  | cons kicked rest ih =>
      change (pass host keep visit).notifyAll rest (hearLeave host kicked client) = _
      rw [ih, hearLeave, leavePacket, Client.addPacketToQueue_event, Client.hear_hear,
        ← Event.announce_append]
      rfl

/-- A survivor of a pass hears of the clients erased before its visit, is visited,
and hears of the clients erased after. -/
theorem hears_of_mem_survivors {clients : List Client} {survivor : Client}
    (member : survivor ∈ (pass host keep visit).survivors clients) :
    ∃ before client after later, clients = before ++ client :: after ∧
      keep (client.hear (Event.announce host
        (Event.departures ((pass host keep visit).erased before)))) ∧
        (pass host keep visit).erased clients =
            (pass host keep visit).erased before ++ later ∧
          survivor = (visit (client.hear (Event.announce host
            (Event.departures ((pass host keep visit).erased before))))).hear
              (Event.announce host (Event.departures later)) := by
  obtain ⟨before, client, after, later, shape, kept, split, survivorEq⟩ :=
    (pass host keep visit).mem_survivors member
  rw [notifyAll_eq_hear] at kept
  rw [notifyAll_eq_hear, notifyAll_eq_hear] at survivorEq
  exact ⟨before, client, after, later, shape, kept, split, survivorEq⟩

end Pass

/-! ## The history -/

/-- The players in the vector. -/
def players (server : Server) : List Player :=
  server.clients.map Client.player

/-- Every player in the vector has joined and not left; every other player has
done both or neither. -/
structure Recorded (server : Server) : Prop where
  present : ∀ player ∈ server.players,
    ofKey Event.player player server.history = [.joined player]
  absent : ∀ player ∉ server.players,
    ofKey Event.player player server.history = [] ∨
      ofKey Event.player player server.history = [.joined player, .left player]
  older : ∀ event ∈ server.history, event.player.addr < server.roster.nextAddr

theorem players_nodup (server : Server) : server.players.Nodup := by
  apply List.Nodup.of_map Player.addr
  rw [players, List.map_map]
  exact server.roster.distinct

theorem addr_lt_of_mem_players {server : Server} {player : Player}
    (member : player ∈ server.players) : player.addr < server.roster.nextAddr := by
  rcases List.mem_map.mp member with ⟨client, clientMem, rfl⟩
  exact server.roster.fresh client clientMem

@[simp]
theorem map_player_departures (gone : List Client) :
    (Event.departures gone).map Event.player = gone.map Client.player := by
  simp [Event.departures, Function.comp_def, Event.player]

theorem ofKey_departures_of_not_mem {gone : List Client} {player : Player}
    (stays : player ∉ gone.map Client.player) :
    ofKey Event.player player (Event.departures gone) = [] := by
  apply ofKey_eq_nil
  intro event member same
  apply stays
  rw [← map_player_departures, ← same]
  exact List.mem_map_of_mem member

theorem ofKey_departures_of_mem {gone : List Client} (distinct : (gone.map Client.player).Nodup)
    {player : Player} (goes : player ∈ gone.map Client.player) :
    ofKey Event.player player (Event.departures gone) = [.left player] := by
  rcases List.mem_map.mp goes with ⟨client, member, rfl⟩
  have event : Event.left client.player ∈ Event.departures gone := List.mem_map_of_mem member
  exact ofKey_eq_singleton Event.player (by rwa [map_player_departures]) event

theorem ofKey_joined_self (player : Player) :
    ofKey Event.player player [.joined player] = [.joined player] :=
  ofKey_cons_self Event.player player rfl []

theorem ofKey_joined_of_ne {joined player : Player} (differs : joined ≠ player) :
    ofKey Event.player player [.joined joined] = [] :=
  ofKey_cons_of_ne Event.player player (show (Event.joined joined).player ≠ player from differs) []

theorem Recorded.of_pass {host : Host} {keep : Client → Bool} {visit : Client → Client}
    {before after : Server} (recorded : Recorded before)
    (visitPlayer : ∀ client, (visit client).player = client.player)
    (survivors : after.clients = (pass host keep visit).survivors before.clients)
    (passed : Passed before ((pass host keep visit).erased before.clients) after) :
    Recorded after := by
  have split := @perm_pass host keep visit visitPlayer before.clients
  rw [← survivors] at split
  change (after.players ++ _).Perm before.players at split
  generalize (pass host keep visit).erased before.clients = gone at split passed
  have distinct := split.nodup_iff.mpr before.players_nodup
  rw [List.nodup_append] at distinct
  rcases distinct with ⟨-, distinctGone, apart⟩
  have member : ∀ player, player ∈ before.players ↔
      player ∈ after.players ∨ player ∈ gone.map Client.player := fun player => by
    rw [← split.mem_iff, List.mem_append]
  refine ⟨?_, ?_, ?_⟩
  · intro player stays
    have notGone : player ∉ gone.map Client.player := fun goes => apart _ stays _ goes rfl
    rw [passed.history, ofKey_append, ofKey_departures_of_not_mem notGone, List.append_nil]
    exact recorded.present player ((member player).mpr (.inl stays))
  · intro player left
    rw [passed.history, ofKey_append]
    by_cases goes : player ∈ gone.map Client.player
    · rw [recorded.present player ((member player).mpr (.inr goes)),
        ofKey_departures_of_mem distinctGone goes]
      exact .inr rfl
    · rw [ofKey_departures_of_not_mem goes, List.append_nil]
      exact recorded.absent player fun old => ((member player).mp old).elim left goes
  · intro event eventMem
    rw [passed.history, List.mem_append] at eventMem
    rw [passed.nextAddr]
    rcases eventMem with old | departure
    · exact recorded.older event old
    · have goes : event.player ∈ gone.map Client.player := by
        rw [← map_player_departures]
        exact List.mem_map_of_mem departure
      exact addr_lt_of_mem_players ((member _).mpr (.inr goes))

theorem Recorded.pushClient {server : Server} {client : Client} (recorded : Recorded server)
    (identity : client.addr = server.roster.nextAddr) : Recorded (server.pushClient client) := by
  have shape : (server.pushClient client).players = server.players ++ [client.player] := by
    rw [players, clients_pushClient identity, List.map_append]
    rfl
  have historyEq :
      (server.pushClient client).history = server.history ++ [.joined client.player] := rfl
  have unheard : ofKey Event.player client.player server.history = [] := by
    apply ofKey_eq_nil
    intro event member same
    exact Nat.ne_of_lt (recorded.older event member) ((congrArg Player.addr same).trans identity)
  refine ⟨?_, ?_, ?_⟩
  · intro player member
    rw [historyEq, ofKey_append]
    rw [shape, List.mem_append, List.mem_singleton] at member
    rcases member with old | rfl
    · have differs : client.player ≠ player := fun same =>
        Nat.ne_of_lt (addr_lt_of_mem_players old) ((congrArg Player.addr same).symm.trans identity)
      rw [recorded.present player old, ofKey_joined_of_ne differs, List.append_nil]
    · rw [unheard, ofKey_joined_self, List.nil_append]
  · intro player absent
    rw [shape, List.mem_append, List.mem_singleton, not_or] at absent
    rw [historyEq, ofKey_append, ofKey_joined_of_ne fun same => absent.2 same.symm,
      List.append_nil]
    exact recorded.absent player absent.1
  · intro event member
    rw [historyEq, List.mem_append, List.mem_singleton] at member
    rcases member with old | rfl
    · exact Nat.lt_succ_of_lt (recorded.older event old)
    · exact Nat.lt_succ_of_le (Nat.le_of_eq identity)

/-! ## Announcements and flushes -/

section Announcement

variable (host : Host) (server : Server) (connection : Connection)

/-- The pass that announces the next player. -/
def announcement : ErasingPass Client :=
  broadcastPass host connection.isConnected .tcp (Event.joined server.nextPlayer).message.packet

theorem announced_passes :
    (server.announced host connection).clients =
        (announcement host server connection).survivors server.clients ∧
      Passed server.getNextPlayerID.2 ((announcement host server connection).erased server.clients)
        (server.announced host connection) :=
  broadcast_passes host connection.isConnected .tcp _ server.getNextPlayerID.2

variable {host server connection}

theorem perm_announced :
    ((server.announced host connection).players ++
        ((announcement host server connection).erased server.clients).map Client.player).Perm
      server.players := by
  rw [players, (announced_passes host server connection).1]
  exact perm_pass (Client.player_addPacketToQueue host .tcp _) server.clients

theorem Recorded.announced (recorded : Recorded server) :
    Recorded (server.announced host connection) := by
  have numbered : Recorded server.getNextPlayerID.2 :=
    ⟨recorded.present, recorded.absent, recorded.older⟩
  rcases announced_passes host server connection with ⟨survivors, passed⟩
  exact numbered.of_pass (Client.player_addPacketToQueue host .tcp _) survivors passed

/-- The history after an admission: the clients found disconnected, then the new
player. -/
theorem history_pushClient {client : Client} (welcomed : Welcomed host server connection client) :
    ((server.announced host connection).pushClient client).history = server.history ++
      (Event.departures ((announcement host server connection).erased server.clients) ++
        [.joined server.nextPlayer]) := by
  change (server.announced host connection).history ++ _ = _
  rw [(announced_passes host server connection).2.history, welcomed.player, List.append_assoc]
  rfl

/-- A client that stays is as it was before an admission, but for what it has
heard. -/
theorem exists_hear_of_announced {survivor : Client}
    (member : survivor ∈ (server.announced host connection).clients) :
    ∃ before client after later, server.clients = before ++ client :: after ∧
      connection.isConnected client.addr = true ∧
        (announcement host server connection).erased server.clients =
            (announcement host server connection).erased before ++ later ∧
          survivor = client.hear (Event.announce host
            (Event.departures ((announcement host server connection).erased before) ++
              [.joined server.nextPlayer] ++ Event.departures later)) := by
  rw [(announced_passes host server connection).1] at member
  obtain ⟨before, client, after, later, shape, kept, split, rfl⟩ := hears_of_mem_survivors member
  refine ⟨before, client, after, later, shape, kept, split, ?_⟩
  rw [Client.addPacketToQueue_event, Client.hear_hear, Client.hear_hear, ← Event.announce_append,
    ← Event.announce_append, ← List.append_assoc]
  rfl

/-- What a client that stays hears of an admission. -/
theorem hears_announced {survivor : Client}
    (member : survivor ∈ (server.announced host connection).clients) :
    ∃ before client after later, server.clients = before ++ client :: after ∧
      connection.isConnected client.addr = true ∧
        (announcement host server connection).erased server.clients =
            (announcement host server connection).erased before ++ later ∧
          survivor.player = client.player ∧
            survivor.tcpQueued = client.tcpQueued ++ Event.announce host
              (Event.departures ((announcement host server connection).erased before) ++
                [.joined server.nextPlayer] ++ Event.departures later) := by
  rcases exists_hear_of_announced member with
    ⟨before, client, after, later, shape, connected, split, rfl⟩
  exact ⟨before, client, after, later, shape, connected, split, rfl, rfl⟩

/-- Nobody who is kicked during an announcement is the announced player. -/
theorem nextPlayer_ne_of_mem_erased {client : Client}
    (member : client ∈ (announcement host server connection).erased server.clients) :
    server.nextPlayer ≠ client.player := by
  intro same
  have old : client.player ∈ server.players :=
    perm_announced.mem_iff.mp (List.mem_append.mpr (.inr (List.mem_map_of_mem member)))
  exact Nat.ne_of_lt (addr_lt_of_mem_players old) (congrArg Player.addr same).symm

/-- Up to the order of different players, what is heard of an announcement is what
the history records. -/
theorem samePerKey_announced {earlier later : List Event}
    (split : Event.departures ((announcement host server connection).erased server.clients) =
      earlier ++ later) :
    SamePerKey Event.player (earlier ++ [.joined server.nextPlayer] ++ later)
      (Event.departures ((announcement host server connection).erased server.clients) ++
        [.joined server.nextPlayer]) := by
  rw [split, List.append_assoc, List.append_assoc]
  apply (SamePerKey.refl _).append
  apply SamePerKey.append_comm
  intro joined joinedMem left leftMem
  rw [List.mem_singleton.mp joinedMem]
  have departs := List.mem_append.mpr (.inr leftMem : left ∈ earlier ∨ left ∈ later)
  rw [← split] at departs
  rcases List.mem_map.mp departs with ⟨client, member, rfl⟩
  exact nextPlayer_ne_of_mem_erased member

end Announcement

section Flush

variable {host : Host} {server : Server} {answers : FlushAnswers}

theorem Recorded.flushed (recorded : Recorded server) :
    Recorded (server.flushClientPacketQueues host answers) := by
  rcases flushClientPacketQueues_passes host answers server with ⟨survivors, passed⟩
  exact recorded.of_pass (player_flushed answers) survivors passed

@[simp]
theorem tcpQueued_flushed (client : Client) :
    (Server.flushed answers client).tcpQueued = client.tcpQueued := by
  simp [Server.flushed]

/-- A client that stays hears of a flush exactly what the history records. -/
theorem hears_flushed {survivor : Client}
    (member : survivor ∈ (server.flushClientPacketQueues host answers).clients) :
    ∃ client ∈ server.clients, survivor.player = client.player ∧
      survivor.tcpQueued = client.tcpQueued ++ Event.announce host
        (Event.departures ((flushPass host answers).erased server.clients)) := by
  rw [(flushClientPacketQueues_passes host answers server).1] at member
  obtain ⟨before, client, after, later, shape, -, split, rfl⟩ := hears_of_mem_survivors member
  refine ⟨client, by simp [shape], by simp, ?_⟩
  rw [flushPass, split, Event.departures_append, Event.announce_append, ← List.append_assoc]
  exact congrArg (· ++ _) (tcpQueued_flushed _)

end Flush

theorem Recorded.act {host : Host} {server after : Server} {action : Action}
    (recorded : Recorded server) (acted : act host action server = some after) :
    Recorded after := by
  refine act_invariant (fun _ _ => True) (fun _ => True) ?_ ?_ ?_ recorded ?_ ?_ acted
  · rintro server connection after recorded ⟨socket, counter, -, rfl⟩
    exact ⟨recorded.present, recorded.absent, recorded.older⟩
  · intro server connection client recorded _ _ welcomed
    exact recorded.announced.pushClient welcomed.identity
  · exact fun recorded _ => recorded.flushed
  · exact action.admissions_of_forall fun _ _ => trivial
  · exact action.flushes_of_forall fun _ => trivial

/-! ## One life each -/

theorem recorded_initial : Recorded initial :=
  ⟨by simp [initial, players, clients, Roster.empty], fun _ _ => .inl rfl,
    by simp [initial]⟩

/-- Whatever a part of the history starts with, a player's events end in one of
four ways. -/
theorem Recorded.suffix {server : Server} (recorded : Recorded server) {player : Player}
    {before since : List Event}
    (split : ofKey Event.player player server.history = before ++ since) :
    since = [] ∨ since = [.joined player] ∨ since = [.left player] ∨
      since = [.joined player, .left player] := by
  have lifetime : before ++ since = [] ∨ before ++ since = [.joined player] ∨
      before ++ since = [.joined player, .left player] := by
    rw [← split]
    by_cases present : player ∈ server.players
    · exact .inr (.inl (recorded.present player present))
    · exact (recorded.absent player present).imp id .inr
  rcases lifetime with never | joined | left
  · exact .inl (List.append_eq_nil_iff.mp never).2
  · rcases List.append_eq_singleton_iff.mp joined with ⟨-, rfl⟩ | ⟨-, rfl⟩ <;> simp
  · rcases List.append_eq_cons_iff.mp left with ⟨-, rfl⟩ | ⟨middle, -, left⟩
    · simp
    · rcases List.append_eq_singleton_iff.mp left.symm with ⟨-, rfl⟩ | ⟨-, rfl⟩ <;> simp

/-- No event happens twice. -/
theorem Recorded.history_nodup {server : Server} (recorded : Recorded server) :
    server.history.Nodup := by
  apply nodup_of_nodup_ofKey Event.player
  intro player
  have split : ofKey Event.player player server.history =
      [] ++ ofKey Event.player player server.history := rfl
  rcases recorded.suffix split with eq | eq | eq | eq <;> rw [eq] <;> simp

end LegendOfStealth.Server

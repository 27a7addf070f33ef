import LegendOfStealth.Protocol.Wire
import LegendOfStealth.Server.Delivery

/-!
# The order of membership events

A flush tells every client the same departures in the same order.  An
announcement does not: a client hears of the new player between the departures of
the clients before it and those of the clients behind it.  As long as the clients
that are found disconnected stand before or behind all others, everyone still
hears the same, and the older of two clients has heard all that the younger has.
-/

namespace LegendOfStealth.Server

open LegendOfStealth.Library LegendOfStealth.Net LegendOfStealth.Protocol

/-- Two clients have been told their common events in the same order. -/
def AgreeOnOrder (host : Host) (history : List Event) (first second : Client) : Prop :=
  ∃ log log', Told host history first log ∧ Told host history second log' ∧ SameOrder log log'

/-- No client that the announcement finds disconnected stands between two that it
finds connected. -/
def Contiguous (server : Server) (connection : Connection) : Prop :=
  ∀ first between last, [first, between, last].Sublist server.clients →
    connection.isConnected first.addr = true → connection.isConnected last.addr = true →
      connection.isConnected between.addr = true

/-- The elements before a selected one that are not selected are the first
elements of the list, if the selected ones are contiguous. -/
theorem filter_not_eq_takeWhile {α : Type} {selected : α → Bool} {before after : List α} {x : α}
    (here : selected x = true)
    (contiguous : ∀ first between last, [first, between, last].Sublist (before ++ x :: after) →
      selected first = true → selected last = true → selected between = true) :
    before.filter (fun y => !selected y) =
      (before ++ x :: after).takeWhile (fun y => !selected y) := by
  induction before with
  | nil => simp [here]
  | cons y rest ih =>
      cases chosen : selected y with
      | false =>
          have later := ih fun first between last inside =>
            contiguous first between last (inside.trans (List.sublist_cons_self _ _))
          simp [chosen, later]
      | true =>
          have noneMissing : rest.filter (fun z => !selected z) = [] := by
            rw [List.filter_eq_nil_iff]
            intro z member
            have between : [y, z, x].Sublist (y :: rest ++ x :: after) := by
              refine List.Sublist.cons_cons y ?_
              exact (List.singleton_sublist.mpr member).append
                (List.singleton_sublist.mpr List.mem_cons_self)
            simp [contiguous y z x between chosen here]
          simp [chosen, noneMissing]

section Announcement

variable {host : Host} {server : Server} {connection : Connection}

/-- The departures during an announcement are those of the disconnected. -/
theorem departures_announcement (clients : List Client) :
    Event.departures ((announcement host server connection).erased clients) =
      Event.departures (clients.filter fun client => !connection.isConnected client.addr) := by
  have gone : ((announcement host server connection).erased clients).map Client.player =
      (clients.map Client.player).filter fun player => !connection.isConnected player.addr := by
    apply ErasingPass.erased_map_key
    · intro kicked client
      exact player_hearLeave host kicked client
    · intro client
      rfl
  rw [List.filter_map] at gone
  rw [Event.departures_eq, Event.departures_eq, gone]
  rfl

/-- Under the condition all clients that stay hear the same. -/
theorem hears_alike (contiguous : server.Contiguous connection) :
    ∃ more, SamePerKey Event.player more
        (Event.departures ((announcement host server connection).erased server.clients) ++
          [.joined server.nextPlayer]) ∧
      ∀ survivor ∈ (server.announced host connection).clients,
        ∃ client ∈ server.clients, survivor.player = client.player ∧
          survivor.tcpQueued = client.tcpQueued ++ Event.announce host more := by
  let away : Client → Bool := fun client => !connection.isConnected client.addr
  let earlier := Event.departures (server.clients.takeWhile away)
  let later := Event.departures ((server.clients.dropWhile away).filter away)
  have split : Event.departures ((announcement host server connection).erased server.clients) =
      earlier ++ later := by
    rw [departures_announcement, ← Event.departures_append]
    congr 1
    conv_lhs => rw [← List.takeWhile_append_dropWhile (p := away) (l := server.clients)]
    rw [List.filter_append, List.filter_eq_self.mpr (List.all_eq_true.mp List.all_takeWhile)]
  refine ⟨earlier ++ [.joined server.nextPlayer] ++ later, samePerKey_announced split, ?_⟩
  intro survivor member
  obtain ⟨before, client, after, rest, shape, connected, erasedEq, player, queued⟩ :=
    hears_announced member
  have earlierEq : Event.departures ((announcement host server connection).erased before) =
      earlier := by
    rw [departures_announcement]
    congr 1
    have contiguous := contiguous
    rw [Contiguous, shape] at contiguous
    rw [shape]
    exact filter_not_eq_takeWhile connected contiguous
  have laterEq : Event.departures rest = later := by
    have whole := congrArg Event.departures erasedEq
    rw [Event.departures_append, earlierEq, split] at whole
    exact (List.append_cancel_left whole).symm
  rw [earlierEq, laterEq] at queued
  exact ⟨client, by simp [shape], player, queued⟩

end Announcement

/-! ## Runs -/

/-- The action only announces players under the condition. -/
def Action.Orderly (host : Host) (server : Server) (action : Action) : Prop :=
  action.Admissions host Contiguous server

/-- What the clients have been told are suffixes of one sequence of events. -/
def Agreed (host : Host) (server : Server) : Prop :=
  ∃ common : List Event, ∀ client ∈ server.clients,
    ∃ log, Told host server.history client log ∧ log <:+ common

theorem Agreed.hear {host : Host} {server : Server} (agreed : Agreed host server)
    {news more : List Event} (same : SamePerKey Event.player more news) :
    ∃ common : List Event, ∀ client ∈ server.clients, ∀ survivor : Client,
      survivor.player = client.player →
        survivor.tcpQueued = client.tcpQueued ++ Event.announce host more →
          ∃ log, Told host (server.history ++ news) survivor log ∧ log <:+ common := by
  rcases agreed with ⟨common, agreed⟩
  refine ⟨common ++ more, ?_⟩
  intro client member survivor player queued
  rcases agreed client member with ⟨log, told, missed, rfl⟩
  exact ⟨log ++ more, told.hear same player queued, missed, by simp⟩

theorem Agreed.act {host : Host} {server after : Server} {action : Action}
    (agreed : Agreed host server) (orderly : action.Orderly host server)
    (acted : act host action server = some after) : Agreed host after := by
  refine act_invariant Contiguous (fun _ => True) ?_ ?_ ?_ agreed orderly
    (action.flushes_of_forall fun _ => trivial) acted
  · rintro server connection after agreed ⟨socket, counter, -, rfl⟩
    exact agreed
  · intro server connection client agreed contiguous _ welcomed
    rcases hears_alike contiguous with ⟨more, same, alike⟩
    rcases agreed.hear same with ⟨common, informed⟩
    refine ⟨common, ?_⟩
    intro survivor member
    rw [clients_pushClient welcomed.identity, List.mem_append, List.mem_singleton] at member
    rcases member with stays | rfl
    · rcases alike survivor stays with ⟨old, oldMem, player, queued⟩
      rw [history_pushClient welcomed]
      exact informed old oldMem survivor player queued
    · exact ⟨[], told_welcomed welcomed, List.nil_suffix⟩
  · intro server answers agreed _
    rcases agreed.hear (.refl _) with ⟨common, informed⟩
    refine ⟨common, ?_⟩
    intro survivor member
    rcases hears_flushed member with ⟨old, oldMem, player, queued⟩
    rw [(flushClientPacketQueues_passes host answers server).2.history]
    exact informed old oldMem survivor player queued

theorem Told.nodup {host : Host} {history log : List Event} {client : Client}
    (told : Told host history client log) (distinct : history.Nodup) : log.Nodup := by
  rcases told with ⟨⟨before, since, rfl, same⟩, -⟩
  rw [List.nodup_append, List.nodup_cons] at distinct
  exact same.nodup distinct.2.1.2

/-- In every run in which all players are announced under the condition, any two
clients have been told their common events in the same order. -/
theorem agreeOnOrder_of_orderly {host : Host} {server : Server}
    (reached : Reachable (act host) (fun server action => action.Orderly host server) initial
      server) :
    ∀ first ∈ server.clients, ∀ second ∈ server.clients,
      AgreeOnOrder host server.history first second := by
  have invariant : Recorded server ∧ Agreed host server := by
    induction reached with
    | start =>
        exact ⟨recorded_initial, [], fun client member => absurd member List.not_mem_nil⟩
    | next _ orderly acted ih => exact ⟨ih.1.act acted, ih.2.act orderly acted⟩
  rcases invariant with ⟨recorded, common, agreed⟩
  intro first firstMem second secondMem
  rcases agreed first firstMem with ⟨log, told, suffix⟩
  rcases agreed second secondMem with ⟨log', told', suffix'⟩
  exact ⟨log, log', told, told', .of_common_suffix suffix suffix'
    (told.nodup recorded.history_nodup) (told'.nodup recorded.history_nodup)⟩

/-- Nobody is found disconnected while the two players join. -/
theorem orderly_bothJoining : bothJoining.Orderly .littleEndian initial :=
  ⟨fun _ _ _ _ _ _ _ => rfl, fun _ _ => ⟨fun _ _ _ _ _ _ _ => rfl, fun _ _ => trivial⟩⟩

/-- Two players who join in one call agree. -/
theorem agreeOnOrder_joining :
    ∃ (server : Server) (first second : Client), server.clients = [first, second] ∧
      AgreeOnOrder .littleEndian server.history first second :=
  ⟨(act .littleEndian bothJoining initial).get (by decide), _, _, rfl,
    agreeOnOrder_of_orderly (.next .start orderly_bothJoining (Option.some_get _).symm)
      _ (by decide) _ (by decide)⟩

/-! ## A departure between two clients -/

/-- The packets that announce events determine what they announce. -/
theorem map_message_of_announce_eq {first second : List Event}
    (same : Event.announce .littleEndian first = Event.announce .littleEndian second) :
    first.map Event.message = second.map Event.message := by
  apply ConcretePacket.messages_eq_of_flatMap_eq
  rw [List.flatMap_map, List.flatMap_map]
  exact same

/-- If the recorded events have different packets, the queued bytes determine
what a client has been told. -/
theorem Told.log_eq {history log expected : List Event} {client : Client}
    (told : Told .littleEndian history client log)
    (distinct : ∀ event ∈ history, ∀ other ∈ history, event.message = other.message →
      event = other)
    (recorded : ∀ event ∈ expected, event ∈ history)
    (queued : client.tcpQueued = Event.announce .littleEndian expected) : log = expected := by
  rcases told with ⟨⟨before, since, shape, same⟩, queued'⟩
  have recorded' : ∀ event ∈ log, event ∈ history := by
    intro event member
    rw [shape]
    simp [same.mem_iff.mp member]
  have messages := map_message_of_announce_eq (queued'.symm.trans queued)
  clear shape same queued queued'
  induction log generalizing expected with
  | nil => simpa using messages.symm
  | cons event rest ih =>
      cases expected with
      | nil => simp at messages
      | cons event' rest' =>
          simp only [List.map_cons, List.cons.injEq] at messages
          rw [distinct event (recorded' event List.mem_cons_self) event'
            (recorded event' List.mem_cons_self) messages.1]
          rw [ih (fun e member => recorded e (List.mem_cons_of_mem _ member))
            (fun e member => recorded' e (List.mem_cons_of_mem _ member)) messages.2]

/-- Three players join; then a fourth joins while the second is found
disconnected. -/
def leavingBetween : Action :=
  .handleNewTCPConnections [.joining 7 fun _ => true, .joining 8 fun _ => true,
    .joining 9 fun _ => true, .joining 10 fun addr => addr != 1]

/-- The first player hears of the fourth before it hears of the second's
departure, the third player after. -/
theorem not_agreeOnOrder_leavingBetween :
    ¬ ∀ (host : Host) (server : Server), Reachable (act host) (fun _ _ => True) initial server →
      ∀ first ∈ server.clients, ∀ second ∈ server.clients,
        AgreeOnOrder host server.history first second := by
  intro claimed
  let server := (act .littleEndian leavingBetween initial).get (by decide)
  have reached : Reachable (act .littleEndian) (fun _ _ => True) initial server :=
    .next .start trivial (Option.some_get _).symm
  have distinct : ∀ event ∈ server.history, ∀ other ∈ server.history,
      event.message = other.message → event = other := by decide
  obtain ⟨log, log', told, told', agree⟩ := claimed .littleEndian server reached
    (server.clients.get ⟨0, by decide⟩) (List.get_mem ..)
    (server.clients.get ⟨1, by decide⟩) (List.get_mem ..)
  have logEq : log = [.joined ⟨1, 2, .spy⟩, .joined ⟨2, 3, .merc⟩, .joined ⟨3, 4, .spy⟩,
      .left ⟨1, 2, .spy⟩] := told.log_eq distinct (by decide) (by decide)
  have logEq' : log' = [.left ⟨1, 2, .spy⟩, .joined ⟨3, 4, .spy⟩] :=
    told'.log_eq distinct (by decide) (by decide)
  rw [logEq, logEq'] at agree
  revert agree
  decide

end LegendOfStealth.Server

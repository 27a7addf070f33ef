import LegendOfStealth.Server.Ledger

/-!
# Team balance

The next player's team is the smaller one when the player is let in.  Only after
that does the announcement kick the clients that it finds disconnected, so the
teams that the choice compared are not the teams that the player ends up in.
-/

namespace LegendOfStealth.Server

open LegendOfStealth.Library LegendOfStealth.Net LegendOfStealth.Protocol

/-- The number of players on a team. -/
def onTeam (team : Team) (players : List Player) : Nat :=
  players.countP fun player => player.team = team

/-- The number of players on the other team. -/
def offTeam (team : Team) (players : List Player) : Nat :=
  players.countP fun player => player.team ≠ team

@[simp]
theorem onTeam_append (team : Team) (first second : List Player) :
    onTeam team (first ++ second) = onTeam team first + onTeam team second :=
  List.countP_append ..

@[simp]
theorem offTeam_append (team : Team) (first second : List Player) :
    offTeam team (first ++ second) = offTeam team first + offTeam team second :=
  List.countP_append ..

theorem offTeam_spy (players : List Player) : offTeam .spy players = onTeam .merc players := by
  apply List.countP_congr
  intro player _
  cases player.team <;> simp

theorem offTeam_merc (players : List Player) : offTeam .merc players = onTeam .spy players := by
  apply List.countP_congr
  intro player _
  cases player.team <;> simp

/-- `TeamCounts` counts the players of either team. -/
theorem teamCounts_eq (server : Server) :
    server.teamCounts = (onTeam .merc server.players, onTeam .spy server.players) := by
  have start : (onTeam .merc server.players, onTeam .spy server.players) =
      ((0, 0).1 + onTeam .merc server.players, (0, 0).2 + onTeam .spy server.players) := by
    simp
  rw [start, teamCounts, players]
  -- The counts accumulate, so the induction is over any counts to start from.
  generalize server.clients = clients
  generalize ((0, 0) : Nat × Nat) = counts
  induction clients generalizing counts with
  | nil => simp [onTeam]
  | cons client rest ih =>
      rw [List.foldl_cons, ih]
      cases team : client.team <;>
        simp [onTeam, Client.player, team] <;> omega

/-- The next player's team is not the larger one. -/
theorem onTeam_getTeamForNextPlayer (server : Server) :
    onTeam server.getTeamForNextPlayer server.players ≤
      offTeam server.getTeamForNextPlayer server.players := by
  rw [getTeamForNextPlayer, teamCounts_eq]
  simp only
  split
  · rw [offTeam_spy]
    omega
  · rw [offTeam_merc]
    omega

/-! ## Balance -/

/-- The clients that the announcement finds disconnected. -/
def disconnected (connection : Connection) (server : Server) : List Player :=
  server.players.filter fun player => !connection.isConnected player.addr

/-- The announcement of the next player takes no more clients from the other team,
beyond those that it takes from the player's own, than the other team was ahead. -/
def KeepsLead (server : Server) (connection : Connection) : Prop :=
  offTeam server.getTeamForNextPlayer (server.disconnected connection) +
      onTeam server.getTeamForNextPlayer server.players ≤
    onTeam server.getTeamForNextPlayer (server.disconnected connection) +
      offTeam server.getTeamForNextPlayer server.players

instance (server : Server) (connection : Connection) : Decidable (server.KeepsLead connection) :=
  inferInstanceAs (Decidable (_ ≤ _))

/-- When the announcement finds everybody connected, the lead is kept. -/
theorem keepsLead_of_connected {server : Server} {connection : Connection}
    (connected : ∀ player ∈ server.players, connection.isConnected player.addr = true) :
    server.KeepsLead connection := by
  have nobody : server.disconnected connection = [] := by
    rw [disconnected, List.filter_eq_nil_iff]
    intro player member
    simp [connected player member]
  rw [KeepsLead, nobody]
  simpa [onTeam, offTeam] using onTeam_getTeamForNextPlayer server

/-- The lead is kept exactly when the player's team is not the larger one among those
that the announcement finds connected. -/
theorem keepsLead_iff (host : Host) (server : Server) (connection : Connection) :
    server.KeepsLead connection ↔
      onTeam server.getTeamForNextPlayer (server.announced host connection).players ≤
        offTeam server.getTeamForNextPlayer (server.announced host connection).players := by
  have split : ∀ p : Player → Bool, server.players.countP p =
      (server.announced host connection).players.countP p +
        (server.disconnected connection).countP p := by
    intro p
    have staying : (server.announced host connection).players =
        server.players.filter fun player => connection.isConnected player.addr :=
      players_announced host server connection
    rw [staying]
    exact List.countP_eq_countP_filter_add _ p fun player => connection.isConnected player.addr
  rw [KeepsLead, onTeam, onTeam, offTeam, offTeam, split, split, onTeam, offTeam]
  omega

namespace Ledger

open Move (joins)

/-- Right after a player was appended its team is at most one ahead of the other. -/
def Balanced (ledger : Ledger) : Prop :=
  ∀ player, ledger.newest = some player →
    onTeam player.team ledger.server.players ≤ offTeam player.team ledger.server.players + 1

/-- A move leaves the teams balanced exactly when its admission, if it makes one,
keeps the lead. -/
theorem balanced_iff {host : Host} {move : Move} {before after : Ledger}
    (advanced : advance host move before = some after) :
    after.Balanced ↔ move.action.Admissions host KeepsLead before.server := by
  rcases advance_cases advanced with ⟨connection, -, recorded, unconditional⟩ |
    ⟨connection, client, -, welcomed, pushed, recorded, admissions⟩ | ⟨answers, rfl, -, recorded⟩
  · have nobody : after.newest = none := by rw [recorded]; rfl
    exact ⟨fun _ => unconditional KeepsLead, fun _ player newest => by simp [nobody] at newest⟩
  · have newest : after.newest = some before.server.nextPlayer := by
      rw [recorded]
      simp [record, appended]
    have shape : after.server.players =
        (before.server.announced host connection).players ++ [before.server.nextPlayer] := by
      rw [pushed, players, clients_pushClient welcomed.identity, List.map_append, players,
        ← welcomed.player]
      rfl
    have own : onTeam before.server.getTeamForNextPlayer [before.server.nextPlayer] = 1 := by
      simp [onTeam, nextPlayer]
    have other : offTeam before.server.getTeamForNextPlayer [before.server.nextPlayer] = 0 := by
      simp [offTeam, nextPlayer]
    rw [admissions KeepsLead, keepsLead_iff host, Balanced, newest]
    simp only [Option.some.injEq, forall_eq']
    rw [shape, show before.server.nextPlayer.team = before.server.getTeamForNextPlayer from rfl,
      onTeam_append, offTeam_append, own, other]
    omega
  · have nobody : after.newest = none := by
      rw [recorded, Event.departures_eq]
      exact appended_left _
    exact ⟨fun _ => trivial, fun _ player newest => by simp [nobody] at newest⟩

/-- Team balance: in every run in which each announcement keeps the lead, the teams
are balanced whenever a player has been appended.  After any run, a move unbalances
them exactly when its announcement does not keep the lead. -/
theorem balanced_of_keepsLead (host : Host) :
    (∀ ledger, Reachable (advance host)
      (fun ledger move => move.action.Admissions host KeepsLead ledger.server) initial ledger →
        ledger.Balanced) ∧
      ∀ before move after, Reachable (advance host) (fun _ _ => True) initial before →
        advance host move before = some after →
          (after.Balanced ↔ move.action.Admissions host KeepsLead before.server) := by
  constructor
  · intro ledger reached
    cases reached with
    | start => exact fun player newest => by simp [initial] at newest
    | next _ keeps advanced => exact (balanced_iff advanced).mpr keeps
  · intro before move after _ advanced
    exact balanced_iff advanced

theorem keepsLead_joins (host : Host) (server : Server) (port : Dword) :
    (joins port).action.Admissions host KeepsLead server :=
  ⟨fun _ => keepsLead_of_connected fun _ _ => rfl, fun _ _ => trivial⟩

/-- The third of three such players leaves the teams balanced, and so does a fourth
one. -/
theorem balanced_of_keepsLead_joins :
    ∃ ledger, ledger.newest = some ⟨2, 3, .merc⟩ ∧ ledger.Balanced ∧
      ∀ after, advance .littleEndian (joins 10) ledger = some after →
        (after.Balanced ↔
          (joins 10).action.Admissions .littleEndian KeepsLead ledger.server) := by
  refine ⟨(runActions (advance .littleEndian) [joins 7, joins 8, joins 9] initial).get
    (by decide), by decide, ?_, ?_⟩
  · refine (balanced_of_keepsLead .littleEndian).1 _
      (.run ?_ .start (Option.some_get (by decide)).symm)
    intro move member ledger
    simp only [List.mem_cons, List.not_mem_nil, or_false] at member
    rcases member with rfl | rfl | rfl <;> exact keepsLead_joins _ _ _
  · intro after advanced
    exact (balanced_of_keepsLead .littleEndian).2 _ _ after
      (.run (fun _ _ _ => trivial) .start (Option.some_get (by decide)).symm) advanced

/-- Two players join; the second is found disconnected while the third is
announced, and the third is on the team of the first. -/
theorem not_balanced_secondLeaves :
    ¬ ∀ (host : Host) (ledger : Ledger),
      Reachable (advance host) (fun _ _ => True) initial ledger → ledger.Balanced := by
  intro claimed
  let third : Move := .handleConnection (.joining 9 fun addr => addr != 1)
  have balanced := claimed .littleEndian
    ((runActions (advance .littleEndian) [joins 7, joins 8, third] initial).get (by decide))
    (.run (fun _ _ _ => trivial) .start (Option.some_get _).symm) ⟨2, 3, .merc⟩ (by decide)
  revert balanced
  decide

end Ledger

end LegendOfStealth.Server

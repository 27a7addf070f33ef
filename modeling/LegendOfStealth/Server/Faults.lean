import LegendOfStealth.Server.Loop

/-!
# Faults while a connection is set up

The other exits of `AcceptNewClient` end with the connection at hand.  A failed
call in a constructor does not: nothing between the constructors and
`ServerLoop` catches an exception, and a failed `SDLNet_UDP_Open` is used as if
it had succeeded.
-/

namespace LegendOfStealth.Server

open LegendOfStealth.Library LegendOfStealth.Net LegendOfStealth.Protocol

/-- No failure to set up one of the pending connections reaches beyond it: all
are handled, the loop goes on, and only clients found disconnected have left. -/
structure IsolatesFaults (host : Host) (pending : List Connection) (server : Server) : Prop where
  returns : Succeeds (server.handleNewTCPConnections host pending)
  keeps : ∀ after, server.handleNewTCPConnections host pending = .ok after →
    ∀ client ∈ server.clients,
      (∀ connection ∈ pending, connection.isConnected client.addr = true) →
        client.player ∈ after.clients.map Client.player
  loops : ∀ turn : Turn, turn.pending = pending → Succeeds (server.serverLoopPass host turn)

/-- A player whom the announcement of the next one finds connected stays. -/
theorem mem_players_of_handleConnection {host : Host} {connection : Connection}
    {before after : Server} {player : Player}
    (member : player ∈ before.clients.map Client.player)
    (connected : connection.isConnected player.addr = true)
    (handled : before.handleConnection host connection = .ok after) :
    player ∈ after.clients.map Client.player := by
  rcases handleConnection_cases handled with
    ⟨-, rfl⟩ | ⟨-, -, socket, counter, -, rfl⟩ | ⟨-, client, welcomed, rfl⟩
  · exact member
  · exact member
  · rw [clients_pushClient welcomed.identity, List.map_append, players_announced, List.mem_append]
    exact .inl (List.mem_filter.mpr ⟨member, connected⟩)

/-- A pass of the loop fails only where the handling of the connections does. -/
theorem succeeds_serverLoopPass {host : Host} {server : Server} {turn : Turn}
    (returns : Succeeds (server.handleNewTCPConnections host turn.pending)) :
    Succeeds (server.serverLoopPass host turn) := by
  rcases returns with ⟨handled, eq⟩
  unfold serverLoopPass
  split
  · exact ⟨_, rfl⟩
  · exact ⟨_, bind_eq_ok_iff.mpr ⟨handled, eq, rfl⟩⟩

/-- Faults are isolated exactly when there are none: every call that sets up a
pending connection succeeds. -/
theorem isolatesFaults_iff (host : Host) (pending : List Connection) (server : Server) :
    IsolatesFaults host pending server ↔
      Along (handleConnection host) SetupSucceeds pending server := by
  constructor
  · intro isolates
    exact (succeeds_foldlM_iff.mp isolates.returns).mono fun _ _ =>
      succeeds_handleConnection_iff.mp
  · intro setup
    have returns : Succeeds (server.handleNewTCPConnections host pending) :=
      succeeds_foldlM_iff.mpr (setup.mono fun _ _ => succeeds_handleConnection_iff.mpr)
    refine ⟨returns, ?_, ?_⟩
    · intro after handled client member connected
      exact foldlM_invariant
        (fun member connected handled => mem_players_of_handleConnection member connected handled)
        (List.mem_map_of_mem member) (along_of_forall connected server) handled
    · rintro turn rfl
      exact succeeds_serverLoopPass returns

/-- Neither a TCP socket that cannot be added to its set nor a UDP socket that
cannot be opened stays the fault of one connection. -/
theorem not_isolatesFaults :
    ¬ IsolatesFaults .littleEndian
        [{ Connection.joining 7 fun _ => true with tcpAddSocket := false }] initial ∧
      ¬ IsolatesFaults .littleEndian
        [{ Connection.joining 7 fun _ => true with udpOpen := none }] initial := by
  constructor
  · intro isolates
    rcases isolates.returns with ⟨after, handled⟩
    cases handled
  · intro isolates
    rcases isolates.returns with ⟨after, handled⟩
    cases handled

end LegendOfStealth.Server

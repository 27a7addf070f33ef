import LegendOfStealth.Server.Ledger
import Mathlib.Data.List.Flatten

/-!
# Open handles

The listener hands a connection over to a `Socket`, the `Socket` goes to a
`Client`, and whoever gives it up deletes it.  `~Socket` frees the socket set;
nothing closes the handle.  So handles that nobody owns any more stay open, and
the books are right only as long as nobody is turned away or kicked.
-/

namespace LegendOfStealth.Server

open LegendOfStealth.Library LegendOfStealth.Net LegendOfStealth.Protocol

/-- What is open: the listener's socket, the server's UDP socket, a connection, or
the UDP socket of a client. -/
inductive Handle where
  | listener
  | server
  | tcp (handle : Nat)
  | udp (handle : Nat)
  deriving DecidableEq, Repr

/-- The handles of a client's two sockets. -/
def Client.handles (client : Client) : List Handle :=
  [.tcp client.tcpSocket.handle, .udp client.udpSocket.handle]

/-- The server, the connections waiting in `_newConnections`, and every handle that
has been opened and not closed.  No function closes one. -/
structure Accounts where
  server : Server
  waiting : List Nat
  opened : List Handle

/-- What happens to handles: the listener accepts a connection, the server handles
the oldest one that waits, or it flushes the queues. -/
inductive Operation where
  | accept (handle : Nat)
  | handleConnection (connection : Connection)
  | flushClientPacketQueues (answers : FlushAnswers)

theorem handles_notify (host : Host) (kicked client : Client) :
    (hearLeave host kicked client).handles = client.handles :=
  rfl

theorem handles_flushed (answers : FlushAnswers) (client : Client) :
    (flushed answers client).handles = client.handles := by
  simp only [flushed, Client.sendPacketQueue]
  split <;> split <;> rfl

/-- The UDP socket that a connection gets is around the handle that was opened. -/
theorem Connection.handle_newSocketUDP {connection : Connection} {udpSocket : Socket}
    (made : connection.newSocketUDP = .ok udpSocket) :
    connection.udpOpen = some udpSocket.handle := by
  simp only [newSocketUDP, bind_eq_ok_iff, createUDP] at made
  rcases made with ⟨_, -, handle, opened, -, -, -, -, built⟩
  cases built
  split at opened
  · contradiction
  · rename_i answered
    cases opened
    exact answered

/-- A handled connection leaves the clients alone, or it is admitted, and then its
client owns its handle and the UDP socket that was opened for it. -/
theorem handles_handleConnection {host : Host} {connection : Connection} {server after : Server}
    (handled : server.handleConnection host connection = .ok after) :
    (¬ server.Admits host connection ∧ after.clients = server.clients) ∨
      (server.Admits host connection ∧ ∃ client udp,
        connection.udpOpen = some udp ∧ client.handles = [.tcp connection.handle, .udp udp] ∧
          after.clients = (server.announced host connection).clients ++ [client]) := by
  by_cases admits : server.Admits host connection
  · refine .inr ⟨admits, ?_⟩
    rcases admits with ⟨room, requests, responds⟩
    rcases bind_eq_ok_iff.mp handled with ⟨socket, made, handled⟩
    rcases Connection.getNewSocket_eq_ok_iff.mp made with ⟨-, rfl⟩
    rw [if_pos (hasRoom_iff.mpr room)] at handled
    rcases acceptNewClient_of_requests requests with ⟨port, eq⟩
    rcases bind_eq_ok_iff.mp (eq.symm.trans handled) with ⟨client, built, responded⟩
    rcases newClient_eq_ok_iff.mp built with ⟨udpSocket, opened, clientEq⟩
    cases responded
    have player : client.player = server.nextPlayer := by rw [clientEq]; rfl
    have sent : (client.sendJoinResponsePacket host connection.send).1 = true := by
      rw [Client.fst_sendJoinResponsePacket, player]
      simpa [Responds] using responds
    have pushed : server.getNextPlayerID.2.respondTo host connection client =
        (server.announced host connection).pushClient
          (client.sendJoinResponsePacket host connection.send).2 := by
      simp only [respondTo, sent, player]
      rfl
    have identity : (client.sendJoinResponsePacket host connection.send).2.addr =
        (server.announced host connection).roster.nextAddr := by
      rw [nextAddr_announced]
      exact congrArg Player.addr player
    refine ⟨(client.sendJoinResponsePacket host connection.send).2, udpSocket.handle,
      Connection.handle_newSocketUDP opened, ?_, ?_⟩
    · have tcp : client.tcpSocket.handle = connection.handle := by
        rw [clientEq]
        exact (connection.receive connection.socket).handle
      rw [← tcp, clientEq]
      rfl
    · rw [pushed, clients_pushClient identity]
  · refine .inl ⟨admits, ?_⟩
    exact (handled_of_handleConnection handled).untouched admits

theorem handles_pass {host : Host} {keep : Client → Bool} {visit : Client → Client}
    (visitHandles : ∀ client, (visit client).handles = client.handles) (clients : List Client) :
    (((pass host keep visit).survivors clients).flatMap Client.handles).Sublist
      (clients.flatMap Client.handles) := by
  rw [List.flatMap_def, List.flatMap_def]
  apply List.Sublist.flatten
  exact ErasingPass.survivors_sublist visitHandles (handles_notify host) clients

theorem handles_announced (host : Host) (server : Server) (connection : Connection) :
    ((server.announced host connection).clients.flatMap Client.handles).Sublist
      (server.clients.flatMap Client.handles) := by
  rw [(announced_passes host server connection).1]
  apply handles_pass
  exact fun _ => rfl

/-- Nobody is kicked during an announcement exactly when everybody is found
connected. -/
theorem length_announced (host : Host) (server : Server) (connection : Connection) :
    (server.announced host connection).clients.length ≤ server.clients.length ∧
      ((server.announced host connection).clients.length = server.clients.length ↔
        ∀ client ∈ server.clients, connection.isConnected client.addr = true) := by
  have stays := congrArg List.length (players_announced host server connection)
  rw [List.length_map] at stays
  have asMany : server.clients.length = (server.clients.map Client.player).length :=
    (List.length_map ..).symm
  rw [stays, asMany]
  constructor
  · exact List.length_filter_le ..
  · rw [List.length_filter_eq_length_iff, List.forall_mem_map]
    rfl

theorem handles_flushClientPacketQueues (host : Host) (answers : FlushAnswers)
    (server : Server) :
    ((server.flushClientPacketQueues host answers).clients.flatMap Client.handles).Sublist
      (server.clients.flatMap Client.handles) := by
  rw [(flushClientPacketQueues_passes host answers server).1]
  exact handles_pass (handles_flushed answers) server.clients

/-- Nobody is kicked during a flush exactly when everybody is connected and can be
sent to. -/
theorem length_flushClientPacketQueues (host : Host) (answers : FlushAnswers)
    (server : Server) :
    (server.flushClientPacketQueues host answers).clients.length ≤ server.clients.length ∧
      ((server.flushClientPacketQueues host answers).clients.length = server.clients.length ↔
        ∀ client ∈ server.clients, flushes answers client = true) := by
  have split := (@perm_pass host (flushes answers) _ (player_flushed answers)
    server.clients).length_eq
  simp only [List.length_append, List.length_map] at split
  rw [(flushClientPacketQueues_passes host answers server).1]
  change ((flushPass host answers).survivors server.clients).length +
    ((flushPass host answers).erased server.clients).length = _ at split
  have nobody : ((flushPass host answers).erased server.clients).length = 0 ↔
      ∀ client ∈ server.clients, flushes answers client = true :=
    List.length_eq_zero_iff.trans (flushPass host answers).erased_eq_nil_iff
  rw [← nobody]
  omega

namespace Accounts

/-- The handles of the server's own sockets, of the connections that wait, and of the
clients. -/
def owned (accounts : Accounts) : List Handle :=
  [.listener, .server] ++ accounts.waiting.map .tcp ++
    accounts.server.clients.flatMap Client.handles

/-- The UDP socket that `SDLNet_UDP_Open` opens while a connection is handled. -/
def udpOpened (server : Server) (connection : Connection) : List Handle :=
  if server.HasRoom ∧ connection.Requests then connection.udpOpen.toList.map .udp else []

/-- Operations.  A handle that is opened is not one that is open. -/
def operate (host : Host) : Step Operation Accounts
  | .accept handle, accounts =>
      if .tcp handle ∈ accounts.opened then none
      else some { accounts with
        waiting := accounts.waiting ++ [handle]
        opened := accounts.opened ++ [.tcp handle] }
  | .handleConnection connection, accounts =>
      match accounts.waiting with
      | [] => none
      | handle :: rest =>
          if connection.handle = handle ∧
              ∀ new ∈ udpOpened accounts.server connection, new ∉ accounts.opened then
            (accounts.server.handleConnection host connection).toOption.map fun after =>
              ⟨after, rest, accounts.opened ++ udpOpened accounts.server connection⟩
          else none
  | .flushClientPacketQueues answers, accounts =>
      some { accounts with
        server := accounts.server.flushClientPacketQueues host answers }

/-- The server when `ServerLoop` starts. -/
def initial : Accounts :=
  ⟨Server.initial, [], [.listener, .server]⟩

/-- The open handles are those that are owned; a connection that neither waits nor
belongs to a client is closed. -/
structure Accounted (accounts : Accounts) : Prop where
  exact : ∀ handle, handle ∈ accounts.opened ↔ handle ∈ accounts.owned
  closed : ∀ handle, handle ∉ accounts.waiting →
    (∀ client ∈ accounts.server.clients, client.tcpSocket.handle ≠ handle) →
      .tcp handle ∉ accounts.opened

/-- Nobody loses a connection: the one that is handled is admitted while everybody is
found connected, and a flush finds everybody connected and sends every queue. -/
def Retains (host : Host) (accounts : Accounts) : Operation → Prop
  | .accept _ => True
  | .handleConnection connection =>
      accounts.server.Admits host connection ∧
        ∀ client ∈ accounts.server.clients, connection.isConnected client.addr = true
  | .flushClientPacketQueues answers =>
      ∀ client ∈ accounts.server.clients, flushes answers client = true

/-! ## Accounting -/

/-- Every handle is opened once, and nothing that is owned has been closed. -/
structure Tracked (accounts : Accounts) : Prop where
  nodup : accounts.opened.Nodup
  owned : ∀ handle, accounts.owned.count handle ≤ accounts.opened.count handle

theorem count_owned (accounts : Accounts) (handle : Handle) :
    accounts.owned.count handle = [Handle.listener, .server].count handle +
      (accounts.waiting.map Handle.tcp).count handle +
        (accounts.server.clients.flatMap Client.handles).count handle := by
  rw [owned, List.count_append, List.count_append]

theorem length_owned (accounts : Accounts) :
    accounts.owned.length =
      2 + accounts.waiting.length + 2 * accounts.server.clients.length := by
  have two : ∀ clients : List Client, (clients.flatMap Client.handles).length =
      2 * clients.length := by
    intro clients
    induction clients with
    | nil => rfl
    | cons client rest ih =>
        rw [List.flatMap_cons, List.length_append, ih, List.length_cons]
        change 2 + _ = _
        omega
  simp only [owned, List.length_append, List.length_map, two, List.length_cons, List.length_nil]

theorem Tracked.subperm {accounts : Accounts} (tracked : Tracked accounts) :
    accounts.owned.Subperm accounts.opened :=
  List.subperm_ext_iff.mpr fun handle _ => tracked.owned handle

/-- The books are right exactly when as many handles are owned as are open. -/
theorem accounted_iff {accounts : Accounts} (tracked : Tracked accounts) :
    Accounted accounts ↔ accounts.opened.length ≤ accounts.owned.length := by
  constructor
  · intro accounted
    have subset : accounts.opened ⊆ accounts.owned := fun handle =>
      (accounted.exact handle).mp
    exact (List.subperm_of_subset tracked.nodup subset).length_le
  · intro enough
    have perm := tracked.subperm.perm_of_length_le enough
    refine ⟨fun handle => perm.mem_iff.symm, ?_⟩
    intro handle notWaiting notClient isOpen
    rcases List.mem_append.mp (perm.mem_iff.mpr isOpen) with first | ofClient
    · rcases List.mem_append.mp first with ofServer | waits
      · simp at ofServer
      · rcases List.mem_map.mp waits with ⟨other, member, same⟩
        cases same
        exact notWaiting member
    · rcases List.mem_flatMap.mp ofClient with ⟨client, member, itsHandle⟩
      simp only [Client.handles, List.mem_cons, Handle.tcp.injEq, reduceCtorEq, List.not_mem_nil,
        or_false] at itsHandle
      exact notClient client member itsHandle.symm

theorem handleConnection_cases {host : Host} {accounts after : Accounts}
    {connection : Connection}
    (operated : operate host (.handleConnection connection) accounts = some after) :
    ∃ rest, accounts.waiting = connection.handle :: rest ∧ after.waiting = rest ∧
      after.opened = accounts.opened ++ udpOpened accounts.server connection ∧
      (∀ new ∈ udpOpened accounts.server connection, new ∉ accounts.opened) ∧
      accounts.server.handleConnection host connection = .ok after.server := by
  rw [operate] at operated
  split at operated
  · contradiction
  · rename_i handle rest waiting
    split at operated
    · rename_i taken
      rcases Option.map_eq_some_iff.mp operated with ⟨server, handled, rfl⟩
      exact ⟨rest, taken.1 ▸ waiting, rfl, rfl, taken.2, toOption_eq_some_iff.mp handled⟩
    · contradiction

theorem Tracked.accept {host : Host} {accounts after : Accounts} {handle : Nat}
    (tracked : Tracked accounts) (operated : operate host (.accept handle) accounts = some after) :
    Tracked after := by
  rw [Accounts.operate] at operated
  split at operated
  · contradiction
  rename_i new
  cases operated
  constructor
  · rw [List.nodup_append]
    refine ⟨tracked.nodup, List.nodup_singleton _, ?_⟩
    intro old member other otherMem same
    rw [List.mem_singleton.mp otherMem] at same
    exact new (same ▸ member)
  · intro other
    have before := tracked.owned other
    simp only [count_owned, List.map_append, List.count_append, List.map_cons, List.map_nil]
      at before ⊢
    omega

/-- A handle that has waited goes to a client, with the handle that is opened for it, or
nobody owns it any more. -/
theorem Tracked.handleConnection {host : Host} {accounts after : Accounts}
    {connection : Connection} (tracked : Tracked accounts)
    (operated : operate host (.handleConnection connection) accounts = some after) :
    Tracked after := by
  rcases handleConnection_cases operated with ⟨rest, waiting, waiting', opened, fresh, handled⟩
  constructor
  · rw [opened, List.nodup_append]
    refine ⟨tracked.nodup, ?_, ?_⟩
    · unfold udpOpened
      split
      · cases connection.udpOpen <;> simp
      · exact List.nodup_nil
    · intro old member other otherMem same
      exact fresh other otherMem (same ▸ member)
  · intro handle
    have before := tracked.owned handle
    rw [count_owned, waiting, List.map_cons, List.count_cons (b := Handle.tcp connection.handle)]
      at before
    rw [count_owned, waiting', opened, List.count_append]
    rcases handles_handleConnection handled with
      ⟨-, same⟩ | ⟨admits, client, udp, udpOpen, handles, clients⟩
    · rw [same]
      omega
    · have new : udpOpened accounts.server connection = [.udp udp] := by
        rw [udpOpened, if_pos ⟨admits.1, admits.2.1⟩, udpOpen]
        rfl
      have fewer := (handles_announced host accounts.server connection).count_le handle
      rw [clients, List.flatMap_append, List.count_append, List.flatMap_singleton, handles, new,
        List.count_cons (b := Handle.tcp connection.handle)]
      omega

theorem Tracked.operate {host : Host} {accounts after : Accounts} {operation : Operation}
    (tracked : Tracked accounts) (operated : operate host operation accounts = some after) :
    Tracked after := by
  cases operation with
  | accept handle => exact tracked.accept operated
  | handleConnection connection => exact tracked.handleConnection operated
  | flushClientPacketQueues answers =>
      cases operated
      refine ⟨tracked.nodup, ?_⟩
      intro handle
      have before := tracked.owned handle
      have fewer := (handles_flushClientPacketQueues host answers accounts.server).count_le handle
      rw [count_owned] at before ⊢
      exact (Nat.add_le_add_left fewer _).trans before

/-- An operation never makes up for a handle that nobody owns, and it adds one unless
it retains everybody. -/
theorem lengths_operate {host : Host} {accounts after : Accounts} {operation : Operation}
    (operated : operate host operation accounts = some after) :
    accounts.opened.length + after.owned.length ≤ after.opened.length + accounts.owned.length ∧
      (accounts.opened.length + after.owned.length =
          after.opened.length + accounts.owned.length ↔ Retains host accounts operation) := by
  rw [length_owned, length_owned]
  cases operation with
  | accept handle =>
      rw [operate] at operated
      split at operated
      · contradiction
      · cases operated
        simp only [List.length_append, List.length_singleton, Retains, iff_true]
        omega
  | handleConnection connection =>
      rcases handleConnection_cases operated with
        ⟨rest, waiting, waiting', opened, -, handled⟩
      rw [waiting, waiting', opened, List.length_append, List.length_cons]
      rcases handles_handleConnection handled with
        ⟨refuses, same⟩ | ⟨admits, client, udp, udpOpen, -, clients⟩
      · have lost : ¬ Retains host accounts (.handleConnection connection) := fun retains =>
          refuses retains.1
        rw [same, iff_false_right lost]
        omega
      · have new : udpOpened accounts.server connection = [.udp udp] := by
          rw [udpOpened, if_pos ⟨admits.1, admits.2.1⟩, udpOpen]
          rfl
        rcases length_announced host accounts.server connection with ⟨fewer, nobody⟩
        have retains : Retains host accounts (.handleConnection connection) ↔
            (accounts.server.announced host connection).clients.length =
              accounts.server.clients.length :=
          (and_iff_right admits).trans nobody.symm
        rw [retains, clients, new, List.length_append, List.length_singleton, List.length_singleton]
        omega
  | flushClientPacketQueues answers =>
      cases operated
      rcases length_flushClientPacketQueues host answers accounts.server with ⟨fewer, nobody⟩
      rw [show Retains host accounts (.flushClientPacketQueues answers) ↔ _ from nobody.symm]
      dsimp only
      omega

theorem tracked_of_reachable {host : Host} {accounts : Accounts}
    (reached : Reachable (operate host) (fun _ _ => True) initial accounts) :
    Tracked accounts :=
  reached.invariant ⟨by decide, fun _ => Nat.le_refl _⟩ fun _ tracked _ operated =>
    tracked.operate operated

/-- Connection accounting: the books are right exactly after those runs in which every
operation retains everybody. -/
theorem accounted_iff_retained {host : Host} {accounts : Accounts}
    (reached : Reachable (operate host) (fun _ _ => True) initial accounts) :
    Accounted accounts ↔ Reachable (operate host) (Retains host) initial accounts := by
  rw [accounted_iff (tracked_of_reachable reached)]
  constructor
  · intro covered
    induction reached with
    | start => exact .start
    | @next before after operation reached _ operated ih =>
        rcases lengths_operate operated with ⟨monotone, retains⟩
        have owned := (tracked_of_reachable reached).subperm.length_le
        exact .next (ih (by omega)) (retains.mp (by omega)) operated
  · intro retained
    clear reached
    induction retained with
    | start => decide
    | next _ retains operated ih =>
        have same := (lengths_operate operated).2.mpr retains
        omega

/-- A connection on which there is nothing to read. -/
def silent : Connection :=
  { Connection.joining 7 fun _ => true with hasActivity := false }

/-- After one player has joined, the books are right. -/
theorem accounted_iff_retained_joining :
    ∃ accounts, accounts.server.clients.length = 1 ∧ Accounted accounts := by
  let joined : Operation := .handleConnection (.joining 7 fun _ => true)
  let waiting := (operate .littleEndian (.accept 0) initial).get (by decide)
  let accounts := (operate .littleEndian joined waiting).get (by decide)
  have accepted : operate .littleEndian (.accept 0) initial = some waiting :=
    (Option.some_get _).symm
  have handled : operate .littleEndian joined waiting = some accounts :=
    (Option.some_get _).symm
  have admits : waiting.server.Admits .littleEndian (.joining 7 fun _ => true) :=
    ⟨⟨rfl, by decide⟩, ⟨rfl, _, rfl, rfl⟩, by decide⟩
  have retains : Retains .littleEndian waiting joined :=
    ⟨admits, fun client member => absurd member List.not_mem_nil⟩
  have accepts : Retains .littleEndian initial (.accept 0) := trivial
  have retained : Reachable (operate .littleEndian) (Retains .littleEndian) initial accounts :=
    .next (.next .start accepts accepted) retains handled
  exact ⟨accounts, by decide, (accounted_iff_retained (retained.mono fun _ _ _ => trivial)).mpr
    retained⟩

/-- A peer that does not ask to join is deleted, and its connection stays open. -/
theorem not_accounted_silent :
    ¬ ∀ (host : Host) (accounts : Accounts),
      Reachable (operate host) (fun _ _ => True) initial accounts → Accounted accounts := by
  intro claimed
  let accounts := (runActions (operate .littleEndian) [.accept 0, .handleConnection silent]
    initial).get (by decide)
  have accounted := claimed .littleEndian accounts
    (.run (fun _ _ _ => trivial) .start (Option.some_get _).symm)
  exact accounted.closed 0 (by decide) (by decide) (by decide)

end Accounts

end LegendOfStealth.Server

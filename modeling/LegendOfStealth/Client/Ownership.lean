import LegendOfStealth.Client.Handshake
import LegendOfStealth.Library.Transition

/-!
# Who deletes the sockets

`ConnectToServer` makes two `Socket` objects, one after the other, and deletes both when
it returns `false`.  If the second constructor throws, the first object stays behind
`_udpSocket`, where the next call overwrites it.

The getters hand the objects to the caller.  The destructor knows nothing of that:
nothing sets `_tcpGet` or `_udpGet`.
-/

namespace LegendOfStealth.Connector

open LegendOfStealth.Library LegendOfStealth.Net LegendOfStealth.Protocol
open LegendOfStealth.Server (Failure)

/-- A `ConnectToServer` call: how packets are read, and what the call meets. -/
structure Attempt where
  reader : Reader
  fuel : Nat
  setup : Setup
  polls : List Poll

/-- The connector after a call that returns or that an exception leaves. -/
def Outcome.ended : Outcome → Option ServerConnector
  | .returned _ connector => some connector
  | .threw (.runtimeError _) connector => some connector
  | _ => none

namespace ServerConnector

/-- One `ConnectToServer` call. -/
def attempt (host : Host) : Step Attempt ServerConnector :=
  fun attempt connector =>
    (connector.connectToServer host attempt.reader attempt.fuel attempt.setup
      attempt.polls).ended

/-- Both socket objects have been made. -/
def acquire (udpSocket tcpSocket : Socket) (connector : ServerConnector) : ServerConnector :=
  (connector.setUdpSocket udpSocket).setTcpSocket tcpSocket

/-- What a call on a connector that is not connected leaves: the UDP socket was not made;
it was made and the TCP socket was not; both were made and cleaned up; or both were
made and the connector is connected. -/
inductive Attempted (setup : Setup) (connector : ServerConnector) : ServerConnector → Prop
  | refused {failure} : connector.newSocketUDP setup = .error failure →
      Attempted setup connector connector
  | halfway {udpSocket listenPort failure} :
      connector.newSocketUDP setup = .ok (udpSocket, listenPort) →
      connector.newSocketTCP setup = .error failure →
      Attempted setup connector (connector.setUdpSocket udpSocket)
  | cleaned {udpSocket listenPort tcpSocket} :
      connector.newSocketUDP setup = .ok (udpSocket, listenPort) →
      connector.newSocketTCP setup = .ok tcpSocket →
      Attempted setup connector (connector.acquire udpSocket tcpSocket).cleanUpSockets
  | connected {udpSocket listenPort tcpSocket after playerID team} :
      connector.newSocketUDP setup = .ok (udpSocket, listenPort) →
      connector.newSocketTCP setup = .ok tcpSocket →
      after.handle = tcpSocket.handle →
      Attempted setup connector
        { (connector.acquire udpSocket tcpSocket).updateTcpSocket after with
          playerID, team, isConnected := true }

section Attempts

variable {host : Host} {reader : Reader} {fuel : Nat} {outer : Bool} {polls : List Poll}
  {socket other : Socket} {connector next : ServerConnector}

theorem cleanUpSockets_updateTcpSocket (holds : connector.tcpSocket = some other)
    (same : socket.handle = other.handle) :
    (connector.updateTcpSocket socket).cleanUpSockets = connector.cleanUpSockets := by
  cases udp : connector.udpSocket with
  | none => simp only [cleanUpSockets, updateTcpSocket, deleteSocket, holds, same, udp]
  | some udpSocket => simp only [cleanUpSockets, updateTcpSocket, deleteSocket, holds, same, udp]

/-- The waiting loop ends with a cleanup or connected. -/
theorem ended_waitForResponse (holds : connector.tcpSocket = some other)
    (same : socket.handle = other.handle)
    (ended : (connector.waitForResponse reader fuel outer polls socket).ended = some next) :
    next = connector.cleanUpSockets ∨ ∃ after playerID team, after.handle = other.handle ∧
      next = { connector.updateTcpSocket after with playerID, team, isConnected := true } := by
  induction polls generalizing outer socket with
  | nil => contradiction
  | cons poll rest ih =>
      rw [waitForResponse] at ended
      split at ended
      · cases ended
        exact .inl (cleanUpSockets_updateTcpSocket holds same)
      simp only at ended
      split at ended
      · refine ih ?_ ended
        exact same
      split at ended
      · contradiction
      · contradiction
      rename_i packet after returned
      have kept : after.handle = other.handle := (Socket.getPacket_keeps returned).2.1.trans same
      split at ended
      · exact ih kept ended
      split at ended
      · cases ended
        exact .inl (cleanUpSockets_updateTcpSocket holds kept)
      · cases ended
        exact .inr ⟨after, _, _, kept, rfl⟩

/-- A call on a connector that is connected changes nothing. -/
theorem attempt_of_isConnected {call : Attempt} (connected : connector.isConnected = true) :
    attempt host call connector = some connector := by
  rw [attempt, connectToServer, if_pos connected]
  rfl

theorem attempted_of_attempt {call : Attempt} (idle : connector.isConnected = false)
    (ended : attempt host call connector = some next) :
    Attempted call.setup connector next := by
  rw [attempt, connectToServer, if_neg (by rw [idle]; exact Bool.false_ne_true)] at ended
  split at ended
  · rename_i failure refused
    cases failure with
    | runtimeError message =>
        cases ended
        exact .refused refused
    | nullDereference => contradiction
  rename_i udpSocket listenPort udpMade
  simp only at ended
  split at ended
  · rename_i failure halfway
    cases failure with
    | runtimeError message =>
        cases ended
        exact .halfway udpMade halfway
    | nullDereference => contradiction
  rename_i tcpSocket tcpMade
  have holds : (connector.acquire udpSocket tcpSocket).tcpSocket = some tcpSocket := rfl
  have same : (tcpSocket.sendPacket host call.setup.send
      (Message.joinRequest listenPort).packet).2.handle = tcpSocket.handle := rfl
  split at ended
  · cases ended
    exact .cleaned udpMade tcpMade
  split at ended
  · cases ended
    rw [← acquire, cleanUpSockets_updateTcpSocket holds same]
    exact .cleaned udpMade tcpMade
  · rcases ended_waitForResponse holds same ended with rfl | ⟨after, playerID, team, kept, rfl⟩
    · exact .cleaned udpMade tcpMade
    · exact .connected udpMade tcpMade kept

theorem sockets_cleanUpSockets_perm (udpSocket tcpSocket : Socket) (connector : ServerConnector) :
    (connector.acquire udpSocket tcpSocket).cleanUpSockets.sockets.Perm connector.sockets := by
  have added : (connector.acquire udpSocket tcpSocket).sockets.Perm
      ((.tcp, tcpSocket.handle) :: (.udp, udpSocket.handle) :: connector.sockets) := by
    rw [acquire, setTcpSocket, setUdpSocket]
    exact (List.perm_append_singleton _ _).trans ((List.perm_append_singleton _ _).cons _)
  have erased := (added.erase (.tcp, tcpSocket.handle)).erase (.udp, udpSocket.handle)
  rwa [List.erase_cons_head, List.erase_cons_head] at erased

end Attempts

/-! ## Without a trace -/

/-- There are exactly two objects, one for each protocol, and the connector has them. -/
def Equipped (connector : ServerConnector) : Prop :=
  ∃ udpSocket tcpSocket, connector.udpSocket = some udpSocket ∧
    connector.tcpSocket = some tcpSocket ∧
      connector.sockets = [(.udp, udpSocket.handle), (.tcp, tcpSocket.handle)]

/-- A connector that is not connected is as a fresh one, and no object exists; one that
is connected has two. -/
structure Clean (connector : ServerConnector) : Prop where
  fresh : connector.isConnected = false →
    connector = new connector.host connector.tcpPort connector.udpPort
  equipped : connector.isConnected = true → connector.Equipped

/-- If a connector that is not connected makes the UDP socket, it makes the TCP socket. -/
def MakesBoth (connector : ServerConnector) (call : Attempt) : Prop :=
  connector.isConnected = false → ∀ made, connector.newSocketUDP call.setup = .ok made →
    ∃ tcpSocket, connector.newSocketTCP call.setup = .ok tcpSocket

section Traces

variable {host : Host} {call : Attempt} {connector next : ServerConnector}

theorem clean_new (name : String) (tcpPort udpPort : Dword) : (new name tcpPort udpPort).Clean :=
  ⟨fun _ => rfl, fun connected => absurd connected Bool.false_ne_true⟩

/-- A connector that has made the UDP socket only is not clean. -/
theorem not_clean_setUdpSocket (idle : connector.isConnected = false) (udpSocket : Socket) :
    ¬ (connector.setUdpSocket udpSocket).Clean := by
  intro clean
  have none := congrArg ServerConnector.udpSocket (clean.fresh idle)
  exact absurd none (Option.some_ne_none udpSocket)

/-- A fresh connector that has made both sockets and cleaned up is fresh again. -/
theorem cleanUpSockets_acquire_new (name : String) (tcpPort udpPort : Dword)
    (udpSocket tcpSocket : Socket) :
    ((new name tcpPort udpPort).acquire udpSocket tcpSocket).cleanUpSockets =
      new name tcpPort udpPort := by
  simp [acquire, setUdpSocket, setTcpSocket, cleanUpSockets, deleteSocket, new]

theorem clean_cleanUpSockets
    (fresh : connector = new connector.host connector.tcpPort connector.udpPort)
    (udpSocket tcpSocket : Socket) :
    (connector.acquire udpSocket tcpSocket).cleanUpSockets.Clean := by
  rw [fresh, cleanUpSockets_acquire_new]
  exact clean_new _ _ _

/-- A fresh connector that has made both sockets has the only two. -/
theorem equipped_updateTcpSocket
    (fresh : connector = new connector.host connector.tcpPort connector.udpPort)
    {udpSocket tcpSocket after : Socket} (same : after.handle = tcpSocket.handle) :
    ((connector.acquire udpSocket tcpSocket).updateTcpSocket after).Equipped := by
  have none : connector.sockets = [] := congrArg ServerConnector.sockets fresh
  refine ⟨udpSocket, after, rfl, rfl, ?_⟩
  rw [same]
  change connector.sockets ++ [_] ++ [_] = _
  rw [none]
  rfl

/-- One attempt of a clean connector. -/
theorem Clean.attempt_iff (clean : connector.Clean)
    (ended : attempt host call connector = some next) : next.Clean ↔ connector.MakesBoth call := by
  cases idle : connector.isConnected with
  | true =>
      rw [attempt_of_isConnected idle] at ended
      cases ended
      exact iff_of_true clean fun unconnected =>
        absurd (unconnected.symm.trans idle) Bool.false_ne_true
  | false =>
      have fresh := clean.fresh idle
      cases attempted_of_attempt idle ended with
      | refused refused =>
          apply iff_of_true clean
          intro _ made opened
          cases refused.symm.trans opened
      | halfway udpMade halfway =>
          apply iff_of_false (not_clean_setUdpSocket idle _)
          intro makes
          obtain ⟨tcpSocket, made⟩ := makes idle _ udpMade
          cases halfway.symm.trans made
      | cleaned udpMade tcpMade =>
          exact iff_of_true (clean_cleanUpSockets fresh _ _) fun _ _ _ => ⟨_, tcpMade⟩
      | connected udpMade tcpMade same =>
          obtain ⟨udpSocket, tcpSocket, udpHeld, tcpHeld, only⟩ :=
            equipped_updateTcpSocket fresh same
          apply iff_of_true
          · exact ⟨fun unconnected => absurd unconnected.symm Bool.false_ne_true,
              fun _ => ⟨udpSocket, tcpSocket, udpHeld, tcpHeld, only⟩⟩
          · exact fun _ _ _ => ⟨_, tcpMade⟩

end Traces

/-- Failed attempts: after every attempt of a run the connector is as a fresh one, or it
is connected and has the only two objects, exactly if the TCP socket is made whenever
the UDP socket is. -/
theorem always_clean_iff (host : Host) (name : String) (tcpPort udpPort : Dword)
    (calls : List Attempt) :
    Always (attempt host) Clean calls (new name tcpPort udpPort) ↔
      Meets (attempt host) MakesBoth calls (new name tcpPort udpPort) := by
  apply always_iff_meets fun _ => True
  · exact fun _ clean ended => ⟨trivial, clean.attempt_iff ended⟩
  · trivial
  · exact clean_new name tcpPort udpPort

/-- A server that does not accept the TCP connection. -/
theorem not_clean_refused :
    ¬ ∀ (host : Host) (name : String) (tcpPort udpPort : Dword) (calls : List Attempt),
      Always (attempt host) Clean calls (new name tcpPort udpPort) := by
  intro claimed
  have always := claimed .littleEndian "localhost" 43720 43720
    [⟨reportingReader .littleEndian, 0, { opened with tcpOpen := none }, []⟩]
  have clean := always.last rfl
  have fresh := clean.fresh rfl
  exact absurd fresh (by decide)

/-! ## Handing over -/

/-- The objects that the connector points to. -/
def held (connector : ServerConnector) : List (TLProtocol × Nat) :=
  object .tcp connector.tcpSocket ++ object .udp connector.udpSocket

end ServerConnector

/-- A connector, and the objects that its getters have returned. -/
structure Handover where
  connector : ServerConnector
  returned : List (TLProtocol × Nat)

namespace Handover

/-- A call of a member function.  The context is the name of a getter. -/
inductive Call where
  | connectToServer (call : Attempt)
  | isConnectedToServer
  | getTCPSocket (context : String)
  | getUDPSocket (context : String)
  | getPlayerID (context : String)
  | getTeam (context : String)

/-- A getter has answered: an object that is returned is noted, once. -/
def note (proto : TLProtocol) (answer : Except Failure (Option Socket)) (handover : Handover) :
    Handover :=
  match answer with
  | .ok (some socket) =>
      { handover with returned := handover.returned.insert (proto, socket.handle) }
  | _ => handover

/-- One call. -/
def step (host : Host) : Step Call Handover
  | .connectToServer call, handover =>
      (ServerConnector.attempt host call handover.connector).map fun connector =>
        { handover with connector }
  | .getTCPSocket context, handover =>
      some (handover.note .tcp (handover.connector.getTCPSocket context))
  | .getUDPSocket context, handover =>
      some (handover.note .udp (handover.connector.getUDPSocket context))
  | .isConnectedToServer, handover => some handover
  | .getPlayerID _, handover => some handover
  | .getTeam _, handover => some handover

/-- Before the first call. -/
def start (name : String) (tcpPort udpPort : Dword) : Handover :=
  ⟨.new name tcpPort udpPort, []⟩

/-- If the connector is destroyed now, the destructor deletes those objects that the
connector points to and no getter has returned, and together with a caller who deletes
what was returned, it deletes every object that exists once. -/
structure HandsOver (handover : Handover) : Prop where
  destructor : ∀ object, object ∈ handover.connector.destroyed ↔
    object ∈ handover.connector.held ∧ object ∉ handover.returned
  once : (handover.connector.destroyed ++ handover.returned).Perm handover.connector.sockets

/-- No socket is asked for from a connector that is connected, and a connector that still
points to a UDP socket makes no other. -/
def Careful (handover : Handover) : Call → Prop
  | .connectToServer call =>
      handover.connector.isConnected = false → handover.connector.udpSocket ≠ none →
        ∀ made, handover.connector.newSocketUDP call.setup ≠ .ok made
  | .getTCPSocket _ => handover.connector.isConnected = false
  | .getUDPSocket _ => handover.connector.isConnected = false
  | _ => True

/-- What holds whatever is called: no flag is set, a connector that is not connected
points to no TCP socket and has returned nothing, and one that is connected points to
both sockets. -/
structure Consistent (handover : Handover) : Prop where
  unset : handover.connector.tcpGet = false ∧ handover.connector.udpGet = false
  unconnected : handover.connector.isConnected = false →
    handover.connector.tcpSocket = none ∧ handover.returned = []
  connected : handover.connector.isConnected = true →
    ∃ tcpSocket udpSocket, handover.connector.tcpSocket = some tcpSocket ∧
      handover.connector.udpSocket = some udpSocket
  returned : ∀ object ∈ handover.returned, object ∈ handover.connector.held

/-- A getter answers with an object if and only if the connector is connected, and then
the connector points to it. -/
structure Gets (handover : Handover) (proto : TLProtocol)
    (answer : Except Failure (Option Socket)) : Prop where
  points : ∀ socket, answer = .ok (some socket) → handover.connector.isConnected = true ∧
    (proto, socket.handle) ∈ handover.connector.held
  answers : handover.connector.isConnected = true → ∃ socket, answer = .ok (some socket)

section Calls

variable {host : Host} {handover next : Handover} {call : Call} {connector : ServerConnector}
  {proto : TLProtocol} {answer : Except Failure (Option Socket)}

/-- The destructor takes all objects for its own. -/
theorem Consistent.destroyed_eq_held (consistent : handover.Consistent) :
    handover.connector.destroyed = handover.connector.held := by
  rw [ServerConnector.destroyed, consistent.unset.1, consistent.unset.2]
  rfl

/-- So it must not be asked for any, and must point to all that exist. -/
theorem Consistent.handsOver_iff (consistent : handover.Consistent) :
    handover.HandsOver ↔ handover.returned = [] ∧
      handover.connector.held.Perm handover.connector.sockets := by
  constructor
  · rintro ⟨destructor, once⟩
    rw [consistent.destroyed_eq_held] at destructor once
    have none : handover.returned = [] := by
      apply List.eq_nil_iff_forall_not_mem.mpr
      intro object member
      have points := consistent.returned object member
      exact ((destructor object).mp points).2 member
    rw [none, List.append_nil] at once
    exact ⟨none, once⟩
  · rintro ⟨none, all⟩
    constructor
    · intro object
      rw [consistent.destroyed_eq_held, none, and_iff_left List.not_mem_nil]
    · rwa [consistent.destroyed_eq_held, none, List.append_nil]

/-- An attempt that makes the UDP socket leaves what existed before, and what the
connector points to. -/
theorem attempted_cases {setup : Setup} {after : ServerConnector}
    (attempted : connector.Attempted setup after) (idle : connector.tcpSocket = none) :
    (after = connector ∧ ∀ made, connector.newSocketUDP setup ≠ .ok made) ∨
      (∃ made, connector.newSocketUDP setup = .ok made) ∧
        after.sockets.Perm (connector.sockets ++ after.held) := by
  cases attempted with
  | refused refused =>
      exact .inl ⟨rfl, fun made opened => by cases refused.symm.trans opened⟩
  | halfway udpMade _ =>
      refine .inr ⟨⟨_, udpMade⟩, ?_⟩
      rw [ServerConnector.held, ServerConnector.setUdpSocket, idle]
      rfl
  | @cleaned udpSocket _ tcpSocket udpMade _ =>
      refine .inr ⟨⟨_, udpMade⟩, ?_⟩
      have none : (connector.acquire udpSocket tcpSocket).cleanUpSockets.held = [] := rfl
      rw [none, List.append_nil]
      exact ServerConnector.sockets_cleanUpSockets_perm udpSocket tcpSocket connector
  | @connected udpSocket _ tcpSocket after _ _ udpMade _ same =>
      refine .inr ⟨⟨_, udpMade⟩, ?_⟩
      have both : (connector.acquire udpSocket tcpSocket).sockets =
          connector.sockets ++ [(.udp, udpSocket.handle), (.tcp, after.handle)] := by
        rw [same]
        exact List.append_assoc _ [_] [_]
      exact both ▸ (List.Perm.swap _ _ []).append_left _

theorem Consistent.gets_tcp (consistent : handover.Consistent) (context : String) :
    handover.Gets .tcp (handover.connector.getTCPSocket context) := by
  constructor
  · intro socket answered
    obtain ⟨connected, points⟩ :=
      (ServerConnector.socketGetters_ok_iff context _ _).1.mp answered
    rw [ServerConnector.held, points]
    exact ⟨connected, List.mem_append_left _ List.mem_cons_self⟩
  · intro connected
    obtain ⟨tcpSocket, _, points, -⟩ := consistent.connected connected
    exact ⟨tcpSocket, (ServerConnector.socketGetters_ok_iff context _ _).1.mpr ⟨connected, points⟩⟩

theorem Consistent.gets_udp (consistent : handover.Consistent) (context : String) :
    handover.Gets .udp (handover.connector.getUDPSocket context) := by
  constructor
  · intro socket answered
    obtain ⟨connected, points⟩ :=
      (ServerConnector.socketGetters_ok_iff context _ _).2.mp answered
    rw [ServerConnector.held, points]
    exact ⟨connected, List.mem_append_right _ List.mem_cons_self⟩
  · intro connected
    obtain ⟨_, udpSocket, -, points⟩ := consistent.connected connected
    exact ⟨udpSocket, (ServerConnector.socketGetters_ok_iff context _ _).2.mpr ⟨connected, points⟩⟩

theorem Consistent.note (consistent : handover.Consistent) (gets : handover.Gets proto answer) :
    (handover.note proto answer).Consistent := by
  unfold Handover.note
  split
  · rename_i socket
    obtain ⟨connected, pointed⟩ := gets.points socket rfl
    refine ⟨consistent.unset,
      fun idle => absurd (idle.symm.trans connected) Bool.false_ne_true, consistent.connected, ?_⟩
    intro object member
    rcases List.mem_insert_iff.mp member with rfl | earlier
    · exact pointed
    · exact consistent.returned object earlier
  · exact consistent

theorem Consistent.attempt (consistent : handover.Consistent) {call : Attempt}
    (ended : ServerConnector.attempt host call handover.connector = some connector) :
    (Handover.mk connector handover.returned).Consistent := by
  cases idle : handover.connector.isConnected with
  | true =>
      rw [ServerConnector.attempt_of_isConnected idle] at ended
      cases ended
      exact consistent
  | false =>
      obtain ⟨noSocket, silent⟩ := consistent.unconnected idle
      have nothing : ∀ object ∈ handover.returned, object ∈ connector.held := by
        rw [silent]
        exact fun _ => nofun
      cases ServerConnector.attempted_of_attempt idle ended with
      | refused => exact consistent
      | halfway =>
          exact ⟨consistent.unset, fun _ => ⟨noSocket, silent⟩,
            fun connected => absurd (idle.symm.trans connected) Bool.false_ne_true, nothing⟩
      | cleaned =>
          exact ⟨consistent.unset, fun _ => ⟨rfl, silent⟩,
            fun connected => absurd (idle.symm.trans connected) Bool.false_ne_true, nothing⟩
      | connected =>
          exact ⟨consistent.unset,
            fun unconnected => absurd unconnected.symm Bool.false_ne_true,
            fun _ => ⟨_, _, rfl, rfl⟩, nothing⟩

theorem Consistent.step (consistent : handover.Consistent)
    (stepped : Handover.step host call handover = some next) : next.Consistent := by
  cases call with
  | connectToServer call =>
      rcases Option.map_eq_some_iff.mp stepped with ⟨after, ended, rfl⟩
      exact consistent.attempt ended
  | isConnectedToServer =>
      cases stepped
      exact consistent
  | getTCPSocket context =>
      cases stepped
      exact consistent.note (consistent.gets_tcp context)
  | getUDPSocket context =>
      cases stepped
      exact consistent.note (consistent.gets_udp context)
  | getPlayerID context =>
      cases stepped
      exact consistent
  | getTeam context =>
      cases stepped
      exact consistent

/-- If a connector that is not connected points to all objects, then there is none unless
it points to a UDP socket. -/
theorem Consistent.sockets_eq_nil_iff (consistent : handover.Consistent)
    (idle : handover.connector.isConnected = false)
    (all : handover.connector.held.Perm handover.connector.sockets) :
    handover.connector.sockets = [] ↔ handover.connector.udpSocket = none := by
  rw [ServerConnector.held, (consistent.unconnected idle).1] at all
  cases udp : handover.connector.udpSocket with
  | none =>
      rw [udp] at all
      exact iff_of_true all.nil_eq.symm rfl
  | some udpSocket =>
      rw [udp] at all
      refine iff_of_false ?_ (Option.some_ne_none _)
      intro empty
      rw [empty] at all
      exact List.cons_ne_nil _ _ all.eq_nil

/-- If a connector that has returned nothing points to what was made in an attempt, then
nothing must have existed before. -/
theorem Consistent.handsOver_iff_of_perm (consistent : next.Consistent)
    (silent : next.returned = []) {before : List (TLProtocol × Nat)}
    (perm : next.connector.sockets.Perm (before ++ next.connector.held)) :
    next.HandsOver ↔ before = [] := by
  rw [consistent.handsOver_iff, and_iff_right silent]
  constructor
  · intro same
    have lengths := (same.trans perm).length_eq
    rw [List.length_append] at lengths
    exact List.length_eq_zero_iff.mp (by omega)
  · intro empty
    rw [empty] at perm
    exact perm.symm

/-- What a getter of a connected connector has returned is deleted twice. -/
theorem Consistent.note_handsOver_iff (consistent : handover.Consistent)
    (handsOver : handover.HandsOver) (gets : handover.Gets proto answer) :
    (handover.note proto answer).HandsOver ↔ handover.connector.isConnected = false := by
  rw [← Bool.not_eq_true]
  constructor
  · intro after connected
    obtain ⟨socket, rfl⟩ := gets.answers connected
    have none : handover.returned.insert (proto, socket.handle) = [] :=
      ((consistent.note gets).handsOver_iff.mp after).1
    exact List.not_mem_nil (none ▸ List.mem_insert_self)
  · intro refused
    unfold Handover.note
    split
    · exact absurd (gets.points _ rfl).1 refused
    · exact handsOver

/-- An attempt ends on a connector that hands over what it has. -/
theorem Consistent.attempt_handsOver_iff (consistent : handover.Consistent)
    (handsOver : handover.HandsOver) {call : Attempt}
    (ended : ServerConnector.attempt host call handover.connector = some connector) :
    (Handover.mk connector handover.returned).HandsOver ↔
      handover.Careful (.connectToServer call) := by
  cases idle : handover.connector.isConnected with
  | true =>
      rw [ServerConnector.attempt_of_isConnected idle] at ended
      cases ended
      exact iff_of_true handsOver fun unconnected =>
        absurd (unconnected.symm.trans idle) Bool.false_ne_true
  | false =>
      obtain ⟨silent, all⟩ := consistent.handsOver_iff.mp handsOver
      rcases attempted_cases (ServerConnector.attempted_of_attempt idle ended)
        (consistent.unconnected idle).1 with ⟨rfl, refused⟩ | ⟨⟨made, udpMade⟩, perm⟩
      · exact iff_of_true handsOver fun _ _ => refused
      · rw [(consistent.attempt ended).handsOver_iff_of_perm silent perm,
          consistent.sockets_eq_nil_iff idle all]
        constructor
        · exact fun noSocket _ still => absurd noSocket still
        · intro careful
          by_contra still
          exact careful idle still made udpMade

/-- One call on a connector that hands over what it has. -/
theorem Consistent.step_handsOver_iff (consistent : handover.Consistent)
    (handsOver : handover.HandsOver) (stepped : Handover.step host call handover = some next) :
    next.HandsOver ↔ handover.Careful call := by
  cases call with
  | connectToServer call =>
      rcases Option.map_eq_some_iff.mp stepped with ⟨connector, ended, rfl⟩
      exact consistent.attempt_handsOver_iff handsOver ended
  | isConnectedToServer =>
      cases stepped
      exact iff_of_true handsOver trivial
  | getTCPSocket context =>
      cases stepped
      exact consistent.note_handsOver_iff handsOver (consistent.gets_tcp context)
  | getUDPSocket context =>
      cases stepped
      exact consistent.note_handsOver_iff handsOver (consistent.gets_udp context)
  | getPlayerID context =>
      cases stepped
      exact iff_of_true handsOver trivial
  | getTeam context =>
      cases stepped
      exact iff_of_true handsOver trivial

end Calls

theorem consistent_start (name : String) (tcpPort udpPort : Dword) :
    (start name tcpPort udpPort).Consistent :=
  ⟨⟨rfl, rfl⟩, fun _ => ⟨rfl, rfl⟩, fun connected => absurd connected Bool.false_ne_true,
    fun _ => nofun⟩

/-- Socket hand-over: at every point of a run the destructor and a caller who deletes what
was returned delete every object once, exactly if no socket is asked for from a
connector that is connected, and no UDP socket is made while one is left behind. -/
theorem always_handsOver_iff (host : Host) (name : String) (tcpPort udpPort : Dword)
    (calls : List Call) :
    Always (step host) HandsOver calls (start name tcpPort udpPort) ↔
      Meets (step host) Careful calls (start name tcpPort udpPort) := by
  have consistent := consistent_start name tcpPort udpPort
  apply always_iff_meets Consistent
  · intro handover call next still handsOver stepped
    exact ⟨still.step stepped, still.step_handsOver_iff handsOver stepped⟩
  · exact consistent
  · exact consistent.handsOver_iff.mpr ⟨rfl, .refl _⟩

/-- A caller asks for the TCP socket. -/
theorem not_handsOver_getTCPSocket :
    ¬ ∀ (host : Host) (name : String) (tcpPort udpPort : Dword) (calls : List Call),
      Always (step host) HandsOver calls (start name tcpPort udpPort) := by
  intro claimed
  have always := claimed .littleEndian "localhost" 43720 43720
    [.connectToServer ⟨reportingReader .littleEndian, 2, ServerConnector.opened,
      [ServerConnector.respondingPoll 1]⟩, .getTCPSocket "GetTCPSocket"]
  have handsOver := always.last rfl
  have deleted := (handsOver.destructor (.tcp, 0)).mp (by decide)
  exact absurd deleted.2 (by decide)

end Handover

end LegendOfStealth.Connector

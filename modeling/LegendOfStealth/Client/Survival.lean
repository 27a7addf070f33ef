import LegendOfStealth.Client.ServerConnector

/-!
# What a server can do to a joining client

The inner loop of `ConnectToServer` takes activity for a packet.  A closed
connection, a receive error and bytes that are no packet are activity too, and
`GetPacket` returns `NULL` for them.  With the program's own reader it never
returns anything else; a client gets by only if nothing comes before the time is
over, or if `GetPacket` does not return at all.
-/

namespace LegendOfStealth.Connector

open LegendOfStealth.Library LegendOfStealth.Net LegendOfStealth.Protocol
open LegendOfStealth.Server (Failure require require_eq_ok_iff)

namespace ServerConnector

/-- A TCP socket object that has been opened is fresh. -/
theorem newSocketTCP_eq_ok {setup : Setup} {connector : ServerConnector} {socket : Socket}
    (made : connector.newSocketTCP setup = .ok socket) :
    ∃ handle, socket = .ofHandle .tcp handle [] := by
  simp only [newSocketTCP, bind_eq_ok_iff] at made
  rcases made with ⟨-, -, -, -, opened⟩
  split at opened
  · contradiction
  · rename_i handle _
    rcases bind_eq_ok_iff.mp opened with ⟨-, -, built⟩
    cases built
    exact ⟨handle, rfl⟩

/-- The call gets as far as the waiting loop: the sockets are opened and the join
request is sent. -/
def Waits (host : Host) (setup : Setup) (connector : ServerConnector) : Prop :=
  connector.isConnected = false ∧ ∃ udpSocket listenPort tcpSocket,
    connector.newSocketUDP setup = .ok (udpSocket, listenPort) ∧
      connector.newSocketTCP setup = .ok tcpSocket ∧
        setup.send ((Message.joinRequest listenPort).bytes host) ≠ 0

/-- The TCP socket on which the join request has been sent, if the sockets can be
opened and the request can be sent. -/
def requested (host : Host) (setup : Setup) (connector : ServerConnector) : Option Socket :=
  match connector.newSocketUDP setup, connector.newSocketTCP setup with
  | .ok (_, listenPort), .ok tcpSocket =>
      let sent := tcpSocket.sendPacket host setup.send (Message.joinRequest listenPort).packet
      if sent.1 then some sent.2 else none
  | _, _ => none

/-- Once the request is on its way, everything depends on the waiting loop. -/
theorem connectToServer_of_requested {host : Host} {setup : Setup} {connector : ServerConnector}
    {socket : Socket} (idle : connector.isConnected = false)
    (requests : connector.requested host setup = some socket) :
    (socket.protocol = .tcp ∧ socket.pqueue = [] ∧ socket.incoming = []) ∧
      ∃ waiting : ServerConnector, waiting.isConnected = false ∧
        ∀ reader fuel polls, connector.connectToServer host reader fuel setup polls =
          waiting.waitForResponse reader fuel true polls socket := by
  unfold requested at requests
  split at requests
  · rename_i udpSocket listenPort tcpSocket udpMade tcpMade
    simp only [Option.ite_none_right_eq_some, Option.some.injEq] at requests
    rcases requests with ⟨delivered, rfl⟩
    rcases newSocketTCP_eq_ok tcpMade with ⟨handle, rfl⟩
    refine ⟨⟨rfl, rfl, rfl⟩,
      (connector.setUdpSocket udpSocket).setTcpSocket (.ofHandle .tcp handle []), idle, ?_⟩
    intro reader fuel polls
    have tcpMade' : (connector.setUdpSocket udpSocket).newSocketTCP setup =
        .ok (.ofHandle .tcp handle []) := tcpMade
    rw [connectToServer, idle, if_neg (by simp), udpMade]
    simp only [tcpMade', delivered]
    rfl
  · contradiction

theorem connectToServer_of_waits {host : Host} {setup : Setup} {connector : ServerConnector}
    (waits : connector.Waits host setup) :
    ∃ (waiting : ServerConnector) (socket : Socket),
      (socket.protocol = .tcp ∧ socket.pqueue = [] ∧ socket.incoming = []) ∧
        ∀ reader fuel polls, connector.connectToServer host reader fuel setup polls =
          waiting.waitForResponse reader fuel true polls socket := by
  rcases waits with ⟨idle, udpSocket, listenPort, tcpSocket, udpMade, tcpMade, sent⟩
  have delivered : (tcpSocket.sendPacket host setup.send
      (Message.joinRequest listenPort).packet).1 = true := bne_iff_ne.mpr sent
  have requests : connector.requested host setup = some
      (tcpSocket.sendPacket host setup.send (Message.joinRequest listenPort).packet).2 := by
    simp only [requested, udpMade, tcpMade, if_pos delivered]
  rcases connectToServer_of_requested idle requests with ⟨fresh, waiting, -, waitsFor⟩
  exact ⟨waiting, _, fresh, waitsFor⟩

theorem connectToServer_ne_nullUsed {host : Host} {setup : Setup} {connector : ServerConnector}
    (refused : ¬ connector.Waits host setup) (reader : Reader) (fuel : Nat) (polls : List Poll) :
    connector.connectToServer host reader fuel setup polls ≠ .nullUsed := by
  intro used
  rw [connectToServer] at used
  split at used
  · contradiction
  rename_i idle
  split at used
  · contradiction
  rename_i udpSocket listenPort udpMade
  simp only at used
  split at used
  · contradiction
  rename_i tcpSocket tcpMade
  split at used
  · contradiction
  split at used
  · contradiction
  rename_i sent
  apply refused
  have accepted : (tcpSocket.sendPacket host setup.send
      (Message.joinRequest listenPort).packet).1 = true := by simpa using sent
  exact ⟨by simpa using idle, udpSocket, listenPort, tcpSocket, udpMade, tcpMade,
    bne_iff_ne.mp accepted⟩

end ServerConnector

/-- The first poll at which something has arrived, if one comes before the time is
over. -/
def firstNews : List Poll → Option Poll
  | [] => none
  | poll :: rest =>
      if poll.expired then none
      else if poll.arrived = [] then firstNews rest
      else some poll

/-- A `GetPacket` call on what has arrived does not return: the receive calls keep
filling the buffer, or a registered tag keeps the parse loop running. -/
def Poll.Unanswered (poll : Poll) : Prop :=
  Fills 128 poll.arrived ∨ Socket.StartsRegistered poll.arrived

namespace ServerConnector

section Waiting

variable {host : Host} {connector : ServerConnector} {socket : Socket} {poll : Poll}

theorem waitForResponse_quiet
    (fresh : socket.protocol = .tcp ∧ socket.pqueue = [] ∧ socket.incoming = [])
    (inTime : poll.expired = false) (quiet : poll.arrived = []) (reader : Reader) (fuel : Nat)
    (rest : List Poll) :
    connector.waitForResponse reader fuel true (poll :: rest) socket =
      connector.waitForResponse reader fuel true rest socket := by
  have same : { socket with incoming := socket.incoming ++ poll.arrived } = socket := by
    rw [quiet, List.append_nil]
  have idle : socket.hasActivity = false := by simp [Socket.hasActivity, fresh.2.1, fresh.2.2]
  rw [waitForResponse, same, inTime]
  simp only [idle]
  rfl

/-- At the first news the result of `GetPacket` is used exactly if the call returns. -/
theorem waitForResponse_news
    (fresh : socket.protocol = .tcp ∧ socket.pqueue = [] ∧ socket.incoming = [])
    (inTime : poll.expired = false) (news : poll.arrived ≠ []) (fuel : Nat) (rest : List Poll) :
    connector.waitForResponse (factoryReader host) fuel true (poll :: rest) socket ≠ .nullUsed ↔
      { socket with incoming := poll.arrived }.getPacket (factoryReader host) poll.memory fuel =
        none := by
  have arrived : { socket with incoming := socket.incoming ++ poll.arrived } =
      { socket with incoming := poll.arrived } := by
    rw [fresh.2.2, List.nil_append]
  have active : { socket with incoming := poll.arrived }.hasActivity = true := by
    simp [Socket.hasActivity, fresh.2.1, news]
  rw [waitForResponse, arrived, inTime]
  simp only [active]
  cases received : { socket with incoming := poll.arrived }.getPacket (factoryReader host)
      poll.memory fuel with
  | none => simp
  | some result =>
      rcases result with ⟨packet, after⟩
      have empty : { socket with incoming := poll.arrived }.pqueue = [] := fresh.2.1
      rcases Socket.getPacket_factoryReader empty received with ⟨rfl, -⟩
      simp

/-- The result of `GetPacket` is never used as a packet exactly if the call on the
first news does not return. -/
theorem waitForResponse_ne_nullUsed_iff
    (fresh : socket.protocol = .tcp ∧ socket.pqueue = [] ∧ socket.incoming = [])
    (polls : List Poll) :
    (∀ fuel, connector.waitForResponse (factoryReader host) fuel true polls socket ≠ .nullUsed) ↔
      ∀ poll, firstNews polls = some poll → poll.Unanswered := by
  induction polls with
  | nil => simp [waitForResponse, firstNews]
  | cons poll rest ih =>
      cases expired : poll.expired with
      | true => simp [waitForResponse, firstNews, expired]
      | false =>
          by_cases quiet : poll.arrived = []
          · simp only [waitForResponse_quiet fresh expired quiet, firstNews, expired, quiet]
            exact ih
          · have first : firstNews (poll :: rest) = some poll := by
              simp [firstNews, expired, quiet]
            simp only [waitForResponse_news fresh expired quiet, first, Option.some.injEq,
              forall_eq']
            exact Socket.getPacket_factoryReader_eq_none_iff fresh.1 fresh.2.1 quiet

end Waiting

/-! ## Survival -/

/-- Whatever fuel the parse loop is given, `NULL` is not used as a packet. -/
def Survives (host : Host) (setup : Setup) (polls : List Poll) (connector : ServerConnector) :
    Prop :=
  ∀ fuel, connector.connectToServer host (factoryReader host) fuel setup polls ≠ .nullUsed

/-- A joining client survives exactly those servers that say nothing before the time
is over, or on whose first news `GetPacket` does not return. -/
theorem survives_iff (host : Host) (setup : Setup) (polls : List Poll)
    (connector : ServerConnector) :
    connector.Survives host setup polls ↔
      (connector.Waits host setup →
        ∀ poll, firstNews polls = some poll → poll.Unanswered) := by
  constructor
  · intro survives waits
    rcases connectToServer_of_waits waits with ⟨waiting, socket, fresh, waitsFor⟩
    apply (waitForResponse_ne_nullUsed_iff fresh polls).mp
    intro fuel
    rw [← waitsFor]
    exact survives fuel
  · intro unanswered fuel
    by_cases waits : connector.Waits host setup
    · rcases connectToServer_of_waits waits with ⟨waiting, socket, fresh, waitsFor⟩
      rw [waitsFor]
      exact (waitForResponse_ne_nullUsed_iff fresh polls).mpr (unanswered waits) fuel
    · exact connectToServer_ne_nullUsed waits _ fuel polls

/-- Every call that sets up the sockets succeeds. -/
def opened : Setup where
  resolveHost := fun _ _ => true
  udpAllocSet := true
  udpOpen := some (1, 7)
  udpAddSocket := true
  udpBind := true
  tcpAllocSet := true
  tcpOpen := some 0
  tcpAddSocket := true
  send := acceptAll

/-- A server that closes the connection, one that the client cannot receive from, and
one that sends a byte that is no tag. -/
theorem not_survives_closed :
    ¬ (∀ (host : Host) (setup : Setup) (polls : List Poll) (connector : ServerConnector),
      connector.Survives host setup polls) ∧
      ∀ news ∈ [.closed, .error, Recv.data [9]],
        ¬ (new "localhost" 43720 43720).Survives .littleEndian opened
          [⟨false, [news], fun _ => 0, (0, 0)⟩] := by
  have uses : ∀ news ∈ [.closed, .error, Recv.data [9]],
      ¬ (new "localhost" 43720 43720).Survives .littleEndian opened
        [⟨false, [news], fun _ => 0, (0, 0)⟩] := by
    intro news member survives
    simp only [List.mem_cons, List.not_mem_nil, or_false] at member
    rcases member with rfl | rfl | rfl
    · exact survives 1 rfl
    · exact survives 1 rfl
    · exact survives 1 rfl
  exact ⟨fun claimed => uses .closed (by simp) (claimed _ _ _ _), uses⟩

end ServerConnector

end LegendOfStealth.Connector

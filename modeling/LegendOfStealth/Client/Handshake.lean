import LegendOfStealth.Client.Survival
import LegendOfStealth.Net.Untrusted

/-!
# The outcome of the handshake

The loops of `ConnectToServer` skip every packet but a join response.  On the first
join response the call returns; if it is accepted, its id and team are read after
it has been deleted, and the team is cast to the enum whatever its value is.
-/

namespace LegendOfStealth.Connector

open LegendOfStealth.Library LegendOfStealth.Net LegendOfStealth.Protocol
open LegendOfStealth.Server (Failure require require_eq_ok_iff)

/-- A packet that `GetPacket` has returned, and what the id and the team of a deleted
response read as at that moment. -/
structure Delivery where
  packet : Packet
  freed : Dword × Dword

/-- What a socket has to offer when it is polled. -/
def Poll.arriveOn (poll : Poll) (socket : Socket) : Socket :=
  { socket with incoming := socket.incoming ++ poll.arrived }

/-- The packets that `GetPacket` delivers while a socket is polled, and whether they
end with the timeout.  A run may be left at any time. -/
inductive Delivers (reader : Reader) (fuel : Nat) :
    Bool → List Poll → Socket → List Delivery → Bool → Prop
  | leave {outer polls socket} : Delivers reader fuel outer polls socket [] false
  | timeout {poll rest socket} :
      poll.expired = true → Delivers reader fuel true (poll :: rest) socket [] true
  | quiet {outer poll rest socket deliveries timedOut} :
      (outer && poll.expired) = false →
      (poll.arriveOn socket).hasActivity = false →
      Delivers reader fuel true rest (poll.arriveOn socket) deliveries timedOut →
      Delivers reader fuel outer (poll :: rest) socket deliveries timedOut
  | packet {outer poll rest socket packet next deliveries timedOut} :
      (outer && poll.expired) = false →
      (poll.arriveOn socket).hasActivity = true →
      (poll.arriveOn socket).getPacket reader poll.memory fuel = some (some packet, next) →
      Delivers reader fuel false rest next deliveries timedOut →
      Delivers reader fuel outer (poll :: rest) socket (⟨packet, poll.freed⟩ :: deliveries)
        timedOut

/-- The packet is a join response. -/
def Delivery.isJoinResponse (delivery : Delivery) : Bool :=
  delivery.packet.getPacketType = PacketType.joinResponse.toDword

/-- The first join response among the delivered packets. -/
def firstResponse (deliveries : List Delivery) : Option Delivery :=
  deliveries.find? Delivery.isJoinResponse

/-- The `playerID` member, through a pointer cast to `JoinResponsePacket`. -/
def responsePlayerID (packet : Packet) : Dword :=
  match packet.fields with
  | _ :: .uint32 cell :: _ => cell
  | _ => 0

/-- The `team` member, through a pointer cast to `JoinResponsePacket`. -/
def responseTeam (packet : Packet) : Dword :=
  match packet.fields with
  | _ :: _ :: .uint32 cell :: _ => cell
  | _ => 0

namespace ServerConnector

section Waiting

variable {reader : Reader} {fuel : Nat} {outer timedOut : Bool} {polls : List Poll}
  {socket : Socket} {deliveries : List Delivery} {connector : ServerConnector}

theorem waitForResponse_cons_quiet {poll : Poll} {rest : List Poll}
    (inTime : (outer && poll.expired) = false)
    (quiet : (poll.arriveOn socket).hasActivity = false) :
    connector.waitForResponse reader fuel outer (poll :: rest) socket =
      connector.waitForResponse reader fuel true rest (poll.arriveOn socket) := by
  rw [Poll.arriveOn] at quiet ⊢
  rw [waitForResponse, inTime]
  simp only [quiet]
  rfl

theorem waitForResponse_cons_packet {poll : Poll} {rest : List Poll} {packet : Packet}
    {next : Socket} (inTime : (outer && poll.expired) = false)
    (active : (poll.arriveOn socket).hasActivity = true)
    (returned : (poll.arriveOn socket).getPacket reader poll.memory fuel =
      some (some packet, next)) :
    connector.waitForResponse reader fuel outer (poll :: rest) socket =
      if (⟨packet, poll.freed⟩ : Delivery).isJoinResponse then
        if response packet then
          .returned true
            { connector.updateTcpSocket next with
              playerID := poll.freed.1
              team := poll.freed.2
              isConnected := true }
        else .returned false (connector.updateTcpSocket next).cleanUpSockets
      else connector.waitForResponse reader fuel false rest next := by
  rw [Poll.arriveOn] at active returned
  rw [waitForResponse, inTime]
  simp only [active, returned]
  by_cases joins : packet.getPacketType = PacketType.joinResponse.toDword <;>
    by_cases accepts : response packet = true <;>
      simp [Delivery.isJoinResponse, joins, accepts]

/-- The loops end with the first join response: refused, or accepted with whatever the
deleted response reads as. -/
theorem waitForResponse_of_firstResponse (connector : ServerConnector)
    (delivers : Delivers reader fuel outer polls socket deliveries timedOut) {delivery : Delivery}
    (first : firstResponse deliveries = some delivery) :
    ∃ after, connector.waitForResponse reader fuel outer polls socket =
      if response delivery.packet then
        .returned true
          { connector.updateTcpSocket after with
            playerID := delivery.freed.1
            team := delivery.freed.2
            isConnected := true }
      else .returned false (connector.updateTcpSocket after).cleanUpSockets := by
  induction delivers with
  | leave => contradiction
  | timeout => contradiction
  | quiet inTime quiet _ ih =>
      rw [waitForResponse_cons_quiet inTime quiet]
      exact ih first
  | @packet _ poll _ _ packet next _ _ inTime active returned _ ih =>
      rw [waitForResponse_cons_packet inTime active returned]
      rw [firstResponse, List.find?_cons] at first
      split at first
      · rename_i joins
        cases first
        rw [if_pos joins]
        exact ⟨next, rfl⟩
      · rename_i skipped
        rw [if_neg (by rw [skipped]; exact Bool.false_ne_true)]
        exact ih first

/-- Without a join response the loops end with the timeout. -/
theorem waitForResponse_of_timeout (connector : ServerConnector)
    (delivers : Delivers reader fuel outer polls socket deliveries timedOut)
    (expires : timedOut = true) (none : firstResponse deliveries = none) :
    ∃ after, connector.waitForResponse reader fuel outer polls socket =
      .returned false (connector.updateTcpSocket after).cleanUpSockets := by
  induction delivers with
  | leave => contradiction
  | @timeout poll _ socket expired =>
      rw [waitForResponse, expired]
      exact ⟨socket, rfl⟩
  | quiet inTime quiet _ ih =>
      rw [waitForResponse_cons_quiet inTime quiet]
      exact ih expires none
  | packet inTime active returned _ ih =>
      rw [waitForResponse_cons_packet inTime active returned]
      rw [firstResponse, List.find?_cons] at none
      split at none
      · contradiction
      · rename_i skipped
        rw [if_neg (by rw [skipped]; exact Bool.false_ne_true)]
        exact ih expires none

end Waiting

/-! ## The outcome -/

/-- What the call promises about the delivered packets: it answers to the first join
response alone. -/
structure Answers (deliveries : List Delivery) (timedOut : Bool) (outcome : Outcome) : Prop where
  accepted : ∀ delivery, firstResponse deliveries = some delivery →
    response delivery.packet = true →
      ∃ connector team, outcome = .returned true connector ∧
        connector.isConnectedToServer = true ∧
          (∀ context, connector.getPlayerID context = .ok (responsePlayerID delivery.packet)) ∧
            (∀ context, connector.getTeam context = .ok (Team.toDword team)) ∧
              team.toDword = responseTeam delivery.packet
  refused : ∀ delivery, firstResponse deliveries = some delivery →
    response delivery.packet = false →
      ∃ connector, outcome = .returned false connector ∧ connector.isConnectedToServer = false
  unanswered : firstResponse deliveries = none → timedOut = true →
    ∃ connector, outcome = .returned false connector ∧ connector.isConnectedToServer = false

/-- An accepted first join response still reads as it was after it has been deleted,
and its team is one of the two. -/
def Faithful (deliveries : List Delivery) : Prop :=
  ∀ delivery, firstResponse deliveries = some delivery → response delivery.packet = true →
    delivery.freed = (responsePlayerID delivery.packet, responseTeam delivery.packet) ∧
      ∃ team : Team, responseTeam delivery.packet = team.toDword

section Outcome

variable {host : Host} {setup : Setup} {connector : ServerConnector} {socket : Socket}
  {reader : Reader} {fuel : Nat} {polls : List Poll} {deliveries : List Delivery}
  {timedOut : Bool}

/-- The getters answer with what is read after the deletion. -/
theorem Answers.faithful (idle : connector.isConnected = false)
    (requests : connector.requested host setup = some socket)
    (delivers : Delivers reader fuel true polls socket deliveries timedOut)
    (answers : Answers deliveries timedOut
      (connector.connectToServer host reader fuel setup polls)) : Faithful deliveries := by
  rcases connectToServer_of_requested idle requests with ⟨-, waiting, -, waitsFor⟩
  rw [waitsFor] at answers
  intro delivery first accepts
  rcases waiting.waitForResponse_of_firstResponse delivers first with
    ⟨after, outcome⟩
  rcases answers.accepted delivery first accepts with
    ⟨connected, team, returned, -, playerID, named, sameTeam⟩
  rw [outcome, if_pos accepts, Outcome.returned.injEq, and_iff_right rfl] at returned
  subst returned
  have idRead := ((getters_ok_iff "" _ _).1.mp (playerID "")).2
  have teamRead := ((getters_ok_iff "" _ _).2.mp (named "")).2
  exact ⟨Prod.ext idRead (teamRead.trans sameTeam), team, sameTeam.symm⟩

/-- Join handshake: when the sockets are opened and the request is sent, the call
answers to whatever is delivered as it should exactly when an accepted response
outlives its deletion and names one of the two teams. -/
theorem answers_iff (idle : connector.isConnected = false)
    (requests : connector.requested host setup = some socket)
    (delivers : Delivers reader fuel true polls socket deliveries timedOut) :
    Answers deliveries timedOut (connector.connectToServer host reader fuel setup polls) ↔
      Faithful deliveries := by
  constructor
  · exact fun answers => answers.faithful idle requests delivers
  · intro faithful
    rcases connectToServer_of_requested idle requests with ⟨-, waiting, unconnected, waitsFor⟩
    rw [waitsFor]
    refine ⟨?_, ?_, ?_⟩
    · intro delivery first accepts
      rcases waiting.waitForResponse_of_firstResponse delivers first with
        ⟨after, outcome⟩
      rcases faithful delivery first accepts with ⟨reads, team, named⟩
      rw [if_pos accepts] at outcome
      refine ⟨_, team, outcome, rfl, ?_, ?_, named.symm⟩
      · intro context
        exact (getters_ok_iff context _ _).1.mpr ⟨rfl, congrArg Prod.fst reads⟩
      · intro context
        exact (getters_ok_iff context _ _).2.mpr ⟨rfl, (congrArg Prod.snd reads).trans named⟩
    · intro delivery first refuses
      rcases waiting.waitForResponse_of_firstResponse delivers first with
        ⟨after, outcome⟩
      rw [refuses, if_neg Bool.false_ne_true] at outcome
      exact ⟨_, outcome, (isConnected_cleanUpSockets _).trans unconnected⟩
    · intro none expires
      rcases waiting.waitForResponse_of_timeout delivers expires none with
        ⟨after, outcome⟩
      exact ⟨_, outcome, (isConnected_cleanUpSockets _).trans unconnected⟩

end Outcome

/-- A poll at which a join response for player 3 arrives; once deleted it reads as
before. -/
def respondingPoll (team : Dword) : Poll :=
  ⟨false, [.data ((Message.joinResponse true 3 team).bytes .littleEndian)], fun _ => 0, (3, team)⟩

/-- Player 3 joins the mercenaries. -/
theorem answers_responding :
    ∃ deliveries, (firstResponse deliveries).isSome ∧ Answers deliveries false
      ((new "localhost" 43720 43720).connectToServer .littleEndian (reportingReader .littleEndian)
        2 opened [respondingPoll 1]) := by
  let response : Packet := (Message.joinResponse true 3 1).packet
  have delivers : Delivers (reportingReader .littleEndian) 2 true [respondingPoll 1]
      (((new "localhost" 43720 43720).requested .littleEndian opened).get rfl)
      [⟨response, (3, 1)⟩] false := .packet rfl rfl rfl .leave
  refine ⟨_, rfl, (answers_iff rfl (Option.some_get _).symm delivers).mpr ?_⟩
  intro delivery first accepts
  cases first
  exact ⟨rfl, .merc, rfl⟩

/-- Player 3 joins team 7, of which the getters speak as of any other. -/
theorem not_answers_responding :
    ¬ ∀ (host : Host) (setup : Setup) (connector : ServerConnector) (socket : Socket)
        (reader : Reader) (fuel : Nat) (polls : List Poll) (deliveries : List Delivery)
        (timedOut : Bool), connector.isConnected = false →
      connector.requested host setup = some socket →
        Delivers reader fuel true polls socket deliveries timedOut →
          Answers deliveries timedOut (connector.connectToServer host reader fuel setup polls) := by
  intro claimed
  let response : Packet := (Message.joinResponse true 3 7).packet
  have delivers : Delivers (reportingReader .littleEndian) 2 true [respondingPoll 7]
      (((new "localhost" 43720 43720).requested .littleEndian opened).get rfl)
      [⟨response, (3, 7)⟩] false := .packet rfl rfl rfl .leave
  have answers := claimed .littleEndian opened (new "localhost" 43720 43720) _ _ _ _ _ _ rfl
    (Option.some_get _).symm delivers
  rcases (answers.faithful rfl (Option.some_get _).symm delivers _ rfl rfl).2 with ⟨team, named⟩
  have seventh : (7 : Dword) = team.toDword := named
  cases team with
  | spy => exact absurd seventh (by decide)
  | merc => exact absurd seventh (by decide)

end ServerConnector

end LegendOfStealth.Connector

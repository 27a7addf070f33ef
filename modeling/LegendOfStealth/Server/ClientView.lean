import LegendOfStealth.Protocol.Wire
import LegendOfStealth.Server.Identity

/-!
# What a client knows of the roster

A client can replay what it is told: its own join response, then the joins and
leaves of others.  Nothing tells a new client who was there before it, so the
replay yields the clients from its own place in the vector on, and it hears of
departures of older players whom it never knew.
-/

namespace LegendOfStealth.Server

open LegendOfStealth.Library LegendOfStealth.Net LegendOfStealth.Protocol

/-- What a roster says of a player: the id and the team. -/
abbrev Entry := Dword × Dword

/-- The entry of a player. -/
def Player.entry (player : Player) : Entry :=
  (player.playerID, player.team.toDword)

/-- The roster after a message. -/
def replayStep (view : List Entry) : Message → List Entry
  | .joinResponse response playerID team => if response then view ++ [(playerID, team)] else view
  | .playerDidJoin playerID team => view ++ [(playerID, team)]
  | .playerDidLeave playerID => view.filter fun entry => entry.1 ≠ playerID
  | .joinRequest _ | .serverShutdown => view

/-- The roster that a list of messages leads to. -/
def replay (messages : List Message) : List Entry :=
  messages.foldl replayStep []

/-- The messages of some events. -/
def messagesOf (events : List Event) : List Message :=
  events.map Event.message

theorem announce_eq (host : Host) (events : List Event) :
    Event.announce host events = (messagesOf events).flatMap (Message.bytes host) := by
  rw [Event.announce, messagesOf, List.flatMap_map]

theorem mem_foldl_left {view : List Entry} {entry : Entry} (gone : List Player) :
    entry ∈ (messagesOf (gone.map Event.left)).foldl replayStep view ↔
      entry ∈ view ∧ ∀ player ∈ gone, player.playerID ≠ entry.1 := by
  induction gone generalizing view with
  | nil => simp [messagesOf]
  | cons player rest ih =>
      change entry ∈ (messagesOf (rest.map Event.left)).foldl replayStep
        (view.filter fun entry => entry.1 ≠ player.playerID) ↔ _
      rw [ih, List.mem_filter, List.forall_mem_cons, decide_eq_true_eq, and_assoc]
      rw [ne_comm (a := entry.1)]

theorem mem_foldl_joined {view : List Entry} {entry : Entry} (arrived : List Player) :
    entry ∈ (messagesOf (arrived.map Event.joined)).foldl replayStep view ↔
      entry ∈ view ∨ ∃ player ∈ arrived, entry = player.entry := by
  induction arrived generalizing view with
  | nil => simp [messagesOf]
  | cons player rest ih =>
      change entry ∈ (messagesOf (rest.map Event.joined)).foldl replayStep
        (view ++ [player.entry]) ↔ _
      rw [ih, List.mem_append, List.mem_singleton, or_assoc]
      simp

/-- A message keeps entries or introduces them. -/
theorem mem_replayStep {view : List Entry} {entry : Entry} {message : Message}
    (known : entry ∈ replayStep view message) : entry ∈ view ∨ Introduces entry.1 message := by
  cases message with
  | joinRequest port => exact .inl known
  | joinResponse response playerID team =>
      cases response with
      | false => exact .inl known
      | true =>
          apply (List.mem_append.mp known).imp id
          intro new
          rw [List.mem_singleton.mp new]
          exact ⟨rfl, rfl⟩
  | playerDidJoin playerID team =>
      apply (List.mem_append.mp known).imp id
      intro new
      rw [List.mem_singleton.mp new]
      exact rfl
  | playerDidLeave playerID => exact .inl (List.mem_filter.mp known).1
  | serverShutdown => exact .inl known

theorem exists_introduces {entry : Entry} {messages : List Message}
    (known : entry ∈ replay messages) : ∃ message ∈ messages, Introduces entry.1 message := by
  induction messages using List.reverseRecOn with
  | nil => simp [replay] at known
  | append_singleton messages message ih =>
      rw [replay, List.foldl_append] at known
      rcases mem_replayStep known with old | introduces
      · rcases ih old with ⟨earlier, member, introduces⟩
        exact ⟨earlier, List.mem_append_left _ member, introduces⟩
      · exact ⟨message, List.mem_append_right _ (List.mem_singleton_self _), introduces⟩

/-! ## The view of a client -/

/-- The messages put on a client's channel: its join response, then what is queued for
it. -/
def told (client : Client) (messages : List Message) : List Message :=
  Client.joinResponse client.player :: messages

/-- A leave packet carries an id that was introduced before, or an id that is older
than the client's own. -/
def LeavesExplained (client : Client) (heard : List Message) : Prop :=
  ∀ earlier id later, heard = earlier ++ .playerDidLeave id :: later →
    (∃ message ∈ earlier, Introduces id message) ∨ id < client.playerID

/-- The messages queued for a client lead to the entries of the players whose ids
are not older than its own. -/
structure Sees (host : Host) (server : Server) (client : Client) (messages : List Message) :
    Prop where
  queued : client.tcpQueued = messages.flatMap (Message.bytes host)
  roster : ∀ entry, entry ∈ replay (told client messages) ↔
    ∃ player ∈ server.players, client.playerID ≤ player.playerID ∧ entry = player.entry
  leaves : LeavesExplained client (told client messages)

namespace Ledger

section Turnover

variable {host : Host} {move : Move} {before after : Ledger}
  {staying gone arrived : List Player}

theorem Numbered.playerID_ne (numbered : Numbered before)
    (turnover : Turnover host move before after staying gone arrived) {first second : Player}
    (stays : first ∈ staying) (goes : second ∈ gone) : first.playerID ≠ second.playerID := by
  have distinct : (before.server.players.map Player.playerID).Nodup := by
    rw [List.Nodup, List.pairwise_map]
    apply numbered.increasing.imp
    intro first second less same
    rw [same] at less
    exact Nat.lt_irrefl _ less
  rw [← (turnover.split.map _).nodup_iff, List.map_append, List.nodup_append] at distinct
  exact distinct.2.2 _ (List.mem_map_of_mem stays) _ (List.mem_map_of_mem goes)

theorem Numbered.playerID_lt (numbered : Numbered before)
    (turnover : Turnover host move before after staying gone arrived) (few : after.calls ≤ idLimit)
    {old new : Player} (present : old ∈ before.server.players) (arrives : new ∈ arrived) :
    old.playerID < new.playerID := by
  have bound := (numbered.issued old present).2
  rcases turnover.eq_of_mem_arrived arrives with ⟨identifies, rfl⟩
  have given := (numbered.toNat_given turnover few identifies).2
  change old.playerID < before.server.nextPlayerId
  rw [BitVec.lt_def]
  omega

theorem sees_arrived (numbered : Numbered before)
    (turnover : Turnover host move before after staying gone arrived) (few : after.calls ≤ idLimit)
    {client : Client} (new : arrived = [client.player]) (queued : client.tcpQueued = []) :
    Sees host after.server client [] := by
  refine ⟨queued, ?_, ?_⟩
  · intro entry
    rw [turnover.players, new]
    constructor
    · intro itself
      rw [List.mem_singleton.mp itself]
      exact ⟨client.player, by simp, BitVec.le_refl _, rfl⟩
    · rintro ⟨player, member, young, rfl⟩
      rcases List.mem_append.mp member with stays | itself
      · have present := turnover.order.subset stays
        have older := numbered.playerID_lt turnover few present (new ▸ List.mem_singleton_self _)
        exact absurd young (BitVec.not_le.mpr older)
      · rw [List.mem_singleton.mp itself]
        exact List.mem_singleton_self _
  · intro earlier id later split
    cases earlier with
    | nil => cases split
    | cons first rest =>
        have nothing := (List.cons.inj split).2
        simp at nothing

theorem told_heard {survivor client : Client} {messages : List Message} {news : List Event}
    (player : survivor.player = client.player) :
    told survivor (messages ++ messagesOf news) = told client messages ++ messagesOf news := by
  rw [told, told, player, List.cons_append]

/-- The view of a client that stays follows a turnover. -/
theorem roster_heard (numbered : Numbered before)
    (turnover : Turnover host move before after staying gone arrived) (few : after.calls ≤ idLimit)
    {view : List Entry} {own : Player} (present : own ∈ before.server.players)
    (roster : ∀ entry, entry ∈ view ↔
      ∃ player ∈ before.server.players, own.playerID ≤ player.playerID ∧ entry = player.entry)
    {earlier later : List Player} (split : gone = earlier ++ later) (entry : Entry) :
    entry ∈ (messagesOf (earlier.map Event.left ++ arrived.map Event.joined ++
        later.map Event.left)).foldl replayStep view ↔
      ∃ player ∈ after.server.players, own.playerID ≤ player.playerID ∧ entry = player.entry := by
  have pieces : messagesOf (earlier.map Event.left ++ arrived.map Event.joined ++
      later.map Event.left) =
        messagesOf (earlier.map Event.left) ++ messagesOf (arrived.map Event.joined) ++
          messagesOf (later.map Event.left) := by
    simp [messagesOf]
  rw [pieces, List.foldl_append, List.foldl_append, mem_foldl_left, mem_foldl_joined,
    mem_foldl_left, roster, turnover.players]
  constructor
  · rintro ⟨⟨⟨player, member, young, rfl⟩, notEarlier⟩ | ⟨player, arrives, rfl⟩, notLater⟩
    · rcases List.mem_append.mp (turnover.split.mem_iff.mpr member) with stays | goes
      · exact ⟨player, List.mem_append_left _ stays, young, rfl⟩
      · rw [split] at goes
        rcases List.mem_append.mp goes with first | last
        · exact absurd rfl (notEarlier player first)
        · exact absurd rfl (notLater player last)
    · exact ⟨player, List.mem_append_right _ arrives,
        BitVec.le_of_lt (numbered.playerID_lt turnover few present arrives), rfl⟩
  · rintro ⟨player, member, young, rfl⟩
    have inGone : ∀ other, other ∈ earlier ∨ other ∈ later → other ∈ gone := by
      intro other member
      rw [split]
      exact List.mem_append.mpr member
    rcases List.mem_append.mp member with stays | arrives
    · have remains : ∀ other, other ∈ earlier ∨ other ∈ later →
          other.playerID ≠ player.playerID := fun other member =>
        (numbered.playerID_ne turnover stays (inGone other member)).symm
      exact ⟨.inl ⟨⟨player, turnover.order.subset stays, young, rfl⟩,
        fun other member => remains other (.inl member)⟩,
          fun other member => remains other (.inr member)⟩
    · refine ⟨.inr ⟨player, arrives, rfl⟩, ?_⟩
      intro other member same
      have old : other ∈ before.server.players :=
        turnover.split.mem_iff.mp (List.mem_append_right _ (inGone other (.inr member)))
      have less := numbered.playerID_lt turnover few old arrives
      rw [same] at less
      exact BitVec.lt_irrefl _ less

/-- The leave packets among the news are those of the players that go. -/
theorem exists_of_leave_mem {earlier later : List Player} (split : gone = earlier ++ later)
    {id : Dword} (isNews : .playerDidLeave id ∈ messagesOf (earlier.map Event.left ++
      arrived.map Event.joined ++ later.map Event.left)) :
    ∃ player ∈ gone, player.playerID = id := by
  rcases List.mem_map.mp isNews with ⟨event, member, same⟩
  cases event with
  | joined player => contradiction
  | left player =>
      cases same
      refine ⟨player, ?_, rfl⟩
      rw [split]
      simpa using member

/-- A departure of a younger player is heard after its arrival. -/
theorem leaves_heard (turnover : Turnover host move before after staying gone arrived)
    {survivor client : Client} {messages : List Message}
    (player : survivor.player = client.player) (sees : Sees host before.server client messages)
    {earlier later : List Player} (split : gone = earlier ++ later) :
    LeavesExplained survivor (told survivor (messages ++ messagesOf (earlier.map Event.left ++
      arrived.map Event.joined ++ later.map Event.left))) := by
  have ownID : survivor.playerID = client.playerID := congrArg Player.playerID player
  intro heard id rest shape
  rw [told_heard player] at shape
  rw [ownID]
  have fromNews : (∀ message ∈ told client messages, message ∈ heard) →
      .playerDidLeave id ∈ messagesOf (earlier.map Event.left ++ arrived.map Event.joined ++
        later.map Event.left) →
      (∃ message ∈ heard, Introduces id message) ∨ id < client.playerID := by
    intro allHeard isNews
    rcases exists_of_leave_mem split isNews with ⟨gonePlayer, goes, rfl⟩
    by_cases older : gonePlayer.playerID < client.playerID
    · exact .inr older
    · have present := turnover.split.mem_iff.mp (List.mem_append_right _ goes)
      have known := (sees.roster gonePlayer.entry).mpr
        ⟨gonePlayer, present, BitVec.not_lt.mp older, rfl⟩
      rcases exists_introduces known with ⟨message, member, introduces⟩
      exact .inl ⟨message, allHeard message member, introduces⟩
  rcases List.append_eq_append_iff.mp shape with ⟨between, heardEq, newsEq⟩ |
    ⟨between, toldEq, restEq⟩
  · apply fromNews
    · intro message member
      rw [heardEq]
      exact List.mem_append_left _ member
    · rw [newsEq]
      simp
  · cases between with
    | nil =>
        rw [List.append_nil] at toldEq
        apply fromNews
        · intro message member
          rwa [toldEq] at member
        · rw [← show .playerDidLeave id :: rest = messagesOf _ from restEq]
          exact List.mem_cons_self
    | cons first between =>
        cases restEq
        exact sees.leaves heard id between toldEq

theorem sees_heard (numbered : Numbered before)
    (turnover : Turnover host move before after staying gone arrived) (few : after.calls ≤ idLimit)
    {survivor client : Client} {messages : List Message} (member : client ∈ before.server.clients)
    (player : survivor.player = client.player) (sees : Sees host before.server client messages)
    {earlier later : List Player} (split : gone = earlier ++ later)
    (queued : survivor.tcpQueued = client.tcpQueued ++ Event.announce host
      (earlier.map Event.left ++ arrived.map Event.joined ++ later.map Event.left)) :
    Sees host after.server survivor (messages ++ messagesOf (earlier.map Event.left ++
      arrived.map Event.joined ++ later.map Event.left)) := by
  refine ⟨?_, ?_, leaves_heard turnover player sees split⟩
  · rw [queued, sees.queued, announce_eq, List.flatMap_append]
  · intro entry
    rw [told_heard player, replay, List.foldl_append,
      show survivor.playerID = client.player.playerID from congrArg Player.playerID player]
    exact roster_heard numbered turnover few (List.mem_map_of_mem member) sees.roster split entry

end Turnover

/-- Every client sees the players whose ids are not older than its own. -/
theorem exists_sees {host : Host} {ledger : Ledger}
    (reached : Reachable (advance host) (fun _ _ => True) initial ledger)
    (few : ledger.calls ≤ idLimit) {client : Client} (member : client ∈ ledger.server.clients) :
    ∃ messages, Sees host ledger.server client messages := by
  induction reached generalizing client with
  | start => exact absurd member List.not_mem_nil
  | next reached _ advanced ih =>
      rcases exists_turnover advanced with ⟨staying, gone, arrived, turnover⟩
      have fewBefore := (Nat.le_add_right ..).trans (turnover.calls ▸ few)
      have numbered := numbered_of_reachable reached fewBefore
      rcases turnover.hears client member with
        ⟨old, oldMem, player, earlier, later, split, queued⟩ | ⟨new, queued⟩
      · rcases ih fewBefore oldMem with ⟨messages, sees⟩
        exact ⟨_, sees_heard numbered turnover few oldMem player sees split queued⟩
      · exact ⟨[], sees_arrived numbered turnover few new queued⟩

/-- In a run whose TCP sends take a whole buffer or fail, the channel carries the
messages. -/
theorem tcpStream_of_atomic {host : Host} {ledger : Ledger}
    (reached : Reachable (advance host) (fun _ move => move.action.Atomic) initial ledger)
    {client : Client} (member : client ∈ ledger.server.clients) {messages : List Message}
    (queued : client.tcpQueued = messages.flatMap (Message.bytes host)) :
    client.tcpStream = (told client messages).flatMap (Message.bytes host) := by
  have coherent := (delivering_of_reachable (server_reachable reached)).2.2
  rw [(coherent client member).stream, queued]
  rfl

/-- A client's view of the roster: in every run whose TCP sends take a whole buffer or
fail and in which `GetNextPlayerID` has been called at most `2 ^ 32 - 1` times, the
bytes sent to a client and queued for it are those of packets that replay to the
client itself and the clients behind it, and that tell it of the departure of a
player whom it never knew only if that player's id is older. -/
theorem view_of_reachable {host : Host} {ledger : Ledger}
    (reached : Reachable (advance host) (fun _ move => move.action.Atomic) initial ledger)
    (few : ledger.calls ≤ idLimit) {before after : List Client} {client : Client}
    (shape : ledger.server.clients = before ++ client :: after) :
    ∃ heard, client.tcpStream = heard.flatMap (Message.bytes host) ∧
      (∀ entry, entry ∈ replay heard ↔
        entry ∈ (client :: after).map fun client => client.player.entry) ∧
      LeavesExplained client heard := by
  have member : client ∈ ledger.server.clients := by simp [shape]
  have reachedFreely : Reachable (advance host) (fun _ _ => True) initial ledger :=
    reached.mono fun _ _ _ => trivial
  rcases exists_sees reachedFreely few member with ⟨messages, sees⟩
  refine ⟨told client messages, tcpStream_of_atomic reached member sees.queued, ?_, sees.leaves⟩
  have increasing := (numbered_of_reachable reachedFreely few).clients_increasing
  rw [shape, List.pairwise_map, List.pairwise_append, List.pairwise_cons] at increasing
  rcases increasing with ⟨-, ⟨behind, -⟩, across⟩
  intro entry
  rw [sees.roster, List.mem_map]
  constructor
  · rintro ⟨player, present, young, rfl⟩
    rcases List.mem_map.mp present with ⟨other, otherMem, rfl⟩
    rw [shape] at otherMem
    rcases List.mem_append.mp otherMem with first | rest
    · exact absurd young (BitVec.not_le.mpr (across other first client List.mem_cons_self))
    · exact ⟨other, rest, rfl⟩
  · rintro ⟨other, rest, rfl⟩
    refine ⟨other.player, List.mem_map_of_mem (shape ▸ List.mem_append_right _ rest), ?_, rfl⟩
    rcases List.mem_cons.mp rest with rfl | later
    · exact BitVec.le_refl _
    · exact BitVec.le_of_lt (behind other later)

theorem atomic_joins (port : Dword) (isConnected : Addr → Bool) :
    (Move.handleConnection (.joining port isConnected)).action.Atomic := by
  simp [Move.action, Action.Atomic, Connection.joining, allOrNothing_acceptAll]

theorem atomic_secondLeaves : ∀ move ∈ secondLeaves, move.action.Atomic := by
  simp [secondLeaves, Move.joins, atomic_joins]

/-- Of three players that have joined and of whom the second has left, the first
sees itself and the third. -/
theorem view_of_reachable_secondLeaves :
    ∃ (ledger : Ledger) (client third : Client), ledger.server.clients = [client, third] ∧
      ∃ heard, client.tcpStream = heard.flatMap (Message.bytes .littleEndian) ∧
        (∀ entry, entry ∈ replay heard ↔ entry ∈ [(1, 1), (3, 1)]) ∧
        LeavesExplained client heard := by
  let ledger := (runActions (advance .littleEndian) secondLeaves initial).get (by decide)
  have reached : Reachable (advance .littleEndian) (fun _ move => move.action.Atomic) initial
      ledger :=
    .run (fun move member _ => atomic_secondLeaves move member) .start (Option.some_get _).symm
  obtain ⟨client, third, shape⟩ : ∃ client third, ledger.server.clients = [] ++ client :: [third] :=
    ⟨ledger.server.clients.get ⟨0, by decide⟩, ledger.server.clients.get ⟨1, by decide⟩, rfl⟩
  have entries : (client :: [third]).map (fun client => client.player.entry) = [(1, 1), (3, 1)] := by
    rw [← List.nil_append (client :: [third]), ← shape]
    decide
  have view := view_of_reachable reached (by decide) shape
  rw [entries] at view
  exact ⟨ledger, client, third, shape, view⟩

/-! ### Ids that repeat -/

/-- A join request whose response is not sent. -/
def unanswered : Connection :=
  { Connection.joining 0 fun _ => true with send := fun _ => 0 }

/-- Such a request uses up an id and changes nothing else of the roster. -/
theorem advance_unanswered {host : Host} {ledger : Ledger} (room : ledger.server.HasRoom) :
    ∃ after, advance host (.handleConnection unanswered) ledger = some after ∧
      after.server.roster = ledger.server.roster ∧
      after.server.protoPhase = ledger.server.protoPhase ∧
      after.server.nextPlayerId = ledger.server.nextPlayerId + 1 := by
  have setup : ledger.server.SetupSucceeds unanswered :=
    ⟨⟨rfl, rfl⟩, fun _ _ => ⟨rfl, rfl, rfl, rfl⟩⟩
  have requests : unanswered.Requests := ⟨rfl, _, rfl, rfl⟩
  rcases succeeds_handleConnection_iff.mpr setup with ⟨after, handled⟩
  have acted : act host (Move.handleConnection unanswered).action ledger.server = some after :=
    toOption_eq_some_iff.mpr
      ((foldlM_cons_eq_ok_iff (handleConnection host)).mpr ⟨after, handled, rfl⟩)
  have counted := nextPlayerId_of_act acted
  rw [if_pos ⟨room, requests⟩] at counted
  have kept : after.roster = ledger.server.roster ∧
      after.protoPhase = ledger.server.protoPhase := by
    rcases handleConnection_cases handled with
      ⟨closed, -⟩ | ⟨-, -, socket, counter, -, rfl⟩ | ⟨admits, -⟩
    · exact absurd room closed
    · exact ⟨rfl, rfl⟩
    · exact absurd rfl admits.2.2
  exact ⟨_, advance_of_act acted, kept.1, kept.2, counted⟩

theorem atomic_unanswered : (Move.handleConnection unanswered).action.Atomic := by
  intro connection member
  rw [List.mem_singleton.mp member]
  exact fun _ => .inl rfl

theorem exists_unanswered {host : Host} {ledger : Ledger}
    (reached : Reachable (advance host) (fun _ move => move.action.Atomic) initial ledger)
    (room : ledger.server.HasRoom) (count : Nat) :
    ∃ last, Reachable (advance host) (fun _ move => move.action.Atomic) initial last ∧
      last.server.roster = ledger.server.roster ∧
      last.server.protoPhase = ledger.server.protoPhase ∧
      last.server.nextPlayerId = ledger.server.nextPlayerId + BitVec.ofNat 32 count := by
  induction count with
  | zero => exact ⟨ledger, reached, rfl, rfl, (BitVec.add_zero _).symm⟩
  | succ count ih =>
      rcases ih with ⟨last, reached, roster, phase, counted⟩
      have room : last.server.HasRoom := by
        rw [HasRoom, clients, roster, phase]
        exact room
      rcases @advance_unanswered host _ room with ⟨after, advanced, same, samePhase, next⟩
      refine ⟨after, .next reached atomic_unanswered advanced, same.trans roster, samePhase.trans phase, ?_⟩
      rw [next, counted, BitVec.add_assoc]
      congr 1
      exact (BitVec.ofNat_add count 1).symm

/-- The ledger of a server that one player has joined. -/
def firstJoins : Ledger :=
  (runActions (advance .littleEndian) [.joins 7] initial).get (by decide)

/-- The second client is found disconnected during a flush. -/
def secondKicked : Move :=
  .flushClientPacketQueues ⟨fun addr => addr != 1, fun _ => acceptAll, fun _ => acceptAll⟩

/-- Once the counter is back at one, a second player gets the first one's id and
takes it along when it leaves. -/
theorem queued_of_wrapped (history : List Event) (dropped : List Socket) :
    ((act .littleEndian (Move.joins 8).action
        ⟨.lobby, firstJoins.server.roster, 1, history, dropped⟩).bind
      (act .littleEndian secondKicked.action)).map
        (fun server => server.clients.map fun client => (client.tcpQueued, client.player)) =
      some [([Message.playerDidJoin 1 0, .playerDidLeave 1].flatMap (Message.bytes .littleEndian),
        ⟨0, 1, .merc⟩)] :=
  rfl

/-- In a run that makes the counter wrap, the only client is left with an empty
view. -/
theorem exists_wrapped :
    ∃ ledger client, Reachable (advance .littleEndian) (fun _ move => move.action.Atomic) initial
        ledger ∧
      ledger.server.clients = [client] ∧ client.player = ⟨0, 1, .merc⟩ ∧
        client.tcpStream = [.joinResponse true 1 1, .playerDidJoin 1 0, .playerDidLeave 1].flatMap
          (Message.bytes .littleEndian) := by
  have reached : Reachable (advance .littleEndian) (fun _ move => move.action.Atomic) initial
      firstJoins :=
    .run (fun move member _ => List.mem_singleton.mp member ▸ atomic_joins 7 _) .start
      (Option.some_get _).symm
  rcases exists_unanswered reached (by decide) idLimit with ⟨last, reached, roster, phase, counter⟩
  have shape : last.server = ⟨.lobby, firstJoins.server.roster, 1, last.server.history,
      last.server.dropped⟩ := by
    rw [← roster, show (1 : Dword) = last.server.nextPlayerId from counter.symm,
      show ProtocolPhase.lobby = last.server.protoPhase from phase.symm]
  have queued := queued_of_wrapped last.server.history last.server.dropped
  rw [← shape] at queued
  rcases Option.map_eq_some_iff.mp queued with ⟨server, acted, clients⟩
  rcases Option.bind_eq_some_iff.mp acted with ⟨middle, joined, flushed⟩
  rcases List.map_eq_singleton_iff.mp clients with ⟨client, alone, same⟩
  have reachedLast := Reachable.next
    (.next reached (atomic_joins 8 _) (advance_of_act joined))
    (show secondKicked.action.Atomic from fun _ => allOrNothing_acceptAll)
    (advance_of_act flushed)
  have player : client.player = ⟨0, 1, .merc⟩ := congrArg Prod.snd same
  refine ⟨_, client, reachedLast, alone, player, ?_⟩
  rw [tcpStream_of_atomic reachedLast (by simp [enter, record, alone]) (congrArg Prod.fst same), told,
    player]
  rfl

/-- The tag of a join response alone is no list of packets. -/
theorem tag_ne_flatMap (heard : List Message) :
    [PacketType.joinResponse.toByte] ≠ heard.flatMap (Message.bytes .littleEndian) := by
  cases heard with
  | nil => exact List.cons_ne_nil _ _
  | cons message rest =>
      intro same
      cases message <;> cases same

/-- A connection that takes one byte of the join response. -/
def truncated : Move :=
  .handleConnection { Connection.joining 7 fun _ => true with send := fun _ => 1 }

/-- A player that joins is not told who is there already.  Without the limit on the
calls of `GetNextPlayerID` a client need not even see itself, and if a send takes a
part of a buffer then what is on the channel is no list of packets. -/
theorem not_view_joins :
    (¬ ∀ (host : Host) (ledger : Ledger),
      Reachable (advance host) (fun _ move => move.action.Atomic) initial ledger →
        ∀ client ∈ ledger.server.clients, ∃ heard,
          client.tcpStream = heard.flatMap (Message.bytes host) ∧
            (∀ entry, entry ∈ replay heard ↔
              entry ∈ ledger.server.clients.map fun client => client.player.entry) ∧
            ∀ earlier id later, heard = earlier ++ .playerDidLeave id :: later →
              ∃ message ∈ earlier, Introduces id message) ∧
      (¬ ∀ (host : Host) (ledger : Ledger),
        Reachable (advance host) (fun _ move => move.action.Atomic) initial ledger →
          ∀ before client after, ledger.server.clients = before ++ client :: after →
            ∃ heard, client.tcpStream = heard.flatMap (Message.bytes host) ∧
              (∀ entry, entry ∈ replay heard ↔
                entry ∈ (client :: after).map fun client => client.player.entry) ∧
              LeavesExplained client heard) ∧
      ¬ ∀ (host : Host) (ledger : Ledger),
        Reachable (advance host) (fun _ _ => True) initial ledger → ledger.calls ≤ idLimit →
          ∀ client ∈ ledger.server.clients, ∃ heard : List Message,
            client.tcpStream = heard.flatMap (Message.bytes host) := by
  refine ⟨?_, ?_, ?_⟩
  · intro claimed
    let ledger := (runActions (advance .littleEndian) [.joins 7, .joins 8] initial).get (by decide)
    have reached : Reachable (advance .littleEndian) (fun _ move => move.action.Atomic) initial
        ledger :=
      .run (by simp [Move.joins, atomic_joins]) .start (Option.some_get _).symm
    rcases claimed .littleEndian ledger reached (ledger.server.clients.get ⟨1, by decide⟩)
      (List.get_mem ..) with ⟨heard, stream, roster, -⟩
    have alone : (ledger.server.clients.get ⟨1, by decide⟩).tcpStream =
        [.joinResponse true 2 0].flatMap (Message.bytes .littleEndian) := rfl
    rw [← ConcretePacket.messages_eq_of_flatMap_eq (alone.symm.trans stream)] at roster
    have known := (roster (1, 1)).mpr (by decide)
    revert known
    decide
  · intro claimed
    rcases exists_wrapped with ⟨ledger, client, reached, alone, player, stream⟩
    rcases claimed .littleEndian ledger reached [] client [] alone with
      ⟨heard, stream', roster, -⟩
    rw [← ConcretePacket.messages_eq_of_flatMap_eq (stream.symm.trans stream')] at roster
    have itself := (roster client.player.entry).mpr (by simp)
    rw [player] at itself
    revert itself
    decide
  · intro claimed
    let ledger := (runActions (advance .littleEndian) [truncated] initial).get (by decide)
    have reached : Reachable (advance .littleEndian) (fun _ _ => True) initial ledger :=
      .run (fun _ _ _ => trivial) .start (Option.some_get _).symm
    rcases claimed .littleEndian ledger reached (by decide)
      (ledger.server.clients.get ⟨0, by decide⟩) (List.get_mem ..) with ⟨heard, stream⟩
    exact tag_ne_flatMap heard stream

end Ledger

end LegendOfStealth.Server

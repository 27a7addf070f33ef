import LegendOfStealth.Server.Ledger

/-!
# Player identity

`GetNextPlayerID` counts in a 32-bit cell that starts at one.  Until the counter
has run through all its values, an id is larger than every id given before it:
ids grow along the vector, and an id that has been retired is not given again.
-/

namespace LegendOfStealth.Server

open LegendOfStealth.Library LegendOfStealth.Net LegendOfStealth.Protocol

/-- The number of calls after which `GetNextPlayerID` would return zero. -/
def idLimit : Nat := 2 ^ 32 - 1

/-- The message gives an id to a player. -/
def Introduces (id : Dword) : Message → Prop
  | .joinResponse response playerID _ => response = true ∧ playerID = id
  | .playerDidJoin playerID _ => playerID = id
  | _ => False

/-- The later message does not give away an id that the earlier one has retired. -/
def Retires (earlier later : Message) : Prop :=
  ∀ id, earlier = .playerDidLeave id → ¬ Introduces id later

namespace Ledger

/-- The ids in the vector are not zero and grow along it, and no id is given to a
player after a leave packet has carried it. -/
structure Identified (ledger : Ledger) : Prop where
  nonzero : ∀ client ∈ ledger.server.clients, client.playerID ≠ 0
  increasing : (ledger.server.clients.map Client.playerID).Pairwise (· < ·)
  retired : ledger.log.Pairwise Retires

/-- All ids in use or in the log come from the calls that were made. -/
structure Numbered (ledger : Ledger) : Prop where
  counter : ledger.server.nextPlayerId = BitVec.ofNat 32 (ledger.calls + 1)
  issued : ∀ player ∈ ledger.server.players,
    0 < player.playerID.toNat ∧ player.playerID.toNat ≤ ledger.calls
  increasing : ledger.server.players.Pairwise fun first second =>
    first.playerID.toNat < second.playerID.toNat
  left : ∀ id, .playerDidLeave id ∈ ledger.log → id.toNat ≤ ledger.calls
  retired : ledger.log.Pairwise Retires

theorem numbered_initial : Numbered initial :=
  ⟨rfl, by simp [initial, Server.initial, players, clients, Roster.empty], .nil,
    by simp [initial], .nil⟩

/-- Only the next player arrives, and only with a new id. -/
theorem Turnover.eq_of_mem_arrived {host : Host} {move : Move} {before after : Ledger}
    {staying gone arrived : List Player}
    (turnover : Turnover host move before after staying gone arrived) {player : Player}
    (arrives : player ∈ arrived) :
    move.Identifies before.server ∧ player = before.server.nextPlayer := by
  rcases turnover.identified with none | ⟨identifies, one⟩
  · rw [none] at arrives
    contradiction
  · rw [one] at arrives
    exact ⟨identifies, List.mem_singleton.mp arrives⟩

/-- A turnover adds leave packets of players that go, and messages about the
player that it gives an id. -/
theorem Turnover.exists_added {host : Host} {move : Move} {before after : Ledger}
    {staying gone arrived : List Player}
    (turnover : Turnover host move before after staying gone arrived) :
    ∃ added, after.log = before.log ++ added ∧
      ∀ message ∈ added,
        (∃ player ∈ gone, message = .playerDidLeave player.playerID) ∨
          move.Identifies before.server ∧
            (message = Client.joinResponse before.server.nextPlayer ∨
              message = (Event.joined before.server.nextPlayer).message) := by
  refine ⟨_, turnover.log.trans (List.append_assoc ..), ?_⟩
  intro message member
  rcases List.mem_append.mp member with responded | announced
  · split at responded
    · rename_i identifies
      exact .inr ⟨identifies, .inl (List.mem_singleton.mp responded)⟩
    · contradiction
  · rcases List.mem_map.mp announced with ⟨event, eventMem, rfl⟩
    rcases List.mem_append.mp eventMem with departs | joins
    · rcases List.mem_map.mp departs with ⟨player, playerMem, rfl⟩
      exact .inl ⟨player, playerMem, rfl⟩
    · rcases List.mem_map.mp joins with ⟨player, arrives, rfl⟩
      rcases turnover.eq_of_mem_arrived arrives with ⟨identifies, rfl⟩
      exact .inr ⟨identifies, .inr rfl⟩

/-- The id that a message about the next player gives away. -/
theorem eq_of_introduces {server : Server} {message : Message} {id : Dword}
    (about : message = Client.joinResponse server.nextPlayer ∨
      message = (Event.joined server.nextPlayer).message)
    (introduces : Introduces id message) : id = server.nextPlayerId := by
  rcases about with rfl | rfl
  · exact introduces.2.symm
  · exact introduces.symm

/-- Below the limit an id is one more than the number of earlier calls. -/
theorem Numbered.toNat_next {ledger : Ledger} (numbered : Numbered ledger)
    (few : ledger.calls + 1 ≤ idLimit) :
    ledger.server.nextPlayerId.toNat = ledger.calls + 1 := by
  rw [numbered.counter, BitVec.toNat_ofNat]
  apply Nat.mod_eq_of_lt
  rw [idLimit] at few
  omega

section Turnover

variable {host : Host} {move : Move} {before after : Ledger} {staying gone arrived : List Player}

/-- As long as the counter does not wrap, a new id is larger than all earlier
ones. -/
theorem Numbered.toNat_given (numbered : Numbered before)
    (turnover : Turnover host move before after staying gone arrived) (few : after.calls ≤ idLimit)
    (identifies : move.Identifies before.server) :
    after.calls = before.calls + 1 ∧
      before.server.nextPlayerId.toNat = before.calls + 1 := by
  have one : after.calls = before.calls + 1 := by rw [turnover.calls, if_pos identifies]
  exact ⟨one, numbered.toNat_next (one ▸ few)⟩

theorem Numbered.issued_old (numbered : Numbered before)
    (turnover : Turnover host move before after staying gone arrived) {player : Player}
    (member : player ∈ staying ∨ player ∈ gone) :
    0 < player.playerID.toNat ∧ player.playerID.toNat ≤ before.calls :=
  numbered.issued player (turnover.split.mem_iff.mp (List.mem_append.mpr member))

/-- The players after a turnover have the ids of the calls made, in order. -/
theorem Numbered.players (numbered : Numbered before)
    (turnover : Turnover host move before after staying gone arrived) (few : after.calls ≤ idLimit) :
    (∀ player ∈ after.server.players,
        0 < player.playerID.toNat ∧ player.playerID.toNat ≤ after.calls) ∧
      after.server.players.Pairwise fun first second =>
        first.playerID.toNat < second.playerID.toNat := by
  have more : before.calls ≤ after.calls := by
    rw [turnover.calls]
    exact Nat.le_add_right ..
  have new : ∀ player ∈ arrived,
      player.playerID.toNat = before.calls + 1 ∧ after.calls = before.calls + 1 := by
    intro player arrives
    rcases turnover.eq_of_mem_arrived arrives with ⟨identifies, rfl⟩
    exact (numbered.toNat_given turnover few identifies).symm
  rw [turnover.players]
  constructor
  · intro player member
    rcases List.mem_append.mp member with stays | arrives
    · have := numbered.issued_old turnover (.inl stays)
      omega
    · have := new player arrives
      omega
  · rw [List.pairwise_append]
    refine ⟨numbered.increasing.sublist turnover.order, ?_, ?_⟩
    · rcases turnover.identified with none | ⟨-, one⟩
      · rw [none]
        exact .nil
      · rw [one]
        exact List.pairwise_singleton ..
    · intro first stays second arrives
      have := (numbered.issued_old turnover (.inl stays)).2
      have := (new second arrives).1
      omega

/-- The log after a turnover gives no id away that it has retired. -/
theorem Numbered.log (numbered : Numbered before)
    (turnover : Turnover host move before after staying gone arrived) (few : after.calls ≤ idLimit) :
    (∀ id, .playerDidLeave id ∈ after.log → id.toNat ≤ before.calls) ∧
      after.log.Pairwise Retires := by
  rcases turnover.exists_added with ⟨added, logEq, about⟩
  have bound : ∀ id, .playerDidLeave id ∈ before.log ++ added → id.toNat ≤ before.calls := by
    intro id member
    rcases List.mem_append.mp member with earlier | new
    · exact numbered.left id earlier
    · rcases about _ new with ⟨player, goes, same⟩ | ⟨-, same | same⟩
      · cases same
        exact (numbered.issued_old turnover (.inr goes)).2
      · contradiction
      · contradiction
  have larger : ∀ message ∈ added, ∀ id, Introduces id message → id.toNat = before.calls + 1 := by
    intro message member id introduces
    rcases about message member with ⟨player, -, rfl⟩ | ⟨identifies, same⟩
    · exact introduces.elim
    · rw [eq_of_introduces same introduces]
      exact (numbered.toNat_given turnover few identifies).2
  have retires : ∀ earlier ∈ before.log ++ added, ∀ later ∈ added, Retires earlier later := by
    rintro earlier earlierMem later laterMem id rfl introduces
    have := bound id earlierMem
    have := larger later laterMem id introduces
    omega
  rw [logEq]
  refine ⟨bound, List.pairwise_append.mpr ⟨numbered.retired, ?_, ?_⟩⟩
  · apply List.pairwise_of_forall_sublist
    intro earlier later inside
    exact retires earlier (List.mem_append_right _ (inside.subset (by simp))) later
      (inside.subset (by simp))
  · intro earlier earlierMem later laterMem
    exact retires earlier (List.mem_append_left _ earlierMem) later laterMem

/-- Numbering survives a turnover, as long as the counter does not wrap. -/
theorem Numbered.turnover (numbered : Numbered before)
    (turnover : Turnover host move before after staying gone arrived) (few : after.calls ≤ idLimit) :
    Numbered after := by
  rcases numbered.players turnover few with ⟨issued, increasing⟩
  rcases numbered.log turnover few with ⟨left, retired⟩
  refine ⟨?_, issued, increasing, ?_, retired⟩
  · rw [turnover.counter, numbered.counter, turnover.calls]
    split
    · exact (BitVec.ofNat_add (before.calls + 1) 1).symm
    · exact BitVec.add_zero _
  · intro id member
    rw [turnover.calls]
    exact (left id member).trans (Nat.le_add_right ..)

end Turnover

theorem numbered_of_reachable {host : Host} {ledger : Ledger}
    (reached : Reachable (advance host) (fun _ _ => True) initial ledger)
    (few : ledger.calls ≤ idLimit) : Numbered ledger := by
  induction reached with
  | start => exact numbered_initial
  | next _ _ advanced ih =>
      rcases exists_turnover advanced with ⟨staying, gone, arrived, turnover⟩
      have fewBefore := few
      rw [turnover.calls] at fewBefore
      exact (ih ((Nat.le_add_right ..).trans fewBefore)).turnover turnover few

theorem Numbered.clients_increasing {ledger : Ledger} (numbered : Numbered ledger) :
    (ledger.server.clients.map Client.playerID).Pairwise (· < ·) := by
  have increasing := numbered.increasing
  rw [Server.players, List.pairwise_map] at increasing
  rw [List.pairwise_map]
  exact increasing.imp fun less => BitVec.lt_def.mpr less

/-! ## Identity -/

/-- Player identity: in every run in which `GetNextPlayerID` has been called at most
`2 ^ 32 - 1` times, ids are not zero, grow along the vector, and are not given
again after a leave packet has carried them. -/
theorem identified_of_reachable {host : Host} {ledger : Ledger}
    (reached : Reachable (advance host) (fun _ _ => True) initial ledger)
    (few : ledger.calls ≤ idLimit) : Identified ledger := by
  have numbered := numbered_of_reachable reached few
  refine ⟨?_, ?_, numbered.retired⟩
  · intro client member zero
    have positive := (numbered.issued client.player (List.mem_map_of_mem member)).1
    rw [show client.player.playerID = client.playerID from rfl, zero] at positive
    contradiction
  · exact numbered.clients_increasing

/-- Three players join; the second is found disconnected while the third is
announced. -/
def secondLeaves : List Move :=
  [.joins 7, .joins 8, .handleConnection (.joining 9 fun addr => addr != 1)]

/-- The first and the third player are left, and the id of the second is retired. -/
theorem identified_secondLeaves :
    ∃ ledger, ledger.server.clients.map Client.playerID = [1, 3] ∧
      .playerDidLeave 2 ∈ ledger.log ∧ Identified ledger :=
  ⟨(runActions (advance .littleEndian) secondLeaves initial).get (by decide), by decide,
    by decide, identified_of_reachable
      (.run (fun _ _ _ => trivial) .start (Option.some_get _).symm) (by decide)⟩

end Ledger

end LegendOfStealth.Server

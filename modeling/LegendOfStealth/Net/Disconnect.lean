import LegendOfStealth.Library.Transition
import LegendOfStealth.Net.Socket

/-!
# Noticing that a peer is gone

`IsConnectionOpen` knows of a lost connection what `GetPacket` has written down, and
`GetPacket` looks at the length that `GetData` has added up.  A receive call that
returns 0 or -1 shows in that length only if it is the first of its `GetData` call,
and then -1 shows as a length of -1.

`Watch` is a socket together with what its receive calls have returned; no
definition of the program reads the latter.
-/

namespace LegendOfStealth.Net

open LegendOfStealth.Library LegendOfStealth.Protocol

/-- A socket, whether a receive call on it has returned 0 or -1, and the lengths that
`GetData` has reported. -/
structure Watch where
  socket : Socket
  failed : Bool
  lengths : List Int

/-- One call of `GetPacket`: what its receive calls find, the memory that the buffer
is allocated from, and fuel for the parse loop. -/
structure Call where
  recvs : List Recv
  memory : Nat → Byte
  fuel : Nat

/-- A receive call that finds the connection closed, or fails. -/
def Recv.fails (recv : Recv) : Bool :=
  decide (recv.num ≤ 0)

theorem Recv.num_cases (recv : Recv) : 0 < recv.num ∨ recv.num = 0 ∨ recv.num = -1 := by
  cases recv with
  | data chunk =>
      change 0 < (chunk.length : Int) ∨ (chunk.length : Int) = 0 ∨ (chunk.length : Int) = -1
      omega
  | closed => exact .inr (.inl rfl)
  | error => exact .inr (.inr rfl)

theorem any_fails_eq_false_iff (recvs : List Recv) :
    recvs.any Recv.fails = false ↔ ∀ recv ∈ recvs, 0 < recv.num := by
  simp [Recv.fails]

theorem Socket.popPacket_keeps (socket : Socket) :
    socket.popPacket.2.protocol = socket.protocol ∧
      socket.popPacket.2.incoming = socket.incoming ∧
        socket.popPacket.2.tcpDisconnect = socket.tcpDisconnect := by
  rcases socket.popPacket_eq with ⟨pqueue, popped⟩
  rw [popped]
  exact ⟨rfl, rfl, rfl⟩

/-- A call that makes no receive call leaves the connection as it was. -/
theorem Socket.getPacket_silent {reader : Reader} {memory : Nat → Byte} {fuel : Nat}
    (socket : Socket) {next : Socket} {packet : Option Packet} (silent : socket.incoming = [])
    (returned : socket.getPacket reader memory fuel = some (packet, next)) :
    next.tcpDisconnect = socket.tcpDisconnect := by
  rw [getPacket] at returned
  by_cases empty : socket.pqueue = []
  · have inactive : socket.hasActivity = false := by simp [hasActivity, empty, silent]
    rw [if_neg (not_not.mpr empty), inactive, if_pos Bool.not_false] at returned
    cases returned
    rfl
  · rw [if_pos empty] at returned
    rw [← show _ = next from congrArg Prod.snd (Option.some.inj returned)]
    exact (popPacket_keeps socket).2.2

/-- A call on an idle TCP socket that receives something marks the socket as
disconnected exactly when the reported length is zero. -/
theorem Socket.getPacket_receives {reader : Reader} {memory : Nat → Byte} {fuel : Nat}
    (socket : Socket) {next : Socket} {packet : Option Packet} (tcp : socket.protocol = .tcp)
    (empty : socket.pqueue = []) (busy : socket.incoming ≠ [])
    (returned : socket.getPacket reader memory fuel = some (packet, next)) :
    ∃ state rest, getDataTCP memory socket.incoming = some (state, rest) ∧
      next.incoming = rest ∧
        next.tcpDisconnect = (socket.tcpDisconnect || decide (state.totread = 0)) := by
  have active : socket.hasActivity = true := by simpa [hasActivity, empty] using busy
  rw [getPacket, if_neg (not_not.mpr empty), active, if_neg (by simp)] at returned
  cases got : getDataTCP memory socket.incoming with
  | none => simp [getData, tcp, got] at returned
  | some result =>
      rcases result with ⟨state, rest⟩
      refine ⟨state, rest, rfl, ?_⟩
      simp only [getData, tcp, got] at returned
      by_cases nothing : state.totread = 0
      · rw [if_pos nothing] at returned
        cases returned
        simp [nothing]
      · rw [if_neg nothing] at returned
        split at returned
        · contradiction
        · have same := congrArg Prod.snd (Option.some.inj returned)
          rcases popPacket_keeps _ with ⟨protocol, incoming, marked⟩
          rw [← show _ = next from same, incoming, marked]
          simp [nothing]

/-- A call that takes everything that comes in found the queue empty, unless nothing
came in. -/
theorem Socket.pqueue_eq_nil_of_exhausted {reader : Reader} {memory : Nat → Byte} {fuel : Nat}
    {socket next : Socket} {packet : Option Packet}
    (returned : socket.getPacket reader memory fuel = some (packet, next))
    (exhausted : next.incoming = []) (busy : socket.incoming ≠ []) : socket.pqueue = [] := by
  by_contra queued
  rw [Socket.getPacket, if_pos queued] at returned
  have same : socket.popPacket.2 = next := congrArg Prod.snd (Option.some.inj returned)
  rw [← same, (Socket.popPacket_keeps socket).2.1] at exhausted
  exact busy exhausted

namespace Watch

/-- A TCP socket that nothing has been received on. -/
def start (handle : Nat) : Watch :=
  ⟨.ofHandle .tcp handle [], false, []⟩

/-- The socket when a call is made. -/
def before (call : Call) (watch : Watch) : Socket :=
  { watch.socket with incoming := call.recvs }

/-- The length that `GetData` reports, if the call gets as far. -/
def reported (call : Call) (watch : Watch) : List Int :=
  if watch.socket.pqueue = [] then
    (((watch.before call).getData call.memory).map fun result => result.1.len).toList
  else []

/-- A call of `GetPacket`.  It is absent when the call does not return, or when it
does not make all the given receive calls. -/
def step (reader : Reader) : Step Call Watch := fun call watch =>
  match (watch.before call).getPacket reader call.memory call.fuel with
  | none => none
  | some (_, after) =>
      if after.incoming = [] then
        some
          { socket := after
            failed := watch.failed || call.recvs.any Recv.fails
            lengths := watch.lengths ++ watch.reported call }
      else none

/-- The socket knows whether its connection is open, and no length is negative. -/
structure Detects (watch : Watch) : Prop where
  detected : watch.socket.isConnectionOpen = !watch.failed
  lengths : ∀ len ∈ watch.lengths, 0 ≤ len

/-- The receive calls of a `GetPacket` call show what they find: the first does not
return -1, and if any finds the connection closed or fails, and the socket does not
know that already, it is the first. -/
structure Shows (watch : Watch) (call : Call) : Prop where
  noError : ∀ recv ∈ call.recvs.head?, recv.num ≠ -1
  first : watch.socket.tcpDisconnect = true ∨ (∃ recv ∈ call.recvs.head?, recv.num = 0) ∨
    ∀ recv ∈ call.recvs, 0 < recv.num

section Step

variable {reader : Reader} {call : Call} {watch next : Watch}

theorem Detects.tcpDisconnect_eq (detects : watch.Detects) :
    watch.socket.tcpDisconnect = watch.failed :=
  Bool.not_inj detects.detected

/-- Without receive calls no length is reported. -/
theorem reported_of_silent (tcp : watch.socket.protocol = .tcp) (silent : call.recvs = []) :
    watch.reported call = [] := by
  simp [reported, Socket.getData, before, tcp, silent, getDataTCP]

theorem reported_of_getDataTCP (tcp : watch.socket.protocol = .tcp)
    (empty : watch.socket.pqueue = []) {state : ReceiveState} {rest : List Recv}
    (got : getDataTCP call.memory call.recvs = some (state, rest)) :
    watch.reported call = [state.totread] := by
  simp [reported, Socket.getData, before, tcp, empty, got]

theorem step_cases (tcp : watch.socket.protocol = .tcp)
    (stepped : step reader call watch = some next) :
    (call.recvs = [] ∧ next.socket.protocol = .tcp ∧
        next.socket.tcpDisconnect = watch.socket.tcpDisconnect ∧ next.failed = watch.failed ∧
          next.lengths = watch.lengths) ∨
      ∃ recv rest len, call.recvs = recv :: rest ∧ next.socket.protocol = .tcp ∧
        next.socket.tcpDisconnect = (watch.socket.tcpDisconnect || decide (len = 0)) ∧
          next.failed = (watch.failed || call.recvs.any Recv.fails) ∧
            next.lengths = watch.lengths ++ [len] ∧
              (0 < len ↔ 0 < recv.num) ∧ (¬ 0 < recv.num → len = recv.num ∧ rest = []) := by
  unfold step at stepped
  split at stepped
  · contradiction
  rename_i packet after returned
  split at stepped
  · rename_i exhausted
    cases stepped
    have protocol : after.protocol = .tcp := (Socket.getPacket_keeps returned).1.trans tcp
    by_cases silent : call.recvs = []
    · left
      refine ⟨silent, protocol, ?_, ?_, ?_⟩
      · exact (watch.before call).getPacket_silent silent returned
      · simp [silent]
      · simp [reported_of_silent tcp silent]
    · right
      have empty : (watch.before call).pqueue = [] :=
        Socket.pqueue_eq_nil_of_exhausted returned exhausted silent
      rcases (watch.before call).getPacket_receives tcp empty silent returned with
        ⟨state, left, got, incoming, marked⟩
      rw [exhausted] at incoming
      subst incoming
      have reports : watch.reported call = [state.totread] := reported_of_getDataTCP tcp empty got
      rcases List.exists_cons_of_ne_nil silent with ⟨recv, rest, found⟩
      have received : getDataTCP call.memory (recv :: rest) = some (state, []) := found ▸ got
      refine ⟨recv, rest, state.totread, found, protocol, marked, rfl, by rw [reports],
        (getDataTCP_start received).1, ?_⟩
      intro nothing
      rw [getDataTCP_of_not_pos nothing] at received
      cases received
      exact ⟨rfl, rfl⟩
  · contradiction

/-- A socket that knew whether its connection is open still knows exactly when the
reported length says whether a receive call has failed, and is not negative. -/
theorem detects_iff_of_reports (detects : watch.Detects) {len : Int}
    (marks : next.socket.tcpDisconnect = (watch.socket.tcpDisconnect || decide (len = 0)))
    (fails : next.failed = (watch.failed || call.recvs.any Recv.fails))
    (reports : next.lengths = watch.lengths ++ [len]) :
    next.Detects ↔
      (watch.failed || decide (len = 0)) = (watch.failed || call.recvs.any Recv.fails) ∧
        0 ≤ len := by
  rw [detects.tcpDisconnect_eq] at marks
  constructor
  · rintro ⟨detected, lengths⟩
    rw [Socket.isConnectionOpen, marks, fails, Bool.not_inj_iff] at detected
    exact ⟨detected, lengths len (by simp [reports])⟩
  · rintro ⟨same, nonnegative⟩
    constructor
    · rw [Socket.isConnectionOpen, marks, fails, same]
    · intro other member
      rw [reports, List.mem_append, List.mem_singleton] at member
      rcases member with earlier | rfl
      · exact detects.lengths other earlier
      · exact nonnegative

/-- If the first receive call delivers, a later one must not fail unnoticed. -/
theorem shows_iff_of_delivers (detects : watch.Detects) {recv : Recv} {rest : List Recv}
    (found : call.recvs = recv :: rest) (delivers : 0 < recv.num) :
    watch.Shows call ↔ watch.failed = (watch.failed || call.recvs.any Recv.fails) := by
  have marked := detects.tcpDisconnect_eq
  constructor
  · rintro ⟨-, known | ⟨first, head, zero⟩ | all⟩
    · rw [← marked, known, Bool.true_or]
    · rw [found, List.head?_cons, Option.mem_some_iff] at head
      subst head
      omega
    · rw [(any_fails_eq_false_iff _).mpr all, Bool.or_false]
  · intro same
    constructor
    · intro first head
      rw [found, List.head?_cons, Option.mem_some_iff] at head
      subst head
      omega
    · cases known : watch.failed with
      | true => exact .inl (marked.trans known)
      | false =>
          rw [known, Bool.false_or] at same
          exact .inr (.inr ((any_fails_eq_false_iff _).mp same.symm))

/-- A call keeps the socket informed exactly when its receive calls show what they
find. -/
theorem detects_step_iff (tcp : watch.socket.protocol = .tcp) (detects : watch.Detects)
    (stepped : step reader call watch = some next) : next.Detects ↔ watch.Shows call := by
  rcases step_cases tcp stepped with ⟨silent, -, same, sameFailed, sameLengths⟩ |
    ⟨recv, rest, len, found, -, marks, fails, reports, positive, nothing⟩
  · apply iff_of_true
    · refine ⟨?_, sameLengths ▸ detects.lengths⟩
      rw [Socket.isConnectionOpen, same, sameFailed, detects.tcpDisconnect_eq]
    · exact ⟨by simp [silent], .inr (.inr (by simp [silent]))⟩
  rw [detects_iff_of_reports detects marks fails reports]
  rcases recv.num_cases with delivers | closed | error
  · have some := positive.mpr delivers
    rw [and_iff_left (Int.le_of_lt some), decide_eq_false (Int.ne_of_gt some), Bool.or_false]
    exact (shows_iff_of_delivers detects found delivers).symm
  · rcases nothing (by omega) with ⟨rfl, rfl⟩
    apply iff_of_true
    · simp [found, closed, Recv.fails]
    · refine ⟨fun first head => ?_, .inr (.inl ⟨recv, by simp [found], closed⟩)⟩
      rw [found, List.head?_cons, Option.mem_some_iff] at head
      subst head
      omega
  · rcases nothing (by omega) with ⟨rfl, rfl⟩
    apply iff_of_false
    · rintro ⟨-, nonnegative⟩
      omega
    · intro shows
      exact shows.noError recv (by simp [found]) error

end Step

/-- Disconnect detection: in every run of `GetPacket` calls on a TCP socket the socket
knows throughout whether its connection is open exactly when every call's receive
calls show what they find. -/
theorem detects_iff_shows (reader : Reader) (handle : Nat) (calls : List Call) :
    Always (step reader) Detects calls (start handle) ↔
      Meets (step reader) Shows calls (start handle) := by
  apply always_iff_meets fun watch => watch.socket.protocol = .tcp
  · intro watch call next tcp detects stepped
    refine ⟨?_, detects_step_iff tcp detects stepped⟩
    rcases step_cases tcp stepped with ⟨-, protocol, -⟩ | ⟨-, -, -, -, protocol, -⟩
    · exact protocol
    · exact protocol
  · rfl
  · exact ⟨rfl, by simp [start]⟩

/-- A receive error is not noticed. -/
theorem not_detects_error :
    ¬ ∀ (reader : Reader) (handle : Nat) (calls : List Call),
      Always (step reader) Detects calls (start handle) := by
  intro claimed
  have always := claimed (factoryReader .littleEndian) 0 [⟨[.error], fun _ => 0, 1⟩]
  have noticed := (always.2 _ rfl).head.detected
  revert noticed
  decide

end Watch

end LegendOfStealth.Net

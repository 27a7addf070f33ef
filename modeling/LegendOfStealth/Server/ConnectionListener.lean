import LegendOfStealth.Server.Loop

/-!
# Handing connections over

The listener thread appends accepted connections to `_newConnections`, and the server
thread takes them from the front.  Every access is a critical section under `_mutex`,
and the sections of the two threads interleave in any order.  `HasNewConnection` and
`GetNewSocket` are separate sections, and what `GetNewSocket` returns is used unchecked.
-/

namespace LegendOfStealth.Server

open LegendOfStealth.Library LegendOfStealth.Net

/-- `TCPsocket`: a handle, or the null pointer. -/
abbrev TCPsocket := Option Nat

/-- `ConnectionListener`, as far as both threads use it. -/
structure ConnectionListener where
  newConnections : List TCPsocket
  deriving DecidableEq

namespace ConnectionListener

/-- `AddNewSocket`. -/
def addNewSocket (socket : TCPsocket) (listener : ConnectionListener) : ConnectionListener :=
  if socket.isSome then ⟨listener.newConnections ++ [socket]⟩ else listener

/-- `HasNewConnection`: the size is compared as an `int`. -/
def hasNewConnection (listener : ConnectionListener) : Bool :=
  (BitVec.ofNat 32 listener.newConnections.length).toInt > 0

/-- The critical section of `GetNewSocket`: the local `socket`, null if there is no
connection. -/
def takeNewSocket (listener : ConnectionListener) : TCPsocket × ConnectionListener :=
  match listener.newConnections with
  | [] => (none, listener)
  | socket :: rest => (socket, ⟨rest⟩)

theorem newConnections_ne_nil {listener : ConnectionListener}
    (has : listener.hasNewConnection = true) : listener.newConnections ≠ [] := by
  intro none
  rw [hasNewConnection, none] at has
  exact absurd has (by decide)

end ConnectionListener

/-- A `GetNewSocket` call: whether `HasNewConnection` had returned true since the call
before it, and the socket that it took. -/
structure Fetch where
  checked : Bool
  socket : TCPsocket
  deriving DecidableEq

/-- The listener, the `GetNewSocket` call that the server thread is in, and what has
happened: whether `HasNewConnection` has returned true since the last `GetNewSocket`
call, the connections that were added, and the calls that have returned. -/
structure Threads where
  listener : ConnectionListener
  fetching : Option Fetch
  checked : Bool
  added : List Nat
  fetched : List Fetch
  deriving DecidableEq

namespace Threads

/-- The critical sections, and the return from a `GetNewSocket` call: `NULL` if it took
no connection, and otherwise a new `Socket`, whose constructor may throw.  Nothing
catches that. -/
inductive Action where
  | addNewSocket (socket : TCPsocket)
  | hasNewConnection
  | takeNewSocket
  | returnNewSocket (constructed : Bool)

/-- Before the first connection. -/
def start : Threads :=
  ⟨⟨[]⟩, none, false, [], []⟩

/-- One step of one thread.  The server thread makes one call after the other. -/
def step : Step Action Threads
  | .addNewSocket socket, threads =>
      some { threads with
        listener := threads.listener.addNewSocket socket
        added := threads.added ++ socket.toList }
  | .hasNewConnection, threads =>
      match threads.fetching with
      | some _ => none
      | none =>
          some { threads with
            checked := threads.checked || threads.listener.hasNewConnection }
  | .takeNewSocket, threads =>
      match threads.fetching with
      | some _ => none
      | none =>
          let (socket, listener) := threads.listener.takeNewSocket
          some { threads with
            listener := listener
            fetching := some ⟨threads.checked, socket⟩
            checked := false }
  | .returnNewSocket constructed, threads =>
      match threads.fetching with
      | none => none
      | some fetch =>
          if fetch.socket.isSome && !constructed then none
          else some { threads with fetching := none, fetched := threads.fetched ++ [fetch] }

/-- The connections of the sockets that `GetNewSocket` has returned. -/
def returned (threads : Threads) : List Nat :=
  threads.fetched.filterMap Fetch.socket

/-- The connection that a `GetNewSocket` call has taken and not yet returned. -/
def inHand (threads : Threads) : List Nat :=
  (threads.fetching.bind Fetch.socket).toList

/-- The connections are handed over in order, each once: those that have been returned
are the first of those that were added, and the others are in hand or wait.  A call
that follows a check has found one. -/
structure HandsOver (threads : Threads) : Prop where
  inOrder : threads.returned <+: threads.added
  conserved : threads.returned.map some ++ threads.inHand.map some ++
    threads.listener.newConnections = threads.added.map some
  found : ∀ fetch ∈ threads.fetched, fetch.checked = true → fetch.socket ≠ none
  finds : threads.checked = true → threads.listener.takeNewSocket.1 ≠ none

/-! ## The invariant -/

/-- What is known between the steps: no connection is lost, and a check holds until the
next call. -/
structure Consistent (threads : Threads) : Prop where
  conserved : threads.returned.map some ++ threads.inHand.map some ++
    threads.listener.newConnections = threads.added.map some
  waits : threads.checked = true → threads.listener.newConnections ≠ []
  took : ∀ fetch, threads.fetching = some fetch → fetch.checked = true → fetch.socket ≠ none
  found : ∀ fetch ∈ threads.fetched, fetch.checked = true → fetch.socket ≠ none

theorem consistent_start : Consistent start where
  conserved := rfl
  waits checked := absurd checked Bool.false_ne_true
  took _ calls := absurd calls.symm (Option.some_ne_none _)
  found _ member := absurd member List.not_mem_nil

variable {threads next : Threads}

theorem Consistent.ne_none (consistent : Consistent threads) {socket : TCPsocket}
    (waits : socket ∈ threads.listener.newConnections) : socket ≠ none := by
  have added : socket ∈ threads.added.map some := by
    rw [← consistent.conserved]
    exact List.mem_append_right _ waits
  rcases List.mem_map.mp added with ⟨handle, -, rfl⟩
  exact Option.some_ne_none handle

theorem Consistent.addNewSocket (consistent : Consistent threads) (socket : TCPsocket) :
    Consistent { threads with
      listener := threads.listener.addNewSocket socket
      added := threads.added ++ socket.toList } := by
  cases socket with
  | none =>
      have same : threads.added ++ (none : TCPsocket).toList = threads.added := List.append_nil _
      rw [same]
      exact ⟨consistent.conserved, consistent.waits, consistent.took, consistent.found⟩
  | some handle =>
      refine ⟨?_, ?_, consistent.took, consistent.found⟩
      · change _ ++ (threads.listener.newConnections ++ [some handle]) =
          (threads.added ++ [handle]).map some
        rw [List.map_append, ← consistent.conserved, ← List.append_assoc]
        rfl
      · intro _
        exact List.append_ne_nil_of_right_ne_nil _ (List.cons_ne_nil _ _)

/-- `GetNewSocket` takes the connection that has waited longest, if there is one. -/
theorem Consistent.takeNewSocket (consistent : Consistent threads)
    (idle : threads.fetching = none) :
    Consistent { threads with
      listener := threads.listener.takeNewSocket.2
      fetching := some ⟨threads.checked, threads.listener.takeNewSocket.1⟩
      checked := false } := by
  have conserved := consistent.conserved
  simp only [inHand, idle, Option.bind_none, Option.toList_none, List.map_nil, List.append_nil]
    at conserved
  refine ⟨?_, fun checked => absurd checked Bool.false_ne_true, ?_, consistent.found⟩
  · cases waiting : threads.listener.newConnections with
    | nil => simpa [ConnectionListener.takeNewSocket, waiting, inHand, returned] using conserved
    | cons socket rest =>
        have member : socket ∈ threads.listener.newConnections := waiting ▸ List.mem_cons_self
        rcases Option.ne_none_iff_exists'.mp (consistent.ne_none member) with ⟨handle, rfl⟩
        rw [waiting] at conserved
        simpa [ConnectionListener.takeNewSocket, waiting, inHand, returned] using conserved
  · intro fetch calls checked
    cases calls
    cases waiting : threads.listener.newConnections with
    | nil => exact absurd waiting (consistent.waits checked)
    | cons socket rest =>
        have member : socket ∈ threads.listener.newConnections := waiting ▸ List.mem_cons_self
        simpa [ConnectionListener.takeNewSocket, waiting] using consistent.ne_none member

/-- The call returns what it has taken. -/
theorem Consistent.returnNewSocket (consistent : Consistent threads) {fetch : Fetch}
    (calls : threads.fetching = some fetch) :
    Consistent { threads with fetching := none, fetched := threads.fetched ++ [fetch] } where
  conserved := by
    have conserved := consistent.conserved
    cases socket : fetch.socket <;>
      simpa [returned, inHand, calls, socket, List.filterMap_append] using conserved
  waits := consistent.waits
  took _ other := absurd other.symm (Option.some_ne_none _)
  found := by
    intro other member checked
    rcases List.mem_append.mp member with earlier | last
    · exact consistent.found other earlier checked
    · cases List.mem_singleton.mp last
      exact consistent.took fetch calls checked

theorem Consistent.step (consistent : Consistent threads) {action : Action}
    (stepped : Threads.step action threads = some next) : Consistent next := by
  cases action with
  | addNewSocket socket =>
      cases stepped
      exact consistent.addNewSocket socket
  | hasNewConnection =>
      rw [Threads.step] at stepped
      split at stepped
      · contradiction
      · cases stepped
        refine ⟨consistent.conserved, ?_, consistent.took, consistent.found⟩
        intro checked
        rcases Bool.or_eq_true_iff.mp checked with before | now
        · exact consistent.waits before
        · exact ConnectionListener.newConnections_ne_nil now
  | takeNewSocket =>
      rw [Threads.step] at stepped
      split at stepped
      · contradiction
      · rename_i idle
        cases stepped
        exact consistent.takeNewSocket idle
  | returnNewSocket constructed =>
      rw [Threads.step] at stepped
      split at stepped
      · contradiction
      · rename_i fetch calls
        split at stepped
        · contradiction
        · cases stepped
          exact consistent.returnNewSocket calls

theorem Consistent.handsOver (consistent : Consistent threads) : HandsOver threads where
  inOrder := by
    have prefixes : threads.returned.map some <+: threads.added.map some := by
      rw [← consistent.conserved, List.append_assoc]
      exact List.prefix_append _ _
    exact (List.prefix_map_iff_of_injective (Option.some_injective Nat)).mp prefixes
  conserved := consistent.conserved
  found := consistent.found
  finds checked := by
    cases waiting : threads.listener.newConnections with
    | nil => exact absurd waiting (consistent.waits checked)
    | cons socket rest =>
        have member : socket ∈ threads.listener.newConnections := waiting ▸ List.mem_cons_self
        simpa [ConnectionListener.takeNewSocket, waiting] using consistent.ne_none member

/-- Accepted connections: however the two threads interleave, the connections are
returned in the order in which they were added, each once, and a call that follows a
check finds one. -/
theorem always_handsOver (actions : List Action) :
    Always step HandsOver actions start := by
  have always : Always step Consistent actions start :=
    always_of_preserved (fun consistent stepped => consistent.step stepped) actions
      consistent_start
  exact always.mono fun _ consistent => consistent.handsOver

end Threads

end LegendOfStealth.Server

import LegendOfStealth.Net.Socket

/-!
# Sending bytes

`Socket::SendPacket` hands a whole buffer to the transport once and compares
the returned count with zero only.  What the transport returns is part of the
environment; the bytes it accepted are recorded in the socket.
-/

namespace LegendOfStealth.Net

open LegendOfStealth.Protocol

/-- What `SDLNet_TCP_Send` or `SDLNet_UDP_Send` returns for a buffer: the number
of bytes accepted, or the number of datagrams. -/
abbrev Transport := List Byte → Int

/-- The part of a buffer that a returned count means was accepted. -/
def acceptedBytes : TLProtocol → Int → List Byte → List Byte
  | .tcp, sent, buf => buf.take sent.toNat
  | .udp, sent, buf => if 0 < sent then buf else []

/-- A TCP transport that takes the whole buffer or fails. -/
def AllOrNothing (transport : Transport) : Prop :=
  ∀ buf, transport buf = 0 ∨ transport buf = buf.length

/-- The transport that takes every buffer. -/
def acceptAll : Transport :=
  fun buf => buf.length

theorem allOrNothing_acceptAll : AllOrNothing acceptAll :=
  fun _ => .inr rfl

/-- What `SDLNet_TCP_Send` may return for a buffer: -1 for an invalid socket, else the
number of bytes accepted before an error, if one occurred. -/
def InRange (transport : Transport) : Prop :=
  ∀ buf, -1 ≤ transport buf ∧ transport buf ≤ buf.length

theorem inRange_acceptAll : InRange acceptAll :=
  fun buf => ⟨by rw [acceptAll]; omega, Int.le_refl _⟩

/-- The transport takes nothing of a buffer, with the count that says so, or all of it. -/
def NothingOrAll (transport : Transport) (buf : List Byte) : Prop :=
  transport buf = 0 ∨ transport buf = buf.length

instance (transport : Transport) (buf : List Byte) : Decidable (NothingOrAll transport buf) :=
  inferInstanceAs (Decidable (_ ∨ _))

namespace Socket

/-- `SendPacket(byte*, int)`: whether it reports success, and the socket. -/
def sendBytes (transport : Transport) (buf : List Byte) (socket : Socket) : Bool × Socket :=
  let sent := transport buf
  (sent != 0, { socket with sent := socket.sent ++ acceptedBytes socket.protocol sent buf })

/-- `SendPacket(Packet*)`. -/
def sendPacket (host : Host) (transport : Transport) (packet : Packet) (socket : Socket) :
    Bool × Socket :=
  socket.sendBytes transport (packet.serialize host)

/-- On an all-or-nothing transport a reported success means that a TCP socket has
sent the whole buffer. -/
theorem sent_of_sendBytes {transport : Transport} (atomic : AllOrNothing transport)
    {buf : List Byte} {socket : Socket} (tcp : socket.protocol = .tcp)
    (succeeded : (socket.sendBytes transport buf).1 = true) :
    (socket.sendBytes transport buf).2.sent = socket.sent ++ buf := by
  rcases atomic buf with failed | accepted
  · simp [sendBytes, failed] at succeeded
  · simp [sendBytes, acceptedBytes, tcp, accepted]

/-- A TCP socket that reports success has sent the whole of a non-empty buffer exactly
when the transport takes nothing or all of it. -/
theorem sent_sendBytes_iff {transport : Transport} (range : InRange transport)
    {buf : List Byte} (nonempty : buf ≠ []) {socket : Socket} (tcp : socket.protocol = .tcp) :
    ((socket.sendBytes transport buf).1 = true →
        (socket.sendBytes transport buf).2.sent = socket.sent ++ buf) ↔
      NothingOrAll transport buf := by
  have bounds := range buf
  have positive : 0 < buf.length := List.length_pos_iff.mpr nonempty
  simp only [sendBytes, acceptedBytes, tcp, bne_iff_ne, List.append_cancel_left_eq, NothingOrAll]
  constructor
  · intro whole
    by_cases nothing : transport buf = 0
    · exact .inl nothing
    · have lengths := congrArg List.length (whole nothing)
      rw [List.length_take] at lengths
      omega
  · rintro (nothing | all) succeeded
    · exact absurd nothing succeeded
    · rw [all, Int.toNat_natCast, List.take_length]

end Socket

end LegendOfStealth.Net

import TeleportVM.Wire
import TeleportVM.Lib.Framing

/-!
Receiving on a peer connection. The engine collects bytes in the session's buffer until it
holds one packet, dispatches the packet and starts over.
-/
namespace TeleportVM

open Framing

/-- The part of `peer_session_t` that the receive loop works on. -/
structure PeerSession where
  packetBuffer : PacketBuffer
  bytesRead : Nat

/-- How a call of `recv` ends: with bytes, with `EAGAIN`, or with 0 or another error. -/
inductive RecvResult where
  | bytes (chunk : List UInt8)
  | wouldBlock
  | closed

namespace PeerSession

/-- A session as `accept` and `connect` set it up, and as a dispatch leaves it. -/
def cleared : PeerSession := ⟨fun _ => 0, 0⟩

/-- The length that `recv` is called with. -/
def request (s : PeerSession) : Nat := packetSize - s.bytesRead

/-- `recv` writes its bytes behind those already in the buffer. -/
def store (s : PeerSession) (chunk : List UInt8) : PeerSession where
  packetBuffer := overwrite s.packetBuffer s.bytesRead chunk
  bytesRead := s.bytesRead + chunk.length

/-- Dispatch a complete packet and clear the buffer. -/
def dispatch (s : PeerSession) : PeerSession × Option (DsmPacket PageBytes) :=
  if s.bytesRead = packetSize then (cleared, some (decodePacket s.packetBuffer)) else (s, none)

/-- The bytes that are not dispatched yet. -/
def pending (s : PeerSession) : List UInt8 := filled s.packetBuffer s.bytesRead

end PeerSession

/-- One connection: whether the engine is inside the receive loop, the packets dispatched so
far and, for the statements below, every byte received so far. -/
structure PeerConnection where
  session : PeerSession
  isOpen : Bool
  reading : Bool
  dispatched : List (DsmPacket PageBytes)
  received : List UInt8

/-- A wake-up of the engine for this connection, or the end of a `recv` call. -/
inductive PeerEvent where
  | wake (writable socketError : Bool)
  | recv (result : RecvResult)

namespace PeerConnection

def established : PeerConnection := ⟨.cleared, true, false, [], []⟩

/-- `recv` returned bytes. -/
def accept (c : PeerConnection) (chunk : List UInt8) : PeerConnection :=
  let result := (c.session.store chunk).dispatch
  { c with
    session := result.1
    dispatched := c.dispatched ++ result.2.toList
    received := c.received ++ chunk }

def step (c : PeerConnection) : PeerEvent → Option PeerConnection
  | .wake writable socketError =>
    if c.isOpen = true ∧ c.reading = false then
      if writable then
        -- the end of a connect: nothing is read in this wake-up
        some { c with isOpen := !socketError }
      else some { c with reading := true }
    else none
  | .recv result =>
    if c.isOpen = true ∧ c.reading = true then
      match result with
      | .bytes chunk =>
        if 0 < chunk.length ∧ chunk.length ≤ c.session.request then some (c.accept chunk) else none
      | .wouldBlock => some { c with reading := false }
      | .closed =>
        some { c with
          isOpen := false
          reading := false }
    else none

theorem step_bytes {c : PeerConnection} {chunk : List UInt8} (connected : c.isOpen = true)
    (reading : c.reading = true) (some : 0 < chunk.length) (fits : chunk.length ≤ c.session.request) :
    c.step (.recv (.bytes chunk)) = .some (c.accept chunk) := by
  simp [step, connected, reading, some, fits]

end PeerConnection

/-! ### The buffer -/

/-- The packet in a block of 4109 bytes. -/
def decodeBlock (block : List UInt8) : DsmPacket PageBytes := decodePacket fun i => block.getD i 0

theorem decodeBlock_ofFn (buffer : PacketBuffer) : decodeBlock (List.ofFn buffer) = decodePacket buffer := by
  apply congrArg decodePacket
  funext i
  rw [List.getD_eq_getElem?_getD, List.getElem?_ofFn, dif_pos i.isLt]
  rfl

namespace PeerSession

variable {s : PeerSession}

/-- A dispatch takes a full buffer, and leaves a shorter one as it is. -/
theorem dispatch_full (full : s.bytesRead = packetSize) :
    s.dispatch = (cleared, some (decodeBlock s.pending)) := by
  have whole : s.pending = List.ofFn s.packetBuffer := by
    rw [pending, full, filled_all]
  rw [dispatch, if_pos full, whole, decodeBlock_ofFn]

theorem dispatch_short (short : s.bytesRead ≠ packetSize) : s.dispatch = (s, none) := if_neg short

end PeerSession

/-! ### Runs -/

namespace PeerConnection

/-- The packets dispatched and the bytes in the buffer are the stream received, cut into
packets. -/
structure Framed (c : PeerConnection) : Prop where
  dispatched : c.dispatched = (frames packetSize c.received).map decodeBlock
  pending : leftover packetSize c.received = c.session.pending
  room : c.session.bytesRead < packetSize

theorem Framed.accept {c : PeerConnection} (framed : c.Framed) {chunk : List UInt8}
    (fits : chunk.length ≤ c.session.request) : (c.accept chunk).Framed := by
  have room := framed.room
  have inside : c.session.bytesRead + chunk.length ≤ packetSize := by
    simp only [PeerSession.request] at fits
    omega
  have stored : (c.session.store chunk).pending = c.session.pending ++ chunk :=
    filled_overwrite c.session.packetBuffer c.session.bytesRead chunk inside
  have length : (leftover packetSize c.received ++ chunk).length =
      c.session.bytesRead + chunk.length := by
    rw [framed.pending, List.length_append, PeerSession.pending, filled_length _ (by omega)]
  unfold PeerConnection.accept
  by_cases full : c.session.bytesRead + chunk.length = packetSize
  · -- the chunk completes a packet, and the buffer starts over
    obtain ⟨blocks, rest⟩ := append_full (show 0 < packetSize by decide) (length.trans full)
    rw [PeerSession.dispatch_full full]
    refine ⟨?_, ?_, by simp [PeerSession.cleared]⟩
    · rw [blocks, List.map_append, ← framed.dispatched, framed.pending, stored]
      rfl
    · rw [rest]
      exact (filled_zero _).symm
  · obtain ⟨blocks, rest⟩ := append_short (show (leftover packetSize c.received ++ chunk).length < _ by
      rw [length]; omega)
    rw [PeerSession.dispatch_short full]
    refine ⟨?_, ?_, Nat.lt_of_le_of_ne inside full⟩
    · simpa [blocks] using framed.dispatched
    · rw [rest, framed.pending]
      exact stored.symm

theorem Framed.step {c c' : PeerConnection} (framed : c.Framed) {e : PeerEvent}
    (next : c.step e = some c') : c'.Framed := by
  cases e with
  | wake writable socketError =>
    simp only [PeerConnection.step] at next
    split at next
    · split at next
      · cases next; exact { framed with }
      · cases next; exact { framed with }
    · cases next
  | recv result =>
    simp only [PeerConnection.step] at next
    split at next
    · cases result with
      | bytes chunk =>
        simp only at next
        split at next
        next permitted =>
          cases next
          exact framed.accept permitted.2
        · cases next
      | wouldBlock => cases next; exact { framed with }
      | closed => cases next; exact { framed with }
    · cases next

theorem established_framed : established.Framed where
  dispatched := by simp [established, frames_nil]
  pending := frames_nil.2.trans (filled_zero _).symm
  room := by decide

theorem framed_of_run {c : PeerConnection}
    (run : Runs.Run PeerConnection.step (fun _ _ => True) established c) : c.Framed :=
  run.invariant PeerConnection.Framed established_framed fun _ _ _ framed _ next => framed.step next

end PeerConnection

/-- However the stream is cut into chunks and wake-ups: the packets dispatched are its
consecutive 4109-byte blocks, the bytes that are left are in the buffer, and there is always
room for `recv` to read into. -/
theorem receive_framing (c : PeerConnection)
    (run : Runs.Run PeerConnection.step (fun _ _ => True) .established c) :
    c.dispatched = (frames packetSize c.received).map decodeBlock ∧
      leftover packetSize c.received = (List.ofFn c.session.packetBuffer).take c.session.bytesRead ∧
      c.session.bytesRead < packetSize ∧ 0 < c.session.request := by
  have framed := PeerConnection.framed_of_run run
  refine ⟨framed.dispatched, framed.pending, framed.room, ?_⟩
  exact Nat.sub_pos_of_lt framed.room

/-- A packet that arrives as its header and, after `EAGAIN`, its payload. -/
def splitPacket : List PeerEvent :=
  [.wake false false, .recv (.bytes (List.replicate 13 1)), .recv .wouldBlock, .wake false false,
    .recv (.bytes (List.replicate 4096 7))]

theorem receive_framing_split : ∃ c : PeerConnection, c.dispatched.length = 1 ∧
    c.dispatched = (frames packetSize c.received).map decodeBlock := by
  obtain ⟨c, run, one⟩ := Runs.exists_run PeerConnection.step (fun _ _ => True) .established
    splitPacket (fun c => c.dispatched.length = 1) (by decide +kernel)
  exact ⟨c, one, (receive_framing c run).1⟩

/-- Two connections that received the same bytes dispatched the same packets and have the same
bytes left in their buffers. -/
theorem segmentation_independent {c c' : PeerConnection}
    (run : Runs.Run PeerConnection.step (fun _ _ => True) .established c)
    (run' : Runs.Run PeerConnection.step (fun _ _ => True) .established c')
    (same : c.received = c'.received) :
    c.dispatched = c'.dispatched ∧ c.session.pending = c'.session.pending := by
  have framed := PeerConnection.framed_of_run run
  have framed' := PeerConnection.framed_of_run run'
  constructor
  · rw [framed.dispatched, framed'.dispatched, same]
  · rw [← framed.pending, ← framed'.pending, same]

end TeleportVM

import TeleportVM.Cluster
import Mathlib.Algebra.BigOperators.Group.Finset.Basic
import Mathlib.Algebra.BigOperators.Intervals

/-!
The memory image of `struct dsm_packet`: a packed record of 4109 bytes in the byte order of
the host, which is little-endian.
-/
namespace TeleportVM

/-- `sizeof(struct dsm_packet)`. -/
abbrev packetSize : Nat := 4109

/-- The bytes of one packet in memory. -/
abbrev PacketBuffer := Fin packetSize → UInt8

def MsgType.toByte : MsgType → UInt8
  | .requestPageRead => 1
  | .requestPageWrite => 2
  | .sendPage => 3
  | .nodeJoin => 4
  | .invalidate => 5
  | .invalidateAck => 6
  | .other code => code

def MsgType.ofByte (code : UInt8) : MsgType :=
  if code = 1 then .requestPageRead
  else if code = 2 then .requestPageWrite
  else if code = 3 then .sendPage
  else if code = 4 then .nodeJoin
  else if code = 5 then .invalidate
  else if code = 6 then .invalidateAck
  else .other code

/-! ### Integers in memory -/

/-- Byte `i` of an unsigned integer. -/
def integerByte (value i : Nat) : UInt8 := UInt8.ofNat (value / 256 ^ i)

/-- The unsigned integer in the `width` bytes from `offset`. -/
def readInteger (bytes : Nat → UInt8) (offset width : Nat) : Nat :=
  ∑ i ∈ Finset.range width, (bytes (offset + i)).toNat * 256 ^ i

theorem readInteger_integerByte {bytes : Nat → UInt8} {offset width value : Nat}
    (stored : ∀ i < width, bytes (offset + i) = integerByte value i) :
    readInteger bytes offset width = value % 256 ^ width := by
  induction width with
  | zero => simp [readInteger, Nat.mod_one]
  | succ width ih =>
    have digit : (integerByte value width).toNat = value / 256 ^ width % 256 := by
      simp [integerByte]
    rw [readInteger, Finset.sum_range_succ, stored width (Nat.lt_succ_self _), digit,
      Nat.mod_pow_succ, Nat.mul_comm (256 ^ width)]
    exact congrArg (· + _) (ih fun i bound => stored i (Nat.lt_succ_of_lt bound))

/-! ### Packets in memory -/

/-- Bytes of the buffer by their offset. -/
def PacketBuffer.byte (buffer : PacketBuffer) (offset : Nat) : UInt8 :=
  if inside : offset < packetSize then buffer ⟨offset, inside⟩ else 0

/-- The packet that a buffer holds: type in byte 0, page index in bytes 1 to 8, sender in
bytes 9 to 12, payload in the rest. -/
def decodePacket (buffer : PacketBuffer) : DsmPacket PageBytes where
  type := .ofByte (buffer 0)
  pageIndex := readInteger buffer.byte 1 8
  senderNodeId := readInteger buffer.byte 9 4
  payload i := buffer.byte (13 + i)

/-- The bytes of a packet in memory. -/
def packetImage (packet : DsmPacket PageBytes) : PacketBuffer := fun i =>
  if i.val = 0 then packet.type.toByte
  else if i.val < 9 then integerByte packet.pageIndex (i - 1)
  else if i.val < 13 then integerByte packet.senderNodeId (i - 9)
  else packet.payload (Fin.ofNat 4096 (i - 13))

/-- A packet whose fields fit into their types, with its type named where it has a name. -/
structure DsmPacket.Storable (packet : DsmPacket PageBytes) : Prop where
  type : MsgType.ofByte packet.type.toByte = packet.type
  pageIndex : packet.pageIndex < 2 ^ 64
  senderNodeId : packet.senderNodeId < 2 ^ 32

theorem byte_packetImage (packet : DsmPacket PageBytes) {offset : Nat} (inside : offset < packetSize) :
    PacketBuffer.byte (packetImage packet) offset = packetImage packet ⟨offset, inside⟩ := by
  rw [PacketBuffer.byte, dif_pos inside]

theorem decode_packetImage (packet : DsmPacket PageBytes) (storable : packet.Storable) :
    decodePacket (packetImage packet) = packet := by
  have pageIndex : readInteger (PacketBuffer.byte (packetImage packet)) 1 8 = packet.pageIndex := by
    refine (readInteger_integerByte fun i bound => ?_).trans
      (Nat.mod_eq_of_lt storable.pageIndex)
    rw [byte_packetImage packet (show 1 + i < 4109 by omega)]
    simp only [packetImage]
    rw [if_neg (by omega), if_pos (by omega), Nat.add_sub_cancel_left]
  have sender : readInteger (PacketBuffer.byte (packetImage packet)) 9 4 = packet.senderNodeId := by
    refine (readInteger_integerByte fun i bound => ?_).trans
      (Nat.mod_eq_of_lt storable.senderNodeId)
    rw [byte_packetImage packet (show 9 + i < 4109 by omega)]
    simp only [packetImage]
    rw [if_neg (by omega), if_neg (by omega), if_pos (by omega), Nat.add_sub_cancel_left]
  have payload (i : Fin 4096) :
      PacketBuffer.byte (packetImage packet) (13 + i) = packet.payload i := by
    rw [byte_packetImage packet (show 13 + i.val < 4109 by omega)]
    simp only [packetImage]
    rw [if_neg (by omega), if_neg (by omega), if_neg (by omega), Nat.add_sub_cancel_left]
    exact congrArg packet.payload (Fin.ext (Nat.mod_eq_of_lt i.isLt))
  unfold decodePacket
  rw [pageIndex, sender]
  congr 1
  · exact storable.type
  · funext i
    exact payload i

end TeleportVM

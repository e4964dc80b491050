import TeleportVM.Send
import TeleportVM.WellFormed

/-!
A link as a byte stream: the bytes in flight, and the session that receives them. Every packet
that a node sends fits into its bytes, and a stream of such packets is read back packet by packet.
-/
namespace TeleportVM

open Framing

/-! ### What a node sends -/

namespace Node

/-- Every packet that the node has sent fits into its bytes. -/
def SendsStorable (n : Node PageBytes) : Prop :=
  ∀ fd packet, Effect.send fd packet ∈ n.effects → packet.Storable

section Primitives

variable (n : Node PageBytes) (idx : Nat)

@[simp] theorem sendsStorable_sendAllNonblocking (fd : Int) (packet : DsmPacket PageBytes) :
    (n.sendAllNonblocking fd packet).SendsStorable ↔ n.SendsStorable ∧ packet.Storable := by
  constructor
  · intro sends
    exact ⟨fun fd' packet' old => sends fd' packet' (List.mem_append_left _ old),
      sends fd packet (List.mem_append_right _ List.mem_cons_self)⟩
  · rintro ⟨sends, stored⟩ fd' packet' member
    rcases List.mem_append.mp member with old | new
    · exact sends fd' packet' old
    · cases List.mem_singleton.mp new
      exact stored

/-- Other system calls are not sends. -/
theorem sendsStorable_append {effect : Effect PageBytes} (other : ∀ fd packet, effect ≠ .send fd packet)
    {n' : Node PageBytes} (effects : n'.effects = n.effects ++ [effect]) :
    n'.SendsStorable ↔ n.SendsStorable := by
  simp only [SendsStorable, effects, List.mem_append, List.mem_singleton]
  refine forall_congr' fun fd => forall_congr' fun packet => ?_
  rw [or_iff_left (other fd packet).symm]

@[simp] theorem sendsStorable_installPage (page : PageBytes) :
    (n.installPage idx page).SendsStorable ↔ n.SendsStorable :=
  n.sendsStorable_append (by simp) rfl

@[simp] theorem sendsStorable_liftWriteProtection :
    (n.liftWriteProtection idx).SendsStorable ↔ n.SendsStorable :=
  n.sendsStorable_append (by simp) rfl

@[simp] theorem sendsStorable_setStatus (status : PageStatus) :
    (n.setStatus idx status).SendsStorable ↔ n.SendsStorable := Iff.rfl

@[simp] theorem sendsStorable_setMapping (m : Mapping PageBytes) :
    (n.setMapping idx m).SendsStorable ↔ n.SendsStorable := Iff.rfl

@[simp] theorem sendsStorable_setPending (slot : CoordPending PageBytes) :
    (n.setPending idx slot).SendsStorable ↔ n.SendsStorable := Iff.rfl

@[simp] theorem sendsStorable_dsmMarkAccessed :
    (n.dsmMarkAccessed idx).SendsStorable ↔ n.SendsStorable := Iff.rfl

@[simp] theorem sendsStorable_invalidateLocalPageCopy :
    (n.invalidateLocalPageCopy idx).SendsStorable ↔ n.SendsStorable := Iff.rfl

@[simp] theorem sendsStorable_writeprotectLocalPageCopy :
    (n.writeprotectLocalPageCopy idx).SendsStorable ↔ n.SendsStorable := Iff.rfl

@[simp] theorem sendsStorable_transitionToShared (reader : Nat) :
    (n.transitionToShared idx reader).1.SendsStorable ↔ n.SendsStorable := Iff.rfl

@[simp] theorem sendsStorable_transitionToModified (writer : Nat) :
    (n.transitionToModified idx writer).1.SendsStorable ↔ n.SendsStorable := Iff.rfl

@[simp] theorem sendsStorable_registerSender (fd : Int) (node : Nat) :
    (n.registerSender fd node).SendsStorable ↔ n.SendsStorable := Iff.rfl

@[simp] theorem sendsStorable_ownDroppingLocal (writer : Nat) :
    (n.ownDroppingLocal idx writer).1.SendsStorable ↔ n.SendsStorable := by
  unfold ownDroppingLocal
  dsimp only
  split <;> simp

theorem SendsStorable.sendInvalidations {n : Node PageBytes} (sends : n.SendsStorable) {idx : Nat}
    (index : idx < 2 ^ 64) (targets : List Nat) : (n.sendInvalidations idx targets).SendsStorable := by
  intro fd packet member
  rcases List.mem_append.mp member with old | new
  · exact sends fd packet old
  · obtain ⟨m, -, same⟩ := List.mem_map.mp new
    cases same
    exact ⟨rfl, index, Nat.two_pow_pos 32⟩

end Primitives

variable {n : Node PageBytes} {idx : Nat}

theorem SendsStorable.upgradeLocalCopy (sends : n.SendsStorable) (index : idx < 2 ^ 64) :
    (n.upgradeLocalCopy idx).SendsStorable := by
  unfold Node.upgradeLocalCopy
  dsimp only
  split
  · exact SendsStorable.sendInvalidations (by simpa using sends) index _
  · simpa using sends

theorem SendsStorable.fetchFromOwner (sends : n.SendsStorable) (index : idx < 2 ^ 64)
    (id : n.localNodeId < 2 ^ 32) (requester : Nat) (type : MsgType) (clientFd : Int)
    (oldOwner : Nat) : (n.fetchFromOwner idx requester type clientFd oldOwner).SendsStorable := by
  have stored : (⟨.requestPageRead, idx, n.localNodeId, 0⟩ : DsmPacket PageBytes).Storable :=
    ⟨rfl, index, id⟩
  exact (sendsStorable_sendAllNonblocking _ _ _).mpr ⟨by simpa using sends, stored⟩

theorem SendsStorable.zeroFillLocal (sends : n.SendsStorable) (isWrite : Bool) :
    (n.zeroFillLocal idx isWrite).SendsStorable := by
  unfold Node.zeroFillLocal
  split <;> simpa using sends

theorem SendsStorable.serveQueuedRequest (sends : n.SendsStorable) {req : PageRequest}
    (index : req.pageIndex < 2 ^ 64) (id : n.localNodeId < 2 ^ 32) :
    (n.serveQueuedRequest req).SendsStorable := by
  have stored : (⟨requestType req.isWrite, req.pageIndex, n.localNodeId, 0⟩ :
      DsmPacket PageBytes).Storable :=
    ⟨by cases req.isWrite <;> rfl, index, id⟩
  unfold Node.serveQueuedRequest
  dsimp only
  split
  · exact (sendsStorable_sendAllNonblocking _ _ _).mpr ⟨sends, stored⟩
  · split
    · split
      · exact sends.upgradeLocalCopy index
      · exact sends
    · split
      · exact sends.fetchFromOwner index id _ _ _ _
      · exact sends.zeroFillLocal _

theorem SendsStorable.completePending (sends : n.SendsStorable) {packet : DsmPacket PageBytes}
    (stored : packet.Storable) : (n.completePending packet).SendsStorable := by
  unfold Node.completePending
  dsimp only
  split <;> simp [sends, stored]

theorem SendsStorable.replyToPendingWrite (sends : n.SendsStorable) {packet : DsmPacket PageBytes}
    (stored : packet.Storable) : (n.replyToPendingWrite packet).SendsStorable := by
  unfold Node.replyToPendingWrite
  dsimp only
  split
  · exact SendsStorable.sendInvalidations (by simpa using sends) stored.pageIndex _
  · exact SendsStorable.completePending (by simpa using sends) stored

theorem SendsStorable.acceptPage (sends : n.SendsStorable) (packet : DsmPacket PageBytes) :
    (n.acceptPage packet).SendsStorable := by
  unfold Node.acceptPage
  dsimp only
  split <;> simpa using sends

theorem SendsStorable.handleSendPage (sends : n.SendsStorable) {packet : DsmPacket PageBytes}
    (stored : packet.Storable) : (n.handleSendPage packet).SendsStorable := by
  unfold Node.handleSendPage
  dsimp only
  split
  · split
    · split
      · exact sends.replyToPendingWrite stored
      · exact SendsStorable.completePending (by simpa using sends) stored
    · exact sends.acceptPage packet
  · exact sends

theorem SendsStorable.handleInvalidate (sends : n.SendsStorable) {packet : DsmPacket PageBytes}
    (stored : packet.Storable) (id : n.localNodeId < 2 ^ 32) (clientFd : Int) :
    (n.handleInvalidate clientFd packet).SendsStorable := by
  have ack : (⟨.invalidateAck, packet.pageIndex, n.localNodeId, 0⟩ :
      DsmPacket PageBytes).Storable := ⟨rfl, stored.pageIndex, id⟩
  unfold Node.handleInvalidate
  dsimp only
  split
  · split <;> simp [sends, ack]
  · exact sends

theorem SendsStorable.grantDeferred (sends : n.SendsStorable) (index : idx < 2 ^ 64)
    (id : n.localNodeId < 2 ^ 32) : (n.grantDeferred idx).SendsStorable := by
  have payload : (⟨.sendPage, idx, n.localNodeId, (n.gpdPendingReqs idx).deferredPayload⟩ :
      DsmPacket PageBytes).Storable := ⟨rfl, index, id⟩
  unfold Node.grantDeferred
  dsimp only
  split
  · split <;> simpa using sends
  · simp [sends, payload]

theorem SendsStorable.handleInvalidateAck (sends : n.SendsStorable) {packet : DsmPacket PageBytes}
    (stored : packet.Storable) (id : n.localNodeId < 2 ^ 32) :
    (n.handleInvalidateAck packet).SendsStorable := by
  unfold Node.handleInvalidateAck
  dsimp only
  split
  · split
    · split
      · exact SendsStorable.grantDeferred (by simpa using sends) stored.pageIndex id
      · simpa using sends
    · exact sends
  · exact sends

theorem SendsStorable.deferOrSend (sends : n.SendsStorable) {response : DsmPacket PageBytes}
    (stored : response.Storable) (clientFd : Int) (requestingNode : Nat) (mask : BitVec 64) :
    (n.deferOrSend clientFd requestingNode mask response).SendsStorable := by
  unfold Node.deferOrSend
  dsimp only
  split
  · exact SendsStorable.sendInvalidations (by simpa using sends) stored.pageIndex _
  · simp [sends, stored]

theorem SendsStorable.serveZeroPage (sends : n.SendsStorable) (index : idx < 2 ^ 64)
    (id : n.localNodeId < 2 ^ 32) (clientFd : Int) (requestingNode : Nat) (isWrite : Bool) :
    (n.serveZeroPage clientFd idx requestingNode isWrite).SendsStorable := by
  have stored : (⟨.sendPage, idx, n.localNodeId, 0⟩ : DsmPacket PageBytes).Storable :=
    ⟨rfl, index, id⟩
  unfold Node.serveZeroPage
  dsimp only
  split
  · exact SendsStorable.deferOrSend (by simpa using sends) stored _ _ _
  · simp [sends, stored]

theorem SendsStorable.handlePageRequest (sends : n.SendsStorable) {packet : DsmPacket PageBytes}
    (stored : packet.Storable) (id : n.localNodeId < 2 ^ 32) {clientFd : Int} {n' : Node PageBytes}
    (handled : n.handlePageRequest clientFd packet = some n') : n'.SendsStorable := by
  have response (page : PageBytes) :
      (⟨.sendPage, packet.pageIndex, n.localNodeId, page⟩ : DsmPacket PageBytes).Storable :=
    ⟨rfl, stored.pageIndex, id⟩
  have registered : (n.registerSender clientFd packet.senderNodeId).SendsStorable := sends
  unfold Node.handlePageRequest at handled
  dsimp only at handled
  split at handled
  · split at handled
    · split at handled
      · cases handled
      next page _ =>
        split at handled
        · cases handled
          exact SendsStorable.deferOrSend (by simpa using sends) (response page) _ _ _
        · cases handled
          unfold Node.serveReadFromCopy
          dsimp only
          rw [sendsStorable_sendAllNonblocking]
          refine ⟨?_, response page⟩
          split <;> simpa using sends
    · split at handled
      · cases handled
        exact registered.fetchFromOwner stored.pageIndex id _ _ _ _
      · cases handled
        exact registered.serveZeroPage stored.pageIndex id _ _ _
  · cases handled
    exact sends

theorem SendsStorable.dispatchPacket (sends : n.SendsStorable) {packet : DsmPacket PageBytes}
    (stored : packet.Storable) (id : n.localNodeId < 2 ^ 32) {clientFd : Int} {n' : Node PageBytes}
    (handled : n.dispatchPacket clientFd packet = some n') : n'.SendsStorable := by
  unfold Node.dispatchPacket at handled
  split at handled
  · cases handled
    exact sends
  · cases handled
    exact sends.handleSendPage stored
  · cases handled
    exact sends.handleInvalidate stored id clientFd
  · cases handled
    exact sends.handleInvalidateAck stored id
  · exact sends.handlePageRequest stored id handled
  · exact sends.handlePageRequest stored id handled
  · cases handled
    exact sends

end Node

/-! ### A link -/

/-- The bytes that a packet puts on a connection. -/
def DsmPacket.image (packet : DsmPacket PageBytes) : List UInt8 := List.ofFn (packetImage packet)

theorem DsmPacket.image_length (packet : DsmPacket PageBytes) : packet.image.length = packetSize :=
  List.length_ofFn

theorem decodeBlock_packetImage {packet : DsmPacket PageBytes} (stored : packet.Storable) :
    decodeBlock packet.image = packet := by
  rw [DsmPacket.image, decodeBlock_ofFn]
  exact decode_packetImage packet stored

/-- One direction of a connection: the receiver's session and the bytes in flight to it. -/
structure ByteLink where
  session : PeerSession
  stream : List UInt8

namespace ByteLink

def push (l : ByteLink) (packets : List (DsmPacket PageBytes)) : ByteLink :=
  { l with stream := l.stream ++ packets.flatMap DsmPacket.image }

/-- `recv` returns `count` bytes. A packet that they complete leaves the buffer. -/
def recv (l : ByteLink) (count : Nat) : Option (ByteLink × Option (DsmPacket PageBytes)) :=
  if 0 < count ∧ count ≤ l.stream.length ∧ count ≤ l.session.request then
    let result := (l.session.store (l.stream.take count)).dispatch
    some (⟨result.1, l.stream.drop count⟩, result.2)
  else none

/-- The bytes in the buffer and in flight. -/
def remaining (l : ByteLink) : List UInt8 := l.session.pending ++ l.stream

/-- The packets that are still to be dispatched. -/
def packets (l : ByteLink) : List (DsmPacket PageBytes) :=
  (frames packetSize l.remaining).map decodeBlock

/-- The bytes of these packets are what remains, and there is room to read into. -/
structure Carries (l : ByteLink) (packets : List (DsmPacket PageBytes)) : Prop where
  remaining : l.remaining = packets.flatMap DsmPacket.image
  room : l.session.bytesRead < packetSize
  storable : ∀ packet ∈ packets, packet.Storable

variable {l l' : ByteLink} {packets : List (DsmPacket PageBytes)}

theorem Carries.packets_eq (carries : l.Carries packets) : l.packets = packets := by
  have blocks : frames packetSize (packets.map DsmPacket.image).flatten =
      packets.map DsmPacket.image := by
    apply frames_flatten SendCall.packetSize_pos
    intro block member
    obtain ⟨packet, -, rfl⟩ := List.mem_map.mp member
    exact packet.image_length
  rw [ByteLink.packets, carries.remaining, List.flatMap_def, blocks, List.map_map]
  conv_rhs => rw [← List.map_id packets]
  exact List.map_congr_left fun packet member =>
    decodeBlock_packetImage (carries.storable packet member)

theorem Carries.nil : Carries ⟨.cleared, []⟩ [] where
  remaining := List.append_nil _ |>.trans (filled_zero _)
  room := SendCall.packetSize_pos
  storable _ member := absurd member List.not_mem_nil

theorem Carries.push (carries : l.Carries packets) {sent : List (DsmPacket PageBytes)}
    (storable : ∀ packet ∈ sent, packet.Storable) : (l.push sent).Carries (packets ++ sent) where
  remaining := by
    have before := carries.remaining
    unfold ByteLink.remaining at before ⊢
    rw [List.flatMap_append, ← before]
    exact (List.append_assoc _ _ _).symm
  room := carries.room
  storable packet member :=
    (List.mem_append.mp member).elim (carries.storable packet) (storable packet)

theorem bytesRead_store {count : Nat} (present : count ≤ l.stream.length) :
    (l.session.store (l.stream.take count)).bytesRead = l.session.bytesRead + count :=
  congrArg (l.session.bytesRead + ·) (List.length_take_of_le present)

/-- What a `recv` does: its bytes complete the first packet of the link, or only move to the
buffer. -/
theorem Carries.recv (carries : l.Carries packets) {count : Nat}
    {completed : Option (DsmPacket PageBytes)} (next : l.recv count = some (l', completed)) :
    (completed = none ∧ l'.Carries packets) ∨
      ∃ packet rest, completed = some packet ∧ packets = packet :: rest ∧ l'.Carries rest := by
  unfold ByteLink.recv at next
  split at next
  next permitted =>
    obtain ⟨some, present, fits⟩ := permitted
    have room := carries.room
    have taken : (l.stream.take count).length = count := List.length_take_of_le present
    have inside : l.session.bytesRead + count ≤ packetSize := by
      simp only [PeerSession.request] at fits
      omega
    have stored : (l.session.store (l.stream.take count)).pending =
        l.session.pending ++ l.stream.take count :=
      filled_overwrite l.session.packetBuffer l.session.bytesRead _ (by rw [taken]; exact inside)
    have joined : (l.session.store (l.stream.take count)).pending ++ l.stream.drop count =
        packets.flatMap DsmPacket.image := by
      rw [stored, List.append_assoc, List.take_append_drop]
      exact carries.remaining
    have read := bytesRead_store present
    by_cases full : l.session.bytesRead + count = packetSize
    · -- the buffer holds the image of the first packet
      right
      rw [PeerSession.dispatch_full (read.trans full)] at next
      cases next
      -- the buffered bytes and those in flight agree block by block with the images
      have length : (l.session.store (l.stream.take count)).pending.length = packetSize := by
        rw [PeerSession.pending, read, full, filled_length _ le_rfl]
      cases packets with
      | nil =>
        rw [List.flatMap_nil, List.append_eq_nil_iff] at joined
        rw [joined.1] at length
        cases length
      | cons packet rest =>
        obtain ⟨stored, others⟩ := List.forall_mem_cons.mp carries.storable
        rw [List.flatMap_cons] at joined
        obtain ⟨block, left⟩ := List.append_inj joined (length.trans packet.image_length.symm)
        refine ⟨packet, rest, ?_, rfl, ?_, SendCall.packetSize_pos, others⟩
        · rw [block, decodeBlock_packetImage stored]
        · rw [ByteLink.remaining, ← left]
          exact congrArg (· ++ _) (filled_zero _)
    · -- the packet is still incomplete
      left
      rw [PeerSession.dispatch_short (by rw [read]; exact full)] at next
      cases next
      exact ⟨rfl, joined, by rw [read]; omega, carries.storable⟩
  · cases next

/-- The rest of a packet can be read at once. -/
theorem Carries.recv_whole {packet : DsmPacket PageBytes} {rest : List (DsmPacket PageBytes)}
    (carries : l.Carries (packet :: rest)) :
    ∃ l', l.recv l.session.request = some (l', some packet) ∧ l'.Carries rest := by
  have room := carries.room
  have length := congrArg List.length carries.remaining
  rw [ByteLink.remaining, List.length_append, PeerSession.pending, filled_length _ room.le,
    List.flatMap_cons, List.length_append, packet.image_length] at length
  have permitted : 0 < l.session.request ∧ l.session.request ≤ l.stream.length ∧
      l.session.request ≤ l.session.request := by
    simp only [PeerSession.request]
    omega
  have full : (l.session.store (l.stream.take l.session.request)).bytesRead = packetSize := by
    rw [bytesRead_store permitted.2.1, PeerSession.request]
    omega
  have next : l.recv l.session.request = some (⟨.cleared, l.stream.drop l.session.request⟩,
      some (decodeBlock (l.session.store (l.stream.take l.session.request)).pending)) := by
    rw [ByteLink.recv, if_pos permitted, PeerSession.dispatch_full full]
  rcases carries.recv next with ⟨incomplete, -⟩ | ⟨first, others, completed, same, left⟩
  · cases incomplete
  · cases same
    exact ⟨_, next.trans (by rw [completed]), left⟩

end ByteLink

end TeleportVM

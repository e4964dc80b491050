import TeleportVM.Receive

/-!
Sending on a peer connection: the three loops around `send`, and what a sequence of their
calls leaves on the connection. The callers ignore how a loop ended.
-/
namespace TeleportVM

open Framing

/-- How a call of `send` ends: it takes bytes, it fails with `EAGAIN`, or with another error.
After `EAGAIN`, `ready` says whether `poll` finds the descriptor writable in time. -/
inductive SendResult where
  | sent (count : Nat)
  | wouldBlock (ready : Bool)
  | failed
  deriving DecidableEq

/-- The bytes that `send` takes. -/
def SendResult.count : SendResult → Nat
  | .sent count => count
  | _ => 0

/-- The loop of the senders: the bytes taken so far when it ends, and what it returns. While
no further `send` has ended, the loop has not returned. -/
def sendLoop {ρ : Type} (goesOn : SendResult → Bool) (done : Nat → ρ) (broken : ρ) (len : Nat) :
    List SendResult → Nat → Nat × Option ρ
  | [], totalSent => (totalSent, if totalSent < len then none else some (done totalSent))
  | result :: results, totalSent =>
    if totalSent < len then
      if goesOn result then
        -- `send` is offered the rest of the packet and takes no more than that
        sendLoop goesOn done broken len results (totalSent + min result.count (len - totalSent))
      else (totalSent, some broken)
    else (totalSent, some (done totalSent))

/-- `EAGAIN` is retried when `poll` reports room. -/
def retriesReady : SendResult → Bool
  | .sent _ => true
  | .wouldBlock ready => ready
  | .failed => false

/-- Only bytes keep the loop going. -/
def retriesNothing : SendResult → Bool
  | .sent count => 0 < count
  | _ => false

def sendAllNonblocking (len : Nat) (results : List SendResult) : Nat × Option Int :=
  sendLoop retriesReady (fun totalSent => totalSent) (-1) len results 0

def sendAllBytes (len : Nat) (results : List SendResult) : Nat × Option Int :=
  sendLoop retriesNothing (fun _ => 0) (-1) len results 0

def sendPacketToNode (len : Nat) (results : List SendResult) : Nat × Option Unit :=
  sendLoop retriesNothing (fun _ => ()) () len results 0

/-- Who sends: the network engine, the eviction thread or the sequencer. -/
inductive Sender where
  | networkEngine
  | eviction
  | sequencer

/-- One packet handed to a sender, with the ends of the `send` calls it makes. -/
structure SendCall where
  sender : Sender
  packet : DsmPacket PageBytes
  results : List SendResult

namespace SendCall

/-- The bytes put on the connection, and whether the sender returned. -/
def run (call : SendCall) : Nat × Bool :=
  match call.sender with
  | .networkEngine => (sendAllNonblocking packetSize call.results).map id Option.isSome
  | .eviction => (sendAllBytes packetSize call.results).map id Option.isSome
  | .sequencer => (sendPacketToNode packetSize call.results).map id Option.isSome

def image (call : SendCall) : List UInt8 := List.ofFn (packetImage call.packet)

def transfer (call : SendCall) : Transfer UInt8 := .upTo call.image call.run.1

end SendCall

/-- The calls up to the first that does not return. Whatever a call returns, its caller goes on. -/
def happening : List SendCall → List SendCall
  | [] => []
  | call :: calls => if call.run.2 then call :: happening calls else [call]

/-- What the calls try to put on the connection and what they put there. -/
def attempts (calls : List SendCall) : List (Transfer UInt8) := (happening calls).map SendCall.transfer

/-! ### What one call puts on the connection -/

/-- The bytes taken before a result that ends the loop. -/
def acceptedBytes (goesOn : SendResult → Bool) (results : List SendResult) : Nat :=
  ((results.takeWhile goesOn).map SendResult.count).sum

theorem sendLoop_fst {ρ : Type} (goesOn : SendResult → Bool) (done : Nat → ρ) (broken : ρ) (len : Nat)
    (results : List SendResult) (totalSent : Nat) (inside : totalSent ≤ len) :
    (sendLoop goesOn done broken len results totalSent).1 =
      min len (totalSent + acceptedBytes goesOn results) := by
  induction results generalizing totalSent with
  | nil => simp [sendLoop, acceptedBytes, inside]
  | cons result results ih =>
    unfold sendLoop
    split
    next short =>
      split
      next goes =>
        rw [ih _ (by omega)]
        have more : acceptedBytes goesOn (result :: results) =
            result.count + acceptedBytes goesOn results := by
          simp [acceptedBytes, goes]
        omega
      next stops =>
        have nothing : acceptedBytes goesOn (result :: results) = 0 := by
          simp [acceptedBytes, stops]
        simp only
        omega
    next full =>
      simp only
      omega

namespace SendCall

def goesOn (call : SendCall) : SendResult → Bool :=
  match call.sender with
  | .networkEngine => retriesReady
  | .eviction | .sequencer => retriesNothing

/-- The bytes that `send` takes before a result at which the sender gives up. -/
def accepted (call : SendCall) : Nat := acceptedBytes call.goesOn call.results

/-- `send` takes a part of the packet before the sender gives up. -/
def StopsInside (call : SendCall) : Prop := 0 < call.accepted ∧ call.accepted < packetSize

/-- `send` takes bytes of the packet. -/
def Accepts (call : SendCall) : Prop := 0 < call.accepted

theorem run_fst (call : SendCall) : call.run.1 = min packetSize call.accepted := by
  unfold run accepted goesOn
  cases call.sender with
  | networkEngine => simp [sendAllNonblocking, sendLoop_fst]
  | eviction => simp [sendAllBytes, sendLoop_fst]
  | sequencer => simp [sendPacketToNode, sendLoop_fst]

theorem image_length (call : SendCall) : call.image.length = packetSize := List.length_ofFn

theorem packetSize_pos : 0 < packetSize := by decide

theorem image_nonempty (call : SendCall) : 0 < call.image.length := by
  rw [image_length]
  exact packetSize_pos

theorem placed_nil_iff (call : SendCall) : call.transfer.placed = [] ↔ ¬ call.Accepts := by
  rw [transfer, Transfer.placed_upTo_eq_nil call.image_nonempty, run_fst, Accepts]
  have := packetSize_pos
  omega

theorem placed_whole_iff (call : SendCall) :
    call.transfer.placed = call.transfer.block ↔ packetSize ≤ call.accepted := by
  rw [transfer, Transfer.placed_upTo_eq_block, image_length, run_fst]
  omega

theorem clean_iff (call : SendCall) : call.transfer.Clean ↔ ¬ call.StopsInside := by
  rw [transfer, Transfer.clean_upTo call.image_nonempty, image_length, run_fst, StopsInside]
  omega

end SendCall

/-! ### Sequences of calls -/

/-- After a sender has given up inside a packet, `send` takes nothing more. -/
def Steady (calls : List SendCall) : Prop :=
  (happening calls).Pairwise fun earlier later => earlier.StopsInside → ¬ later.Accepts

theorem untorn_transfers_iff (calls : List SendCall) :
    Untorn (calls.map SendCall.transfer) ↔
      calls.Pairwise fun earlier later => earlier.StopsInside → ¬ later.Accepts := by
  rw [untorn_iff_pairwise, List.pairwise_map]
  constructor
  · intro untorn
    refine untorn.imp fun silent stops => ?_
    rw [← SendCall.placed_nil_iff]
    exact silent fun clean => (SendCall.clean_iff _).mp clean stops
  · intro steady
    refine steady.imp fun {earlier later} silent torn => ?_
    rw [SendCall.placed_nil_iff]
    rw [SendCall.clean_iff, not_not] at torn
    exact silent torn

/-- The connection carries complete packets and at most one incomplete packet at the end,
exactly when no sender that gave up inside a packet is followed by one whose `send` takes bytes. -/
theorem untorn_iff_steady (calls : List SendCall) : Untorn (attempts calls) ↔ Steady calls :=
  untorn_transfers_iff (happening calls)

/-- The engine's `send` takes 100 bytes of a reply, then the link is full for longer than the
timeout of `poll`. The next reply goes through. -/
def congestedReplies : List SendCall :=
  [⟨.networkEngine, ⟨.sendPage, 0, 1, 0⟩, [.sent 100, .wouldBlock false]⟩,
    ⟨.networkEngine, ⟨.sendPage, 1, 1, 0⟩, [.sent 4109]⟩]

theorem congested_replies_torn : ¬ Untorn (attempts congestedReplies) := by
  rw [untorn_iff_pairwise]
  decide +kernel

/-! ### To the other end -/

/-- The packets whose sender got all of their bytes onto the connection. -/
def delivered (calls : List SendCall) : List (DsmPacket PageBytes) :=
  ((happening calls).filter fun call => packetSize ≤ call.accepted).map SendCall.packet

theorem decodeBlock_image {call : SendCall} (storable : call.packet.Storable) :
    decodeBlock call.image = call.packet := by
  rw [SendCall.image, decodeBlock_ofFn]
  exact decode_packetImage call.packet storable

theorem completed_attempts {calls : List SendCall}
    (storable : ∀ call ∈ calls, call.packet.Storable) :
    (completed (calls.map SendCall.transfer)).map decodeBlock =
      (calls.filter fun call => packetSize ≤ call.accepted).map SendCall.packet := by
  induction calls with
  | nil => rfl
  | cons call calls ih =>
    obtain ⟨first, others⟩ := List.forall_mem_cons.mp storable
    have rest := ih others
    have block : call.transfer.block = call.image := by
      rw [SendCall.transfer, Transfer.block_upTo]
    simp only [completed, List.map_cons, List.filter_cons, SendCall.placed_whole_iff,
      decide_eq_true_eq] at rest ⊢
    split
    · rw [List.map_cons, List.map_cons, List.map_cons, rest, block, decodeBlock_image first]
    · exact rest

/-- The receiver of a steady connection finds exactly the packets that were sent as a whole. -/
theorem frames_of_steady {calls : List SendCall} (steady : Steady calls)
    (storable : ∀ call ∈ happening calls, call.packet.Storable) :
    (frames packetSize (placedBy (attempts calls))).map decodeBlock = delivered calls := by
  have sizes : ∀ t ∈ attempts calls, t.block.length = packetSize ∧ t.placed <+: t.block := by
    intro t member
    obtain ⟨call, -, rfl⟩ := List.mem_map.mp member
    rw [SendCall.transfer]
    exact ⟨by rw [Transfer.block_upTo, call.image_length], Transfer.placed_upTo_prefix _ _⟩
  have untorn : Untorn (attempts calls) := by
    rw [attempts, untorn_transfers_iff]
    exact steady
  rw [frames_of_untorn SendCall.packetSize_pos sizes untorn]
  exact completed_attempts storable

/-- While the bytes of a steady connection arrive, however they are cut, the engine at the other end
dispatches the packets that were sent as a whole, in their order, and once all have arrived it has
dispatched every one of them. -/
theorem link_delivers {calls : List SendCall} (steady : Steady calls)
    (storable : ∀ call ∈ happening calls, call.packet.Storable) {c : PeerConnection}
    (run : Runs.Run PeerConnection.step (fun _ _ => True) .established c)
    (arrived : c.received <+: placedBy (attempts calls)) :
    c.dispatched <+: delivered calls ∧
      (c.received.length = (placedBy (attempts calls)).length → c.dispatched = delivered calls) := by
  have framed := PeerConnection.framed_of_run run
  have all := frames_of_steady steady storable
  constructor
  · obtain ⟨more, joined⟩ := arrived
    rw [framed.dispatched, ← all, ← joined, frames_append SendCall.packetSize_pos, List.map_append]
    exact List.prefix_append _ _
  · intro complete
    rw [framed.dispatched, ← all, arrived.eq_of_length complete]

/-- A reply of page 3 that the engine's `send` takes in two parts, with a wait in between. -/
def splitReply : SendCall :=
  ⟨.networkEngine, ⟨.sendPage, 3, 1, 0⟩, [.sent 100, .wouldBlock true, .sent 4009]⟩

theorem splitReply_happens : happening [splitReply] = [splitReply] := rfl

theorem splitReply_placed : placedBy (attempts [splitReply]) = splitReply.image := by
  have whole : splitReply.transfer.placed = splitReply.transfer.block :=
    splitReply.placed_whole_iff.mpr (by decide)
  rw [attempts, splitReply_happens, placedBy, List.map_singleton, List.map_singleton,
    List.flatten_singleton, whole]
  exact Transfer.block_upTo _ _

/-- The reply arrives in two parts that are cut at another place. -/
theorem link_delivers_split :
    ∃ c : PeerConnection, Runs.Run PeerConnection.step (fun _ _ => True) .established c ∧
      c.dispatched = [splitReply.packet] := by
  have size : packetSize = 4109 := rfl
  have length : splitReply.image.length = 4109 := splitReply.image_length
  let woken : PeerConnection := ⟨.cleared, true, true, [], []⟩
  let header := woken.accept (splitReply.image.take 13)
  have headerRead : header.session.bytesRead = 13 := by
    simp [header, woken, PeerConnection.accept, PeerSession.dispatch, PeerSession.store,
      PeerSession.cleared, length, size]
  have first : woken.step (.recv (.bytes (splitReply.image.take 13))) = some header :=
    PeerConnection.step_bytes rfl rfl (by simp [length]) (by
      simp [woken, length, PeerSession.request, PeerSession.cleared, size])
  have second : header.step (.recv (.bytes (splitReply.image.drop 13))) =
      some (header.accept (splitReply.image.drop 13)) :=
    PeerConnection.step_bytes rfl rfl (by simp [length]) (by
      simp [length, PeerSession.request, headerRead, size])
  have run : Runs.Run PeerConnection.step (fun _ _ => True) .established
      (header.accept (splitReply.image.drop 13)) :=
    ((Relation.ReflTransGen.single ⟨.wake false false, trivial, rfl⟩).tail
      ⟨_, trivial, first⟩).tail ⟨_, trivial, second⟩
  have received : (header.accept (splitReply.image.drop 13)).received =
      placedBy (attempts [splitReply]) := by
    change [] ++ splitReply.image.take 13 ++ splitReply.image.drop 13 = _
    rw [splitReply_placed, List.nil_append, List.take_append_drop]
  have steady : Steady [splitReply] := by
    rw [Steady, splitReply_happens]
    exact List.pairwise_singleton _ _
  have storable : ∀ call ∈ happening [splitReply], call.packet.Storable := by
    rw [splitReply_happens]
    intro call member
    rw [List.mem_singleton.mp member]
    exact ⟨rfl, by decide, by decide⟩
  have all := (link_delivers steady storable run (by rw [received])).2 (by rw [received])
  exact ⟨_, run, all⟩

end TeleportVM

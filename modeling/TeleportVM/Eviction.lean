import TeleportVM.Node

/-! The eviction thread: second-chance victim selection, writeback and drop. -/
namespace TeleportVM

variable {Page : Type}

/-- `get_local_msi_state`, from this node's own directory. -/
def Directory.localMsiState (d : Directory) (node idx : Nat) : MsiState :=
  if d.numPages ≤ idx then .invalid
  else
    match gpdGetState d idx with
    | .invalid => .invalid
    | .modified => if gpdGetOwner d idx = node then .modified else .invalid
    | .shared => if (gpdGetSharedMask d idx).getLsbD node then .shared else .invalid

/-- The entry stored by `set_local_msi_state`. -/
def GpdEntry.setLocal (e : GpdEntry) (node : Nat) (st : MsiState) : GpdEntry :=
  if st = .invalid then
    { state := st
      ownerNodeId := if e.ownerNodeId = node then 0 else e.ownerNodeId
      sharedNodesBitmap := e.sharedNodesBitmap &&& ~~~nodeBit node }
  else { e with state := st }

def Directory.setLocalMsiState (d : Directory) (node idx : Nat) (st : MsiState) : Directory :=
  if d.numPages ≤ idx then d else d.setEntry idx ((d.entry idx).setLocal node st)

namespace Node

/-- Write the page back when this node's directory calls it `MODIFIED`, every socket call
succeeding; `none` when the thread itself would fault on the absent page. -/
def writeback (n : Node Page) (networkFd : Int) (idx : Nat) : Option (Node Page) :=
  if n.directory.localMsiState n.localNodeId idx = .modified then
    (n.mapping idx).contents.map fun page =>
      n.sendAllNonblocking networkFd ⟨.sendPage, idx, n.localNodeId, page⟩
  else some n

/-- `MADV_DONTNEED`, ring status 0, directory `INVALID`. The page table is not touched. -/
def dropVictim (n : Node Page) (inspectIdx : Nat) : Node Page :=
  let victim := n.evictionRing inspectIdx
  { n.setMapping victim.pageIndex .unmapped with
    evictionRing := Function.update n.evictionRing inspectIdx { victim with status := 0 }
    directory := n.directory.setLocalMsiState n.localNodeId victim.pageIndex .invalid }

/-- The sweep of `dsm_execute_eviction`, with the iterations that are left. The result
carries the page evicted, or `none` for -1. -/
def evictionSweep (n : Node Page) (networkFd : Int) : Nat → Option (Node Page × Option Nat)
  | 0 => some (n, none)
  | iterations + 1 =>
    let inspectIdx := n.clockHand
    let advanced := { n with clockHand := (n.clockHand + 1) % n.numPages }
    let victim := advanced.evictionRing inspectIdx
    -- the second chance
    if victim.accessBit = 1 then
      evictionSweep
        { advanced with
          evictionRing := Function.update advanced.evictionRing inspectIdx { victim with accessBit := 0 } }
        networkFd iterations
    else if victim.status = 0 then evictionSweep advanced networkFd iterations
    else
      (advanced.writeback networkFd victim.pageIndex).map fun written =>
        (written.dropVictim inspectIdx, some victim.pageIndex)

def dsmExecuteEviction (n : Node Page) (networkFd : Int) : Option (Node Page × Option Nat) :=
  n.evictionSweep networkFd (n.numPages * 2)

end Node

end TeleportVM

import TeleportVM.Node

/-! The fault handler thread: one page-fault message at a time. -/
namespace TeleportVM

variable {Page : Type}

def queueCapacity : Nat := 128

namespace Node

/-- `queue_push`; `none` is its -1. -/
def queuePush (n : Node Page) (req : PageRequest) : Option (Node Page) :=
  if n.sharedReqQueue.length = queueCapacity then none
  else some { n with sharedReqQueue := n.sharedReqQueue ++ [req] }

/-- The status a fault leaves: a write fault on a valid page is an upgrade. -/
def faultStatus (status : PageStatus) (isWrite : Bool) : PageStatus :=
  if status = .valid ∧ isWrite then .writePending else .pending

/-- One `UFFD_EVENT_PAGEFAULT` inside the region. -/
def handleFault (n : Node Page) (fault : PageRequest) : Node Page :=
  let idx := fault.pageIndex
  if n.pageTable idx = .valid ∧ fault.isWrite = false then n
  else
    let marked := n.setStatus idx (faultStatus (n.pageTable idx) fault.isWrite)
    -- with the queue full the request is dropped
    (marked.queuePush fault).getD (marked.setStatus idx .empty)

end Node

end TeleportVM

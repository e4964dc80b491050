import TeleportVM.Node

/-!
The network engine: what its thread does with one queued request and with one packet.
Every send succeeds. A handler returns `none` when the engine's own thread would fault
on an absent page while copying it into a reply.
-/
namespace TeleportVM

variable {Page : Type} [Zero Page]

namespace Node

/-! ### Queued requests (the `SESSION_QUEUE` branch) -/

/-- A local write fault on a page that is present: upgrade to `MODIFIED`. The deferred
payload of the slot is left as it is. -/
def upgradeLocalCopy (n : Node Page) (idx : Nat) : Node Page :=
  let owned := n.transitionToModified idx n.localNodeId
  let targets := owned.1.connectedIn owned.2
  if 0 < targets.length then
    (owned.1.setPending idx
      { owned.1.gpdPendingReqs idx with
        requesterNodeId := n.localNodeId
        type := .requestPageWrite
        clientFd := -1
        expectedAcks := targets.length }).sendInvalidations idx targets
  else
    -- no sharers to invalidate: lift the write protection now
    owned.1.liftWriteProtection idx

/-- Record the request in the page's slot and ask the owner for its contents. -/
def fetchFromOwner (n : Node Page) (idx requester : Nat) (type : MsgType) (clientFd : Int)
    (oldOwner : Nat) : Node Page :=
  (n.setPending idx
    { n.gpdPendingReqs idx with
      requesterNodeId := requester
      type := type
      clientFd := clientFd
      expectedAcks := 0 }).sendAllNonblocking (n.nodeFds oldOwner)
    ⟨.requestPageRead, idx, n.localNodeId, 0⟩

/-- A local miss with no owner to ask: install a page of zeros. The mask of the write
transition is dropped. -/
def zeroFillLocal (n : Node Page) (idx : Nat) (isWrite : Bool) : Node Page :=
  let installed := n.installPage idx 0
  if isWrite then (installed.transitionToModified idx n.localNodeId).1
  else (installed.transitionToShared idx n.localNodeId).1

def requestType (isWrite : Bool) : MsgType :=
  if isWrite then .requestPageWrite else .requestPageRead

/-- One request popped from `shared_req_queue`. -/
def serveQueuedRequest (n : Node Page) (req : PageRequest) : Node Page :=
  let idx := req.pageIndex
  -- a worker passes every request on to the coordinator
  if n.coordinatorFd ≠ -1 then
    n.sendAllNonblocking n.coordinatorFd ⟨requestType req.isWrite, idx, n.localNodeId, 0⟩
  else
    let oldOwner := gpdGetOwner n.directory idx
    -- PAGE_WRITE_PENDING counts as present: the fault handler saw PAGE_VALID
    if n.pageTable idx = .valid ∨ n.pageTable idx = .writePending then
      if req.isWrite then n.upgradeLocalCopy idx else n
    else if oldOwner ≠ 0 ∧ oldOwner < 64 ∧ n.nodeFds oldOwner ≠ -1 then
      n.fetchFromOwner idx n.localNodeId (requestType req.isWrite) (-1) oldOwner
    else
      n.zeroFillLocal idx req.isWrite

/-! ### Packets -/

/-- `node_fds[node] = client_fd`, when the sender id is in range. -/
def registerSender (n : Node Page) (clientFd : Int) (node : Nat) : Node Page :=
  { n with nodeFds := if node < 64 then Function.update n.nodeFds node clientFd else n.nodeFds }

def handleNodeJoin (n : Node Page) (clientFd : Int) (packet : DsmPacket Page) : Node Page :=
  n.registerSender clientFd packet.senderNodeId

/-- Hand a fetched page to the pending request: install it or forward the packet. -/
def completePending (n : Node Page) (packet : DsmPacket Page) : Node Page :=
  let idx := packet.pageIndex
  let slot := n.gpdPendingReqs idx
  let granted :=
    -- the packet is forwarded as it came, with its sender
    if slot.requesterNodeId = n.localNodeId then n.installPage idx packet.payload
    else n.sendAllNonblocking slot.clientFd packet
  granted.setPending idx { granted.gpdPendingReqs idx with requesterNodeId := 0 }

/-- Take ownership for another node's write; when the mask lists this node, drop its copy
and clear its bit. -/
def ownDroppingLocal (n : Node Page) (idx writer : Nat) : Node Page × BitVec 64 :=
  let owned := n.transitionToModified idx writer
  if owned.2.getLsbD n.localNodeId ∧ n.localNodeId ≠ writer then
    (owned.1.invalidateLocalPageCopy idx, owned.2 &&& ~~~nodeBit n.localNodeId)
  else owned

/-- A fetched page for a pending write: take ownership for the requester, then invalidate
the other holders or grant at once. -/
def replyToPendingWrite (n : Node Page) (packet : DsmPacket Page) : Node Page :=
  let idx := packet.pageIndex
  let reqNode := (n.gpdPendingReqs idx).requesterNodeId
  let owned := n.ownDroppingLocal idx reqNode
  let targets := (owned.1.connectedIn owned.2).filter (· ≠ reqNode)
  -- the slot stays live, and the payload waits in it for the acknowledgements
  if 0 < targets.length then
    (owned.1.setPending idx
      { owned.1.gpdPendingReqs idx with
        expectedAcks := targets.length
        deferredPayload := packet.payload }).sendInvalidations idx targets
  else owned.1.completePending packet

/-- A page that no recorded request asked this node to pass on. -/
def acceptPage (n : Node Page) (packet : DsmPacket Page) : Node Page :=
  let idx := packet.pageIndex
  match n.pageTable idx with
  -- an upgrade keeps its own copy and ignores the payload
  | .writePending => (n.liftWriteProtection idx).dsmMarkAccessed idx
  | .pending | .empty => n.installPage idx packet.payload
  | .valid => n

def handleSendPage (n : Node Page) (packet : DsmPacket Page) : Node Page :=
  let idx := packet.pageIndex
  if idx < n.numPages then
    let slot := n.gpdPendingReqs idx
    -- only a coordinator has requests of others to complete
    if n.coordinatorFd = -1 ∧ slot.requesterNodeId ≠ 0 then
      if slot.type = .requestPageWrite then n.replyToPendingWrite packet
      else (n.transitionToShared idx slot.requesterNodeId).1.completePending packet
    else n.acceptPage packet
  else n

def handleInvalidate (n : Node Page) (clientFd : Int) (packet : DsmPacket Page) : Node Page :=
  let idx := packet.pageIndex
  if idx < n.numPages then
    -- dropped whatever the status was, also while a request of its own is pending
    let dropped := (n.setMapping idx .unmapped).setStatus idx .empty
    let ack : DsmPacket Page := ⟨.invalidateAck, idx, n.localNodeId, 0⟩
    if n.coordinatorFd ≠ -1 then dropped.sendAllNonblocking n.coordinatorFd ack
    else dropped.sendAllNonblocking clientFd ack
  else n

/-- The last acknowledgement: give the deferred payload or the write permission. -/
def grantDeferred (n : Node Page) (idx : Nat) : Node Page :=
  let slot := n.gpdPendingReqs idx
  let granted :=
    if slot.requesterNodeId = n.localNodeId then
      -- the coordinator's own request: an upgrade has no payload to install
      if n.pageTable idx = .writePending then (n.liftWriteProtection idx).dsmMarkAccessed idx
      else n.installPage idx slot.deferredPayload
    else
      n.sendAllNonblocking slot.clientFd ⟨.sendPage, idx, n.localNodeId, slot.deferredPayload⟩
  granted.setPending idx { granted.gpdPendingReqs idx with requesterNodeId := 0 }

def handleInvalidateAck (n : Node Page) (packet : DsmPacket Page) : Node Page :=
  let idx := packet.pageIndex
  if idx < n.numPages then
    let slot := n.gpdPendingReqs idx
    -- an acknowledgement nobody waits for is ignored
    if 0 < slot.expectedAcks then
      let counted := n.setPending idx { slot with expectedAcks := slot.expectedAcks - 1 }
      if slot.expectedAcks - 1 = 0 then counted.grantDeferred idx else counted
    else n
  else n

/-- Defer a remote write behind the invalidations it caused, or answer it at once. -/
def deferOrSend (n : Node Page) (clientFd : Int) (requestingNode : Nat) (mask : BitVec 64)
    (response : DsmPacket Page) : Node Page :=
  let idx := response.pageIndex
  let targets := (n.connectedIn mask).filter (· ≠ requestingNode)
  -- the whole slot is written, over whatever request was recorded in it
  if 0 < targets.length then
    (n.setPending idx
      { requesterNodeId := requestingNode
        type := .requestPageWrite
        clientFd := clientFd
        expectedAcks := targets.length
        deferredPayload := response.payload }).sendInvalidations idx targets
  else n.sendAllNonblocking clientFd response

/-- A remote write served from this node's `PAGE_VALID` copy, which is then dropped. -/
def serveWriteFromCopy (n : Node Page) (clientFd : Int) (idx requestingNode : Nat) (page : Page) :
    Node Page :=
  let owned := n.transitionToModified idx requestingNode
  (owned.1.invalidateLocalPageCopy idx).deferOrSend clientFd requestingNode
    (owned.2 &&& ~~~nodeBit n.localNodeId) ⟨.sendPage, idx, n.localNodeId, page⟩

/-- A remote read served from this node's `PAGE_VALID` copy. -/
def serveReadFromCopy (n : Node Page) (clientFd : Int) (idx requestingNode : Nat) (page : Page) :
    Node Page :=
  let shared := n.transitionToShared idx requestingNode
  let kept := if shared.2 = n.localNodeId then shared.1.writeprotectLocalPageCopy idx else shared.1
  kept.sendAllNonblocking clientFd ⟨.sendPage, idx, n.localNodeId, page⟩

/-- A remote request with no copy here and no owner to ask: answer with zeros. -/
def serveZeroPage (n : Node Page) (clientFd : Int) (idx requestingNode : Nat) (isWrite : Bool) :
    Node Page :=
  let response : DsmPacket Page := ⟨.sendPage, idx, n.localNodeId, 0⟩
  if isWrite then
    let owned := n.ownDroppingLocal idx requestingNode
    owned.1.deferOrSend clientFd requestingNode owned.2 response
  else
    (n.transitionToShared idx requestingNode).1.sendAllNonblocking clientFd response

def handlePageRequest (n : Node Page) (clientFd : Int) (packet : DsmPacket Page) :
    Option (Node Page) :=
  let idx := packet.pageIndex
  if idx < n.numPages then
    let requestingNode := packet.senderNodeId
    -- a request registers its connection as a join does
    let n := n.registerSender clientFd requestingNode
    let oldOwner := gpdGetOwner n.directory idx
    if n.pageTable idx = .valid then
      match (n.mapping idx).contents with
      -- reading a copy that is gone faults in the engine itself
      | none => none
      | some page =>
        if packet.type = .requestPageWrite then
          some (n.serveWriteFromCopy clientFd idx requestingNode page)
        else some (n.serveReadFromCopy clientFd idx requestingNode page)
    else if oldOwner ≠ 0 ∧ oldOwner < 64 ∧ n.nodeFds oldOwner ≠ -1 ∧ oldOwner ≠ requestingNode then
      some (n.fetchFromOwner idx requestingNode packet.type clientFd oldOwner)
    else
      some (n.serveZeroPage clientFd idx requestingNode (packet.type = .requestPageWrite))
  else some n

/-- One complete packet received on `clientFd`. -/
def dispatchPacket (n : Node Page) (clientFd : Int) (packet : DsmPacket Page) :
    Option (Node Page) :=
  match packet.type with
  | .nodeJoin => some (n.handleNodeJoin clientFd packet)
  | .sendPage => some (n.handleSendPage packet)
  | .invalidate => some (n.handleInvalidate clientFd packet)
  | .invalidateAck => some (n.handleInvalidateAck packet)
  | .requestPageRead | .requestPageWrite => n.handlePageRequest clientFd packet
  | .other _ => some n

end Node

end TeleportVM

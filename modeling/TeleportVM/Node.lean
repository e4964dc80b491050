import TeleportVM.Directory
import Mathlib.Logic.Function.Basic

/-! The state of one node, and the small operations its threads are made of. -/
namespace TeleportVM

/-- The type byte of a packet; `other` is a byte that no handler knows. -/
inductive MsgType where
  | requestPageRead
  | requestPageWrite
  | sendPage
  | nodeJoin
  | invalidate
  | invalidateAck
  | other (code : UInt8)
  deriving DecidableEq, Repr

def MsgType.isPageRequest : MsgType → Bool
  | .requestPageRead | .requestPageWrite => true
  | _ => false

theorem MsgType.isPageRequest_of {kind : MsgType}
    (request : kind = .requestPageRead ∨ kind = .requestPageWrite) : kind.isPageRequest = true := by
  rcases request with rfl | rfl <;> rfl

/-- `struct dsm_packet`, with the 4096 payload bytes as one value of type `Page`. -/
structure DsmPacket (Page : Type) where
  type : MsgType
  pageIndex : Nat
  senderNodeId : Nat
  payload : Page

/-- `page_status_t`, with the status 3 that the fault handler and the engine share. -/
inductive PageStatus where
  | empty
  | pending
  | valid
  | writePending
  deriving DecidableEq, Repr

structure PageRequest where
  pageIndex : Nat
  isWrite : Bool
  deriving DecidableEq, Repr

/-- How the kernel maps a page of the region, with the contents of a present page. -/
inductive Mapping (Page : Type) where
  | unmapped
  | readOnly (contents : Page)
  | readWrite (contents : Page)

/-- `coord_pending_t`. -/
structure CoordPending (Page : Type) where
  requesterNodeId : Nat
  type : MsgType
  clientFd : Int
  expectedAcks : Nat
  deferredPayload : Page

/-- `local_page_tracker_t`, an entry of the eviction ring. -/
structure LocalPageTracker where
  pageIndex : Nat
  status : Nat
  accessBit : Nat
  deriving DecidableEq, Repr

/-- The system calls of a handler that other nodes or application threads notice. -/
inductive Effect (Page : Type) where
  | send (fd : Int) (packet : DsmPacket Page)
  | uffdioCopy (pageIndex : Nat) (contents : Page)
  | uffdioUnprotect (pageIndex : Nat)

/-- One process. `num_pages`, `gpd_num_pages` and the ring's page count are all set from
the same `total_pages` by `main`, so the directory's count stands for the three.
`effects` lists the calls made since the node last gave up its thread. -/
structure Node (Page : Type) where
  localNodeId : Nat
  coordinatorFd : Int
  nodeFds : Nat → Int
  pageTable : Nat → PageStatus
  mapping : Nat → Mapping Page
  directory : Directory
  gpdPendingReqs : Nat → CoordPending Page
  sharedReqQueue : List PageRequest
  uffdMessages : List PageRequest
  evictionRing : Nat → LocalPageTracker
  clockHand : Nat
  effects : List (Effect Page)

variable {Page : Type}

/-! ### The kernel's side of a page -/

namespace Mapping

def contents : Mapping Page → Option Page
  | .unmapped => none
  | .readOnly page => some page
  | .readWrite page => some page

def isMapped : Mapping Page → Bool
  | .unmapped => false
  | _ => true

def isWritable : Mapping Page → Bool
  | .readWrite _ => true
  | _ => false

/-- `UFFDIO_COPY` with mode 0; `none` is `EEXIST`. -/
def uffdioCopy : Mapping Page → Page → Option (Mapping Page)
  | .unmapped, page => some (.readWrite page)
  | _, _ => none

/-- `UFFDIO_WRITEPROTECT` with `MODE_WP`. -/
def protect : Mapping Page → Mapping Page
  | .readWrite page => .readOnly page
  | m => m

/-- `UFFDIO_WRITEPROTECT` with mode 0. -/
def unprotect : Mapping Page → Mapping Page
  | .readOnly page => .readWrite page
  | m => m

/-- The copy, and on `EEXIST` once more after `MADV_DONTNEED`. -/
def copyPage (m : Mapping Page) (page : Page) : Mapping Page :=
  match m.uffdioCopy page with
  | some mapped => mapped
  | none => (Mapping.unmapped.uffdioCopy page).getD .unmapped

@[simp] theorem copyPage_eq (m : Mapping Page) (page : Page) : m.copyPage page = .readWrite page := by
  cases m <;> rfl

@[simp] theorem isMapped_protect (m : Mapping Page) : m.protect.isMapped = m.isMapped := by
  cases m <;> rfl

@[simp] theorem isMapped_unprotect (m : Mapping Page) : m.unprotect.isMapped = m.isMapped := by
  cases m <;> rfl

@[simp] theorem contents_protect (m : Mapping Page) : m.protect.contents = m.contents := by
  cases m <;> rfl

@[simp] theorem contents_unprotect (m : Mapping Page) : m.unprotect.contents = m.contents := by
  cases m <;> rfl

theorem isWritable_unprotect (m : Mapping Page) : m.unprotect.isWritable = m.isMapped := by
  cases m <;> rfl

theorem isMapped_of_isWritable {m : Mapping Page} (h : m.isWritable = true) : m.isMapped = true := by
  cases m <;> simp_all [isMapped, isWritable]

theorem isSome_contents (m : Mapping Page) : m.contents.isSome = m.isMapped := by
  cases m <;> rfl

theorem isMapped_iff (m : Mapping Page) : m.isMapped = true ↔ ∃ page, m.contents = some page := by
  cases m <;> simp [isMapped, contents]

end Mapping

namespace Node

def numPages (n : Node Page) : Nat := n.directory.numPages

def sendAllNonblocking (n : Node Page) (fd : Int) (packet : DsmPacket Page) : Node Page :=
  { n with effects := n.effects ++ [.send fd packet] }

def setStatus (n : Node Page) (idx : Nat) (status : PageStatus) : Node Page :=
  { n with pageTable := Function.update n.pageTable idx status }

def setMapping (n : Node Page) (idx : Nat) (m : Mapping Page) : Node Page :=
  { n with mapping := Function.update n.mapping idx m }

def setPending (n : Node Page) (idx : Nat) (slot : CoordPending Page) : Node Page :=
  { n with gpdPendingReqs := Function.update n.gpdPendingReqs idx slot }

def setEntry (n : Node Page) (idx : Nat) (e : GpdEntry) : Node Page :=
  { n with directory := n.directory.setEntry idx e }

def dsmMarkAccessed (n : Node Page) (idx : Nat) : Node Page :=
  { n with
    evictionRing :=
      if idx < n.numPages then
        Function.update n.evictionRing idx { n.evictionRing idx with accessBit := 1 }
      else n.evictionRing }

def invalidateLocalPageCopy (n : Node Page) (idx : Nat) : Node Page :=
  { n with
    mapping := if n.numPages ≤ idx then n.mapping else Function.update n.mapping idx .unmapped
    pageTable := if n.numPages ≤ idx then n.pageTable else Function.update n.pageTable idx .empty }

def writeprotectLocalPageCopy (n : Node Page) (idx : Nat) : Node Page :=
  { n with
    mapping :=
      if n.numPages ≤ idx then n.mapping
      else if n.pageTable idx = .valid then Function.update n.mapping idx (n.mapping idx).protect
      else n.mapping }

/-- The `UFFDIO_COPY` block that every install path repeats. -/
def installPage (n : Node Page) (idx : Nat) (page : Page) : Node Page :=
  dsmMarkAccessed
    { n with
      mapping := Function.update n.mapping idx ((n.mapping idx).copyPage page)
      pageTable := Function.update n.pageTable idx .valid
      effects := n.effects ++ [.uffdioCopy idx page] }
    idx

/-- `UFFDIO_WRITEPROTECT` with mode 0, then `PAGE_VALID`. -/
def liftWriteProtection (n : Node Page) (idx : Nat) : Node Page :=
  { n with
    mapping := Function.update n.mapping idx (n.mapping idx).unprotect
    pageTable := Function.update n.pageTable idx .valid
    effects := n.effects ++ [.uffdioUnprotect idx] }

/-- `gpd_transition_to_shared` on this node's directory, with the previous owner. -/
def transitionToShared (n : Node Page) (idx reader : Nat) : Node Page × Nat :=
  let result := gpdTransitionToShared n.directory idx reader
  ({ n with directory := (result.map Prod.fst).getD n.directory }, (result.map Prod.snd).getD 0)

/-- `gpd_transition_to_modified` on this node's directory, with the mask the caller set to 0. -/
def transitionToModified (n : Node Page) (idx writer : Nat) : Node Page × BitVec 64 :=
  let result := gpdTransitionToModified n.directory idx writer
  ({ n with directory := (result.map Prod.fst).getD n.directory }, (result.map Prod.snd).getD 0)

/-- The connected nodes of a mask, in the order of the counting and sending loops. -/
def connectedIn (n : Node Page) (mask : BitVec 64) : List Nat :=
  (List.range 64).filter fun m => mask.getLsbD m && n.nodeFds m != -1

variable [Zero Page]

def invalidatePacket (idx : Nat) : DsmPacket Page := ⟨.invalidate, idx, 0, 0⟩

/-- `MSG_INVALIDATE` to each of the counted nodes. -/
def sendInvalidations (n : Node Page) (idx : Nat) (targets : List Nat) : Node Page :=
  { n with effects := n.effects ++ targets.map fun m => .send (n.nodeFds m) (invalidatePacket idx) }

end Node

end TeleportVM

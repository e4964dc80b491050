import TeleportVM.TextProtocol

/-!
The command line of a node: what `main` takes from its arguments, and what the setters of the
network engine keep of them.
-/
namespace TeleportVM

open Scanning

/-- `strtoul` with base 10; a text without a number gives 0. -/
def strtoul (text : List Char) : BitVec 64 := (scanUnsigned text).elim 0 Prod.fst

/-- `snprintf(buffer, size, "%s", text)`. -/
def snprintf (size : Nat) (text : List Char) : List Char := text.take (size - 1)

/-- What the arguments decide about a node. -/
structure Configuration where
  localNodeId : Nat
  listenPort : List Char
  coordHost : List Char
  coordPort : List Char
  haveCoordinator : Bool
  testMode : Bool
  deriving DecidableEq

namespace Configuration

/-- The initial values of the variables. -/
def initial : Configuration := ⟨1, "3490".toList, [], [], false, false⟩

def setLocalNodeId (c : Configuration) (id : Nat) : Configuration := { c with localNodeId := id }

def setListenPort (c : Configuration) (port : List Char) : Configuration :=
  if port ≠ [] then { c with listenPort := snprintf 16 port } else c

def setCoordinator (c : Configuration) (host port : List Char) : Configuration :=
  if host ≠ [] ∧ port ≠ [] then
    { c with
      coordHost := snprintf 256 host
      coordPort := snprintf 16 port
      haveCoordinator := true }
  else c

end Configuration

/-- `main` prints its usage, rejects the identifier, or goes on with a configuration. -/
inductive Arguments where
  | usage
  | badNodeId
  | configured (c : Configuration)
  deriving DecidableEq

def coherenceTestFlag : List Char := "--coherence-test".toList

/-- The arguments without the flag; a coordinator is given by two of them. -/
def realArguments (testMode : Bool) : List (List Char) → Arguments
  | _ :: nodeId :: listenPort :: coordinator =>
    let id := ((strtoul nodeId).setWidth 32).toNat
    let node := { Configuration.initial with testMode := testMode }
    let node := (node.setLocalNodeId id).setListenPort listenPort
    match coordinator with
    | [] => if id = 0 ∨ 64 ≤ id then .badNodeId else .configured node
    | [host, port] =>
      if id = 0 ∨ 64 ≤ id then .badNodeId else .configured (node.setCoordinator host port)
    | _ => .usage
  | _ => .usage

def mainArguments (argv : List (List Char)) : Arguments :=
  if 1 < argv.length ∧ argv.getLast? = some coherenceTestFlag then realArguments true argv.dropLast
  else realArguments false argv

/-! ### Configurations and their command lines -/

namespace Configuration

/-- A node that can take part: its identifier has a bit of its own, and what it listens on and
connects to fits the buffers. -/
structure WellFormed (c : Configuration) : Prop where
  node : ValidNode c.localNodeId
  listenPort : c.listenPort ≠ [] ∧ c.listenPort.length < 16
  coordinator : if c.haveCoordinator then
      (c.coordHost ≠ [] ∧ c.coordHost.length < 256) ∧ c.coordPort ≠ [] ∧ c.coordPort.length < 16
    else c.coordHost = [] ∧ c.coordPort = []

/-- As the usage text has it. -/
def commandLine (prog : List Char) (c : Configuration) : List (List Char) :=
  [prog, Nat.toDigits 10 c.localNodeId, c.listenPort] ++
    (if c.haveCoordinator then [c.coordHost, c.coordPort] else []) ++
    if c.testMode then [coherenceTestFlag] else []

end Configuration

theorem strtoul_toDigits {n : Nat} (small : n < 2 ^ 64) :
    strtoul (Nat.toDigits 10 n) = BitVec.ofNat 64 n := by
  have read := scanUnsigned_toDigits small stopsAt_nil
  have skipped (text : List Char) : scanUnsigned (' ' :: text) = scanUnsigned text := by
    unfold scanUnsigned
    rw [List.dropWhile_cons_of_pos (by decide)]
  rw [skipped, List.append_nil] at read
  rw [strtoul, read]
  rfl

theorem snprintf_short {size : Nat} {text : List Char} (short : text.length < size) :
    snprintf size text = text := List.take_of_length_le (by omega)

theorem snprintf_fits {size : Nat} {text : List Char} (room : 2 ≤ size) (some : text ≠ []) :
    snprintf size text ≠ [] ∧ (snprintf size text).length < size := by
  have length := List.length_pos_iff.mpr some
  constructor
  · rw [← List.length_pos_iff, snprintf, List.length_take]
    omega
  · rw [snprintf, List.length_take]
    omega

theorem nodeId_toDigits {id : Nat} (valid : ValidNode id) :
    ((strtoul (Nat.toDigits 10 id)).setWidth 32).toNat = id := by
  have := valid.lt
  rw [strtoul_toDigits (by omega), BitVec.toNat_setWidth, BitVec.toNat_ofNat]
  omega

/-- Without the flag the last argument is a port, which is too short for the flag. -/
theorem no_flag {prog : List Char} {c : Configuration} (wf : c.WellFormed)
    (normal : c.testMode = false) : (c.commandLine prog).getLast? ≠ some coherenceTestFlag := by
  have long {port : List Char} (short : port.length < 16) : some port ≠ some coherenceTestFlag := by
    intro same
    rw [Option.some.inj same] at short
    exact absurd short (by decide)
  have last := wf.coordinator
  cases role : c.haveCoordinator with
  | false =>
    simp only [Configuration.commandLine, normal, role]
    exact long wf.listenPort.2
  | true =>
    rw [role] at last
    simp only [Configuration.commandLine, normal, role]
    exact long last.2.2

/-- What is configured by the command line of the usage text. -/
theorem realArguments_commandLine {prog : List Char} {c : Configuration} (wf : c.WellFormed) :
    realArguments c.testMode ([prog, Nat.toDigits 10 c.localNodeId, c.listenPort] ++
      if c.haveCoordinator then [c.coordHost, c.coordPort] else []) = .configured c := by
  obtain ⟨id, listenPort, coordHost, coordPort, haveCoordinator, testMode⟩ := c
  obtain ⟨valid, ⟨some, short⟩, coordinator⟩ := wf
  have accepted : ¬ (id = 0 ∨ 64 ≤ id) :=
    not_or.mpr ⟨valid.ne_zero, Nat.not_le.mpr valid.lt⟩
  cases haveCoordinator with
  | false =>
    obtain ⟨rfl, rfl⟩ := coordinator
    simp [realArguments, nodeId_toDigits valid, accepted, Configuration.setListenPort, some,
      snprintf_short short, Configuration.setLocalNodeId, Configuration.initial]
  | true =>
    obtain ⟨⟨host, hostShort⟩, port, portShort⟩ := coordinator
    simp [realArguments, nodeId_toDigits valid, accepted, Configuration.setListenPort, some,
      snprintf_short short, Configuration.setLocalNodeId, Configuration.initial,
      Configuration.setCoordinator, host, port, snprintf_short hostShort, snprintf_short portShort]

namespace Configuration

/-- A node that listens but has not been told about a coordinator. -/
theorem wellFormed_alone {testMode : Bool} {id : Nat} (valid : ValidNode id)
    (listenPort : List Char) :
    (({ initial with testMode := testMode }.setLocalNodeId id).setListenPort
      listenPort).WellFormed := by
  have default : initial.listenPort ≠ [] ∧ initial.listenPort.length < 16 := by decide
  unfold setListenPort
  split
  next some => exact ⟨valid, snprintf_fits (by decide) some, rfl, rfl⟩
  · exact ⟨valid, default, rfl, rfl⟩

/-- An empty host or port leaves the node as it was. -/
theorem WellFormed.setCoordinator {c : Configuration} (wf : c.WellFormed) (host port : List Char) :
    (c.setCoordinator host port).WellFormed := by
  unfold Configuration.setCoordinator
  split
  next given =>
    exact ⟨wf.node, wf.listenPort, snprintf_fits (by decide) given.1,
      snprintf_fits (by decide) given.2⟩
  · exact wf

end Configuration

/-- Whatever the arguments are, a node starts with a configuration that is well formed. -/
theorem wellFormed_of_realArguments {testMode : Bool} {args : List (List Char)} {c : Configuration}
    (accepted : realArguments testMode args = .configured c) : c.WellFormed := by
  match args with
  | [] | [_] | [_, _] => cases accepted
  | _ :: nodeId :: listenPort :: coordinator =>
    have valid {id : Nat} (inside : ¬ (id = 0 ∨ 64 ≤ id)) : ValidNode id := by
      simp only [ValidNode]
      omega
    match coordinator with
    | [] =>
      simp only [realArguments] at accepted
      split at accepted
      · cases accepted
      next inside =>
        cases accepted
        exact Configuration.wellFormed_alone (valid inside) listenPort
    | [host, port] =>
      simp only [realArguments] at accepted
      split at accepted
      · cases accepted
      next inside =>
        cases accepted
        exact (Configuration.wellFormed_alone (valid inside) listenPort).setCoordinator host port
    | [_] | _ :: _ :: _ :: _ => cases accepted

/-- The configurations that a node can start with are those that are well formed, and each comes
from its own command line in the form of the usage text. -/
theorem command_line (prog : List Char) (c : Configuration) :
    ((∃ argv, mainArguments argv = .configured c) ↔ c.WellFormed) ∧
      (c.WellFormed → mainArguments (c.commandLine prog) = .configured c) := by
  have printed (wf : c.WellFormed) : mainArguments (c.commandLine prog) = .configured c := by
    have configured := @realArguments_commandLine prog c wf
    unfold mainArguments
    cases mode : c.testMode with
    | false =>
      rw [mode] at configured
      rw [if_neg (fun flagged => no_flag wf mode flagged.2), ← configured]
      simp only [Configuration.commandLine, mode, Bool.false_eq_true, if_false, List.append_nil]
    | true =>
      rw [mode] at configured
      simp only [Configuration.commandLine, mode, if_true]
      rw [List.getLast?_concat, List.dropLast_concat, if_pos ⟨by simp, rfl⟩, configured]
  refine ⟨⟨fun started => ?_, fun wf => ⟨_, printed wf⟩⟩, printed⟩
  obtain ⟨argv, accepted⟩ := started
  unfold mainArguments at accepted
  split at accepted <;> exact wellFormed_of_realArguments accepted

/-- The identifier is what is left of the number in 32 bits: two nodes can take the same one. -/
example : mainArguments ["dsm".toList, "4294967298".toList, "3491".toList] =
    mainArguments ["dsm".toList, "2".toList, "3491".toList] := by decide +kernel

end TeleportVM

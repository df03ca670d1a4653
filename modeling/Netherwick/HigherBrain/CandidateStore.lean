import Netherwick.HigherBrain.Common
import Netherwick.Lib.Journal

/-! # The store of model candidates

A candidate is received, validated, staged into the library and activated. Two links name the
active candidate and the one before it, and every candidate keeps a log of its states. Each call
is given as the writes that it makes, in their order. -/

namespace Netherwick.HigherBrain

open Netherwick.Lib

structure CandidateFile where
  path : Path
  sha256 : List Char
  bytes : Nat
  deriving DecidableEq, Repr

/-- A free-form value of a manifest is kept as its canonical text. -/
structure ModelCandidateManifest where
  schemaVersion : Nat
  candidateId : List Char
  algorithmFamily : List Char
  artifacts : List CandidateFile
  preprocessingVersion : List Char
  inputSchemaVersion : List Char
  outputSchemaVersion : List Char
  trainingBuildIdentity : List Char
  sourceExperienceBundleIds : List (List Char)
  trainingParameters : List (List Char × List Char)
  evaluationResults : List (List Char × List Char)
  hardwareRequirements : List (List Char × List Char)
  runtimeRequirements : List (List Char)
  intendedDeploymentTarget : List Char
  rollbackCompatibility : List (List Char × List Char)
  creationStatus : List Char
  deriving DecidableEq, Repr

def candidateSchemaVersion : Nat := 1

def candidateManifest : List Char := "candidate.json".toList

def candidateComplete : List Char := ".complete".toList

structure CandidateCompatibility where
  inputSchemaVersions : List (List Char) := []
  outputSchemaVersions : List (List Char) := []
  preprocessingVersions : List (List Char) := []
  deploymentTargets : List (List Char) := []
  runtimes : List (List Char) := []

def supported (set : List (List Char)) (value : List Char) : Bool := set.isEmpty || value ∈ set

namespace CandidateCompatibility

def accepts (compatibility : CandidateCompatibility) (manifest : ModelCandidateManifest) : Bool :=
  supported compatibility.inputSchemaVersions manifest.inputSchemaVersion &&
    supported compatibility.outputSchemaVersions manifest.outputSchemaVersion &&
    supported compatibility.preprocessingVersions manifest.preprocessingVersion &&
    supported compatibility.deploymentTargets manifest.intendedDeploymentTarget &&
    manifest.runtimeRequirements.all fun runtime => runtime ∈ compatibility.runtimes

end CandidateCompatibility

/-- A file that is not there, or whose length or digest is not the declared one, ends the check. -/
def checkArtifact (codec : Codec ModelCandidateManifest) (tree : Tree) (artifact : CandidateFile) :
    Except String Unit := do
  let path ← safeRelativePath artifact.path
  let bytes ← readFile tree path.resolve
  if bytes.length ≠ artifact.bytes ∨ codec.sha256 bytes ≠ artifact.sha256 then
    .error ("candidate artifact checksum mismatch: " ++ display artifact.path)
  else .ok ()

def checkArtifacts (codec : Codec ModelCandidateManifest) (tree : Tree) :
    List CandidateFile → Except String Unit
  | [] => .ok ()
  | artifact :: rest => do
      checkArtifact codec tree artifact
      checkArtifacts codec tree rest

def validateCandidate (codec : Codec ModelCandidateManifest) (tree : Tree)
    (compatibility : Option CandidateCompatibility) : Except String ModelCandidateManifest := do
  let bytes ← readFile tree [candidateManifest]
  let manifest ← codec.fromSlice bytes
  if manifest.schemaVersion ≠ candidateSchemaVersion ∨
      manifest.creationStatus ≠ "complete".toList then
    .error "incompatible or incomplete candidate"
  if manifest.intendedDeploymentTarget = "brainstem".toList then
    .error "brainstem candidate target is forbidden"
  let marker ← readText tree [candidateComplete]
  if Text.trim marker ≠ codec.sha256 bytes then
    .error "candidate completion marker mismatch"
  checkArtifacts codec tree manifest.artifacts
  if compatibility.all (·.accepts manifest) then .ok manifest
  else .error "candidate is incompatible with this motherbrain"

inductive CandidateState
  | received | validated | rejected | staged | activated | rolledBack | superseded
  deriving DecidableEq, Repr

structure CandidateTransition where
  state : CandidateState
  principal : List Char
  reason : Option String
  deriving DecidableEq, Repr

structure CandidateLifecycle where
  schemaVersion : Nat
  candidateId : List Char
  transitions : List CandidateTransition
  deriving DecidableEq, Repr

inductive ActivationPolicy
  | operatorApproval | safeDevelopmentAuto
  deriving DecidableEq, Repr

structure CandidateStore where
  root : Path
  compatibility : CandidateCompatibility
  policy : ActivationPolicy

/-- The two links below `active`. -/
inductive ActiveLink
  | current | previous
  deriving DecidableEq, Repr

/-- What the store keeps on disk: the copies of candidates, the links and the logs. -/
structure StoreDisk where
  tree : Tree
  links : ActiveLink → Option Path
  lifecycles : Location → Option CandidateLifecycle

/-- One write. Those of `atomic_replace_symlink` and `atomic_write_json` replace a whole link or
file by a rename. -/
inductive StoreWrite
  | createDirAll (place : Location)
  | removeDirAll (place : Location)
  | copyDir (source : Tree) (destination : Location)
  | rename (source destination : Location)
  | replaceSymlink (link : ActiveLink) (target : Path)
  | writeLifecycle (place : Location) (lifecycle : CandidateLifecycle)

namespace StoreDisk

def empty : StoreDisk where
  tree := Tree.empty
  links := fun _ => none
  lifecycles := fun _ => none

def write (disk : StoreDisk) : StoreWrite → StoreDisk
  | .createDirAll place => { disk with tree := disk.tree.createDirAll place }
  | .removeDirAll place => { disk with tree := disk.tree.removeDirAll place }
  | .copyDir source destination => { disk with tree := disk.tree.graft destination source }
  | .rename source destination => { disk with tree := disk.tree.rename source destination }
  | .replaceSymlink link target =>
    { disk with links := Function.update disk.links link (some target) }
  | .writeLifecycle place lifecycle =>
    { disk with lifecycles := Function.update disk.lifecycles place (some lifecycle) }

instance : Writable StoreDisk StoreWrite := ⟨write⟩

end StoreDisk

abbrev StoreCall (α : Type) : Type := Journaled StoreDisk StoreWrite String α

/-- The directory that a candidate is kept in. -/
def candidateFileName (id : List Char) : List Char := id ++ ".candidate".toList

def candidateIdFromPath (path : Path) : Option (List Char) :=
  path.fileName.bind (Text.stripSuffix ".candidate".toList)

namespace CandidateStore

variable (store : CandidateStore)

def received (id : List Char) : Path :=
  (store.root.child "received".toList).child (candidateFileName id)

def library (id : List Char) : Path :=
  (store.root.child "library".toList).child (candidateFileName id)

def lifecyclePath (id : List Char) : Path :=
  (store.root.child "state".toList).child (id ++ ".json".toList)

def record (id : List Char) (state : CandidateState) (principal : Principal)
    (reason : Option String) : StoreCall Unit := do
  let disk ← Journaled.get
  let path := (store.lifecyclePath id).resolve
  let lifecycle := (disk.lifecycles path).getD ⟨1, id, []⟩
  let transitions := lifecycle.transitions ++ [⟨state, principal.id, reason⟩]
  Journaled.emit (.writeLifecycle path { lifecycle with transitions })

end CandidateStore

section Calls

variable (codec : Codec ModelCandidateManifest) (process : Nat) (store : CandidateStore)

def copyStaging (parent : Path) : Path :=
  parent.child (".candidate-copy-".toList ++ Text.decimal process ++ ".staging".toList)

/-- A copy that is already there has to be of the same manifest. A new one is made in a staging
directory, checked there and renamed into place. -/
def copyImmutableTree (source : Tree) (destination : Path) : StoreCall Unit := do
  let disk ← Journaled.get
  if disk.tree destination.resolve ≠ none then
    let sourceManifest ← Journaled.check (validateCandidate codec source none)
    let copied ←
      Journaled.check (validateCandidate codec (disk.tree.sub destination.resolve) none)
    if copied ≠ sourceManifest then
      Journaled.fail "existing candidate copy contradicts identity"
    else return
  else
    let parent := destination.parent
    let staging := (copyStaging process parent).resolve
    Journaled.emit (.createDirAll parent.resolve)
    Journaled.emit (.removeDirAll staging)
    Journaled.emit (.copyDir source staging)
    let disk ← Journaled.get
    let _ ← Journaled.check (validateCandidate codec (disk.tree.sub staging) none)
    Journaled.emit (.rename staging destination.resolve)

namespace CandidateStore

def receive (candidate : Tree) (principal : Principal) : StoreCall (List Char) := do
  Journaled.check (principal.require .returnCandidate)
  let manifest ← Journaled.check (validateCandidate codec candidate none)
  copyImmutableTree codec process candidate (store.received manifest.candidateId)
  store.record manifest.candidateId .received principal none
  return manifest.candidateId

def validate (candidateId : List Char) (principal : Principal) : StoreCall Unit := do
  Journaled.check (principal.require .stageCandidate)
  let disk ← Journaled.get
  let candidate := disk.tree.sub (store.received candidateId).resolve
  match validateCandidate codec candidate (some store.compatibility) with
  | .ok _ => store.record candidateId .validated principal none
  | .error error =>
    store.record candidateId .rejected principal (some error)
    Journaled.fail error

def stage (candidateId : List Char) (principal : Principal) : StoreCall Unit := do
  Journaled.check (principal.require .stageCandidate)
  let disk ← Journaled.get
  let source := disk.tree.sub (store.received candidateId).resolve
  let _ ← Journaled.check (validateCandidate codec source (some store.compatibility))
  copyImmutableTree codec process source (store.library candidateId)
  store.record candidateId .staged principal none

/-- The log of the candidate whose link is replaced. -/
def recordFormer (former : Option Path) (state : CandidateState) (principal : Principal) :
    StoreCall Unit :=
  match former.bind candidateIdFromPath with
  | some id => store.record id state principal none
  | none => return

def activate (candidateId : List Char) (principal : Principal) (operatorApproved : Bool) :
    StoreCall Unit := do
  Journaled.check (principal.require .activateCandidate)
  if store.policy = .operatorApproval ∧ operatorApproved = false then
    Journaled.fail "operator approval is required by activation policy"
  let target := store.library candidateId
  let disk ← Journaled.get
  let _ ← Journaled.check
    (validateCandidate codec (disk.tree.sub target.resolve) (some store.compatibility))
  Journaled.emit (.createDirAll (store.root.child "active".toList).resolve)
  let old := disk.links .current
  match old with
  | some old => Journaled.emit (.replaceSymlink .previous old)
  | none => pure ()
  Journaled.emit (.replaceSymlink .current target)
  store.recordFormer old .superseded principal
  store.record candidateId .activated principal none

def rollback (principal : Principal) : StoreCall (List Char) := do
  Journaled.check (principal.require .rollbackModel)
  let disk ← Journaled.get
  match disk.links .current, disk.links .previous with
  | some active, some previous =>
    let _ ← Journaled.check
      (validateCandidate codec (disk.tree.sub previous.resolve) (some store.compatibility))
    Journaled.emit (.replaceSymlink .current previous)
    Journaled.emit (.replaceSymlink .previous active)
    match candidateIdFromPath previous with
    | none => Journaled.fail "invalid previous candidate link"
    | some previousId =>
      store.recordFormer (some active) .rolledBack principal
      store.record previousId .activated principal (some "rollback")
      return previousId
  | _, _ => Journaled.fail notFound

end CandidateStore

end Calls

end Netherwick.HigherBrain

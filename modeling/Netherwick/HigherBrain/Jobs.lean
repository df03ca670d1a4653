import Netherwick.HigherBrain.Common
import Netherwick.Lib.Prog
import Mathlib.Data.Char
import Mathlib.Data.List.Lex
import Mathlib.Data.List.Nodup

/-! # Jobs of the forebrain

The jobs directory holds one record for every job. Anyone who holds the right scope may submit,
cancel or retry; the worker takes one job at a time, works on a private copy of its record and
writes the whole record back at every stage. -/

namespace Netherwick.HigherBrain

open Netherwick.Lib

inductive JobClass
  | fixtureDigest | datasetConstruction | longHistoryReplay | graphAnalysis
  | representationTraining | perceptionTraining | fineTuning | hyperparameterSearch
  | consolidation | fullEvaluation
  deriving DecidableEq, Repr

def JobClass.capabilityName : JobClass → String
  | fixtureDigest => "fixture_digest"
  | datasetConstruction => "dataset_construction"
  | longHistoryReplay => "replay"
  | graphAnalysis => "graph_analysis"
  | representationTraining => "representation_training"
  | perceptionTraining => "perception_training"
  | fineTuning => "fine_tuning"
  | hyperparameterSearch => "hyperparameter_search"
  | consolidation => "consolidation"
  | fullEvaluation => "evaluation"

structure ResourceRequirements where
  cpuCores : Nat := 0
  ramBytes : Nat := 0
  gpuMemoryBytes : Nat := 0
  workspaceBytes : Nat := 0
  requiredRuntimes : List (List Char) := []
  deriving DecidableEq, Repr

structure JobEnvelope where
  schemaVersion : Nat
  jobId : List Char
  jobClass : JobClass
  sourceExperienceBundleIds : List (List Char)
  resources : ResourceRequirements
  parameters : List (List Char × List Char)
  submitterNodeId : List Char
  softwareIdentity : List Char
  deriving DecidableEq, Repr

def jobSchemaVersion : Nat := 1

inductive JobStatus
  | queued | running | succeeded | failed | cancelled | interrupted
  deriving DecidableEq, Repr

structure JobTransition where
  status : JobStatus
  atTime : Nat
  progressPercent : Nat
  detail : String
  deriving DecidableEq, Repr

structure DurableJob where
  envelope : JobEnvelope
  status : JobStatus
  progressPercent : Nat
  detail : String
  candidateId : Option (List Char)
  transitions : List JobTransition
  deriving DecidableEq, Repr

namespace DurableJob

def transition (job : DurableJob) (now : Nat) (status : JobStatus) (progress : Nat)
    (detail : String) : DurableJob :=
  { job with
    status
    progressPercent := min progress 100
    detail
    transitions := job.transitions ++ [⟨status, now, min progress 100, detail⟩] }

def new (now : Nat) (envelope : JobEnvelope) : DurableJob :=
  DurableJob.transition ⟨envelope, .queued, 0, "queued", none, []⟩ now .queued 0 "queued"

section Transition

variable (job : DurableJob) (now : Nat) (status : JobStatus) (progress : Nat) (detail : String)

@[simp] theorem transition_status : (job.transition now status progress detail).status = status :=
  rfl

end Transition

end DurableJob

/-- The records of the jobs directory. The file of a record is named by its job. -/
structure JobsDirectory where
  jobs : List DurableJob
  distinct : (jobs.map fun job => job.envelope.jobId).Nodup

namespace JobsDirectory

def empty : JobsDirectory := ⟨[], List.nodup_nil⟩

def find? (directory : JobsDirectory) (id : List Char) : Option DurableJob :=
  directory.jobs.find? fun job => job.envelope.jobId = id

/-- The records after one is written over the record of its job. -/
def replace (jobs : List DurableJob) (job : DurableJob) : List DurableJob :=
  jobs.map fun other => if other.envelope.jobId = job.envelope.jobId then job else other

theorem map_replace (jobs : List DurableJob) (job : DurableJob) :
    (replace jobs job).map (fun job => job.envelope.jobId) =
      jobs.map fun job => job.envelope.jobId := by
  unfold replace
  rw [List.map_map]
  apply List.map_congr_left
  intro other _
  simp only [Function.comp_apply]
  split
  · rename_i heq
    exact heq.symm
  · rfl

theorem distinct_replace (directory : JobsDirectory) (job : DurableJob) :
    ((replace directory.jobs job).map fun job => job.envelope.jobId).Nodup := by
  rw [map_replace]
  exact directory.distinct

theorem distinct_save (directory : JobsDirectory) (job : DurableJob)
    (h : ¬ (directory.find? job.envelope.jobId).isSome) :
    ((directory.jobs ++ [job]).map fun job => job.envelope.jobId).Nodup := by
  have hnew : ∀ other ∈ directory.jobs, other.envelope.jobId ≠ job.envelope.jobId := by
    simpa [find?] using h
  rw [List.map_append, List.nodup_append]
  refine ⟨directory.distinct, List.nodup_singleton _, ?_⟩
  intro id hid other hother
  obtain ⟨known, hknown, rfl⟩ := List.mem_map.mp hid
  rw [List.mem_singleton.mp hother]
  exact hnew known hknown

/-- `save`: the whole record replaces the one of its job. -/
def save (directory : JobsDirectory) (job : DurableJob) : JobsDirectory :=
  if h : (directory.find? job.envelope.jobId).isSome then
    ⟨replace directory.jobs job, directory.distinct_replace job⟩
  else ⟨directory.jobs ++ [job], directory.distinct_save job h⟩

section Find

variable {directory : JobsDirectory} {job known : DurableJob} {id : List Char}

theorem find?_some (h : directory.find? id = some job) : job.envelope.jobId = id := by
  simpa using List.find?_some h

end Find

end JobsDirectory

structure GpuProbe where
  usableMemoryBytes : Nat

structure AcceleratorCapabilities where
  cpuCores : Nat
  availableRamBytes : Nat
  gpu : Option GpuProbe
  storageAvailableBytes : Nat
  runtimes : List (List Char)
  jobClasses : List String

def AcceleratorCapabilities.validateEnvelope (capabilities : AcceleratorCapabilities)
    (envelope : JobEnvelope) : Except String Unit :=
  if envelope.schemaVersion ≠ jobSchemaVersion then
    .error ("incompatible job schema " ++ toString envelope.schemaVersion)
  else if envelope.jobClass.capabilityName ∉ capabilities.jobClasses then
    .error "forebrain does not advertise requested job class"
  else
    let resources := envelope.resources
    if resources.cpuCores > capabilities.cpuCores ∨
        resources.ramBytes > capabilities.availableRamBytes ∨
        resources.workspaceBytes > capabilities.storageAvailableBytes ∨
        resources.gpuMemoryBytes > (capabilities.gpu.map (·.usableMemoryBytes)).getD 0 ∨
        ¬ resources.requiredRuntimes.all capabilities.runtimes.contains then
      .error "forebrain does not satisfy declared resource requirements"
    else .ok ()

abbrev JobCall (α : Type) : Type := Prog JobsDirectory String α

def load (id : List Char) : JobCall DurableJob := do
  let directory ← Prog.get
  match directory.find? id with
  | some job => return job
  | none => Prog.fail notFound

def saveJob (job : DurableJob) : JobCall Unit := Prog.act fun directory => directory.save job

def enqueue (capabilities : AcceleratorCapabilities) (now : Nat) (envelope : JobEnvelope)
    (principal : Principal) : JobCall DurableJob := do
  Prog.check (principal.require .submitJob)
  Prog.check (capabilities.validateEnvelope envelope)
  let directory ← Prog.get
  match directory.find? envelope.jobId with
  | some existing =>
    if existing.envelope ≠ envelope then
      Prog.fail "job id already exists with a different envelope"
    else return existing
  | none =>
    let job := DurableJob.new now envelope
    saveJob job
    return job

def cancel (now : Nat) (id : List Char) (principal : Principal) : JobCall Unit := do
  Prog.check (principal.require .cancelJob)
  let job ← load id
  if job.status ∈ [.succeeded, .failed, .cancelled] then
    Prog.fail "job is already terminal"
  else
    saveJob (job.transition now .cancelled job.progressPercent "cancelled by authorized request")

def retryInterrupted (now : Nat) (id : List Char) (principal : Principal) : JobCall Unit := do
  Prog.check (principal.require .submitJob)
  let job ← load id
  if job.status ≠ .interrupted ∧ job.status ≠ .failed then
    Prog.fail "only interrupted or failed jobs may be retried"
  else saveJob (job.transition now .queued 0 "retry queued")

/-- Envelopes of the inbox that cannot be read or enqueued are put aside. -/
def ingestIncoming (capabilities : AcceleratorCapabilities) (now : Nat) :
    List (Except String JobEnvelope) → JobsDirectory → JobsDirectory
  | [], directory => directory
  | .error _ :: rest, directory => ingestIncoming capabilities now rest directory
  | .ok envelope :: rest, directory =>
    let inbox : Principal := ⟨"restricted-sftp-inbox".toList, [.submitJob]⟩
    ingestIncoming capabilities now rest
      ((enqueue capabilities now envelope inbox).exec directory)

def recoverJob (now : Nat) (directory : JobsDirectory) (job : DurableJob) : JobsDirectory :=
  if job.status = .running then
    directory.save (job.transition now .interrupted job.progressPercent
      "worker restarted while job was running")
  else directory

/-- A worker that starts marks the jobs that an earlier one left running. -/
def recoverInterrupted (now : Nat) (directory : JobsDirectory) : JobsDirectory :=
  directory.jobs.foldl (recoverJob now) directory

def nextQueued (directory : JobsDirectory) : Option DurableJob :=
  let queued := directory.jobs.filter fun job => job.status = .queued
  (queued.mergeSort fun left right =>
    decide (left.envelope.jobId ≤ right.envelope.jobId)).head?

/-- Where the worker stands in `run_once`, with its private copy of the record. -/
inductive WorkerPhase
  | idle
  | picked (job : DurableJob)
  | validating (job : DurableJob)
  | training (job : DurableJob)
  | packaging (job : DurableJob)
  | failing (job : DurableJob) (error : String)

def WorkerPhase.held : WorkerPhase → Option DurableJob
  | idle => none
  | picked job | validating job | training job | packaging job | failing job _ => some job

/-- What happens around the jobs directory. The outcomes of the worker's stages are given with
them. -/
inductive JobEvent
  | enqueue (now : Nat) (envelope : JobEnvelope) (principal : Principal)
  | cancel (now : Nat) (id : List Char) (principal : Principal)
  | retryInterrupted (now : Nat) (id : List Char) (principal : Principal)
  | open_ (now : Nat)
  | scan (now : Nat) (incoming : List (Except String JobEnvelope))
  | start (now : Nat) (write : WriteResult)
  | validate (now : Nat) (bundles : Except String Unit) (write : WriteResult)
  | train (now : Nat) (artifact : Except String String) (write : WriteResult)
  | package (now : Nat) (candidate : Except String (List Char)) (write : WriteResult)
  | conclude (now : Nat) (write : WriteResult)
  | stop

/-- The record at the end of `run_once`. -/
def finished (job : DurableJob) (now : Nat) : Except String (List Char) → DurableJob
  | .ok candidateId =>
    DurableJob.transition { job with candidateId := some candidateId } now .succeeded 100
      "candidate produced and verified"
  | .error error => job.transition now .failed job.progressPercent error

/-- The trainer of the job's class makes an artifact, described by a text. -/
def trained (job : DurableJob) (artifact : Except String String) : Except String String :=
  match job.envelope.jobClass with
  | .fixtureDigest => artifact.map fun _ => "deterministic fixture artifact trained"
  | .datasetConstruction => artifact
  | other => .error ("job class " ++ other.capabilityName ++
      " is declared but no trainer adapter is configured")

/-- The record that the worker puts in place, if any, and where it stands then. -/
def WorkerPhase.step (capabilities : AcceleratorCapabilities) (phase : WorkerPhase)
    (event : JobEvent) : Option DurableJob × WorkerPhase :=
  match phase, event with
  | picked job, .start now write =>
    let job := job.transition now .running 5 "validating source bundles"
    (write.record job, match write with
      | .ok => validating job
      | .failed .. => idle)
  | validating job, .validate now bundles write =>
    match capabilities.validateEnvelope job.envelope, bundles with
    | .ok _, .ok _ =>
      let job := job.transition now .running 35 "source bundles verified"
      (write.record job, match write with
        | .ok => training job
        | .failed _ error => failing job error)
    | .error error, _ | .ok _, .error error => (write.record (finished job now (.error error)), idle)
  | training job, .train now artifact write =>
    match trained job artifact with
    | .ok detail =>
      let job := job.transition now .running 80 detail
      (write.record job, match write with
        | .ok => packaging job
        | .failed _ error => failing job error)
    | .error error => (write.record (finished job now (.error error)), idle)
  | packaging job, .package now candidate write =>
    (write.record (finished job now candidate), idle)
  | failing job error, .conclude now write =>
    (write.record (finished job now (.error error)), idle)
  | _, .stop => (none, idle)
  | phase, _ => (none, phase)

structure JobSystem where
  directory : JobsDirectory
  worker : WorkerPhase

namespace JobSystem

def empty : JobSystem := ⟨.empty, .idle⟩

def step (capabilities : AcceleratorCapabilities) (system : JobSystem) (event : JobEvent) :
    JobSystem :=
  match event with
  | .enqueue now envelope principal =>
    { system with
      directory := (enqueue capabilities now envelope principal).exec system.directory }
  | .cancel now id principal =>
    { system with directory := (cancel now id principal).exec system.directory }
  | .retryInterrupted now id principal =>
    { system with directory := (retryInterrupted now id principal).exec system.directory }
  | .open_ now => ⟨recoverInterrupted now system.directory, .idle⟩
  | .scan now incoming =>
    match system.worker with
    | .idle =>
      let directory := ingestIncoming capabilities now incoming system.directory
      ⟨directory, match nextQueued directory with
        | some job => .picked job
        | none => .idle⟩
    | _ => system
  | event =>
    let (record, worker) := system.worker.step capabilities event
    ⟨match record with
      | some job => system.directory.save job
      | none => system.directory, worker⟩

end JobSystem

end Netherwick.HigherBrain

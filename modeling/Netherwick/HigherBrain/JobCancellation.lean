import Netherwick.HigherBrain.Jobs

/-! # Cancellation and the worker's private copy

A ghost remembers whether the job that the worker holds was cancelled since the worker read it.
The directory keeps its history exactly as long as the worker writes no record that was
overtaken. -/

namespace Netherwick.HigherBrain

open Netherwick.Lib

/-- No record disappears, no transition is lost, and a cancelled job stays cancelled. -/
def KeepsHistory (directory directory' : JobsDirectory) : Prop :=
  ∀ id job, directory.find? id = some job → ∃ job', directory'.find? id = some job' ∧
    job.transitions <+: job'.transitions ∧ (job.status = .cancelled → job'.status = .cancelled)

theorem KeepsHistory.refl (directory : JobsDirectory) : KeepsHistory directory directory :=
  fun _ job hjob => ⟨job, hjob, List.prefix_refl _, fun h => h⟩

theorem KeepsHistory.trans {a b c : JobsDirectory} (hab : KeepsHistory a b)
    (hbc : KeepsHistory b c) : KeepsHistory a c := by
  intro id job hjob
  obtain ⟨job', hjob', hpart, hcancelled⟩ := hab id job hjob
  obtain ⟨job'', hjob'', hpart', hcancelled'⟩ := hbc id job' hjob'
  exact ⟨job'', hjob'', hpart.trans hpart', fun h => hcancelled' (hcancelled h)⟩

section Calls

variable {capabilities : AcceleratorCapabilities} {now : Nat} {envelope : JobEnvelope}
  {principal : Principal} {directory : JobsDirectory} {id other : List Char}

/-- A call that goes through appends one transition to the record of its job. -/
structure Appends (directory directory' : JobsDirectory) (id : List Char) (job : DurableJob)
    (status : JobStatus) : Prop where
  found : directory.find? id = some job
  saved : ∃ job', job'.status = status ∧ job.transitions <+: job'.transitions ∧
    ∀ other, directory'.find? other = if other = id then some job' else directory.find? other

theorem Appends.keeps {directory' : JobsDirectory} {job : DurableJob} {status : JobStatus}
    (h : Appends directory directory' id job status) (hstatus : job.status ≠ .cancelled) :
    KeepsHistory directory directory' := by
  intro other known hknown
  obtain ⟨job', -, hpart, hsaved⟩ := h.saved
  by_cases heq : other = id
  · rw [heq, h.found] at hknown
    cases hknown
    exact ⟨job', by rw [hsaved, if_pos heq], hpart, fun hcancelled => absurd hcancelled hstatus⟩
  · exact ⟨known, by rw [hsaved, if_neg heq, hknown], List.prefix_refl _, fun h => h⟩

end Calls

/-- The system with the ghost: was the job that the worker holds cancelled since it was read? -/
structure TrackedJobs where
  system : JobSystem
  overtaken : Bool

namespace TrackedJobs

def start : TrackedJobs := ⟨.empty, false⟩

def step (capabilities : AcceleratorCapabilities) (tracked : TrackedJobs) (event : JobEvent) :
    TrackedJobs where
  system := tracked.system.step capabilities event
  overtaken :=
    match event with
    | .cancel now id principal =>
      tracked.overtaken || (cancel now id principal).succeeds tracked.system.directory &&
        tracked.system.worker.held.any fun job => job.envelope.jobId = id
    | .scan .. =>
      match tracked.system.worker with
      | .idle => false
      | _ => tracked.overtaken
    | _ => tracked.overtaken

def run (capabilities : AcceleratorCapabilities) (events : List JobEvent) : TrackedJobs :=
  events.foldl (step capabilities) start

end TrackedJobs

section Runs

variable (capabilities : AcceleratorCapabilities) (events : List JobEvent)

end Runs

section Invariant

variable {capabilities : AcceleratorCapabilities} {tracked : TrackedJobs} {event : JobEvent}

/-- The record on disk is the one that the worker read or wrote last, or a cancellation of it. -/
def Coherent (tracked : TrackedJobs) : Prop :=
  ∀ job, tracked.system.worker.held = some job →
    ∃ known, tracked.system.directory.find? job.envelope.jobId = some known ∧
      if tracked.overtaken then known.status = .cancelled
      else known.transitions <+: job.transitions ∧
        (known.status = .queued ∨ known.status = .running)

/-- A later state of the same record. -/
structure Continues (job next : DurableJob) : Prop where
  envelope : next.envelope = job.envelope
  transitions : job.transitions <+: next.transitions

def TrackedJobs.moved (tracked : TrackedJobs) (move : Option DurableJob × WorkerPhase) :
    TrackedJobs :=
  ⟨⟨match move.1 with
    | some job => tracked.system.directory.save job
    | none => tracked.system.directory, move.2⟩, tracked.overtaken⟩

theorem coherent_start : Coherent .start := by
  intro job hjob
  cases hjob

end Invariant

section Results

variable (capabilities : AcceleratorCapabilities)

theorem run_append (before : List JobEvent) (event : JobEvent) :
    TrackedJobs.run capabilities (before ++ [event]) =
      (TrackedJobs.run capabilities before).step capabilities event := by
  unfold TrackedJobs.run
  rw [List.foldl_append]
  rfl

end Results

section Fixture

private def operator : Principal := ⟨['o'], [.submitJob, .cancelJob]⟩

end Fixture

end Netherwick.HigherBrain

import Mathlib.Data.List.Induction
import Netherwick.Brainstem.Audio

/-! # What becomes of requested cues

The runtime counts the results of the annunciator. A request that finds both slots full loses two
cues for one result. -/

namespace Netherwick.Brainstem

open Netherwick.Lib

inductive AudioEvent
  | request (cue : AuditoryCue) (nowMs : UInt32)
  | setSilent (silent : Bool)
  | poll (nowMs : UInt32) (responsive delivered : Bool)
  | manualPlayed (nowMs durationMs : UInt32)

def AudioAnnunciator.pendingCount (audio : AudioAnnunciator) : Nat :=
  audio.urgent.isSome.toNat + audio.informational.isSome.toNat

/-- The annunciator with the counts that the runtime keeps of its results. -/
structure AudioBooks where
  audio : AudioAnnunciator := {}
  requested : Nat := 0
  played : Nat := 0
  dropped : Nat := 0
  suppressed : Nat := 0

namespace AudioBooks

def setAudioSilent (books : AudioBooks) (silent : Bool) : AudioBooks :=
  { books with
    audio := (books.audio.setSilent silent).2
    dropped := books.dropped + (books.audio.setSilent silent).1.toNat }

def requestAudio (books : AudioBooks) (cue : AuditoryCue) (nowMs : UInt32) : AudioBooks :=
  let counted := { books with
    audio := (books.audio.request cue nowMs).2, requested := books.requested + 1 }
  match (books.audio.request cue nowMs).1 with
  | .suppressed => { counted with suppressed := books.suppressed + 1 }
  | .dropped => { counted with dropped := books.dropped + 1 }
  | .ready | .queued => counted

/-- The cue a poll hands to the Create. -/
def ready (books : AudioBooks) (nowMs : UInt32) (responsive : Bool) : Option AuditoryCue :=
  if responsive then (books.audio.takeReady nowMs).1 else none

def pollAudio (books : AudioBooks) (nowMs : UInt32) (responsive delivered : Bool) : AudioBooks :=
  match books.ready nowMs responsive with
  | none => books
  | some cue =>
    let taken := (books.audio.takeReady nowMs).2
    if delivered then
      { books with audio := taken.markPlayed cue nowMs, played := books.played + 1 }
    else { books with audio := taken, dropped := books.dropped + 1 }

def step (books : AudioBooks) : AudioEvent → AudioBooks
  | .request cue nowMs => books.requestAudio cue nowMs
  | .setSilent silent => books.setAudioSilent silent
  | .poll nowMs responsive delivered => books.pollAudio nowMs responsive delivered
  | .manualPlayed nowMs durationMs =>
    { books with audio := books.audio.markManualPlayed nowMs durationMs }

def run (events : List AudioEvent) : AudioBooks := events.foldl step {}

def accounted (books : AudioBooks) : Nat :=
  books.played + books.audio.pendingCount + books.dropped + books.suppressed

@[simp] theorem run_nil : run [] = {} := rfl

@[simp] theorem run_snoc (events : List AudioEvent) (event : AudioEvent) :
    run (events ++ [event]) = (run events).step event :=
  List.foldl_append

end AudioBooks

/-- An urgent cue that is requested aloud while both slots are taken. -/
def AudioAnnunciator.overfull (audio : AudioAnnunciator) : AudioEvent → Bool
  | .request cue _ =>
    !audio.silent && cue.urgent && audio.urgent.isSome && audio.informational.isSome
  | _ => false

/-- The cue was requested while the sound was on, and the sound has been on since. -/
def Audible (events : List AudioEvent) (cue : AuditoryCue) : Prop :=
  ∃ before nowMs since, events = before ++ .request cue nowMs :: since ∧
    (AudioBooks.run before).audio.silent = false ∧ .setSilent true ∉ since

/-- What is asked of the annunciator, at every point of a run. -/
structure SoundAudio (events : List AudioEvent) : Prop where
  slots : ∀ seen, seen <+: events → (AudioBooks.run seen).audio.pendingCount ≤ 2
  urgentKept : ∀ seen cue nowMs, seen ++ [.request cue nowMs] <+: events →
    ∀ pending, (AudioBooks.run seen).audio.urgent = some pending → cue.rank < pending.rank →
      (AudioBooks.run (seen ++ [.request cue nowMs])).audio.urgent = some pending
  audible : ∀ seen nowMs responsive delivered,
    seen ++ [.poll nowMs responsive delivered] <+: events →
      ∀ cue, (AudioBooks.run seen).ready nowMs responsive = some cue → Audible seen cue
  accounted : ∀ seen, seen <+: events →
    (AudioBooks.run seen).requested = (AudioBooks.run seen).accounted

section Requests

variable {audio : AudioAnnunciator} {books : AudioBooks} {cue kept : AuditoryCue}
  {nowMs : UInt32} {responsive delivered : Bool} {events : List AudioEvent} {event : AudioEvent}

def AudioAnnunciator.keeps (audio : AudioAnnunciator) (cue : AuditoryCue) : AuditoryCue :=
  match audio.urgent with
  | some pending => if pending.rank > cue.rank then pending else cue
  | none => cue

theorem request_silent (h : audio.silent = true) :
    audio.request cue nowMs = (.suppressed, audio) := by
  rw [AudioAnnunciator.request, if_pos h]

theorem request_slots (h : audio.silent = false) :
    (audio.request cue nowMs).2 =
      if cue.urgent then { audio with urgent := some (audio.keeps cue), informational := none }
      else { audio with informational := some cue } := by
  obtain ⟨silent, urgent, informational, busyUntilMs⟩ := audio
  subst h
  cases hcue : cue.urgent <;> cases urgent <;> cases informational <;>
    cases hreached : timeReached nowMs busyUntilMs <;>
    simp [AudioAnnunciator.request, AudioAnnunciator.enqueue, AudioAnnunciator.keeps, hcue,
      hreached]
  all_goals split <;> rfl

theorem request_result (h : audio.silent = false) :
    (audio.request cue nowMs).1 ≠ .suppressed ∧
      ((audio.request cue nowMs).1 = .dropped ↔
        audio.informational.isSome = true ∨ cue.urgent = true ∧ audio.urgent.isSome = true) := by
  obtain ⟨silent, urgent, informational, busyUntilMs⟩ := audio
  subst h
  cases hcue : cue.urgent <;> cases urgent <;> cases informational <;>
    cases hreached : timeReached nowMs busyUntilMs <;>
    simp [AudioAnnunciator.request, AudioAnnunciator.enqueue, hcue, hreached]
  all_goals split <;> simp

theorem ready_eq_some (h : books.ready nowMs responsive = some cue) :
    books.audio.silent = false ∧
      (books.audio.urgent = some cue ∨ books.audio.informational = some cue) ∧
      (books.audio.takeReady nowMs).2.silent = false ∧
      (books.audio.takeReady nowMs).2.pendingCount + 1 = books.audio.pendingCount ∧
      ∀ kept, (books.audio.takeReady nowMs).2.urgent = some kept ∨
        (books.audio.takeReady nowMs).2.informational = some kept →
        books.audio.urgent = some kept ∨ books.audio.informational = some kept := by
  obtain ⟨⟨silent, urgent, informational, busyUntilMs⟩, _, _, _, _⟩ := books
  rw [AudioBooks.ready] at h
  split at h
  case isFalse => cases h
  cases silent <;> cases urgent <;> cases informational <;>
    cases hreached : timeReached nowMs busyUntilMs <;>
    simp_all [AudioAnnunciator.takeReady, AudioAnnunciator.pendingCount]

theorem step_accounted :
    (books.step event).accounted + (books.audio.overfull event).toNat + books.requested =
      books.accounted + (books.step event).requested := by
  cases event with
  | request cue nowMs =>
    simp only [AudioBooks.step, AudioBooks.requestAudio, AudioBooks.accounted,
      AudioAnnunciator.overfull]
    cases hsilent : books.audio.silent with
    | true =>
      rw [request_silent hsilent]
      simp only [Bool.not_true, Bool.false_and, Bool.toNat_false]
      omega
    | false =>
      obtain ⟨hsuppressed, hdropped⟩ := @request_result books.audio cue nowMs hsilent
      have hslots := @request_slots books.audio cue nowMs hsilent
      cases hresult : (books.audio.request cue nowMs).1 <;>
        cases hurgent : books.audio.urgent <;>
        cases hinformational : books.audio.informational <;>
        cases hcue : cue.urgent <;>
        simp_all [AudioAnnunciator.pendingCount] <;> omega
  | setSilent silent =>
    cases silent with
    | false =>
      simp [AudioBooks.step, AudioBooks.setAudioSilent, AudioAnnunciator.setSilent,
        AudioBooks.accounted, AudioAnnunciator.overfull, AudioAnnunciator.pendingCount]
    | true =>
      cases hurgent : books.audio.urgent <;>
        cases hinformational : books.audio.informational <;>
        simp [AudioBooks.step, AudioBooks.setAudioSilent, AudioAnnunciator.setSilent,
          AudioBooks.accounted, AudioAnnunciator.overfull, AudioAnnunciator.pendingCount, hurgent,
          hinformational] <;> omega
  | poll nowMs responsive delivered =>
    simp only [AudioBooks.step, AudioBooks.pollAudio, AudioAnnunciator.overfull, Bool.toNat_false]
    cases hready : books.ready nowMs responsive with
    | none => rfl
    | some cue =>
      have hcount := (ready_eq_some hready).2.2.2.1
      have hplayed : ((books.audio.takeReady nowMs).2.markPlayed cue nowMs).pendingCount =
        (books.audio.takeReady nowMs).2.pendingCount := rfl
      cases delivered <;> simp only [AudioBooks.accounted, if_true, Bool.false_eq_true, if_false,
        hplayed] <;> omega
  | manualPlayed nowMs durationMs => rfl

theorem Audible.snoc (h : Audible events cue) (hevent : event ≠ .setSilent true) :
    Audible (events ++ [event]) cue := by
  obtain ⟨before, nowMs, since, rfl, hsilent, hsince⟩ := h
  refine ⟨before, nowMs, since ++ [event], by simp, hsilent, ?_⟩
  rw [List.mem_append, List.mem_singleton]
  exact fun hmem => hmem.elim hsince fun heq => hevent heq.symm

/-- Whatever is pending was requested aloud, with no silence since. -/
theorem audible_of_pending (events : List AudioEvent) :
    ∀ cue, (AudioBooks.run events).audio.urgent = some cue ∨
      (AudioBooks.run events).audio.informational = some cue → Audible events cue := by
  induction events using List.reverseRecOn with
  | nil => intro cue h; simp at h
  | append_singleton events event ih =>
    intro cue h
    rw [AudioBooks.run_snoc] at h
    cases event with
    | request asked nowMs =>
      have hslots : ((AudioBooks.run events).step (AudioEvent.request asked nowMs)).audio =
          ((AudioBooks.run events).audio.request asked nowMs).2 := by
        simp only [AudioBooks.step, AudioBooks.requestAudio]
        split <;> rfl
      rw [hslots] at h
      cases hsilent : (AudioBooks.run events).audio.silent with
      | true =>
        rw [request_silent hsilent] at h
        exact (ih cue h).snoc (by simp)
      | false =>
        have hnew : cue = asked → Audible (events ++ [AudioEvent.request asked nowMs]) cue := by
          rintro rfl
          exact ⟨events, nowMs, [], rfl, hsilent, List.not_mem_nil⟩
        have hold := fun h' => @Audible.snoc cue events (.request asked nowMs) (ih cue h') (by simp)
        rw [request_slots hsilent] at h
        cases hasked : asked.urgent with
        | true =>
          simp only [hasked, if_true, AudioAnnunciator.keeps, reduceCtorEq, or_false,
            Option.some.injEq] at h
          grind
        | false =>
          simp only [hasked, Bool.false_eq_true, if_false, Option.some.injEq] at h
          grind
    | setSilent silent =>
      cases silent with
      | true => simp [AudioBooks.step, AudioBooks.setAudioSilent, AudioAnnunciator.setSilent] at h
      | false => exact (ih cue h).snoc (by simp)
    | poll nowMs responsive delivered =>
      refine (ih cue ?_).snoc (by simp)
      simp only [AudioBooks.step, AudioBooks.pollAudio] at h
      cases hready : (AudioBooks.run events).ready nowMs responsive with
      | none => simpa only [hready] using h
      | some played =>
        have hkept := (ready_eq_some hready).2.2.2.2 cue
        cases delivered <;> simp only [hready, if_true, Bool.false_eq_true, if_false] at h <;>
          exact hkept h
    | manualPlayed nowMs durationMs => exact (ih cue h).snoc (by simp)

end Requests

/-- The annunciator is sound over a run exactly if no urgent cue is requested aloud in it while
both slots are taken. -/
theorem soundAudio_iff (events : List AudioEvent) :
    SoundAudio events ↔
      ∀ seen event, seen ++ [event] <+: events →
        (AudioBooks.run seen).audio.overfull event = false := by
  constructor
  · intro h seen event hseen
    have hbefore := h.accounted seen ((List.prefix_append _ _).trans hseen)
    have hafter := h.accounted _ hseen
    have hstep := @step_accounted (AudioBooks.run seen) event
    rw [AudioBooks.run_snoc] at hafter
    rw [← Bool.toNat_eq_zero]
    omega
  · intro h
    refine ⟨fun seen _ => ?_, ?_, ?_, fun seen hseen => ?_⟩
    · have hurgent := Bool.toNat_le (AudioBooks.run seen).audio.urgent.isSome
      have hinformational := Bool.toNat_le (AudioBooks.run seen).audio.informational.isSome
      rw [AudioAnnunciator.pendingCount]
      omega
    · intro seen cue nowMs _ pending hpending hrank
      simp only [AudioBooks.run_snoc, AudioBooks.step, AudioBooks.requestAudio]
      cases hsilent : (AudioBooks.run seen).audio.silent with
      | true => rw [request_silent hsilent]; exact hpending
      | false =>
        have hslots := @request_slots _ cue nowMs hsilent
        have hkept : ((AudioBooks.run seen).audio.request cue nowMs).2.urgent = some pending := by
          rw [hslots]
          split
          · simp [AudioAnnunciator.keeps, hpending, hrank]
          · exact hpending
        split <;> exact hkept
    · intro seen nowMs responsive delivered _ cue hready
      exact audible_of_pending seen cue (ready_eq_some hready).2.1
    · induction seen using List.reverseRecOn with
      | nil => rfl
      | append_singleton seen event ih =>
        have hstep := @step_accounted (AudioBooks.run seen) event
        have hbefore := ih ((List.prefix_append _ _).trans hseen)
        rw [h seen event hseen, Bool.toNat_false] at hstep
        rw [AudioBooks.run_snoc]
        omega

/-- Four cues within the playing time of the first. -/
def crowdedCues : List AudioEvent :=
  [.manualPlayed 0 1000, .request .dockSeen 10, .request .lowBattery 20, .request .dockSeen 30,
    .request .eStop 40]

/-- Of four requests one is pending and two are counted. -/
theorem crowdedCues_unsound : ¬SoundAudio crowdedCues := by
  intro h
  exact absurd (h.accounted crowdedCues (List.prefix_refl _)) (by decide)

end Netherwick.Brainstem

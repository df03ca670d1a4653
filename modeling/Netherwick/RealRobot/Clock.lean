import Netherwick.Lib.Clock

/-! # The brainstem's clock on the host

The host sets the uptime of a status against the middle of the request that fetched it, and reads
the stamp of a sample as an age before that. The brainstem counts its uptime in milliseconds, but
divides its stamps out of a counter of microseconds. -/

namespace Netherwick.RealRobot

open Netherwick.Lib

def brainstemClockHalfRange : UInt32 := 0x80000000
def brainstemMaxStatusRttMs : Nat := 200

structure StatusRequestTiming where
  hostRequestStartedMs : Nat
  hostResponseReceivedMs : Nat
  deriving DecidableEq, Repr

namespace StatusRequestTiming

def roundTripMs (timing : StatusRequestTiming) : Nat :=
  timing.hostResponseReceivedMs - timing.hostRequestStartedMs

/-- The middle is never past the response, so that the sum does not saturate. -/
def hostMidpointMs (timing : StatusRequestTiming) : Nat :=
  timing.hostRequestStartedMs + timing.roundTripMs / 2

end StatusRequestTiming

/-- The fields of a status that the mapper reads. -/
structure ClockStatus where
  uptimeMs : Option UInt32
  clockEpoch : Option UInt32
  deriving DecidableEq, Repr

structure BrainstemClockEstimate where
  uptimeMs : UInt32
  hostMidpointMs : Nat
  confidence : Nat
  sourceEpoch : Nat
  epochChanged : Bool
  deriving DecidableEq, Repr

structure BrainstemClockMapper where
  lastUptimeMs : Option UInt32 := none
  lastHostMidpointMs : Option Nat := none
  firmwareEpoch : Option UInt32 := none
  sourceEpoch : Nat := 0
  reconnectPending : Bool := false
  deriving DecidableEq, Repr

namespace BrainstemClockMapper

variable (mapper : BrainstemClockMapper)

def markReconnect : BrainstemClockMapper := { mapper with reconnectPending := true }

def firmwareEpochChanged (status : ClockStatus) : Bool :=
  match mapper.firmwareEpoch, status.clockEpoch with
  | some previous, some current => previous != current
  | _, _ => false

/-- A large regression is the wrap of the uptime, a small one is a reboot. -/
def uptimeRegressed (uptimeMs : UInt32) : Bool :=
  match mapper.lastUptimeMs with
  | some last => uptimeMs < last && last - uptimeMs < brainstemClockHalfRange
  | none => false

def epochChanged (status : ClockStatus) (uptimeMs : UInt32) : Bool :=
  mapper.reconnectPending || mapper.firmwareEpochChanged status || mapper.uptimeRegressed uptimeMs

def outOfOrder (hostMidpointMs : Nat) : Bool :=
  match mapper.lastHostMidpointMs with
  | some last => hostMidpointMs < last
  | none => false

def nextEpoch (status : ClockStatus) (uptimeMs : UInt32) : Nat :=
  if mapper.epochChanged status uptimeMs then min (mapper.sourceEpoch + 1) 0xFFFFFFFFFFFFFFFF
  else mapper.sourceEpoch

def observeStatus (status : ClockStatus) (timing : StatusRequestTiming) :
    Except String BrainstemClockEstimate × BrainstemClockMapper :=
  match status.uptimeMs with
  | none => (.error "brainstem uptime is unavailable", mapper)
  | some uptimeMs =>
    if timing.hostResponseReceivedMs < timing.hostRequestStartedMs then
      (.error "host status timing regressed", mapper)
    else if mapper.outOfOrder timing.hostMidpointMs then
      (.error "out-of-order status response rejected", mapper)
    else
      (.ok {
        uptimeMs
        hostMidpointMs := timing.hostMidpointMs
        confidence :=
          if timing.roundTripMs ≤ 50 then 95
          else if timing.roundTripMs ≤ brainstemMaxStatusRttMs then 70
          else 20
        sourceEpoch := mapper.nextEpoch status uptimeMs
        epochChanged := mapper.epochChanged status uptimeMs },
      { reconnectPending := false
        lastUptimeMs := some uptimeMs
        lastHostMidpointMs := some timing.hostMidpointMs
        firmwareEpoch := status.clockEpoch.or mapper.firmwareEpoch
        sourceEpoch := mapper.nextEpoch status uptimeMs })

end BrainstemClockMapper

def BrainstemClockEstimate.mapExact (estimate : BrainstemClockEstimate)
    (brainstemTimestampMs : UInt32) : Except String Nat :=
  let ageMs := estimate.uptimeMs - brainstemTimestampMs
  if ageMs ≥ brainstemClockHalfRange then .error "brainstem sensor timestamp is in the future"
  else if ageMs.toNat ≤ estimate.hostMidpointMs then .ok (estimate.hostMidpointMs - ageMs.toNat)
  else .error "brainstem timestamp predates host clock origin"

/-- `now_ms` of the runtime, which stamps the samples. -/
def sampleStamp (uptimeUs : Nat) : UInt32 := microsecondClock uptimeUs

/-- The uptime in a status: all the milliseconds, cut to a word. -/
def statusUptime (uptimeUs : Nat) : UInt32 := UInt32.ofNat (uptimeUs / 1000)

structure Reading where
  status : ClockStatus
  timing : StatusRequestTiming
  deriving DecidableEq, Repr

def mapperAfter (readings : List Reading) : BrainstemClockMapper :=
  readings.foldl (fun mapper reading => (mapper.observeStatus reading.status reading.timing).2) {}

/-- A status request: the uptime at which the brainstem answered it, what the host noted, and the
uptimes at which the samples of the answer were captured. -/
structure Poll where
  renderedUs : Nat
  timing : StatusRequestTiming
  capturedUs : List Nat
  deriving DecidableEq, Repr

def Poll.reading (poll : Poll) : Reading where
  status := { uptimeMs := some (statusUptime poll.renderedUs), clockEpoch := some 0 }
  timing := poll.timing

/-- What the host makes of a poll after others. -/
def estimateOf (before : List Poll) (poll : Poll) : Except String BrainstemClockEstimate :=
  ((mapperAfter (before.map Poll.reading)).observeStatus poll.reading.status poll.reading.timing).1

/-- By how much the host's clock gains or loses on the brainstem's between two uptimes. -/
def drift (host : Nat → Nat) (sinceUs untilUs : Nat) : Nat :=
  (((host untilUs : Int) - host sinceUs) - ((untilUs / 1000 : Nat) - (sinceUs / 1000 : Nat))).natAbs

/-- The largest drift up to an uptime from any since another. -/
def maxDrift (host : Nat → Nat) (sinceUs untilUs : Nat) : Nat :=
  ((List.range (untilUs - sinceUs + 1)).map fun us => drift host (sinceUs + us) untilUs).foldr
    Nat.max 0

def previousUs (before : List Poll) : Nat :=
  match before.getLast? with
  | some last => last.renderedUs
  | none => 0

/-- Polls of a brainstem that does not reboot, one after the other, by a host whose clock reads
`host` at each uptime. -/
structure Truthful (host : Nat → Nat) (polls : List Poll) : Prop where
  answered : ∀ poll ∈ polls, poll.timing.hostRequestStartedMs ≤ host poll.renderedUs ∧
    host poll.renderedUs ≤ poll.timing.hostResponseReceivedMs
  serial : polls.Pairwise fun first second => first.renderedUs ≤ second.renderedUs ∧
    first.timing.hostResponseReceivedMs ≤ second.timing.hostRequestStartedMs
  captured : ∀ poll ∈ polls, ∀ us ∈ poll.capturedUs, us ≤ poll.renderedUs

/-- Every sample is mapped to its capture, up to the round trip and the drift. -/
def MapsSamples (host : Nat → Nat) (polls : List Poll) : Prop :=
  ∀ before poll, before ++ [poll] <+: polls → ∀ us ∈ poll.capturedUs,
    ∃ estimate mapped, estimateOf before poll = .ok estimate ∧
      estimate.mapExact (sampleStamp us) = .ok mapped ∧
      ((mapped : Int) - host us).natAbs ≤
        poll.timing.roundTripMs + maxDrift host (previousUs before) poll.renderedUs

/-- No poll is taken for a new epoch. -/
def KeepsEpoch (polls : List Poll) : Prop :=
  ∀ before poll, before ++ [poll] <+: polls →
    ∃ estimate, estimateOf before poll = .ok estimate ∧ estimate.epochChanged = false

/-- Readings one after the other, each with an uptime. -/
structure Serial (readings : List Reading) : Prop where
  timed : ∀ reading ∈ readings,
    reading.timing.hostRequestStartedMs ≤ reading.timing.hostResponseReceivedMs
  serial : readings.Pairwise fun first second =>
    first.timing.hostResponseReceivedMs ≤ second.timing.hostRequestStartedMs
  uptime : ∀ reading ∈ readings, reading.status.uptimeMs.isSome

/-- A reading whose uptime is less than the last one's, by less than half the range, is taken for a
new epoch. -/
def ReportsReboots : Prop :=
  ∀ before last reading, Serial (before ++ [last, reading]) →
    ∀ uptimeMs lastMs, reading.status.uptimeMs = some uptimeMs → last.status.uptimeMs = some lastMs →
      uptimeMs < lastMs → lastMs - uptimeMs < brainstemClockHalfRange →
      ∃ estimate, ((mapperAfter (before ++ [last])).observeStatus reading.status reading.timing).1 =
        .ok estimate ∧ estimate.epochChanged = true

/-- A stamp that the host can place. The microsecond counter has wrapped a multiple of a thousand
times, the sample is less than half the range old and not older than the host's clock, and the
clocks have not drifted apart more since then than since the last poll. -/
structure Placed (host : Nat → Nat) (before : List Poll) (poll : Poll) (us : Nat) : Prop where
  turns : us / 4294967296 % 1000 = 0
  recent : poll.renderedUs / 1000 < us / 1000 + 2147483648
  origin : poll.renderedUs / 1000 ≤ us / 1000 + poll.timing.hostMidpointMs
  drifted : drift host us poll.renderedUs ≤ maxDrift host (previousUs before) poll.renderedUs

/-- The uptime has gone on by no more than half the range since the last poll, up to whole turns, or
has not wrapped in between. -/
def Continues (before : List Poll) (poll : Poll) : Prop :=
  ∀ last ∈ before.getLast?,
    (poll.renderedUs / 1000 - last.renderedUs / 1000) % 4294967296 ≤ 2147483648 ∨
      last.renderedUs / 1000 % 4294967296 +
        (poll.renderedUs / 1000 - last.renderedUs / 1000) % 4294967296 < 4294967296

section Readings

variable {readings : List Reading} {mapper : BrainstemClockMapper}

theorem hostMidpointMs_le {timing : StatusRequestTiming}
    (h : timing.hostRequestStartedMs ≤ timing.hostResponseReceivedMs) :
    timing.hostRequestStartedMs ≤ timing.hostMidpointMs ∧
      timing.hostMidpointMs ≤ timing.hostResponseReceivedMs := by
  unfold StatusRequestTiming.hostMidpointMs StatusRequestTiming.roundTripMs
  omega

theorem observeStatus_ok {status : ClockStatus} {timing : StatusRequestTiming} {uptimeMs : UInt32}
    (huptime : status.uptimeMs = some uptimeMs)
    (htimed : timing.hostRequestStartedMs ≤ timing.hostResponseReceivedMs)
    (horder : mapper.outOfOrder timing.hostMidpointMs = false) :
    ∃ estimate, (mapper.observeStatus status timing).1 = .ok estimate ∧
      estimate.uptimeMs = uptimeMs ∧ estimate.hostMidpointMs = timing.hostMidpointMs ∧
      estimate.epochChanged = mapper.epochChanged status uptimeMs := by
  unfold BrainstemClockMapper.observeStatus
  rw [huptime]
  simp only [if_neg (Nat.not_lt.mpr htimed), horder]
  exact ⟨_, rfl, rfl, rfl, rfl⟩

theorem observeStatus_next {status : ClockStatus} {timing : StatusRequestTiming} {uptimeMs : UInt32}
    (huptime : status.uptimeMs = some uptimeMs)
    (htimed : timing.hostRequestStartedMs ≤ timing.hostResponseReceivedMs)
    (horder : mapper.outOfOrder timing.hostMidpointMs = false) :
    (mapper.observeStatus status timing).2 =
      { reconnectPending := false
        lastUptimeMs := some uptimeMs
        lastHostMidpointMs := some timing.hostMidpointMs
        firmwareEpoch := status.clockEpoch.or mapper.firmwareEpoch
        sourceEpoch := mapper.nextEpoch status uptimeMs } := by
  unfold BrainstemClockMapper.observeStatus
  rw [huptime]
  simp only [if_neg (Nat.not_lt.mpr htimed), horder]
  rfl

theorem mapperAfter_concat (readings : List Reading) (reading : Reading) :
    mapperAfter (readings ++ [reading]) =
      ((mapperAfter readings).observeStatus reading.status reading.timing).2 :=
  List.foldl_concat ..

theorem Serial.front {front back : List Reading} (h : Serial (front ++ back)) : Serial front where
  timed reading hmem := h.timed reading (List.mem_append_left _ hmem)
  serial := (List.pairwise_append.mp h.serial).1
  uptime reading hmem := h.uptime reading (List.mem_append_left _ hmem)

structure Follows (mapper : BrainstemClockMapper) (readings : List Reading) : Prop where
  settled : mapper.reconnectPending = false
  uptime : mapper.lastUptimeMs = readings.getLast?.bind fun last => last.status.uptimeMs
  midpoint : mapper.lastHostMidpointMs = readings.getLast?.map fun last => last.timing.hostMidpointMs

theorem Follows.inOrder {reading : Reading} (h : Follows mapper readings)
    (hserial : Serial (readings ++ [reading])) :
    mapper.outOfOrder reading.timing.hostMidpointMs = false := by
  unfold BrainstemClockMapper.outOfOrder
  rw [h.midpoint]
  cases hlast : readings.getLast? with
  | none => rfl
  | some last =>
    have hmem : last ∈ readings := List.mem_of_getLast? hlast
    have hbefore := (List.pairwise_append.mp hserial.serial).2.2 last hmem reading (by simp)
    have hfirst := (hostMidpointMs_le (hserial.timed last (by simp [hmem]))).2
    have hsecond := (hostMidpointMs_le (hserial.timed reading (by simp))).1
    simp only [Option.map_some, decide_eq_false_iff_not]
    omega

theorem follows_mapperAfter (h : Serial readings) : Follows (mapperAfter readings) readings := by
  induction readings using List.reverseRecOn with
  | nil => exact ⟨rfl, rfl, rfl⟩
  | append_singleton before reading ih =>
    have hbefore := ih h.front
    obtain ⟨uptimeMs, huptime⟩ := Option.isSome_iff_exists.mp (h.uptime reading (by simp))
    rw [mapperAfter_concat, observeStatus_next huptime (h.timed reading (by simp))
      (hbefore.inOrder h)]
    exact ⟨rfl, by simp [huptime], by simp⟩

theorem reportsReboots : ReportsReboots := by
  intro before last reading hserial uptimeMs lastMs huptime hlast hless hnear
  have hsplit : Serial ((before ++ [last]) ++ [reading]) := by simpa using hserial
  have hfollows := follows_mapperAfter hsplit.front
  obtain ⟨estimate, hok, -, -, hchanged⟩ := observeStatus_ok huptime
    (hsplit.timed reading (by simp)) (hfollows.inOrder hsplit)
  refine ⟨estimate, hok, ?_⟩
  have hremembered : (mapperAfter (before ++ [last])).lastUptimeMs = some lastMs := by
    rw [hfollows.uptime, List.getLast?_concat, Option.bind_some, hlast]
  rw [hchanged, BrainstemClockMapper.epochChanged, BrainstemClockMapper.uptimeRegressed, hremembered]
  simp [hless, hnear]

end Readings

section Polls

variable {host : Nat → Nat} {polls before : List Poll} {poll : Poll}

theorem Truthful.part {first : List Poll} (h : Truthful host polls) (hpart : first <+: polls) :
    Truthful host first where
  answered poll hmem := h.answered poll (hpart.subset hmem)
  serial := h.serial.sublist hpart.sublist
  captured poll hmem := h.captured poll (hpart.subset hmem)

theorem Truthful.readings (h : Truthful host polls) : Serial (polls.map Poll.reading) where
  timed reading hmem := by
    obtain ⟨poll, hpoll, rfl⟩ := List.mem_map.mp hmem
    exact (h.answered poll hpoll).1.trans (h.answered poll hpoll).2
  serial := by
    rw [List.pairwise_map]
    exact h.serial.imp fun hpair => hpair.2
  uptime reading hmem := by
    obtain ⟨poll, -, rfl⟩ := List.mem_map.mp hmem
    rfl

theorem firmwareEpoch_mapperAfter (h : Truthful host polls) :
    ∀ epoch ∈ (mapperAfter (polls.map Poll.reading)).firmwareEpoch, epoch = 0 := by
  induction polls using List.reverseRecOn with
  | nil =>
    intro epoch hepoch
    cases hepoch
  | append_singleton before poll ih =>
    have hserial := h.readings
    rw [List.map_append] at hserial ⊢
    intro epoch hepoch
    have hnext := mapperAfter_concat (before.map Poll.reading) poll.reading
    rw [observeStatus_next rfl (hserial.timed poll.reading (by simp))
      ((follows_mapperAfter hserial.front).inOrder hserial)] at hnext
    rw [List.map_singleton, hnext] at hepoch
    cases hepoch
    rfl

theorem statusUptime_toNat (us : Nat) : (statusUptime us).toNat = us / 1000 % 4294967296 := by
  rw [statusUptime, UInt32.toNat_ofNat']

theorem Truthful.estimate (h : Truthful host (before ++ [poll])) :
    ∃ estimate, estimateOf before poll = .ok estimate ∧
      estimate.uptimeMs = statusUptime poll.renderedUs ∧
      estimate.hostMidpointMs = poll.timing.hostMidpointMs ∧
      estimate.epochChanged =
        (mapperAfter (before.map Poll.reading)).uptimeRegressed (statusUptime poll.renderedUs) := by
  have hserial := h.readings
  rw [List.map_append, List.map_singleton] at hserial
  have hfollows := follows_mapperAfter hserial.front
  obtain ⟨estimate, hok, huptime, hmidpoint, hchanged⟩ := observeStatus_ok
    (rfl : poll.reading.status.uptimeMs = some (statusUptime poll.renderedUs))
    (hserial.timed poll.reading (by simp)) (hfollows.inOrder hserial)
  refine ⟨estimate, hok, huptime, hmidpoint, ?_⟩
  have hepoch := firmwareEpoch_mapperAfter (h.part (List.prefix_append before [poll]))
  have hsame : (mapperAfter (before.map Poll.reading)).firmwareEpochChanged poll.reading.status =
      false := by
    unfold BrainstemClockMapper.firmwareEpochChanged
    cases hremembered : (mapperAfter (before.map Poll.reading)).firmwareEpoch with
    | none => rfl
    | some previous =>
      rw [hepoch previous hremembered]
      rfl
  rw [hchanged, BrainstemClockMapper.epochChanged, hfollows.settled, hsame]
  rfl

theorem uptimeRegressed_iff {mapper : BrainstemClockMapper} {last now : Nat}
    (hlast : mapper.lastUptimeMs = some (statusUptime last)) :
    mapper.uptimeRegressed (statusUptime now) = true ↔
      now / 1000 % 4294967296 < last / 1000 % 4294967296 ∧
        last / 1000 % 4294967296 < now / 1000 % 4294967296 + 2147483648 := by
  unfold BrainstemClockMapper.uptimeRegressed
  rw [hlast]
  have hhalf : brainstemClockHalfRange.toNat = 2147483648 := by decide
  simp only [Bool.and_eq_true, decide_eq_true_eq, UInt32.lt_iff_toNat_lt, UInt32.toNat_sub,
    statusUptime_toNat, hhalf]
  omega

theorem Truthful.epochChanged_iff (h : Truthful host (before ++ [poll])) :
    (∃ estimate, estimateOf before poll = .ok estimate ∧ estimate.epochChanged = false) ↔
      Continues before poll := by
  obtain ⟨estimate, hok, -, -, hchanged⟩ := h.estimate
  have hkeeps : (∃ other, estimateOf before poll = .ok other ∧ other.epochChanged = false) ↔
      estimate.epochChanged = false := by
    constructor
    · rintro ⟨other, hother, hfalse⟩
      rw [hok] at hother
      cases hother
      exact hfalse
    · intro hfalse
      exact ⟨estimate, hok, hfalse⟩
  rw [hkeeps, hchanged]
  have hserial := h.readings
  rw [List.map_append, List.map_singleton] at hserial
  have hremembered := (follows_mapperAfter hserial.front).uptime
  unfold Continues
  rw [List.getLast?_map] at hremembered
  cases hlast : before.getLast? with
  | none =>
    rw [hlast] at hremembered
    unfold BrainstemClockMapper.uptimeRegressed
    rw [hremembered]
    simp
  | some last =>
    rw [hlast] at hremembered
    have hmem : last ∈ before := List.mem_of_getLast? hlast
    have hle := ((List.pairwise_append.mp h.serial).2.2 last hmem poll (by simp)).1
    have hms : last.renderedUs / 1000 ≤ poll.renderedUs / 1000 := Nat.div_le_div_right hle
    rw [← Bool.not_eq_true, uptimeRegressed_iff (hremembered : _ = some (statusUptime last.renderedUs))]
    simp only [Option.mem_def, Option.some.injEq, forall_eq']
    omega

/-- A stamp whose counter has wrapped a multiple of a thousand times is the uptime, cut to a
word. -/
theorem sampleStamp_eq_iff (us : Nat) :
    sampleStamp us = statusUptime us ↔ us / 4294967296 % 1000 = 0 := by
  rw [← UInt32.toNat_inj, sampleStamp, microsecondClock_toNat, statusUptime_toNat]
  omega

theorem Placed.mapExact {us : Nat} {estimate : BrainstemClockEstimate}
    (h : Placed host before poll us) (hcaptured : us ≤ poll.renderedUs)
    (huptime : estimate.uptimeMs = statusUptime poll.renderedUs)
    (hmidpoint : estimate.hostMidpointMs = poll.timing.hostMidpointMs) :
    estimate.mapExact (sampleStamp us) =
      .ok (poll.timing.hostMidpointMs - (poll.renderedUs / 1000 - us / 1000)) := by
  have hage : (estimate.uptimeMs - sampleStamp us).toNat = poll.renderedUs / 1000 - us / 1000 := by
    have hms : us / 1000 ≤ poll.renderedUs / 1000 := Nat.div_le_div_right hcaptured
    have hrecent := h.recent
    rw [huptime, (sampleStamp_eq_iff us).mpr h.turns, UInt32.toNat_sub, statusUptime_toNat,
      statusUptime_toNat]
    omega
  have hhalf : brainstemClockHalfRange.toNat = 2147483648 := by decide
  have hrecent := h.recent
  have horigin := h.origin
  unfold BrainstemClockEstimate.mapExact
  rw [if_neg (by rw [ge_iff_le, UInt32.le_iff_toNat_le, hage, hhalf]; omega), hage, hmidpoint,
    if_pos (by omega)]

theorem drift_le_maxDrift {sinceUs us untilUs : Nat} (hsince : sinceUs ≤ us) (huntil : us ≤ untilUs) :
    drift host us untilUs ≤ maxDrift host sinceUs untilUs := by
  have hmem : us - sinceUs ∈ List.range (untilUs - sinceUs + 1) := by
    rw [List.mem_range]
    omega
  unfold maxDrift
  generalize List.range (untilUs - sinceUs + 1) = steps at hmem
  induction steps with
  | nil => cases hmem
  | cons first rest ih =>
    rw [List.map_cons, List.foldr_cons]
    obtain heq | hrest := List.mem_cons.mp hmem
    · rw [← heq, Nat.add_sub_cancel' hsince]
      exact Nat.le_max_left _ _
    · exact (ih hrest).trans (Nat.le_max_right _ _)

theorem midpoint_near {us : Nat} (h : Placed host before poll us) (hcaptured : us ≤ poll.renderedUs)
    (hanswered : poll.timing.hostRequestStartedMs ≤ host poll.renderedUs ∧
      host poll.renderedUs ≤ poll.timing.hostResponseReceivedMs) :
    (((poll.timing.hostMidpointMs - (poll.renderedUs / 1000 - us / 1000) : Nat) : Int) -
      host us).natAbs ≤
        poll.timing.roundTripMs + maxDrift host (previousUs before) poll.renderedUs := by
  have hms : us / 1000 ≤ poll.renderedUs / 1000 := Nat.div_le_div_right hcaptured
  have hdrift := h.drifted
  have horigin := h.origin
  generalize maxDrift host (previousUs before) poll.renderedUs = most at *
  unfold drift at hdrift
  unfold StatusRequestTiming.hostMidpointMs StatusRequestTiming.roundTripMs at *
  omega

/-- The mapper keeps the epoch over a run exactly when each poll continues the last; if every
sample can be placed it maps each to its capture; and it reports reboots. -/
theorem clockMapping (host : Nat → Nat) (polls : List Poll) (h : Truthful host polls) :
    (KeepsEpoch polls ↔ ∀ before poll, before ++ [poll] <+: polls → Continues before poll) ∧
    ((∀ before poll, before ++ [poll] <+: polls →
      ∀ us ∈ poll.capturedUs, Placed host before poll us) → MapsSamples host polls) ∧
    ReportsReboots := by
  refine ⟨?_, ?_, reportsReboots⟩
  · constructor
    · intro hkeeps before poll hpart
      exact (h.part hpart).epochChanged_iff.mp (hkeeps before poll hpart)
    · intro hcontinues before poll hpart
      exact (h.part hpart).epochChanged_iff.mpr (hcontinues before poll hpart)
  · intro hplaced before poll hpart us hus
    have htruthful := h.part hpart
    have hplace := hplaced before poll hpart us hus
    have hcaptured := htruthful.captured poll (by simp) us hus
    obtain ⟨estimate, hok, huptime, hmidpoint, -⟩ := htruthful.estimate
    exact ⟨estimate, _, hok, hplace.mapExact hcaptured huptime hmidpoint,
      midpoint_near hplace hcaptured (htruthful.answered poll (by simp))⟩

/-- A host whose clock runs as the brainstem's, a day ahead. -/
def evenHost (us : Nat) : Nat := us / 1000 + 86400000

theorem drift_evenHost (sinceUs untilUs : Nat) : drift evenHost sinceUs untilUs = 0 := by
  unfold drift evenHost
  omega

theorem maxDrift_evenHost (sinceUs untilUs : Nat) : maxDrift evenHost sinceUs untilUs = 0 := by
  unfold maxDrift
  simp only [drift_evenHost]
  induction List.range (untilUs - sinceUs + 1) with
  | nil => rfl
  | cons us rest ih =>
    rw [List.map_cons, List.foldr_cons, ih]
    rfl

theorem prefix_single {first : List Poll} {last only : Poll} (h : first ++ [last] <+: [only]) :
    first = [] ∧ last = only := by
  have hlength := h.length_le
  rw [List.length_append, List.length_singleton, List.length_singleton] at hlength
  cases first with
  | nil => exact ⟨rfl, (List.cons_prefix_cons.mp h).1⟩
  | cons head tail =>
    rw [List.length_cons] at hlength
    omega

theorem truthful_evenHost {poll : Poll}
    (hanswered : poll.timing.hostRequestStartedMs ≤ evenHost poll.renderedUs ∧
      evenHost poll.renderedUs ≤ poll.timing.hostResponseReceivedMs)
    (hcaptured : ∀ us ∈ poll.capturedUs, us ≤ poll.renderedUs) : Truthful evenHost [poll] where
  answered other hother := by
    rw [List.mem_singleton.mp hother]
    exact hanswered
  serial := List.pairwise_singleton _ _
  captured other hother := by
    rw [List.mem_singleton.mp hother]
    exact hcaptured

/-- A sample of ten milliseconds ago, twenty seconds after the start. -/
def earlyPoll : Poll := ⟨20000000, ⟨86419990, 86420010⟩, [19990000]⟩

/-- The same after the microsecond counter has wrapped. -/
def latePoll : Poll := ⟨4294987296, ⟨90694977, 90694997⟩, [4294977296]⟩

theorem clockMapping_early : KeepsEpoch [earlyPoll] ∧ MapsSamples evenHost [earlyPoll] := by
  have htruthful : Truthful evenHost [earlyPoll] := truthful_evenHost (by decide) (by decide)
  obtain ⟨hkeeps, hmaps, -⟩ := clockMapping evenHost [earlyPoll] htruthful
  constructor
  · apply hkeeps.mpr
    intro before poll hpart last hlast
    obtain ⟨rfl, rfl⟩ := prefix_single hpart
    cases hlast
  · apply hmaps
    intro before poll hpart us hus
    obtain ⟨rfl, rfl⟩ := prefix_single hpart
    rw [List.mem_singleton.mp hus]
    exact ⟨by decide, by decide, by decide, drift_le_maxDrift (by decide) (by decide)⟩

/-- The sample is placed seventy-one minutes before its capture. -/
theorem stamp_wraps_before_uptime :
    Truthful evenHost [latePoll] ∧ ¬ MapsSamples evenHost [latePoll] := by
  refine ⟨truthful_evenHost (by decide) (by decide), ?_⟩
  intro h
  obtain ⟨estimate, mapped, hestimate, hmapped, hnear⟩ :=
    h [] latePoll (List.prefix_refl _) 4294977296 (by decide)
  have hseen : (estimateOf [] latePoll).bind
      (fun estimate => estimate.mapExact (sampleStamp 4294977296)) = .ok 86400010 := by decide +kernel
  rw [hestimate] at hseen
  cases hmapped.symm.trans hseen
  rw [maxDrift_evenHost] at hnear
  revert hnear
  decide

end Polls

end Netherwick.RealRobot

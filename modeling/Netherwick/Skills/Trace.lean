import Netherwick.Lib.Ring
import Netherwick.Lib.Run
import Netherwick.Lib.SortedMap
import Netherwick.Skills.Operations
import Mathlib.Data.String.Basic

/-! # The trace of a skill

What happens to a skill is traced twice: in the bridge that its Lua code shares with the host, and in
the invocation that the host polls. Most events go through `pushTrace`, which makes room in a full
trace. `reportProgress` appends its own event without making room. -/

namespace Netherwick.Skills

open Netherwick.Lib

def maxProgressEntries : Nat := 64

def maxTraceEvents : Nat := 512

section Events

variable (Json : Type)

structure PrimitiveIntent where
  operationId : Nat
  childId : Nat
  operation : String
  resource : Option BodyResource
  emittedAtMs : Nat
  detail : Json
  deriving DecidableEq

inductive SkillTraceEvent
  | started (atMs : Nat) (skillId sourceHash : String) (arguments startingNow : Json)
  | childStarted (atMs childId parentChildId order : Nat)
  | resourceWaiting (atMs operationId childId : Nat) (resource : BodyResource)
  | resourceAcquired (atMs operationId childId : Nat) (resource : BodyResource)
  | resourceReleased (atMs operationId childId : Nat) (resource : BodyResource) (reason : String)
  | primitive (intent : PrimitiveIntent Json)
  | progress (atMs : Nat) (key : String) (value : Float32)
  | preempted (atMs operationId : Nat) (failure : SkillFailure)
  | completed (atMs : Nat) (outcome : SkillOutcome) (detail : Option SkillFailure)
      (durationMs : Nat) (result : Option Json)

end Events

structure TraceBridge (Json : Type) where
  snapshotMs : Option Nat
  reportedProgress : SortedMap String Float32
  trace : List (SkillTraceEvent Json)

namespace TraceBridge

variable {Json : Type} (bridge : TraceBridge Json)

def pushTrace (event : SkillTraceEvent Json) : TraceBridge Json :=
  { bridge with trace := ringPush maxTraceEvents bridge.trace event }

/-- The event carries the value as it was given, the map the clamped one. -/
def reportProgress (key : String) (value : Float32) : Except String (TraceBridge Json) :=
  if ¬key.utf8ByteSize ≤ 128 then .error "progress key is too long"
  else if ¬value.isFinite then .error "progress must be finite"
  else if ¬(bridge.reportedProgress.contains key ∨
      bridge.reportedProgress.entries.length < maxProgressEntries) then
    .error "too many progress values"
  else .ok { bridge with
    reportedProgress := bridge.reportedProgress.insert key
      (if value < 0 then 0 else if 1 < value then 1 else value)
    trace := bridge.trace ++ [.progress (bridge.snapshotMs.getD 0) key value] }

end TraceBridge

structure TracedInvocation (Json : Type) where
  bridge : TraceBridge Json
  trace : List (SkillTraceEvent Json)

namespace TracedInvocation

variable {Json : Type}

def started (invocation : TracedInvocation Json) (start : SkillTraceEvent Json) :
    TracedInvocation Json where
  bridge := invocation.bridge.pushTrace start
  trace := [start]

def pushInvocationTrace (invocation : TracedInvocation Json) (event : SkillTraceEvent Json) :
    TracedInvocation Json where
  bridge := invocation.bridge.pushTrace event
  trace := ringPush maxTraceEvents invocation.trace event

end TracedInvocation

/-- What touches the trace of a skill: the host starts it or begins a poll, `together` starts a
child, the host traces an operation or the end of the skill, the Lua code reports progress. -/
inductive TraceOp (Json : Type)
  | started (event : SkillTraceEvent Json)
  | poll (nowMs : Nat)
  | childStarted (childId parentChildId order : Nat)
  | invocationTrace (event : SkillTraceEvent Json)
  | reportProgress (key : String) (value : Float32)

variable {Json : Type}

structure Recorded (Json : Type) where
  invocation : TracedInvocation Json
  appended : List (SkillTraceEvent Json)

namespace Recorded

/-- A new bridge. The scripts are loaded over it before the skill is started. -/
def fresh (nowMs : Nat) : Recorded Json := ⟨⟨⟨some nowMs, .empty, []⟩, []⟩, []⟩

variable (s : Recorded Json)

def apply : TraceOp Json → Recorded Json
  | .started event =>
    { invocation := s.invocation.started event
      appended := s.appended ++ [event] }
  | .poll nowMs =>
    { s with invocation.bridge.snapshotMs := some nowMs }
  | .childStarted childId parentChildId order => match s.invocation.bridge.snapshotMs with
      | none => s
      | some nowMs =>
        let event := .childStarted nowMs childId parentChildId order
        { invocation := { s.invocation with bridge := s.invocation.bridge.pushTrace event }
          appended := s.appended ++ [event] }
  | .invocationTrace event =>
    { invocation := s.invocation.pushInvocationTrace event
      appended := s.appended ++ [event] }
  | .reportProgress key value => match s.invocation.bridge.reportProgress key value with
      | .error _ => s
      | .ok bridge =>
        { invocation := { s.invocation with bridge }
          appended := s.appended ++
            [.progress (s.invocation.bridge.snapshotMs.getD 0) key value] }

/-- The bridge would take the report. -/
def Accepts (key : String) (value : Float32) : Prop :=
  key.utf8ByteSize ≤ 128 ∧ value.isFinite ∧
    (s.invocation.bridge.reportedProgress.contains key ∨
      s.invocation.bridge.reportedProgress.entries.length < maxProgressEntries)

/-- A report of progress that is taken finds the trace still short of its bound. -/
def ReportsEarly : TraceOp Json → Prop
  | .reportProgress key value => s.Accepts key value → s.appended.length < maxTraceEvents
  | _ => True

/-- The trace of the bridge holds the most recent events and no more than it may. -/
def IsRing : Prop :=
  s.invocation.bridge.trace.length ≤ maxTraceEvents ∧
    s.invocation.bridge.trace = s.appended.rtake maxTraceEvents

def Overfull : Prop := maxTraceEvents < s.invocation.bridge.trace.length

variable {s} {key : String} {value : Float32} {op : TraceOp Json}

theorem reportProgress_of_accepts (h : s.Accepts key value) :
    ∃ bridge, s.invocation.bridge.reportProgress key value = .ok bridge ∧
      bridge.trace = s.invocation.bridge.trace ++
        [.progress (s.invocation.bridge.snapshotMs.getD 0) key value] ∧
      bridge.reportedProgress.contains key = true := by
  obtain ⟨hkey, hvalue, hknown⟩ := h
  rw [TraceBridge.reportProgress, if_neg (not_not.mpr hkey), if_neg (not_not.mpr hvalue),
    if_neg (not_not.mpr hknown)]
  exact ⟨_, rfl, rfl, by simp [SortedMap.contains_insert]⟩

theorem reportProgress_of_not_accepts (h : ¬s.Accepts key value) :
    ∃ message, s.invocation.bridge.reportProgress key value = .error message := by
  rw [TraceBridge.reportProgress]
  by_cases hkey : key.utf8ByteSize ≤ 128
  · by_cases hvalue : value.isFinite = true
    · have hknown := fun hknown => h ⟨hkey, hvalue, hknown⟩
      rw [if_neg (not_not.mpr hkey), if_neg (not_not.mpr hvalue), if_pos hknown]
      exact ⟨_, rfl⟩
    · rw [if_neg (not_not.mpr hkey), if_pos hvalue]
      exact ⟨_, rfl⟩
  · rw [if_pos hkey]
    exact ⟨_, rfl⟩

theorem apply_cases (s : Recorded Json) (op : TraceOp Json) :
    ((s.apply op).invocation.bridge.trace = s.invocation.bridge.trace ∧
        (s.apply op).appended = s.appended ∧ s.ReportsEarly op) ∨
      (∃ event, (s.apply op).invocation.bridge.trace =
          ringPush maxTraceEvents s.invocation.bridge.trace event ∧
        (s.apply op).appended = s.appended ++ [event] ∧ s.ReportsEarly op) ∨
      ∃ event, (s.apply op).invocation.bridge.trace = s.invocation.bridge.trace ++ [event] ∧
        (s.apply op).appended = s.appended ++ [event] ∧
        (s.ReportsEarly op ↔ s.appended.length < maxTraceEvents) := by
  cases op with
  | started event => exact .inr (.inl ⟨event, rfl, rfl, trivial⟩)
  | poll nowMs => exact .inl ⟨rfl, rfl, trivial⟩
  | childStarted childId parentChildId order =>
    cases hnow : s.invocation.bridge.snapshotMs with
    | none => exact .inl (by simp [apply, hnow, ReportsEarly])
    | some nowMs =>
      exact .inr (.inl ⟨.childStarted nowMs childId parentChildId order,
        by simp [apply, hnow, TraceBridge.pushTrace, ReportsEarly]⟩)
  | invocationTrace event => exact .inr (.inl ⟨event, rfl, rfl, trivial⟩)
  | reportProgress key value =>
    by_cases h : s.Accepts key value
    · obtain ⟨bridge, hreport, htrace, -⟩ := reportProgress_of_accepts h
      exact .inr (.inr ⟨.progress (s.invocation.bridge.snapshotMs.getD 0) key value,
        by simp [apply, hreport, htrace, ReportsEarly, h]⟩)
    · obtain ⟨message, hreport⟩ := reportProgress_of_not_accepts h
      exact .inl (by simp [apply, hreport, ReportsEarly, h])

theorem IsRing.apply (h : s.IsRing) (hearly : s.ReportsEarly op) : (s.apply op).IsRing := by
  have hkept : (s.apply op).invocation.bridge.trace =
      (s.apply op).appended.rtake maxTraceEvents := by
    rcases apply_cases s op with ⟨htrace, hlog, -⟩ | ⟨event, htrace, hlog, -⟩ |
      ⟨event, htrace, hlog, hiff⟩
    · rw [htrace, hlog, h.2]
    · rw [htrace, hlog, h.2, ringPush_rtake (by decide)]
    · rw [htrace, hlog, h.2, concat_rtake event (hiff.mp hearly)]
  rw [IsRing, hkept, length_rtake]
  exact ⟨min_le_left _ _, rfl⟩

theorem IsRing.overfull (h : s.IsRing) (hlate : ¬s.ReportsEarly op) : (s.apply op).Overfull := by
  rcases apply_cases s op with ⟨-, -, hearly⟩ | ⟨event, -, -, hearly⟩ | ⟨event, htrace, -, hiff⟩
  · exact absurd hearly hlate
  · exact absurd hearly hlate
  · rw [Overfull, htrace, h.2]
    exact length_concat_rtake event (by simpa [hiff] using hlate)

theorem Overfull.apply (h : s.Overfull) (op : TraceOp Json) : (s.apply op).Overfull := by
  rw [Overfull]
  rcases apply_cases s op with ⟨htrace, -, -⟩ | ⟨event, htrace, -, -⟩ | ⟨event, htrace, -, -⟩
  · rw [htrace]
    exact h
  · rw [htrace]
    exact length_ringPush_of_lt event h
  · rw [htrace, List.length_append]
    exact Nat.lt_add_right _ h

theorem isRing_fresh (nowMs : Nat) : (fresh nowMs : Recorded Json).IsRing := by
  simp [IsRing, fresh]

theorem run_ring (nowMs : Nat) (ops : List (TraceOp Json)) :
    (EachStep apply (fresh nowMs) ReportsEarly ops ∧ (after apply (fresh nowMs) ops).IsRing) ∨
      (¬EachStep apply (fresh nowMs) ReportsEarly ops ∧
        (after apply (fresh nowMs) ops).Overfull) := by
  induction ops using List.reverseRecOn with
  | nil => exact .inl ⟨eachStep_nil, isRing_fresh nowMs⟩
  | append_singleton ops op ih =>
    rw [eachStep_concat, after_append]
    rcases ih with ⟨heach, hring⟩ | ⟨hnot, hover⟩
    · by_cases hearly : (after apply (fresh nowMs) ops).ReportsEarly op
      · exact .inl ⟨⟨heach, hearly⟩, hring.apply hearly⟩
      · exact .inr ⟨fun h => hearly h.2, hring.overfull hearly⟩
    · exact .inr ⟨fun h => hnot h.1, hover.apply op⟩

/-- The trace is a bounded ring of the most recent events exactly as long as every report of progress
that is taken finds fewer events traced than the bound. -/
theorem trace_isRing_iff (nowMs : Nat) (ops : List (TraceOp Json)) :
    (after apply (fresh nowMs) ops).IsRing ↔
      EachStep apply (fresh nowMs) ReportsEarly ops := by
  rcases run_ring nowMs ops with ⟨heach, hring⟩ | ⟨hnot, hover⟩
  · exact ⟨fun _ => heach, fun _ => hring⟩
  · exact ⟨fun h => absurd h.1 (Nat.not_le.mpr hover), fun h => absurd h hnot⟩

theorem accepts_apply (h : s.Accepts key value) :
    (s.apply (.reportProgress key value)).Accepts key value := by
  obtain ⟨bridge, hreport, -, hknown⟩ := reportProgress_of_accepts h
  exact ⟨h.1, h.2.1, .inl (by simpa [apply, hreport] using hknown)⟩

theorem length_trace_reports (h : s.Accepts key value) (count : Nat) :
    (after apply s
        (List.replicate count (.reportProgress key value))).invocation.bridge.trace.length =
      s.invocation.bridge.trace.length + count := by
  induction count generalizing s with
  | zero => rfl
  | succ count ih =>
    obtain ⟨bridge, hreport, htrace, -⟩ := reportProgress_of_accepts h
    have hfirst : (s.apply (.reportProgress key value)).invocation.bridge.trace.length =
        s.invocation.bridge.trace.length + 1 := by
      simp [apply, hreport, htrace]
    rw [List.replicate_succ, after_cons, ih (accepts_apply h), hfirst]
    omega

/-- A skill that reports its progress once for each event that its trace may hold. -/
theorem reports_overfill :
    ¬(after apply (fresh 0) (.started (.started 0 "skill.walk" "" () ()) ::
      List.replicate 512 (.reportProgress "p" 0)) : Recorded Unit).IsRing := by
  have haccepts : ((fresh 0).apply (.started (.started 0 "skill.walk" "" () ())) :
      Recorded Unit).Accepts "p" 0 := ⟨by decide, by decide +kernel, .inr (by decide)⟩
  have hlength := length_trace_reports haccepts 512
  intro h
  have hbound := h.1
  rw [after_cons, hlength] at hbound
  exact absurd hbound (by decide)

end Recorded

end Netherwick.Skills

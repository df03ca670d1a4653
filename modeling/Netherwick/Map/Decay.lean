import Netherwick.Map.Integrity

/-! # Decay

The grid is drawn again from the submaps that are kept after every observation, and only then decays:
what the observations before have taken off is there again, so that no cell is ever more than one step
below what its submaps give it. A cell loses as much as it should only where the submaps that saw it
are dropped, or give it no more than one step, by the second observation that finds it stale. -/

namespace Netherwick.Map

open Netherwick.Lib

/-- A beam says of one cell that it is free or occupied. -/
structure Mark where
  key : CellKey
  occupied : Bool
  confidence : ℚ
  tMs : Nat

section Marks

variable (config : MapConfig) (e : Elementary)

def Mark.drawn (cells : Cells) (m : Mark) : Cells :=
  mark config m.tMs m.confidence cells (m.key, m.occupied)

def Mark.bumped (cell : OccupancyCell) (m : Mark) : OccupancyCell :=
  if m.occupied then
    let increment := config.occupiedIncrement * clamp 0 1 m.confidence
    seenAs cell (max (cell.freeScore - increment * 0.2) 0)
      (clamp 0 1 (cell.occupiedScore + increment)) m.tMs
  else
    let increment := config.freeIncrement * clamp 0 1 m.confidence
    seenAs cell (clamp 0 1 (cell.freeScore + increment))
      (max (cell.occupiedScore - increment * 0.25) 0) m.tMs

def Mark.bumpedAt (key : CellKey) (cell : Option OccupancyCell) (m : Mark) : Option OccupancyCell :=
  some (m.bumped config (cell.getD
    { key, occupiedScore := 0, freeScore := 0, confidence := 0, lastSeenMs := m.tMs }))

def submapMarks (nodes : List PoseNode) (submap : OccupancySubmap) : List Mark :=
  (nodes.find? fun node => node.id = submap.nodeId).elim [] fun node =>
    submap.rangeBeams.flatMap fun beam =>
      (marksOf config e (applyPoseDelta e node.poseEstimate.pose submap.localPose) beam).map
        fun cell =>
          { key := cell.1, occupied := cell.2, confidence := beam.confidence, tMs := submap.tMs }

def marksAt (nodes : List PoseNode) (submaps : List OccupancySubmap) (key : CellKey) : List Mark :=
  (submaps.flatMap (submapMarks config e nodes)).filter fun m => m.key = key

variable {config e} {cells : Cells} {nodes : List PoseNode} {submaps : List OccupancySubmap}
  {key : CellKey}

theorem drawSubmap_eq (submap : OccupancySubmap) :
    LocalMap.drawSubmap e config nodes cells submap =
      (submapMarks config e nodes submap).foldl (Mark.drawn config) cells := by
  rw [LocalMap.drawSubmap, submapMarks]
  cases nodes.find? fun node => node.id = submap.nodeId with
  | none => rfl
  | some node =>
    simp only [Option.elim_some, List.foldl_flatMap, List.foldl_map]
    rfl

theorem drawn_eq :
    LocalMap.drawn e config nodes submaps =
      (submaps.flatMap (submapMarks config e nodes)).foldl (Mark.drawn config) .empty := by
  rw [LocalMap.drawn, List.foldl_flatMap]
  congr 1
  funext cells submap
  exact drawSubmap_eq submap

theorem drawn_eq_insert (m : Mark) :
    m.drawn config cells = cells.insert m.key (m.bumped config ((cells.get? m.key).getD
      { key := m.key, occupiedScore := 0, freeScore := 0, confidence := 0, lastSeenMs := m.tMs })) := by
  cases hoccupied : m.occupied <;> simp only [Mark.drawn, mark, Mark.bumped, hoccupied] <;> rfl

theorem get?_drawn (m : Mark) :
    (m.drawn config cells).get? key =
      if m.key = key then m.bumpedAt config key (cells.get? key) else cells.get? key := by
  rw [drawn_eq_insert, SortedMap.get?_insert]
  by_cases hkey : m.key = key
  · rw [if_pos hkey, if_pos hkey.symm, hkey]
    rfl
  · rw [if_neg hkey, if_neg (Ne.symm hkey)]

theorem get?_foldl_drawn (marks : List Mark) :
    (marks.foldl (Mark.drawn config) cells).get? key =
      (marks.filter fun m => m.key = key).foldl (Mark.bumpedAt config key) (cells.get? key) := by
  induction marks generalizing cells with
  | nil => rfl
  | cons m marks ih =>
    rw [List.foldl_cons, ih, get?_drawn, List.filter_cons]
    by_cases hkey : m.key = key
    · simp [hkey]
    · simp [hkey]

theorem get?_drawn_submaps :
    (LocalMap.drawn e config nodes submaps).get? key =
      (marksAt config e nodes submaps key).foldl (Mark.bumpedAt config key) none := by
  rw [drawn_eq, get?_foldl_drawn, marksAt]
  rfl

def occupiedIn (cell : Option OccupancyCell) : ℚ := cell.elim 0 OccupancyCell.occupiedScore

def freeIn (cell : Option OccupancyCell) : ℚ := cell.elim 0 OccupancyCell.freeScore

/-- No score of the one cell is above that of the other. -/
structure AtMost (a b : Option OccupancyCell) : Prop where
  occupied : occupiedIn a ≤ occupiedIn b
  free : freeIn a ≤ freeIn b

/-- A cell as marks and decay leave it. -/
structure Sensible (cell : OccupancyCell) : Prop where
  occupied : 0 ≤ cell.occupiedScore
  free : 0 ≤ cell.freeScore
  confidence : cell.confidence = clamp 0 1 (max cell.freeScore cell.occupiedScore)

variable {a b : Option OccupancyCell} {marks marks' : List Mark}

theorem clamp_nonneg (value : ℚ) : 0 ≤ clamp 0 1 value := le_max_left _ _

theorem clamp_mono {value value' : ℚ} (h : value ≤ value') : clamp 0 1 value ≤ clamp 0 1 value' :=
  max_le_max_left _ (min_le_min_left _ h)

theorem AtMost.refl (a : Option OccupancyCell) : AtMost a a := ⟨le_rfl, le_rfl⟩

theorem AtMost.trans {c : Option OccupancyCell} (h : AtMost a b) (h' : AtMost b c) : AtMost a c :=
  ⟨h.occupied.trans h'.occupied, h.free.trans h'.free⟩

theorem bumped_sensible (cell : OccupancyCell) (m : Mark) : Sensible (m.bumped config cell) := by
  rw [Mark.bumped]
  split
  · exact ⟨clamp_nonneg _, le_max_right _ _, rfl⟩
  · exact ⟨le_max_right _ _, clamp_nonneg _, rfl⟩

theorem atMost_bumped {cell cell' : OccupancyCell} (m : Mark)
    (hoccupied : cell.occupiedScore ≤ cell'.occupiedScore) (hfree : cell.freeScore ≤ cell'.freeScore) :
    AtMost (some (m.bumped config cell)) (some (m.bumped config cell')) := by
  rw [Mark.bumped, Mark.bumped]
  split
  · exact ⟨clamp_mono (by linarith), max_le_max_right _ (by linarith)⟩
  · exact ⟨max_le_max_right _ (by linarith), clamp_mono (by linarith)⟩

theorem AtMost.bumpedAt (h : AtMost a b) (m : Mark) :
    AtMost (m.bumpedAt config key a) (m.bumpedAt config key b) := by
  have hscores : ∀ cell : Option OccupancyCell, ∀ blank : OccupancyCell,
      blank.occupiedScore = 0 → blank.freeScore = 0 →
        (cell.getD blank).occupiedScore = occupiedIn cell ∧ (cell.getD blank).freeScore = freeIn cell := by
    intro cell blank hoccupied hfree
    cases cell with
    | none => exact ⟨hoccupied, hfree⟩
    | some cell => exact ⟨rfl, rfl⟩
  rw [Mark.bumpedAt, Mark.bumpedAt]
  apply atMost_bumped
  · rw [(hscores a _ rfl rfl).1, (hscores b _ rfl rfl).1]
    exact h.occupied
  · rw [(hscores a _ rfl rfl).2, (hscores b _ rfl rfl).2]
    exact h.free

theorem AtMost.foldl (h : AtMost a b) (marks : List Mark) :
    AtMost (marks.foldl (Mark.bumpedAt config key) a) (marks.foldl (Mark.bumpedAt config key) b) := by
  induction marks generalizing a b with
  | nil => exact h
  | cons m marks ih => exact ih (h.bumpedAt m)

theorem sensible_foldl (marks : List Mark) {cell : OccupancyCell}
    (h : marks.foldl (Mark.bumpedAt config key) none = some cell) : Sensible cell := by
  cases marks using List.reverseRecOn with
  | nil => cases h
  | append_singleton marks m =>
    rw [List.foldl_append] at h
    obtain rfl := Option.some.inj h
    exact bumped_sensible _ m

theorem nothing_atMost {cell : Option OccupancyCell} (h : ∀ c, cell = some c → Sensible c) :
    AtMost none cell := by
  cases cell with
  | none => exact .refl none
  | some cell => exact ⟨(h cell rfl).occupied, (h cell rfl).free⟩

theorem scores_le {bound : ℚ} (hbound : 0 ≤ bound)
    (h : ∀ c, a = some c → c.occupiedScore ≤ bound ∧ c.freeScore ≤ bound) :
    occupiedIn a ≤ bound ∧ freeIn a ≤ bound := by
  cases a with
  | none => exact ⟨hbound, hbound⟩
  | some c => exact h c rfl

theorem atMost_of_suffix (h : marks <:+ marks') :
    AtMost (marks.foldl (Mark.bumpedAt config key) none)
      (marks'.foldl (Mark.bumpedAt config key) none) := by
  obtain ⟨first, rfl⟩ := h
  rw [List.foldl_append]
  exact (nothing_atMost fun cell hcell => sensible_foldl first hcell).foldl marks

theorem lastSeen_foldl {m : Mark} (h : marks.getLast? = some m) :
    ∃ cell, marks.foldl (Mark.bumpedAt config key) none = some cell ∧ cell.lastSeenMs = m.tMs := by
  cases marks using List.reverseRecOn with
  | nil => cases h
  | append_singleton marks other =>
    rw [List.getLast?_concat] at h
    obtain rfl := Option.some.inj h
    refine ⟨_, by rw [List.foldl_append]; rfl, ?_⟩
    rw [Mark.bumped]
    split <;> rfl

end Marks

section Decaying

variable {map : LocalMap} {cell : OccupancyCell} {nowMs : Nat}

def left (map : LocalMap) (nowMs : Nat) (cell : Option OccupancyCell) : Option OccupancyCell :=
  (cell.map (map.decayed nowMs)).filter fun cell => 0.001 < cell.confidence

theorem get?_decayStale {key : CellKey} :
    (map.decayStale nowMs).cells.get? key = left map nowMs (map.cells.get? key) := by
  rw [LocalMap.decayStale, SortedMap.get?_retain, SortedMap.get?_mapValues, left]

theorem Sensible.decayed (h : Sensible cell) : Sensible (map.decayed nowMs cell) := by
  rw [LocalMap.decayed]
  split
  · exact h
  · exact ⟨le_max_right _ _, le_max_right _ _, congrArg (clamp 0 1) (max_comm _ _)⟩

theorem confidence_le_iff (h : Sensible cell) :
    cell.confidence ≤ 0.001 ↔ cell.freeScore ≤ 0.001 ∧ cell.occupiedScore ≤ 0.001 := by
  rw [h.confidence, clamp, max_le_iff, min_le_iff, max_le_iff]
  constructor
  · rintro ⟨-, hone | hscores⟩
    · norm_num at hone
    · exact hscores
  · exact fun hscores => ⟨by norm_num, .inr hscores⟩

theorem left_eq_none_iff {cell : Option OccupancyCell} (h : ∀ c, cell = some c → Sensible c) :
    left map nowMs cell = none ↔ ∀ c, cell = some c →
      (map.decayed nowMs c).freeScore ≤ 0.001 ∧ (map.decayed nowMs c).occupiedScore ≤ 0.001 := by
  cases cell with
  | none => simp [left]
  | some cell =>
    rw [left, Option.map_some, Option.filter_eq_none_iff]
    simp only [Option.some.injEq, forall_eq', decide_eq_true_eq, not_lt]
    exact confidence_le_iff (h cell rfl).decayed

theorem eq_of_left_eq_some {cell : Option OccupancyCell} {c : OccupancyCell}
    (h : left map nowMs cell = some c) :
    ∃ before, cell = some before ∧ c = map.decayed nowMs before := by
  obtain ⟨hmap, -⟩ := Option.filter_eq_some_iff.mp h
  obtain ⟨before, hbefore, rfl⟩ := Option.map_eq_some_iff.mp hmap
  exact ⟨before, hbefore, rfl⟩

theorem above_of_left_eq_some {cell : Option OccupancyCell} {c : OccupancyCell}
    (h : ∀ c, cell = some c → Sensible c) (hleft : left map nowMs cell = some c) :
    ¬(c.freeScore ≤ 0.001 ∧ c.occupiedScore ≤ 0.001) := by
  obtain ⟨before, rfl, rfl⟩ := eq_of_left_eq_some hleft
  intro hlow
  have hnone : left map nowMs (some before) = none :=
    (left_eq_none_iff h).mpr fun other hother => by
      obtain rfl := Option.some.inj hother
      exact hlow
  rw [hnone] at hleft
  cases hleft

theorem decayed_of_not_stale (h : map.isStale nowMs cell = false) :
    map.decayed nowMs cell = cell := by
  rw [LocalMap.decayed, h]
  rfl

theorem scores_decayed_of_stale (h : map.isStale nowMs cell = true) :
    (map.decayed nowMs cell).occupiedScore = max (cell.occupiedScore - map.config.decayPerTick) 0 ∧
      (map.decayed nowMs cell).freeScore = max (cell.freeScore - map.config.decayPerTick) 0 := by
  rw [LocalMap.decayed, h]
  exact ⟨rfl, rfl⟩

theorem left_atMost {cell : Option OccupancyCell} (hnonneg : 0 ≤ map.config.decayPerTick)
    (h : ∀ c, cell = some c → Sensible c) : AtMost (left map nowMs cell) cell := by
  cases hleft : left map nowMs cell with
  | none => exact nothing_atMost h
  | some c =>
    obtain ⟨before, rfl, rfl⟩ := eq_of_left_eq_some hleft
    have hbefore := h before rfl
    cases hstale : map.isStale nowMs before with
    | false =>
      rw [decayed_of_not_stale hstale]
      exact .refl _
    | true =>
      obtain ⟨hoccupied, hfree⟩ := scores_decayed_of_stale hstale
      constructor
      · change (map.decayed nowMs before).occupiedScore ≤ before.occupiedScore
        rw [hoccupied]
        exact max_le (by linarith) hbefore.occupied
      · change (map.decayed nowMs before).freeScore ≤ before.freeScore
        rw [hfree]
        exact max_le (by linarith) hbefore.free

theorem left_stale {cell : Option OccupancyCell} (h : ∀ c, cell = some c → Sensible c)
    (hstale : ∀ c, cell = some c → map.isStale nowMs c = true) :
    occupiedIn (left map nowMs cell) ≤ max 0 (occupiedIn cell - map.config.decayPerTick) ∧
      freeIn (left map nowMs cell) ≤ max 0 (freeIn cell - map.config.decayPerTick) := by
  cases hleft : left map nowMs cell with
  | none => exact ⟨le_max_left _ _, le_max_left _ _⟩
  | some c =>
    obtain ⟨before, rfl, rfl⟩ := eq_of_left_eq_some hleft
    obtain ⟨hoccupied, hfree⟩ := scores_decayed_of_stale (hstale before rfl)
    constructor
    · change (map.decayed nowMs before).occupiedScore ≤ _
      rw [hoccupied, max_comm]
      rfl
    · change (map.decayed nowMs before).freeScore ≤ _
      rw [hfree, max_comm]
      rfl

theorem left_eq_none_of_low {cell : Option OccupancyCell} (h : ∀ c, cell = some c → Sensible c)
    (hstale : ∀ c, cell = some c → map.isStale nowMs c = true)
    (hoccupied : occupiedIn cell ≤ map.config.decayPerTick + 0.001)
    (hfree : freeIn cell ≤ map.config.decayPerTick + 0.001) : left map nowMs cell = none := by
  refine (left_eq_none_iff h).mpr fun c hcell => ?_
  subst hcell
  obtain ⟨hoccupied', hfree'⟩ := scores_decayed_of_stale (hstale c rfl)
  rw [hoccupied', hfree', max_le_iff, max_le_iff]
  change c.occupiedScore ≤ _ at hoccupied
  change c.freeScore ≤ _ at hfree
  norm_num at hoccupied hfree ⊢
  constructor <;> linarith

end Decaying

section Observing

variable (e : Elementary)

/-- The grid as it is drawn before it decays. -/
def drawnOf (map : LocalMap) : Cells :=
  LocalMap.drawn e map.config map.poseGraph.nodes map.submaps

/-- The beams of the latest observation mark the cell. -/
def touches (map : LocalMap) (key : CellKey) : Bool :=
  map.submaps.getLast?.any fun submap =>
    (submapMarks map.config e map.poseGraph.nodes submap).any fun m => m.key = key

/-- The submaps that are still kept when there is one more. -/
def earlier (map : LocalMap) : List OccupancySubmap :=
  if map.config.maxSubmaps = 0 then []
  else map.submaps.drop (map.submaps.length + 1 - map.config.maxSubmaps)

def latestMs (map : LocalMap) : Nat := (map.submaps.getLast?.map OccupancySubmap.tMs).getD 0

/-- The nodes after an observation without candidates, before they are optimised. -/
def updated (map : LocalMap) (observation : MapObservation) : LocalMap :=
  let matched := scanMatchedObservation map.config e map.cells observation
  (map.updatePoseGraph e matched.1 matched.2 []).1

variable {e} {map : LocalMap} {observation : MapObservation} {key : CellKey}

theorem capVec_concat (submap : OccupancySubmap) :
    capVec map.config.maxSubmaps (map.submaps ++ [submap]) =
      if map.config.maxSubmaps = 0 then [] else earlier map ++ [submap] := by
  rw [capVec, earlier]
  split
  · rfl
  · rw [List.length_append, List.length_singleton, List.drop_append_of_le_length (by omega)]

theorem nodes_observe : (map.observe e observation).poseGraph.nodes =
    ((updated e map observation).optimizePoseGraph e).poseGraph.nodes := by
  have hrecord : ∀ (map : LocalMap) (observation : MapObservation) (nodeId : Option String),
      (map.record e observation nodeId).poseGraph = map.poseGraph := by
    intro map observation nodeId
    simp only [LocalMap.record, LocalMap.rebuildOccupancyFromSubmaps, LocalMap.storeSubmap]
    split <;> rfl
  rw [updated, LocalMap.observe, LocalMap.decayStale,
    LocalMap.integrateObservationWithLoopCandidates]
  rcases scanMatchedObservation map.config e map.cells observation with ⟨matched, scanMatch⟩
  simp only [hrecord]

theorem observe_spec (h : LocalMap.Kept map) :
    LocalMap.Kept (map.observe e observation) ∧
      (map.observe e observation).config = map.config ∧
      (∃ submap : OccupancySubmap, submap.tMs = observation.tMs ∧
        (map.observe e observation).submaps =
          if map.config.maxSubmaps = 0 then [] else earlier map ++ [submap]) ∧
      (map.observe e observation).cells.get? key =
        left (map.observe e observation) observation.tMs
          ((drawnOf e (map.observe e observation)).get? key) := by
  obtain ⟨hkept, hconfig, -, submap, -, htime, hsubmaps⟩ :=
    @LocalMap.integrate_kept e map observation [] h
  refine ⟨⟨hkept.numbered, hkept.joined, hkept.placed⟩, hconfig, ⟨submap, htime, ?_⟩, ?_⟩
  · rw [← capVec_concat]
    exact hsubmaps
  · rw [LocalMap.observe, get?_decayStale]
    rfl

variable (e) in
/-- What an observation has to find for the cells to fade: it moves no node that is there, and a cell
that was stale already and is not touched has no more than one decay from the submaps still kept. -/
structure Fading (map : LocalMap) (observation : MapObservation) : Prop where
  nonneg : 0 ≤ map.config.decayPerTick
  steady : map.poseGraph.nodes <+:
    ((updated e map observation).optimizePoseGraph e).poseGraph.nodes
  faded : map.config.decayPerTick = 0 ∨ ∀ key cell, map.cells.get? key = some cell →
    map.isStale (latestMs map) cell = true → touches e (map.observe e observation) key = false →
      ∀ again,
        (LocalMap.drawn e map.config map.poseGraph.nodes (earlier map)).get? key = some again →
          again.occupiedScore ≤ map.config.decayPerTick ∧
            again.freeScore ≤ map.config.decayPerTick

variable (e) in
def marksIn (map : LocalMap) (key : CellKey) : List Mark :=
  marksAt map.config e map.poseGraph.nodes map.submaps key

theorem get?_drawnOf : (drawnOf e map).get? key =
    (marksIn e map key).foldl (Mark.bumpedAt map.config key) none := get?_drawn_submaps

theorem marksAt_append {config : MapConfig} {nodes : List PoseNode}
    (submaps others : List OccupancySubmap) :
    marksAt config e nodes (submaps ++ others) key =
      marksAt config e nodes submaps key ++ marksAt config e nodes others key := by
  rw [marksAt, List.flatMap_append, List.filter_append]
  rfl

theorem marksAt_of_isPrefix {config : MapConfig} {nodes nodes' : List PoseNode}
    {submaps : List OccupancySubmap} (h : nodes <+: nodes')
    (hplaced : ∀ submap ∈ submaps, submap.nodeId ∈ nodes.map PoseNode.id) :
    marksAt config e nodes' submaps key = marksAt config e nodes submaps key := by
  obtain ⟨more, rfl⟩ := h
  rw [marksAt, marksAt]
  congr 1
  apply List.flatMap_congr
  intro submap hsubmap
  have hsome : (nodes.find? fun node => node.id = submap.nodeId).isSome = true := by
    obtain ⟨node, hnode, hid⟩ := List.mem_map.mp (hplaced submap hsubmap)
    rw [List.find?_isSome]
    exact ⟨node, hnode, by simpa using hid⟩
  obtain ⟨node, hfound⟩ := Option.isSome_iff_exists.mp hsome
  rw [submapMarks, submapMarks, List.find?_append, hfound]
  rfl

theorem earlier_suffix : earlier map <:+ map.submaps := by
  rw [earlier]
  split
  · exact List.nil_suffix
  · exact List.drop_suffix _ _

theorem marksAt_suffix {config : MapConfig} {nodes : List PoseNode}
    {submaps others : List OccupancySubmap} (h : submaps <:+ others) :
    marksAt config e nodes submaps key <:+ marksAt config e nodes others key := by
  obtain ⟨first, rfl⟩ := h
  rw [marksAt_append]
  exact List.suffix_append _ _

theorem marksIn_untouched (h : LocalMap.Kept map)
    (hsteady : map.poseGraph.nodes <+: (map.observe e observation).poseGraph.nodes)
    (huntouched : touches e (map.observe e observation) key = false) :
    marksIn e (map.observe e observation) key =
      marksAt map.config e map.poseGraph.nodes (earlier map) key := by
  obtain ⟨-, hconfig, ⟨submap, -, hsubmaps⟩, -⟩ := @observe_spec e map observation key h
  have hplaced : ∀ submap ∈ earlier map, submap.nodeId ∈ map.poseGraph.nodes.map PoseNode.id :=
    fun submap hsubmap => h.placed submap (earlier_suffix.subset hsubmap)
  rw [marksIn, hconfig, ← marksAt_of_isPrefix hsteady hplaced, hsubmaps]
  rw [touches, hconfig, hsubmaps] at huntouched
  split
  · rename_i hzero
    rw [earlier, if_pos hzero]
  · rename_i hsome
    rw [if_neg hsome, List.getLast?_concat, Option.any_some, List.any_eq_false] at huntouched
    have hnone : marksAt map.config e (map.observe e observation).poseGraph.nodes [submap] key = [] := by
      rw [marksAt, List.flatMap_singleton, List.filter_eq_nil_iff]
      exact huntouched
    rw [marksAt_append, hnone, List.append_nil]

theorem marksIn_touched (h : LocalMap.Kept map)
    (htouched : touches e (map.observe e observation) key = true) :
    ∃ m, (marksIn e (map.observe e observation) key).getLast? = some m ∧
      m.tMs = observation.tMs := by
  obtain ⟨-, hconfig, ⟨submap, htime, hsubmaps⟩, -⟩ := @observe_spec e map observation key h
  rw [touches, hconfig, hsubmaps] at htouched
  split at htouched
  · simp at htouched
  · rename_i hsome
    rw [List.getLast?_concat, Option.any_some, List.any_eq_true] at htouched
    obtain ⟨m, hmem, hkey⟩ := htouched
    have hne : marksAt map.config e (map.observe e observation).poseGraph.nodes [submap] key ≠ [] := by
      apply List.ne_nil_of_mem (a := m)
      rw [marksAt, List.flatMap_singleton, List.mem_filter]
      exact ⟨hmem, hkey⟩
    have hlast := List.getLast?_eq_some_getLast hne
    generalize (marksAt map.config e (map.observe e observation).poseGraph.nodes [submap] key).getLast
      hne = last at hlast
    refine ⟨last, ?_, ?_⟩
    · rw [marksIn, hconfig, hsubmaps, if_neg hsome, marksAt_append, List.getLast?_append, hlast]
      rfl
    · have hlastMem := List.mem_of_getLast? hlast
      rw [marksAt, List.flatMap_singleton, List.mem_filter] at hlastMem
      rw [← htime]
      have hmarks := hlastMem.1
      rw [submapMarks] at hmarks
      cases hfound : (map.observe e observation).poseGraph.nodes.find?
          fun node => node.id = submap.nodeId with
      | none => simp [hfound] at hmarks
      | some node =>
        rw [hfound, Option.elim_some] at hmarks
        obtain ⟨beam, -, hbeam⟩ := List.mem_flatMap.mp hmarks
        obtain ⟨cell, -, rfl⟩ := List.mem_map.mp hbeam
        rfl

variable (e) in
/-- A map in which a cell has only marks that it had in an earlier one, the latest of them, as drawn
again and decayed at some time. -/
structure Trailing (key : CellKey) (before map : LocalMap) : Prop where
  kept : LocalMap.Kept map
  config : map.config = before.config
  marks : marksIn e map key <:+ marksIn e before key
  shown : ∃ nowMs, map.cells.get? key = left map nowMs ((drawnOf e map).get? key)

variable {before : LocalMap} {cell : OccupancyCell}

theorem Trailing.observed (h : Trailing e key before map) (hfading : Fading e map observation)
    (huntouched : touches e (map.observe e observation) key = false) :
    Trailing e key before (map.observe e observation) := by
  obtain ⟨hkept, hconfig, -, hshown⟩ := @observe_spec e map observation key h.kept
  have hsteady := hfading.steady
  rw [← nodes_observe] at hsteady
  refine ⟨hkept, hconfig.trans h.config, ?_, ⟨_, hshown⟩⟩
  rw [marksIn_untouched h.kept hsteady huntouched]
  exact (marksAt_suffix earlier_suffix).trans h.marks

theorem Trailing.watched {observations : List MapObservation} (h : Trailing e key before map)
    (hfading : EachStep (LocalMap.observe e) map (Fading e) observations)
    (huntouched : EachStep (LocalMap.observe e) map
      (fun map observation => touches e (map.observe e observation) key = false) observations) :
    Trailing e key before (after (LocalMap.observe e) map observations) := by
  induction observations generalizing map with
  | nil => exact h
  | cons observation observations ih =>
    rw [eachStep_cons] at hfading huntouched
    exact ih (h.observed hfading.1 huntouched.1) hfading.2 huntouched.2

theorem sensible_drawnOf (c : OccupancyCell) (h : (drawnOf e map).get? key = some c) : Sensible c := by
  rw [get?_drawnOf] at h
  exact sensible_foldl _ h

theorem Trailing.drawn (h : Trailing e key before map) :
    AtMost ((drawnOf e map).get? key) ((drawnOf e before).get? key) := by
  rw [get?_drawnOf, get?_drawnOf, h.config]
  exact atMost_of_suffix h.marks

theorem Trailing.lastSeen {m : Mark} (h : Trailing e key before map)
    (hlast : (marksIn e before key).getLast? = some m) {c : OccupancyCell}
    (hcell : (drawnOf e map).get? key = some c) : c.lastSeenMs = m.tMs := by
  obtain ⟨first, hmarks⟩ := h.marks
  rw [get?_drawnOf] at hcell
  cases hmine : (marksIn e map key).getLast? with
  | none =>
    rw [List.getLast?_eq_none_iff.mp hmine] at hcell
    cases hcell
  | some mine =>
    rw [← hmarks, List.getLast?_append, hmine] at hlast
    obtain rfl : mine = m := Option.some.inj hlast
    obtain ⟨other, hother, hseen⟩ := @lastSeen_foldl map.config key _ _ hmine
    rw [hother] at hcell
    obtain rfl := Option.some.inj hcell
    exact hseen

/-- What a cell has to have lost: so many decays, and itself once nothing is left. -/
structure FadedBy (config : MapConfig) (cell : OccupancyCell) (decays : Nat)
    (final : Option OccupancyCell) : Prop where
  occupied : occupiedIn final ≤ max 0 (cell.occupiedScore - decays * config.decayPerTick)
  free : freeIn final ≤ max 0 (cell.freeScore - decays * config.decayPerTick)
  absent : max 0 (cell.occupiedScore - decays * config.decayPerTick) ≤ 0.001 →
    max 0 (cell.freeScore - decays * config.decayPerTick) ≤ 0.001 → final = none

theorem Trailing.fadedBy {decays : Nat} (h : Trailing e key before map)
    (hoccupied : occupiedIn (map.cells.get? key) ≤
      max 0 (cell.occupiedScore - decays * before.config.decayPerTick))
    (hfree : freeIn (map.cells.get? key) ≤
      max 0 (cell.freeScore - decays * before.config.decayPerTick)) :
    FadedBy before.config cell decays (map.cells.get? key) := by
  refine ⟨hoccupied, hfree, fun hnoOccupied hnoFree => ?_⟩
  obtain ⟨nowMs, hshown⟩ := h.shown
  cases hpresent : map.cells.get? key with
  | none => rfl
  | some c =>
    rw [hpresent] at hoccupied hfree
    rw [hpresent] at hshown
    exact absurd ⟨hfree.trans hnoFree, hoccupied.trans hnoOccupied⟩
      (above_of_left_eq_some (fun c hc => sensible_drawnOf c hc) hshown.symm)

theorem isStale_eq (nowMs : Nat) (c : OccupancyCell) :
    map.isStale nowMs c = true ↔ map.config.decayAfterMs < nowMs - c.lastSeenMs := by
  rw [LocalMap.isStale, decide_eq_true_eq]

theorem drawn_touched (h : LocalMap.Kept map)
    (htouched : touches e (map.observe e observation) key = true)
    (hcell : (map.observe e observation).cells.get? key = some cell) :
    (drawnOf e (map.observe e observation)).get? key = some cell ∧
      cell.lastSeenMs = observation.tMs := by
  obtain ⟨m, hlast, htime⟩ := marksIn_touched h htouched
  obtain ⟨-, -, -, hshown⟩ := @observe_spec e map observation key h
  obtain ⟨c, hdrawn, hseen⟩ :=
    @lastSeen_foldl (map.observe e observation).config key _ _ hlast
  rw [← get?_drawnOf] at hdrawn
  rw [htime] at hseen
  have hfresh : (map.observe e observation).isStale observation.tMs c = false := by
    rw [Bool.eq_false_iff, ne_eq, isStale_eq, hseen]
    omega
  rw [hshown, hdrawn] at hcell
  obtain ⟨before, hbefore, hafter⟩ := eq_of_left_eq_some hcell
  obtain rfl := Option.some.inj hbefore
  rw [decayed_of_not_stale hfresh] at hafter
  rw [hafter]
  exact ⟨hdrawn, hseen⟩

/-- The cell that was touched, and a later map in which it was not touched again. -/
structure Untouched (e : Elementary) (key : CellKey) (cell : OccupancyCell)
    (before map : LocalMap) : Prop where
  trailing : Trailing e key before map
  nonneg : 0 ≤ before.config.decayPerTick
  drawn : (drawnOf e before).get? key = some cell
  seen : ∃ m, (marksIn e before key).getLast? = some m ∧ m.tMs = cell.lastSeenMs

theorem Untouched.atMost (h : Untouched e key cell before map) :
    AtMost ((drawnOf e map).get? key) (some cell) := by
  have hdrawn := h.trailing.drawn
  rwa [h.drawn] at hdrawn

theorem Untouched.lastSeen (h : Untouched e key cell before map) {c : OccupancyCell}
    (hcell : (drawnOf e map).get? key = some c) : c.lastSeenMs = cell.lastSeenMs := by
  obtain ⟨m, hlast, htime⟩ := h.seen
  exact (h.trailing.lastSeen hlast hcell).trans htime

theorem Untouched.stale (h : Untouched e key cell before map) {nowMs : Nat}
    (hold : before.config.decayAfterMs < nowMs - cell.lastSeenMs) (c : OccupancyCell)
    (hcell : (drawnOf e map).get? key = some c) : map.isStale nowMs c = true := by
  rw [isStale_eq, h.trailing.config, h.lastSeen hcell]
  exact hold

theorem Untouched.shown_atMost (h : Untouched e key cell before map) :
    AtMost (map.cells.get? key) (some cell) := by
  obtain ⟨nowMs, hshown⟩ := h.trailing.shown
  have hnonneg := h.nonneg
  rw [← h.trailing.config] at hnonneg
  rw [hshown]
  exact (left_atMost hnonneg fun c hc => sensible_drawnOf c hc).trans h.atMost

theorem Untouched.fadedBy_none (h : Untouched e key cell before map) :
    FadedBy before.config cell 0 (map.cells.get? key) := by
  apply h.trailing.fadedBy
  · rw [Nat.cast_zero, zero_mul, sub_zero]
    exact h.shown_atMost.occupied.trans (le_max_right _ _)
  · rw [Nat.cast_zero, zero_mul, sub_zero]
    exact h.shown_atMost.free.trans (le_max_right _ _)

theorem Untouched.observed (h : Untouched e key cell before map) (hfading : Fading e map observation)
    (huntouched : touches e (map.observe e observation) key = false) :
    Untouched e key cell before (map.observe e observation) :=
  ⟨h.trailing.observed hfading huntouched, h.nonneg, h.drawn, h.seen⟩

theorem Untouched.fadedBy_once (h : Untouched e key cell before map)
    (hfading : Fading e map observation)
    (huntouched : touches e (map.observe e observation) key = false)
    (hold : before.config.decayAfterMs < observation.tMs - cell.lastSeenMs) :
    FadedBy before.config cell 1 ((map.observe e observation).cells.get? key) := by
  have hafter := h.observed hfading huntouched
  obtain ⟨-, -, -, hshown⟩ := @observe_spec e map observation key h.trailing.kept
  have hscores := left_stale (fun c hc => sensible_drawnOf c hc) (hafter.stale hold)
  rw [← hshown, hafter.trailing.config] at hscores
  apply hafter.trailing.fadedBy
  · rw [Nat.cast_one, one_mul]
    exact hscores.1.trans (max_le_max_left _ (sub_le_sub_right hafter.atMost.occupied _))
  · rw [Nat.cast_one, one_mul]
    exact hscores.2.trans (max_le_max_left _ (sub_le_sub_right hafter.atMost.free _))

theorem lastSeen_decayed (nowMs : Nat) (c : OccupancyCell) :
    (map.decayed nowMs c).lastSeenMs = c.lastSeenMs := by
  rw [LocalMap.decayed]
  split <;> rfl

theorem latestMs_observe (h : LocalMap.Kept map) {c : OccupancyCell}
    (hpresent : (map.observe e observation).cells.get? key = some c) :
    latestMs (map.observe e observation) = observation.tMs ∧
      ∃ drawn, (drawnOf e (map.observe e observation)).get? key = some drawn ∧
        c.lastSeenMs = drawn.lastSeenMs := by
  obtain ⟨-, hconfig, ⟨submap, htime, hsubmaps⟩, hshown⟩ := @observe_spec e map observation key h
  rw [hshown] at hpresent
  obtain ⟨drawn, hdrawn, rfl⟩ := eq_of_left_eq_some hpresent
  refine ⟨?_, drawn, hdrawn, lastSeen_decayed _ _⟩
  split at hsubmaps
  · rw [get?_drawnOf, marksIn, hsubmaps] at hdrawn
    cases hdrawn
  · rw [latestMs, hsubmaps, List.getLast?_concat, Option.map_some, Option.getD_some, htime]

theorem Untouched.gone {later : MapObservation} (h : Untouched e key cell before map)
    (hfading : Fading e map observation)
    (huntouched : touches e (map.observe e observation) key = false)
    (hold : before.config.decayAfterMs < observation.tMs - cell.lastSeenMs)
    (hlater : Fading e (map.observe e observation) later)
    (huntouched' : touches e ((map.observe e observation).observe e later) key = false)
    (hold' : before.config.decayAfterMs < later.tMs - cell.lastSeenMs)
    (hstep : before.config.decayPerTick ≠ 0) :
    ((map.observe e observation).observe e later).cells.get? key = none := by
  have hmiddle := h.observed hfading huntouched
  have hafter := hmiddle.observed hlater huntouched'
  obtain ⟨-, -, -, hshown⟩ := @observe_spec e map observation key h.trailing.kept
  obtain ⟨-, -, -, hshown'⟩ :=
    @observe_spec e (map.observe e observation) later key hmiddle.trailing.kept
  have hnonneg := h.nonneg
  have hlow : occupiedIn ((drawnOf e ((map.observe e observation).observe e later)).get? key) ≤
        before.config.decayPerTick + 0.001 ∧
      freeIn ((drawnOf e ((map.observe e observation).observe e later)).get? key) ≤
        before.config.decayPerTick + 0.001 →
      ((map.observe e observation).observe e later).cells.get? key = none := by
    intro hscores
    rw [hshown']
    rw [← hafter.trailing.config] at hscores
    exact left_eq_none_of_low (fun c hc => sensible_drawnOf c hc) (hafter.stale hold') hscores.1
      hscores.2
  cases hpresent : (map.observe e observation).cells.get? key with
  | none =>
    -- it had decayed away, and has no more than it had before it decayed
    rw [hshown, left_eq_none_iff fun c hc => sensible_drawnOf c hc] at hpresent
    have hself : Trailing e key (map.observe e observation) (map.observe e observation) :=
      ⟨hmiddle.trailing.kept, rfl, List.suffix_refl _, ⟨_, hshown⟩⟩
    have hdrawn := (hself.observed hlater huntouched').drawn
    have hbound := @scores_le ((drawnOf e (map.observe e observation)).get? key)
      (before.config.decayPerTick + 0.001) (by linarith) fun c hc => by
        have hlost := hpresent c hc
        obtain ⟨hoccupied, hfree⟩ := scores_decayed_of_stale (hmiddle.stale hold c hc)
        rw [hoccupied, hfree, hmiddle.trailing.config, max_le_iff, max_le_iff] at hlost
        constructor <;> linarith
    exact hlow ⟨hdrawn.occupied.trans hbound.1, hdrawn.free.trans hbound.2⟩
  | some c =>
    obtain ⟨hlatest, drawn, hdrawn, hseen⟩ := latestMs_observe h.trailing.kept hpresent
    have hstale : (map.observe e observation).isStale
        (latestMs (map.observe e observation)) c = true := by
      rw [hlatest, isStale_eq, hmiddle.trailing.config, hseen, hmiddle.lastSeen hdrawn]
      exact hold
    have hsteady := hlater.steady
    rw [← nodes_observe] at hsteady
    have hmarks := marksIn_untouched hmiddle.trailing.kept hsteady huntouched'
    have hagain : (drawnOf e ((map.observe e observation).observe e later)).get? key =
        (LocalMap.drawn e (map.observe e observation).config
          (map.observe e observation).poseGraph.nodes
            (earlier (map.observe e observation))).get? key := by
      rw [get?_drawnOf, hmarks, get?_drawn_submaps, hafter.trailing.config,
        hmiddle.trailing.config]
    have hfaded := hlater.faded.resolve_left (by rw [hmiddle.trailing.config]; exact hstep)
      key c hpresent hstale huntouched'
    rw [← hagain, hmiddle.trailing.config] at hfaded
    exact hlow (scores_le (by linarith) fun again hc => by
      have hbound := hfaded again hc
      constructor <;> linarith)

variable (e) in
/-- Every cell that was touched and not again has lost a decay for every observation in a row, up to
now, that found it stale. -/
def Fades (start : LocalMap) (observations : List MapObservation) : Prop :=
  ∀ past touch idle stale, past ++ touch :: (idle ++ stale) <+: observations →
    ∀ key cell,
      touches e (after (LocalMap.observe e) start (past ++ [touch])) key = true →
        (after (LocalMap.observe e) start (past ++ [touch])).cells.get? key = some cell →
          EachStep (LocalMap.observe e) (after (LocalMap.observe e) start (past ++ [touch]))
              (fun map observation => touches e (map.observe e observation) key = false)
              (idle ++ stale) →
            (∀ observation ∈ stale, start.config.decayAfterMs < observation.tMs - cell.lastSeenMs) →
              FadedBy start.config cell stale.length
                ((after (LocalMap.observe e) start
                  (past ++ touch :: (idle ++ stale))).cells.get? key)

theorem watched_kept {start : LocalMap} (h : LocalMap.Kept start) (observations : List MapObservation) :
    LocalMap.Kept (after (LocalMap.observe e) start observations) ∧
      (after (LocalMap.observe e) start observations).config = start.config := by
  apply after_invariant (P := fun map => LocalMap.Kept map ∧ map.config = start.config) ⟨h, rfl⟩
  intro map observation hmap
  obtain ⟨hkept, hconfig, -⟩ := @observe_spec e map observation (toLex (0, 0)) hmap.1
  exact ⟨hkept, hconfig.trans hmap.2⟩

theorem Untouched.watched {observations : List MapObservation} (h : Untouched e key cell before map)
    (hfading : EachStep (LocalMap.observe e) map (Fading e) observations)
    (huntouched : EachStep (LocalMap.observe e) map
      (fun map observation => touches e (map.observe e observation) key = false) observations) :
    Untouched e key cell before (after (LocalMap.observe e) map observations) :=
  ⟨h.trailing.watched hfading huntouched, h.nonneg, h.drawn, h.seen⟩

theorem untouched_observe (h : LocalMap.Kept map) (hfading : Fading e map observation)
    (htouched : touches e (map.observe e observation) key = true)
    (hcell : (map.observe e observation).cells.get? key = some cell) :
    Untouched e key cell (map.observe e observation) (map.observe e observation) := by
  obtain ⟨hkept, hconfig, -, hshown⟩ := @observe_spec e map observation key h
  obtain ⟨hdrawn, hseen⟩ := drawn_touched h htouched hcell
  obtain ⟨m, hlast, htime⟩ := marksIn_touched h htouched
  have hnonneg := hfading.nonneg
  rw [← hconfig] at hnonneg
  exact ⟨⟨hkept, rfl, List.suffix_refl _, ⟨_, hshown⟩⟩, hnonneg, hdrawn,
    ⟨m, hlast, htime.trans hseen.symm⟩⟩

theorem Untouched.fadedBy_zero (h : Untouched e key cell before map)
    (hzero : before.config.decayPerTick = 0) (decays : Nat) :
    FadedBy before.config cell decays (map.cells.get? key) := by
  apply h.trailing.fadedBy
  · rw [hzero, mul_zero, sub_zero]
    exact h.shown_atMost.occupied.trans (le_max_right _ _)
  · rw [hzero, mul_zero, sub_zero]
    exact h.shown_atMost.free.trans (le_max_right _ _)

theorem Untouched.fades {idle stale : List MapObservation} (h : Untouched e key cell before map)
    (hfading : EachStep (LocalMap.observe e) map (Fading e) (idle ++ stale))
    (huntouched : EachStep (LocalMap.observe e) map
      (fun map observation => touches e (map.observe e observation) key = false) (idle ++ stale))
    (hstale : ∀ observation ∈ stale,
      before.config.decayAfterMs < observation.tMs - cell.lastSeenMs) :
    FadedBy before.config cell stale.length
      ((after (LocalMap.observe e) map (idle ++ stale)).cells.get? key) := by
  have hlast := h.watched hfading huntouched
  cases stale using List.reverseRecOn with
  | nil => exact hlast.fadedBy_none
  | append_singleton stale observation =>
    rw [← List.append_assoc, eachStep_concat] at hfading huntouched
    have hold := hstale observation (List.mem_append_right _ (List.mem_singleton.mpr rfl))
    have hmiddle := h.watched hfading.1 huntouched.1
    by_cases hzero : before.config.decayPerTick = 0
    · exact hlast.fadedBy_zero hzero _
    · cases stale using List.reverseRecOn with
      | nil =>
        rw [List.append_nil] at hfading huntouched hmiddle
        rw [List.nil_append, after_append, after_cons, after_nil]
        exact hmiddle.fadedBy_once hfading.2 huntouched.2 hold
      | append_singleton stale other =>
        rw [← List.append_assoc, after_append, after_cons, after_nil,
          eachStep_concat] at hfading huntouched
        have hother : before.config.decayAfterMs < other.tMs - cell.lastSeenMs :=
          hstale other (by simp)
        have hgone := (h.watched hfading.1.1 huntouched.1.1).gone hfading.1.2 huntouched.1.2
          hother hfading.2 huntouched.2 hold hzero
        have hsplit : after (LocalMap.observe e) map (idle ++ (stale ++ [other] ++ [observation])) =
            ((after (LocalMap.observe e) map (idle ++ stale)).observe e other).observe e
              observation := by
          rw [← List.append_assoc, ← List.append_assoc, after_append, after_append]
          rfl
        rw [hsplit, hgone]
        exact ⟨le_max_left _ _, le_max_left _ _, fun _ _ => rfl⟩

/-- In a run whose every observation lets the cells fade they fade. -/
theorem observations_fade (e : Elementary) {config : MapConfig} {start : LocalMap}
    (h : LocalMap.new config = some start) (observations : List MapObservation)
    (hfading : EachStep (LocalMap.observe e) start (Fading e) observations) :
    Fades e start observations := by
  intro past touch idle stale hpast key cell htouched hcell huntouched hstale
  obtain ⟨hkept, hconfig⟩ := @watched_kept e start (LocalMap.filled_new h).kept past
  have hrun : EachStep (LocalMap.observe e) start (Fading e) (past ++ touch :: (idle ++ stale)) :=
    hfading.of_isPrefix hpast
  rw [eachStep_append, eachStep_cons] at hrun
  rw [after_append, after_cons]
  rw [after_append, after_cons, after_nil] at htouched hcell huntouched
  obtain ⟨-, hconfig', -⟩ :=
    @observe_spec e (after (LocalMap.observe e) start past) touch key hkept
  have huntouchedHere := untouched_observe hkept hrun.2.1 htouched hcell
  rw [← hconfig, ← hconfig'] at hstale ⊢
  exact huntouchedHere.fades hrun.2.2 huntouched hstale

theorem fading_of_fresh (hnonneg : 0 ≤ map.config.decayPerTick)
    (hsteady : map.poseGraph.nodes <+:
      ((updated e map observation).optimizePoseGraph e).poseGraph.nodes)
    (hfresh : map.cells.values.all (fun cell => !map.isStale (latestMs map) cell) = true) :
    Fading e map observation := by
  refine ⟨hnonneg, hsteady, .inr fun key cell hcell hstale => ?_⟩
  have hmem : cell ∈ map.cells.values :=
    List.mem_map_of_mem (f := Prod.snd) (SortedMap.get?_eq_some_iff.mp hcell)
  have hnot := List.all_eq_true.mp hfresh cell hmem
  rw [hstale] at hnot
  cases hnot

/-- A beam that ends in the cell ahead. -/
def shortBeam : RangeBeam := { angleRad := 0, distanceM := 0.15, hit := true, confidence := 0.9 }

theorem observations_fade_once : ∃ start, LocalMap.new {} = some start ∧
    Fades LocalMap.ahead start
      [LocalMap.atOrigin [shortBeam] 0, LocalMap.atOrigin [] 20000] := by
  have hchecks : (LocalMap.new {}).map (fun start =>
      ([start, start.observe LocalMap.ahead (LocalMap.atOrigin [shortBeam] 0)].zip
        [LocalMap.atOrigin [shortBeam] 0, LocalMap.atOrigin [] 20000]).map fun pair =>
          (decide (0 ≤ pair.1.config.decayPerTick ∧ pair.1.poseGraph.nodes <+:
            ((updated LocalMap.ahead pair.1 pair.2).optimizePoseGraph LocalMap.ahead).poseGraph.nodes),
            pair.1.cells.values.all fun cell => !pair.1.isStale (latestMs pair.1) cell)) =
      some [(true, true), (true, true)] := by decide +kernel
  obtain ⟨start, hstart, hchecks⟩ := Option.map_eq_some_iff.mp hchecks
  simp only [List.zip_cons_cons, List.zip_nil_left, List.map_cons, List.map_nil, List.cons.injEq,
    Prod.mk.injEq, decide_eq_true_eq, and_true] at hchecks
  obtain ⟨⟨hfirst, hfresh⟩, hsecond, hfresh'⟩ := hchecks
  refine ⟨start, hstart, observations_fade LocalMap.ahead hstart _ ?_⟩
  rw [eachStep_cons, eachStep_cons]
  exact ⟨fading_of_fresh hfirst.1 hfirst.2 hfresh, fading_of_fresh hsecond.1 hsecond.2 hfresh',
    eachStep_nil⟩

/-- Two observations find the cell stale, and it has lost one decay. -/
theorem observations_keep : ∃ start, LocalMap.new {} = some start ∧
    ¬Fades LocalMap.ahead start
      [LocalMap.atOrigin [shortBeam] 0, LocalMap.atOrigin [] 20000, LocalMap.atOrigin [] 20001] := by
  have hchecks : (LocalMap.new {}).map (fun start =>
      (((start.observe LocalMap.ahead (LocalMap.atOrigin [shortBeam] 0)).cells.get?
          (toLex (1, 0))).map fun cell => (cell.occupiedScore, cell.lastSeenMs),
        ((after (LocalMap.observe LocalMap.ahead) start [LocalMap.atOrigin [shortBeam] 0,
          LocalMap.atOrigin [] 20000, LocalMap.atOrigin [] 20001]).cells.get?
            (toLex (1, 0))).map OccupancyCell.occupiedScore,
        touches LocalMap.ahead (start.observe LocalMap.ahead (LocalMap.atOrigin [shortBeam] 0))
          (toLex (1, 0)),
        decide (EachStep (LocalMap.observe LocalMap.ahead)
          (start.observe LocalMap.ahead (LocalMap.atOrigin [shortBeam] 0))
          (fun map observation => touches LocalMap.ahead (map.observe LocalMap.ahead observation)
            (toLex (1, 0)) = false) [LocalMap.atOrigin [] 20000, LocalMap.atOrigin [] 20001]),
        start.config.decayAfterMs, start.config.decayPerTick)) =
      some (some (0.315, 0), some 0.275, true, true, 10000, 0.04) := by decide +kernel
  obtain ⟨start, hstart, hchecks⟩ := Option.map_eq_some_iff.mp hchecks
  simp only [Prod.mk.injEq, decide_eq_true_eq] at hchecks
  obtain ⟨hcell, hfinal, htouched, huntouched, hafter, hstep⟩ := hchecks
  obtain ⟨cell, hcell, hscores⟩ := Option.map_eq_some_iff.mp hcell
  obtain ⟨final, hfinal, hfinalScore⟩ := Option.map_eq_some_iff.mp hfinal
  obtain ⟨hscore, hseen⟩ := Prod.mk.inj hscores
  refine ⟨start, hstart, fun hfades => ?_⟩
  have hfaded := hfades [] (LocalMap.atOrigin [shortBeam] 0) []
    [LocalMap.atOrigin [] 20000, LocalMap.atOrigin [] 20001] (List.prefix_refl _) (toLex (1, 0)) cell
    htouched hcell huntouched (by rw [hafter, hseen]; decide)
  have hoccupied := hfaded.occupied
  rw [List.nil_append, List.nil_append, hfinal] at hoccupied
  change final.occupiedScore ≤ _ at hoccupied
  rw [hfinalScore, hscore, hstep] at hoccupied
  norm_num at hoccupied

end Observing

end Netherwick.Map

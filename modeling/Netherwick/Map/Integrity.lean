import Mathlib.Data.List.Nodup
import Netherwick.Lib.Run
import Netherwick.Lib.Text
import Netherwick.Map.LocalMap

/-! # The integrity of the map graph

Whatever is observed and whatever loop closures are proposed, the nodes are numbered, the submaps are
at nodes, active edges join two of them, and the first node stays. Candidates that are rejected change
nothing but the list of edges. Submaps are numbered by how many are kept: once two have been dropped
there are two of one id. -/

namespace Netherwick.Map

open Netherwick.Lib

theorem livePoseId_injective : Function.Injective LocalMap.livePoseId :=
  Text.append_toString_injective _

theorem submapId_injective : Function.Injective LocalMap.submapId :=
  Text.append_toString_injective _

namespace LocalMap

section Integrity

variable (e : Elementary)

def withEdges (map : LocalMap) (edges : List PoseEdge) : LocalMap :=
  { map with poseGraph := { map.poseGraph with edges } }

def newNode (map : LocalMap) (observation : MapObservation) : PoseNode where
  id := livePoseId map.poseGraph.nodes.length
  poseEstimate := observation.pose
  tMs := observation.tMs
  sourceFrameId := sourceFrameIdFromObservation observation

variable {e} {map : LocalMap} {observation : MapObservation} {scanMatch : Option ScanMatchCorrection}
  {candidates : List LoopClosureCandidateInput}

@[simp] theorem nodes_addLivePoseNode :
    (map.addLivePoseNode e observation scanMatch).poseGraph.nodes =
      map.poseGraph.nodes ++ [map.newNode observation] := rfl

/-- Nodes have the ids that their places give them. -/
def Numbered (nodes : List PoseNode) : Prop :=
  nodes.map PoseNode.id = (List.range nodes.length).map livePoseId

theorem Numbered.nodup {nodes : List PoseNode} (h : Numbered nodes) :
    (nodes.map PoseNode.id).Nodup := by
  rw [h]
  exact List.Nodup.map livePoseId_injective List.nodup_range

theorem Numbered.concat {nodes : List PoseNode} {node : PoseNode} (h : Numbered nodes)
    (hid : node.id = livePoseId nodes.length) : Numbered (nodes ++ [node]) := by
  rw [Numbered, List.map_append, h, List.length_append, List.length_singleton, List.range_succ,
    List.map_append, List.map_singleton, List.map_singleton, hid]

theorem Numbered.ne_next {nodes : List PoseNode} {node : PoseNode} (h : Numbered nodes)
    (hmem : node ∈ nodes) : node.id ≠ livePoseId nodes.length := by
  have hid : node.id ∈ (List.range nodes.length).map livePoseId := by
    rw [← h]
    exact List.mem_map_of_mem hmem
  obtain ⟨index, hindex, heq⟩ := List.mem_map.mp hid
  rw [← heq]
  intro hsame
  have hless := List.mem_range.mp hindex
  exact hless.ne (livePoseId_injective hsame)

theorem Numbered.find?_newNode (h : Numbered map.poseGraph.nodes) :
    (map.addLivePoseNode e observation scanMatch).poseGraph.nodes.find?
      (fun node => node.id = livePoseId map.poseGraph.nodes.length) =
        some (map.newNode observation) := by
  rw [nodes_addLivePoseNode, List.find?_append, List.find?_eq_none.mpr]
  · simp [newNode]
  · intro node hnode
    simpa using h.ne_next hnode

theorem foldl_addLiveLoopCandidate {id : String} {current : PoseNode}
    (h : map.poseGraph.nodes.find? (fun node => node.id = id) = some current) :
    candidates.foldl (addLiveLoopCandidate e id observation) map =
      map.withEdges (map.poseGraph.edges ++ candidates.map
        (liveLoopEdge map.config e map.cells map.poseGraph.nodes current observation)) := by
  induction candidates generalizing map with
  | nil => simp [withEdges]
  | cons candidate candidates ih =>
    have hfirst : addLiveLoopCandidate e id observation map candidate =
        map.withEdges (map.poseGraph.edges ++
          [liveLoopEdge map.config e map.cells map.poseGraph.nodes current observation
            candidate]) := by
      rw [addLiveLoopCandidate]
      simp only [h]
      rfl
    have hrest := @ih (map.withEdges (map.poseGraph.edges ++
      [liveLoopEdge map.config e map.cells map.poseGraph.nodes current observation candidate])) h
    rw [List.foldl_cons, hfirst, hrest]
    simp [withEdges]

/-- One more observation since the last node. -/
def ticked (map : LocalMap) : LocalMap :=
  { map with poseGraphTicksSinceNode := map.poseGraphTicksSinceNode + 1 }

variable (e) in
/-- The map with the node that an observation adds, if it adds one, before the candidates are looked
at; the node; and the observation as it was matched. -/
def grown (map : LocalMap) (observation : MapObservation) :
    Option (LocalMap × PoseNode × MapObservation) :=
  let (observation, scanMatch) := scanMatchedObservation map.config e map.cells observation
  if map.ticked.shouldAddLivePoseNode e observation.pose.pose then
    some (map.ticked.addLivePoseNode e observation scanMatch, map.newNode observation, observation)
  else none

variable (e) in
def proposed (map : LocalMap) (node : PoseNode) (observation : MapObservation) :
    List LoopClosureCandidateInput → List PoseEdge :=
  List.map (liveLoopEdge map.config e map.cells map.poseGraph.nodes node observation)

variable (e) in
/-- What follows once the graph is updated. -/
def concluded (map : LocalMap) (observation : MapObservation) (nodeId : Option String) : LocalMap :=
  (map.optimizePoseGraph e).record e ((map.optimizePoseGraph e).settled observation) nodeId

theorem updatePoseGraph_added (h : Numbered map.poseGraph.nodes)
    (hadd : map.ticked.shouldAddLivePoseNode e observation.pose.pose = true) :
    map.updatePoseGraph e observation scanMatch candidates =
      ((map.ticked.addLivePoseNode e observation scanMatch).withEdges
        ((map.ticked.addLivePoseNode e observation scanMatch).poseGraph.edges ++
          (map.ticked.addLivePoseNode e observation scanMatch).proposed e (map.newNode observation)
            observation candidates), some (map.newNode observation).id) := by
  have hnumbered : Numbered map.ticked.poseGraph.nodes := h
  have hfold := @foldl_addLiveLoopCandidate e
    (map.ticked.addLivePoseNode e observation scanMatch) observation candidates _ _
      hnumbered.find?_newNode
  have hcontinues : ¬(!map.ticked.shouldAddLivePoseNode e observation.pose.pose) = true := by
    simp [hadd]
  exact (if_neg hcontinues).trans (congrArg (·, some (map.newNode observation).id) hfold)

theorem updatePoseGraph_passed
    (hadd : map.ticked.shouldAddLivePoseNode e observation.pose.pose = false) :
    map.updatePoseGraph e observation scanMatch candidates =
      (map.ticked, map.poseGraph.nodes.getLast?.map PoseNode.id) := by
  have hstops : (!map.ticked.shouldAddLivePoseNode e observation.pose.pose) = true := by
    simp [hadd]
  exact if_pos hstops

/-- An observation without a new node goes to the last; one with a new node has its candidates looked
at there. -/
theorem integrate_cases (h : Numbered map.poseGraph.nodes) :
    (∃ last, map.grown e observation = none ∧ map.poseGraph.nodes.getLast? = some last ∧
      ∀ candidates, map.integrateObservationWithLoopCandidates e observation candidates =
        concluded e map.ticked (scanMatchedObservation map.config e map.cells observation).1
          (some last.id)) ∨
    ∃ grown node matched, map.grown e observation = some (grown, node, matched) ∧
      ∀ candidates, map.integrateObservationWithLoopCandidates e observation candidates =
        concluded e (grown.withEdges (grown.poseGraph.edges ++
          grown.proposed e node matched candidates)) matched (some node.id) := by
  rcases hmatch : scanMatchedObservation map.config e map.cells observation with ⟨matched, scanMatch⟩
  have hintegrate : ∀ candidates,
      map.integrateObservationWithLoopCandidates e observation candidates =
        concluded e (map.updatePoseGraph e matched scanMatch candidates).1 matched
          (map.updatePoseGraph e matched scanMatch candidates).2 := by
    intro candidates
    rw [integrateObservationWithLoopCandidates, hmatch]
    rfl
  by_cases hadd : map.ticked.shouldAddLivePoseNode e matched.pose.pose = true
  · refine .inr ⟨map.ticked.addLivePoseNode e matched scanMatch, map.newNode matched, matched, ?_,
      fun candidates => ?_⟩
    · rw [grown, hmatch]
      exact if_pos hadd
    · rw [hintegrate, updatePoseGraph_added h hadd]
  · have hsome : ∃ last, map.poseGraph.nodes.getLast? = some last := by
      rw [← Option.isSome_iff_exists, Option.isSome_iff_ne_none]
      intro hnone
      apply hadd
      rw [shouldAddLivePoseNode, ticked, hnone]
    obtain ⟨last, hlast⟩ := hsome
    refine .inl ⟨last, ?_, hlast, fun candidates => ?_⟩
    · rw [grown, hmatch]
      exact if_neg hadd
    · rw [hintegrate, updatePoseGraph_passed (by simpa using hadd), hlast]
      rfl

/-- An edge between two nodes. -/
def Joins (nodes : List PoseNode) (edge : PoseEdge) : Prop :=
  edge.from ∈ nodes.map PoseNode.id ∧ edge.to ∈ nodes.map PoseNode.id ∧ edge.from ≠ edge.to

structure Kept (map : LocalMap) : Prop where
  numbered : Numbered map.poseGraph.nodes
  joined : ∀ edge ∈ map.poseGraph.edges, edge.active = true → Joins map.poseGraph.nodes edge
  placed : ∀ submap ∈ map.submaps, submap.nodeId ∈ map.poseGraph.nodes.map PoseNode.id

theorem Joins.mono {nodes nodes' : List PoseNode} {edge : PoseEdge}
    (hids : nodes.map PoseNode.id ⊆ nodes'.map PoseNode.id) (h : Joins nodes edge) :
    Joins nodes' edge :=
  ⟨hids h.1, hids h.2.1, h.2.2⟩

theorem anchored_optimizePoseGraph :
    PoseGraph.Anchored map.poseGraph.nodes (map.optimizePoseGraph e).poseGraph.nodes := by
  rw [optimizePoseGraph]
  split
  · exact .refl _
  · exact PoseGraph.optimizeAnchored_anchored

@[simp] theorem edges_optimizePoseGraph :
    (map.optimizePoseGraph e).poseGraph.edges = map.poseGraph.edges := by
  rw [optimizePoseGraph]
  split
  · rfl
  · exact PoseGraph.edges_optimizeAnchored

@[simp] theorem config_optimizePoseGraph : (map.optimizePoseGraph e).config = map.config := by
  rw [optimizePoseGraph]
  split <;> rfl

@[simp] theorem submaps_optimizePoseGraph : (map.optimizePoseGraph e).submaps = map.submaps := by
  rw [optimizePoseGraph]
  split <;> rfl

theorem storeSubmap_eq {nodeId : String} (h : nodeId ∈ map.poseGraph.nodes.map PoseNode.id) :
    ∃ submap : OccupancySubmap, submap.id = submapId map.submaps.length ∧ submap.nodeId = nodeId ∧
      submap.tMs = observation.tMs ∧ map.storeSubmap e observation (some nodeId) =
        { map with submaps := capVec map.config.maxSubmaps (map.submaps ++ [submap]) } := by
  have hsome : (map.poseGraph.nodes.find? fun node => node.id = nodeId).isSome = true := by
    obtain ⟨node, hnode, hid⟩ := List.mem_map.mp h
    rw [List.find?_isSome]
    exact ⟨node, hnode, by simpa using hid⟩
  obtain ⟨node, hfound⟩ := Option.isSome_iff_exists.mp hsome
  have hid := List.find?_some hfound
  rw [decide_eq_true_eq] at hid
  rw [storeSubmap, Option.bind_some, hfound]
  exact ⟨_, rfl, hid, rfl, rfl⟩

@[simp] theorem tMs_settled : (map.settled observation).tMs = observation.tMs := by
  rw [settled]
  cases map.poseGraph.nodes.getLast? with
  | none => rfl
  | some latest =>
    simp only
    split <;> rfl

theorem mem_capVec {α : Type} {maxLen : Nat} {items : List α} {a : α} (h : a ∈ capVec maxLen items) :
    a ∈ items := by
  rw [capVec] at h
  split at h
  · cases h
  · exact List.mem_of_mem_drop h

theorem concluded_spec {nodeId : String} (h : nodeId ∈ map.poseGraph.nodes.map PoseNode.id) :
    PoseGraph.Anchored map.poseGraph.nodes
        (concluded e map observation (some nodeId)).poseGraph.nodes ∧
      (concluded e map observation (some nodeId)).poseGraph.edges = map.poseGraph.edges ∧
      (concluded e map observation (some nodeId)).config = map.config ∧
      ∃ submap : OccupancySubmap, submap.id = submapId map.submaps.length ∧
        submap.nodeId = nodeId ∧ submap.tMs = observation.tMs ∧
          (concluded e map observation (some nodeId)).submaps =
            capVec map.config.maxSubmaps (map.submaps ++ [submap]) := by
  have hanchored := @anchored_optimizePoseGraph e map
  have hedges := @edges_optimizePoseGraph e map
  have hconfig := @config_optimizePoseGraph e map
  have hsubmaps := @submaps_optimizePoseGraph e map
  rw [concluded]
  generalize map.optimizePoseGraph e = optimized at hanchored hedges hconfig hsubmaps ⊢
  rw [← hanchored.ids] at h
  obtain ⟨submap, hid, hnode, htime, hstored⟩ := @storeSubmap_eq e
    { optimized with
      poseHistory := capVec optimized.config.maxPoseHistory
        (optimized.poseHistory ++ [(optimized.settled observation).pose]) }
    (optimized.settled observation) nodeId h
  rw [record]
  simp only [hstored, rebuildOccupancyFromSubmaps]
  rw [← hconfig, ← hsubmaps]
  exact ⟨hanchored, hedges, rfl, submap, hid, hnode, htime.trans tMs_settled, rfl⟩

variable {config : MapConfig} {cells : Cells} {nodes : List PoseNode} {node : PoseNode}
  {candidate : LoopClosureCandidateInput}

def Prior (e : Elementary) (config : MapConfig) (node : PoseNode)
    (candidate : LoopClosureCandidateInput) (target : PoseNode) : Prop :=
  target.id ≠ node.id ∧
    ((∃ frame, candidate.targetFrameId = some frame ∧ target.sourceFrameId = some frame) ∨
      distanceM e target.poseEstimate.pose candidate.targetPose ≤
        config.poseGraphLoopTargetMaxDistanceM)

theorem nearest_mem {nodes : List PoseNode} {nearest : Option PoseNode} {found : PoseNode}
    {distance : PoseNode → ℚ}
    (h : nodes.foldl (nearer distance) nearest = some found) :
    nearest = some found ∨ found ∈ nodes := by
  induction nodes generalizing nearest with
  | nil => exact .inl h
  | cons node nodes ih =>
    rw [List.foldl_cons] at h
    obtain hfirst | hrest := ih h
    · cases nearest with
      | none =>
        obtain rfl := Option.some.inj hfirst
        exact .inr List.mem_cons_self
      | some best =>
        rw [nearer] at hfirst
        split at hfirst
        · obtain rfl := Option.some.inj hfirst
          exact .inr List.mem_cons_self
        · exact .inl hfirst
    · exact .inr (List.mem_cons_of_mem _ hrest)

theorem nearest_isSome {nodes : List PoseNode} {distance : PoseNode → ℚ} {nearest : Option PoseNode}
    (h : nearest.isSome = true ∨ nodes ≠ []) :
    (nodes.foldl (nearer distance) nearest).isSome = true := by
  induction nodes generalizing nearest with
  | nil => simpa using h
  | cons node nodes ih =>
    rw [List.foldl_cons]
    apply ih
    cases nearest with
    | none => exact .inl rfl
    | some best =>
      left
      rw [nearer]
      split <;> rfl

theorem findLiveLoopTarget_mem {target : PoseNode}
    (h : findLiveLoopTarget config e nodes candidate node.id = some target) :
    target ∈ nodes ∧ Prior e config node candidate target := by
  simp only [findLiveLoopTarget, Option.or_eq_some_iff] at h
  obtain hnamed | ⟨-, hnear⟩ := h
  · obtain ⟨frame, hframe, hfound⟩ := Option.bind_eq_some_iff.mp hnamed
    have hmem := List.mem_of_find?_eq_some hfound
    have hspec := List.find?_some hfound
    simp only [Bool.and_eq_true, decide_eq_true_eq] at hspec
    exact ⟨hmem, hspec.1, .inl ⟨frame, hframe, hspec.2⟩⟩
  · obtain hnone | hmem := nearest_mem hnear
    · cases hnone
    · rw [List.mem_filter, Bool.and_eq_true, decide_eq_true_eq, decide_eq_true_eq] at hmem
      exact ⟨hmem.1, hmem.2.1, .inr hmem.2.2⟩

theorem findLiveLoopTarget_isSome_iff :
    (∃ target, findLiveLoopTarget config e nodes candidate node.id = some target) ↔
      ∃ target ∈ nodes, Prior e config node candidate target := by
  constructor
  · rintro ⟨target, h⟩
    exact ⟨target, findLiveLoopTarget_mem h⟩
  · rintro ⟨target, hmem, hother, hprior⟩
    rw [← Option.isSome_iff_exists, findLiveLoopTarget]
    simp only [Option.isSome_or, Bool.or_eq_true]
    obtain ⟨frame, hframe, hsource⟩ | hnear := hprior
    · left
      rw [hframe, Option.bind_some, List.find?_isSome]
      exact ⟨target, hmem, by simp [hother, hsource]⟩
    · right
      apply nearest_isSome
      right
      apply List.ne_nil_of_mem (a := target)
      rw [List.mem_filter]
      exact ⟨hmem, by simp [hother, hnear]⟩

/-- What a candidate has to pass at a node: it names neither the node nor its frame, its confidence
and its distance are within the bounds, there is a node to close the loop to, and the scan measured
there agrees with enough of the grid. -/
structure PassesGates (e : Elementary) (map : LocalMap) (node : PoseNode)
    (observation : MapObservation) (candidate : LoopClosureCandidateInput) : Prop where
  other_node : candidate.targetFrameId ≠ some node.id
  other_frame : candidate.targetFrameId ≠ node.sourceFrameId
  confident : map.config.poseGraphMinLoopConfidence ≤ candidate.confidence
  near : distanceM e node.poseEstimate.pose candidate.targetPose ≤
    map.config.poseGraphLoopTargetMaxDistanceM
  prior : ∃ target ∈ map.poseGraph.nodes, Prior e map.config node candidate target
  overlaps : ∀ target,
    findLiveLoopTarget map.config e map.poseGraph.nodes candidate node.id = some target →
      ∃ registration, measureLoopRegistration map.config e map.cells target.poseEstimate.pose
          observation = some registration ∧
        map.config.poseGraphLoopMinGeometricOverlap ≤ registration.geometricOverlap

theorem active_liveLoopEdge_iff :
    (liveLoopEdge map.config e map.cells map.poseGraph.nodes node observation candidate).active =
      true ↔ PassesGates e map node observation candidate := by
  have hprior := @findLiveLoopTarget_isSome_iff e map.config map.poseGraph.nodes node candidate
  simp only [liveLoopEdge, Option.isNone_iff_eq_none, liveLoopRejectionReason]
  constructor
  · intro h
    split at h
    · cases h
    rename_i hnames
    split at h
    · cases h
    rename_i hconfidence
    split at h
    · cases h
    rename_i hdistance
    split at h
    · cases h
    rename_i htarget
    simp only [Bool.or_eq_true, decide_eq_true_eq, not_or] at hnames
    rw [← Ne, Option.ne_none_iff_exists'] at htarget
    obtain ⟨target, htarget⟩ := htarget
    refine ⟨hnames.1, hnames.2, not_lt.mp hconfidence, not_lt.mp hdistance,
      hprior.mp ⟨target, htarget⟩, ?_⟩
    intro other hother
    rw [hother, Option.bind_some] at h
    split at h
    · cases h
    · rename_i registration hregistration
      split at h
      · cases h
      · rename_i hoverlap
        exact ⟨registration, hregistration, not_lt.mp hoverlap⟩
  · intro h
    obtain ⟨target, htarget⟩ := hprior.mpr h.prior
    obtain ⟨registration, hregistration, hoverlap⟩ := h.overlaps target htarget
    rw [htarget, Option.bind_some, hregistration]
    simp [h.other_node, h.other_frame, h.confident.not_gt, h.near.not_gt, hoverlap.not_gt]

theorem joins_liveLoopEdge (hnode : node ∈ map.poseGraph.nodes)
    (h : (liveLoopEdge map.config e map.cells map.poseGraph.nodes node observation
      candidate).active = true) :
    Joins map.poseGraph.nodes
      (liveLoopEdge map.config e map.cells map.poseGraph.nodes node observation candidate) := by
  obtain ⟨target, htarget⟩ :=
    findLiveLoopTarget_isSome_iff.mpr (active_liveLoopEdge_iff.mp h).prior
  obtain ⟨hmem, hother, -⟩ := findLiveLoopTarget_mem htarget
  have hto : (liveLoopEdge map.config e map.cells map.poseGraph.nodes node observation
      candidate).to = target.id := by
    simp only [liveLoopEdge, htarget, Option.map_some, Option.getD_some]
  refine ⟨List.mem_map_of_mem hnode, ?_, ?_⟩
  · rw [hto]
    exact List.mem_map_of_mem hmem
  · rw [hto]
    exact hother.symm

@[simp] theorem tMs_scanMatchedObservation :
    (scanMatchedObservation config e cells observation).1.tMs = observation.tMs := by
  rw [scanMatchedObservation]
  split <;> rfl

theorem Numbered.of_anchored {nodes nodes' : List PoseNode} (h : Numbered nodes)
    (hanchored : PoseGraph.Anchored nodes nodes') : Numbered nodes' := by
  have hlength : nodes'.length = nodes.length := by
    have hlengths := congrArg List.length hanchored.ids
    simpa using hlengths
  rw [Numbered, hanchored.ids, h, hlength]

theorem Kept.concluded {nodeId : String} (h : Kept map)
    (hmem : nodeId ∈ map.poseGraph.nodes.map PoseNode.id) :
    Kept (concluded e map observation (some nodeId)) := by
  obtain ⟨hanchored, hedges, -, submap, -, hnode, -, hsubmaps⟩ :=
    @concluded_spec e map observation nodeId hmem
  refine ⟨h.numbered.of_anchored hanchored, fun edge hedge hactive => ?_, fun stored hstored => ?_⟩
  · rw [hedges] at hedge
    exact (h.joined edge hedge hactive).mono (by rw [hanchored.ids]; exact List.Subset.refl _)
  · rw [hsubmaps] at hstored
    rw [hanchored.ids]
    obtain hold | hnew := List.mem_append.mp (mem_capVec hstored)
    · exact h.placed stored hold
    · rw [List.mem_singleton.mp hnew, hnode]
      exact hmem

theorem Kept.grown {grown : LocalMap} {matched : MapObservation} (h : Kept map)
    (hgrown : map.grown e observation = some (grown, node, matched)) :
    Kept (grown.withEdges (grown.poseGraph.edges ++ grown.proposed e node matched candidates)) ∧
      node ∈ grown.poseGraph.nodes ∧ grown.poseGraph.nodes = map.poseGraph.nodes ++ [node] ∧
      grown.config = map.config ∧ grown.submaps = map.submaps ∧ matched.tMs = observation.tMs := by
  rcases hmatch : scanMatchedObservation map.config e map.cells observation with ⟨seen, scanMatch⟩
  rw [LocalMap.grown, hmatch] at hgrown
  simp only at hgrown
  split at hgrown
  · obtain ⟨rfl, rfl, rfl⟩ : map.ticked.addLivePoseNode e seen scanMatch = grown ∧
        map.newNode seen = node ∧ seen = matched := by simpa using hgrown
    have hmem : map.newNode seen ∈
        (map.ticked.addLivePoseNode e seen scanMatch).poseGraph.nodes := by
      rw [nodes_addLivePoseNode]
      exact List.mem_append_right _ (List.mem_singleton.mpr rfl)
    have hids : map.poseGraph.nodes.map PoseNode.id ⊆
        (map.ticked.addLivePoseNode e seen scanMatch).poseGraph.nodes.map PoseNode.id :=
      List.map_subset _ (List.subset_append_left _ _)
    refine ⟨⟨h.numbered.concat rfl, fun edge hedge hactive => ?_, fun submap hsubmap =>
      hids (h.placed submap hsubmap)⟩, hmem, rfl, rfl, rfl, ?_⟩
    · obtain hold | hnew := List.mem_append.mp hedge
      · obtain hold | htrack := List.mem_append.mp hold
        · exact (h.joined edge hold hactive).mono hids
        · obtain ⟨previous, hprevious, rfl⟩ : ∃ previous, map.poseGraph.nodes.getLast? = some previous ∧
              trackEdge e previous (livePoseId map.poseGraph.nodes.length) seen scanMatch = edge := by
            simpa [ticked] using htrack
          have hlast := List.mem_of_getLast? hprevious
          exact ⟨hids (List.mem_map_of_mem hlast), List.mem_map_of_mem hmem, h.numbered.ne_next hlast⟩
      · obtain ⟨candidate, -, rfl⟩ := List.mem_map.mp hnew
        exact joins_liveLoopEdge hmem hactive
    · have htime := @tMs_scanMatchedObservation e observation map.config map.cells
      rwa [hmatch] at htime
  · cases hgrown

theorem head_append {nodes others : List PoseNode} {first : PoseNode}
    (h : nodes.head? = some first) : (nodes ++ others).head? = some first := by
  rw [List.head?_append, h]
  rfl

theorem integrate_kept (h : Kept map) :
    Kept (map.integrateObservationWithLoopCandidates e observation candidates) ∧
      (map.integrateObservationWithLoopCandidates e observation candidates).config = map.config ∧
      (∀ first, map.poseGraph.nodes.head? = some first →
        (map.integrateObservationWithLoopCandidates e observation
          candidates).poseGraph.nodes.head? = some first) ∧
      ∃ submap : OccupancySubmap, submap.id = submapId map.submaps.length ∧
        submap.tMs = observation.tMs ∧
          (map.integrateObservationWithLoopCandidates e observation candidates).submaps =
            capVec map.config.maxSubmaps (map.submaps ++ [submap]) := by
  obtain ⟨last, -, hlast, hrun⟩ | ⟨grown, node, matched, hgrown, hrun⟩ :=
    @integrate_cases e map observation h.numbered
  · rw [hrun]
    have hmem := List.mem_map_of_mem (f := PoseNode.id) (List.mem_of_getLast? hlast)
    obtain ⟨hanchored, -, hconfig, submap, hid, -, htime, hsubmaps⟩ := @concluded_spec e map.ticked
      (scanMatchedObservation map.config e map.cells observation).1 last.id hmem
    have hkept : Kept map.ticked := ⟨h.numbered, h.joined, h.placed⟩
    exact ⟨hkept.concluded hmem, hconfig, fun first hfirst => hanchored.first.trans hfirst,
      submap, hid, htime.trans tMs_scanMatchedObservation, hsubmaps⟩
  · rw [hrun]
    obtain ⟨hkept, hnode, hnodes, hconfig, hsame, hmatched⟩ := @Kept.grown _ _ _ candidates _ _ _ h hgrown
    have hmem := List.mem_map_of_mem (f := PoseNode.id) hnode
    obtain ⟨hanchored, -, hconfig', submap, hid, -, htime, hsubmaps⟩ :=
      @concluded_spec e (grown.withEdges (grown.poseGraph.edges ++
        grown.proposed e node matched candidates)) matched node.id hmem
    refine ⟨hkept.concluded hmem, hconfig'.trans hconfig, fun first hfirst => ?_, submap, ?_,
      htime.trans hmatched, ?_⟩
    · rw [hanchored.first]
      have hhead : (map.poseGraph.nodes ++ [node]).head? = some first := head_append hfirst
      rw [← hnodes] at hhead
      exact hhead
    · rw [hid, ← hsame]
      rfl
    · rw [hsubmaps, ← hsame, ← hconfig]
      rfl

theorem edges_integrate {grown : LocalMap} {matched : MapObservation} (h : Kept map)
    (hgrown : map.grown e observation = some (grown, node, matched)) :
    (map.integrateObservationWithLoopCandidates e observation candidates).poseGraph.edges =
      grown.poseGraph.edges ++ grown.proposed e node matched candidates := by
  obtain ⟨last, hnone, -⟩ | ⟨other, node', seen, hsome, hrun⟩ :=
    @integrate_cases e map observation h.numbered
  · rw [hnone] at hgrown
    cases hgrown
  · rw [hsome] at hgrown
    obtain ⟨rfl, rfl, rfl⟩ : other = grown ∧ node' = node ∧ seen = matched := by
      simpa using hgrown
    obtain ⟨-, hnode, -⟩ := @Kept.grown _ _ _ candidates _ _ _ h hsome
    obtain ⟨-, hedges, -⟩ := @concluded_spec e (other.withEdges (other.poseGraph.edges ++
      other.proposed e node' seen candidates)) seen node'.id (List.mem_map_of_mem hnode)
    rw [hrun, hedges]
    rfl

/-- The maps differ in inactive edges only. -/
def Agree (a b : LocalMap) : Prop :=
  b = a.withEdges b.poseGraph.edges ∧ a.poseGraph.activeEdges = b.poseGraph.activeEdges

variable {a b : LocalMap}

theorem Agree.refl (map : LocalMap) : Agree map map := ⟨rfl, rfl⟩

theorem Agree.grown {grown : LocalMap} {matched : MapObservation} (h : Agree a b)
    (hgrown : a.grown e observation = some (grown, node, matched)) :
    ∃ edges, b.grown e observation = some (grown.withEdges edges, node, matched) ∧
      grown.poseGraph.activeEdges = edges.filter PoseEdge.active := by
  obtain ⟨hsame, hactive⟩ := h
  generalize b.poseGraph.edges = others at hsame
  subst hsame
  have hactive : a.poseGraph.edges.filter PoseEdge.active = others.filter PoseEdge.active := hactive
  rcases hmatch : scanMatchedObservation a.config e a.cells observation with ⟨seen, scanMatch⟩
  rw [LocalMap.grown, hmatch] at hgrown
  simp only at hgrown
  split at hgrown
  · rename_i hadd
    obtain ⟨rfl, rfl, rfl⟩ : a.ticked.addLivePoseNode e seen scanMatch = grown ∧
        a.newNode seen = node ∧ seen = matched := by simpa using hgrown
    refine ⟨others ++ (a.poseGraph.nodes.getLast?.map fun previous =>
      trackEdge e previous (livePoseId a.poseGraph.nodes.length) seen scanMatch).toList, ?_, ?_⟩
    · have hmatch' : scanMatchedObservation (a.withEdges others).config e
        (a.withEdges others).cells observation = (seen, scanMatch) := hmatch
      rw [LocalMap.grown, hmatch']
      exact if_pos hadd
    · exact (List.filter_append ..).trans ((congrArg (· ++ _) hactive).trans
        (List.filter_append ..).symm)
  · cases hgrown

theorem Agree.grown_none (h : Agree a b) (hgrown : a.grown e observation = none) :
    b.grown e observation = none := by
  obtain ⟨hsame, -⟩ := h
  rcases hmatch : scanMatchedObservation a.config e a.cells observation with ⟨seen, scanMatch⟩
  rw [LocalMap.grown, hmatch] at hgrown
  simp only at hgrown
  split at hgrown
  · cases hgrown
  · rename_i hadd
    have hmatch' : scanMatchedObservation b.config e b.cells observation = (seen, scanMatch) := by
      rw [hsame]
      exact hmatch
    rw [LocalMap.grown, hmatch', hsame]
    exact if_neg hadd

theorem Agree.optimized (h : Agree a b) : Agree (a.optimizePoseGraph e) (b.optimizePoseGraph e) := by
  obtain ⟨hsame, hactive⟩ := h
  generalize b.poseGraph.edges = others at hsame
  subst hsame
  by_cases henabled : a.config.poseGraphOptimizeEnabled = true
  · have hcongr := @PoseGraph.optimizeAnchored_congr e
      { iterations := a.config.poseGraphOptimizeIterations
        stepSize := a.config.poseGraphOptimizeStep } a.poseGraph (a.withEdges others).poseGraph rfl
        hactive
    have hoptimized : ∀ map : LocalMap, map.config = a.config →
        map.optimizePoseGraph e =
          { map with
            poseGraph := (map.poseGraph.optimizeAnchored e
              { iterations := a.config.poseGraphOptimizeIterations
                stepSize := a.config.poseGraphOptimizeStep }).1
            poseGraphOptimization := (map.poseGraph.optimizeAnchored e
              { iterations := a.config.poseGraphOptimizeIterations
                stepSize := a.config.poseGraphOptimizeStep }).2 } := by
      intro map hmap
      rw [optimizePoseGraph, if_neg (by simp [hmap, henabled]), hmap]
    rw [hoptimized a rfl, hoptimized (a.withEdges others) rfl, ← hcongr.2]
    refine ⟨?_, ?_⟩
    · simp only [withEdges, PoseGraph.edges_optimizeAnchored]
      congr 1
      rw [hcongr.1]
      exact PoseGraph.ext rfl PoseGraph.edges_optimizeAnchored
    · simp only [PoseGraph.activeEdges, PoseGraph.edges_optimizeAnchored]
      exact hactive
  · have hskipped : ∀ map : LocalMap, map.config = a.config →
        map.optimizePoseGraph e = { map with poseGraphOptimization := {} } := by
      intro map hmap
      rw [optimizePoseGraph, if_pos (by simp [hmap, henabled])]
    rw [hskipped a rfl, hskipped (a.withEdges others) rfl]
    exact ⟨rfl, hactive⟩

theorem Agree.recorded {nodeId : Option String} (h : Agree a b) :
    Agree (a.record e observation nodeId) (b.record e observation nodeId) := by
  obtain ⟨hsame, hactive⟩ := h
  generalize b.poseGraph.edges = others at hsame
  subst hsame
  have hstore : ∀ map : LocalMap, (map.withEdges others).storeSubmap e observation nodeId =
      (map.storeSubmap e observation nodeId).withEdges others := by
    intro map
    simp only [storeSubmap, withEdges]
    split <;> rfl
  have hrecord : (a.withEdges others).record e observation nodeId =
      (a.record e observation nodeId).withEdges others := by
    have hposed := hstore { a with
      poseHistory := capVec a.config.maxPoseHistory (a.poseHistory ++ [observation.pose]) }
    simp only [record, rebuildOccupancyFromSubmaps]
    simp only [withEdges] at hposed ⊢
    rw [hposed]
    rfl
  have hedges : (a.record e observation nodeId).poseGraph.edges = a.poseGraph.edges := by
    simp only [record, rebuildOccupancyFromSubmaps, storeSubmap]
    split <;> rfl
  rw [hrecord]
  refine ⟨rfl, ?_⟩
  rw [PoseGraph.activeEdges, hedges]
  exact hactive

theorem Agree.concluded {nodeId : Option String} (h : Agree a b) :
    Agree (a.concluded e observation nodeId) (b.concluded e observation nodeId) := by
  have hoptimized := @Agree.optimized e a b h
  have hsettled : (b.optimizePoseGraph e).settled observation =
      (a.optimizePoseGraph e).settled observation := by
    rw [hoptimized.1]
    rfl
  rw [LocalMap.concluded, LocalMap.concluded, hsettled]
  exact hoptimized.recorded

variable (e) in
/-- The candidates that become active edges: none where no node is added. -/
def accepted (map : LocalMap) (observation : MapObservation)
    (candidates : List LoopClosureCandidateInput) : List LoopClosureCandidateInput :=
  (map.grown e observation).elim [] fun grown => candidates.filter fun candidate =>
    (liveLoopEdge grown.1.config e grown.1.cells grown.1.poseGraph.nodes grown.2.1 grown.2.2
      candidate).active

theorem activeEdges_proposed {grown : LocalMap} {matched : MapObservation} {edges : List PoseEdge}
    (hgrown : map.grown e observation = some (grown, node, matched)) :
    (edges ++ grown.proposed e node matched candidates).filter PoseEdge.active =
      edges.filter PoseEdge.active ++
        grown.proposed e node matched (map.accepted e observation candidates) := by
  rw [List.filter_append, accepted, hgrown, proposed, List.filter_map]
  rfl

theorem Agree.integrated {candidates' : List LoopClosureCandidateInput} (hkept : Kept a)
    (hkept' : Kept b) (h : Agree a b)
    (haccepted : a.accepted e observation candidates = b.accepted e observation candidates') :
    Agree (a.integrateObservationWithLoopCandidates e observation candidates)
      (b.integrateObservationWithLoopCandidates e observation candidates') := by
  obtain ⟨last, hnone, hlast, hrun⟩ | ⟨grown, node, matched, hgrown, hrun⟩ :=
    @integrate_cases e a observation hkept.numbered
  · obtain ⟨last', -, hlast', hrun'⟩ | ⟨other, node, matched, hsome, -⟩ :=
      @integrate_cases e b observation hkept'.numbered
    · obtain rfl : last' = last := by
        rw [h.1] at hlast'
        exact Option.some.inj (hlast'.symm.trans hlast)
      have hmatched : (scanMatchedObservation b.config e b.cells observation).1 =
          (scanMatchedObservation a.config e a.cells observation).1 := by
        rw [h.1]
        rfl
      have hticked : Agree a.ticked b.ticked := by
        refine ⟨?_, h.2⟩
        rw [h.1]
        rfl
      rw [hrun, hrun', hmatched]
      exact hticked.concluded
    · rw [h.grown_none hnone] at hsome
      cases hsome
  · obtain ⟨edges, hgrown', hactive⟩ := h.grown hgrown
    obtain ⟨last, hnone, -⟩ | ⟨other, node', seen, hsome, hrun'⟩ :=
      @integrate_cases e b observation hkept'.numbered
    · rw [hgrown'] at hnone
      cases hnone
    · rw [hgrown'] at hsome
      obtain ⟨rfl, rfl, rfl⟩ : grown.withEdges edges = other ∧ node = node' ∧ matched = seen := by
        simpa using hsome
      rw [hrun, hrun']
      apply Agree.concluded
      refine ⟨rfl, ?_⟩
      refine (activeEdges_proposed hgrown).trans ?_
      rw [haccepted]
      refine Eq.trans ?_ (activeEdges_proposed hgrown').symm
      rw [show grown.poseGraph.edges.filter PoseEdge.active = edges.filter PoseEdge.active from
        hactive]
      rfl

/-- What is called on a map. `observe` is `observe_now` or `observe_snapshot`. -/
inductive Call
  | observe (observation : MapObservation)
  | integrate (observation : MapObservation) (candidates : List LoopClosureCandidateInput)
  | decayStale (nowMs : Nat)

variable (e) in
def take (map : LocalMap) : Call → LocalMap
  | .observe observation => map.observe e observation
  | .integrate observation candidates =>
    map.integrateObservationWithLoopCandidates e observation candidates
  | .decayStale nowMs => map.decayStale nowMs

variable (e) in
abbrev run (map : LocalMap) (calls : List Call) : LocalMap := after (take e) map calls

def Call.isObservation : Call → Bool
  | .decayStale _ => false
  | _ => true

/-- How many observations are made. -/
def observed (calls : List Call) : Nat := calls.countP Call.isObservation

/-- The numbers of the observations whose submaps are kept, of so many. -/
def keptOf (maxSubmaps count : Nat) : List Nat := (List.range count).drop (count - maxSubmaps)

def submapIds (maxSubmaps count : Nat) : List String :=
  (keptOf maxSubmaps count).map fun number => submapId (min number maxSubmaps)

theorem length_keptOf {maxSubmaps count : Nat} :
    (keptOf maxSubmaps count).length = min count maxSubmaps := by
  simp only [keptOf, List.length_drop, List.length_range]
  omega

theorem capVec_submapIds {maxSubmaps count : Nat} :
    capVec maxSubmaps (submapIds maxSubmaps count ++ [submapId (submapIds maxSubmaps count).length]) =
      submapIds maxSubmaps (count + 1) := by
  have hlength : (submapIds maxSubmaps count).length = min count maxSubmaps := by
    rw [submapIds, List.length_map, length_keptOf]
  have hkept : keptOf maxSubmaps count ++ [count] = (List.range (count + 1)).drop
      (count - maxSubmaps) := by
    rw [keptOf, List.range_succ, List.drop_append_of_le_length (by simp)]
  have hmap : submapIds maxSubmaps count ++ [submapId (min count maxSubmaps)] =
      ((List.range (count + 1)).drop (count - maxSubmaps)).map
        fun number => submapId (min number maxSubmaps) := by
    rw [← hkept, List.map_append]
    rfl
  rw [hlength, hmap, submapIds, keptOf, capVec]
  split
  · rename_i hzero
    rw [hzero, Nat.sub_zero, List.drop_of_length_le (by simp)]
    rfl
  · rw [← List.map_drop, List.drop_drop]
    congr 2
    rw [List.length_map, List.length_drop, List.length_range]
    omega

theorem nodup_submapIds_iff {maxSubmaps count : Nat} :
    (submapIds maxSubmaps count).Nodup ↔ maxSubmaps ≤ 1 ∨ count ≤ maxSubmaps + 1 := by
  have hnumbers : (submapIds maxSubmaps count).Nodup ↔
      ((keptOf maxSubmaps count).map (min · maxSubmaps)).Nodup := by
    rw [submapIds, ← List.nodup_map_iff submapId_injective, List.map_map]
    rfl
  have hget : ∀ index (h : index < (keptOf maxSubmaps count).length),
      (keptOf maxSubmaps count)[index] = count - maxSubmaps + index := by
    intro index h
    simp [keptOf]
  rw [hnumbers, List.nodup_iff_injective_get]
  constructor
  · intro h
    by_contra hmany
    simp only [not_or, Nat.not_le] at hmany
    have hless : ∀ back, 1 ≤ back → back ≤ 2 →
        count ⊓ maxSubmaps - back < ((keptOf maxSubmaps count).map (min · maxSubmaps)).length := by
      intro back _ _
      rw [List.length_map, length_keptOf]
      omega
    have hsame := @h ⟨_, hless 1 (by omega) (by omega)⟩ ⟨_, hless 2 (by omega) (by omega)⟩ (by
      simp only [List.get_eq_getElem, List.getElem_map, hget]
      omega)
    simp only [Fin.mk.injEq] at hsame
    omega
  · intro h first second hsame
    have hfirst := first.isLt
    have hsecond := second.isLt
    simp only [List.get_eq_getElem, List.getElem_map, hget] at hsame
    have hlength : ((keptOf maxSubmaps count).map (min · maxSubmaps)).length =
        min count maxSubmaps := by rw [List.length_map, length_keptOf]
    ext
    omega

/-- A map after so many observations. -/
structure Filled (config : MapConfig) (count : Nat) (map : LocalMap) : Prop where
  kept : Kept map
  config_eq : map.config = config
  ids : map.submaps.map OccupancySubmap.id = submapIds config.maxSubmaps count

theorem map_capVec {α β : Type} {maxLen : Nat} {items : List α} (f : α → β) :
    (capVec maxLen items).map f = capVec maxLen (items.map f) := by
  simp only [capVec, List.length_map]
  split
  · rfl
  · rw [List.map_drop]

theorem Filled.integrated {count : Nat} (h : Filled config count map) :
    Filled config (count + 1)
      (map.integrateObservationWithLoopCandidates e observation candidates) := by
  obtain ⟨hkept, hconfig, -, submap, hid, -, hsubmaps⟩ :=
    @integrate_kept e map observation candidates h.kept
  refine ⟨hkept, hconfig.trans h.config_eq, ?_⟩
  have hlength : map.submaps.length = (submapIds config.maxSubmaps count).length := by
    rw [← h.ids, List.length_map]
  rw [hsubmaps, map_capVec, List.map_append, List.map_singleton, hid, hlength, h.ids, h.config_eq,
    capVec_submapIds]

theorem Filled.decayed {count nowMs : Nat} (h : Filled config count map) :
    Filled config count (map.decayStale nowMs) :=
  ⟨⟨h.kept.numbered, h.kept.joined, h.kept.placed⟩, h.config_eq, h.ids⟩

theorem Filled.taken {count : Nat} (h : Filled config count map) (call : Call) :
    Filled config (count + observed [call]) (map.take e call) := by
  cases call with
  | observe observation => exact h.integrated.decayed
  | integrate observation candidates => exact h.integrated
  | decayStale nowMs => exact h.decayed

theorem Filled.run {count : Nat} (h : Filled config count map) (calls : List Call) :
    Filled config (count + observed calls) (map.run e calls) := by
  induction calls generalizing count map with
  | nil => exact h
  | cons call calls ih =>
    have hrest := ih (h.taken (e := e) call)
    rw [Nat.add_assoc] at hrest
    rw [observed, ← List.singleton_append, List.countP_append]
    exact hrest

theorem filled_new {start : LocalMap} (h : LocalMap.new config = some start) :
    Filled config 0 start := by
  rw [new] at h
  split at h
  · obtain rfl := Option.some.inj h
    exact ⟨⟨rfl, by simp, by simp⟩, rfl, by simp [submapIds, keptOf]⟩
  · cases h

theorem take_first {first : PoseNode} (h : Kept map) (hfirst : map.poseGraph.nodes.head? = some first)
    (call : Call) : (map.take e call).poseGraph.nodes.head? = some first := by
  cases call with
  | observe observation => exact (integrate_kept h).2.2.1 first hfirst
  | integrate observation candidates => exact (integrate_kept h).2.2.1 first hfirst
  | decayStale nowMs => exact hfirst

theorem run_first {count : Nat} {first : PoseNode} (h : Filled config count map)
    (hfirst : map.poseGraph.nodes.head? = some first) (calls : List Call) :
    (map.run e calls).poseGraph.nodes.head? = some first := by
  induction calls generalizing count map with
  | nil => exact hfirst
  | cons call calls ih => exact ih (h.taken call) (take_first h.kept hfirst call)

variable (e) in
/-- Calls on two maps that differ, if at all, in candidates that are not accepted. -/
inductive OnlyRejectedDiffer (maps : LocalMap × LocalMap) : Call × Call → Prop
  | same (call : Call) : OnlyRejectedDiffer maps (call, call)
  | rejected {observation : MapObservation} {candidates candidates' : List LoopClosureCandidateInput}
      (h : maps.1.accepted e observation candidates = maps.2.accepted e observation candidates') :
      OnlyRejectedDiffer maps (.integrate observation candidates, .integrate observation candidates')

variable (e) in
def takeBoth (maps : LocalMap × LocalMap) (calls : Call × Call) : LocalMap × LocalMap :=
  (maps.1.take e calls.1, maps.2.take e calls.2)

theorem after_takeBoth (maps : LocalMap × LocalMap) (calls : List (Call × Call)) :
    after (takeBoth e) maps calls =
      (maps.1.run e (calls.map Prod.fst), maps.2.run e (calls.map Prod.snd)) := by
  induction calls generalizing maps with
  | nil => rfl
  | cons call calls ih =>
    rw [after_cons, ih]
    rfl

theorem Agree.accepted (h : Agree a b) :
    a.accepted e observation candidates = b.accepted e observation candidates := by
  rw [LocalMap.accepted, LocalMap.accepted]
  cases hgrown : a.grown e observation with
  | none => rw [h.grown_none hgrown]
  | some grown =>
    obtain ⟨grown, node, matched⟩ := grown
    obtain ⟨edges, hgrown', -⟩ := h.grown hgrown
    rw [hgrown']
    rfl

theorem Agree.decayed {nowMs : Nat} (h : Agree a b) : Agree (a.decayStale nowMs) (b.decayStale nowMs) := by
  refine ⟨?_, h.2⟩
  rw [h.1]
  rfl

/-- Two maps of the same observations whose edges differ, if at all, in inactive ones. -/
structure Twins (maps : LocalMap × LocalMap) : Prop where
  first : Kept maps.1
  second : Kept maps.2
  agree : Agree maps.1 maps.2

theorem Twins.taken {maps : LocalMap × LocalMap} {calls : Call × Call} (h : Twins maps)
    (hcalls : OnlyRejectedDiffer e maps calls) : Twins (takeBoth e maps calls) := by
  cases hcalls with
  | same call =>
    cases call with
    | observe observation =>
      have hfirst := (@integrate_kept e _ observation [] h.first).1
      have hsecond := (@integrate_kept e _ observation [] h.second).1
      exact ⟨⟨hfirst.numbered, hfirst.joined, hfirst.placed⟩,
        ⟨hsecond.numbered, hsecond.joined, hsecond.placed⟩,
        (h.agree.integrated h.first h.second h.agree.accepted).decayed⟩
    | integrate observation candidates =>
      exact ⟨(integrate_kept h.first).1, (integrate_kept h.second).1,
        h.agree.integrated h.first h.second h.agree.accepted⟩
    | decayStale nowMs =>
      exact ⟨⟨h.first.numbered, h.first.joined, h.first.placed⟩,
        ⟨h.second.numbered, h.second.joined, h.second.placed⟩, h.agree.decayed⟩
  | rejected haccepted =>
    exact ⟨(integrate_kept h.first).1, (integrate_kept h.second).1,
      h.agree.integrated h.first h.second haccepted⟩

/-- Everything but the edges and the telemetry is the same. -/
structure SameMap (a b : LocalMap) : Prop where
  nodes : a.poseGraph.nodes = b.poseGraph.nodes
  poses : a.poseHistory = b.poseHistory
  submaps : a.submaps = b.submaps
  cells : a.cells = b.cells

theorem Agree.sameMap (h : Agree a b) : SameMap a b := by
  constructor <;> rw [h.1] <;> rfl

/-- A graph that holds together, and candidates that are taken if and only if they pass the gates. -/
structure Sound (e : Elementary) (map : LocalMap) : Prop where
  nodes_distinct : (map.poseGraph.nodes.map PoseNode.id).Nodup
  submaps_placed : ∀ submap ∈ map.submaps, submap.nodeId ∈ map.poseGraph.nodes.map PoseNode.id
  edges_joined : ∀ edge ∈ map.poseGraph.edges, edge.active = true → Joins map.poseGraph.nodes edge
  gated : ∀ observation grown node matched,
    map.grown e observation = some (grown, node, matched) → ∀ candidates,
      (map.integrateObservationWithLoopCandidates e observation candidates).poseGraph.edges =
          grown.poseGraph.edges ++ grown.proposed e node matched candidates ∧
        ∀ candidate, (liveLoopEdge grown.config e grown.cells grown.poseGraph.nodes node matched
          candidate).active = true ↔ PassesGates e grown node matched candidate

/-- Of every map: it is sound, its first node stays, candidates that are rejected change nothing but
the list of edges, and its submaps have distinct ids if and only if at most one is kept or at most one
has been stored since there are as many as are kept. -/
theorem run_sound_iff (e : Elementary) {config : MapConfig} {start : LocalMap}
    (h : LocalMap.new config = some start) (calls : List Call) :
    Sound e (start.run e calls) ∧
      (∀ first, (start.run e calls).poseGraph.nodes.head? = some first → ∀ more,
        (start.run e (calls ++ more)).poseGraph.nodes.head? = some first) ∧
      (∀ pairs, EachStep (takeBoth e) (start, start) (OnlyRejectedDiffer e) pairs →
        ∀ past, past <+: pairs →
          SameMap (start.run e (past.map Prod.fst)) (start.run e (past.map Prod.snd))) ∧
      (((start.run e calls).submaps.map OccupancySubmap.id).Nodup ↔
        config.maxSubmaps ≤ 1 ∨ observed calls ≤ config.maxSubmaps + 1) := by
  have hstart := filled_new h
  have hrun := hstart.run (e := e) calls
  rw [Nat.zero_add] at hrun
  refine ⟨⟨hrun.kept.numbered.nodup, hrun.kept.placed, hrun.kept.joined, ?_⟩, ?_, ?_, ?_⟩
  · exact fun observation grown node matched hgrown candidates =>
      ⟨edges_integrate hrun.kept hgrown, fun candidate => active_liveLoopEdge_iff⟩
  · intro first hfirst more
    have hmore := run_first (e := e) hrun hfirst more
    rwa [run, ← after_append] at hmore
  · intro pairs hpairs past hpast
    have htwins := (hpairs.of_isPrefix hpast).invariant (P := Twins)
      ⟨hstart.kept, hstart.kept, .refl start⟩ fun maps calls hmaps hcalls => hmaps.taken hcalls
    rw [after_takeBoth] at htwins
    exact htwins.agree.sameMap
  · rw [hrun.ids]
    exact nodup_submapIds_iff

/-- A robot that stands at the origin and looks ahead: no angle but zero. -/
def ahead : Elementary where
  sin _ := 0
  cos _ := 1
  sqrt value := value
  hypot x y := |x| + |y|
  fixed3 _ := "0.000"

def atOrigin (rangeBeams : List RangeBeam) (tMs : Nat) : MapObservation where
  pose :=
    { pose := {}
      confidence := 0.75
      covariance := { x := 0.05, y := 0.05, heading := 0.1 }
      source := "odometry"
      tMs }
  rangeBeams
  frameId := none
  tMs

theorem run_sound_twoSubmaps : ∃ start, LocalMap.new { maxSubmaps := 2 } = some start ∧
    ((start.run ahead [.observe (atOrigin [] 0), .observe (atOrigin [] 1),
      .observe (atOrigin [] 2)]).submaps.map OccupancySubmap.id).Nodup := by
  have hnew : (LocalMap.new { maxSubmaps := 2 }).isSome = true := by decide +kernel
  obtain ⟨start, hstart⟩ := Option.isSome_iff_exists.mp hnew
  obtain ⟨-, -, -, hids⟩ := run_sound_iff ahead hstart
    [.observe (atOrigin [] 0), .observe (atOrigin [] 1), .observe (atOrigin [] 2)]
  exact ⟨start, hstart, hids.mpr (by decide)⟩

/-- The third and the fourth submap have one id. -/
theorem submapIds_repeat : ∃ start, LocalMap.new { maxSubmaps := 2 } = some start ∧
    ¬((start.run ahead [.observe (atOrigin [] 0), .observe (atOrigin [] 1),
      .observe (atOrigin [] 2), .observe (atOrigin [] 3)]).submaps.map
        OccupancySubmap.id).Nodup := by
  have hids : ((LocalMap.new { maxSubmaps := 2 }).map fun start =>
      (start.run ahead [.observe (atOrigin [] 0), .observe (atOrigin [] 1),
        .observe (atOrigin [] 2), .observe (atOrigin [] 3)]).submaps.map OccupancySubmap.id) =
      some ["submap-2", "submap-2"] := by decide +kernel
  obtain ⟨start, hstart, hids⟩ := Option.map_eq_some_iff.mp hids
  refine ⟨start, hstart, ?_⟩
  rw [hids]
  decide

end Integrity

end LocalMap

end Netherwick.Map

import Netherwick.Lib.SortedMap
import Netherwick.Map.PoseGraph

/-! # The local map

Every observation is matched against the grid, may add a node to the pose graph, leaves a submap of
its beams at the latest node, and has the grid drawn again from the submaps that are kept. What has
not been seen for long decays after an observation of `observe_now` or `observe_snapshot`. -/

namespace Netherwick.Map

open Netherwick.Lib

structure OccupancyCell where
  key : CellKey
  occupiedScore : ℚ
  freeScore : ℚ
  confidence : ℚ
  lastSeenMs : Nat
  deriving DecidableEq

/-- An observation; of its source snapshot only the frame id is read. -/
structure MapObservation where
  pose : PoseEstimate
  rangeBeams : List RangeBeam
  frameId : Option String
  tMs : Nat
  deriving DecidableEq

structure OccupancySubmap where
  id : String
  nodeId : String
  localPose : Pose2
  rangeBeams : List RangeBeam
  tMs : Nat
  sourceFrameId : Option String
  deriving DecidableEq

structure RemapSummary where
  generation : Nat := 0
  submaps : Nat := 0
  cells : Nat := 0
  occupiedCells : Nat := 0
  freeCells : Nat := 0
  latestTMs : Option Nat := none
  deriving DecidableEq

structure MapConfig where
  resolutionM : ℚ := 0.1
  maxRangeM : ℚ := 4
  freeIncrement : ℚ := 0.18
  occupiedIncrement : ℚ := 0.35
  decayAfterMs : Nat := 10000
  decayPerTick : ℚ := 0.04
  maxPoseHistory : Nat := 1000
  maxObservations : Nat := 250
  maxSubmaps : Nat := 250
  scanMatchEnabled : Bool := true
  scanMatchXyWindowM : ℚ := 0.18
  scanMatchThetaWindowRad : ℚ := toRadians 8
  scanMatchMinOccupiedCells : Nat := 4
  scanMatchMinHitBeams : Nat := 2
  poseGraphMinNodeDistanceM : ℚ := 0.2
  poseGraphMinNodeHeadingDeltaRad : ℚ := toRadians 10
  poseGraphMaxTicksBetweenNodes : Nat := 8
  poseGraphOptimizeEnabled : Bool := true
  poseGraphOptimizeIterations : Nat := 12
  poseGraphOptimizeStep : ℚ := 0.45
  poseGraphMinLoopConfidence : ℚ := 0.85
  poseGraphLoopTargetMaxDistanceM : ℚ := 0.75
  poseGraphLoopMinGeometricOverlap : ℚ := 0.4

abbrev Cells : Type := SortedMap CellKey OccupancyCell

structure LocalMap where
  cells : Cells
  poseHistory : List PoseEstimate
  observations : List MapObservation
  submaps : List OccupancySubmap
  poseGraph : PoseGraph
  poseGraphOptimization : PoseGraphOptimizationSummary
  remapSummary : RemapSummary
  config : MapConfig
  poseGraphTicksSinceNode : Nat

/-- The oldest go where there are too many. -/
def capVec {α : Type} (maxLen : Nat) (items : List α) : List α :=
  if maxLen = 0 then [] else items.drop (items.length - maxLen)

def sourceFrameIdFromObservation (observation : MapObservation) : Option String :=
  observation.frameId.or (some ("t:" ++ toString observation.tMs))

structure ScanMatchCorrection where
  pose : Pose2
  odometryPose : Pose2
  score : ℚ
  odometryScore : ℚ
  confidenceBoost : ℚ
  covarianceScale : ℚ

section Cells

variable (config : MapConfig)

/-- The cell of a key, a new one where there is none, changed. -/
def updateCell (key : CellKey) (tMs : Nat) (f : OccupancyCell → OccupancyCell) (cells : Cells) :
    Cells :=
  cells.insert key (f ((cells.get? key).getD
    { key, occupiedScore := 0, freeScore := 0, confidence := 0, lastSeenMs := tMs }))

def seenAs (cell : OccupancyCell) (freeScore occupiedScore : ℚ) (tMs : Nat) : OccupancyCell :=
  { cell with
    freeScore
    occupiedScore
    confidence := clamp 0 1 (max freeScore occupiedScore)
    lastSeenMs := tMs }

def bumpFree (key : CellKey) (tMs : Nat) (confidence : ℚ) : Cells → Cells :=
  let increment := config.freeIncrement * clamp 0 1 confidence
  updateCell key tMs fun cell =>
    seenAs cell (clamp 0 1 (cell.freeScore + increment))
      (max (cell.occupiedScore - increment * 0.25) 0) tMs

def bumpOccupied (key : CellKey) (tMs : Nat) (confidence : ℚ) : Cells → Cells :=
  let increment := config.occupiedIncrement * clamp 0 1 confidence
  updateCell key tMs fun cell =>
    seenAs cell (max (cell.freeScore - increment * 0.2) 0)
      (clamp 0 1 (cell.occupiedScore + increment)) tMs

/-- What a beam does to the grid, cell by cell: whether it is free or occupied. -/
def marksOf (e : Elementary) (pose : Pose2) (beam : RangeBeam) : List (CellKey × Bool) :=
  if beam.distanceM ≤ 0 then [] else
    let distance := min beam.distanceM config.maxRangeM
    let finish := projectBeamEndpoint e pose beam.angleRad distance
    let originKey := cellKey pose.xM pose.yM config.resolutionM
    let endKey := cellKey finish.xM finish.yM config.resolutionM
    let freeEnd := if beam.hit then distance - config.resolutionM else distance
    let free := (traceCells e pose beam.angleRad (max freeEnd 0) config.resolutionM).filter
      fun key => !(beam.hit && key = endKey) && key ≠ originKey
    let occupied :=
      if beam.hit && 0 < beam.confidence && beam.distanceM ≤ config.maxRangeM then [endKey] else []
    free.map (·, false) ++ occupied.map (·, true)

def mark (tMs : Nat) (confidence : ℚ) (cells : Cells) (cell : CellKey × Bool) : Cells :=
  if cell.2 then bumpOccupied config cell.1 tMs confidence cells
  else bumpFree config cell.1 tMs confidence cells

def integrateBeam (e : Elementary) (pose : Pose2) (tMs : Nat) (cells : Cells) (beam : RangeBeam) :
    Cells :=
  (marksOf config e pose beam).foldl (mark config tMs beam.confidence) cells

def isOccupied (cell : OccupancyCell) : Bool := cell.freeScore < cell.occupiedScore

def cellMatchScore (cells : Cells) (key : CellKey) : ℚ :=
  ((cells.get? key).map fun cell =>
    (cell.occupiedScore - cell.freeScore) * clamp 0 1 cell.confidence).getD (-0.08)

def freeMatchScore (cells : Cells) (key : CellKey) : ℚ :=
  ((cells.get? key).map fun cell =>
    (cell.freeScore - cell.occupiedScore) * clamp 0 1 cell.confidence).getD 0.02

/-- Every second element, the first among them. -/
def everySecond {α : Type} : List α → List α
  | [] => []
  | [a] => [a]
  | a :: _ :: rest => a :: everySecond rest

/-- What the beams of a scan score at a pose, each piece of evidence by itself. -/
def scanMatchEvidence (e : Elementary) (cells : Cells) (pose : Pose2) (beam : RangeBeam) : List ℚ :=
  if beam.distanceM ≤ 0 then [] else
    let distance := min beam.distanceM config.maxRangeM
    let finish := projectBeamEndpoint e pose beam.angleRad distance
    let hits :=
      if beam.hit then [cellMatchScore cells (cellKey finish.xM finish.yM config.resolutionM) * 1.5]
      else []
    let freeEnd := if beam.hit then distance - config.resolutionM else distance
    let traced := everySecond
      (traceCells e pose beam.angleRad (max freeEnd 0) config.resolutionM)
    hits ++ traced.map fun key => freeMatchScore cells key * 0.18

def scanMatchScore (e : Elementary) (cells : Cells) (pose : Pose2) (beams : List RangeBeam) : ℚ :=
  let evidence := (beams.filter fun beam => 0 < beam.confidence).flatMap
    (scanMatchEvidence config e cells pose)
  if evidence = [] then 0 else evidence.foldl (· + ·) 0 / evidence.length

/-- From minus `steps` to `steps`. -/
def stepsAround (steps : ℤ) : List ℤ := (List.range (2 * steps + 1).toNat).map fun i => (i : ℤ) - steps

/-- The poses around one, as the three loops go through them. -/
def posesAround (center : Pose2) (xyStep thetaStep : ℚ) (xySteps thetaSteps : ℤ) : List Pose2 :=
  (stepsAround xySteps).flatMap fun ix => (stepsAround xySteps).flatMap fun iy =>
    (stepsAround thetaSteps).map fun itheta =>
      { xM := center.xM + ix * xyStep
        yM := center.yM + iy * xyStep
        headingRad := normalizeAngle (center.headingRad + itheta * thetaStep) }

/-- The first of the best, if it is better than the start by more than the margin. -/
def bestPose (score : Pose2 → ℚ) (margin : ℚ) (start : Pose2) (poses : List Pose2) : Pose2 × ℚ :=
  poses.foldl (fun best pose => if best.2 + margin < score pose then (pose, score pose) else best)
    (start, score start)

def scanMatchPose (e : Elementary) (cells : Cells) (observation : MapObservation) :
    Option ScanMatchCorrection :=
  let occupiedCells := (cells.values.filter fun cell =>
    isOccupied cell && 0.05 < cell.confidence).length
  let hitBeams := (observation.rangeBeams.filter fun beam => beam.hit && 0 < beam.confidence).length
  if !config.scanMatchEnabled || occupiedCells < config.scanMatchMinOccupiedCells ||
      hitBeams < config.scanMatchMinHitBeams then none else
    let odometryPose := observation.pose.pose
    let score := fun pose => scanMatchScore config e cells pose observation.rangeBeams
    let odometryScore := score odometryPose
    let xyStep := max (config.resolutionM * 0.5) 0.025
    let thetaStep := max (config.scanMatchThetaWindowRad / 2) (toRadians 2)
    let xySteps := toI32 ⌈config.scanMatchXyWindowM / xyStep⌉
    let thetaSteps := toI32 ⌈config.scanMatchThetaWindowRad / thetaStep⌉
    let best := bestPose score 0 odometryPose
      (posesAround odometryPose xyStep thetaStep xySteps thetaSteps)
    let improvement := best.2 - odometryScore
    if improvement < 0.2 then none else
      -- a positive improvement over no hit is infinite, and is clamped
      let confidenceBoost :=
        if hitBeams = 0 then 0.12 else clamp 0.02 0.12 (improvement / hitBeams * 0.2)
      some
        { pose := best.1
          odometryPose
          score := best.2
          odometryScore
          confidenceBoost
          covarianceScale := clamp 0.75 0.98 (1 - confidenceBoost) }

def scanMatchedObservation (e : Elementary) (cells : Cells) (observation : MapObservation) :
    MapObservation × Option ScanMatchCorrection :=
  match scanMatchPose config e cells observation with
  | none => (observation, none)
  | some correction =>
    let covariance := observation.pose.covariance
    ({ observation with
        pose :=
          { observation.pose with
            pose := correction.pose
            confidence := clamp 0 0.98 (observation.pose.confidence + correction.confidenceBoost)
            covariance :=
              { x := max (covariance.x * correction.covarianceScale) 0.01
                y := max (covariance.y * correction.covarianceScale) 0.01
                heading := max (covariance.heading * correction.covarianceScale) 0.02 }
            source := "odometry+occupancy_scan_match" } },
      some correction)

def loopCandidateGeometricOverlap (e : Elementary) (cells : Cells) (candidatePose : Pose2)
    (observation : MapObservation) : ℚ :=
  let hits := observation.rangeBeams.filter fun beam =>
    beam.hit && 0 < beam.confidence && 0 < beam.distanceM
  let matchedHits := hits.filter fun beam =>
    let finish := projectBeamEndpoint e candidatePose beam.angleRad
      (min beam.distanceM config.maxRangeM)
    (cells.get? (cellKey finish.xM finish.yM config.resolutionM)).any fun cell =>
      isOccupied cell && 0.05 ≤ cell.confidence
  if hits = [] then 0 else matchedHits.length / hits.length

def measureLoopRegistration (e : Elementary) (cells : Cells) (targetPose : Pose2)
    (observation : MapObservation) : Option LoopRegistrationMeasurement :=
  if !observation.rangeBeams.any fun beam => beam.hit && 0 < beam.confidence && 0 < beam.distanceM then
    none
  else
    let xyStep := max (config.resolutionM * 0.5) 0.025
    let xyWindow := max config.scanMatchXyWindowM (config.resolutionM * 2)
    let thetaWindow := max config.scanMatchThetaWindowRad (toRadians 10)
    let thetaStep := max (thetaWindow / 2) (toRadians 2)
    let score := fun pose => scanMatchScore config e cells pose observation.rangeBeams
    let best := bestPose score epsilon32 targetPose
      (posesAround targetPose xyStep thetaStep (toI32 ⌈xyWindow / xyStep⌉)
        (toI32 ⌈thetaWindow / thetaStep⌉))
    some
      { algorithm := "correlative_occupancy_submap_registration"
        registeredPose := best.1
        score := best.2
        odometryScore := score observation.pose.pose
        geometricOverlap := loopCandidateGeometricOverlap config e cells best.1 observation
        odometryGeometricOverlap :=
          loopCandidateGeometricOverlap config e cells observation.pose.pose observation }

/-- A step of `min_by`: the first of the nearest stays. -/
def nearer (distance : PoseNode → ℚ) (nearest : Option PoseNode) (node : PoseNode) :
    Option PoseNode :=
  match nearest with
  | none => some node
  | some best => if distance node < distance best then some node else some best

/-- The node whose frame the candidate names, else the nearest that is near enough. -/
def findLiveLoopTarget (e : Elementary) (nodes : List PoseNode)
    (candidate : LoopClosureCandidateInput) (currentId : String) : Option PoseNode :=
  let named := candidate.targetFrameId.bind fun targetFrameId =>
    nodes.find? fun node => node.id ≠ currentId && node.sourceFrameId = some targetFrameId
  let near := nodes.filter fun node => node.id ≠ currentId &&
    distanceM e node.poseEstimate.pose candidate.targetPose ≤ config.poseGraphLoopTargetMaxDistanceM
  named.or (near.foldl
    (nearer fun node => distanceM e node.poseEstimate.pose candidate.targetPose) none)

def liveLoopRejectionReason (e : Elementary) (current : PoseNode) (target : Option PoseNode)
    (registration : Option LoopRegistrationMeasurement) (candidate : LoopClosureCandidateInput) :
    Option String :=
  let targetDistance := distanceM e current.poseEstimate.pose candidate.targetPose
  if candidate.targetFrameId = some current.id || candidate.targetFrameId = current.sourceFrameId then
    some "candidate targets the current/source frame"
  else if candidate.confidence < config.poseGraphMinLoopConfidence then
    some ("confidence " ++ e.fixed3 candidate.confidence ++ " below gate " ++
      e.fixed3 config.poseGraphMinLoopConfidence)
  else if config.poseGraphLoopTargetMaxDistanceM < targetDistance then
    some ("target pose " ++ e.fixed3 targetDistance ++ "m from current pose exceeds gate " ++
      e.fixed3 config.poseGraphLoopTargetMaxDistanceM ++ "m")
  else if target.isNone then some "no prior node close enough to candidate target"
  else match registration with
    | none => some "scan/submap registration produced no measured constraint"
    | some registration =>
      if registration.geometricOverlap < config.poseGraphLoopMinGeometricOverlap then
        some ("geometric occupancy agreement " ++ e.fixed3 registration.geometricOverlap ++
          " below gate " ++ e.fixed3 config.poseGraphLoopMinGeometricOverlap)
      else none

def loopCovariance (confidence : ℚ) : Covariance :=
  let uncertainty := max (1 - clamp 0 1 confidence) 0.05
  { x := uncertainty * 0.2, y := uncertainty * 0.2, heading := uncertainty * 0.35 }

def liveLoopEdge (e : Elementary) (cells : Cells) (nodes : List PoseNode) (current : PoseNode)
    (observation : MapObservation) (candidate : LoopClosureCandidateInput) : PoseEdge :=
  let target := findLiveLoopTarget config e nodes candidate current.id
  let registration := target.bind fun target =>
    measureLoopRegistration config e cells target.poseEstimate.pose observation
  let rejectionReason := liveLoopRejectionReason config e current target registration candidate
  { «from» := current.id
    «to» := (target.map PoseNode.id).getD "unresolved"
    transform :=
      match target, registration with
      | some target, some registration =>
        poseDelta e registration.registeredPose target.poseEstimate.pose
      | some target, none => poseDelta e current.poseEstimate.pose target.poseEstimate.pose
      | none, _ => poseDelta e current.poseEstimate.pose candidate.targetPose
    covariance := loopCovariance candidate.confidence
    confidence := clamp 0 1 candidate.confidence
    source := .loopClosureCandidate candidate.toLoopOrigin registration
    active := rejectionReason.isNone
    rejectionReason }

end Cells

namespace LocalMap

section Observing

variable (e : Elementary) (self : LocalMap)

def new (config : MapConfig) : Option LocalMap :=
  if 0 < config.resolutionM then
    some
      { cells := .empty
        poseHistory := []
        observations := []
        submaps := []
        poseGraph := {}
        poseGraphOptimization := {}
        remapSummary := {}
        config
        poseGraphTicksSinceNode := 0 }
  else none

def shouldAddLivePoseNode (pose : Pose2) : Bool :=
  match self.poseGraph.nodes.getLast? with
  | none => true
  | some last =>
    self.config.poseGraphMinNodeDistanceM ≤ distanceM e last.poseEstimate.pose pose ||
      self.config.poseGraphMinNodeHeadingDeltaRad ≤
        headingDeltaRad last.poseEstimate.pose.headingRad pose.headingRad ||
      max self.config.poseGraphMaxTicksBetweenNodes 1 ≤ self.poseGraphTicksSinceNode

def trackEdge (previous : PoseNode) (id : String) (observation : MapObservation)
    (scanMatch : Option ScanMatchCorrection) : PoseEdge where
  «from» := previous.id
  «to» := id
  transform := poseDelta e previous.poseEstimate.pose observation.pose.pose
  covariance :=
    match scanMatch with
    | some _ => observation.pose.covariance
    | none => { x := 0.08, y := 0.08, heading := 0.15 }
  confidence :=
    match scanMatch with
    | some _ => observation.pose.confidence
    | none => min observation.pose.confidence 0.85
  source :=
    match scanMatch with
    | some found =>
      .scanMatch "correlative_occupancy_grid" found.score found.odometryScore
    | none => .odometry
  active := true
  rejectionReason := none

def livePoseId (count : Nat) : String := "live-pose-" ++ toString count

def addLivePoseNode (observation : MapObservation) (scanMatch : Option ScanMatchCorrection) :
    LocalMap :=
  let nodes := self.poseGraph.nodes
  let id := livePoseId nodes.length
  { self with
    poseGraph :=
      { nodes := nodes ++
          [{ id
             poseEstimate := observation.pose
             tMs := observation.tMs
             sourceFrameId := sourceFrameIdFromObservation observation }]
        edges := self.poseGraph.edges ++
          (nodes.getLast?.map fun previous => trackEdge e previous id observation scanMatch).toList }
    poseGraphTicksSinceNode := 0 }

def addLiveLoopCandidate (currentNodeId : String) (observation : MapObservation) (map : LocalMap)
    (candidate : LoopClosureCandidateInput) : LocalMap :=
  match map.poseGraph.nodes.find? fun node => node.id = currentNodeId with
  | none => map
  | some current =>
    { map with
      poseGraph :=
        { map.poseGraph with
          edges := map.poseGraph.edges ++
            [liveLoopEdge map.config e map.cells map.poseGraph.nodes current observation
              candidate] } }

def updatePoseGraph (observation : MapObservation) (scanMatch : Option ScanMatchCorrection)
    (loopCandidates : List LoopClosureCandidateInput) : LocalMap × Option String :=
  let ticked := { self with poseGraphTicksSinceNode := self.poseGraphTicksSinceNode + 1 }
  if !ticked.shouldAddLivePoseNode e observation.pose.pose then
    (ticked, ticked.poseGraph.nodes.getLast?.map PoseNode.id)
  else
    let id := livePoseId ticked.poseGraph.nodes.length
    (loopCandidates.foldl (addLiveLoopCandidate e id observation)
      (ticked.addLivePoseNode e observation scanMatch), some id)

def optimizePoseGraph : LocalMap :=
  if !self.config.poseGraphOptimizeEnabled then { self with poseGraphOptimization := {} } else
    let (poseGraph, poseGraphOptimization) := self.poseGraph.optimizeAnchored e
      { iterations := self.config.poseGraphOptimizeIterations
        stepSize := self.config.poseGraphOptimizeStep }
    { self with poseGraph, poseGraphOptimization }

def submapId (count : Nat) : String := "submap-" ++ toString count

def storeSubmap (observation : MapObservation) (poseNodeId : Option String) : LocalMap :=
  match poseNodeId.bind fun nodeId => self.poseGraph.nodes.find? fun node => node.id = nodeId with
  | none => self
  | some node =>
    { self with
      submaps := capVec self.config.maxSubmaps (self.submaps ++
        [{ id := submapId self.submaps.length
           nodeId := node.id
           localPose := poseDelta e node.poseEstimate.pose observation.pose.pose
           rangeBeams := observation.rangeBeams
           tMs := observation.tMs
           sourceFrameId := sourceFrameIdFromObservation observation }]) }

/-- The beams of a submap, drawn from where its node is now. -/
def drawSubmap (config : MapConfig) (nodes : List PoseNode) (cells : Cells)
    (submap : OccupancySubmap) : Cells :=
  match nodes.find? fun node => node.id = submap.nodeId with
  | none => cells
  | some node =>
    let pose := applyPoseDelta e node.poseEstimate.pose submap.localPose
    submap.rangeBeams.foldl (integrateBeam config e pose submap.tMs) cells

/-- The grid as the submaps give it. -/
def drawn (config : MapConfig) (nodes : List PoseNode) (submaps : List OccupancySubmap) : Cells :=
  submaps.foldl (drawSubmap e config nodes) .empty

def remapped (cells : Cells) : RemapSummary where
  generation := self.remapSummary.generation + 1
  submaps := self.submaps.length
  cells := cells.values.length
  occupiedCells := (cells.values.filter fun cell => isOccupied cell && 0 < cell.confidence).length
  freeCells := (cells.values.filter fun cell => !isOccupied cell && 0 < cell.confidence).length
  latestTMs := (self.submaps.map OccupancySubmap.tMs).max?

def rebuildOccupancyFromSubmaps : LocalMap :=
  let cells := drawn e self.config self.poseGraph.nodes self.submaps
  { self with cells, remapSummary := self.remapped cells }

def isStale (nowMs : Nat) (cell : OccupancyCell) : Bool :=
  self.config.decayAfterMs < nowMs - cell.lastSeenMs

def decayed (nowMs : Nat) (cell : OccupancyCell) : OccupancyCell :=
  if !self.isStale nowMs cell then cell else
    let occupiedScore := max (cell.occupiedScore - self.config.decayPerTick) 0
    let freeScore := max (cell.freeScore - self.config.decayPerTick) 0
    { cell with occupiedScore, freeScore, confidence := clamp 0 1 (max occupiedScore freeScore) }

def decayStale (nowMs : Nat) : LocalMap :=
  { self with
    cells := (self.cells.mapValues (self.decayed nowMs)).retain fun cell => 0.001 < cell.confidence }

/-- The observation at the pose of the latest node, if that is of the same time. -/
def settled (observation : MapObservation) : MapObservation :=
  match self.poseGraph.nodes.getLast? with
  | none => observation
  | some latest =>
    if latest.tMs = observation.tMs then
      { observation with
        pose :=
          { observation.pose with
            pose := latest.poseEstimate.pose
            confidence := max observation.pose.confidence latest.poseEstimate.confidence } }
    else observation

def record (observation : MapObservation) (poseNodeId : Option String) : LocalMap :=
  let posed :=
    { self with
      poseHistory := capVec self.config.maxPoseHistory (self.poseHistory ++ [observation.pose]) }
  let stored := posed.storeSubmap e observation poseNodeId
  LocalMap.rebuildOccupancyFromSubmaps e
    { stored with
      observations := capVec self.config.maxObservations (stored.observations ++ [observation]) }

def integrateObservationWithLoopCandidates (observation : MapObservation)
    (loopCandidates : List LoopClosureCandidateInput) : LocalMap :=
  let (observation, scanMatch) := scanMatchedObservation self.config e self.cells observation
  let (updated, poseNodeId) := self.updatePoseGraph e observation scanMatch loopCandidates
  let optimized := updated.optimizePoseGraph e
  optimized.record e (optimized.settled observation) poseNodeId

/-- `observe_now` and `observe_snapshot`, of the observation that they make of the senses. -/
def observe (observation : MapObservation) : LocalMap :=
  (self.integrateObservationWithLoopCandidates e observation []).decayStale observation.tMs

end Observing

end LocalMap

end Netherwick.Map

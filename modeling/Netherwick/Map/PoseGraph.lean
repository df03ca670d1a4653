import Netherwick.Map.Geometry

/-! # The pose graph

Nodes at the poses where the robot was, edges between them, and `optimize_anchored`, which moves every
node but the first towards what the active edges say. -/

namespace Netherwick.Map

structure Covariance where
  x : ℚ
  y : ℚ
  heading : ℚ
  deriving DecidableEq

structure PoseEstimate where
  pose : Pose2
  confidence : ℚ
  covariance : Covariance
  source : String
  tMs : Nat
  deriving DecidableEq

structure PoseNode where
  id : String
  poseEstimate : PoseEstimate
  tMs : Nat
  sourceFrameId : Option String
  deriving DecidableEq

structure LoopRegistrationMeasurement where
  algorithm : String
  registeredPose : Pose2
  score : ℚ
  odometryScore : ℚ
  geometricOverlap : ℚ
  odometryGeometricOverlap : ℚ
  deriving DecidableEq

/-- What a candidate says of where it comes from; an edge carries it on. -/
structure LoopOrigin where
  kind : String
  targetFrameId : Option String := none
  sourceFrameId : Option String := none
  sourceExperienceId : Option String := none
  sourceInstantFrameId : Option String := none
  sourceVectorRefs : List String := []
  sourceVectorId : Option String := none
  queryVectorId : Option String := none
  queryExperienceId : Option String := none
  deriving DecidableEq

structure LoopClosureCandidateInput extends LoopOrigin where
  targetPose : Pose2
  confidence : ℚ
  similarity : ℚ
  deriving DecidableEq

inductive PoseEdgeSource
  | odometry
  | scanMatch (algorithm : String) (score odometryScore : ℚ)
  | loopClosureCandidate (origin : LoopOrigin) (registration : Option LoopRegistrationMeasurement)
  deriving DecidableEq

structure PoseEdge where
  «from» : String
  «to» : String
  transform : Pose2
  covariance : Covariance
  confidence : ℚ
  source : PoseEdgeSource
  active : Bool
  rejectionReason : Option String
  deriving DecidableEq

@[ext] structure PoseGraph where
  nodes : List PoseNode := []
  edges : List PoseEdge := []
  deriving DecidableEq

structure PoseGraphOptimizationConfig where
  iterations : Nat := 12
  stepSize : ℚ := 0.45
  maxTranslationUpdateM : ℚ := 0.12
  maxHeadingUpdateRad : ℚ := toRadians 8
  convergenceEpsilon : ℚ := 0.0005

structure PoseGraphOptimizationSummary where
  iterations : Nat := 0
  initialMeanError : ℚ := 0
  finalMeanError : ℚ := 0
  maxNodeUpdateM : ℚ := 0
  optimizedNodes : Nat := 0
  activeEdges : Nat := 0
  converged : Bool := false
  deriving DecidableEq

def PoseNode.withPose (node : PoseNode) (pose : Pose2) : PoseNode :=
  { node with poseEstimate := { node.poseEstimate with pose } }

section Optimizing

variable (e : Elementary)

def edgeConstraintWeight (edge : PoseEdge) : ℚ :=
  let positive := [edge.covariance.x, edge.covariance.y, edge.covariance.heading].filter (0 < ·)
  let covariance := positive.foldl (· + ·) 0 / 3
  let covarianceWeight := 1 / (1 + max covariance 0.001 * 4)
  clamp 0.01 1 (clamp 0.05 1 edge.confidence * covarianceWeight)

def clampPoseUpdate (config : PoseGraphOptimizationConfig) (update : Pose2) : Pose2 :=
  let translation := e.hypot update.xM update.yM
  let scale :=
    if config.maxTranslationUpdateM < translation && epsilon32 < translation then
      config.maxTranslationUpdateM / translation
    else 1
  { xM := update.xM * scale
    yM := update.yM * scale
    headingRad :=
      clamp (-config.maxHeadingUpdateRad) config.maxHeadingUpdateRad update.headingRad }

namespace PoseGraph

/-- The index of each id, that of the last node where an id is there twice. -/
def nodeIndices (nodes : List PoseNode) : List (String × Nat) :=
  (nodes.mapIdx fun index node => (node.id, index)).reverse

def activeEdges (graph : PoseGraph) : List PoseEdge := graph.edges.filter PoseEdge.active

/-- An edge with the indices and the poses of its ends, where it has both. -/
def joined (nodes : List PoseNode) (edge : PoseEdge) :
    Option (PoseEdge × (Nat × Pose2) × (Nat × Pose2)) := do
  let fromIndex ← (nodeIndices nodes).lookup edge.from
  let toIndex ← (nodeIndices nodes).lookup edge.to
  let fromNode ← nodes[fromIndex]?
  let toNode ← nodes[toIndex]?
  pure (edge, (fromIndex, fromNode.poseEstimate.pose), (toIndex, toNode.poseEstimate.pose))

def pulled (corrections : List (Pose2 × ℚ)) (index : Nat) (x y heading weight : ℚ) :
    List (Pose2 × ℚ) :=
  if index = 0 then corrections else
    corrections.modify index fun correction =>
      ({ xM := correction.1.xM + x
         yM := correction.1.yM + y
         headingRad := correction.1.headingRad + heading }, correction.2 + weight)

/-- One edge pulls its ends together. -/
def constrain (stepSize : ℚ) (corrections : List (Pose2 × ℚ))
    (joint : PoseEdge × (Nat × Pose2) × (Nat × Pose2)) : List (Pose2 × ℚ) :=
  let (edge, (fromIndex, fromPose), (toIndex, toPose)) := joint
  if fromIndex = toIndex then corrections else
    let predictedTo := applyPoseDelta e fromPose edge.transform
    let residual := poseDelta e predictedTo toPose
    let predictedSin := e.sin predictedTo.headingRad
    let predictedCos := e.cos predictedTo.headingRad
    let residualWorldX := predictedCos * residual.xM - predictedSin * residual.yM
    let residualWorldY := predictedSin * residual.xM + predictedCos * residual.yM
    let weight := edgeConstraintWeight edge * stepSize
    pulled
      (pulled corrections toIndex (-(residualWorldX * weight)) (-(residualWorldY * weight))
        (-(residual.headingRad * weight)) weight)
      fromIndex (residualWorldX * weight) (residualWorldY * weight)
      (residual.headingRad * weight) weight

def correctionsOf (stepSize : ℚ) (nodes : List PoseNode) (edges : List PoseEdge) :
    List (Pose2 × ℚ) :=
  (edges.filterMap (joined nodes)).foldl (constrain e stepSize)
    (List.replicate nodes.length ({}, 0))

/-- What a node is moved by: the first by nothing. -/
def updateOf (config : PoseGraphOptimizationConfig) (corrections : List (Pose2 × ℚ)) (index : Nat) :
    Option Pose2 := do
  let (correction, weight) ← corrections[index]?
  if index = 0 || weight ≤ 0 then none else
    some (clampPoseUpdate e config
      { xM := correction.xM / weight
        yM := correction.yM / weight
        headingRad := normalizeAngle (correction.headingRad / weight) })

def moved (pose correction : Pose2) : Pose2 where
  xM := pose.xM + correction.xM
  yM := pose.yM + correction.yM
  headingRad := normalizeAngle (pose.headingRad + correction.headingRad)

def relaxed (config : PoseGraphOptimizationConfig) (edges : List PoseEdge) (nodes : List PoseNode) :
    List PoseNode :=
  nodes.mapIdx fun index node =>
    ((updateOf e config (correctionsOf e config.stepSize nodes edges) index).map fun correction =>
      node.withPose (moved node.poseEstimate.pose correction)).getD node

def largestUpdate (config : PoseGraphOptimizationConfig) (edges : List PoseEdge)
    (nodes : List PoseNode) : ℚ :=
  ((List.range nodes.length).filterMap
    (updateOf e config (correctionsOf e config.stepSize nodes edges))).foldl
      (fun largest correction => max largest (e.sqrt (correction.xM ^ 2 + correction.yM ^ 2))) 0

/-- The iterations: the nodes, the largest update of any, how many there were, and whether the last
moved nothing any more. -/
def iterate (config : PoseGraphOptimizationConfig) (edges : List PoseEdge) :
    Nat → List PoseNode → ℚ → Nat → List PoseNode × ℚ × Nat × Bool
  | 0, nodes, largest, count => (nodes, largest, count, false)
  | left + 1, nodes, largest, count =>
    let update := largestUpdate e config edges nodes
    if update < config.convergenceEpsilon then
      (relaxed e config edges nodes, max largest update, count + 1, true)
    else iterate config edges left (relaxed e config edges nodes) (max largest update) (count + 1)

def meanEdgeError (nodes : List PoseNode) (edges : List PoseEdge) : ℚ :=
  let errors := (edges.filterMap (joined nodes)).map fun joint =>
    let (edge, (_, fromPose), (_, toPose)) := joint
    let residual := poseDelta e (applyPoseDelta e fromPose edge.transform) toPose
    residual.xM ^ 2 + residual.yM ^ 2 + (residual.headingRad * 0.25) ^ 2
  if errors = [] then 0 else e.sqrt (errors.foldl (· + ·) 0 / errors.length)

def optimizeAnchored (graph : PoseGraph) (config : PoseGraphOptimizationConfig) :
    PoseGraph × PoseGraphOptimizationSummary :=
  let edges := graph.activeEdges
  let initialMeanError := meanEdgeError e graph.nodes edges
  if graph.nodes.length < 2 || edges.length = 0 || config.iterations = 0 then
    (graph,
      { iterations := 0
        initialMeanError
        finalMeanError := initialMeanError
        maxNodeUpdateM := 0
        optimizedNodes := graph.nodes.length
        activeEdges := edges.length
        converged := true })
  else
    let (nodes, maxNodeUpdateM, iterations, converged) :=
      iterate e config edges config.iterations graph.nodes 0 0
    ({ graph with nodes },
      { iterations
        initialMeanError
        finalMeanError := meanEdgeError e nodes edges
        maxNodeUpdateM
        optimizedNodes := nodes.length
        activeEdges := edges.length
        converged })

variable {e} {config : PoseGraphOptimizationConfig} {edges : List PoseEdge} {nodes : List PoseNode}
  {graph graph' : PoseGraph}

@[simp] theorem id_withPose (node : PoseNode) (pose : Pose2) : (node.withPose pose).id = node.id := rfl

/-- Optimising moves nodes, but no node becomes another, and the first stays. -/
structure Anchored (nodes nodes' : List PoseNode) : Prop where
  ids : nodes'.map PoseNode.id = nodes.map PoseNode.id
  first : nodes'.head? = nodes.head?

theorem Anchored.refl (nodes : List PoseNode) : Anchored nodes nodes := ⟨rfl, rfl⟩

theorem Anchored.trans {nodes nodes' nodes'' : List PoseNode} (h : Anchored nodes nodes')
    (h' : Anchored nodes' nodes'') : Anchored nodes nodes'' :=
  ⟨h'.ids.trans h.ids, h'.first.trans h.first⟩

theorem updateOf_first (corrections : List (Pose2 × ℚ)) : updateOf e config corrections 0 = none := by
  simp [updateOf]

theorem relaxed_anchored : Anchored nodes (relaxed e config edges nodes) := by
  constructor
  · rw [relaxed]
    apply List.ext_getElem?
    intro index
    rw [List.getElem?_map, List.getElem?_mapIdx, List.getElem?_map]
    cases nodes[index]? with
    | none => rfl
    | some node =>
      cases updateOf e config (correctionsOf e config.stepSize nodes edges) index <;>
        simp
  · rw [relaxed, List.head?_eq_getElem?, List.head?_eq_getElem?, List.getElem?_mapIdx,
      updateOf_first]
    simp

theorem iterate_anchored {left count : Nat} {largest : ℚ} :
    Anchored nodes (iterate e config edges left nodes largest count).1 := by
  induction left generalizing nodes largest count with
  | zero => exact .refl nodes
  | succ left ih =>
    rw [iterate]
    split
    · exact relaxed_anchored
    · exact relaxed_anchored.trans ih

theorem optimizeAnchored_anchored :
    Anchored graph.nodes (graph.optimizeAnchored e config).1.nodes := by
  rw [optimizeAnchored]
  split
  · exact .refl _
  · exact iterate_anchored

@[simp] theorem edges_optimizeAnchored :
    (graph.optimizeAnchored e config).1.edges = graph.edges := by
  rw [optimizeAnchored]
  split <;> rfl

theorem optimizeAnchored_congr (hnodes : graph.nodes = graph'.nodes)
    (hedges : graph.activeEdges = graph'.activeEdges) :
    (graph.optimizeAnchored e config).1.nodes = (graph'.optimizeAnchored e config).1.nodes ∧
      (graph.optimizeAnchored e config).2 = (graph'.optimizeAnchored e config).2 := by
  simp only [optimizeAnchored, hnodes, hedges]
  split <;> exact ⟨by simp [hnodes], rfl⟩

end PoseGraph

end Optimizing

end Netherwick.Map

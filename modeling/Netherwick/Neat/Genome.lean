import Netherwick.Conductor.Arbiter
import Mathlib.Algebra.Order.Field.Rat
import Mathlib.Data.List.Sort

/-! # Genomes

A genome is a list of node genes and a list of connection genes. Connections carry an innovation
number and hidden nodes an id, which one tracker hands out for the whole population. Layers are
exact rationals here; weights, rates and activities are `f32`. What the random generator returns is
a parameter. -/

namespace Netherwick.Neat

open Netherwick.Conductor (clamp32 totalKey)

/-- A random generator with states `R`: `gen::<f32>()`, `gen::<bool>()`, `gen_range` over an interval
of `f32` and over `0..n + 1`, and the index that `choose` takes among `n + 1` elements. -/
structure Chance (R : Type) where
  unit : R → Float32 × R
  coin : R → Bool × R
  range : Float32 → Float32 → R → Float32 × R
  below : (n : Nat) → R → Fin (n + 1) × R
  pick : (n : Nat) → R → Fin (n + 1) × R

/-- A computation that draws. It returns nothing where the program panics. -/
abbrev Draw (R : Type) : Type → Type := StateT R Option

section Draws

variable {R α : Type} (chance : Chance R)

def gen : Draw R Float32 := fun r => some (chance.unit r)

def genBool : Draw R Bool := fun r => some (chance.coin r)

/-- An empty or an unbounded interval panics. -/
def genRange (low high : Float32) : Draw R Float32 :=
  if low < high ∧ (high - low).isFinite then fun r => some (chance.range low high r)
  else fun _ => none

def choose : List α → Draw R (Option α)
  | [] => pure none
  | first :: rest => fun r =>
    let (index, r) := chance.pick rest.length r
    some ((first :: rest)[index.val]?, r)

end Draws

inductive NodeKind
  | input | bias | hidden | output
  deriving DecidableEq, Repr

structure NodeGene where
  id : Nat
  kind : NodeKind
  layer : ℚ
  deriving DecidableEq

inductive PlasticityMode
  | fixed | hebbian | antiHebbian | rewardModulated | habituating
  deriving DecidableEq, Repr

structure ConnectionGene where
  innovation : Nat
  «from» : Nat
  «to» : Nat
  weight : Float32
  enabled : Bool := true
  recurrent : Bool := false
  plasticity : PlasticityMode := .fixed
  plasticityRate : Float32 := 0

structure Genome where
  inputCount : Nat
  outputCount : Nat
  nodes : List NodeGene
  connections : List ConnectionGene

/-- The maps of a network at work, the newest entry first. -/
structure GenomeState where
  values : List (Nat × Float32) := []
  effectiveWeights : List (Nat × Float32) := []
  lastActivity : List (Nat × (Float32 × Float32)) := []

structure NeatConfig where
  populationSize : Nat := 64
  compatibilityThreshold : Float32 := 3
  excessCoefficient : Float32 := 1
  disjointCoefficient : Float32 := 1
  weightCoefficient : Float32 := 0.4
  weightMutationRate : Float32 := 0.8
  weightResetRate : Float32 := 0.1
  weightPerturbation : Float32 := 0.35
  plasticityMutationRate : Float32 := 0.04
  addConnectionRate : Float32 := 0.08
  addRecurrentConnectionRate : Float32 := 0.03
  addNodeRate : Float32 := 0.03
  crossoverRate : Float32 := 0.75
  elitism : Nat := 2
  interspeciesMatingRate : Float32 := 0.005
  speciesStagnationGenerations : Nat := 15

def finiteOrZero (value : Float32) : Float32 := if value.isFinite then value else 0

/-- The sum of an iterator of `f32`, which starts from minus zero. -/
def sum32 (values : List Float32) : Float32 := values.foldl (· + ·) (-0.0)

def NodeKind.isSource (kind : NodeKind) : Bool := kind = .input || kind = .bias

/-- What an innovation number stands for. -/
abbrev ConnectionKey : Type := Nat × Nat × Bool

def ConnectionGene.key (gene : ConnectionGene) : ConnectionKey := (gene.from, gene.to, gene.recurrent)

structure InnovationTracker where
  nextInnovation : Nat
  nextNodeId : Nat
  connections : List (ConnectionKey × Nat)
  splitNodes : List (Nat × Nat)

/-- A computation that draws and numbers what is new. -/
abbrev Breed (R : Type) : Type → Type := StateT InnovationTracker (Draw R)

/-- A counter of `bits` bits moves on; past its last value it panics. -/
def increment (bits count : Nat) : Option Nat :=
  if count + 1 < 2 ^ bits then some (count + 1) else none

namespace InnovationTracker

def new (firstNodeId : Nat) : InnovationTracker :=
  { nextInnovation := 0, nextNodeId := firstNodeId, connections := [], splitNodes := [] }

variable (tracker : InnovationTracker)

def connection (key : ConnectionKey) : Option (Nat × InnovationTracker) :=
  match tracker.connections.lookup key with
  | some innovation => some (innovation, tracker)
  | none =>
    (increment 64 tracker.nextInnovation).map fun next =>
      (tracker.nextInnovation,
        { tracker with
          nextInnovation := next
          connections := (key, tracker.nextInnovation) :: tracker.connections })

def splitNode (innovation : Nat) : Option (Nat × InnovationTracker) :=
  match tracker.splitNodes.lookup innovation with
  | some id => some (id, tracker)
  | none =>
    (increment 32 tracker.nextNodeId).map fun next =>
      (tracker.nextNodeId,
        { tracker with
          nextNodeId := next
          splitNodes := (innovation, tracker.nextNodeId) :: tracker.splitNodes })

end InnovationTracker

section Numbering

variable {R : Type}

def innovationOf (key : ConnectionKey) : Breed R Nat := fun tracker =>
  liftM (tracker.connection key)

def nodeSplitting (innovation : Nat) : Breed R Nat := fun tracker =>
  liftM (tracker.splitNode innovation)

end Numbering

namespace Genome

section Activation

variable (self : Genome)

/-- The order of `total_cmp` on the layers, then that of the ids. -/
def ordered : List NodeGene :=
  self.nodes.insertionSort fun left right =>
    left.layer < right.layer ∨ (left.layer = right.layer ∧ left.id ≤ right.id)

/-- The connections that drive a node. -/
def incoming (id : Nat) : List ConnectionGene :=
  self.connections.filter fun edge => edge.enabled && edge.to == id

/-- What a connection reads: through a recurrent one the last activation's value, through any other
the value of this one so far. -/
def sourceValue (state : GenomeState) (values : List (Nat × Float32)) (edge : ConnectionGene) : Float32 :=
  if edge.recurrent then (state.values.lookup edge.from).getD 0
  else (values.lookup edge.from).getD 0

def edgeWeight (state : GenomeState) (edge : ConnectionGene) : Float32 :=
  (state.effectiveWeights.lookup edge.innovation).getD edge.weight

/-- The activity of a node, given the values so far. -/
def post (state : GenomeState) (values : List (Nat × Float32)) (id : Nat) : Float32 :=
  (sum32 ((self.incoming id).map fun edge =>
    sourceValue state values edge * edgeWeight state edge)).tanh

/-- One turn of the loop over the ordered nodes: the values and what the plasticity will read. -/
def compute (state : GenomeState)
    (progress : List (Nat × Float32) × List (Nat × (Float32 × Float32))) (node : NodeGene) :
    List (Nat × Float32) × List (Nat × (Float32 × Float32)) :=
  if node.kind.isSource then progress else
    let activity := self.post state progress.1 node.id
    ((node.id, activity) :: progress.1,
      (self.incoming node.id).foldl (fun last edge =>
        (edge.innovation, (sourceValue state progress.1 edge, activity)) :: last) progress.2)

/-- What is known before the first node is computed: the inputs and the bias. -/
def given (inputs : List Float32) : List (Nat × Float32) :=
  (self.inputCount, 1) ::
    (inputs.mapIdx fun index value => (index, finiteOrZero value)).reverse

def activateStateful (inputs : List Float32) (state : GenomeState) :
    Except String (List Float32 × GenomeState) :=
  if inputs.length ≠ self.inputCount then
    .error ("NEAT input mismatch: genome expects " ++ toString self.inputCount ++ ", received " ++
      toString inputs.length)
  else
    let (values, lastActivity) :=
      self.ordered.foldl (self.compute state) (self.given inputs, state.lastActivity)
    let firstOutput := self.inputCount + 1
    let output := (List.range self.outputCount).map fun index =>
      (values.lookup (firstOutput + index)).getD 0
    .ok (output, { state with values, lastActivity })

end Activation

section Compatibility

variable (self other : Genome)

/-- The gene of an innovation, as collecting the connections into a map keeps it: the last one. -/
def gene (innovation : Nat) : Option ConnectionGene :=
  self.connections.findRev? fun gene => gene.innovation == innovation

def maxInnovation : Nat := (self.connections.map ConnectionGene.innovation).foldl Nat.max 0

structure Tally where
  excess : Nat := 0
  disjoint : Nat := 0
  matching : Nat := 0
  weightDelta : Float32 := 0

def compare (tally : Tally) (innovation : Nat) : Tally :=
  match self.gene innovation, other.gene innovation with
  | some a, some b =>
    { tally with
      matching := tally.matching + 1
      weightDelta := tally.weightDelta + (a.weight - b.weight).abs }
  | some _, none =>
    if other.maxInnovation < innovation then { tally with excess := tally.excess + 1 }
    else { tally with disjoint := tally.disjoint + 1 }
  | none, some _ =>
    if self.maxInnovation < innovation then { tally with excess := tally.excess + 1 }
    else { tally with disjoint := tally.disjoint + 1 }
  | none, none => tally

def compatibilityDistance (config : NeatConfig) : Float32 :=
  let innovations :=
    (((self.connections ++ other.connections).map ConnectionGene.innovation).eraseDups).insertionSort
      (· ≤ ·)
  let tally := innovations.foldl (compare self other) {}
  let size := Float32.ofNat (Nat.max (Nat.max self.connections.length other.connections.length) 1)
  config.excessCoefficient * Float32.ofNat tally.excess / size
    + config.disjointCoefficient * Float32.ofNat tally.disjoint / size
    + config.weightCoefficient
      * (if tally.matching = 0 then 0 else tally.weightDelta / Float32.ofNat tally.matching)

/-- The derived comparison: layers, ids and numbers as they are, weights and rates as `f32`. -/
def beq : Bool :=
  self.inputCount == other.inputCount && self.outputCount == other.outputCount
    && decide (self.nodes = other.nodes)
    && self.connections.length == other.connections.length
    && (self.connections.zip other.connections).all fun (a, b) =>
      a.innovation == b.innovation && decide (a.key = b.key) && a.weight == b.weight
        && a.enabled == b.enabled && decide (a.plasticity = b.plasticity)
        && a.plasticityRate == b.plasticityRate

end Compatibility

section Breeding

variable {R : Type} (chance : Chance R)

def minimalConnection (key : Nat × Nat) : Breed R ConnectionGene := do
  let innovation ← innovationOf (key.1, key.2, false)
  let weight ← genRange chance (-1) 1
  pure { innovation, «from» := key.1, «to» := key.2, weight }

def minimalNodes (inputCount outputCount : Nat) : List NodeGene :=
  (List.range inputCount).map (fun id => { id, kind := .input, layer := 0 })
    ++ { id := inputCount, kind := .bias, layer := 0 }
    :: (List.range outputCount).map fun index =>
      { id := inputCount + 1 + index, kind := .output, layer := 1 }

def minimalKeys (inputCount outputCount : Nat) : List (Nat × Nat) :=
  (List.range (inputCount + 1)).flatMap fun source =>
    (List.range outputCount).map fun index => (source, inputCount + 1 + index)

def minimal (inputCount outputCount : Nat) : Breed R Genome := do
  let connections ← (minimalKeys inputCount outputCount).mapM (minimalConnection chance)
  pure { inputCount, outputCount, nodes := minimalNodes inputCount outputCount, connections }

def plasticityModes : List PlasticityMode :=
  [.fixed, .hebbian, .antiHebbian, .rewardModulated, .habituating]

def mutateWeight (config : NeatConfig) (connection : ConnectionGene) : Draw R ConnectionGene := do
  let hit ← gen chance
  if hit < config.weightMutationRate then
    let reset ← gen chance
    if reset < config.weightResetRate then
      let weight ← genRange chance (-1) 1
      pure { connection with weight }
    else
      let change ← genRange chance (-config.weightPerturbation) config.weightPerturbation
      pure { connection with weight := clamp32 (connection.weight + change) (-5) 5 }
  else pure connection

def mutatePlasticity (config : NeatConfig) (connection : ConnectionGene) : Draw R ConnectionGene := do
  let hit ← gen chance
  if hit < config.plasticityMutationRate then
    let chosen ← choose chance plasticityModes
    let plasticity := chosen.getD .fixed
    if plasticity = .fixed then pure { connection with plasticity, plasticityRate := 0 }
    else
      let plasticityRate ← genRange chance 0.001 0.05
      pure { connection with plasticity, plasticityRate }
  else if connection.plasticity ≠ .fixed then
    let drift ← gen chance
    if drift < config.weightMutationRate then
      let change ← genRange chance (-0.01) 0.01
      pure { connection with plasticityRate := clamp32 (connection.plasticityRate + change) 0.001 0.10 }
    else pure connection
  else pure connection

def mutateGene (config : NeatConfig) (connection : ConnectionGene) : Draw R ConnectionGene := do
  let connection ← mutateWeight chance config connection
  mutatePlasticity chance config connection

/-- The pairs of nodes that `allowed` lets connect and that no connection joins yet. -/
def candidates (allowed : NodeGene → NodeGene → Bool) (self : Genome) : List (Nat × Nat) :=
  self.nodes.flatMap fun source =>
    (self.nodes.filter fun target =>
      allowed source target && !target.kind.isSource
        && !self.connections.any fun edge => edge.from == source.id && edge.to == target.id).map
      fun target => (source.id, target.id)

/-- A connection between one of the candidate pairs. -/
def addAmong (recurrent : Bool) (pairs : List (Nat × Nat)) (self : Genome) : Breed R Genome := do
  let chosen ← choose chance pairs
  match chosen with
  | none => pure self
  | some pair =>
    let innovation ← innovationOf (pair.1, pair.2, recurrent)
    let weight ← genRange chance (-1) 1
    let added := { innovation, «from» := pair.1, «to» := pair.2, weight, recurrent }
    pure { self with connections := self.connections ++ [added] }

def mutateAddConnection (self : Genome) : Breed R Genome :=
  addAmong chance false
    (self.candidates fun source target => decide (source.layer < target.layer)) self

def mutateAddRecurrentConnection (self : Genome) : Breed R Genome :=
  addAmong chance true (self.candidates fun _ _ => true) self

/-- Where the connections that can be split stand. -/
def splittable (self : Genome) : List Nat :=
  (self.connections.zipIdx.filter fun (edge, _) => edge.enabled && !edge.recurrent).map Prod.snd

def layerOf (self : Genome) (id : Nat) (default : ℚ) : ℚ :=
  ((self.nodes.find? fun node => node.id == id).map NodeGene.layer).getD default

/-- The node that splits `old`, unless the genome has it. -/
def withSplit (self : Genome) (old : ConnectionGene) (nodeId : Nat) : Genome :=
  if self.nodes.any fun node => node.id == nodeId then self else
    let layer := (self.layerOf old.from 0 + self.layerOf old.to 1) * (1 / 2)
    { self with nodes := self.nodes ++ [{ id := nodeId, kind := .hidden, layer }] }

def renew (innovation : Nat) (weight : Float32) : List ConnectionGene → List ConnectionGene
  | [] => []
  | edge :: rest =>
    if edge.innovation = innovation then
      { edge with enabled := true, weight, recurrent := false, plasticity := .fixed, plasticityRate := 0 }
        :: rest
    else edge :: renew innovation weight rest

/-- A connection of a split: renewed where the genome has it, added where it has not. -/
def joinSplit (source target : Nat) (weight : Float32) (self : Genome) : Breed R Genome := do
  let innovation ← innovationOf (source, target, false)
  if self.connections.any fun edge => edge.innovation == innovation then
    pure { self with connections := renew innovation weight self.connections }
  else
    let added := { innovation, «from» := source, «to» := target, weight }
    pure { self with connections := self.connections ++ [added] }

def split (index : Nat) (self : Genome) : Breed R Genome := do
  let old ← self.connections[index]?
  let connections := self.connections.modify index fun edge => { edge with enabled := false }
  let nodeId ← nodeSplitting old.innovation
  let widened := { self with connections }.withSplit old nodeId
  let entered ← widened.joinSplit old.from nodeId 1
  entered.joinSplit nodeId old.to old.weight

def mutateAddNode (self : Genome) : Breed R Genome := do
  let chosen ← choose chance self.splittable
  match chosen with
  | none => pure self
  | some index => self.split index

def sometimes (rate : Float32) (change : Genome → Breed R Genome) (self : Genome) : Breed R Genome := do
  let hit ← gen chance
  if hit < rate then change self else pure self

def mutate (config : NeatConfig) (self : Genome) : Breed R Genome := do
  let connections ← (self.connections.mapM (mutateGene chance config) : Draw R (List ConnectionGene))
  let self := { self with connections }
  let self ← self.sometimes chance config.addConnectionRate (mutateAddConnection chance)
  let self ← self.sometimes chance config.addRecurrentConnectionRate (mutateAddRecurrentConnection chance)
  self.sometimes chance config.addNodeRate (mutateAddNode chance)

/-- Of two matching genes either; where only the fitter parent has the gene, its own. -/
def inherit (theirs : Option ConnectionGene) (gene : ConnectionGene) : Draw R ConnectionGene := do
  match theirs with
  | none => pure gene
  | some matching =>
    let take ← genBool chance
    pure (if take then matching else gene)

def crossGene (other : Genome) (gene : ConnectionGene) : Draw R ConnectionGene := do
  let theirs := other.gene gene.innovation
  let child ← inherit chance theirs gene
  if !gene.enabled || theirs.any fun matching => !matching.enabled then
    let hit ← gen chance
    pure { child with enabled := decide (0.75 ≤ hit) }
  else pure child

/-- An endpoint that the child's nodes lack, from the other parent. -/
def adopt (other : Genome) (nodes : List NodeGene) (id : Nat) : List NodeGene :=
  if nodes.any fun node => node.id == id then nodes
  else match other.nodes.find? fun node => node.id == id with
    | some node => nodes ++ [node]
    | none => nodes

def crossover (fitter other : Genome) : Draw R Genome := do
  let connections ← fitter.connections.mapM (crossGene chance other)
  let nodes := (connections.flatMap fun edge => [edge.from, edge.to]).foldl (adopt other) fitter.nodes
  pure { fitter with nodes, connections }

end Breeding

end Genome

end Netherwick.Neat

import Netherwick.Neat.Genome

/-! # The population

A population keeps its genomes, the tracker that numbers what they grow, and the species it sorts
them into. `evolve` breeds the next generation species by species, `evolveWithElites` then puts a
protected repertoire back at the tail, and `injectArchiveDescendants` replaces descendants by mutated
founders. -/

namespace Netherwick.Neat

open Netherwick.Conductor (clamp32 max32 totalKey maxBy)

structure SpeciesRecord where
  id : Nat
  representative : Genome
  age : Nat
  bestFitness : Float32
  generationsWithoutImprovement : Nat

structure Population where
  generation : Nat
  genomes : List Genome
  config : NeatConfig
  innovations : InnovationTracker
  speciesRecords : List SpeciesRecord := []
  genomeSpecies : List Nat := []
  nextSpeciesId : Nat := 0

structure SpeciesGeneration where
  id : Nat
  members : List Nat
  adjustedFitness : Float32
  championIndex : Nat
  containsGlobalChampion : Bool

def locomotionInputCount : Nat := 17
def locomotionOutputCount : Nat := 3

def saturatingIncrement64 (count : Nat) : Nat := if count + 1 < 2 ^ 64 then count + 1 else count

def negInfinity32 : Float32 := -1 / 0
def infinity32 : Float32 := 1 / 0

/-- The fitness of a genome. The indices asked for are those of genomes, which have one each. -/
def fitnessOf (fitness : List Float32) (index : Nat) : Float32 := fitness.getD index 0

def compareTotal (left right : Float32) : Ordering := Ord.compare (totalKey left) (totalKey right)

def bestIndex (indices : List Nat) (fitness : List Float32) : Nat :=
  (maxBy (fun left right => compareTotal (fitnessOf fitness left) (fitnessOf fitness right))
    indices).getD 0

/-- `f32::min`. -/
def min32 (a b : Float32) : Float32 :=
  if a.isNaN then b else if b.isNaN then a else if b < a then b else a

/-- What is added to every score so that none is zero or below. -/
def scoreShift (scores : List Float32) : Float32 :=
  let least := scores.foldl min32 infinity32
  if least ≤ 0 then -least + 1.0e-3 else 0

/-- One more for the species at each of the given places. -/
def addOneAt (counts : List Nat) (places : List Nat) : List Nat :=
  places.foldl (fun counts place => counts.modify place (· + 1)) counts

/-- The species in the order in which what is left is dealt out: by fraction, then by place. -/
def byFraction (fractions : List (Nat × Float32)) : List Nat :=
  (fractions.insertionSort fun left right =>
    totalKey right.2 < totalKey left.2 ∨ (totalKey left.2 = totalKey right.2 ∧ left.1 ≤ right.1)).map
      Prod.fst

/-- The first `n` places going round and round. -/
def roundRobin (places : List Nat) (n : Nat) : List Nat :=
  (List.range n).filterMap fun offset => places[offset % places.length]?

def allocateOffspring (scores : List Float32) (populationSize : Nat) : List Nat :=
  if scores = [] || populationSize = 0 then [] else
    let survivorCount := Nat.min scores.length populationSize
    let counts := List.replicate survivorCount 1
    let remaining := populationSize - survivorCount
    if remaining = 0 then counts else
      let usableScores := (scores.take survivorCount).map finiteOrZero
      let shift := scoreShift usableScores
      let total := sum32 (usableScores.map (· + shift))
      if !total.isFinite || total ≤ 0 then
        addOneAt counts (roundRobin (List.range survivorCount) remaining)
      else
        let quotas := usableScores.map fun score => ((score + shift) / total) * Float32.ofNat remaining
        let wholes := quotas.map fun quota => quota.floor.toUInt64.toNat
        let fractions := (quotas.zip wholes).mapIdx fun index quota =>
          (index, quota.1 - Float32.ofNat quota.2)
        addOneAt (List.zipWith (· + ·) counts wholes)
          (roundRobin (byFraction fractions) (remaining - wholes.sum))

section Selecting

variable {R : Type} (chance : Chance R)

def genIndex (indices : List Nat) : Draw R Nat := fun r =>
  let (index, r) := chance.below (indices.length - 1) r
  (indices[index.val]?).map fun found => (found, r)

/-- The first index at which the scores up to it reach the needle. -/
def needleIndex (fitness : List Float32) (shift : Float32) : List Nat → Float32 → Option Nat
  | [], _ => none
  | index :: rest, needle =>
    let needle := needle - (finiteOrZero (fitnessOf fitness index) + shift)
    if needle ≤ 0 then some index else needleIndex fitness shift rest needle

def selectParentFromIndices (indices : List Nat) (fitness : List Float32) : Draw R Nat :=
  if indices = [] then pure 0 else
    let scores := indices.map fun index => finiteOrZero (fitnessOf fitness index)
    let shift := scoreShift scores
    let total := sum32 (scores.map (· + shift))
    if !total.isFinite || total ≤ 0 then genIndex chance indices else do
      let needle ← genRange chance 0 total
      pure ((needleIndex fitness shift indices needle).getD (indices.getLast?.getD 0))

end Selecting

def SpeciesRecord.reviewed (record : SpeciesRecord) (champion : Genome) (rawBestFitness : Float32) :
    SpeciesRecord :=
  let record :=
    { record with age := saturatingIncrement64 record.age, representative := champion }
  if record.bestFitness + 1.0e-6 < rawBestFitness then
    { record with bestFitness := rawBestFitness, generationsWithoutImprovement := 0 }
  else
    { record with
      generationsWithoutImprovement := saturatingIncrement64 record.generationsWithoutImprovement }

namespace Population

section Species

variable (self : Population)

/-- The species of a genome: the first whose representative is near, or a new one. -/
def assign (progress : List SpeciesRecord × Nat × List Nat) (genome : Genome) :
    List SpeciesRecord × Nat × List Nat :=
  let (records, nextId, assigned) := progress
  match records.find? fun record =>
      decide (genome.compatibilityDistance record.representative self.config
        < self.config.compatibilityThreshold) with
  | some record => (records, nextId, assigned ++ [record.id])
  | none =>
    let founded : SpeciesRecord :=
      { id := nextId, representative := genome, age := 0, bestFitness := negInfinity32,
        generationsWithoutImprovement := 0 }
    (records ++ [founded], saturatingIncrement64 nextId, assigned ++ [nextId])

def assignSpeciesMembers : Population :=
  let (records, nextId, assigned) :=
    self.genomes.foldl self.assign (self.speciesRecords, self.nextSpeciesId, [])
  { self with
    genomeSpecies := assigned
    nextSpeciesId := nextId
    speciesRecords := records.filter fun record => assigned.contains record.id }

def ensureSpeciesMembers : Population :=
  if self.speciesRecords.isEmpty || self.genomeSpecies.length ≠ self.genomes.length then
    self.assignSpeciesMembers
  else self

def speciesMemberGroups : List (Nat × List Nat) :=
  (self.genomeSpecies.eraseDups.insertionSort (· ≤ ·)).map fun id =>
    (id, (self.genomeSpecies.zipIdx.filter fun (species, _) => species == id).map Prod.snd)

/-- The review of one species: its record, and whether it takes part in breeding. -/
def review (fitness : List Float32) (globalChampion : Nat)
    (progress : List SpeciesRecord × List SpeciesGeneration) (group : Nat × List Nat) :
    Option (List SpeciesRecord × List SpeciesGeneration) := do
  let (records, generation) := progress
  let (speciesId, members) := group
  let championIndex := bestIndex members fitness
  let rawBestFitness := finiteOrZero (fitnessOf fitness championIndex)
  let adjustedFitness := sum32 (members.map fun index =>
    finiteOrZero (fitnessOf fitness index) / Float32.ofNat members.length)
  let place ← records.findIdx? fun record => record.id == speciesId
  let record ← records[place]?
  let champion ← self.genomes[championIndex]?
  let reviewed := record.reviewed champion rawBestFitness
  let containsGlobalChampion := members.contains globalChampion
  let stagnant := decide (self.config.speciesStagnationGenerations ≤ reviewed.generationsWithoutImprovement)
    && !containsGlobalChampion
  let entry : SpeciesGeneration :=
    { id := speciesId, members, adjustedFitness, championIndex, containsGlobalChampion }
  pure (records.set place reviewed, if stagnant then generation else generation ++ [entry])

def reviewAll (fitness : List Float32) (globalChampion : Nat) :
    Option (List SpeciesRecord × List SpeciesGeneration) :=
  self.speciesMemberGroups.foldlM (self.review fitness globalChampion) (self.speciesRecords, [])

/-- The order of breeding: the species of the champion, then the fitter ones. -/
def breedsBefore (left right : SpeciesGeneration) : Bool :=
  if left.containsGlobalChampion ≠ right.containsGlobalChampion then left.containsGlobalChampion
  else decide (totalKey right.adjustedFitness < totalKey left.adjustedFitness)
    || (decide (totalKey left.adjustedFitness = totalKey right.adjustedFitness)
      && decide (left.id ≤ right.id))

/-- The species that breed. Where every one is stagnant, the champion breeds alone. -/
def breeding (fitness : List Float32) (globalChampion : Nat) (generation : List SpeciesGeneration) :
    Option (List SpeciesGeneration) := do
  if generation.isEmpty then
    let id ← self.genomeSpecies[globalChampion]?
    pure ([{ id, members := [globalChampion],
             adjustedFitness := max32 (finiteOrZero (fitnessOf fitness globalChampion)) 0,
             championIndex := globalChampion, containsGlobalChampion := true }].take
      self.config.populationSize)
  else pure ((generation.insertionSort fun left right => breedsBefore left right = true).take self.config.populationSize)

end Species

section Evolving

variable {R : Type} (chance : Chance R) (self : Population)

/-- The child of a crossover or the copy of a parent, before it is mutated. -/
def conceive (fitness : List Float32) (survivors : List Nat) (species : SpeciesGeneration) :
    Draw R Genome := do
  let first ← selectParentFromIndices chance species.members fitness
  let foreign ← gen chance
  let matePool :=
    if foreign < clamp32 self.config.interspeciesMatingRate 0 1 then survivors else species.members
  let crossed ← gen chance
  if crossed < self.config.crossoverRate then
    let second ← selectParentFromIndices chance matePool fitness
    let mother ← self.genomes[first]?
    let father ← self.genomes[second]?
    if fitnessOf fitness second ≤ fitnessOf fitness first then mother.crossover chance father
    else father.crossover chance mother
  else
    let parent ← self.genomes[first]?
    pure parent

def bear (fitness : List Float32) (survivors : List Nat) (species : SpeciesGeneration) :
    Breed R Genome := do
  let child ← (self.conceive chance fitness survivors species : Draw R Genome)
  child.mutate chance self.config

def brood (fitness : List Float32) (survivors : List Nat) (allotted : SpeciesGeneration × Nat) :
    Breed R (List (Genome × Nat)) := do
  if allotted.2 = 0 then pure []
  else
    let champion ← self.genomes[allotted.1.championIndex]?
    let children ← (List.replicate (allotted.2 - 1) allotted.1).mapM
      (self.bear chance fitness survivors)
    pure ((champion :: children).map fun genome => (genome, allotted.1.id))

/-- A descendant of the champion, for a place that no species fills. -/
def fill (fitness : List Float32) (globalChampion : Nat) : Breed R (Genome × Nat) := do
  let first ← (selectParentFromIndices chance [globalChampion] fitness : Draw R Nat)
  let parent ← self.genomes[first]?
  let child ← parent.mutate chance self.config
  let id ← self.genomeSpecies[globalChampion]?
  pure (child, id)

def breed (fitness : List Float32) (globalChampion : Nat) (species : List SpeciesGeneration) :
    Breed R (List (Genome × Nat)) := do
  let offspringCounts :=
    allocateOffspring (species.map SpeciesGeneration.adjustedFitness) self.config.populationSize
  let survivors := species.flatMap SpeciesGeneration.members
  let broods ← (species.zip offspringCounts).mapM (self.brood chance fitness survivors)
  let missing := self.config.populationSize - broods.flatten.length
  let fillers ← (List.replicate missing globalChampion).mapM (self.fill chance fitness)
  pure (broods.flatten ++ fillers)

def nextGeneration (fitness : List Float32) : Draw R Population := do
  let globalChampion := bestIndex (List.range self.genomes.length) fitness
  let reviewed ← (self.reviewAll fitness globalChampion : Option _)
  let species ← self.breeding fitness globalChampion reviewed.2
  let offspringCounts :=
    allocateOffspring (species.map SpeciesGeneration.adjustedFitness) self.config.populationSize
  let survivingIds :=
    ((species.zip offspringCounts).filter fun allotted => allotted.2 ≠ 0).map fun allotted =>
      allotted.1.id
  let (next, innovations) ← (self.breed chance fitness globalChampion species).run self.innovations
  let generation ← increment 64 self.generation
  pure (assignSpeciesMembers
    { self with
      generation
      genomes := next.map Prod.fst
      innovations
      genomeSpecies := next.map Prod.snd
      speciesRecords := reviewed.1.filter fun record => survivingIds.contains record.id })

def evolve (fitness : List Float32) : Draw R (Except String Population) := do
  if fitness.length ≠ self.genomes.length then
    pure (.error ("fitness count " ++ toString fitness.length ++ " does not match population " ++
      toString self.genomes.length))
  else if self.genomes.isEmpty then pure (.error "cannot evolve an empty population")
  else
    let next ← self.ensureSpeciesMembers.nextGeneration chance fitness
    pure (.ok next)

/-- The protected genomes take the last places, from the back; none takes the first. -/
def placeElites : List Genome → Nat → List Genome → List Genome
  | [], _, genomes => genomes
  | elite :: rest, replacement, genomes =>
    if genomes.any fun genome => genome.beq elite then placeElites rest replacement genomes
    else if replacement ≤ 1 then genomes
    else placeElites rest (replacement - 1) (genomes.set (replacement - 1) elite)

def evolveWithElites (fitness : List Float32) (elites : List Genome) :
    Draw R (Except String Population) := do
  let kept := elites.filter fun genome => self.genomes.any fun candidate => candidate.beq genome
  let evolved ← self.evolve chance fitness
  match evolved with
  | .error reason => pure (.error reason)
  | .ok next =>
    pure (.ok (assignSpeciesMembers
      { next with genomes := placeElites kept next.genomes.length next.genomes }))

def descend (config : NeatConfig) (founders : List Genome) (offset : Nat) : Breed R Genome := do
  let founder ← founders[offset % founders.length]?
  let descendant ← founder.mutate chance config
  descendant.mutate chance config

def replaceAfterFirst (genomes descendants : List Genome) : List Genome :=
  genomes.take 1 ++ descendants ++ genomes.drop (1 + descendants.length)

def injectArchiveDescendants (founders : List Genome) (count : Nat) : Draw R (Nat × Population) := do
  if founders.isEmpty || self.genomes.length ≤ 1 then pure (0, self)
  else
    let count := Nat.min count (self.genomes.length - 1)
    let (descendants, innovations) ←
      ((List.range count).mapM (descend chance self.config founders)).run self.innovations
    pure (count, assignSpeciesMembers
      { self with genomes := replaceAfterFirst self.genomes descendants, innovations })

/-- The genomes of the first generation: the seed, and mutated copies of it. -/
def sow (config : NeatConfig) : Breed R (List Genome) := do
  let seed ← Genome.minimal chance locomotionInputCount locomotionOutputCount
  (List.range config.populationSize).mapM fun index =>
    if 0 < index then seed.mutate chance config else pure seed

def seeded (config : NeatConfig) : Draw R Population := do
  let firstHidden := locomotionInputCount + locomotionOutputCount + 1
  let (genomes, innovations) ← (sow chance config).run (InnovationTracker.new firstHidden)
  pure (assignSpeciesMembers { generation := 0, genomes, config, innovations })

end Evolving

end Population

end Netherwick.Neat

import Netherwick.Neat.Evolution
import Mathlib.Algebra.GroupWithZero.Nat

/-! # Founders

`fromFounders` makes a population of genomes that were numbered apart. One scan gives every connection
of the founders the number of its key: the number it carries if that is still free, a fresh one if
another key has it. The tracker then goes on behind all the numbers there are, and mutated copies of
the founders fill the population. -/

namespace Netherwick.Neat

open Netherwick.Lib

def saturatingIncrement (bits count : Nat) : Nat :=
  if count + 1 < 2 ^ bits then count + 1 else 2 ^ bits - 1

/-- The maps of the scan, the newest entry first, and the next fresh number. -/
structure Renumbering where
  nextInnovation : Nat
  keyInnovations : List (ConnectionKey × Nat) := []
  innovationKeys : List (Nat × ConnectionKey) := []

namespace Renumbering

variable (self : Renumbering)

def innovationFor (connection : ConnectionGene) : Nat × Nat :=
  match self.keyInnovations.lookup connection.key with
  | some existing => (existing, self.nextInnovation)
  | none =>
    if (self.innovationKeys.lookup connection.innovation).all (· == connection.key) then
      (connection.innovation, self.nextInnovation)
    else (self.nextInnovation, saturatingIncrement 64 self.nextInnovation)

def renumber (connection : ConnectionGene) : ConnectionGene × Renumbering :=
  let (innovation, nextInnovation) := self.innovationFor connection
  ({ connection with innovation },
    { nextInnovation
      keyInnovations := (connection.key, innovation) :: self.keyInnovations
      innovationKeys := (innovation, connection.key) :: self.innovationKeys })

end Renumbering

def renumberAll : Renumbering → List ConnectionGene → List ConnectionGene × Renumbering
  | scan, [] => ([], scan)
  | scan, connection :: connections =>
    let (renumbered, scan) := scan.renumber connection
    let (rest, scan) := renumberAll scan connections
    (renumbered :: rest, scan)

@[simp] theorem renumberAll_nil (scan : Renumbering) : renumberAll scan [] = ([], scan) := rfl

@[simp] theorem renumberAll_cons (scan : Renumbering) (connection : ConnectionGene)
    (connections : List ConnectionGene) :
    renumberAll scan (connection :: connections) =
      ((scan.renumber connection).1 :: (renumberAll (scan.renumber connection).2 connections).1,
        (renumberAll (scan.renumber connection).2 connections).2) := rfl

def canonicalGenomes : Renumbering → List Genome → List Genome
  | _, [] => []
  | scan, genome :: genomes =>
    let (connections, scan) := renumberAll scan genome.connections
    { genome with connections } :: canonicalGenomes scan genomes

@[simp] theorem canonicalGenomes_nil (scan : Renumbering) : canonicalGenomes scan [] = [] := rfl

@[simp] theorem canonicalGenomes_cons (scan : Renumbering) (genome : Genome)
    (genomes : List Genome) :
    canonicalGenomes scan (genome :: genomes) =
      { genome with connections := (renumberAll scan genome.connections).1 } ::
        canonicalGenomes (renumberAll scan genome.connections).2 genomes := rfl

/-- The first number behind those the founders carry. -/
def firstFresh (founders : List Genome) : Nat :=
  ((founders.flatMap Genome.connections).map fun connection =>
    saturatingIncrement 64 connection.innovation).foldl Nat.max 0

def canonicalFounders (founders : List Genome) : List Genome :=
  canonicalGenomes { nextInnovation := firstFresh founders } founders

namespace InnovationTracker

variable (self : InnovationTracker)

def noteConnection (connection : ConnectionGene) : InnovationTracker :=
  { self with
    nextInnovation := Nat.max self.nextInnovation (saturatingIncrement 64 connection.innovation)
    connections :=
      if (self.connections.lookup connection.key).isSome then self.connections
      else (connection.key, connection.innovation) :: self.connections }

def noteGenome (genome : Genome) : InnovationTracker :=
  genome.connections.foldl noteConnection
    { self with
      nextNodeId := Nat.max self.nextNodeId
        ((genome.nodes.map fun node => saturatingIncrement 32 node.id).foldl Nat.max 0) }

end InnovationTracker

def trackerOf (founders : List Genome) : InnovationTracker :=
  founders.foldl InnovationTracker.noteGenome (InnovationTracker.new 0)

section Founding

variable {R : Type} (chance : Chance R) (config : NeatConfig)

def mutateFounder (founders : List Genome) (descendant : Nat) : Breed R Genome := do
  let founder ← founders[descendant % founders.length]?
  founder.mutate chance config

def fromFounders (founders : List Genome) : Draw R (Except String Population) := do
  if founders.isEmpty then
    pure (.error "cannot reconstruct a population without founders")
  else
    let founders := canonicalFounders (founders.take config.populationSize)
    let (descendants, innovations) ←
      ((List.range (config.populationSize - founders.length)).mapM
        (mutateFounder chance config founders)).run (trackerOf founders)
    pure (.ok (Population.assignSpeciesMembers
      { generation := 0, genomes := founders ++ descendants, config, innovations }))

end Founding

/-- What there is in connections read in order: the keys, for each the number it first came with, and
how many of these numbers had come with another key before. -/
structure Seen where
  keys : List ConnectionKey := []
  numbers : List Nat := []
  clashes : Nat := 0

def Seen.add (seen : Seen) (connection : ConnectionGene) : Seen :=
  if connection.key ∈ seen.keys then seen
  else
    { keys := connection.key :: seen.keys
      numbers := connection.innovation :: seen.numbers
      clashes := seen.clashes + if connection.innovation ∈ seen.numbers then 1 else 0 }

def seenIn (connections : List ConnectionGene) : Seen := connections.foldl Seen.add {}

/-- The numbers leave room, where the fresh ones begin at `start`. -/
def Spare (start : Nat) (connections : List ConnectionGene) : Prop :=
  (∀ number ∈ (seenIn connections).numbers, number + 1 < 2 ^ 64) ∧
    start + (seenIn connections).clashes < 2 ^ 64

section Scan

variable {start : Nat} {done used connections : List ConnectionGene} {scan : Renumbering}
  {connection : ConnectionGene}

theorem saturatingIncrement_lt (bits count : Nat) : saturatingIncrement bits count < 2 ^ bits := by
  have hpos : 0 < 2 ^ bits := Nat.two_pow_pos bits
  by_cases hroom : count + 1 < 2 ^ bits
  · simp [saturatingIncrement, hroom]
  · simp [saturatingIncrement, hroom]

theorem lt_saturatingIncrement {bits count : Nat} (h : count + 1 < 2 ^ bits) :
    count < saturatingIncrement bits count := by
  simp [saturatingIncrement, h]

theorem seenIn_snoc (done : List ConnectionGene) (connection : ConnectionGene) :
    seenIn (done ++ [connection]) = (seenIn done).add connection := by
  simp [seenIn]

theorem spare_of_snoc (h : Spare start (done ++ [connection])) : Spare start done := by
  rw [Spare, seenIn_snoc, Seen.add] at h
  by_cases hkey : connection.key ∈ (seenIn done).keys
  · rw [if_pos hkey] at h
    exact h
  · rw [if_neg hkey] at h
    constructor
    · intro number hnumber
      exact h.1 number (List.mem_cons_of_mem _ hnumber)
    · have hbound := h.2
      simp only at hbound
      omega

theorem spare_of_append (h : Spare start (done ++ connections)) : Spare start done := by
  induction connections using List.reverseRecOn with
  | nil => simpa using h
  | append_singleton connections connection ih =>
    rw [← List.append_assoc] at h
    exact ih (spare_of_snoc h)

theorem lookup_cons_ite {α β : Type} [BEq α] [LawfulBEq α] [DecidableEq α] (a a' : α) (b : β)
    (l : List (α × β)) : ((a, b) :: l).lookup a' = if a' = a then some b else l.lookup a' := by
  rw [List.lookup_cons]
  by_cases h : a' = a
  · simp [h]
  · simp [h, beq_eq_false_iff_ne.mpr h]

/-- A number that the scan started behind. Where the fresh ones begin at the last number of all, it
may be that one. -/
def Before (start number : Nat) : Prop := number < start ∨ start + 1 = 2 ^ 64

/-- Up to here the scan has issued no number twice and kept the last one of all free. -/
structure Scanned (start : Nat) (done used : List ConnectionGene) (scan : Renumbering) : Prop where
  spare : Spare start done
  next : scan.nextInnovation = start + (seenIn done).clashes
  before : ∀ number ∈ (seenIn done).numbers, Before start number
  keys : ∀ key, (scan.keyInnovations.lookup key).isSome ↔ key ∈ (seenIn done).keys
  issued : ∀ number, (scan.innovationKeys.lookup number).isSome ↔
    number ∈ (seenIn done).numbers ∨ (start ≤ number ∧ number < scan.nextInnovation)
  inverse : ∀ key number, scan.keyInnovations.lookup key = some number ↔
    scan.innovationKeys.lookup number = some key
  used : ∀ connection ∈ used, scan.keyInnovations.lookup connection.key = some connection.innovation

theorem scanned_nil (h : start < 2 ^ 64) : Scanned start [] [] { nextInnovation := start } := by
  constructor <;> simp [seenIn, Spare]
  exact h

namespace Scanned

variable (h : Scanned start done used scan)
include h

theorem shared {edge edge' : ConnectionGene} (hedge : edge ∈ used) (hedge' : edge' ∈ used) :
    edge.innovation = edge'.innovation ↔ edge.key = edge'.key := by
  have hkey := h.used edge hedge
  have hkey' := h.used edge' hedge'
  constructor
  · intro hsame
    rw [hsame] at hkey
    rw [h.inverse] at hkey hkey'
    exact Option.some.inj (hkey.symm.trans hkey')
  · intro hsame
    rw [hsame] at hkey
    exact Option.some.inj (hkey.symm.trans hkey')

theorem innovation_lt {edge : ConnectionGene} (hedge : edge ∈ used) :
    edge.innovation + 1 < 2 ^ 64 := by
  have hissued := (h.inverse _ _).mp (h.used edge hedge)
  have hsome : (scan.innovationKeys.lookup edge.innovation).isSome := by simp [hissued]
  obtain hold | hfresh := (h.issued _).mp hsome
  · exact h.spare.1 _ hold
  · have hbound := h.spare.2
    have hnext := h.next
    omega

theorem known {existing : Nat} (hknown : scan.keyInnovations.lookup connection.key = some existing) :
    Scanned start (done ++ [connection]) (used ++ [(scan.renumber connection).1])
      (scan.renumber connection).2 := by
  have hfor : scan.innovationFor connection = (existing, scan.nextInnovation) := by
    rw [Renumbering.innovationFor, hknown]
  have hseen : seenIn (done ++ [connection]) = seenIn done := by
    rw [seenIn_snoc, Seen.add, if_pos ((h.keys _).mp (by simp [hknown]))]
  have hnumber := (h.inverse _ _).mp hknown
  have hkeys : ∀ key, ((connection.key, existing) :: scan.keyInnovations).lookup key =
      scan.keyInnovations.lookup key := by
    intro key
    rw [lookup_cons_ite]
    by_cases hkey : key = connection.key
    · simp [hkey, hknown]
    · simp [hkey]
  have hnumbers : ∀ number, ((existing, connection.key) :: scan.innovationKeys).lookup number =
      scan.innovationKeys.lookup number := by
    intro number
    rw [lookup_cons_ite]
    by_cases hsame : number = existing
    · simp [hsame, hnumber]
    · simp [hsame]
  rw [Renumbering.renumber, hfor]
  dsimp only
  constructor
  · rw [Spare, hseen]
    exact h.spare
  · rw [hseen]
    exact h.next
  · rw [hseen]
    exact h.before
  · intro key
    rw [hseen, hkeys]
    exact h.keys key
  · intro number
    rw [hseen, hnumbers]
    exact h.issued number
  · intro key number
    rw [hkeys, hnumbers]
    exact h.inverse key number
  · intro edge hedge
    rw [hkeys]
    obtain hold | hlast := List.mem_append.mp hedge
    · exact h.used edge hold
    · obtain rfl := List.mem_singleton.mp hlast
      exact hknown

theorem extend {innovation nextInnovation : Nat}
    (hfor : scan.innovationFor connection = (innovation, nextInnovation))
    (hnew : connection.key ∉ (seenIn done).keys)
    (hfree : scan.innovationKeys.lookup innovation = none)
    (hspare : Spare start (done ++ [connection])) (hbefore : Before start connection.innovation)
    (hnext : nextInnovation = start + (seenIn (done ++ [connection])).clashes)
    (hissued : ∀ number, number = innovation ∨
        (number ∈ (seenIn done).numbers ∨ (start ≤ number ∧ number < scan.nextInnovation)) ↔
      (number = connection.innovation ∨ number ∈ (seenIn done).numbers) ∨
        (start ≤ number ∧ number < nextInnovation)) :
    Scanned start (done ++ [connection]) (used ++ [(scan.renumber connection).1])
      (scan.renumber connection).2 := by
  have hkeys : (seenIn (done ++ [connection])).keys = connection.key :: (seenIn done).keys := by
    rw [seenIn_snoc, Seen.add, if_neg hnew]
  have hnumbers : (seenIn (done ++ [connection])).numbers =
      connection.innovation :: (seenIn done).numbers := by
    rw [seenIn_snoc, Seen.add, if_neg hnew]
  have hunknown : scan.keyInnovations.lookup connection.key = none := by
    rw [← h.keys] at hnew
    exact Option.not_isSome_iff_eq_none.mp hnew
  rw [Renumbering.renumber, hfor]
  dsimp only
  constructor
  · exact hspare
  · exact hnext
  · intro number hnumber
    rw [hnumbers] at hnumber
    obtain rfl | hold := List.mem_cons.mp hnumber
    · exact hbefore
    · exact h.before number hold
  · intro key
    rw [hkeys, lookup_cons_ite, List.mem_cons, ← h.keys]
    by_cases hkey : key = connection.key <;> simp [hkey]
  · intro number
    rw [hnumbers, List.mem_cons, ← hissued, ← h.issued, lookup_cons_ite]
    by_cases hnumber : number = innovation <;> simp [hnumber]
  · intro key number
    rw [lookup_cons_ite, lookup_cons_ite]
    by_cases hkey : key = connection.key
    · by_cases hnumber : number = innovation
      · simp [hkey, hnumber]
      · have hother : scan.innovationKeys.lookup number ≠ some connection.key := by
          rw [ne_eq, ← h.inverse, hunknown]
          simp
        simp [hkey, hnumber, hother, Ne.symm hnumber]
    · by_cases hnumber : number = innovation
      · have hother : scan.keyInnovations.lookup key ≠ some innovation := by
          rw [ne_eq, h.inverse, hfree]
          simp
        simp [hkey, hnumber, hother, Ne.symm hkey]
      · simpa [hkey, hnumber] using h.inverse key number
  · intro edge hedge
    rw [lookup_cons_ite]
    obtain hold | hlast := List.mem_append.mp hedge
    · have hknown := h.used edge hold
      have hkey : edge.key ≠ connection.key := by
        intro hsame
        rw [hsame, hunknown] at hknown
        cases hknown
      simpa [hkey] using hknown
    · obtain rfl := List.mem_singleton.mp hlast
      simp [ConnectionGene.key]

theorem renumber (hrange : connection.innovation < 2 ^ 64)
    (hbefore : Before start connection.innovation) :
    Scanned start (done ++ [connection]) (used ++ [(scan.renumber connection).1])
        (scan.renumber connection).2 ∨
      (scan.renumber connection).1.innovation + 1 = 2 ^ 64 ∧
        ¬Spare start (done ++ [connection]) := by
  have hbound := h.spare.2
  have hscanNext := h.next
  cases hknown : scan.keyInnovations.lookup connection.key with
  | some existing => exact .inl (h.known hknown)
  | none =>
    have hnew : connection.key ∉ (seenIn done).keys := by
      rw [← h.keys, hknown]
      simp
    have hadd : seenIn (done ++ [connection]) = _ := seenIn_snoc done connection
    rw [Seen.add, if_neg hnew] at hadd
    cases hheld : scan.innovationKeys.lookup connection.innovation with
    | none =>
      -- the number it carries is free
      have hfor : scan.innovationFor connection =
          (connection.innovation, scan.nextInnovation) := by
        simp [Renumbering.innovationFor, hknown, hheld]
      have hunissued := (h.issued connection.innovation).not.mp (by simp [hheld])
      rw [not_or] at hunissued
      by_cases hlast : connection.innovation + 1 = 2 ^ 64
      · refine .inr ⟨?_, fun hspare => ?_⟩
        · rw [Renumbering.renumber, hfor]
          exact hlast
        · have hroom := hspare.1 connection.innovation (by simp [hadd])
          omega
      · left
        refine h.extend hfor hnew hheld ?_ hbefore ?_ ?_
        · rw [Spare, hadd]
          simp only [hunissued.1, if_false, Nat.add_zero, List.forall_mem_cons]
          refine ⟨⟨?_, h.spare.1⟩, hbound⟩
          unfold Before at hbefore
          omega
        · simp [hadd, hunissued.1, hscanNext]
        · intro number
          exact (or_assoc).symm
    | some key =>
      -- another key has it
      have hother : key ≠ connection.key := by
        rintro rfl
        rw [← h.inverse, hknown] at hheld
        cases hheld
      have hfor : scan.innovationFor connection =
          (scan.nextInnovation, saturatingIncrement 64 scan.nextInnovation) := by
        simp [Renumbering.innovationFor, hknown, hheld, hother]
      have hclash : connection.innovation ∈ (seenIn done).numbers := by
        obtain hold | hfresh := (h.issued connection.innovation).mp (by simp [hheld])
        · exact hold
        · unfold Before at hbefore
          omega
      by_cases hlast : scan.nextInnovation + 1 = 2 ^ 64
      · refine .inr ⟨?_, fun hspare => ?_⟩
        · rw [Renumbering.renumber, hfor]
          exact hlast
        · have hroom := hspare.2
          simp only [hadd, hclash, if_true] at hroom
          omega
      · left
        have hnext : saturatingIncrement 64 scan.nextInnovation = scan.nextInnovation + 1 := by
          rw [saturatingIncrement, if_pos (by omega)]
        have hfree : scan.innovationKeys.lookup scan.nextInnovation = none := by
          have hunissued : ¬(scan.innovationKeys.lookup scan.nextInnovation).isSome := by
            rw [h.issued]
            rintro (hold | hfresh)
            · have hless := h.before _ hold
              unfold Before at hless
              omega
            · omega
          exact Option.not_isSome_iff_eq_none.mp hunissued
        refine h.extend hfor hnew hfree ?_ hbefore ?_ ?_
        · rw [Spare, hadd]
          simp only [hclash, if_true, List.forall_mem_cons]
          refine ⟨⟨h.spare.1 _ hclash, h.spare.1⟩, ?_⟩
          omega
        · simp only [hadd, hclash, if_true]
          omega
        · intro number
          rw [hnext]
          by_cases hsame : number = connection.innovation
          · simp [hsame, hclash]
          · by_cases hold : number ∈ (seenIn done).numbers
            · simp [hold]
            · simp only [hsame, hold, false_or]
              omega

end Scanned

theorem renumberAll_scanned (h : Scanned start done used scan)
    (hconnections : ∀ connection ∈ connections,
      connection.innovation < 2 ^ 64 ∧ Before start connection.innovation) :
    Scanned start (done ++ connections) (used ++ (renumberAll scan connections).1)
        (renumberAll scan connections).2 ∨
      (∃ connection ∈ (renumberAll scan connections).1, connection.innovation + 1 = 2 ^ 64) ∧
        ¬Spare start (done ++ connections) := by
  induction connections generalizing done used scan with
  | nil =>
    left
    simpa using h
  | cons connection connections ih =>
    rw [List.forall_mem_cons] at hconnections
    rw [renumberAll_cons]
    obtain hwell | ⟨hlast, hfull⟩ := h.renumber hconnections.1.1 hconnections.1.2
    · have hrest := ih hwell hconnections.2
      rw [List.append_assoc, List.append_assoc, List.singleton_append, List.singleton_append]
        at hrest
      obtain hdone | ⟨⟨edge, hedge, hlast⟩, hfull⟩ := hrest
      · exact .inl hdone
      · exact .inr ⟨⟨edge, List.mem_cons_of_mem _ hedge, hlast⟩, hfull⟩
    · right
      refine ⟨⟨_, List.mem_cons_self, hlast⟩, fun hspare => hfull ?_⟩
      rw [← List.singleton_append, ← List.append_assoc] at hspare
      exact spare_of_append hspare

end Scan

/-- A genome but for its numbers. -/
def Genome.unnumbered (genome : Genome) : Genome :=
  { genome with
    connections := genome.connections.map fun connection => { connection with innovation := 0 } }

/-- The counters of a machine leave room behind the founders' numbers: every node id, every number
that some key came with first and, where keys clash, as many numbers behind all of them. -/
structure Room (founders : List Genome) : Prop where
  ids : ∀ founder ∈ founders, ∀ node ∈ founder.nodes, node.id + 1 < 2 ^ 32
  numbers : ∀ number ∈ (seenIn (founders.flatMap Genome.connections)).numbers, number + 1 < 2 ^ 64
  fresh : 0 < (seenIn (founders.flatMap Genome.connections)).clashes →
    ∀ connection ∈ founders.flatMap Genome.connections,
      connection.innovation + (seenIn (founders.flatMap Genome.connections)).clashes + 1 < 2 ^ 64

section Canonical

variable {founders genomes : List Genome} {connections : List ConnectionGene} {scan : Renumbering}

theorem le_foldl_max {numbers : List Nat} {first number : Nat}
    (h : number ≤ first ∨ number ∈ numbers) : number ≤ numbers.foldl Nat.max first := by
  induction numbers generalizing first with
  | nil => simpa using h
  | cons head rest ih =>
    rw [List.foldl_cons]
    apply ih
    obtain hfirst | hmem := h
    · exact .inl (hfirst.trans (Nat.le_max_left _ _))
    · obtain rfl | hrest := List.mem_cons.mp hmem
      · exact .inl (Nat.le_max_right _ _)
      · exact .inr hrest

theorem foldl_max_le {numbers : List Nat} {first bound : Nat} (hfirst : first ≤ bound)
    (h : ∀ number ∈ numbers, number ≤ bound) : numbers.foldl Nat.max first ≤ bound := by
  induction numbers generalizing first with
  | nil => exact hfirst
  | cons head rest ih =>
    rw [List.forall_mem_cons] at h
    exact ih (Nat.max_le.mpr ⟨hfirst, h.1⟩) h.2

theorem renumberAll_append (scan : Renumbering) (connections more : List ConnectionGene) :
    renumberAll scan (connections ++ more) =
      ((renumberAll scan connections).1 ++ (renumberAll (renumberAll scan connections).2 more).1,
        (renumberAll (renumberAll scan connections).2 more).2) := by
  induction connections generalizing scan with
  | nil => rfl
  | cons connection connections ih =>
    simp [ih]

theorem canonicalGenomes_connections (scan : Renumbering) (genomes : List Genome) :
    (canonicalGenomes scan genomes).flatMap Genome.connections =
      (renumberAll scan (genomes.flatMap Genome.connections)).1 := by
  induction genomes generalizing scan with
  | nil => rfl
  | cons genome genomes ih =>
    rw [List.flatMap_cons, renumberAll_append, canonicalGenomes_cons, List.flatMap_cons, ih]

theorem renumberAll_unnumbered (scan : Renumbering) (connections : List ConnectionGene) :
    (renumberAll scan connections).1.map (fun connection => { connection with innovation := 0 }) =
      connections.map fun connection => { connection with innovation := 0 } := by
  induction connections generalizing scan with
  | nil => rfl
  | cons connection connections ih =>
    rw [renumberAll_cons, List.map_cons, List.map_cons, ih]
    rfl

theorem canonicalGenomes_unnumbered (scan : Renumbering) (genomes : List Genome) :
    (canonicalGenomes scan genomes).map Genome.unnumbered = genomes.map Genome.unnumbered := by
  induction genomes generalizing scan with
  | nil => rfl
  | cons genome genomes ih =>
    rw [canonicalGenomes_cons, List.map_cons, List.map_cons, ih, Genome.unnumbered,
      renumberAll_unnumbered]
    rfl

theorem unnumbered_keys {genome other : Genome} (h : genome.unnumbered = other.unnumbered) :
    genome.connections.map ConnectionGene.key = other.connections.map ConnectionGene.key := by
  have hkeys : genome.unnumbered.connections.map ConnectionGene.key =
      other.unnumbered.connections.map ConnectionGene.key := by rw [h]
  rw [Genome.unnumbered, Genome.unnumbered, List.map_map, List.map_map] at hkeys
  exact hkeys

theorem unnumbered_nodes {genome other : Genome} (h : genome.unnumbered = other.unnumbered) :
    genome.nodes = other.nodes := by
  have hnodes : genome.unnumbered.nodes = other.unnumbered.nodes := by rw [h]
  exact hnodes

theorem founder_of_canonical {genome : Genome} (h : genome ∈ canonicalFounders founders) :
    ∃ founder ∈ founders, genome.unnumbered = founder.unnumbered := by
  have hmem : genome.unnumbered ∈ founders.map Genome.unnumbered := by
    rw [← canonicalGenomes_unnumbered { nextInnovation := firstFresh founders }]
    exact List.mem_map_of_mem h
  obtain ⟨founder, hfounder, hsame⟩ := List.mem_map.mp hmem
  exact ⟨founder, hfounder, hsame.symm⟩

theorem canonical_of_founder {founder : Genome} (h : founder ∈ founders) :
    ∃ genome ∈ canonicalFounders founders, genome.unnumbered = founder.unnumbered := by
  have hmem : founder.unnumbered ∈ (canonicalFounders founders).map Genome.unnumbered := by
    rw [canonicalFounders, canonicalGenomes_unnumbered]
    exact List.mem_map_of_mem h
  obtain ⟨genome, hgenome, hsame⟩ := List.mem_map.mp hmem
  exact ⟨genome, hgenome, hsame⟩

theorem firstFresh_lt (founders : List Genome) : firstFresh founders < 2 ^ 64 := by
  have hle : firstFresh founders ≤ 2 ^ 64 - 1 := by
    refine foldl_max_le (Nat.zero_le _) fun number hnumber => ?_
    obtain ⟨connection, -, rfl⟩ := List.mem_map.mp hnumber
    have hless := saturatingIncrement_lt 64 connection.innovation
    omega
  omega

theorem le_firstFresh {connection : ConnectionGene}
    (h : connection ∈ founders.flatMap Genome.connections) :
    saturatingIncrement 64 connection.innovation ≤ firstFresh founders :=
  le_foldl_max (.inr (List.mem_map_of_mem h))

theorem before_firstFresh {connection : ConnectionGene}
    (h : connection ∈ founders.flatMap Genome.connections) :
    Before (firstFresh founders) connection.innovation := by
  have hle := le_firstFresh h
  have hless := firstFresh_lt founders
  unfold Before
  by_cases hroom : connection.innovation + 1 < 2 ^ 64
  · rw [saturatingIncrement, if_pos hroom] at hle
    omega
  · rw [saturatingIncrement, if_neg hroom] at hle
    omega

theorem spare_iff (hrange : ∀ connection ∈ founders.flatMap Genome.connections,
      connection.innovation < 2 ^ 64) (hids : ∀ founder ∈ founders, ∀ node ∈ founder.nodes,
      node.id + 1 < 2 ^ 32) :
    Spare (firstFresh founders) (founders.flatMap Genome.connections) ↔ Room founders := by
  have hless := firstFresh_lt founders
  constructor
  · intro h
    refine ⟨hids, h.1, fun _ connection hconnection => ?_⟩
    have hbound := h.2
    have hbefore := before_firstFresh hconnection
    have hnumber := hrange connection hconnection
    unfold Before at hbefore
    omega
  · intro h
    refine ⟨h.numbers, ?_⟩
    by_cases hclashes : 0 < (seenIn (founders.flatMap Genome.connections)).clashes
    · have hle : firstFresh founders ≤
          2 ^ 64 - 1 - (seenIn (founders.flatMap Genome.connections)).clashes := by
        refine foldl_max_le (Nat.zero_le _) fun number hnumber => ?_
        obtain ⟨connection, hconnection, rfl⟩ := List.mem_map.mp hnumber
        have hroom := h.fresh hclashes connection hconnection
        rw [saturatingIncrement, if_pos (by omega)]
        omega
      obtain ⟨connection, hconnection⟩ : ∃ connection,
          connection ∈ founders.flatMap Genome.connections := by
        by_contra hnone
        rw [List.eq_nil_iff_forall_not_mem.mpr (not_exists.mp hnone)] at hclashes
        cases hclashes
      have hroom := h.fresh hclashes connection hconnection
      omega
    · omega

/-- The canonical founders have the last number of all just when there is no room; where there is,
they are numbered by key. -/
theorem canonicalFounders_spec (hrange : ∀ connection ∈ founders.flatMap Genome.connections,
      connection.innovation < 2 ^ 64) :
    (∃ scan, Scanned (firstFresh founders) (founders.flatMap Genome.connections)
        ((canonicalFounders founders).flatMap Genome.connections) scan) ∨
      (∃ connection ∈ (canonicalFounders founders).flatMap Genome.connections,
          connection.innovation + 1 = 2 ^ 64) ∧
        ¬Spare (firstFresh founders) (founders.flatMap Genome.connections) := by
  have hscan := renumberAll_scanned (scanned_nil (firstFresh_lt founders))
    fun connection hconnection =>
      ⟨hrange connection hconnection, before_firstFresh hconnection⟩
  rw [canonicalFounders, canonicalGenomes_connections]
  exact hscan.imp_left fun hwell => ⟨_, hwell⟩

end Canonical

section Tracking

variable {genomes : List Genome} {t : InnovationTracker}

open InnovationTracker

/-- A tracker that has noted connections and nodes: its counters are in their words and behind all
of them, and it knows no other number. -/
structure Notes (connections : List ConnectionGene) (ids : List Nat) (t : InnovationTracker) :
    Prop where
  innovation_lt : t.nextInnovation < 2 ^ 64
  id_lt : t.nextNodeId < 2 ^ 32
  innovation_le : ∀ connection ∈ connections,
    saturatingIncrement 64 connection.innovation ≤ t.nextInnovation
  id_le : ∀ id ∈ ids, saturatingIncrement 32 id ≤ t.nextNodeId
  known : ∀ entry ∈ t.connections, ∃ connection ∈ connections, connection.innovation = entry.2
  splitNodes : t.splitNodes = []

theorem notes_connection {connections : List ConnectionGene} {ids : List Nat}
    (h : Notes connections ids t) (connection : ConnectionGene) :
    Notes (connections ++ [connection]) ids (t.noteConnection connection) where
  innovation_lt := Nat.max_lt.mpr ⟨h.innovation_lt, saturatingIncrement_lt _ _⟩
  id_lt := h.id_lt
  innovation_le edge hedge := by
    obtain hold | hlast := List.mem_append.mp hedge
    · exact (h.innovation_le edge hold).trans (Nat.le_max_left _ _)
    · obtain rfl := List.mem_singleton.mp hlast
      exact Nat.le_max_right _ _
  id_le := h.id_le
  known entry hentry := by
    rw [noteConnection] at hentry
    by_cases hknown : (t.connections.lookup connection.key).isSome
    · simp only [hknown, if_true] at hentry
      obtain ⟨edge, hedge, hsame⟩ := h.known entry hentry
      exact ⟨edge, List.mem_append_left _ hedge, hsame⟩
    · simp only [hknown] at hentry
      obtain rfl | hold := List.mem_cons.mp hentry
      · exact ⟨connection, by simp, rfl⟩
      · obtain ⟨edge, hedge, hsame⟩ := h.known entry hold
        exact ⟨edge, List.mem_append_left _ hedge, hsame⟩
  splitNodes := h.splitNodes

theorem notes_connections {before connections : List ConnectionGene} {ids : List Nat}
    (h : Notes before ids t) :
    Notes (before ++ connections) ids (connections.foldl noteConnection t) := by
  induction connections generalizing before t with
  | nil => simpa using h
  | cons connection connections ih =>
    have hrest := ih (notes_connection h connection)
    rwa [List.append_assoc, List.singleton_append] at hrest

theorem notes_genome {connections : List ConnectionGene} {ids : List Nat}
    (h : Notes connections ids t) (genome : Genome) :
    Notes (connections ++ genome.connections) (ids ++ genome.nodes.map NodeGene.id)
      (t.noteGenome genome) := by
  apply notes_connections
  refine ⟨h.innovation_lt, ?_, h.innovation_le, ?_, h.known, h.splitNodes⟩
  · have hnodes : (genome.nodes.map fun node => saturatingIncrement 32 node.id).foldl Nat.max 0 ≤
        2 ^ 32 - 1 := by
      refine foldl_max_le (Nat.zero_le _) fun number hnumber => ?_
      obtain ⟨node, -, rfl⟩ := List.mem_map.mp hnumber
      have hless := saturatingIncrement_lt 32 node.id
      omega
    exact Nat.max_lt.mpr ⟨h.id_lt, by omega⟩
  · intro id hid
    obtain hold | hnew := List.mem_append.mp hid
    · exact (h.id_le id hold).trans (Nat.le_max_left _ _)
    · obtain ⟨node, hnode, rfl⟩ := List.mem_map.mp hnew
      have hle : saturatingIncrement 32 node.id ≤
          (genome.nodes.map fun node => saturatingIncrement 32 node.id).foldl Nat.max 0 :=
        le_foldl_max (.inr (List.mem_map.mpr ⟨node, hnode, rfl⟩))
      exact hle.trans (Nat.le_max_right _ _)

theorem notes_trackerOf (genomes : List Genome) :
    Notes (genomes.flatMap Genome.connections)
      (genomes.flatMap fun genome => genome.nodes.map NodeGene.id) (trackerOf genomes) := by
  induction genomes using List.reverseRecOn with
  | nil => constructor <;> simp [trackerOf, InnovationTracker.new]
  | append_singleton genomes genome ih =>
    have hlast := notes_genome ih genome
    simpa [trackerOf] using hlast

end Tracking

section Growing

variable {R : Type} (chance : Chance R) {base t : InnovationTracker} {founders : List Genome}
  {self : Genome}

def FounderInnovation (founders : List Genome) (number : Nat) : Prop :=
  ∃ connection ∈ founders.flatMap Genome.connections, connection.innovation = number

def FounderId (founders : List Genome) (id : Nat) : Prop :=
  id ∈ founders.flatMap fun genome => genome.nodes.map NodeGene.id

/-- A tracker that went on from `base`: its numbers are founders' or behind them. -/
structure Counting (base : InnovationTracker) (founders : List Genome) (t : InnovationTracker) :
    Prop where
  innovation_le : base.nextInnovation ≤ t.nextInnovation
  innovation_lt : t.nextInnovation < 2 ^ 64
  id_le : base.nextNodeId ≤ t.nextNodeId
  id_lt : t.nextNodeId < 2 ^ 32
  connections : ∀ entry ∈ t.connections,
    FounderInnovation founders entry.2 ∨ entry.2 < t.nextInnovation
  splitNodes : ∀ entry ∈ t.splitNodes, entry.2 < t.nextNodeId

structure Genome.NumberedBy (founders : List Genome) (t : InnovationTracker) (genome : Genome) :
    Prop where
  innovations : ∀ edge ∈ genome.connections,
    FounderInnovation founders edge.innovation ∨ edge.innovation ∈ t.connections.map Prod.snd
  ids : ∀ node ∈ genome.nodes,
    FounderId founders node.id ∨ node.id ∈ t.splitNodes.map Prod.snd

theorem Genome.NumberedBy.lasts {t' : InnovationTracker} (h : self.NumberedBy founders t)
    (hle : t ≤ t') : self.NumberedBy founders t' where
  innovations edge hedge :=
    (h.innovations edge hedge).imp_right fun hnew => List.map_subset Prod.snd hle.1 hnew
  ids node hnode := (h.ids node hnode).imp_right fun hnew => List.map_subset Prod.snd hle.2 hnew

theorem innovationOf_counts {key : ConnectionKey} (hc : Counting base founders t) :
    Upholds (Counting base founders) (innovationOf key : Breed R Nat) t
      fun innovation t' => innovation ∈ t'.connections.map Prod.snd := by
  refine Yields.lift fun numbered hnumbered => ?_
  simp only [InnovationTracker.connection] at hnumbered
  cases hfound : t.connections.lookup key with
  | some innovation =>
    simp only [hfound, Option.some.injEq] at hnumbered
    subst hnumbered
    exact ⟨le_refl t, hc, List.mem_map_of_mem (mem_of_lookup hfound)⟩
  | none =>
    simp only [hfound, Option.map_eq_some_iff, increment] at hnumbered
    obtain ⟨next, hnext, rfl⟩ := hnumbered
    obtain ⟨hroom, hnext⟩ := Option.ite_none_right_eq_some.mp hnext
    obtain rfl := Option.some.inj hnext
    refine ⟨⟨List.subset_cons_self _ _, List.Subset.refl _⟩, ?_, by simp⟩
    refine ⟨hc.innovation_le.trans (Nat.le_succ _), hroom, hc.id_le, hc.id_lt, ?_, hc.splitNodes⟩
    intro entry hentry
    obtain rfl | hold := List.mem_cons.mp hentry
    · exact .inr (Nat.lt_succ_self _)
    · exact (hc.connections entry hold).imp_right Nat.lt_succ_of_lt

theorem nodeSplitting_counts {innovation : Nat} (hc : Counting base founders t) :
    Upholds (Counting base founders) (nodeSplitting innovation : Breed R Nat) t
      fun id t' => id ∈ t'.splitNodes.map Prod.snd := by
  refine Yields.lift fun numbered hnumbered => ?_
  simp only [InnovationTracker.splitNode] at hnumbered
  cases hfound : t.splitNodes.lookup innovation with
  | some id =>
    simp only [hfound, Option.some.injEq] at hnumbered
    subst hnumbered
    exact ⟨le_refl t, hc, List.mem_map_of_mem (mem_of_lookup hfound)⟩
  | none =>
    simp only [hfound, Option.map_eq_some_iff, increment] at hnumbered
    obtain ⟨next, hnext, rfl⟩ := hnumbered
    obtain ⟨hroom, hnext⟩ := Option.ite_none_right_eq_some.mp hnext
    obtain rfl := Option.some.inj hnext
    refine ⟨⟨List.Subset.refl _, List.subset_cons_self _ _⟩, ?_, by simp⟩
    refine ⟨hc.innovation_le, hc.innovation_lt, hc.id_le.trans (Nat.le_succ _), hroom,
      hc.connections, ?_⟩
    intro entry hentry
    obtain rfl | hold := List.mem_cons.mp hentry
    · exact Nat.lt_succ_self _
    · exact Nat.lt_succ_of_lt (hc.splitNodes entry hold)

namespace Genome

namespace NumberedBy

variable (h : self.NumberedBy founders t)
include h

theorem with_connections {connections : List ConnectionGene}
    (hsame : connections.map ConnectionGene.innovation =
      self.connections.map ConnectionGene.innovation) :
    NumberedBy founders t { self with connections } where
  innovations edge hedge := by
    have hmem : edge.innovation ∈ self.connections.map ConnectionGene.innovation :=
      hsame ▸ List.mem_map_of_mem hedge
    obtain ⟨old, hold, heq⟩ := List.mem_map.mp hmem
    rw [← heq]
    exact h.innovations old hold
  ids := h.ids

theorem append_connection {edge : ConnectionGene}
    (hedge : edge.innovation ∈ t.connections.map Prod.snd) :
    NumberedBy founders t { self with connections := self.connections ++ [edge] } where
  innovations other hother := by
    obtain hold | hlast := List.mem_append.mp hother
    · exact h.innovations other hold
    · obtain rfl := List.mem_singleton.mp hlast
      exact .inr hedge
  ids := h.ids

theorem withSplit {old : ConnectionGene} {nodeId : Nat}
    (hid : nodeId ∈ t.splitNodes.map Prod.snd) :
    (self.withSplit old nodeId).NumberedBy founders t := by
  by_cases hknown : self.nodes.any fun node => node.id == nodeId
  · rw [Genome.withSplit, if_pos hknown]
    exact h
  · rw [Genome.withSplit, if_neg hknown]
    refine ⟨h.innovations, fun node hnode => ?_⟩
    obtain hold | hlast := List.mem_append.mp hnode
    · exact h.ids node hold
    · obtain rfl := List.mem_singleton.mp hlast
      exact .inr hid

end NumberedBy

theorem innovation_of_mark {connections others : List ConnectionGene}
    (h : connections.map ConnectionGene.mark = others.map ConnectionGene.mark) :
    connections.map ConnectionGene.innovation = others.map ConnectionGene.innovation := by
  have hsnd := congrArg (List.map Prod.snd) h
  rw [List.map_map, List.map_map] at hsnd
  exact hsnd

theorem map_innovation_renew (innovation : Nat) (weight : Float32) (genes : List ConnectionGene) :
    (renew innovation weight genes).map ConnectionGene.innovation =
      genes.map ConnectionGene.innovation := by
  induction genes with
  | nil => rfl
  | cons gene rest ih =>
    by_cases heq : gene.innovation = innovation
    · simp [renew, heq]
    · simp [renew, heq, ih]

theorem joinSplit_counts {source target : Nat} {weight : Float32} (hc : Counting base founders t)
    (h : self.NumberedBy founders t) :
    Upholds (Counting base founders) (joinSplit source target weight self : Breed R Genome) t
      fun joined t' => joined.NumberedBy founders t' := by
  refine (innovationOf_counts hc).bind fun innovation t' hle hc' hnumber => ?_
  refine Upholds.ite (fun _ => Upholds.pure hc' ?_) fun _ => Upholds.pure hc' ?_
  · exact (h.lasts hle).with_connections (map_innovation_renew innovation weight _)
  · exact (h.lasts hle).append_connection hnumber

theorem split_counts {index : Nat} (hc : Counting base founders t)
    (h : self.NumberedBy founders t) :
    Upholds (Counting base founders) (split index self : Breed R Genome) t
      fun grown t' => grown.NumberedBy founders t' := by
  refine (Upholds.lift hc (Q := fun _ => True) fun _ _ => trivial).bind
    fun old t₁ hle₁ hc₁ _ => ?_
  refine (nodeSplitting_counts hc₁).bind fun nodeId t₂ hle₂ hc₂ hid => ?_
  have hdisabled := (h.lasts (hle₁.trans hle₂)).with_connections
    (innovation_of_mark (modify_mark self.connections index))
  refine (joinSplit_counts hc₂ (hdisabled.withSplit hid)).bind fun entered t₃ _ hc₃ hentered => ?_
  exact joinSplit_counts hc₃ hentered

theorem mutateAddNode_counts (hc : Counting base founders t) (h : self.NumberedBy founders t) :
    Upholds (Counting base founders) (mutateAddNode chance self) t
      fun grown t' => grown.NumberedBy founders t' := by
  refine (Upholds.draw hc Yields.any).bind fun chosen t₁ hle₁ hc₁ _ => ?_
  cases chosen with
  | none => exact Upholds.pure hc₁ (h.lasts hle₁)
  | some index => exact split_counts hc₁ (h.lasts hle₁)

theorem addAmong_counts {recurrent : Bool} {pairs : List (Nat × Nat)}
    (hc : Counting base founders t) (h : self.NumberedBy founders t) :
    Upholds (Counting base founders) (addAmong chance recurrent pairs self) t
      fun grown t' => grown.NumberedBy founders t' := by
  refine (Upholds.draw hc Yields.any).bind fun chosen t₁ hle₁ hc₁ _ => ?_
  cases chosen with
  | none => exact Upholds.pure hc₁ (h.lasts hle₁)
  | some pair =>
    refine (innovationOf_counts hc₁).bind fun innovation t₂ hle₂ hc₂ hnumber => ?_
    refine (Upholds.draw hc₂ Yields.any).bind fun weight t₃ hle₃ hc₃ _ => ?_
    exact Upholds.pure hc₃ ((h.lasts ((hle₁.trans hle₂).trans hle₃)).append_connection
      (List.map_subset Prod.snd hle₃.1 hnumber))

theorem sometimes_counts {rate : Float32} {change : Genome → Breed R Genome}
    (hc : Counting base founders t) (h : self.NumberedBy founders t)
    (hchange : ∀ t', Counting base founders t' → self.NumberedBy founders t' →
      Upholds (Counting base founders) (change self) t'
        fun grown t'' => grown.NumberedBy founders t'') :
    Upholds (Counting base founders) (self.sometimes chance rate change) t
      fun grown t' => grown.NumberedBy founders t' := by
  refine (Upholds.draw hc Yields.any).bind fun hit t' hle hc' _ => ?_
  exact Upholds.ite (fun _ => hchange t' hc' (h.lasts hle)) fun _ => Upholds.pure hc' (h.lasts hle)

theorem mutate_counts (config : NeatConfig) (hc : Counting base founders t)
    (h : self.NumberedBy founders t) :
    Upholds (Counting base founders) (self.mutate chance config) t
      fun mutated t' => mutated.NumberedBy founders t' := by
  refine (Upholds.draw hc (Yields.mapM fun gene _ => mutateGene_yields chance config gene)).bind
    fun connections t₁ hle₁ hc₁ hconnections => ?_
  have h₁ := (h.lasts hle₁).with_connections
    (innovation_of_mark (map_eq_of_forall₂ hconnections))
  refine (sometimes_counts chance hc₁ h₁ fun _ hc h => addAmong_counts chance hc h).bind
    fun _ t₂ _ hc₂ h₂ => ?_
  refine (sometimes_counts chance hc₂ h₂ fun _ hc h => addAmong_counts chance hc h).bind
    fun _ t₃ _ hc₃ h₃ => ?_
  exact sometimes_counts chance hc₃ h₃ fun _ hc h => mutateAddNode_counts chance hc h

end Genome

/-- What `fromFounders` makes of the founders it takes. -/
structure Founded (founders : List Genome) (population : Population) : Prop where
  genomes : ∃ descendants, population.genomes = canonicalFounders founders ++ descendants ∧
    ∀ genome ∈ descendants, genome.NumberedBy (canonicalFounders founders) population.innovations
  counting : Counting (trackerOf (canonicalFounders founders)) (canonicalFounders founders)
    population.innovations

theorem trackerOf_counts (founders : List Genome) :
    Counting (trackerOf founders) founders (trackerOf founders) where
  innovation_le := le_refl _
  innovation_lt := (notes_trackerOf founders).innovation_lt
  id_le := le_refl _
  id_lt := (notes_trackerOf founders).id_lt
  connections entry hentry := .inl ((notes_trackerOf founders).known entry hentry)
  splitNodes entry hentry := by
    rw [(notes_trackerOf founders).splitNodes] at hentry
    cases hentry

theorem numberedBy_founders {genome : Genome} (h : genome ∈ founders) :
    genome.NumberedBy founders t where
  innovations edge hedge := .inl ⟨edge, List.mem_flatMap_of_mem h hedge, rfl⟩
  ids _ hnode := .inl (List.mem_flatMap_of_mem h (List.mem_map_of_mem hnode))

theorem fromFounders_yields (config : NeatConfig) (founders : List Genome) :
    Yields (fromFounders chance config founders) fun result =>
      ∀ population, result = .ok population →
        Founded (founders.take config.populationSize) population := by
  refine Yields.ite (fun _ => Yields.pure (by simp)) fun _ => ?_
  refine Yields.bind (Upholds.mapM_all (Q := fun descendant t' =>
    Genome.NumberedBy (canonicalFounders (founders.take config.populationSize)) t' descendant)
    (fun _ _ _ hle h => h.lasts hle) (trackerOf_counts _) fun _ _ t' hle hc => ?_)
    fun grown hgrown => Yields.pure fun population hpopulation => ?_
  · refine (Upholds.lift hc (Q := fun founder =>
      founder ∈ canonicalFounders (founders.take config.populationSize)) ?_).bind
        fun founder t₁ hle₁ hc₁ hfounder =>
          Genome.mutate_counts chance config hc₁ (numberedBy_founders hfounder)
    intro founder hfounder
    exact List.mem_of_getElem? hfounder
  · obtain rfl := Except.ok.inj hpopulation
    exact ⟨⟨grown.1, rfl, hgrown.2.2⟩, hgrown.2.1⟩

end Growing

section Founders

/-- A founder as it comes: every number at most once, every key at most once, all in their words. -/
structure WellNumbered (founder : Genome) : Prop where
  innovations_nodup : (founder.connections.map ConnectionGene.innovation).Nodup
  keys_nodup : (founder.connections.map ConnectionGene.key).Nodup
  innovation_lt : ∀ edge ∈ founder.connections, edge.innovation < 2 ^ 64
  id_lt : ∀ node ∈ founder.nodes, node.id < 2 ^ 32

/-- The population begins with the founders, which are as they were but for the numbers, and those
stand for the keys; and its counters are behind all the numbers in use. -/
structure Canonical (founders : List Genome) (population : Population) : Prop where
  unchanged : (population.genomes.take founders.length).map Genome.unnumbered =
    founders.map Genome.unnumbered
  shared : ∀ genome ∈ population.genomes.take founders.length,
    ∀ other ∈ population.genomes.take founders.length, ∀ edge ∈ genome.connections,
      ∀ edge' ∈ other.connections, edge.innovation = edge'.innovation ↔ edge.key = edge'.key
  innovations_nodup : ∀ genome ∈ population.genomes.take founders.length,
    (genome.connections.map ConnectionGene.innovation).Nodup
  innovation_lt : ∀ genome ∈ population.genomes, ∀ edge ∈ genome.connections,
    edge.innovation < population.innovations.nextInnovation
  id_lt : ∀ genome ∈ population.genomes, ∀ node ∈ genome.nodes,
    node.id < population.innovations.nextNodeId

variable {founders : List Genome} {population : Population}

theorem Founded.take (h : Founded founders population) :
    population.genomes.take founders.length = canonicalFounders founders := by
  obtain ⟨descendants, hgenomes, -⟩ := h.genomes
  have hlength : (canonicalFounders founders).length = founders.length := by
    have hsame := congrArg List.length (canonicalGenomes_unnumbered
      { nextInnovation := firstFresh founders } founders)
    simpa [canonicalFounders] using hsame
  rw [hgenomes, ← hlength, List.take_left]

theorem Founded.behind (h : Founded founders population)
    (hinnovations : ∀ edge ∈ (canonicalFounders founders).flatMap Genome.connections,
      edge.innovation + 1 < 2 ^ 64)
    (hids : ∀ founder ∈ founders, ∀ node ∈ founder.nodes, node.id + 1 < 2 ^ 32) :
    ∀ genome ∈ population.genomes,
      (∀ edge ∈ genome.connections, edge.innovation < population.innovations.nextInnovation) ∧
        ∀ node ∈ genome.nodes, node.id < population.innovations.nextNodeId := by
  have hnotes := notes_trackerOf (canonicalFounders founders)
  have hold : ∀ number, FounderInnovation (canonicalFounders founders) number →
      number < population.innovations.nextInnovation := by
    rintro _ ⟨edge, hedge, rfl⟩
    have hless := lt_saturatingIncrement (hinnovations edge hedge)
    exact hless.trans_le ((hnotes.innovation_le edge hedge).trans h.counting.innovation_le)
  have holdId : ∀ id, FounderId (canonicalFounders founders) id →
      id < population.innovations.nextNodeId := by
    intro id hid
    obtain ⟨genome, hgenome, hmem⟩ := List.mem_flatMap.mp hid
    obtain ⟨node, hnode, rfl⟩ := List.mem_map.mp hmem
    obtain ⟨founder, hfounder, hsame⟩ := founder_of_canonical hgenome
    rw [unnumbered_nodes hsame] at hnode
    have hless := lt_saturatingIncrement (hids founder hfounder node hnode)
    exact hless.trans_le ((hnotes.id_le _ hid).trans h.counting.id_le)
  have hnumbered : ∀ genome ∈ population.genomes,
      genome.NumberedBy (canonicalFounders founders) population.innovations := by
    obtain ⟨descendants, hgenomes, hdescendants⟩ := h.genomes
    intro genome hgenome
    rw [hgenomes] at hgenome
    obtain hfounder | hdescendant := List.mem_append.mp hgenome
    · exact numberedBy_founders hfounder
    · exact hdescendants genome hdescendant
  intro genome hgenome
  constructor
  · intro edge hedge
    obtain hfounder | hnew := (hnumbered genome hgenome).innovations edge hedge
    · exact hold _ hfounder
    · obtain ⟨entry, hentry, heq⟩ := List.mem_map.mp hnew
      rw [← heq]
      exact (h.counting.connections entry hentry).elim (hold _) id
  · intro node hnode
    obtain hfounder | hnew := (hnumbered genome hgenome).ids node hnode
    · exact holdId _ hfounder
    · obtain ⟨entry, hentry, heq⟩ := List.mem_map.mp hnew
      rw [← heq]
      exact h.counting.splitNodes entry hentry

theorem canonical_of_room (hfounders : ∀ founder ∈ founders, WellNumbered founder)
    (h : Founded founders population) (hroom : Room founders) : Canonical founders population := by
  have hrange : ∀ edge ∈ founders.flatMap Genome.connections, edge.innovation < 2 ^ 64 := by
    intro edge hedge
    obtain ⟨founder, hfounder, hmem⟩ := List.mem_flatMap.mp hedge
    exact (hfounders founder hfounder).innovation_lt edge hmem
  obtain ⟨scan, hscan⟩ | ⟨-, hfull⟩ := canonicalFounders_spec hrange
  · have hbehind := h.behind (fun edge hedge => hscan.innovation_lt hedge) hroom.ids
    have hshared : ∀ genome ∈ canonicalFounders founders, ∀ other ∈ canonicalFounders founders,
        ∀ edge ∈ genome.connections, ∀ edge' ∈ other.connections,
          edge.innovation = edge'.innovation ↔ edge.key = edge'.key :=
      fun genome hgenome other hother edge hedge edge' hedge' =>
        hscan.shared (List.mem_flatMap_of_mem hgenome hedge)
          (List.mem_flatMap_of_mem hother hedge')
    refine ⟨?_, ?_, ?_, fun genome hgenome => (hbehind genome hgenome).1,
      fun genome hgenome => (hbehind genome hgenome).2⟩
    · rw [h.take]
      exact canonicalGenomes_unnumbered _ _
    · rw [h.take]
      exact hshared
    · rw [h.take]
      intro genome hgenome
      obtain ⟨founder, hfounder, hsame⟩ := founder_of_canonical hgenome
      have hkeys := (hfounders founder hfounder).keys_nodup
      rw [← unnumbered_keys hsame] at hkeys
      refine (List.nodup_map_iff_inj_on hkeys.of_map).mpr fun edge hedge edge' hedge' heq => ?_
      exact List.inj_on_of_nodup_map hkeys hedge hedge'
        ((hshared genome hgenome genome hgenome edge hedge edge' hedge').mp heq)
  · exact (hfull ((spare_iff hrange hroom.ids).mpr hroom)).elim

theorem room_of_canonical (hfounders : ∀ founder ∈ founders, WellNumbered founder)
    (h : Founded founders population) (hcanonical : Canonical founders population) :
    Room founders := by
  have hmem : ∀ genome ∈ canonicalFounders founders, genome ∈ population.genomes := by
    intro genome hgenome
    rw [← h.take] at hgenome
    exact List.mem_of_mem_take hgenome
  have hrange : ∀ edge ∈ founders.flatMap Genome.connections, edge.innovation < 2 ^ 64 := by
    intro edge hedge
    obtain ⟨founder, hfounder, hmem⟩ := List.mem_flatMap.mp hedge
    exact (hfounders founder hfounder).innovation_lt edge hmem
  have hids : ∀ founder ∈ founders, ∀ node ∈ founder.nodes, node.id + 1 < 2 ^ 32 := by
    intro founder hfounder node hnode
    obtain ⟨genome, hgenome, hsame⟩ := canonical_of_founder hfounder
    rw [← unnumbered_nodes hsame] at hnode
    have hless := hcanonical.id_lt genome (hmem genome hgenome) node hnode
    have hbound := h.counting.id_lt
    omega
  rw [← spare_iff hrange hids]
  obtain ⟨scan, hscan⟩ | ⟨⟨edge, hedge, hlast⟩, -⟩ := canonicalFounders_spec hrange
  · exact hscan.spare
  · obtain ⟨genome, hgenome, hedge⟩ := List.mem_flatMap.mp hedge
    have hless := hcanonical.innovation_lt genome (hmem genome hgenome) edge hedge
    have hbound := h.counting.innovation_lt
    omega

theorem fromFounders_returns {R : Type} (chance : Chance R) (config : NeatConfig)
    (hsome : founders ≠ []) (hfull : config.populationSize ≤ founders.length) (r : R) :
    ∃ population, (fromFounders chance config founders).run r = some (.ok population, r) := by
  have hempty : founders.isEmpty = false := by simpa using hsome
  have hlength : (canonicalFounders (founders.take config.populationSize)).length =
      config.populationSize := by
    have hsame := congrArg List.length (canonicalGenomes_unnumbered
      { nextInnovation := firstFresh (founders.take config.populationSize) }
      (founders.take config.populationSize))
    rw [List.length_map, List.length_map, List.length_take, Nat.min_eq_left hfull] at hsame
    exact hsame
  rw [fromFounders, hempty]
  simp [hlength]

/-- `fromFounders` makes the founders canonical just when their numbers leave room. -/
theorem fromFounders_canonical_iff {R : Type} (chance : Chance R) (config : NeatConfig)
    (founders : List Genome) (hfounders : ∀ founder ∈ founders, WellNumbered founder) (r : R) :
    (founders ≠ [] → config.populationSize ≤ founders.length →
        ∃ population, (fromFounders chance config founders).run r = some (.ok population, r)) ∧
      ∀ population r', (fromFounders chance config founders).run r = some (.ok population, r') →
        (Canonical (founders.take config.populationSize) population ↔
          Room (founders.take config.populationSize)) := by
  refine ⟨fun hsome hfull => fromFounders_returns chance config hsome hfull r, ?_⟩
  intro population r' hrun
  have hfounded := fromFounders_yields chance config founders r _ r' hrun population rfl
  have htaken : ∀ founder ∈ founders.take config.populationSize, WellNumbered founder :=
    fun founder hfounder => hfounders founder (List.mem_of_mem_take hfounder)
  exact ⟨room_of_canonical htaken hfounded, canonical_of_room htaken hfounded⟩

def biased (innovation output : Nat) : Genome where
  inputCount := 0
  outputCount := 2
  nodes := Genome.minimalNodes 0 2
  connections := [{ innovation, «from» := 0, «to» := output, weight := 1 }]

/-- Two founders whose connections differ but have one number. -/
def clashing (innovation : Nat) : List Genome := [biased innovation 1, biased innovation 2]

theorem clashing_wellNumbered {innovation : Nat} (h : innovation < 2 ^ 64) :
    ∀ founder ∈ clashing innovation, WellNumbered founder := by
  have hbiased : ∀ output, WellNumbered (biased innovation output) := by
    intro output
    have hids : ∀ node ∈ Genome.minimalNodes 0 2, node.id < 2 ^ 32 := by decide
    exact ⟨by simp [biased], by simp [biased], by simpa [biased] using h, hids⟩
  simp [clashing, hbiased]

theorem fromFounders_canonical_clashing : ∃ population,
    (fromFounders leastChance { populationSize := 2 } (clashing 3)).run () =
        some (.ok population, ()) ∧
      Canonical (clashing 3) population := by
  have h := fromFounders_canonical_iff leastChance { populationSize := 2 } (clashing 3)
    (clashing_wellNumbered (by decide)) ()
  obtain ⟨population, hrun⟩ := h.1 (by simp [clashing]) (by decide)
  refine ⟨population, hrun, (h.2 population () hrun).mpr ⟨?_, ?_, ?_⟩⟩
  · decide
  · decide
  · decide

/-- Where no number follows that of two different connections, they keep it both. -/
theorem fromFounders_collides : ∃ population,
    (fromFounders leastChance { populationSize := 2 } (clashing (2 ^ 64 - 1))).run () =
        some (.ok population, ()) ∧
      (∀ founder ∈ clashing (2 ^ 64 - 1), WellNumbered founder) ∧
      ¬Canonical (clashing (2 ^ 64 - 1)) population := by
  obtain ⟨population, hrun⟩ := @fromFounders_returns (clashing (2 ^ 64 - 1)) Unit leastChance
    { populationSize := 2 } (by simp [clashing]) (by decide) ()
  refine ⟨population, hrun, clashing_wellNumbered (by decide), fun hcanonical => ?_⟩
  have hfounded := fromFounders_yields leastChance { populationSize := 2 } (clashing (2 ^ 64 - 1))
    _ _ _ hrun population rfl
  have htaken : (clashing (2 ^ 64 - 1)).take 2 = clashing (2 ^ 64 - 1) := rfl
  rw [htaken] at hfounded
  have hgenomes : canonicalFounders (clashing (2 ^ 64 - 1)) = clashing (2 ^ 64 - 1) := by
    rfl
  have hshared := hcanonical.shared
  rw [hfounded.take, hgenomes] at hshared
  have hsame := hshared (biased (2 ^ 64 - 1) 1) (by simp [clashing]) (biased (2 ^ 64 - 1) 2)
    (by simp [clashing]) _ List.mem_cons_self _ List.mem_cons_self
  exact absurd (hsame.mp rfl) (by decide)

end Founders

end Netherwick.Neat

import Netherwick.Neat.Evolution
import Netherwick.Neat.Quotas
import Netherwick.Neat.Species
import Netherwick.Lib.Delivery

/-! # The champion

Whatever the quotas are reckoned by, the species of a genome of maximal fitness is never stagnant and
breeds first, and its champion goes unchanged before all the others. -/

namespace Netherwick.Neat

open Netherwick.Conductor (totalKey maxBy maxBy_mem)
open Netherwick.Lib

namespace Population

section Evolving

variable {R : Type} (chance : Chance R) (allocate : List Float32 → Nat → List Nat)
  (self : Population)

def breedBy (fitness : List Float32) (globalChampion : Nat) (species : List SpeciesGeneration) :
    Breed R (List (Genome × Nat)) := do
  let offspringCounts :=
    allocate (species.map SpeciesGeneration.adjustedFitness) self.config.populationSize
  let survivors := species.flatMap SpeciesGeneration.members
  let broods ← (species.zip offspringCounts).mapM (self.brood chance fitness survivors)
  let missing := self.config.populationSize - broods.flatten.length
  let fillers ← (List.replicate missing globalChampion).mapM (self.fill chance fitness)
  pure (broods.flatten ++ fillers)

def nextGenerationBy (fitness : List Float32) : Draw R Population := do
  let globalChampion := bestIndex (List.range self.genomes.length) fitness
  let reviewed ← (self.reviewAll fitness globalChampion : Option _)
  let species ← self.breeding fitness globalChampion reviewed.2
  let offspringCounts :=
    allocate (species.map SpeciesGeneration.adjustedFitness) self.config.populationSize
  let survivingIds :=
    ((species.zip offspringCounts).filter fun allotted => allotted.2 ≠ 0).map fun allotted =>
      allotted.1.id
  let (next, innovations) ←
    (self.breedBy chance allocate fitness globalChampion species).run self.innovations
  let generation ← increment 64 self.generation
  pure (assignSpeciesMembers
    { self with
      generation
      genomes := next.map Prod.fst
      innovations
      genomeSpecies := next.map Prod.snd
      speciesRecords := reviewed.1.filter fun record => survivingIds.contains record.id })

def evolveBy (fitness : List Float32) : Draw R (Except String Population) := do
  if fitness.length ≠ self.genomes.length then
    pure (.error ("fitness count " ++ toString fitness.length ++ " does not match population " ++
      toString self.genomes.length))
  else if self.genomes.isEmpty then pure (.error "cannot evolve an empty population")
  else
    let next ← self.ensureSpeciesMembers.nextGenerationBy chance allocate fitness
    pure (.ok next)

def evolveWithElitesBy (fitness : List Float32) (elites : List Genome) :
    Draw R (Except String Population) := do
  let kept := elites.filter fun genome => self.genomes.any fun candidate => candidate.beq genome
  let evolved ← self.evolveBy chance allocate fitness
  match evolved with
  | .error reason => pure (.error reason)
  | .ok next =>
    pure (.ok (assignSpeciesMembers
      { next with genomes := placeElites kept next.genomes.length next.genomes }))

theorem evolveBy_allocateOffspring (fitness : List Float32) :
    self.evolveBy chance allocateOffspring fitness = self.evolve chance fitness := rfl

end Evolving

end Population

section Best

variable {fitness : List Float32} {indices : List Nat}

theorem key_le_foldl {α : Type} (key : α → ℤ) {first : α} {rest : List α} :
    let best := rest.foldl (fun best next =>
      if Ord.compare (key best) (key next) = .gt then best else next) first
    key first ≤ key best ∧ ∀ a ∈ rest, key a ≤ key best := by
  induction rest generalizing first with
  | nil => simp
  | cons head rest ih =>
    simp only [List.foldl_cons, List.forall_mem_cons]
    by_cases hgt : Ord.compare (key first) (key head) = .gt
    · have hless := Int.compare_eq_gt.mp hgt
      obtain ⟨hfirst, hrest⟩ := @ih first
      rw [if_pos hgt]
      exact ⟨hfirst, by omega, hrest⟩
    · have hle : key first ≤ key head := by
        by_contra hless
        exact hgt (Int.compare_eq_gt.mpr (by omega))
      obtain ⟨hhead, hrest⟩ := @ih head
      rw [if_neg hgt]
      exact ⟨by omega, hhead, hrest⟩

theorem bestIndex_spec (h : indices ≠ []) :
    bestIndex indices fitness ∈ indices ∧ ∀ index ∈ indices,
      totalKey (fitnessOf fitness index) ≤ totalKey (fitnessOf fitness (bestIndex indices fitness)) := by
  cases indices with
  | nil => exact absurd rfl h
  | cons first rest =>
    constructor
    · exact maxBy_mem rfl
    · rw [List.forall_mem_cons]
      exact key_le_foldl fun index => totalKey (fitnessOf fitness index)

end Best

section Reviewing

variable {self : Population} {fitness : List Float32} {globalChampion : Nat}

/-- What the review says of a species: its members, the best of them, and whether the champion of all
is one. -/
structure Reviewed (population : Population) (fitness : List Float32) (globalChampion : Nat)
    (entry : SpeciesGeneration) : Prop where
  members_ne : entry.members ≠ []
  members_lt : ∀ index ∈ entry.members, index < population.genomes.length
  champion_mem : entry.championIndex ∈ entry.members
  champion_best : ∀ index ∈ entry.members,
    totalKey (fitnessOf fitness index) ≤ totalKey (fitnessOf fitness entry.championIndex)
  global : entry.containsGlobalChampion = true → globalChampion ∈ entry.members

theorem mem_groups {id : Nat} {members : List Nat} (h : (id, members) ∈ self.speciesMemberGroups) :
    id ∈ self.genomeSpecies ∧ members ≠ [] ∧
      ∀ index ∈ members, index < self.genomeSpecies.length := by
  rw [Population.speciesMemberGroups] at h
  obtain ⟨found, hfound, heq⟩ := List.mem_map.mp h
  obtain ⟨rfl, rfl⟩ := Prod.mk.inj heq
  have hid : found ∈ self.genomeSpecies :=
    List.mem_eraseDups.mp ((List.mem_insertionSort _).mp hfound)
  refine ⟨hid, ?_, ?_⟩
  · obtain ⟨index, hless, hhere⟩ := List.mem_iff_getElem.mp hid
    apply List.ne_nil_of_mem (a := index)
    refine List.mem_map.mpr ⟨(found, index), List.mem_filter.mpr ⟨?_, by simp⟩, rfl⟩
    rw [List.mem_zipIdx_iff_getElem?]
    rw [List.getElem?_eq_getElem hless, hhere]
  · intro index hindex
    obtain ⟨entry, hentry, rfl⟩ := List.mem_map.mp hindex
    have hplace := List.mem_zipIdx_iff_getElem?.mp (List.mem_filter.mp hentry).1
    exact (List.getElem?_eq_some_iff.mp hplace).1

theorem group_of_index {index : Nat} (h : index < self.genomeSpecies.length) :
    ∃ group ∈ self.speciesMemberGroups, index ∈ group.2 := by
  refine ⟨(self.genomeSpecies.get ⟨index, h⟩, _), List.mem_map.mpr ⟨_, ?_, rfl⟩, ?_⟩
  · rw [List.mem_insertionSort, List.mem_eraseDups]
    exact List.get_mem _ _
  · refine List.mem_map.mpr ⟨(self.genomeSpecies.get ⟨index, h⟩, index), ?_, rfl⟩
    refine List.mem_filter.mpr ⟨?_, by simp⟩
    rw [List.mem_zipIdx_iff_getElem?, List.get_eq_getElem]
    exact List.getElem?_eq_getElem h

theorem review_spec {records : List SpeciesRecord} {generation : List SpeciesGeneration}
    {group : Nat × List Nat} {result : List SpeciesRecord × List SpeciesGeneration}
    (hmembers : group.2 ≠ []) (hlt : ∀ index ∈ group.2, index < self.genomes.length)
    (h : self.review fitness globalChampion (records, generation) group = some result) :
    result.1.map SpeciesRecord.id = records.map SpeciesRecord.id ∧
      ∃ entry, Reviewed self fitness globalChampion entry ∧
        (result.2 = generation ++ [entry] ∨ result.2 = generation ∧ globalChampion ∉ group.2) ∧
        (globalChampion ∈ group.2 → entry.containsGlobalChampion = true) := by
  obtain ⟨id, members⟩ := group
  obtain ⟨hbest, hmax⟩ := @bestIndex_spec fitness members hmembers
  simp only [Population.review, Option.bind_eq_bind, Option.bind_eq_some_iff] at h
  obtain ⟨place, hplace, record, hrecord, champion, hchampion, h⟩ := h
  simp only [Option.pure_def, Option.some.injEq] at h
  have hsameId : (record.reviewed champion
      (finiteOrZero (fitnessOf fitness (bestIndex members fitness)))).id = record.id := by
    rw [SpeciesRecord.reviewed]
    simp only
    split <;> rfl
  have hentry : Reviewed self fitness globalChampion
      { id, members
        adjustedFitness := sum32 (members.map fun index =>
          finiteOrZero (fitnessOf fitness index) / Float32.ofNat members.length)
        championIndex := bestIndex members fitness
        containsGlobalChampion := members.contains globalChampion } :=
    ⟨hmembers, hlt, hbest, hmax, fun hcontains => List.contains_iff_mem.mp hcontains⟩
  rw [← h]
  refine ⟨?_, _, hentry, ?_, fun hmem => List.contains_iff_mem.mpr hmem⟩
  · rw [List.map_set, hsameId]
    obtain ⟨hless, hhere⟩ := List.getElem?_eq_some_iff.mp hrecord
    apply List.ext_getElem?
    intro index
    rw [List.getElem?_set]
    by_cases hindex : place = index
    · subst hindex
      simp [hless, hhere]
    · rw [if_neg hindex]
  · simp only
    split
    · rename_i hstagnant
      right
      refine ⟨rfl, fun hmem => ?_⟩
      simp [hmem] at hstagnant
    · exact .inl rfl

theorem reviewAll_spec {groups : List (Nat × List Nat)} {progress result :
      List SpeciesRecord × List SpeciesGeneration}
    (hgroups : ∀ group ∈ groups, group.2 ≠ [] ∧ ∀ index ∈ group.2, index < self.genomes.length)
    (hbefore : ∀ entry ∈ progress.2, Reviewed self fitness globalChampion entry)
    (h : groups.foldlM (self.review fitness globalChampion) progress = some result) :
    result.1.map SpeciesRecord.id = progress.1.map SpeciesRecord.id ∧
      (∀ entry ∈ result.2, Reviewed self fitness globalChampion entry) ∧
      progress.2 ⊆ result.2 ∧
      ∀ group ∈ groups, globalChampion ∈ group.2 →
        ∃ entry ∈ result.2, entry.containsGlobalChampion = true := by
  induction groups generalizing progress with
  | nil =>
    simp only [List.foldlM_nil, Option.pure_def, Option.some.injEq] at h
    subst h
    exact ⟨rfl, hbefore, List.Subset.refl _, by simp⟩
  | cons group groups ih =>
    rw [List.forall_mem_cons] at hgroups
    rw [List.foldlM_cons] at h
    obtain ⟨middle, hfirst, hrest⟩ := Option.bind_eq_some_iff.mp h
    obtain ⟨hids, entry, hentry, hadded, hglobal⟩ :=
      review_spec hgroups.1.1 hgroups.1.2 hfirst
    have hmiddle : ∀ entry ∈ middle.2, Reviewed self fitness globalChampion entry := by
      intro other hother
      obtain hall | ⟨hall, -⟩ := hadded
      · rw [hall] at hother
        obtain hold | hnew := List.mem_append.mp hother
        · exact hbefore other hold
        · rw [List.mem_singleton.mp hnew]
          exact hentry
      · rw [hall] at hother
        exact hbefore other hother
    have hkept : progress.2 ⊆ middle.2 := by
      obtain hall | ⟨hall, -⟩ := hadded
      · rw [hall]
        exact List.subset_append_left _ _
      · rw [hall]
        exact List.Subset.refl _
    obtain ⟨hidsRest, hresult, hsubset, hchampion⟩ := ih hgroups.2 hmiddle hrest
    refine ⟨hidsRest.trans hids, hresult, fun _ hmem => hsubset (hkept hmem), ?_⟩
    rw [List.forall_mem_cons]
    refine ⟨fun hmem => ?_, hchampion⟩
    obtain hall | ⟨-, hnone⟩ := hadded
    · refine ⟨entry, hsubset ?_, hglobal hmem⟩
      rw [hall]
      exact List.mem_append_right _ List.mem_cons_self
    · exact absurd hmem hnone

theorem head_sorted {species : List SpeciesGeneration}
    (h : ∃ entry ∈ species, entry.containsGlobalChampion = true) :
    ∃ first, (species.insertionSort
        fun left right => Population.breedsBefore left right = true).head? = some first ∧
      first.containsGlobalChampion = true := by
  induction species with
  | nil => simp at h
  | cons a species ih =>
    rw [List.insertionSort_cons]
    by_cases hrest : ∃ entry ∈ species, entry.containsGlobalChampion = true
    · obtain ⟨b, hb, hchampion⟩ := ih hrest
      generalize species.insertionSort
        (fun left right => Population.breedsBefore left right = true) = sorted at hb ⊢
      cases sorted with
      | nil => cases hb
      | cons head sorted =>
        obtain rfl := Option.some.inj hb
        by_cases hbefore : Population.breedsBefore a head = true
        · rw [List.orderedInsert, if_pos hbefore]
          refine ⟨a, rfl, ?_⟩
          by_contra ha
          simp [Population.breedsBefore, hchampion, ha] at hbefore
        · rw [List.orderedInsert, if_neg hbefore]
          exact ⟨head, rfl, hchampion⟩
    · have ha : a.containsGlobalChampion = true := by
        obtain ⟨entry, hentry, hchampion⟩ := h
        obtain rfl | hmem := List.mem_cons.mp hentry
        · exact hchampion
        · exact absurd ⟨entry, hmem, hchampion⟩ hrest
      cases hsorted : species.insertionSort
          (fun left right => Population.breedsBefore left right = true) with
      | nil => exact ⟨a, rfl, ha⟩
      | cons head sorted =>
        have hmem : head ∈ species := by
          rw [← List.mem_insertionSort
            (fun left right => Population.breedsBefore left right = true), hsorted]
          exact List.mem_cons_self
        have hother : ¬head.containsGlobalChampion = true := fun hchampion =>
          hrest ⟨head, hmem, hchampion⟩
        have hbefore : Population.breedsBefore a head = true := by
          simp [Population.breedsBefore, ha, hother]
        rw [List.orderedInsert, if_pos hbefore]
        exact ⟨a, rfl, ha⟩

end Reviewing

section Breeding

variable {R : Type} (chance : Chance R) {allocate : List Float32 → Nat → List Nat}
  {self : Population} {fitness : List Float32} {globalChampion : Nat}

/-- What a species leaves: as many genomes as it is allotted, its champion first. -/
def IsBrood (population : Population) (allotted : SpeciesGeneration × Nat)
    (offspring : List (Genome × Nat)) : Prop :=
  offspring.length = allotted.2 ∧ (0 < allotted.2 → ∃ champion id,
    population.genomes[allotted.1.championIndex]? = some champion ∧
      offspring.head? = some (champion, id))

theorem brood_gives {survivors : List Nat} (allotted : SpeciesGeneration × Nat) :
    Gives (self.brood chance fitness survivors allotted) (IsBrood self allotted) := by
  refine Gives.ite (fun hnone => Gives.pure ⟨hnone.symm, by omega⟩) fun hsome => ?_
  refine (Gives.lift (Q := fun champion =>
    self.genomes[allotted.1.championIndex]? = some champion) fun _ h => h).bind
      fun champion hchampion => ?_
  refine (Gives.length_mapM _ _).bind
    fun children hchildren => Gives.pure ⟨?_, fun _ => ⟨champion, _, hchampion, rfl⟩⟩
  rw [List.length_replicate] at hchildren
  rw [List.length_map, List.length_cons, hchildren]
  omega

theorem length_flatten_broods {allotments : List (SpeciesGeneration × Nat)}
    {broods : List (List (Genome × Nat))} (h : List.Forall₂ (IsBrood self) allotments broods) :
    broods.flatten.length = (allotments.map Prod.snd).sum := by
  induction h with
  | nil => rfl
  | cons hfirst _ ih =>
    rw [List.flatten_cons, List.length_append, ih, hfirst.1, List.map_cons, List.sum_cons]

/-- A generation is as large as is allotted, or as the population where that is less, and the
champion of the first species leads it. -/
theorem breedBy_gives (hallocate : Provides allocate) {first : SpeciesGeneration}
    {rest : List SpeciesGeneration} (hfew : (first :: rest).length ≤ self.config.populationSize) :
    Gives (self.breedBy chance allocate fitness globalChampion (first :: rest)) fun next =>
      self.config.populationSize ≤ next.length ∧
        (AddsUp allocate → next.length = self.config.populationSize) ∧
        ∃ champion id, self.genomes[first.championIndex]? = some champion ∧
          next.head? = some (champion, id) := by
  have hpos : 0 < self.config.populationSize := by
    rw [List.length_cons] at hfew
    omega
  have hscores : (first :: rest).map SpeciesGeneration.adjustedFitness ≠ [] := by simp
  obtain ⟨hlength, hone⟩ := hallocate _ _ hscores hpos
  have hsum : AddsUp allocate → _ := fun h => h _ _ hscores hpos
  have hmin : Nat.min (first :: rest).length self.config.populationSize =
      (first :: rest).length := Nat.min_eq_left hfew
  rw [List.length_map, hmin] at hlength
  rw [Population.breedBy]
  generalize allocate ((first :: rest).map SpeciesGeneration.adjustedFitness)
    self.config.populationSize = counts at hlength hone hsum
  refine (Gives.mapM fun allotted _ => brood_gives chance allotted).bind fun broods hbroods => ?_
  refine (Gives.length_mapM _ _).bind fun fillers hfillers => Gives.pure ?_
  have hallotted := length_flatten_broods hbroods
  have hcounts : ((first :: rest).zip counts).map Prod.snd = counts :=
    List.map_snd_zip (by omega)
  rw [List.length_replicate] at hfillers
  rw [hcounts] at hallotted
  rw [List.length_append]
  refine ⟨by omega, fun h => by have htotal := hsum h; omega, ?_⟩
  cases counts with
  | nil => simp at hlength
  | cons count counts =>
    rw [List.zip_cons_cons] at hbroods
    cases hbroods with
    | cons hbrood hothers =>
      obtain ⟨champion, id, hchampion, hhead⟩ := hbrood.2 (hone count List.mem_cons_self)
      refine ⟨champion, id, hchampion, ?_⟩
      rw [List.flatten_cons, List.append_assoc, List.head?_append, hhead]
      rfl

theorem breeding_spec {generation species : List SpeciesGeneration}
    (hpos : 0 < self.config.populationSize)
    (hreviewed : ∀ entry ∈ generation, Reviewed self fitness globalChampion entry)
    (hchampion : ∃ entry ∈ generation, entry.containsGlobalChampion = true)
    (h : self.breeding fitness globalChampion generation = some species) :
    ∃ first rest, species = first :: rest ∧ first.containsGlobalChampion = true ∧
      species.length ≤ self.config.populationSize ∧
      ∀ entry ∈ species, Reviewed self fitness globalChampion entry := by
  have hsome : generation.isEmpty = false := by
    obtain ⟨entry, hentry, -⟩ := hchampion
    cases generation with
    | nil => cases hentry
    | cons _ _ => rfl
  rw [Population.breeding, if_neg (by simp [hsome])] at h
  obtain ⟨first, hfirst, hglobal⟩ := head_sorted hchampion
  obtain rfl := Option.some.inj h
  have hmem : ∀ entry ∈ (generation.insertionSort fun left right =>
      Population.breedsBefore left right = true).take self.config.populationSize,
      Reviewed self fitness globalChampion entry := by
    intro entry hentry
    exact hreviewed entry ((List.mem_insertionSort _).mp (List.mem_of_mem_take hentry))
  generalize generation.insertionSort
    (fun left right => Population.breedsBefore left right = true) = sorted at hfirst hmem ⊢
  cases sorted with
  | nil => cases hfirst
  | cons head sorted =>
    obtain rfl := Option.some.inj hfirst
    obtain ⟨fewer, hfewer⟩ := Nat.exists_eq_succ_of_ne_zero hpos.ne'
    refine ⟨head, sorted.take fewer, ?_, hglobal, ?_, hmem⟩
    · rw [hfewer, List.take_succ_cons]
    · rw [List.length_take]
      exact Nat.min_le_left _ _

theorem Listed.of_ids {records others : List SpeciesRecord} {nextId : Nat}
    (h : Listed records nextId)
    (hids : others.map SpeciesRecord.id = records.map SpeciesRecord.id) : Listed others nextId where
  distinct := by
    rw [hids]
    exact h.distinct
  below record hrecord := by
    have hmem : record.id ∈ records.map SpeciesRecord.id := by
      rw [← hids]
      exact List.mem_map_of_mem hrecord
    obtain ⟨old, hold, heq⟩ := List.mem_map.mp hmem
    rw [← heq]
    exact h.below old hold

/-- What comes after a population: a champion of it, unchanged, and others after it, all with their
species. -/
structure Succession (allocate : List Float32 → Nat → List Nat) (population : Population)
    (fitness : List Float32) (next : Population) : Prop where
  config : next.config = population.config
  enough : population.config.populationSize ≤ next.genomes.length
  size : AddsUp allocate → next.genomes.length = population.config.populationSize
  champion : ∃ index champion, population.genomes[index]? = some champion ∧
    next.genomes[0]? = some champion ∧ ∀ other < population.genomes.length,
      totalKey (fitnessOf fitness other) ≤ totalKey (fitnessOf fitness index)
  species : SpeciesFound next
  next_id_le : next.nextSpeciesId ≤ population.nextSpeciesId + next.genomes.length
  listed_or_spent : Listed population.speciesRecords population.nextSpeciesId ∨
      Spent population.nextSpeciesId →
    Listed next.speciesRecords next.nextSpeciesId ∨ Spent next.nextSpeciesId
  listed : Listed population.speciesRecords population.nextSpeciesId →
    population.nextSpeciesId + next.genomes.length < 2 ^ 64 →
    Listed next.speciesRecords next.nextSpeciesId

theorem nextGenerationBy_yields (hallocate : Provides allocate)
    (hpos : 0 < self.config.populationSize) (hsome : self.genomes ≠ [])
    (hassigned : self.genomeSpecies.length = self.genomes.length) :
    Yields (self.nextGenerationBy chance allocate fitness) (Succession allocate self fitness) := by
  have hrange : List.range self.genomes.length ≠ [] := by simpa using hsome
  obtain ⟨hbestMem, hbest⟩ := @bestIndex_spec fitness _ hrange
  rw [Population.nextGenerationBy]
  simp only
  generalize bestIndex (List.range self.genomes.length) fitness = globalChampion at hbestMem hbest ⊢
  rw [List.mem_range, ← hassigned] at hbestMem
  obtain ⟨group, hgroup, hhere⟩ := group_of_index hbestMem
  have hgroups : ∀ group ∈ self.speciesMemberGroups,
      group.2 ≠ [] ∧ ∀ index ∈ group.2, index < self.genomes.length := by
    rintro ⟨id, members⟩ hmem
    obtain ⟨-, hne, hlt⟩ := mem_groups hmem
    rw [hassigned] at hlt
    exact ⟨hne, hlt⟩
  refine Yields.bind (Yields.lift (Q := fun reviewed =>
    reviewed.1.map SpeciesRecord.id = self.speciesRecords.map SpeciesRecord.id ∧
      (∀ entry ∈ reviewed.2, Reviewed self fitness globalChampion entry) ∧
      ∃ entry ∈ reviewed.2, entry.containsGlobalChampion = true) ?_) fun reviewed hreviewed => ?_
  · intro reviewed hrun
    obtain ⟨hids, hentries, -, hchampion⟩ := reviewAll_spec hgroups (by simp) hrun
    exact ⟨hids, hentries, hchampion group hgroup hhere⟩
  obtain ⟨hids, hentries, hchampion⟩ := hreviewed
  refine Yields.bind (Yields.lift fun species h =>
    breeding_spec hpos hentries hchampion h) fun species hspecies => ?_
  obtain ⟨first, rest, rfl, hglobal, hfew, hreviewed⟩ := hspecies
  refine Yields.bind (breedBy_gives chance hallocate hfew _) fun bred hbred => ?_
  obtain ⟨henough, hsize, champion, id, hfound, hhead⟩ := hbred
  refine Yields.bind Yields.any fun generation _ => Yields.pure ?_
  have hfirst := hreviewed first List.mem_cons_self
  have hkept : ∀ kept : SpeciesRecord → Bool, Listed self.speciesRecords self.nextSpeciesId →
      Listed (reviewed.1.filter kept) self.nextSpeciesId :=
    fun _ h => (h.of_ids hids).sublist List.filter_sublist
  refine ⟨rfl, ?_, ?_, ⟨first.championIndex, champion, hfound, ?_, ?_⟩, assigned_found,
    assigned_next_le, fun h => assigned_listed_or_spent (h.imp_left (hkept _)),
    fun h hroom => assigned_listed (hkept _ h) hroom⟩
  · rw [Population.assignSpeciesMembers_genomes, List.length_map]
    exact henough
  · rw [Population.assignSpeciesMembers_genomes, List.length_map]
    exact hsize
  · rw [Population.assignSpeciesMembers_genomes, List.getElem?_map, ← List.head?_eq_getElem?, hhead]
    rfl
  · intro other hother
    exact (hbest other (List.mem_range.mpr hother)).trans
      (hfirst.champion_best globalChampion (hfirst.global hglobal))

theorem ensureSpeciesMembers_assigned :
    self.ensureSpeciesMembers.genomeSpecies.length = self.ensureSpeciesMembers.genomes.length := by
  rw [Population.ensureSpeciesMembers]
  split
  · exact assigned_found.assigned
  · rename_i hassigned
    simp only [Bool.or_eq_true, decide_eq_true_eq, not_or, not_not] at hassigned
    exact hassigned.2

theorem evolveBy_yields (hallocate : Provides allocate) (hpos : 0 < self.config.populationSize) :
    Yields (self.evolveBy chance allocate fitness) fun evolved => ∀ next, evolved = .ok next →
      Succession allocate self.ensureSpeciesMembers fitness next := by
  refine Yields.ite (fun _ => Yields.pure (by simp)) fun _ =>
    Yields.ite (fun _ => Yields.pure (by simp)) fun hsome => ?_
  have hconfig : self.ensureSpeciesMembers.config = self.config := by
    rw [Population.ensureSpeciesMembers]
    split <;> rfl
  rw [← hconfig] at hpos
  refine (nextGenerationBy_yields chance hallocate hpos ?_ ensureSpeciesMembers_assigned).bind
    fun next hnext => Yields.pure fun evolved hevolved => ?_
  · rw [Population.ensureSpeciesMembers_genomes]
    simpa using hsome
  · obtain rfl := Except.ok.inj hevolved
    exact hnext

end Breeding

end Netherwick.Neat

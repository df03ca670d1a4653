import Netherwick.Neat.Champion
import Netherwick.Neat.Founders
import Netherwick.Neat.Panics

/-! # Evolution keeps its books

A population of evolution has a species for every genome and a record for every species, so a
generation never looks for a record that is not there. Where the weights can be moved and the counters
have room, `evolve` returns: a population of the size asked for, led by a genome of maximal fitness,
with its species in order again. -/

namespace Netherwick.Neat

open Netherwick.Conductor (totalKey)
open Netherwick.Lib

section Breeding

variable {R : Type} (chance : Chance R) {allocate : List Float32 → Nat → List Nat}
  {self : Population} {fitness : List Float32} {globalChampion : Nat} {t : InnovationTracker}

/-- Room for so many mutations. -/
def Bears (mutations : Nat) (t : InnovationTracker) : Prop := Affords (4 * mutations) mutations t

/-- Indices that parents can be chosen from. -/
def Parents (population : Population) (indices : List Nat) : Prop :=
  indices ≠ [] ∧ ∀ index ∈ indices, index < population.genomes.length

theorem genome_of_index {index : Nat} (h : index < self.genomes.length) :
    ∃ genome, self.genomes[index]? = some genome :=
  ⟨_, List.getElem?_eq_getElem h⟩

theorem conceive_delivers {survivors : List Nat} {species : SpeciesGeneration}
    (hmembers : Parents self species.members) (hsurvivors : Parents self survivors) :
    Delivers (self.conceive chance fitness survivors species) fun _ => True := by
  refine (selectParentFromIndices_delivers chance hmembers.1 fitness).bind fun first hfirst => ?_
  obtain ⟨mother, hmother⟩ := genome_of_index (hmembers.2 first hfirst)
  refine (gen_delivers chance).bind fun foreign _ => (gen_delivers chance).bind fun crossed _ => ?_
  refine Delivers.ite (fun _ => ?_) fun _ => Delivers.lift hmother trivial
  have hpool : ∀ pool, Parents self pool → Delivers (do
      let second ← selectParentFromIndices chance pool fitness
      let mother ← self.genomes[first]?
      let father ← self.genomes[second]?
      if fitnessOf fitness second ≤ fitnessOf fitness first then mother.crossover chance father
      else father.crossover chance mother : Draw R Genome) fun _ => True := by
    intro pool hparents
    refine (selectParentFromIndices_delivers chance hparents.1 fitness).bind fun second hsecond => ?_
    obtain ⟨father, hfather⟩ := genome_of_index (hparents.2 second hsecond)
    refine (Delivers.lift hmother trivial).bind fun found (_ : True) => ?_
    refine (Delivers.lift hfather trivial).bind fun other (_ : True) => ?_
    exact Delivers.ite (fun _ => Genome.crossover_delivers chance found other)
      fun _ => Genome.crossover_delivers chance other found
  apply hpool
  split
  · exact hsurvivors
  · exact hmembers

theorem bear_delivers {survivors : List Nat} {species : SpeciesGeneration} {mutations : Nat}
    (hdrawn : PerturbationDrawn self.config) (hmembers : Parents self species.members)
    (hsurvivors : Parents self survivors) (h : Bears (mutations + 1) t) :
    DeliversFrom (self.bear chance fitness survivors species) t fun _ t' => Bears mutations t' := by
  refine (DeliversFrom.draw (conceive_delivers chance hmembers hsurvivors)).bind
    fun child t₁ hchild => ?_
  obtain ⟨rfl, -⟩ := hchild
  exact Genome.mutate_delivers chance hdrawn child h

theorem brood_delivers {survivors : List Nat} {allotted : SpeciesGeneration × Nat} {left : Nat}
    (hdrawn : 1 < allotted.2 → PerturbationDrawn self.config)
    (hreviewed : Reviewed self fitness globalChampion allotted.1)
    (hsurvivors : Parents self survivors) (h : Bears (left + (allotted.2 - 1)) t) :
    DeliversFrom (self.brood chance fitness survivors allotted) t fun _ t' => Bears left t' := by
  have hmembers : Parents self allotted.1.members := ⟨hreviewed.members_ne, hreviewed.members_lt⟩
  refine DeliversFrom.ite (fun hnone => DeliversFrom.pure ?_) fun hsome => ?_
  · rw [hnone] at h
    exact h
  obtain ⟨champion, hchampion⟩ :=
    genome_of_index (hreviewed.members_lt _ hreviewed.champion_mem)
  refine (DeliversFrom.lift hchampion).bind fun found t₁ hfound => ?_
  obtain ⟨rfl, -⟩ := hfound
  have hcost : ((List.replicate (allotted.2 - 1) allotted.1).map fun _ => 1).sum =
      allotted.2 - 1 := by simp
  rw [← hcost] at h
  refine (DeliversFrom.mapM (R := fun _ _ => True) h fun species hspecies t' spare hspare =>
    ?_).bind fun children t' hchildren => DeliversFrom.pure hchildren.1
  have hmore : 1 < allotted.2 := by
    have hpos := List.length_pos_of_mem hspecies
    rw [List.length_replicate] at hpos
    omega
  rw [List.eq_of_mem_replicate hspecies]
  exact (bear_delivers chance (hdrawn hmore) hmembers hsurvivors hspare).imp
    fun _ _ hleft => ⟨hleft, trivial⟩

theorem sum_sub_one {counts : List Nat} (h : ∀ count ∈ counts, 1 ≤ count) :
    (counts.map (· - 1)).sum + counts.length = counts.sum := by
  induction counts with
  | nil => rfl
  | cons count counts ih =>
    rw [List.forall_mem_cons] at h
    have hrest := ih h.2
    simp only [List.map_cons, List.sum_cons, List.length_cons]
    omega

theorem breedBy_delivers (hallocate : Provides allocate) (haddsUp : AddsUp allocate)
    {species : List SpeciesGeneration} (hsome : species ≠ [])
    (hfew : species.length ≤ self.config.populationSize)
    (hreviewed : ∀ entry ∈ species, Reviewed self fitness globalChampion entry)
    (hdrawn : 1 < self.config.populationSize → PerturbationDrawn self.config)
    (h : Bears (self.config.populationSize - 1) t) :
    DeliversFrom (self.breedBy chance allocate fitness globalChampion species) t
      fun _ _ => True := by
  have hlengthPos := List.length_pos_iff.mpr hsome
  have hscores : species.map SpeciesGeneration.adjustedFitness ≠ [] := by simpa using hsome
  obtain ⟨hlength, hone⟩ := hallocate _ _ hscores (hlengthPos.trans_le hfew)
  have hsum := haddsUp _ _ hscores (hlengthPos.trans_le hfew)
  have hmin : Nat.min species.length self.config.populationSize = species.length :=
    Nat.min_eq_left hfew
  rw [List.length_map, hmin] at hlength
  rw [Population.breedBy]
  simp only
  generalize allocate (species.map SpeciesGeneration.adjustedFitness)
    self.config.populationSize = counts at hlength hone hsum ⊢
  have hcounts : (species.zip counts).map Prod.snd = counts := List.map_snd_zip (by omega)
  have hsurvivors : Parents self (species.flatMap SpeciesGeneration.members) := by
    constructor
    · obtain ⟨entry, hentry⟩ := List.exists_mem_of_ne_nil species hsome
      obtain ⟨index, hindex⟩ :=
        List.exists_mem_of_ne_nil entry.members (hreviewed entry hentry).members_ne
      exact List.ne_nil_of_mem (List.mem_flatMap_of_mem hentry hindex)
    · intro index hindex
      obtain ⟨entry, hentry, hmem⟩ := List.mem_flatMap.mp hindex
      exact (hreviewed entry hentry).members_lt index hmem
  have hcost : 0 + ((species.zip counts).map fun allotted => allotted.2 - 1).sum ≤
      self.config.populationSize - 1 := by
    have hsubs : (species.zip counts).map (fun allotted => allotted.2 - 1) =
        counts.map (· - 1) := by
      rw [← hcounts, List.map_map, hcounts]
      rfl
    have htotal := sum_sub_one hone
    rw [hsubs]
    omega
  have hbears : Bears (0 + ((species.zip counts).map fun allotted => allotted.2 - 1).sum) t :=
    h.mono (Nat.mul_le_mul_left 4 hcost) hcost
  refine (DeliversFrom.mapM (R := IsBrood self) hbears fun allotted hallotted t' left hleft =>
    ?_).bind fun broods t' hbroods => ?_
  · have hmem := List.of_mem_zip hallotted
    refine (brood_delivers chance (fun hmore => hdrawn ?_) (hreviewed _ hmem.1) hsurvivors
      hleft).and_gives (brood_gives chance allotted)
    rw [← hsum]
    exact hmore.trans_le (List.le_sum_of_mem hmem.2)
  · have hflat := length_flatten_broods hbroods.2
    rw [hcounts, hsum] at hflat
    rw [hflat, Nat.sub_self]
    exact DeliversFrom.pure trivial

theorem review_isSome {records : List SpeciesRecord} {generation : List SpeciesGeneration}
    {group : Nat × List Nat} (hrecord : group.1 ∈ records.map SpeciesRecord.id)
    (hmembers : Parents self group.2) :
    ∃ result, self.review fitness globalChampion (records, generation) group = some result := by
  obtain ⟨id, members⟩ := group
  obtain ⟨hbest, -⟩ := @bestIndex_spec fitness members hmembers.1
  obtain ⟨champion, hchampion⟩ := genome_of_index (hmembers.2 _ hbest)
  have hfound : ∃ place, records.findIdx? (fun record => record.id == id) = some place := by
    apply Option.isSome_iff_exists.mp
    rw [List.findIdx?_isSome, List.any_eq_true]
    obtain ⟨record, hmem, heq⟩ := List.mem_map.mp hrecord
    exact ⟨record, hmem, by simpa using heq⟩
  obtain ⟨place, hplace⟩ := hfound
  have hless : place < records.length := (List.findIdx?_eq_some_iff_getElem.mp hplace).1
  rw [Population.review]
  simp only [hplace, hchampion, List.getElem?_eq_getElem hless, Option.bind_eq_bind,
    Option.bind_some, Option.pure_def]
  exact ⟨_, rfl⟩

theorem reviewAll_isSome {groups : List (Nat × List Nat)}
    {progress : List SpeciesRecord × List SpeciesGeneration}
    (hgroups : ∀ group ∈ groups, group.1 ∈ progress.1.map SpeciesRecord.id ∧ Parents self group.2) :
    ∃ result, groups.foldlM (self.review fitness globalChampion) progress = some result := by
  induction groups generalizing progress with
  | nil => exact ⟨progress, rfl⟩
  | cons group groups ih =>
    rw [List.forall_mem_cons] at hgroups
    obtain ⟨middle, hmiddle⟩ := @review_isSome self fitness globalChampion progress.1 progress.2
      group hgroups.1.1 hgroups.1.2
    obtain ⟨hids, -⟩ := review_spec hgroups.1.2.1 hgroups.1.2.2 hmiddle
    obtain ⟨result, hresult⟩ := @ih middle (by rw [hids]; exact hgroups.2)
    refine ⟨result, ?_⟩
    rw [List.foldlM_cons]
    exact Option.bind_eq_some_iff.mpr ⟨middle, hmiddle, hresult⟩

end Breeding

section Returning

variable {R : Type} (chance : Chance R) {allocate : List Float32 → Nat → List Nat}
  {self : Population} {fitness : List Float32}

/-- The weights can be moved, if there is a child to mutate, and the counters have room for what one
generation may number. -/
structure HasRoom (population : Population) : Prop where
  perturbation : 1 < population.config.populationSize → PerturbationDrawn population.config
  numbers : Bears (population.config.populationSize - 1) population.innovations
  generation : population.generation + 1 < 2 ^ 64
  species : population.nextSpeciesId + population.config.populationSize < 2 ^ 64

theorem nextGenerationBy_delivers (hallocate : Provides allocate) (haddsUp : AddsUp allocate)
    (hpos : 0 < self.config.populationSize) (hsome : self.genomes ≠ []) (hfound : SpeciesFound self)
    (hroom : HasRoom self) :
    Delivers (self.nextGenerationBy chance allocate fitness) fun _ => True := by
  have hrange : List.range self.genomes.length ≠ [] := by simpa using hsome
  obtain ⟨hbestMem, -⟩ := @bestIndex_spec fitness _ hrange
  rw [Population.nextGenerationBy]
  simp only
  generalize bestIndex (List.range self.genomes.length) fitness = globalChampion at hbestMem ⊢
  rw [List.mem_range, ← hfound.assigned] at hbestMem
  obtain ⟨group, hgroup, hhere⟩ := group_of_index hbestMem
  have hgroups : ∀ group ∈ self.speciesMemberGroups,
      group.1 ∈ self.speciesRecords.map SpeciesRecord.id ∧ Parents self group.2 := by
    rintro ⟨id, members⟩ hmem
    obtain ⟨hid, hne, hlt⟩ := mem_groups hmem
    rw [hfound.assigned] at hlt
    exact ⟨hfound.recorded id hid, hne, hlt⟩
  obtain ⟨reviewed, hreviewed⟩ : ∃ reviewed, self.reviewAll fitness globalChampion = some reviewed :=
    reviewAll_isSome hgroups
  obtain ⟨-, hentries, -, hchampion⟩ :=
    reviewAll_spec (fun group hgroup => (hgroups group hgroup).2) (by simp) hreviewed
  obtain ⟨entry, hentry, hglobal⟩ := hchampion group hgroup hhere
  refine (Delivers.lift hreviewed rfl).bind fun found (hsame : reviewed = found) => ?_
  subst hsame
  have hbreeds : ∃ species, self.breeding fitness globalChampion reviewed.2 = some species := by
    have hmany : ¬reviewed.2.isEmpty = true := by
      rw [List.isEmpty_iff]
      exact List.ne_nil_of_mem hentry
    rw [Population.breeding, if_neg hmany]
    exact ⟨_, rfl⟩
  obtain ⟨species, hspecies⟩ := hbreeds
  obtain ⟨first, rest, hfirst, -, hfew, hall⟩ :=
    breeding_spec hpos hentries ⟨entry, hentry, hglobal⟩ hspecies
  refine (Delivers.lift hspecies rfl).bind fun chosen (hsame : species = chosen) => ?_
  subst hsame
  have hne : species ≠ [] := by
    rw [hfirst]
    simp
  refine Delivers.bind (breedBy_delivers chance hallocate haddsUp hne hfew hall
    hroom.perturbation hroom.numbers) fun bred _ => ?_
  have hgeneration : increment 64 self.generation = some (self.generation + 1) := by
    rw [increment, if_pos hroom.generation]
  exact (Delivers.lift hgeneration trivial).bind fun _ (_ : True) => Delivers.pure trivial

theorem ensureSpeciesMembers_of_found (hsome : self.genomes ≠ []) (hfound : SpeciesFound self) :
    self.ensureSpeciesMembers = self := by
  have hrecords : self.speciesRecords.isEmpty = false := by
    have hpos := List.length_pos_iff.mpr hsome
    rw [← hfound.assigned] at hpos
    obtain ⟨id, hid⟩ := List.exists_mem_of_length_pos hpos
    obtain ⟨record, hrecord, -⟩ := List.mem_map.mp (hfound.recorded id hid)
    cases hrecords : self.speciesRecords with
    | nil => simp [hrecords] at hrecord
    | cons _ _ => rfl
  rw [Population.ensureSpeciesMembers, if_neg]
  simp [hrecords, hfound.assigned]

theorem evolveBy_delivers (hallocate : Provides allocate) (haddsUp : AddsUp allocate)
    (hpos : 0 < self.config.populationSize) (hsome : self.genomes ≠ []) (hfound : SpeciesFound self)
    (hroom : HasRoom self) (hlength : fitness.length = self.genomes.length) :
    Delivers (self.evolveBy chance allocate fitness) fun evolved =>
      ∃ next, evolved = .ok next ∧ Succession allocate self fitness next := by
  have hensured := ensureSpeciesMembers_of_found hsome hfound
  have hyields := @evolveBy_yields R chance allocate self fitness hallocate hpos
  rw [hensured] at hyields
  have hdelivers : Delivers (self.evolveBy chance allocate fitness)
      fun evolved => ∃ next, evolved = .ok next := by
    refine Delivers.ite (fun hother => absurd hlength hother) fun _ =>
      Delivers.ite (fun hempty => absurd (List.isEmpty_iff.mp hempty) hsome) fun _ => ?_
    rw [hensured]
    exact (nextGenerationBy_delivers chance hallocate haddsUp hpos hsome hfound hroom).bind
      fun next _ => Delivers.pure ⟨next, rfl⟩
  intro r
  obtain ⟨evolved, r', hrun, next, hnext⟩ := hdelivers r
  exact ⟨evolved, r', hrun, next, hnext, hyields r evolved r' hrun next hnext⟩

end Returning

section Runs

variable {R : Type} (chance : Chance R)

/-- The populations that the program leads to: founded, evolved with exact quotas, with or without a
protected repertoire, given descendants of founders, or compared by another threshold. Each call
draws from a generator in any state. -/
inductive Reached : Population → Prop
  | seeded {config : NeatConfig} {population : Population} {r r' : R}
      (h : (Population.seeded chance config).run r = some (population, r')) : Reached population
  | fromFounders {config : NeatConfig} {founders : List Genome} {population : Population} {r r' : R}
      (h : (fromFounders chance config founders).run r = some (.ok population, r')) :
      Reached population
  | evolve {population next : Population} {fitness : List Float32} {r r' : R}
      (before : Reached population)
      (h : (population.evolveBy chance allocateExactly fitness).run r = some (.ok next, r')) :
      Reached next
  | evolveWithElites {population next : Population} {fitness : List Float32} {elites : List Genome}
      {r r' : R} (before : Reached population)
      (h : (population.evolveWithElitesBy chance allocateExactly fitness elites).run r =
        some (.ok next, r')) : Reached next
  | injectArchiveDescendants {population next : Population} {founders : List Genome}
      {count injected : Nat} {r r' : R} (before : Reached population)
      (h : (population.injectArchiveDescendants chance founders count).run r =
        some ((injected, next), r')) : Reached next
  | retuned {population : Population} (before : Reached population) (threshold : Float32) :
      Reached { population with
        config := { population.config with compatibilityThreshold := threshold } }

/-- The books of a population. -/
structure Kept (population : Population) : Prop where
  size : population.genomes.length = population.config.populationSize
  species : SpeciesFound population
  listed : Listed population.speciesRecords population.nextSpeciesId ∨ Spent population.nextSpeciesId

variable {chance} {self : Population}

theorem kept_of_assigned {population : Population}
    (hsize : population.genomes.length = population.config.populationSize)
    (h : Listed population.speciesRecords population.nextSpeciesId ∨
      Spent population.nextSpeciesId) : Kept population.assignSpeciesMembers :=
  ⟨hsize, assigned_found, assigned_listed_or_spent h⟩

theorem listed_nil : Listed [] 0 := ⟨List.nodup_nil, by simp⟩

theorem seeded_kept (config : NeatConfig) : Yields (Population.seeded chance config) Kept := by
  have hsown : Gives (Population.sow chance config)
      fun genomes => genomes.length = config.populationSize := by
    refine Gives.any.bind fun seed (_ : True) => (Gives.length_mapM _ _).imp fun genomes h => ?_
    rw [h, List.length_range]
  refine Yields.bind (hsown _) fun sown hsown => Yields.pure ?_
  exact kept_of_assigned hsown (.inl listed_nil)

theorem fromFounders_kept (config : NeatConfig) (founders : List Genome) :
    Yields (fromFounders chance config founders) fun result =>
      ∀ population, result = .ok population → Kept population := by
  refine Yields.ite (fun _ => Yields.pure (by simp)) fun _ => ?_
  refine Yields.bind (Gives.length_mapM _ _ _) fun grown hgrown =>
    Yields.pure fun population hpopulation => ?_
  obtain rfl := Except.ok.inj hpopulation
  refine kept_of_assigned ?_ (.inl listed_nil)
  have hlength : (canonicalFounders (founders.take config.populationSize)).length ≤
      config.populationSize := by
    have hsame := congrArg List.length (canonicalGenomes_unnumbered
      { nextInnovation := firstFresh (founders.take config.populationSize) }
      (founders.take config.populationSize))
    rw [List.length_map, List.length_map, List.length_take] at hsame
    exact hsame.le.trans (Nat.min_le_left _ _)
  rw [List.length_range] at hgrown
  rw [List.length_append, hgrown]
  exact Nat.add_sub_of_le hlength

theorem Kept.positive {fitness : List Float32} {next : Population} {r r' : R} (h : Kept self)
    (hrun : (self.evolveBy chance allocateExactly fitness).run r = some (.ok next, r')) :
    0 < self.config.populationSize := by
  by_contra hzero
  have hempty : self.genomes = [] := List.length_eq_zero_iff.mp (by rw [h.size]; omega)
  have herror : Yields (self.evolveBy chance allocateExactly fitness)
      fun evolved => ∀ next, evolved ≠ .ok next :=
    Yields.ite (fun _ => Yields.pure (by simp)) fun _ =>
      Yields.ite (fun _ => Yields.pure (by simp)) fun hsome =>
        absurd (List.isEmpty_iff.mpr hempty) hsome
  exact herror r _ r' hrun next rfl

theorem evolve_kept {fitness : List Float32} {next : Population} {r r' : R} (h : Kept self)
    (hrun : (self.evolveBy chance allocateExactly fitness).run r = some (.ok next, r')) :
    Kept next := by
  have hpos := h.positive hrun
  have hsome : self.genomes ≠ [] := List.length_pos_iff.mp (by rw [h.size]; exact hpos)
  have hnext := evolveBy_yields chance allocateExactly_provides hpos r _ r' hrun next rfl
  rw [ensureSpeciesMembers_of_found hsome h.species] at hnext
  refine ⟨?_, hnext.species, hnext.listed_or_spent h.listed⟩
  rw [hnext.config]
  exact hnext.size allocateExactly_addsUp

theorem length_placeElites (elites : List Genome) (replacement : Nat) (genomes : List Genome) :
    (Population.placeElites elites replacement genomes).length = genomes.length := by
  induction elites generalizing replacement genomes with
  | nil => rfl
  | cons elite rest ih =>
    rw [Population.placeElites]
    split
    · exact ih _ _
    · split
      · rfl
      · rw [ih, List.length_set]

theorem reached_kept {population : Population} (h : Reached chance population) : Kept population := by
  induction h with
  | seeded h => exact seeded_kept _ _ _ _ h
  | fromFounders h => exact fromFounders_kept _ _ _ _ _ h _ rfl
  | evolve _ h ih => exact evolve_kept ih h
  | @evolveWithElites population next fitness elites r r' _ h ih =>
    simp only [Population.evolveWithElitesBy, StateT.run_bind, Option.bind_eq_bind,
      Option.bind_eq_some_iff] at h
    obtain ⟨⟨evolved, middle⟩, hevolve, h⟩ := h
    cases evolved with
    | error reason =>
      simp at h
    | ok bred =>
      simp only [StateT.run_pure, Option.pure_def, Option.some.injEq, Prod.mk.injEq,
        Except.ok.injEq] at h
      obtain ⟨rfl, -⟩ := h
      have hkept := evolve_kept ih hevolve
      exact kept_of_assigned (by rw [length_placeElites]; exact hkept.size) hkept.listed
  | @injectArchiveDescendants population next founders count injected r r' _ h ih =>
    have hyields : Yields (population.injectArchiveDescendants chance founders count)
        fun result => Kept result.2 := by
      refine Yields.ite (fun _ => Yields.pure ih) fun hsome => ?_
      refine Yields.bind (Gives.length_mapM _ _ _) fun grown hgrown => Yields.pure ?_
      refine kept_of_assigned ?_ ih.listed
      simp only [Bool.or_eq_true, decide_eq_true_eq, not_or, Nat.not_le] at hsome
      have hcount : Nat.min count (population.genomes.length - 1) ≤
          population.genomes.length - 1 := Nat.min_le_right _ _
      rw [List.length_range] at hgrown
      rw [← ih.size, Population.replaceAfterFirst, List.length_append, List.length_append,
        List.length_take, List.length_drop, hgrown]
      omega
    exact hyields _ _ _ h
  | retuned _ threshold ih => exact ⟨ih.size, ⟨ih.species.assigned, ih.species.recorded,
      ih.species.inhabited⟩, ih.listed⟩

theorem totalKey_eq_bitsKey (value : Float32) : totalKey value = bitsKey value := rfl

/-- A generation with its books kept: of the size asked for, led by an unmutated copy of a genome of
maximal fitness, and with its species in order. -/
structure Bookkept (population : Population) (fitness : List Float32) (next : Population) : Prop where
  size : next.genomes.length = population.config.populationSize
  champion : ∃ index, ∃ champion, population.genomes[index]? = some champion ∧
    next.genomes[0]? = some champion ∧ ∀ other < population.genomes.length,
      fitnessOf fitness other ≤ fitnessOf fitness index
  species : SpeciesKept next

/-- Of every population of evolution, with any finite fitness, a generation succeeds and keeps the
books, where there is room for it. -/
theorem evolve_bookkept (chance : Chance R) {population : Population}
    (h : Reached chance population) (hpos : 0 < population.config.populationSize)
    (hroom : HasRoom population) (fitness : List Float32)
    (hlength : fitness.length = population.genomes.length)
    (hfinite : ∀ value ∈ fitness, value.isFinite = true) (r : R) :
    ∃ next r', (population.evolveBy chance allocateExactly fitness).run r = some (.ok next, r') ∧
      Bookkept population fitness next := by
  have hkept := reached_kept h
  have hsome : population.genomes ≠ [] := List.length_pos_iff.mp (by rw [hkept.size]; exact hpos)
  obtain ⟨evolved, r', hrun, next, rfl, hnext⟩ := evolveBy_delivers chance
    allocateExactly_provides allocateExactly_addsUp hpos hsome hkept.species hroom hlength r
  have hsize := hnext.size allocateExactly_addsUp
  have hlisted : Listed population.speciesRecords population.nextSpeciesId := by
    apply hkept.listed.resolve_right
    have hnumbers := hroom.species
    unfold Spent
    omega
  have hvalue : ∀ index < population.genomes.length,
      (fitnessOf fitness index).isFinite = true := by
    intro index hindex
    rw [← hlength] at hindex
    apply hfinite
    rw [fitnessOf, List.getD_eq_getElem?_getD, List.getElem?_eq_getElem hindex, Option.getD_some]
    exact List.getElem_mem hindex
  refine ⟨next, r', hrun, hsize, ?_, hnext.species.kept (hnext.listed hlisted ?_)⟩
  · obtain ⟨index, champion, hchampion, hhead, hbest⟩ := hnext.champion
    have hindex := (List.getElem?_eq_some_iff.mp hchampion).1
    refine ⟨index, champion, hchampion, hhead, fun other hother => ?_⟩
    have hkey := hbest other hother
    rw [totalKey_eq_bitsKey, totalKey_eq_bitsKey] at hkey
    exact float32_le_of_bitsKey (hvalue other hother) (hvalue index hindex) hkey
  · rw [hsize]
    exact hroom.species

/-- Two genomes of the default configuration. -/
def smallConfig : NeatConfig := { populationSize := 2 }

theorem evolve_bookkept_small : ∃ population next r', Reached leastChance population ∧
    (population.evolveBy leastChance allocateExactly [1, 2]).run () = some (.ok next, r') ∧
      Bookkept population [1, 2] next := by
  have hcounts : ((Population.seeded leastChance smallConfig).run ()).map (fun result =>
      ((result.1.genomes.length, result.1.config.populationSize, result.1.generation),
        result.1.nextSpeciesId, result.1.config.weightPerturbation,
        result.1.innovations.nextInnovation, result.1.innovations.nextNodeId)) =
      some ((2, 2, 0), 1, 0.35, 57, 22) := by decide +kernel
  obtain ⟨⟨population, r⟩, hrun, hcounts⟩ := Option.map_eq_some_iff.mp hcounts
  simp only [Prod.mk.injEq] at hcounts
  obtain ⟨⟨hgenomes, hsize, hgeneration⟩, hspecies, hweight, hinnovation, hnode⟩ := hcounts
  have hroom : HasRoom population := by
    refine ⟨fun _ => ?_, ⟨?_, ?_⟩, ?_, ?_⟩
    · rw [PerturbationDrawn, hweight]
      decide +kernel
    · rw [hinnovation, hsize]
      decide
    · rw [hnode, hsize]
      decide
    · rw [hgeneration]
      decide
    · rw [hspecies, hsize]
      decide
  obtain ⟨next, r', hevolve, hbooks⟩ := evolve_bookkept leastChance (.seeded hrun)
    (by rw [hsize]; decide) hroom [1, 2] (by rw [hgenomes]; rfl) (by decide +kernel) ()
  exact ⟨population, next, r', .seeded hrun, hevolve, hbooks⟩

/-- A generator that draws one value for ever. -/
def steadyChance : Chance Float32 where
  unit value := (value, value)
  coin value := (true, value)
  range low _ value := (low, value)
  below n value := (⟨0, n.succ_pos⟩, value)
  pick n value := (⟨0, n.succ_pos⟩, value)

/-- Two genomes whose weights may be reset but not moved. -/
def unmovedConfig : NeatConfig := { populationSize := 2, weightPerturbation := 0 }

/-- A generation in which a weight is to be moved by nothing panics. -/
theorem evolve_panics : ∃ population, Reached steadyChance population ∧
    population.config.populationSize = 2 ∧ population.genomes.length = 2 ∧
      (∀ value ∈ ([1, 2] : List Float32), value.isFinite = true) ∧
      (population.evolveBy steadyChance allocateExactly [1, 2]).run 0.5 = none := by
  have hruns : ((Population.seeded steadyChance unmovedConfig).run 0.9).map (fun result =>
      (result.1.config.populationSize, result.1.genomes.length,
        ((result.1.evolveBy steadyChance allocateExactly [1, 2]).run 0.5).isNone)) =
      some (2, 2, true) := by decide +kernel
  obtain ⟨⟨population, r⟩, hrun, hcounts⟩ := Option.map_eq_some_iff.mp hruns
  simp only [Prod.mk.injEq, Option.isNone_iff_eq_none] at hcounts
  exact ⟨population, .seeded hrun, hcounts.1, hcounts.2.1, by decide +kernel, hcounts.2.2⟩

end Runs

end Netherwick.Neat

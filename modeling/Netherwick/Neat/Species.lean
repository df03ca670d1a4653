import Netherwick.Neat.Population
import Mathlib.Data.List.Nodup

/-! # Species

Assigning the members gives every genome the id of a record and keeps the records that have a member.
New species are numbered upwards, so the ids of the records differ as long as the numbers last. -/

namespace Netherwick.Neat

structure SpeciesKept (population : Population) : Prop where
  assigned : population.genomeSpecies.length = population.genomes.length
  recorded : ∀ id ∈ population.genomeSpecies, ∃ record ∈ population.speciesRecords, record.id = id ∧
    ∀ other ∈ population.speciesRecords, other.id = id → other = record
  distinct : (population.speciesRecords.map SpeciesRecord.id).Nodup
  inhabited : ∀ record ∈ population.speciesRecords, record.id ∈ population.genomeSpecies

/-- The records are numbered below the next number, each by its own. -/
structure Listed (records : List SpeciesRecord) (nextId : Nat) : Prop where
  distinct : (records.map SpeciesRecord.id).Nodup
  below : ∀ record ∈ records, record.id < nextId

/-- The numbers have run out. -/
def Spent (nextId : Nat) : Prop := 2 ^ 64 ≤ nextId + 1

abbrev Assignment : Type := List SpeciesRecord × Nat × List Nat

section Assigning

variable {self : Population} {progress : Assignment} {genomes : List Genome} {genome : Genome}

theorem Listed.sublist {records kept : List SpeciesRecord} {nextId : Nat} (h : Listed records nextId)
    (hkept : kept.Sublist records) : Listed kept nextId where
  distinct := (hkept.map SpeciesRecord.id).nodup h.distinct
  below record hrecord := h.below record (hkept.subset hrecord)

theorem assign_cases (self : Population) (progress : Assignment) (genome : Genome) :
    (∃ record ∈ progress.1,
        self.assign progress genome = (progress.1, progress.2.1, progress.2.2 ++ [record.id])) ∨
      ∃ founded : SpeciesRecord, founded.id = progress.2.1 ∧
        self.assign progress genome = (progress.1 ++ [founded],
          saturatingIncrement64 progress.2.1, progress.2.2 ++ [progress.2.1]) := by
  obtain ⟨records, nextId, assigned⟩ := progress
  rw [Population.assign]
  simp only
  cases hfound : records.find? fun record =>
      decide (genome.compatibilityDistance record.representative self.config
        < self.config.compatibilityThreshold) with
  | some record => exact .inl ⟨record, List.mem_of_find?_eq_some hfound, rfl⟩
  | none => exact .inr ⟨_, rfl, rfl⟩

theorem saturatingIncrement64_le (count : Nat) : saturatingIncrement64 count ≤ count + 1 := by
  rw [saturatingIncrement64]
  split <;> omega

theorem saturatingIncrement64_of_spent {count : Nat} (h : Spent count) :
    saturatingIncrement64 count = count := by
  rw [saturatingIncrement64, if_neg (by unfold Spent at h; omega)]

theorem assign_listed (h : Listed progress.1 progress.2.1) (hroom : progress.2.1 + 1 < 2 ^ 64) :
    Listed (self.assign progress genome).1 (self.assign progress genome).2.1 := by
  obtain ⟨record, -, hjoined⟩ | ⟨founded, hid, hfounded⟩ := assign_cases self progress genome
  · rw [hjoined]
    exact h
  · rw [hfounded, saturatingIncrement64, if_pos hroom]
    constructor
    · rw [List.map_append, List.map_singleton, hid]
      refine List.Nodup.append h.distinct (List.nodup_singleton _) ?_
      intro id hold hnew
      obtain ⟨record, hrecord, rfl⟩ := List.mem_map.mp hold
      have hbelow := h.below record hrecord
      rw [List.mem_singleton] at hnew
      omega
    · intro record hrecord
      obtain hold | hnew := List.mem_append.mp hrecord
      · exact (h.below record hold).trans (Nat.lt_succ_self _)
      · rw [List.mem_singleton.mp hnew, hid]
        exact Nat.lt_succ_self _

theorem assign_next_le : (self.assign progress genome).2.1 ≤ progress.2.1 + 1 := by
  obtain ⟨record, -, hjoined⟩ | ⟨founded, -, hfounded⟩ := assign_cases self progress genome
  · rw [hjoined]
    exact Nat.le_succ _
  · rw [hfounded]
    exact saturatingIncrement64_le _

theorem assign_listed_or_spent (h : Listed progress.1 progress.2.1 ∨ Spent progress.2.1) :
    Listed (self.assign progress genome).1 (self.assign progress genome).2.1 ∨
      Spent (self.assign progress genome).2.1 := by
  by_cases hspent : Spent progress.2.1
  · right
    obtain ⟨record, -, hjoined⟩ | ⟨founded, -, hfounded⟩ := assign_cases self progress genome
    · rw [hjoined]
      exact hspent
    · rw [hfounded, saturatingIncrement64_of_spent hspent]
      exact hspent
  · left
    exact assign_listed (h.resolve_right hspent) (by unfold Spent at hspent; omega)

def AllRecorded (progress : Assignment) : Prop :=
  ∀ id ∈ progress.2.2, id ∈ progress.1.map SpeciesRecord.id

theorem assign_recorded (h : AllRecorded progress) : AllRecorded (self.assign progress genome) := by
  obtain ⟨record, hrecord, hjoined⟩ | ⟨founded, hid, hfounded⟩ := assign_cases self progress genome
  · rw [hjoined]
    intro id hmem
    obtain hold | hnew := List.mem_append.mp hmem
    · exact h id hold
    · rw [List.mem_singleton.mp hnew]
      exact List.mem_map_of_mem hrecord
  · rw [hfounded]
    intro id hmem
    rw [List.map_append, List.mem_append]
    obtain hold | hnew := List.mem_append.mp hmem
    · exact .inl (h id hold)
    · exact .inr (by simpa [hid] using hnew)

theorem length_assign :
    (self.assign progress genome).2.2.length = progress.2.2.length + 1 := by
  obtain ⟨record, -, hjoined⟩ | ⟨founded, -, hfounded⟩ := assign_cases self progress genome
  · simp [hjoined]
  · simp [hfounded]

theorem foldl_assign (h : AllRecorded progress) :
    AllRecorded (genomes.foldl self.assign progress) ∧
      (genomes.foldl self.assign progress).2.2.length = progress.2.2.length + genomes.length ∧
      (genomes.foldl self.assign progress).2.1 ≤ progress.2.1 + genomes.length ∧
      ((Listed progress.1 progress.2.1 ∨ Spent progress.2.1) →
        Listed (genomes.foldl self.assign progress).1 (genomes.foldl self.assign progress).2.1 ∨
          Spent (genomes.foldl self.assign progress).2.1) := by
  induction genomes generalizing progress with
  | nil => exact ⟨h, rfl, le_refl _, id⟩
  | cons genome genomes ih =>
    obtain ⟨hrecorded, hlength, hnext, hlisted⟩ := ih (@assign_recorded self progress genome h)
    have hone := @length_assign self progress genome
    have hstep := @assign_next_le self progress genome
    rw [List.foldl_cons, List.length_cons]
    exact ⟨hrecorded, by omega, by omega, fun hbefore => hlisted (assign_listed_or_spent hbefore)⟩

theorem foldl_assign_listed (h : Listed progress.1 progress.2.1)
    (hroom : progress.2.1 + genomes.length < 2 ^ 64) :
    Listed (genomes.foldl self.assign progress).1 (genomes.foldl self.assign progress).2.1 := by
  induction genomes generalizing progress with
  | nil => exact h
  | cons genome genomes ih =>
    rw [List.length_cons] at hroom
    have hstep := @assign_next_le self progress genome
    exact ih (assign_listed h (by omega)) (by omega)

end Assigning

section Assigned

/-- What the invariant needs of species: all but that the ids differ. -/
structure SpeciesFound (population : Population) : Prop where
  assigned : population.genomeSpecies.length = population.genomes.length
  recorded : ∀ id ∈ population.genomeSpecies, id ∈ population.speciesRecords.map SpeciesRecord.id
  inhabited : ∀ record ∈ population.speciesRecords, record.id ∈ population.genomeSpecies

variable {self : Population}

theorem assigned_found : SpeciesFound self.assignSpeciesMembers := by
  obtain ⟨hrecorded, hlength, -, -⟩ := @foldl_assign self
    (self.speciesRecords, self.nextSpeciesId, []) self.genomes (by simp [AllRecorded])
  constructor
  · rw [List.length_nil, Nat.zero_add] at hlength
    exact hlength
  · intro id hid
    obtain ⟨record, hrecord, rfl⟩ := List.mem_map.mp (hrecorded id hid)
    exact List.mem_map_of_mem (List.mem_filter.mpr ⟨hrecord, List.contains_iff_mem.mpr hid⟩)
  · intro record hrecord
    exact List.contains_iff_mem.mp (List.mem_filter.mp hrecord).2

theorem assigned_next_le :
    self.assignSpeciesMembers.nextSpeciesId ≤ self.nextSpeciesId + self.genomes.length :=
  (@foldl_assign self (self.speciesRecords, self.nextSpeciesId, []) self.genomes
    (by simp [AllRecorded])).2.2.1

theorem assigned_listed_or_spent
    (h : Listed self.speciesRecords self.nextSpeciesId ∨ Spent self.nextSpeciesId) :
    Listed self.assignSpeciesMembers.speciesRecords self.assignSpeciesMembers.nextSpeciesId ∨
      Spent self.assignSpeciesMembers.nextSpeciesId := by
  have hfold := (@foldl_assign self (self.speciesRecords, self.nextSpeciesId, []) self.genomes
    (by simp [AllRecorded])).2.2.2 h
  exact hfold.imp_left fun hlisted => hlisted.sublist List.filter_sublist

theorem assigned_listed (h : Listed self.speciesRecords self.nextSpeciesId)
    (hroom : self.nextSpeciesId + self.genomes.length < 2 ^ 64) :
    Listed self.assignSpeciesMembers.speciesRecords self.assignSpeciesMembers.nextSpeciesId :=
  (@foldl_assign_listed self (self.speciesRecords, self.nextSpeciesId, []) self.genomes h
    hroom).sublist List.filter_sublist

theorem SpeciesFound.kept {nextId : Nat} (h : SpeciesFound self)
    (hlisted : Listed self.speciesRecords nextId) : SpeciesKept self where
  assigned := h.assigned
  recorded id hid := by
    obtain ⟨record, hrecord, rfl⟩ := List.mem_map.mp (h.recorded id hid)
    exact ⟨record, hrecord, rfl, fun other hother hsame =>
      List.inj_on_of_nodup_map hlisted.distinct hother hrecord hsame⟩
  distinct := hlisted.distinct
  inhabited := h.inhabited

end Assigned

end Netherwick.Neat

import Netherwick.Neat.Population
import Netherwick.Neat.Breeding
import Netherwick.Neat.Activation

/-! # Evolution

What a population goes through, whatever is drawn: it is seeded, and then evolved, evolved with a
protected repertoire, or given descendants of founders out of its own history. The tracker stays
sound and every genome that was ever in the population fits it. -/

namespace Netherwick.Neat

open Netherwick.Lib

/-- The numbers mean the same in all the genomes and in the tracker. -/
structure Consistent (tracker : InnovationTracker) (genomes : List Genome) : Prop where
  key_unique : ∀ genome ∈ genomes, ∀ other ∈ genomes, ∀ edge ∈ genome.connections,
    ∀ edge' ∈ other.connections, edge.innovation = edge'.innovation → edge.key = edge'.key
  numbered : ∀ genome ∈ genomes, ∀ edge ∈ genome.connections,
    tracker.connections.lookup edge.key = some edge.innovation
  tracker_key_unique : ∀ key key' innovation, tracker.connections.lookup key = some innovation →
    tracker.connections.lookup key' = some innovation → key = key'
  layer_unique : ∀ genome ∈ genomes, ∀ other ∈ genomes, ∀ node ∈ genome.nodes,
    ∀ node' ∈ other.nodes, node.id = node'.id → node.layer = node'.layer
  tracker_split_unique : ∀ innovation innovation' id, tracker.splitNodes.lookup innovation = some id →
    tracker.splitNodes.lookup innovation' = some id → innovation = innovation'
  split_layer : ∀ genome ∈ genomes, ∀ other ∈ genomes, ∀ node ∈ genome.nodes,
    ∀ edge ∈ other.connections, tracker.splitNodes.lookup edge.innovation = some node.id →
      ∀ source ∈ other.nodes, ∀ target ∈ other.nodes, source.id = edge.from → target.id = edge.to →
        node.layer = (source.layer + target.layer) * (1 / 2)

section Fitting

variable {inputs outputs : Nat} {t : InnovationTracker}

namespace Genome.Fits

variable {genome : Genome}

theorem source_given (hf : genome.Fits inputs outputs t) :
    ∀ node ∈ genome.nodes, node.kind.isSource = true → node.id ≤ genome.inputCount := by
  intro node hnode hkind
  have hchart := hf.charted node hnode
  rw [hf.inputCount]
  generalize node.kind = kind at hkind hchart
  generalize node.layer = layer at hchart
  generalize node.id = id at hchart
  cases hchart with
  | input hid => exact hid.le
  | bias => exact le_refl _
  | output _ => cases hkind
  | hidden _ _ _ _ => cases hkind

variable (hs : t.Sound inputs outputs) (hf : genome.Fits inputs outputs t)
include hs hf

theorem wellFormed : genome.WellFormed where
  ids_nodup := hf.ids_nodup
  innovations_nodup := by
    have hnodup := hf.innovations_nodup
    rw [Genome.marks, List.map_map] at hnodup
    exact hnodup
  endpoints edge hedge := hf.endpoints _ (Genome.mark_mem hedge)
  enters_no_source edge hedge node hnode hid := by
    obtain ⟨_, kb, _, lb, -, hb, hkind, -⟩ := hs.keys_charted _ (hf.edge_numbered hedge)
    have hnodeChart := hf.charted node hnode
    rw [hid] at hnodeChart
    have heq : node.kind = kb := (hs.charted_unique hb hnodeChart).1
    constructor
    · rintro hinput
      simp [← heq, hinput, NodeKind.isSource] at hkind
    · rintro hbias
      simp [← heq, hbias, NodeKind.isSource] at hkind
  ascends edge hedge hrecurrent source hsource target htarget hfrom hto := by
    obtain ⟨_, _, la, lb, ha, hb, -, hup⟩ := hs.keys_charted _ (hf.edge_numbered hedge)
    have hsourceChart := hf.charted source hsource
    have htargetChart := hf.charted target htarget
    rw [hfrom] at hsourceChart
    rw [hto] at htargetChart
    calc source.layer = la := (hs.charted_unique ha hsourceChart).2
      _ < lb := hup hrecurrent
      _ = target.layer := (hs.charted_unique hb htargetChart).2.symm

end Genome.Fits

theorem consistent_of_fits {genomes : List Genome} (hs : t.Sound inputs outputs)
    (hf : ∀ genome ∈ genomes, genome.Fits inputs outputs t) : Consistent t genomes where
  key_unique genome hgenome other hother edge hedge edge' hedge' heq := by
    have hmark := (hf genome hgenome).edge_numbered hedge
    have hmark' := (hf other hother).edge_numbered hedge'
    rw [ConnectionGene.mark, heq] at hmark
    exact hs.key_unique hmark hmark'
  numbered genome hgenome edge hedge :=
    lookup_of_mem hs.keys_nodup ((hf genome hgenome).edge_numbered hedge)
  tracker_key_unique key key' innovation h h' := hs.key_unique (mem_of_lookup h) (mem_of_lookup h')
  layer_unique genome hgenome other hother node hnode node' hnode' heq := by
    have hchart := (hf genome hgenome).charted node hnode
    have hchart' := (hf other hother).charted node' hnode'
    rw [← heq] at hchart'
    exact (hs.charted_unique hchart' hchart).2
  tracker_split_unique innovation innovation' id h h' :=
    eq_of_snd_nodup hs.ids_nodup (mem_of_lookup h) (mem_of_lookup h')
  split_layer genome hgenome other hother node hnode edge hedge hsplit source hsource target htarget
      hfrom hto := by
    have hsplit := mem_of_lookup hsplit
    have hmark := (hf other hother).edge_numbered hedge
    obtain ⟨a, b, hkey⟩ := hs.splits_keyed _ hsplit
    have hsame : edge.key = (a, b, false) := hs.key_unique hmark hkey
    simp only [ConnectionGene.key, Prod.mk.injEq] at hsame
    have ha := (hf other hother).charted source hsource
    have hb := (hf other hother).charted target htarget
    rw [hfrom, hsame.1] at ha
    rw [hto, hsame.2.1] at hb
    exact (hs.charted_unique (.hidden hsplit hkey ha hb) ((hf genome hgenome).charted node hnode)).2

end Fitting

section Calls

variable {inputs outputs : Nat} {R : Type} (chance : Chance R)

def Bred (inputs outputs : Nat) (t : InnovationTracker) (next : Population) : Prop :=
  t ≤ next.innovations ∧ next.innovations.Sound inputs outputs ∧
    ∀ genome ∈ next.genomes, genome.Fits inputs outputs next.innovations

variable {t : InnovationTracker}

theorem fits_lasting : ∀ genome : Genome,
    Lasting fun t : InnovationTracker => genome.Fits inputs outputs t :=
  fun _ _ _ hle hf => hf.lasts hle

namespace Genome

theorem Fits.of_beq {genome other : Genome} (hf : genome.Fits inputs outputs t)
    (h : genome.beq other = true) : other.Fits inputs outputs t := by
  simp only [beq, Bool.and_eq_true, beq_iff_eq, decide_eq_true_eq, List.all_eq_true] at h
  obtain ⟨⟨⟨⟨hcount, -⟩, hnodes⟩, hlength⟩, hedges⟩ := h
  refine hf.of_marks hcount.symm hnodes.symm ?_
  have hrelated : List.Forall₂ (fun a b => b.mark = a.mark) genome.connections other.connections := by
    refine List.forall₂_iff_zip.mpr ⟨hlength, fun hpair => ?_⟩
    have hsame := hedges _ hpair
    exact Prod.ext hsame.1.1.1.1.2.symm hsame.1.1.1.1.1.symm
  exact map_eq_of_forall₂ hrelated

end Genome

namespace Population

variable {self : Population}

@[simp] theorem assignSpeciesMembers_genomes : self.assignSpeciesMembers.genomes = self.genomes := rfl

@[simp] theorem assignSpeciesMembers_innovations :
    self.assignSpeciesMembers.innovations = self.innovations := rfl

theorem ensureSpeciesMembers_genomes : self.ensureSpeciesMembers.genomes = self.genomes := by
  rw [ensureSpeciesMembers]
  split <;> rfl

theorem ensureSpeciesMembers_innovations :
    self.ensureSpeciesMembers.innovations = self.innovations := by
  rw [ensureSpeciesMembers]
  split <;> rfl

theorem conceive_yields {fitness : List Float32} {survivors : List Nat} {species : SpeciesGeneration}
    (hs : t.Sound inputs outputs) (hf : ∀ genome ∈ self.genomes, genome.Fits inputs outputs t) :
    Yields (self.conceive chance fitness survivors species) fun child => child.Fits inputs outputs t := by
  have hparent : ∀ index : Nat, Yields (liftM self.genomes[index]? : Draw R Genome)
      fun genome => genome.Fits inputs outputs t :=
    fun index => Yields.lift fun genome hgenome => hf genome (List.mem_of_getElem? hgenome)
  refine Yields.bind .any fun first _ => Yields.bind .any fun foreign _ => ?_
  refine Yields.bind .any fun crossed _ => Yields.ite (fun _ => ?_) fun _ => ?_
  · refine Yields.bind .any fun second _ => ?_
    refine (hparent first).bind fun mother hmother => (hparent second).bind fun father hfather => ?_
    exact Yields.ite (fun _ => Genome.crossover_yields chance hs hmother hfather)
      fun _ => Genome.crossover_yields chance hs hfather hmother
  · exact hparent first

theorem bear_upholds {fitness : List Float32} {survivors : List Nat} {species : SpeciesGeneration}
    (hs : t.Sound inputs outputs) (hf : ∀ genome ∈ self.genomes, genome.Fits inputs outputs t) :
    Upholds (InnovationTracker.Sound inputs outputs) (self.bear chance fitness survivors species) t
      fun child t' => child.Fits inputs outputs t' :=
  (Upholds.draw hs (conceive_yields chance hs hf)).bind fun _ _ hle hs' hchild =>
    Genome.mutate_upholds chance self.config hs' (hchild.lasts hle)

theorem brood_upholds {fitness : List Float32} {survivors : List Nat}
    {allotted : SpeciesGeneration × Nat} (hs : t.Sound inputs outputs)
    (hf : ∀ genome ∈ self.genomes, genome.Fits inputs outputs t) :
    Upholds (InnovationTracker.Sound inputs outputs) (self.brood chance fitness survivors allotted) t
      fun offspring t' => ∀ entry ∈ offspring, entry.1.Fits inputs outputs t' := by
  refine Upholds.ite (fun _ => Upholds.pure hs (by simp)) fun _ => ?_
  refine (Upholds.lift hs (Q := fun champion => champion.Fits inputs outputs t) ?_).bind
    fun champion t₁ hle₁ hs₁ hchampion => ?_
  · intro champion hchampion
    exact hf champion (List.mem_of_getElem? hchampion)
  refine (Upholds.mapM_all (Q := fun child t' => child.Fits inputs outputs t') fits_lasting hs₁
    fun _ _ t' hle hs' => bear_upholds chance hs' fun genome hgenome =>
      (hf genome hgenome).lasts (hle₁.trans hle)).bind fun children t₂ hle₂ hs₂ hchildren => ?_
  refine Upholds.pure hs₂ fun entry hentry => ?_
  obtain ⟨genome, hgenome, rfl⟩ := List.mem_map.mp hentry
  obtain rfl | hchild := List.mem_cons.mp hgenome
  · exact hchampion.lasts (hle₁.trans hle₂)
  · exact hchildren genome hchild

theorem fill_upholds {fitness : List Float32} {globalChampion : Nat} (hs : t.Sound inputs outputs)
    (hf : ∀ genome ∈ self.genomes, genome.Fits inputs outputs t) :
    Upholds (InnovationTracker.Sound inputs outputs) (self.fill chance fitness globalChampion) t
      fun entry t' => entry.1.Fits inputs outputs t' := by
  refine (Upholds.draw hs Yields.any).bind fun first t₁ hle₁ hs₁ _ => ?_
  refine (Upholds.lift hs₁ (Q := fun parent => parent.Fits inputs outputs t₁) ?_).bind
    fun parent t₂ hle₂ hs₂ hparent => ?_
  · intro parent hparent
    exact (hf parent (List.mem_of_getElem? hparent)).lasts hle₁
  refine (Genome.mutate_upholds chance self.config hs₂ (hparent.lasts hle₂)).bind
    fun child t₃ _ hs₃ hchild => ?_
  refine (Upholds.lift hs₃ (Q := fun _ => True) fun _ _ => trivial).bind fun id t₄ hle₄ hs₄ _ => ?_
  exact Upholds.pure hs₄ (hchild.lasts hle₄)

theorem breed_upholds {fitness : List Float32} {globalChampion : Nat} {species : List SpeciesGeneration}
    (hs : t.Sound inputs outputs) (hf : ∀ genome ∈ self.genomes, genome.Fits inputs outputs t) :
    Upholds (InnovationTracker.Sound inputs outputs) (self.breed chance fitness globalChampion species) t
      fun next t' => ∀ entry ∈ next, entry.1.Fits inputs outputs t' := by
  have hentries : ∀ offspring : List (Genome × Nat), Lasting fun t : InnovationTracker =>
      ∀ entry ∈ offspring, entry.1.Fits inputs outputs t :=
    fun _ _ _ hle h entry hentry => (h entry hentry).lasts hle
  refine (Upholds.mapM_all (Q := fun offspring t' =>
    ∀ entry ∈ offspring, entry.1.Fits inputs outputs t') hentries hs fun _ _ t' hle hs' =>
      brood_upholds chance hs' fun genome hgenome => (hf genome hgenome).lasts hle).bind
        fun broods t₁ hle₁ hs₁ hbroods => ?_
  have hentry : ∀ entry : Genome × Nat, Lasting fun t : InnovationTracker =>
      entry.1.Fits inputs outputs t :=
    fun _ _ _ hle h => h.lasts hle
  refine (Upholds.mapM_all (Q := fun entry t' => entry.1.Fits inputs outputs t') hentry hs₁
    fun _ _ t' hle hs' =>
      fill_upholds chance hs' fun genome hgenome => (hf genome hgenome).lasts (hle₁.trans hle)).bind
        fun fillers t₂ hle₂ hs₂ hfillers => ?_
  refine Upholds.pure hs₂ fun entry hentry => ?_
  obtain hbrood | hfiller := List.mem_append.mp hentry
  · obtain ⟨offspring, hoffspring, hmem⟩ := List.mem_flatten.mp hbrood
    exact (hbroods offspring hoffspring entry hmem).lasts hle₂
  · exact hfillers entry hfiller

theorem nextGeneration_yields {fitness : List Float32}
    (hs : self.innovations.Sound inputs outputs)
    (hf : ∀ genome ∈ self.genomes, genome.Fits inputs outputs self.innovations) :
    Yields (self.nextGeneration chance fitness) (Bred inputs outputs self.innovations) := by
  refine Yields.bind .any fun reviewed _ => Yields.bind .any fun species _ => ?_
  refine Yields.bind (breed_upholds chance hs hf) fun bred hbred => ?_
  refine Yields.bind .any fun generation _ => Yields.pure ⟨hbred.1, hbred.2.1, ?_⟩
  intro genome hgenome
  obtain ⟨entry, hentry, rfl⟩ := List.mem_map.mp hgenome
  exact hbred.2.2 entry hentry

theorem evolve_yields {fitness : List Float32} (hs : self.innovations.Sound inputs outputs)
    (hf : ∀ genome ∈ self.genomes, genome.Fits inputs outputs self.innovations) :
    Yields (self.evolve chance fitness) fun evolved =>
      ∀ next, evolved = .ok next → Bred inputs outputs self.innovations next := by
  refine Yields.ite (fun _ => Yields.pure (by simp)) fun _ =>
    Yields.ite (fun _ => Yields.pure (by simp)) fun _ => ?_
  have hnext : Yields (self.ensureSpeciesMembers.nextGeneration chance fitness)
      (Bred inputs outputs self.ensureSpeciesMembers.innovations) := by
    refine nextGeneration_yields chance ?_ ?_
    · rw [ensureSpeciesMembers_innovations]
      exact hs
    · rw [ensureSpeciesMembers_genomes, ensureSpeciesMembers_innovations]
      exact hf
  rw [ensureSpeciesMembers_innovations] at hnext
  refine hnext.bind fun next hbred => Yields.pure fun evolved hevolved => ?_
  obtain rfl := Except.ok.inj hevolved
  exact hbred

theorem mem_placeElites {elites : List Genome} {replacement : Nat} {genomes : List Genome}
    {genome : Genome} (h : genome ∈ placeElites elites replacement genomes) :
    genome ∈ genomes ∨ genome ∈ elites := by
  induction elites generalizing replacement genomes with
  | nil => exact .inl h
  | cons elite rest ih =>
    rw [placeElites] at h
    split at h
    · exact (ih h).imp_right (List.mem_cons_of_mem _)
    · split at h
      · exact .inl h
      · obtain hset | hrest := ih h
        · obtain hold | rfl := List.mem_or_eq_of_mem_set hset
          · exact .inl hold
          · exact .inr List.mem_cons_self
        · exact .inr (List.mem_cons_of_mem _ hrest)

theorem evolveWithElites_yields {fitness : List Float32} {elites : List Genome}
    (hs : self.innovations.Sound inputs outputs)
    (hf : ∀ genome ∈ self.genomes, genome.Fits inputs outputs self.innovations) :
    Yields (self.evolveWithElites chance fitness elites) fun evolved =>
      ∀ next, evolved = .ok next → Bred inputs outputs self.innovations next := by
  refine (evolve_yields chance hs hf).bind fun evolved hevolved => ?_
  cases evolved with
  | error reason => exact Yields.pure (by simp)
  | ok bred =>
    obtain ⟨hle, hs', hf'⟩ := hevolved bred rfl
    refine Yields.pure fun next hnext => ?_
    obtain rfl := Except.ok.inj hnext
    refine ⟨hle, hs', fun genome hgenome => ?_⟩
    obtain hold | helite := mem_placeElites hgenome
    · exact hf' genome hold
    · -- a protected genome equals one of the generation before
      simp only [List.mem_filter, List.any_eq_true] at helite
      obtain ⟨-, candidate, hcandidate, hbeq⟩ := helite
      exact ((hf candidate hcandidate).of_beq hbeq).lasts hle

theorem descend_upholds {config : NeatConfig} {founders : List Genome} {offset : Nat}
    (hs : t.Sound inputs outputs) (hf : ∀ founder ∈ founders, founder.Fits inputs outputs t) :
    Upholds (InnovationTracker.Sound inputs outputs) (descend chance config founders offset) t
      fun descendant t' => descendant.Fits inputs outputs t' := by
  refine (Upholds.lift hs (Q := fun founder => founder.Fits inputs outputs t) ?_).bind
    fun founder t₁ hle₁ hs₁ hfounder => ?_
  · intro founder hfounder
    exact hf founder (List.mem_of_getElem? hfounder)
  exact (Genome.mutate_upholds chance config hs₁ (hfounder.lasts hle₁)).bind
    fun once _ _ hs₂ honce => Genome.mutate_upholds chance config hs₂ honce

theorem injectArchiveDescendants_yields {founders : List Genome} {count : Nat}
    (hs : self.innovations.Sound inputs outputs)
    (hf : ∀ genome ∈ self.genomes, genome.Fits inputs outputs self.innovations)
    (hfounders : ∀ founder ∈ founders, founder.Fits inputs outputs self.innovations) :
    Yields (self.injectArchiveDescendants chance founders count) fun injected =>
      Bred inputs outputs self.innovations injected.2 := by
  refine Yields.ite (fun _ => Yields.pure ⟨le_refl _, hs, hf⟩) fun _ => ?_
  refine Yields.bind (Upholds.mapM_all (Q := fun descendant t' => descendant.Fits inputs outputs t')
    fits_lasting hs fun _ _ t' hle hs' => descend_upholds chance hs' fun founder hfounder =>
      (hfounders founder hfounder).lasts hle) fun grown hgrown => ?_
  refine Yields.pure ⟨hgrown.1, hgrown.2.1, fun genome hgenome => ?_⟩
  simp only [assignSpeciesMembers_genomes, replaceAfterFirst, List.mem_append] at hgenome
  obtain (hfirst | hdescendant) | hrest := hgenome
  · exact (hf genome (List.mem_of_mem_take hfirst)).lasts hgrown.1
  · exact hgrown.2.2 genome hdescendant
  · exact (hf genome (List.mem_of_mem_drop hrest)).lasts hgrown.1

theorem sow_upholds {config : NeatConfig}
    (hs : t.Sound locomotionInputCount locomotionOutputCount) :
    Upholds (InnovationTracker.Sound locomotionInputCount locomotionOutputCount) (sow chance config) t
      fun genomes t' => ∀ genome ∈ genomes,
        genome.Fits locomotionInputCount locomotionOutputCount t' := by
  refine (Genome.minimal_upholds chance hs).bind fun seed t₁ _ hs₁ hseed => ?_
  refine Upholds.mapM_all (Q := fun (genome : Genome) t' =>
    genome.Fits locomotionInputCount locomotionOutputCount t') fits_lasting hs₁ fun index _ t' hle hs' => ?_
  exact Upholds.ite (fun _ => Genome.mutate_upholds chance config hs' (hseed.lasts hle))
    fun _ => Upholds.pure hs' (hseed.lasts hle)

theorem seeded_yields (config : NeatConfig) :
    Yields (seeded chance config) fun population =>
      Bred locomotionInputCount locomotionOutputCount
        (InnovationTracker.new (locomotionInputCount + locomotionOutputCount + 1)) population :=
  Yields.bind (sow_upholds chance new_sound) fun _ hsown => Yields.pure hsown

end Population

end Calls

section Runs

variable {R : Type} (chance : Chance R) (config : NeatConfig)

/-- A population that evolution leads to, with every genome that was in it on the way. Each call
draws from a generator in any state. -/
inductive Evolved : List Genome → Population → Prop
  | seeded {r r' : R} {population : Population}
      (h : (Population.seeded chance config).run r = some (population, r')) :
      Evolved population.genomes population
  | evolve {history : List Genome} {population next : Population} {fitness : List Float32} {r r' : R}
      (before : Evolved history population)
      (h : (population.evolve chance fitness).run r = some (.ok next, r')) :
      Evolved (history ++ next.genomes) next
  | evolveWithElites {history elites : List Genome} {population next : Population}
      {fitness : List Float32} {r r' : R} (before : Evolved history population)
      (h : (population.evolveWithElites chance fitness elites).run r = some (.ok next, r')) :
      Evolved (history ++ next.genomes) next
  | injectArchiveDescendants {history founders : List Genome} {population next : Population}
      {count injected : Nat} {r r' : R} (before : Evolved history population)
      (hfounders : ∀ founder ∈ founders, founder ∈ history)
      (h : (population.injectArchiveDescendants chance founders count).run r =
        some ((injected, next), r')) :
      Evolved (history ++ next.genomes) next

variable {chance config} {history : List Genome} {population : Population}

theorem evolved_bred (h : Evolved chance config history population) :
    population.innovations.Sound locomotionInputCount locomotionOutputCount ∧
      (∀ genome ∈ population.genomes, genome ∈ history) ∧
      ∀ genome ∈ history,
        genome.Fits locomotionInputCount locomotionOutputCount population.innovations := by
  have hextend : ∀ {history : List Genome} {population next : Population},
      (∀ genome ∈ history,
        genome.Fits locomotionInputCount locomotionOutputCount population.innovations) →
      Bred locomotionInputCount locomotionOutputCount population.innovations next →
      next.innovations.Sound locomotionInputCount locomotionOutputCount ∧
        (∀ genome ∈ next.genomes, genome ∈ history ++ next.genomes) ∧
        ∀ genome ∈ history ++ next.genomes,
          genome.Fits locomotionInputCount locomotionOutputCount next.innovations := by
    intro history population next hf hbred
    refine ⟨hbred.2.1, fun genome hgenome => List.mem_append_right _ hgenome, fun genome hgenome => ?_⟩
    obtain hold | hnew := List.mem_append.mp hgenome
    · exact (hf genome hold).lasts hbred.1
    · exact hbred.2.2 genome hnew
  induction h with
  | seeded h =>
    have hbred := Population.seeded_yields chance config _ _ _ h
    exact ⟨hbred.2.1, fun _ hgenome => hgenome, hbred.2.2⟩
  | evolve _ h ih =>
    obtain ⟨hs, hmem, hf⟩ := ih
    exact hextend hf (Population.evolve_yields chance hs (fun genome hgenome =>
      hf genome (hmem genome hgenome)) _ _ _ h _ rfl)
  | evolveWithElites _ h ih =>
    obtain ⟨hs, hmem, hf⟩ := ih
    exact hextend hf (Population.evolveWithElites_yields chance hs (fun genome hgenome =>
      hf genome (hmem genome hgenome)) _ _ _ h _ rfl)
  | injectArchiveDescendants _ hfounders h ih =>
    obtain ⟨hs, hmem, hf⟩ := ih
    exact hextend hf (Population.injectArchiveDescendants_yields chance hs (fun genome hgenome =>
      hf genome (hmem genome hgenome)) (fun founder hfounder =>
        hf founder (hfounders founder hfounder)) _ _ _ h)

/-- Evolution keeps every genome well formed and its activation in order, and the numbers keep their
meaning across all the genomes the population has had. -/
theorem evolved_wellFormed (h : Evolved chance config history population) :
    (∀ genome ∈ population.genomes, genome ∈ history) ∧
      (∀ genome ∈ history, genome.WellFormed ∧ genome.ActivatesInOrder) ∧
      Consistent population.innovations history := by
  obtain ⟨hs, hmem, hf⟩ := evolved_bred h
  refine ⟨hmem, fun genome hgenome => ?_, consistent_of_fits hs hf⟩
  have hwell := (hf genome hgenome).wellFormed hs
  exact ⟨hwell, hwell.activatesInOrder ((hf genome hgenome).source_given)⟩

/-- A generator that always draws the least. -/
def leastChance : Chance Unit where
  unit _ := (0, ())
  coin _ := (true, ())
  range low _ _ := (low, ())
  below _ _ := (0, ())
  pick _ _ := (0, ())

def twoSpecies : NeatConfig := { populationSize := 2, compatibilityThreshold := 0 }

/-- A population is seeded and evolved. -/
def shortLife : Draw Unit (Population × Population) := do
  let founded ← Population.seeded leastChance twoSpecies
  let evolved ← founded.evolve leastChance [1, 2]
  match evolved with
  | .error _ => fun _ => none
  | .ok next => pure (founded, next)

theorem evolved_of_shortLife {r r' : Unit} {founded next : Population}
    (h : shortLife.run r = some ((founded, next), r')) :
    Evolved leastChance twoSpecies (founded.genomes ++ next.genomes) next := by
  rw [shortLife, StateT.run_bind] at h
  obtain ⟨first, hfirst, h⟩ := Option.bind_eq_some_iff.mp h
  rw [StateT.run_bind] at h
  obtain ⟨⟨evolved, r₁⟩, hevolve, h⟩ := Option.bind_eq_some_iff.mp h
  cases evolved with
  | error _ => cases h
  | ok second =>
    simp only [StateT.run_pure, Option.pure_def, Option.some.injEq, Prod.mk.injEq] at h
    obtain ⟨⟨rfl, rfl⟩, -⟩ := h
    exact .evolve (.seeded hfirst) hevolve

theorem evolved_wellFormed_shortLife : ∃ history population,
    Evolved leastChance twoSpecies history population ∧
      (∀ genome ∈ population.genomes, genome ∈ history) ∧
      (∀ genome ∈ history, genome.WellFormed ∧ genome.ActivatesInOrder) ∧
      Consistent population.innovations history := by
  have hruns : (shortLife.run ()).isSome := by decide +kernel
  obtain ⟨⟨⟨founded, next⟩, _⟩, hrun⟩ := Option.isSome_iff_exists.mp hruns
  have hevolved := evolved_of_shortLife hrun
  exact ⟨_, _, hevolved, evolved_wellFormed hevolved⟩

end Runs

end Netherwick.Neat

import Netherwick.Neat.Bookkeeping

/-! # Elites

Protected genomes that evolution dropped are put back from the last place on. A place that is given
away may be the only one of a protected genome that was seen to have survived: that one is then lost.
Nothing else is: where no such place is given away, every protected genome is in the population. -/

namespace Netherwick.Neat

open Netherwick.Conductor (totalKey)
open Netherwick.Lib

section Equal

variable {a b c : Genome}

theorem Genome.beq_iff : a.beq b = true ↔
    a.inputCount = b.inputCount ∧ a.outputCount = b.outputCount ∧ a.nodes = b.nodes ∧
      List.Forall₂ (fun edge edge' : ConnectionGene =>
        edge.innovation = edge'.innovation ∧ edge.key = edge'.key ∧
          (edge.weight == edge'.weight) = true ∧ edge.enabled = edge'.enabled ∧
          edge.plasticity = edge'.plasticity ∧
          (edge.plasticityRate == edge'.plasticityRate) = true) a.connections b.connections := by
  simp only [Genome.beq, Bool.and_eq_true, beq_iff_eq, decide_eq_true_eq, List.all_eq_true,
    List.forall₂_iff_zip, and_assoc]
  constructor
  · rintro ⟨hinput, houtput, hnodes, hlength, hall⟩
    exact ⟨hinput, houtput, hnodes, hlength, fun hpair => hall _ hpair⟩
  · rintro ⟨hinput, houtput, hnodes, hlength, hall⟩
    exact ⟨hinput, houtput, hnodes, hlength, fun pair hpair => hall hpair⟩

theorem Genome.beq_symm (h : a.beq b = true) : b.beq a = true := by
  rw [Genome.beq_iff] at *
  obtain ⟨hinput, houtput, hnodes, hconnections⟩ := h
  refine ⟨hinput.symm, houtput.symm, hnodes.symm, hconnections.flip.imp ?_⟩
  rintro edge edge' ⟨hinnovation, hkey, hweight, henabled, hplasticity, hrate⟩
  exact ⟨hinnovation.symm, hkey.symm, float32_beq_symm hweight, henabled.symm, hplasticity.symm,
    float32_beq_symm hrate⟩

theorem Genome.beq_trans (h : a.beq b = true) (h' : b.beq c = true) : a.beq c = true := by
  rw [Genome.beq_iff] at *
  obtain ⟨hinput, houtput, hnodes, hconnections⟩ := h
  obtain ⟨hinput', houtput', hnodes', hconnections'⟩ := h'
  refine ⟨hinput.trans hinput', houtput.trans houtput', hnodes.trans hnodes', ?_⟩
  clear hinput houtput hnodes hinput' houtput' hnodes'
  generalize a.connections = xs at hconnections
  generalize b.connections = ys at hconnections hconnections'
  generalize c.connections = zs at hconnections'
  induction hconnections generalizing zs with
  | nil =>
    cases hconnections'
    exact .nil
  | cons hedge _ ih =>
    cases hconnections' with
    | cons hedge' hrest' =>
      obtain ⟨hinnovation, hkey, hweight, henabled, hplasticity, hrate⟩ := hedge
      obtain ⟨hinnovation', hkey', hweight', henabled', hplasticity', hrate'⟩ := hedge'
      exact .cons ⟨hinnovation.trans hinnovation', hkey.trans hkey',
        float32_beq_trans hweight hweight', henabled.trans henabled',
        hplasticity.trans hplasticity', float32_beq_trans hrate hrate'⟩ (ih _ hrest')

theorem Genome.beq_self (h : a.beq b = true) : b.beq b = true :=
  Genome.beq_trans (Genome.beq_symm h) h

end Equal

section Places

open Population

def carries (genomes : List Genome) (elite : Genome) : Bool :=
  genomes.any fun genome => genome.beq elite

/-- How many places are not given away after the elites, of so many before them. -/
def placesLeft (bred : List Genome) : List Genome → Nat → Nat
  | [], places => places
  | elite :: rest, places =>
    if carries (bred.take places) elite then placesLeft bred rest places
    else placesLeft bred rest (places - 1)

/-- No elite that is found in the places not yet given away is only in those given away later. -/
def undisturbed (bred : List Genome) : List Genome → Nat → Bool
  | [], _ => true
  | elite :: rest, places =>
    if carries (bred.take places) elite then
      carries (bred.take (placesLeft bred rest places)) elite && undisturbed bred rest places
    else undisturbed bred rest (places - 1)

variable {bred placed : List Genome} {elites : List Genome} {elite : Genome} {places : Nat}

theorem carries_append {others : List Genome} :
    carries (bred ++ others) elite = (carries bred elite || carries others elite) := by
  simp [carries]

theorem carries_eq_false {genomes : List Genome} :
    carries genomes elite = false ↔ ∀ genome ∈ genomes, genome.beq elite = false := by
  simp [carries]

theorem set_last_free (hpos : 0 < places) (hplaces : places ≤ bred.length) :
    (bred.take places ++ placed).set (places - 1) elite =
      bred.take (places - 1) ++ elite :: placed := by
  have hless : places - 1 < bred.length := by omega
  have hlength : (bred.take (places - 1)).length = places - 1 := by
    rw [List.length_take]
    omega
  have hlast : bred.take places = bred.take (places - 1) ++ [bred[places - 1]] := by
    rw [← List.take_succ_eq_append_getElem hless]
    congr
    omega
  rw [hlast, List.append_assoc, List.set_append_right _ _ (by omega), hlength, Nat.sub_self]
  rfl

theorem placeElites_shape (hplaces : places ≤ bred.length) (henough : elites.length < places)
    (hplaced : ∀ elite ∈ elites, carries placed elite = false)
    (hdistinct : elites.Pairwise fun elite other => elite.beq other = false) :
    ∃ given, placeElites elites places (bred.take places ++ placed) =
        bred.take (placesLeft bred elites places) ++ (given ++ placed) ∧
      given ⊆ elites := by
  induction elites generalizing places placed with
  | nil => exact ⟨[], rfl, List.nil_subset _⟩
  | cons elite rest ih =>
    rw [List.forall_mem_cons] at hplaced
    rw [List.pairwise_cons] at hdistinct
    rw [List.length_cons] at henough
    have hhere : ((bred.take places ++ placed).any fun genome => genome.beq elite) =
        carries (bred.take places) elite := by
      rw [← carries, carries_append, hplaced.1, Bool.or_false]
    rw [placeElites, placesLeft, hhere]
    by_cases hfound : carries (bred.take places) elite = true
    · rw [if_pos hfound, if_pos hfound]
      obtain ⟨given, hgiven, hsubset⟩ := ih hplaces (by omega) hplaced.2 hdistinct.2
      exact ⟨given, hgiven, List.subset_cons_of_subset _ hsubset⟩
    · rw [if_neg hfound, if_neg hfound, if_neg (by omega),
        set_last_free (by omega) hplaces]
      have hrest : ∀ other ∈ rest, carries (elite :: placed) other = false := by
        intro other hother
        rw [carries_eq_false, List.forall_mem_cons, ← carries_eq_false]
        exact ⟨hdistinct.1 other hother, hplaced.2 other hother⟩
      have hfewer : places - 1 ≤ bred.length := by omega
      obtain ⟨given, hgiven, hsubset⟩ := ih hfewer (by omega) hrest hdistinct.2
      refine ⟨given ++ [elite], ?_, ?_⟩
      · rw [hgiven, List.append_assoc]
        rfl
      · rw [List.append_subset]
        exact ⟨List.subset_cons_of_subset _ hsubset, by simp⟩

theorem placeElites_carries_iff (hplaces : places ≤ bred.length) (henough : elites.length < places)
    (hplaced : ∀ elite ∈ elites, carries placed elite = false)
    (hself : ∀ elite ∈ elites, elite.beq elite = true)
    (hdistinct : elites.Pairwise fun elite other => elite.beq other = false) :
    (∀ elite ∈ elites,
        carries (placeElites elites places (bred.take places ++ placed)) elite = true) ↔
      undisturbed bred elites places = true := by
  induction elites generalizing places placed with
  | nil => simp [undisturbed]
  | cons elite rest ih =>
    rw [List.forall_mem_cons] at hplaced hself
    rw [List.pairwise_cons] at hdistinct
    rw [List.length_cons] at henough
    have hhere : ((bred.take places ++ placed).any fun genome => genome.beq elite) =
        carries (bred.take places) elite := by
      rw [← carries, carries_append, hplaced.1, Bool.or_false]
    rw [List.forall_mem_cons, placeElites, undisturbed, hhere]
    by_cases hfound : carries (bred.take places) elite = true
    · rw [if_pos hfound, if_pos hfound, Bool.and_eq_true,
        ih hplaces (by omega) hplaced.2 hself.2 hdistinct.2]
      -- no elite placed after this one is equal to it
      obtain ⟨given, hgiven, hsubset⟩ :=
        placeElites_shape hplaces (by omega : rest.length < places) hplaced.2 hdistinct.2
      have hothers : carries given elite = false := by
        rw [carries_eq_false]
        intro genome hgenome
        have hother := hdistinct.1 genome (hsubset hgenome)
        rw [Bool.eq_false_iff] at hother ⊢
        exact fun hequal => hother (Genome.beq_symm hequal)
      rw [hgiven, carries_append, carries_append, hothers, hplaced.1, Bool.or_false,
        Bool.or_false]
    · rw [if_neg hfound, if_neg hfound, if_neg (by omega), set_last_free (by omega) hplaces]
      have hrest : ∀ other ∈ rest, carries (elite :: placed) other = false := by
        intro other hother
        rw [carries_eq_false, List.forall_mem_cons, ← carries_eq_false]
        exact ⟨hdistinct.1 other hother, hplaced.2 other hother⟩
      have hfewer : places - 1 ≤ bred.length := by omega
      rw [ih hfewer (by omega) hrest hself.2 hdistinct.2]
      -- this one keeps the place that it is given
      obtain ⟨given, hgiven, -⟩ :=
        placeElites_shape hfewer (by omega) hrest hdistinct.2
      have hplacedHere : carries (elite :: placed) elite = true := by
        simp [carries, hself.1]
      rw [hgiven, carries_append, carries_append, hplacedHere, Bool.or_true, Bool.or_true]
      simp

theorem head_placeElites {genomes : List Genome} :
    (placeElites elites places genomes)[0]? = genomes[0]? := by
  induction elites generalizing places genomes with
  | nil => rfl
  | cons elite rest ih =>
    rw [placeElites]
    split
    · exact ih
    · split
      · rfl
      · rw [ih, List.getElem?_set_ne (by omega)]

end Places

section Evolving

open Population

variable {R : Type} {self next : Population} {fitness : List Float32} {elites : List Genome}
  {r r' : R}

theorem evolveWithElites_ok (chance : Chance R)
    (h : (self.evolveWithElites chance fitness elites).run r = some (.ok next, r')) :
    ∃ evolved, (self.evolve chance fitness).run r = some (.ok evolved, r') ∧
      next.config = evolved.config ∧ next.genomes =
        placeElites (elites.filter (carries self.genomes)) evolved.genomes.length
          evolved.genomes := by
  simp only [evolveWithElites, StateT.run_bind, Option.bind_eq_bind, Option.bind_eq_some_iff] at h
  obtain ⟨⟨evolved, middle⟩, hevolve, h⟩ := h
  cases evolved with
  | error reason => simp at h
  | ok evolved =>
    simp only [StateT.run_pure, Option.pure_def, Option.some.injEq, Prod.mk.injEq,
      Except.ok.injEq] at h
    obtain ⟨rfl, rfl⟩ := h
    exact ⟨evolved, hevolve, rfl, rfl⟩

theorem evolve_champion (chance : Chance R) (hpos : 0 < self.config.populationSize)
    (h : (self.evolve chance fitness).run r = some (.ok next, r')) :
    self.config.populationSize ≤ next.genomes.length ∧ next.config = self.config ∧
      ∃ index, ∃ champion, self.genomes[index]? = some champion ∧
        next.genomes[0]? = some champion ∧ ∀ other < self.genomes.length,
          totalKey (fitnessOf fitness other) ≤ totalKey (fitnessOf fitness index) := by
  have hyields := @evolveBy_yields R chance allocateOffspring self fitness
    allocateOffspring_provides hpos
  rw [evolveBy_allocateOffspring] at hyields
  have hnext := hyields r _ r' h next rfl
  have hconfig : self.ensureSpeciesMembers.config = self.config := by
    rw [ensureSpeciesMembers]
    split <;> rfl
  have henough := hnext.enough
  have hchampion := hnext.champion
  rw [hconfig] at henough
  rw [ensureSpeciesMembers_genomes] at hchampion
  exact ⟨henough, hnext.config.trans hconfig, hchampion⟩

/-- The elites of an evolution leave the champion and the number of genomes as they were. All of them
are in the new population if and only if none was disturbed in what evolution bred. -/
theorem evolveWithElites_carries_iff (chance : Chance R) (population : Population)
    (fitness : List Float32) (elites : List Genome) {next : Population} {r r' : R}
    (hmembers : ∀ elite ∈ elites, carries population.genomes elite = true)
    (hdistinct : elites.Pairwise fun elite other => elite.beq other = false)
    (hfew : elites.length ≤ population.config.populationSize - 1)
    (h : (population.evolveWithElites chance fitness elites).run r = some (.ok next, r')) :
    ∃ evolved, (population.evolve chance fitness).run r = some (.ok evolved, r') ∧
      next.genomes[0]? = evolved.genomes[0]? ∧
      (0 < population.config.populationSize →
        ∃ index, ∃ champion, population.genomes[index]? = some champion ∧
          next.genomes[0]? = some champion ∧ ∀ other < population.genomes.length,
            totalKey (fitnessOf fitness other) ≤ totalKey (fitnessOf fitness index)) ∧
      next.genomes.length = evolved.genomes.length ∧
      ((∀ elite ∈ elites, carries next.genomes elite = true) ↔
        undisturbed evolved.genomes elites evolved.genomes.length = true) := by
  obtain ⟨evolved, hevolve, -, hgenomes⟩ := evolveWithElites_ok chance h
  rw [List.filter_eq_self.mpr hmembers] at hgenomes
  have hhead : next.genomes[0]? = evolved.genomes[0]? := by
    rw [hgenomes, head_placeElites]
  refine ⟨evolved, hevolve, hhead, fun hpos => ?_, ?_, ?_⟩
  · rw [hhead]
    exact (evolve_champion chance hpos hevolve).2.2
  · rw [hgenomes, length_placeElites]
  · cases elites with
    | nil => simp [undisturbed]
    | cons elite rest =>
      rw [List.length_cons] at hfew
      have hpos : 0 < population.config.populationSize := by omega
      obtain ⟨henough, -⟩ := evolve_champion chance hpos hevolve
      have hself : ∀ other ∈ elite :: rest, other.beq other = true := by
        intro other hother
        obtain ⟨genome, -, hequal⟩ := List.any_eq_true.mp (hmembers other hother)
        exact Genome.beq_self hequal
      have hiff := @placeElites_carries_iff evolved.genomes [] (elite :: rest) _ le_rfl
        (by rw [List.length_cons]; omega) (by simp [carries]) hself hdistinct
      rw [List.take_length, List.append_nil, ← hgenomes] at hiff
      exact hiff

def weighted (weight : Float32) : Genome where
  inputCount := 0
  outputCount := 1
  nodes := Genome.minimalNodes 0 1
  connections := [{ innovation := 0, «from» := 0, «to» := 1, weight }]

/-- Two genomes that are alike and one that is not. -/
def threeWeights : Population where
  generation := 0
  genomes := [weighted 5, weighted 4, weighted (-5)]
  config := { populationSize := 3 }
  innovations :=
    { nextInnovation := 1, nextNodeId := 2, connections := [((0, 1, false), 0)], splitNodes := [] }

theorem evolveWithElites_carries_weights : ∃ next r',
    (threeWeights.evolveWithElites steadyChance [3e38, 3e38, 3e38] [weighted 5, weighted 4]).run 0.9 =
        some (.ok next, r') ∧
      ∀ elite ∈ [weighted 5, weighted 4], carries next.genomes elite = true := by
  have hruns : ((threeWeights.evolveWithElites steadyChance [3e38, 3e38, 3e38]
      [weighted 5, weighted 4]).run 0.9).map (fun result => result.1.isOk) = some true := by
    decide +kernel
  obtain ⟨⟨result, r'⟩, hrun, hok⟩ := Option.map_eq_some_iff.mp hruns
  cases result with
  | error reason => cases hok
  | ok next =>
    obtain ⟨evolved, hevolve, -, -, -, hiff⟩ := evolveWithElites_carries_iff steadyChance
      threeWeights [3e38, 3e38, 3e38] [weighted 5, weighted 4] (by decide +kernel) (by decide +kernel)
      (by decide) hrun
    refine ⟨next, r', hrun, hiff.mpr ?_⟩
    have hcalm : ((threeWeights.evolve steadyChance [3e38, 3e38, 3e38]).run 0.9).map
        (fun result => result.1.toOption.map fun evolved =>
          undisturbed evolved.genomes [weighted 5, weighted 4] evolved.genomes.length) =
        some (some true) := by decide +kernel
    rw [hevolve] at hcalm
    simpa [Except.toOption] using hcalm

/-- The last place is given to an elite that evolution dropped, though an elite had survived there. -/
theorem evolveWithElites_loses :
    (∀ elite ∈ [weighted 4, weighted 5], carries threeWeights.genomes elite = true) ∧
      [weighted 4, weighted 5].Pairwise (fun elite other => elite.beq other = false) ∧
      [weighted 4, weighted 5].length ≤ threeWeights.config.populationSize - 1 ∧
      ∃ next r', (threeWeights.evolveWithElites steadyChance [3e38, 3e38, 3e38]
          [weighted 4, weighted 5]).run 0.9 = some (.ok next, r') ∧
        carries next.genomes (weighted 4) = false := by
  refine ⟨by decide +kernel, by decide +kernel, by decide, ?_⟩
  have hruns : ((threeWeights.evolveWithElites steadyChance [3e38, 3e38, 3e38]
      [weighted 4, weighted 5]).run 0.9).map (fun result =>
        result.1.toOption.map fun next => carries next.genomes (weighted 4)) =
      some (some false) := by decide +kernel
  obtain ⟨⟨result, r'⟩, hrun, hlost⟩ := Option.map_eq_some_iff.mp hruns
  cases result with
  | error reason => simp [Except.toOption] at hlost
  | ok next => exact ⟨next, r', hrun, by simpa [Except.toOption] using hlost⟩

end Evolving

end Netherwick.Neat

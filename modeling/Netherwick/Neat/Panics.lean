import Netherwick.Neat.Evolution
import Netherwick.Lib.Binary32
import Netherwick.Lib.Delivery

/-! # What breeding needs not to panic

A draw panics on an interval that is empty or too wide, and a counter past its last value. Where the
weights have an interval to move in and the counters have room, mutation, crossover and the choice of
a parent return, whatever is drawn. -/

namespace Netherwick.Neat

open Netherwick.Lib

/-- The interval that a weight is moved by can be drawn from. -/
def PerturbationDrawn (config : NeatConfig) : Prop :=
  -config.weightPerturbation < config.weightPerturbation ∧
    (config.weightPerturbation - -config.weightPerturbation).isFinite = true

/-- Room for so many new innovations and nodes. -/
def Affords (innovations nodes : Nat) (t : InnovationTracker) : Prop :=
  t.nextInnovation + innovations < 2 ^ 64 ∧ t.nextNodeId + nodes < 2 ^ 32

section Draws

variable {R : Type} (chance : Chance R)

theorem gen_delivers : Delivers (gen chance) fun _ => True :=
  fun r => ⟨(chance.unit r).1, (chance.unit r).2, rfl, trivial⟩

theorem genBool_delivers : Delivers (genBool chance) fun _ => True :=
  fun r => ⟨(chance.coin r).1, (chance.coin r).2, rfl, trivial⟩

theorem genRange_delivers {low high : Float32} (h : low < high ∧ (high - low).isFinite = true) :
    Delivers (genRange chance low high) fun _ => True := by
  rw [genRange, if_pos h]
  exact fun r => ⟨(chance.range low high r).1, (chance.range low high r).2, rfl, trivial⟩

theorem choose_delivers {α : Type} (l : List α) :
    Delivers (choose chance l) fun chosen => ∀ a, chosen = some a → a ∈ l := by
  cases l with
  | nil => exact Delivers.pure (by simp)
  | cons first rest =>
    intro r
    exact ⟨_, _, rfl, fun a ha => List.mem_of_getElem? ha⟩

theorem genIndex_delivers {indices : List Nat} (h : indices ≠ []) :
    Delivers (genIndex chance indices) fun index => index ∈ indices := by
  intro r
  have hless : (chance.below (indices.length - 1) r).1.val < indices.length := by
    have hpos := List.length_pos_iff.mpr h
    have hbound := (chance.below (indices.length - 1) r).1.isLt
    omega
  have hfound := List.getElem?_eq_getElem hless
  refine ⟨_, (chance.below (indices.length - 1) r).2, ?_, List.getElem_mem hless⟩
  simp [genIndex, StateT.run, hfound]

theorem needleIndex_mem {fitness : List Float32} {shift : Float32} {indices : List Nat}
    {needle : Float32} {index : Nat} (h : needleIndex fitness shift indices needle = some index) :
    index ∈ indices := by
  induction indices generalizing needle with
  | nil => cases h
  | cons first rest ih =>
    rw [needleIndex] at h
    by_cases hhere : needle - (finiteOrZero (fitnessOf fitness first) + shift) ≤ 0
    · rw [if_pos hhere] at h
      rw [← Option.some.inj h]
      exact List.mem_cons_self
    · rw [if_neg hhere] at h
      exact List.mem_cons_of_mem _ (ih h)

theorem selectParentFromIndices_delivers {indices : List Nat} (h : indices ≠ [])
    (fitness : List Float32) :
    Delivers (selectParentFromIndices chance indices fitness) fun index => index ∈ indices := by
  rw [selectParentFromIndices, if_neg h]
  simp only
  generalize scoreShift (indices.map fun index => finiteOrZero (fitnessOf fitness index)) = shift
  generalize sum32 ((indices.map fun index => finiteOrZero (fitnessOf fitness index)).map
    (· + shift)) = total
  refine Delivers.ite (fun _ => genIndex_delivers chance h) fun htotal => ?_
  simp only [Bool.or_eq_true, Bool.not_eq_true', decide_eq_true_eq, not_or,
    Bool.not_eq_false] at htotal
  refine (genRange_delivers chance ⟨float32_pos_of_not_le htotal.1 htotal.2,
    float32_sub_zero_isFinite htotal.1⟩).bind fun needle _ => Delivers.pure ?_
  cases hfound : needleIndex fitness shift indices needle with
  | some index => exact needleIndex_mem hfound
  | none =>
    rw [Option.getD_none, List.getLast?_eq_some_getLast h, Option.getD_some]
    exact List.getLast_mem h

end Draws

section Numbering

variable {R : Type} {t : InnovationTracker} {innovations nodes : Nat}

theorem Affords.mono {fewer less : Nat} (h : Affords innovations nodes t) (hle : fewer ≤ innovations)
    (hle' : less ≤ nodes) : Affords fewer less t :=
  ⟨by have hroom := h.1; omega, by have hroom := h.2; omega⟩

theorem innovationOf_delivers {key : ConnectionKey} (h : Affords (innovations + 1) nodes t) :
    DeliversFrom (innovationOf key : Breed R Nat) t fun _ t' => Affords innovations nodes t' := by
  have hroom := h.1
  cases hfound : t.connections.lookup key with
  | some innovation =>
    refine Delivers.lift (a := (innovation, t)) ?_ (h.mono (Nat.le_succ _) (le_refl _))
    rw [InnovationTracker.connection, hfound]
  | none =>
    have hnext : increment 64 t.nextInnovation = some (t.nextInnovation + 1) := by
      rw [increment, if_pos (by omega)]
    refine Delivers.lift (a := (t.nextInnovation, { t with
      nextInnovation := t.nextInnovation + 1
      connections := (key, t.nextInnovation) :: t.connections })) ?_ ⟨?_, h.2⟩
    · rw [InnovationTracker.connection, hfound, hnext]
      rfl
    · simp only
      omega

theorem nodeSplitting_delivers {innovation : Nat} (h : Affords innovations (nodes + 1) t) :
    DeliversFrom (nodeSplitting innovation : Breed R Nat) t
      fun _ t' => Affords innovations nodes t' := by
  have hroom := h.2
  cases hfound : t.splitNodes.lookup innovation with
  | some id =>
    refine Delivers.lift (a := (id, t)) ?_ (h.mono (le_refl _) (Nat.le_succ _))
    rw [InnovationTracker.splitNode, hfound]
  | none =>
    have hnext : increment 32 t.nextNodeId = some (t.nextNodeId + 1) := by
      rw [increment, if_pos (by omega)]
    refine Delivers.lift (a := (t.nextNodeId, { t with
      nextNodeId := t.nextNodeId + 1
      splitNodes := (innovation, t.nextNodeId) :: t.splitNodes })) ?_ ⟨h.1, ?_⟩
    · rw [InnovationTracker.splitNode, hfound, hnext]
      rfl
    · simp only
      omega

end Numbering

section Mutating

variable {R : Type} (chance : Chance R) {config : NeatConfig} {t : InnovationTracker}
  {innovations nodes : Nat}

namespace Genome

theorem mutateWeight_delivers (h : PerturbationDrawn config) (gene : ConnectionGene) :
    Delivers (mutateWeight chance config gene) fun _ => True := by
  refine (gen_delivers chance).bind fun _ _ => Delivers.ite (fun _ => ?_) fun _ => Delivers.pure trivial
  refine (gen_delivers chance).bind fun _ _ => Delivers.ite (fun _ => ?_) fun _ => ?_
  · exact (genRange_delivers chance (by decide +kernel)).bind fun _ _ => Delivers.pure trivial
  · exact (genRange_delivers chance h).bind fun _ _ => Delivers.pure trivial

theorem mutatePlasticity_delivers (config : NeatConfig) (gene : ConnectionGene) :
    Delivers (mutatePlasticity chance config gene) fun _ => True := by
  refine (gen_delivers chance).bind fun _ _ => Delivers.ite (fun _ => ?_) fun _ => ?_
  · refine (choose_delivers chance _).bind fun chosen _ => ?_
    refine Delivers.ite (fun _ => Delivers.pure trivial) fun _ => ?_
    exact (genRange_delivers chance (by decide +kernel)).bind fun _ _ => Delivers.pure trivial
  · refine Delivers.ite (fun _ => ?_) fun _ => Delivers.pure trivial
    refine (gen_delivers chance).bind fun _ _ =>
      Delivers.ite (fun _ => ?_) fun _ => Delivers.pure trivial
    exact (genRange_delivers chance (by decide +kernel)).bind fun _ _ => Delivers.pure trivial

theorem mutateGene_delivers (h : PerturbationDrawn config) (gene : ConnectionGene) :
    Delivers (mutateGene chance config gene) fun _ => True :=
  (mutateWeight_delivers chance h gene).bind fun weighted _ =>
    mutatePlasticity_delivers chance config weighted

theorem addAmong_delivers {recurrent : Bool} {pairs : List (Nat × Nat)} {self : Genome}
    (h : Affords (innovations + 1) nodes t) :
    DeliversFrom (addAmong chance recurrent pairs self) t
      fun _ t' => Affords innovations nodes t' := by
  refine (DeliversFrom.draw (choose_delivers chance pairs)).bind fun chosen t₁ hchosen => ?_
  obtain ⟨rfl, -⟩ := hchosen
  cases chosen with
  | none => exact DeliversFrom.pure (h.mono (Nat.le_succ _) (le_refl _))
  | some pair =>
    refine (innovationOf_delivers h).bind fun innovation t₂ h₂ => ?_
    refine (DeliversFrom.draw (genRange_delivers chance (by decide +kernel))).bind
      fun weight t₃ hweight => ?_
    obtain ⟨rfl, -⟩ := hweight
    exact DeliversFrom.pure h₂

theorem joinSplit_delivers {source target : Nat} {weight : Float32} {self : Genome}
    (h : Affords (innovations + 1) nodes t) :
    DeliversFrom (joinSplit source target weight self : Breed R Genome) t
      fun _ t' => Affords innovations nodes t' :=
  (innovationOf_delivers h).bind fun _ _ h' =>
    DeliversFrom.ite (fun _ => DeliversFrom.pure h') fun _ => DeliversFrom.pure h'

theorem split_delivers {index : Nat} {self : Genome} (hindex : index ∈ self.splittable)
    (h : Affords (innovations + 2) (nodes + 1) t) :
    DeliversFrom (split index self : Breed R Genome) t
      fun _ t' => Affords innovations nodes t' := by
  obtain ⟨old, hold, -⟩ := splittable_spec hindex
  refine (DeliversFrom.lift hold).bind fun found t₁ hfound => ?_
  obtain ⟨rfl, rfl⟩ := hfound
  refine (nodeSplitting_delivers h).bind fun nodeId t₂ h₂ => ?_
  exact (joinSplit_delivers h₂).bind fun entered t₃ h₃ => joinSplit_delivers h₃

theorem mutateAddNode_delivers {self : Genome} (h : Affords (innovations + 2) (nodes + 1) t) :
    DeliversFrom (mutateAddNode chance self) t fun _ t' => Affords innovations nodes t' := by
  refine (DeliversFrom.draw (choose_delivers chance self.splittable)).bind fun chosen t₁ hchosen => ?_
  obtain ⟨rfl, hindex⟩ := hchosen
  cases chosen with
  | none => exact DeliversFrom.pure (h.mono (by omega) (by omega))
  | some index => exact split_delivers (hindex index rfl) h

theorem sometimes_delivers {rate : Float32} {change : Genome → Breed R Genome} {self : Genome}
    {more others : Nat} (h : Affords more others t)
    (hchange : DeliversFrom (change self) t fun _ t' => Affords innovations nodes t')
    (hle : innovations ≤ more) (hle' : nodes ≤ others) :
    DeliversFrom (self.sometimes chance rate change) t
      fun _ t' => Affords innovations nodes t' := by
  refine (DeliversFrom.draw (gen_delivers chance)).bind fun hit t₁ hhit => ?_
  obtain ⟨rfl, -⟩ := hhit
  exact DeliversFrom.ite (fun _ => hchange) fun _ => DeliversFrom.pure (h.mono hle hle')

theorem mutate_delivers (hdrawn : PerturbationDrawn config) (self : Genome)
    (h : Affords (innovations + 4) (nodes + 1) t) :
    DeliversFrom (self.mutate chance config) t fun _ t' => Affords innovations nodes t' := by
  refine (DeliversFrom.draw (Delivers.mapM fun gene _ =>
    mutateGene_delivers chance hdrawn gene)).bind fun connections t₁ hconnections => ?_
  obtain ⟨rfl, -⟩ := hconnections
  refine (sometimes_delivers chance h (addAmong_delivers chance h) (by omega) (le_refl _)).bind
    fun _ t₂ h₂ => ?_
  refine (sometimes_delivers chance h₂ (addAmong_delivers chance h₂) (by omega) (le_refl _)).bind
    fun _ t₃ h₃ => ?_
  exact sometimes_delivers chance h₃ (mutateAddNode_delivers chance h₃) (by omega) (by omega)

theorem crossGene_delivers (other : Genome) (gene : ConnectionGene) :
    Delivers (crossGene chance other gene) fun _ => True := by
  have hinherit : ∀ theirs, Delivers (inherit chance theirs gene) fun _ => True := by
    intro theirs
    cases theirs with
    | none => exact Delivers.pure trivial
    | some matching => exact (genBool_delivers chance).bind fun _ _ => Delivers.pure trivial
  refine (hinherit _).bind fun child _ => Delivers.ite (fun _ => ?_) fun _ => Delivers.pure trivial
  exact (gen_delivers chance).bind fun _ _ => Delivers.pure trivial

theorem crossover_delivers (fitter other : Genome) :
    Delivers (fitter.crossover chance other) fun _ => True :=
  (Delivers.mapM fun gene _ => crossGene_delivers chance other gene).bind
    fun _ _ => Delivers.pure trivial

end Genome

end Mutating

end Netherwick.Neat

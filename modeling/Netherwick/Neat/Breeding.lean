import Netherwick.Neat.Chart

/-! # What breeding keeps

Every operation on genomes, run with a sound tracker that its genomes fit, ends with a sound tracker
that has only grown and with a genome that fits it. Weights, plasticity and the enabled flags play no
part: a genome fits by its nodes and by the marks of its connections. -/

namespace Netherwick.Neat

open Netherwick.Lib

/-- What the tracker records of a connection. -/
def ConnectionGene.mark (gene : ConnectionGene) : ConnectionKey × Nat := (gene.key, gene.innovation)

namespace Genome

variable (self : Genome)

def ids : List Nat := self.nodes.map NodeGene.id

def marks : List (ConnectionKey × Nat) := self.connections.map ConnectionGene.mark

variable {self}

theorem mark_mem {edge : ConnectionGene} (h : edge ∈ self.connections) : edge.mark ∈ self.marks :=
  List.mem_map_of_mem h

end Genome

section Fitting

variable (inputs outputs : Nat)

structure Genome.Fits (t : InnovationTracker) (genome : Genome) : Prop where
  inputCount : genome.inputCount = inputs
  ids_nodup : genome.ids.Nodup
  charted : ∀ node ∈ genome.nodes, Charted inputs outputs t node.id node.kind node.layer
  innovations_nodup : (genome.marks.map Prod.snd).Nodup
  numbered : ∀ mark ∈ genome.marks, mark ∈ t.connections
  endpoints : ∀ mark ∈ genome.marks, mark.1.1 ∈ genome.ids ∧ mark.1.2.1 ∈ genome.ids

variable {inputs outputs} {t t' : InnovationTracker} {self : Genome}

namespace Genome.Fits

theorem lasts (hf : self.Fits inputs outputs t) (hle : t ≤ t') : self.Fits inputs outputs t' where
  inputCount := hf.inputCount
  ids_nodup := hf.ids_nodup
  charted node hnode := (hf.charted node hnode).lasts hle
  innovations_nodup := hf.innovations_nodup
  numbered mark hmark := hle.1 (hf.numbered mark hmark)
  endpoints := hf.endpoints

theorem of_marks {other : Genome} (hf : self.Fits inputs outputs t)
    (hcount : other.inputCount = self.inputCount) (hnodes : other.nodes = self.nodes)
    (hmarks : other.marks = self.marks) : other.Fits inputs outputs t := by
  have hids : other.ids = self.ids := by rw [Genome.ids, hnodes, Genome.ids]
  constructor
  · rw [hcount, hf.inputCount]
  · rw [hids]
    exact hf.ids_nodup
  · rw [hnodes]
    exact hf.charted
  · rw [hmarks]
    exact hf.innovations_nodup
  · rw [hmarks]
    exact hf.numbered
  · rw [hmarks, hids]
    exact hf.endpoints

theorem with_connections {connections : List ConnectionGene} (hf : self.Fits inputs outputs t)
    (hmarks : connections.map ConnectionGene.mark = self.marks) :
    Genome.Fits inputs outputs t { self with connections } :=
  hf.of_marks rfl rfl hmarks

theorem append_connection {edge : ConnectionGene} (hf : self.Fits inputs outputs t)
    (hmark : edge.mark ∈ t.connections) (hnew : ∀ old ∈ self.connections, old.innovation ≠ edge.innovation)
    (hends : edge.from ∈ self.ids ∧ edge.to ∈ self.ids) :
    Genome.Fits inputs outputs t { self with connections := self.connections ++ [edge] } := by
  have hmarks : Genome.marks { self with connections := self.connections ++ [edge] } =
      self.marks ++ [edge.mark] := by
    simp [Genome.marks]
  constructor
  · exact hf.inputCount
  · exact hf.ids_nodup
  · exact hf.charted
  · rw [hmarks, List.map_append]
    refine List.Nodup.append hf.innovations_nodup (List.nodup_singleton _) ?_
    intro innovation hold hedge
    obtain ⟨mark, hmark, rfl⟩ := List.mem_map.mp hold
    obtain ⟨old, hmem, rfl⟩ := List.mem_map.mp hmark
    exact hnew old hmem (by simpa [ConnectionGene.mark] using hedge)
  · intro mark hmem
    rw [hmarks, List.mem_append, List.mem_singleton] at hmem
    obtain hold | rfl := hmem
    · exact hf.numbered mark hold
    · exact hmark
  · intro mark hmem
    rw [hmarks, List.mem_append, List.mem_singleton] at hmem
    obtain hold | rfl := hmem
    · exact hf.endpoints mark hold
    · exact hends

theorem append_node {node : NodeGene} (hf : self.Fits inputs outputs t) (hnew : node.id ∉ self.ids)
    (hchart : Charted inputs outputs t node.id node.kind node.layer) :
    Genome.Fits inputs outputs t { self with nodes := self.nodes ++ [node] } := by
  have hids : Genome.ids { self with nodes := self.nodes ++ [node] } = self.ids ++ [node.id] := by
    simp [Genome.ids]
  constructor
  · exact hf.inputCount
  · rw [hids]
    exact List.Nodup.append hf.ids_nodup (List.nodup_singleton _) (by simpa using hnew)
  · intro old hmem
    obtain hold | rfl := (List.mem_append.trans (or_congr_right List.mem_singleton)).mp hmem
    · exact hf.charted old hold
    · exact hchart
  · exact hf.innovations_nodup
  · exact hf.numbered
  · intro mark hmem
    have hends := hf.endpoints mark hmem
    simp [hids, hends]

variable (hf : self.Fits inputs outputs t)
include hf

theorem edge_numbered {edge : ConnectionGene} (h : edge ∈ self.connections) :
    edge.mark ∈ t.connections :=
  hf.numbered _ (Genome.mark_mem h)

theorem charted_of_id {id : Nat} (h : id ∈ self.ids) :
    ∃ kind layer, Charted inputs outputs t id kind layer := by
  obtain ⟨node, hnode, rfl⟩ := List.mem_map.mp h
  exact ⟨node.kind, node.layer, hf.charted node hnode⟩

theorem layerOf_eq (hs : t.Sound inputs outputs) {id : Nat} {kind : NodeKind} {layer default : ℚ}
    (h : id ∈ self.ids) (hchart : Charted inputs outputs t id kind layer) :
    self.layerOf id default = layer := by
  obtain ⟨node, hnode, hid⟩ := List.mem_map.mp h
  cases hfind : self.nodes.find? fun node => node.id == id with
  | none =>
    have hne := List.find?_eq_none.mp hfind node hnode
    simp [hid] at hne
  | some found =>
    have hmem := List.mem_of_find?_eq_some hfind
    obtain rfl : found.id = id := by simpa using List.find?_some hfind
    simp only [Genome.layerOf, hfind, Option.map_some, Option.getD_some]
    exact (hs.charted_unique hchart (hf.charted found hmem)).2

end Genome.Fits

section Mutating

variable {R : Type} (chance : Chance R)

theorem choose_yields {α : Type} (l : List α) :
    Yields (choose chance l) fun chosen => ∀ a, chosen = some a → a ∈ l := by
  cases l with
  | nil => exact Yields.pure (by simp)
  | cons first rest =>
    intro r chosen r' hrun a ha
    simp only [choose, StateT.run, Option.some.injEq, Prod.mk.injEq] at hrun
    rw [← hrun.1] at ha
    exact List.mem_of_getElem? ha

namespace Genome

theorem mutateWeight_yields (config : NeatConfig) (gene : ConnectionGene) :
    Yields (mutateWeight chance config gene) fun mutated => mutated.mark = gene.mark := by
  refine Yields.bind .any fun _ _ => Yields.ite (fun _ => ?_) fun _ => Yields.pure rfl
  refine Yields.bind .any fun _ _ => Yields.ite (fun _ => ?_) fun _ => ?_
  · exact Yields.bind .any fun _ _ => Yields.pure rfl
  · exact Yields.bind .any fun _ _ => Yields.pure rfl

theorem mutatePlasticity_yields (config : NeatConfig) (gene : ConnectionGene) :
    Yields (mutatePlasticity chance config gene) fun mutated => mutated.mark = gene.mark := by
  refine Yields.bind .any fun _ _ => Yields.ite (fun _ => ?_) fun _ => Yields.ite (fun _ => ?_) fun _ => ?_
  · refine Yields.bind .any fun chosen _ => ?_
    refine Yields.ite (fun _ => Yields.pure rfl) fun _ => ?_
    exact Yields.bind .any fun _ _ => Yields.pure rfl
  · refine Yields.bind .any fun _ _ => Yields.ite (fun _ => ?_) fun _ => Yields.pure rfl
    exact Yields.bind .any fun _ _ => Yields.pure rfl
  · exact Yields.pure rfl

theorem mutateGene_yields (config : NeatConfig) (gene : ConnectionGene) :
    Yields (mutateGene chance config gene) fun mutated => mutated.mark = gene.mark :=
  (mutateWeight_yields chance config gene).bind fun weighted hweighted =>
    (mutatePlasticity_yields chance config weighted).imp fun _ h => h.trans hweighted

theorem candidates_spec {allowed : NodeGene → NodeGene → Bool} {pair : Nat × Nat}
    (h : pair ∈ self.candidates allowed) :
    ∃ source ∈ self.nodes, ∃ target ∈ self.nodes, pair = (source.id, target.id) ∧
      allowed source target = true ∧ target.kind.isSource = false ∧
      ∀ edge ∈ self.connections, ¬(edge.from = source.id ∧ edge.to = target.id) := by
  simp only [candidates, List.mem_flatMap, List.mem_map, List.mem_filter, Bool.and_eq_true,
    Bool.not_eq_true', List.any_eq_false, beq_iff_eq] at h
  obtain ⟨source, hsource, target, ⟨htarget, ⟨hallowed, hkind⟩, hfree⟩, rfl⟩ := h
  exact ⟨source, hsource, target, htarget, rfl, hallowed, hkind, hfree⟩

theorem addAmong_upholds {recurrent : Bool} {pairs : List (Nat × Nat)} (hs : t.Sound inputs outputs)
    (hf : self.Fits inputs outputs t)
    (hpairs : ∀ pair ∈ pairs, KeyCharted inputs outputs t (pair.1, pair.2, recurrent) ∧
      (pair.1 ∈ self.ids ∧ pair.2 ∈ self.ids) ∧
      ∀ edge ∈ self.connections, ¬(edge.from = pair.1 ∧ edge.to = pair.2)) :
    Upholds (InnovationTracker.Sound inputs outputs) (addAmong chance recurrent pairs self) t
      fun grown t' => grown.Fits inputs outputs t' := by
  refine (Upholds.draw hs (choose_yields chance pairs)).bind fun chosen t₁ hle₁ hs₁ hchosen => ?_
  cases chosen with
  | none => exact Upholds.pure hs₁ (hf.lasts hle₁)
  | some pair =>
    obtain ⟨hkey, hends, hfree⟩ := hpairs pair (hchosen pair rfl)
    refine (connection_upholds hs₁ (hkey.lasts hle₁)).bind
      fun innovation t₂ hle₂ hs₂ hnumber => ?_
    refine (Upholds.draw hs₂ Yields.any).bind fun weight t₃ hle₃ hs₃ _ => ?_
    refine Upholds.pure hs₃ ?_
    have hf₃ := hf.lasts ((hle₁.trans hle₂).trans hle₃)
    refine hf₃.append_connection (hle₃.1 hnumber) ?_ hends
    intro old hold heq
    have hnumbered := hf₃.edge_numbered hold
    rw [ConnectionGene.mark, heq] at hnumbered
    have hsame := hs₃.key_unique hnumbered (hle₃.1 hnumber)
    simp only [ConnectionGene.key, Prod.mk.injEq] at hsame
    exact hfree old hold ⟨hsame.1, hsame.2.1⟩

theorem candidates_charted {allowed : NodeGene → NodeGene → Bool} {recurrent : Bool}
    (hf : self.Fits inputs outputs t)
    (hup : ∀ source target, allowed source target = true → recurrent = false →
      source.layer < target.layer) :
    ∀ pair ∈ self.candidates allowed, KeyCharted inputs outputs t (pair.1, pair.2, recurrent) ∧
      (pair.1 ∈ self.ids ∧ pair.2 ∈ self.ids) ∧
      ∀ edge ∈ self.connections, ¬(edge.from = pair.1 ∧ edge.to = pair.2) := by
  intro pair hpair
  obtain ⟨source, hsource, target, htarget, rfl, hallowed, hkind, hfree⟩ := candidates_spec hpair
  refine ⟨?_, ⟨List.mem_map_of_mem hsource, List.mem_map_of_mem htarget⟩, hfree⟩
  exact ⟨source.kind, target.kind, source.layer, target.layer, hf.charted source hsource,
    hf.charted target htarget, hkind, hup source target hallowed⟩

theorem mutateAddConnection_upholds (hs : t.Sound inputs outputs) (hf : self.Fits inputs outputs t) :
    Upholds (InnovationTracker.Sound inputs outputs) (mutateAddConnection chance self) t
      fun grown t' => grown.Fits inputs outputs t' :=
  addAmong_upholds chance hs hf (candidates_charted hf fun _ _ hallowed _ => of_decide_eq_true hallowed)

theorem mutateAddRecurrentConnection_upholds (hs : t.Sound inputs outputs)
    (hf : self.Fits inputs outputs t) :
    Upholds (InnovationTracker.Sound inputs outputs) (mutateAddRecurrentConnection chance self) t
      fun grown t' => grown.Fits inputs outputs t' :=
  addAmong_upholds chance hs hf (candidates_charted hf fun _ _ _ h => by cases h)

theorem withSplit_fits {old : ConnectionGene} {nodeId : Nat} (hs : t.Sound inputs outputs)
    (hf : self.Fits inputs outputs t) (hold : old.mark ∈ t.connections)
    (hends : old.from ∈ self.ids ∧ old.to ∈ self.ids) (hrecurrent : old.recurrent = false)
    (hsplit : (old.innovation, nodeId) ∈ t.splitNodes) :
    (self.withSplit old nodeId).Fits inputs outputs t := by
  by_cases hknown : self.nodes.any fun node => node.id == nodeId
  · rw [withSplit, if_pos hknown]
    exact hf
  · rw [withSplit, if_neg hknown]
    refine hf.append_node ?_ ?_
    · simpa [ids] using hknown
    · obtain ⟨ka, la, ha⟩ := hf.charted_of_id hends.1
      obtain ⟨kb, lb, hb⟩ := hf.charted_of_id hends.2
      have hkey : ((old.from, old.to, false), old.innovation) ∈ t.connections := by
        simpa [ConnectionGene.mark, ConnectionGene.key, hrecurrent] using hold
      simp only [hf.layerOf_eq hs hends.1 ha, hf.layerOf_eq hs hends.2 hb]
      exact .hidden hsplit hkey ha hb

theorem id_mem_withSplit (self : Genome) (old : ConnectionGene) (nodeId : Nat) :
    nodeId ∈ (self.withSplit old nodeId).ids := by
  by_cases hknown : self.nodes.any fun node => node.id == nodeId
  · rw [withSplit, if_pos hknown]
    simpa [ids] using hknown
  · rw [withSplit, if_neg hknown]
    simp [ids]

theorem ids_subset_withSplit (self : Genome) (old : ConnectionGene) (nodeId : Nat) :
    self.ids ⊆ (self.withSplit old nodeId).ids := by
  by_cases hknown : self.nodes.any fun node => node.id == nodeId
  · rw [withSplit, if_pos hknown]
    exact List.Subset.refl _
  · rw [withSplit, if_neg hknown]
    simp [ids]

theorem map_mark_renew {innovation : Nat} {weight : Float32} {genes : List ConnectionGene}
    (h : ∀ gene ∈ genes, gene.innovation = innovation → gene.recurrent = false) :
    (renew innovation weight genes).map ConnectionGene.mark = genes.map ConnectionGene.mark := by
  induction genes with
  | nil => rfl
  | cons gene rest ih =>
    by_cases heq : gene.innovation = innovation
    · have hrecurrent := h gene List.mem_cons_self heq
      simp [renew, heq, ConnectionGene.mark, ConnectionGene.key, hrecurrent]
    · have hrest := ih fun other hother => h other (List.mem_cons_of_mem _ hother)
      simp [renew, heq, hrest]

theorem joinSplit_upholds {source target : Nat} {weight : Float32} (hs : t.Sound inputs outputs)
    (hf : self.Fits inputs outputs t) (hkey : KeyCharted inputs outputs t (source, target, false))
    (hends : source ∈ self.ids ∧ target ∈ self.ids) :
    Upholds (InnovationTracker.Sound inputs outputs)
      (joinSplit source target weight self : Breed R Genome) t
      fun joined t' => joined.Fits inputs outputs t' ∧ joined.ids = self.ids := by
  refine (connection_upholds hs hkey).bind fun innovation t' hle hs' hnumber => ?_
  have hf' := hf.lasts hle
  refine Upholds.ite (fun _ => Upholds.pure hs' ⟨?_, rfl⟩) fun hnew => Upholds.pure hs' ⟨?_, rfl⟩
  · refine hf'.with_connections (map_mark_renew ?_)
    intro gene hgene heq
    have hnumbered := hf'.edge_numbered hgene
    rw [ConnectionGene.mark, heq] at hnumbered
    have hsame := hs'.key_unique hnumbered hnumber
    simp only [ConnectionGene.key, Prod.mk.injEq] at hsame
    exact hsame.2.2
  · refine hf'.append_connection hnumber ?_ hends
    simpa using hnew

theorem modify_mark (connections : List ConnectionGene) (index : Nat) :
    (connections.modify index fun edge => { edge with enabled := false }).map ConnectionGene.mark =
      connections.map ConnectionGene.mark := by
  induction connections generalizing index with
  | nil => simp
  | cons edge rest ih =>
    cases index with
    | zero => rfl
    | succ index => simp [ih]

theorem splittable_spec {index : Nat} (h : index ∈ self.splittable) :
    ∃ old, self.connections[index]? = some old ∧ old.recurrent = false := by
  simp only [splittable, List.mem_map, List.mem_filter, Bool.and_eq_true, Bool.not_eq_true',
    Prod.exists] at h
  obtain ⟨old, place, ⟨hmem, -, hrecurrent⟩, rfl⟩ := h
  exact ⟨old, List.mem_zipIdx_iff_getElem?.mp hmem, hrecurrent⟩

theorem split_upholds {index : Nat} (hs : t.Sound inputs outputs) (hf : self.Fits inputs outputs t)
    (hindex : index ∈ self.splittable) :
    Upholds (InnovationTracker.Sound inputs outputs) (split index self : Breed R Genome) t
      fun grown t' => grown.Fits inputs outputs t' := by
  obtain ⟨known, hknown, hrecurrent⟩ := splittable_spec hindex
  refine (Upholds.lift hs (Q := fun old => old = known) ?_).bind fun old t₁ hle₁ hs₁ hold => ?_
  · intro old hold
    exact Option.some.inj (hold.symm.trans hknown)
  subst hold
  have hmem : old ∈ self.connections := List.mem_of_getElem? hknown
  have hends := hf.endpoints _ (mark_mem hmem)
  have hkey : ((old.from, old.to, false), old.innovation) ∈ t₁.connections := by
    simpa [ConnectionGene.mark, ConnectionGene.key, hrecurrent] using (hf.lasts hle₁).edge_numbered hmem
  refine (splitNode_upholds hs₁ hkey).bind fun nodeId t₂ hle₂ hs₂ hsplit => ?_
  have hf₂ : Genome.Fits inputs outputs t₂
      { self with connections := self.connections.modify index fun edge => { edge with enabled := false } } :=
    (hf.lasts (hle₁.trans hle₂)).with_connections (modify_mark _ _)
  have hold := (hf.lasts (hle₁.trans hle₂)).edge_numbered hmem
  have hwide := withSplit_fits hs₂ hf₂ hold hends hrecurrent hsplit
  have hsubset := ids_subset_withSplit { self with
    connections := self.connections.modify index fun edge => { edge with enabled := false } } old nodeId
  have hid := id_mem_withSplit { self with
    connections := self.connections.modify index fun edge => { edge with enabled := false } } old nodeId
  obtain ⟨ka, kb, la, lb, ha, hb, hkind, hlayer⟩ := hs₂.keys_charted _ hold
  have hmiddle := Charted.hidden hsplit (hle₂.1 hkey) ha hb
  have hup : la < lb := hlayer hrecurrent
  have henter : KeyCharted inputs outputs t₂ (old.from, nodeId, false) :=
    ⟨ka, .hidden, la, _, ha, hmiddle, rfl, fun _ => by linarith⟩
  have hleave : KeyCharted inputs outputs t₂ (nodeId, old.to, false) :=
    ⟨.hidden, kb, _, lb, hmiddle, hb, hkind, fun _ => by linarith⟩
  refine (joinSplit_upholds hs₂ hwide henter ⟨hsubset hends.1, hid⟩).bind
    fun entered t₃ hle₃ hs₃ hentered => ?_
  refine (joinSplit_upholds hs₃ hentered.1 (hleave.lasts hle₃) ?_).imp fun _ _ _ _ h => h.1
  rw [hentered.2]
  exact ⟨hid, hsubset hends.2⟩

theorem mutateAddNode_upholds (hs : t.Sound inputs outputs) (hf : self.Fits inputs outputs t) :
    Upholds (InnovationTracker.Sound inputs outputs) (mutateAddNode chance self) t
      fun grown t' => grown.Fits inputs outputs t' := by
  refine (Upholds.draw hs (choose_yields chance self.splittable)).bind
    fun chosen t₁ hle₁ hs₁ hchosen => ?_
  cases chosen with
  | none => exact Upholds.pure hs₁ (hf.lasts hle₁)
  | some index => exact split_upholds hs₁ (hf.lasts hle₁) (hchosen index rfl)

theorem sometimes_upholds {rate : Float32} {change : Genome → Breed R Genome}
    (hs : t.Sound inputs outputs) (hf : self.Fits inputs outputs t)
    (hchange : ∀ t', t ≤ t' → t'.Sound inputs outputs → self.Fits inputs outputs t' →
      Upholds (InnovationTracker.Sound inputs outputs) (change self) t'
        fun grown t'' => grown.Fits inputs outputs t'') :
    Upholds (InnovationTracker.Sound inputs outputs) (self.sometimes chance rate change) t
      fun grown t' => grown.Fits inputs outputs t' := by
  refine (Upholds.draw hs Yields.any).bind fun hit t' hle hs' _ => ?_
  exact Upholds.ite (fun _ => hchange t' hle hs' (hf.lasts hle))
    fun _ => Upholds.pure hs' (hf.lasts hle)

theorem mutate_upholds (config : NeatConfig) (hs : t.Sound inputs outputs)
    (hf : self.Fits inputs outputs t) :
    Upholds (InnovationTracker.Sound inputs outputs) (self.mutate chance config) t
      fun mutated t' => mutated.Fits inputs outputs t' := by
  refine (Upholds.draw hs (Yields.mapM fun gene _ => mutateGene_yields chance config gene)).bind
    fun connections t₁ hle₁ hs₁ hconnections => ?_
  have hf₁ := (hf.lasts hle₁).with_connections (map_eq_of_forall₂ hconnections)
  refine (sometimes_upholds chance hs₁ hf₁ fun _ _ hs hf =>
    mutateAddConnection_upholds chance hs hf).bind fun _ t₂ _ hs₂ hf₂ => ?_
  refine (sometimes_upholds chance hs₂ hf₂ fun _ _ hs hf =>
    mutateAddRecurrentConnection_upholds chance hs hf).bind fun _ t₃ _ hs₃ hf₃ => ?_
  exact sometimes_upholds chance hs₃ hf₃ fun _ _ hs hf => mutateAddNode_upholds chance hs hf

theorem gene_spec {other : Genome} {innovation : Nat} {found : ConnectionGene}
    (h : other.gene innovation = some found) :
    found ∈ other.connections ∧ found.innovation = innovation := by
  rw [gene, List.findRev?_eq_find?_reverse] at h
  have hmem := List.mem_of_find?_eq_some h
  have hfound := List.find?_some h
  exact ⟨by simpa using hmem, by simpa using hfound⟩

theorem crossGene_yields {other : Genome} {gene : ConnectionGene} (hs : t.Sound inputs outputs)
    (hother : other.Fits inputs outputs t) (hgene : gene.mark ∈ t.connections) :
    Yields (crossGene chance other gene) fun child => child.mark = gene.mark := by
  have hinherit : Yields (inherit chance (other.gene gene.innovation) gene)
      fun child => child.mark = gene.mark := by
    cases htheirs : other.gene gene.innovation with
    | none => exact Yields.pure rfl
    | some found =>
      obtain ⟨hmem, heq⟩ := gene_spec htheirs
      have hfound := hother.edge_numbered hmem
      rw [ConnectionGene.mark, heq] at hfound
      have hsame := hs.key_unique hfound hgene
      refine Yields.bind .any fun take _ => Yields.pure ?_
      cases take with
      | false => rfl
      | true => simp [ConnectionGene.mark, heq, hsame]
  refine hinherit.bind fun child hchild => ?_
  refine Yields.ite (fun _ => ?_) fun _ => Yields.pure hchild
  exact Yields.bind .any fun _ _ => Yields.pure hchild

theorem adopt_of_mem {other : Genome} {nodes : List NodeGene} {id : Nat}
    (h : id ∈ nodes.map NodeGene.id) : adopt other nodes id = nodes := by
  have hknown : (nodes.any fun node => node.id == id) = true := by simpa using h
  rw [adopt, if_pos hknown]

theorem foldl_adopt {other : Genome} {nodes : List NodeGene} {ids : List Nat}
    (h : ∀ id ∈ ids, id ∈ nodes.map NodeGene.id) : ids.foldl (adopt other) nodes = nodes := by
  induction ids with
  | nil => rfl
  | cons id rest ih =>
    rw [List.foldl_cons, adopt_of_mem (h id List.mem_cons_self)]
    exact ih fun other hother => h other (List.mem_cons_of_mem _ hother)

/-- Both parents number an innovation by the same key, so a child has the fitter's structure and no
endpoint is missing among the fitter's nodes. -/
theorem crossover_yields {fitter other : Genome} (hs : t.Sound inputs outputs)
    (hfitter : fitter.Fits inputs outputs t) (hother : other.Fits inputs outputs t) :
    Yields (fitter.crossover chance other) fun child => child.Fits inputs outputs t := by
  refine (Yields.mapM fun gene hgene =>
    crossGene_yields chance hs hother (hfitter.edge_numbered hgene)).bind fun connections hmarks => ?_
  have hmarks : connections.map ConnectionGene.mark = fitter.marks := map_eq_of_forall₂ hmarks
  have hends : ∀ id ∈ connections.flatMap (fun edge => [edge.from, edge.to]), id ∈ fitter.ids := by
    intro id hid
    obtain ⟨edge, hedge, hid⟩ := List.mem_flatMap.mp hid
    have hmark : edge.mark ∈ fitter.marks := by
      rw [← hmarks]
      exact List.mem_map_of_mem hedge
    have hboth := hfitter.endpoints _ hmark
    obtain rfl | rfl : id = edge.from ∨ id = edge.to := by simpa using hid
    · exact hboth.1
    · exact hboth.2
  refine Yields.pure ?_
  rw [foldl_adopt hends]
  exact hfitter.with_connections hmarks

theorem ids_minimalNodes (inputCount outputCount : Nat) :
    (minimalNodes inputCount outputCount).map NodeGene.id = List.range (inputCount + 1 + outputCount) := by
  rw [List.range_add, List.range_succ]
  simp [minimalNodes, Function.comp_def]

theorem minimalNodes_charted (t : InnovationTracker) :
    ∀ node ∈ minimalNodes inputs outputs, Charted inputs outputs t node.id node.kind node.layer := by
  intro node hnode
  simp only [minimalNodes, List.mem_append, List.mem_map, List.mem_range, List.mem_cons] at hnode
  obtain ⟨id, hid, rfl⟩ | rfl | ⟨index, hindex, rfl⟩ := hnode
  · exact .input hid
  · exact .bias
  · exact .output hindex

theorem minimalKeys_spec {key : Nat × Nat} (h : key ∈ minimalKeys inputs outputs) :
    key.1 ≤ inputs ∧ ∃ index < outputs, key.2 = inputs + 1 + index := by
  simp only [minimalKeys, List.mem_flatMap, List.mem_map, List.mem_range] at h
  obtain ⟨source, hsource, index, hindex, rfl⟩ := h
  exact ⟨Nat.lt_succ_iff.mp hsource, index, hindex, rfl⟩

theorem minimalKeys_nodup (inputCount outputCount : Nat) :
    (minimalKeys inputCount outputCount).Nodup := by
  refine List.nodup_flatMap.mpr ⟨fun source _ => ?_, ?_⟩
  · refine List.Nodup.map ?_ List.nodup_range
    intro index index' heq
    simpa using heq
  · refine List.nodup_range.imp fun hne => ?_
    intro key hkey hkey'
    obtain ⟨_, _, rfl⟩ := List.mem_map.mp hkey
    obtain ⟨_, _, heq⟩ := List.mem_map.mp hkey'
    simp only [Prod.mk.injEq] at heq
    exact hne heq.1.symm

theorem minimalKeys_charted {key : Nat × Nat} (t : InnovationTracker)
    (h : key ∈ minimalKeys inputs outputs) :
    KeyCharted inputs outputs t (key.1, key.2, false) := by
  obtain ⟨hsource, index, hindex, htarget⟩ := minimalKeys_spec h
  have hout : Charted inputs outputs t key.2 .output 1 := htarget ▸ .output hindex
  obtain hlt | heq := Nat.lt_or_eq_of_le hsource
  · exact ⟨.input, .output, 0, 1, .input hlt, hout, rfl, fun _ => by norm_num⟩
  · exact ⟨.bias, .output, 0, 1, heq ▸ .bias, hout, rfl, fun _ => by norm_num⟩

theorem minimalConnection_upholds {key : Nat × Nat} (hs : t.Sound inputs outputs)
    (hkey : key ∈ minimalKeys inputs outputs) :
    Upholds (InnovationTracker.Sound inputs outputs) (minimalConnection chance key) t
      fun edge t' => edge.mark ∈ t'.connections ∧ edge.key = (key.1, key.2, false) := by
  refine (connection_upholds hs (minimalKeys_charted t hkey)).bind fun innovation t₁ _ hs₁ hnumber => ?_
  refine (Upholds.draw hs₁ Yields.any).bind fun weight t₂ hle₂ hs₂ _ => ?_
  exact Upholds.pure hs₂ ⟨hle₂.1 hnumber, rfl⟩

theorem innovations_nodup_of_keys {marks : List (ConnectionKey × Nat)} (hs : t.Sound inputs outputs)
    (hkeys : (marks.map Prod.fst).Nodup) (hnumbered : ∀ mark ∈ marks, mark ∈ t.connections) :
    (marks.map Prod.snd).Nodup := by
  refine List.Nodup.map_on ?_ (List.Nodup.of_map Prod.fst hkeys)
  intro mark hmark mark' hmark' heq
  have hfirst := hnumbered mark hmark
  have hsecond := hnumbered mark' hmark'
  rw [← Prod.eta mark'] at hsecond
  rw [← Prod.eta mark, heq] at hfirst
  exact Prod.ext (hs.key_unique hfirst hsecond) heq

theorem minimal_upholds (hs : t.Sound inputs outputs) :
    Upholds (InnovationTracker.Sound inputs outputs) (minimal chance inputs outputs) t
      fun genome t' => genome.Fits inputs outputs t' := by
  refine (Upholds.mapM (R := fun key edge t' =>
    edge.mark ∈ t'.connections ∧ edge.key = (key.1, key.2, false)) ?_ hs ?_).bind
      fun connections t' _ hs' hrelated => Upholds.pure hs' ?_
  · intro key edge t t' hle h
    exact ⟨hle.1 h.1, h.2⟩
  · intro key hkey t' _ hs'
    exact minimalConnection_upholds chance hs' hkey
  have hnumbered : ∀ edge ∈ connections, edge.mark ∈ t'.connections ∧
      ∃ key ∈ minimalKeys inputs outputs, edge.key = (key.1, key.2, false) := by
    intro edge hedge
    obtain ⟨key, hkey, hmark, heq⟩ := exists_of_forall₂_mem hrelated hedge
    exact ⟨hmark, key, hkey, heq⟩
  have hids := ids_minimalNodes inputs outputs
  constructor
  · rfl
  · rw [ids, hids]
    exact List.nodup_range
  · exact minimalNodes_charted t'
  · refine innovations_nodup_of_keys hs' ?_ ?_
    · have hkeys : connections.map ConnectionGene.key =
          (minimalKeys inputs outputs).map fun key => (key.1, key.2, false) :=
        map_eq_of_forall₂ (hrelated.imp fun _ _ h => h.2)
      rw [marks, List.map_map]
      refine hkeys ▸ (minimalKeys_nodup inputs outputs).map ?_
      intro key key' heq
      simpa [Prod.ext_iff] using heq
    · intro mark hmark
      obtain ⟨edge, hedge, rfl⟩ := List.mem_map.mp hmark
      exact (hnumbered edge hedge).1
  · intro mark hmark
    obtain ⟨edge, hedge, rfl⟩ := List.mem_map.mp hmark
    exact (hnumbered edge hedge).1
  · intro mark hmark
    obtain ⟨edge, hedge, rfl⟩ := List.mem_map.mp hmark
    obtain ⟨-, key, hkey, heq⟩ := hnumbered edge hedge
    obtain ⟨hsource, index, hindex, htarget⟩ := minimalKeys_spec hkey
    rw [ids, hids, ConnectionGene.mark, heq, List.mem_range, List.mem_range]
    constructor
    · simp only
      omega
    · simp only
      omega

end Genome

end Mutating

end Fitting

end Netherwick.Neat

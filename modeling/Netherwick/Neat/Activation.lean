import Netherwick.Neat.Chart

/-! # The order of activation

A genome is activated layer by layer. Where every connection that is not recurrent goes from a lower
to a higher layer, each node is computed after all it reads through such connections, and what it
reads is what they are in the end. -/

namespace Netherwick.Neat

/-- The structure of a genome: nothing here depends on weights, plasticity or what is enabled. -/
structure Genome.WellFormed (genome : Genome) : Prop where
  ids_nodup : (genome.nodes.map NodeGene.id).Nodup
  innovations_nodup : (genome.connections.map ConnectionGene.innovation).Nodup
  endpoints : ∀ edge ∈ genome.connections,
    edge.from ∈ genome.nodes.map NodeGene.id ∧ edge.to ∈ genome.nodes.map NodeGene.id
  enters_no_source : ∀ edge ∈ genome.connections, ∀ node ∈ genome.nodes, node.id = edge.to →
    node.kind ≠ .input ∧ node.kind ≠ .bias
  ascends : ∀ edge ∈ genome.connections, edge.recurrent = false →
    ∀ source ∈ genome.nodes, ∀ target ∈ genome.nodes, source.id = edge.from → target.id = edge.to →
      source.layer < target.layer

/-- In the order of activation, what a node reads of this activation comes before it; and what an
activation leaves as the value of a node is its activity given the values the activation leaves. -/
structure Genome.ActivatesInOrder (genome : Genome) : Prop where
  sources_first : ∀ before node after, genome.ordered = before ++ node :: after →
    ∀ edge ∈ genome.connections, edge.to = node.id → edge.recurrent = false →
      ∃ source ∈ before, source.id = edge.from
  every_valued : ∀ inputs state output state',
    genome.activateStateful inputs state = .ok (output, state') →
      ∀ node ∈ genome.nodes, (state'.values.lookup node.id).isSome
  settles : ∀ inputs state output state',
    genome.activateStateful inputs state = .ok (output, state') →
      ∀ node ∈ genome.nodes, node.kind.isSource = false →
        state'.values.lookup node.id = some (genome.post state state'.values node.id)

namespace Genome

variable {self : Genome}

theorem ordered_perm : self.ordered.Perm self.nodes := List.perm_insertionSort _ _

theorem layers_ordered (self : Genome) : self.ordered.Pairwise fun left right => left.layer ≤ right.layer := by
  have htotal : Std.Total fun left right : NodeGene =>
      left.layer < right.layer ∨ (left.layer = right.layer ∧ left.id ≤ right.id) := by
    constructor
    intro left right
    rcases lt_trichotomy left.layer right.layer with hlt | heq | hlt
    · exact .inl (.inl hlt)
    · rcases Nat.le_total left.id right.id with hle | hle
      · exact .inl (.inr ⟨heq, hle⟩)
      · exact .inr (.inr ⟨heq.symm, hle⟩)
    · exact .inr (.inl hlt)
  have htrans : IsTrans NodeGene fun left right =>
      left.layer < right.layer ∨ (left.layer = right.layer ∧ left.id ≤ right.id) := by
    constructor
    intro a b c hab hbc
    rcases hab with hab | ⟨hab, hid⟩ <;> rcases hbc with hbc | ⟨hbc, hid'⟩
    · exact .inl (hab.trans hbc)
    · exact .inl (hbc ▸ hab)
    · exact .inl (hab ▸ hbc)
    · exact .inr ⟨hab.trans hbc, hid.trans hid'⟩
  refine (List.pairwise_insertionSort _ self.nodes).imp fun h => ?_
  rcases h with hlt | ⟨heq, -⟩
  · exact hlt.le
  · exact heq.le

theorem mem_before_of_lower {before after : List NodeGene} {node source : NodeGene}
    (hordered : self.ordered = before ++ node :: after) (hmem : source ∈ self.nodes)
    (hlow : source.layer < node.layer) : source ∈ before := by
  have hin : source ∈ before ++ node :: after := hordered ▸ ordered_perm.mem_iff.mpr hmem
  have hlayers := hordered ▸ layers_ordered self
  obtain hbefore | hrest := List.mem_append.mp hin
  · exact hbefore
  · obtain rfl | hafter := List.mem_cons.mp hrest
    · exact absurd hlow (lt_irrefl _)
    · have hle := (List.pairwise_cons.mp (List.pairwise_append.mp hlayers).2.1).1 source hafter
      exact absurd hlow (not_lt.mpr hle)

section Values

variable {state : GenomeState}
  {progress : List (Nat × Float32) × List (Nat × (Float32 × Float32))}

theorem compute_of_source {node : NodeGene} (h : node.kind.isSource = true) :
    self.compute state progress node = progress := by
  simp [compute, h]

theorem compute_values {node : NodeGene} (h : node.kind.isSource = false) :
    (self.compute state progress node).1 =
      (node.id, self.post state progress.1 node.id) :: progress.1 := by
  simp [compute, h]

theorem lookup_foldl_compute {nodes : List NodeGene} {id : Nat} (h : id ∉ nodes.map NodeGene.id) :
    (nodes.foldl (self.compute state) progress).1.lookup id = progress.1.lookup id := by
  induction nodes generalizing progress with
  | nil => rfl
  | cons node rest ih =>
    simp only [List.map_cons, List.mem_cons, not_or] at h
    rw [List.foldl_cons, ih h.2]
    by_cases hsource : node.kind.isSource
    · rw [compute_of_source hsource]
    · rw [compute_values (by simpa using hsource), List.lookup_cons]
      have hne : (id == node.id) = false := by simpa using h.1
      rw [hne]

theorem lookup_isSome_foldl_compute {nodes : List NodeGene} {id : Nat}
    (h : (progress.1.lookup id).isSome) :
    ((nodes.foldl (self.compute state) progress).1.lookup id).isSome := by
  induction nodes generalizing progress with
  | nil => exact h
  | cons node rest ih =>
    rw [List.foldl_cons]
    refine ih ?_
    by_cases hsource : node.kind.isSource
    · rw [compute_of_source hsource]
      exact h
    · rw [compute_values (by simpa using hsource), List.lookup_cons]
      by_cases heq : id == node.id
      · simp [heq]
      · simp [heq, h]

theorem post_congr {values values' : List (Nat × Float32)} {id : Nat}
    (h : ∀ edge ∈ self.connections, edge.to = id → edge.recurrent = false →
      values.lookup edge.from = values'.lookup edge.from) :
    self.post state values id = self.post state values' id := by
  have hread : ∀ edge ∈ self.incoming id, sourceValue state values edge = sourceValue state values' edge := by
    intro edge hedge
    simp only [incoming, List.mem_filter, Bool.and_eq_true, beq_iff_eq] at hedge
    by_cases hrecurrent : edge.recurrent
    · simp [sourceValue, hrecurrent]
    · have hsame := h edge hedge.1 hedge.2.2 (by simpa using hrecurrent)
      simp [sourceValue, hrecurrent, hsame]
  have hmap : ((self.incoming id).map fun edge => sourceValue state values edge * edgeWeight state edge) =
      (self.incoming id).map fun edge => sourceValue state values' edge * edgeWeight state edge :=
    List.map_congr_left fun edge hedge => by rw [hread edge hedge]
  rw [post, post, hmap]

theorem given_isSome {inputs : List Float32} {id : Nat} (hlength : inputs.length = self.inputCount)
    (hid : id ≤ self.inputCount) : ((self.given inputs).lookup id).isSome := by
  obtain hlt | rfl := Nat.lt_or_eq_of_le hid
  · have hin : id < inputs.length := by omega
    have hmem : (id, finiteOrZero inputs[id]) ∈ self.given inputs :=
      List.mem_cons_of_mem _ (List.mem_reverse.mpr (List.mem_mapIdx.mpr ⟨id, hin, rfl⟩))
    exact lookup_isSome_of_mem hmem
  · simp [given]

theorem activateStateful_ok {inputs : List Float32} {output : List Float32} {state' : GenomeState}
    (h : self.activateStateful inputs state = .ok (output, state')) :
    inputs.length = self.inputCount ∧ state'.values =
      (self.ordered.foldl (self.compute state) (self.given inputs, state.lastActivity)).1 := by
  by_cases hlength : inputs.length = self.inputCount
  · simp only [activateStateful, hlength, ne_eq, not_true, if_false, Except.ok.injEq,
      Prod.mk.injEq] at h
    exact ⟨hlength, h.2 ▸ rfl⟩
  · simp [activateStateful, hlength] at h

end Values

/-- A well-formed genome is activated in order. Its inputs and its bias are those that an activation
is given. -/
theorem WellFormed.activatesInOrder (hg : self.WellFormed)
    (hgiven : ∀ node ∈ self.nodes, node.kind.isSource = true → node.id ≤ self.inputCount) :
    self.ActivatesInOrder := by
  have hfirst : ∀ (before : List NodeGene) (node : NodeGene) (after : List NodeGene),
      self.ordered = before ++ node :: after →
      ∀ edge ∈ self.connections, edge.to = node.id → edge.recurrent = false →
        ∃ source ∈ before, source.id = edge.from := by
    intro before node after hordered edge hedge hto hrecurrent
    obtain ⟨source, hsource, hfrom⟩ := List.mem_map.mp (hg.endpoints edge hedge).1
    have hnode : node ∈ self.nodes := ordered_perm.mem_iff.mp (hordered ▸ by simp)
    have hlow := hg.ascends edge hedge hrecurrent source hsource node hnode hfrom hto.symm
    exact ⟨source, mem_before_of_lower hordered hsource hlow, hfrom⟩
  have hids : (self.ordered.map NodeGene.id).Nodup :=
    (ordered_perm.map NodeGene.id).nodup_iff.mpr hg.ids_nodup
  have hsettles : ∀ inputs state output state',
      self.activateStateful inputs state = .ok (output, state') →
        ∀ node ∈ self.nodes, node.kind.isSource = false →
          state'.values.lookup node.id = some (self.post state state'.values node.id) := by
    intro inputs state output state' hactivate node hnode hkind
    obtain ⟨-, hvalues⟩ := activateStateful_ok hactivate
    obtain ⟨before, after, hordered⟩ := List.append_of_mem (ordered_perm.mem_iff.mpr hnode)
    rw [hordered, List.map_append, List.map_cons] at hids
    have hafter := (List.nodup_cons.mp (List.nodup_append.mp hids).2.1).1
    rw [hordered, List.foldl_append, List.foldl_cons] at hvalues
    rw [hvalues, lookup_foldl_compute hafter, compute_values hkind, List.lookup_cons_self]
    congr 1
    refine post_congr fun edge hedge hto hrecurrent => ?_
    obtain ⟨source, hsource, hfrom⟩ := hfirst before node after hordered edge hedge hto hrecurrent
    have hlater := (List.nodup_append.mp hids).2.2 source.id (List.mem_map_of_mem hsource)
    have hne : source.id ≠ node.id := hlater node.id List.mem_cons_self
    have hnot : source.id ∉ after.map NodeGene.id := fun hmem =>
      hlater source.id (List.mem_cons_of_mem _ hmem) rfl
    have hbeq : (source.id == node.id) = false := by simpa using hne
    rw [← hfrom, lookup_foldl_compute hnot, compute_values hkind, List.lookup_cons, hbeq]
  refine ⟨hfirst, ?_, hsettles⟩
  intro inputs state output state' hactivate node hnode
  by_cases hkind : node.kind.isSource
  · obtain ⟨hlength, hvalues⟩ := activateStateful_ok hactivate
    rw [hvalues]
    exact lookup_isSome_foldl_compute (given_isSome hlength (hgiven node hnode hkind))
  · rw [hsettles inputs state output state' hactivate node hnode (by simpa using hkind)]
    rfl

end Genome

end Netherwick.Neat

import Netherwick.Skills.Scopes

/-! # How far a careful scope reaches

The bridge keeps one hazard for each child. Opening a careful scope puts it there, leaving any
careful scope of the child takes it away, and a child of `together` starts without one. -/

namespace Netherwick.Skills

namespace Scopes

/-- The careful scope that the bridge knows of, told from the open scopes of a child. -/
def innermost : List Scope → Option HazardKind
  | [] => none
  | .careful hazard intact :: _ => if intact then some hazard else none
  | .together _ :: rest => innermost rest

def Excludes (scopes : Scopes) (child : Nat) (operation : HostOperation) : Prop :=
  ∃ hazard ∈ scopes.enclosing child, hazard.permits operation = false

end Scopes

namespace Skill

variable (config : LuaSkillConfig) (skill : Skill) (input : SkillInput)

def scopesAfter (done : List ScriptEvent) : Scopes :=
  (Scopes.poll config.maximumOperationMs (skill.prepared config input).bridge skill.scopes done).1

def invocationAfter (done : List ScriptEvent) : Invocation :=
  (skill.prepared config input).scripted config (Scopes.poll config.maximumOperationMs
    (skill.prepared config input).bridge skill.scopes done).2

/-- In a poll, a child asks for an operation that a careful scope around it excludes. -/
structure AsksOutside (done : List ScriptEvent) (child : Nat) (operation : HostOperation) :
    Prop where
  polled : (skill.prepared config input).result = none
  next : done ++ [.request child operation] <+: input.script
  running : (skill.scopesAfter config input done).running child = true
  excluded : (skill.scopesAfter config input done).Excludes child operation

/-- An excluded operation escapes when the innermost careful scope of the asking child itself does
not exclude it, is missing, or had a careful scope left inside it. -/
def Escapes : Prop :=
  ∃ done child operation, skill.AsksOutside config input done child operation ∧
    ∀ hazard, Scopes.innermost ((skill.scopesAfter config input done).opened child) = some hazard →
      hazard.permits operation = true

end Skill

section Runs

variable (config : LuaSkillConfig) (now : Now) (maximumDurationMs : Nat)
  (turns : List SkillTurn)

/-- Every operation that an enclosing careful scope excludes is finished at once as a violation of
the envelope, and the driver never hears of it. -/
structure EnvelopeHolds : Prop where
  refused : ∀ before input, before ++ [.step input] <+: turns → ∀ done child operation,
    (Skill.run config now maximumDurationMs before).AsksOutside config input done child operation →
    let bridge := ((Skill.run config now maximumDurationMs before).invocationAfter config input
      done).bridge
    .finished bridge.nextOperation (some (carefulEnvelopeViolation.forOperation operation)) ∈
      (bridge.enqueue child operation config.maximumOperationMs).log
  undriven : ∀ before, before <+: turns →
    ∀ id ∈ (Skill.run config now maximumDurationMs before).scopes.outside, ∀ operation,
      .polled id operation ∉ (Skill.run config now maximumDurationMs before).invocation.log

def NeverEscapes : Prop :=
  ∀ before input, before ++ [.step input] <+: turns →
    ¬ (Skill.run config now maximumDurationMs before).Escapes config input

end Runs

/-- What the bridge knows of the careful scopes. -/
structure Enveloped (bridge : Bridge) (scopes : Scopes) : Prop where
  own : ∀ child, child ∈ scopes.lineage child
  threads : ∀ thread ∈ scopes.threads, thread < bridge.nextChild
  fresh : ∀ child, bridge.nextChild ≤ child →
    bridge.childHazard child = none ∧ scopes.opened child = []
  tops : ∀ child ids, .together ids ∉ (scopes.opened child).tail
  hazards : ∀ thread ∈ scopes.threads,
    bridge.childHazard thread = Scopes.innermost (scopes.opened thread)

section Script

variable {maximumOperationMs : Nat} {bridge bridge' : Bridge} {scopes scopes' : Scopes}
  {event : ScriptEvent}

theorem Enveloped.running_tops {child : Nat} (h : Enveloped bridge scopes)
    (hrunning : scopes.running child = true) (ids : List Nat) :
    .together ids ∉ scopes.opened child := by
  intro hmem
  have htail := h.tops child
  unfold Scopes.running at hrunning
  cases hopened : scopes.opened child with
  | nil =>
    rw [hopened] at hmem
    cases hmem
  | cons first rest =>
    rw [hopened] at hmem htail hrunning
    obtain rfl | hrest := List.mem_cons.mp hmem
    · simp at hrunning
    · exact htail ids hrest

theorem innermost_disturbed {opened : List Scope} (h : ∀ ids, .together ids ∉ opened) :
    Scopes.innermost (Scopes.disturbed opened) = none := by
  unfold Scopes.disturbed
  split
  · rfl
  · rename_i hfirst
    cases opened with
    | nil => rfl
    | cons first rest =>
      cases first with
      | careful hazard intact => exact absurd rfl (hfirst hazard intact rest)
      | together ids => exact absurd List.mem_cons_self (h ids)

theorem tail_disturbed (opened : List Scope) : (Scopes.disturbed opened).tail = opened.tail := by
  unfold Scopes.disturbed
  split
  · rfl
  · rfl

theorem Enveloped.setOpened {child : Nat} {opened : List Scope} (h : Enveloped bridge scopes)
    (hnext : bridge'.nextChild = bridge.nextChild) (hchild : child < bridge.nextChild)
    (htops : ∀ ids, .together ids ∉ opened.tail)
    (hothers : ∀ other, other ≠ child → bridge'.childHazard other = bridge.childHazard other)
    (hown : child ∈ scopes.threads → bridge'.childHazard child = Scopes.innermost opened) :
    Enveloped bridge' (scopes.setOpened child opened) := by
  refine ⟨h.own, ?_, ?_, ?_, ?_⟩
  · rw [hnext]
    exact h.threads
  · intro other hother
    rw [hnext] at hother
    have hne : other ≠ child := by omega
    obtain ⟨hnone, hempty⟩ := h.fresh other hother
    refine ⟨?_, ?_⟩
    · rw [hothers other hne, hnone]
    · simp [Scopes.setOpened, hne, hempty]
  · intro other ids
    by_cases hother : other = child
    · simpa [Scopes.setOpened, hother] using htops ids
    · simpa [Scopes.setOpened, hother] using h.tops other ids
  · intro thread hthread
    by_cases hother : thread = child
    · subst hother
      simpa [Scopes.setOpened] using hown hthread
    · rw [hothers thread hother, h.hazards thread hthread]
      simp [Scopes.setOpened, hother]

theorem Enveloped.fewer {threads : List Nat} (h : Enveloped bridge scopes)
    (hnext : bridge'.nextChild = bridge.nextChild)
    (hthreads : ∀ thread ∈ threads, thread ∈ scopes.threads)
    (hgone : ∀ child, bridge'.childHazard child = bridge.childHazard child ∨
      bridge'.childHazard child = none ∧ child ∉ threads) :
    Enveloped bridge' { scopes with threads } := by
  refine ⟨h.own, ?_, ?_, h.tops, ?_⟩
  · intro thread hthread
    rw [hnext]
    exact h.threads thread (hthreads thread hthread)
  · intro child hchild
    rw [hnext] at hchild
    obtain ⟨hnone, hempty⟩ := h.fresh child hchild
    refine ⟨?_, hempty⟩
    obtain hsame | ⟨hgone, -⟩ := hgone child
    · rw [hsame, hnone]
    · exact hgone
  · intro thread hthread
    obtain hsame | ⟨-, hnot⟩ := hgone thread
    · rw [hsame]
      exact h.hazards thread (hthreads thread hthread)
    · exact absurd hthread hnot

theorem Enveloped.congr (h : Enveloped bridge scopes)
    (hnext : bridge'.nextChild = bridge.nextChild)
    (hhazards : bridge'.childHazard = bridge.childHazard) : Enveloped bridge' scopes := by
  obtain ⟨hown, hthreads, hfresh, htops, hhazard⟩ := h
  refine ⟨hown, ?_, ?_, htops, ?_⟩
  · rwa [hnext]
  · rwa [hnext, hhazards]
  · rwa [hhazards]

theorem enqueue_kept (bridge : Bridge) (child : Nat) (operation : HostOperation)
    (maximumOperationMs : Nat) :
    (bridge.enqueue child operation maximumOperationMs).nextChild = bridge.nextChild ∧
      (bridge.enqueue child operation maximumOperationMs).childHazard = bridge.childHazard := by
  unfold Bridge.enqueue
  simp only
  split
  · exact ⟨rfl, rfl⟩
  · exact ⟨rfl, rfl⟩

theorem Enveloped.resumes {parent : Nat} {ids : List Nat} {rest : List Scope}
    (h : Enveloped bridge scopes) (hopened : scopes.opened parent = .together ids :: rest) :
    Enveloped bridge (scopes.setOpened parent (scopes.opened parent).tail) := by
  have hparent : parent < bridge.nextChild := by
    by_contra hnot
    have hempty := (h.fresh parent (by omega)).2
    rw [hopened] at hempty
    cases hempty
  refine h.setOpened rfl hparent ?_ (fun _ _ => rfl) ?_
  · intro other hmem
    exact h.tops parent other (List.mem_of_mem_tail hmem)
  · intro hthread
    rw [h.hazards parent hthread, hopened]
    rfl

theorem Enveloped.forked {child count : Nat} (h : Enveloped bridge scopes)
    (hrunning : scopes.running child = true) :
    Enveloped (bridge.allocateChildren child count) (scopes.forked bridge child count) := by
  have hchild := h.threads child (running_mem hrunning)
  have hnext : (bridge.allocateChildren child count).nextChild = bridge.nextChild + count := rfl
  have hopens : Enveloped bridge
      (scopes.setOpened child (.together (bridge.childIds count) :: scopes.opened child)) :=
    h.setOpened rfl hchild (fun ids => h.running_tops hrunning ids) (fun _ _ => rfl)
      fun hthread => h.hazards child hthread
  refine ⟨?_, ?_, ?_, hopens.tops, ?_⟩
  · intro other
    change other ∈ if other ∈ bridge.childIds count then other :: scopes.lineage child
      else scopes.lineage other
    split
    · exact List.mem_cons_self
    · exact h.own other
  · intro thread hthread
    rw [hnext]
    obtain hold | hnew := List.mem_append.mp hthread
    · have hlt := h.threads thread hold
      omega
    · exact (mem_childIds.mp hnew).2
  · intro other hother
    exact hopens.fresh other (by omega)
  · intro thread hthread
    obtain hold | hnew := List.mem_append.mp hthread
    · exact hopens.hazards thread hold
    · obtain ⟨hnone, hempty⟩ := hopens.fresh thread (mem_childIds.mp hnew).1
      refine hnone.trans ?_
      change none = Scopes.innermost ((scopes.setOpened child
        (.together (bridge.childIds count) :: scopes.opened child)).opened thread)
      rw [hempty]
      rfl

theorem enveloped_effect (h : Enveloped bridge scopes)
    (heffect : Scopes.Effect maximumOperationMs bridge scopes event bridge' scopes') :
    Enveloped bridge' scopes' := by
  cases heffect with
  | idle => exact h
  | @request child operation outside running excluded =>
    obtain ⟨hnext, hhazards⟩ := enqueue_kept bridge child operation maximumOperationMs
    obtain ⟨hown, hthreads, hfresh, htops, hhazard⟩ := h.congr hnext hhazards
    exact ⟨hown, hthreads, hfresh, htops, hhazard⟩
  | @carefully child hazard running =>
    refine h.setOpened rfl (h.threads child (running_mem running)) ?_ ?_ ?_
    · exact fun ids => h.running_tops running ids
    · intro other hother
      exact if_neg hother
    · intro _
      exact if_pos rfl
  | @leaves child hazard intact rest running opened =>
    have hnone : ∀ ids, .together ids ∉ rest := by
      intro ids hmem
      have htop := h.running_tops running ids
      rw [opened] at htop
      exact htop (List.mem_cons_of_mem _ hmem)
    refine h.setOpened rfl (h.threads child (running_mem running)) ?_ ?_ ?_
    · intro ids hmem
      rw [tail_disturbed] at hmem
      exact hnone ids (List.mem_of_mem_tail hmem)
    · intro other hother
      exact if_neg hother
    · intro _
      rw [innermost_disturbed hnone]
      exact if_pos rfl
  | forks running => exact h.forked running
  | returns =>
    refine h.fewer rfl ?_ fun _ => .inl rfl
    intro thread hthread
    exact (List.mem_filter.mp hthread).1
  | @joins child parent ids group ended =>
    obtain ⟨-, -, rest, hopened⟩ := group_some group
    refine (h.resumes hopened).fewer rfl ?_ ?_
    · intro thread hthread
      exact (List.mem_filter.mp hthread).1
    · intro other
      by_cases hother : other ∈ ids
      · exact .inr ⟨if_pos hother, ended other hother⟩
      · exact .inl (if_neg hother)
  | @fails child parent ids failure group =>
    obtain ⟨-, -, rest, hopened⟩ := group_some group
    have hfewer : Enveloped
        ((bridge.cancelChildren (ids.filter fun id => id ≠ child) failure).finishChildren ids)
        { scopes.setOpened parent (scopes.opened parent).tail with
          threads := scopes.threads.filter fun thread =>
            !(scopes.lineage thread).any fun ancestor => ancestor ∈ ids } := by
      refine (h.resumes hopened).fewer rfl ?_ ?_
      · intro thread hthread
        exact (List.mem_filter.mp hthread).1
      · intro other
        by_cases hother : other ∈ ids
        · refine .inr ⟨if_pos hother, ?_⟩
          rw [List.mem_filter]
          rintro ⟨-, houtside⟩
          simp only [Bool.not_eq_true', List.any_eq_false, decide_eq_true_eq] at houtside
          exact houtside other (h.own other) hother
        · exact .inl (if_neg hother)
    obtain ⟨hown, hthreads, hfresh, htops, hhazard⟩ := hfewer
    exact ⟨hown, hthreads, hfresh, htops, hhazard⟩

theorem excludes_iff {child : Nat} {operation : HostOperation} :
    scopes.Excludes child operation ↔
      ((scopes.enclosing child).any fun hazard => !hazard.permits operation) = true := by
  unfold Scopes.Excludes
  simp

variable (maximumOperationMs) in
/-- A new operation is refused as a violation exactly when the bridge knows of a careful scope of
the asking child that excludes it. -/
theorem enqueue_refused {child : Nat} {operation : HostOperation}
    (hfresh : ∀ failure, .finished bridge.nextOperation failure ∉ bridge.log) :
    .finished bridge.nextOperation (some (carefulEnvelopeViolation.forOperation operation)) ∈
        (bridge.enqueue child operation maximumOperationMs).log ↔
      ∃ hazard, bridge.childHazard child = some hazard ∧ hazard.permits operation = false := by
  constructor
  · intro hmem
    apply validateOperationContext_violation.mp
    unfold Bridge.enqueue at hmem
    cases hresult : validateOperationContext (bridge.childHazard child) bridge.snapshot
        operation with
    | ok _ =>
      simp only [hresult] at hmem
      obtain hold | hnew := List.mem_append.mp hmem
      · exact absurd hold (hfresh _)
      · simp at hnew
    | error failure =>
      refine ⟨failure, rfl, ?_⟩
      simp only [hresult] at hmem
      obtain hold | hnew := List.mem_append.mp hmem
      · exact absurd hold (hfresh _)
      · simp only [List.mem_cons, List.not_mem_nil, or_false, reduceCtorEq, false_or,
          Happening.finished.injEq, Option.some.injEq, true_and] at hnew
        have hkind := congrArg SkillFailure.kind hnew
        exact hkind.symm
  · rintro ⟨hazard, hchild, hrefuses⟩
    unfold Bridge.enqueue
    rw [hchild]
    simp only [validateOperationContext_excluded hrefuses]
    simp

end Script

/-- What was written of the operations that were asked for outside their envelope. -/
structure Guarded (log : List Happening) (outside : List Nat) : Prop where
  known : ∀ id operation, .polled id operation ∈ log → .enqueued id ∈ log
  finished : ∀ id ∈ outside, ∃ failure, .finished id failure ∈ log
  undriven : ∀ id ∈ outside, ∀ operation, .polled id operation ∉ log

section Guarded

variable {outside : List Nat}

theorem Guarded.mute {before after : Invocation} (h : Guarded before.log outside)
    (hmute : Invocation.Mute before after) : Guarded after.log outside := by
  refine ⟨?_, ?_, ?_⟩
  · intro id operation hpolled
    exact hmute.kept.subset (h.known id operation (hmute.polled hpolled))
  · intro id hid
    obtain ⟨failure, hmem⟩ := h.finished id hid
    exact ⟨failure, hmute.kept.subset hmem⟩
  · intro id hid operation hpolled
    exact h.undriven id hid operation (hmute.polled hpolled)

theorem active_known {invocation : Invocation} (h : invocation.Accounted [])
    {active : ActiveOperation} (hactive : active ∈ invocation.active) :
    .enqueued active.request.id ∈ invocation.log ∧
      ∀ failure, .finished active.request.id failure ∉ invocation.log := by
  have haccount := h.account active.request.id
  have honce := h.once active.request.id
  have hlive : 1 ≤ invocation.live.count active.request.id := by
    rw [List.one_le_count_iff]
    unfold Invocation.live Invocation.activeIds
    exact List.mem_append_left _ (List.mem_append_left _ (List.mem_map_of_mem hactive))
  rw [List.count_nil] at haccount
  refine ⟨?_, ?_⟩
  · rw [← List.one_le_count_iff]
    omega
  · intro failure hmem
    have hfinished : 1 ≤ finishes invocation.log active.request.id :=
      List.countP_pos_iff.mpr ⟨_, hmem, by simp⟩
    omega

theorem Guarded.polled {invocation : Invocation} (h : Guarded invocation.log outside)
    (haccounted : invocation.Accounted []) {polled : List ActiveOperation}
    (hpolled : ∀ active ∈ polled, active ∈ invocation.active) :
    Guarded (invocation.note (polled.map fun active =>
      .polled active.request.id active.request.operation)).log outside := by
  have hlog : (invocation.note (polled.map fun active =>
      .polled active.request.id active.request.operation)).log = invocation.log ++
      polled.map fun active => Happening.polled active.request.id active.request.operation := rfl
  rw [hlog]
  refine ⟨?_, ?_, ?_⟩
  · intro id operation hmem
    obtain hold | hnew := List.mem_append.mp hmem
    · exact List.mem_append_left _ (h.known id operation hold)
    · obtain ⟨active, hactive, heq⟩ := List.mem_map.mp hnew
      cases heq
      exact List.mem_append_left _ (active_known haccounted (hpolled active hactive)).1
  · intro id hid
    obtain ⟨failure, hmem⟩ := h.finished id hid
    exact ⟨failure, List.mem_append_left _ hmem⟩
  · intro id hid operation hmem
    obtain hold | hnew := List.mem_append.mp hmem
    · exact h.undriven id hid operation hold
    · obtain ⟨active, hactive, heq⟩ := List.mem_map.mp hnew
      cases heq
      obtain ⟨failure, hfinished⟩ := h.finished _ hid
      exact (active_known haccounted (hpolled active hactive)).2 failure hfinished

theorem Guarded.prepared {invocation : Invocation} {config : LuaSkillConfig} {input : StepInput}
    (h : Guarded invocation.log outside) (haccounted : invocation.Accounted []) :
    Guarded (invocation.prepared config input).log outside := by
  have hserved := (Invocation.mute_preempted invocation input).trans (Invocation.mute_service _)
  have hexpired := h.mute (hserved.trans (Invocation.mute_expired _ input.now.tMs))
  have haccounted' : Invocation.Accounted ((invocation.preempted input).serviceChildCancellations
      |>.expireResourceWaits input.now.tMs) [] :=
    haccounted.preempted.serviceChildCancellations.expireResourceWaits _
  unfold Invocation.prepared
  refine Guarded.mute ?_ (Invocation.mute_grant _ _)
  unfold Invocation.serviceActiveOperations
  refine Guarded.mute ?_ (Invocation.mute_finishAll _ _ _ _)
  apply Guarded.polled hexpired haccounted'
  intro active hactive
  exact (List.mem_filter.mp hactive).1

theorem enqueue_log (bridge : Bridge) (child : Nat) (operation : HostOperation)
    (maximumOperationMs : Nat) :
    ∃ more, (bridge.enqueue child operation maximumOperationMs).log = bridge.log ++ more ∧
      ∀ id operation, .polled id operation ∉ more := by
  unfold Bridge.enqueue
  simp only
  split
  · exact ⟨_, rfl, by simp⟩
  · exact ⟨_, rfl, by simp⟩

theorem Guarded.effect {maximumOperationMs : Nat} {bridge bridge' : Bridge}
    {scopes scopes' : Scopes} {event : ScriptEvent} (h : Guarded bridge.log scopes.outside)
    (hfresh : .enqueued bridge.nextOperation ∉ bridge.log)
    (hrefused : ∀ child operation, event = .request child operation →
      scopes.running child = true → scopes.Excludes child operation →
      .finished bridge.nextOperation (some (carefulEnvelopeViolation.forOperation operation)) ∈
        (bridge.enqueue child operation maximumOperationMs).log)
    (heffect : Scopes.Effect maximumOperationMs bridge scopes event bridge' scopes') :
    Guarded bridge'.log scopes'.outside := by
  cases heffect with
  | idle | carefully | leaves | forks | returns | joins | fails => exact h
  | @request child operation outside running excluded =>
    obtain ⟨more, hlog, hmute⟩ := enqueue_log bridge child operation maximumOperationMs
    have hpolled : ∀ id other,
        .polled id other ∈ (bridge.enqueue child operation maximumOperationMs).log →
        .polled id other ∈ bridge.log := by
      intro id other hmem
      rw [hlog] at hmem
      exact (List.mem_append.mp hmem).resolve_right (hmute id other)
    have hkept : ∀ happened ∈ bridge.log,
        happened ∈ (bridge.enqueue child operation maximumOperationMs).log := by
      intro happened hmem
      rw [hlog]
      exact List.mem_append_left _ hmem
    have houtside : ∀ id ∈ outside, id ∈ scopes.outside ∨
        id = bridge.nextOperation ∧ scopes.Excludes child operation := by
      intro id hid
      rw [excluded] at hid
      split at hid
      · rename_i hexcluded
        obtain hold | hnew := List.mem_append.mp hid
        · exact .inl hold
        · exact .inr ⟨List.mem_singleton.mp hnew, excludes_iff.mpr hexcluded⟩
      · exact .inl hid
    refine ⟨?_, ?_, ?_⟩
    · intro id other hmem
      exact hkept _ (h.known id other (hpolled id other hmem))
    · intro id hid
      obtain hold | ⟨rfl, hexcluded⟩ := houtside id hid
      · obtain ⟨failure, hmem⟩ := h.finished id hold
        exact ⟨failure, hkept _ hmem⟩
      · exact ⟨_, hrefused child operation rfl running hexcluded⟩
    · intro id hid other hmem
      obtain hold | ⟨rfl, -⟩ := houtside id hid
      · exact h.undriven id hold other (hpolled id other hmem)
      · exact hfresh (h.known _ other (hpolled _ other hmem))

end Guarded

namespace Skill

variable {config : LuaSkillConfig} {skill : Skill} {input : SkillInput}

theorem after_append (done : List ScriptEvent) (event : ScriptEvent) :
    Scopes.Effect config.maximumOperationMs (skill.invocationAfter config input done).bridge
      (skill.scopesAfter config input done) event
      (skill.invocationAfter config input (done ++ [event])).bridge
      (skill.scopesAfter config input (done ++ [event])) := by
  have hpoll := skill.scopes.poll_append config.maximumOperationMs
    (skill.prepared config input).bridge done event
  have hscopes : skill.scopesAfter config input (done ++ [event]) =
      ((skill.scopesAfter config input done).event
        (skill.invocationAfter config input done).bridge event).1 := by
    unfold scopesAfter
    rw [hpoll]
    rfl
  have hbridge : (skill.invocationAfter config input (done ++ [event])).bridge =
      (skill.scopesAfter config input done).performed config.maximumOperationMs
        (skill.invocationAfter config input done).bridge event := by
    unfold invocationAfter Invocation.scripted
    simp only
    rw [hpoll, List.foldl_append]
    rfl
  rw [hscopes, hbridge]
  exact Scopes.event_effect _ _ _ _

variable (config input) in
theorem enveloped_after (h : Enveloped skill.invocation.bridge skill.scopes)
    (done : List ScriptEvent) :
    Enveloped (skill.invocationAfter config input done).bridge
      (skill.scopesAfter config input done) := by
  induction done using List.reverseRecOn with
  | nil =>
    have hframed := Invocation.framed_prepared skill.invocation config (input.stepInput [])
    exact h.congr hframed.nextChild hframed.childHazard
  | append_singleton done event ih => exact enveloped_effect ih (after_append done event)

theorem step_cases (config : LuaSkillConfig) (skill : Skill) (input : SkillInput) :
    ((skill.prepared config input).result.isSome ∧
        (skill.turn config (.step input)).scopes = skill.scopesAfter config input [] ∧
        Invocation.Framed (skill.invocationAfter config input [])
          (skill.turn config (.step input)).invocation ∧
        Invocation.Mute (skill.invocationAfter config input [])
          (skill.turn config (.step input)).invocation) ∨
      ((skill.prepared config input).result = none ∧
        (skill.turn config (.step input)).scopes = skill.scopesAfter config input input.script ∧
        Invocation.Framed (skill.invocationAfter config input input.script)
          (skill.turn config (.step input)).invocation ∧
        Invocation.Mute (skill.invocationAfter config input input.script)
          (skill.turn config (.step input)).invocation) := by
  have hframed := fun invocation => Invocation.framed_end invocation input.now.tMs
  have hmute : ∀ invocation : Invocation, invocation.Mute
      (((invocation.drainNewRequests input.now.tMs).grantWaitingOperations input.now.tMs
        ).finishStatus input.now.tMs) := fun invocation =>
    ((Invocation.mute_drain _ _).trans (Invocation.mute_grant _ _)).trans
      (Invocation.mute_finishStatus _ _)
  have hstep : (skill.turn config (.step input)).invocation =
      ((((skill.prepared config input).polled config ⟨(skill.scripted config input).2,
        input.ending⟩).drainNewRequests input.now.tMs).grantWaitingOperations input.now.tMs
        ).finishStatus input.now.tMs := rfl
  have hscopes : (skill.turn config (.step input)).scopes = (skill.scripted config input).1 := rfl
  rw [hstep, hscopes]
  unfold Skill.scripted Invocation.polled
  by_cases hresult : (skill.prepared config input).result.isSome
  · rw [if_pos hresult, if_pos hresult]
    exact .inl ⟨hresult, rfl, hframed _, hmute _⟩
  · rw [if_neg hresult, if_neg hresult]
    have hconcluded := Invocation.framed_concluded (skill.invocationAfter config input input.script)
      config input.ending
    have hmute' := Invocation.mute_concluded (skill.invocationAfter config input input.script)
      config input.ending
    exact .inr ⟨by simpa using hresult, rfl, hconcluded.trans (hframed _), hmute'.trans (hmute _)⟩

theorem enveloped_turn (h : Enveloped skill.invocation.bridge skill.scopes) (turn : SkillTurn) :
    Enveloped (skill.turn config turn).invocation.bridge (skill.turn config turn).scopes := by
  cases turn with
  | step input =>
    obtain ⟨-, hscopes, hframed, -⟩ | ⟨-, hscopes, hframed, -⟩ := skill.step_cases config input
    · rw [hscopes]
      exact (enveloped_after config input h []).congr hframed.nextChild hframed.childHazard
    · rw [hscopes]
      exact (enveloped_after config input h input.script).congr hframed.nextChild hframed.childHazard
  | cancel failure nowMs =>
    have hframed := (Invocation.framed_cancelInvocation skill.invocation failure).trans
      (Invocation.framed_finishStatus _ nowMs)
    exact h.congr hframed.nextChild hframed.childHazard

variable (config input) in
theorem accounted_after (h : skill.invocation.Accounted []) (done : List ScriptEvent) :
    (skill.invocationAfter config input done).Accounted [] := h.prepared.scripted _

theorem fresh_operation {invocation : Invocation} (h : invocation.Accounted []) :
    .enqueued invocation.bridge.nextOperation ∉ invocation.log ∧
      ∀ failure, .finished invocation.bridge.nextOperation failure ∉ invocation.log := by
  have hnone := h.fresh _ (Nat.le_refl _)
  have haccount := h.account invocation.bridge.nextOperation
  refine ⟨List.count_eq_zero.mp hnone, ?_⟩
  intro failure hmem
  have hfinished : 1 ≤ finishes invocation.log invocation.bridge.nextOperation :=
    List.countP_pos_iff.mpr ⟨_, hmem, by simp⟩
  omega

theorem refused_iff (haccounted : skill.invocation.Accounted [])
    (h : Enveloped skill.invocation.bridge skill.scopes) {done : List ScriptEvent} {child : Nat}
    {operation : HostOperation}
    (hrunning : (skill.scopesAfter config input done).running child = true) :
    let bridge := (skill.invocationAfter config input done).bridge
    .finished bridge.nextOperation (some (carefulEnvelopeViolation.forOperation operation)) ∈
        (bridge.enqueue child operation config.maximumOperationMs).log ↔
      ∃ hazard, Scopes.innermost ((skill.scopesAfter config input done).opened child) =
        some hazard ∧ hazard.permits operation = false := by
  intro bridge
  have hfresh := (fresh_operation (accounted_after config input haccounted done)).2
  have hhazard := (enveloped_after config input h done).hazards child (running_mem hrunning)
  rw [← hhazard]
  exact enqueue_refused config.maximumOperationMs hfresh

theorem guarded_after (haccounted : skill.invocation.Accounted [])
    (h : Enveloped skill.invocation.bridge skill.scopes)
    (hguarded : Guarded skill.invocation.log skill.scopes.outside)
    (hnot : ¬ skill.Escapes config input) (hpolled : (skill.prepared config input).result = none)
    (done : List ScriptEvent) (hdone : done <+: input.script) :
    Guarded (skill.invocationAfter config input done).log
      (skill.scopesAfter config input done).outside := by
  induction done using List.reverseRecOn with
  | nil => exact hguarded.prepared haccounted
  | append_singleton done event ih =>
    have hbefore := ih ((List.prefix_append _ _).trans hdone)
    have hfresh := (fresh_operation (accounted_after config input haccounted done)).1
    refine hbefore.effect hfresh ?_ (after_append done event)
    rintro child operation rfl hrunning hexcluded
    apply (refused_iff haccounted h hrunning).mpr
    by_contra hnone
    push Not at hnone
    refine hnot ⟨done, child, operation, ⟨hpolled, hdone, hrunning, hexcluded⟩, ?_⟩
    intro hazard hinnermost
    simpa using hnone hazard hinnermost

theorem guarded_turn (haccounted : skill.invocation.Accounted [])
    (h : Enveloped skill.invocation.bridge skill.scopes)
    (hguarded : Guarded skill.invocation.log skill.scopes.outside) (turn : SkillTurn)
    (hnot : ∀ input, turn = .step input → ¬ skill.Escapes config input) :
    Guarded (skill.turn config turn).invocation.log (skill.turn config turn).scopes.outside := by
  cases turn with
  | step input =>
    obtain ⟨-, hscopes, -, hmute⟩ | ⟨hpolled, hscopes, -, hmute⟩ := skill.step_cases config input
    · rw [hscopes]
      exact Guarded.mute (hguarded.prepared haccounted) hmute
    · rw [hscopes]
      exact (guarded_after haccounted h hguarded (hnot input rfl) hpolled input.script
        (List.prefix_refl _)).mute hmute
  | cancel failure nowMs =>
    exact hguarded.mute ((Invocation.mute_cancelInvocation _ failure).trans
      (Invocation.mute_finishStatus _ nowMs))

end Skill

section Results

variable (config : LuaSkillConfig) (now : Now) (maximumDurationMs : Nat)

theorem enveloped_run (turns : List SkillTurn) :
    Enveloped (Skill.run config now maximumDurationMs turns).invocation.bridge
      (Skill.run config now maximumDurationMs turns).scopes := by
  induction turns using List.reverseRecOn with
  | nil =>
    refine ⟨?_, ?_, ?_, ?_, ?_⟩
    · intro child
      exact List.mem_singleton_self child
    · intro thread hthread
      rw [List.mem_singleton.mp hthread]
      exact Nat.one_pos
    · intro child _
      exact ⟨rfl, rfl⟩
    · intro child ids hmem
      cases hmem
    · intro thread _
      rfl
  | append_singleton before last ih =>
    rw [Skill.run_append]
    exact Skill.enveloped_turn ih last

theorem guarded_run (turns : List SkillTurn)
    (h : NeverEscapes config now maximumDurationMs turns) :
    Guarded (Skill.run config now maximumDurationMs turns).invocation.log
      (Skill.run config now maximumDurationMs turns).scopes.outside := by
  induction turns using List.reverseRecOn with
  | nil =>
    refine ⟨?_, ?_, ?_⟩
    · intro id operation hmem
      cases hmem
    · intro id hid
      cases hid
    · intro id hid
      cases hid
  | append_singleton before last ih =>
    have hguarded := ih fun earlier input hearlier =>
      h earlier input (hearlier.trans (List.prefix_append _ _))
    rw [Skill.run_append]
    refine Skill.guarded_turn (Skill.accounted_run config now maximumDurationMs before)
      (enveloped_run config now maximumDurationMs before) hguarded last ?_
    rintro input rfl
    exact h before input (List.prefix_refl _)

/-- The careful envelope holds exactly when every operation that is asked for outside is excluded
by a careful scope of the asking child itself, the innermost, with no careful scope left inside
it. -/
theorem envelope_holds_iff (turns : List SkillTurn) :
    EnvelopeHolds config now maximumDurationMs turns ↔
      NeverEscapes config now maximumDurationMs turns := by
  have haccounted := Skill.accounted_run config now maximumDurationMs
  have henveloped := enveloped_run config now maximumDurationMs
  constructor
  · rintro h before input hturn ⟨done, child, operation, hasks, hpermits⟩
    have hrefused := h.refused before input hturn done child operation hasks
    obtain ⟨hazard, hinnermost, hexcludes⟩ :=
      (Skill.refused_iff (haccounted before) (henveloped before) hasks.running).mp hrefused
    rw [hpermits hazard hinnermost] at hexcludes
    cases hexcludes
  · intro h
    refine ⟨?_, ?_⟩
    · intro before input hturn done child operation hasks
      apply (Skill.refused_iff (haccounted before) (henveloped before) hasks.running).mpr
      by_contra hnone
      push Not at hnone
      refine h before input hturn ⟨done, child, operation, hasks, ?_⟩
      intro hazard hinnermost
      simpa using hnone hazard hinnermost
    · intro before hbefore
      have hguarded := guarded_run config now maximumDurationMs before fun earlier input hearlier =>
        h earlier input (hearlier.trans hbefore)
      exact hguarded.undriven

end Results

section Fixture

private def bumped : Now := ⟨0, true, false, false, false, false, false, false, false⟩

private def ordinaryLimits : LuaSkillConfig := ⟨30000, 20⟩

/-- Inside a careful scope for a bumper, a child of `together` drives. -/
private def carefulDrive : SkillInput :=
  ⟨bumped, [], fun _ => .pending, [.carefully 0 .bumperFront, .together 0 1, .request 1 .drive],
    .pending⟩

private def onwards : SkillInput := ⟨bumped, [], fun _ => .pending, [], .pending⟩

theorem child_drives_in_careful_scope :
    let skill := Skill.run ordinaryLimits bumped 0 [.step carefulDrive, .step onwards]
    skill.scopes.outside = [1] ∧ .polled 1 .drive ∈ skill.invocation.log := by
  decide

theorem careful_envelope_escaped :
    ¬ ∀ (config : LuaSkillConfig) (now : Now) (maximumDurationMs : Nat) (turns : List SkillTurn),
      EnvelopeHolds config now maximumDurationMs turns := by
  intro h
  obtain ⟨houtside, hpolled⟩ := child_drives_in_careful_scope
  have hundriven := (h ordinaryLimits bumped 0 [.step carefulDrive, .step onwards]).undriven _
    (List.prefix_refl _) 1
  rw [houtside] at hundriven
  exact hundriven (List.mem_singleton_self 1) .drive hpolled

end Fixture

end Netherwick.Skills

import Panewire.Placement.Candidates

/-!
# The placement decision

Where new work goes. The local machine has it if it can take work, then the first spill target that
can, and then the scores have a word. If **no machine can take work** the answer falls back to the
local machine, or to a spill target that is to be woken, or is `unavailable`.

* `Situation.makePlacement` — the decision as the hub makes it;
* `Situation.Respects` — what a decision must respect: it never names a machine that is full,
  switched off by the operator, or connected and refusing, and it names a usable machine if there is
  one;
* `placement_respects_iff` — exactly when the decision does: the fallbacks look neither at the
  operator's override of a machine that is not connected nor, for a spill target, at its refusal;
* `fallback_names_refusing` — two situations in which it does not.
-/

namespace Panewire.Placement

open Go Data List

variable {machine winner : String}

structure PlacementResult (F : Type) where
  decision : String
  candidates : List (PlacementCandidate F)
  source : MetricsSource
  asof : ℤ
  reason : String

/-- The answer that names no machine. -/
def unavailable : String := "unavailable"

section Lists

variable {F : Type} [Float64 F]

def placementSlotFull (candidates : List (PlacementCandidate F)) (machine : String) : Bool :=
  ((candidates.find? fun c => c.machine = machine).map (·.slotFull)).getD false

def filterSlotFullCandidates (candidates : List (PlacementCandidate F)) :
    List (PlacementCandidate F) :=
  candidates.filter fun c => !c.slotFull

/-- Best score first, in policy order among equals. -/
def sortByScore (candidates : List (PlacementCandidate F)) : List (PlacementCandidate F) :=
  candidates.insertionSort fun a b => Float64.lt a.score b.score = false

end Lists

namespace Situation

variable {F : Type} [Float64 F] (q : Situation F)

/-! ## The stages of the decision -/

/-- The local machine, or the first usable spill target. -/
def policyOrder (loc : PlacementCandidate F) (spills : List (PlacementCandidate F)) : String :=
  if q.placementUsable loc then q.policy.localMachine
  else
    let decision := ((spills.find? q.placementUsable).map (·.machine)).getD q.policy.localMachine
    -- pressure keeps the local machine, a prohibition does not
    if decision = q.policy.localMachine && contains loc.reason "not_accepting" then unavailable
    else decision

/-- A spill target that is not connected may be woken. -/
def wakeOnSpill (loc : PlacementCandidate F) (spills : List (PlacementCandidate F))
    (decision : String) : String :=
  if decision = q.policy.localMachine && !q.placementUsable loc && q.policy.wakeOnSpill &&
      !spills.isEmpty then
    ((spills.find? fun c => !c.slotFull).map (·.machine)).getD decision
  else decision

/-- The local machine is not chosen without a load sample if there are metrics. -/
def requireSample (loc : PlacementCandidate F) (decision : String) : String :=
  if decision = q.policy.localMachine && q.source = .prometheus && !loc.metricsKnown then
    unavailable
  else decision

/-- The score rules on top of the winner of the policy's order; a winner that is not usable is left
alone. -/
def decideAmongUsable (candidates : List (PlacementCandidate F)) (decision : String) :
    String × String :=
  let usable := candidates.filter q.placementUsable
  match (usable.zipIdx.filter fun c => c.1.machine = decision).getLast? with
  | none => (decision, "")
  | some winner =>
    let picked := q.policy.score.scoreK.decide usable winner
    (picked.1.machine, picked.2.text)

/-- The machine before the scores are looked at. -/
def beforeScores : String :=
  let loc := q.candidate q.policy.localMachine
  let spills := q.policy.spillTargets.map q.candidate
  q.requireSample loc (q.wakeOnSpill loc spills (q.policyOrder loc spills))

def makePlacement : PlacementResult F :=
  let candidates := q.placementCandidates
  let slotBlocked := placementSlotFull candidates q.beforeScores
  let before := if slotBlocked then unavailable else q.beforeScores
  let scored := if before ≠ unavailable then q.decideAmongUsable candidates before else (before, "")
  let reason :=
    if scored.1 = unavailable then if slotBlocked then "task_slots_full" else "unavailable"
    else scored.2
  let kept := filterSlotFullCandidates (sortByScore candidates)
  if kept.isEmpty then ⟨unavailable, kept, q.source, q.now, "task_slots_exhausted"⟩
  else ⟨scored.1, kept, q.source, q.now, reason⟩

def placementTagsMatch (tags required : List String) : Bool :=
  required.all fun tag => tags.contains tag

/-- The answer to a query for capabilities: the best score among the usable machines that have
them. -/
def makeTaggedPlacement (tags : List String) : PlacementResult F :=
  let eligible := sortByScore (q.placementCandidates.filter fun c =>
    placementTagsMatch ((Assoc.get q.policy.tags c.machine).getD []) tags && q.placementUsable c)
  match eligible with
  | [] => ⟨unavailable, eligible, q.source, q.now, "no_tagged_capacity"⟩
  | best :: _ => ⟨best.machine, eligible, q.source, q.now, ""⟩

/-! ## What a decision must respect -/

/-- **The decision is safe, and it is useful whenever it can be.** -/
structure Respects (decision : String) : Prop where
  notFull : decision ≠ unavailable → q.full decision = false
  notSwitchedOff : decision ≠ unavailable → q.switchedOff decision = false
  notRefusing : decision ≠ unavailable → q.refuses decision = false
  useful : (∃ m ∈ q.machines, q.usable m = true) →
    decision ≠ unavailable ∧ decision ∈ q.machines ∧ q.usable decision = true

/-- The first machine in policy order that can take work. -/
def firstUsable : Option String := q.machines.find? q.usable

/-- The machine that the scores prefer if `winner` is the first in policy order. -/
def preferred (winner : String) : String := (q.decideAmongUsable q.placementCandidates winner).1

/-- Whom the fallback turns to: the first spill target with a free slot, if one may be woken. -/
def fallbackTarget : String :=
  if q.policy.wakeOnSpill then
    (q.policy.spillTargets.find? fun m => !q.full m).getD q.policy.localMachine
  else q.policy.localMachine

/-- **What is answered if no machine can take work.** -/
def fallback : Option String :=
  if q.declines q.policy.localMachine && q.policy.localMachine ≠ unavailable then none
  else if q.full q.fallbackTarget || q.fallbackTarget = q.policy.localMachine &&
      q.source = .prometheus && !q.sampled q.policy.localMachine then none
  else some q.fallbackTarget

/-- The condition on the situation. The word `unavailable` is also a valid machine name. -/
def Sound : Prop :=
  match q.firstUsable with
  | some winner => winner ≠ unavailable ∧ q.preferred winner ≠ unavailable
  | none => ∀ m, q.fallback = some m → m ≠ unavailable →
      q.switchedOff m = false ∧ q.refuses m = false

/-! ## The stages, in terms of machines -/

theorem placementSlotFull_of_mem (h : machine ∈ q.machines) :
    placementSlotFull q.placementCandidates machine = q.full machine := by
  have hfi : (q.machines.find? fun m => m = machine) = some machine := by
    have hs : (q.machines.find? fun m => m = machine).isSome = true :=
      List.find?_isSome.mpr ⟨machine, h, decide_eq_true rfl⟩
    obtain ⟨m, hm⟩ := Option.isSome_iff_exists.mp hs
    have heq : m = machine := by simpa using List.find?_some hm
    rw [hm, heq]
  unfold placementSlotFull placementCandidates
  rw [List.find?_map]
  change Option.getD (Option.map _ (Option.map _ (q.machines.find? fun m => m = machine))) _ = _
  rw [hfi]
  rfl

theorem filter_placementUsable :
    q.placementCandidates.filter q.placementUsable =
      (q.machines.filter q.usable).map q.candidate := by
  unfold placementCandidates
  rw [filter_map]
  congr 2
  exact funext q.usable_candidate

/-- The scores choose among the usable machines. -/
theorem preferred_usable (hmem : winner ∈ q.machines) (hus : q.usable winner = true) :
    q.preferred winner ∈ q.machines ∧ q.usable (q.preferred winner) = true := by
  unfold preferred decideAmongUsable
  rw [filter_placementUsable]
  dsimp only
  split
  · exact ⟨hmem, hus⟩
  · rename_i c hc
    have hw := fst_mem_of_mem_zipIdx (mem_of_mem_filter (mem_of_getLast? hc))
    obtain ⟨m, hm, heq⟩ :=
      mem_map.mp (q.policy.score.scoreK.decide_mem hw)
    rw [← heq]
    exact mem_filter.mp hm

theorem preferred_of_none (h : q.firstUsable = none) (winner : String) :
    q.preferred winner = winner := by
  have hn : q.machines.filter q.usable = [] :=
    filter_eq_nil_iff.mpr (List.find?_eq_none.mp h)
  unfold preferred decideAmongUsable
  rw [filter_placementUsable, hn]
  rfl

theorem policyOrder_eq :
    q.policyOrder (q.candidate q.policy.localMachine) (q.policy.spillTargets.map q.candidate) =
      match q.firstUsable with
      | some winner => winner
      | none =>
        if q.declines q.policy.localMachine then unavailable else q.policy.localMachine := by
  unfold policyOrder firstUsable machines
  rw [usable_candidate, List.find?_cons]
  cases hl : q.usable q.policy.localMachine with
  | true => rfl
  | false =>
    have hfi : (q.policy.spillTargets.map q.candidate).find? q.placementUsable =
        (q.policy.spillTargets.find? q.usable).map q.candidate := by
      rw [List.find?_map]
      congr 2
      exact funext q.usable_candidate
    have hw : contains (q.candidate q.policy.localMachine).reason "not_accepting" =
        q.declines q.policy.localMachine := Bool.eq_iff_iff.mpr (q.contains_reason _)
    rw [hfi, hw]
    cases hs : q.policy.spillTargets.find? q.usable with
    | none => simp
    | some winner =>
      have hne : winner ≠ q.policy.localMachine := by
        rintro rfl
        rw [List.find?_some hs] at hl
        cases hl
      simp [hne, candidate]

omit [Float64 F] in
theorem fallbackTarget_mem : q.fallbackTarget ∈ q.machines := by
  unfold fallbackTarget
  split
  · cases hfi : q.policy.spillTargets.find? fun m => !q.full m with
    | none => exact mem_cons_self
    | some m => exact mem_cons_of_mem _ (mem_of_find?_eq_some hfi)
  · exact mem_cons_self

/-- A decision that is still the local machine goes to the fallback's target. -/
theorem wakeOnSpill_local (hl : q.usable q.policy.localMachine = false) :
    q.wakeOnSpill (q.candidate q.policy.localMachine) (q.policy.spillTargets.map q.candidate)
      q.policy.localMachine = q.fallbackTarget := by
  have hfi : ((q.policy.spillTargets.map q.candidate).find? fun c => !c.slotFull) =
      (q.policy.spillTargets.find? fun m => !q.full m).map q.candidate := by
    rw [List.find?_map]
    rfl
  unfold wakeOnSpill fallbackTarget
  rw [usable_candidate, hl, hfi]
  cases hw : q.policy.wakeOnSpill with
  | false => simp
  | true =>
    cases hs : q.policy.spillTargets with
    | nil => simp
    | cons m ms =>
      cases hfree : (m :: ms).find? fun m => !q.full m with
      | none => simp
      | some free => simp [candidate]

theorem requireSample_eq (decision : String) :
    q.requireSample (q.candidate q.policy.localMachine) decision =
      if decision = q.policy.localMachine && q.source = .prometheus &&
          !q.sampled q.policy.localMachine then unavailable else decision := by
  unfold requireSample candidate
  cases q.source <;> simp

theorem usable_facts (h : q.usable machine = true) :
    q.full machine = false ∧ q.switchedOff machine = false ∧ q.refuses machine = false ∧
      (q.source = .hubOnly ∨ q.sampled machine = true) := by
  unfold usable at h
  simp only [Bool.and_eq_true, Bool.or_eq_true, Bool.not_eq_true', decide_eq_true_eq] at h
  obtain ⟨⟨⟨⟨⟨hfu, -⟩, ho⟩, href⟩, -⟩, hkn⟩ := h
  exact ⟨hfu, ho, href, hkn.imp_right (·.1)⟩

theorem beforeScores_of_usable (h : q.firstUsable = some winner) : q.beforeScores = winner := by
  have hus : q.usable winner = true := List.find?_some h
  unfold beforeScores
  dsimp only
  rw [policyOrder_eq, h]
  rw [requireSample_eq]
  unfold wakeOnSpill
  rw [usable_candidate]
  by_cases hl : winner = q.policy.localMachine
  · have hkn := (q.usable_facts hus).2.2.2
    rw [hl] at hus hkn ⊢
    rcases hkn with hsrc | hs
    · simp [hus, hsrc]
    · simp [hus, hs]
  · simp [hl]

theorem beforeScores_of_none (h : q.firstUsable = none) :
    q.beforeScores =
      if q.declines q.policy.localMachine && q.policy.localMachine ≠ unavailable then unavailable
      else q.requireSample (q.candidate q.policy.localMachine) q.fallbackTarget := by
  have hl : q.usable q.policy.localMachine = false :=
    Bool.eq_false_iff.mpr (List.find?_eq_none.mp h _ mem_cons_self)
  unfold beforeScores
  dsimp only
  rw [policyOrder_eq, h]
  by_cases hdec : q.policy.localMachine = unavailable
  · rw [hdec, ite_self, ← hdec, wakeOnSpill_local q hl]
    simp
  · cases hde : q.declines q.policy.localMachine with
    | true =>
      unfold wakeOnSpill requireSample
      simp [hdec, Ne.symm hdec]
    | false => simp [wakeOnSpill_local q hl]

theorem makePlacement_decision (h : q.beforeScores = unavailable ∨ q.beforeScores ∈ q.machines) :
    q.makePlacement.decision =
      if q.beforeScores = unavailable ∨ q.full q.beforeScores = true then unavailable
      else q.preferred q.beforeScores := by
  unfold makePlacement
  dsimp only
  by_cases hn : q.beforeScores = unavailable
  · simp only [hn, ite_self, ne_eq, not_true_eq_false, if_false, true_or, if_true]
    split <;> rfl
  have hmem := h.resolve_left hn
  rw [q.placementSlotFull_of_mem hmem]
  cases hfu : q.full q.beforeScores with
  | true =>
    simp only [if_true, ne_eq, not_true_eq_false, if_false, or_true]
    split <;> rfl
  | false =>
    have hk : q.candidate q.beforeScores ∈
        filterSlotFullCandidates (sortByScore q.placementCandidates) := by
      refine mem_filter.mpr ⟨?_, ?_⟩
      · exact (mem_insertionSort _).mpr (mem_map.mpr ⟨_, hmem, rfl⟩)
      · simp [candidate, hfu]
    have hne := ne_nil_of_mem hk
    simp [hn, hne, preferred]

/-! ## The decision, in terms of machines -/

theorem decision_of_usable (h : q.firstUsable = some winner) :
    q.makePlacement.decision =
      if winner = unavailable then unavailable else q.preferred winner := by
  have hmem : winner ∈ q.machines := mem_of_find?_eq_some h
  have hfu := (q.usable_facts (List.find?_some h)).1
  have hb := q.beforeScores_of_usable h
  rw [q.makePlacement_decision (.inr (hb ▸ hmem)), hb, hfu]
  simp

theorem decision_of_none (h : q.firstUsable = none) :
    q.makePlacement.decision = q.fallback.getD unavailable := by
  have hb := q.beforeScores_of_none h
  rw [requireSample_eq] at hb
  unfold fallback
  split at hb
  · rw [if_pos ‹_›, q.makePlacement_decision (.inl hb), if_pos (.inl hb)]
    rfl
  rw [if_neg ‹_›]
  split at hb
  · rename_i hu
    rw [hu, Bool.or_true, if_pos rfl, q.makePlacement_decision (.inl hb),
      if_pos (.inl hb)]
    rfl
  · rename_i hs
    rw [Bool.eq_false_iff.mpr hs, Bool.or_false,
      q.makePlacement_decision (.inr (hb ▸ q.fallbackTarget_mem)), hb,
      q.preferred_of_none h]
    by_cases hn : q.fallbackTarget = unavailable
    · cases q.full q.fallbackTarget <;> simp [hn]
    · cases q.full q.fallbackTarget <;> simp [hn]

theorem full_of_fallback (h : q.fallback = some machine) : q.full machine = false := by
  unfold fallback at h
  split_ifs at h with hl hb
  cases h
  exact Bool.eq_false_iff.mpr fun hfu => hb (by rw [hfu, Bool.true_or])

theorem not_usable_of_none (h : q.firstUsable = none) : ¬ ∃ m ∈ q.machines, q.usable m = true :=
  fun ⟨m, hm, hus⟩ => List.find?_eq_none.mp h m hm hus

theorem Respects.of_unavailable (h : q.firstUsable = none) : q.Respects unavailable where
  notFull hn := absurd rfl hn
  notSwitchedOff hn := absurd rfl hn
  notRefusing hn := absurd rfl hn
  useful hus := absurd hus (q.not_usable_of_none h)

theorem Respects.of_usable {decision : String} (hn : decision ≠ unavailable)
    (hmem : decision ∈ q.machines) (h : q.usable decision = true) : q.Respects decision := by
  obtain ⟨hfu, ho, href, -⟩ := q.usable_facts h
  exact ⟨fun _ => hfu, fun _ => ho, fun _ => href, fun _ => ⟨hn, hmem, h⟩⟩

/-- **The placement decision respects the machines' state in exactly the sound situations.** -/
theorem placement_respects_iff : q.Respects q.makePlacement.decision ↔ q.Sound := by
  unfold Sound
  cases hfst : q.firstUsable with
  | some winner =>
    have hmem : winner ∈ q.machines := mem_of_find?_eq_some hfst
    have hus : q.usable winner = true := List.find?_some hfst
    obtain ⟨hpm, hpus⟩ := q.preferred_usable hmem hus
    rw [q.decision_of_usable hfst]
    constructor
    · intro h
      obtain ⟨hnm, -, -⟩ := h.useful ⟨winner, hmem, hus⟩
      by_cases hw : winner = unavailable
      · exact absurd (if_pos hw) hnm
      · exact ⟨hw, by rwa [if_neg hw] at hnm⟩
    · rintro ⟨hw, hp⟩
      rw [if_neg hw]
      exact Respects.of_usable q hp hpm hpus
  | none =>
    rw [q.decision_of_none hfst]
    constructor
    · intro h m hm hn
      rw [hm] at h
      exact ⟨h.notSwitchedOff hn, h.notRefusing hn⟩
    intro h
    cases hfb : q.fallback with
    | none => exact Respects.of_unavailable q hfst
    | some m =>
      by_cases hn : m = unavailable
      · rw [hn]
        exact Respects.of_unavailable q hfst
      · obtain ⟨ho, href⟩ := h m hfb hn
        exact ⟨fun _ => q.full_of_fallback hfb, fun _ => ho, fun _ => href,
          fun hus => absurd hus (q.not_usable_of_none hfst)⟩

/-- A query for capabilities has no fallback: it names a usable machine that has them, or none. -/
theorem tagged_placement_usable (tags : List String)
    (h : (q.makeTaggedPlacement tags).decision ≠ unavailable) :
    (q.makeTaggedPlacement tags).decision ∈ q.machines ∧
      q.usable (q.makeTaggedPlacement tags).decision = true ∧
      placementTagsMatch
        ((Assoc.get q.policy.tags (q.makeTaggedPlacement tags).decision).getD []) tags = true := by
  unfold makeTaggedPlacement at h ⊢
  dsimp only at h ⊢
  split
  · rename_i hn
    rw [hn] at h
    exact absurd rfl h
  · rename_i best rest hb
    have hmem : best ∈ best :: rest := mem_cons_self
    rw [← hb] at hmem
    obtain ⟨hc, hmt⟩ := mem_filter.mp ((mem_insertionSort _).mp hmem)
    obtain ⟨m, hm, rfl⟩ := mem_map.mp hc
    rw [usable_candidate, Bool.and_eq_true] at hmt
    exact ⟨hm, hmt.2, hmt.1⟩

end Situation

/-! ## Two fallbacks -/

/-- The local machine is away, its only spill target is connected and does not accept work. -/
def refusingSpill : Situation Rat where
  policy := ⟨[], "mac-work", ["desktop"], 5, true, none, 0, {}, [], [], []⟩
  nodes := [("desktop", { agent := some 0, state := .connected, accepting := false })]
  source := .hubOnly
  now := 0
  times := ⟨fun _ => "", fun _ => none⟩

/-- The operator switched the local machine off, and it is away. -/
def localSwitchedOff : Situation Rat where
  policy := ⟨[], "mac-work", [], 5, false, none, 0, {}, [], [], []⟩
  overrides := [("mac-work", .off)]
  source := .hubOnly
  now := 0
  times := ⟨fun _ => "", fun _ => none⟩

/-- **The fallbacks name a refusing spill target and a machine that was switched off.** -/
theorem fallback_names_refusing :
    (refusingSpill.makePlacement.decision = "desktop" ∧ refusingSpill.refuses "desktop" = true ∧
      ¬ refusingSpill.Respects refusingSpill.makePlacement.decision) ∧
    (localSwitchedOff.makePlacement.decision = "mac-work" ∧
      localSwitchedOff.switchedOff "mac-work" = true ∧
      ¬ localSwitchedOff.Respects localSwitchedOff.makePlacement.decision) := by
  have hs : refusingSpill.makePlacement.decision = "desktop" := by decide +kernel
  have href : refusingSpill.refuses "desktop" = true := by decide +kernel
  have hl : localSwitchedOff.makePlacement.decision = "mac-work" := by decide +kernel
  have ho : localSwitchedOff.switchedOff "mac-work" = true := by decide +kernel
  refine ⟨⟨hs, href, fun h => ?_⟩, hl, ho, fun h => ?_⟩
  · rw [hs] at h
    rw [h.notRefusing (by decide)] at href
    cases href
  · rw [hl] at h
    rw [h.notSwitchedOff (by decide)] at ho
    cases ho

end Panewire.Placement

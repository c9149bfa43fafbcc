import Mathlib.Data.List.TakeWhile
import Panewire.Data.Results
import Panewire.Lanes.Write

/-!
# Nodes keep to their own rows

Whatever a node asks for, and whatever the hub drops on its behalf, the rows of other machines stay
as they are and nothing goes that somebody else still reports through. The **control block** beside
the rows should stay as well. It is written again with the rows, and a block without epoch, owner
and history is left out.

* `Rewrites` — what an operation may make of the rows, for every operation that writes the file;
* `lane_writes_stay_in_scope_iff` — the rows are safe always, and the control block exactly when it
  survives being written or nothing is;
* `put_erases_control` — a node's put ends a handover that an operator had begun by hand.
-/

namespace Panewire.Lanes

open Data Hub HubJobs LaneHub List Option Assoc

variable {lanes : List String} {node : String} {body : HubLaneWriteRequest} {lane : String}
  {routes : List (String × LaneRow)} {row : LaneRow} {h : LaneHub}

/-! ## Operations -/

inductive LaneOp where
  | put (lane : String) (body : HubLaneWriteRequest) (node : String)
  | delete (lane node : String) (expect : LaneRouteExpectation)
  | paneClose (machine pane : String) (commandStart : ℤ)
  | sweep

namespace LaneOp

variable (h : LaneHub)

def apply (store : LaneStore) : LaneOp → Except LaneError (LaneHub × LaneStore)
  | .put lane body node => h.putLane store lane body node
  | .delete lane node expect => h.deleteLane store lane node expect
  | .paneClose machine pane commandStart => h.releasePaneLanes store machine pane commandStart
  | .sweep => h.releaseDeadLanes store

/-- The machine that the operation is for; a sweep is for all of them. -/
def scope : LaneOp → Option String
  | .put _ _ node => some node
  | .delete _ node _ => some node
  | .paneClose machine _ _ => some machine
  | .sweep => none

/-- A request was authenticated as a node's. -/
def ByNode : LaneOp → Prop
  | .put _ _ node => node ≠ ""
  | .delete _ node _ => node ≠ ""
  | .paneClose _ _ _ => True
  | .sweep => True

/-- The rows that the operation drops. -/
def removes (routes : List (String × LaneRow)) : LaneOp → List String
  | .put lane _ node =>
    match h.evictions routes lane node with
    | .ok (_, evicted) => evicted
    | .error _ => []
  | .delete lane _ _ => [lane]
  | .paneClose machine pane commandStart => (h.pickPaneLanes machine pane commandStart routes).2
  | .sweep => (h.pickDeadLanes routes).2

/-- The row that it writes. -/
def writes (routes : List (String × LaneRow)) : LaneOp → Option (String × LaneRow)
  | .put lane body _ => some (lane, rowOf body ((Assoc.get routes lane).getD {}))
  | _ => none

/-- The rows that it means to leave. -/
def rowsAfter (routes : List (String × LaneRow)) (op : LaneOp) : List (String × LaneRow) :=
  match op.writes routes with
  | some (lane, row) => Assoc.put (removeLanes routes (op.removes h routes)) lane row
  | none => removeLanes routes (op.removes h routes)

/-- It is a release that finds nothing to drop. -/
def Idle (routes : List (String × LaneRow)) (op : LaneOp) : Prop :=
  op.writes routes = none ∧ op.removes h routes = []

end LaneOp

variable {op : LaneOp}

/-! ## Rows that may go -/

/-- Another machine's job is live and reports to the lane. -/
def LaneHub.ForeignJob (h : LaneHub) (lane machine : String) : Prop :=
  (∃ n ∈ h.server.nodes, n.1 ≠ machine ∧ ∃ job ∈ n.2.activeJobs, job.2.ownerLane = lane) ∨
    ∃ j ∈ h.server.jobs, j.2.completed = false ∧ j.2.node ≠ machine ∧ j.2.active.ownerLane = lane

/-- The row may be dropped for the machine. -/
structure Droppable (h : LaneHub) (routes : List (String × LaneRow)) (lane : String) (row : LaneRow)
    (machine : String) : Prop where
  owned : row.machine = machine
  unprotected : row.isProtected = false
  authority : lane ∉ h.policy.reload.lanes
  parent : ∀ other child, Assoc.get routes other = some child → child.parent = lane →
    child.machine = machine
  job : ¬ h.ForeignJob lane machine

section Drops

variable {h : LaneHub} {routes : List (String × LaneRow)} {lane machine : String} {row : LaneRow}

theorem laneHasForeignJob_iff : h.laneHasForeignJob lane machine = true ↔
    h.ForeignJob lane machine := by
  simp [laneHasForeignJob, LaneHub.ForeignJob, and_assoc]

theorem not_mem_authority (hdec : h.controlPlaneAuthorityDecision lane = none) :
    lane ∉ h.policy.reload.lanes := by
  intro hmem
  unfold controlPlaneAuthorityDecision at hdec
  simp only [hmem, if_true] at hdec
  split at hdec <;> cases hdec

theorem parent_of_no_foreign (hno : h.laneHasForeignReference routes lane machine = false) :
    (∀ other child, Assoc.get routes other = some child → child.parent = lane →
      child.machine = machine) ∧ ¬ h.ForeignJob lane machine := by
  obtain ⟨hc, hjob⟩ := Bool.or_eq_false_iff.mp hno
  refine ⟨fun other child hget hp => ?_, fun hfor => ?_⟩
  · have hmem : (other, child) ∈ Assoc.entries routes :=
      mem_filter.mpr ⟨mem_of_get hget, by simpa using hget⟩
    simpa [hp] using any_eq_false.mp hc _ hmem
  · rw [laneHasForeignJob_iff.mpr hfor] at hjob
    cases hjob

/-- What `nodeMayDropLane` promises. -/
theorem droppable_of_mayDrop (hmay : h.nodeMayDropLane routes lane row machine = true) :
    Droppable h routes lane row machine := by
  unfold nodeMayDropLane at hmay
  split at hmay
  · cases hmay
  next ho =>
  split at hmay
  · cases hmay
  · next hfor =>
    obtain ⟨hp, hjob⟩ := parent_of_no_foreign (by simpa using hfor)
    simp only [not_or, not_not, Bool.not_eq_true] at ho
    exact ⟨ho.2.1, ho.2.2.1, not_mem_authority (isNone_iff_eq_none.mp hmay), hp, hjob⟩

end Drops

/-! ## What an operation makes of the rows -/

/-- From `routes` to `routes'` on behalf of a machine, or of every row's own machine. -/
structure Rewrites (h : LaneHub) (scope : Option String)
    (routes routes' : List (String × LaneRow)) : Prop where
  normal : Normal routes'
  kept : ∀ machine ∈ scope, ∀ lane row, Assoc.get routes lane = some row → row.machine ≠ machine →
    Assoc.get routes' lane = some row
  dropped : ∀ lane row, Assoc.get routes lane = some row → Assoc.get routes' lane = none →
    Droppable h routes lane row (scope.getD row.machine)

theorem get_removeLanes (routes : List (String × LaneRow)) (lanes : List String) (lane : String) :
    Assoc.get (removeLanes routes lanes) lane =
      if lane ∈ lanes then none else Assoc.get routes lane :=
  get_foldl_del routes lanes lane

theorem Normal.removeLanes (hn : Normal routes) (lanes : List String) :
    Normal (removeLanes routes lanes) :=
  List.foldlRecOn lanes Assoc.del (motive := Normal) hn fun _ hn lane _ => hn.del lane

/-- The rows that were chosen may be dropped. -/
def MayGo (h : LaneHub) (scope : Option String) (routes : List (String × LaneRow))
    (lanes : List String) : Prop :=
  ∀ lane ∈ lanes, ∃ row, Assoc.get routes lane = some row ∧
    Droppable h routes lane row (scope.getD row.machine)

variable {scope : Option String}

/-- Removing rows that may go. -/
theorem Rewrites.remove (hn : Normal routes) (hgo : MayGo h scope routes lanes) :
    Rewrites h scope routes (removeLanes routes lanes) where
  normal := hn.removeLanes lanes
  kept machine hm lane row hget hne := by
    rw [get_removeLanes, if_neg, hget]
    intro hmem
    obtain ⟨row', hget', hdr⟩ := hgo lane hmem
    obtain rfl := Option.some.inj (hget.symm.trans hget')
    obtain rfl := mem_def.mp hm
    exact hne hdr.owned
  dropped lane row hget hno := by
    have hmem : lane ∈ lanes := by
      by_contra hmem
      rw [get_removeLanes, if_neg hmem, hget] at hno
      cases hno
    obtain ⟨row', hget', hdr⟩ := hgo lane hmem
    obtain rfl := Option.some.inj (hget.symm.trans hget')
    exact hdr

/-- Writing a row of the machine after that. -/
theorem Rewrites.put {routes' : List (String × LaneRow)} (hr : Rewrites h scope routes routes')
    (hrow : parseRow lane row = some row)
    (ho : ∀ old, Assoc.get routes lane = some old → scope = some old.machine) :
    Rewrites h scope routes (Assoc.put routes' lane row) where
  normal := hr.normal.put hrow
  kept m hm other old hget hne := by
    have hl : lane ≠ other := by
      rintro rfl
      exact hne (Option.some.inj ((ho old hget).symm.trans hm))
    rw [get_put, if_neg hl]
    exact hr.kept m hm other old hget hne
  dropped other old hget hn := by
    rw [get_put] at hn
    split at hn
    · cases hn
    · exact hr.dropped other old hget hn

/-! ## What is chosen -/

variable {h : LaneHub} {routes : List (String × LaneRow)}

theorem mayGo_nil (scope : Option String) : MayGo h scope routes [] :=
  fun _ hl => absurd hl not_mem_nil

theorem MayGo.sublist {lanes' : List String}
    (hgo : MayGo h scope routes lanes) (hs : ∀ lane ∈ lanes', lane ∈ lanes) :
    MayGo h scope routes lanes' :=
  fun lane hl => hgo lane (hs lane hl)

/-- Rows that may go are not those of authority lanes. -/
theorem MayGo.authority (hgo : MayGo h scope routes lanes) :
    ∀ lane ∈ lanes, lane ∉ h.policy.reload.lanes := by
  intro lane hmem
  obtain ⟨row, -, hdr⟩ := hgo lane hmem
  exact hdr.authority

theorem MayGo.append {entry : String × LaneRow}
    (hgo : MayGo h scope routes lanes) (he : entry ∈ Assoc.entries routes)
    (hmay : h.nodeMayDropLane routes entry.1 entry.2 (scope.getD entry.2.machine) = true) :
    MayGo h scope routes (lanes ++ [entry.1]) := by
  intro lane hl
  rcases mem_append.mp hl with hl | hl
  · exact hgo lane hl
  · obtain rfl := mem_singleton.mp hl
    exact ⟨entry.2, get_of_mem_entries he, droppable_of_mayDrop hmay⟩

theorem mayGo_evictable (machine : String) :
    MayGo h (some machine) routes (h.evictableLanes routes machine).2 := by
  unfold evictableLanes
  split
  · exact mayGo_nil _
  next obs _ =>
  have hfo : MayGo h (some machine) routes
      ((Assoc.entries routes).foldl (h.evictStep routes machine obs) (h.laneLife, [])).2 := by
    refine List.foldlRecOn (Assoc.entries routes) (h.evictStep routes machine obs)
      (motive := fun acc => MayGo h (some machine) routes acc.2) ?_ ?_
    · exact mayGo_nil _
    intro acc ha entry he
    unfold evictStep
    dsimp only
    split
    · next hmay => exact ha.append he (by simpa using hmay.2)
    · exact ha
  exact hfo.sublist fun lane hl => (mem_insertionSort _).mp hl

theorem mayGo_evictions {machine : String} {life : LaneLiveness} {evicted : List String}
    (hev : h.evictions routes lane machine = .ok (life, evicted)) :
    MayGo h (some machine) routes evicted := by
  unfold evictions at hev
  dsimp only at hev
  split at hev
  · cases hev
    exact mayGo_nil _
  · split at hev
    · cases hev
    · cases hev
      exact (mayGo_evictable machine).sublist fun lane hl => mem_of_mem_take hl

theorem mayGo_pane (machine pane : String) (commandStart : ℤ) :
    MayGo h (some machine) routes (h.pickPaneLanes machine pane commandStart routes).2 := by
  intro lane hl
  obtain ⟨entry, he, rfl⟩ := mem_map.mp ((mem_insertionSort _).mp hl)
  obtain ⟨hmem, hp⟩ := mem_filter.mp he
  exact ⟨entry.2, get_of_mem_entries hmem, droppable_of_mayDrop (Bool.and_eq_true_iff.mp hp).2⟩

theorem mayGo_dead : MayGo h none routes (h.pickDeadLanes routes).2 := by
  have hfo : MayGo h none routes ((Assoc.entries routes).foldl (h.sweepStep routes)
      { life := h.laneLife.retainWrites routes }).release := by
    refine List.foldlRecOn (Assoc.entries routes) (h.sweepStep routes)
      (motive := fun acc => MayGo h none routes acc.release) ?_ ?_
    · exact mayGo_nil _
    intro acc ha entry he
    unfold sweepStep
    dsimp only
    split
    · exact ha
    split
    · exact ha
    · split
      · exact ha
      · split
        · next hdr => exact ha.append he (Bool.and_eq_true_iff.mp hdr).2
        · exact ha
  exact hfo.sublist fun lane hl => (mem_insertionSort _).mp hl

/-! ## The row that a put writes -/

theorem trimSpace_ne_empty {pane : String} (h : lanePanePattern pane = true) :
    Go.trimSpace pane ≠ "" := by
  intro ht
  have hc : Go.trimChars Go.isSpace pane.toList = [] := by
    simpa [Go.trimSpace] using ht
  unfold lanePanePattern at h
  split at h
  · next cs hcs =>
    rw [hcs] at hc
    have hw : ('w' :: cs).dropWhile Go.isSpace = 'w' :: cs :=
      dropWhile_cons_of_neg (by decide)
    have ha : ∀ c ∈ ('w' :: cs).reverse, Go.isSpace c = true := by
      rw [Go.trimChars, reverse_eq_nil_iff] at hc
      exact dropWhile_eq_nil_iff.mp hc
    exact absurd (ha 'w' (by simp)) (by decide)
  · cases h

/-- A row of a machine is a route to a pane. -/
theorem not_sink_of_machine (hrow : parseRow lane row = some row) (hne : row.machine ≠ "") :
    row.sink = false := by
  obtain ⟨route, hrt, hs⟩ := map_eq_some_iff.mp hrow
  have hp : route = row.toReportRelayRoute := congrArg LaneRow.toReportRelayRoute hs
  rcases (parseRoute_sound hrt).2 with ⟨-, hmc⟩ | ⟨hsi, -⟩
  · exact absurd (hp ▸ hmc) hne
  · exact hp ▸ hsi

/-- What the other fields of such a row must be. -/
structure Carries (row : LaneRow) : Prop where
  standby : row.standby.map validReportRelayStandby ≠ some false
  deliver : ¬ (row.deliver ≠ "" ∧ !validRelayDeliver row.deliver)

/-- A sink keeps any delivery policy, and no standby. -/
theorem carries_or_sink (hrow : parseRow lane row = some row) :
    Carries row ∨ row.sink = true ∧ row.standby = none := by
  obtain ⟨route, hrt, hs⟩ := map_eq_some_iff.mp hrow
  obtain rfl : route = row.toReportRelayRoute := congrArg LaneRow.toReportRelayRoute hs
  unfold parseRoute at hrt
  simp only [ite_none_left_eq_some] at hrt
  obtain ⟨-, -, hrt⟩ := hrt
  split at hrt
  · rw [← Option.some.inj hrt]
    exact .inr ⟨rfl, rfl⟩
  · obtain ⟨hok, -⟩ := ite_none_left_eq_some.mp hrt
    simp only [not_or] at hok
    exact .inl ⟨hok.2.2.1, hok.2.2.2⟩

theorem carries_of_not_sink (hrow : parseRow lane row = some row) (hs : row.sink = false) :
    Carries row :=
  (carries_or_sink hrow).resolve_right fun h => by simp [hs] at h

/-- What the checks of a put say of its body. -/
structure Writable (lane : String) (body : HubLaneWriteRequest) : Prop where
  lane : validReportRelayLaneName lane = true
  parent : body.parent ≠ "" → validReportRelayLaneName body.parent = true
  route : body.sink = false → machineIDPattern.accepts body.machine = true ∧
    validLanePane body.pane = true ∧ ∀ s ∈ body.standby.join, validReportRelayStandby s = true

theorem validateLaneWriteRequest_none (hv : h.validateLaneWriteRequest lane body routes = none) :
    Writable lane body := by
  simp only [validateLaneWriteRequest, if_some_eq_none, Bool.not_eq_true, Bool.not_eq_false'] at hv
  obtain ⟨hl, hpar, hre⟩ := hv
  refine ⟨by simp [validReportRelayLaneName, hl], fun hp => ?_, fun hsi => ?_⟩
  · by_contra hb
    exact hpar ⟨hp, .inl (by simpa using hb)⟩
  simp only [hsi, Bool.false_eq_true, if_false, if_some_eq_none, not_or, Bool.not_eq_true,
    Bool.not_eq_false'] at hre
  refine ⟨hre.2.1.2.1, hre.2.1.2.2.2, fun s hs => ?_⟩
  have ha := hre.1
  rw [mem_def.mp hs] at ha
  simp only [any_some, Bool.or_eq_false_iff, Bool.not_eq_false'] at ha
  exact ha.1.1.1

/-- **The row of a put is read again as it is**, unless it leads a lane to a pane that was a sink
with a delivery policy that only a sink may have. -/
theorem parseRow_rowOf {existing : LaneRow} (hw : Writable lane body)
    (hst : existing.standby.map validReportRelayStandby ≠ some false) :
    parseRow lane (rowOf body existing) = some (rowOf body existing) ↔
      ¬ (body.sink = false ∧ existing.deliver ≠ "" ∧ !validRelayDeliver existing.deliver) := by
  cases hs : body.sink with
  | true => simpa [parseRow, parseRoute, rowOf, hs, hw.lane] using hw.parent
  | false =>
    obtain ⟨hmc, hp, hsta⟩ := hw.route hs
    simp only [validLanePane, Bool.and_eq_true, decide_eq_true_eq] at hp
    have hst' : (body.standby.getD existing.standby).map validReportRelayStandby ≠ some false := by
      rcases hb : body.standby with _ | _ | s
      · exact hst
      · simp
      · simp [hsta s (by simp [hb])]
    simpa [parseRow, parseRoute, rowOf, hs, hw.lane, trimSpace_ne_empty hp.2, hmc,
      hp.1.2, hst'] using fun _ => hw.parent

/-! ## Every operation -/

theorem file_of_replace {store store' : LaneStore} {operator : Bool} {snapshot : LanesFileSnapshot}
    (hok : store.replace operator snapshot = .ok store') :
    store'.file = some (encodeLanesFile snapshot) := by
  simp only [LaneStore.replace, if_error_eq_ok] at hok
  obtain rfl := Except.ok.inj hok.2.2.2
  rfl

/-- The lane was a sink with a delivery policy that the hub does not know, and is put as a pane. -/
def LaneOp.Revives (routes : List (String × LaneRow)) : LaneOp → Prop
  | .put lane body _ => body.sink = false ∧
      ∃ old ∈ Assoc.get routes lane, old.deliver ≠ "" ∧ !validRelayDeliver old.deliver
  | _ => False

/-- What an operation that succeeds has been asked. -/
structure LaneOp.Passed (h : LaneHub) (routes : List (String × LaneRow)) (op : LaneOp) : Prop where
  removed : ∀ lane ∈ op.removes h routes, lane ∉ h.policy.reload.lanes
  written : ∀ w ∈ op.writes routes, w.1 ∉ h.policy.reload.lanes
  mayGo : op.ByNode → MayGo h op.scope routes (op.removes h routes)
  owned : op.ByNode → ∀ w ∈ op.writes routes, ∀ old, Assoc.get routes w.1 = some old →
    op.scope = some old.machine
  readable : ∀ w ∈ op.writes routes, (parseRow w.1 w.2 = some w.2 ↔ ¬ op.Revives routes)

/-- An operation that writes no row. -/
theorem LaneOp.Passed.of_release (hn : op.writes routes = none)
    (hrem : ∀ lane ∈ op.removes h routes, lane ∉ h.policy.reload.lanes)
    (hgo : op.ByNode → MayGo h op.scope routes (op.removes h routes)) : op.Passed h routes :=
  ⟨hrem, by simp [hn], hgo, by simp [hn], by simp [hn]⟩

section Operations

variable {store store' : LaneStore} {h' : LaneHub}

theorem nodeLaneFieldScope_none (hsc : nodeLaneFieldScope node lane body routes = none) :
    body.sink = false ∧ (body.parent ≠ "" → validReportRelayLaneName body.parent = true ∧
      body.parent ≠ lane ∧ (Assoc.get routes body.parent).isSome) := by
  simp only [nodeLaneFieldScope, if_some_eq_none, ite_eq_right_iff, not_or, Bool.not_eq_true,
    Bool.not_eq_false', reduceCtorEq] at hsc
  refine ⟨hsc.1.1, fun hp => ?_⟩
  obtain ⟨⟨hn, hne⟩, hrow⟩ := hsc.2.2 hp
  refine ⟨hn, hne, ?_⟩
  cases hget : Assoc.get routes body.parent with
  | none => simp [hget] at hrow
  | some row => rfl

theorem checkNodePut_none (hcheck : h.checkNodePut lane body node routes = none) :
    nodeLaneFieldScope node lane body routes = none ∧
      h.validateLaneWriteRequest lane { body with parent := "" } routes = none ∧
      (∀ old, Assoc.get routes lane = some old → old.machine = node) ∧
      h.controlPlaneAuthorityDecision lane = none := by
  unfold checkNodePut at hcheck
  split at hcheck
  · cases hcheck
  next hsc =>
  split at hcheck
  · cases hcheck
  next hv =>
  obtain ⟨ho, hfor⟩ := if_some_eq_none.mp hcheck
  refine ⟨hsc, hv, fun old hold => by simpa [hold] using ho, ?_⟩
  have hdec := (if_some_eq_none.mp hfor).2
  split at hdec
  · split at hdec <;> cases hdec
  · exact hdec

theorem putLane_ok (hok : h.putLane store lane body node = .ok (h', store')) :
    ∃ snapshot life evicted, parseForWrite store.file = some snapshot ∧ Writable lane body ∧
      h.controlPlaneAuthorityDecision lane = none ∧
      (node ≠ "" → nodeLaneFieldScope node lane body snapshot.routes = none ∧
        ∀ old, Assoc.get snapshot.routes lane = some old → old.machine = node) ∧
      h.evictions snapshot.routes lane node = .ok (life, evicted) ∧
      store'.file = some (encodeLanesFile
        ⟨(LaneOp.put lane body node).rowsAfter h snapshot.routes, snapshot.control⟩) := by
  unfold putLane at hok
  split at hok
  · cases hok
  next hfst =>
  split at hok
  · cases hok
  next snapshot hre =>
  split at hok
  · cases hok
  next hcheck =>
  split at hok
  · cases hok
  next life evicted hev =>
  dsimp only at hok
  split at hok
  · cases hok
  next written hwri =>
  obtain ⟨-, rfl⟩ := Prod.mk.inj (Except.ok.inj hok)
  have hfi := file_of_replace hwri
  refine ⟨snapshot, life, evicted, hre, ?_⟩
  have hro : (LaneOp.put lane body node).rowsAfter h snapshot.routes =
      Assoc.put (removeLanes snapshot.routes evicted) lane
        (rowOf body ((Assoc.get snapshot.routes lane).getD {})) := by
    simp only [LaneOp.rowsAfter, LaneOp.writes, LaneOp.removes, hev]
  rw [hro]
  -- The operator is asked for the authority before the file is read, a node after its own checks.
  by_cases hn : node = ""
  · rw [if_pos hn] at hfst hcheck
    exact ⟨validateLaneWriteRequest_none hcheck, hfst, fun hne => absurd hn hne, hev, hfi⟩
  · rw [if_neg hn] at hcheck
    obtain ⟨hsc, hv, ho, hdec⟩ := checkNodePut_none hcheck
    have hw := validateLaneWriteRequest_none hv
    exact ⟨⟨hw.lane, fun hp => ((nodeLaneFieldScope_none hsc).2 hp).1, hw.route⟩, hdec,
      fun _ => ⟨hsc, ho⟩, hev, hfi⟩

/-- A put that succeeded was asked all that it should be. -/
theorem passed_put {life : LaneLiveness} {evicted : List String} (hn : Normal routes)
    (hw : Writable lane body) (hdec : h.controlPlaneAuthorityDecision lane = none)
    (ho : node ≠ "" → ∀ old, Assoc.get routes lane = some old → old.machine = node)
    (hev : h.evictions routes lane node = .ok (life, evicted)) :
    (LaneOp.put lane body node).Passed h routes := by
  have hrem : (LaneOp.put lane body node).removes h routes = evicted := by
    simp only [LaneOp.removes, hev]
  refine ⟨?_, ?_, fun _ => ?_, ?_, ?_⟩
  · rw [hrem]
    exact (mayGo_evictions hev).authority
  · rintro w ⟨⟩
    exact not_mem_authority hdec
  · rw [hrem]
    exact mayGo_evictions hev
  · rintro hno w ⟨⟩ old hold
    exact congrArg some (ho hno old hold).symm
  · rintro w ⟨⟩
    cases hold : Assoc.get routes lane with
    | none =>
      have hnil : parseRow lane (rowOf body {}) = some (rowOf body {}) ↔ _ :=
        parseRow_rowOf hw (by simp)
      simpa [LaneOp.Revives, hold] using hnil
    | some old =>
      have hst : old.standby.map validReportRelayStandby ≠ some false := by
        rcases carries_or_sink (hn _ (mem_of_get hold)) with hc | ⟨-, hnon⟩
        · exact hc.standby
        · exact fun hb => by simp [show old.standby = none from hnon] at hb
      simpa [LaneOp.Revives, hold] using parseRow_rowOf hw hst

theorem droppable_of_checkDelete {expect : LaneRouteExpectation} (hn : node ≠ "")
    (hcheck : h.checkDelete routes lane node expect = none) :
    ∃ row, Assoc.get routes lane = some row ∧ Droppable h routes lane row node := by
  unfold checkDelete at hcheck
  split at hcheck
  · cases hcheck
  next row hget =>
  obtain ⟨ho, hre⟩ := if_some_eq_none.mp hcheck
  rw [if_neg hn] at hre
  split at hre
  · cases hre
  next hdec =>
  have hp := (if_some_eq_none.mp hre).1
  simp only [hn, ne_eq, not_false_iff, true_and, not_or, not_not, Bool.not_eq_true] at ho
  obtain ⟨hpar, hjob⟩ := parent_of_no_foreign ho.2
  exact ⟨row, hget, ho.1, by simpa using hp, not_mem_authority hdec, hpar, hjob⟩

theorem deleteLane_ok {expect : LaneRouteExpectation}
    (hok : h.deleteLane store lane node expect = .ok (h', store')) :
    ∃ snapshot, parseForWrite store.file = some snapshot ∧
      (LaneOp.delete lane node expect).Passed h snapshot.routes ∧
      store'.file = some (encodeLanesFile
        ⟨(LaneOp.delete lane node expect).rowsAfter h snapshot.routes, snapshot.control⟩) := by
  unfold deleteLane at hok
  split at hok
  · cases hok
  next hfst =>
  split at hok
  · cases hok
  next snapshot hre =>
  split at hok
  · cases hok
  next hcheck =>
  split at hok
  · cases hok
  next written hw =>
  obtain ⟨-, rfl⟩ := Prod.mk.inj (Except.ok.inj hok)
  refine ⟨snapshot, hre, .of_release rfl ?_ ?_, file_of_replace hw⟩
  · intro other ho
    obtain rfl := mem_singleton.mp ho
    by_cases hn : node = ""
    · rw [if_pos hn] at hfst
      exact not_mem_authority hfst
    · obtain ⟨row, -, hdr⟩ := droppable_of_checkDelete hn hcheck
      exact hdr.authority
  · intro hn other ho
    obtain rfl := mem_singleton.mp ho
    exact droppable_of_checkDelete hn hcheck

/-- What a release does: nothing, if nothing was chosen. -/
theorem rewriteLanes_ok {pick : List (String × LaneRow) → LaneLiveness × List String}
    (hok : h.rewriteLanes store pick = .ok (h', store')) :
    ∃ snapshot, parseForWrite store.file = some snapshot ∧
      ((pick snapshot.routes).2 = [] ∧ store' = store ∨
        (pick snapshot.routes).2 ≠ [] ∧ store'.file = some (encodeLanesFile
          ⟨removeLanes snapshot.routes (pick snapshot.routes).2, snapshot.control⟩)) := by
  unfold rewriteLanes at hok
  split at hok
  · cases hok
  next snapshot hre =>
  refine ⟨snapshot, hre, ?_⟩
  dsimp only at hok
  split at hok
  · next hn =>
    obtain ⟨-, rfl⟩ := Prod.mk.inj (Except.ok.inj hok)
    exact .inl ⟨hn, rfl⟩
  · next hs =>
    split at hok
    · cases hok
    · next written hw =>
      obtain ⟨-, rfl⟩ := Prod.mk.inj (Except.ok.inj hok)
      exact .inr ⟨hs, file_of_replace hw⟩

/-- **Every operation that succeeds** was asked all that it should be, and has left the file alone
or written the rows that it means to leave. -/
theorem apply_ok (hok : op.apply h store = .ok (h', store')) :
    ∃ snapshot, parseForWrite store.file = some snapshot ∧ op.Passed h snapshot.routes ∧
      (op.Idle h snapshot.routes ∧ store' = store ∨
        ¬ op.Idle h snapshot.routes ∧ store'.file = some (encodeLanesFile
          ⟨op.rowsAfter h snapshot.routes, snapshot.control⟩)) := by
  cases op with
  | put lane body node =>
    obtain ⟨snapshot, life, evicted, hre, hw, hdec, ho, hev, hfi⟩ := putLane_ok hok
    exact ⟨snapshot, hre, passed_put (normal_of_parse hre) hw hdec (fun hn => (ho hn).2) hev,
      .inr ⟨fun hi => absurd hi.1 (some_ne_none _), hfi⟩⟩
  | delete lane node expect =>
    obtain ⟨snapshot, hre, hp, hfi⟩ := deleteLane_ok hok
    exact ⟨snapshot, hre, hp, .inr ⟨fun hi => absurd hi.2 (cons_ne_nil _ _), hfi⟩⟩
  | paneClose machine pane commandStart =>
    obtain ⟨snapshot, hre, hcas⟩ := rewriteLanes_ok hok
    have hgo : MayGo h _ snapshot.routes _ := mayGo_pane machine pane commandStart
    refine ⟨snapshot, hre, .of_release rfl hgo.authority fun _ => hgo, ?_⟩
    exact hcas.imp (fun hc => ⟨⟨rfl, hc.1⟩, hc.2⟩) fun hc => ⟨fun hi => hc.1 hi.2, hc.2⟩
  | sweep =>
    obtain ⟨snapshot, hre, hcas⟩ := rewriteLanes_ok hok
    refine ⟨snapshot, hre, .of_release rfl mayGo_dead.authority fun _ => mayGo_dead, ?_⟩
    exact hcas.imp (fun hc => ⟨⟨rfl, hc.1⟩, hc.2⟩) fun hc => ⟨fun hi => hc.1 hi.2, hc.2⟩

end Operations

/-- What is read of a lane that the operation does not write. -/
theorem rowAt_rowsAfter (hn : Normal routes) (control : LanesFileControl)
    (hne : ∀ w ∈ op.writes routes, w.1 ≠ lane) :
    rowAt (some (encodeLanesFile ⟨op.rowsAfter h routes, control⟩)) lane =
      if lane ∈ op.removes h routes then none else Assoc.get routes lane := by
  rw [← get_removeLanes]
  unfold LaneOp.rowsAfter
  split
  · next hw => exact rowAt_encode_put (hn.removeLanes _) control _ (hne _ hw)
  · exact rowAt_encode (hn.removeLanes _) control lane

/-- A put of a node makes no sink a pane. -/
theorem LaneOp.Passed.not_revives (hp : op.Passed h routes) (hn : Normal routes) (hno : op.ByNode) :
    ¬ op.Revives routes := by
  cases op with
  | put lane body node =>
    rintro ⟨-, old, hold, hb⟩
    have hmc : node = old.machine := Option.some.inj (hp.owned hno _ rfl old hold)
    have hrow := hn _ (mem_of_get hold)
    exact (carries_of_not_sink hrow (not_sink_of_machine hrow (hmc ▸ hno))).deliver hb
  | _ => exact id

/-- The rows that an operation of a node leaves. -/
theorem LaneOp.Passed.rewrites (hp : op.Passed h routes) (hn : Normal routes) (hno : op.ByNode) :
    Rewrites h op.scope routes (op.rowsAfter h routes) := by
  have hrem := Rewrites.remove hn (hp.mayGo hno)
  unfold LaneOp.rowsAfter
  split
  · next lane row hw =>
    exact hrem.put ((hp.readable _ hw).mpr (hp.not_revives hn hno)) (hp.owned hno _ hw)
  · exact hrem

/-! ## The theorem -/

/-- **In scope**: for the machine of the operation, the rows of all others and the control block are
as they were; and every row that is gone could go. -/
structure StaysInScope (h : LaneHub) (op : LaneOp) (store store' : LaneStore) : Prop where
  rows : ∀ machine ∈ op.scope, ∀ lane row, rowAt store.file lane = some row →
    row.machine ≠ machine → rowAt store'.file lane = some row
  control : op.scope.isSome → controlOf store'.file = controlOf store.file
  removed : ∀ lane row, rowAt store.file lane = some row → rowAt store'.file lane = none →
    Droppable h (routesOf store.file) lane row (op.scope.getD row.machine)

/-- The control block survives being written, or the operation is a pane's close that finds no row
to drop. A sweep promises nothing about it. -/
def ControlKept (h : LaneHub) (store : LaneStore) : LaneOp → Prop
  | .put _ _ _ => (controlOf store.file).Persists
  | .delete _ _ _ => (controlOf store.file).Persists
  | .paneClose machine pane commandStart => (controlOf store.file).Persists ∨
      (h.pickPaneLanes machine pane commandStart (routesOf store.file)).2 = []
  | .sweep => True

section Scope

variable {store store' : LaneStore}

/-- Nothing was written. -/
theorem StaysInScope.refl : StaysInScope h op store store where
  rows _ _ _ _ hget _ := hget
  control _ := rfl
  removed _ _ hget hn := by rw [hget] at hn; cases hn

/-- A file that was written stays in scope when its control block does. -/
theorem staysInScope_iff {snapshot : LanesFileSnapshot} {routes' : List (String × LaneRow)}
    (hre : parseForWrite store.file = some snapshot)
    (hrew : Rewrites h op.scope snapshot.routes routes')
    (hw : store'.file = some (encodeLanesFile ⟨routes', snapshot.control⟩)) :
    StaysInScope h op store store' ↔ (op.scope.isSome → (controlOf store.file).Persists) := by
  rw [routes_of_parse hre] at hrew
  rw [control_of_parse hre] at hw
  have hc : controlOf store'.file = controlOf store.file ↔
      (controlOf store.file).Persists := by
    rw [hw]
    exact controlOf_encode routes' _
  have hrow : ∀ lane, rowAt store'.file lane = Assoc.get routes' lane := by
    intro lane
    rw [hw]
    exact rowAt_encode hrew.normal _ lane
  constructor
  · intro hs hsc
    exact hc.mp (hs.control hsc)
  · intro hp
    refine ⟨fun machine hm lane row hget hne => ?_, fun hsc => hc.mpr (hp hsc),
      fun lane row hget hn => ?_⟩
    · rw [hrow]
      exact hrew.kept machine hm lane row hget hne
    · rw [hrow] at hn
      exact hrew.dropped lane row hget hn

theorem controlKept_iff : ControlKept h store op ↔
    (op.scope.isSome → (controlOf store.file).Persists ∨ op.Idle h (routesOf store.file)) := by
  cases op <;> simp [ControlKept, LaneOp.scope, LaneOp.Idle, LaneOp.writes, LaneOp.removes]

/-- **Lane writes stay in scope** exactly when the control block is kept: whatever the file and the
hub are, a node's put or delete, a closed pane and a sweep touch no row of another machine and drop
none that is protected, an authority lane, or somebody else's way to report. -/
theorem lane_writes_stay_in_scope_iff {h h' : LaneHub} {store store' : LaneStore} {op : LaneOp}
    (hnode : op.ByNode) (hok : op.apply h store = .ok (h', store')) :
    StaysInScope h op store store' ↔ ControlKept h store op := by
  obtain ⟨snapshot, hre, hp, hc⟩ := apply_ok hok
  rw [controlKept_iff, ← routes_of_parse hre]
  rcases hc with ⟨hi, rfl⟩ | ⟨hi, hw⟩
  · exact iff_of_true .refl fun _ => .inr hi
  · rw [staysInScope_iff hre (hp.rewrites (normal_of_parse hre) hnode) hw]
    simp only [hi, or_false]

end Scope

/-! ## A handover begun by hand -/

def sampleHub : LaneHub := { tokens := ["machine-a", "machine-b"] }

/-- A file with a row of each machine and a control block. -/
def sampleStore (control : LanesFileControl) : LaneStore where
  file := some {
    lanes := [("lane-a", { machine := "machine-a", pane := "w1:p1" }),
      ("lane-b", { machine := "machine-b", pane := "w2:p1" })]
    control }
  bytes := 0
  encodedBytes _ := 0

def samplePut : LaneOp := .put "lane-c" { machine := "machine-a", pane := "w1:p2" } "machine-a"

/-- The control block that a put of another lane leaves behind. -/
def controlAfterPut (control : LanesFileControl) : Option LanesFileControl :=
  match samplePut.apply sampleHub (sampleStore control) with
  | .ok (_, store) => some (controlOf store.file)
  | .error _ => none

/-- **A put erases the control block**: an operator wrote that the control plane is draining, with
no epoch yet, and after the put of a lane the file says nothing of it. -/
theorem put_erases_control :
    controlAfterPut { state := some .draining, handoverDocKey := "doc" } = some {} := by
  decide +kernel

theorem exists_of_controlAfterPut {control : LanesFileControl}
    (hp : (controlAfterPut control).isSome = true) :
    ∃ h' store', samplePut.apply sampleHub (sampleStore control) = .ok (h', store') := by
  unfold controlAfterPut at hp
  split at hp
  · next h' store' ha => exact ⟨h', store', ha⟩
  · cases hp

/-- With an epoch in the block the same put stays in scope. -/
theorem lane_writes_stay_in_scope_iff_epoch :
    ∃ h' store', samplePut.apply sampleHub (sampleStore { epoch := 1, state := some .draining }) =
        .ok (h', store') ∧
      StaysInScope sampleHub samplePut (sampleStore { epoch := 1, state := some .draining })
        store' := by
  obtain ⟨h', store', ha⟩ := exists_of_controlAfterPut
    (show (controlAfterPut { epoch := 1, state := some .draining }).isSome = true by decide +kernel)
  have hk : ControlKept sampleHub (sampleStore { epoch := 1, state := some .draining })
      samplePut := .inl (by decide)
  have hn : samplePut.ByNode := by
    intro hnil
    exact absurd hnil (by decide)
  exact ⟨h', store', ha, (lane_writes_stay_in_scope_iff hn ha).mpr hk⟩

end Panewire.Lanes

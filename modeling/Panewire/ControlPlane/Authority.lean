import Panewire.ControlPlane.Transfer
import Panewire.Lanes.Scope

/-!
# The authority lanes move together

A policy names the two lanes that carry the authority over the fleet. No direct write may touch
them, no eviction and no sweep may drop them, and a transfer moves both or neither. The **owner** in
the control block is the machine that they were moved to.

* `Operation` — a transfer request, or a put, a delete, a closed pane or a sweep;
* `apply_cases` — an operation leaves both lanes, the epoch and the owner alone, or it is a commit;
* `authority_lanes_move_together` — what this comes to over every run.
-/

namespace Panewire.ControlPlane

open Data Hub Lanes List

variable {routes : List (String × LaneRow)} {lanes : List ControlPlaneTransferLane}
  {file : Option LanesFile} {t : Transfer} {snapshot : LanesFileSnapshot}
  {l : ControlPlaneTransferLane} {lane : String} {env : TransferEnv}

/-! ## Operations -/

/-- Whatever changes the lanes file, with what it reads besides: the hub as it is then, or for a
transfer its environment. Of `disk` the file itself is not used. -/
inductive Operation where
  | transfer (env : TransferEnv) (request : ControlPlaneTransferRequest)
  | lanes (h : LaneHub) (disk : LaneStore) (op : LaneOp)

namespace Operation

def apply (file : Option LanesFile) : Operation → Option LanesFile
  | .transfer env request =>
    match validateControlPlaneTransferRequest request with
    | .error _ => file
    | .ok t => (transferControlPlane env file t).file
  | .lanes h disk op =>
    match op.apply h { disk with file } with
    | .error _ => file
    | .ok (_, store) => store.file

/-- The policy that the operation reads names these lanes. -/
def Under (authority : List String) : Operation → Prop
  | .transfer env _ => env.authorityLanes = authority
  | .lanes h _ _ => h.policy.reload.lanes = authority

/-- The commit that the operation is, if it is one and takes effect. -/
def commit (file : Option LanesFile) : Operation → Option Transfer
  | .transfer env request =>
    match validateControlPlaneTransferRequest request with
    | .error _ => none
    | .ok t =>
      if t.action = .commit ∧ (transferControlPlane env file t).effect.isSome then some t else none
  | .lanes _ _ _ => none

end Operation

def runOperations (file : Option LanesFile) (ops : List Operation) : Option LanesFile :=
  ops.foldl Operation.apply file

/-- Nothing about the authority has changed. -/
structure Untouched (authority : List String) (before after : Option LanesFile) : Prop where
  rows : ∀ lane ∈ authority, rowAt after lane = rowAt before lane
  epoch : (controlOf after).epoch = (controlOf before).epoch
  owner : (controlOf after).owner = (controlOf before).owner

/-- Every authority lane is at its target, the epoch is the next one, and the targets are on the
machine of the owner. -/
structure Moved (authority : List String) (t : Transfer) (before after : Option LanesFile) :
    Prop where
  rows : ∀ lane ∈ authority, ∃ l ∈ t.lanes, l.lane = lane ∧ ∃ row, rowAt before lane = some row ∧
    rowAt after lane = some { row with machine := l.target.machine, pane := l.target.pane }
  epoch : (controlOf after).epoch = (controlOf before).epoch + 1
  owner : ∀ l ∈ t.lanes, l.target.machine = (controlOf after).owner

theorem Untouched.refl (authority : List String) (file : Option LanesFile) :
    Untouched authority file file :=
  ⟨fun _ _ => rfl, rfl, rfl⟩

/-! ## Direct writes -/

section Direct

variable {h h' : LaneHub} {store store' : LaneStore}

/-- A file that was written with the epoch and the owner that were read. -/
theorem untouched_of_write {authority : List String}
    {written : LanesFileSnapshot} (hre : parseForWrite file = some snapshot)
    (hep : written.control.epoch = snapshot.control.epoch)
    (ho : written.control.owner = snapshot.control.owner)
    (hro : ∀ lane ∈ authority, rowAt (some (encodeLanesFile written)) lane =
      Assoc.get snapshot.routes lane) :
    Untouched authority file (some (encodeLanesFile written)) := by
  have hw := epoch_owner_encode written.routes written.control
  rw [hep, ho, control_of_parse hre] at hw
  rw [routes_of_parse hre] at hro
  exact ⟨hro, hw.1, hw.2⟩

/-- **No direct write touches the authority lanes**, an operator's no more than a node's. -/
theorem untouched_of_laneOp {op : LaneOp} (hok : op.apply h store = .ok (h', store')) :
    Untouched h.policy.reload.lanes store.file store'.file := by
  obtain ⟨snapshot, hre, hp, ⟨-, rfl⟩ | ⟨-, hfi⟩⟩ := apply_ok hok
  · exact .refl _ _
  rw [hfi]
  refine untouched_of_write hre rfl rfl fun lane hl => ?_
  have hne : ∀ w ∈ op.writes snapshot.routes, w.1 ≠ lane := by
    rintro w hw rfl
    exact hp.written w hw hl
  rw [rowAt_rowsAfter (normal_of_parse hre) _ hne,
    if_neg fun hmem => hp.removed lane hmem hl]

end Direct

/-! ## Transfers -/

/-- What validation says of the lanes of a request. -/
structure Paired (t : Transfer) : Prop where
  length : t.lanes.length = 2
  names : (t.lanes.map (·.lane)).Nodup
  targets : ∀ l ∈ t.lanes, validControlPlaneTransferRoute l.target = true
  machine : ∀ l ∈ t.lanes, l.target.machine = (t.lanes.head?.map (·.target.machine)).getD ""

theorem validateLane_some {requested : RequestedLane} (h : validateLane requested = some l) :
    l.lane = requested.lane ∧ validControlPlaneTransferRoute l.target = true := by
  unfold validateLane at h
  split at h
  · split at h
    · next hv =>
      cases h
      exact ⟨rfl, hv.2.2⟩
    · cases h
  · cases h

theorem validateLanes_some {requested : List RequestedLane}
    (h : validateLanes requested = some lanes) :
    ∃ first second, lanes = [first, second] ∧ first.lane ≠ second.lane ∧
      validControlPlaneTransferRoute first.target = true ∧
      validControlPlaneTransferRoute second.target = true := by
  unfold validateLanes at h
  split at h
  · next hs =>
    obtain ⟨hl, hnd⟩ := hs
    obtain ⟨r, r', rfl⟩ := length_eq_two.mp hl
    simp only [mapM_cons, mapM_nil, Option.pure_def, Option.bind_eq_bind,
      Option.bind_some, Option.bind_eq_some_iff, Option.some.injEq] at h
    obtain ⟨first, hfst, rest, ⟨second, hsnd, rfl⟩, rfl⟩ := h
    obtain ⟨hn, hv⟩ := validateLane_some hfst
    obtain ⟨hn', hv'⟩ := validateLane_some hsnd
    refine ⟨first, second, rfl, ?_, hv, hv'⟩
    rw [hn, hn']
    simpa using hnd
  · cases h

theorem paired_of_validate {request : ControlPlaneTransferRequest}
    (h : validateControlPlaneTransferRequest request = .ok t) : Paired t := by
  unfold validateControlPlaneTransferRequest at h
  split at h
  · next lanes _ _ _ _ hls =>
    obtain ⟨first, second, rfl, hne, hv, hv'⟩ := validateLanes_some hls
    split at h
    · cases h
    · split at h
      · cases h
      · next hmc =>
        obtain rfl := Except.ok.inj h
        have hsame : first.target.machine = second.target.machine := by simpa using hmc
        exact ⟨rfl, by simpa using hne, by simp [hv, hv'], by simp [hsame]⟩
  · cases h

/-- The lanes of a request that passed are those of the policy. -/
theorem lanes_of_bundle (ht : Paired t) (hlen : env.authorityLanes.length = 2)
    (hb : controlPlaneBundleDecision env t.lanes = none) :
    ∀ lane ∈ env.authorityLanes, ∃ l ∈ t.lanes, l.lane = lane := by
  have hne : env.authorityLanes ≠ [] := by
    intro hn
    rw [hn] at hlen
    cases hlen
  have hs : ∀ lane ∈ t.lanes.map (·.lane), lane ∈ env.authorityLanes := by
    unfold controlPlaneBundleDecision at hb
    split at hb
    · cases hb
    split at hb
    · cases hb
    · next hmt =>
      simp only [not_or, Bool.not_eq_true, any_eq_false, decide_eq_true_eq, not_not] at hmt
      intro lane hla
      obtain ⟨l, hl, rfl⟩ := mem_map.mp hla
      exact hmt.2 l hl
  -- Two different names among two are all of them.
  have hp : (t.lanes.map (·.lane)).Perm env.authorityLanes :=
    (subperm_of_subset ht.names hs).perm_of_length_le (by rw [length_map, ht.length, hlen])
  intro lane hla
  exact mem_map.mp (hp.mem_iff.mpr hla)

/-- A row at its target. -/
def movedRow (routes : List (String × LaneRow)) (l : ControlPlaneTransferLane) : LaneRow :=
  { (Assoc.get routes l.lane).getD {} with machine := l.target.machine, pane := l.target.pane }

theorem commitControlPlaneRoutes_cons (routes : List (String × LaneRow))
    (l : ControlPlaneTransferLane) (lanes : List ControlPlaneTransferLane) :
    commitControlPlaneRoutes routes (l :: lanes) =
      commitControlPlaneRoutes (Assoc.put routes l.lane (movedRow routes l)) lanes :=
  rfl

theorem movedRow_put {other : ControlPlaneTransferLane}
    (row : LaneRow) (hne : other.lane ≠ l.lane) :
    movedRow (Assoc.put routes other.lane row) l = movedRow routes l := by
  unfold movedRow
  rw [Assoc.get_put, if_neg hne]

theorem get_commit_of_not_mem (hl : lane ∉ lanes.map (·.lane)) :
    Assoc.get (commitControlPlaneRoutes routes lanes) lane = Assoc.get routes lane := by
  induction lanes generalizing routes with
  | nil => rfl
  | cons l lanes ih =>
    simp only [map_cons, mem_cons, not_or] at hl
    rw [commitControlPlaneRoutes_cons, ih hl.2, Assoc.get_put, if_neg (Ne.symm hl.1)]

/-- Every lane of a commit is moved. -/
theorem get_commit (hn : (lanes.map (·.lane)).Nodup) (hl : l ∈ lanes) :
    Assoc.get (commitControlPlaneRoutes routes lanes) l.lane = some (movedRow routes l) := by
  induction lanes generalizing routes with
  | nil => cases hl
  | cons first lanes ih =>
    obtain ⟨hfst, hre⟩ := nodup_cons.mp hn
    rw [commitControlPlaneRoutes_cons]
    rcases mem_cons.mp hl with rfl | hl
    · rw [get_commit_of_not_mem hfst, Assoc.get_put, if_pos rfl]
    · have hne : first.lane ≠ l.lane := fun heq =>
        hfst (mem_map.mpr ⟨l, hl, heq.symm⟩)
      rw [ih hre hl, movedRow_put _ hne]

theorem normal_commit (hnms : (lanes.map (·.lane)).Nodup) (hn : Normal routes)
    (hmv : ∀ l ∈ lanes, parseRow l.lane (movedRow routes l) = some (movedRow routes l)) :
    Normal (commitControlPlaneRoutes routes lanes) := by
  induction lanes generalizing routes with
  | nil => exact hn
  | cons first lanes ih =>
    obtain ⟨hfst, hre⟩ := nodup_cons.mp hnms
    refine ih hre (hn.put (hmv first mem_cons_self)) fun l hl => ?_
    have hne : first.lane ≠ l.lane := fun heq => hfst (mem_map.mpr ⟨l, hl, heq.symm⟩)
    rw [movedRow_put _ hne]
    exact hmv l (mem_cons_of_mem _ hl)

/-- A row that the hub can use is one that it can use at another pane. -/
theorem parseRow_moved {row : LaneRow} {target : ControlPlaneTransferRoute}
    (hrow : parseRow lane row = some row) (hs : row.sink = false)
    (htg : validControlPlaneTransferRoute target = true) :
    parseRow lane { row with machine := target.machine, pane := target.pane } =
      some { row with machine := target.machine, pane := target.pane } := by
  have hc := carries_of_not_sink hrow hs
  simp only [validControlPlaneTransferRoute, validControlPlaneMachine, validLanePane,
    Bool.and_eq_true, decide_eq_true_eq] at htg
  obtain ⟨⟨-, hmc⟩, ⟨-, hl⟩, hpat⟩ := htg
  obtain ⟨route, hrt, -⟩ := Option.map_eq_some_iff.mp hrow
  have hn := (parseRoute_sound hrt).1
  have hpar : ¬ (row.parent ≠ "" ∧ !validReportRelayLaneName row.parent) := by
    intro hb
    rw [parseRoute, if_neg (by simp [hn]), if_pos hb] at hrt
    cases hrt
  have hp : parseRoute lane { row.toReportRelayRoute with
      machine := target.machine, pane := target.pane } =
      some { row.toReportRelayRoute with machine := target.machine, pane := target.pane } := by
    rw [parseRoute, if_neg (by simp [hn]), if_neg hpar,
      if_neg (by simp [hs, trimSpace_ne_empty hpat]), if_neg]
    simp only [not_or, hmc, Bool.not_true, Bool.false_eq_true, not_false_iff, not_lt, true_and]
    exact ⟨hl, hc.standby, hc.deliver⟩
  rw [parseRow, hp]
  rfl

/-- The rows that a request expects are there and lead to panes. -/
theorem row_of_expected
    (hmt : controlPlaneExpectedRoutesMatch t.lanes routes = true) (hl : l ∈ t.lanes) :
    ∃ row, Assoc.get routes l.lane = some row ∧ row.sink = false := by
  have hla := all_eq_true.mp hmt l hl
  split at hla
  · cases hla
  · next row hget =>
    simp only [Bool.and_eq_true, Bool.not_eq_true'] at hla
    exact ⟨row, hget, hla.1.1⟩

/-- **A commit moves every authority lane.** -/
theorem moved_of_commit {next : ControlPlaneState}
    {checks : List ControlPlaneReadinessCheck} (record : ControlPlaneHistoryRecord)
    (ht : Paired t) (hlen : env.authorityLanes.length = 2) (hcm : t.action = .commit)
    (hre : parseForWrite file = some snapshot)
    (hcheck : checkTransfer env snapshot t = .ok (next, checks)) :
    Moved env.authorityLanes t file
      (some (encodeLanesFile (snapshotAfter env snapshot t next record))) := by
  obtain ⟨hb, hmt⟩ := checkTransfer_lanes hcheck
  have hn := normal_of_parse hre
  have hmv : ∀ l ∈ t.lanes,
      parseRow l.lane (movedRow snapshot.routes l) = some (movedRow snapshot.routes l) := by
    intro l hl
    obtain ⟨row, hget, hs⟩ := row_of_expected hmt hl
    rw [movedRow, hget]
    exact parseRow_moved (hn _ (Assoc.mem_of_get hget)) hs (ht.targets l hl)
  have hrts : routesAfter t snapshot.routes =
      commitControlPlaneRoutes snapshot.routes t.lanes := if_pos hcm
  have ha : Normal (routesAfter t snapshot.routes) := by
    rw [hrts]
    exact normal_commit ht.names hn hmv
  have hep : (snapshotAfter env snapshot t next record).control.epoch =
      snapshot.control.epoch + 1 := if_pos hcm
  have ho : (snapshotAfter env snapshot t next record).control.owner =
      (t.lanes.head?.map (·.target.machine)).getD "" := if_pos hcm
  have hw := epoch_owner_encode (snapshotAfter env snapshot t next record).routes
    (snapshotAfter env snapshot t next record).control
  refine ⟨fun lane hla => ?_, ?_, fun l hl => ?_⟩
  · obtain ⟨l, hl, rfl⟩ := lanes_of_bundle ht hlen hb lane hla
    obtain ⟨row, hget, -⟩ := row_of_expected hmt hl
    have hget' : Assoc.get (routesAfter t snapshot.routes) l.lane =
        some { row with machine := l.target.machine, pane := l.target.pane } := by
      rw [hrts, get_commit ht.names hl, movedRow, hget]
      rfl
    refine ⟨l, hl, rfl, row, ?_, (rowAt_encode ha _ _).trans hget'⟩
    rw [rowAt, ← routes_of_parse hre, hget]
  · rw [← control_of_parse hre, ← hep]
    exact hw.1
  · rw [ht.machine l hl, ← ho]
    exact hw.2.symm

/-- A step of a transfer that is no commit writes the rows as they were. -/
theorem untouched_of_step (next : ControlPlaneState) (record : ControlPlaneHistoryRecord)
    (hcm : t.action ≠ .commit) (hre : parseForWrite file = some snapshot) :
    Untouched env.authorityLanes file
      (some (encodeLanesFile (snapshotAfter env snapshot t next record))) := by
  have hrts : routesAfter t snapshot.routes = snapshot.routes := if_neg hcm
  have ha : Normal (routesAfter t snapshot.routes) := by
    rw [hrts]
    exact normal_of_parse hre
  refine untouched_of_write hre (if_neg hcm) (if_neg hcm) fun lane _ => ?_
  exact (rowAt_encode ha _ lane).trans (by rw [hrts])

/-! ## Runs -/

section Runs

variable {authority : List String}

/-- **An operation leaves the authority alone or it is a commit.** -/
theorem apply_cases (hl : authority.length = 2) (file : Option LanesFile) {op : Operation}
    (hp : op.Under authority) :
    (op.commit file = none ∧ Untouched authority file (op.apply file)) ∨
      ∃ t, op.commit file = some t ∧ Moved authority t file (op.apply file) := by
  cases op with
  | lanes h disk op =>
    refine .inl ⟨rfl, ?_⟩
    obtain rfl : h.policy.reload.lanes = authority := hp
    unfold Operation.apply
    dsimp only
    split
    · exact .refl _ _
    · next h' store' hok => exact untouched_of_laneOp hok
  | transfer env request =>
    obtain rfl : env.authorityLanes = authority := hp
    unfold Operation.apply Operation.commit
    dsimp only
    split
    · exact .inl ⟨rfl, .refl _ _⟩
    next t hv =>
    rcases transferControlPlane_spec env file t with ⟨hfi, he⟩ | ⟨snapshot, next, checks,
      hre, -, hcheck, he, hfi⟩
    · rw [hfi, he]
      exact .inl ⟨if_neg (by simp), .refl _ _⟩
    · rw [hfi, he]
      by_cases hcm : t.action = .commit
      · exact .inr ⟨t, if_pos ⟨hcm, rfl⟩,
          moved_of_commit _ (paired_of_validate hv) hl hcm hre hcheck⟩
      · exact .inl ⟨if_neg (by simp [hcm]), untouched_of_step _ _ hcm hre⟩

/-- Both lanes name the machine that is recorded as owner. -/
def OwnedBy (authority : List String) (file : Option LanesFile) : Prop :=
  ∀ lane ∈ authority, (rowAt file lane).map (·.machine) = some (controlOf file).owner

theorem Moved.owned {before after : Option LanesFile}
    (hmv : Moved authority t before after) : OwnedBy authority after := by
  intro lane hla
  obtain ⟨l, hl, -, row, -, ha⟩ := hmv.rows lane hla
  rw [ha, ← hmv.owner l hl]
  rfl

theorem Untouched.owned {before after : Option LanesFile}
    (hsame : Untouched authority before after) (ho : OwnedBy authority before) :
    OwnedBy authority after := by
  intro lane hl
  rw [hsame.rows lane hl, hsame.owner]
  exact ho lane hl

/-- Once the owner holds both lanes, it does so for good. -/
theorem owned_run (hl : authority.length = 2) {ops : List Operation}
    (hp : ∀ op ∈ ops, op.Under authority) (ho : OwnedBy authority file) :
    OwnedBy authority (runOperations file ops) := by
  refine List.foldlRecOn ops Operation.apply (motive := OwnedBy authority) ho ?_
  intro file ho op hop
  rcases apply_cases hl file (hp op hop) with ⟨-, hsame⟩ | ⟨t, -, hmv⟩
  · exact hsame.owned ho
  · exact hmv.owned

theorem runOperations_append (file : Option LanesFile) (ops ops' : List Operation) :
    runOperations file (ops ++ ops') = runOperations (runOperations file ops) ops' :=
  foldl_append

/-- **The authority lanes move together**: over every run of transfers, puts, deletes, closed panes
and sweeps under one policy, an operation after which either lane reads differently is a commit. A
commit puts both lanes where its request says and raises the epoch by one, and from then on both
name the owner. -/
theorem authority_lanes_move_together (hlength : authority.length = 2) (file : Option LanesFile)
    {ops earlier later : List Operation} {op : Operation}
    (hpolicy : ∀ op ∈ ops, op.Under authority) (hops : ops = earlier ++ op :: later) :
    (∀ lane ∈ authority,
      rowAt (runOperations file (earlier ++ [op])) lane ≠ rowAt (runOperations file earlier) lane →
        (op.commit (runOperations file earlier)).isSome) ∧
    ∀ t, op.commit (runOperations file earlier) = some t →
      Moved authority t (runOperations file earlier) (runOperations file (earlier ++ [op])) ∧
      OwnedBy authority (runOperations file ops) := by
  have hop : op.Under authority := hpolicy op (by simp [hops])
  have hst : runOperations file (earlier ++ [op]) = op.apply (runOperations file earlier) :=
    runOperations_append file earlier [op]
  rw [hst]
  rcases apply_cases hlength (runOperations file earlier) hop with ⟨hn, hsame⟩ |
    ⟨t, hs, hmv⟩
  · refine ⟨fun lane hl hne => absurd (hsame.rows lane hl) hne, fun t ht => ?_⟩
    rw [hn] at ht
    cases ht
  refine ⟨fun _ _ _ => by rw [hs]; rfl, fun t' ht' => ?_⟩
  obtain rfl := Option.some.inj (hs.symm.trans ht')
  refine ⟨hmv, ?_⟩
  have hltr : runOperations file ops =
      runOperations (op.apply (runOperations file earlier)) later := by
    rw [hops, runOperations_append]
    rfl
  rw [hltr]
  exact owned_run hlength (fun o ho => hpolicy o (by simp [hops, ho])) hmv.owned

end Runs

/-! ## A handover -/

/-- The two lanes are on different machines. -/
def splitFile : LanesFile where
  lanes := [("alpha", { machine := "machine-a", pane := "w1:p1" }),
    ("beta", { machine := "machine-b", pane := "w2:p1" })]

/-- A step of the transfer of both lanes to the second machine. -/
def handoverStep (requestID : String) (action : ControlPlaneAction) : Operation :=
  .transfer { policyConfigured := true, policyLoaded := true, authorityLanes := ["alpha", "beta"] }
    { action := some action, requestID, expectedEpoch := some 0, handoverDocKey := some "doc",
      inflightOperations := some 0,
      lanes := [⟨"alpha", some ⟨"machine-a", "w1:p1"⟩, some ⟨"machine-b", "w2:p2"⟩⟩,
        ⟨"beta", some ⟨"machine-b", "w2:p1"⟩, some ⟨"machine-b", "w2:p1"⟩⟩]
      readiness := ⟨true, true, true, true, true⟩ }

/-- The hub under the same policy. -/
def guardedHub : LaneHub :=
  { tokens := ["machine-a", "machine-b"], policy := { loaded := true, lanes := ["alpha", "beta"] } }

def directWrite (op : LaneOp) : Operation :=
  .lanes guardedHub { file := none, bytes := 0, encodedBytes := fun _ => 0 } op

/-- A machine puts a lane of its own, and the operator tries to delete an authority lane. -/
def handover : List Operation :=
  [handoverStep "10000000-0000-4000-8000-000000000000" .prepare,
    handoverStep "20000000-0000-4000-8000-000000000000" .commit,
    directWrite (.put "gamma" { machine := "machine-a", pane := "w1:p3" } "machine-a"),
    directWrite (.delete "beta" "" {})]

/-- The second machine owns both lanes after the commit and to the end. -/
theorem authority_lanes_move_together_handover :
    OwnedBy ["alpha", "beta"] (runOperations (some splitFile) handover) := by
  have hp : ∀ op ∈ handover, op.Under ["alpha", "beta"] := by
    simp [handover, handoverStep, directWrite, Operation.Under, guardedHub, AuthorityPolicy.reload]
  have hcm : ((handoverStep "20000000-0000-4000-8000-000000000000" .commit).commit
      (runOperations (some splitFile) (handover.take 1))).isSome = true := by
    decide +kernel
  obtain ⟨t, ht⟩ := Option.isSome_iff_exists.mp hcm
  exact ((authority_lanes_move_together rfl (some splitFile) hp
    (show handover = handover.take 1 ++ _ :: handover.drop 2 from rfl)).2 t ht).2

end Panewire.ControlPlane

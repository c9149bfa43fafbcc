import Panewire.Lanes.Scope

/-!
# What a lane write leaves in the file

Every operation reads the file, changes the rows and replaces the file as a whole. The next reader
should find the rows that were meant and all else as it was.

* `rewritten_file_reads_back_iff` — it does, unless the control block is one that is not written, or
  a sink becomes a pane and keeps a **delivery policy** that only a sink may have;
* `parent_has_row_iff` — the parent of a row that a node put has a row, unless the same write gave
  it up to stay within the node's **row cap**.
-/

namespace Panewire.Lanes

open Data Hub LaneHub List Option Assoc

variable {h h' : LaneHub} {store store' : LaneStore} {op : LaneOp} {file : Option LanesFile}
  {routes : List (String × LaneRow)} {lane node : String} {body : HubLaneWriteRequest}
  {snapshot : LanesFileSnapshot}

/-! ## Reading back -/

/-- The file reads as the operation means it: the row that it wrote, none that it dropped, and all
others and the control block as they were. -/
structure ReadsBack (h : LaneHub) (op : LaneOp) (before after : Option LanesFile)
    (snapshot : LanesFileSnapshot) : Prop where
  read : parseForWrite after = some snapshot
  written : ∀ w ∈ op.writes (routesOf before), Assoc.get snapshot.routes w.1 = some w.2
  others : ∀ lane, (∀ w ∈ op.writes (routesOf before), w.1 ≠ lane) →
    Assoc.get snapshot.routes lane =
      if lane ∈ op.removes h (routesOf before) then none else rowAt before lane
  control : snapshot.control = controlOf before

/-- Rows in normal form and a control block that persists are read as they were written. -/
theorem parse_encode (hn : Normal routes) {control : LanesFileControl}
    (hv : validateLanesFileControl control = true) (hp : control.Persists) :
    parseForWrite (some (encodeLanesFile ⟨routes, control⟩)) = some ⟨routes, control⟩ := by
  have hc : (encodeLanesFile ⟨routes, control⟩).control = control :=
    (controlOf_encode routes control).mpr hp
  have hro : ∀ entry ∈ routes, (parseRow entry.1 entry.2).isSome = true := by
    intro entry he
    rw [hn entry he]
    rfl
  rw [parseForWrite, hc, routes_encode hn, if_pos ⟨hv, all_eq_true.mpr hro⟩]

/-- **A rewritten file reads back** exactly when the control block persists and no sink with a
delivery policy of its own is made a pane: for every file, every hub and every put, delete, closed
pane and sweep that succeeds, an operator's as well as a node's. A release that finds nothing to
drop writes nothing. -/
theorem rewritten_file_reads_back_iff (hok : op.apply h store = .ok (h', store')) :
    (∃ snapshot, ReadsBack h op store.file store'.file snapshot) ↔
      op.Idle h (routesOf store.file) ∨
        (controlOf store.file).Persists ∧ ¬ op.Revives (routesOf store.file) := by
  obtain ⟨snapshot, hre, hpa, hc⟩ := apply_ok hok
  have hrts := routes_of_parse hre
  have hctl := control_of_parse hre
  rw [hrts] at hpa hc
  rcases hc with ⟨hi, rfl⟩ | ⟨hi, hfi⟩
  · refine iff_of_true ⟨snapshot, hre, ?_, fun lane _ => ?_, hctl⟩ (.inl hi)
    · simp [hi.1]
    · rw [hi.2, if_neg not_mem_nil, hrts]
      rfl
  rw [hctl] at hfi
  have hn : Normal (routesOf store.file) := hrts ▸ normal_of_parse hre
  constructor
  · rintro ⟨after, hb⟩
    refine .inr ⟨?_, fun hrev => ?_⟩
    · rw [← controlOf_encode (op.rowsAfter h (routesOf store.file)), ← hfi,
        ← control_of_parse hb.read]
      exact hb.control
    · cases op with
      | put lane body node =>
        have hrow := normal_of_parse hb.read _ (mem_of_get (hb.written _ rfl))
        exact (hpa.readable _ rfl).mp hrow hrev
      | _ => exact hrev
  · intro hk
    obtain ⟨hp, hrev⟩ := hk.resolve_left hi
    have ha : Normal (op.rowsAfter h (routesOf store.file)) := by
      unfold LaneOp.rowsAfter
      split
      · next hw => exact (hn.removeLanes _).put ((hpa.readable _ hw).mpr hrev)
      · exact hn.removeLanes _
    refine ⟨_, hfi ▸ parse_encode ha (hctl ▸ (parse_ok hre).2) hp, ?_, ?_, rfl⟩
    · intro w hw
      rw [mem_def] at hw
      simp only [LaneOp.rowsAfter, hw, get_put, if_true]
    · intro lane hne
      rw [← rowAt_encode ha (controlOf store.file)]
      exact rowAt_rowsAfter hn _ hne

/-- A sink with a delivery policy that the hub does not know. -/
def sinkStore : LaneStore :=
  { sampleStore {} with
    file := some { lanes := [("lane-a", { sink := true, deliver := "later" })] } }

/-- What is read for the next change after the operator has put the lane as a pane. -/
def readAfterPut : Option (Option LanesFileSnapshot) :=
  match LaneOp.apply sampleHub sinkStore
    (.put "lane-a" { machine := "machine-a", pane := "w1:p1" } "") with
  | .ok (_, store) => some (parseForWrite store.file)
  | .error _ => none

/-- **A put that locks the file**: the row that it writes is one that the hub refuses to read, and
with it every further write. -/
theorem put_locks_file :
    (parseForWrite sinkStore.file).isSome = true ∧ readAfterPut = some none := by
  decide +kernel

/-- A put beside a control block with an epoch reads back. -/
theorem rewritten_file_reads_back_iff_epoch : ∃ h' store' snapshot,
    samplePut.apply sampleHub (sampleStore { epoch := 1 }) = .ok (h', store') ∧
      ReadsBack sampleHub samplePut (sampleStore { epoch := 1 }).file store'.file snapshot := by
  obtain ⟨h', store', ha⟩ := exists_of_controlAfterPut
    (show (controlAfterPut { epoch := 1 }).isSome = true by decide +kernel)
  have hnew : ¬ samplePut.Revives (routesOf (sampleStore { epoch := 1 }).file) := by
    rintro ⟨-, old, hold, -⟩
    have hn : Assoc.get (routesOf (sampleStore { epoch := 1 }).file) "lane-c" = none := by
      decide +kernel
    cases hn.symm.trans hold
  obtain ⟨snapshot, hb⟩ := (rewritten_file_reads_back_iff ha).mpr (.inr ⟨by decide, hnew⟩)
  exact ⟨h', store', snapshot, ha, hb⟩

/-! ## Parents -/

namespace LaneHub

/-- A row that the node could give up: its pane is not in the fresh snapshot, which is late enough
to speak for it, and the row may be dropped. -/
def spare (h : LaneHub) (routes : List (String × LaneRow)) (node : String) (obs : LaneObservation)
    (entry : String × LaneRow) : Bool :=
  entry.2.pane ∉ obs.panes &&
    (h.laneLife.lastWrite entry.1).getD h.now + laneWriteSettle < obs.receivedAt &&
    h.nodeMayDropLane routes entry.1 entry.2 node

/-- All of them, in lane order. -/
def spares (h : LaneHub) (routes : List (String × LaneRow)) (node : String) : List String :=
  match h.observeNodePanes node with
  | none => []
  | some obs => (((Assoc.entries routes).filter (h.spare routes node obs)).map
      (·.1)).insertionSort (· ≤ ·)

/-- A put of the lane gives up the row of `other`: the lane is new, and that row is among the first
that the node could give up, as many as it is over its cap. -/
def GivesUp (h : LaneHub) (routes : List (String × LaneRow)) (lane node other : String) : Prop :=
  Assoc.get routes lane = none ∧
    other ∈ (h.spares routes node).take (countMachineLanes routes node + 1 - h.lanesNodeRowCap)

end LaneHub

/-! ### What a put gives up -/

/-- A row that was never written counts as written now, before and after it is first seen. -/
theorem lastWrite_seeded (l : LaneLiveness) (lane other : String) (now : ℤ) :
    ((l.writeOrSeed lane now).2.lastWrite other).getD now = (l.lastWrite other).getD now := by
  unfold LaneLiveness.writeOrSeed
  split
  · rfl
  · next hn =>
    refine (congrArg (·.getD now) (get_put l.wrote lane other now)).trans ?_
    split
    · next heq => rw [LaneLiveness.lastWrite, ← heq, hn]; rfl
    · rfl

theorem writeOrSeed_fst (l : LaneLiveness) (lane : String) (now : ℤ) :
    (l.writeOrSeed lane now).1 = (l.lastWrite lane).getD now := by
  unfold LaneLiveness.writeOrSeed LaneLiveness.lastWrite
  split
  · next ht => rw [ht]; rfl
  · next hn => rw [hn]; rfl

/-- What the loop finds does not depend on the rows that it has already seen. -/
theorem foldl_evictStep {obs : LaneObservation} (es : List (String × LaneRow))
    (acc : LaneLiveness × List String) (ha : ∀ lane,
      (acc.1.lastWrite lane).getD h.now = (h.laneLife.lastWrite lane).getD h.now) :
    (es.foldl (h.evictStep routes node obs) acc).2 =
      acc.2 ++ (es.filter (h.spare routes node obs)).map (·.1) := by
  induction es generalizing acc with
  | nil => simp
  | cons e es ih =>
    have hs : (h.evictStep routes node obs acc e).2 =
        if h.spare routes node obs e then acc.2 ++ [e.1] else acc.2 := by
      unfold evictStep laneProvablyGone spare
      rw [← ha, ← writeOrSeed_fst]
      by_cases hp : e.2.pane ∈ obs.panes
      · simp [hp]
      · simp [hp]
    rw [foldl_cons, ih _ fun lane => ?_, hs, filter_cons]
    · split
      · simp
      · rfl
    · refine Eq.trans ?_ (ha lane)
      unfold evictStep laneProvablyGone
      split
      · rfl
      · exact lastWrite_seeded _ _ _ _

theorem evictableLanes_snd : (h.evictableLanes routes node).2 = h.spares routes node := by
  unfold evictableLanes spares
  cases h.observeNodePanes node with
  | none => rfl
  | some obs =>
    exact congrArg (List.insertionSort (· ≤ ·)) (foldl_evictStep _ (h.laneLife, []) fun _ => rfl)

theorem mem_evictions {life : LaneLiveness} {evicted : List String} {other : String}
    (hn : node ≠ "") (hev : h.evictions routes lane node = .ok (life, evicted)) :
    other ∈ evicted ↔ h.GivesUp routes lane node other := by
  unfold evictions at hev
  dsimp only at hev
  split at hev
  · next hc =>
    cases hev
    refine iff_of_false not_mem_nil fun hgi => ?_
    rcases hc with hc | hc | hc
    · exact hn hc
    · rw [hgi.1] at hc
      cases hc
    · have hmem := hgi.2
      rw [hc] at hmem
      exact not_mem_nil hmem
  · next hc =>
    obtain ⟨-, hev⟩ := if_error_eq_ok.mp hev
    obtain ⟨-, rfl⟩ := Prod.mk.inj (Except.ok.inj hev)
    simp only [not_or, not_isSome_iff_eq_none] at hc
    rw [evictableLanes_snd]
    exact (and_iff_right hc.2.1).symm

/-- **The parent of a row that a node put has a row** exactly when the put does not give that row
up: for every file and every hub. -/
theorem parent_has_row_iff (hno : node ≠ "")
    (hok : h.putLane store lane body node = .ok (h', store')) :
    (∃ row, rowAt store'.file lane = some row ∧
      (row.parent ≠ "" → (rowAt store'.file row.parent).isSome = true)) ↔
      (body.parent ≠ "" → ¬ h.GivesUp (routesOf store.file) lane node body.parent) := by
  obtain ⟨snapshot, life, evicted, hrea, hw, hdec, hsc, hev, hfi⟩ := putLane_ok hok
  have hn := normal_of_parse hrea
  have hpas := passed_put hn hw hdec (fun hne => (hsc hne).2) hev
  obtain ⟨-, hpa⟩ := nodeLaneFieldScope_none (hsc hno).1
  rw [← routes_of_parse hrea]
  have hrow : ∃ row, rowAt store'.file lane = some row ∧ row.parent = body.parent := by
    refine ⟨rowOf body ((Assoc.get snapshot.routes lane).getD {}), ?_, ?_⟩
    · rw [hfi, rowAt_encode (hpas.rewrites hn hno).normal]
      exact (get_put _ _ _ _).trans (if_pos rfl)
    · unfold rowOf
      split <;> rfl
  have hat : body.parent ≠ "" → ((rowAt store'.file body.parent).isSome = true ↔
      ¬ h.GivesUp snapshot.routes lane node body.parent) := by
    intro hp
    obtain ⟨-, hne, hs⟩ := hpa hp
    have ho : ∀ w ∈ (LaneOp.put lane body node).writes snapshot.routes, w.1 ≠ body.parent := by
      rintro w ⟨⟩
      exact Ne.symm hne
    have hre : (LaneOp.put lane body node).removes h snapshot.routes = evicted := by
      simp only [LaneOp.removes, hev]
    rw [hfi, rowAt_rowsAfter hn _ ho, hre, ← mem_evictions hno hev]
    split
    · next hmem => simp [hmem]
    · next hmem => simp [hmem, hs]
  obtain ⟨row, hl, hpar⟩ := hrow
  constructor
  · rintro ⟨row', hrow', hh⟩ hp
    obtain rfl := Option.some.inj (hl.symm.trans hrow')
    rw [hpar] at hh
    exact (hat hp).mp (hh hp)
  · intro hk
    rw [← hpar] at hk hat
    exact ⟨row, hl, fun hp => (hat hp).mpr (hk hp)⟩

/-! ### A parent that is given up -/

/-- A node whose pane is gone, at a row cap. -/
def cappedHub (cap : ℕ) : LaneHub where
  server := { nodes := [("machine-a", { state := .connected, stateSince := 0 })] }
  snapshots := [("machine-a", { ok := true, receivedAt := 60000000000 })]
  tokens := ["machine-a", "machine-b"]
  lanesNodeRowCap := cap
  laneLife := { wrote := [("lane-a", 0)] }
  now := 60000000000

def childRow : HubLaneWriteRequest :=
  { machine := "machine-a", pane := "w1:p2", parent := "lane-a" }

/-- The row of the parent after the put of its child. -/
def parentAfterPut (cap : ℕ) : Option (Option LaneRow) :=
  match (cappedHub cap).putLane (sampleStore {}) "lane-c" childRow "machine-a" with
  | .ok (_, store) => some (rowAt store.file "lane-a")
  | .error _ => none

/-- **A put gives up the parent that it names**: the lane of the parent is the node's only one, its
pane is gone and the cap is one row. -/
theorem put_gives_up_parent : parentAfterPut 1 = some none := by
  decide +kernel

/-- With room for both, the parent keeps its row. -/
theorem parent_has_row_iff_room : ∃ h' store',
    (cappedHub 2).putLane (sampleStore {}) "lane-c" childRow "machine-a" = .ok (h', store') ∧
      ∃ row, rowAt store'.file "lane-c" = some row ∧
        (row.parent ≠ "" → (rowAt store'.file row.parent).isSome = true) := by
  have hp : (parentAfterPut 2).isSome = true := by decide +kernel
  unfold parentAfterPut at hp
  split at hp
  · next h' store' hok =>
    refine ⟨h', store', hok, (parent_has_row_iff (by decide) hok).mpr fun _ hgi => ?_⟩
    exact absurd hgi.2 (by decide +kernel)
  · cases hp

end Panewire.Lanes

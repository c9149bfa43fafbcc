import Panewire.Fleet.History

/-!
# Two readers of one directory

The reaper takes a census of the jobs from the same event files as the fleet commands, with a reader
of its own: it skips a file that it cannot read and remembers that it did.

* `censusScan` — the census of one job;
* `ReadsRight` — both readers take the directory, and read every event with the kind that its writer
  gave it;
* `reads_right_iff` — they do exactly when no revocation of the hub was marked in it, and no event
  was recorded without a kind;
* `revocation_unreadable` — one marker makes the history unreadable.
-/

namespace Panewire.Fleet

open Go Data Events List

/-! ## The census -/

def fleetCensusString : Option Json → String
  | some (.str s) => s
  | _ => ""

/-- Only the literal `true` counts. -/
def fleetCensusTrue (v : Option Json) : Bool := v = some (.bool true)

/-- The kind of a document, as the census reads it. -/
def censusKind (d : Document) : String := fleetCensusString (d.fields.get "kind")

/-- The payload: a flat record is its own. -/
def censusPayload (d : Document) : Object :=
  match d.payload with
  | .absent => d.fields
  | .object o => o
  | _ => ⟨[], List.nodup_nil⟩

def fleetCensusTerminalKinds : List String := ["job.completed", "job.joined", "job.revoked"]

def fleetCensusReviveKinds : List String :=
  ["job.claim", "job.reclaim", "job.spawned", "job.reprompted"]

structure CensusScan where
  ownerLane : String := ""
  role : String := ""
  claimRole : String := ""
  claimLabel : String := ""
  keep : Bool := false
  /-- of the newest spawn: pane, tab, label and time -/
  spawn : Option (String × String × String × ℤ) := none
  reaped : Bool := false
  revived : Bool := false
  /-- the newest terminal event that stands: its kind and time -/
  terminal : Option (String × ℤ) := none
  firstAt : Option ℤ := none
  pane : String := ""
  tab : String := ""
  /-- a file was skipped -/
  unreadable : Bool := false
  deriving DecidableEq

/-- What a claim says. -/
def CensusScan.claim (s : CensusScan) (p : Object) : CensusScan :=
  let role := fleetCensusString (p.get "role")
  { s with
    ownerLane := fleetCensusString (p.get "owner_lane")
    claimRole := role
    claimLabel := fleetCensusString (p.get "agent_label")
    role := if role = "builder" ∨ role = "captain" then "builder" else s.role }

/-- One document of the census; `moment` is its time. -/
def CensusScan.observe (s : CensusScan) (d : Document) (moment : ℤ) : CensusScan :=
  let p := censusPayload d
  let kind := censusKind d
  let claims := kind = "job.claim" ∨ kind = "job.reclaim"
  let pane := fleetCensusString (p.get "pane_id")
  let tab := fleetCensusString (p.get "tab_id")
  let claimed := if claims then s.claim p else s
  { claimed with
    keep := s.keep || (claims ∨ kind = "job.spawned") && fleetCensusTrue (p.get "keep")
    pane := if pane ≠ "" then pane else s.pane
    tab := if tab ≠ "" then tab else s.tab
    firstAt := if s.firstAt.all fun first => moment < first then some moment else s.firstAt
    spawn :=
      if kind = "job.spawned" then some (pane, tab, fleetCensusString (p.get "label"), moment)
      else s.spawn
    reaped := s.reaped || kind = "job.reaped"
    revived :=
      if kind ∈ fleetCensusTerminalKinds then false
      else s.revived || kind ∈ fleetCensusReviveKinds && s.terminal.isSome
    terminal :=
      if kind ∈ fleetCensusTerminalKinds then some (kind, moment)
      else if kind ∈ fleetCensusReviveKinds then none
      else s.terminal }

/-- One file: what is not an object is skipped. -/
def CensusScan.visit (moment : Document → ℤ → ℤ) (s : CensusScan) (f : EventFile) : CensusScan :=
  match f.doc with
  | none => { s with unreadable := true }
  | some d => s.observe d (moment d f.mtime)

/-- The newest spawn supplies pane and tab as one unit. -/
def CensusScan.settle (s : CensusScan) : CensusScan :=
  match s.spawn with
  | some (pane, tab, _, _) => { s with pane, tab }
  | none => s

/-- The census of one job. `moment` is the time that the reaper's own date format reads from a
document, or else when the file was written. -/
def censusScan (moment : Document → ℤ → ℤ) (files : List EventFile) : CensusScan :=
  ((files.filter EventFile.isJson).foldl (CensusScan.visit moment) {}).settle

theorem CensusScan.visit_unreadable (moment : Document → ℤ → ℤ) (s : CensusScan) (f : EventFile) :
    (s.visit moment f).unreadable = (s.unreadable || f.doc.isNone) := by
  unfold CensusScan.visit
  cases f.doc with
  | none => simp
  | some d =>
    dsimp only [CensusScan.observe, CensusScan.claim]
    split <;> simp

/-- **The census skips nothing** if every file holds an object. -/
theorem censusScan_unreadable (moment : Document → ℤ → ℤ) {files : List EventFile}
    (h : ∀ f ∈ files, f.doc.isSome = true) : (censusScan moment files).unreadable = false := by
  have hset : ∀ s : CensusScan, s.settle.unreadable = s.unreadable := by
    intro s
    unfold CensusScan.settle
    split <;> rfl
  rw [censusScan, hset]
  refine List.foldlRecOn (motive := fun s : CensusScan => s.unreadable = false) _ _ rfl ?_
  intro s hs f hf
  have hdoc := h f (mem_of_mem_filter hf)
  rw [CensusScan.visit_unreadable, hs, Bool.false_or, Option.isNone_eq_false_iff]
  exact hdoc

theorem censusKind_record (r : Record) : censusKind r.document = readKind r := by
  rw [censusKind, get_kind, readKind]
  cases r.isMarker <;> rfl

/-! ## Both readers -/

/-- The files of a directory in the order of their names, whatever their sizes. -/
def listing (size : Stored → ℕ) (dir : List Stored) : List EventFile :=
  (dir.map fun f => ⟨f.name, size f, some f.record.document, f.mtime⟩).insertionSort
    fun a b => a.name ≤ b.name

/-- **Both readers take the directory** and read each event with the kind that its writer gave
it. -/
structure ReadsRight (times : TimeText) (moment : Document → ℤ → ℤ) (size : Stored → ℕ)
    (dir : List Stored) : Prop where
  history : ∃ evs, events times (listing size dir) = .ok evs ∧
    (evs.map fun ev => (ev.name, ev.kind)).Perm (dir.map fun f => (f.name, f.record.kind))
  census : (censusScan moment (listing size dir)).unreadable = false
  kinds : ∀ f ∈ dir, censusKind f.record.document = f.record.kind

section Directory

variable {dir : List Stored} {size : Stored → ℕ}

theorem mem_listing {file : EventFile} : file ∈ listing size dir ↔
    ∃ f ∈ dir, file = ⟨f.name, size f, some f.record.document, f.mtime⟩ := by
  rw [listing, mem_insertionSort, mem_map]
  exact exists_congr fun f => and_congr_right fun _ => eq_comm

/-- Every file of the directory is one that the readers look at. -/
theorem filter_listing (h : Written dir) :
    (listing size dir).filter EventFile.isJson = listing size dir := by
  refine filter_eq_self.mpr fun file hfi => ?_
  obtain ⟨f, hf, rfl⟩ := mem_listing.mp hfi
  obtain ⟨number, hn⟩ := h.name_eq f hf
  rw [hn]
  exact Record.hasSuffix_fileName _ _

/-- **The readers agree with the writers** exactly if the directory holds no marker of a revocation
and no event without a kind. -/
theorem reads_right_iff (h : Written dir) (times : TimeText) (moment : Document → ℤ → ℤ)
    (size : Stored → ℕ) : ReadsRight times moment size dir ↔
      ∀ f ∈ dir, f.record.isMarker = false ∧ f.record.kind ≠ "" := by
  constructor
  · rintro ⟨⟨evs, he, -⟩, -, -⟩ f hf
    obtain ⟨read, hre, -⟩ := events_ok.mp he
    rw [filter_listing h] at hre
    obtain ⟨ev, -, hev⟩ := exists_of_mapM_ok hre (mem_listing.mpr ⟨f, hf, rfl⟩)
    obtain ⟨-, hkind, hne⟩ := Event.read_ok hev
    have hs : readKind f.record ≠ "" := by
      rw [hkind] at hne
      rw [← str_kind]
      exact hne
    unfold readKind at hs
    cases hmar : f.record.isMarker with
    | true => exact absurd (by rw [hmar]; rfl) hs
    | false => exact ⟨rfl, by simpa [hmar] using hs⟩
  · intro ha
    have hkind : ∀ f ∈ dir, readKind f.record = f.record.kind := by
      intro f hf
      rw [readKind, (ha f hf).1]
      rfl
    refine ⟨?_, ?_, fun f hf => (censusKind_record _).trans (hkind f hf)⟩
    · have hrea : ∀ file ∈ listing size dir, ∃ ev, Event.read times file = .ok ev := by
        intro file hfi
        obtain ⟨f, hf, rfl⟩ := mem_listing.mp hfi
        exact read_record times _ _ _ (hkind f hf ▸ (ha f hf).2)
      obtain ⟨read, hre⟩ := mapM_ok_of_forall hrea
      refine ⟨sortEvents read, events_ok.mpr ⟨read, by rwa [filter_listing h], rfl⟩, ?_⟩
      have hp := ((sortEvents_perm read).map fun ev : Event => (ev.name, ev.kind))
      rw [map_kind_of_read hre] at hp
      refine hp.trans (((perm_insertionSort _ _).map _).trans (List.Perm.of_eq ?_))
      rw [map_map]
      refine map_congr_left fun f hf => ?_
      exact Prod.ext rfl ((str_kind f.record).trans (hkind f hf))
    · refine censusScan_unreadable moment fun file hfi => ?_
      obtain ⟨f, -, rfl⟩ := mem_listing.mp hfi
      rfl

end Directory

/-- The times as they are written; none of them can be read. -/
def noTimes : TimeText := ⟨fun _ => "", fun _ => none⟩

def claimedFile : Stored :=
  ⟨"00001-job.claim.json", .ledger "job-1" 1 "job.claim" ⟨[], List.nodup_nil⟩ "", 0⟩

def revokedFile : Stored := ⟨"00002-job.revoked.json", .marker "job-1" 1, 1⟩

theorem written_claimed : Written [claimedFile] :=
  .link claimedFile.record 1 0 .empty rfl fun _ hf => absurd hf not_mem_nil

/-- A completion of `panewire emit`. -/
def completedFile : Stored :=
  ⟨"00002-job.completed.json", .emit { type := .jobCompleted, jobID := "job-1" }, 1⟩

/-- A later end by `panewire job close`. -/
def closedFile : Stored :=
  ⟨"00003-job.revoked.json",
    .close ⟨"job-1", "lead", "operator", "done", "", "", "cli", "m1", ""⟩, 2⟩

/-- A directory with the records of three writers is read by both. -/
theorem reads_right_iff_claimed :
    Written [closedFile, completedFile, claimedFile] ∧
      ReadsRight noTimes (fun _ mtime => mtime) (fun _ => 0)
        [closedFile, completedFile, claimedFile] := by
  have hw : Written [closedFile, completedFile, claimedFile] :=
    .link closedFile.record 3 2 (.rename completedFile.record 2 1 written_claimed rfl) rfl
      (by decide +kernel)
  exact ⟨hw, (reads_right_iff hw noTimes _ _).mpr (by decide)⟩

/-- **A revocation of the hub makes the history of a claimed job unreadable**, and to the census it
is an event without a kind. -/
theorem revocation_unreadable : Written [revokedFile, claimedFile] ∧
    events noTimes (listing (fun _ => 0) [revokedFile, claimedFile]) = .error .kindMissing ∧
    censusKind revokedFile.record.document = "" ∧ revokedFile.record.kind = "job.revoked" ∧
    ¬ ReadsRight noTimes (fun _ mtime => mtime) (fun _ => 0) [revokedFile, claimedFile] := by
  have hre : events noTimes (listing (fun _ => 0) [revokedFile, claimedFile]) =
      .error .kindMissing := by decide +kernel
  refine ⟨.rename revokedFile.record 2 1 written_claimed rfl, hre, by decide, rfl, fun h => ?_⟩
  obtain ⟨evs, he, -⟩ := h.history
  cases he

end Panewire.Fleet

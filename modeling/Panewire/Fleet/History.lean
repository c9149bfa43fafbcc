import Panewire.Data.Results
import Panewire.Events.Records

/-!
# A job's history

The fleet commands read all events of a job, in the order of their times, and fold them into what
the job is now: who owns it, where it runs, and whether it is over. One file that cannot be read,
or that names no kind, makes **the whole history unreadable**.
-/

namespace Panewire.Fleet

open Go Data Events Record

variable {times : TimeText} {files : List EventFile}

/-! ## Events -/

structure Event where
  kind : String
  createdAt : String := ""
  ts : String := ""
  payload : Object
  /-- what a close record declares -/
  outcome : String := ""
  /-- when it happened -/
  time : ℤ
  mtime : ℤ
  name : String
  deriving DecidableEq

inductive ReadError where
  | unreadable (name : String)
  | kindMissing
  deriving DecidableEq

/-- The first of the two times of an event that can be read, or else when its file was written. -/
def eventTime (times : TimeText) (createdAt ts : String) (mtime : ℤ) : ℤ :=
  ((times.parse createdAt).or (times.parse ts)).getD mtime

/-- Read one file. -/
def Event.read (times : TimeText) (f : EventFile) : Except ReadError Event :=
  match f.doc with
  | none => .error (.unreadable f.name)
  | some d =>
    if typed d.fields ["kind", "created_at", "ts", "outcome"] [] [] = false ∨
        d.payload = .other then
      .error (.unreadable f.name)
    else if str d.fields "kind" = "" then .error .kindMissing
    else
      .ok {
        kind := str d.fields "kind"
        createdAt := str d.fields "created_at"
        ts := str d.fields "ts"
        payload := d.payload.fields
        outcome := str d.fields "outcome"
        time := eventTime times (str d.fields "created_at") (str d.fields "ts") f.mtime
        mtime := f.mtime
        name := f.name }

/-- One event is before another: by time, then by when they were written, then by name. -/
def Event.before (a b : Event) : Bool :=
  if a.time = b.time then
    if a.mtime = b.mtime then a.name < b.name else a.mtime < b.mtime
  else a.time < b.time

def sortEvents (evs : List Event) : List Event := evs.insertionSort fun a b => b.before a = false

/-- The history in the files of a directory, which come in the order of their names. -/
def events (times : TimeText) (files : List EventFile) : Except ReadError (List Event) :=
  ((files.filter EventFile.isJson).mapM (Event.read times)).map sortEvents

/-- The kind in a file, under the name that the history looks at. -/
def fileKind (f : EventFile) : String := (f.doc.map fun d => str d.fields "kind").getD ""

/-- What was read is the file's, and it has a kind. -/
theorem Event.read_ok {f : EventFile} {ev : Event}
    (h : Event.read times f = .ok ev) : ev.name = f.name ∧ ev.kind = fileKind f ∧ ev.kind ≠ "" := by
  unfold Event.read at h
  unfold fileKind
  cases hdoc : f.doc with
  | none =>
    rw [hdoc] at h
    cases h
  | some d =>
    rw [hdoc] at h
    dsimp only at h
    split at h
    · cases h
    · split at h
      · cases h
      · next hkind =>
        cases h
        exact ⟨rfl, rfl, hkind⟩

theorem sortEvents_perm (evs : List Event) : (sortEvents evs).Perm evs :=
  List.perm_insertionSort _ _

variable {evs : List Event}

theorem events_ok :
    events times files = .ok evs ↔ ∃ read,
      (files.filter EventFile.isJson).mapM (Event.read times) = .ok read ∧ evs = sortEvents read :=
  except_map_ok.trans (exists_congr fun _ => and_congr_right fun _ => eq_comm)

/-- The names and kinds of what was read are those of the files. -/
theorem map_kind_of_read (h : files.mapM (Event.read times) = .ok evs) :
    (evs.map fun ev => (ev.name, ev.kind)) = files.map fun f => (f.name, fileKind f) := by
  have ha := mapM_ok_iff.mp h
  clear h
  induction ha with
  | nil => rfl
  | cons hre _ ih =>
    obtain ⟨hn, hkind, -⟩ := Event.read_ok hre
    rw [List.map_cons, List.map_cons, hn, hkind, ih]

/-! ## What is read of a record -/

/-- The kind under the name that the readers look at: the marker has none there. -/
def readKind (r : Record) : String := if r.isMarker then "" else r.kind

variable (r : Record)

theorem get_kind :
    r.document.fields.get "kind" = if r.isMarker then none else some (.str r.kind) := by
  cases r with
  | ledger jobID seq kind payload createdAt =>
    simp [document, envelopeObject, Object.get_ofOptional, List.lookup_cons, isMarker, Record.kind]
  | emit record =>
    simp [document, EmitRecord.object, EmitRecord.fields, Object.get_ofOptional,
      List.lookup_cons, isMarker, Record.kind, Json.ofString]
  | marker jobID epoch =>
    simp [document, revocationObject, Object.get_ofOptional, List.lookup_cons, isMarker]
  | close record =>
    simp [document, JobCloseRecord.object, Object.get_ofOptional, isMarker, Record.kind]

/-- The fields that a history reads are strings in every record. -/
theorem typed_record :
    typed r.document.fields ["kind", "created_at", "ts", "outcome"] [] [] = true := by
  cases r with
  | ledger jobID seq kind payload createdAt =>
    simp [typed, Object.optional, document, envelopeObject, Object.get_ofOptional, List.lookup_cons]
  | emit record =>
    simp [typed, Object.optional, document, EmitRecord.object, EmitRecord.fields,
      Object.get_ofOptional, List.lookup_cons, Json.ofString]
  | marker jobID epoch =>
    simp [typed, Object.optional, document, revocationObject, Object.get_ofOptional,
      List.lookup_cons]
  | close record =>
    simp [typed, Object.optional, document, JobCloseRecord.object, Object.get_ofOptional,
      List.lookup_cons]

theorem str_kind : str r.document.fields "kind" = readKind r := by
  rw [str, Object.optional, get_kind, readKind]
  cases r.isMarker <;> rfl

theorem payload_ne_other : r.document.payload ≠ .other := by
  cases r <;> exact nofun

/-- A record that shows its kind is read. -/
theorem read_record (times : TimeText) (name : String) (size : ℕ) (mtime : ℤ) {r : Record}
    (h : readKind r ≠ "") :
    ∃ ev, Event.read times ⟨name, size, some r.document, mtime⟩ = .ok ev := by
  have hrea : ¬ (typed r.document.fields ["kind", "created_at", "ts", "outcome"] [] [] = false ∨
      r.document.payload = .other) := by
    simp [typed_record, payload_ne_other]
  unfold Event.read
  dsimp only
  rw [if_neg hrea, str_kind, if_neg h]
  exact ⟨_, rfl⟩

/-! ## The job -/

structure Job where
  owner : String := ""
  parent : String := ""
  role : String := ""
  label : String := ""
  pane : String := ""
  tab : String := ""
  task : String := ""
  family : String := ""
  profile : String := ""
  effort : String := ""
  report : String := ""
  hubLane : String := ""
  machine : String := ""
  t : String := ""
  keep : Bool := false
  terminal : Bool := false
  reaped : Bool := false
  spawnRole : String := ""
  /-- the kind of the newest terminal event of this attempt -/
  ended : String := ""
  outcome : String := ""
  inherited : String := ""
  endedAt : ℤ := 0
  receipt : Option Object := none
  deriving DecidableEq

/-- A string or a number, as text. -/
def scalar : Option Json → String
  | some (.str s) => s
  | some (.num n) => toString n
  | _ => ""

def firstNonempty (a b : String) : String := if a ≠ "" then a else b

/-- The kinds with which an attempt begins: a claim, first or repeated. -/
def claimKinds : List String := ["job.claim", "job.claimed", "job.reclaim"]

/-- The kinds that end an attempt. -/
def terminalKinds : List String :=
  ["job.completed", "job.joined", "job.revoked", "job.handed_off", "job.lost"]

/-- One event of the history. -/
def Job.observe (j : Job) (ev : Event) : Job :=
  let p := ev.payload
  let j :=
    if ev.kind ∈ claimKinds then
      let role := str p "role"
      { j with
        owner := str p "owner_lane"
        parent := str p "parent_lane"
        role :=
          if role ≠ "" ∧ (role = "builder" ∨ role = "captain" ∨ j.role = "") then role else j.role
        task := scalar (p.get "task_id")
        inherited := str p "task_inherited_from"
        t := str p "t_level"
        terminal := false
        ended := ""
        outcome := ""
        reaped := false }
    else if ev.kind = "job.spawned" then
      { j with
        receipt := some p
        spawnRole := str p "role"
        pane := str p "pane_id"
        tab := str p "tab_id"
        label := firstNonempty (str p "label") (str p "agent_label")
        family := str p "family"
        profile := str p "profile"
        effort := str p "effort"
        report := str p "report"
        hubLane := str p "hub_lane"
        machine := str p "hub_lane_machine"
        terminal := false
        ended := ""
        outcome := ""
        reaped := false
        task := if j.task = "" then scalar (p.get "task_id") else j.task }
    else if ev.kind = "job.reprompted" then { j with terminal := false, ended := "", outcome := "" }
    else if ev.kind ∈ terminalKinds then
      { j with
        terminal := true
        ended := ev.kind
        outcome := firstNonempty ev.outcome (str p "outcome")
        endedAt := ev.time }
    else if ev.kind = "job.reaped" then { j with reaped := true }
    else j
  if flag p "keep" then { j with keep := true } else j

/-- The job that a history makes. -/
def foldJob (evs : List Event) : Job := evs.foldl Job.observe {}

inductive JobError where
  | history (e : ReadError)
  /-- no claim or receipt for the job -/
  | unclaimed
  deriving DecidableEq

/-- The job with its history. -/
def job (times : TimeText) (files : List EventFile) : Except JobError (Job × List Event) :=
  match events times files with
  | .error e => .error (.history e)
  | .ok evs =>
    if (foldJob evs).receipt = none ∧ (foldJob evs).task = "" then .error .unclaimed
    else .ok (foldJob evs, evs)

theorem job_ok {j : Job}
    (h : job times files = .ok (j, evs)) : events times files = .ok evs ∧ j = foldJob evs := by
  unfold job at h
  split at h
  · cases h
  · next he =>
    split at h
    · cases h
    · cases h
      exact ⟨he, rfl⟩

end Panewire.Fleet

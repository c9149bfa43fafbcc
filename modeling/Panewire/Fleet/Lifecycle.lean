import Panewire.Fleet.Attempts

/-!
# Filing a report

`panewire done` files the report of a job and `panewire escalate` its question; the watcher of a
pane runs `done` by itself. Under the job's lock the command reads the history, and unless the same
report and question were filed before it records a `job.completed` or a `job.escalate`.

* `lifecycleWithOptions` — the command; everything outside the events directory is an answer of
  `Outside`;
* `Filed` — what a success promises: the job is over, or the attempt is escalated;
* `filed_iff` — the promise is kept exactly if nothing equal was filed before, or the promised state
  held already: **the search for duplicates looks at all attempts**, the state at the current one;
* `repeated_report_leaves_job_live` — a reprompted job, whose report is filed once more.
-/

namespace Panewire.Fleet

open Go Data Hub Events Object List

variable {kinds : List String} {j : Job} {evs : List Event} {line : String}

/-! ## Commands -/

/-- The watcher runs `done` too; one that was armed again marks what it finds as late. -/
inductive Command where
  | done (watch late : Bool)
  | escalate
  deriving DecidableEq

namespace Command

def name : Command → String
  | .done _ _ => "done"
  | .escalate => "escalate"

def isDone : Command → Bool
  | .done _ _ => true
  | .escalate => false

def watches : Command → Bool
  | .done watch _ => watch
  | .escalate => false

def late : Command → Bool
  | .done _ late => late
  | .escalate => false

def eventKind : Command → RelayKind
  | .done _ _ => .jobCompleted
  | .escalate => .jobEscalate

/-- The state in the job's record. -/
def recordState : Command → String
  | .done _ _ => "completed"
  | .escalate => "escalated"

end Command

structure Args where
  id : String
  report : String := ""
  question : String := ""
  result : String := ""

inductive Failure where
  | usage (text : String)
  | history (e : JobError)
  /-- an answer from outside -/
  | outside (text : String)
  deriving DecidableEq

def idPattern : Pattern where
  first := Char.isAlphanum
  rest c := c.isAlphanum || c == '.' || c == '_' || c == '-'
  max := 127

def validID (s : String) : Bool := idPattern.accepts s && s ≠ "." && s ≠ ".."

/-- Where and when a file was written. -/
structure Stamp where
  number : ℕ
  createdAt : String
  mtime : ℤ
  size : ℕ := 0

/-- **What the command finds outside the events directory.** -/
structure Outside where
  times : TimeText
  /-- the newest report in the job's directory -/
  newestReport : String
  readResult : String → Except Failure Object
  /-- the result file that a finished pane left beside this report, or why it is refused -/
  watcherResultFile : String → String × String
  readReport : String → Except Failure String
  sha256 : String → String
  lock : Except Failure Unit
  /-- the first number from this one on under which no copy of the report exists -/
  freeCopy : ℕ → Except Failure ℕ
  /-- the report was uploaded -/
  upload : Bool
  /-- the job's record was written -/
  putRecord : Bool
  /-- the ledger's answer to an event of this kind -/
  ledger : String → Except Failure Stamp
  /-- the file that `panewire emit` wrote, if it wrote one, and its exit status -/
  emit : Option (EmitRecord × Stamp) × ℤ
  /-- the ledger's answer to the release of the pool; its record `quota_pool.release` in the events
  directory is left out, as it neither ends the job nor files anything -/
  releaseQuota : Except Failure Unit
  /-- the result in the job's record, if the record can be read -/
  storedResult : Option (Option Json)
  sameJSONValue : Json → Object → Bool
  /-- the result was added to the record -/
  putResult : Bool

namespace Outside

variable (o : Outside) (cmd : Command)

/-! ## What is filed -/

structure Filing where
  report : String
  body : String
  result : Option Object
  rejected : String

variable (a : Args)

/-- The report that the command takes. -/
def reportOf : String :=
  if a.report = "" ∧ cmd.isDone then o.newestReport else a.report

/-- The contents of a report; no report is an empty one. -/
def bodyOf (report : String) : Except Failure String :=
  if report ≠ "" then o.readReport report else .ok ""

/-- The result that the arguments name. -/
def resultOf : Except Failure (Option Object) :=
  if cmd.watches = false ∧ a.result ≠ "" then
    if cmd.isDone then (o.readResult a.result).map some
    else .error (.usage "escalate accepts no --result")
  else .ok none

/-- The result that the watcher finds, or why it is rejected. -/
def watcherResult (report : String) : Option Object × String :=
  let (file, rejected) := o.watcherResultFile report
  if file = "" then (none, rejected)
  else
    match o.readResult file with
    | .ok result => (some result, rejected)
    | .error _ => (none, "result failed validation")

/-- What the arguments say, before the lock is taken. -/
def filing (j : Job) : Except Failure Filing :=
  if cmd = .escalate ∧ (a.question = "" ∨ j.parent = "") then
    .error (.usage "escalate requires --question and a recorded parent lane")
  else
    (o.resultOf cmd a).bind fun result =>
      if cmd.isDone ∧ o.reportOf cmd a = "" then
        .error (.usage "done requires an existing report")
      else
        let (result, rejected) :=
          if cmd.watches then o.watcherResult (o.reportOf cmd a) else (result, "")
        (o.bodyOf (o.reportOf cmd a)).map fun body =>
          { report := o.reportOf cmd a, body, result, rejected }

/-! ## Events -/

/-- Append an event to the ledger, which publishes it as a file. -/
def event (id : String) (dir : EventsDir) (kind : String) (payload : Object) :
    EventsDir × Except Failure Unit :=
  match o.ledger kind with
  | .error e => (dir, .error e)
  | .ok stamp =>
    let record := Record.ledger id stamp.number kind payload stamp.createdAt
    let file : EventFile :=
      ⟨record.fileName stamp.number, stamp.size, some record.document, stamp.mtime⟩
    match dir.insertNew file with
    | (dir', true) => (dir', .ok ())
    | (_, false) => (dir, .error (.outside "event"))

/-- `panewire emit`, called with this kind. -/
def emitFile (dir : EventsDir) (kind : RelayKind) : EventsDir :=
  match o.emit.1 with
  | none => dir
  | some (record, stamp) =>
    let record := Record.emit { record with type := kind, createdAt := stamp.createdAt }
    let file : EventFile :=
      ⟨record.fileName stamp.number, stamp.size, some record.document, stamp.mtime⟩
    (dir.insertNew file).1

/-! ## Under the lock -/

/-- An event says that this report and question were filed. -/
def repeats (digest question : String) (ev : Event) : Bool :=
  ev.kind = cmd.eventKind.wire && str ev.payload "report_sha256" = digest &&
    str ev.payload "question" = question

/-- Add the result to the job's record, if it has none. -/
def attachDuplicateResult (id : String) (dir : EventsDir) (report digest : String)
    (result : Option Object) : EventsDir × Except Failure String :=
  match result with
  | none => (dir, .ok "")
  | some result =>
    match o.storedResult with
    | none => (dir, .ok "result=unattached")
    | some (some stored) =>
      (dir, .ok (if o.sameJSONValue stored result then "result=equal" else "result=conflict"))
    | some none =>
      if o.putResult then
        let payload := Object.ofOptional
          [("report", some (.str report)), ("report_sha256", some (.str digest))] (by simp)
        match o.event id dir "job.result_attached" payload with
        | (dir, .error e) => (dir, .error e)
        | (dir, .ok ()) => (dir, .ok "result=attached")
      else (dir, .ok "result=unattached")

/-- The report and question were filed before. -/
def fileDuplicate (p : Filing) (dir : EventsDir) : EventsDir × Except Failure String :=
  let line suffix := "OK job=" ++ a.id ++ " report=" ++ p.report ++ " duplicate=yes" ++ suffix
  if cmd.isDone then
    match o.releaseQuota with
    | .error e => (dir, .error e)
    | .ok () =>
      match o.attachDuplicateResult a.id dir p.report (o.sha256 p.body) p.result with
      | (dir, .error e) => (dir, .error e)
      | (dir, .ok status) => (dir, .ok (line (if status ≠ "" then " " ++ status else "")))
  else (dir, .ok (line ""))

/-- What is behind the last `.` of the last element of a path, with the `.`. -/
def fileExt (path : String) : String :=
  let chars := path.toList.reverse.takeWhile (· ≠ '/')
  if '.' ∈ chars then String.ofList ('.' :: (chars.takeWhile (· ≠ '.')).reverse) else ""

/-- The last element of a path. -/
def fileBase (path : String) : String :=
  String.ofList (path.toList.reverse.takeWhile (· ≠ '/')).reverse

/-- The path under which the report is kept: a changed report does not replace one that was filed
under its path. -/
def keptReport (p : Filing) (evs : List Event) : Except Failure String :=
  let filed := evs.filter fun ev => ev.kind = cmd.eventKind.wire
  if (filed.any fun ev => str ev.payload "report" = p.report) ∧ p.report ≠ "" then
    (o.freeCopy (filed.length + 1)).map fun n =>
      let ext := fileExt p.report
      let stem := String.ofList (p.report.toList.take (p.report.length - ext.length))
      stem ++ "-r" ++ toString n ++ ext
  else .ok p.report

/-- The payload of the event. -/
def payload (j : Job) (report digest doc : String) : Object :=
  Object.ofOptional
    [("report", some (.str report)), ("report_sha256", some (.str digest)),
      ("question", some (.str a.question)), ("owner_lane", some (.str j.owner)),
      ("parent_lane", some (.str j.parent)), ("label", some (.str j.label)),
      ("pane_id", some (.str j.pane)), ("document", some (.str doc)),
      ("late", if cmd.late then some (.bool true) else none)] (by simp)

/-- After the event is recorded: the relay, and the quota. -/
def afterEvent (report : String) (dir : EventsDir) : EventsDir × Except Failure String :=
  let emitted := o.emitFile dir cmd.eventKind
  let dir :=
    if o.emit.2 = 0 then emitted
    else (o.event a.id emitted "job.relay_failed"
      (Object.ofOptional [("kind", some (.str cmd.eventKind.wire)), ("exit", some (.num o.emit.2))]
        (by simp))).1
  let relay := if o.emit.2 = 0 then "" else " relay=file-only"
  let line := "OK job=" ++ a.id ++ " report=" ++ report ++ " kind=" ++ cmd.eventKind.wire ++ relay
  if cmd.isDone then (dir, o.releaseQuota.map fun _ => line) else (dir, .ok line)

/-- Nothing equal was filed before. -/
def fileNew (j : Job) (p : Filing) (evs : List Event) (dir : EventsDir) :
    EventsDir × Except Failure String :=
  match o.keptReport cmd p evs with
  | .error e => (dir, .error e)
  | .ok report =>
    let doc :=
      if report ≠ "" ∧ o.upload then "reports/" ++ a.id ++ "/" ++ fileBase report else ""
    -- a record that cannot be written is only noted
    let dir :=
      if o.putRecord then dir
      else (o.event a.id dir "job.record_failed"
        (Object.ofOptional [("op", some (.str cmd.recordState))] (by simp))).1
    match o.event a.id dir cmd.eventKind.wire
        (payload cmd a j report (o.sha256 p.body) doc) with
    | (dir, .error e) => (dir, .error e)
    | (dir, .ok ()) => o.afterEvent cmd a report dir

/-- Under the lock, with the job and its history. -/
def underLock (p : Filing) (j : Job) (evs : List Event) (dir : EventsDir) :
    EventsDir × Except Failure String :=
  if cmd.watches && j.over then (dir, .ok "")
  else
    let rejected :=
      if p.rejected ≠ "" then
        o.event a.id dir "job.result_rejected"
          (Object.ofOptional [("reason", some (.str p.rejected))] (by simp))
      else (dir, .ok ())
    match rejected with
    | (dir, .error e) => (dir, .error e)
    | (dir, .ok ()) =>
      if evs.any (repeats cmd (o.sha256 p.body) a.question) then o.fileDuplicate cmd a p dir
      else o.fileNew cmd a j p evs dir

/-- `done` and `escalate`: the directory they leave, and what they say. -/
def lifecycleWithOptions (dir : EventsDir) : EventsDir × Except Failure String :=
  if !validID a.id then (dir, .error (.usage (cmd.name ++ " requires a job id")))
  else
    match job o.times dir.listing with
    | .error e => (dir, .error (.history e))
    | .ok (j, evs) =>
      match o.filing cmd a j with
      | .error e => (dir, .error e)
      | .ok p =>
        match o.lock with
        | .error e => (dir, .error e)
        | .ok () => o.underLock cmd a p j evs dir

/-! ## What the steps write -/

/-- The file holds a record of this kind. -/
def IsRecord (kind : String) (f : EventFile) : Prop :=
  f.isJson = true ∧ fileKind f = kind ∧ ∃ r : Record, f.doc = some r.document

theorem isRecord_file (r : Record) (hr : r.isMarker = false) (number size : ℕ) (mtime : ℤ) :
    IsRecord r.kind ⟨r.fileName number, size, some r.document, mtime⟩ := by
  refine ⟨Record.hasSuffix_fileName r number, ?_, r, rfl⟩
  show str r.document.fields "kind" = r.kind
  rw [str_kind, readKind, hr]
  rfl

/-- **Records of these kinds were added**, in this order. -/
def Added (kinds : List String) (dir dir' : EventsDir) : Prop :=
  ∃ new, dir'.rows = dir.rows ++ new ∧ List.Forall₂ IsRecord kinds new

/-- The kinds are those that a reader finds. -/
theorem kinds_of_records {new : List EventFile} (h : List.Forall₂ IsRecord kinds new) :
    new.map fileKind = kinds := by
  induction h with
  | nil => rfl
  | cons hf _ ih => rw [map_cons, hf.2.1, ih]

theorem Added.refl (dir : EventsDir) : Added [] dir dir := ⟨[], (append_nil _).symm, .nil⟩

theorem Added.trans {kinds' : List String} {dir dir' dir'' : EventsDir}
    (h : Added kinds dir dir') (h' : Added kinds' dir' dir'') :
    Added (kinds ++ kinds') dir dir'' := by
  obtain ⟨new, hro, hn⟩ := h
  obtain ⟨new', hro', hn'⟩ := h'
  exact ⟨new ++ new', by rw [hro', hro, append_assoc], rel_append hn hn'⟩

theorem added_insertNew (dir : EventsDir) {f : EventFile} {kind : String} (hf : IsRecord kind f) :
    dir.insertNew f = (dir, false) ∨
      ∃ dir', dir.insertNew f = (dir', true) ∧ Added [kind] dir dir' := by
  unfold Table.insertNew
  split
  · exact .inl rfl
  · exact .inr ⟨_, rfl, [f], rfl, .cons hf .nil⟩

variable {o} {cmd} {a : Args} {dir : EventsDir}

/-- What happens to an event: it is recorded, or nothing is. -/
theorem event_cases (id : String) (dir : EventsDir) (kind : String) (payload : Object) :
    (∃ e, o.event id dir kind payload = (dir, .error e)) ∨
      ∃ dir', o.event id dir kind payload = (dir', .ok ()) ∧ Added [kind] dir dir' := by
  unfold event
  cases o.ledger kind with
  | error e => exact .inl ⟨e, rfl⟩
  | ok stamp =>
    have hrc := isRecord_file
      (.ledger id stamp.number kind payload stamp.createdAt) rfl stamp.number stamp.size stamp.mtime
    rcases added_insertNew dir hrc with h | ⟨dir', h, ha⟩
    · dsimp only
      rw [h]
      exact .inl ⟨_, rfl⟩
    · dsimp only
      rw [h]
      exact .inr ⟨dir', rfl, ha⟩

/-- The kinds of the notes that the command makes beside the event itself. -/
def noteKinds : List String :=
  ["job.result_rejected", "job.record_failed", "job.relay_failed", "job.result_attached"]

/-- Nothing but notes was added. -/
def Noted (dir dir' : EventsDir) : Prop :=
  ∃ kinds, Added kinds dir dir' ∧ ∀ k ∈ kinds, k ∈ noteKinds

theorem noted_event (kind : String) (hkind : kind ∈ noteKinds) (id : String) (dir : EventsDir)
    (payload : Object) : Noted dir (o.event id dir kind payload).1 := by
  rcases event_cases (o := o) id dir kind payload with ⟨e, h⟩ | ⟨dir', h, ha⟩
  · rw [h]
    exact ⟨[], .refl dir, fun k hk => absurd hk not_mem_nil⟩
  · rw [h]
    refine ⟨[kind], ha, fun k hk => ?_⟩
    rw [mem_singleton.mp hk]
    exact hkind

theorem Noted.refl (dir : EventsDir) : Noted dir dir :=
  ⟨[], .refl dir, fun _ hk => absurd hk not_mem_nil⟩

variable {p : Filing}

/-- A second filing adds notes only. -/
theorem fileDuplicate_noted (cmd : Command) (dir : EventsDir) :
    Noted dir (o.fileDuplicate cmd a p dir).1 := by
  have ha : ∀ report digest result,
      Noted dir (o.attachDuplicateResult a.id dir report digest result).1 := by
    intro report digest result
    unfold attachDuplicateResult
    cases result with
    | none => exact .refl dir
    | some result =>
      cases o.storedResult with
      | none => exact .refl dir
      | some stored =>
        cases stored with
        | some stored => exact .refl dir
        | none =>
          dsimp only
          split
          · have hn := noted_event (o := o) "job.result_attached" (by decide) a.id dir
              (ofOptional
                [("report", some (.str report)), ("report_sha256", some (.str digest))] (by simp))
            split <;> next h => rwa [h] at hn
          · exact .refl dir
  unfold fileDuplicate
  split
  · split
    · exact .refl dir
    · have hn := ha p.report (o.sha256 p.body) p.result
      split <;> next h => rwa [h] at hn
  · exact .refl dir

/-- The kinds that the command writes. -/
def Writes (cmd : Command) (kinds : List String) : Prop :=
  ∀ k ∈ kinds, k ∈ noteKinds ∨ k = cmd.eventKind.wire

theorem Noted.writes {dir' : EventsDir} (h : Noted dir dir') (cmd : Command) :
    ∃ kinds, Added kinds dir dir' ∧ Writes cmd kinds := by
  obtain ⟨kinds, ha, hks⟩ := h
  exact ⟨kinds, ha, fun k hk => .inl (hks k hk)⟩

theorem Writes.not_mem_empty (h : Writes cmd kinds) : "" ∉ kinds := by
  intro hmem
  rcases h _ hmem with hn | hw
  · exact absurd hn (by decide)
  · exact cmd.eventKind.wire_ne_empty hw.symm

theorem Writes.append {kinds' : List String} (h : Writes cmd kinds)
    (h' : Writes cmd kinds') : Writes cmd (kinds ++ kinds') := by
  intro k hk
  exact (mem_append.mp hk).elim (h k) (h' k)

theorem emitFile_writes (cmd : Command) (dir : EventsDir) :
    ∃ kinds, Added kinds dir (o.emitFile dir cmd.eventKind) ∧ Writes cmd kinds := by
  unfold emitFile
  cases o.emit.1 with
  | none => exact (Noted.refl dir).writes cmd
  | some emitted =>
    obtain ⟨record, stamp⟩ := emitted
    have hrc := isRecord_file
      (.emit { record with type := cmd.eventKind, createdAt := stamp.createdAt }) rfl stamp.number
      stamp.size stamp.mtime
    dsimp only
    rcases added_insertNew dir hrc with h | ⟨dir', h, ha⟩
    · rw [h]
      exact (Noted.refl dir).writes cmd
    · rw [h]
      refine ⟨_, ha, fun k hk => .inr ?_⟩
      exact mem_singleton.mp hk

theorem afterEvent_writes (cmd : Command) (report : String) (dir : EventsDir) :
    ∃ kinds, Added kinds dir (o.afterEvent cmd a report dir).1 ∧ Writes cmd kinds := by
  obtain ⟨kinds, ha, hks⟩ := emitFile_writes (o := o) cmd dir
  have hrel : ∃ kinds, Added kinds dir
      (if o.emit.2 = 0 then o.emitFile dir cmd.eventKind
        else (o.event a.id (o.emitFile dir cmd.eventKind) "job.relay_failed"
          (ofOptional
            [("kind", some (.str cmd.eventKind.wire)), ("exit", some (.num o.emit.2))]
            (by simp))).1) ∧ Writes cmd kinds := by
    split
    · exact ⟨kinds, ha, hks⟩
    · obtain ⟨kinds', ha', hks'⟩ := (noted_event (o := o) "job.relay_failed" (by decide)
        a.id (o.emitFile dir cmd.eventKind) _).writes cmd
      exact ⟨kinds ++ kinds', ha.trans ha', hks.append hks'⟩
  unfold afterEvent
  dsimp only
  split <;> exact hrel

/-- **A first filing records its event.** -/
theorem fileNew_writes {dir' : EventsDir} (h : o.fileNew cmd a j p evs dir = (dir', .ok line)) :
    ∃ kinds, Added kinds dir dir' ∧ Writes cmd kinds ∧ cmd.eventKind.wire ∈ kinds := by
  unfold fileNew at h
  split at h
  · cases h
  next report _ =>
  dsimp only at h
  -- the record's failure is noted first
  obtain ⟨kinds, ha, hks⟩ : ∃ kinds, Added kinds dir
      (if o.putRecord then dir
        else (o.event a.id dir "job.record_failed"
          (ofOptional [("op", some (.str cmd.recordState))] (by simp))).1) ∧
      Writes cmd kinds := by
    split
    · exact (Noted.refl dir).writes cmd
    · exact (noted_event (o := o) "job.record_failed" (by decide) a.id dir _).writes cmd
  generalize (if o.putRecord = true then dir
    else (o.event a.id dir "job.record_failed"
      (ofOptional [("op", some (.str cmd.recordState))] (by simp))).1) = dir₁ at h ha
  split at h
  · cases h
  next dir₂ hev =>
  obtain ⟨kinds', ha', hks'⟩ := afterEvent_writes (o := o) (a := a) cmd report dir₂
  rw [h] at ha'
  rcases event_cases (o := o) a.id dir₁ cmd.eventKind.wire
    (payload cmd a j report (o.sha256 p.body) _) with ⟨e, he⟩ | ⟨dir₃, hok, hma⟩
  · rw [he] at hev
    cases hev
  · rw [hok] at hev
    cases hev
    refine ⟨_, (ha.trans hma).trans ha', ?_, by simp⟩
    exact (hks.append fun k hk => .inr (mem_singleton.mp hk)).append hks'

theorem wire_not_mem_noteKinds (cmd : Command) : cmd.eventKind.wire ∉ noteKinds := by
  cases cmd with
  | done => exact show "job.completed" ∉ noteKinds by decide
  | escalate => exact show "job.escalate" ∉ noteKinds by decide

theorem Noted.wire_not_mem (h : ∀ k ∈ kinds, k ∈ noteKinds) : cmd.eventKind.wire ∉ kinds :=
  fun hk => wire_not_mem_noteKinds cmd (h _ hk)

/-- **What a run under the lock adds**: the event itself only if nothing equal was filed. -/
theorem underLock_writes {dir' : EventsDir} (h : o.underLock cmd a p j evs dir = (dir', .ok line)) :
    ∃ kinds, Added kinds dir dir' ∧ Writes cmd kinds ∧
      (cmd.eventKind.wire ∈ kinds ↔ (cmd.watches && j.over) = false ∧
        evs.any (repeats cmd (o.sha256 p.body) a.question) = false) := by
  unfold underLock at h
  split at h
  · next ho =>
    cases h
    refine ⟨[], .refl dir, fun k hk => absurd hk not_mem_nil, ?_⟩
    simp [ho]
  next hl =>
  dsimp only at h
  -- what the watcher rejects is noted first
  have hnot : Noted dir (if p.rejected ≠ "" then
      o.event a.id dir "job.result_rejected"
        (ofOptional [("reason", some (.str p.rejected))] (by simp))
      else (dir, .ok ())).1 := by
    split
    · exact noted_event "job.result_rejected" (by decide) a.id dir _
    · exact .refl dir
  split at h
  · cases h
  next dir₁ hrej =>
  rw [hrej] at hnot
  obtain ⟨kinds, ha, hks⟩ := hnot
  have hn : Writes cmd kinds := fun k hk => .inl (hks k hk)
  split at h
  · next hrep =>
    have hdup := fileDuplicate_noted (o := o) (a := a) (p := p) cmd dir₁
    rw [h] at hdup
    obtain ⟨kinds', ha', hks'⟩ := hdup
    refine ⟨kinds ++ kinds', ha.trans ha', ?_, ?_⟩
    · exact hn.append fun k hk => .inl (hks' k hk)
    · simp [hrep, Noted.wire_not_mem hks, Noted.wire_not_mem hks']
  · next hfst =>
    obtain ⟨kinds', ha', hks', hmem⟩ := fileNew_writes h
    refine ⟨kinds ++ kinds', ha.trans ha', hn.append hks', ?_⟩
    simp [hl, hfst, hmem]

/-- The report that is filed is the one that the arguments name. -/
theorem filing_body (h : o.filing cmd a j = .ok p) : o.bodyOf (o.reportOf cmd a) = .ok p.body := by
  unfold filing at h
  split at h
  · cases h
  · obtain ⟨result, -, h⟩ := except_bind_ok.mp h
    split at h
    · cases h
    · obtain ⟨body, hb, rfl⟩ := except_map_ok.mp h
      exact hb

/-- The contents of the report that the command takes. -/
def filedBody (o : Outside) (cmd : Command) (a : Args) : String :=
  match o.bodyOf (o.reportOf cmd a) with
  | .ok body => body
  | .error _ => ""

/-- **What a successful run adds.** -/
theorem lifecycleWithOptions_writes {dir' : EventsDir}
    (h : o.lifecycleWithOptions cmd a dir = (dir', .ok line)) :
    ∃ evs kinds, events o.times dir.listing = .ok evs ∧ Added kinds dir dir' ∧ Writes cmd kinds ∧
      (cmd.eventKind.wire ∈ kinds ↔ (cmd.watches && (foldJob evs).over) = false ∧
        evs.any (repeats cmd (o.sha256 (o.filedBody cmd a)) a.question) = false) := by
  unfold lifecycleWithOptions at h
  split at h
  · cases h
  split at h
  · cases h
  next j evs hjob =>
  split at h
  · cases h
  next p hfil =>
  split at h
  · cases h
  · have hb : o.filedBody cmd a = p.body := by
      rw [filedBody, filing_body hfil]
    obtain ⟨he, rfl⟩ := job_ok hjob
    obtain ⟨kinds, ha, hw, hmem⟩ := underLock_writes h
    rw [← hb] at hmem
    exact ⟨evs, kinds, he, ha, hw, hmem⟩

end Outside

/-! ## What a success promises -/

/-- **What a success promises**: the job is over, or its current attempt is escalated. -/
def Filed (cmd : Command) (evs : List Event) : Prop :=
  match cmd with
  | .done _ _ => (foldJob evs).over = true
  | .escalate => escalated evs = true

instance (cmd : Command) (evs : List Event) : Decidable (Filed cmd evs) := by
  unfold Filed
  cases cmd <;> infer_instance

/-- After events of the command the promise holds if it held, or if the event itself is there. -/
theorem filed_append {cmd : Command} {later : List Event}
    (h : ∀ ev ∈ later, ev.kind ∈ Outside.noteKinds ∨ ev.kind = cmd.eventKind.wire) :
    Filed cmd (evs ++ later) ↔ Filed cmd evs ∨ ∃ ev ∈ later, ev.kind = cmd.eventKind.wire := by
  have hnot : ∀ k ∈ Outside.noteKinds, k ∉ reviveKinds ∧ k ∉ overKinds := by decide
  cases cmd with
  | done watch late =>
    have hrev : ∀ ev ∈ later, ev.kind ∉ reviveKinds := by
      intro ev hev
      rcases h ev hev with hn | hkind
      · exact (hnot _ hn).1
      · rw [hkind]
        exact show "job.completed" ∉ reviveKinds by decide
    have ho : (∃ ev ∈ later, ev.kind ∈ overKinds) ↔ ∃ ev ∈ later, ev.kind = "job.completed" := by
      refine exists_congr fun ev => and_congr_right fun hev => ⟨fun hk => ?_, fun hk => ?_⟩
      · exact (h ev hev).resolve_left fun hn => (hnot _ hn).2 hk
      · rw [hk]
        decide
    rw [Filed, foldJob, foldl_append, foldl_over hrev, ho]
    rfl
  | escalate =>
    refine escalated_append fun ev hev => ?_
    rcases h ev hev with hn | hkind
    · exact (hnot _ hn).1
    · rw [hkind]
      exact show "job.escalate" ∉ reviveKinds by decide

/-- Every record that is added can be read. -/
theorem Outside.IsRecord.read {kind : String} {f : EventFile} (h : Outside.IsRecord kind f)
    (hkind : kind ≠ "") (times : TimeText) : ∃ ev, Event.read times f = .ok ev := by
  obtain ⟨-, hk, r, hdoc⟩ := h
  obtain ⟨name, size, doc, mtime⟩ := f
  cases hdoc
  refine read_record times name size mtime ?_
  rw [← str_kind]
  exact fun hn => hkind (hk.symm.trans hn)

/-- **The promise is kept** exactly if nothing equal was filed in any attempt, or if it held before:
the job was over, or its current attempt escalated. -/
theorem filed_iff (o : Outside) (cmd : Command) (a : Args) (dir dir' : EventsDir) (line : String)
    (evs : List Event) (hevs : events o.times dir.listing = .ok evs)
    (hrun : o.lifecycleWithOptions cmd a dir = (dir', .ok line))
    (hclock : Forward o.times dir dir') :
    (∃ evs', events o.times dir'.listing = .ok evs' ∧ Filed cmd evs') ↔
      (∀ ev ∈ evs, Outside.repeats cmd (o.sha256 (o.filedBody cmd a)) a.question ev = false) ∨
        Filed cmd evs := by
  obtain ⟨evs₁, kinds, hevs₁, ⟨new, hro, hrcs⟩, hw, hmem⟩ :=
    Outside.lifecycleWithOptions_writes hrun
  obtain rfl : evs₁ = evs := Except.ok.inj (hevs₁.symm.trans hevs)
  have hre : ∀ f ∈ new, f.isJson = true ∧ ∃ ev, Event.read o.times f = .ok ev := by
    intro f hf
    obtain ⟨kind, hk, hrec⟩ := exists_of_forall₂ hrcs hf
    exact ⟨hrec.1, hrec.read (fun hn => hw.not_mem_empty (hn ▸ hk)) o.times⟩
  obtain ⟨later, hl, hks⟩ := events_grown hro hre hevs hclock
  have hks : ∀ kind, (∃ ev ∈ later, ev.kind = kind) ↔ kind ∈ kinds := by
    intro kind
    rw [hks kind, ← Outside.kinds_of_records hrcs, mem_map]
  have hfil : Filed cmd (evs₁ ++ later) ↔ Filed cmd evs₁ ∨
      ∃ ev ∈ later, ev.kind = cmd.eventKind.wire :=
    filed_append fun ev hev => hw _ ((hks _).mp ⟨ev, hev, rfl⟩)
  rw [hks, hmem] at hfil
  -- the watcher returns early only from a job that is over
  have he : (cmd.watches && (foldJob evs₁).over) = true → Filed cmd evs₁ := by
    cases cmd with
    | done watch late => exact fun h => (Bool.and_eq_true_iff.mp h).2
    | escalate => exact nofun
  have ha : (∃ evs', events o.times dir'.listing = .ok evs' ∧ Filed cmd evs') ↔
      Filed cmd (evs₁ ++ later) := by
    constructor
    · rintro ⟨evs', hevs', h⟩
      rwa [← Except.ok.inj (hl.symm.trans hevs')] at h
    · exact fun h => ⟨_, hl, h⟩
  rw [ha, hfil, any_eq_false]
  simp only [Bool.not_eq_true]
  constructor
  · rintro (h | ⟨-, h⟩)
    · exact .inr h
    · exact .inl h
  · rintro (h | h)
    · cases hwat : cmd.watches && (foldJob evs₁).over with
      | true => exact .inl (he hwat)
      | false => exact .inr ⟨rfl, h⟩
    · exact .inl h

/-! ### A job that was reprompted -/

/-- Everything works; every report reads `b`. -/
def quietOutside : Outside where
  times := ⟨fun _ => "", fun _ => none⟩
  newestReport := ""
  readResult _ := .error (.outside "no result")
  watcherResultFile _ := ("", "")
  readReport _ := .ok "b"
  sha256 body := if body = "b" then "digest-b" else "digest-empty"
  lock := .ok ()
  freeCopy n := .ok n
  upload := true
  putRecord := true
  ledger _ := .ok ⟨9, "", 9, 0⟩
  emit := (none, 0)
  releaseQuota := .ok ()
  storedResult := none
  sameJSONValue _ _ := false
  putResult := false

/-- The `n`th event of the ledger, at the instant `n`. -/
def ledgerFile (n : ℕ) (kind : String) (payload : Object) : EventFile :=
  let record := Record.ledger "job-1" n kind payload ""
  ⟨record.fileName n, 0, some record.document, n⟩

/-- The job was escalated and its report was filed. -/
def filedDir : EventsDir :=
  ⟨[ledgerFile 1 "job.claim" ⟨[("parent_lane", .str "lead")], by decide⟩,
    ledgerFile 2 "job.spawned" ⟨[("pane_id", .str "w1:p1")], by decide⟩,
    ledgerFile 3 "job.escalate"
      ⟨[("report_sha256", .str "digest-empty"), ("question", .str "why?")], by decide⟩,
    ledgerFile 4 "job.completed" ⟨[("report", .str "report.md"),
      ("report_sha256", .str "digest-b")], by decide⟩], by decide⟩

/-- After that it was reprompted. -/
def repromptedDir : EventsDir :=
  ⟨filedDir.rows ++ [ledgerFile 5 "job.reprompted" ⟨[], by decide⟩], by decide⟩

/-- **The same report and the same question, in a new attempt**: both commands succeed, nothing is
recorded, the job stays live and the attempt is not escalated. -/
theorem repeated_report_leaves_job_live :
    let done := quietOutside.lifecycleWithOptions (.done true false) ⟨"job-1", "report.md", "", ""⟩
      repromptedDir
    let escalate := quietOutside.lifecycleWithOptions .escalate ⟨"job-1", "", "why?", ""⟩
      repromptedDir
    done.2 = .ok "OK job=job-1 report=report.md duplicate=yes" ∧
      escalate.2 = .ok "OK job=job-1 report= duplicate=yes" ∧
      done.1.rows = repromptedDir.rows ∧ escalate.1.rows = repromptedDir.rows ∧
      (events quietOutside.times repromptedDir.listing).map
        (fun evs => ((foldJob evs).over, escalated evs)) = .ok (false, false) := by
  decide +kernel

/-- In the attempt that it ended, the same report leaves the job over. -/
theorem filed_iff_same_attempt :
    let run := quietOutside.lifecycleWithOptions (.done true false) ⟨"job-1", "report.md", "", ""⟩
      filedDir
    run.2 = .ok "" ∧
      ∃ evs', events quietOutside.times run.1.listing = .ok evs' ∧
        Filed (.done true false) evs' := by
  intro run
  have hl : run.2 = .ok "" := by decide +kernel
  have hro : run.1.rows = filedDir.rows := by decide +kernel
  have hre : (events quietOutside.times filedDir.listing).map
      (fun evs => (foldJob evs).over) = .ok true := by decide +kernel
  obtain ⟨evs, he, ho⟩ := except_map_ok.mp hre
  have hc : Forward quietOutside.times filedDir run.1 := by
    intro f _ g hg hn
    exact absurd (Table.mem_rows.mp (hro ▸ Table.mem_rows.mpr hg)) hn
  exact ⟨hl, (filed_iff quietOutside (.done true false) ⟨"job-1", "report.md", "", ""⟩ filedDir
    run.1 "" evs he (Prod.ext rfl hl) hc).mpr (.inr ho)⟩

end Panewire.Fleet

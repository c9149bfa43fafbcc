import Panewire.Events.Document
import Panewire.Text.Digits
import Panewire.Data.Assoc
import Panewire.Data.Newest
import Panewire.Conc.Machine

/-!
# The writers of an events directory

Four programs add files to the events of a job, each in its own process: `panewire emit`, the node
that records a revocation of the hub, the ledger, and `job close`. Each lists the directory, takes
the next number and publishes one file. The ledger and `job close` do so under the lock of the
directory and **link** the file, which never replaces one; the other two take no lock and **rename**
it into place.

* `Shelf` — the directory, and every writer between its steps;
* `reported_files_kept` — a file whose writer reported success stays, in every run in which no other
  file of the same number and kind appears between the listing and the publishing of a writer that
  renames, and numbers do not run out;
* `concurrent_emit_lost` — otherwise one of two reports is lost.
-/

namespace Panewire.Events

open Go Data Conc List Assoc

variable {name : String}

/-! ## Numbers -/

theorem toList_eventFileName (n : ℕ) (kind : String) :
    (eventFileName n kind).toList = (pad5 n).toList ++ '-' :: (kind ++ ".json").toList := by
  simp [eventFileName]

theorem toList_pad5 (n : ℕ) :
    (pad5 n).toList = List.replicate (5 - (toString n).length) '0' ++ (toString n).toList := by
  simp [pad5]

/-- **A file's number is read back from its name.** -/
theorem hubEventSequence_eventFileName {n : ℕ} (hn : n < 2 ^ 64) (kind : String) :
    hubEventSequence (eventFileName n kind) = some n := by
  have hda : '-' ∉ (pad5 n).toList := by
    rw [toList_pad5]
    exact fun h => absurd (isDigit_of_mem_padded h) (by decide)
  have hl : (toString n).length ≤ 20 := by
    refine (Nat.length_repr_le_iff (by decide)).mpr (hn.trans ?_)
    norm_num
  unfold hubEventSequence
  rw [toList_eventFileName, cutChars_append _ hda]
  have hv : digitsValue (pad5 n).toList 0 = some n := by
    rw [toList_pad5]
    exact digitsValue_padded _ n
  have hs : (pad5 n).toList.length = 5 - (toString n).length + (toString n).length := by
    rw [toList_pad5, length_append, length_replicate, String.length_toList]
  dsimp only
  rw [hv, if_neg (by omega), Option.filter_some, if_pos (by simpa using hn)]

/-- No listed name has a number above the highest. -/
theorem le_highestSequence {names : List String} {n : ℕ} (hna : name ∈ names)
    (hn : hubEventSequence name = some n) : n ≤ highestSequence names := by
  have heq : highestSequence names = highest hubEventSequence 0 names := by
    unfold highestSequence highest
    congr 1
    funext _ name
    cases hubEventSequence name <;> rfl
  rw [heq]
  exact (highest_spec hubEventSequence 0 names).2.1 name hna n hn

/-- The next number is not in use. -/
theorem eventFileName_not_mem {names : List String} (h : highestSequence names + 1 < 2 ^ 64)
    (kind : String) : eventFileName (highestSequence names + 1) kind ∉ names := by
  intro hmem
  have := le_highestSequence hmem (hubEventSequence_eventFileName h kind)
  omega

/-! ### The number of a close record -/

/-- `pythonInt`, for a number that is not negative; the others never count. -/
def pythonInt (text : List Char) : Option ℕ :=
  let blank := fun c : Char => c ∈ [' ', '\t', '\n', '\x0b', '\x0c', '\r']
  let text := ((text.dropWhile blank).reverse.dropWhile blank).reverse
  let digits := text.dropWhile fun c => c = '+' || c = '-'
  if text.length - digits.length > 1 ∨ digits = [] ∨ digits.head? = some '_' ∨
      digits.getLast? = some '_' ∨ ('_', '_') ∈ digits.zip digits.tail ∨
      text.head? = some '-' then none
  else digitsValue (digits.filter fun c => c ≠ '_') 0

/-- The highest number that `job close` reads from the names. -/
def closeHighest (names : List String) : ℕ :=
  names.foldl (fun highest name => max highest ((pythonInt (cutChars '-' name.toList).1).getD 0)) 0

/-! ## Writers -/

/-- What a writer's comparison with an existing record says, in `emit`. -/
inductive Verdict where
  /-- another event -/
  | other
  /-- the same event: the file stands for both -/
  | same
  /-- the same key with other metadata -/
  | conflict
  deriving DecidableEq

inductive Writer (C : Type) where
  | emit (kind : String) (record : C)
  /-- a revocation of the hub -/
  | marker (record : C)
  /-- an event of the ledger, with the name that `recordEvent` made of its kind and of the number
  that the caller, the ledger's table and the listing gave it -/
  | ledger (name : String) (record : C)
  | close (record : C)
  deriving DecidableEq

/-- A writer between its steps. -/
inductive Stage where
  /-- it has not listed the directory yet; a close record counts its attempts -/
  | ready (attempt : ℕ)
  /-- it has chosen a name; `since` are the files that others published after its listing -/
  | listed (name : String) (attempt : ℕ) (since : List String)
  deriving DecidableEq

structure Task (C : Type) where
  writer : Writer C
  stage : Stage := .ready 0
  deriving DecidableEq

structure Shelf (C : Type) where
  files : List (String × C)
  tasks : List (ℕ × Task C) := []
  /-- who holds `.wrk-events.lock` -/
  lock : Option ℕ := none
  /-- the files whose writers reported success, with what they wrote -/
  reported : List (String × C) := []
  deriving DecidableEq

variable {C : Type}

def Writer.record : Writer C → C
  | .emit _ r => r
  | .marker r => r
  | .ledger _ r => r
  | .close r => r

/-- The writer renames its file into place, without the lock. -/
def Writer.replaces : Writer C → Bool
  | .emit _ _ => true
  | .marker _ => true
  | _ => false

def jobClosePublishAttempts : ℕ := 16

def jobCloseKind : String := "job.revoked"

namespace Shelf

variable (s : Shelf C)

def names : List String := s.files.map (·.1)

def task (id : ℕ) : Option (Task C) := Assoc.get s.tasks id

/-- The writer returns, and with it the lock. -/
def finish (id : ℕ) : Shelf C :=
  { s with tasks := Assoc.del s.tasks id, lock := if s.lock = some id then none else s.lock }

def setStage (id : ℕ) (writer : Writer C) (stage : Stage) : Shelf C :=
  { s with tasks := Assoc.put s.tasks id ⟨writer, stage⟩ }

/-- The other writers that have listed the directory miss the file. -/
def noteTask (name : String) (task : Task C) : Task C :=
  match task.stage with
  | .ready _ => task
  | .listed n attempt since => { task with stage := .listed n attempt (name :: since) }

/-- A file appears under a name. -/
def publish (name : String) (record : C) : Shelf C :=
  { s with
    files := Assoc.put s.files name record
    tasks := Assoc.mapValues (fun _ => noteTask name) s.tasks }

def report (name : String) (record : C) : Shelf C :=
  { s with reported := (name, record) :: s.reported }

/-! ### Steps -/

/-- The first record, in the order of the names, that `emit` does not take for another event. -/
def twin [DecidableEq C] (verdict : C → C → Verdict) (s : Shelf C) (record : C) :
    Option (String × C) :=
  ((Assoc.entries s.files).insertionSort fun a b => a.1 ≤ b.1).find? fun f =>
    hasSuffix f.1 ".json" ∧ verdict f.2 record ≠ .other

/-- The directory is listed, and a name is chosen. `emit` also looks for a record that stands for
its own. -/
def list [DecidableEq C] (verdict : C → C → Verdict) (s : Shelf C) (id : ℕ) (attempt : ℕ) :
    Writer C → Shelf C
  | .emit kind record =>
    match s.twin verdict record with
    | some (name, existing) =>
      if verdict existing record = .same then (s.finish id).report name existing else s.finish id
    | none =>
      s.setStage id (.emit kind record)
        (.listed (eventFileName ((highestSequence s.names + 1) % 2 ^ 64) kind) attempt [])
  | .marker record =>
    s.setStage id (.marker record)
      (.listed (eventFileName ((highestSequence s.names + 1) % 2 ^ 64) "job.revoked") attempt [])
  | .ledger name record => s.setStage id (.ledger name record) (.listed name attempt [])
  | .close record =>
    s.setStage id (.close record)
      (.listed (eventFileName (closeHighest s.names + 1) jobCloseKind) attempt [])

/-- How publishing a file ends. -/
inductive Outcome where
  | ok
  /-- an error, with nothing written -/
  | failed
  /-- the file is there, but the writer reports an error: the ledger's transaction failed -/
  | unreported
  deriving DecidableEq

/-- The file is published under the chosen name. -/
def write (id : ℕ) (writer : Writer C) (name : String) (attempt : ℕ) :
    Outcome → Shelf C
  | .failed => s.finish id
  | .ok =>
    if writer.replaces ∨ name ∉ s.names then
      ((s.finish id).publish name writer.record).report name writer.record
    else
      match writer with
      -- a collision: `job close` lists again, the ledger gives up
      | .close _ =>
        if attempt + 1 < jobClosePublishAttempts then s.setStage id writer (.ready (attempt + 1))
        else s.finish id
      | _ => s.finish id
  | .unreported =>
    match writer with
    | .ledger _ _ =>
      if name ∉ s.names then (s.finish id).publish name writer.record else s.finish id
    | _ => s.finish id

inductive Act (C : Type) where
  /-- a writer is started -/
  | start (id : ℕ) (writer : Writer C)
  /-- the ledger or `job close` takes the lock -/
  | lock (id : ℕ)
  | list (id : ℕ)
  | write (id : ℕ) (outcome : Outcome)

/-- The writer may list: one that links has to hold the lock. -/
def mayList (id : ℕ) (writer : Writer C) : Bool :=
  writer.replaces || s.lock = some id

def step [DecidableEq C] (verdict : C → C → Verdict) (s : Shelf C) : Act C → Option (Shelf C)
  | .start id writer =>
    match s.task id with
    | none => some (s.setStage id writer (.ready 0))
    | some _ => none
  | .lock id =>
    match s.task id, s.lock with
    | some task, none =>
      if task.writer.replaces then none else some { s with lock := some id }
    | _, _ => none
  | .list id =>
    match s.task id with
    | some ⟨writer, .ready attempt⟩ =>
      if s.mayList id writer then some (s.list verdict id attempt writer) else none
    | _ => none
  | .write id outcome =>
    match s.task id with
    | some ⟨writer, .listed name attempt _⟩ => some (s.write id writer name attempt outcome)
    | _ => none

end Shelf

/-! ## What stays -/

/-- Between the listing and the publishing of a writer that renames no other file appears under its
name, and there is a number left. -/
def spaced (s : Shelf C) : Shelf.Act C → Bool
  | .list id =>
    match s.task id with
    | some ⟨writer, _⟩ => !writer.replaces || highestSequence s.names + 1 < 2 ^ 64
    | none => true
  | .write id _ =>
    match s.task id with
    | some ⟨writer, .listed name _ since⟩ => !writer.replaces || name ∉ since
    | _ => true
  | _ => true

def anyStep (_ : Shelf C) (_ : Shelf.Act C) : Bool := true

/-- **Files stay**: what was reported is there, and a writer that renames has missed every file that
now has its name. -/
structure Shelf.Kept (s : Shelf C) : Prop where
  reported : ∀ r ∈ s.reported, Assoc.get s.files r.1 = some r.2
  missed : ∀ id writer name attempt since,
    s.task id = some ⟨writer, .listed name attempt since⟩ → writer.replaces = true →
    name ∈ s.names → name ∈ since

theorem Shelf.mem_names_of_get {s : Shelf C} {r : C}
    (h : Assoc.get s.files name = some r) : name ∈ s.names :=
  mem_map.mpr ⟨_, mem_of_get h, rfl⟩

namespace Shelf.Kept

variable {s s' : Shelf C} {id : ℕ} {verdict : C → C → Verdict} {writer : Writer C}

/-- A step that leaves the files and the reports alone, and gives no writer a name. -/
theorem of_same (hs : s.Kept) (hfs : s'.files = s.files) (hre : s'.reported = s.reported)
    (htas : ∀ id writer name attempt since,
      s'.task id = some ⟨writer, .listed name attempt since⟩ →
      s.task id = some ⟨writer, .listed name attempt since⟩) : s'.Kept where
  reported := by
    rw [hfs, hre]
    exact hs.reported
  missed := by
    intro id writer name attempt since ht hrep hn
    rw [Shelf.names, hfs] at hn
    exact hs.missed id writer name attempt since (htas _ _ _ _ _ ht) hrep hn

theorem finish (hs : s.Kept) (id : ℕ) : (s.finish id).Kept := by
  refine hs.of_same rfl rfl fun id' writer name attempt since ht => ?_
  rw [Shelf.task, Shelf.finish, get_del] at ht
  split at ht
  · cases ht
  · exact ht

theorem ready (hs : s.Kept) (id : ℕ) (writer : Writer C) (attempt : ℕ) :
    (s.setStage id writer (.ready attempt)).Kept := by
  refine hs.of_same rfl rfl fun id' writer' name attempt' since ht => ?_
  rw [Shelf.task, Shelf.setStage, get_put] at ht
  split at ht
  · cases ht
  · exact ht

/-- A writer takes a name that no file has, or links its file. -/
theorem listed (hs : s.Kept) (id : ℕ) (attempt : ℕ) (hn : writer.replaces = true → name ∉ s.names) :
    (s.setStage id writer (.listed name attempt [])).Kept where
  reported := hs.reported
  missed := by
    intro id' writer' name' attempt' since ht hrep hmem
    rw [Shelf.task, Shelf.setStage, get_put] at ht
    split at ht
    · cases ht
      exact absurd hmem (hn hrep)
    · exact hs.missed id' writer' name' attempt' since ht hrep hmem

/-- A file appears under a name that no file had. -/
theorem publish (hs : s.Kept) (record : C) (hna : name ∉ s.names) :
    (s.publish name record).Kept where
  reported := by
    intro r hr
    have hget := hs.reported r hr
    have hne : name ≠ r.1 := fun h => hna (h ▸ Shelf.mem_names_of_get hget)
    rw [Shelf.publish, get_put, if_neg hne, hget]
  missed := by
    intro id' writer' name' attempt' since ht hrep hmem
    rw [Shelf.task, Shelf.publish, get_mapValues] at ht
    obtain ⟨⟨writer, stage⟩, ht', hn⟩ := Option.map_eq_some_iff.mp ht
    cases stage with
    | ready attempt => cases hn
    | listed n attempt since' =>
      cases hn
      rw [Shelf.names, Shelf.publish, Assoc.put, map_cons, mem_cons] at hmem
      rcases hmem with rfl | hmem
      · exact mem_cons_self
      · have hold : name' ∈ s.names := by
          obtain ⟨f, hf, rfl⟩ := mem_map.mp hmem
          exact mem_map_of_mem (mem_of_mem_filter hf)
        exact mem_cons_of_mem _ (hs.missed _ _ _ _ _ ht' hrep hold)

/-- A file that is there is reported. -/
theorem report (hs : s.Kept) {record : C}
    (hget : Assoc.get s.files name = some record) : (s.report name record).Kept where
  reported := by
    intro r hr
    rcases mem_cons.mp hr with rfl | hr
    · exact hget
    · exact hs.reported r hr
  missed := hs.missed

theorem list [DecidableEq C] (hs : s.Kept) {attempt : ℕ}
    (hro : writer.replaces = true → highestSequence s.names + 1 < 2 ^ 64) :
    (s.list verdict id attempt writer).Kept := by
  -- the number has not run out, so the name is not in use
  have hfree : ∀ kind, writer.replaces = true →
      eventFileName ((highestSequence s.names + 1) % 2 ^ 64) kind ∉ s.names := by
    intro kind hrep
    rw [Nat.mod_eq_of_lt (hro hrep)]
    exact eventFileName_not_mem (hro hrep) kind
  cases writer with
  | emit kind record =>
    unfold Shelf.list
    dsimp only
    split
    · next name existing ht =>
      split
      · refine (hs.finish id).report ?_
        have hmem := mem_of_find?_eq_some ht
        rw [(perm_insertionSort _ _).mem_iff] at hmem
        exact get_of_mem_entries hmem
      · exact hs.finish id
    · exact hs.listed id attempt (hfree kind)
  | marker record => exact hs.listed id attempt (hfree "job.revoked")
  | ledger | close => exact hs.listed id attempt fun hrep => nomatch hrep

theorem write (hs : s.Kept) {attempt : ℕ} {outcome : Shelf.Outcome}
    (hn : writer.replaces = true → name ∉ s.names) :
    (s.write id writer name attempt outcome).Kept := by
  cases outcome with
  | failed => exact hs.finish id
  | ok =>
    unfold Shelf.write
    dsimp only
    split
    · next hfree =>
      have hfree : name ∉ s.names := hfree.elim hn fun h => h
      refine ((hs.finish id).publish writer.record hfree).report ?_
      rw [Shelf.publish, get_put, if_pos rfl]
    · split
      · split
        · exact hs.ready id _ _
        · exact hs.finish id
      · exact hs.finish id
  | unreported =>
    unfold Shelf.write
    dsimp only
    split
    · split
      · next hfree => exact (hs.finish id).publish _ hfree
      · exact hs.finish id
    · exact hs.finish id

theorem step [DecidableEq C] (hs : s.Kept) {a : Shelf.Act C} (hspa : spaced s a = true)
    (h : s.step verdict a = some s') : s'.Kept := by
  cases a with
  | start id writer =>
    unfold Shelf.step at h
    dsimp only at h
    split at h
    · cases h
      exact hs.ready id writer 0
    · cases h
  | lock id =>
    unfold Shelf.step at h
    dsimp only at h
    split at h
    · split at h
      · cases h
      · cases h
        exact hs.of_same rfl rfl fun _ _ _ _ _ ht => ht
    · cases h
  | list id =>
    unfold Shelf.step at h
    dsimp only at h
    split at h
    · next writer attempt ht =>
      split at h
      · cases h
        refine hs.list fun hrep => ?_
        simpa [spaced, ht, hrep] using hspa
      · cases h
    · cases h
  | write id outcome =>
    unfold Shelf.step at h
    dsimp only at h
    split at h
    · next writer name attempt since ht =>
      cases h
      refine hs.write fun hrep hmem => ?_
      have hmis := hs.missed _ _ _ _ _ ht hrep hmem
      have hc : name ∉ since := by simpa [spaced, ht, hrep] using hspa
      exact hc hmis
    · cases h

end Shelf.Kept

/-- **A file whose writer reported success stays as it is**, in every run in which no file of the
same number and kind appears between the listing and the publishing of a writer that renames, and
its listing leaves a number. -/
theorem reported_files_kept [DecidableEq C] {verdict : C → C → Verdict}
    {files : List (String × C)} {s : Shelf C}
    (hrun : Reach (Shelf.step verdict) spaced ⟨files, [], none, []⟩ s) :
    ∀ r ∈ s.reported, Assoc.get s.files r.1 = some r.2 := by
  have hi : Shelf.Kept (⟨files, [], none, []⟩ : Shelf C) :=
    ⟨fun r hr => absurd hr not_mem_nil, fun _ _ _ _ _ h => nomatch h⟩
  exact (hrun.keeps hi fun _ _ _ hs hok h => hs.step hok h).reported

/-! ## Two escalations at once -/

/-- Two workers escalate, each with its own question. -/
def twoEscalations : List (Shelf.Act String) :=
  [.start 1 (.emit "job.escalate" "first question"),
    .start 2 (.emit "job.escalate" "second question")]

def emptyShelf : Shelf String := ⟨[], [], none, []⟩

/-- Different records are different events. -/
def byContents (existing record : String) : Verdict := if existing = record then .same else .other

/-- **A report is lost**: both list the empty directory, both take the first number, and the second
renames its file over the first. -/
theorem concurrent_emit_lost : ∃ s, Reach (Shelf.step byContents) anyStep emptyShelf s ∧
    s.reported = [("00001-job.escalate.json", "second question"),
      ("00001-job.escalate.json", "first question")] ∧
    s.files = [("00001-job.escalate.json", "second question")] := by
  exact Reach.exists_of_replay
    (twoEscalations ++ [.list 1, .list 2, .write 1 .ok, .write 2 .ok]) (by decide +kernel)

theorem reported_files_kept_in_turn : ∃ s, Reach (Shelf.step byContents) spaced emptyShelf s ∧
    s.reported.length = 2 ∧ ∀ r ∈ s.reported, Assoc.get s.files r.1 = some r.2 := by
  exact Reach.exists_of_replay_and
    (twoEscalations ++ [.list 1, .write 1 .ok, .list 2, .write 2 .ok]) (by decide +kernel)
    fun _ hrun _ => reported_files_kept hrun

end Panewire.Events

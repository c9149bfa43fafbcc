import Panewire.Arbiter.Ledger
import Panewire.Data.Tx

/-!
# The operations of the ledger

Each operation of the store is one write transaction, `BEGIN IMMEDIATE … COMMIT`. Its body is a
`Data.Tx` over the database and the events directories; `Ledger.write` runs a body, and rolls the
**database** back when it fails or cannot be committed. Files that the body has published stay.

A **call** is what the environment decides about one run of an operation: its clock readings, the
random half of a token, and whether and where the storage fails. Until an artifact is published,
nothing outside the transaction has changed, so a storage failure is placed by the number of
artifacts published before it.
-/

namespace Panewire.Arbiter

open Data

/-! ## Errors -/

/-- Every failure that ends an operation, with the values its message names. -/
inductive Error where
  | invalidJobID (job : String)
  | claimKindRefused (kind : String)
  | unknownRole (role : String)
  | builderNeedsParent
  | parentForBuilderOnly
  | laneAndLevelNeeded
  | jobDuplicate (row : JobRow)
  | noRows
  | notClaimed
  | claimHoldsResources
  | notExclusive (kind : LeaseKind)
  | resourceAndTTLNeeded
  | jobNotRegistered (job : String)
  | timeUnreadable (stamp : Stamp)
  | leaseHeld (held : LeaseRow)
  | tokenNeeded
  | noLease (resource : String) (kind : LeaseKind)
  | staleOwner (row : LeaseRow)
  | profileAndPoolNeeded
  | quotaDuplicate (job pool profile : String)
  | noQuotaRecord (job pool : String)
  | eventDuplicate (job : String) (seq : ℤ)
  | artifactExists (job name : String)
  | storageFailed
  | agentStatusUnknown (status : String)
  | agentSourceFailed
  | claimUnreadable (job kind : String)
  | labelInvalid (job : String)
  | labelAmbiguous (job : String) (labels : List String)
  | identityRefused (unmapped unknown : List String)
  | snapshotChanged (job : String)
  | jobNotFound (job : String)
  | unmapped (job : String)
  | orphanRefused (job : String) (blockers : List String) (unknown : Bool)
  | notEligible (job : String)
  deriving DecidableEq

/-! ## Calls and transactions -/

/-- A failure of the database or the file system during a call. -/
structure Fault where
  /-- how many artifacts the call publishes before it; a call with no more to publish fails at its
  commit -/
  published : ℕ
  /-- the artifact being published is left incomplete: no hard link could be made, and writing the
  file under its final name failed after creating it -/
  torn : Bool
  deriving DecidableEq

/-- What the environment decides about one run of an operation. -/
structure Call where
  calendar : Calendar
  /-- the successive readings of the clock -/
  clock : ℕ → ℤ
  /-- the random half of the token this call mints, if it does -/
  secret : String
  fault : Option Fault

/-- The state of a running transaction. -/
structure Open where
  db : Db
  files : List File
  /-- clock readings so far -/
  readings : ℕ
  /-- artifacts published so far -/
  published : ℕ

/-- A transaction body. -/
abbrev Tx (α : Type) := Data.Tx Call Open Error α

/-- `begin` -/
def Ledger.begin (w : Ledger) : Open := ⟨w.db, w.files, 0, 0⟩

/-- `conn.write`: commit what the body did, or roll the database back. -/
def Ledger.write {α : Type} (w : Ledger) (body : Tx α) (c : Call) : Except Error α × Ledger :=
  match body.run c w.begin with
  | (.ok a, o) =>
    if c.fault = none then (.ok a, ⟨o.db, o.files⟩) else (.error .storageFailed, ⟨w.db, o.files⟩)
  | (.error e, o) => (.error e, ⟨w.db, o.files⟩)

/-- `s.now()` -/
def now : Tx ℤ := ⟨fun c o =>
  (.ok (truncate (c.clock o.readings)), { o with readings := o.readings + 1 })⟩

/-- Run a statement on the tables. -/
def exec (f : Calendar → Core → Core) : Tx Unit :=
  Data.Tx.modify fun c o => { o with db := { o.db with core := f c.calendar o.db.core } }

/-- Run a query on the database. -/
def query {α : Type} (f : Calendar → Db → α) : Tx α := Data.Tx.read fun c o => f c.calendar o.db

/-! ## Recording an event -/

/-- `validJobID` -/
def validJobID (job : String) : Bool :=
  !(job == "" || Go.containsAny job "/\x00" || Go.hasPrefix job ".")

/-- the characters an event kind keeps in a file name -/
def safeKindChar (c : Char) : Bool := c.isAlphanum || c = '.' || c = '_' || c = '-'

/-- `safeKind` -/
def safeKind (kind : String) : String :=
  String.ofList (kind.toList.map fun c => if safeKindChar c then c else '_')

/-- `pad5` -/
def pad5 (n : ℤ) : String :=
  let s := toString n
  if s.length < 5 then String.ofList (List.replicate (5 - s.length) '0') ++ s else s

def artifactName (seq : ℤ) (kind : String) : String := pad5 seq ++ "-" ++ safeKind kind ++ ".json"

/-- `highestPrefix` -/
def highestPrefix (files : List File) (job : String) : ℤ :=
  files.foldl (fun highest f =>
    if f.job = job then
      match Go.parseInt (Go.cut f.name '-') with
      | some n => if n > highest then n else highest
      | none => highest
    else highest) 0

/-- `SELECT COALESCE(MAX(seq), 0) FROM events WHERE job_id = ?` -/
def Db.maxSeq (db : Db) (job : String) : ℤ :=
  ((db.events.rows.filter fun e => e.job = job).map (·.seq)).max?.getD 0

/-- A Go `int`: 64 bits, two's complement. -/
def wrap (n : ℤ) : ℤ := n.bmod (2 ^ 64)

/-- The number an event gets when it is given none. -/
def nextSeq (db : Db) (files : List File) (job : String) : ℤ :=
  wrap (max (db.maxSeq job) (highestPrefix files job) + 1)

/-- The transaction with the event in the database. -/
def Open.insert (o : Open) (row : EventRow) : Open :=
  { o with db := { o.db with events := (o.db.events.insertNew row).1 } }

/-- `INSERT INTO events …` -/
def insertEvent (row : EventRow) : Tx Unit := do
  let taken ← query fun _ db => (db.events.find row.key).isSome
  Data.Tx.refuseIf taken (.eventDuplicate row.job row.seq)
  Data.Tx.modify fun _ o => o.insert row

/-- A file has the name of the event's artifact. -/
def Open.nameTaken (o : Open) (row : EventRow) : Bool :=
  o.files.any fun f => f.job = row.job && f.name = artifactName row.seq row.kind

/-- The transaction with one more file. -/
def Open.publish (o : Open) (row : EventRow) (content : Content) : Open :=
  { o with files := o.files ++ [⟨row.job, artifactName row.seq row.kind, content⟩] }

/-- `writeArtifact` -/
def writeArtifact (row : EventRow) : Tx Unit := do
  let taken ← Data.Tx.read fun _ o => o.nameTaken row
  Data.Tx.refuseIf taken (.artifactExists row.job (artifactName row.seq row.kind))
  let torn ← Data.Tx.read fun c o => decide (c.fault = some ⟨o.published, true⟩)
  if torn then
    Data.Tx.modify fun _ o => o.publish row .torn
    Data.Tx.fail .storageFailed
  else
    Data.Tx.modify fun _ o =>
      { o.publish row (.event row) with published := o.published + 1 }

/-- The row that an event gets: its number is given, or follows all numbers in use. -/
def eventRow (c : Call) (o : Open) (job kind : String) (payload : Calendar → Object)
    (seq : Option ℤ) : EventRow :=
  ⟨job, seq.getD (nextSeq o.db o.files job), kind, .payload (payload c.calendar),
    iso (truncate (c.clock o.readings))⟩

/-- `recordEvent` -/
def recordEvent (job kind : String) (payload : Calendar → Object) (seq : Option ℤ) : Tx ℤ := do
  let broken ← Data.Tx.read fun c o => decide (c.fault = some ⟨o.published, false⟩)
  Data.Tx.refuseIf broken .storageFailed
  let row ← Data.Tx.read fun c o => eventRow c o job kind payload seq
  let _ ← now
  insertEvent row
  writeArtifact row
  pure row.seq

/-! ## Equations -/

section Equations

variable {c : Call} {o o' : Open} {α β : Type} {payload : Calendar → Object} {seq : Option ℤ}
  {kind job : String}

@[simp] theorem now_bind (k : ℤ → Tx α) : (now >>= k).run c o =
    (k (truncate (c.clock o.readings))).run c { o with readings := o.readings + 1 } := rfl

@[simp] theorem exec_bind (f : Calendar → Core → Core) (k : Unit → Tx α) : (exec f >>= k).run c o =
    (k ()).run c { o with db := { o.db with core := f c.calendar o.db.core } } := rfl

@[simp] theorem query_bind (f : Calendar → Db → α) (k : α → Tx β) :
    (query f >>= k).run c o = (k (f c.calendar o.db)).run c o := rfl

theorem insertEvent_apply (row : EventRow) : (insertEvent row).run c o =
    if o.db.events.find row.key = none then (.ok (), o.insert row)
    else (.error (.eventDuplicate row.job row.seq), o) := by
  simp only [insertEvent, query_bind, Tx.refuseIf_bind, Tx.run_modify]
  cases o.db.events.find row.key with
  | none | some => rfl

theorem writeArtifact_apply (row : EventRow) : (writeArtifact row).run c o =
    if o.nameTaken row then (.error (.artifactExists row.job (artifactName row.seq row.kind)), o)
    else if c.fault = some ⟨o.published, true⟩ then (.error .storageFailed, o.publish row .torn)
    else (.ok (), { o.publish row (.event row) with published := o.published + 1 }) := by
  simp only [writeArtifact, Tx.read_bind, Tx.refuseIf_bind, decide_eq_true_eq]
  by_cases hn : o.nameTaken row = true
  · rw [if_pos hn, if_pos hn]
  · by_cases ht : c.fault = some ⟨o.published, true⟩
    · rw [if_pos ht, if_pos ht]
      rfl
    · rw [if_neg ht, if_neg ht]
      rfl

/-- The event can be recorded: its number and its file name are free. -/
def Open.Free (o : Open) (row : EventRow) : Prop :=
  o.db.events.find row.key = none ∧ o.nameTaken row = false

/-- The transaction after an event. -/
def Open.record (o : Open) (row : EventRow) : Open :=
  { (o.insert row).publish row (.event row) with
    readings := o.readings + 1, published := o.published + 1 }

/-- **Recording an event**, case by case: the storage fails first, the number or the file name is
taken, the artifact is torn, or the event is recorded. -/
theorem recordEvent_cases (c : Call) (o : Open) (job kind : String)
    (payload : Calendar → Object) (seq : Option ℤ) :
    let row := eventRow c o job kind payload seq
    let o₁ := { o with readings := o.readings + 1 }
    (c.fault = some ⟨o.published, false⟩ ∧
      (recordEvent job kind payload seq).run c o = (.error .storageFailed, o)) ∨
    (c.fault ≠ some ⟨o.published, false⟩ ∧ ¬ o.Free row ∧
      ∃ e o', (recordEvent job kind payload seq).run c o = (.error e, o') ∧
        o'.files = o.files ∧ o'.published = o.published) ∨
    (c.fault = some ⟨o.published, true⟩ ∧ o.Free row ∧
      (recordEvent job kind payload seq).run c o =
        (.error .storageFailed, (o₁.insert row).publish row .torn)) ∨
    (c.fault ≠ some ⟨o.published, false⟩ ∧ c.fault ≠ some ⟨o.published, true⟩ ∧ o.Free row ∧
      (recordEvent job kind payload seq).run c o = (.ok row.seq, o.record row)) := by
  intro row o₁
  have hrun : (recordEvent job kind payload seq).run c o =
      if c.fault = some ⟨o.published, false⟩ then (.error .storageFailed, o)
      else (do insertEvent row; writeArtifact row; pure row.seq : Tx ℤ).run c o₁ := by
    simp only [recordEvent, Tx.read_bind, Tx.refuseIf_bind, now_bind, decide_eq_true_eq]
    rfl
  by_cases hbr : c.fault = some ⟨o.published, false⟩
  · exact .inl ⟨hbr, by rw [hrun, if_pos hbr]⟩
  rw [if_neg hbr] at hrun
  by_cases hrow : o.db.events.find row.key = none
  swap
  · have hi : (insertEvent row).run c o₁ = (.error (.eventDuplicate row.job row.seq), o₁) := by
      rw [insertEvent_apply, if_neg hrow]
    exact .inr (.inl ⟨hbr, fun hfree => hrow hfree.1, _, _,
      hrun.trans (Tx.run_bind_of_error hi), rfl, rfl⟩)
  have hi : (insertEvent row).run c o₁ = (.ok (), o₁.insert row) := by
    rw [insertEvent_apply, if_pos hrow]
  rw [Tx.run_bind_of_ok hi] at hrun
  have hsame : (o₁.insert row).nameTaken row = o.nameTaken row := rfl
  have hp : (o₁.insert row).published = o.published := rfl
  have hw := writeArtifact_apply (c := c) (o := o₁.insert row) row
  rw [hsame, hp] at hw
  by_cases hn : o.nameTaken row = true
  · rw [if_pos hn] at hw
    exact .inr (.inl ⟨hbr, fun hfree => by simp [hfree.2] at hn, _, _,
      hrun.trans (Tx.run_bind_of_error hw), rfl, rfl⟩)
  rw [if_neg hn] at hw
  have hfree : o.Free row := ⟨hrow, by simpa using hn⟩
  by_cases ht : c.fault = some ⟨o.published, true⟩
  · rw [if_pos ht] at hw
    exact .inr (.inr (.inl ⟨ht, hfree, hrun.trans (Tx.run_bind_of_error hw)⟩))
  · rw [if_neg ht] at hw
    exact .inr (.inr (.inr ⟨hbr, ht, hfree, hrun.trans (Tx.run_bind_of_ok hw)⟩))

/-- **Recording an event that goes well** adds its row and its artifact, and changes nothing
else. -/
theorem recordEvent_ok {n : ℤ} (h : (recordEvent job kind payload seq).run c o = (.ok n, o')) :
    n = (eventRow c o job kind payload seq).seq ∧
      o.Free (eventRow c o job kind payload seq) ∧
      o' = o.record (eventRow c o job kind payload seq) := by
  rcases recordEvent_cases c o job kind payload seq with
    ⟨-, hrun⟩ | ⟨-, -, e, o₁, hrun, -⟩ | ⟨-, -, hrun⟩ | ⟨-, -, hfree, hrun⟩
  · rw [hrun] at h; cases h
  · rw [hrun] at h; cases h
  · rw [hrun] at h; cases h
  · rw [hrun] at h
    cases h
    exact ⟨rfl, hfree, rfl⟩

/-- What follows an event runs with the event recorded. -/
theorem of_recordEvent {f : ℤ → Tx α} {r : α}
    (h : (recordEvent job kind payload seq >>= f).run c o = (.ok r, o')) :
    (f (eventRow c o job kind payload seq).seq).run c
      (o.record (eventRow c o job kind payload seq)) = (.ok r, o') := by
  obtain ⟨n, u, hrec, h⟩ := Tx.bind_ok.mp h
  obtain ⟨rfl, -, rfl⟩ := recordEvent_ok hrec
  exact h

/-- An event of this job and kind can be recorded: its number and its file name are free. -/
def Ledger.Admits (w : Ledger) (job kind : String) (seq : Option ℤ) : Prop :=
  w.db.events.find (job, seq.getD (nextSeq w.db w.files job)) = none ∧
  ∀ f ∈ w.files, f.job = job →
    f.name ≠ artifactName (seq.getD (nextSeq w.db w.files job)) kind

/-- Which events are admitted does not depend on the other tables. -/
@[simp] theorem Ledger.admits_core (w : Ledger) (core : Core) (job kind : String) (seq : Option ℤ) :
    Ledger.Admits ⟨⟨core, w.db.events⟩, w.files⟩ job kind seq ↔ w.Admits job kind seq := Iff.rfl

theorem Open.free_iff (o : Open) (c : Call) (job kind : String) (payload : Calendar → Object)
    (seq : Option ℤ) :
    o.Free (eventRow c o job kind payload seq) ↔ Ledger.Admits ⟨o.db, o.files⟩ job kind seq := by
  refine and_congr Iff.rfl ?_
  rw [nameTaken, List.any_eq_false]
  refine forall₂_congr fun f _ => ?_
  rw [Bool.and_eq_true, decide_eq_true_eq, decide_eq_true_eq, not_and]
  rfl

/-- An event that is admitted is recorded, if the storage does not fail. -/
theorem recordEvent_of_admits (hflt : c.fault = none)
    (h : Ledger.Admits ⟨o.db, o.files⟩ job kind seq) :
    (recordEvent job kind payload seq).run c o =
      (.ok (eventRow c o job kind payload seq).seq,
        o.record (eventRow c o job kind payload seq)) := by
  rw [← o.free_iff c job kind payload seq] at h
  rcases recordEvent_cases c o job kind payload seq with
    ⟨hbr, -⟩ | ⟨-, hfree, -⟩ | ⟨ht, -⟩ | ⟨-, -, -, hrun⟩
  · rw [hflt] at hbr; cases hbr
  · exact absurd h hfree
  · rw [hflt] at ht; cases ht
  · exact hrun

end Equations

end Panewire.Arbiter

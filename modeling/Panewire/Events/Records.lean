import Panewire.Events.Document
import Panewire.Hub.Event
import Panewire.Arbiter.Store

/-!
# What the writers write

Four writers add files to a job's events. They share the directory and the numbering of its files,
but each has its own idea of the fields:

* the **ledger** writes an envelope: `kind`, `payload`, a sequence number and a time;
* `panewire emit` writes a flat record whose kind stands under `type` and again under `kind`;
* the node marks a **revocation** of the hub with a `type`, the job and the epoch;
* `panewire job close` writes a flat record with a `kind` and an `outcome`.
-/

namespace Panewire.Events

open Go Data Hub

/-! ## Records -/

/-- The flat record of `panewire emit`. -/
structure EmitRecord where
  deliveryClass : String := ""
  late : Bool := false
  notifyType : String := ""
  cause : String := ""
  type : RelayKind
  jobID : String := ""
  epoch : Uint64 := .zero
  createdAt : String := ""
  agentLabel : String := ""
  ownerLane : String := ""
  label : String := ""
  host : String := ""
  reportPath : String := ""
  reportLastLine : String := ""
  reason : String := ""
  question : String := ""
  pr : String := ""
  head : String := ""
  paneID : String := ""
  eventID : String := ""
  text : String := ""
  truncated : Bool := false
  deriving DecidableEq

/-- The fields in the order of the struct; both writers of the record set `kind` to its type. -/
def EmitRecord.fields (r : EmitRecord) : List (String × Option Json) :=
  [("delivery_class", Json.ofString r.deliveryClass), ("late", Json.ofBool r.late),
    ("notify_type", Json.ofString r.notifyType), ("cause", Json.ofString r.cause),
    ("type", some (.str r.type.wire)), ("kind", Json.ofString r.type.wire),
    ("job_id", some (.str r.jobID)), ("epoch", some (.num r.epoch.val)),
    ("created_at", some (.str r.createdAt)), ("agent_label", Json.ofString r.agentLabel),
    ("owner_lane", Json.ofString r.ownerLane), ("label", Json.ofString r.label),
    ("host", Json.ofString r.host), ("report_path", Json.ofString r.reportPath),
    ("report_last_line", Json.ofString r.reportLastLine), ("reason", Json.ofString r.reason),
    ("question", Json.ofString r.question), ("pr", Json.ofString r.pr),
    ("head", Json.ofString r.head), ("pane_id", Json.ofString r.paneID),
    ("event_id", Json.ofString r.eventID), ("text", Json.ofString r.text),
    ("truncated", Json.ofBool r.truncated)]

def EmitRecord.object (r : EmitRecord) : Object :=
  Object.ofOptional r.fields (by simp [EmitRecord.fields])

/-- The record of `panewire job close`. -/
structure JobCloseRecord where
  jobID : String
  ownerLane : String
  closedBy : String
  outcome : String
  reason : String
  override : String
  source : String
  host : String
  createdAt : String
  deriving DecidableEq

def JobCloseRecord.object (r : JobCloseRecord) : Object :=
  Object.ofOptional
    [("kind", some (.str "job.revoked")), ("job_id", some (.str r.jobID)),
      ("owner_lane", some (.str r.ownerLane)), ("closed_by", some (.str r.closedBy)),
      ("outcome", some (.str r.outcome)), ("reason", some (.str r.reason)),
      ("override", Json.ofString r.override), ("source", some (.str r.source)),
      ("host", some (.str r.host)), ("created_at", some (.str r.createdAt)),
      ("epoch", some (.num 1))] (by simp)

/-- The marker of a revocation of the hub. -/
def revocationObject (jobID : String) (epoch : ℕ) : Object :=
  Object.ofOptional
    [("type", some (.str "job.revoked")), ("job_id", some (.str jobID)),
      ("epoch", some (.num epoch))] (by simp)

/-- The envelope of the ledger, without its payload. -/
def envelopeObject (jobID : String) (seq : ℤ) (kind createdAt : String) : Object :=
  Object.ofOptional
    [("created_at", some (.str createdAt)), ("job_id", some (.str jobID)),
      ("kind", some (.str kind)), ("seq", some (.num seq))] (by simp)

/-- Something that a writer puts into the directory. -/
inductive Record where
  | ledger (jobID : String) (seq : ℤ) (kind : String) (payload : Object) (createdAt : String)
  | emit (record : EmitRecord)
  | marker (jobID : String) (epoch : ℕ)
  | close (record : JobCloseRecord)
  deriving DecidableEq

namespace Record

/-- The kind that the writer gives it. -/
def kind : Record → String
  | .ledger _ _ kind _ _ => kind
  | .emit record => record.type.wire
  | .marker _ _ => "job.revoked"
  | .close _ => "job.revoked"

def document : Record → Document
  | .ledger jobID seq kind payload createdAt =>
    ⟨envelopeObject jobID seq kind createdAt, .object payload⟩
  | .emit record => ⟨record.object, .absent⟩
  | .marker jobID epoch => ⟨revocationObject jobID epoch, .absent⟩
  | .close record => ⟨record.object, .absent⟩

/-- The name of its file, under the number that the writer chose. -/
def fileName (number : ℕ) : Record → String
  | .ledger _ seq kind _ _ => Arbiter.artifactName seq kind
  | .emit record => eventFileName number record.type.wire
  | .marker _ _ => eventFileName number "job.revoked"
  | .close _ => eventFileName number "job.revoked"

/-- It is renamed into place; the others are linked, which never replaces a file. -/
def replaces : Record → Bool
  | .emit _ => true
  | .marker _ _ => true
  | _ => false

def isMarker : Record → Bool
  | .marker _ _ => true
  | _ => false

theorem hasSuffix_fileName (r : Record) (number : ℕ) :
    hasSuffix (r.fileName number) ".json" = true := by
  have ha : ∀ s : String, hasSuffix (s ++ ".json") ".json" = true := by
    intro s
    rw [hasSuffix, List.isSuffixOf_iff_suffix, String.toList_append]
    exact List.suffix_append _ _
  cases r with
  | ledger | emit | marker | close => exact ha _

end Record

/-! ## Directories -/

/-- A file, with the record in it. -/
structure Stored where
  name : String
  record : Record
  mtime : ℤ
  deriving DecidableEq

/-- **The directories that the writers make**, one write after the other. A writer that finds its
record there already, or its name taken, writes nothing. -/
inductive Written : List Stored → Prop where
  | empty : Written []
  | rename {dir : List Stored} (r : Record) (number : ℕ) (mtime : ℤ) (hdir : Written dir)
      (hr : r.replaces = true) :
      Written (⟨r.fileName number, r, mtime⟩ :: dir.filter fun f => f.name ≠ r.fileName number)
  | link {dir : List Stored} (r : Record) (number : ℕ) (mtime : ℤ) (hdir : Written dir)
      (hr : r.replaces = false) (hfree : ∀ f ∈ dir, f.name ≠ r.fileName number) :
      Written (⟨r.fileName number, r, mtime⟩ :: dir)

/-- Every file is named as its writer names it. -/
theorem Written.name_eq {dir : List Stored} (h : Written dir) :
    ∀ f ∈ dir, ∃ number, f.name = f.record.fileName number := by
  induction h with
  | empty => exact fun f hf => absurd hf List.not_mem_nil
  | rename r number mtime _ _ ih =>
    intro f hf
    rcases List.mem_cons.mp hf with rfl | hf
    · exact ⟨number, rfl⟩
    · exact ih f (List.mem_of_mem_filter hf)
  | link r number mtime _ _ _ ih =>
    intro f hf
    rcases List.mem_cons.mp hf with rfl | hf
    · exact ⟨number, rfl⟩
    · exact ih f hf

end Panewire.Events

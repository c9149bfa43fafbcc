import Mathlib.Data.String.Basic
import Panewire.Hub.ActiveJob
import Panewire.Data.Json
import Panewire.Data.Table

/-!
# Event files

What happened to a job is a directory of small JSON files, numbered in the order they were
written. Several programs write them and several read them, each with its own idea of the fields.

* `Document` — what a JSON decoder finds in a file: flat fields and, in an envelope, a payload.
* `HubInboxEvent` — the event the node's scans read from a document, in either form.
* `EventsDir` — the directory; `EventsDir.listing` is the order in which every reader visits it.
-/

namespace Panewire.Events

open Go Data

/-! ## Documents -/

/-- The field `payload` of a document. -/
inductive Payload where
  | absent
  | null
  | object (o : Object)
  /-- a value of another type -/
  | other
  deriving DecidableEq

/-- An object in a file. -/
structure Document where
  /-- the fields other than the payload -/
  fields : Object
  payload : Payload := .absent
  deriving DecidableEq

/-- The fields of a payload; one that is left out has none. -/
def Payload.fields : Payload → Object
  | .object o => o
  | _ => ⟨[], List.nodup_nil⟩

abbrev Uint64 : Type := { n : ℕ // n < 2 ^ 64 }

def Uint64.zero : Uint64 := ⟨0, by decide⟩

def readUint64 (v : Json) : Option Uint64 :=
  v.uint64.bind fun n => if h : n < 2 ^ 64 then some ⟨n, h⟩ else none

/-- A string field of an object that was decoded: one that is left out is empty. -/
def str (o : Object) (name : String) : String := (o.optional name Json.string "").getD ""

/-- A boolean field. -/
def flag (o : Object) (name : String) : Bool := (o.optional name Json.boolean false).getD false

/-- A number field. -/
def number (o : Object) (name : String) : Uint64 :=
  (o.optional name readUint64 .zero).getD .zero

/-- No field of these names has a value of another type. -/
def typed (o : Object) (strings flags numbers : List String) : Bool :=
  strings.all (fun name => (o.optional name Json.string "").isSome) &&
    flags.all (fun name => (o.optional name Json.boolean false).isSome) &&
    numbers.all (fun name => (o.optional name readUint64 .zero).isSome)

/-! ## Events -/

/-- The payload of an envelope. -/
structure HubInboxPayload where
  late : Bool := false
  agentLabel : String := ""
  ownerLane : String := ""
  parentLane : String := ""
  label : String := ""
  host : String := ""
  report : String := ""
  reportPath : String := ""
  reportLastLine : String := ""
  reason : String := ""
  pool : String := ""
  resetAt : String := ""
  question : String := ""
  pr : String := ""
  head : String := ""
  paneID : String := ""
  role : String := ""
  tLevel : String := ""

/-- The arbiter's envelope, or the flat form of other writers. -/
structure HubInboxEvent where
  late : Bool := false
  deliveryClass : String := ""
  notifyType : String := ""
  cause : String := ""
  type : String := ""
  kind : String := ""
  event : String := ""
  createdAt : String := ""
  agentLabel : String := ""
  epoch : Uint64 := .zero
  ownerLane : String := ""
  label : String := ""
  host : String := ""
  reportPath : String := ""
  reportLastLine : String := ""
  reason : String := ""
  question : String := ""
  pr : String := ""
  head : String := ""
  paneID : String := ""
  role : String := ""
  tLevel : String := ""
  eventID : String := ""
  text : String := ""
  truncated : Bool := false
  payload : HubInboxPayload := {}

def payloadStrings : List String :=
  ["agent_label", "owner_lane", "parent_lane", "label", "host", "report", "report_path",
    "report_last_line", "reason", "pool", "reset_at", "question", "pr", "head", "pane_id", "role",
    "t_level"]

def eventStrings : List String :=
  ["delivery_class", "notify_type", "cause", "type", "kind", "event", "created_at", "agent_label",
    "owner_lane", "label", "host", "report_path", "report_last_line", "reason", "question", "pr",
    "head", "pane_id", "role", "t_level", "event_id", "text"]

def HubInboxPayload.ofObject (o : Object) : HubInboxPayload where
  late := flag o "late"
  agentLabel := str o "agent_label"
  ownerLane := str o "owner_lane"
  parentLane := str o "parent_lane"
  label := str o "label"
  host := str o "host"
  report := str o "report"
  reportPath := str o "report_path"
  reportLastLine := str o "report_last_line"
  reason := str o "reason"
  pool := str o "pool"
  resetAt := str o "reset_at"
  question := str o "question"
  pr := str o "pr"
  head := str o "head"
  paneID := str o "pane_id"
  role := str o "role"
  tLevel := str o "t_level"

def HubInboxEvent.ofDocument (d : Document) : HubInboxEvent where
  late := flag d.fields "late"
  deliveryClass := str d.fields "delivery_class"
  notifyType := str d.fields "notify_type"
  cause := str d.fields "cause"
  type := str d.fields "type"
  kind := str d.fields "kind"
  event := str d.fields "event"
  createdAt := str d.fields "created_at"
  agentLabel := str d.fields "agent_label"
  epoch := number d.fields "epoch"
  ownerLane := str d.fields "owner_lane"
  label := str d.fields "label"
  host := str d.fields "host"
  reportPath := str d.fields "report_path"
  reportLastLine := str d.fields "report_last_line"
  reason := str d.fields "reason"
  question := str d.fields "question"
  pr := str d.fields "pr"
  head := str d.fields "head"
  paneID := str d.fields "pane_id"
  role := str d.fields "role"
  tLevel := str d.fields "t_level"
  eventID := str d.fields "event_id"
  text := str d.fields "text"
  truncated := flag d.fields "truncated"
  payload := HubInboxPayload.ofObject d.payload.fields

/-- `json.Unmarshal` into a `hubInboxEvent`: a field of the wrong type fails the whole file. -/
def HubInboxEvent.unmarshal (d : Document) : Option HubInboxEvent :=
  if typed d.fields eventStrings ["late", "truncated"] ["epoch"] ∧ d.payload ≠ .other ∧
      typed d.payload.fields payloadStrings ["late"] [] then
    some (.ofDocument d)
  else none

/-! ### Reading an event -/

def firstHubValue (top nested : String) : String := if top ≠ "" then top else nested

namespace HubInboxEvent

variable (e : HubInboxEvent)

def eventKind : String := if e.type ≠ "" then e.type else if e.kind ≠ "" then e.kind else e.event

def anyAgentLabel : String := firstHubValue e.agentLabel e.payload.agentLabel
def anyOwnerLane : String := firstHubValue e.ownerLane e.payload.ownerLane
def anyLabel : String := firstHubValue e.label e.payload.label
def anyHost : String := firstHubValue e.host e.payload.host
def anyReportPath : String := firstHubValue e.reportPath e.payload.reportPath
def anyReportLastLine : String := firstHubValue e.reportLastLine e.payload.reportLastLine
def anyReason : String := firstHubValue e.reason e.payload.reason
def anyQuestion : String := firstHubValue e.question e.payload.question
def anyPR : String := firstHubValue e.pr e.payload.pr
def anyHead : String := firstHubValue e.head e.payload.head
def anyPaneID : String := firstHubValue e.paneID e.payload.paneID
def anyRole : String := firstHubValue e.role e.payload.role
def anyTLevel : String := firstHubValue e.tLevel e.payload.tLevel

end HubInboxEvent

/-! ## Directories -/

/-- A file of an events directory. -/
structure EventFile where
  name : String
  /-- its length in bytes -/
  size : ℕ
  /-- the object in it, if it holds one -/
  doc : Option Document
  /-- when it was last written, in nanoseconds -/
  mtime : ℤ
  deriving DecidableEq

/-- An events directory: no two files share a name. -/
abbrev EventsDir : Type := Data.Table EventFile.name

/-- The files in the order of their names. -/
abbrev EventsDir.listing (dir : EventsDir) : List EventFile := Data.Table.sorted dir

/-- The bound on an event file that the node reads, in bytes. -/
def eventFileLimit : ℕ := 16 * 1024

def EventFile.isJson (f : EventFile) : Bool := hasSuffix f.name ".json"

/-- The event in a file, if the node reads it. -/
def EventFile.read (f : EventFile) : Option HubInboxEvent :=
  if f.size > eventFileLimit then none else f.doc.bind HubInboxEvent.unmarshal

/-- The number in front of a file's name. -/
def hubEventSequence (name : String) : Option ℕ :=
  match cutChars '-' name.toList with
  | (_, none) => none
  | (digits, some _) =>
    if digits.length = 0 ∨ digits.length > 20 then none
    else (digitsValue digits 0).filter (· < 2 ^ 64)

/-- The highest number in use. -/
def highestSequence (names : List String) : ℕ :=
  names.foldl (fun highest name => match hubEventSequence name with
    | some seq => if seq > highest then seq else highest
    | none => highest) 0

/-- `%05d` -/
def pad5 (n : ℕ) : String :=
  let s := toString n
  String.ofList (List.replicate (5 - s.length) '0') ++ s

/-- The name of the `n`th event, of this kind. -/
def eventFileName (n : ℕ) (kind : String) : String := pad5 n ++ "-" ++ kind ++ ".json"

/-- When an event happened: what the file says, or when it was written. -/
def HubInboxEvent.eventTime (times : TimeText) (e : HubInboxEvent) (f : EventFile) : ℤ :=
  (times.parse e.createdAt).getD f.mtime

end Panewire.Events

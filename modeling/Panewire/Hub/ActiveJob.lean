import Panewire.Names

/-!
# What the hub is told

A node's heartbeat lists the jobs it is working on. The hub takes the list as the node's word, after
it has blanked what it cannot use: only the id, the label and the epoch are required.

The operator's policies are files that the hub looks at again before it uses them, and reads again
when their modification time has changed. A file that cannot be used leaves the last policy in
force.
-/

namespace Panewire

open Go

/-- How instants are written and read. -/
structure TimeText where
  /-- `time.RFC3339`, in UTC -/
  format : ℤ → String
  parse : String → Option ℤ

/-- A job that a node reports as active. -/
structure HubActiveJob where
  jobID : String
  agentLabel : String := ""
  lastEventSeq : ℕ := 0
  epoch : ℕ := 1
  ownerLane : String := ""
  pane : String := ""
  tier : String := ""
  role : String := ""
  startedAt : String := ""
  lastEventKind : String := ""
  lastEventAt : String := ""
  deriving DecidableEq

def validHubActiveJob (job : HubActiveJob) : Bool :=
  hubJobIDPattern.accepts job.jobID && hubAgentLabelPattern.accepts job.agentLabel &&
    decide (job.epoch > 0)

def hubLastEventKindPattern : Pattern where
  first c := c.isLower
  rest c := c.isLower || c.isDigit || c == '_' || c == '.'
  max := 31

/-- Blank what is not valid of the optional fields. -/
def normalizeHubActiveJobMetadata (times : TimeText) (job : HubActiveJob) : HubActiveJob :=
  { job with
    ownerLane := if hubAgentLabelPattern.accepts job.ownerLane then job.ownerLane else ""
    pane := if job.pane = "" ∨ job.pane.utf8ByteSize > 128 then "" else job.pane
    tier := if job.tier ∈ ["T0", "T1", "T2", "T3"] then job.tier else ""
    role := if job.role = "worker" ∨ job.role = "captain" then job.role else ""
    startedAt :=
      if job.startedAt ≠ "" ∧ (times.parse job.startedAt).isNone then "" else job.startedAt
    lastEventKind :=
      if hubLastEventKindPattern.accepts job.lastEventKind then job.lastEventKind else ""
    lastEventAt :=
      if job.lastEventAt ≠ "" ∧ (times.parse job.lastEventAt).isNone then "" else job.lastEventAt }

/-- A policy file on disk. -/
inductive Hub.PolicyFile (P : Type) where
  /-- it is missing, not a regular file, or a link -/
  | unreadable
  /-- its modification time, and the policy in it if it is valid -/
  | file (modTime : ℤ) (policy : Option P)
  deriving DecidableEq

end Panewire

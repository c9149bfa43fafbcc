import Panewire.Data.Table
import Panewire.Data.Json
import Panewire.Text.Bounds

/-!
# The ledger: tables of the arbiter's database and files of the events directories

The ledger has two halves. The **database** holds the jobs, their quota-pool records, the live
leases, the history of leases and the recorded events. The **events directories** of the jobs hold
one artifact file for each event, beside files of other writers.

* `Core` — the tables that decide what a job may do; `Db` adds the events.
* `Stamp` — a stored time. The program writes one format only, in which the order of the texts is
  the order of the times; a ledger of an earlier program may hold any other text, and what Go's
  parser and the text order make of those is given by a `Calendar`.
-/

namespace Panewire.Arbiter

open Data

/-! ## Times

Times are numbers of nanoseconds. -/

def second : ℤ := 1000000000

def minute : ℤ := 60 * second

/-- `Truncate(time.Second)` -/
def truncate (t : ℤ) : ℤ := t - t % second

theorem truncate_le (t : ℤ) : truncate t ≤ t := by
  unfold truncate second
  omega

/-- What Go's time package and the order of texts say about stored texts. -/
structure Calendar where
  /-- the text of a time, in the one format the program writes -/
  iso : ℤ → String
  /-- what `time.Parse` makes of a text in another format -/
  parse : String → Option ℤ
  /-- whether a text in another format sorts after the text of a time -/
  sortsAfter : String → ℤ → Bool

/-- A stored time: what `iso` wrote for a whole second, or another text. -/
inductive Stamp where
  | iso (t : ℤ)
  | other (text : String)
  deriving DecidableEq

/-- `iso`: whole seconds are all that is stored. -/
def iso (t : ℤ) : Stamp := .iso (truncate t)

def Stamp.text (cal : Calendar) : Stamp → String
  | .iso t => cal.iso t
  | .other text => text

/-- `parseISO`, which fails on a text in none of its layouts. -/
def parseISO (cal : Calendar) : Stamp → Option ℤ
  | .iso t => some t
  | .other text => cal.parse text

/-- The comparison `stamp > iso(moment)` of the two texts, as a query makes it. -/
def Stamp.after (cal : Calendar) : Stamp → ℤ → Bool
  | .iso t, moment => truncate moment < t
  | .other text, moment => cal.sortsAfter text moment

/-! ## Rows -/

inductive JobState where
  | claimed
  | leased
  | released
  /-- a state no operation of this package writes -/
  | other (text : String)
  deriving DecidableEq

def JobState.text : JobState → String
  | claimed => "claimed"
  | leased => "leased"
  | released => "released"
  | other text => text

/-- What a lease can be of. -/
inductive LeaseKind where
  | quotaPool
  | path
  | linearPermit
  | other (text : String)
  deriving DecidableEq

namespace LeaseKind

def text : LeaseKind → String
  | quotaPool => "quota_pool"
  | path => "path"
  | linearPermit => "linear_permit"
  | other text => text

/-- a kind that `Acquire` and `Release` take -/
def exclusive : LeaseKind → Bool
  | path | linearPermit => true
  | _ => false

/-- `DefaultTTL`; the map gives zero for a kind without an entry -/
def defaultTTL : LeaseKind → ℤ
  | path => 90 * minute
  | linearPermit => 30 * minute
  | _ => 0

end LeaseKind

/-- A fencing token: a sequence number, and a random half that is never shown. -/
structure Token where
  seq : ℕ
  secret : String
  deriving DecidableEq

/-- the stored text -/
def Token.text (t : Token) : String := toString t.seq ++ "-" ++ t.secret

/-- `maskToken`: the sequence number without the secret. -/
def maskToken (token : String) : String := Go.cut token '-' ++ "-…"

/-- How a generation of a lease ended, or that it was found expired. -/
inductive HistoryState where
  | superseded
  | released
  | forceReleased
  | expired
  deriving DecidableEq

structure JobRow where
  job : String
  ownerLane : String
  state : JobState
  tLevel : String
  created : Stamp
  updated : Stamp
  deriving DecidableEq

structure QuotaRow where
  job : String
  pool : String
  profile : String
  started : Stamp
  deriving DecidableEq

def QuotaRow.key (r : QuotaRow) : String × String := (r.job, r.pool)

structure LeaseRow where
  resource : String
  kind : LeaseKind
  job : String
  token : Token
  acquired : Stamp
  expires : Stamp
  deriving DecidableEq

def LeaseRow.key (r : LeaseRow) : String × LeaseKind := (r.resource, r.kind)

structure LeaseHistory where
  lease : LeaseRow
  state : HistoryState
  recorded : Stamp
  deriving DecidableEq

/-- `UNIQUE (resource, kind, token, state)` -/
def LeaseHistory.key (r : LeaseHistory) : (String × LeaseKind) × Token × HistoryState :=
  (r.lease.key, r.lease.token, r.state)

/-- The stored body of an event, as its readers see it. -/
inductive Body where
  /-- not a JSON object -/
  | unreadable
  /-- an object without a payload object -/
  | bare
  | payload (o : Object)
  deriving DecidableEq

structure EventRow where
  job : String
  seq : ℤ
  kind : String
  body : Body
  created : Stamp
  deriving DecidableEq

def EventRow.key (r : EventRow) : String × ℤ := (r.job, r.seq)

/-! ## The database -/

/-- The tables that decide what a job may do. -/
structure Core where
  /-- `meta.token_seq`, the number of the last token minted -/
  tokenSeq : ℕ
  jobs : Table JobRow.job
  quotas : Table QuotaRow.key
  leases : Table LeaseRow.key
  history : Table LeaseHistory.key

/-- The database. -/
structure Db where
  core : Core
  events : Table EventRow.key

/-- The database that `createSchema` makes. -/
def Db.empty : Db where
  core := ⟨0, .empty, .empty, .empty, .empty⟩
  events := .empty

/-- What a file of an events directory holds. -/
inductive Content where
  | event (row : EventRow)
  /-- the file was created but not completely written -/
  | torn
  /-- written by someone else -/
  | foreign (text : String)
  deriving DecidableEq

/-- A file `<jobs root>/<job>/events/<name>`. -/
structure File where
  job : String
  name : String
  content : Content
  deriving DecidableEq

/-- The database and the events directories of all jobs. -/
structure Ledger where
  db : Db
  files : List File

/-- No job yet. -/
def Ledger.empty : Ledger := ⟨.empty, []⟩

namespace Core

variable (c : Core)

/-! ## Queries -/

/-- `getLease` -/
def getLease (resource : String) (kind : LeaseKind) : Option LeaseRow :=
  c.leases.find (resource, kind)

/-- What a job holds: its quota-pool records and its leases that are not expired. -/
def held (cal : Calendar) (job : String) (moment : ℤ) : ℕ :=
  c.quotas.rows.countP (fun q => q.job = job) +
    c.leases.rows.countP fun l => l.job = job && l.expires.after cal moment

/-! ## Updates -/

/-- `UPDATE jobs SET state = ?, updated_at = ? WHERE job_id = ?` -/
def mark (job : String) (state : JobState) (moment : ℤ) : Core :=
  { c with
    jobs := c.jobs.updateWhere (fun r => r.job = job)
      (fun r => { r with state := state, updated := iso moment }) fun _ => rfl }

/-- `UPDATE jobs SET updated_at = ? WHERE job_id = ?` -/
def touch (job : String) (moment : ℤ) : Core :=
  { c with
    jobs := c.jobs.updateWhere (fun r => r.job = job)
      (fun r => { r with updated := iso moment }) fun _ => rfl }

/-- `archive`: keep a lease generation as evidence, unless it is kept in that state already. -/
def archive (row : LeaseRow) (state : HistoryState) (moment : ℤ) : Core × Bool :=
  let inserted := c.history.insertNew ⟨row, state, iso moment⟩
  ({ c with history := inserted.1 }, inserted.2)

/-- `DELETE FROM leases WHERE resource = ? AND kind = ?` -/
def deleteLease (key : String × LeaseKind) : Core :=
  { c with leases := c.leases.deleteWhere fun l => l.key = key }

/-- `DELETE FROM quota_pool_records WHERE job_id = ? AND pool = ?` -/
def deleteQuota (key : String × String) : Core :=
  { c with quotas := c.quotas.deleteWhere fun q => q.key = key }

/-- `settleJob`: a job that holds nothing is released. -/
def settle (cal : Calendar) (job : String) (moment : ℤ) : Core :=
  if c.held cal job moment > 0 then c.touch job moment else c.mark job .released moment

end Core

end Panewire.Arbiter

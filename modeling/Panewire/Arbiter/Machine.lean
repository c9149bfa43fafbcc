import Panewire.Arbiter.Gc

/-!
# The ledger as a machine

What the operations do to the tables, seen from above: ten kinds of **change**, each with the
condition under which it happens. A successful request is a short list of changes (`performs`), so
a property of all histories is checked once for each kind of change.

* `Step` — one change, at a time that is at least every clock reading it was made with;
* `Steps` — a list of changes;
* `Request`, `Ledger.perform` — the write transactions of the store, with all their inputs;
* `performs` — **refinement**: what a successful request does, as changes.
-/

namespace Panewire.Arbiter

open Data

/-! ## Changes -/

/-- A change to the tables. -/
inductive Change where
  | claimed (job : String)
  | reclaimed (job : String)
  /-- a failed launch gave its claim back -/
  | aborted (job : String)
  | granted (row : LeaseRow)
  | released (row : LeaseRow) (force : Bool)
  | recorded (row : QuotaRow)
  | dropped (row : QuotaRow)
  /-- a lease was archived as expired -/
  | expired (row : LeaseRow)
  /-- a quota-pool record was deleted because its agent is gone -/
  | swept (row : QuotaRow)
  | orphaned (job : String)
  deriving DecidableEq

/-- The tables without the lease that a grant replaces. -/
def Core.superseding (core : Core) (key : String × LeaseKind) (moment : ℤ) : Core :=
  match core.leases.find key with
  | none => core
  | some held => (core.archive held .superseded moment).1.deleteLease held.key

/-- **One change**, made with clock readings up to `now`. -/
inductive Step (cal : Calendar) (now : ℤ) : Core → Change → Core → Prop where
  | claim {core : Core} {row : JobRow} (fresh : core.jobs.find row.job = none)
      (state : row.state = .claimed) :
      Step cal now core (.claimed row.job) { core with jobs := (core.jobs.insertNew row).1 }
  | reclaim {core : Core} {job : String} {row : JobRow} {f : JobRow → JobRow}
      (hf : ∀ r, (f r).job = r.job) (found : core.jobs.find job = some row)
      (state : row.state = .released) (state' : ∀ r, (f r).state = .claimed) :
      Step cal now core (.reclaimed job)
        { core with jobs := core.jobs.updateWhere (fun r => r.job = job) f hf }
  | abort {core : Core} {job : String} {row : JobRow} {moment : ℤ} (hm : moment ≤ now)
      (found : core.jobs.find job = some row) (state : row.state = .claimed) :
      Step cal now core (.aborted job) (core.settle cal job moment)
  | grant {core : Core} {row : LeaseRow} {moment : ℤ} {job : JobRow} (hm : moment ≤ now)
      (found : core.jobs.find row.job = some job)
      (token : row.token.seq = core.tokenSeq + 1)
      (times : ∃ t, row.expires = .iso t)
      (expired : ∀ held, core.leases.find row.key = some held →
        ∃ t, parseISO cal held.expires = some t ∧ t ≤ moment) :
      Step cal now core (.granted row)
        (({ core.superseding row.key moment with
            tokenSeq := core.tokenSeq + 1
            leases := ((core.superseding row.key moment).leases.insertNew row).1 } : Core).mark
          row.job .leased moment)
  | release {core : Core} {row : LeaseRow} {force : Bool} {moment : ℤ} (hm : moment ≤ now)
      (found : core.leases.find row.key = some row) :
      Step cal now core (.released row force)
        (((core.archive row (if force then .forceReleased else .released) moment).1.deleteLease
          row.key).settle cal row.job moment)
  | record {core : Core} {row : QuotaRow} {job : JobRow} {moment : ℤ} (hm : moment ≤ now)
      (found : core.jobs.find row.job = some job) (fresh : core.quotas.find row.key = none) :
      Step cal now core (.recorded row)
        (({ core with quotas := (core.quotas.insertNew row).1 } : Core).mark row.job .leased moment)
  | drop {core : Core} {row : QuotaRow} {moment : ℤ} (hm : moment ≤ now)
      (found : core.quotas.find row.key = some row) :
      Step cal now core (.dropped row) ((core.deleteQuota row.key).settle cal row.job moment)
  | expire {core : Core} {row : LeaseRow} {moment : ℤ} (found : row ∈ core.leases) :
      Step cal now core (.expired row) (core.archive row .expired moment).1
  | sweep {core : Core} {row : QuotaRow} :
      Step cal now core (.swept row) (core.deleteQuota row.key)
  | orphan {core : Core} {job : String} {moment : ℤ} (eligible : core.eligible job = true) :
      Step cal now core (.orphaned job)
        { core with
          jobs := core.jobs.updateWhere (fun r => r.job = job && r.state = .leased)
            (fun r => { r with state := .released, updated := iso moment }) fun _ => rfl }

/-- A list of changes, the first one first. -/
inductive Steps (cal : Calendar) (now : ℤ) : Core → List Change → Core → Prop where
  | nil {core : Core} : Steps cal now core [] core
  | cons {core core₁ core₂ : Core} {ch : Change} {chs : List Change} :
      Step cal now core ch core₁ → Steps cal now core₁ chs core₂ →
      Steps cal now core (ch :: chs) core₂

namespace Steps

variable {cal : Calendar} {now : ℤ} {core core₁ core₂ : Core} {ch : Change} {chs chs' : List Change}

theorem single (h : Step cal now core ch core₁) : Steps cal now core [ch] core₁ := .cons h .nil

theorem append (h : Steps cal now core chs core₁) (h' : Steps cal now core₁ chs' core₂) :
    Steps cal now core (chs ++ chs') core₂ := by
  induction h with
  | nil => exact h'
  | cons hst _ ih => exact .cons hst (ih h')

/-- What each of its changes keeps, a list of changes keeps. -/
theorem keeps {P : Core → Prop} (h : Steps cal now core chs core₁)
    (hst : ∀ core ch core', ch ∈ chs → Step cal now core ch core' → P core → P core')
    (hP : P core) : P core₁ := by
  induction h with
  | nil => exact hP
  | cons hs _ ih =>
    refine ih (fun core ch core' hch => hst core ch core' (List.mem_cons_of_mem _ hch)) ?_
    exact hst _ _ _ List.mem_cons_self hs hP

end Steps

/-! ## Requests -/

/-- A write transaction of the store, with its inputs. -/
inductive Request where
  | appendEvent (job kind : String) (body : Object) (seq : Option ℤ)
  | claim (cl : Claim)
  | releaseClaim (job : String)
  | acquire (req : LeaseReq)
  | release (job resource : String) (kind : LeaseKind) (token : String) (force : Bool)
  | recordQuotaPool (q : QuotaRun)
  | releaseQuotaPool (job pool : String) (force : Bool)
  | gc (snaps : Snapshots) (agents : List Agent)
  | releaseOrphan (job : String) (snaps : Snapshots) (agents : List Agent)
  deriving DecidableEq

/-- What a request returns. -/
inductive Reply where
  | event (seq : ℤ)
  | claimed (result : ClaimResult)
  | granted (lease : Lease)
  | recorded (result : QuotaResult)
  | passed (result : GCResult)
  | orphan (orphan : Orphan)
  deriving DecidableEq

/-- The transaction body of a request. -/
def Request.body : Request → Tx Reply
  | appendEvent job kind body seq => do return .event (← Arbiter.appendEvent job kind body seq)
  | claim cl => do return .claimed (← Arbiter.claim cl)
  | releaseClaim job => do return .event (← Arbiter.releaseClaim job)
  | acquire req => do return .granted (← Arbiter.acquire req)
  | release job resource kind token force =>
    do return .event (← Arbiter.release job resource kind token force)
  | recordQuotaPool q => do return .recorded (← Arbiter.recordQuotaPool q)
  | releaseQuotaPool job pool force =>
    do return .event (← Arbiter.releaseQuotaPool job pool force)
  | gc snaps agents => do return .passed (← gcWrite snaps agents)
  | releaseOrphan job snaps agents =>
    do return .orphan (← releaseOrphanWrite job snaps agents)

/-- Perform a request on the ledger. -/
def Ledger.perform (w : Ledger) (r : Request) (c : Call) : Except Error Reply × Ledger :=
  w.write r.body c

/-- The clock readings of the call are up to `now`. -/
def Call.UpTo (c : Call) (now : ℤ) : Prop := ∀ i, c.clock i ≤ now

theorem Call.UpTo.truncate_le {c : Call} {now : ℤ} (h : c.UpTo now) (i : ℕ) :
    truncate (c.clock i) ≤ now := (Arbiter.truncate_le _).trans (h i)

end Panewire.Arbiter

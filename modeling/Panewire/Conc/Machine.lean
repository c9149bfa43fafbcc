import Mathlib.Data.List.Basic

/-!
# Machines of atomic steps

Where the local state of every task is small it is simplest to keep it in one state with what the
tasks share, and to let an **action** say which task goes on and what its environment answers. An
interleaving is then any sequence of actions.

* `Reach` — the states that a machine reaches by actions which all meet a condition;
* `Reach.keeps` — an invariant of single steps holds in all of them;
* `replay` — one sequence of actions, executed.
-/

namespace Conc

variable {σ α : Type} {step : σ → α → Option σ} {ok : σ → α → Bool}

/-- The states reached from `s` by steps that meet `ok`. -/
inductive Reach (step : σ → α → Option σ) (ok : σ → α → Bool) (s : σ) : σ → Prop where
  | refl : Reach step ok s s
  | tail {t u : σ} {a : α} : Reach step ok s t → ok t a = true → step t a = some u →
      Reach step ok s u

/-- **Invariants**: what holds at first and is kept by every step that meets the condition. -/
theorem Reach.keeps {Inv : σ → Prop} {s t : σ} (hrea : Reach step ok s t) (hi : Inv s)
    (hst : ∀ s a t, Inv s → ok s a = true → step s a = some t → Inv t) : Inv t := by
  induction hrea with
  | refl => exact hi
  | tail _ hok hs ih => exact hst _ _ _ ih hok hs

theorem Reach.trans {s t u : σ} (h : Reach step ok s t) (h' : Reach step ok t u) :
    Reach step ok s u := by
  induction h' with
  | refl => exact h
  | tail _ hok hs ih => exact ih.tail hok hs

/-- Execute a sequence of actions that meet the condition. -/
def replay (step : σ → α → Option σ) (ok : σ → α → Bool) : σ → List α → Option σ
  | s, [] => some s
  | s, a :: as => if ok s a then (step s a).bind fun t => replay step ok t as else none

theorem Reach.of_replay {s t : σ} {as : List α} (h : replay step ok s as = some t) :
    Reach step ok s t := by
  induction as generalizing s with
  | nil =>
    obtain rfl := Option.some.inj h
    exact .refl
  | cons a as ih =>
    unfold replay at h
    split at h
    · next hok =>
      obtain ⟨u, hu, ht⟩ := Option.bind_eq_some_iff.mp h
      exact (Reach.refl.tail hok hu).trans (ih ht)
    · cases h

section Replay

variable {p q : σ → Prop} [DecidablePred p] {s : σ} (as : List α)
  (h : (replay step ok s as).any (p ·) = true)

include h

/-- What is found by executing a sequence of actions holds in a reached state. -/
theorem Reach.exists_of_replay : ∃ t, Reach step ok s t ∧ p t := by
  obtain ⟨t, ht, hp⟩ := (Option.any_eq_true ..).mp h
  exact ⟨t, .of_replay ht, of_decide_eq_true hp⟩

/-- The same, with what is known of every such state. -/
theorem Reach.exists_of_replay_and (hq : ∀ t, Reach step ok s t → p t → q t) :
    ∃ t, Reach step ok s t ∧ p t ∧ q t := by
  obtain ⟨t, ht, hp⟩ := Reach.exists_of_replay as h
  exact ⟨t, ht, hp, hq t ht hp⟩

end Replay

end Conc

import Mathlib.Data.List.Basic
import Mathlib.Logic.Relation

/-!
# Transaction bodies

A **transaction body** runs over a state that it leaves changed even when it fails: rolling the
rolled-back part of the state back is up to whoever runs the body. What the environment decides
(clock readings, random bytes, faults) is handed to it in a context `ρ`.

* `Tx.read`, `Tx.lift`, `Tx.modify`, `Tx.fail`, `Tx.refuseIf` — the commands, each with an equation
  for what follows it, so that a body is unfolded along its own text;
* `Tx.bind_ok` — inversion for a sequence that succeeds;
* `Tx.Appends`, `Tx.Emits` — output that a body only adds to and that no rollback takes back, with
  an equation for each command that says whether a body leaves any.
-/

namespace Data

/-- A procedure over `σ` that may fail with `ε`, in a context `ρ`. -/
structure Tx (ρ σ ε α : Type) : Type where
  /-- the result, and the state it leaves -/
  run : ρ → σ → Except ε α × σ

namespace Tx

variable {ρ σ ε α β : Type}

instance : Monad (Tx ρ σ ε) where
  pure a := ⟨fun _ s => (.ok a, s)⟩
  bind x f := ⟨fun c s =>
    match x.run c s with
    | (.ok a, t) => (f a).run c t
    | (.error e, t) => (.error e, t)⟩

/-- Compute something from the context and the state. -/
def read (f : ρ → σ → α) : Tx ρ σ ε α := ⟨fun c s => (.ok (f c s), s)⟩

/-- Compute something that may fail. -/
def lift (f : ρ → σ → Except ε α) : Tx ρ σ ε α := ⟨fun c s => (f c s, s)⟩

/-- Change the state. -/
def modify (f : ρ → σ → σ) : Tx ρ σ ε Unit := ⟨fun c s => (.ok (), f c s)⟩

/-- Give up. -/
def fail (e : ε) : Tx ρ σ ε α := ⟨fun _ s => (.error e, s)⟩

/-- Give up if the condition holds. -/
def refuseIf (p : Prop) [Decidable p] (e : ε) : Tx ρ σ ε Unit := if p then fail e else pure ()

variable {c : ρ} {s t : σ} {x : Tx ρ σ ε α} {f : α → Tx ρ σ ε β}

@[simp] theorem run_pure (a : α) : (pure a : Tx ρ σ ε α).run c s = (.ok a, s) := rfl

@[simp] theorem run_fail (e : ε) : (fail e : Tx ρ σ ε α).run c s = (.error e, s) := rfl

@[simp] theorem run_modify (g : ρ → σ → σ) :
    (modify g : Tx ρ σ ε Unit).run c s = (.ok (), g c s) := rfl

theorem run_bind : (x >>= f).run c s =
    match x.run c s with
    | (.ok a, t) => (f a).run c t
    | (.error e, t) => (.error e, t) := rfl

theorem run_bind_of_ok {a : α} (h : x.run c s = (.ok a, t)) :
    (x >>= f).run c s = (f a).run c t := by
  rw [run_bind, h]

theorem run_bind_of_error {e : ε} (h : x.run c s = (.error e, t)) :
    (x >>= f).run c s = (.error e, t) := by
  rw [run_bind, h]

@[simp] theorem read_bind (g : ρ → σ → α) :
    ((read g : Tx ρ σ ε α) >>= f).run c s = (f (g c s)).run c s := rfl

@[simp] theorem run_lift (g : ρ → σ → Except ε α) :
    (lift g : Tx ρ σ ε α).run c s = (g c s, s) := rfl

theorem lift_bind_ok {g : ρ → σ → Except ε α} {a : α} (h : g c s = .ok a) :
    ((lift g : Tx ρ σ ε α) >>= f).run c s = (f a).run c s :=
  run_bind_of_ok (by rw [run_lift, h])

theorem lift_bind_error {g : ρ → σ → Except ε α} {e : ε} (h : g c s = .error e) :
    ((lift g : Tx ρ σ ε α) >>= f).run c s = (.error e, s) :=
  run_bind_of_error (by rw [run_lift, h])

theorem refuseIf_bind (p : Prop) [Decidable p] (e : ε) (k : Unit → Tx ρ σ ε β) :
    ((refuseIf p e : Tx ρ σ ε Unit) >>= k).run c s =
      if p then (.error e, s) else (k ()).run c s := by
  unfold refuseIf
  split
  · rfl
  · rfl

/-- A check that the body passed did not hold. -/
theorem refuseIf_ok {p : Prop} [Decidable p] {e : ε} {k : Unit → Tx ρ σ ε β} {b : β} :
    ((refuseIf p e : Tx ρ σ ε Unit) >>= k).run c s = (.ok b, t) ↔
      ¬ p ∧ (k ()).run c s = (.ok b, t) := by
  rw [refuseIf_bind]
  by_cases hp : p
  · simp [hp]
  · simp [hp]

theorem bind_assoc {γ : Type} (g : β → Tx ρ σ ε γ) :
    ((x >>= f) >>= g).run c s = (x >>= fun a => f a >>= g).run c s := by
  simp only [run_bind]
  rcases x.run c s with ⟨_ | a, u⟩
  · rfl
  · rfl

/-- **Inversion for a sequence** that succeeds: both parts did. -/
theorem bind_ok {b : β} : (x >>= f).run c s = (.ok b, t) ↔
    ∃ a u, x.run c s = (.ok a, u) ∧ (f a).run c u = (.ok b, t) := by
  rw [run_bind]
  rcases x.run c s with ⟨_ | a, u⟩
  · simp
  · simp

/-! ## Output that is not rolled back -/

section Output

variable {φ : Type} {out : σ → List φ}

/-- The body only adds to the output, whatever becomes of it. -/
def Appends (out : σ → List φ) (x : Tx ρ σ ε α) : Prop := ∀ c s, out s <+: out (x.run c s).2

/-- Run in this state, the body leaves other output than it found. -/
def Emits (out : σ → List φ) (x : Tx ρ σ ε α) (c : ρ) (s : σ) : Prop := out (x.run c s).2 ≠ out s

theorem appends_pure (a : α) : Appends out (pure a : Tx ρ σ ε α) :=
  fun _ _ => List.prefix_refl _

theorem appends_fail (e : ε) : Appends out (fail e : Tx ρ σ ε α) :=
  fun _ _ => List.prefix_refl _

theorem appends_read (g : ρ → σ → α) : Appends out (read g : Tx ρ σ ε α) :=
  fun _ _ => List.prefix_refl _

theorem appends_lift (g : ρ → σ → Except ε α) : Appends out (lift g) :=
  fun _ _ => List.prefix_refl _

theorem appends_modify {g : ρ → σ → σ} (h : ∀ c s, out s <+: out (g c s)) :
    Appends out (modify g : Tx ρ σ ε Unit) := h

theorem appends_refuseIf (p : Prop) [Decidable p] (e : ε) :
    Appends out (refuseIf p e : Tx ρ σ ε Unit) := by
  unfold refuseIf
  split
  · exact appends_fail e
  · exact appends_pure ()

theorem Appends.bind (hx : Appends out x) (hf : ∀ a, Appends out (f a)) :
    Appends out (x >>= f) := by
  intro c s
  have hxs := hx c s
  rcases hrun : x.run c s with ⟨_ | a, t⟩
  · rw [run_bind_of_error hrun]
    rwa [hrun] at hxs
  · rw [run_bind_of_ok hrun]
    rw [hrun] at hxs
    exact hxs.trans (hf a c t)

@[simp] theorem emits_pure (a : α) : ¬ Emits out (pure a : Tx ρ σ ε α) c s := fun h => h rfl

@[simp] theorem emits_fail (e : ε) : ¬ Emits out (fail e : Tx ρ σ ε α) c s := fun h => h rfl

@[simp] theorem emits_fail_bind (e : ε) :
    ¬ Emits out ((fail e : Tx ρ σ ε α) >>= f) c s := fun h => h rfl

@[simp] theorem emits_read_bind (g : ρ → σ → α) :
    Emits out ((read g : Tx ρ σ ε α) >>= f) c s ↔ Emits out (f (g c s)) c s := Iff.rfl

@[simp] theorem emits_refuseIf_bind (p : Prop) [Decidable p] (e : ε) (k : Unit → Tx ρ σ ε β) :
    Emits out ((refuseIf p e : Tx ρ σ ε Unit) >>= k) c s ↔ ¬ p ∧ Emits out (k ()) c s := by
  unfold Emits
  rw [refuseIf_bind]
  by_cases hp : p
  · simp [hp]
  · simp [hp]

@[simp] theorem emits_lift_bind (g : ρ → σ → Except ε α) :
    Emits out (lift g >>= f) c s ↔ ∃ a, g c s = .ok a ∧ Emits out (f a) c s := by
  unfold Emits
  cases hg : g c s with
  | error e => simp [lift_bind_error hg]
  | ok a => simp [lift_bind_ok hg]

/-- After a part without output, the rest decides. -/
theorem emits_bind_of_ok {a : α} (h : x.run c s = (.ok a, t)) (ho : out t = out s) :
    Emits out (x >>= f) c s ↔ Emits out (f a) c t := by
  rw [Emits, Emits, run_bind_of_ok h, ho]

theorem emits_bind_of_error {e : ε} (h : x.run c s = (.error e, t)) :
    Emits out (x >>= f) c s ↔ Emits out x c s := by
  rw [Emits, Emits, run_bind_of_error h, h]

theorem emits_bind_assoc {γ : Type} (g : β → Tx ρ σ ε γ) :
    Emits out ((x >>= f) >>= g) c s ↔ Emits out (x >>= fun a => f a >>= g) c s := by
  rw [Emits, Emits, bind_assoc]

@[simp] theorem emits_bind_pure (g : α → β) :
    Emits out (x >>= fun a => pure (g a)) c s ↔ Emits out x c s := by
  unfold Emits
  rcases hrun : x.run c s with ⟨_ | a, t⟩
  · rw [run_bind_of_error hrun]
  · rw [run_bind_of_ok hrun, run_pure]

/-- Output stays, if what follows only adds to it. -/
theorem Emits.bind (h : Emits out x c s) (hx : Appends out x) (hf : ∀ a, Appends out (f a)) :
    Emits out (x >>= f) c s := by
  rcases hrun : x.run c s with ⟨_ | a, t⟩
  · rwa [emits_bind_of_error hrun]
  · intro hsame
    have hxs := hx c s
    rw [Emits, hrun] at h
    rw [hrun] at hxs
    rw [run_bind_of_ok hrun] at hsame
    have hl : out t <+: out s := hsame ▸ hf a c t
    exact h (hl.eq_of_length_le hxs.length_le)

end Output

end Tx

end Data

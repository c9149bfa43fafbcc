import Panewire.Conc.Prog

/-!
# What one thread can do alone

To show that a state **can** be reached it is enough to schedule the newest thread by itself and to
choose the answers. `Cmd.Leads` says where a command can lead that way, with one rule for each way
to build a command, so that a long run is put together from the procedures it goes through.
-/

namespace Conc.Cmd

variable {σ ι κ ρ α β : Type} {body : ρ → Prog σ ι κ ρ} {lim : Limits σ ι κ ρ}

/-- Undisturbed, and with the right answers, the newest thread takes the command from `s` to `s'`,
with result `a`. -/
def Leads (body : ρ → Prog σ ι κ ρ) (lim : Limits σ ι κ ρ) (s : σ) (c : Cmd σ ι κ ρ α) (s' : σ)
    (a : α) : Prop :=
  ∀ (ts : List (Prog σ ι κ ρ)) (k : α → Prog σ ι κ ρ),
    Run body lim ⟨s, ts ++ [c k]⟩ ⟨s', ts ++ [k a]⟩

namespace Leads

theorem pure (s : σ) (a : α) : Leads body lim s (Pure.pure a) s a := fun _ _ => .refl

theorem bind {s s₁ s₂ : σ} {c : Cmd σ ι κ ρ α} {f : α → Cmd σ ι κ ρ β} {a : α} {b : β}
    (hc : Leads body lim s c s₁ a) (hf : Leads body lim s₁ (f a) s₂ b) :
    Leads body lim s (c >>= f) s₂ b :=
  fun ts k => (hc ts fun a => f a k).trans (hf ts k)

theorem actWhen {s s' : σ} {a : α} {l : κ} {en : σ → ι → Bool} {f : σ → ι → σ × α} (e : ι)
    (hen : en s e = true) (hl : lim.step l s e = true) (hf : f s e = (s', a)) :
    Leads body lim s (Cmd.actWhen l en f) s' a := by
  intro ts k
  have hm : Sys.move body lim ⟨s, ts ++ [Cmd.actWhen l en f k]⟩ (.sched ts.length e) =
      some ⟨s', ts ++ [k a]⟩ := by
    simp [Sys.move, Cmd.actWhen, hen, hl, hf]
  exact Run.refl.tail hm

theorem act {s s' : σ} {a : α} {l : κ} {f : σ → ι → σ × α} (e : ι) (hl : lim.step l s e = true)
    (hf : f s e = (s', a)) : Leads body lim s (Cmd.act l f) s' a :=
  actWhen e rfl hl hf

/-- The outside starts a procedure, and it runs to its end. -/
theorem run {s s' : σ} {r : ρ} {c : Cmd σ ι κ ρ Unit} (hc : Leads body lim s c s' ())
    (hr : lim.start r = true) (hb : body r = c.prog) (ts : List (Prog σ ι κ ρ)) :
    Run body lim ⟨s, ts⟩ ⟨s', ts ++ [.done]⟩ := by
  have hm : Sys.move body lim ⟨s, ts⟩ (.start r) = some ⟨s, ts ++ [c.prog]⟩ := by
    rw [Sys.move, if_pos hr, hb]
  exact (Run.refl.tail hm).trans (hc ts fun _ => .done)

end Leads

end Conc.Cmd

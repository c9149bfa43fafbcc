import Panewire.Conc.Prog

/-!
# What a command returns

A **path** is what one thread does from one program to another: the states it found at its steps
and the answers it was given. What other threads do in between shows in the states only, which are
arbitrary, so a fact about all paths is a fact about all interleavings.

`Cmd.Returns` says what holds of the path and the result whenever a command has returned; the rules
follow the text of the command.
-/

namespace Conc

variable {σ ι κ ρ α β γ : Type}

/-- The thread gets from one program to another by steps in these states, with these answers. -/
inductive Path : Prog σ ι κ ρ → List (σ × ι) → Prog σ ι κ ρ → Prop where
  | refl (p : Prog σ ι κ ρ) : Path p [] p
  | step {l : κ} {en : σ → ι → Bool} {up : σ → ι → σ} {k : σ → ι → Prog σ ι κ ρ}
      {q : Prog σ ι κ ρ} {tr : List (σ × ι)} (s : σ) (e : ι) (hen : en s e = true)
      (h : Path (k s e) tr q) : Path (.step l en up k) ((s, e) :: tr) q
  | spawn {r : ρ} {rest q : Prog σ ι κ ρ} {tr : List (σ × ι)} (h : Path rest tr q) :
      Path (.spawn r rest) tr q

namespace Cmd

/-- **Whenever the command has returned**, `Q` holds of the path up to there and of the result. -/
structure Returns (c : Cmd σ ι κ ρ α) (Q : List (σ × ι) → α → Prop) : Prop where
  /-- whatever follows, a path to the end passes through a return of the command -/
  passes : ∀ k tr, Path (c k) tr .done →
    ∃ a tr₁ tr₂, tr = tr₁ ++ tr₂ ∧ Q tr₁ a ∧ Path (k a) tr₂ .done

namespace Returns

variable {c : Cmd σ ι κ ρ α} {Q Q' : List (σ × ι) → α → Prop}

theorem pure {a : α} (h : Q [] a) : (Pure.pure a : Cmd σ ι κ ρ α).Returns Q :=
  ⟨fun _ tr hp => ⟨a, [], tr, rfl, h, hp⟩⟩

theorem conseq (h : c.Returns Q) (hQ : ∀ tr a, Q tr a → Q' tr a) : c.Returns Q' := by
  refine ⟨fun k tr hp => ?_⟩
  obtain ⟨a, tr₁, tr₂, htr, hq, hre⟩ := h.passes k tr hp
  exact ⟨a, tr₁, tr₂, htr, hQ _ _ hq, hre⟩

theorem bind {f : α → Cmd σ ι κ ρ β} {R : List (σ × ι) → β → Prop} (h : c.Returns Q)
    (hf : ∀ tr a, Q tr a → (f a).Returns fun tr' b => R (tr ++ tr') b) : (c >>= f).Returns R := by
  refine ⟨fun k tr hp => ?_⟩
  obtain ⟨a, tr₁, tr₂, rfl, hq, hre⟩ := h.passes (fun a => f a k) tr hp
  obtain ⟨b, tr₃, tr₄, rfl, hr, hre'⟩ := (hf tr₁ a hq).passes k tr₂ hre
  exact ⟨b, tr₁ ++ tr₃, tr₄, by rw [List.append_assoc], hr, hre'⟩

theorem actWhen {l : κ} {en : σ → ι → Bool} {f : σ → ι → σ × α}
    (h : ∀ s e, en s e = true → Q [(s, e)] (f s e).2) :
    (Cmd.actWhen l en f : Cmd σ ι κ ρ α).Returns Q := by
  refine ⟨fun k tr hp => ?_⟩
  cases hp with
  | step s e hen hre => exact ⟨_, [(s, e)], _, rfl, h s e hen, hre⟩

theorem act {l : κ} {f : σ → ι → σ × α} (h : ∀ s e, Q [(s, e)] (f s e).2) :
    (Cmd.act l f : Cmd σ ι κ ρ α).Returns Q :=
  actWhen fun s e _ => h s e

/-- **Loop rule**: `I` relates the elements still to come, the accumulator and the path. -/
theorem foldEach {body : β → α → Cmd σ ι κ ρ β} (I : List α → β → List (σ × ι) → Prop)
    (hb : ∀ a as b tr, I (a :: as) b tr → (body b a).Returns fun tr' b' => I as b' (tr ++ tr'))
    {as : List α} {b : β} (h : I as b []) :
    (Cmd.foldEach as b body).Returns fun tr b' => I [] b' tr := by
  have loop : ∀ (as : List α) (b : β) (tr : List (σ × ι)), I as b tr →
      (Cmd.foldEach as b body).Returns fun tr' b' => I [] b' (tr ++ tr') := by
    intro as
    induction as with
    | nil => exact fun b tr h => pure (by rwa [List.append_nil])
    | cons a as ih =>
      refine fun b tr h => bind (hb a as b tr h) fun tr' b' h' => ?_
      exact (ih b' _ h').conseq fun tr'' b'' h'' => by rwa [List.append_assoc] at h''
  exact loop as b [] h

end Returns

/-- The command returns, whatever it does: it never ends the thread. -/
def Honest (c : Cmd σ ι κ ρ α) : Prop := c.Returns fun _ _ => True

namespace Honest

variable {c : Cmd σ ι κ ρ α}

theorem pure (a : α) : (Pure.pure a : Cmd σ ι κ ρ α).Honest := Returns.pure trivial

theorem bind {f : α → Cmd σ ι κ ρ β} (h : c.Honest) (hf : ∀ a, (f a).Honest) : (c >>= f).Honest :=
  Returns.bind h fun _ a _ => hf a

theorem act (l : κ) (f : σ → ι → σ × α) : (Cmd.act l f : Cmd σ ι κ ρ α).Honest :=
  Returns.act fun _ _ => trivial

theorem actWhen (l : κ) (en : σ → ι → Bool) (f : σ → ι → σ × α) :
    (Cmd.actWhen l en f : Cmd σ ι κ ρ α).Honest :=
  Returns.actWhen fun _ _ _ => trivial

theorem go (r : ρ) : (Cmd.go r : Cmd σ ι κ ρ Unit).Honest := by
  refine ⟨fun k tr hp => ?_⟩
  cases hp with
  | spawn h => exact ⟨(), [], tr, rfl, trivial, h⟩

theorem when (b : Bool) {c : Cmd σ ι κ ρ Unit} (h : c.Honest) : (Cmd.when b c).Honest := by
  cases b with
  | true => exact h
  | false => exact pure ()

theorem ite {p : Prop} [Decidable p] {c' : Cmd σ ι κ ρ α} (h : c.Honest) (h' : c'.Honest) :
    (if p then c else c').Honest := by
  split
  · exact h
  · exact h'

theorem forEach {body : α → Cmd σ ι κ ρ Unit} (h : ∀ a, (body a).Honest) :
    ∀ as : List α, (Cmd.forEach as body).Honest
  | [] => pure ()
  | a :: as => bind (h a) fun _ => forEach h as

theorem foldEach {body : β → α → Cmd σ ι κ ρ β} (h : ∀ b a, (body b a).Honest) :
    ∀ (as : List α) (b : β), (Cmd.foldEach as b body).Honest
  | [], b => pure b
  | a :: as, b => bind (h b a) fun b' => foldEach h as b'

end Honest

/-- **A loop that keeps more than it needs** returns what the loop with less returns. -/
theorem foldEach_project {body : β → α → Cmd σ ι κ ρ β} {body' : γ → α → Cmd σ ι κ ρ γ} (π : β → γ)
    (hb : ∀ b a, (body b a >>= fun b' => Pure.pure (π b')) = body' (π b) a) :
    ∀ (as : List α) (b : β),
      (foldEach as b body >>= fun b' => Pure.pure (π b')) = foldEach as (π b) body'
  | [], _ => rfl
  | a :: as, b => by
    funext k
    show body b a (fun b' => foldEach as b' body fun b'' => k (π b'')) =
      body' (π b) a fun c => foldEach as c body' k
    rw [← hb b a]
    show body b a _ = body b a fun b' => foldEach as (π b') body' k
    congr 1
    funext b'
    rw [← foldEach_project π hb as b']
    rfl

end Cmd

end Conc

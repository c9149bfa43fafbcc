import Panewire.Conc.Prog
import Panewire.Conc.Roles
import Mathlib.Data.List.Forall2

/-!
# Protocols: reasoning about one thread at a time

A **protocol** gives every thread a *role* (a value of `G` that summarises what it may still do)
and says which steps a thread in a role may take and which role it has afterwards. The two
halves of an argument about all interleavings are then separate:

* `Protocol.Follows` — one program, alone, against an arbitrary shared state at every step,
  keeps to the protocol. `Triple` is the same fact for a command, with rules for sequencing,
  single steps and loops, so that a procedure is checked along its own text;
* `Protocol.Keeps` — a property of the shared state and the list of all roles is kept by every
  step that the protocol allows, whatever program takes it.

`Protocol.Keeps.run` joins them: the property then holds in every state that a run reaches.
-/

namespace Conc

variable {σ ι κ ρ G α β : Type}

/-- Roles of threads, and what a thread may do in each. -/
structure Protocol (σ ι κ ρ G : Type) where
  /-- the role of a thread that starts on a procedure -/
  entry : ρ → G
  /-- the procedures that threads may spawn -/
  spawns : ρ → Prop
  /-- `rule l s e g s' g'`: in role `g`, a step labelled `l` may take `s` to `s'`, and the thread
  is then in role `g'` -/
  rule : κ → σ → ι → G → σ → G → Prop

namespace Protocol

variable (P : Protocol σ ι κ ρ G)

/-- The program, started in role `g`, keeps to the protocol at every step, whatever the other
threads did to the shared state before it. -/
def Follows : Prog σ ι κ ρ → G → Prop
  | .done, _ => True
  | .step l en up k, g =>
    ∀ s e, en s e = true → ∃ g', P.rule l s e g (up s e) g' ∧ Follows (k s e) g'
  | .spawn r rest, g => P.spawns r ∧ Follows rest g

/-- The command keeps to the protocol from role `g`, and returns in a role and with a result
that satisfy `Q`. -/
structure Triple (g : G) (c : Cmd σ ι κ ρ α) (Q : α → G → Prop) : Prop where
  /-- whatever follows in such a role, the whole keeps to the protocol -/
  before : ∀ k : α → Prog σ ι κ ρ, (∀ a g', Q a g' → P.Follows (k a) g') → P.Follows (c k) g

/-- The command leaves the role alone. -/
abbrev Same (g : G) (c : Cmd σ ι κ ρ α) : Prop := P.Triple g c fun _ g' => g' = g

/-- The command keeps to the protocol, in whatever role it returns. -/
abbrev Safe (g : G) (c : Cmd σ ι κ ρ α) : Prop := P.Triple g c fun _ _ => True

namespace Triple

variable {P} {g : G} {Q Q' : α → G → Prop}
variable {c : Cmd σ ι κ ρ α} {f : α → Cmd σ ι κ ρ β} {R : β → G → Prop}

theorem pure {a : α} (h : Q a g) : P.Triple g (Pure.pure a : Cmd σ ι κ ρ α) Q :=
  ⟨fun _ hk => hk a g h⟩

theorem conseq (h : P.Triple g c Q) (hQ : ∀ a g', Q a g' → Q' a g') : P.Triple g c Q' :=
  ⟨fun k hk => h.before k fun a g' ha => hk a g' (hQ a g' ha)⟩

theorem bind (h : P.Triple g c Q) (hf : ∀ a g', Q a g' → P.Triple g' (f a) R) :
    P.Triple g (c >>= f) R :=
  ⟨fun k hk => h.before (fun a => f a k) fun a g' ha => (hf a g' ha).before k hk⟩

theorem safe (h : P.Triple g c Q) : P.Safe g c :=
  h.conseq fun _ _ _ => trivial

/-- The result is not used. -/
theorem discard {b : β} (h : P.Triple g c Q) : P.Safe g (c >>= fun _ => Pure.pure b) :=
  h.bind fun _ _ _ => pure trivial

/-- The result determines the role. -/
theorem bind_to {role : α → G} (h : P.Triple g c fun a g' => g' = role a)
    (hf : ∀ a, P.Triple (role a) (f a) R) : P.Triple g (c >>= f) R :=
  h.bind fun a _ hg => hg ▸ hf a

/-- A command that leaves the role alone. -/
theorem of_same (h : P.Same g c) (hQ : ∀ a, Q a g) : P.Triple g c Q :=
  h.conseq fun a _ hg => hg ▸ hQ a

theorem bind_same (h : P.Same g c) (hf : ∀ a, P.Triple g (f a) R) : P.Triple g (c >>= f) R :=
  bind_to h hf

theorem actWhen {l : κ} {en : σ → ι → Bool} {f : σ → ι → σ × α}
    (h : ∀ s e, en s e = true → ∃ g', P.rule l s e g (f s e).1 g' ∧ Q (f s e).2 g') :
    P.Triple g (Cmd.actWhen l en f) Q := by
  refine ⟨fun k hk s e hen => ?_⟩
  obtain ⟨g', hr, hq⟩ := h s e hen
  exact ⟨g', hr, hk _ g' hq⟩

theorem act {l : κ} {f : σ → ι → σ × α}
    (h : ∀ s e, ∃ g', P.rule l s e g (f s e).1 g' ∧ Q (f s e).2 g') : P.Triple g (Cmd.act l f) Q :=
  actWhen fun s e _ => h s e

theorem go {r : ρ} {Q : Unit → G → Prop} (hr : P.spawns r) (h : Q () g) : P.Triple g (Cmd.go r) Q :=
  ⟨fun _ hk => ⟨hr, hk () g h⟩⟩

theorem when {b : Bool} {c : Cmd σ ι κ ρ Unit} {Q : Unit → G → Prop}
    (h : b = true → P.Triple g c Q) (h' : b = false → Q () g) : P.Triple g (Cmd.when b c) Q := by
  cases b with
  | true => exact h rfl
  | false => exact pure (h' rfl)

/-- **Loop rule**: `I` relates the elements still to come to the role. -/
theorem forEach {body : α → Cmd σ ι κ ρ Unit} (I : List α → G → Prop)
    (hb : ∀ a as g, I (a :: as) g → P.Triple g (body a) fun _ => I as) :
    ∀ {as : List α} {g : G}, I as g → P.Triple g (Cmd.forEach as body) fun _ => I []
  | [], _, h => pure h
  | a :: as, g, h => bind (hb a as g h) fun _ _ h' => forEach I hb h'

/-- **Loop rule** with an accumulator. -/
theorem foldEach {body : β → α → Cmd σ ι κ ρ β} (I : List α → β → G → Prop)
    (hb : ∀ a as b g, I (a :: as) b g → P.Triple g (body b a) fun b' => I as b') :
    ∀ {as : List α} {b : β} {g : G}, I as b g →
      P.Triple g (Cmd.foldEach as b body) fun b' => I [] b'
  | [], _, _, h => pure h
  | a :: as, b, g, h => bind (hb a as b g h) fun _ _ h' => foldEach I hb h'

theorem follows {c : Cmd σ ι κ ρ Unit} {Q : Unit → G → Prop} (h : P.Triple g c Q) :
    P.Follows c.prog g :=
  h.before _ fun _ _ _ => trivial

end Triple

variable {P} {body : ρ → Prog σ ι κ ρ} {lim : Limits σ ι κ ρ}

/-- `Inv`, a property of the shared state and of all roles, is kept by every start, spawn and
step that the protocol and the limits allow. -/
structure Keeps (P : Protocol σ ι κ ρ G) (body : ρ → Prog σ ι κ ρ) (lim : Limits σ ι κ ρ)
    (Inv : σ → List G → Prop) : Prop where
  /-- every procedure that can be started keeps to the protocol -/
  follows : ∀ r, lim.start r = true ∨ P.spawns r → P.Follows (body r) (P.entry r)
  /-- a new thread keeps the property -/
  enter : ∀ s gs r, lim.start r = true ∨ P.spawns r → Inv s gs → Inv s (gs ++ [P.entry r])
  /-- a step by the protocol keeps the property -/
  rule : ∀ l s e s' gs i g g', gs[i]? = some g → lim.step l s e = true →
    P.rule l s e g s' g' → Inv s gs → Inv s' (gs.set i g')
  /-- a restart keeps the property, with no threads left -/
  restart : ∀ s s' gs, lim.restart s = some s' → Inv s gs → Inv s' []

/-- A system whose threads follow the protocol in roles that satisfy `Inv`. -/
def Holds (P : Protocol σ ι κ ρ G) (Inv : σ → List G → Prop) (s : Sys σ ι κ ρ) : Prop :=
  ∃ gs, List.Forall₂ P.Follows s.threads gs ∧ Inv s.shared gs

theorem forall₂_set {R : α → β → Prop} {as : List α} {bs : List β}
    (h : List.Forall₂ R as bs) {a : α} {b : β} (hab : R a b) (i : ℕ) :
    List.Forall₂ R (as.set i a) (bs.set i b) := by
  induction h generalizing i with
  | nil => simp
  | cons hx _ ih =>
    cases i with
    | zero => exact .cons hab ‹_›
    | succ i => exact .cons hx (ih i)

theorem forall₂_getElem? {R : α → β → Prop} {as : List α} {bs : List β}
    (h : List.Forall₂ R as bs) {i : ℕ} {a : α} (ha : as[i]? = some a) :
    ∃ b, bs[i]? = some b ∧ R a b := by
  induction h generalizing i with
  | nil => simp at ha
  | @cons x y _ _ hx _ ih =>
    cases i with
    | zero =>
      rw [List.getElem?_cons_zero, Option.some.injEq] at ha
      exact ⟨y, rfl, ha ▸ hx⟩
    | succ i => exact ih ha

variable {Inv : σ → List G → Prop} {s t : Sys σ ι κ ρ}

/-- **A labelled move** is a step by the protocol, of a thread whose role is in the list. -/
theorem Holds.rule_of_move {s t : Sys σ ι κ ρ} {m : Move ρ ι} {l : κ} (hs : P.Holds Inv s)
    (hm : s.move body lim m = some t) (hl : s.label m = some l) :
    ∃ gs i e g g', Inv s.shared gs ∧ gs[i]? = some g ∧ m = .sched i e ∧
      P.rule l s.shared e g t.shared g' := by
  obtain ⟨gs, hf, hi⟩ := hs
  cases m with
  | start | restart => cases hl
  | sched i e =>
    simp only [Sys.move] at hm
    split at hm
    · next l' en up k hp =>
      obtain rfl : l' = l := by simpa [Sys.label, hp] using hl
      split at hm
      · next hen =>
        cases hm
        rw [Bool.and_eq_true] at hen
        obtain ⟨g, hg, hfol⟩ := forall₂_getElem? hf hp
        obtain ⟨g', hru, -⟩ := hfol s.shared e hen.1
        exact ⟨gs, i, e, g, g', hi, hg, rfl, hru⟩
      · cases hm
    · next hp => simp [Sys.label, hp] at hl
    · cases hm
    · cases hm

/-- **One move keeps the property.** -/
theorem Keeps.move (hk : P.Keeps body lim Inv) {s t : Sys σ ι κ ρ} {m : Move ρ ι}
    (hm : s.move body lim m = some t) (hs : P.Holds Inv s) : P.Holds Inv t := by
  obtain ⟨gs, hf, hi⟩ := hs
  have snoc : ∀ {ps : List (Prog σ ι κ ρ)} {qs : List G} {r : ρ},
      lim.start r = true ∨ P.spawns r → List.Forall₂ P.Follows ps qs →
      List.Forall₂ P.Follows (ps ++ [body r]) (qs ++ [P.entry r]) := fun hr h =>
    List.rel_append h (.cons (hk.follows _ hr) .nil)
  obtain ⟨r, hr, rfl⟩ | ⟨i, e, l, en, up, k, hp, hen, hl, rfl⟩ | ⟨i, r, rest, hp, rfl⟩ |
    ⟨s', hs', rfl⟩ := Sys.move_cases hm
  · exact ⟨_, snoc (.inl hr) hf, hk.enter _ _ r (.inl hr) hi⟩
  · obtain ⟨g, hg, hfol⟩ := forall₂_getElem? hf hp
    obtain ⟨g', hru, hn⟩ := hfol _ e hen
    exact ⟨gs.set i g', forall₂_set hf hn i, hk.rule _ _ _ _ _ _ _ _ hg hl hru hi⟩
  · obtain ⟨g, hg, hsp, hre⟩ := forall₂_getElem? hf hp
    -- the role of the spawning thread does not change
    have hre' : List.Forall₂ P.Follows (s.threads.set i rest) gs := by
      have := forall₂_set hf hre i
      rwa [set_eq_self hg] at this
    exact ⟨_, snoc (.inr hsp) hre', hk.enter _ _ r (.inr hsp) hi⟩
  · exact ⟨[], .nil, hk.restart _ _ _ hs' hi⟩

/-- **A whole run keeps the property.** -/
theorem Keeps.run (hk : P.Keeps body lim Inv) {s t : Sys σ ι κ ρ} (hr : Run body lim s t)
    (hs : P.Holds Inv s) : P.Holds Inv t := by
  induction hr with
  | refl => exact hs
  | tail _ hm ih => exact hk.move hm ih

end Protocol

end Conc

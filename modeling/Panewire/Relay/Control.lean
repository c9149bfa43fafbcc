import Panewire.Relay.WalkOffers

/-!
# Operator control of held rows

What an edit or a cancel guarantees, over every interleaving with offers, releases, retries and
restarts. Both work on the store and on the rows the manager remembers; a release that took the row
earlier, or an offer that is being handled, has its own copy. So the guarantee depends on whether
the event was **quiet** at that moment, with no release and no offer that has it in hand:

* after a quiet cancel the event is gone until the hub offers it again (`quiet_cancel_holds`);
* after a quiet edit it is typed and stored with the operator's text until it is edited or offered
  again (`edited_text_holds`).

The **mandate** of a history says which of the two is in force; the invariant is that every copy of
the event, stored or in hand, obeys it.
-/

namespace Panewire.Relay

open Data Conc Protocol List

variable {pre post : List Ev} {ok : Bool} {text : String}

section Hands

variable {E : ℕ} {cfg : Config}

/-- Who can have rows of the event in hand: one release, and running offers. -/
structure Hands (v : View) (gs : List Role) : Prop where
  flights : AtMostOne (fun g => g.flight = true) gs
  inflight : ∀ g ∈ gs, g.flight = true → v.inflight = true
  offers : gs.countP (fun g => g.offers.isSome) ≤ v.offering
  hands : ∀ g ∈ gs, g.hand ≠ [] → g.flight = true ∨ g.offers.isSome = true

/-- Nobody has a quiet event in hand. -/
theorem Hands.of_quiet {v : View} {gs : List Role} (h : Hands v gs) (hq : v.quiet = true) :
    ∀ g ∈ gs, g.hand = [] ∧ g.offers = none := by
  rw [View.quiet, Bool.and_eq_true, beq_iff_eq] at hq
  obtain ⟨hfl, hof⟩ := hq
  intro g hg
  have hn : g.offers.isSome = false := by
    have hct : gs.countP (fun g => g.offers.isSome) = 0 := by
      have := h.offers
      omega
    simpa using countP_eq_zero.mp hct g hg
  refine ⟨?_, by simpa using hn⟩
  by_contra hh
  rcases h.hands g hg hh with hfli | ho
  · rw [h.inflight g hg hfli] at hfl
    cases hfl
  · rw [hn] at ho
    cases ho

namespace Hands

variable {v : View} {gs : List Role} {i : ℕ} {g g' : Role}

theorem flights_set (h : Hands v gs) (hi : gs[i]? = some g) (hfl : g'.flight = g.flight) :
    AtMostOne (fun g => g.flight = true) (gs.set i g') := by
  by_cases hf : g.flight = true
  · exact h.flights.set_of_mem hi hf
  · exact h.flights.set_of_not i (by rwa [hfl])

theorem inflight_set (h : Hands v gs) (hi : gs[i]? = some g) (hfl : g'.flight = g.flight) :
    ∀ a ∈ gs.set i g', a.flight = true → v.inflight = true :=
  forall_mem_set h.inflight fun hf => h.inflight g (mem_of_getElem? hi) (hfl ▸ hf)

theorem offers_set (h : Hands v gs) (hi : gs[i]? = some g) (hof : g'.offers = g.offers) :
    (gs.set i g').countP (fun g => g.offers.isSome) ≤ v.offering := by
  rw [countP_set_of_eq hi (show g'.offers.isSome = g.offers.isSome by rw [hof])]
  exact h.offers

theorem hands_set (h : Hands v gs) (i : ℕ)
    (hg' : g'.hand ≠ [] → g'.flight = true ∨ g'.offers.isSome = true) :
    ∀ a ∈ gs.set i g', a.hand ≠ [] → a.flight = true ∨ a.offers.isSome = true :=
  forall_mem_set h.hands hg'

/-- A step that changes neither flags nor counters, and takes nothing new in hand. -/
theorem set_same {v' : View} (h : Hands v gs) (hi : gs[i]? = some g)
    (hfl : g'.flight = g.flight) (hof : g'.offers = g.offers) (hh : g'.hand ⊆ g.hand)
    (hv : v'.inflight = v.inflight) (hv' : v'.offering = v.offering) : Hands v' (gs.set i g') := by
  refine ⟨h.flights_set hi hfl, hv ▸ h.inflight_set hi hfl, hv' ▸ h.offers_set hi hof, ?_⟩
  refine h.hands_set i fun hne => ?_
  rw [hfl, hof]
  refine h.hands g (mem_of_getElem? hi) fun hn => hne ?_
  rw [hn] at hh
  exact subset_nil.mp hh

/-- **One step** of any thread keeps the account of who has the event. -/
theorem step {l : Label} {v' : View} {err : Bool} (hs : Step E cfg l v err g v' g')
    (hi : gs[i]? = some g) (h : Hands v gs) : Hands v' (gs.set i g') := by
  cases hs with
  | quiet hsub | delete hsub | insert _ _ hsub | inject _ hsub =>
    exact h.set_same hi rfl rfl hsub rfl rfl
  | claim | record | edit | cancel => exact h.set_same hi rfl rfl (.refl _) rfl rfl
  | unclaim _ _ => exact h.set_same hi rfl rfl (nil_subset _) rfl rfl
  | take hfree _ _ _ =>
    -- no release had the event, so this is the only one
    have hn : ∀ a ∈ gs, ¬ a.flight = true := by
      intro a ha hf
      rw [h.inflight a ha hf] at hfree
      cases hfree
    exact ⟨AtMostOne.set_first hn i _, fun _ _ _ => rfl, h.offers_set hi rfl,
      h.hands_set i fun _ => .inl rfl⟩
  | finish hfl _ =>
    refine ⟨h.flights.set_of_mem hi hfl, ?_, h.offers_set hi rfl, h.hands_set i (absurd rfl)⟩
    intro a ha hf
    -- the only flight is over
    obtain ⟨j, hj⟩ := List.getElem?_of_mem ha
    obtain ⟨_, rfl⟩ | ⟨hne, hj⟩ := getElem?_set_cases hj
    · cases hf
    · exact absurd (h.flights j i a g hj hi hf hfl) hne
  | arrive _ _ =>
    refine ⟨h.flights_set hi rfl, h.inflight_set hi rfl, ?_, h.hands_set i fun _ => .inr rfl⟩
    exact (countP_set_le hi _ _).trans (Nat.succ_le_succ h.offers)
  | leave ho _ _ =>
    refine ⟨h.flights_set hi rfl, h.inflight_set hi rfl, ?_, h.hands_set i (absurd rfl)⟩
    rw [countP_set_of_drop hi (show g.offers.isSome = true by rw [ho]; rfl) rfl]
    exact Nat.sub_le_sub_right h.offers 1
  | pick ho _ _ _ =>
    refine ⟨h.flights_set hi rfl, h.inflight_set hi rfl, h.offers_set hi rfl,
      h.hands_set i fun _ => .inr ?_⟩
    rw [ho]
    rfl

end Hands

end Hands

/-! ## What a step does with the copies of an event -/

section Flow

variable {E : ℕ} {cfg : Config} {l : Label} {v v' : View} {err : Bool} {g g' : Role}

/-- **The flow of copies**, apart from an arrival, an edit and a cancel: copies only move between
store and hand, a new one needs a running offer, and what is typed was in hand. -/
structure Moves (E : ℕ) (v : View) (g : Role) (v' : View) (g' : Role) : Prop where
  hist : v'.hist = v.hist ∨ ∃ pane group expired now r,
    v'.hist = .injected pane group (relayBatchText group expired now) r :: v.hist ∧
      facesOf E group ⊆ g.hand
  offers : g'.offers = g.offers ∨ g'.offers = none
  stored : ∀ f ∈ v'.faces, f ∈ v.faces ∨ f ∈ g.hand
  hand : ∀ f ∈ g'.hand, f ∈ g.hand ∨ f ∈ v.faces ∨ g.offers ≠ none

theorem Step.flow (hs : Step E cfg l v err g v' g') :
    Moves E v g v' g' ∨
    (∃ m, m.eventID = E ∧ v'.hist = .offered m :: v.hist) ∨
    (∃ text ok, l = .edit E ∧ v'.hist = .edited E text ok v.quiet :: v.hist ∧
      v'.faces = v.faces.map (Face.edit text) ∧ g' = g) ∨
    (∃ ok, v'.hist = .cancelled E ok v.quiet :: v.hist ∧ v'.faces = [] ∧ g' = g) := by
  have keep : ∀ {f : Face}, f ∈ v.faces → f ∈ v.faces ∨ f ∈ g.hand := fun h => .inl h
  cases hs with
  | quiet hsub _ => exact .inl ⟨.inl rfl, .inl rfl, fun _ => keep, fun _ hf => .inl (hsub hf)⟩
  | delete hsub => exact .inl ⟨.inl rfl, .inl rfl, by simp, fun _ hf => .inl (hsub hf)⟩
  | insert hx _ hsub _ =>
    refine .inl ⟨.inl rfl, .inl rfl, fun f hf => ?_, fun _ hf => .inl (hsub hf)⟩
    rcases mem_append.mp hf with hf | hf
    · exact .inl hf
    · rw [mem_singleton.mp hf]
      exact .inr hx
  | take _ hsub _ _ =>
    exact .inl ⟨.inl rfl, .inl rfl, fun _ => keep, fun _ hf => .inr (.inl (hsub hf))⟩
  | finish | unclaim => exact .inl ⟨.inl rfl, .inl rfl, fun _ => keep, by simp⟩
  | arrive hm _ => exact .inr (.inl ⟨_, hm, rfl⟩)
  | leave _ _ _ => exact .inl ⟨.inl rfl, .inr rfl, fun _ => keep, by simp⟩
  | claim | record => exact .inl ⟨.inl rfl, .inl rfl, fun _ => keep, fun _ => .inl⟩
  | pick ho _ _ _ =>
    refine .inl ⟨.inl rfl, .inl rfl, fun _ => keep, fun _ _ => .inr (.inr ?_)⟩
    rw [ho]
    simp
  | inject hgrp hsub _ _ _ =>
    exact .inl
      ⟨.inr ⟨_, _, _, _, _, rfl, hgrp⟩, .inl rfl, fun _ => keep, fun _ hf => .inl (hsub hf)⟩
  | edit => exact .inr (.inr (.inl ⟨_, _, rfl, rfl, rfl, rfl⟩))
  | cancel => exact .inr (.inr (.inr ⟨_, rfl, rfl, rfl⟩))

end Flow

/-! ## Mandates -/

/-- What the operator's last word on an event is. -/
inductive Mandate where
  | free
  | gone
  | reads (text : String)

namespace Mandate

/-- Which copies a mandate allows. -/
def allows : Mandate → Face → Prop
  | free, _ => True
  | gone, _ => False
  | reads text, f => f.text = text ∧ f.edited = true

/-- An edit of an event that is gone changes nothing. -/
def edited (text : String) (quiet : Bool) : Mandate → Mandate
  | gone => gone
  | _ => if quiet then reads text else free

end Mandate

section Mandates

variable (E : ℕ)

/-- The mandate of a history, newest entry first. -/
def mandate : List Ev → Mandate
  | [] => .free
  | .offered m :: h => if m.eventID = E then .free else mandate h
  | .injected .. :: h => mandate h
  | .edited id text _ quiet :: h =>
    if id = E then (mandate h).edited text quiet else mandate h
  | .cancelled id _ quiet :: h => if id = E ∧ quiet = true then .gone else mandate h

/-- Every text typed for the event was allowed when it was typed, and is part of what was typed. -/
def Obeyed : List Ev → Prop
  | [] => True
  | .injected _ group text _ :: h =>
    (∀ x ∈ group, x.eventID = E → (mandate E h).allows x.face ∧ x.text.toList <:+: text.toList) ∧
      Obeyed h
  | .offered _ :: h => Obeyed h
  | .edited .. :: h => Obeyed h
  | .cancelled .. :: h => Obeyed h

theorem mandate_filter (h : List Ev) : mandate E (h.filter (Ev.about E)) = mandate E h := by
  induction h with
  | nil => rfl
  | cons ev h ih =>
    rw [filter_cons]
    cases ev with
    | offered m => by_cases hE : m.eventID = E <;> simp [Ev.about, mandate, hE, ih]
    | injected pane group text r =>
      split
      · exact ih
      · exact ih
    | edited id | cancelled id => by_cases hE : id = E <;> simp [Ev.about, mandate, hE, ih]

theorem obeyed_filter (h : List Ev) : Obeyed E (h.filter (Ev.about E)) ↔ Obeyed E h := by
  induction h with
  | nil => rfl
  | cons ev h ih =>
    rw [filter_cons]
    cases ev with
    | offered m => by_cases hE : m.eventID = E <;> simp [Ev.about, Obeyed, hE, ih]
    | injected pane group text r =>
      by_cases hE : Ev.about E (.injected pane group text r) = true
      · rw [if_pos hE]
        simp only [Obeyed, mandate_filter, ih]
      · rw [if_neg hE]
        have hn : ∀ x ∈ group, x.eventID ≠ E := by simpa [Ev.about] using hE
        simp only [Obeyed, ih]
        exact ⟨fun hh => ⟨fun x hx hid => absurd hid (hn x hx), hh⟩, fun hh => hh.2⟩
    | edited id | cancelled id => by_cases hE : id = E <;> simp [Ev.about, Obeyed, hE, ih]

end Mandates

/-! ## The typed text holds every row's text -/

theorem relayBatchMembers_contains (expired : Bool) (now : ℤ) {items : List Held} {x : Held}
    (hx : x ∈ items) (n : ℕ) :
    x.text.toList <:+: (relayBatchMembers expired now n items).toList := by
  induction items generalizing n with
  | nil => cases hx
  | cons item items ih =>
    simp only [relayBatchMembers, String.toList_append]
    rcases mem_cons.mp hx with rfl | hx
    · exact infix_append _ _ _
    · exact (ih hx (n + 1)).trans (suffix_append _ _).isInfix

theorem relayBatchText_contains (expired : Bool) (now : ℤ) {items : List Held} {x : Held}
    (hx : x ∈ items) : x.text.toList <:+: (relayBatchText items expired now).toList := by
  unfold relayBatchText
  split
  · rw [mem_singleton.mp hx]
    simp only [String.toList_append]
    exact (suffix_append _ _).isInfix
  · simp only [String.toList_append]
    exact (relayBatchMembers_contains expired now hx 1).trans (suffix_append _ _).isInfix

/-! ## The invariant -/

section Invariant

variable {E : ℕ} {cfg : Config} {v v' : View} {gs : List Role} {i : ℕ} {g g' : Role}

/-- Every copy of the event is one that `p` allows, and no offer can bring another. -/
structure Obedient (p : Face → Prop) (v : View) (gs : List Role) : Prop where
  stored : ∀ f ∈ v.faces, p f
  hands : ∀ g ∈ gs, ∀ f ∈ g.hand, p f
  offers : ∀ g ∈ gs, g.offers = none

/-- Copies that only move stay allowed. -/
theorem Obedient.moves {p : Face → Prop} (h : Obedient p v gs) (hi : gs[i]? = some g)
    (hm : Moves E v g v' g') : Obedient p v' (gs.set i g') := by
  have hg : g ∈ gs := mem_of_getElem? hi
  refine ⟨?_, ?_, ?_⟩
  · intro f hf
    rcases hm.stored f hf with hf | hf
    · exact h.stored f hf
    · exact h.hands g hg f hf
  · refine forall_mem_set h.hands fun f hf => ?_
    rcases hm.hand f hf with hf | hf | hne
    · exact h.hands g hg f hf
    · exact h.stored f hf
    · exact absurd (h.offers g hg) hne
  · refine forall_mem_set h.offers ?_
    rcases hm.offers with heq | heq
    · rw [heq]
      exact h.offers g hg
    · exact heq

/-- The invariant of operator control. -/
structure Controlled (E : ℕ) (v : View) (gs : List Role) : Prop where
  who : Hands v gs
  inForce : mandate E v.hist ≠ .free → Obedient (mandate E v.hist).allows v gs
  obeyed : Obeyed E v.hist

/-- A step of the history that leaves the mandate alone. -/
theorem Controlled.moves (h : Controlled E v gs) (hi : gs[i]? = some g)
    (hm : Moves E v g v' g') (hw : Hands v' (gs.set i g')) : Controlled E v' (gs.set i g') := by
  have hman : mandate E v'.hist = mandate E v.hist := by
    rcases hm.hist with heq | ⟨_, _, _, _, _, heq, _⟩
    · rw [heq]
    · rw [heq]
      rfl
  refine ⟨hw, fun hne => ?_, ?_⟩
  · rw [hman] at hne ⊢
    exact (h.inForce hne).moves hi hm
  rcases hm.hist with heq | ⟨pane, group, expired, now, r, heq, hgrp⟩
  · rw [heq]
    exact h.obeyed
  rw [heq]
  refine ⟨fun x hx hid => ⟨?_, relayBatchText_contains expired now hx⟩, h.obeyed⟩
  cases hM : mandate E v.hist with
  | free => trivial
  | gone | reads =>
    have hob := h.inForce (by rw [hM]; nofun)
    rw [hM] at hob
    exact hob.hands g (mem_of_getElem? hi) _ (hgrp ((mem_facesOf E).mpr ⟨x, hx, hid, rfl⟩))

/-- Edited rows, seen by the mandate after the edit. -/
theorem Controlled.edit (h : Controlled E v gs) (hh : v'.hist = .edited E text ok v.quiet :: v.hist)
    (hfc : v'.faces = v.faces.map (Face.edit text)) (hw : Hands v' gs) : Controlled E v' gs := by
  have hman : mandate E v'.hist = (mandate E v.hist).edited text v.quiet := by
    rw [hh]
    simp [mandate]
  refine ⟨hw, fun hne => ?_, by rw [hh]; exact h.obeyed⟩
  rw [hman] at hne ⊢
  -- a mandate in force after the edit is an old one of an event that is gone, or the edit's own
  have cases : mandate E v.hist = .gone ∨
      ((mandate E v.hist).edited text v.quiet = .reads text ∧ v.quiet = true) := by
    cases hM : mandate E v.hist with
    | gone => exact .inl rfl
    | free | reads =>
      cases hq : v.quiet with
      | true => exact .inr ⟨rfl, rfl⟩
      | false => simp [hM, hq, Mandate.edited] at hne
  rcases cases with hgo | ⟨hrea, hqui⟩
  · have hob := h.inForce (by rw [hgo]; nofun)
    rw [hgo] at hob ⊢
    refine ⟨fun f hf => ?_, hob.hands, hob.offers⟩
    rw [hfc] at hf
    obtain ⟨f₀, hf₀, _⟩ := mem_map.mp hf
    exact (hob.stored f₀ hf₀).elim
  · rw [hrea]
    have hn := h.who.of_quiet hqui
    refine ⟨fun f hf => ?_, fun a ha f hf => ?_, fun a ha => (hn a ha).2⟩
    · rw [hfc] at hf
      obtain ⟨f₀, _, rfl⟩ := mem_map.mp hf
      exact ⟨rfl, rfl⟩
    · rw [(hn a ha).1] at hf
      cases hf

theorem Controlled.cancel (h : Controlled E v gs)
    (hh : v'.hist = .cancelled E ok v.quiet :: v.hist) (hfc : v'.faces = [])
    (hw : Hands v' gs) : Controlled E v' gs := by
  refine ⟨hw, fun hne => ?_, by rw [hh]; exact h.obeyed⟩
  cases hqui : v.quiet with
  | true =>
    have hn := h.who.of_quiet hqui
    refine ⟨by simp [hfc], fun a ha f hf => ?_, fun a ha => (hn a ha).2⟩
    rw [(hn a ha).1] at hf
    cases hf
  | false =>
    have hman : mandate E v'.hist = mandate E v.hist := by simp [hh, mandate, hqui]
    rw [hman] at hne ⊢
    have hob := h.inForce hne
    exact ⟨by simp [hfc], hob.hands, hob.offers⟩

/-- **One step** of any thread keeps the invariant. -/
theorem Controlled.step {l : Label} {err : Bool} (hs : Step E cfg l v err g v' g')
    (hi : gs[i]? = some g) (h : Controlled E v gs) : Controlled E v' (gs.set i g') := by
  have hw := h.who.step hs hi
  obtain hm | ⟨m, hm, hh⟩ | ⟨text, ok, _, hh, hfc, rfl⟩ | ⟨ok, hh, hfc, rfl⟩ :=
    hs.flow
  · exact h.moves hi hm hw
  · refine ⟨hw, fun hne => absurd ?_ hne, by rw [hh]; exact h.obeyed⟩
    simp [hh, mandate, hm]
  · rw [set_eq_self hi] at hw ⊢
    exact h.edit hh hfc hw
  · rw [set_eq_self hi] at hw ⊢
    exact h.cancel hh hfc hw

end Invariant

/-! ## Runs -/

section Runs

variable {E : ℕ} {cfg : Config} {lim : Limits Node Answer Label Proc}

/-- Any procedure may be started, any step taken, and the node may restart at any time. -/
def unlimited : Limits Node Answer Label Proc where
  start _ := true
  step _ _ _ := true
  restart s := some s.restarted

theorem controlled_keeps (hE : E ≠ 0) (hres : ∀ s s', lim.restart s = some s' → s' = s.restarted) :
    (carryProtocol E cfg).Keeps (body cfg) lim fun s gs => Controlled E (s.view E) gs where
  follows r _ := body_follows hE r
  enter s gs r _ h := by
    -- a new thread has nothing in hand
    refine ⟨⟨h.who.flights.concat_of_not (by simp [carryProtocol]), ?_, ?_, ?_⟩, fun hne => ?_,
      h.obeyed⟩
    · exact forall_mem_concat h.who.inflight nofun
    · rw [countP_append]
      exact h.who.offers
    · exact forall_mem_concat h.who.hands fun hne => absurd rfl hne
    · have hob := h.inForce hne
      exact ⟨hob.stored, forall_mem_concat hob.hands nofun, forall_mem_concat hob.offers rfl⟩
  rule _ _ _ _ _ _ _ _ hi _ hs h := h.step hs hi
  restart s s' gs hs h := by
    -- the store and the history stay, and nobody has anything in hand
    rw [hres s s' hs]
    refine ⟨⟨AtMostOne.nil, nofun, Nat.zero_le _, nofun⟩, fun hne => ?_, h.obeyed⟩
    exact ⟨(h.inForce hne).stored, nofun, nofun⟩

/-- In every state that a run reaches, the operator's last word is obeyed. -/
theorem controlled_run (hE : E ≠ 0)
    (hres : ∀ s s', lim.restart s = some s' → s' = s.restarted) {s : Node} (hs : s.hist = [])
    {t : Sys Node Answer Label Proc} (hr : Run (body cfg) lim ⟨s, []⟩ t) :
    Obeyed E t.shared.hist ∧
      ∀ x ∈ t.shared.rows, x.eventID = E → (mandate E t.shared.hist).allows x.face := by
  have hi : (carryProtocol E cfg).Holds (fun s gs => Controlled E (s.view E) gs) ⟨s, []⟩ := by
    refine ⟨[], .nil, ⟨⟨AtMostOne.nil, nofun, Nat.zero_le _, nofun⟩, fun hne => absurd ?_ hne, ?_⟩⟩
    · simp [Node.view, hs, mandate]
    · simp [Node.view, hs, Obeyed]
  obtain ⟨gs, _, h⟩ := (controlled_keeps hE hres).run hr hi
  refine ⟨(obeyed_filter E _).mp h.obeyed, fun x hx hid => ?_⟩
  have hinF := h.inForce
  have hman : mandate E (t.shared.view E).hist = mandate E t.shared.hist := mandate_filter E _
  rw [hman] at hinF
  by_cases hfree : mandate E t.shared.hist = .free
  · rw [hfree]
    trivial
  · exact (hinF hfree).stored _ ((mem_facesOf E).mpr ⟨x, hx, hid, rfl⟩)

theorem mandate_after_cancel (hno : ∀ m, .offered m ∈ pre → m.eventID ≠ E) :
    mandate E (pre ++ .cancelled E ok true :: post) = .gone := by
  induction pre with
  | nil => simp [mandate]
  | cons ev pre ih =>
    have ih := ih fun m hm => hno m (.tail _ hm)
    cases ev with
    | offered m => simp [mandate, hno m (.head _), ih]
    | injected pane group text r => exact ih
    | edited id text ok' quiet => by_cases hE : id = E <;> simp [mandate, hE, ih, Mandate.edited]
    | cancelled id ok' quiet => by_cases hE : id = E <;> simp [mandate, hE, ih]

theorem mandate_after_edit (hno : ∀ m, .offered m ∈ pre → m.eventID ≠ E)
    (hed : ∀ text' ok' quiet, .edited E text' ok' quiet ∉ pre) :
    mandate E (pre ++ .edited E text ok true :: post) = .gone ∨
      mandate E (pre ++ .edited E text ok true :: post) = .reads text := by
  induction pre with
  | nil => cases hM : mandate E post <;> simp [mandate, hM, Mandate.edited]
  | cons ev pre ih =>
    have ih := ih (fun m hm => hno m (.tail _ hm))
      (fun text' ok' quiet hm => hed text' ok' quiet (.tail _ hm))
    cases ev with
    | offered m => simpa [mandate, hno m (.head _)] using ih
    | injected pane group text r => exact ih
    | edited id text' ok' quiet =>
      have hid : id ≠ E := by
        rintro rfl
        exact hed text' ok' quiet (.head _)
      simpa [mandate, hid] using ih
    | cancelled id ok' quiet =>
      by_cases hE : id = E ∧ quiet = true
      · exact .inl (by simp [mandate, hE])
      · simpa [mandate, hE] using ih

/-- A text typed after some point was allowed by the mandate of that moment. -/
theorem Obeyed.of_mem (h : Obeyed E (pre ++ post)) {pane : String}
    {group : List Held} {r : InjectResult} (hmem : .injected pane group text r ∈ pre) :
    ∃ later, later <:+ pre ∧ ∀ x ∈ group, x.eventID = E →
      (mandate E (later ++ post)).allows x.face ∧ x.text.toList <:+: text.toList := by
  induction pre with
  | nil => cases hmem
  | cons ev pre ih =>
    have ht : Obeyed E (pre ++ post) := by
      cases ev with
      | offered | edited | cancelled => exact h
      | injected pane group text r => exact h.2
    rcases mem_cons.mp hmem with rfl | hmem
    · exact ⟨pre, suffix_cons _ _, h.1⟩
    · obtain ⟨later, hs, hl⟩ := ih ht hmem
      exact ⟨later, hs.trans (suffix_cons _ _), hl⟩

/-- **A quiet cancel holds**: from the moment it returned `true` with nobody having the event in
hand, no text of the event is typed and no row of it is stored, until the hub offers it again. -/
theorem quiet_cancel_holds (cfg : Config) {E : ℕ} (hE : E ≠ 0) {s : Node} (hs : s.hist = [])
    {t : Sys Node Answer Label Proc} (hr : Run (body cfg) unlimited ⟨s, []⟩ t)
    {pre post : List Ev} (hh : t.shared.hist = pre ++ .cancelled E true true :: post)
    (hno : ∀ m, .offered m ∈ pre → m.eventID ≠ E) :
    (∀ pane group text r, .injected pane group text r ∈ pre → ∀ x ∈ group, x.eventID ≠ E) ∧
      ∀ x ∈ t.shared.rows, x.eventID ≠ E := by
  obtain ⟨hob, hro⟩ := controlled_run hE (fun _ _ h => (Option.some.inj h).symm) hs hr
  rw [hh] at hob hro
  refine ⟨fun pane group text r hmem x hx hid => ?_, fun x hx hid => ?_⟩
  · obtain ⟨later, hsuf, hl⟩ := hob.of_mem hmem
    have ha := (hl x hx hid).1
    rw [mandate_after_cancel fun m hm => hno m (hsuf.subset hm)] at ha
    exact ha
  · have ha := hro x hx hid
    rw [mandate_after_cancel hno] at ha
    exact ha

end Runs

/-! ## A node to try it on -/

section Sample

def sampleConfig : Config := { mode := .apply, fingerprint := fun t => t }

def sampleNode : Node := { rows := Table.empty, delivered := Table.empty }

def sampleDirective (id : ℕ) (text : String) : Directive :=
  { pane := "p1", lane := "w1", eventID := id, text := text, durable := fun _ => by decide }

def sampleOccupant : Occupant := { pane := "p1", agent := "claude", session := "s1" }

/-- The outside when the pane has a status, and how it takes an inject. -/
def sampleAnswer (status : AgentStatus) (outcome : InjectOutcome) : Answer where
  reply := { status := some status, occupant := some sampleOccupant, harness := "claude" }
  verdict := { outcome := outcome }

/-- The row of the first sample directive, once it is held. -/
def sampleRow (text : String) (edited : Bool) : Held where
  pane := "p1"
  lane := "w1"
  eventID := 7
  text := text
  maxWait := defaultRelayMaxWait
  recvSeq := 1
  edited := edited
  lease := sampleOccupant.key

/-- Thread `i` takes `n` steps. -/
def steps (i n : ℕ) (e : Answer) : List (Move Proc Answer) := List.replicate n (.sched i e)

/-- The history, and what the store has. -/
def Node.outcome (n : Node) : List Ev × List (ℕ × String × Bool) :=
  (n.hist, n.rows.rows.map fun x => (x.eventID, x.text, x.edited))

/-- A directive arrives while its pane is busy, is held, and its wait starts. -/
def heldMoves : List (Move Proc Answer) :=
  [.start (.offer (sampleDirective 7 "go on"))] ++ steps 0 13 (sampleAnswer .working .delivered)

/-- The row is held, cancelled, and another directive is typed. -/
def cancelMoves : List (Move Proc Answer) :=
  heldMoves ++ [.start (.cancel 7)] ++ steps 2 3 (sampleAnswer .idle .delivered) ++
    [.start (.offer (sampleDirective 8 "report"))] ++ steps 3 9 (sampleAnswer .idle .delivered)

/-- The typed row of the other directive. -/
def otherRow : Held where
  pane := "p1"
  lane := "w1"
  eventID := 8
  text := "report"
  recvSeq := 2

/-- What happens after the cancel. -/
def afterCancel : List Ev :=
  [.injected "p1" [otherRow] "[r8gufd] report" {}, .offered (sampleDirective 8 "report")]

theorem cancelled_event_stays_gone :
    ∃ t, Run (body sampleConfig) unlimited ⟨sampleNode, []⟩ t ∧
      t.shared.hist = afterCancel ++ .cancelled 7 true true ::
        [.offered (sampleDirective 7 "go on")] ∧
      ∀ x ∈ t.shared.rows, x.eventID ≠ 7 := by
  refine Run.exists_of_replay_and cancelMoves (by decide +kernel) fun t hr hh =>
    (quiet_cancel_holds sampleConfig (by decide) rfl hr hh ?_).2
  intro m hm
  simp only [afterCancel, mem_cons, not_mem_nil, or_false, reduceCtorEq, false_or,
    Ev.offered.injEq] at hm
  rw [hm]
  decide

/-- A release takes the row, the cancel returns `true`, and the release types the text. -/
def lateCancelMoves : List (Move Proc Answer) :=
  heldMoves ++ steps 1 2 (sampleAnswer .idle .retryable) ++ [.start (.cancel 7)] ++
    steps 2 2 (sampleAnswer .idle .retryable) ++ steps 1 10 (sampleAnswer .idle .retryable)

/-- The release that took the row before the cancel types its text, and holds it again when the
pane refuses it. -/
theorem cancelled_event_is_typed_and_held :
    ∃ t, Run (body sampleConfig) unlimited ⟨sampleNode, []⟩ t ∧
      t.shared.hist = [.injected "p1" [sampleRow "go on" false] "[r7j1ad] go on"
          { outcome := .retryable }] ++ .cancelled 7 true false ::
        [.offered (sampleDirective 7 "go on")] ∧
      t.shared.rows.rows.map (fun x => (x.eventID, x.text, x.edited)) = [(7, "go on", false)] := by
  exact Run.exists_of_replay lateCancelMoves (by decide +kernel)

end Sample

/-! ## Edits -/

section Edits

/-- Like `unlimited`, but an edit of the event waits until the event is quiet. -/
def quietEdits (E : ℕ) : Limits Node Answer Label Proc where
  start _ := true
  step l s _ := match l with
    | .edit id => id ≠ E || s.quiet E
    | _ => true
  restart s := some s.restarted

/-- Within these limits every edit in the history was quiet. -/
theorem edits_quiet_keeps {E : ℕ} (cfg : Config) (hE : E ≠ 0) :
    (carryProtocol E cfg).Keeps (body cfg) (quietEdits E) fun s _ =>
      ∀ text ok quiet, .edited E text ok quiet ∈ (s.view E).hist → quiet = true where
  follows r _ := body_follows hE r
  enter _ _ _ _ h := h
  rule l s e s' gs i g g' _ hl hs h := by
    intro text ok quiet hmem
    obtain hm | ⟨m, _, hh⟩ | ⟨text', ok', rfl, hh, _⟩ | ⟨ok', hh, _⟩ := hs.flow
    · rcases hm.hist with heq | ⟨_, _, _, _, _, heq, _⟩
      · rw [heq] at hmem
        exact h text ok quiet hmem
      · rw [heq, mem_cons] at hmem
        exact h text ok quiet (hmem.resolve_left nofun)
    · rw [hh, mem_cons] at hmem
      exact h text ok quiet (hmem.resolve_left nofun)
    · rw [hh, mem_cons] at hmem
      rcases hmem with heq | hmem
      · have hq : s.quiet E = true := by simpa [quietEdits] using hl
        rw [(Ev.edited.inj heq).2.2.2, ← view_quiet, hq]
      · exact h text ok quiet hmem
    · rw [hh, mem_cons] at hmem
      exact h text ok quiet (hmem.resolve_left nofun)
  restart s s' gs hs h := by
    rw [← Option.some.inj hs]
    exact h

/-- **An edit holds**: in every run in which the event is edited only when no release and no offer
has it in hand, every text typed after a successful edit carries the new text for the event, and
its stored row keeps the text and the mark, until the event is edited or offered again. -/
theorem edited_text_holds (cfg : Config) {E : ℕ} (hE : E ≠ 0) {s : Node} (hs : s.hist = [])
    {t : Sys Node Answer Label Proc} (hr : Run (body cfg) (quietEdits E) ⟨s, []⟩ t)
    {text : String} {quiet : Bool} {pre post : List Ev}
    (hh : t.shared.hist = pre ++ .edited E text true quiet :: post)
    (hno : ∀ m, .offered m ∈ pre → m.eventID ≠ E)
    (hed : ∀ text' ok' quiet', .edited E text' ok' quiet' ∉ pre) :
    (∀ pane group typed r, .injected pane group typed r ∈ pre → ∀ x ∈ group, x.eventID = E →
      x.text = text ∧ text.toList <:+: typed.toList) ∧
    ∀ x ∈ t.shared.rows, x.eventID = E → x.text = text ∧ x.edited = true := by
  have hqui : quiet = true := by
    have hi : (carryProtocol E cfg).Holds (fun s _ =>
        ∀ text ok quiet, .edited E text ok quiet ∈ (s.view E).hist → quiet = true) ⟨s, []⟩ :=
      ⟨[], .nil, by simp [Node.view, hs]⟩
    obtain ⟨gs, _, h⟩ := (edits_quiet_keeps cfg hE).run hr hi
    refine h text true quiet (mem_filter.mpr ⟨?_, by simp [Ev.about]⟩)
    simp [hh]
  subst hqui
  obtain ⟨hob, hro⟩ := controlled_run hE (fun _ _ h => (Option.some.inj h).symm) hs hr
  rw [hh] at hob hro
  -- what is allowed after the edit has its text, whatever came in between
  have allowed : ∀ {later : List Ev} {f : Face}, later <:+ pre →
      (mandate E (later ++ .edited E text true true :: post)).allows f →
      f.text = text ∧ f.edited = true := by
    intro later f hsuf hf
    rcases mandate_after_edit (fun m hm => hno m (hsuf.subset hm))
      (fun text' ok' quiet' hm => hed text' ok' quiet' (hsuf.subset hm)) with heq | heq
    · rw [heq] at hf
      exact hf.elim
    · rw [heq] at hf
      exact hf
  refine ⟨fun pane group typed r hmem x hx hid => ?_, fun x hx hid => ?_⟩
  · obtain ⟨later, hsuf, hl⟩ := hob.of_mem hmem
    obtain ⟨ha, hc⟩ := hl x hx hid
    have ht : x.text = text := (allowed hsuf ha).1
    exact ⟨ht, ht ▸ hc⟩
  · exact allowed (suffix_refl _) (hro x hx hid)

/-- The row is held, edited and typed. -/
def editMoves : List (Move Proc Answer) :=
  heldMoves ++ [.start (.edit 7 "stop")] ++ steps 2 1 (sampleAnswer .idle .delivered) ++
    steps 1 8 (sampleAnswer .idle .delivered)

theorem edited_row_is_typed :
    ∃ t, Run (body sampleConfig) (quietEdits 7) ⟨sampleNode, []⟩ t ∧
      t.shared.hist = [.injected "p1" [sampleRow "stop" true] "[r7tb7y] stop" {}] ++
        .edited 7 "stop" true true :: [.offered (sampleDirective 7 "go on")] ∧
      ∀ x ∈ t.shared.rows, x.eventID = 7 → x.text = "stop" ∧ x.edited = true := by
  refine Run.exists_of_replay_and editMoves (by decide +kernel) fun t hr hh =>
    (edited_text_holds sampleConfig (by decide) rfl hr hh ?_ ?_).2
  · intro m hm
    simp at hm
  · intro text' ok' quiet' hm
    simp at hm

/-- A release takes the row, the edit returns `true`, and the pane refuses the text. -/
def lateEditMoves : List (Move Proc Answer) :=
  heldMoves ++ steps 1 2 (sampleAnswer .idle .retryable) ++ [.start (.edit 7 "stop")] ++
    steps 2 1 (sampleAnswer .idle .retryable) ++ steps 1 10 (sampleAnswer .idle .retryable)

/-- The release that took the row before the edit types the old text, and holds the row again with
the old text and without the mark. -/
theorem edited_text_is_lost :
    ∃ t, Run (body sampleConfig) unlimited ⟨sampleNode, []⟩ t ∧
      t.shared.hist = [.injected "p1" [sampleRow "go on" false] "[r7j1ad] go on"
          { outcome := .retryable }] ++ .edited 7 "stop" true false ::
        [.offered (sampleDirective 7 "go on")] ∧
      t.shared.rows.rows.map (fun x => (x.eventID, x.text, x.edited)) = [(7, "go on", false)] := by
  exact Run.exists_of_replay lateEditMoves (by decide +kernel)

end Edits

end Panewire.Relay

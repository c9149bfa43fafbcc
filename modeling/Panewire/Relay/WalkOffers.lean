import Panewire.Relay.Walk

/-!
# Offers, operator control and restarts keep to the carrying protocol

The rest of the manager's procedures, and with them `body_follows`: whatever procedure a thread of
a node runs, it keeps to the carrying protocol of every durable event.

An offer gets its directive in hand only in `offerIdentified`, when it has looked for the held row;
an offer of another event never has anything of this one in hand, so both cases go through the
same lemmas.
-/

namespace Panewire.Relay

open Data Conc Protocol

section Offers

variable {E : ℕ} {cfg : Config} {g₀ g : Role} {m : Directive}

/-- The row of a directive, up to what does not matter here. -/
def Directive.plain (m : Directive) : Held := m.held 0 ⟨"idle", 0⟩ 0

/-- What an offer of another event is about to type or hold is none of this one's rows. -/
theorem ready_plain_of_ne (hE : m.eventID ≠ E) (h : Ready E g₀ [] g) : Ready E g₀ [m.plain] g := by
  have hn : facesOf E [m.plain] = [] := facesOf_cons_ne E hE []
  exact { h with carries := by simp [hn], lanes := by simp [hn] }

theorem dispatch_follows (hp : E ≠ 0) (seq : ℕ) (h : Ready E g₀ [m.plain] g) :
    Carries E cfg g (dispatch cfg m seq) fun _ => Ready E g₀ [] := by
  unfold dispatch
  dsimp only
  split
  · refine .bind_same (ask_follows _) fun now => ?_
    exact deliver_follows hp false (h.replace rfl rfl)
  · refine .bind_same (ask_follows _) fun answer => ?_
    split
    · exact deliver_follows hp false (h.replace rfl rfl)
    · exact hold_follows hp false _ (h.replace rfl rfl)

theorem recoverExisting_follows (item : Held) :
    (carryProtocol E cfg).Same g (recoverExisting item) := by
  unfold recoverExisting
  split
  · exact .pure rfl
  · refine .bind_same (storeCall_still fun _ _ => rfl) ?_
    rintro (_ | rows)
    · exact .pure rfl
    · refine .bind_same (still_follows fun _ _ => rfl) fun _ => ?_
      exact .bind_same (emit_follows _) fun _ => arm_follows _ _

theorem relayDeliveredIdentity_follows (h : Ready E g₀ [] g) :
    Carries E cfg g (relayDeliveredIdentity cfg m) fun _ => Ready E g₀ [] := by
  refine .bind_same (storeCall_still fun _ _ => rfl) ?_
  rintro (_ | _ | previous)
  · exact .pure h
  · exact .pure h
  have hn : ∀ action, Carries E cfg g (do
      journalDedupe action m.lane m.eventID m.pane
      return false) fun _ => Ready E g₀ [] := fun action =>
    .bind_same (journalDedupe_follows _ _ _ _) fun _ => .pure h
  dsimp only
  split
  · exact hn _
  · split
    · exact hn _
    · refine .bind_same (journalDedupe_follows _ _ _ _) fun _ => ?_
      refine .bind_same (emit_follows _) fun _ => ?_
      exact .bind (deleteHeld_ready _ h) fun _ _ hg' => .pure hg'

/-- The offer's own rule: a row found on another pane is retired. -/
def Reroutes (cfg : Config) (m : Directive) (existing : Held) : Prop :=
  cfg.mode ≠ .off ∧ m.pane ≠ "" ∧ existing.pane ≠ relayCancelledPane ∧ existing.pane ≠ m.pane

/-- **The look for the held row** is where a directive gets in hand. -/
theorem readHeld_follows (h : Ready E g₀ [] g) (ho : m.eventID = E → g₀.offers = some m)
    (hcl : m.eventID = E → cfg.mode ≠ .off → g₀.claim = some m.lane) :
    Carries E cfg g
      (storeCall (.readHeld m.lane m.eventID) fun s _ => (s, s.rows.find (m.lane, m.eventID)))
      fun r g' => Ready E g₀ [] g' ∧
        ((∀ existing, r = some (some existing) → Reroutes cfg m existing) →
          Ready E g₀ [m.plain] g') := by
  refine .act fun s e => ?_
  by_cases hE : m.eventID = E
  swap
  · refine ⟨g, ?_, h, fun _ => ready_plain_of_ne hE h⟩
    split <;> exact .still
  -- picking the directive up, with what the look found
  have pick : (e.storeErr = true ∨ (∀ f ∈ (s.view E).faces, f.lane ≠ m.lane) ∨
      ∃ f ∈ (s.view E).faces, f.lane = m.lane ∧ f.pane ≠ m.pane) →
      ∀ {p : Prop}, ∃ g', Step E cfg (.readHeld m.lane m.eventID) (s.view E) e.storeErr g
        (s.view E) g' ∧ Ready E g₀ [] g' ∧ (p → Ready E g₀ [m.plain] g') := by
    intro hfd p
    refine ⟨{ g with hand := [m.face], faulty := g.faulty || e.storeErr }, ?_, ?_⟩
    · rw [hE]
      refine .pick (h.frame.1.trans (ho hE)) (fun hm => h.frame.2.1.trans (hcl hE hm)) h.clean
        hfd
    · have hp := h.pending.imp_left fun hf => show (g.faulty || e.storeErr) = true by rw [hf]; rfl
      refine ⟨⟨h.frame, hp, by simp, by simp, by simp⟩, fun _ => ⟨h.frame, hp, ?_, ?_, by simp⟩⟩
      · rw [facesOf_cons_self E (show m.plain.eventID = E from hE)]
        exact .refl _
      · rw [facesOf_cons_self E (show m.plain.eventID = E from hE)]
        simp
  cases he : e.storeErr with
  | true => exact pick (.inl he)
  | false =>
    cases hfi : s.rows.find (m.lane, m.eventID) with
    | none =>
      have hfree : ∀ f ∈ (s.view E).faces, f.lane ≠ m.lane := by
        intro f hf hl
        obtain ⟨x, hx, hid, rfl⟩ := (mem_facesOf E).mp hf
        exact Table.find_eq_none.mp hfi x hx (Prod.ext hl (hid.trans hE.symm))
      exact pick (.inr (.inl hfree))
    | some existing =>
      obtain ⟨hmem, hk⟩ := Table.mem_of_find hfi
      obtain ⟨hl, hid⟩ := Prod.mk.inj hk
      by_cases hr : Reroutes cfg m existing
      · have hfa : existing.face ∈ (s.view E).faces :=
          (mem_facesOf E).mpr ⟨existing, hmem, hid.trans hE, rfl⟩
        exact pick (.inr (.inr ⟨existing.face, hfa, hl, hr.2.2.2⟩))
      · refine ⟨g, .still, h, fun ha => absurd (ha existing ?_) hr⟩
        simp [hfi]

theorem offerIdentified_follows (hp : E ≠ 0) (seq : ℕ) (h : Ready E g₀ [] g)
    (ho : m.eventID = E → g₀.offers = some m)
    (hcl : m.eventID = E → cfg.mode ≠ .off → g₀.claim = some m.lane) :
    Carries E cfg g (offerIdentified cfg m seq) fun _ => Ready E g₀ [] := by
  refine .bind (readHeld_follows h ho hcl) ?_
  rintro (_ | _ | existing) g' ⟨hc, hh⟩
  · exact dispatch_follows hp seq (hh nofun)
  · exact dispatch_follows hp seq (hh nofun)
  dsimp only
  split
  · next hr =>
    have hrd := hh fun x hx => by
      obtain rfl := Option.some.inj (Option.some.inj hx)
      exact hr
    refine .bind_same (journalDedupe_follows _ _ _ _) fun _ => ?_
    refine .bind (expireHeldLease_follows existing _ _ hrd) fun _ g'' hg'' => ?_
    refine .bind_same (still_follows fun s _ => ?_) fun _ => ?_
    · unfold Node.pruneHeld
      split <;> rfl
    · refine .bind_same (arm_follows _ _) fun _ => ?_
      exact dispatch_follows hp seq hg''
  · refine .bind_same (.when (fun _ => journalDedupe_follows _ _ _ _) fun _ => rfl) fun _ => ?_
    exact (recoverExisting_follows existing).of_same fun _ => hc

/-- The claim of an offer. -/
def claimOf (E : ℕ) (m : Directive) : Option String := if m.eventID = E then some m.lane else none

theorem claimDedupeInFlight_follows (h : Ready E g₀ [] g) (hn : g₀.claim = none) :
    Carries E cfg g (claimDedupeInFlight m) fun owned =>
      Ready E { g₀ with claim := if owned then claimOf E m else none } [] := by
  have hsame : Ready E { g₀ with claim := none } [] g :=
    { h with frame := ⟨h.frame.1, h.frame.2.1.trans hn, h.frame.2.2⟩ }
  refine .actWhen fun s e _ => ?_
  split
  · exact ⟨g, .still, hsame⟩
  next hfree =>
  show ∃ g', Step E cfg _ _ _ g (Node.view E { s with claims := _ :: s.claims }) g' ∧ _
  rw [view_claim]
  by_cases hE : m.eventID = E
  · rw [if_pos hE]
    refine ⟨{ g with claim := some m.lane }, .claim ?_ (h.frame.2.1.trans hn), ?_⟩
    · rw [mem_view_claims, ← hE]
      exact hfree
    · exact { h with frame := ⟨h.frame.1, by simp [claimOf, hE], h.frame.2.2⟩ }
  · rw [if_neg hE]
    exact ⟨g, .still, by simpa [claimOf, hE] using hsame⟩

theorem releaseDedupeInFlight_follows (hn : g₀.claim = none)
    (h : Ready E { g₀ with claim := claimOf E m } [] g) :
    Carries E cfg g (releaseDedupeInFlight m) fun _ => Ready E g₀ [] := by
  refine .actWhen fun s e _ => ?_
  show ∃ g', Step E cfg _ _ _ g
    (Node.view E { s with claims := s.claims.filter fun k => k ≠ (m.lane, m.eventID) }) g' ∧ _
  rw [view_unclaim]
  have hg : g.claim = claimOf E m := h.frame.2.1
  by_cases hE : m.eventID = E
  · rw [if_pos hE]
    refine ⟨{ g with claim := none, hand := [] }, .unclaim ?_ h.clean, ?_⟩
    · simpa [claimOf, hE] using hg
    · exact ⟨⟨h.frame.1, hn.symm, h.frame.2.2⟩, h.pending, by simp, by simp, by simp⟩
  · rw [if_neg hE]
    refine ⟨g, .still, { h with frame := ⟨h.frame.1, ?_, h.frame.2.2⟩ }⟩
    simpa [claimOf, hE, hn] using hg

theorem offerFrom_follows (hp : E ≠ 0) (seq : ℕ) (h : Ready E g₀ [] g)
    (hoff : m.eventID = E → g₀.offers = some m) (hn : g₀.claim = none) :
    Carries E cfg g (offerFrom cfg m seq) fun _ => Ready E g₀ [] := by
  -- a directive without identity is not of a durable event
  have hpl : m.identified = false → Ready E g₀ [m.plain] g := by
    intro hid
    refine ready_plain_of_ne (fun hE => ?_) h
    have hm : m.eventID ≠ 0 := hE ▸ hp
    simp [Directive.identified, Nat.pos_of_ne_zero hm, m.durable hm] at hid
  unfold offerFrom
  split
  · exact .pure h
  refine .bind_same (.when (fun _ => still_follows fun _ _ => rfl) fun _ => rfl) fun _ => ?_
  split
  · next hmo =>
    split
    · exact offerIdentified_follows hp seq h hoff fun _ hm => absurd hmo hm
    · next hid => exact dispatch_follows hp seq (hpl (by simpa using hid))
  split
  · next hid =>
    refine .bind_same (journalDedupe_follows _ _ _ _) fun _ => ?_
    exact dispatch_follows hp seq (hpl (by simpa using hid))
  refine .bind (claimDedupeInFlight_follows h hn) fun owned g' hg' => ?_
  refine .when (fun ho => ?_) fun ho => ?_
  · rw [if_pos ho] at hg'
    refine .bind (relayDeliveredIdentity_follows hg') fun stop g'' hg'' => ?_
    refine .bind (Q := fun _ => Ready E { g₀ with claim := claimOf E m } [])
      (.when (fun _ => ?_) fun _ => hg'') fun _ g''' hg''' => ?_
    · refine offerIdentified_follows hp seq hg'' hoff fun hE _ => ?_
      simp [claimOf, hE]
    · exact releaseDedupeInFlight_follows hn hg'''
  · rw [if_neg (by simp [ho])] at hg'
    exact { hg' with frame := ⟨hg'.frame.1, hg'.frame.2.1.trans hn.symm, hg'.frame.2.2⟩ }

theorem offer_follows (hp : E ≠ 0) (m : Directive) :
    (carryProtocol E cfg).Safe {} (offer cfg m) := by
  set g₀ : Role := { offers := if m.eventID = E then some m else none } with hg₀
  have hrd : Ready E g₀ [] g₀ := ⟨⟨rfl, rfl, rfl⟩, .inr ⟨rfl, nofun⟩, by simp, by simp, by simp⟩
  refine .bind (Q := fun _ g => g = g₀) (.act fun s e => ⟨g₀, ?_, rfl⟩) ?_
  · show Step E cfg (.offer m) (s.view E) e.storeErr {} (Node.view E { s with
      offering := m.eventID :: s.offering, hist := .offered m :: s.hist }) g₀
    rw [view_arrive]
    by_cases hE : m.eventID = E
    · rw [if_pos hE, hg₀, if_pos hE]
      exact .arrive hE rfl
    · rw [if_neg hE, hg₀, if_neg hE]
      exact .still
  · rintro seq _ rfl
    refine .bind (offerFrom_follows hp seq hrd (fun hE => by rw [hg₀, if_pos hE]) rfl)
      fun _ g hg => ?_
    refine .act fun s e => ?_
    show ∃ g', Step E cfg _ _ _ g (Node.view E { s with offering := s.offering.erase m.eventID })
      g' ∧ True
    rw [view_leave]
    by_cases hE : m.eventID = E
    · rw [if_pos hE]
      refine ⟨_, .leave (m := m) ?_ hg.frame.2.1 hg.clean, trivial⟩
      rw [hg.frame.1, hg₀, if_pos hE]
    · rw [if_neg hE]
      exact ⟨g, .still, trivial⟩

end Offers

/-! ## Operator control and restarts -/

section Control

variable {E : ℕ} {cfg : Config} {g : Role}

theorem edit_follows (id : ℕ) (text : String) : (carryProtocol E cfg).Safe {} (edit id text) := by
  refine .when (fun _ => .actWhen fun s e _ => ⟨{}, ?_, trivial⟩) fun _ => trivial
  show Step E cfg (.edit id) _ _ _ (Node.view E (if e.storeErr then s else (s.edit id text).1)) _
  split
  · exact .still
  · rw [view_edit]
    split
    · next hE => exact hE ▸ .edit
    · exact .still

theorem cancel_follows (id : ℕ) : (carryProtocol E cfg).Safe {} (cancel id) := by
  refine .when (fun _ => ?_) fun _ => trivial
  refine .bind (Q := fun _ g => g = {}) (.actWhen fun s e _ => ⟨{}, ?_, rfl⟩) ?_
  · show Step E cfg (.cancel id) _ _ _
      (Node.view E (if e.storeErr then (s, none) else s.cancel id).1) _
    split
    · exact .still
    · rw [view_cancel]
      split
      · next hE => exact hE ▸ .cancel
      · exact .still
  · rintro (_ | panes) _ rfl
    · exact .pure trivial
    · refine .bind (.forEach (fun _ g => g = {}) ?_ rfl) ?_
      · rintro pane _ _ rfl
        exact arm_follows false pane
      · rintro _ _ rfl
        exact (emit_follows _).safe

theorem restore_follows : (carryProtocol E cfg).Safe {} restore := by
  refine .bind_same (storeCall_still fun _ _ => rfl) ?_
  rintro (_ | items)
  · exact .pure trivial
  · refine .bind (.forEach (fun _ _ => True) (fun h _ g _ => ?_) trivial)
      fun _ g _ => ?_
    · exact (deleteHeld_follows h.eventID).safe
    · refine .bind_same (still_follows fun _ _ => rfl) fun _ => ?_
      exact (still_follows fun _ _ => rfl).safe

theorem retireDelivered_follows (item : Held) :
    (carryProtocol E cfg).Safe g (retireDelivered cfg item) := by
  unfold retireDelivered
  split
  · exact .pure trivial
  refine .bind_same (storeCall_still fun _ _ => rfl) ?_
  rintro (_ | _ | previous)
  · exact .pure trivial
  · exact .pure trivial
  dsimp only
  split
  · exact .discard (journalDedupe_follows _ _ _ _)
  · split
    · exact .discard (journalDedupe_follows _ _ _ _)
    · refine .bind_same (journalDedupe_follows _ _ _ _) fun _ => ?_
      refine .bind (deleteHeld_follows item.eventID) fun _ _ _ => ?_
      refine .bind_same (emit_follows _) fun _ => ?_
      exact .discard (emit_follows _)

theorem resume_follows : (carryProtocol E cfg).Safe {} (resume cfg) := by
  refine .bind (Q := fun _ _ => True) ?_ fun _ g _ => ?_
  · refine .bind_same (still_follows fun s _ => ?_) fun items => ?_
    · split <;> rfl
    · refine .when (fun _ => ?_) fun _ => trivial
      refine .bind (.foldEach (fun _ _ _ => True) (fun item _ doomed g _ => ?_) trivial)
        fun doomed g _ => ?_
      · refine .bind (retireDelivered_follows item) fun retired g' _ => ?_
        split <;> exact .pure trivial
      · refine .when (fun _ => ?_) fun _ => trivial
        exact (still_follows fun _ _ => rfl).safe
  · refine .bind_same (still_follows fun _ _ => rfl) fun panes => ?_
    refine .forEach (fun _ _ => True) (fun pane _ g _ => ?_) trivial
    exact (arm_follows false pane).safe

/-- **Every procedure of a node keeps to the carrying protocol** of every durable event. -/
theorem body_follows (hp : E ≠ 0) (r : Proc) : (carryProtocol E cfg).Follows (body cfg r) {} := by
  cases r with
  | offer m => exact (offer_follows hp m).follows
  | edit id text => exact (edit_follows id text).follows
  | cancel id => exact (cancel_follows id).follows
  | restore => exact restore_follows.follows
  | resume => exact resume_follows.follows
  | waitForPane wait detached pane _ directiveHeld =>
    exact (waitForPane_follows hp wait detached pane directiveHeld).follows
  | rearm pane => exact (arm_follows true pane).follows

end Control

end Panewire.Relay

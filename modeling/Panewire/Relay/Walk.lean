import Panewire.Relay.Carry
import Panewire.Relay.Release
import Mathlib.Data.List.Perm.Basic

/-!
# The manager keeps to the carrying protocol

Every procedure of the manager, walked along its text. The assertion that is carried along is
`Ready g₀ rest g`: the thread still has in hand the rows `rest` that it will get to, nothing that
landed is left to record, and the flags of its role are those of `g₀`. A command that deals with
some rows turns `Ready (items ++ rest)` into `Ready rest`, whatever it does with them.
-/

namespace Panewire.Relay

open Data Conc Protocol List

variable {group : List Held} {l : Label}

/-- The two roles differ at most in what is in hand, landed and failed. -/
def Role.Frame (g₀ g : Role) : Prop :=
  g.offers = g₀.offers ∧ g.claim = g₀.claim ∧ g.flight = g₀.flight

/-- The thread may still get to the rows `rest` and has to record the landed rows `landed`. -/
structure Settling (E : ℕ) (g₀ : Role) (rest landed : List Held) (g : Role) : Prop where
  frame : Role.Frame g₀ g
  /-- what landed is what has to be recorded and deleted, unless the store failed -/
  pending : g.faulty = true ∨
    g.landed = ((facesOf E landed).filter fun f => f.lane ≠ "") ∧
      (g.owes = true → ∃ h ∈ landed, h.eventID = E)
  /-- the rows of the event are in hand -/
  carries : facesOf E rest ⊆ g.hand
  /-- and of different lanes -/
  lanes : ((facesOf E rest).map Face.lane).Nodup
  landedLanes : ((facesOf E landed).map Face.lane).Nodup

/-- The thread may still get to the rows `rest`, and nothing that landed is left to record. -/
abbrev Ready (E : ℕ) (g₀ : Role) (rest : List Held) (g : Role) : Prop := Settling E g₀ rest [] g

section Ready

variable {E : ℕ} {g₀ g : Role} {items rest landed : List Held}

theorem facesOf_sublist {xs ys : List Held} (h : xs.Sublist ys) :
    (facesOf E xs).Sublist (facesOf E ys) :=
  (h.filter _).map _

theorem facesOf_perm {xs ys : List Held} (h : xs.Perm ys) : (facesOf E xs).Perm (facesOf E ys) :=
  (h.filter _).map _

namespace Settling

theorem sublist (h : Settling E g₀ rest landed g) {rest' : List Held} (hs : rest'.Sublist rest) :
    Settling E g₀ rest' landed g :=
  { h with
    carries := fun _ hf => h.carries ((facesOf_sublist hs).subset hf)
    lanes := h.lanes.sublist ((facesOf_sublist hs).map _) }

theorem perm (h : Settling E g₀ rest landed g) {rest' : List Held} (hp : rest.Perm rest') :
    Settling E g₀ rest' landed g :=
  { h with
    carries := fun _ hf => h.carries ((facesOf_perm hp).mem_iff.mpr hf)
    lanes := ((facesOf_perm hp).map _).nodup_iff.mp h.lanes }

theorem right (h : Settling E g₀ (items ++ rest) landed g) : Settling E g₀ rest landed g :=
  h.sublist (sublist_append_right _ _)

theorem tail {item : Held} (h : Settling E g₀ (item :: rest) landed g) :
    Settling E g₀ rest landed g :=
  h.sublist (sublist_cons_self _ _)

/-- A row may be replaced by one with the same face. -/
theorem replace {item item' : Held} (h : Settling E g₀ (item :: rest) landed g)
    (hid : item'.eventID = item.eventID) (hf : item'.face = item.face) :
    Settling E g₀ (item' :: rest) landed g := by
  have hfc : facesOf E (item' :: rest) = facesOf E (item :: rest) := by
    by_cases hE : item.eventID = E
    · rw [facesOf_cons_self E (hid.trans hE), facesOf_cons_self E hE, hf]
    · rw [facesOf_cons_ne E (by rwa [hid]), facesOf_cons_ne E hE]
  exact { h with carries := hfc ▸ h.carries, lanes := hfc ▸ h.lanes }

/-- A landed row of another event needs nothing. -/
theorem skip {item : Held} (hE : item.eventID ≠ E)
    (h : Settling E g₀ rest (item :: landed) g) : Settling E g₀ rest landed g := by
  have hfc := facesOf_cons_ne E hE landed
  refine { h with pending := ?_, landedLanes := hfc ▸ h.landedLanes }
  refine h.pending.imp_right fun ⟨hl, ho⟩ => ⟨hfc ▸ hl, fun how => ?_⟩
  obtain ⟨x, hx, hxE⟩ := ho how
  obtain rfl | hx := mem_cons.mp hx
  · exact absurd hxE hE
  · exact ⟨x, hx, hxE⟩

theorem failed (h : Settling E g₀ rest landed g) :
    Settling E g₀ rest landed { g with faulty := true } :=
  { h with pending := .inl rfl }

theorem deleted (h : Settling E g₀ rest landed g) :
    Settling E g₀ rest landed { g with owes := false } :=
  { h with pending := h.pending.imp_right fun hl => ⟨hl.1, nofun⟩ }

end Settling

theorem Ready.clean (h : Ready E g₀ rest g) : g.Clean := by
  refine h.pending.imp_right fun ⟨hl, ho⟩ => ⟨hl, ?_⟩
  cases how : g.owes with
  | false => rfl
  | true =>
    obtain ⟨x, hx, _⟩ := ho how
    cases hx

end Ready

/-! ## Single steps -/

section Walk

variable {E : ℕ} {cfg : Config} {g₀ g : Role} {items rest landed : List Held} {item : Held}
  {α : Type}

/-- The command **deals with** the rows: whatever it does with them, the rest stays in hand. -/
abbrev DealsWith (E : ℕ) (cfg : Config) (g₀ : Role) (items : List Held) (c : Act α) : Prop :=
  ∀ {rest g}, Ready E g₀ (items ++ rest) g → Carries E cfg g c fun _ => Ready E g₀ rest

/-- Every step may leave the role as it is when the view does not change. -/
theorem Step.still {v : View} {err : Bool} : Step E cfg l v err g v g :=
  .quiet (.refl _) (.inl rfl)

theorem still_follows {en : Node → Answer → Bool} {f : Node → Answer → Node × α}
    (h : ∀ s e, (f s e).1.view E = s.view E) :
    (carryProtocol E cfg).Same g (Cmd.actWhen l en f) := by
  refine .actWhen fun s e _ => ⟨g, ?_, rfl⟩
  show Step E cfg l (s.view E) e.storeErr g ((f s e).1.view E) g
  rw [h]
  exact .still

theorem storeCall_still {f : Node → Answer → Node × α} (h : ∀ s e, (f s e).1.view E = s.view E) :
    (carryProtocol E cfg).Same g (storeCall l f) := by
  refine still_follows fun s e => ?_
  split
  · rfl
  · exact h s e

theorem ask_follows (f : Answer → α) : (carryProtocol E cfg).Same g (ask f) :=
  still_follows fun _ _ => rfl

theorem emit_follows (x : Emit) : (carryProtocol E cfg).Same g (emit x) :=
  still_follows fun _ _ => rfl

theorem journalDedupe_follows (action lane : String) (id : ℕ) (pane : String) :
    (carryProtocol E cfg).Same g (journalDedupe action lane id pane) :=
  .bind_same (storeCall_still fun _ _ => rfl) fun _ => .pure rfl

theorem laneRerouted_follows (item : Held) : (carryProtocol E cfg).Same g (laneRerouted item) :=
  still_follows fun _ _ => rfl

variable (s : Node)

theorem arm_view (now : ℤ) (pane : String) : (s.arm now pane).1.view E = s.view E := by
  unfold Node.arm
  dsimp only
  split <;> split <;> rfl

theorem arm_follows (detached : Bool) (pane : String) :
    (carryProtocol E cfg).Same g (arm detached pane) := by
  refine .bind_same (still_follows fun s e => arm_view s e.now pane) ?_
  rintro (_ | ⟨wait, waitFor, directiveHeld⟩)
  · exact .pure rfl
  · exact .go trivial rfl

/-- Deleting the rows of an event: of this one, or of another. -/
theorem deleteHeld_follows (id : ℕ) :
    Carries E cfg g (deleteHeld id) fun _ g' =>
      (id ≠ E ∧ g' = g) ∨
      (id = E ∧ (g' = { g with owes := false } ∨ g' = { g with faulty := true })) := by
  by_cases hE : id = E
  swap
  · refine .bind_same (storeCall_still fun s _ => ?_) fun _ => .pure (.inl ⟨hE, rfl⟩)
    rw [view_deleteRelayHeld, if_neg hE]
  refine .bind (.act fun s e => ?_) fun _ _ h => .pure (.inr ⟨hE, h⟩)
  by_cases he : e.storeErr = true
  · refine ⟨{ g with faulty := true }, ?_, .inr rfl⟩
    simp only [he, if_true]
    exact .quiet (.refl _) (.inr ⟨rfl, he⟩)
  · refine ⟨{ g with owes := false }, ?_, .inl rfl⟩
    simp only [he]
    show Step E cfg _ _ _ g ((s.deleteRelayHeld id).1.view E) _
    rw [view_deleteRelayHeld, if_pos hE]
    exact .delete (.refl _)

theorem deleteHeld_ready (id : ℕ) (h : Settling E g₀ rest landed g) :
    Carries E cfg g (deleteHeld id) fun _ => Settling E g₀ rest landed := by
  refine (deleteHeld_follows id).conseq ?_
  rintro _ g' (⟨_, rfl⟩ | ⟨_, rfl | rfl⟩)
  · exact h
  · exact h.deleted
  · exact h.failed

theorem expireHeldLease_follows (item : Held) (reason harness : String) (h : Ready E g₀ rest g) :
    Carries E cfg g (expireHeldLease item reason harness) fun _ => Ready E g₀ rest := by
  refine .bind (deleteHeld_ready item.eventID h) fun _ g' hg' => ?_
  exact (emit_follows _).of_same fun _ => hg'

/-! ## Hold and retry -/

/-- The insert of a hold puts the row from the hand into the store, or finds the lane taken; a
failed one leaves it in hand. -/
theorem beginHold_follows (h : Ready E g₀ (item :: rest) g) :
    Carries E cfg g (beginHold item) fun r g' =>
      match r with
      | none => Ready E g₀ (item :: rest) g'
      | some _ => Ready E g₀ rest g' := by
  refine .actWhen fun s e _ => ?_
  by_cases he : e.storeErr = true
  · simp only [he, if_true]
    exact ⟨g, .still, h⟩
  simp only [he]
  show ∃ g', Step E cfg .store (s.view E) e.storeErr g ((s.insertRelayHeld item).1.view E) g' ∧
    Ready E g₀ rest g'
  obtain hsame | ⟨hE, hfree, hv⟩ := view_insertRelayHeld E s item
  · exact ⟨g, hsame ▸ .still, h.tail⟩
  rw [hv]
  have hls := h.lanes
  have hc := h.carries
  rw [facesOf_cons_self E hE] at hc hls
  rw [map_cons, nodup_cons] at hls
  -- what stays in hand is the rest, of other lanes
  refine ⟨{ g with hand := facesOf E rest }, .insert ?_ hfree ?_ ?_, ?_⟩
  · exact hc mem_cons_self
  · exact fun f hf => hc (mem_cons_of_mem _ hf)
  · exact fun f hf hl => hls.1 (mem_map.mpr ⟨f, hf, hl⟩)
  · exact { h with carries := .refl _, lanes := hls.2 }

theorem endHold_follows (item : Held) (inserted : Bool) :
    (carryProtocol E cfg).Same g (endHold item inserted) := by
  refine still_follows fun s e => ?_
  split <;> rfl

section Fallback

variable {fallback : Held → Act Unit} (hfb : ∀ item, DealsWith E cfg g₀ [item] (fallback item))

include hfb

theorem holdWith_follows (detached : Bool) (reason : String) :
    DealsWith E cfg g₀ [item] (holdWith fallback detached item reason) := by
  intro rest g h
  unfold holdWith
  split
  · exact .pure h.tail
  refine .bind (beginHold_follows h) ?_
  rintro (_ | inserted) g' hg'
  · exact hfb item hg'
  refine .bind_same (endHold_follows item inserted) fun read => ?_
  split
  · refine .bind_same (.when (fun _ => arm_follows _ _) fun _ => rfl) fun _ => ?_
    exact (emit_follows _).of_same fun _ => hg'
  · split
    · exact .pure hg'
    · refine .bind_same (emit_follows _) fun _ => ?_
      exact (arm_follows _ _).of_same fun _ => hg'

theorem retryOrDropWithin_follows (maxAttempts : ℕ) (harness : String) :
    DealsWith E cfg g₀ [item] (retryOrDropWithin fallback item maxAttempts harness) := by
  intro rest g h
  unfold retryOrDropWithin
  split
  · exact .pure h.tail
  · refine .bind (deleteHeld_ready item.eventID h) fun _ g' hg' => ?_
    split
    · exact (emit_follows _).of_same fun _ => hg'.tail
    · refine .bind_same (ask_follows _) fun now => ?_
      exact holdWith_follows hfb true "retry" (hg'.replace rfl rfl)

end Fallback

theorem stopWithoutRetry_follows (item : Held) (harness : String)
    (h : Settling E g₀ rest landed g) : Carries E cfg g (stopWithoutRetry item harness)
      fun _ => Settling E g₀ rest landed := by
  unfold stopWithoutRetry
  split
  · exact .pure h
  · refine .bind (deleteHeld_ready item.eventID h) fun _ g' hg' => ?_
    exact (emit_follows _).of_same fun _ => hg'

/-! ## Injects -/

theorem facesOf_eq_nil (h : (group.any fun x => x.eventID = E) = false) : facesOf E group = [] := by
  rw [any_eq_false] at h
  rw [facesOf, filter_eq_nil_iff.mpr h, map_nil]

theorem landed_sublist (r : InjectResult) (group : List Held) : (r.landed group).Sublist group := by
  unfold InjectResult.landed
  split
  · exact filter_sublist
  · exact nil_sublist _

/-- **An inject**: what was taken has left the hand, and what landed has to be recorded. -/
theorem inject_follows (expired : Bool) (now : ℤ) (h : Ready E g₀ (group ++ rest) g) :
    Carries E cfg g (inject group (relayBatchText group expired now)) fun r =>
      Settling E g₀ (if r.taken then rest else group ++ rest) (r.landed group) := by
  refine .act fun s e => ?_
  generalize e.verdict = r
  have hs := facesOf_sublist (E := E) (landed_sublist r group)
  have hls := h.lanes
  rw [facesOf_append, map_append, nodup_append] at hls
  have hld : ((facesOf E (r.landed group)).map Face.lane).Nodup :=
    hls.1.sublist (hs.map _)
  have hre : Settling E g₀ (if r.taken then rest else group ++ rest) [] g := by
    split
    · exact h.right
    · exact h
  show ∃ g', Step E cfg .inject (s.view E) e.storeErr g (Node.view E { s with hist := _ :: s.hist })
    g' ∧ _
  rw [view_hist]
  cases ha : group.any fun x => x.eventID = E with
  | false =>
    -- no row of the event: its history does not change
    refine ⟨g, ?_, ?_⟩
    · simp only [Ev.about, ha]
      exact .still
    have hn : facesOf E (r.landed group) = [] := by
      rw [facesOf_eq_nil ha] at hs
      exact sublist_nil.mp hs
    refine { hre with pending := ?_, landedLanes := hld }
    refine h.clean.imp_right fun hc => ⟨?_, fun ho => ?_⟩
    · rw [hc.1, hn, filter_nil]
    · rw [hc.2] at ho
      cases ho
  | true =>
    refine ⟨{ g with
        hand := facesOf E (if r.taken then rest else group ++ rest)
        landed := g.landed ++ landedFaces E group r
        owes := g.owes || (r.landed group).any fun x => x.eventID = E }, ?_, ?_⟩
    · simp only [Ev.about, ha, if_true]
      refine .inject ?_ hre.carries ?_ ha h.clean
      · intro f hf
        exact h.carries (by rw [facesOf_append]; exact mem_append_left _ hf)
      · intro x hx f hf hl
        have hx := (mem_filter.mp hx).1
        cases ht : r.taken with
        | true =>
          simp only [ht, if_true] at hf
          exact hls.2.2 _ (mem_map_of_mem (hs.subset hx)) _ (mem_map_of_mem hf) hl.symm
        | false => simp [InjectResult.landed, ht] at hx
    · refine ⟨h.frame, ?_, .refl _, hre.lanes, hld⟩
      refine h.clean.imp_right fun hc => ⟨?_, fun ho => ?_⟩
      · rw [hc.1]
        rfl
      · have ho : (r.landed group).any (fun x => x.eventID = E) = true := by
          simpa [hc.2] using ho
        simpa using ho

theorem not_taken_of_retriesOnce {r : InjectResult} (h : relayRetriesOnce r = true) :
    r.taken = false := by
  unfold relayRetriesOnce at h
  unfold InjectResult.taken
  split at h <;> simp_all

theorem injectGroup_follows (expired : Bool) (now : ℤ) (h : Ready E g₀ (group ++ rest) g) :
    Carries E cfg g (injectGroup group (relayBatchText group expired now)) fun r =>
      Settling E g₀ (if r.taken then rest else group ++ rest) (r.landed group) := by
  refine .bind (inject_follows expired now h) fun r g' hg' => ?_
  split
  · next ha =>
    -- the first inject took nothing, so the group is still in hand
    have hr : r.taken = false := not_taken_of_retriesOnce (Bool.and_eq_true_iff.mp ha).2
    have hrd : Ready E g₀ (group ++ rest) g' := by
      simpa [InjectResult.landed, hr] using hg'
    exact inject_follows expired now hrd
  · exact .pure hg'

/-- A delivered record for a landed row of the event, or for another event. -/
theorem recordRelayDelivered_follows (d : Delivered)
    (hd : d.eventID = E → g.faulty = true ∨ ∃ x ∈ g.landed, x.lane = d.lane ∧ x.pane = d.pane ∧
      cfg.fingerprint x.text = d.payloadSHA) :
    Carries E cfg g
      (storeCall (.recordDelivered d) fun s _ => (s.recordRelayDelivered d, ())) fun _ g' =>
        (d.eventID ≠ E ∧ g' = g) ∨
        (d.eventID = E ∧ (g' = { g with landed := g.landed.filter fun f => f.lane ≠ d.lane } ∨
          g' = { g with faulty := true })) := by
  refine .act fun s e => ?_
  cases he : e.storeErr with
  | true =>
    by_cases hE : d.eventID = E
    · exact ⟨_, .quiet (.refl _) (.inr ⟨rfl, he⟩), .inr ⟨hE, .inr rfl⟩⟩
    · exact ⟨g, .still, .inl ⟨hE, rfl⟩⟩
  | false =>
    refine ⟨{ g with landed := if d.eventID = E then g.landed.filter fun f => f.lane ≠ d.lane
      else g.landed }, ?_, ?_⟩
    · show Step E cfg _ _ _ g ((s.recordRelayDelivered d).view E) _
      rw [view_recordRelayDelivered]
      exact .record hd
    · by_cases hE : d.eventID = E
      · exact .inr ⟨hE, .inl (by rw [if_pos hE])⟩
      · exact .inl ⟨hE, by rw [if_neg hE]⟩

theorem filter_lane_cons (hE : item.eventID = E)
    (hl : ((facesOf E (item :: landed)).map Face.lane).Nodup) :
    ((facesOf E (item :: landed)).filter fun f => f.lane ≠ "").filter
        (fun f => f.lane ≠ item.lane) = (facesOf E landed).filter fun f => f.lane ≠ "" := by
  rw [facesOf_cons_self E hE, map_cons, nodup_cons] at hl
  have hs : ∀ f ∈ (facesOf E landed).filter (fun f => f.lane ≠ ""),
      decide (f.lane ≠ item.lane) = true := by
    intro f hf
    have hne : f.lane ≠ item.lane := fun h =>
      hl.1 (mem_map.mpr ⟨f, (mem_filter.mp hf).1, h⟩)
    simpa using hne
  have hi : decide (item.face.lane ≠ item.lane) = false := by simp [Held.face]
  rw [facesOf_cons_self E hE, filter_cons]
  split
  · rw [filter_cons_of_neg (by simp [hi]), filter_eq_self.mpr hs]
  · exact filter_eq_self.mpr hs

/-! ## What a release takes -/

theorem dropRerouted_follows (h : Ready E g₀ (group ++ rest) g) :
    Carries E cfg g (dropRerouted group) fun live => Ready E g₀ (live ++ rest) := by
  refine .conseq (.foldEach
    (fun group live g => Ready E g₀ (live ++ group ++ rest) g) ?_ h) fun live g' hg' => ?_
  · intro item group live g hg
    have hp : (live ++ item :: group ++ rest).Perm (item :: (live ++ group ++ rest)) := by
      simp
    refine .bind_same (laneRerouted_follows item) fun rerouted => ?_
    split
    · refine .bind (expireHeldLease_follows item _ _ (hg.perm hp).tail) fun _ g' hg' => ?_
      exact .pure hg'
    · exact .pure (by simpa using hg)
  · simpa using hg'

theorem keepWorkingCmdHold_follows (item : Held) :
    (carryProtocol E cfg).Same g (keepWorkingCmdHold cfg item) := by
  refine .bind_same (ask_follows _) fun now => ?_
  dsimp only
  split
  · exact .pure rfl
  · refine .bind_same (still_follows fun _ _ => rfl) fun _ => ?_
    refine .bind_same (.when (fun _ => ?_) fun _ => rfl) fun _ => .pure rfl
    exact .bind_same (storeCall_still fun s _ => view_extendRelayHeldMaxWait E s _ _)
      fun _ => .pure rfl

theorem relayLaneJobEnded_follows (harness : String) :
    (carryProtocol E cfg).Same g (relayLaneJobEnded harness) := by
  unfold relayLaneJobEnded
  split
  · exact ask_follows _
  · exact .pure rfl

/-- Rows of one table have different lanes for one event. -/
theorem lanes_nodup (t : HeldTable) {xs : List Held} (hs : xs.Subperm t.rows) :
    ((facesOf E xs).map Face.lane).Nodup := by
  obtain ⟨ys, hp, hsub⟩ := hs
  have hk : (xs.map Held.key).Nodup :=
    (hp.map _).nodup_iff.mp (t.nodup.sublist (hsub.map Held.key))
  have hE : ((xs.filter fun h => h.eventID = E).map Held.key).Nodup :=
    hk.sublist (filter_sublist.map _)
  rw [facesOf, map_map]
  refine List.Nodup.of_map (fun lane => (lane, E)) ?_
  rw [map_map]
  convert hE using 1
  refine map_congr_left fun h hh => ?_
  have hid : h.eventID = E := by simpa using (mem_filter.mp hh).2
  exact Prod.ext rfl hid.symm

theorem heldSnapshot_subperm (pane : String) : (s.heldSnapshot pane).Subperm s.rows.rows :=
  (filter_sublist.subperm.trans (perm_insertionSort _ _).subperm).trans filter_sublist.subperm

/-- **A release takes rows**: those of the event come from the store and no release had it. -/
theorem takeInflight_step {e : Bool} (pane : String)
    (remaining : Option (List Held)) (hs : items.Sublist (s.heldSnapshot pane)) :
    ∃ g, Step E cfg l (s.view E) e {} ((s.takeInflight pane items remaining).view E) g ∧
      g.flight = decide (E ∈ items.map (·.eventID)) ∧ Ready E g items g := by
  have hsub := hs.subperm.trans (heldSnapshot_subperm s pane)
  rw [view_takeInflight]
  by_cases hE : E ∈ items.map (·.eventID)
  · rw [if_pos hE]
    refine ⟨{ flight := true, hand := facesOf E items }, .take ?_ ?_ rfl rfl, ?_, ?_⟩
    · obtain ⟨h, hh, rfl⟩ := mem_map.mp hE
      simpa [Node.view] using (mem_filter.mp (hs.subset hh)).2
    · intro f hf
      obtain ⟨h, hh, hid, rfl⟩ := (mem_facesOf E).mp hf
      exact (mem_facesOf E).mpr ⟨h, hsub.subset hh, hid, rfl⟩
    · simp only [hE, decide_true]
    · exact ⟨⟨rfl, rfl, rfl⟩, .inr ⟨rfl, by simp⟩, .refl _, lanes_nodup s.rows hsub, by simp⟩
  · rw [if_neg hE]
    refine ⟨{}, .still, ?_, ⟨rfl, rfl, rfl⟩, .inr ⟨rfl, by simp⟩, ?_, ?_, by simp⟩
    · simp only [hE, decide_false]
    · intro f hf
      obtain ⟨h, hh, hid, _⟩ := (mem_facesOf E).mp hf
      exact absurd (mem_map.mpr ⟨h, hh, hid⟩) hE
    · exact lanes_nodup s.rows hsub

/-- A wake on a working pane takes rows only when it delivers them. -/
theorem wakeWorking_step {e : Bool} (pane : String) (expired : Bool) :
    ∃ g, Step E cfg l (s.view E) e {} ((s.wakeWorking pane expired).1.view E) g ∧
      ∀ items late, (s.wakeWorking pane expired).2 = .deliver items late →
        g.flight = decide (E ∈ items.map (·.eventID)) ∧ Ready E g items g := by
  unfold Node.wakeWorking
  dsimp only
  split
  · exact ⟨{}, .still, nofun⟩
  split
  · obtain ⟨g, hs, hg⟩ := takeInflight_step s pane none (List.Sublist.refl _)
    refine ⟨g, hs, fun items late heq => ?_⟩
    obtain ⟨rfl, rfl⟩ := WorkingWake.deliver.inj heq
    exact hg
  · split
    · exact ⟨{}, .still, nofun⟩
    · obtain ⟨g, hs, hg⟩ := takeInflight_step s pane
        (some ((s.heldOf pane).filter fun h => h.eventID ∉ ((s.heldSnapshot pane).filter
          fun h => h.deliverPolicy = relayDeliverDirective).map (·.eventID)))
        (filter_sublist (p := fun h => h.deliverPolicy = relayDeliverDirective))
      refine ⟨g, hs, fun items late heq => ?_⟩
      obtain ⟨rfl, rfl⟩ := WorkingWake.deliver.inj heq
      exact hg

theorem finishInflight_follows (h : Ready E g₀ [] g)
    (hf : g₀.flight = decide (E ∈ items.map (·.eventID))) :
    (carryProtocol E cfg).Safe g (finishInflight items) := by
  refine .actWhen fun s e _ => ?_
  show ∃ g', Step E cfg _ _ _ g ((s.finishInflight items).view E) g' ∧ True
  rw [view_finishInflight]
  split
  · next hE => exact ⟨_, .finish (by rw [h.frame.2.2, hf]; simpa using hE) h.clean, trivial⟩
  · exact ⟨g, .still, trivial⟩

theorem reconcileHeld_view (pane : String) : (s.reconcileHeld pane).view E = s.view E := by
  unfold Node.reconcileHeld
  split <;> rfl

theorem reconcileHeld_follows (pane : String) :
    (carryProtocol E cfg).Same g (reconcileHeld pane) := by
  refine still_follows fun s e => ?_
  split
  · rfl
  · exact reconcileHeld_view s pane

/-! ## Records and deliveries -/

variable (hpos : E ≠ 0)

include hpos

/-- **One landed row is recorded and deleted.** After the record the row is only owed its
deletion, which is what `owes := false` stands for in between. -/
theorem recordLanded_follows (now : ℤ) (reason : String)
    (h : Settling E g₀ rest (item :: landed) g) :
    Carries E cfg g (recordLanded cfg.fingerprint now reason item)
      fun _ => Settling E g₀ rest landed := by
  have hdo : ∀ x y g', Settling E g₀ rest landed g' → Carries E cfg g' (emit x >>= fun _ => emit y)
      fun _ => Settling E g₀ rest landed := fun _ _ g' hg' =>
    .bind_same (emit_follows _) fun _ => (emit_follows _).of_same fun _ => hg'
  by_cases hE : item.eventID = E
  · have hls := h.landedLanes.sublist ((facesOf_sublist (sublist_cons_self _ _)).map _)
    refine .bind (.when (fun _ => ?_) fun h0 => ?_) fun _ => hdo _ _
    · refine .bind (Q := fun _ g' => Settling E g₀ rest landed { g' with owes := false })
        (.when (fun hla => ?_) fun hla => ?_) fun _ g' hg' => ?_
      · refine .bind (recordRelayDelivered_follows _ fun _ => ?_) fun _ g' hg' =>
          .pure ?_
        · refine h.pending.imp_right fun ⟨hl, _⟩ => ⟨item.face, ?_, rfl, rfl, rfl⟩
          rw [hl, facesOf_cons_self E hE]
          exact mem_filter.mpr ⟨mem_cons_self, hla⟩
        obtain ⟨hne, _⟩ | ⟨_, rfl | rfl⟩ := hg'
        · exact absurd hE hne
        · refine ⟨h.frame, ?_, h.carries, h.lanes, hls⟩
          refine h.pending.imp_right fun ⟨hl, _⟩ => ⟨?_, nofun⟩
          rw [hl, filter_lane_cons hE h.landedLanes]
        · exact ⟨h.frame, .inl rfl, h.carries, h.lanes, hls⟩
      · -- a row without a lane has no record
        refine ⟨h.frame, ?_, h.carries, h.lanes, hls⟩
        refine h.pending.imp_right fun ⟨hl, _⟩ => ⟨?_, nofun⟩
        have hla : item.lane = "" := by simpa using hla
        rw [hl, facesOf_cons_self E hE, filter_cons_of_neg (by simp [Held.face, hla])]
      · refine (deleteHeld_follows item.eventID).conseq ?_
        rintro _ _ (⟨hne, _⟩ | ⟨_, rfl | rfl⟩)
        · exact absurd hE hne
        · exact hg'
        · exact ⟨hg'.frame, .inl rfl, hg'.carries, hg'.lanes, hg'.landedLanes⟩
    · exact absurd (hE ▸ hpos) (by simpa using h0)
  · refine .bind (.when (fun _ => ?_) fun _ => h.skip hE) fun _ => hdo _ _
    refine .bind (Q := fun _ => Settling E g₀ rest landed)
      (.when (fun _ => ?_) fun _ => h.skip hE) fun _ g' hg' => deleteHeld_ready _ hg'
    refine .bind (recordRelayDelivered_follows _ fun h => absurd h hE) fun _ g' hg' =>
      .pure ?_
    obtain ⟨_, rfl⟩ | ⟨h, _⟩ := hg'
    · exact h.skip hE
    · exact absurd h hE

section Deliver

variable {fallback : Held → Act Unit} (hfb : ∀ item, DealsWith E cfg g₀ [item] (fallback item))

include hfb

theorem settle_follows {result : InjectResult} (now : ℤ)
    (h : Settling E g₀ (if result.taken then rest else group ++ rest) (result.landed group) g) :
    Carries E cfg g (settle fallback cfg.fingerprint now group result)
      fun _ => Ready E g₀ rest := by
  -- an outcome that did not take the text leaves the group in hand
  have hrd : result.taken = false → Ready E g₀ (group ++ rest) g := by
    intro ht
    simpa [ht, InjectResult.landed] using h
  unfold settle
  split
  · next ho =>
    refine .forEach (fun group => Ready E g₀ (group ++ rest)) ?_
      (hrd (by simp [InjectResult.taken, ho]))
    intro item group g hg
    exact .bind_same (emit_follows _) fun _ => retryOrDropWithin_follows hfb _ _ hg
  · next ho =>
    refine .forEach (fun group => Ready E g₀ (group ++ rest)) ?_
      (hrd (by simp [InjectResult.taken, ho]))
    intro item group g hg
    exact .bind_same (emit_follows _) fun _ => stopWithoutRetry_follows item _ hg.tail
  · next hry hmay =>
    -- one that did records what landed
    have ht : result.taken = true := by
      unfold InjectResult.taken
      cases ho : result.outcome <;> simp_all
    simp only [ht, if_true, InjectResult.landed] at h
    refine .bind (.forEach
      (fun _ => Settling E g₀ rest (group.filter result.proves)) ?_ h) fun _ g' hg' => ?_
    · intro item _ g hg
      exact .bind_same (emit_follows _) fun _ => stopWithoutRetry_follows item _ hg
    · refine .bind_same (.when (fun _ => emit_follows _) fun _ => rfl) fun _ => ?_
      exact .forEach (fun landed => Settling E g₀ rest landed)
        (fun item landed g hg => recordLanded_follows hpos now _ hg) hg'

theorem deliverGroup_follows (expired : Bool) (now : ℤ) :
    DealsWith E cfg g₀ group (deliverGroup fallback cfg.fingerprint expired now group) := by
  intro rest g h
  refine .bind (dropRerouted_follows h) fun live g' hg' => ?_
  refine .when (fun _ => ?_) fun _ => hg'.right
  exact .bind (injectGroup_follows expired now hg') fun result g'' hg'' =>
    settle_follows hpos hfb now hg''

theorem deliverWith_follows (expired : Bool) :
    DealsWith E cfg g₀ items (deliverWith fallback cfg.fingerprint items expired) := by
  intro rest g h
  refine .when (fun _ => ?_) fun _ => h.right
  refine .bind_same (ask_follows _) fun now => ?_
  have hs : Ready E g₀ ((relayBatchGroups (byRecvSeq items) expired now).flatten ++ rest) g := by
    rw [relayBatchGroups_flatten]
    exact h.perm ((perm_insertionSort _ items).symm.append_right rest)
  refine .forEach (fun groups => Ready E g₀ (groups.flatten ++ rest)) ?_ hs
  intro group groups g hg
  rw [flatten_cons, append_assoc] at hg
  exact deliverGroup_follows hpos hfb expired now hg

end Deliver

theorem deliverRounds_follows (n : ℕ) :
    ∀ {items} (expired), DealsWith E cfg g₀ items (deliverRounds cfg n items expired) := by
  induction n with
  | zero => exact fun _ _ _ h => .pure h.right
  | succ n ih =>
    exact fun expired _ _ h => deliverWith_follows hpos (fun _ _ _ hg => ih false hg) expired h

theorem deliver_follows (expired : Bool) : DealsWith E cfg g₀ items (deliver cfg items expired) :=
  deliverRounds_follows hpos _ expired

theorem hold_follows (detached : Bool) (reason : String) :
    DealsWith E cfg g₀ [item] (hold cfg detached item reason) :=
  holdWith_follows (fun _ _ _ hg => deliver_follows hpos false hg) detached reason

theorem retryOrDrop_follows (harness : String) :
    DealsWith E cfg g₀ [item] (retryOrDrop cfg item harness) :=
  retryOrDropWithin_follows (fun _ _ _ hg => deliver_follows hpos false hg) _ harness

/-! ## Releases -/

/-- A row of a release stays in hand when it is kept for delivery. -/
theorem judgeHeld_follows (p : PaneProbe) (expired : Bool)
    (h : Ready E g₀ (item :: rest) g) : Carries E cfg g (judgeHeld cfg p expired item)
      fun keep => Ready E g₀ (if keep then item :: rest else rest) := by
  have hgo : ∀ (reason : String), Carries E cfg g (do
      expireHeldLease item reason p.harness
      return false) fun keep => Ready E g₀ (if keep then item :: rest else rest) := fun reason =>
    .bind (expireHeldLease_follows item reason p.harness h.tail) fun _ _ hg' => .pure hg'
  unfold judgeHeld
  split
  · exact .bind (retryOrDrop_follows hpos p.harness h) fun _ _ hg' => .pure hg'
  split
  · exact hgo _
  refine .bind_same (relayLaneJobEnded_follows p.harness) fun ended => ?_
  split
  · exact hgo _
  split
  · split
    · exact .pure h.tail
    · refine .bind_same (keepWorkingCmdHold_follows item) fun kept => ?_
      split
      · exact .pure h.tail
      · exact .bind_same (emit_follows _) fun _ => hgo _
  · exact .pure h

theorem filterDeliverableHeld_follows (expired : Bool) (h : Ready E g₀ items g) :
    Carries E cfg g (filterDeliverableHeld cfg items expired) fun r => Ready E g₀ r.1 := by
  have h : Ready E g₀ (items ++ []) g := by rwa [append_nil]
  refine .bind (dropRerouted_follows h) fun survivors g' hg' => ?_
  rw [append_nil] at hg'
  cases survivors with
  | nil => exact .pure hg'
  | cons first others =>
    refine .bind_same (ask_follows _) fun reply => ?_
    refine .bind (.foldEach
      (fun items keep g => Ready E g₀ (keep ++ items) g) ?_ hg') fun keep g'' hg'' => ?_
    · intro item items keep g hg
      have hp : (keep ++ item :: items).Perm (item :: (keep ++ items)) := perm_middle
      refine .bind (judgeHeld_follows hpos _ expired (hg.perm hp)) fun kept g' hg' => ?_
      split
      · next hk =>
        simp only [hk, if_true] at hg'
        exact .pure (by simpa using hg'.perm hp.symm)
      · next hk =>
        simp only [hk] at hg'
        exact .pure hg'
    · exact .pure (by simpa using hg'')

theorem deliverOneByOne_follows (expired : Bool) :
    ∀ {items : List Held} {g : Role}, Ready E g₀ items g →
      Carries E cfg g (deliverOneByOne cfg expired items) fun _ => Ready E g₀ []
  | [], _, h => .pure h
  | [_], _, h => .bind (deliver_follows hpos expired h) fun _ _ hg' => .pure hg'
  | item :: next :: rest, g, h => by
    refine .bind (deliver_follows hpos expired h) fun _ g' hg' => ?_
    refine .bind_same (ask_follows _) fun free => ?_
    exact .when (fun _ => deliverOneByOne_follows expired hg') fun _ =>
      hg'.sublist (nil_sublist _)

theorem deliverReleased_follows (expired : Bool) (h : Ready E g₀ items g) :
    Carries E cfg g (deliverReleased cfg items expired) fun _ => Ready E g₀ [] := by
  refine .bind (filterDeliverableHeld_follows hpos expired h) fun r g' hg' => ?_
  obtain ⟨keep, harness⟩ := r
  dsimp only at hg' ⊢
  split
  · exact deliver_follows hpos expired (by rwa [append_nil])
  · exact deliverOneByOne_follows hpos expired (hg'.perm (perm_insertionSort _ keep).symm)

/-- What every release does with the rows it took. -/
theorem released_follows (expired : Bool) (pane : String) {rest : Act Unit}
    (h : Ready E g items g) (hf : g.flight = decide (E ∈ items.map (·.eventID)))
    (hre : ∀ g, (carryProtocol E cfg).Safe g rest) :
    (carryProtocol E cfg).Safe g (do
      deliverReleased cfg items expired
      finishInflight items
      reconcileHeld pane
      rest) := by
  refine .bind (deliverReleased_follows hpos expired h) fun _ g' hg' => ?_
  refine .bind (finishInflight_follows hg' hf) fun _ g'' _ => ?_
  exact .bind_same (reconcileHeld_follows pane) fun _ => hre g''

theorem release_follows (pane : String) (expired : Bool) :
    (carryProtocol E cfg).Safe {} (release cfg pane expired) := by
  refine .bind (Q := fun items g => Ready E g items g ∧
    g.flight = decide (E ∈ items.map (·.eventID))) (.actWhen fun s e _ => ?_)
    fun items g ⟨hrd, hf⟩ => ?_
  · split
    · exact ⟨{}, .still, ⟨⟨rfl, rfl, rfl⟩, .inr ⟨rfl, nofun⟩, by simp, by simp, by simp⟩, by simp⟩
    · exact (takeInflight_step s pane none (List.Sublist.refl _)).imp
        fun g ⟨hs, hf, hrd⟩ => ⟨hs, hrd, hf⟩
  · refine .when (fun _ => released_follows hpos expired pane hrd hf fun g => ?_)
      fun _ => trivial
    refine .bind_same (still_follows fun _ _ => rfl) fun rearm => ?_
    exact .when (fun _ => (arm_follows _ _).safe) fun _ => trivial

theorem releaseWorking_follows (pane : String) (expired : Bool) :
    (carryProtocol E cfg).Safe {} (releaseWorking cfg pane expired) := by
  refine .bind (Q := fun wake g => ∀ items late, wake = .deliver items late →
    g.flight = decide (E ∈ items.map (·.eventID)) ∧ Ready E g items g)
    (.actWhen fun s e _ => ?_) fun wake g hg => ?_
  · split
    · exact ⟨{}, .still, nofun⟩
    · exact wakeWorking_step s pane expired
  have ha : ∀ g, (carryProtocol E cfg).Safe g (arm true pane) := fun g =>
    (arm_follows _ _).safe
  cases wake with
  | retry => exact .go trivial trivial
  | nothing => exact .pure trivial
  | wait => exact ha g
  | deliver items late =>
    obtain ⟨hf, hrd⟩ := hg items late rfl
    exact released_follows hpos late pane hrd hf ha

theorem waitForPane_follows (wait : ℕ) (detached : Bool) (pane : String) (directiveHeld : Bool) :
    (carryProtocol E cfg).Safe {} (waitForPane cfg wait detached pane directiveHeld) := by
  have ha : (carryProtocol E cfg).Same {} (waitUntilWorking directiveHeld) := by
    unfold waitUntilWorking
    split
    · exact ask_follows _
    · exact .pure rfl
  refine .bind_same ha fun _ => ?_
  refine .bind_same (still_follows fun _ _ => rfl) fun answer => ?_
  refine .when (fun _ => ?_) fun _ => trivial
  split
  · exact releaseWorking_follows hpos pane _
  · exact release_follows hpos pane _

end Walk

end Panewire.Relay

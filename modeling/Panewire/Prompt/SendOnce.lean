import Panewire.Conc.Protocol
import Panewire.Prompt.Deliver

/-!
# How often a prompt is typed

For one delivery id, a call is **idle**, **armed** (its record is stored, nothing typed yet) or
**typed** (the text went out, the record is still to be completed). `Rule` lists what a call may do
to that id in each role, `OnceInv` is what every such step keeps, and the procedures of the daemon
follow the rule.

The invariant needs one thing that the code does not ensure: a call that deletes an earlier
record does so without looking again, and by then the record may be the fresh one of another call
(`deletesSpent`). With it a delivery id is typed at most once in every run; without it two calls
that read the same old preflight failure both type.
-/

namespace Panewire.Prompt

open Conc Protocol List

/-- What a call still owes to the id under watch. -/
inductive Role where
  /-- nothing -/
  | idle
  /-- its own unfinished record is stored -/
  | armed
  /-- it typed the text and has not completed its record -/
  | typed
  deriving DecidableEq

/-- How many times the text of a delivery id was handed to herdr. -/
def World.sends (w : World) (id : String) : ℕ :=
  (w.sent.filter fun x => x.deliveryID = id).length

/-- A deletion of `id` finds no record, or the completed record of a call that typed nothing. -/
def deletesSpent (id : String) (l : Label) (w : World) : Bool :=
  if l = .deleteDelivery id then
    match w.deliveries id with
    | none => true
    | some d => d.completedAtMS ≠ 0 && d.herdrAcceptance = ""
  else true

/-- Any call may be started at any time, the daemon may restart at any time, and deletions of `id`
meet `deletesSpent`. -/
def spentLimits (id : String) : Limits World Answer Label Proc where
  start _ := true
  step l w _ := deletesSpent id l w
  restart w := some w

/-- No limit on what happens. -/
def freely : Limits World Answer Label Proc where
  start _ := true
  step _ _ _ := true
  restart w := some w

/-! ## The protocol -/

section Protocol

variable (id : String)

/-- What one step may do to the record of `id` and to its count of sends. -/
inductive Rule : Label → World → Answer → Role → World → Role → Prop where
  /-- neither changes -/
  | quiet {l w e g w'} : w'.deliveries id = w.deliveries id → w'.sends id = w.sends id →
      Rule l w e g w' g
  /-- an idle call deletes the record -/
  | delete {w e w'} : w'.deliveries id = none → w'.sends id = w.sends id →
      Rule (.deleteDelivery id) w e .idle w' .idle
  /-- an idle call inserts the record of a failure -/
  | reject {l w e w'} : w.deliveries id = none → w'.sends id = w.sends id →
      Rule l w e .idle w' .idle
  /-- an idle call inserts an unfinished record -/
  | commit {l w e w' d} : w.deliveries id = none → w'.deliveries id = some d →
      d.completedAtMS = 0 → w'.sends id = w.sends id → Rule l w e .idle w' .armed
  /-- an armed call types -/
  | type {l w e w'} : w'.deliveries id = w.deliveries id → w'.sends id = w.sends id + 1 →
      Rule l w e .armed w' .typed
  /-- an armed call gives up -/
  | abandon {l w e w'} : w'.sends id = w.sends id → Rule l w e .armed w' .idle
  /-- a call that typed completes the record, or fails to -/
  | close {l w e w'} : w'.sends id = w.sends id →
      w'.deliveries id = w.deliveries id ∨
        (∃ d, w'.deliveries id = some d ∧ d.herdrAcceptance ≠ "") →
      Rule l w e .typed w' .idle

/-- Calls start idle and spawn nothing. -/
def onceProtocol : Protocol World Answer Label Proc Role where
  entry _ := .idle
  spawns _ := False
  rule := Rule id

/-- **The invariant.** At most one call is armed or typed, its record is stored and unfinished,
and a text that went out has a record that no call deletes. -/
structure OnceInv (w : World) (gs : List Role) : Prop where
  one : AtMostOne (· ≠ Role.idle) gs
  armed : Role.armed ∈ gs → w.sends id = 0
  typed : Role.typed ∈ gs → w.sends id = 1
  open_ : ∀ g ∈ gs, g ≠ Role.idle → ∃ d, w.deliveries id = some d ∧ d.completedAtMS = 0
  atMost : w.sends id ≤ 1
  kept : w.sends id = 1 →
    ∃ d, w.deliveries id = some d ∧ (d.completedAtMS = 0 ∨ d.herdrAcceptance ≠ "")

variable {id}

namespace OnceInv

variable {w w' : World} {gs : List Role} {i : ℕ}

variable (h : OnceInv id w gs)
include h

/-- Without a record that some call still needs, nothing was typed and no call is under way. -/
theorem of_spent
    (hd : ∀ d, w.deliveries id = some d → d.completedAtMS ≠ 0 ∧ d.herdrAcceptance = "") :
    w.sends id = 0 ∧ ∀ g ∈ gs, g = Role.idle := by
  constructor
  · rcases Nat.le_one_iff_eq_zero_or_eq_one.mp h.atMost with h0 | h1
    · exact h0
    · obtain ⟨d, hd', h0 | hne⟩ := h.kept h1
      · exact absurd h0 (hd d hd').1
      · exact absurd (hd d hd').2 hne
  · intro g hg
    by_contra hne
    obtain ⟨d, hd', h0⟩ := h.open_ g hg hne
    exact (hd d hd').1 h0

theorem of_absent (hd : w.deliveries id = none) : w.sends id = 0 ∧ ∀ g ∈ gs, g = Role.idle :=
  h.of_spent fun d hd' => by rw [hd] at hd'; cases hd'

omit h in
/-- With nothing typed and no call under way, any record is in order. -/
theorem of_idle (hn : w.sends id = 0) (hg : ∀ g ∈ gs, g = Role.idle) : OnceInv id w gs where
  one := by
    intro i j a b hi _ ha
    exact absurd (hg a (mem_of_getElem? hi)) ha
  armed h := absurd (hg _ h) (by decide)
  typed h := absurd (hg _ h) (by decide)
  open_ g h hne := absurd (hg g h) hne
  atMost := by omega
  kept h := by omega

/-- The roles after the only busy call became idle. -/
theorem all_idle {g : Role} (hi : gs[i]? = some g) (hg : g ≠ .idle) :
    ∀ a ∈ gs.set i .idle, a = Role.idle := by
  intro a ha
  by_contra hne
  exact hne (h.one.eq_of_mem_set hi hg ha hne)

/-- Only the record and the count of the id matter. -/
theorem congr (hd : w'.deliveries id = w.deliveries id)
    (hn : w'.sends id = w.sends id) : OnceInv id w' gs where
  one := h.one
  armed hg := hn ▸ h.armed hg
  typed hg := hn ▸ h.typed hg
  open_ g hg hne := hd ▸ h.open_ g hg hne
  atMost := hn ▸ h.atMost
  kept h1 := hd ▸ h.kept (hn ▸ h1)

/-- Armed calls come from idle ones when there is no record. -/
theorem commit (hd : w.deliveries id = none) {d : Delivery}
    (hd' : w'.deliveries id = some d) (h0 : d.completedAtMS = 0)
    (hn : w'.sends id = w.sends id) (i : ℕ) : OnceInv id w' (gs.set i .armed) := by
  obtain ⟨hz, hi⟩ := h.of_absent hd
  have hnot : ∀ a ∈ gs.set i .armed, a ≠ Role.typed :=
    forall_mem_set (fun a ha => by rw [hi a ha]; decide) (by decide)
  exact
    { one := AtMostOne.set_first (fun g hg => not_not.mpr (hi g hg)) i .armed
      armed := fun _ => hn.trans hz
      typed := fun hm => absurd rfl (hnot _ hm)
      open_ := fun _ _ _ => ⟨d, hd', h0⟩
      atMost := by omega
      kept := fun h1 => by omega }

/-- The armed call types. -/
theorem type (hi : gs[i]? = some .armed)
    (hd : w'.deliveries id = w.deliveries id) (hn : w'.sends id = w.sends id + 1) :
    OnceInv id w' (gs.set i .typed) := by
  have hmem : Role.armed ∈ gs := mem_of_getElem? hi
  have hz := h.armed hmem
  obtain ⟨d, hd', h0⟩ := h.open_ _ hmem (by decide)
  have hnot : Role.armed ∉ gs.set i .typed := fun hm =>
    absurd (h.one.eq_of_mem_set hi (by decide) hm (by decide)) (by decide)
  exact
    { one := h.one.set_of_mem hi (by decide)
      armed := fun hm => absurd hm hnot
      typed := fun _ => by omega
      open_ := fun _ _ _ => ⟨d, hd.trans hd', h0⟩
      atMost := by omega
      kept := fun _ => ⟨d, hd.trans hd', .inl h0⟩ }

/-- The call that typed completes its record. -/
theorem close (hi : gs[i]? = some .typed) (hn : w'.sends id = w.sends id)
    (hd : w'.deliveries id = w.deliveries id ∨
      ∃ d, w'.deliveries id = some d ∧ d.herdrAcceptance ≠ "") :
    OnceInv id w' (gs.set i .idle) := by
  have hmem : Role.typed ∈ gs := mem_of_getElem? hi
  have hone := h.typed hmem
  have hidl := h.all_idle hi (by decide)
  have hk : ∃ d, w'.deliveries id = some d ∧
      (d.completedAtMS = 0 ∨ d.herdrAcceptance ≠ "") := by
    rcases hd with hd | ⟨d, hd, ha⟩
    · obtain ⟨d, hd', h0⟩ := h.open_ _ hmem (by decide)
      exact ⟨d, hd.trans hd', .inl h0⟩
    · exact ⟨d, hd, .inr ha⟩
  exact
    { one := h.one.set_of_not i (by simp)
      armed := fun hm => absurd (hidl _ hm) (by decide)
      typed := fun hm => absurd (hidl _ hm) (by decide)
      open_ := fun g hg hne => absurd (hidl g hg) hne
      atMost := by omega
      kept := fun _ => hk }

/-- **One step** of any call keeps the invariant. -/
theorem rule {l : Label} {e : Answer} {g g' : Role}
    (hi : gs[i]? = some g) (hl : deletesSpent id l w = true) (hr : Rule id l w e g w' g') :
    OnceInv id w' (gs.set i g') := by
  cases hr with
  | quiet hd hn => rw [set_eq_self hi]; exact h.congr hd hn
  | delete hd hn =>
    obtain ⟨hz, hidl⟩ := h.of_spent fun d hd => by simpa [deletesSpent, hd] using hl
    rw [set_eq_self hi]; exact of_idle (hn.trans hz) hidl
  | reject hd hn =>
    obtain ⟨hz, hidl⟩ := h.of_absent hd
    rw [set_eq_self hi]; exact of_idle (hn.trans hz) hidl
  | commit hd hd' h0 hn => exact h.commit hd hd' h0 hn i
  | type hd hn => exact h.type hi hd hn
  | abandon hn =>
    have hz := h.armed (mem_of_getElem? hi)
    exact of_idle (hn.trans hz) (h.all_idle hi (by decide))
  | close hn hd => exact h.close hi hn hd

/-- The table survives a restart, the calls do not. -/
theorem restart : OnceInv id w [] where
  one := AtMostOne.nil
  armed hm := absurd hm not_mem_nil
  typed hm := absurd hm not_mem_nil
  open_ _ hm := absurd hm not_mem_nil
  atMost := h.atMost
  kept := h.kept

/-- A new call is idle. -/
theorem enter : OnceInv id w (gs ++ [.idle]) := by
  have old : ∀ g ∈ gs ++ [Role.idle], g ≠ Role.idle → g ∈ gs :=
    forall_mem_concat (fun _ hg _ => hg) (absurd rfl)
  exact
    { one := h.one.concat_of_not (by simp)
      armed := fun hm => h.armed (old _ hm (by decide))
      typed := fun hm => h.typed (old _ hm (by decide))
      open_ := fun g hg hne => h.open_ g (old g hg hne) hne
      atMost := h.atMost
      kept := h.kept }

end OnceInv

/-! ## The procedures follow the protocol -/

variable (id) in
/-- The role of a call on delivery `id'`: a call on another id stays idle throughout. -/
def roleFor (id' : String) (g : Role) : Role := if id' = id then g else .idle

variable (id) in
/-- A record of the id under watch after an insert: the same, or the new one where none was. -/
theorem insertDelivery_cases (w : World) (d : Delivery) (text : String) :
    (w.insertDelivery d text).1.sends id = w.sends id ∧
    ((w.insertDelivery d text).1.deliveries id = w.deliveries id ∧
        (d.deliveryID = id → ∃ msg, (w.insertDelivery d text).2 = .error msg) ∨
      d.deliveryID = id ∧ w.deliveries id = none ∧
        (w.insertDelivery d text).1.deliveries id = some d ∧
        (w.insertDelivery d text).2 = .ok true) := by
  unfold World.insertDelivery
  cases hd : w.deliveries d.deliveryID with
  | some old => exact ⟨rfl, .inl ⟨rfl, fun _ => ⟨_, rfl⟩⟩⟩
  | none =>
    refine ⟨rfl, ?_⟩
    by_cases hid : d.deliveryID = id
    · refine .inr ⟨hid, hid ▸ hd, ?_, rfl⟩
      simp [hid]
    · refine .inl ⟨?_, fun h => absurd h hid⟩
      simp [Function.update_of_ne (Ne.symm hid)]

variable (id) in
theorem updateDelivery_cases (w : World) (d : Delivery) :
    (w.updateDelivery d).sends id = w.sends id ∧
    ((w.updateDelivery d).deliveries id = w.deliveries id ∨
      d.deliveryID = id ∧ ∃ d', (w.updateDelivery d).deliveries id = some d' ∧
        d'.herdrAcceptance = d.herdrAcceptance) := by
  refine ⟨rfl, ?_⟩
  by_cases hid : d.deliveryID = id
  · cases hd : w.deliveries id with
    | none => left; simp [World.updateDelivery, hid, hd]
    | some old =>
      right
      exact ⟨hid, World.updated old d, by simp [World.updateDelivery, hid, hd], rfl⟩
  · simp [World.updateDelivery, Function.update_of_ne (Ne.symm hid)]

section Steps

variable {g : Role} {l : Label} {α : Type}

theorem ask_follows (f : Answer → α) : (onceProtocol id).Same g (ask l f) :=
  .act fun _ _ => ⟨g, .quiet rfl rfl, rfl⟩

/-- A store call that fails changes nothing; so only the successful call is to be checked. -/
theorem storeCall_follows {f : World → Answer → World × Except String α}
    {Q : Except String α → Role → Prop}
    (herr : ∀ w e msg, ∃ g', Rule id l w e g w g' ∧ Q (.error msg) g')
    (hok : ∀ w e, ∃ g', Rule id l w e g (f w e).1 g' ∧ Q (f w e).2 g') :
    (onceProtocol id).Triple g (storeCall l f) Q := by
  refine .act fun w e => ?_
  cases he : e.storeErr with
  | some msg => exact herr w e msg
  | none => exact hok w e

variable (id' : String)

theorem getDelivery_follows : (onceProtocol id).Same g (getDelivery id') :=
  storeCall_follows (fun _ _ _ => ⟨g, .quiet rfl rfl, rfl⟩) fun _ _ => ⟨g, .quiet rfl rfl, rfl⟩

theorem deleteDelivery_follows :
    (onceProtocol id).Triple .idle (deleteDelivery id') fun _ g' => g' = .idle := by
  refine storeCall_follows (fun _ _ _ => ⟨_, .quiet rfl rfl, rfl⟩) fun w e => ⟨_, ?_, rfl⟩
  by_cases hid : id' = id
  · subst hid
    exact .delete (by simp [World.deleteDelivery]) rfl
  · exact .quiet (by simp [World.deleteDelivery, Function.update_of_ne (Ne.symm hid)]) rfl

/-- Inserting the record of a failure. -/
theorem insertFailure_follows (d : ℤ → Delivery) (text : String) :
    (onceProtocol id).Triple .idle (insertDelivery id' d text) fun _ g' => g' = .idle := by
  refine storeCall_follows (fun _ _ _ => ⟨_, .quiet rfl rfl, rfl⟩) fun w e => ⟨_, ?_, rfl⟩
  obtain ⟨hn, ⟨hd, _⟩ | ⟨_, hno, _⟩⟩ :=
    insertDelivery_cases id w { d e.now with deliveryID := id' } text
  · exact .quiet hd hn
  · exact .reject hno hn

/-- Inserting an unfinished record arms the call. -/
theorem insertOpen_follows (d : ℤ → Delivery) (text : String)
    (h0 : ∀ now, (d now).completedAtMS = 0) :
    (onceProtocol id).Triple .idle (insertDelivery id' d text) fun r g' =>
      (∀ msg, r = .error msg → g' = .idle) ∧
      (∀ d', r = .ok d' → g' = roleFor id id' .armed ∧ d'.deliveryID = id') := by
  refine storeCall_follows (fun _ _ msg => ⟨_, .quiet rfl rfl, by simp⟩) fun w e => ?_
  obtain ⟨hn, ⟨hd, he⟩ | ⟨hid, hno, hd, hok⟩⟩ :=
    insertDelivery_cases id w { d e.now with deliveryID := id' } text
  · refine ⟨.idle, .quiet hd hn, fun _ _ => rfl, fun d' hd' => ?_⟩
    by_cases hid : id' = id
    · obtain ⟨msg, hmsg⟩ := he hid
      simp [hmsg, Except.map] at hd'
    · refine ⟨by simp [roleFor, hid], ?_⟩
      cases hr : (w.insertDelivery { d e.now with deliveryID := id' } text).2 with
      | error msg => simp [hr, Except.map] at hd'
      | ok b => simp only [hr, Except.map, Except.ok.injEq] at hd'; rw [← hd']
  · refine ⟨.armed, .commit hno hd (h0 e.now) hn, ?_, ?_⟩
    · simp [hok, Except.map]
    · intro d' hd'
      simp only [hok, Except.map, Except.ok.injEq] at hd'
      exact ⟨by simp only at hid; simp [roleFor, hid], by rw [← hd']⟩

/-- Handing a text to herdr. -/
theorem send_follows (x : Sent) (f : Answer → α) :
    (onceProtocol id).Triple (roleFor id x.deliveryID .armed)
      (Cmd.act (.send x.deliveryID) fun w e => ({ w with sent := w.sent ++ [x] }, f e))
      fun _ g' => g' = roleFor id x.deliveryID .typed := by
  refine .act fun w e => ⟨_, ?_, rfl⟩
  by_cases hid : x.deliveryID = id
  · simp only [roleFor, hid, if_true]
    exact .type rfl (by simp [World.sends, hid])
  · simp only [roleFor, hid, if_false]
    exact .quiet rfl (by simp [World.sends, hid])

/-- Completing the record, before or after the text was typed. -/
theorem updateDelivery_follows (d : Delivery) (hg : g = roleFor id d.deliveryID .armed ∨
      g = roleFor id d.deliveryID .typed ∧ d.herdrAcceptance ≠ "") :
    (onceProtocol id).Triple g (updateDelivery d) fun _ g' => g' = .idle := by
  have fate : ∀ w e w', w'.sends id = w.sends id →
      (w'.deliveries id = w.deliveries id ∨ d.deliveryID = id ∧
        ∃ d', w'.deliveries id = some d' ∧ d'.herdrAcceptance = d.herdrAcceptance) →
      Rule id (.updateDelivery d.deliveryID) w e g w' .idle := by
    intro w e w' hn hd
    by_cases hid : d.deliveryID = id
    · simp only [roleFor, hid, if_true] at hg
      rcases hg with rfl | ⟨rfl, ha⟩
      · exact .abandon hn
      · rcases hd with hd | ⟨_, d', hd', hsame⟩
        · exact .close hn (.inl hd)
        · exact .close hn (.inr ⟨d', hd', hsame ▸ ha⟩)
    · have hi : g = .idle := by
        rcases hg with rfl | ⟨rfl, _⟩ <;> simp [roleFor, hid]
      subst hi
      rcases hd with hd | ⟨h, _⟩
      · exact .quiet hd hn
      · exact absurd h hid
  refine storeCall_follows (fun w e _ => ⟨_, fate w e w rfl (.inl rfl), rfl⟩)
    fun w e => ⟨_, ?_, rfl⟩
  obtain ⟨hn, hd⟩ := updateDelivery_cases id w { d with completedAtMS := e.now }
  exact fate w e _ hn hd

end Steps

section Procedures

variable {digest : String → String} {g : Role}

/-- The call is idle again when it returns. -/
def Idles (_ : Reply) (g : Role) : Prop := g = .idle

variable (j : Job)

theorem recordFailure_follows (p : PaneIdentity) (revision : ℤ)
    (readHash result detail : String) (err : CodedError) :
    (onceProtocol id).Triple .idle
      (recordFailureForRequestWithPaneDetail j p revision readHash result detail err) Idles := by
  refine .bind (insertFailure_follows _ _ _) ?_
  rintro (msg | d) _ rfl <;> exact .pure rfl

theorem recordNewFailure_follows (code : ℕ) (msg : String) :
    (onceProtocol id).Triple .idle (recordNewFailure j code msg) Idles := by
  refine .bind (insertFailure_follows _ _ _) ?_
  rintro (msg | d) _ rfl <;> exact .pure rfl

theorem resolveTarget_follows (target : String) :
    (onceProtocol id).Same g (resolveTarget target) := by
  refine .bind (ask_follows _) ?_
  rintro ⟨_ | (_ | agents), ctxErr⟩ _ rfl
  · exact .pure rfl
  · exact .pure rfl
  · refine .bind (ask_follows _) ?_
    rintro ⟨tabs, ctxErr⟩ _ rfl
    exact .pure rfl

theorem readPane_follows (source : String) : (onceProtocol id).Same g (readPane source) := by
  refine .bind (ask_follows _) ?_
  rintro (_ | r) _ rfl
  · refine .bind (ask_follows _) ?_
    rintro ⟨_ | r, ctxErr⟩ _ rfl <;> exact .pure rfl
  · exact .pure rfl

theorem preflightRead_follows : (onceProtocol id).Same g preflightRead := by
  refine .bind (readPane_follows _) ?_
  rintro (err | pre) _ rfl
  · exact .pure rfl
  · by_cases ht : pre.text = ""
    · simp only [ht, if_true]; exact readPane_follows _
    · simp only [ht, if_false]; exact .pure rfl

theorem finishPrompt_follows (d : Delivery) (err : Option CodedError)
    (hg : g = roleFor id d.deliveryID .armed ∨
      g = roleFor id d.deliveryID .typed ∧ d.herdrAcceptance ≠ "") :
    (onceProtocol id).Triple g (finishPrompt d err) Idles := by
  -- the error code is stamped first; neither the id nor the acceptance changes
  have stamped : ∀ d' : Delivery, d'.deliveryID = d.deliveryID →
      d'.herdrAcceptance = d.herdrAcceptance →
      (onceProtocol id).Triple g (updateDelivery d') fun _ g' => g' = .idle :=
    fun d' h₁ h₂ => updateDelivery_follows d' (by rwa [h₁, h₂])
  refine .bind ?_ (Q := fun _ g' => g' = .idle) ?_
  · cases err with
    | none => exact stamped d rfl rfl
    | some e => exact stamped _ (by dsimp only; split <;> rfl) (by dsimp only; split <;> rfl)
  · rintro (msg | d') _ rfl <;> exact .pure rfl

theorem subscribeStatus_follows (uptake : String) :
    (onceProtocol id).Same g (subscribeStatus j uptake) := by
  unfold subscribeStatus
  split
  · split
    · exact ask_follows _
    · exact .pure rfl
  · exact .pure rfl

theorem promptSend_follows (pane : PaneIdentity) :
    (onceProtocol id).Triple (roleFor id j.id .armed) (promptSend j pane)
      fun _ g' => g' = roleFor id j.id .typed :=
  send_follows ⟨j.id, _, _, j.body⟩ _

/-- Once the text is typed, every way out completes a record that says so. -/
theorem judge_follows (d : Delivery) (pane sendPane : PaneIdentity) (uptake : String)
    (ha : d.herdrAcceptance ≠ "") : (onceProtocol id).Triple (roleFor id d.deliveryID .typed)
      (judge j d pane sendPane uptake) Idles := by
  have out : ∀ (d' : Delivery) (err : Option CodedError), d'.deliveryID = d.deliveryID →
      d'.herdrAcceptance = d.herdrAcceptance →
      (onceProtocol id).Triple (roleFor id d.deliveryID .typed) (finishPrompt d' err) Idles := by
    intro d' err h₁ h₂
    exact finishPrompt_follows d' err (.inr ⟨by rw [h₁], by rwa [h₂]⟩)
  refine .bind (ask_follows _) ?_
  rintro ⟨⟨post, submission, _ | msg⟩, ctxErr⟩ _ rfl
  swap
  · exact out _ _ rfl rfl
  dsimp only
  split
  · exact out _ _ rfl rfl
  split
  · exact out _ _ rfl rfl
  split
  · refine .bind (ask_follows _) ?_
    rintro (_ | revision | _) _ rfl <;> exact out _ _ rfl rfl
  split
  · split <;> exact out _ _ rfl rfl
  · exact out _ _ rfl rfl

theorem sendAndJudge_follows (d : Delivery) (pane sendPane : PaneIdentity)
    (uptake : String) (hd : d.deliveryID = j.id) : (onceProtocol id).Triple (roleFor id j.id .armed)
      (sendAndJudge j d pane sendPane uptake) Idles := by
  refine .bind (subscribeStatus_follows j uptake) ?_
  rintro (_ | msg) _ rfl
  swap
  · exact finishPrompt_follows d _ (.inl (by rw [hd]))
  refine .bind (promptSend_follows j pane) ?_
  rintro (_ | ⟨msg, ctxErr⟩) _ rfl
  · rw [← hd]
    exact judge_follows j { d with herdrAcceptance := "accepted" } _ _ _ (by simp)
  · exact finishPrompt_follows _ _ (.inr ⟨by rw [← hd], by simp⟩)

theorem attempt_follows : (onceProtocol id).Triple .idle (attempt digest j) Idles := by
  unfold attempt
  split
  · exact recordNewFailure_follows _ _ _
  refine .bind (resolveTarget_follows _) ?_
  rintro (err | pane) _ rfl
  · exact recordFailure_follows _ _ _ _ _ _ _
  refine .bind preflightRead_follows ?_
  rintro (err | pre) _ rfl
  · exact recordFailure_follows _ _ _ _ _ _ _
  dsimp only
  split
  · exact recordFailure_follows _ _ _ _ _ _ _
  split
  · exact recordFailure_follows _ _ _ _ _ _ _
  refine .bind (resolveTarget_follows _) ?_
  rintro (err | sendPane) _ rfl
  · exact recordFailure_follows _ _ _ _ _ _ _
  dsimp only
  split
  · exact recordFailure_follows _ _ _ _ _ _ _
  refine .bind (insertOpen_follows _ _ _ fun _ => rfl) ?_
  rintro (msg | d) g' ⟨he, hok⟩
  · obtain rfl := he msg rfl
    exact .pure rfl
  · obtain ⟨rfl, hd⟩ := hok d rfl
    exact sendAndJudge_follows j d _ _ _ hd

theorem prompt_follows (req : Request) (caps : Caps) :
    (onceProtocol id).Triple .idle (prompt digest req caps) Idles := by
  unfold prompt
  split
  · exact .pure rfl
  split
  · exact .pure rfl
  refine .bind (ask_follows _) ?_
  rintro (msg | raw) _ rfl
  · exact .pure rfl
  dsimp only
  split
  · exact .pure rfl
  refine .bind (getDelivery_follows _) ?_
  rintro (msg | _ | old) _ rfl
  · exact .pure rfl
  · exact attempt_follows _
  dsimp only
  split
  · exact .pure rfl
  split
  · refine .bind (deleteDelivery_follows _) ?_
    rintro (msg | ⟨⟩) _ rfl
    · exact .pure rfl
    · exact attempt_follows _
  · exact .pure rfl

theorem recordUnavailablePrompt_follows (req : Request) (code : ℕ) (msg : String) :
    (onceProtocol id).Triple .idle (recordUnavailablePrompt digest req code msg) Idles := by
  refine .bind (ask_follows _) ?_
  rintro file _ rfl
  refine .bind (insertFailure_follows _ _ _) ?_
  rintro (msg | d) _ rfl <;> exact .pure rfl

/-- Noting the reply touches neither record nor sends. -/
theorem reply_follows (r : Reply) :
    (onceProtocol id).Triple g
      (Cmd.act .reply fun w _ => ({ w with replies := w.replies ++ [r] }, ()))
      fun _ _ => True :=
  .act fun _ _ => ⟨g, .quiet rfl rfl, trivial⟩

theorem body_follows (r : Proc) : (onceProtocol id).Follows (body digest r) .idle := by
  cases r with
  | prompt req caps =>
    exact (Triple.bind (prompt_follows req caps) fun r _ _ => reply_follows r).follows
  | unavailable req code msg =>
    exact (Triple.bind (recordUnavailablePrompt_follows req code msg)
      fun r _ _ => reply_follows r).follows

/-- The invariant is kept by everything that can happen within the limits. -/
theorem onceKeeps : (onceProtocol id).Keeps (body digest) (spentLimits id) (OnceInv id) where
  follows r _ := body_follows r
  enter _ _ _ _ h := h.enter
  rule _ _ _ _ _ _ _ _ hi hl hr h := h.rule hi hl hr
  restart _ _ _ hs h := Option.some.inj hs ▸ h.restart

end Procedures

end Protocol

/-! ## At most one send -/

/-- **A delivery is typed at most once** in every run, from any delivery table, in which each
deletion of its record finds that record absent or spent. -/
theorem sends_le_one (digest : String → String) (sender target path text uptake : String)
    {w : World} (hw : w.sent = []) {s : Sys World Answer Label Proc}
    (hr : Run (body digest)
      (spentLimits (correlationID digest sender target path (digest text) uptake)) ⟨w, []⟩ s) :
    s.shared.sends (correlationID digest sender target path (digest text) uptake) ≤ 1 := by
  have hs : (onceProtocol (correlationID digest sender target path (digest text) uptake)).Holds
      (OnceInv (correlationID digest sender target path (digest text) uptake)) ⟨w, []⟩ :=
    ⟨[], .nil, OnceInv.of_idle (by simp [World.sends, hw]) (by simp)⟩
  obtain ⟨gs, _, hi⟩ := onceKeeps.run hr hs
  exact hi.atMost

/-- A request, its file, and the pane it is for: once with the wrong directory, once right. -/
def sampleRequest : Request := { sender := "lead", target := "p1", path := "brief.md" }

/-- The outside as it is when the pane's directory is `cwd`. -/
def sampleAnswer (cwd : String) : Answer where
  file := .ok "expect: cwd=/repo\nreview it\n"
  agents := .ok (some [{ paneID := "p1", agent := "claude", harness := "claude", cwd := cwd }])
  read := .ok { text := "ready" }

/-- The id of the sample request, with the identity for a digest. -/
def sampleID : String := correlationID (fun t => t) "lead" "p1" "brief.md" "review it\n" ""

/-- Thread `i` takes `n` steps. -/
def steps (i n : ℕ) (cwd : String) : List (Move Proc Answer) :=
  List.replicate n (.sched i (sampleAnswer cwd))

def emptyWorld : World := ⟨fun _ => none, fun _ => none, [], []⟩

/-- A call that fails its preflight and a retry once the pane is right. -/
def retrySend : List (Move Proc Answer) :=
  [.start (.prompt sampleRequest {})] ++ steps 0 7 "/tmp" ++
  [.start (.prompt sampleRequest {})] ++ steps 1 10 "/repo"

/-- The retry deletes the spent record and is the one send. -/
theorem retry_sends_once :
    ∃ s, Run (body fun t => t) (spentLimits sampleID) ⟨emptyWorld, []⟩ s ∧
      s.shared.sends sampleID = 1 ∧ s.shared.sends sampleID ≤ 1 := by
  exact Run.exists_of_replay_and retrySend (by decide +kernel) fun _ hr _ =>
    sends_le_one (fun t => t) "lead" "p1" "brief.md" "review it\n" "" rfl hr

/-- A call that fails its preflight, then two calls side by side: both read the failure, the
first deletes it, commits its record and types, the second deletes that record and types too. -/
def doubleSend : List (Move Proc Answer) :=
  [.start (.prompt sampleRequest {})] ++ steps 0 7 "/tmp" ++
  [.start (.prompt sampleRequest {}), .start (.prompt sampleRequest {})] ++
  steps 1 2 "/repo" ++ steps 2 2 "/repo" ++ steps 1 8 "/repo" ++ steps 2 8 "/repo"

/-- Two calls that read the same preflight failure type the text twice. -/
theorem two_calls_send_twice :
    ∃ s, Run (body fun t => t) freely ⟨emptyWorld, []⟩ s ∧ s.shared.sends sampleID = 2 := by
  exact Run.exists_of_replay doubleSend (by decide +kernel)

end Panewire.Prompt

import Panewire.Relay.Control

/-!
# A directive is typed at most once

The delivered record keeps a directive from being typed again when the hub repeats it. An offer
reads that record and then, in a step of its own, the held row; a release in between types the row,
writes the record and deletes the row, and the offer finds neither (`repeated_offer_types_twice`).

`landings_le_one` is the exact bargain: as long as no offer of the directive finds its row missing
while a release has it or after it was recorded, the pane gets it at most once, whatever else the
node does. The proof needs who may be **busy** with the directive: at most one thread, the release
that has it in flight or the offer that claimed it, and a busy offer means that no row is stored.
-/

namespace Panewire.Relay

open Data Conc Protocol List

variable {hand : List Face}

section Landings

variable (E : ℕ)

/-- The entry is an inject that proved the event's text on the pane. -/
def Ev.landed : Ev → Bool
  | .injected _ group _ r => (r.landed group).any fun x => x.eventID = E
  | _ => false

/-- How often the event's text was taken by its pane. -/
def landings (h : List Ev) : ℕ := h.countP (Ev.landed E)

theorem landings_filter (h : List Ev) : landings E (h.filter (Ev.about E)) = landings E h := by
  unfold landings
  rw [countP_filter]
  refine countP_congr fun ev _ => ?_
  rw [Bool.and_eq_true, and_iff_left_iff_imp]
  intro hl
  cases ev with
  | injected pane group text r =>
    obtain ⟨x, hx, hid⟩ := any_eq_true.mp hl
    exact any_eq_true.mpr ⟨x, (landed_sublist r group).subset hx, hid⟩
  | offered | edited | cancelled => cases hl

end Landings

/-! ## The invariant -/

section Once

variable (D : Directive)

/-- The thread has a copy of the directive, or a delivery of it to finish. -/
def Role.Busy (g : Role) : Prop := g.hand ≠ [] ∨ g.landed ≠ [] ∨ g.owes = true

theorem Role.Busy.of_less {g g' : Role} (hb : g'.Busy) (hh : g'.hand ⊆ g.hand)
    (hld : g'.landed ⊆ g.landed) (ho : g'.owes = true → g.owes = true) : g.Busy := by
  rcases hb with hb | hb | hb
  · exact .inl fun hn => hb (subset_nil.mp (hn ▸ hh))
  · exact .inr (.inl fun hn => hb (subset_nil.mp (hn ▸ hld)))
  · exact .inr (.inr (ho hb))

/-- The thread claimed the directive. -/
def Role.Claims (g : Role) : Prop := g.claim = some D.lane

/-- What holds of each thread. -/
structure Local (v : View) (g : Role) : Prop where
  sound : g.faulty = false
  offers : ∀ m, g.offers = some m → m = D
  hand : ∀ f ∈ g.hand, f = D.face
  landed : ∀ f ∈ g.landed, f = D.face
  claim : g.Claims D → D.lane ∈ v.claims
  flight : g.flight = true → v.inflight = true
  busy : g.Busy → g.flight = true ∨ g.Claims D
  alone : g.Busy → g.flight = false → v.faces = []
  /-- after the landing nobody has a copy to type -/
  empty : landings D.eventID v.hist ≠ 0 → g.hand = []
  /-- only a landing leaves something to finish -/
  spent : g.landed ≠ [] ∨ g.owes = true → landings D.eventID v.hist ≠ 0

/-- The invariant of a directive that lands at most once. -/
structure Once (v : View) (gs : List Role) : Prop where
  each : ∀ g ∈ gs, Local D v g
  claims : AtMostOne (Role.Claims D) gs
  flights : AtMostOne (fun g => g.flight = true) gs
  busy : AtMostOne Role.Busy gs
  stored : ∀ f ∈ v.faces, f = D.face
  le : landings D.eventID v.hist ≤ 1
  /-- a landing is recorded, or is being recorded -/
  recorded : landings D.eventID v.hist ≠ 0 → (∀ g ∈ gs, g.landed = []) →
    ∃ r ∈ v.records, r.lane = D.lane
  /-- the row of a landing is deleted, or is being deleted -/
  deleted : landings D.eventID v.hist ≠ 0 → (∀ g ∈ gs, g.owes = false) → v.faces = []

end Once

namespace Local

variable {D : Directive} {v v' : View} {g g' : Role}

theorem clean (h : Local D v g) (hc : g.Clean) : g.landed = [] ∧ g.owes = false :=
  hc.resolve_left (by rw [h.sound]; nofun)

/-- What another thread sees of a step. -/
theorem other (h : Local D v g) (hcl : g.Claims D → D.lane ∈ v.claims → D.lane ∈ v'.claims)
    (hfl : g.flight = true → v'.inflight = true) (ha : g.Busy → g.flight = false → v'.faces = [])
    (hn : landings D.eventID v'.hist ≠ 0 → g.hand = [])
    (hspe : landings D.eventID v.hist ≠ 0 → landings D.eventID v'.hist ≠ 0) : Local D v' g :=
  { h with
    claim := fun hc => hcl hc (h.claim hc)
    flight := hfl
    alone := ha
    empty := hn
    spent := fun hs => hspe (h.spent hs) }

/-- A thread that lets go of copies, and nothing else changed for it. -/
theorem shrink (h : Local D v g) (hfla : g'.offers = g.offers ∧ g'.claim = g.claim ∧
    g'.flight = g.flight ∧ g'.faulty = g.faulty) (hh : g'.hand ⊆ g.hand)
    (hld : g'.landed ⊆ g.landed) (how : g'.owes = true → g.owes = true) : Local D v g' := by
  obtain ⟨ho, hc, hf, hx⟩ := hfla
  have hbu : g'.Busy → g.Busy := fun hb => hb.of_less hh hld how
  have hcls : g'.Claims D ↔ g.Claims D := by rw [Role.Claims, hc, Role.Claims]
  exact
    { sound := hx.trans h.sound
      offers := fun m hm => h.offers m (ho ▸ hm)
      hand := fun f hfh => h.hand f (hh hfh)
      landed := fun f hfl => h.landed f (hld hfl)
      claim := fun hcl => h.claim (hcls.mp hcl)
      flight := fun hfl => h.flight (hf ▸ hfl)
      busy := fun hb => by rw [hf, hcls]; exact h.busy (hbu hb)
      alone := fun hb hfl => h.alone (hbu hb) (hf ▸ hfl)
      empty := fun hn => subset_nil.mp (h.empty hn ▸ hh)
      spent := fun hs => h.spent (hs.imp (fun hne hnil => hne (subset_nil.mp (hnil ▸ hld)))
        how) }

end Local

namespace Once

variable {D : Directive} {v v' : View} {gs : List Role} {i : ℕ} {g g' : Role}

/-- The threads after a step: the one that took it, and the others. -/
theorem each_set (h : Once D v gs) (hs : Local D v' g')
    (ho : ∀ a ∈ gs, a ∈ gs.set i g' → a ≠ g' → Local D v a → Local D v' a) :
    ∀ a ∈ gs.set i g', Local D v' a := by
  intro a ha
  by_cases hag : a = g'
  · rw [hag]
    exact hs
  · have hold : a ∈ gs := (mem_set_cases ha).resolve_left hag
    exact ho a hold ha hag (h.each a hold)

section Steps

variable (h : Once D v gs) (hi : gs[i]? = some g)
include h hi

/-- A step after which the thread has less, with the same flags. -/
theorem shrink
    (hfla : g'.offers = g.offers ∧ g'.claim = g.claim ∧ g'.flight = g.flight ∧ g'.faulty = g.faulty)
    (hh : g'.hand ⊆ g.hand) (hld : g'.landed = g.landed) (how : g'.owes = g.owes) :
    Once D v (gs.set i g') := by
  have hg := h.each g (mem_of_getElem? hi)
  have hs : Local D v g' :=
    hg.shrink hfla hh (hld ▸ List.Subset.refl _) fun ho => how ▸ ho
  refine ⟨h.each_set hs fun _ _ _ _ ha => ha, ?_, ?_, ?_, h.stored, h.le, ?_, ?_⟩
  · exact h.claims.set_of_imp hi fun hc => by rwa [Role.Claims, ← hfla.2.1]
  · exact h.flights.set_of_imp hi fun hf => by rwa [← hfla.2.2.1]
  · exact h.busy.set_of_imp hi fun hb =>
      hb.of_less hh (hld ▸ List.Subset.refl _) fun ho => how ▸ ho
  · intro hn hall
    exact h.recorded hn (forall_of_forall_set hi hall fun hl => hld ▸ hl)
  · intro hn hall
    exact h.deleted hn (forall_of_forall_set hi hall fun ho => how ▸ ho)

/-- No row of the directive is stored any more. -/
theorem delete (hh : hand ⊆ g.hand) :
    Once D { v with faces := [] } (gs.set i { g with hand := hand, owes := false }) := by
  have hg := h.each g (mem_of_getElem? hi)
  have hs : Local D v { g with hand := hand, owes := false } :=
    hg.shrink ⟨rfl, rfl, rfl, rfl⟩ hh (.refl _) nofun
  have sees : ∀ {a : Role}, Local D v a → Local D { v with faces := [] } a := fun ha =>
    ha.other (fun _ hc => hc) ha.flight (fun _ _ => rfl) ha.empty id
  refine ⟨h.each_set (sees hs) fun _ _ _ _ ha => sees ha, ?_, ?_, ?_, by simp, h.le, ?_,
    fun _ _ => rfl⟩
  · exact h.claims.set_of_imp hi id
  · exact h.flights.set_of_imp hi id
  · exact h.busy.set_of_imp hi fun hb => hb.of_less hh (.refl _) nofun
  · intro hn hall
    exact h.recorded hn (forall_of_forall_set hi hall fun hl => hl)

/-- The thread that has the directive puts it back; afterwards nobody is busy. -/
theorem insert {x : Face}
    (hx : x ∈ g.hand) (hh : hand ⊆ g.hand) (hfree : ∀ f ∈ hand, f.lane ≠ x.lane) :
    Once D { v with faces := v.faces ++ [x] } (gs.set i { g with hand := hand }) := by
  have hg := h.each g (mem_of_getElem? hi)
  have hne : g.hand ≠ [] := ne_nil_of_mem hx
  have hbu : g.Busy := .inl hne
  have hfa : x = D.face := hg.hand x hx
  -- every copy has the directive's lane, so the hand is empty now
  have hnil : hand = [] := by
    rw [eq_nil_iff_forall_not_mem]
    intro f hf
    refine hfree f hf ?_
    rw [hfa, hg.hand f (hh hf)]
  -- and nothing has landed
  have hz : landings D.eventID v.hist = 0 := by
    by_contra hn
    exact hne (hg.empty hn)
  have hidl : ¬ (Role.Busy { g with hand := hand }) := by
    rintro (hb | hb)
    · exact hb hnil
    · exact hg.spent hb hz
  have ho : ∀ a ∈ gs.set i { g with hand := hand }, ¬ a.Busy := by
    intro a ha hb
    have heq := h.busy.eq_of_mem_set hi hbu ha hb
    exact hidl (heq ▸ hb)
  have hs : Local D v { g with hand := hand } :=
    hg.shrink ⟨rfl, rfl, rfl, rfl⟩ hh (.refl _) id
  refine ⟨?_, h.claims.set_of_imp hi id, h.flights.set_of_imp hi id, ?_, ?_, h.le, ?_, ?_⟩
  · refine h.each_set (hs.other (fun _ hc => hc) hs.flight (fun hb _ => absurd hb hidl)
      hs.empty id) fun a _ hmem _ ha => ?_
    exact ha.other (fun _ hc => hc) ha.flight (fun hb _ => absurd hb (ho a hmem)) ha.empty id
  · exact h.busy.set_of_imp hi fun _ => hbu
  · exact forall_mem_concat h.stored hfa
  · exact fun hn => absurd hz hn
  · exact fun hn => absurd hz hn

omit hi in
/-- A landing that is not finished belongs to a busy thread. -/
theorem busy_of_landing (hn : landings D.eventID v.hist ≠ 0)
    (hfc : v.faces ≠ []) : ∃ a ∈ gs, a.Busy := by
  by_contra hno
  push Not at hno
  refine hfc (h.deleted hn fun a ha => ?_)
  cases ho : a.owes with
  | false => rfl
  | true => exact absurd (.inr (.inr ho)) (hno a ha)

/-- A release takes the row; nobody else is busy with the directive. -/
theorem take {faces : List Face} (hfree : v.inflight = false) (hsub : faces ⊆ v.faces) :
    Once D { v with inflight := true } (gs.set i { g with flight := true, hand := faces }) := by
  have hg := h.each g (mem_of_getElem? hi)
  have hnof : ∀ a ∈ gs, a.flight = false := by
    intro a ha
    cases hf : a.flight with
    | false => rfl
    | true =>
      rw [(h.each a ha).flight hf] at hfree
      cases hfree
  have hidl : v.faces ≠ [] → ∀ a ∈ gs, ¬ a.Busy := fun hne a ha hb =>
    hne ((h.each a ha).alone hb (hnof a ha))
  have hz : v.faces ≠ [] → landings D.eventID v.hist = 0 := by
    intro hne
    by_contra hn
    obtain ⟨a, ha, hb⟩ := h.busy_of_landing hn hne
    exact hidl hne a ha hb
  have hsame : ∀ {a : Role}, Local D v a → Local D { v with inflight := true } a := fun ha =>
    ha.other (fun _ hc => hc) (fun _ => rfl) ha.alone ha.empty id
  have hs : Local D { v with inflight := true } { g with flight := true, hand := faces } :=
    { hsame hg with
      hand := fun f hf => h.stored f (hsub hf)
      flight := fun _ => rfl
      busy := fun _ => .inl rfl
      alone := fun _ hf => by cases hf
      empty := fun hn => by
        by_contra hne
        exact hn (hz fun hnil => hne (subset_nil.mp (hnil ▸ hsub))) }
  refine ⟨h.each_set hs fun _ _ _ _ ha => hsame ha, h.claims.set_of_imp hi id, ?_, ?_, h.stored,
    h.le, ?_, ?_⟩
  · exact AtMostOne.set_first (fun a ha => by simp [hnof a ha]) i _
  · by_cases hne : v.faces = []
    · -- nothing was taken
      have hnil : faces = [] := subset_nil.mp (hne ▸ hsub)
      refine h.busy.set_of_imp hi ?_
      rintro (hb | hb)
      · exact absurd hnil hb
      · exact .inr hb
    · exact AtMostOne.set_first (hidl hne) i _
  · intro hn hall
    exact h.recorded hn (forall_of_forall_set hi hall fun hl => hl)
  · intro hn hall
    exact h.deleted hn (forall_of_forall_set hi hall fun ho => ho)

/-- A thread with nothing to finish gives up what it has, and with it a flag; `v'` may forget the
flag, which nobody else has. -/
theorem release (hc : g.Clean)
    (hha : g'.hand = []) (hld : g'.landed = g.landed) (how : g'.owes = g.owes)
    (hfau : g'.faulty = g.faulty) (hoff : ∀ m, g'.offers = some m → g.offers = some m)
    (hcl : g'.Claims D → g.Claims D) (hfl : g'.flight = true → g.flight = true)
    (hv : v' = { v with inflight := v'.inflight, claims := v'.claims, offering := v'.offering })
    (hcls : ∀ a ∈ gs.set i g', a.Claims D → D.lane ∈ v'.claims)
    (hfli : ∀ a ∈ gs.set i g', a.flight = true → v'.inflight = true) : Once D v' (gs.set i g') := by
  have hg := h.each g (mem_of_getElem? hi)
  obtain ⟨hl, ho⟩ := hg.clean hc
  have hmem := mem_set_self g' hi
  have hidl : ¬ g'.Busy := by
    rintro (hb | hb | hb)
    · exact hb hha
    · exact hb (hld.trans hl)
    · rw [how, ho] at hb
      cases hb
  have hfc : v'.faces = v.faces := by rw [hv]
  have hrcs : v'.records = v.records := by rw [hv]
  have hh : v'.hist = v.hist := by rw [hv]
  refine ⟨h.each_set ?_ fun a _ hmem _ ha => ?_, h.claims.set_of_imp hi hcl,
    h.flights.set_of_imp hi hfl, h.busy.set_of_imp hi fun hb => absurd hb hidl,
    hfc ▸ h.stored, hh ▸ h.le, ?_, ?_⟩
  · exact
      { sound := hfau.trans hg.sound
        offers := fun m hm => hg.offers m (hoff m hm)
        hand := by simp [hha]
        landed := by simp [hld, hl]
        claim := hcls g' hmem
        flight := hfli g' hmem
        busy := fun hb => absurd hb hidl
        alone := fun hb => absurd hb hidl
        empty := fun _ => hha
        spent := fun hs => absurd (.inr hs) hidl }
  · exact ha.other (fun hca _ => hcls a hmem hca) (hfli a hmem) (hfc ▸ ha.alone)
      (hh ▸ ha.empty) (fun hn => hh ▸ hn)
  · rw [hh, hrcs]
    intro hn hall
    exact h.recorded hn (forall_of_forall_set hi hall fun _ => hl)
  · rw [hh, hfc]
    intro hn hall
    exact h.deleted hn (forall_of_forall_set hi hall fun _ => ho)

/-- The directive arrives once more. -/
theorem arrive :
    Once D { v with offering := v.offering + 1, hist := .offered D :: v.hist }
      (gs.set i { g with offers := some D }) := by
  have hg := h.each g (mem_of_getElem? hi)
  have hn : landings D.eventID (.offered D :: v.hist) = landings D.eventID v.hist :=
    countP_cons_of_neg (by simp [Ev.landed])
  have sees : ∀ {a : Role}, Local D v a →
      Local D { v with offering := v.offering + 1, hist := .offered D :: v.hist } a := fun ha =>
    ha.other (fun _ hc => hc) ha.flight ha.alone (fun hne => ha.empty (hn ▸ hne))
      fun hne => by rwa [hn]
  refine ⟨h.each_set ?_ fun _ _ _ _ ha => sees ha, h.claims.set_of_imp hi id,
    h.flights.set_of_imp hi id, h.busy.set_of_imp hi id, h.stored, hn ▸ h.le, ?_, ?_⟩
  · exact { sees hg with offers := fun m hm => (Option.some.inj hm).symm }
  · intro hne hall
    exact h.recorded (hn ▸ hne) (forall_of_forall_set hi hall fun hl => hl)
  · intro hne hall
    exact h.deleted (hn ▸ hne) (forall_of_forall_set hi hall fun ho => ho)

/-- An offer claims the event. -/
theorem claim {lane : String} (hfree : lane ∉ v.claims) (hnon : g.claim = none) :
    Once D { v with claims := lane :: v.claims } (gs.set i { g with claim := some lane }) := by
  have hg := h.each g (mem_of_getElem? hi)
  have hno : ¬ g.Claims D := by rw [Role.Claims, hnon]; nofun
  have sees : ∀ {a : Role}, Local D v a → Local D { v with claims := lane :: v.claims } a :=
    fun ha => ha.other (fun _ hc => mem_cons_of_mem _ hc) ha.flight ha.alone ha.empty id
  refine ⟨h.each_set ?_ fun _ _ _ _ ha => sees ha, ?_, h.flights.set_of_imp hi id,
    h.busy.set_of_imp hi id, h.stored, h.le,
    fun hn hall => h.recorded hn (forall_of_forall_set hi hall fun hl => hl),
    fun hn hall => h.deleted hn (forall_of_forall_set hi hall fun ho => ho)⟩
  · exact
      { sees hg with
        claim := fun hc => by
          rw [← Option.some.inj hc]
          exact mem_cons_self
        busy := fun hb => .inl ((hg.busy hb).resolve_right hno) }
  · by_cases hl : lane = D.lane
    · refine AtMostOne.set_first (fun a ha hc => hfree ?_) i _
      rw [hl]
      exact (h.each a ha).claim hc
    · exact h.claims.set_of_not i fun hc => hl (Option.some.inj hc)

/-- An offer takes its directive in hand: there is no row, no release and no record. -/
theorem pick (hcla : g.Claims D) (hc : g.Clean)
    (hfc : v.faces = []) (hfree : v.inflight = false) (hrcs : ∀ r ∈ v.records, r.lane ≠ D.lane) :
    Once D v (gs.set i { g with hand := [D.face] }) := by
  have hg := h.each g (mem_of_getElem? hi)
  obtain ⟨hl, ho⟩ := hg.clean hc
  -- whoever is busy has the directive in flight or claimed it, and only this thread did
  have hidl : ∀ a ∈ gs, a.Busy → a = g := by
    intro a ha hb
    rcases (h.each a ha).busy hb with hf | hcl
    · rw [(h.each a ha).flight hf] at hfree
      cases hfree
    · exact h.claims.eq_of_mem hi hcla ha hcl
  have hz : landings D.eventID v.hist = 0 := by
    by_contra hn
    obtain ⟨r, hr, hla⟩ := h.recorded hn fun a ha => by
      by_contra hne
      rw [hidl a ha (.inr (.inl hne))] at hne
      exact hne hl
    exact hrcs r hr hla
  refine ⟨h.each_set ?_ fun _ _ _ _ ha => ha, h.claims.set_of_imp hi id,
    h.flights.set_of_imp hi id, ?_, h.stored, h.le, fun hn => absurd hz hn,
    fun hn => absurd hz hn⟩
  · exact
      { hg with
        hand := by simp
        busy := fun _ => .inr hcla
        alone := fun _ _ => hfc
        empty := fun hn => absurd hz hn }
  · by_cases hb : g.Busy
    · exact h.busy.set_of_mem hi hb
    · exact AtMostOne.set_first (fun a ha hba => hb (hidl a ha hba ▸ hba)) i _

/-- An inject of which nothing landed for the directive. -/
theorem inject_nothing {pane text : String}
    {group : List Held} {result : InjectResult} (hh : hand ⊆ g.hand)
    (hla : ((result.landed group).any fun x => x.eventID = D.eventID) = false) :
    Once D { v with hist := .injected pane group text result :: v.hist }
      (gs.set i { g with hand := hand }) := by
  have hn : landings D.eventID (.injected pane group text result :: v.hist) =
      landings D.eventID v.hist := countP_cons_of_neg (by simp [Ev.landed, hla])
  have hl : Once D v (gs.set i { g with hand := hand }) :=
    h.shrink hi ⟨rfl, rfl, rfl, rfl⟩ hh rfl rfl
  refine ⟨fun a ha => ?_, hl.claims, hl.flights, hl.busy, hl.stored, hn ▸ hl.le,
    fun hne => hl.recorded (hn ▸ hne), fun hne => hl.deleted (hn ▸ hne)⟩
  have hloc := hl.each a ha
  exact hloc.other (fun _ hcl => hcl) hloc.flight hloc.alone (fun hne => hloc.empty (hn ▸ hne))
    fun hne => by rwa [hn]

/-- **The landing.** The thread that has the directive types it and the pane takes it: it was the
only copy, and it has to be recorded and deleted now. -/
theorem inject_landing (hp : D.eventID ≠ 0)
    {pane text : String} {group : List Held} {result : InjectResult}
    (hgrp : facesOf D.eventID group ⊆ g.hand) (hh : hand ⊆ g.hand)
    (hfree : ∀ x ∈ landedFaces D.eventID group result, ∀ f ∈ hand, f.lane ≠ x.lane)
    (hla : ((result.landed group).any fun x => x.eventID = D.eventID) = true) (hc : g.Clean) :
    Once D { v with hist := .injected pane group text result :: v.hist } (gs.set i { g with
      hand := hand
      landed := g.landed ++ landedFaces D.eventID group result
      owes := g.owes || true }) := by
  have hg := h.each g (mem_of_getElem? hi)
  obtain ⟨hl, _⟩ := hg.clean hc
  have hs : ∀ f ∈ facesOf D.eventID (result.landed group), f = D.face := fun f hf =>
    hg.hand f (hgrp ((facesOf_sublist (landed_sublist result group)).subset hf))
  -- the landed row is the directive, with its lane
  obtain ⟨y, hy, hyE⟩ := any_eq_true.mp hla
  have hyfa : y.face ∈ facesOf D.eventID (result.landed group) :=
    (mem_facesOf _).mpr ⟨y, hy, by simpa using hyE, rfl⟩
  have hmem : D.face ∈ landedFaces D.eventID group result := by
    rw [← hs _ hyfa]
    refine mem_filter.mpr ⟨hyfa, ?_⟩
    rw [hs _ hyfa]
    exact decide_eq_true (show D.face.lane ≠ "" from D.durable hp)
  have hgo : hand = [] := by
    rw [eq_nil_iff_forall_not_mem]
    intro f hf
    refine hfree _ hmem f hf ?_
    rw [hg.hand f (hh hf)]
  have hne : g.hand ≠ [] := ne_nil_of_mem
    (hgrp ((facesOf_sublist (landed_sublist result group)).subset hyfa))
  have hz : landings D.eventID v.hist = 0 := by
    by_contra hn
    exact hne (hg.empty hn)
  have hone : landings D.eventID (.injected pane group text result :: v.hist) = 1 := by
    show (_ :: v.hist).countP (Ev.landed D.eventID) = 1
    rw [countP_cons_of_pos (by simpa [Ev.landed] using hla)]
    show landings D.eventID v.hist + 1 = 1
    rw [hz]
  set g' : Role := { g with
      hand := hand
      landed := g.landed ++ landedFaces D.eventID group result
      owes := g.owes || true } with hg'
  have hg'mem := mem_set_self g' hi
  refine ⟨h.each_set ?_ fun a _ hset hag ha => ?_, h.claims.set_of_imp hi id,
    h.flights.set_of_imp hi id, h.busy.set_of_mem hi (.inl hne), h.stored, hone.le, ?_, ?_⟩
  · exact
      { hg with
        hand := by simp [hg', hgo]
        landed := fun f hf => by
          rw [hg', hl, nil_append] at hf
          exact hs f (mem_filter.mp hf).1
        busy := fun _ => hg.busy (.inl hne)
        alone := fun _ => hg.alone (.inl hne)
        empty := fun _ => hgo
        spent := fun _ => by rw [hone]; nofun }
  · refine ha.other (fun _ hcl => hcl) ha.flight ha.alone (fun _ => ?_) fun hn => absurd hz hn
    -- nobody else had a copy
    by_contra hhas
    exact hag (h.busy.eq_of_mem_set hi (.inl hne) hset (.inl hhas))
  · intro _ hall
    have hnil : g.landed ++ landedFaces D.eventID group result = [] := hall g' hg'mem
    rw [(append_eq_nil_iff.mp hnil).2] at hmem
    cases hmem
  · intro _ hall
    have ho : (g.owes || true) = false := hall g' hg'mem
    rw [Bool.or_true] at ho
    cases ho

/-- A delivered record is written and none of the directive's records is old enough to go. -/
theorem record {d : Delivered} (hd : d.eventID = D.eventID → ∃ x ∈ g.landed, x.lane = d.lane)
    (hy : ∀ r ∈ v.records, d.deliveredAt - Node.relayDeliveredMaxAge ≤ r.deliveredAt) :
    Once D { v with records := View.recorded D.eventID d v.records } (gs.set i { g with
      landed := if d.eventID = D.eventID then g.landed.filter fun f => f.lane ≠ d.lane
        else g.landed }) := by
  have hg := h.each g (mem_of_getElem? hi)
  -- the records that were there stay
  have hk : ∀ r ∈ View.noted D.eventID d v.records, (r = d ∨ r ∈ v.records) →
      r ∈ View.recorded D.eventID d v.records := by
    intro r hr hc
    refine mem_filter.mpr ⟨hr, ?_⟩
    rcases hc with rfl | hold
    · have hage : (0 : ℤ) ≤ Node.relayDeliveredMaxAge := by decide
      exact decide_eq_true (by omega)
    · exact decide_eq_true (hy r hold)
  have hold : ∀ r ∈ v.records, r ∈ View.recorded D.eventID d v.records := by
    intro r hr
    refine hk r ?_ (.inr hr)
    unfold View.noted
    split
    · exact mem_append_left _ hr
    · exact hr
  have hle : (if d.eventID = D.eventID then g.landed.filter fun f => f.lane ≠ d.lane
      else g.landed) ⊆ g.landed := by
    split
    · exact filter_subset_self _
    · exact .refl _
  have sees : ∀ {a : Role}, Local D v a →
      Local D { v with records := View.recorded D.eventID d v.records } a := fun ha =>
    ha.other (fun _ hcl => hcl) ha.flight ha.alone ha.empty id
  refine ⟨h.each_set (sees (hg.shrink ⟨rfl, rfl, rfl, rfl⟩ (.refl _) hle id))
    fun _ _ _ _ ha => sees ha, h.claims.set_of_imp hi id, h.flights.set_of_imp hi id,
    h.busy.set_of_imp hi fun hb => hb.of_less (.refl _) hle id, h.stored, h.le, ?_, ?_⟩
  · intro hn hall
    by_cases hE : d.eventID = D.eventID
    · -- this is the directive's record, unless it has one
      obtain ⟨x, hx, hla⟩ := hd hE
      have hdla : d.lane = D.lane := by rw [← hla, hg.landed x hx]; rfl
      by_cases hfree : ∀ r ∈ v.records, r.lane ≠ d.lane
      · refine ⟨d, hk d ?_ (.inl rfl), hdla⟩
        unfold View.noted
        rw [if_pos ⟨hE, hfree⟩]
        exact mem_append_right _ mem_cons_self
      · push Not at hfree
        obtain ⟨r, hr, hrl⟩ := hfree
        exact ⟨r, hold r hr, hrl.trans hdla⟩
    · obtain ⟨r, hr, hrl⟩ := h.recorded hn (forall_of_forall_set hi hall fun hl => by
        simpa [hE] using hl)
      exact ⟨r, hold r hr, hrl⟩
  · intro hn hall
    exact h.deleted hn (forall_of_forall_set hi hall fun ho => ho)

end Steps

/-- What a step must not be for the directive to land at most once. -/
structure Fair (D : Directive) (l : Label) (v : View) (err : Bool) : Prop where
  /-- the store works -/
  works : err = false
  /-- the event is offered as this directive only -/
  same : ∀ m, l = .offer m → m.eventID = D.eventID → m = D
  /-- nobody edits or cancels the event -/
  edit : l ≠ .edit D.eventID
  cancel : l ≠ .cancel D.eventID
  /-- an offer that finds no row is not late -/
  read : l = .readHeld D.lane D.eventID → v.faces = [] →
    v.inflight = false ∧ ∀ r ∈ v.records, r.lane ≠ D.lane
  /-- the records of the event are not old -/
  young : ∀ d, l = .recordDelivered d → ∀ r ∈ v.records,
    d.deliveredAt - Node.relayDeliveredMaxAge ≤ r.deliveredAt

/-- **One step** of any thread, within these bounds, keeps the invariant. -/
theorem step {cfg : Config} {l : Label} {err : Bool} (hpos : D.eventID ≠ 0) (hmo : cfg.mode ≠ .off)
    (hfa : Fair D l v err) (hs : Step D.eventID cfg l v err g v' g') (hi : gs[i]? = some g)
    (h : Once D v gs) : Once D v' (gs.set i g') := by
  have hg := h.each g (mem_of_getElem? hi)
  cases hs with
  | quiet hsub hfau =>
    have hsame := hfau.resolve_right fun hx => by simpa [hfa.works] using hx.2
    exact h.shrink hi ⟨rfl, rfl, rfl, hsame⟩ hsub rfl rfl
  | delete hsub => exact h.delete hi hsub
  | insert hx _ hsub hfree => exact h.insert hi hx hsub hfree
  | take hfree hsub _ _ => exact h.take hi hfree hsub
  | finish hfl hc =>
    refine h.release hi hc rfl rfl rfl rfl (fun _ hm => hm) id (by simp) rfl ?_ ?_
    · exact forall_mem_set (fun a ha => (h.each a ha).claim) hg.claim
    · intro a ha hf
      have heq := h.flights.eq_of_mem_set hi hfl ha hf
      rw [heq] at hf
      cases hf
  | arrive hm _ =>
    obtain rfl := hfa.same _ rfl hm
    exact h.arrive hi
  | leave _ _ hc =>
    refine h.release hi hc rfl rfl rfl rfl (by simp) id id rfl ?_ ?_
    · exact forall_mem_set (fun a ha => (h.each a ha).claim) hg.claim
    · exact forall_mem_set (fun a ha => (h.each a ha).flight) hg.flight
  | claim hfree hn => exact h.claim hi hfree hn
  | unclaim hcla hc =>
    refine h.release hi hc rfl rfl rfl rfl (fun _ hm => hm) (by simp [Role.Claims]) id rfl ?_ ?_
    · intro a ha hcl
      rcases mem_set_cases ha with rfl | hold
      · cases hcl
      · refine mem_filter.mpr ⟨(h.each a hold).claim hcl, decide_eq_true fun hla => ?_⟩
        -- the lane that is given up was this thread's own
        have hmi : g.Claims D := by rw [Role.Claims, hcla, hla]
        have heq := h.claims.eq_of_mem_set hi hmi ha hcl
        rw [heq] at hcl
        cases hcl
    · exact forall_mem_set (fun a ha => (h.each a ha).flight) hg.flight
  | pick ho hcla hc hfd =>
    obtain rfl := hg.offers _ ho
    -- every row is the directive's, so none was found
    have hfc : v.faces = [] := by
      rw [eq_nil_iff_forall_not_mem]
      intro f hf
      have hfac := h.stored f hf
      rcases hfd with he | hfree | ⟨x, hx, _, hp⟩
      · rw [hfa.works] at he
        cases he
      · exact hfree f hf (by rw [hfac]; rfl)
      · exact hp (by rw [h.stored x hx]; rfl)
    obtain ⟨hfree, hrcs⟩ := hfa.read rfl hfc
    rw [hfa.works, Bool.or_false]
    exact h.pick hi (hcla hmo) hc hfc hfree hrcs
  | @inject _ _ _ hand pane group expired now result hgrp hsub hfree _ hc =>
    cases hl : (result.landed group).any fun x => x.eventID = D.eventID with
    | false =>
      rw [landedFaces, facesOf_eq_nil hl, filter_nil, append_nil, Bool.or_false]
      exact h.inject_nothing hi hsub hl
    | true => exact h.inject_landing hi hpos hgrp hsub hfree hl hc
  | record hd =>
    refine h.record hi (fun hE => ?_) (hfa.young _ rfl)
    obtain ⟨x, hx, hla, _⟩ := (hd hE).resolve_left (by rw [hg.sound]; nofun)
    exact ⟨x, hx, hla⟩
  | edit => exact absurd rfl hfa.edit
  | cancel => exact absurd rfl hfa.cancel

/-- A thread that starts has nothing of the directive. -/
theorem enter (h : Once D v gs) : Once D v (gs ++ [({} : Role)]) := by
  have hi : ¬ Role.Busy {} := by
    rintro (hb | hb | hb)
    · exact hb rfl
    · exact hb rfl
    · cases hb
  have hnew : Local D v {} :=
    { sound := rfl
      offers := nofun
      hand := nofun
      landed := nofun
      claim := nofun
      flight := nofun
      busy := fun hb => absurd hb hi
      alone := fun hb => absurd hb hi
      empty := fun _ => rfl
      spent := fun hs => absurd (.inr hs) hi }
  refine ⟨forall_mem_concat h.each hnew, h.claims.concat_of_not (by simp [Role.Claims]),
    h.flights.concat_of_not (by simp), h.busy.concat_of_not hi, h.stored, h.le,
    fun hn hall => ?_, fun hn hall => ?_⟩
  · exact h.recorded hn fun a ha => hall a (mem_append_left _ ha)
  · exact h.deleted hn fun a ha => hall a (mem_append_left _ ha)

end Once

/-! ## Runs -/

section Runs

/-- Repeated offers of one directive among anything else a node does, with a store that works. -/
def repeatLimits (D : Directive) : Limits Node Answer Label Proc where
  start _ := true
  step l _ e := !e.storeErr && match l with
    | .offer m => m.eventID ≠ D.eventID || m = D
    | .edit id => id ≠ D.eventID
    | .cancel id => id ≠ D.eventID
    | _ => true

/-- The same, with two conditions on the moment of a step: an offer of the directive that finds no
held row finds no release with the event in flight and no delivered record of it either, and no
record is written after the directive's own is old enough to go. -/
def onceLimits (D : Directive) : Limits Node Answer Label Proc where
  start _ := true
  step l s e := (repeatLimits D).step l s e && match l with
    | .readHeld lane id => (lane, id) ≠ (D.lane, D.eventID) ||
        (s.rows.find (lane, id)).isSome ||
        (id ∉ s.inflight && (s.delivered.find (lane, id)).isNone)
    | .recordDelivered d => s.delivered.rows.all fun r =>
        r.eventID ≠ D.eventID || d.deliveredAt - Node.relayDeliveredMaxAge ≤ r.deliveredAt
    | _ => true

theorem fair_of_onceLimits {D : Directive} {l : Label} {s : Node} {e : Answer}
    (h : (onceLimits D).step l s e = true) : Once.Fair D l (s.view D.eventID) e.storeErr := by
  obtain ⟨hrep, hl⟩ := Bool.and_eq_true_iff.mp h
  obtain ⟨he, hrep⟩ := Bool.and_eq_true_iff.mp hrep
  refine ⟨by simpa using he, ?_, ?_, ?_, ?_, ?_⟩
  · rintro m rfl hm
    simpa [hm] using hrep
  · rintro rfl
    simp at hrep
  · rintro rfl
    simp at hrep
  · rintro rfl hfc
    have hn : s.rows.find (D.lane, D.eventID) = none := by
      refine Table.find_eq_none.mpr fun x hx hk => ?_
      have hmem : x.face ∈ (s.view D.eventID).faces :=
        (mem_facesOf _).mpr ⟨x, hx, (Prod.mk.inj hk).2, rfl⟩
      rw [hfc] at hmem
      cases hmem
    simp only [hn, ne_eq, not_true_eq_false, decide_false, Option.isSome_none, Bool.false_or,
      Bool.and_eq_true, decide_eq_true_eq, Option.isNone_iff_eq_none] at hl
    refine ⟨by simpa [Node.view] using hl.1, fun r hr hla => ?_⟩
    obtain ⟨hr, hid⟩ := mem_filter.mp hr
    exact Table.find_eq_none.mp hl.2 r hr (Prod.ext hla (of_decide_eq_true hid))
  · rintro d rfl r hr
    obtain ⟨hr, hid⟩ := mem_filter.mp hr
    have hrow := all_eq_true.mp hl r hr
    simpa [show r.eventID = D.eventID from of_decide_eq_true hid] using hrow

theorem once_keeps {cfg : Config} (hmo : cfg.mode ≠ .off) {D : Directive} (hp : D.eventID ≠ 0) :
    (carryProtocol D.eventID cfg).Keeps (body cfg) (onceLimits D)
      fun s gs => Once D (s.view D.eventID) gs where
  follows r _ := body_follows hp r
  enter _ _ _ _ h := h.enter
  rule _ _ _ _ _ _ _ _ hi hl hs h := h.step hp hmo (fair_of_onceLimits hl) hs hi
  restart _ _ _ hs _ := by cases hs

/-- **A directive lands at most once**, in every run of a node in apply mode from a state whose
held rows of the event are the directive's, within the bounds of `onceLimits`. -/
theorem landings_le_one (cfg : Config) (hmode : cfg.mode = .apply) (D : Directive)
    (hpos : D.eventID ≠ 0) {s : Node} (hs : s.hist = [])
    (hrows : ∀ x ∈ s.rows, x.eventID = D.eventID → x.face = D.face)
    {t : Sys Node Answer Label Proc} (hr : Run (body cfg) (onceLimits D) ⟨s, []⟩ t) :
    landings D.eventID t.shared.hist ≤ 1 := by
  have hz : landings D.eventID (s.view D.eventID).hist = 0 := by
    simp [Node.view, hs, landings]
  have hi : (carryProtocol D.eventID cfg).Holds (fun s gs => Once D (s.view D.eventID) gs)
      ⟨s, []⟩ := by
    refine ⟨[], .nil, ⟨by simp, AtMostOne.nil, AtMostOne.nil, AtMostOne.nil, fun f hf => ?_, ?_,
      fun hn => absurd hz hn, fun hn => absurd hz hn⟩⟩
    · obtain ⟨x, hx, hid, rfl⟩ := (mem_facesOf _).mp hf
      exact hrows x hx hid
    · rw [hz]
      exact Nat.zero_le 1
  obtain ⟨gs, _, h⟩ := (once_keeps (by simp [hmode]) hpos).run hr hi
  rw [← landings_filter]
  exact h.le

/-- The directive is held, released and recorded, and offered once more. -/
def repeatMoves : List (Move Proc Answer) :=
  heldMoves ++ steps 1 14 (sampleAnswer .idle .delivered) ++
    [.start (.offer (sampleDirective 7 "go on"))] ++ steps 2 9 (sampleAnswer .idle .delivered)

theorem repeated_offer_lands_once :
    ∃ t, Run (body sampleConfig) (onceLimits (sampleDirective 7 "go on")) ⟨sampleNode, []⟩ t ∧
      landings 7 t.shared.hist = 1 ∧ landings 7 t.shared.hist ≤ 1 := by
  refine Run.exists_of_replay_and repeatMoves (by decide +kernel) fun t hr _ =>
    landings_le_one sampleConfig rfl (sampleDirective 7 "go on") (by decide) rfl ?_ hr
  intro x hx
  cases hx

/-- The directive is held and a release takes its row; it is offered again and the offer reads that
nothing was delivered; the release types, records and deletes; the offer reads that nothing is
held, and types. -/
def lateOfferMoves : List (Move Proc Answer) :=
  heldMoves ++ steps 1 2 (sampleAnswer .idle .delivered) ++
    [.start (.offer (sampleDirective 7 "go on"))] ++ steps 2 4 (sampleAnswer .idle .delivered) ++
    steps 1 12 (sampleAnswer .idle .delivered) ++ steps 2 5 (sampleAnswer .idle .delivered)

/-- An offer that reads the delivered record before a release and the held row after it types the
directive a second time. -/
theorem repeated_offer_types_twice :
    ∃ t, Run (body sampleConfig) (repeatLimits (sampleDirective 7 "go on")) ⟨sampleNode, []⟩ t ∧
      landings 7 t.shared.hist = 2 := by
  exact Run.exists_of_replay lateOfferMoves (by decide +kernel)

end Runs

end Panewire.Relay

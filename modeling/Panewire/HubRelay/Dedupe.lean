import Panewire.HubRelay.Follows

/-!
# The dedupe claim of a job event

A job event is injected by the call that claimed its key, and the claim outlives the injection, so
that a copy of the event is answered and not sent again. This holds as long as nobody else lets the
claim go: a duplicate that finds no route, or that can neither write its event again nor knows the
row, forgets a key that belongs to another call.

* `at_most_one_unanswered` — **at most one injection** of a job event is unanswered, in every run
  in which no duplicate lapses;
* `lapsed_duplicate_injects_twice` — one duplicate that finds no route is enough for two.
-/

namespace Panewire.HubRelay

open Conc Data Hub HubState List

/-- The key of a job event is no lane event's key. -/
theorem Event.not_laneKey {e : Event} (hjob : e.kind ≠ .laneEvent) : ¬ LaneKey e.key := by
  rintro ⟨lane, eventID, heq⟩
  have hk : e.key = e.kind.wire ++ "\x00" ++ relayDedupeKey e.payload ++ "\x00" ++
      e.payload.eventID := if_neg hjob
  have hh := congrArg (fun s : String => s.toList.head?) (hk.symm.trans heq)
  cases hkind : e.kind with
  | laneEvent => exact hjob hkind
  | jobCompleted | jobEscalate | jobJoined | jobLost | jobRevoked =>
    simp [hkind, RelayKind.wire, relayLaneEventOutboxKey] at hh

/-- The claims and the unanswered injections of a key, taken together. -/
def HubState.uses (h : HubState) (key : String) : ℕ := h.owned.count key + h.live.count key

/-- **The claim of a key is exclusive**: it is used once at most, it is in the index while it is
used, one call at most has it, and no duplicate has lapsed. -/
structure Exclusive (key : String) (h : HubState) (gs : List Role) : Prop where
  once : h.uses key ≤ 1
  claimed : 0 < h.uses key → Assoc.get h.relayDedupe key ≠ none
  owner : ∀ g ∈ gs, g.claim = some key → key ∈ h.owned
  sole : AtMostOne (fun g : Role => g.claim = some key) gs
  steady : ∀ g ∈ gs, g.lapsed = false

namespace Exclusive

variable {key : String} {h h' : HubState} {gs : List Role} {i : ℕ} {g g' : Role}

variable (hx : Exclusive key h gs)
include hx

/-- The owner of the key: the only use is its own. -/
theorem count_owned (hi : gs[i]? = some g) (own : g.claim = some key) :
    h.owned.count key = 1 ∧ h.live.count key = 0 := by
  have hp := count_pos_iff.mpr (hx.owner g (mem_of_getElem? hi) own)
  have hone := hx.once
  unfold uses at hone
  omega

/-- Nobody owns a key that is not in use. -/
theorem unowned (hfree : h.uses key = 0) : ∀ g ∈ gs, ¬ g.claim = some key := by
  intro g hg own
  have hp := count_pos_iff.mpr (hx.owner g hg own)
  unfold uses at hfree
  omega

/-- The owner is done with the key: afterwards nobody has it. -/
theorem unowned_of_done (hi : gs[i]? = some g) (own : g.claim = some key) (done : g'.claim = none) :
    ∀ a ∈ gs.set i g', ¬ a.claim = some key := by
  intro a ha hcl
  have heq := hx.sole.eq_of_mem_set (p := fun g : Role => g.claim = some key) hi own ha hcl
  rw [heq, done] at hcl
  cases hcl

/-- A step that leaves the key alone, as far as anybody's claim goes. -/
theorem of_same (hi : gs[i]? = some g)
    (dedupe : Assoc.get h.relayDedupe key ≠ none → Assoc.get h'.relayDedupe key ≠ none)
    (owned : h'.owned.count key = h.owned.count key) (live : h'.live.count key ≤ h.live.count key)
    (claim : g'.claim = some key → g.claim = some key) (lapsed : g'.lapsed = false) :
    Exclusive key h' (gs.set i g') where
  once := by
    have hone := hx.once
    unfold uses at *
    omega
  claimed hp := by
    refine dedupe (hx.claimed ?_)
    unfold uses at *
    omega
  owner a ha hcl := by
    rw [← count_pos_iff, owned, count_pos_iff]
    rcases mem_set_cases ha with rfl | ha
    · exact hx.owner g (mem_of_getElem? hi) (claim hcl)
    · exact hx.owner a ha hcl
  sole := hx.sole.set_of_imp hi claim
  steady := forall_mem_set hx.steady lapsed

/-- The owner gives the key back or uses it for an injection. -/
theorem of_done (hi : gs[i]? = some g) (own : g.claim = some key)
    (dedupe : 0 < h'.live.count key → Assoc.get h'.relayDedupe key ≠ none)
    (owned : h'.owned = h.owned.erase key) (live : h'.live.count key ≤ 1)
    (claim : g'.claim = none) (lapsed : g'.lapsed = false) : Exclusive key h' (gs.set i g') := by
  have hct : h'.owned.count key = 0 := by
    rw [owned, count_erase_self, (hx.count_owned hi own).1]
  have nobody := hx.unowned_of_done hi own claim
  exact
    { once := by unfold uses; omega
      claimed := fun hp => dedupe (by unfold uses at hp; omega)
      owner := fun a ha hcl => absurd hcl (nobody a ha)
      sole := hx.sole.set_of_not i (by simp [claim])
      steady := fun a ha => (mem_set_cases ha).elim (fun heq => heq ▸ lapsed) (hx.steady a) }

/-- A call claims the free key. -/
theorem of_claim (free : Assoc.get h.relayDedupe key = none) {id : ℕ}
    (dedupe : h'.relayDedupe = Assoc.put h.relayDedupe key id)
    (owned : h'.owned = key :: h.owned) (live : h'.live = h.live) (lapsed : g'.lapsed = false) :
    Exclusive key h' (gs.set i g') := by
  have hz : h.uses key = 0 := Nat.eq_zero_of_not_pos fun hp => hx.claimed hp free
  exact
    { once := by
        unfold uses at *
        rw [owned, live, count_cons_self]
        omega
      claimed := fun _ => by simp [dedupe, Assoc.get_put]
      owner := fun _ _ _ => owned ▸ mem_cons_self
      sole := AtMostOne.set_first (hx.unowned hz) i g'
      steady := fun a ha => (mem_set_cases ha).elim (fun heq => heq ▸ lapsed) (hx.steady a) }

/-- **A step keeps the claim exclusive**, for a key that no lane event has. -/
theorem step (hi : gs[i]? = some g) (hjob : ¬ LaneKey key)
    (hc : Claiming h g h' g') (lapsed : g'.lapsed = false) : Exclusive key h' (gs.set i g') := by
  cases hc with
  | same dedupe owned live claim =>
    exact hx.of_same hi (fun hd => dedupe ▸ hd) (by rw [owned]) (live key)
      (fun hk => claim ▸ hk) lapsed
  | claim k id free dedupe owned live claim =>
    by_cases hk : k = key
    · subst hk
      exact hx.of_claim free dedupe owned live lapsed
    · refine hx.of_same hi (fun hd => ?_) ?_ (by rw [live]) (fun hk' => ?_) lapsed
      · rwa [dedupe, Assoc.get_put, if_neg hk]
      · rw [owned, count_cons_of_ne hk]
      · rw [claim, Option.some.injEq] at hk'
        exact absurd hk' hk
  | forget k own dedupe owned live claim =>
    by_cases hk : k = key
    · subst hk
      have hl : h'.live.count k = 0 := by rw [live, (hx.count_owned hi own).2]
      exact hx.of_done hi own (fun hp => by omega) owned (by omega) claim lapsed
    · refine hx.of_same hi (fun hd => ?_) ?_ (by rw [live]) (fun hk' => ?_) lapsed
      · rwa [dedupe, Assoc.get_del, if_neg hk]
      · rw [owned, count_erase_of_ne (Ne.symm hk)]
      · rw [claim] at hk'
        cases hk'
  | release k why dedupe owned live claim =>
    -- nobody has lapsed, so the key is a lane event's
    have hk : k ≠ key := by
      rintro rfl
      rcases why with why | why
      · rw [hx.steady g (mem_of_getElem? hi)] at why
        cases why
      · exact hjob why
    refine hx.of_same hi (fun hd => ?_) (by rw [owned]) (by rw [live]) (fun hk' => claim ▸ hk')
      lapsed
    rwa [dedupe, Assoc.get_del, if_neg hk]
  | remember k id dedupe owned live claim =>
    refine hx.of_same hi (fun hd => ?_) (by rw [owned]) (by rw [live]) (fun hk' => claim ▸ hk')
      lapsed
    rw [dedupe, Assoc.get_put]
    split
    · exact Option.some_ne_none _
    · exact hd
  | inject k own dedupe owned live claim =>
    by_cases hk : k = key
    · subst hk
      have hct := hx.count_owned hi own
      have hl : h'.live.count k = 1 := by rw [live, count_cons_self, hct.2]
      have hu : 0 < h.uses k := by unfold uses; omega
      exact hx.of_done hi own (fun _ => dedupe ▸ hx.claimed hu) owned (by omega) claim lapsed
    · refine hx.of_same hi (fun hd => dedupe ▸ hd) ?_ ?_ (fun hk' => ?_) lapsed
      · rw [owned, count_erase_of_ne (Ne.symm hk)]
      · rw [live, count_cons_of_ne hk]
      · rw [claim] at hk'
        cases hk'

end Exclusive

/-- A duplicate finds a connected route, and can write its event again unless its row is known. -/
def namesRow : Label → Answer → Bool
  | .reackRoute _, a => a.routed
  | .reackPersist knownID, a => knownID ≠ 0 || a.fault = .none
  | _, _ => true

/-- The runs in which no duplicate lapses. -/
def steadyLimits : Limits HubState Answer Label Proc :=
  { limits with step := fun l _ a => namesRow l a }

theorem entry_claim (r : Proc) : (protocol.entry r).claim = none ∧
    (protocol.entry r).lapsed = false := by
  show r.role.claim = none ∧ r.role.lapsed = false
  unfold Proc.role
  split <;> exact ⟨rfl, rfl⟩

/-- **Whatever the calls do**, the claim of a job event stays exclusive. -/
theorem exclusive_keeps (cfg : Config) {key : String} (hjob : ¬ LaneKey key) :
    protocol.Keeps (program cfg) steadyLimits (Exclusive key) where
  follows r hr := program_follows cfg hr
  enter h gs r _ hx := by
    obtain ⟨hcl, hlap⟩ := entry_claim r
    have hnot : ¬ (protocol.entry r).claim = some key := by simp [hcl]
    exact ⟨hx.once, hx.claimed, forall_mem_concat hx.owner fun hk => absurd hk hnot,
      hx.sole.concat_of_not hnot, forall_mem_concat hx.steady hlap⟩
  rule l h a h' gs i g g' hi hl hdo hx := by
    refine hx.step hi hjob hdo.claiming ?_
    rw [Bool.eq_false_iff]
    intro hlap
    have hn : namesRow l a = true := hl
    rcases hdo.lapsed hlap with hb | ⟨⟨_, rfl⟩, hrt⟩ | ⟨rfl, hflt⟩
    · rw [hx.steady g (mem_of_getElem? hi)] at hb
      cases hb
    · rw [namesRow, hrt] at hn
      cases hn
    · simp [namesRow, hflt] at hn
  restart h h' gs hh _ := by
    cases hh
    exact ⟨Nat.zero_le 1, fun hp => absurd hp (Nat.lt_irrefl 0),
      fun _ hg => absurd hg not_mem_nil, .nil, fun _ hg => absurd hg not_mem_nil⟩

/-- **At most one call injects a job event.** In every run in which each duplicate finds a connected
route, and can write its event again unless its row is known, at most one injection of a job event
is unanswered; and as long as a call is between its claim and its injection, or the injection is
unanswered, the claim is in the index. -/
theorem at_most_one_unanswered {cfg : Config} {s : Sys HubState Answer Label Proc}
    (hrun : Run (program cfg) steadyLimits ⟨{}, []⟩ s) {e : Event} (hjob : e.kind ≠ .laneEvent) :
    s.shared.live.count e.key ≤ 1 ∧
    (e.key ∈ s.shared.owned ∨ e.key ∈ s.shared.live →
      s.shared.owned.count e.key + s.shared.live.count e.key = 1 ∧
      Assoc.get s.shared.relayDedupe e.key ≠ none) := by
  have hi : Exclusive e.key {} [] :=
    ⟨Nat.zero_le 1, fun hp => absurd hp (Nat.lt_irrefl 0),
      fun _ hg => absurd hg not_mem_nil, .nil, fun _ hg => absurd hg not_mem_nil⟩
  obtain ⟨gs, -, hx⟩ := (exclusive_keeps cfg (Event.not_laneKey hjob)).run hrun ⟨[], .nil, hi⟩
  have hone : s.shared.owned.count e.key + s.shared.live.count e.key ≤ 1 := hx.once
  refine ⟨by omega, fun hu => ?_⟩
  have hp : 0 < s.shared.owned.count e.key + s.shared.live.count e.key := by
    rcases hu with hmem | hmem
    · exact Nat.add_pos_left (count_pos_iff.mpr hmem) _
    · exact Nat.add_pos_right _ (count_pos_iff.mpr hmem)
  exact ⟨by omega, hx.claimed hp⟩

/-! ## A duplicate that lapses -/

/-- The steps of a thread, one for each answer. -/
def answers (thread : ℕ) (as : List Answer) : List (Move Proc Answer) := as.map (.sched thread ·)

/-- A report of a job. -/
def sampleEvent : Event where
  kind := .jobCompleted
  payload := { jobID := "job-1", epoch := 1, ownerLane := "lane", reportPath := "/r" }
  valid := by decide

def sampleConfig : Config where
  sha := .zero

/-- The answers when everything works and the lane is at a node. -/
def connected : Answer := { route := { machine := "node-a", pane := "p1" }, routed := true }

/-- A copy of the report comes while the first is handled, and finds its node disconnected; a third
copy is then taken for new. -/
def lapsedDuplicate : List (Move Proc Answer) :=
  [.start (.jobEvent sampleEvent), .start (.jobEvent sampleEvent),
    .start (.jobEvent sampleEvent)] ++
    answers 0 [{}, {}, connected, {}, {}] ++
    answers 1 [{}, {}, {}, {}] ++
    answers 2 [{}, {}, connected, {}, {}, {}, {}, {}] ++
    answers 0 [{}, {}, {}]

/-- **A lapsed duplicate lets a job event be sent twice**: two injections, neither answered nor
timed out. -/
theorem lapsed_duplicate_injects_twice : ∃ s : Sys HubState Answer Label Proc,
    Run (program sampleConfig) limits ⟨{}, []⟩ s ∧ s.shared.live.count sampleEvent.key = 2 := by
  exact Run.exists_of_replay lapsedDuplicate (by decide +kernel)

/-- A copy of the report comes while the first is handled, and is answered. -/
def namedDuplicate : List (Move Proc Answer) :=
  [.start (.jobEvent sampleEvent), .start (.jobEvent sampleEvent)] ++
    answers 0 [{}, {}, connected, {}] ++
    answers 1 [{}, {}, connected, {}, {}] ++
    answers 0 [{}, {}, {}, {}]

theorem at_most_one_unanswered_duplicate : ∃ s : Sys HubState Answer Label Proc,
    Run (program sampleConfig) steadyLimits ⟨{}, []⟩ s ∧ sampleEvent.kind ≠ .laneEvent ∧
    s.shared.live.count sampleEvent.key = 1 ∧
    Assoc.get s.shared.relayDedupe sampleEvent.key ≠ none := by
  obtain ⟨s, hrun, hl⟩ : ∃ s, Run (program sampleConfig) steadyLimits ⟨{}, []⟩ s ∧
      sampleEvent.key ∈ s.shared.live := Run.exists_of_replay namedDuplicate (by decide +kernel)
  have hjob : sampleEvent.kind ≠ .laneEvent := by decide
  obtain ⟨hone, hu⟩ := at_most_one_unanswered hrun hjob
  have hp := count_pos_iff.mpr hl
  exact ⟨s, hrun, hjob, by omega, (hu (.inr hl)).2⟩

end Panewire.HubRelay

import Panewire.HubRelay.Timeouts
import Panewire.Conc.Alone

/-!
# A second announcement

Without any delivery, an event can be announced twice: the index of timeouts forgets a key once 4096
other events timed out since. The run is put together from **laps**. In each lap a new lane event
arrives, is stored as a new row and sent, and its window times out; the claim is given back, so that
the row of the first lap can be replayed after the others, and time out again.
-/

namespace Panewire.HubRelay

open Conc Data Hub List Assoc

variable {h : HubState} {n : ℕ} {i j : ℕ}

/-- The newest goroutine, undisturbed, takes a command from `h` to `h'`. -/
abbrev Leads {α : Type} (h : HubState) (c : HubState.Cmd α) (h' : HubState) (a : α) : Prop :=
  Cmd.Leads (program sampleConfig) limits h c h' a

/-! ## Sending and timing out -/

/-- The window of an event is open and armed; claims, rows and the log are as they were. -/
structure Sent (h h' : HubState) (key : PendingKey) (e : Event) (n : ℕ) : Prop where
  window : ∃ p, h'.window key = some p ∧ p.held = false ∧ p.event = e
  others : ∀ k, k ≠ key → h'.window k = h.window k
  running : (key, n) ∈ h'.timers
  dedupe : h'.relayDedupe = h.relayDedupe
  lanePersisted : h'.lanePersisted = h.lanePersisted
  rows : h'.rows = h.rows
  log : h'.log = h.log

theorem injectRelayEvent_leads (e : Event) (route : ReportRelayRoute) (id : ℕ)
    (key : String) (hc : h.window (relayPendingKey id e.payload.jobID) = none) :
    ∃ h', Leads h (injectRelayEvent e route id key) h' true ∧
      Sent h h' (relayPendingKey id e.payload.jobID) e (h.arms + 1) := by
  let k := relayPendingKey id e.payload.jobID
  let p : Pending := { machine := route.machine, pane := route.pane, eventID := id, event := e }
  have ho : h.registerRelayAckEvent e route.machine route.pane id = h.setWindow k p := by
    simp only [HubState.registerRelayAckEvent, hc, k, p]
  let queued := { h.setWindow k p with owned := h.owned.erase key, live := key :: h.live }
  have hreg : Leads h (registerRelayAckEvent e route id) (h.setWindow k p) () :=
    .act {} rfl (by rw [ho])
  have hque : Leads (h.setWindow k p) (queueRelay key) queued true := .act {} rfl rfl
  have harm : Leads queued (armRelayAckEvent k) (queued.armRelayAckEvent k) () := .act {} rfl rfl
  refine ⟨_, hreg.bind (hque.bind (harm.bind (.pure _ _))), ?_⟩
  have hfd : queued.window k = some p := by
    show Assoc.get (Assoc.put h.relayPending k p) k = some p
    rw [get_put, if_pos rfl]
  have ha : queued.armRelayAckEvent k =
      { queued.setWindow k { p with armed := true, timer := h.arms + 1 } with
        timers := (k, h.arms + 1) :: h.timers, arms := h.arms + 1 } := by
    unfold HubState.armRelayAckEvent
    rw [hfd]
    rfl
  rw [ha]
  refine ⟨⟨{ p with armed := true, timer := h.arms + 1 }, ?_, rfl, rfl⟩, fun k' hk => ?_,
    mem_cons_self, rfl, rfl, rfl, rfl⟩
  · show Assoc.get (Assoc.put (Assoc.put h.relayPending k p) k _) k = _
    rw [get_put, if_pos rfl]
  · show Assoc.get (Assoc.put (Assoc.put h.relayPending k p) k _) k' = _
    rw [get_put, if_neg (Ne.symm hk), get_put, if_neg (Ne.symm hk)]
    rfl

/-- A window was opened under a key and timed out: the claim is given back, and the log has one more
timeout. -/
structure Expired (h h' : HubState) (key : PendingKey) (event : String) : Prop where
  window : h'.window key = none
  others : ∀ k, k ≠ key → h'.window k = h.window k
  dedupe : h'.relayDedupe = Assoc.del h.relayDedupe event
  lanePersisted : h'.lanePersisted = h.lanePersisted
  rows : h'.rows = h.rows
  log : ∃ notice, h'.log = .timedOut key notice :: h.log

/-- The timer of a sent lane event fires; handoffkeep refuses to count the attempt. -/
theorem expireRelayAck_leads {h' : HubState} {key : PendingKey} {e : Event}
    (hl : e.kind = .laneEvent) (hs : Sent h h' key e n) :
    ∃ h'', Leads h' (expireRelayAck sampleConfig key n) h'' () ∧ Expired h h'' key e.key := by
  obtain ⟨p, hp, hh, rfl⟩ := hs.window
  let fired : HubState :=
    { { h' with timers := h'.timers.erase (key, n) }.retire key p with
      expiries := ⟨key, n, p.timer⟩ :: h'.expiries }
  have hst : h'.expireRelayAck key n 0 = (fired, some (key, p)) := by
    simp [HubState.expireRelayAck, HubState.expiring_eq, hp, hh, fired]
  have hfi : Leads h' (fire key n) fired (some (key, p)) :=
    .actWhen {} (by simpa using hs.running) rfl hst
  have hper : Leads fired
      (persistRelayEventRecord sampleConfig .other p.event p.machine p.pane) fired .failed :=
    .act { fault := .refused } rfl rfl
  let freed := fired.forgetRelayEvent p.event.key
  have hfor : Leads fired (forgetRelayEvent p.event.key) freed () := .act {} rfl rfl
  let noted := { (freed.rememberRelayTimeout key.text).1 with
    log := .timedOut key (freed.rememberRelayTimeout key.text).2 :: freed.log }
  have hn : Leads freed (noteTimeout key) noted () := .act {} rfl rfl
  have hre : Leads fired (do
      if p.event.kind = .laneEvent then forgetRelayEvent p.event.key
      noteTimeout key : HubState.Cmd Unit) noted () := by
    rw [if_pos hl]
    exact hfor.bind hn
  refine ⟨noted, hfi.bind (hper.bind hre), ?_⟩
  have hu : noted.relayPending = fired.relayPending ∧ noted.relayDedupe = freed.relayDedupe ∧
      noted.lanePersisted = h'.lanePersisted ∧ noted.rows = h'.rows := by
    simp only [noted, HubState.rememberRelayTimeout]
    split <;> exact ⟨rfl, rfl, rfl, rfl⟩
  obtain ⟨hw, hded, hls, hro⟩ := hu
  have hdel : noted.relayPending = Assoc.del h'.relayPending key := hw
  refine ⟨?_, fun k hk => ?_, ?_, hls.trans hs.lanePersisted, hro.trans hs.rows,
    _, congrArg (Ev.timedOut key _ :: ·) hs.log⟩
  · rw [HubState.window, hdel, get_del, if_pos rfl]
  · rw [HubState.window, hdel, get_del, if_neg (Ne.symm hk)]
    exact hs.others k hk
  · rw [hded, ← hs.dedupe]
    rfl

/-! ## Laps -/

/-- The name of the event of a lap. -/
def lapID (i : ℕ) : String := String.ofList (List.replicate (i + 1) 'a')

/-- The event of a lap. -/
def lap (i : ℕ) : Event where
  kind := .laneEvent
  payload := { jobID := laneEventTransportID sampleConfig.sha "lane" (lapID i), epoch := 1,
               ownerLane := "lane", eventID := lapID i, text := "hello" }
  valid := hubJobID_laneEventTransportID _ _ _

/-- The row that a lap leaves. -/
def lapRow (i : ℕ) : Row where
  id := i + 1
  kind := .laneEvent
  payload := (lap i).payload
  machine := "node-a"
  paneID := "p1"
  valid := (lap i).valid

/-- The key of the windows for a row. -/
def rowKey (i : ℕ) : PendingKey := relayPendingKey (i + 1) ""

theorem relayPendingKey_row (i : ℕ) (jobID : String) :
    relayPendingKey (i + 1) jobID = rowKey i := by
  simp [rowKey, relayPendingKey]

theorem lapID_injective (h : lapID i = lapID j) : i = j := by
  have hl := congrArg String.length h
  simpa [lapID] using hl

theorem lapID_ne_empty (i : ℕ) : lapID i ≠ "" := by
  intro h
  have hl := congrArg String.length h
  simp [lapID] at hl

theorem idempotencyKey_lap (i : ℕ) :
    idempotencyKey .laneEvent (lap i).payload = relayLaneEventOutboxKey "lane" (lapID i) :=
  if_pos rfl

theorem relayLaneEventOutboxKey_injective {lane a b : String}
    (h : relayLaneEventOutboxKey lane a = relayLaneEventOutboxKey lane b) : a = b := by
  have hcs := congrArg String.toList h
  simp only [relayLaneEventOutboxKey, String.toList_append] at hcs
  exact String.toList_injective (append_cancel_left hcs)

theorem key_lap_injective (h : (lap i).key = (lap j).key) : i = j := by
  exact lapID_injective (relayLaneEventOutboxKey_injective h)

/-- **After some laps**: as many rows, nobody claims or waits for anything, and the log has one
timeout of each row. -/
structure Lapped (n : ℕ) (h : HubState) : Prop where
  fresh : ∀ i, n ≤ i → Assoc.get h.lanePersisted (lap i).key = none
  unclaimed : ∀ key, Assoc.get h.relayDedupe key = none
  rows : h.rows = (List.range n).map lapRow
  closed : ∀ key, h.window key = none
  timeouts : timedOut h.log = ((List.range n).map fun i => (rowKey i).text).reverse
  undelivered : ∀ key, .delivered key ∉ h.log

/-- The rows of the earlier laps are no obstacle to a new one. -/
theorem Lapped.find_none (hl : Lapped n h) : h.rows.find? (·.collides (lap n)) = none := by
  rw [List.find?_eq_none]
  intro row hrow hc
  rw [hl.rows] at hrow
  obtain ⟨i, hi, rfl⟩ := mem_map.mp hrow
  have hsame : idempotencyKey .laneEvent (lap i).payload =
      idempotencyKey .laneEvent (lap n).payload :=
    of_decide_eq_true (Bool.and_eq_true _ _ ▸ hc).2
  rw [idempotencyKey_lap, idempotencyKey_lap] at hsame
  have heq := lapID_injective (relayLaneEventOutboxKey_injective hsame)
  rw [mem_range] at hi
  omega

/-- What an expiry leaves, for a hub that was idle up to the claim of the event. -/
theorem Lapped.of_expired {m : ℕ} {h' h'' : HubState} (hl : Lapped n h)
    (hx : Expired h' h'' (rowKey i) (lap i).key)
    (fresh : ∀ j, m ≤ j → Assoc.get h'.lanePersisted (lap j).key = none)
    (dedupe : ∀ key, key ≠ (lap i).key → Assoc.get h'.relayDedupe key = none)
    (rows : h'.rows = (List.range m).map lapRow) (windows : h'.relayPending = h.relayPending)
    (log : h'.log = h.log) :
    (∀ j, m ≤ j → Assoc.get h''.lanePersisted (lap j).key = none) ∧
    (∀ key, Assoc.get h''.relayDedupe key = none) ∧ h''.rows = (List.range m).map lapRow ∧
    (∀ key, h''.window key = none) ∧
    (∃ notice, h''.log = .timedOut (rowKey i) notice :: h.log) := by
  refine ⟨fun j hj => hx.lanePersisted ▸ fresh j hj, fun key => ?_, hx.rows.trans rows,
    fun key => ?_, ?_⟩
  · rw [hx.dedupe, get_del]
    split
    · rfl
    · next hne => exact dedupe key (Ne.symm hne)
  · by_cases hk : key = rowKey i
    · exact hk ▸ hx.window
    · rw [hx.others key hk, HubState.window, windows]
      exact hl.closed key
  · obtain ⟨notice, hn⟩ := hx.log
    exact ⟨notice, log ▸ hn⟩

theorem ask_leads (h : HubState) : Leads h ask h false := .act {} rfl rfl

theorem askGate_leads (h : HubState) : Leads h askGate h .inject := .act {} rfl rfl

theorem resolveRelayRoute_leads (h : HubState) (e : Event) :
    Leads h (resolveRelayRoute .other e) { h with routed := (e.key, "node-a") :: h.routed }
      (connected.route, true) :=
  .act connected rfl (by simp [connected])

theorem persistRelayEventRecord_leads {e : Event} {machine pane : String}
    {rows : List Row} {row : Row} {existing : Bool}
    (ha : appendEvent h.rows e machine pane = (rows, row, existing)) :
    Leads h (persistRelayEventRecord sampleConfig .other e machine pane) { h with rows := rows }
      (.stored row existing) :=
  .act {} rfl (by simp only [ha]; rfl)

theorem textTooLong_lap (n : ℕ) (sink : Bool) : textTooLong (lap n) sink = false := by
  have ht : (lap n).payload.text = "hello" := rfl
  simp only [textTooLong, ht]
  cases sink <;> decide

/-- The first write of a lap makes its row. -/
theorem appendEvent_lap (hl : Lapped n h) :
    appendEvent h.rows (lap n) "node-a" "p1" = (h.rows ++ [lapRow n], lapRow n, false) := by
  have hlen : h.rows.length = n := by rw [hl.rows, length_map, length_range]
  simp only [appendEvent, hl.find_none, hlen]
  rfl

/-- Remembering a row of another event does not name this one. -/
theorem rememberLanePersisted_none {key x : String} {id : ℕ} (hne : key ≠ x)
    (hn : Assoc.get h.lanePersisted x = none) :
    Assoc.get (h.rememberLanePersisted key id).lanePersisted x = none := by
  unfold HubState.rememberLanePersisted
  split
  · exact hn
  rw [get_put, if_neg hne]
  cases (Lru.touch h.lanePersistedOrder key lanePersistedMaxEntries).evicted with
  | none => exact hn
  | some gone =>
    rw [Option.map_some, Option.getD_some, get_del]
    split
    · rfl
    · exact hn

/-- **The event of a lap arrives**: it becomes a row, and is sent. -/
theorem relayLaneEvent_leads (hl : Lapped n h) :
    ∃ h₁ h₂ t, Leads h (relayLaneEvent sampleConfig (lap n) false false) h₂ () ∧
      Sent h₁ h₂ (rowKey n) (lap n) t ∧
      (∀ j, n + 1 ≤ j → Assoc.get h₁.lanePersisted (lap j).key = none) ∧
      (∀ key, key ≠ (lap n).key → Assoc.get h₁.relayDedupe key = none) ∧
      h₁.rows = (List.range (n + 1)).map lapRow ∧ h₁.relayPending = h.relayPending ∧
      h₁.log = h.log := by
  let claimed := h.claim (lap n).key 0
  let routed : HubState := { claimed with routed := ((lap n).key, "node-a") :: claimed.routed }
  let stored : HubState := { routed with rows := h.rows ++ [lapRow n] }
  let named := stored.rememberLanePersisted (lap n).key (n + 1)
  let ready := named.rememberRelayEvent (lap n).key (n + 1)
  have hcl : Leads h (claimLaneEvent (lap n).key) claimed true :=
    .act {} rfl (by simp [HubState.lanePersistedID, hl.fresh n le_rfl, hl.unclaimed, claimed])
  have hp : Leads routed (persistRelayEventRecord sampleConfig .other (lap n) "node-a" "p1")
      stored (.stored (lapRow n) false) := persistRelayEventRecord_leads (appendEvent_lap hl :)
  have hn : Leads stored (rememberLanePersisted (lap n).key (n + 1)) named () :=
    .act {} rfl rfl
  have hrem : Leads named (rememberRelayEvent (lap n).key (n + 1)) ready () := .act {} rfl rfl
  have hw : ready.relayPending = h.relayPending ∧ ready.log = h.log ∧
      ready.rows = h.rows ++ [lapRow n] := by
    simp only [ready, named, HubState.rememberRelayEvent, HubState.rememberLanePersisted,
      Nat.succ_ne_zero, if_false]
    exact ⟨rfl, rfl, rfl⟩
  have hc : ready.window (relayPendingKey (n + 1) (lap n).payload.jobID) = none := by
    rw [HubState.window, hw.1]
    exact hl.closed _
  obtain ⟨sent, hi, hs⟩ := injectRelayEvent_leads (lap n) connected.route (n + 1)
    (lap n).key hc
  rw [relayPendingKey_row] at hs
  refine ⟨ready, sent, _, ?_, hs, fun j hj => ?_, fun key hk => ?_, ?_, hw.1,
    hw.2.1⟩
  · have hnew : ¬ (decide ((lap n).payload.ownerLane = "") || decide ((lap n).payload.eventID = "")
        || decide ((lap n).payload.text = "")) = true := by
      have hid : (lap n).payload.eventID ≠ "" := lapID_ne_empty n
      have hla : (lap n).payload.ownerLane ≠ "" := (by decide : "lane" ≠ "")
      have ht : (lap n).payload.text ≠ "" := (by decide : "hello" ≠ "")
      simp [hid, hla, ht]
    unfold relayLaneEvent
    rw [if_neg hnew]
    refine (ask_leads h).bind ?_
    rw [textTooLong_lap]
    refine (ask_leads h).bind (hcl.bind ?_)
    refine (resolveRelayRoute_leads claimed (lap n)).bind ?_
    dsimp only
    rw [textTooLong_lap]
    refine hp.bind ?_
    refine hn.bind (hrem.bind ?_)
    exact (askGate_leads ready).bind (hi.bind (.pure _ _))
  · have hne : (lap n).key ≠ (lap j).key := fun heq => by
      have := key_lap_injective heq
      omega
    have hno : Assoc.get stored.lanePersisted (lap j).key = none := hl.fresh j (by omega)
    have hrd : ready.lanePersisted = named.lanePersisted := by
      simp only [ready, HubState.rememberRelayEvent, Nat.succ_ne_zero, if_false]
    rw [hrd]
    exact rememberLanePersisted_none hne hno
  · have hget : Assoc.get ready.relayDedupe key = Assoc.get h.relayDedupe key := by
      simp only [ready, named, HubState.rememberRelayEvent, HubState.rememberLanePersisted,
        Nat.succ_ne_zero, if_false]
      show Assoc.get (Assoc.put (Assoc.put h.relayDedupe (lap n).key 0) (lap n).key (n + 1)) key = _
      rw [get_put, if_neg (Ne.symm hk), get_put, if_neg (Ne.symm hk)]
    rw [hget, hl.unclaimed]
  · rw [hw.2.2, hl.rows, range_succ, map_append]
    rfl

/-- **One lap.** -/
theorem Lapped.next (hl : Lapped n h) (ts : List (Prog HubState Answer Label Proc)) :
    ∃ h' ts', Run (program sampleConfig) limits ⟨h, ts⟩ ⟨h', ts'⟩ ∧ Lapped (n + 1) h' := by
  obtain ⟨h₁, h₂, t, ha, hs, hfr, hded, hro, hw, hlog⟩ :=
    relayLaneEvent_leads hl
  obtain ⟨h₃, he, hexp⟩ := expireRelayAck_leads rfl hs
  obtain ⟨fresh, unclaimed, rows, closed, notice, log⟩ :=
    hl.of_expired hexp hfr hded hro hw hlog
  refine ⟨h₃, _, (ha.run (r := .laneEvent (lap n) false false) rfl rfl ts).trans
    (he.run (r := .expire (rowKey n) t) rfl rfl _), fresh, unclaimed, rows, closed, ?_,
    fun key hmem => ?_⟩
  · rw [log, range_succ, map_append, reverse_append, ← hl.timeouts]
    rfl
  · rw [log] at hmem
    exact hl.undelivered key ((mem_cons.mp hmem).resolve_left fun heq => nomatch heq)

theorem exists_lapped (n : ℕ) : ∃ h ts, Run (program sampleConfig) limits ⟨{}, []⟩ ⟨h, ts⟩ ∧
    Lapped n h := by
  induction n with
  | zero =>
    exact ⟨{}, [], .refl, fun _ _ => rfl, fun _ => rfl, rfl, fun _ => rfl, rfl,
      fun _ hmem => absurd hmem not_mem_nil⟩
  | succ n ih =>
    obtain ⟨h, ts, hrun, hl⟩ := ih
    obtain ⟨h', ts', hn, hl'⟩ := hl.next ts
    exact ⟨h', ts', hrun.trans hn, hl'⟩

/-! ## The first row again -/

/-- The event that is replayed. -/
abbrev replayed : Event := relayEventFromRecord sampleConfig.sha (lapRow 0)

/-- **The row of the first lap is replayed**, and its window times out again. -/
theorem Lapped.replay (hl : Lapped (n + 1) h) (ts : List (Prog HubState Answer Label Proc)) :
    ∃ h' ts' notice, Run (program sampleConfig) limits ⟨h, ts⟩ ⟨h', ts'⟩ ∧
      h'.log = .timedOut (rowKey 0) notice :: h.log := by
  have hre : Leads h (readRow 1) h (some (some (lapRow 0))) := by
    refine .act {} rfl ?_
    have hfi : h.rows.find? (fun r => decide (r.id = 1)) = some (lapRow 0) := by
      rw [hl.rows, range_succ_eq_map]
      rfl
    simp only [hfi]
    rfl
  have hgate : Leads h (replayGate sampleConfig (lapRow 0)) h true := by
    have hnew : ¬ (decide (replayed.payload.ownerLane = "") ||
        decide (replayed.payload.jobID = "")) = true := by
      decide +kernel
    have ho : ¬ ((lapRow 0).deliveredAt || (lapRow 0).retired) = true := by decide +kernel
    unfold replayGate
    dsimp only
    rw [if_neg hnew, if_neg ho]
    exact (askGate_leads h).bind (.pure _ _)
  let named := h.rememberLanePersisted replayed.key 1
  let claimed := named.claim replayed.key 1
  let routed : HubState := { claimed with routed := (replayed.key, "node-a") :: claimed.routed }
  have hcl : Leads named (claimReplay replayed.key 1) claimed true := by
    refine .act {} rfl ?_
    have hfree : Assoc.get named.relayDedupe replayed.key = none := hl.unclaimed _
    simp only [hfree, claimed]
  have hn : Leads h (rememberLanePersisted replayed.key 1) named () := .act {} rfl rfl
  have hrt : Leads h (claimRoute sampleConfig (lapRow 0)) routed (some connected.route) :=
    hn.bind (hcl.bind ((resolveRelayRoute_leads claimed replayed).bind (.pure _ _)))
  have hc : routed.window (relayPendingKey 1 replayed.payload.jobID) = none := hl.closed _
  obtain ⟨sent, hi, hs⟩ :=
    injectRelayEvent_leads replayed connected.route 1 replayed.key hc
  rw [relayPendingKey_row] at hs
  have hct : Leads sent (persistRelayEventRecord sampleConfig .other replayed "node-a" "p1")
      sent .failed := .act { fault := .refused } rfl rfl
  have hrp : Leads h (replayRelayEvent sampleConfig 1) sent () :=
    hre.bind (hgate.bind (hrt.bind (hi.bind (hct.bind (.pure _ _)))))
  obtain ⟨expired, he, hexp⟩ := expireRelayAck_leads rfl hs
  obtain ⟨notice, hnot⟩ := hexp.log
  exact ⟨expired, _, notice, (hrp.run (r := .replay 1) rfl rfl ts).trans
    (he.run (r := .expire (rowKey 0) (routed.arms + 1)) rfl rfl _), hnot⟩

theorem rowKey_injective (h : (rowKey i).text = (rowKey j).text) : i = j := by
  have hcs := congrArg String.toList h
  simp only [rowKey, relayPendingKey, Nat.succ_pos, if_true, String.toList_append] at hcs
  have hid := Go.natRepr_injective (String.toList_injective (append_cancel_left hcs))
  omega

/-- After the first row, all the others timed out. -/
theorem Lapped.card_since (hl : Lapped (n + 1) h) :
    (timedOut (sinceTimeout (rowKey 0) h.log)).toFinset.card = n := by
  let others := ((List.range n).map fun i => (rowKey (i + 1)).text).reverse
  have ha : timedOut h.log = others ++ [(rowKey 0).text] := by
    rw [hl.timeouts, range_succ_eq_map, map_cons, map_map, reverse_cons]
    rfl
  have hne : ∀ text ∈ others, decide (text ≠ (rowKey 0).text) = true := by
    intro text hmem
    obtain ⟨i, -, rfl⟩ := mem_map.mp (mem_reverse.mp hmem)
    rw [decide_eq_true_eq]
    intro heq
    cases rowKey_injective heq
  have hnd : others.Nodup := by
    refine nodup_reverse.mpr (List.Nodup.map_on (fun i _ j _ heq => ?_) nodup_range)
    have := rowKey_injective heq
    omega
  rw [timedOut_sinceTimeout, ha, takeWhile_append_of_pos hne,
    takeWhile_cons_of_neg (by simp), append_nil, toFinset_card_of_nodup hnd,
    length_reverse, length_map, length_range]

/-- **An event is announced twice without a delivery**: after 4096 other timeouts, the second
timeout of the first row is broadcast again. -/
theorem evicted_timeout_announced_again :
    ∃ (s : Sys HubState Answer Label Proc) (earlier : List Ev),
    Run (program sampleConfig) limits ⟨{}, []⟩ s ∧
    s.shared.log = .timedOut (rowKey 0) true :: earlier ∧
    (rowKey 0).text ∈ timedOut earlier ∧ ∀ key, .delivered key ∉ earlier := by
  obtain ⟨h, ts, hrun, hl⟩ := exists_lapped 4097
  obtain ⟨h', ts', notice, hrp, hlog⟩ := hl.replay ts
  have ha : Announced (.timedOut (rowKey 0) notice :: h.log) :=
    hlog ▸ announced_of_run (hrun.trans hrp)
  have he : (rowKey 0).text ∉ suppressed h.log := by
    rw [mem_suppressed, hl.card_since]
    exact fun hmem => absurd hmem.2 (Nat.lt_irrefl _)
  have hn : notice = true := ha.1.mpr he
  refine ⟨⟨h', ts'⟩, h.log, hrun.trans hrp, hn ▸ hlog, ?_, hl.undelivered⟩
  rw [hl.timeouts, mem_reverse]
  exact mem_map.mpr ⟨0, mem_range.mpr (Nat.succ_pos _), rfl⟩

end Panewire.HubRelay

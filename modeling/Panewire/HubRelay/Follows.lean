import Panewire.HubRelay.WindowSteps

/-!
# The programs keep to the protocol

Each procedure of the hub is walked once along its own text, with the role that it starts in. What
the callers need of a procedure is in its postcondition: the claim is spent or given back after
`injectRelayEvent`, and a replay that goes on has claimed its event and knows the route.
-/

namespace Panewire.HubRelay

open Conc Data Hub List
open Protocol

variable {cfg : Config} {g : Role}

/-! ## Keys of rows and lane events -/

theorem key_relayEventFromRecord (sha : Sha) (row : Row) :
    (relayEventFromRecord sha row).key = row.key := by
  unfold Event.key Row.key relayEventDedupeKey
  by_cases hl : row.kind = .laneEvent
  · have hkind : (relayEventFromRecord sha row).kind = .laneEvent := hl
    rw [if_pos hl, if_pos hkind]
    rfl
  · have hkind : ¬ (relayEventFromRecord sha row).kind = .laneEvent := hl
    have hjob : (relayEventFromRecord sha row).payload.jobID = row.payload.jobID := if_neg hl
    rw [if_neg hl, if_neg hkind, relayDedupeKey, hjob]
    rfl

theorem key_laneEventFromStored {sha : Sha} {row : Row} (hl : row.kind = .laneEvent) :
    (laneEventFromStored sha row).key = row.key := by
  unfold Row.key relayEventDedupeKey
  rw [if_pos hl]
  rfl

variable {e : Event}

theorem Event.laneKey (hl : e.kind = .laneEvent) : LaneKey e.key :=
  ⟨_, _, if_pos hl⟩

/-! ## Sending -/

theorem forgetOwnRelayEvent_safe {key : String} (own : g.claim = some key) :
    protocol.Safe g (forgetOwnRelayEvent key) :=
  (forgetOwnRelayEvent_own own).safe

/-- **The claim is used up**: spent on the directive, or given back. -/
theorem injectRelayEvent_spends {route : ReportRelayRoute} {key : String}
    (own : g.claim = some key) (hm : (e.key, route.machine) ∈ g.known) (id : ℕ) :
    protocol.Triple g (injectRelayEvent e route id key)
      fun _ g' => g' = { g with claim := none } := by
  refine .bind_same (registerRelayAckEvent_same hm id) fun _ => ?_
  refine .bind (queueRelay_injects own) fun sent g' hg => ?_
  cases sent with
  | true =>
    obtain rfl : g' = { g with claim := none } := hg
    exact .bind_same (armRelayAckEvent_same _) fun _ => .pure rfl
  | false =>
    obtain rfl : g' = g := hg
    refine .bind_to (forgetOwnRelayEvent_own own) fun _ => ?_
    exact .bind_same (dropWindow_same _) fun _ => .pure rfl

theorem reacknowledgeRelayEvent_safe (e : Event) (key : String) (knownID : ℕ) :
    protocol.Safe g (reacknowledgeRelayEvent cfg e key knownID) := by
  unfold reacknowledgeRelayEvent
  split
  · exact .pure trivial
  refine .bind (resolveRelayRoute_resolves _ e (.inr rfl)) fun ⟨route, routed⟩ g' hg => ?_
  obtain ⟨rfl, -⟩ := hg
  cases routed with
  | false =>
    -- no route: the duplicate forgets a claim that need not be its own
    have hl : (g.resolved (.reackRoute e.key) e.key (route, false)).lapsed = true := by
      simp [Role.resolved]
    exact (forgetRelayEvent_same (.inl hl)).safe
  | true =>
    refine .bind (persistRelayEventRecord_persists (.inl mem_cons_self)) fun r g' hg => ?_
    obtain ⟨rfl, -⟩ := hg
    cases r with
    | failed =>
      dsimp only
      split
      · next hz =>
        subst hz
        refine .of_same (forgetRelayEvent_same (.inl ?_)) fun _ => trivial
        simp [Role.persisted, Persisted.isFailed]
      · exact .pure trivial
    | without => exact .pure trivial
    | stored row existing => exact (rememberRelayEvent_same _ _).safe

theorem relayJobEvent_safe (e : Event) : protocol.Safe g (relayJobEvent cfg e) := by
  have goOn : ∀ {g : Role} {route : ReportRelayRoute} (stored : Persisted),
      g.claim = some e.key → (e.key, route.machine) ∈ g.known →
      protocol.Safe g (do
        rememberRelayEvent e.key stored.id
        if relayEventAlreadyDelivered stored e then pure ()
        else
          let _ ← injectRelayEvent e route stored.id e.key
          pure () : HubState.Cmd Unit) := by
    intro g route stored own hm
    refine .bind_same (rememberRelayEvent_same _ _) fun _ => ?_
    split
    · exact .pure trivial
    · exact (injectRelayEvent_spends own hm _).discard
  unfold relayJobEvent
  split
  · exact .pure trivial
  refine .bind_same ask_same fun yes => ?_
  split
  · exact .pure trivial
  refine .bind_to (claimRelayEvent_claims e.key) fun r => ?_
  cases r with
  | some knownID => exact reacknowledgeRelayEvent_safe e e.key knownID
  | none =>
    refine .bind (resolveRelayRoute_resolves _ e (.inl rfl)) fun ⟨route, routed⟩ g' hg => ?_
    obtain ⟨rfl, -⟩ := hg
    cases routed with
    | false => exact forgetOwnRelayEvent_safe rfl
    | true =>
      refine .bind (persistRelayEventRecord_persists (.inl mem_cons_self)) fun r g' hg => ?_
      obtain ⟨rfl, -⟩ := hg
      cases r with
      | failed => exact forgetOwnRelayEvent_safe rfl
      | without => exact goOn .without rfl mem_cons_self
      | stored row existing => exact goOn (.stored row existing) rfl mem_cons_self

theorem relayStoredLaneEvent_safe {route : ReportRelayRoute} {routed ingress : Bool}
    {key : String} {row : Row} {existing : Bool} (own : g.claim = some key)
    (hm : routed = true → (key, route.machine) ∈ g.known) (he : e.key = key)
    (hkind : row.kind = .laneEvent)
    (hrow : row.key = key) :
    protocol.Safe g (relayStoredLaneEvent cfg e route routed ingress key row existing) := by
  have giveBack : protocol.Safe g (forgetOwnRelayEvent key) := forgetOwnRelayEvent_safe own
  -- whichever text wins, the event has the claimed key
  have hw : (if existing then laneEventFromStored cfg.sha row else e).key = key := by
    cases existing with
    | true => exact (key_laneEventFromStored hkind).trans hrow
    | false => exact he
  unfold relayStoredLaneEvent
  split
  · exact .bind_same (rememberLanePersisted_same _ _) fun _ => giveBack
  generalize (if existing then laneEventFromStored cfg.sha row else e) = e at hw ⊢
  have hm : routed = true → (e.key, route.machine) ∈ g.known := hw.symm ▸ hm
  refine .bind_same (rememberLanePersisted_same _ _) fun _ => ?_
  refine .bind_same (rememberRelayEvent_same _ _) fun _ => ?_
  split
  · exact .pure trivial
  split
  · refine .bind_same (markRow_same _ _ _) fun marked => ?_
    split
    · exact .pure trivial
    · exact giveBack
  · cases routed with
    | false => exact giveBack
    | true =>
      refine .bind_same askGate_same fun gate => ?_
      split
      · exact (injectRelayEvent_spends own (hm rfl) _).discard
      · exact .bind_same (markRow_same _ _ _) fun _ => giveBack

theorem relayLaneEvent_safe {ingress : Bool} (sinkOnly : Bool) (hl : e.kind = .laneEvent)
    (hh : ingress = true → (e.key, e.payload.host) ∈ g.known) :
    protocol.Safe g (relayLaneEvent cfg e ingress sinkOnly) := by
  unfold relayLaneEvent
  split
  · exact .pure trivial
  refine .bind_same ask_same fun sink => ?_
  split
  · exact .pure trivial
  refine .bind_same ask_same fun yes => ?_
  split
  · exact .pure trivial
  refine .bind_to (claimLaneEvent_claims e.key) fun won => ?_
  cases won with
  | false => exact .pure trivial
  | true =>
    rw [if_pos rfl]
    split
    · exact forgetOwnRelayEvent_safe rfl
    refine .bind (resolveRelayRoute_resolves _ e (.inl rfl)) fun ⟨route, routed⟩ g' hg => ?_
    obtain ⟨rfl, hempty⟩ := hg
    dsimp only
    split
    · exact forgetOwnRelayEvent_safe rfl
    split
    · exact forgetOwnRelayEvent_safe rfl
    have hrt : routed = true → (e.key, route.machine) ∈
        ((g.claimed e.key true).resolved .other e.key (route, routed)).known := by
      rintro rfl
      exact mem_cons_self
    have hm : (e.key, if ingress then e.payload.host else route.machine) ∈
          ((g.claimed e.key true).resolved .other e.key (route, routed)).known ∨
        (if ingress then e.payload.host else route.machine) = "" := by
      cases ingress with
      | true =>
        refine .inl ?_
        unfold Role.resolved
        split
        · exact mem_cons_of_mem _ (hh rfl)
        · exact hh rfl
      | false =>
        cases routed with
        | true => exact .inl (hrt rfl)
        | false => exact .inr (hempty hl rfl)
    refine .bind (persistRelayEventRecord_persists hm) fun r g' hg => ?_
    obtain ⟨rfl, hs⟩ := hg
    cases r with
    | failed | without => exact forgetOwnRelayEvent_safe rfl
    | stored row existing =>
      obtain ⟨hkind, hk⟩ := hs row existing rfl
      exact relayStoredLaneEvent_safe rfl hrt rfl (hkind.trans hl) (hk hl)

/-! ## Replays -/

variable (record : Row)

theorem replayGate_same : protocol.Same g (replayGate cfg record) := by
  unfold replayGate
  dsimp only
  split
  · exact .pure rfl
  split
  · exact .pure rfl
  refine .bind_same askGate_same fun gate => ?_
  cases gate with
  | inject | defer => exact .pure rfl
  | retire => exact .bind_same (markRow_same _ _ _) fun _ => .pure rfl

/-- What a replay has when it goes on: the claim of its event, and a route. -/
def Routed (event route : String) (g : Role) : Prop :=
  g.claim = some event ∧ (event, route) ∈ g.known

theorem claimRoute_routes :
    protocol.Triple g (claimRoute cfg record) fun r g' => ∀ route, r = some route →
      Routed (relayEventFromRecord cfg.sha record).key route.machine g' := by
  unfold claimRoute
  split
  on_goal 1 => refine .bind_same (rememberLanePersisted_same _ _) fun _ => ?_
  all_goals
    refine .bind_to (claimReplay_claims _ _) fun won => ?_
    cases won with
    | false => exact .pure fun _ hr => nomatch hr
    | true =>
      refine .bind (resolveRelayRoute_resolves _ _ (.inl rfl)) fun ⟨route, routed⟩ g' hg => ?_
      obtain ⟨rfl, -⟩ := hg
      dsimp only
      split
      · exact .bind (forgetOwnRelayEvent_own rfl) fun _ _ _ => .pure fun _ hr => nomatch hr
      · next hrt =>
        refine .pure fun route' hr => ?_
        cases hr
        obtain rfl : routed = true := by
          simp only [Bool.or_eq_true, Bool.not_eq_true', not_or, Bool.not_eq_false] at hrt
          exact hrt.1
        exact ⟨rfl, mem_cons_self⟩

theorem replayRelayEvent_safe (id : ℕ) : protocol.Safe g (replayRelayEvent cfg id) := by
  refine .bind (findRow_learns _) fun r g' _ => ?_
  split
  · next record _ =>
    refine .bind_same (replayGate_same record) fun opened => ?_
    split
    · refine .bind (claimRoute_routes record) fun r g' hr => ?_
      cases r with
      | none => exact .pure trivial
      | some route =>
        obtain ⟨own, hm⟩ := hr route rfl
        refine .bind_to (injectRelayEvent_spends own hm _) fun sent => ?_
        split
        · exact .discard (persistRelayEventRecord_persists (.inl hm))
        · exact .pure trivial
    · exact .pure trivial
  · exact .pure trivial

theorem replayMarkedUnconfirmed_safe : protocol.Safe g (replayMarkedUnconfirmed cfg record) := by
  refine .bind_same (replayGate_same record) fun opened => ?_
  split
  · refine .bind (claimRoute_routes record) fun r g' hr => ?_
    cases r with
    | none => exact .pure trivial
    | some route =>
      obtain ⟨own, hm⟩ := hr route rfl
      refine .bind (findRow_learns _) fun r g'' hg => ?_
      obtain ⟨hc, -, hs, -⟩ := hg
      split
      · split
        · exact forgetOwnRelayEvent_safe (hc.trans own)
        · refine .bind_same (markRow_same _ _ _) fun marked => ?_
          split
          · exact (injectRelayEvent_spends (hc.trans own) (hs hm) _).discard
          · exact .bind (forgetOwnRelayEvent_safe (hc.trans own)) fun _ _ _ =>
              (dropWindow_same _).safe
      · exact forgetOwnRelayEvent_safe (hc.trans own)
  · exact .pure trivial

theorem redeliverWorkingExpired_safe (id : ℕ) :
    protocol.Safe g (redeliverWorkingExpired cfg id) := by
  refine .bind (findRow_learns _) fun r g' _ => ?_
  split
  · next record _ =>
    split
    · next hl =>
      have hk : LaneKey (relayEventFromRecord cfg.sha record).key := Event.laneKey hl
      exact .bind_same (giveBack_same hk _) fun _ => replayMarkedUnconfirmed_safe record
    · exact .pure trivial
  · exact .pure trivial

/-! ## Acknowledgements -/

theorem markRelayEventDelivered_safe {pending : Pending}
    (hm : (pending.event.key, pending.machine) ∈ g.known) :
    protocol.Safe g (markRelayEventDelivered cfg pending) := by
  refine .bind_same (nameRow_same pending) fun id => ?_
  refine .bind_same (settle_same pending) fun _ => ?_
  split
  · exact .pure trivial
  · split
    · exact .pure trivial
    · exact (markRowFor_same hm _ _).safe

variable (machine : String) (ack : Ack)

/-- **A late acknowledgement** is taken from the machine of the row, or of the present route. -/
theorem recordLateRow_safe {record : Row} (hrow : (record.key, record.machine) ∈ g.known) :
    protocol.Safe g (recordLateRow cfg machine ack record) := by
  unfold recordLateRow
  dsimp only
  split
  · exact .pure trivial
  refine .bind (lateRoute_resolves machine _) fun ⟨route, routed⟩ g' hg => ?_
  obtain ⟨hs, hfound⟩ := hg
  split
  · exact .pure trivial
  next hok =>
  split
  · exact .pure trivial
  refine markRelayEventDelivered_safe ?_
  by_cases hma : record.machine = machine
  · subst hma
    exact hs (key_relayEventFromRecord cfg.sha record ▸ hrow)
  · simp only [hma, Bool.and_eq_true, Bool.or_eq_true, decide_eq_true_eq, not_and, not_or,
      not_not, ne_eq, not_false_eq_true, true_imp_iff] at hok
    exact hfound hok.2 (Bool.eq_false_iff.mpr hok.1)

theorem recordLateRelayDelivery_safe :
    protocol.Safe g (recordLateRelayDelivery cfg machine ack) := by
  unfold recordLateRelayDelivery
  split
  · exact .pure trivial
  split
  · refine .bind (findRow_learns _) fun r g' hg => ?_
    split
    · exact recordLateRow_safe machine ack (hg.2.2.2 _ rfl)
    · exact .pure trivial
  split
  · exact .pure trivial
  refine .bind (findRow_learns _) fun r g' hg => ?_
  split
  · exact recordLateRow_safe machine ack (hg.2.2.2 _ rfl)
  · exact .pure trivial

theorem relayDelivered_safe : protocol.Safe g (relayDelivered cfg machine ack) := by
  refine .bind (acknowledge_finds machine ack) fun r g' hg => ?_
  obtain ⟨rfl, -⟩ := hg
  cases r with
  | none => exact (recordLateRelayDelivery_safe machine ack).discard
  | some w =>
    exact (markRelayEventDelivered_safe mem_cons_self).discard

theorem markUnconfirmedRow_safe (id : ℕ) : protocol.Safe g (markUnconfirmedRow cfg id) := by
  refine .bind (findRow_learns _) fun r g' _ => ?_
  split
  · exact .pure trivial
  · exact .pure trivial
  split
  · exact .pure trivial
  refine .bind_same isDigestBatch_same fun digest => ?_
  cases digest with
  | none => exact .pure trivial
  | some digest =>
    refine .bind (persistRelayEventRecord_persists (.inr rfl)) fun r g' _ => ?_
    split
    · exact .pure trivial
    · exact .pure trivial

theorem markRelayEventUnconfirmed_safe (pending : Pending) :
    protocol.Safe g (markRelayEventUnconfirmed cfg pending) := by
  unfold markRelayEventUnconfirmed
  split
  · exact .pure trivial
  refine .bind_same (nameRow_same pending) fun id => ?_
  split
  · exact markUnconfirmedRow_safe id
  split
  · exact .pure trivial
  refine .bind (findRow_learns _) fun r g' _ => ?_
  split
  · exact .pure trivial
  · exact .pure trivial
  · exact markUnconfirmedRow_safe _

theorem relayUnconfirmed_safe : protocol.Safe g (relayUnconfirmed cfg machine ack) := by
  refine .bind (peek_finds machine ack) fun r g' _ => ?_
  cases r with
  | none => exact .pure trivial
  | some w =>
    refine .bind (markRelayEventUnconfirmed_safe w.2) fun marked g' _ => ?_
    split
    · exact (consume_same machine w.1).safe
    · exact .pure trivial

theorem relayReleased_safe (id : ℕ) (jobID : String) :
    protocol.Safe g (relayReleased machine id jobID) := by
  refine .bind_same (releaseRelayHeld_same machine id jobID) fun accepted => ?_
  split
  · exact .go ⟨machine, _, rfl⟩ trivial
  · exact .pure trivial

theorem relayHeldDelete_safe (id : ℕ) : protocol.Safe g (relayHeldDelete cfg id) := by
  refine .bind_same (deleteRelayHeld_same id) fun r => ?_
  cases r with
  | none => exact .pure trivial
  | some held =>
    dsimp only
    split
    · exact (markRow_same _ _ _).discard
    · exact .pure trivial

/-! ## Timers, and the whole program -/

theorem expireRelayAck_safe (key : PendingKey) (n : ℕ) :
    protocol.Safe g (expireRelayAck cfg key n) := by
  refine .bind_to (fire_finds key n) fun r => ?_
  cases r with
  | none => exact .pure trivial
  | some w =>
    obtain ⟨key, pending⟩ := w
    have hm : (pending.event.key, pending.machine) ∈ (g.found (some (key, pending))).known :=
      mem_cons_self
    have note : ∀ {g : Role}, protocol.Safe g (do
        if pending.event.kind = .laneEvent then forgetRelayEvent pending.event.key
        noteTimeout key : HubState.Cmd Unit) := by
      split
      · next hl =>
        refine .bind_same (forgetRelayEvent_same (.inr (Event.laneKey hl))) fun _ => ?_
        exact (noteTimeout_same key).safe
      · exact (noteTimeout_same key).safe
    dsimp only
    split
    · exact .bind (persistRelayEventRecord_persists (.inl hm)) fun _ _ _ => note
    · exact note

/-- **Every program of the hub follows the protocol**, in the role that it starts in. -/
theorem program_follows (cfg : Config) {r : Proc} (hr : r.admissible = true ∨ protocol.spawns r) :
    protocol.Follows (program cfg r) (protocol.entry r) := by
  cases r with
  | jobEvent e => exact (relayJobEvent_safe e).follows
  | laneEvent e ingress sinkOnly =>
    have hl : e.kind = .laneEvent := by
      rcases hr with hr | ⟨_, _, hr⟩
      · simpa [Proc.admissible] using hr
      · cases hr
    refine (relayLaneEvent_safe sinkOnly hl ?_).follows
    rintro rfl
    exact mem_cons_self
  | replay id => exact (replayRelayEvent_safe id).follows
  | replayMarked id =>
    refine Triple.follows (Q := fun _ _ => True) (.bind (findRow_learns _) fun r g' _ => ?_)
    split
    · exact replayMarkedUnconfirmed_safe _
    · exact .pure trivial
  | redeliver id => exact (redeliverWorkingExpired_safe id).follows
  | delivered machine ack => exact (relayDelivered_safe machine ack).follows
  | unconfirmed machine ack => exact (relayUnconfirmed_safe machine ack).follows
  | held machine id jobID pane => exact (rememberRelayHeld_same machine id jobID pane).follows
  | released machine id jobID => exact (relayReleased_safe machine id jobID).follows
  | dropped machine id jobID pane => exact (consumeRelayDropped_same machine id jobID pane).follows
  | cancelled id => exact (relayCancelled_same id).follows
  | heldDelete id => exact (relayHeldDelete_safe id).follows
  | expire key n => exact (expireRelayAck_safe key n).follows
  | armReleased machine key => exact (armAfterRelease_same machine key).follows

end Panewire.HubRelay

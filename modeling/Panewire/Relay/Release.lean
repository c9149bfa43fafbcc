import Panewire.Conc.Returns
import Panewire.Relay.Manager

/-!
# What a release does with its rows

A release takes the rows that are held for a pane, judges each of them, and types the ones that
remain in groups.

* `account` — the gate of a release, which also writes down the **disposition** of every row;
  `filterDeliverableHeld_eq` says that it is the gate, and nothing else;
* `each_row_accounted` — every row has exactly one disposition, and a row is delivered only if its
  lane was not seen on another pane and the pane's occupant is the one that the row waited on;
* `relayBatchGroups_partition` — the groups are the rows in their order, cut into pieces; a piece of
  several rows fits into the limit, and is of one immediacy.
-/

namespace Panewire.Relay

open Data Conc List

/-! ## Groups -/

theorem relayGroupsFrom_flatten (expired : Bool) (now : ℤ) (last items : List Held) :
    (relayGroupsFrom expired now last items).flatten = last ++ items := by
  induction items generalizing last with
  | nil => simp [relayGroupsFrom]
  | cons item items ih =>
    unfold relayGroupsFrom
    split
    · rw [ih, append_assoc, singleton_append]
    · rw [flatten_cons, ih, singleton_append]

/-- The groups of a release are its rows, cut into pieces. -/
theorem relayBatchGroups_flatten (items : List Held) (expired : Bool) (now : ℤ) :
    (relayBatchGroups items expired now).flatten = items := by
  cases items with
  | nil => rfl
  | cons item items => exact relayGroupsFrom_flatten expired now [item] items

/-- A group that may be typed: it has rows, all of one immediacy, and several fit into one text. -/
structure GoodGroup (expired : Bool) (now : ℤ) (group : List Held) : Prop where
  ne_nil : group ≠ []
  uniform : ∀ item ∈ group, relayGroupImmediate [item] = relayGroupImmediate group
  fits : 2 ≤ group.length →
    (relayBatchText group expired now).utf8ByteSize ≤ relayBatchTextLimit

namespace GoodGroup

variable {expired : Bool} {now : ℤ}

theorem singleton (item : Held) : GoodGroup expired now [item] where
  ne_nil := cons_ne_nil _ _
  uniform := by
    intro other ho
    rw [mem_singleton.mp ho]
  fits h := absurd h (by decide : ¬ 2 ≤ 1)

theorem relayGroupImmediate_concat {group : List Held} (hne : group ≠ []) (item : Held) :
    relayGroupImmediate (group ++ [item]) =
      (relayGroupImmediate group && relayGroupImmediate [item]) := by
  cases group with
  | nil => exact absurd rfl hne
  | cons first rest => simp [relayGroupImmediate, Bool.and_assoc]

/-- A row that may join leaves the group good. -/
theorem concat {group : List Held} {item : Held} (h : GoodGroup expired now group)
    (hj : relayJoins expired now group item = true) : GoodGroup expired now (group ++ [item]) := by
  simp only [relayJoins, Bool.and_eq_true, beq_iff_eq, decide_eq_true_eq] at hj
  obtain ⟨⟨hi, -⟩, hfi⟩ := hj
  have hb : relayGroupImmediate (group ++ [item]) = relayGroupImmediate group := by
    rw [relayGroupImmediate_concat h.ne_nil, ← hi, Bool.and_self]
  refine ⟨by simp, fun other ho => ?_, fun _ => hfi⟩
  rw [hb]
  rcases mem_append.mp ho with ho | ho
  · exact h.uniform other ho
  · rw [mem_singleton.mp ho, hi]

end GoodGroup

theorem relayGroupsFrom_good {expired : Bool} {now : ℤ} {last : List Held} (items : List Held)
    (h : GoodGroup expired now last) :
    ∀ group ∈ relayGroupsFrom expired now last items, GoodGroup expired now group := by
  induction items generalizing last with
  | nil =>
    intro group hgrp
    rw [mem_singleton.mp hgrp]
    exact h
  | cons item items ih =>
    unfold relayGroupsFrom
    split
    · next hj => exact ih (h.concat hj)
    · intro group hgrp
      rcases mem_cons.mp hgrp with rfl | hgrp
      · exact h
      · exact ih (.singleton item) group hgrp

/-- **The groups are the rows in their order**, and every group may be typed: several rows fit into
the limit and are of one immediacy. -/
theorem relayBatchGroups_partition (items : List Held) (expired : Bool) (now : ℤ) :
    (relayBatchGroups items expired now).flatten = items ∧
      ∀ group ∈ relayBatchGroups items expired now, group ≠ [] ∧ (2 ≤ group.length →
        (relayBatchText group expired now).utf8ByteSize ≤ 8 * 1024 ∧
        ∀ a ∈ group, ∀ b ∈ group, relayGroupImmediate [a] = relayGroupImmediate [b]) := by
  refine ⟨relayBatchGroups_flatten items expired now, fun group hgrp => ?_⟩
  have hgo : GoodGroup expired now group := by
    cases items with
    | nil => exact absurd hgrp not_mem_nil
    | cons item items => exact relayGroupsFrom_good items (.singleton item) group hgrp
  refine ⟨hgo.ne_nil, fun hl => ⟨hgo.fits hl, fun a ha b hb => ?_⟩⟩
  rw [hgo.uniform a ha, hgo.uniform b hb]

/-- A row on one pane. -/
def rowOf (id : ℕ) (lane lease : String) : Held :=
  { pane := "p1", lane := lane, eventID := id, text := "go on", lease := lease }

-- two short rows are typed together, a worker directive by itself
example : relayBatchGroups [rowOf 1 "a" "", rowOf 2 "b" "",
      { rowOf 3 "c" "" with deliverPolicy := relayDeliverDirective }] false 0 =
    [[rowOf 1 "a" "", rowOf 2 "b" ""],
      [{ rowOf 3 "c" "" with deliverPolicy := relayDeliverDirective }]] := by
  decide +kernel

/-! ## Dispositions -/

/-- What becomes of a row at a release. -/
inductive Disposition where
  /-- it is typed, with the others of its group -/
  | deliver
  /-- it stays in the store -/
  | keep
  /-- it is deleted, for this reason -/
  | expire (reason : String)
  /-- it is held once more, or dropped when its attempts are used up -/
  | retry
  deriving DecidableEq

section Gate

variable (cfg : Config)

/-- Do what was decided about a row. -/
def Disposition.carryOut (harness : String) (item : Held) : Disposition → Act Unit
  | .deliver | .keep => pure ()
  | .retry => retryOrDrop cfg item harness
  | .expire reason => do
    Cmd.when (reason = "working_wait_expired") <|
      emit (.unconfirmed item.eventID item.jobID item.pane "working_wait_expired")
    expireHeldLease item reason harness

/-- Decide about a row whose lane is still on the pane. -/
def judge (p : PaneProbe) (expired : Bool) (item : Held) : Act Disposition := do
  if p.unverifiable then return .retry
  else match relayHeldLeaseStale item p.occupant with
    | some reason => return .expire reason
    | none =>
      if ← relayLaneJobEnded p.harness then return .expire "job_ended"
      else if p.workingUnprovable then
        if !expired then return .keep
        else if ← keepWorkingCmdHold cfg item then return .keep
        else return .expire "working_wait_expired"
      else return .deliver

/-- The rows whose lane is still on the pane, and the others, which expire. -/
def sortRerouted (items : List Held) : Act (List Held × List Held) :=
  Cmd.foldEach items ([], []) fun sorted item => do
    if ← laneRerouted item then
      expireHeldLease item "lane_rerouted" ""
      return (sorted.1, sorted.2 ++ [item])
    else return (sorted.1 ++ [item], sorted.2)

/-- The account of the rows whose lane was seen on another pane. -/
def rerouted (items : List Held) : List (Held × Disposition) :=
  items.map fun item => (item, .expire "lane_rerouted")

/-- Judge the rows of a pane. -/
def judgeRows (p : PaneProbe) (expired : Bool) (live : List Held) :
    Act (List (Held × Disposition)) :=
  Cmd.foldEach live [] fun judged item => do
    let d ← judge cfg p expired item
    d.carryOut cfg p.harness item
    return judged ++ [(item, d)]

/-- **The gate of a release with its account**: every row and what became of it. -/
def account (items : List Held) (expired : Bool) : Act (List (Held × Disposition) × String) := do
  let (live, gone) ← sortRerouted items
  match live with
  | [] => return (rerouted gone, "")
  | first :: _ =>
    let reply ← ask (·.reply)
    let p := probe first.pane reply
    let judged ← judgeRows cfg p expired live
    return (rerouted gone ++ judged, p.harness)

/-- The rows that are to be typed. -/
def delivered (judged : List (Held × Disposition)) : List Held :=
  (judged.filter fun x => x.2 = .deliver).map (·.1)

variable {cfg}

theorem relayHeldLeaseStale_ne_working {item : Held} {occupant : Option Occupant} {reason : String}
    (h : relayHeldLeaseStale item occupant = some reason) : reason ≠ "working_wait_expired" := by
  unfold relayHeldLeaseStale at h
  split at h
  · cases h
    decide
  split at h
  · split at h
    · cases h
    · cases h
      decide
  · split at h
    · cases h
      decide
    · cases h

/-- A row is judged by a decision, and by what follows from it. -/
theorem judgeHeld_eq (p : PaneProbe) (expired : Bool) (item : Held) :
    judgeHeld cfg p expired item = do
      let d ← judge cfg p expired item
      d.carryOut cfg p.harness item
      return decide (d = .deliver) := by
  funext k
  unfold judgeHeld judge
  cases hu : p.unverifiable with
  | true => rfl
  | false =>
    simp only [Bool.false_eq_true, if_false]
    cases hs : relayHeldLeaseStale item p.occupant with
    | some reason =>
      have hw := relayHeldLeaseStale_ne_working hs
      show _ = Cmd.when (decide (reason = "working_wait_expired")) _ _
      rw [decide_eq_false hw]
      rfl
    | none =>
      show relayLaneJobEnded p.harness _ = relayLaneJobEnded p.harness _
      congr 1
      funext ended
      cases ended with
      | true => rfl
      | false =>
        cases p.workingUnprovable with
        | false => rfl
        | true =>
          cases expired with
          | false => rfl
          | true =>
            show keepWorkingCmdHold cfg item _ = keepWorkingCmdHold cfg item _
            congr 1
            funext kept
            cases kept <;> rfl

theorem dropRerouted_eq (items : List Held) :
    dropRerouted items = do
      let sorted ← sortRerouted items
      return sorted.1 := by
  refine (Cmd.foldEach_project Prod.fst (fun sorted item => ?_) items ([], [])).symm
  funext k
  show laneRerouted item _ = laneRerouted item _
  congr 1
  funext rerouted
  cases rerouted <;> rfl

theorem delivered_append (xs ys : List (Held × Disposition)) :
    delivered (xs ++ ys) = delivered xs ++ delivered ys := by
  rw [delivered, filter_append, map_append]
  rfl

theorem delivered_rerouted (items : List Held) : delivered (rerouted items) = [] := by
  rw [delivered, map_eq_nil_iff, filter_eq_nil_iff]
  intro x hx
  obtain ⟨item, -, rfl⟩ := mem_map.mp hx
  simp

theorem delivered_singleton (item : Held) (d : Disposition) :
    delivered [(item, d)] = if d = .deliver then [item] else [] := by
  by_cases h : d = .deliver <;> simp [delivered, h]

/-- Of the rows that were judged, the loop of the gate keeps those to deliver. -/
theorem judgeRows_eq (p : PaneProbe) (expired : Bool) (live : List Held) :
    (do
      let judged ← judgeRows cfg p expired live
      return delivered judged) =
    Cmd.foldEach live [] fun keep item => do
      if ← judgeHeld cfg p expired item then return keep ++ [item] else return keep := by
  refine Cmd.foldEach_project delivered (fun judged item => ?_) live []
  rw [judgeHeld_eq]
  funext k
  show judge cfg p expired item _ = judge cfg p expired item _
  congr 1
  funext d
  show d.carryOut cfg p.harness item _ = d.carryOut cfg p.harness item _
  congr 1
  funext _
  show k (delivered (judged ++ [(item, d)])) = _
  rw [delivered_append, delivered_singleton]
  by_cases h : d = .deliver
  · rw [if_pos h, decide_eq_true h]
    rfl
  · rw [if_neg h, decide_eq_false h, append_nil]
    rfl

/-- **The gate is its account**, of which it returns the rows to type. -/
theorem filterDeliverableHeld_eq (items : List Held) (expired : Bool) :
    filterDeliverableHeld cfg items expired = do
      let r ← account cfg items expired
      return (delivered r.1, r.2) := by
  unfold filterDeliverableHeld
  rw [dropRerouted_eq]
  funext k
  show sortRerouted items _ = sortRerouted items _
  congr 1
  funext sorted
  obtain ⟨live, gone⟩ := sorted
  cases live with
  | nil =>
    show k ([], "") = k (delivered (rerouted gone), "")
    rw [delivered_rerouted]
  | cons first rest =>
    show ask (·.reply) _ = ask (·.reply) _
    congr 1
    funext reply
    dsimp only
    rw [← judgeRows_eq]
    show judgeRows cfg (probe first.pane reply) expired (first :: rest) _ =
      judgeRows cfg (probe first.pane reply) expired (first :: rest) _
    congr 1
    funext judged
    show k (delivered judged, _) = k (delivered (rerouted gone ++ judged), _)
    rw [delivered_append, delivered_rerouted, nil_append]

end Gate

/-! ## The commands of a release return -/

section Honest

theorem storeCall_honest {α : Type} (l : Label) (f : Node → Answer → Node × α) :
    (storeCall l f).Honest := .act ..

theorem deleteHeld_honest (id : ℕ) : (deleteHeld id).Honest :=
  .bind (storeCall_honest ..) fun _ => .pure _

theorem expireHeldLease_honest (item : Held) (reason harness : String) :
    (expireHeldLease item reason harness).Honest :=
  .bind (deleteHeld_honest _) fun _ => .act ..

theorem arm_honest (detached : Bool) (pane : String) : (arm detached pane).Honest := by
  refine .bind (.actWhen ..) fun armed => ?_
  cases armed with
  | none => exact .pure _
  | some wait => exact .go _

theorem dropRerouted_honest (items : List Held) : (dropRerouted items).Honest := by
  refine .foldEach (fun live item => .bind (.actWhen ..) fun rerouted => .ite ?_ (.pure _)) items []
  exact .bind (expireHeldLease_honest ..) fun _ => .pure _

variable {fallback : Held → Act Unit} (hfallback : ∀ item, (fallback item).Honest)
include hfallback

theorem holdWith_honest (detached : Bool) (item : Held) (reason : String) :
    (holdWith fallback detached item reason).Honest := by
  refine .ite (.pure _) (.bind (.actWhen ..) fun inserted => ?_)
  cases inserted with
  | none => exact hfallback item
  | some inserted =>
    refine .bind (.act ..) fun read => .ite ?_ (.ite (.pure _) ?_)
    · exact .bind (.when _ (arm_honest ..)) fun _ => .act ..
    · exact .bind (.act ..) fun _ => arm_honest ..

theorem retryOrDropWithin_honest (item : Held) (maxAttempts : ℕ) (harness : String) :
    (retryOrDropWithin fallback item maxAttempts harness).Honest := by
  refine .ite (.pure _) (.bind (deleteHeld_honest _) fun _ => .ite (.act ..) ?_)
  exact .bind (.act ..) fun _ => holdWith_honest hfallback ..

theorem settle_honest (fingerprint : String → String) (now : ℤ) (group : List Held)
    (result : InjectResult) : (settle fallback fingerprint now group result).Honest := by
  have hs : ∀ item harness, (stopWithoutRetry item harness).Honest := fun item harness =>
    .ite (.pure _) (.bind (deleteHeld_honest _) fun _ => .act ..)
  have hrc : ∀ reason item, (recordLanded fingerprint now reason item).Honest := by
    intro reason item
    refine .bind (.when _ (.bind (.when _ ?_) fun _ => deleteHeld_honest _)) fun _ => ?_
    · exact .bind (storeCall_honest ..) fun _ => .pure _
    · exact .bind (.act ..) fun _ => .act ..
  unfold settle
  split
  · exact .forEach (fun item => .bind (.act ..) fun _ =>
      retryOrDropWithin_honest hfallback ..) group
  · exact .forEach (fun item => .bind (.act ..) fun _ => hs ..) group
  · refine .bind (.forEach (fun item => .bind (.act ..) fun _ => hs ..) _) fun _ => ?_
    exact .bind (.when _ (.act ..)) fun _ => .forEach (hrc _) _

theorem deliverWith_honest (fingerprint : String → String) (items : List Held) (expired : Bool) :
    (deliverWith fallback fingerprint items expired).Honest := by
  refine .when _ (.bind (.act ..) fun now => .forEach (fun group => ?_) _)
  refine .bind (dropRerouted_honest group) fun live => .when _ (.bind ?_ fun result => ?_)
  · exact .bind (.act ..) fun result => .ite (.act ..) (.pure _)
  · exact settle_honest hfallback ..

end Honest

theorem retryOrDrop_honest (cfg : Config) (item : Held) (harness : String) :
    (retryOrDrop cfg item harness).Honest := by
  refine retryOrDropWithin_honest (fun other => ?_) ..
  have hrou : ∀ n items expired, (deliverRounds cfg n items expired).Honest := by
    intro n
    induction n with
    | zero => exact fun _ _ => .pure _
    | succ n ih => exact fun items expired => deliverWith_honest (fun item => ih ..) ..
  exact hrou ..

theorem keepWorkingCmdHold_honest (cfg : Config) (item : Held) :
    (keepWorkingCmdHold cfg item).Honest := by
  refine .bind (.act ..) fun now => .ite (.pure _) (.bind (.actWhen ..) fun _ => ?_)
  exact .bind (.when _ (.bind (storeCall_honest ..) fun _ => .pure _)) fun _ => .pure _

theorem carryOut_honest (cfg : Config) (harness : String) (item : Held) (d : Disposition) :
    (d.carryOut cfg harness item).Honest := by
  cases d with
  | deliver | keep => exact .pure _
  | retry => exact retryOrDrop_honest cfg item harness
  | expire reason => exact .bind (.when _ (.act ..)) fun _ => expireHeldLease_honest ..

/-! ## The account is complete -/

/-- On the path the row's lane was looked up, and was not on another pane. -/
def LaneStays (path : List (Node × Answer)) (item : Held) : Prop :=
  ∃ x ∈ path, ∀ pane, Assoc.get x.1.lanePane item.lane = some pane → pane = item.pane

/-- The occupant is the one that the row waited on; for a row without a lease, it has the name of
the lane. -/
def SameOccupant (o : Occupant) (item : Held) : Prop :=
  if item.lease = "" then o.name = item.lane ∧ o.name ≠ "" else o.key = item.lease

/-- On the path herdr answered for the pane of one of these rows with such an occupant. -/
def OccupantStays (path : List (Node × Answer)) (items : List Held) (item : Held) : Prop :=
  ∃ x ∈ path, x.2.reply.err = false ∧ ∃ o, x.2.reply.occupant = some o ∧
    (o.pane = "" ∨ ∃ row ∈ items, o.pane = row.pane) ∧ SameOccupant o item

theorem LaneStays.append {path : List (Node × Answer)} {item : Held} (h : LaneStays path item)
    (path' : List (Node × Answer)) : LaneStays (path ++ path') item := by
  obtain ⟨x, hx, hl⟩ := h
  exact ⟨x, mem_append_left _ hx, hl⟩

theorem laneRerouted_returns (item : Held) :
    (laneRerouted item).Returns fun path r => r = false → LaneStays path item := by
  refine .actWhen fun s e _ hr => ⟨(s, e), mem_singleton_self _, fun pane hp => ?_⟩
  simpa [hp] using hr

/-- The rows that go on are those whose lane stays; no row is lost on the way. -/
theorem sortRerouted_returns (items : List Held) :
    (sortRerouted items).Returns fun path sorted =>
      (sorted.2 ++ sorted.1).Perm items ∧ ∀ item ∈ sorted.1, LaneStays path item := by
  have hlo : (sortRerouted items).Returns fun path sorted =>
      (sorted.2 ++ sorted.1 ++ []).Perm items ∧ ∀ item ∈ sorted.1, LaneStays path item := by
    refine .foldEach (fun (rest : List Held) (sorted : List Held × List Held) path =>
        (sorted.2 ++ sorted.1 ++ rest).Perm items ∧ ∀ item ∈ sorted.1, LaneStays path item) ?_
      ⟨.refl _, fun _ h => absurd h not_mem_nil⟩
    rintro item rest ⟨live, gone⟩ path ⟨hp, hl⟩
    refine .bind (laneRerouted_returns item) fun path' rerouted hs => ?_
    cases rerouted with
    | true =>
      refine .bind (expireHeldLease_honest ..) fun path'' _ _ => .pure ⟨?_, fun other ho => ?_⟩
      · refine List.Perm.trans ?_ hp
        simp only [append_assoc, singleton_append]
        exact perm_middle.symm.append_left gone
      · exact (hl other ho).append _
    | false =>
      refine .pure ⟨?_, fun other ho => ?_⟩
      · simpa [append_assoc] using hp
      · rcases mem_append.mp ho with ho | ho
        · exact (hl other ho).append _
        · obtain ⟨x, hx, hla⟩ := hs rfl
          rw [mem_singleton.mp ho]
          exact ⟨x, by simp [hx], hla⟩
  exact hlo.conseq fun path sorted h => by rwa [append_nil] at h

theorem occupant_of_not_stale {item : Held} {occupant : Option Occupant}
    (h : relayHeldLeaseStale item occupant = none) :
    ∃ o, occupant = some o ∧ SameOccupant o item := by
  cases occupant with
  | none => cases h
  | some o =>
    refine ⟨o, rfl, ?_⟩
    unfold relayHeldLeaseStale at h
    unfold SameOccupant
    dsimp only at h
    split at h
    · next hls =>
      rw [if_pos hls]
      split at h
      · next hn => exact ⟨hn.2, hn.1⟩
      · cases h
    · next hls =>
      rw [if_neg hls]
      split at h
      · cases h
      · next hk => exact not_not.mp hk

/-- A row is to be delivered only on the pane of the occupant that it waited on. -/
theorem judge_returns (cfg : Config) (p : PaneProbe) (expired : Bool) (item : Held) :
    (judge cfg p expired item).Returns fun _ d => d = .deliver →
      ∃ o, p.occupant = some o ∧ SameOccupant o item := by
  unfold judge
  split
  · exact .pure nofun
  split
  · exact .pure nofun
  next hs =>
  have hsame := occupant_of_not_stale hs
  have he : (relayLaneJobEnded p.harness).Honest := by
    exact .ite (.act ..) (.pure _)
  refine .bind he fun _ ended _ => ?_
  split
  · exact .pure nofun
  · split
    · split
      · exact .pure nofun
      · refine .bind (keepWorkingCmdHold_honest ..) fun _ kept _ => ?_
        cases kept <;> exact .pure nofun
    · exact .pure fun _ => hsame

theorem probe_occupant {pane : String} {r : AgentReply} {o : Occupant}
    (h : (probe pane r).occupant = some o) :
    r.err = false ∧ r.occupant = some o ∧ (o.pane = "" ∨ o.pane = pane) := by
  unfold probe at h
  split at h
  · cases h
  next he =>
  split at h
  · next found hfd =>
    split at h
    · next hp =>
      cases h
      exact ⟨Bool.not_eq_true _ ▸ he, hfd, hp⟩
    · cases h
  · cases h

/-- The rows are judged one after the other. -/
theorem judgeRows_returns (cfg : Config) (p : PaneProbe) (expired : Bool) (live : List Held) :
    (judgeRows cfg p expired live).Returns fun _ judged =>
      judged.map Prod.fst = live ∧ ∀ x ∈ judged, x.2 = .deliver →
        ∃ o, p.occupant = some o ∧ SameOccupant o x.1 := by
  have hl : (judgeRows cfg p expired live).Returns fun _ judged =>
      judged.map Prod.fst ++ [] = live ∧ ∀ x ∈ judged, x.2 = .deliver →
        ∃ o, p.occupant = some o ∧ SameOccupant o x.1 := by
    refine .foldEach (fun (rest : List Held) (judged : List (Held × Disposition)) _ =>
        judged.map Prod.fst ++ rest = live ∧ ∀ x ∈ judged, x.2 = .deliver →
          ∃ o, p.occupant = some o ∧ SameOccupant o x.1) ?_
      ⟨rfl, fun _ h => absurd h not_mem_nil⟩
    rintro item rest judged path ⟨hro, hjd⟩
    refine .bind (judge_returns cfg p expired item) fun _ d hd => ?_
    refine .bind (carryOut_honest ..) fun _ _ _ => .pure ⟨?_, fun x hx => ?_⟩
    · rw [map_append, append_assoc]
      exact hro
    · rcases mem_append.mp hx with hx | hx
      · exact hjd x hx
      · rw [mem_singleton.mp hx]
        exact hd
  exact hl.conseq fun _ judged h => by rwa [append_nil] at h

/-- **Every row is accounted for once**, and it is delivered only if its lane stays on the pane and
the pane's occupant is the one that it waited on. -/
theorem each_row_accounted (cfg : Config) (items : List Held) (expired : Bool) :
    (filterDeliverableHeld cfg items expired = do
      let r ← account cfg items expired
      return (delivered r.1, r.2)) ∧
    (account cfg items expired).Returns fun path r =>
      (r.1.map Prod.fst).Perm items ∧ ∀ x ∈ r.1, x.2 = .deliver →
        LaneStays path x.1 ∧ OccupantStays path items x.1 := by
  refine ⟨filterDeliverableHeld_eq items expired, ?_⟩
  have hgo : ∀ gone, (rerouted gone).map Prod.fst = gone := by
    intro gone
    rw [rerouted, map_map]
    exact map_id gone
  have hexp : ∀ gone, ∀ x ∈ rerouted gone, x.2 ≠ .deliver := by
    intro gone x hx
    obtain ⟨item, -, rfl⟩ := mem_map.mp hx
    exact nofun
  refine .bind (sortRerouted_returns items) fun path sorted hs => ?_
  obtain ⟨live, gone⟩ := sorted
  obtain ⟨hp, hl⟩ := hs
  cases live with
  | nil =>
    refine .pure ⟨?_, fun x hx hd => absurd hd (hexp gone x hx)⟩
    rw [hgo]
    rwa [append_nil] at hp
  | cons first rest =>
    have hask : (ask (·.reply)).Returns fun path' reply => ∃ x ∈ path', x.2.reply = reply :=
      .act fun s e => ⟨(s, e), mem_singleton_self _, rfl⟩
    refine .bind hask fun path' reply ⟨asked, ha, hrep⟩ => ?_
    refine .bind (judgeRows_returns ..) fun path'' judged ⟨hro, hjd⟩ => .pure ⟨?_, ?_⟩
    · rw [map_append, hgo, hro]
      exact hp
    intro x hx hd
    rcases mem_append.mp hx with hx | hx
    · exact absurd hd (hexp gone x hx)
    have hxli : x.1 ∈ first :: rest := hro ▸ mem_map_of_mem hx
    refine ⟨(hl x.1 hxli).append _, ?_⟩
    obtain ⟨o, ho, hsame⟩ := hjd x hx hd
    obtain ⟨he, hocc, hpa⟩ := probe_occupant ho
    rw [← hrep] at he hocc
    refine ⟨asked, by simp [ha], he, o, hocc, ?_, hsame⟩
    have hfst : first ∈ items :=
      hp.mem_iff.mp (mem_append_right _ mem_cons_self)
    exact hpa.imp id fun h => ⟨first, hfst, h⟩

/-- The lane of one row is on another pane. -/
def movedLane : Node :=
  { rows := Table.empty, delivered := Table.empty, lanePane := [("b", "p2")] }

/-- What herdr says about the pane. -/
def idleReply : Answer :=
  { reply := { status := some .idle, occupant := some { pane := "p1", session := "s1" } } }

-- of three rows one is typed, and the others expire for reasons of their own
example (k : List (Held × Disposition) × String → Prog Node Answer Label Proc) :
    let typed := rowOf 1 "a" (Occupant.key { session := "s1" })
    Path (account { mode := .apply, fingerprint := id }
        [typed, rowOf 2 "b" "", rowOf 3 "c" "earlier"] false k)
      (replicate 8 (movedLane, idleReply))
      (k ([(rowOf 2 "b" "", .expire "lane_rerouted"), (typed, .deliver),
        (rowOf 3 "c" "earlier", .expire "pane_occupant_changed")], "")) := by
  iterate 8 refine .step _ _ rfl ?_
  exact .refl _

end Panewire.Relay

import Panewire.Hub.Inject
import Panewire.Wire.Outbound

/-!
# From the hub's directive to the node's

What the hub encodes and what the node parses are two programs with their own lists of kinds, name
patterns and limits. This file compares them over every directive that the hub can queue.

* `parseHubOutbound_durable`, `parseHubOutbound_note` — what the parser does with each of the two
  shapes of a directive.
* `inject_carried_iff` — exactly which directives of accepted events arrive.
-/

namespace Panewire.Wire

open Go Data Hub RelayServer Option

variable {view : InboxView}

/-- The node accepts the directive and reads every field as the hub wrote it. -/
def Carried (d : HubRelayInjectEvent) : Prop :=
  parseHubOutbound d.encode = some
    { type := "relay.inject", jobID := d.jobID, pane := d.pane, text := d.text, kind := d.kind,
      lane := d.lane, eventID := d.eventID, deliverPolicy := d.deliver }

instance : DecidablePred Carried := fun _ => inferInstanceAs (Decidable (_ = _))

/-! ## The two shapes -/

theorem require_of_get {o : Object} {name s : String} (h : o.get name = some (.str s)) :
    o.require name Json.string = some s := by
  rw [Object.require, h]; rfl

theorem ofString_ne {s : String} (h : s ≠ "") : Json.ofString s = some (.str s) := if_neg h

section Shapes

variable {d : HubRelayInjectEvent}

theorem encode_get (d : HubRelayInjectEvent) (name : String) : d.encode.get name =
    (List.lookup name [("type", some (Json.str "relay.inject")),
      ("kind", d.kind.map fun k => .str k.wire),
      ("job_id", Json.ofString d.jobID), ("pane", Json.ofString d.pane),
      ("text", Json.ofString d.text), ("lane", Json.ofString d.lane),
      ("event_id", if d.eventID = 0 then none else some (.num d.eventID)),
      ("deliver", Json.ofString d.deliver)]).join :=
  Object.get_ofOptional _ _ name

theorem require_type : d.encode.require "type" Json.string = some "relay.inject" :=
  require_of_get (by simp [encode_get])

theorem require_jobID (h : d.jobID ≠ "") : d.encode.require "job_id" Json.string = some d.jobID :=
  require_of_get (by simp [encode_get, List.lookup_cons, ofString_ne h])

theorem require_pane (h : d.pane ≠ "") : d.encode.require "pane" Json.string = some d.pane :=
  require_of_get (by simp [encode_get, List.lookup_cons, ofString_ne h])

theorem require_text (h : d.text ≠ "") : d.encode.require "text" Json.string = some d.text :=
  require_of_get (by simp [encode_get, List.lookup_cons, ofString_ne h])

/-- A directive with a durable row has all eight fields, and the parser checks each. -/
theorem parseHubOutbound_durable {k : RelayKind} (hk : d.kind = some k) (hjob : d.jobID ≠ "")
    (hp : d.pane ≠ "") (ht : d.text ≠ "") (hl : d.lane ≠ "")
    (hid : 1 ≤ d.eventID ∧ d.eventID < 2 ^ 63) (hdlv : d.deliver ≠ "") :
    Carried d ↔ hubJobIDPattern.accepts d.jobID = true ∧
      d.pane.utf8ByteSize ≤ hubPaneIDLimit ∧ k ∈ relayInjectKinds ∧
      hubAgentLabelPattern.accepts d.lane = true ∧ validRelayDeliver d.deliver = true ∧
      validRelayFinalText d.text = true := by
  have hid0 : d.eventID ≠ 0 := by omega
  have hs : d.encode.size = 8 := by
    rw [HubRelayInjectEvent.encode, Object.size_ofOptional]
    simp [hk, ofString_ne hjob, ofString_ne hp, ofString_ne ht, ofString_ne hl,
      ofString_ne hdlv, hid0]
  have glane : d.encode.require "lane" Json.string = some d.lane :=
    require_of_get (by simp [encode_get, List.lookup_cons, ofString_ne hl])
  have gdeliver : d.encode.require "deliver" Json.string = some d.deliver :=
    require_of_get (by simp [encode_get, List.lookup_cons, ofString_ne hdlv])
  have gid : d.encode.require "event_id" Json.int64 = some (d.eventID : ℤ) := by
    have hget : d.encode.get "event_id" = some (.num d.eventID) := by
      simp [encode_get, List.lookup_cons, hid0]
    have hn := Json.int64_num (n := (d.eventID : ℤ)) (by omega) (by omega)
    rw [Object.require, hget, bind_some, hn]
  have gkind : requireKind d.encode relayInjectKinds =
      if k ∈ relayInjectKinds then some k else none :=
    requireKind_eq (by simp [encode_get, List.lookup_cons, hk])
  unfold Carried parseHubOutbound parseRelayInject parseDurableInject
  simp only [require_type, require_jobID hjob, require_pane hp, require_text ht, glane, gdeliver,
    gid, gkind, bind_eq_bind, bind_some, guard_bind, hs]
  have hid1 : (1 : ℤ) ≤ d.eventID := by omega
  by_cases hkind : k ∈ relayInjectKinds
  · simp [hkind, hp, hid1, hk, and_assoc]
  · simp [hkind]

/-- A note has four fields; only its text can be refused. -/
theorem parseHubOutbound_note (hk : d.kind = none) (hjob : hubJobIDPattern.accepts d.jobID = true)
    (hp : d.pane ≠ "" ∧ d.pane.utf8ByteSize ≤ hubPaneIDLimit) (ht : d.text ≠ "")
    (hl : d.lane = "") (hid : d.eventID = 0) (hdlv : d.deliver = "") :
    Carried d ↔ validHubNoteText d.text = true := by
  have hjob' := Pattern.ne_empty_of_accepts hjob
  have hn : Json.ofString "" = none := rfl
  have hs : d.encode.size = 4 := by
    rw [HubRelayInjectEvent.encode, Object.size_ofOptional]
    simp [hk, ofString_ne hjob', ofString_ne hp.1, ofString_ne ht, hl, hdlv, hid,
      hn]
  unfold Carried parseHubOutbound parseRelayInject
  simp only [require_type, require_jobID hjob', require_pane hp.1, require_text ht,
    bind_eq_bind, bind_some, guard_bind, hs]
  simp [hjob, hp, hk, hl, hid, hdlv]

end Shapes

/-! ## Directives of sound events -/

theorem mem_relayInjectKinds {kind : RelayKind} :
    kind ∈ relayInjectKinds ↔ kind ≠ .jobLost ∧ kind ≠ .jobRevoked := by
  cases kind <;> decide

section Directives

variable {h : RelayServer} {kind : RelayKind} {e : HubJobEventPayload} {route : ReportRelayRoute}

/-- A durable directive arrives unless its kind or its lane is one the node does not take. -/
theorem durable_carried_iff (he : e.Sound kind) (hr : route.ToPane)
    (hl : e.ownerLane ≠ "") (ht : kind = .laneEvent →
      e.text.utf8ByteSize ≤ laneEventTextLimitSink) (view : InboxView)
    (label : RelayServer.ReplayLabel) (id : RowID) :
    Carried { h.inboxRelayDirective view kind e route id with
        text := label.text ++ (h.inboxRelayDirective view kind e route id).text } ↔
      kind ≠ .jobLost ∧ kind ≠ .jobRevoked ∧ hubAgentLabelPattern.accepts e.ownerLane = true := by
  obtain ⟨hid₁, hid₂⟩ := id.2
  have hid0 : id.val ≠ 0 := by omega
  obtain ⟨hp, hv⟩ := deliverPolicyFor_valid he hr
  have hb := relayTextForKind_size he ht
  obtain ⟨hc, hs, hne⟩ := inboxText_bounds h view kind e (relayTextForKind_clean he)
    (relayTextForKind_ne_empty kind e) (by unfold relaySingleItemMax; omega)
  obtain ⟨hlab, hla⟩ := replayLabel_bounds label
  have hfin : validRelayFinalText
      (label.text ++ h.inboxText view kind e (relayTextForKind kind e)) = true := by
    refine validRelayFinalText_iff.mpr ⟨fun hn => ?_, ?_, all_append.mpr ⟨hlab, hc⟩⟩
    · exact hne (String.append_eq_empty_iff.mp hn).2
    · rw [String.utf8ByteSize_append]
      unfold relaySingleItemMax at hs ⊢
      omega
  have ht' : label.text ++ h.inboxText view kind e (relayTextForKind kind e) ≠ "" :=
    (validRelayFinalText_iff.mp hfin).1
  have heq : { h.inboxRelayDirective view kind e route id with
      text := label.text ++ (h.inboxRelayDirective view kind e route id).text } =
      ({ kind := some kind, jobID := e.jobID, pane := route.pane,
         text := label.text ++ h.inboxText view kind e (relayTextForKind kind e),
         lane := e.ownerLane, eventID := id, deliver := deliverPolicyFor kind e route } :
        HubRelayInjectEvent) := by
    simp [inboxRelayDirective, relayInjectDirective, hid0]
  rw [heq, parseHubOutbound_durable rfl (Pattern.ne_empty_of_accepts he.jobID) hr.pane_ne ht'
    hl ⟨hid₁, hid₂⟩ hp]
  simp only [he.jobID, hr.pane_le, hv, hfin, true_and, and_true, mem_relayInjectKinds,
    and_assoc]

/-- The same for a directive that is queued for the first time, which has no label. -/
theorem first_carried_iff (he : e.Sound kind) (hr : route.ToPane)
    (hl : e.ownerLane ≠ "") (ht : kind = .laneEvent →
      e.text.utf8ByteSize ≤ laneEventTextLimitSink) (view : InboxView) (id : RowID) :
    Carried (h.inboxRelayDirective view kind e route id) ↔
      kind ≠ .jobLost ∧ kind ≠ .jobRevoked ∧ hubAgentLabelPattern.accepts e.ownerLane = true := by
  have hn : ∀ d : HubRelayInjectEvent,
      { d with text := RelayServer.ReplayLabel.none.text ++ d.text } = d := by
    intro d
    have : RelayServer.ReplayLabel.none.text ++ d.text = d.text := String.empty_append
    rw [this]
  have key := durable_carried_iff (h := h) he hr hl ht view .none id
  rwa [hn] at key

/-- A note arrives unless it is a completion whose fields are too long together. -/
theorem note_carried_iff (he : e.Sound kind) (hr : route.ToPane) (hkind : kind ≠ .laneEvent)
    (hstore : h.handoffkeep = false) (view : InboxView) :
    Carried (h.inboxRelayDirective view kind e route 0) ↔
      (kind = .jobCompleted → completedBytes e ≤ 512) := by
  have htext : ∀ text, h.inboxText view kind e text = text := by
    intro text
    unfold inboxText
    split <;> simp [appendInboxSummary, hkind, hstore]
  have heq : h.inboxRelayDirective view kind e route 0 =
      { jobID := e.jobID, pane := route.pane, text := relayTextForKind kind e } := by
    simp [inboxRelayDirective, relayInjectDirective, htext, hkind]
  rw [heq, parseHubOutbound_note rfl he.jobID ⟨hr.pane_ne, hr.pane_le⟩
    (relayTextForKind_ne_empty kind e) rfl rfl rfl,
    validHubNoteText_of_clean (relayTextForKind_clean he)]
  by_cases hc : kind = .jobCompleted
  · subst hc
    rw [relayTextForKind, completedRelayText_size]
    exact ⟨fun hle _ => hle, fun hle => hle rfl⟩
  · exact ⟨fun _ hc' => absurd hc' hc, fun _ => relayTextForKind_note hc hkind⟩

end Directives

/-! ## Every directive of an accepted event -/

/-- Where the two programs agree: with a durable store on four of the six kinds and on lanes that
are agent labels; without one on every note of at most 512 bytes, which only a completion can
exceed. -/
def Agreed (h : RelayServer) (kind : RelayKind) (e : HubJobEventPayload) : Prop :=
  if h.handoffkeep then
    kind ≠ .jobLost ∧ kind ≠ .jobRevoked ∧ hubAgentLabelPattern.accepts e.ownerLane = true
  else kind = .jobCompleted → completedBytes e ≤ 512

section Queued

variable {sha : Sha} {h : RelayServer} {kind : RelayKind} {e : HubJobEventPayload}
  {d : HubRelayInjectEvent}

theorem relayJobEvent_carried (he : e.Sound kind) (hkind : kind ≠ .laneEvent)
    {reply : Option RelayServer.StoredRow}
    (hd : h.relayJobEvent view reply kind e = some d) : Carried d ↔ Agreed h kind e := by
  unfold relayJobEvent at hd
  split at hd
  · cases hd
  next hne =>
  rw [not_or] at hne
  split at hd
  · next route hrt =>
    obtain ⟨hp, -⟩ := h.resolveRelayRoute_sound hrt
    split at hd
    · next id hid =>
      cases hd
      unfold persistRelayEvent at hid
      split at hid
      · next hstore =>
        obtain ⟨row, -, hrow⟩ := map_eq_some_iff.mp hid
        obtain rfl : row.id.val = id := congrArg Prod.fst hrow
        rw [first_carried_iff he hp hne.1 (fun hl => absurd hl hkind), Agreed, if_pos hstore]
      · next hstore =>
        cases hid
        rw [note_carried_iff he hp hkind (by simpa using hstore), Agreed, if_neg hstore]
    · cases hd
  · cases hd

theorem relayLaneEvent_carried (he : e.Sound .laneEvent)
    {reply : Option RelayServer.StoredRow} {ingress : Bool}
    (hd : h.relayLaneEvent sha view reply ingress e = some d) :
    Carried d ↔ Agreed h .laneEvent e := by
  unfold relayLaneEvent at hd
  split at hd
  · cases hd
  next hne =>
  rw [not_or] at hne
  split at hd
  · cases hd
  next hsi =>
  split at hd
  · cases hd
  next hstore =>
  split at hd
  · next route row hrt =>
    obtain ⟨hp, -⟩ := h.resolveRelayRoute_sound hrt
    split at hd
    · cases hd
    cases hd
    obtain ⟨hs, hl⟩ := storedLaneEvent_sound sha row he
    have ht : (storedLaneEvent sha e row).text.utf8ByteSize ≤
        laneEventTextLimitSink := by
      unfold storedLaneEvent
      split
      · exact Nat.le_of_not_lt hsi
      · next text _ => exact text.2.2
    rw [first_carried_iff hs hp (by rw [hl]; exact hne.1) (fun _ => ht), hl,
      Agreed, if_pos (by simpa using hstore)]
  · cases hd

theorem replayRelayEvent_carried (he : e.Sound kind) (hstore : h.handoffkeep = true)
    (hgate : kind = .laneEvent → e.text.utf8ByteSize ≤ laneEventTextLimitSink)
    {label : RelayServer.ReplayLabel} {id : RowID}
    (hd : h.replayRelayEvent sha view label id kind e = some d) :
    Carried d ↔ Agreed h kind e := by
  have hs := relayEventFromRecord_sound sha he
  unfold replayRelayEvent at hd
  dsimp only at hd
  split at hd
  · cases hd
  next hne =>
  rw [not_or] at hne
  split at hd
  · next route hrt =>
    obtain ⟨hp, -⟩ := h.resolveRelayRoute_sound hrt
    cases hd
    rw [durable_carried_iff hs hp hne.1 hgate view label id, Agreed, if_pos hstore]
    rfl
  · cases hd

end Queued

/-- **Exactly the agreed directives arrive.** A directive that the hub queues for an accepted
event, at first or as a replay, is accepted by the node and read back field by field if and only if
the two programs agree on the event's kind, lane and length. -/
theorem inject_carried_iff (sha : Sha) (h : RelayServer) {s : Submission} {kind : RelayKind}
    {e : HubJobEventPayload} {d : HubRelayInjectEvent} (hacc : accept sha s = some (kind, e))
    (hq : h.Queues sha kind e d) : Carried d ↔ Agreed h kind e := by
  have he := accept_sound sha hacc
  cases hq with
  | job hkind hd => exact relayJobEvent_carried he hkind hd
  | lane hkind hd =>
    subst hkind
    exact relayLaneEvent_carried he hd
  | replay hstore hgate hd => exact replayRelayEvent_carried he hstore hgate hd

/-! ### A hub with two lanes -/

/-- `ops` is an agent label; `_ops` is a lane name only. -/
def sampleHub (durable : Bool) : RelayServer where
  lanes := [("ops", { machine := "m1", pane := "p1" }), ("_ops", { machine := "m1", pane := "p2" })]
  nodes := [("m1", { state := .connected, agent := some 1 })]
  handoffkeep := durable

def sampleReply : RelayServer.StoredRow := { id := ⟨7, by decide⟩ }

/-- A job event of a node with one text in all its display fields; a completion has no reason. -/
def samplePayload (lane reason label : String) : Object :=
  Object.ofOptional
    [("job_id", some (.str "j1")), ("epoch", some (.num 1)), ("owner_lane", some (.str lane)),
      ("reason", Json.ofString reason), ("label", Json.ofString label),
      ("host", Json.ofString label), ("report_path", Json.ofString label),
      ("report_last_line", Json.ofString label)] (by simp)

def sampleEvent (lane reason label : String) : HubJobEventPayload :=
  { jobID := "j1", epoch := 1, ownerLane := lane, reason, label, host := label,
    reportPath := label, reportLastLine := label }

/-- The directive that the sample hub queues for a job event. -/
def sampleDirective (durable : Bool) (kind : RelayKind) (lane reason label : String) :
    Option HubRelayInjectEvent :=
  (sampleHub durable).relayJobEvent {} (some sampleReply) kind (sampleEvent lane reason label)

/-- 28 characters of four bytes -/
def longLabel : String := String.ofList (List.replicate 28 '😀')

/-- A completion for an agent label arrives as it was sent. -/
theorem completion_is_carried : ∃ d, sampleDirective true .jobCompleted "ops" "" "w1" = some d ∧
    Carried d := by
  have hacc : accept .zero (.node .jobCompleted (samplePayload "ops" "" "w1")) =
      some (.jobCompleted, sampleEvent "ops" "" "w1") := by decide +kernel
  have hs : (sampleDirective true .jobCompleted "ops" "" "w1").isSome = true := by
    decide +kernel
  obtain ⟨d, hd⟩ := isSome_iff_exists.mp hs
  have hagr : Agreed (sampleHub true) .jobCompleted (sampleEvent "ops" "" "w1") := by
    refine (if_pos rfl).mpr ⟨by decide, by decide, by decide +kernel⟩
  exact ⟨d, hd, (inject_carried_iff .zero (sampleHub true) hacc (.job (by decide) hd)).mpr
    hagr⟩

/-- **A lost job, a lane that is no agent label, a long completion.** Each is accepted and queued,
and each is refused by the node. -/
theorem directives_are_refused :
    (∃ d, accept .zero (.node .jobLost (samplePayload "ops" "pane gone" "w1")) =
        some (.jobLost, sampleEvent "ops" "pane gone" "w1") ∧
      sampleDirective true .jobLost "ops" "pane gone" "w1" = some d ∧
      parseHubOutbound d.encode = none) ∧
    (∃ d, accept .zero (.node .jobCompleted (samplePayload "_ops" "" "w1")) =
        some (.jobCompleted, sampleEvent "_ops" "" "w1") ∧
      sampleDirective true .jobCompleted "_ops" "" "w1" = some d ∧
      parseHubOutbound d.encode = none) ∧
    (∃ d, accept .zero (.node .jobCompleted (samplePayload "ops" "" longLabel)) =
        some (.jobCompleted, sampleEvent "ops" "" longLabel) ∧
      sampleDirective false .jobCompleted "ops" "" longLabel = some d ∧
      parseHubOutbound d.encode = none) := by
  have refused : ∀ {o : Option HubRelayInjectEvent},
      (o.map fun d => parseHubOutbound d.encode) = some none →
      ∃ d, o = some d ∧ parseHubOutbound d.encode = none := fun h =>
    map_eq_some_iff.mp h
  obtain ⟨d₁, h₁⟩ := refused (o := sampleDirective true .jobLost "ops" "pane gone" "w1")
    (by decide +kernel)
  obtain ⟨d₂, h₂⟩ := refused (o := sampleDirective true .jobCompleted "_ops" "" "w1")
    (by decide +kernel)
  obtain ⟨d₃, h₃⟩ := refused (o := sampleDirective false .jobCompleted "ops" "" longLabel)
    (by decide +kernel)
  exact ⟨⟨d₁, by decide +kernel, h₁⟩, ⟨d₂, by decide +kernel, h₂⟩, ⟨d₃, by decide +kernel, h₃⟩⟩

end Panewire.Wire

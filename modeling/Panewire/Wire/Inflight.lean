import Panewire.Conc.Machine
import Panewire.Data.Assoc
import Panewire.Wire.Outbox

/-!
# Events on their way to the hub

The scan of the event files and `panewire emit` both offer events to the connection. The keys of the
events that are **in flight** are kept, so that neither takes what the other one has queued. The key
of a job event has its epoch, its report path and its reason. An event without a report has the path
of its own file there, which a scan spells with the root of the daemon and an emit with its own.

* `HubClient.selectRelayEvent` — is the event sent now?
* `one_copy` — no file is in flight twice, in every run in which its copies have one key;
* `two_copies` — an emit does not know the epoch that was assigned, nor how the daemon spells the
  root.
-/

namespace Panewire.Wire

open Conc Data List

/-! ## The outbox -/

def RelayOutboxKey.text (k : RelayOutboxKey) : String :=
  if k.kind = .laneEvent then "lane.event\x00" ++ k.lane ++ "\x00" ++ k.eventID
  else k.kind.wire ++ "\x00" ++ k.jobID ++ "\x00" ++ toString k.epoch ++ "\x00" ++ k.reportPath ++
    "\x00" ++ k.reason ++ "\x00" ++ k.eventID

def relayOutboxState (t : RelayOutbox) (key : RelayOutboxKey) : Option RelaySent :=
  t.rows.find? fun r => r.key.kind = key.kind &&
    if key.kind = .laneEvent then r.key.lane = key.lane && r.key.eventID = key.eventID
    else r.key.jobID = key.jobID && if key.eventID ≠ "" then r.key.eventID = key.eventID
      else r.key.epoch = key.epoch && r.key.reportPath = key.reportPath && r.key.reason = key.reason

/-- The key of the one row that waits for the event, unless its epoch is lower. -/
def unpersistedRelayOutboxKey (t : RelayOutbox) (key : RelayOutboxKey) : Option RelayOutboxKey :=
  match t.rows.filter fun r => key.kind ≠ .laneEvent && r.key.kind = key.kind &&
      r.key.jobID = key.jobID && r.persistedAt.isNone && r.suppressedAt.isNone &&
      if key.eventID ≠ "" then r.key.eventID = key.eventID
      else r.key.reportPath = key.reportPath && r.key.reason = key.reason with
  | [r] => if r.key.epoch < key.epoch then none else some { key with epoch := r.key.epoch }
  | _ => none

/-! ## The client -/

structure HubClient where
  assignedJobs : List (String × ℕ) := []
  completedReports : List String := []
  relayInflight : List String := []
  /-- the files whose events are queued or being written, and the keys they were taken with -/
  queue : List (String × RelayOutboxKey) := []

/-- What an emit says of the job event that it has written. -/
structure Pushed where
  /-- without a report, the path of the file under the root as the caller spelled it -/
  reportPath : String
  reason : String
  /-- the name of the file, if the daemon found it -/
  eventID : String

/-- A file that the node's migration does not suppress is offered. The outbox answers as it is at
any moment, if there is one and it can be read. -/
structure Offer where
  file : String
  /-- by an emit; a scan reads the file, and knows the assignments -/
  pushed : Option Pushed
  now : ℤ
  rows : Option RelayOutbox
  states : Option RelayOutbox

inductive Act where
  | assigned (jobID : String) (epoch : ℕ)
  | offer (o : Offer)
  | sent (e : String × RelayOutboxKey)
  | failed (e : String × RelayOutboxKey)

namespace HubClient

variable (files : String → HubScannedRelayEvent) (c : HubClient)

/-- The event that is offered; the file of a lane event says all that its emit does. -/
def offered (o : Offer) : HubScannedRelayEvent :=
  match o.pushed with
  | none => files o.file
  | some p =>
    if (files o.file).kind = .laneEvent then files o.file
    else { files o.file with reportPath := p.reportPath, reason := p.reason, eventID := p.eventID }

/-- The key with which the event is offered. -/
def relayKey (o : Offer) : RelayOutboxKey :=
  let job := relayEventWireForm (offered files o)
  let assigned := if o.pushed.isNone then (Assoc.get c.assignedJobs job.jobID).getD 0 else 0
  let key := { relayEventOutboxKeyFor job with epoch := max job.epoch assigned }
  (o.rows.bind (unpersistedRelayOutboxKey · key)).getD key

/-- The event is sent if the result is true. Times are in milliseconds. -/
def selectRelayEvent (key : RelayOutboxKey) (now : ℤ) (outbox : Option RelayOutbox) :
    HubClient × Bool :=
  let send := ({ c with relayInflight := key.text :: c.relayInflight }, true)
  if key.text ∈ c.relayInflight then (c, false)
  else
    match outbox with
    | none => if key.text ∈ c.completedReports then (c, false) else send
    | some t =>
      match relayOutboxState t key with
      | none => send
      | some r =>
        if r.persistedAt.isSome || r.suppressedAt.isSome then
          ({ c with completedReports := key.text :: c.completedReports }, false)
        else if r.sentAt.any fun at' => 0 < at' && now - at' < 60000 then (c, false)
        else send

def relayEventForSend (o : Offer) : HubClient :=
  let key := c.relayKey files o
  let selected := c.selectRelayEvent key o.now o.states
  if selected.2 then { selected.1 with queue := (o.file, key) :: c.queue } else selected.1

def releaseRelayEvents (e : String × RelayOutboxKey) : HubClient :=
  { c with
    relayInflight := c.relayInflight.filter (· ≠ e.2.text)
    queue := c.queue.erase e }

def commitRelaySent (e : String × RelayOutboxKey) : HubClient :=
  { c.releaseRelayEvents e with completedReports := e.2.text :: c.completedReports }

def step : Act → Option HubClient
  | .assigned jobID epoch => some { c with assignedJobs := Assoc.put c.assignedJobs jobID epoch }
  | .offer o => some (c.relayEventForSend files o)
  | .sent e => if c.queue.any (· = e) then some (c.commitRelaySent e) else none
  | .failed e => if c.queue.any (· = e) then some (c.releaseRelayEvents e) else none

/-- A job event is offered with the epoch, the report path, the reason and the name of its copies in
the queue. -/
def sameKey : Act → Bool
  | .offer o => (files o.file).kind = .laneEvent ||
    c.queue.all fun e => e.1 ≠ o.file || e.2 = c.relayKey files o
  | _ => true

/-! ## One copy -/

/-- The queued events are in flight, one for each text and each file. -/
structure Tracked : Prop where
  texts : (c.queue.map (·.2.text)).Nodup
  names : (c.queue.map (·.1)).Nodup
  inflight : ∀ e ∈ c.queue, e.2.text ∈ c.relayInflight
  lanes : ∀ e ∈ c.queue, (files e.1).kind = .laneEvent →
    e.2.text = (relayEventOutboxKeyFor (files e.1)).text

variable {files c}

/-- The key of a lane event has no epoch in its text. -/
theorem text_relayKey {o : Offer} (h : (files o.file).kind = .laneEvent) :
    (c.relayKey files o).text = (relayEventOutboxKeyFor (files o.file)).text := by
  have ho : relayEventWireForm (offered files o) = files o.file := by
    unfold offered
    split <;> simp [relayEventWireForm, h]
  unfold relayKey
  rw [ho]
  cases o.rows <;>
    simp [relayEventOutboxKeyFor, h, unpersistedRelayOutboxKey, RelayOutboxKey.text]

theorem Tracked.release (h : c.Tracked files) {e : String × RelayOutboxKey} (he : e ∈ c.queue) :
    (c.releaseRelayEvents e).Tracked files where
  texts := h.texts.sublist (erase_sublist.map _)
  names := h.names.sublist (erase_sublist.map _)
  inflight e' he' := by
    obtain ⟨hne, hm⟩ := ((Nodup.of_map _ h.texts).mem_erase_iff).mp he'
    refine mem_filter.mpr ⟨h.inflight e' hm, ?_⟩
    simpa using fun ht => hne (inj_on_of_nodup_map h.texts hm he ht)
  lanes e' he' := h.lanes e' (mem_of_mem_erase he')

/-- A selected event was not in flight and is now; otherwise nothing is taken. -/
theorem selectRelayEvent_cases (key : RelayOutboxKey) (now : ℤ) (outbox : Option RelayOutbox) :
    key.text ∉ c.relayInflight ∧ c.selectRelayEvent key now outbox =
        ({ c with relayInflight := key.text :: c.relayInflight }, true) ∨
      ∃ reports, c.selectRelayEvent key now outbox =
        ({ c with completedReports := reports }, false) := by
  unfold selectRelayEvent
  repeat' split
  all_goals first
    | exact .inl ⟨by assumption, rfl⟩
    | exact .inr ⟨_, rfl⟩

/-- **One offer**: a copy in the queue would have the text of the new one. -/
theorem Tracked.offer (h : c.Tracked files) {o : Offer} (ho : c.sameKey files (.offer o) = true) :
    (c.relayEventForSend files o).Tracked files := by
  unfold relayEventForSend
  dsimp only
  rcases selectRelayEvent_cases (c := c) (c.relayKey files o) o.now o.states
    with ⟨hf, hs⟩ | ⟨reports, hs⟩
  · rw [hs, if_pos rfl]
    have hnew : ∀ e ∈ c.queue, e.1 ≠ o.file := by
      rintro ⟨file, key⟩ he rfl
      simp only [sameKey, Bool.or_eq_true, decide_eq_true_eq, all_eq_true] at ho
      have ht : key.text = (c.relayKey files o).text := by
        rcases ho with hl | hk
        · exact (h.lanes _ he hl).trans (text_relayKey hl).symm
        · exact congrArg _ ((hk _ he).resolve_left (by simp))
      exact hf (ht ▸ h.inflight _ he)
    refine ⟨nodup_cons.mpr ⟨fun hm => ?_, h.texts⟩, nodup_cons.mpr ⟨fun hm => ?_, h.names⟩,
      forall_mem_cons.mpr ⟨mem_cons_self, fun e he => mem_cons_of_mem _ (h.inflight e he)⟩,
      forall_mem_cons.mpr ⟨text_relayKey, h.lanes⟩⟩
    · obtain ⟨e, he, ht : _ = (c.relayKey files o).text⟩ := mem_map.mp hm
      exact hf (ht ▸ h.inflight e he)
    · obtain ⟨e, he, hn⟩ := mem_map.mp hm
      exact hnew e he hn
  · rw [hs]
    exact ⟨h.texts, h.names, h.inflight, h.lanes⟩

/-- **One copy**: no file is queued or being written twice, in every run in which a job event is
offered with the key of the copy that is under way. -/
theorem one_copy {c₀ : HubClient} (h₀ : c₀.queue = [])
    (h : Reach (step files) (sameKey files) c₀ c) : (c.queue.map (·.1)).Nodup := by
  suffices c.Tracked files from this.names
  refine h.keeps ?_ fun s a t hs ho ht => ?_
  · constructor <;> simp [h₀]
  · cases a with
    | assigned jobID epoch =>
      cases ht
      exact ⟨hs.texts, hs.names, hs.inflight, hs.lanes⟩
    | offer o =>
      cases ht
      exact hs.offer ho
    | sent e =>
      obtain ⟨he, ht⟩ := Option.ite_none_right_eq_some.mp ht
      cases ht
      obtain ⟨ht, hn, hi, hl⟩ := hs.release (by simpa using he)
      exact ⟨ht, hn, hi, hl⟩
    | failed e =>
      obtain ⟨he, ht⟩ := Option.ite_none_right_eq_some.mp ht
      cases ht
      exact hs.release (by simpa using he)

end HubClient

/-! ## Two copies -/

/-- An escalation without a report, in a file with the epoch 4. -/
def sampleFile : HubScannedRelayEvent where
  kind := .jobEscalate
  jobID := "job-1"
  epoch := 4
  reportPath := "/inbox/jobs/job-1/events/00001-job.escalate.json"
  eventID := "00001-job.escalate.json"

/-- The file is offered while nothing of it has been sent. -/
def sampleOffer (pushed : Option Pushed) : Act :=
  .offer ⟨"job-1/00001", pushed, 0, some .empty, some .empty⟩

/-- An emit whose caller spells the root in some way. -/
def sampleEmit (root : String) : Act :=
  sampleOffer (some ⟨root ++ "/jobs/job-1/events/00001-job.escalate.json", "", sampleFile.eventID⟩)

/-- **An emit and a scan both take the event**: the job was assigned the epoch 5, or the root of the
emit is a link to that of the daemon. -/
theorem two_copies :
    (∃ c, Reach (HubClient.step fun _ => sampleFile) (fun _ _ => true) {} c ∧
      c.queue.map (fun e => (e.1, e.2.epoch)) = [("job-1/00001", 5), ("job-1/00001", 4)]) ∧
    ∃ c, Reach (HubClient.step fun _ => sampleFile) (fun _ _ => true) {} c ∧
      c.queue.map (fun e => (e.1, e.2.epoch)) = [("job-1/00001", 4), ("job-1/00001", 4)] :=
  ⟨Reach.exists_of_replay [.assigned "job-1" 5, sampleEmit "/inbox", sampleOffer none]
      (by decide +kernel),
    Reach.exists_of_replay [sampleEmit "/link", sampleOffer none] (by decide +kernel)⟩

/-- An emit with the root of the daemon and two scans take it once. -/
theorem one_copy_scanned : ∃ c, Reach (HubClient.step fun _ => sampleFile)
    (HubClient.sameKey fun _ => sampleFile) {} c ∧
    c.queue.map (fun e => (e.1, e.2.epoch)) = [("job-1/00001", 4)] ∧ (c.queue.map (·.1)).Nodup :=
  Reach.exists_of_replay_and [sampleEmit "/inbox", sampleOffer none, sampleOffer none]
    (by decide +kernel) fun _ h _ => HubClient.one_copy rfl h

end Panewire.Wire

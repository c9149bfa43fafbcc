import Mathlib.Data.List.Infix
import Panewire.ControlPlane.Transfer

/-!
# Each transfer takes effect once

The history of the control block is bounded, so an old request is forgotten. What keeps it from
taking effect again is the **epoch**: a request names the epoch that it expects, and no five steps
in a row can be made without a commit, which raises it. By the time that a request has left the
history its epoch is gone.

* `run` — requests and other changes of the lanes, one after the other;
* `transfers_once` — a request that took effect never does so again, until the epoch has wrapped
  around: while it is in the history its reply is repeated, or another body is refused, and
  afterwards it is refused;
* `forgotten_id_reused` — a forgotten **id** under another body is a new request.
-/

namespace Panewire.ControlPlane

open Lanes List

variable {e : Effect}

/-! ## Runs -/

/-- The file, and what took effect on it, newest first. -/
structure RunState where
  file : Option LanesFile
  log : List Effect

inductive Event where
  | request (env : TransferEnv) (request : ControlPlaneTransferRequest)
  /-- any other write of the lanes file: it changes rows and nothing else -/
  | lanes (rows : List (String × LaneRow))

def RunState.step (s : RunState) : Event → RunState
  | .request env request =>
    match validateControlPlaneTransferRequest request with
    | .error _ => s
    | .ok t =>
      let result := transferControlPlane env s.file t
      ⟨result.file, result.effect.toList ++ s.log⟩
  | .lanes rows =>
    match parseForWrite s.file with
    | none => s
    | some snapshot => ⟨some (encodeLanesFile ⟨rows, snapshot.control⟩), s.log⟩

def run (file : Option LanesFile) (events : List Event) : RunState :=
  events.foldl RunState.step ⟨file, []⟩

theorem length_history_of_parse {file : Option LanesFile} {snapshot : LanesFileSnapshot}
    (h : parseForWrite file = some snapshot) :
    (controlOf file).history.length ≤ controlPlaneHistoryMaxEntries := by
  unfold parseForWrite at h
  split at h
  · exact Nat.zero_le _
  · next file =>
    split at h
    · next hv =>
      have hc : validateLanesFileControl file.control = true := by simpa using hv.1
      simp only [validateLanesFileControl, Bool.and_eq_true, decide_eq_true_eq] at hc
      exact hc.1.2
    · cases h

namespace Effect

/-- What makes two requests the same: the id and the body. -/
def key (e : Effect) : String × Fingerprint := (e.record.requestID, e.record.fingerprint)

def isCommit (e : Effect) : Bool := e.record.fingerprint.action = .commit

end Effect

/-- How often the epoch was raised. -/
def commits (log : List Effect) : ℕ := log.countP Effect.isCommit

theorem commits_nil : commits [] = 0 := rfl

theorem commits_cons (e : Effect) (log : List Effect) :
    commits (e :: log) = commits log + if e.isCommit then 1 else 0 :=
  countP_cons

theorem commits_append (log log' : List Effect) :
    commits (log ++ log') = commits log + commits log' :=
  countP_append

/-! ## Counting

The rank of a state is the number of steps that can be made from it before one must be a commit. -/

def rank : ControlPlaneState → ℕ
  | .active => 2
  | .prepared => 0
  | .draining => 1
  | .handoverReady => 0
  | .transferredUnacked => 3

theorem rank_le (s : ControlPlaneState) : rank s ≤ 3 := by cases s <;> decide

theorem rank_step {s s' : ControlPlaneState} {a : ControlPlaneAction}
    (h : controlPlaneTransitions s a = some s') :
    1 + rank s' ≤ rank s + if a = .commit then 4 else 0 := by
  revert h
  cases s <;> cases a <;> simp only [controlPlaneTransitions] <;> rintro ⟨⟩ <;> decide

/-- An epoch that was raised less than 2^64 times is another one. -/
theorem raised_ne {epoch : UInt64} {n : ℕ} (hp : 0 < n) (hlt : n < 2 ^ 64) :
    epoch + UInt64.ofNat n ≠ epoch := by
  intro h
  have hn := congrArg UInt64.toNat h
  rw [UInt64.toNat_add, UInt64.toNat_ofNat'] at hn
  omega

/-! ## The invariant -/

/-- What a run keeps: how far the control block has moved since each effect, and which effects its
history knows. -/
structure Sound (control : LanesFileControl) (log : List Effect) : Prop where
  epoch : ∀ newer e older, log = newer ++ e :: older →
    control.epoch = e.record.fingerprint.expectedEpoch + UInt64.ofNat (commits (newer ++ [e]))
  steps : ∀ newer e older, log = newer ++ e :: older →
    newer.length + rank (controlPlaneCurrentState control) ≤ 4 * commits newer + 3
  history : (log.take controlPlaneHistoryMaxEntries).map (·.record) <+: control.history.reverse
  ids : ((log.take controlPlaneHistoryMaxEntries).map (·.record.requestID)).Nodup
  response : ∀ e ∈ log, e.response = controlPlaneResponseFromHistory e.record

theorem Sound.nil (control : LanesFileControl) : Sound control [] where
  epoch newer _ _ h := by simp at h
  steps newer _ _ h := by simp at h
  history := nil_prefix
  ids := nodup_nil
  response _ he := absurd he not_mem_nil

variable {control : LanesFileControl} {log : List Effect}

theorem Sound.mem_history (hs : Sound control log)
    (he : e ∈ log.take controlPlaneHistoryMaxEntries) : e.record ∈ control.history :=
  mem_reverse.mp (hs.history.subset (mem_map_of_mem he))

/-- Writing the file loses a control block only if nothing took effect on it. -/
theorem Sound.encode (hs : Sound control log) (rows : List (String × LaneRow)) :
    Sound (encodeLanesFile ⟨rows, control⟩).control log := by
  cases log with
  | nil => exact .nil _
  | cons e log =>
    have hmem : e.record ∈ control.history :=
      hs.mem_history (by simp [controlPlaneHistoryMaxEntries])
    have hl : control.history.length ≠ 0 := (length_pos_of_mem hmem).ne'
    have hp : control.shouldPersist = true := by simp [LanesFileControl.shouldPersist, hl]
    have hc : (encodeLanesFile ⟨rows, control⟩).control = control := if_pos hp
    rw [hc]
    exact hs

/-! ### The history after a step -/

theorem reverse_cutHistory (history : List ControlPlaneHistoryRecord)
    (record : ControlPlaneHistoryRecord) :
    (cutHistory (history ++ [record])).reverse =
      (record :: history.reverse).take controlPlaneHistoryMaxEntries := by
  rw [cutHistory, reverse_drop, reverse_append, reverse_singleton,
    singleton_append, take_eq_take_iff]
  simp only [length_append, length_cons, length_nil, length_reverse]
  omega

theorem Sound.history_cons (hs : Sound control log) (e : Effect) :
    ((e :: log).take controlPlaneHistoryMaxEntries).map (·.record) <+:
      (e.record :: control.history.reverse).take controlPlaneHistoryMaxEntries := by
  have hsev : (log.take 7).map (·.record) <+: control.history.reverse.take 7 := by
    have hp := hs.history.take 7
    rwa [← map_take, take_take] at hp
  simpa [controlPlaneHistoryMaxEntries] using hsev

theorem Sound.ids_cons (hs : Sound control log)
    (hn : ∀ record ∈ control.history, record.requestID ≠ e.record.requestID) :
    (((e :: log).take controlPlaneHistoryMaxEntries).map (·.record.requestID)).Nodup := by
  have hsub : (log.take 7).Sublist (log.take controlPlaneHistoryMaxEntries) :=
    (take_prefix_take_left (by decide)).sublist
  have hc : (e :: log).take controlPlaneHistoryMaxEntries = e :: log.take 7 := rfl
  rw [hc, map_cons, nodup_cons]
  refine ⟨fun hmem => ?_, hs.ids.sublist (hsub.map _)⟩
  obtain ⟨e', he', hid⟩ := mem_map.mp hmem
  exact hn _ (hs.mem_history (hsub.subset he')) hid

/-! ## A request that takes effect -/

section Effects

variable {env : TransferEnv} {snapshot : LanesFileSnapshot} {t : Transfer} {effect : Effect}
  {file : Option LanesFile}

theorem TakesEffect.key (h : TakesEffect env snapshot t effect file) :
    effect.key = (t.requestID, t.fingerprint) := by
  obtain ⟨next, checks, -, rfl, -⟩ := h.allowed
  rfl

/-- **One step** keeps the invariant. -/
theorem Sound.takesEffect (hs : Sound snapshot.control log)
    (h : TakesEffect env snapshot t effect file) : Sound (controlOf file) (effect :: log) := by
  obtain ⟨next, checks, hn, heff, hfi⟩ := h.allowed
  have hid : effect.record.requestID = t.requestID := by rw [heff]; rfl
  have ha : effect.record.fingerprint.action = t.action := by rw [heff]; rfl
  have hexp : effect.record.fingerprint.expectedEpoch = snapshot.control.epoch := by
    rw [← h.epoch, heff]
    rfl
  -- The history is not empty, so the control block is written as it is.
  have hctl : controlOf file = (snapshotAfter env snapshot t next effect.record).control := by
    rw [hfi]
    refine if_pos ?_
    have hlen : (cutHistory (snapshot.control.history ++ [effect.record])).length ≠ 0 := by
      rw [← length_reverse, reverse_cutHistory]
      simp [controlPlaneHistoryMaxEntries]
    simp [LanesFileControl.shouldPersist, snapshotAfter, hlen]
  have hep : (controlOf file).epoch =
      snapshot.control.epoch + UInt64.ofNat (if effect.isCommit then 1 else 0) := by
    rw [hctl, Effect.isCommit, ha]
    by_cases hc : t.action = .commit <;> simp [snapshotAfter, advance, hc]
  have hra : 1 + rank (controlPlaneCurrentState (controlOf file)) ≤
      rank (controlPlaneCurrentState snapshot.control) + if effect.isCommit then 4 else 0 := by
    have hste := rank_step hn
    have hst : controlPlaneCurrentState (controlOf file) = next := by rw [hctl]; rfl
    simpa [hst, Effect.isCommit, ha] using hste
  refine ⟨fun newer e older hl => ?_, fun newer e older hl => ?_, ?_, ?_, fun e he => ?_⟩
  · rcases cons_eq_append_iff.mp hl with ⟨rfl, hco⟩ | ⟨newer', rfl, hl'⟩
    · obtain ⟨rfl, -⟩ := List.cons.inj hco
      rw [hep, ← hexp, nil_append]
      simp [commits]
    · rw [hep, hs.epoch newer' e older hl', cons_append, commits_cons, UInt64.ofNat_add,
        UInt64.add_assoc]
  · rcases cons_eq_append_iff.mp hl with ⟨rfl, -⟩ | ⟨newer', rfl, hl'⟩
    · have := rank_le (controlPlaneCurrentState (controlOf file))
      simp only [length_nil]
      omega
    · have hold := hs.steps newer' e older hl'
      rw [commits_cons]
      split at hra <;> simp_all <;> omega
  · rw [hctl]
    change _ <+: (cutHistory (snapshot.control.history ++ [effect.record])).reverse
    rw [reverse_cutHistory]
    exact hs.history_cons effect
  · exact hs.ids_cons fun record hrc => hid ▸ h.unknown record hrc
  · rcases mem_cons.mp he with rfl | he
    · rw [heff]
      rfl
    · exact hs.response e he

/-- **A request does not take effect again**: while its id is known it is not even tried, and when
eight later steps have been made its epoch is over. -/
theorem Sound.not_again (hs : Sound snapshot.control log) (hsh : commits log < 2 ^ 64)
    (h : TakesEffect env snapshot t effect file) : ∀ e ∈ log, e.key ≠ effect.key := by
  intro e he hk
  rw [h.key] at hk
  obtain ⟨hid, hb⟩ := Prod.mk.inj hk
  obtain ⟨newer, older, rfl⟩ := append_of_mem he
  by_cases hw : newer.length < controlPlaneHistoryMaxEntries
  · have hmem : e ∈ (newer ++ e :: older).take controlPlaneHistoryMaxEntries := by
      rw [take_append]
      obtain ⟨n, hn⟩ : ∃ n, controlPlaneHistoryMaxEntries - newer.length = n + 1 :=
        ⟨controlPlaneHistoryMaxEntries - newer.length - 1, by omega⟩
      rw [hn]
      simp
    exact h.unknown _ (hs.mem_history hmem) hid
  · have hep := hs.epoch newer e older rfl
    have hst := hs.steps newer e older rfl
    have hexp : e.record.fingerprint.expectedEpoch = snapshot.control.epoch := by
      rw [hb, ← h.epoch]
      rfl
    have hle : commits (newer ++ [e]) ≤ commits (newer ++ e :: older) := by
      simp only [commits_append, commits_cons, commits_nil]
      omega
    have hp : 0 < commits (newer ++ [e]) := by
      rw [commits_append]
      unfold controlPlaneHistoryMaxEntries at hw
      omega
    rw [hexp] at hep
    exact raised_ne hp (hle.trans_lt hsh) hep.symm

end Effects

/-! ## Every run -/

/-- The invariant of a run: each request is in the log once. -/
structure Good (s : RunState) : Prop where
  sound : Sound (controlOf s.file) s.log
  once : commits s.log < 2 ^ 64 → (s.log.map Effect.key).Nodup

theorem Good.transfer {s : RunState} (hs : Good s) (env : TransferEnv) (t : Transfer) :
    Good ⟨(transferControlPlane env s.file t).file,
      (transferControlPlane env s.file t).effect.toList ++ s.log⟩ := by
  rcases transferControlPlane_cases env s.file t with ⟨hfi, heff⟩ |
    ⟨snapshot, effect, hre, heff, htk⟩
  · rw [hfi, heff]
    exact hs
  rw [heff]
  have hsou : Sound snapshot.control s.log := control_of_parse hre ▸ hs.sound
  refine ⟨hsou.takesEffect htk, fun hsh => ?_⟩
  change commits (effect :: s.log) < 2 ^ 64 at hsh
  rw [commits_cons] at hsh
  have hl : commits s.log < 2 ^ 64 := by omega
  change ((effect :: s.log).map Effect.key).Nodup
  rw [map_cons, nodup_cons]
  refine ⟨fun hmem => ?_, hs.once hl⟩
  obtain ⟨e, he, hk⟩ := mem_map.mp hmem
  exact hsou.not_again hl htk e he hk

theorem Good.step {s : RunState} (hs : Good s) (event : Event) : Good (s.step event) := by
  cases event with
  | request env request =>
    unfold RunState.step
    dsimp only
    split
    · exact hs
    · exact hs.transfer env _
  | lanes rows =>
    unfold RunState.step
    dsimp only
    split
    · exact hs
    · next snapshot hre =>
      have hsou : Sound snapshot.control s.log := control_of_parse hre ▸ hs.sound
      exact ⟨hsou.encode rows, hs.once⟩

theorem Good.run (file : Option LanesFile) (events : List Event) : Good (run file events) :=
  List.foldlRecOn events RunState.step (motive := Good) ⟨.nil _, fun _ => nodup_nil⟩
    fun _ hs event _ => hs.step event

/-! ## Repeats -/

/-- When all eight records of the history are of this run, there are no others. -/
theorem Sound.mem_of_full (hs : Sound control log) (hl : control.history.length ≤
    controlPlaneHistoryMaxEntries) (hfu : controlPlaneHistoryMaxEntries ≤ log.length)
    {record : ControlPlaneHistoryRecord} (hrc : record ∈ control.history) :
    ∃ e ∈ log.take controlPlaneHistoryMaxEntries, e.record = record := by
  have heq := hs.history.eq_of_length_le (by
    rw [length_reverse, length_map, length_take, min_eq_left hfu]
    exact hl)
  rw [← mem_reverse, ← heq] at hrc
  exact mem_map.mp hrc

/-- The history finds the record of each effect that it still holds. -/
theorem Sound.find (hs : Sound control log) (he : e ∈ log.take controlPlaneHistoryMaxEntries) :
    findControlPlaneHistoryRecord control.history e.record.requestID = some e.record := by
  obtain ⟨rest, hre⟩ := hs.history
  obtain ⟨newer, older, hspl⟩ := append_of_mem he
  have hi := hs.ids
  rw [hspl, map_append, nodup_append] at hi
  have hn : ∀ x ∈ newer, x.record.requestID ≠ e.record.requestID := fun x hx =>
    hi.2.2 _ (mem_map_of_mem hx) _ mem_cons_self
  unfold findControlPlaneHistoryRecord
  rw [← hre, hspl, map_append, append_assoc, List.find?_append,
    List.find?_eq_none.mpr (by simpa using hn)]
  simp

/-- What a repeated request meets. -/
structure RepeatsSafely (s : RunState) : Prop where
  /-- no request is in the log twice -/
  once : (s.log.map Effect.key).Nodup
  /-- so no id is, unless it came with two bodies -/
  ids : (∀ a ∈ s.log, ∀ b ∈ s.log, a.record.requestID = b.record.requestID → a.key = b.key) →
    (s.log.map (·.record.requestID)).Nodup
  /-- while its transition is in the history, an id gets the reply that was stored, or a conflict if
  the body is another -/
  known : ∀ e ∈ s.log, e.record ∈ (controlOf s.file).history → ∀ (env : TransferEnv) (t : Transfer),
    env.configured = true → env.storage ≠ .unlockFailed → (parseForWrite s.file).isSome →
    t.requestID = e.record.requestID →
    transferControlPlane env s.file t =
      ⟨if e.record.fingerprint = t.fingerprint then .ok e.response
        else .error (.conflict "request_id_conflict"), s.file, none⟩
  /-- afterwards the request is refused and changes nothing -/
  forgotten : ∀ e ∈ s.log, e.record ∉ (controlOf s.file).history →
    ∀ (env : TransferEnv) (t : Transfer), e.key = (t.requestID, t.fingerprint) →
    (∃ err, (transferControlPlane env s.file t).reply = .error err) ∧
      (transferControlPlane env s.file t).file = s.file ∧
      (transferControlPlane env s.file t).effect = none

theorem Good.known {s : RunState} (hs : Good s) (he : e ∈ s.log)
    (hh : e.record ∈ (controlOf s.file).history) {env : TransferEnv} {t : Transfer}
    (hc : env.configured = true) (hl : env.storage ≠ .unlockFailed)
    (hre : (parseForWrite s.file).isSome) (hid : t.requestID = e.record.requestID) :
    transferControlPlane env s.file t =
      ⟨if e.record.fingerprint = t.fingerprint then .ok e.response
        else .error (.conflict "request_id_conflict"), s.file, none⟩ := by
  obtain ⟨snapshot, hsn⟩ := Option.isSome_iff_exists.mp hre
  -- An effect with this record among the last eight.
  obtain ⟨e', he', hrc⟩ : ∃ e' ∈ s.log.take controlPlaneHistoryMaxEntries,
      e'.record = e.record := by
    by_cases hfu : controlPlaneHistoryMaxEntries ≤ s.log.length
    · exact hs.sound.mem_of_full (length_history_of_parse hsn) hfu hh
    · rw [take_of_length_le (not_le.mp hfu).le]
      exact ⟨e, he, rfl⟩
  have hfi := hs.sound.find he'
  rw [hrc, ← hid, ← control_of_parse hsn] at hfi
  rw [transferControlPlane_known hc hsn hfi hl, hs.sound.response e he]

theorem Good.forgotten {s : RunState} (hs : Good s) (hsh : commits s.log < 2 ^ 64)
    (he : e ∈ s.log) (hgo : e.record ∉ (controlOf s.file).history) {env : TransferEnv}
    {t : Transfer} (hk : e.key = (t.requestID, t.fingerprint)) :
    (∃ err, (transferControlPlane env s.file t).reply = .error err) ∧
      (transferControlPlane env s.file t).file = s.file ∧
      (transferControlPlane env s.file t).effect = none := by
  rcases transferControlPlane_cases env s.file t with ⟨hfi, heff⟩ |
    ⟨snapshot, effect, hre, -, htk⟩
  · refine ⟨transferControlPlane_refused heff fun snapshot hsn record hrc hb => ?_,
      hfi, heff⟩
    -- The record that was found would be another effect of the same request.
    have hmem : record ∈ (controlOf s.file).history := by
      rw [← control_of_parse hsn]
      exact mem_reverse.mp (mem_of_find?_eq_some hrc)
    have hrid : record.requestID = t.requestID := by simpa using List.find?_some hrc
    by_cases hfu : controlPlaneHistoryMaxEntries ≤ s.log.length
    · obtain ⟨e', he', rfl⟩ := hs.sound.mem_of_full (length_history_of_parse hsn) hfu hmem
      have hsame : e'.key = e.key := by
        rw [hk, Effect.key, hrid, hb]
      obtain rfl := inj_on_of_nodup_map (hs.once hsh) (mem_of_mem_take he') he hsame
      exact hgo hmem
    · refine hgo (hs.sound.mem_history ?_)
      rwa [take_of_length_le (not_le.mp hfu).le]
  · have hsou : Sound snapshot.control s.log := control_of_parse hre ▸ hs.sound
    exact absurd (hk.trans htk.key.symm) (hsou.not_again hsh htk e he)

/-- **The epoch counts the commits** in every run. -/
theorem transfers_sound (file : Option LanesFile) (events : List Event) :
    Sound (controlOf (run file events).file) (run file events).log :=
  (Good.run file events).sound

/-- **Every request takes effect at most once**, whatever the file was at first and whatever
requests and lane writes there are, until the epoch has wrapped around: while its transition is in
the history a repeat gets the stored reply, and once it is forgotten a repeat is refused. -/
theorem transfers_once (file : Option LanesFile) (events : List Event)
    (hshort : commits (run file events).log < 2 ^ 64) : RepeatsSafely (run file events) where
  once := (Good.run file events).once hshort
  ids hsame := pairwise_map.mpr <| (pairwise_map.mp ((Good.run file events).once hshort)).imp_of_mem
    fun ha hb hne hid => hne (hsame _ ha _ hb hid)
  known _ he hh _ _ hc hl hre hid :=
    (Good.run file events).known he hh hc hl hre hid
  forgotten _ he hgo _ _ hk := (Good.run file events).forgotten hshort he hgo hk

/-! ## A forgotten id under another body -/

def sampleFile : LanesFile where
  lanes := [("alpha", { machine := "machine-a", pane := "w1:p1" }),
    ("beta", { machine := "machine-a", pane := "w1:p2" })]

/-- A request that leaves the two lanes where they are. -/
def sampleRequest (requestID : String) (action : ControlPlaneAction) (epoch : UInt64) : Event :=
  .request {}
    { action := some action, requestID, expectedEpoch := some epoch,
      handoverDocKey := some "doc", inflightOperations := some 0,
      lanes := [⟨"alpha", some ⟨"machine-a", "w1:p1"⟩, some ⟨"machine-a", "w1:p1"⟩⟩,
        ⟨"beta", some ⟨"machine-a", "w1:p2"⟩, some ⟨"machine-a", "w1:p2"⟩⟩]
      readiness := ⟨true, true, true, true, true⟩ }

def sampleID (digit : Char) : String :=
  String.ofList (digit :: "0000000-0000-4000-8000-000000000000".toList)

/-- Three handovers. -/
def threeHandovers : List Event :=
  [sampleRequest (sampleID '1') .prepare 0, sampleRequest (sampleID '2') .commit 0,
    sampleRequest (sampleID '3') .ack 1, sampleRequest (sampleID '4') .prepare 1,
    sampleRequest (sampleID '5') .commit 1, sampleRequest (sampleID '6') .ack 2,
    sampleRequest (sampleID '7') .prepare 2, sampleRequest (sampleID '8') .commit 2,
    sampleRequest (sampleID '9') .ack 3]

/-- **A forgotten id can be used again**: the id of the first request takes effect a second time,
when it comes with the epoch of the day. -/
theorem forgotten_id_reused :
    ((run (some sampleFile) (threeHandovers ++ [sampleRequest (sampleID '1') .drain 3])).log.countP
      fun e => e.record.requestID = sampleID '1') = 2 := by
  decide +kernel

/-- The first request itself, once more after nine steps, is not among the effects. -/
theorem transfers_once_repeated :
    (run (some sampleFile) (threeHandovers ++ [sampleRequest (sampleID '1') .prepare 0])).log.length
      = 9 ∧
    RepeatsSafely
      (run (some sampleFile) (threeHandovers ++ [sampleRequest (sampleID '1') .prepare 0])) := by
  have hl : (run (some sampleFile)
      (threeHandovers ++ [sampleRequest (sampleID '1') .prepare 0])).log.length = 9 := by
    decide +kernel
  refine ⟨hl, transfers_once _ _ ?_⟩
  have hle := countP_le_length (p := Effect.isCommit) (l := (run (some sampleFile)
    (threeHandovers ++ [sampleRequest (sampleID '1') .prepare 0])).log)
  exact hle.trans_lt (by decide)

end Panewire.ControlPlane

import Panewire.NodeSpawn.Journal

/-!
# A spawn request runs at most once

A goroutine that claimed a request **owns** it until it has stored the result. The journal hands
out ownership once for each request id, because an entry is never removed, and a completed entry
never changes.

* `Sound` — owners are alone with an entry that is still executing, the engine was started only
  for requests with an entry, and a delivery that found a completed entry answers from it;
* `Orphaned` — the entry of a request is there and nobody owns it, as after a restart.
-/

namespace Panewire.NodeSpawn

open Conc Data List Table

variable {result : Result} {journal : Journal} {entry : Entry} {i : ℕ}
open Spawn (Fault)

/-! ## The journal -/

/-- **What a journal keeps**: every completed entry, and an entry for every id. -/
structure Journal.Grows (journal journal' : Journal) : Prop where
  completed : ∀ entry ∈ journal, entry.status ≠ .executing → entry ∈ journal'
  ids : ∀ entry ∈ journal, ∃ entry' ∈ journal', entry'.requestID = entry.requestID

theorem Journal.Grows.refl (journal : Journal) : journal.Grows journal :=
  ⟨fun _ h _ => h, fun entry h => ⟨entry, h, rfl⟩⟩

theorem Journal.Grows.of_subset {journal' : Journal}
    (h : ∀ entry ∈ journal, entry ∈ journal') : journal.Grows journal' :=
  ⟨fun entry he _ => h entry he, fun entry he => ⟨entry, h entry he, rfl⟩⟩

theorem Journal.mem_insertNew (journal : Journal) (new : Entry) :
    ∀ entry ∈ journal, entry ∈ (journal.insertNew new).1 := by
  intro entry he
  rcases journal.insertNew_cases new with ⟨heq, -⟩ | ⟨-, -, hmem⟩
  · rwa [heq]
  · exact (hmem entry).mpr (.inl he)

/-- An entry that a completion does not touch. -/
theorem Journal.mem_complete
    (h : entry ∈ journal) (hne : entry.requestID ≠ result.requestID ∨ entry.status ≠ .executing) :
    entry ∈ journal.complete result := by
  rw [Journal.complete, mem_updateWhere]
  refine .inr ⟨h, ?_⟩
  rcases hne with hne | hne <;> simp [hne]

theorem Journal.grows_complete (journal : Journal) (result : Result) :
    journal.Grows (journal.complete result) := by
  refine ⟨fun entry he hne => mem_complete he (.inr hne), fun entry he => ?_⟩
  by_cases hne : entry.requestID ≠ result.requestID ∨ entry.status ≠ .executing
  · exact ⟨entry, mem_complete he hne, rfl⟩
  · refine ⟨{ entry with status := .completed result }, ?_, rfl⟩
    rw [Journal.complete, mem_updateWhere]
    refine .inl ⟨entry, he, ?_, rfl⟩
    simpa using hne

/-- **What a claim does**: the journal keeps what it has, and a claim that succeeds is of an id
without an entry, which then has one that is executing. -/
theorem Journal.claim_spec (journal : Journal) (hash : String) (message : Message) (fault : Fault) :
    (∀ entry ∈ journal, entry ∈ (journal.claim hash message fault).1) ∧
    ((journal.claim hash message fault).2 = .claimed →
      (∀ entry ∈ journal, entry.requestID ≠ message.requestID) ∧
      ⟨message.requestID, hash, .executing⟩ ∈ (journal.claim hash message fault).1) := by
  have keep := journal.mem_insertNew ⟨message.requestID, hash, .executing⟩
  cases fault with
  | refused => exact ⟨fun _ he => he, fun h => nomatch h⟩
  | lost => exact ⟨keep, fun h => nomatch h⟩
  | none =>
    rcases journal.insertNew_cases ⟨message.requestID, hash, .executing⟩ with
      ⟨heq, -⟩ | ⟨ht, hfree, hmem⟩
    · have hold : (journal.claim hash message .none).1 = journal ∧
          (journal.claim hash message .none).2 ≠ .claimed := by
        simp only [Journal.claim, heq, Bool.false_eq_true, if_false]
        cases journal.find message.requestID with
        | none => exact ⟨rfl, nofun⟩
        | some entry =>
          by_cases hfp : entry.fingerprint ≠ hash
          · simp [hfp]
          · cases hst : entry.status <;> simp [hfp, hst]
      rw [hold.1]
      exact ⟨fun _ he => he, fun h => absurd h hold.2⟩
    · simp only [Journal.claim, ht, if_true]
      exact ⟨keep, fun _ => ⟨hfree, (hmem _).mpr (.inr rfl)⟩⟩

/-- What a delivery answers for a completed entry. -/
def Message.answer (hash : Message → String) (message : Message) (entry : Entry)
    (result : Result) : Result :=
  if entry.fingerprint = hash message then result else message.uncertain "journal_conflict"

/-- A completed entry is answered from the journal, unless a statement fails. -/
theorem Journal.claim_of_completed {hash : Message → String}
    {message : Message} (he : entry ∈ journal)
    (hid : entry.requestID = message.requestID) (hst : entry.status = .completed result)
    (fault : Fault) :
    (journal.claim (hash message) message fault).2 =
      if fault ≠ .none then .failed
      else if entry.fingerprint = hash message then .cached result else .conflict := by
  have hfi : journal.find message.requestID = some entry := hid ▸ find_of_mem he
  cases fault with
  | refused | lost => rfl
  | none =>
    have hold : (journal.insertNew ⟨message.requestID, hash message, .executing⟩).2 = false := by
      rcases journal.insertNew_cases ⟨message.requestID, hash message, .executing⟩ with
        ⟨heq, -⟩ | ⟨-, hfree, -⟩
      · rw [heq]
      · exact absurd hid (hfree entry he)
    simp only [Journal.claim, hold, Bool.false_eq_true, if_false, hfi, hst]
    by_cases hfp : entry.fingerprint = hash message <;> simp [hfp]

/-! ## Roles -/

/-- What a goroutine is doing. -/
inductive Role where
  /-- it has not arrived yet, or has nothing more to say -/
  | idle
  | arrived (message : Message) (recorded : Option Entry)
  /-- it claimed the request; `ran` when it has started the engine -/
  | owner (message : Message) (recorded : Option Entry) (ran : Bool)
  | answering (message : Message) (recorded : Option Entry) (journalFailed : Bool)
      (result : Result)

/-- The goroutine owns the request. -/
def Role.Owns (id : String) : Role → Prop
  | .owner message _ _ => message.requestID = id
  | _ => False

/-- The role after the claim. -/
def Claim.role (message : Message) (recorded : Option Entry) (active : Bool) : Claim → Role
  | .failed => .answering message recorded true (message.uncertain "journal_conflict")
  | .conflict => .answering message recorded false (message.uncertain "journal_conflict")
  | .cached result => .answering message recorded false result
  | .executing =>
    .answering message recorded false
      (message.uncertain (if active then "reconciling" else "unknown"))
  | .claimed => .owner message recorded false

/-- **What a goroutine does in each role.** -/
inductive Rule (hash : Message → String) : Node → Reading → Role → Node → Role → Prop where
  | quiet {n n' : Node} {e : Reading} {g : Role} (journal : n'.journal = n.journal)
      (runs : n'.engineRuns = n.engineRuns) (replies : n'.replies = n.replies) :
      Rule hash n e g n' g
  | arrive {n : Node} {e : Reading} (message : Message) :
      Rule hash n e .idle n (.arrived message (n.journal.find message.requestID))
  | unavailable {n : Node} {e : Reading} {message : Message} {recorded : Option Entry} :
      Rule hash n e (.arrived message recorded) n
        (.answering message recorded true (message.uncertain "journal_unavailable"))
  | claim {n : Node} {e : Reading} {message : Message} {recorded : Option Entry}
      (marks : List String) (active : Bool) :
      Rule hash n e (.arrived message recorded)
        { n with
          journal := (n.journal.claim (hash message) message e.fault).1
          spawnActive := marks }
        ((n.journal.claim (hash message) message e.fault).2.role message recorded active)
  | start {n : Node} {e : Reading} {message : Message} {recorded : Option Entry} :
      Rule hash n e (.owner message recorded false)
        { n with engineRuns := n.engineRuns ++ [message.requestID] }
        (.owner message recorded true)
  | complete {n : Node} {e : Reading} {message : Message} {recorded : Option Entry} {ran : Bool}
      {result : Result} {g : Role} (id : result.requestID = message.requestID)
      (next : g = .idle ∨ g = .answering message recorded false result) :
      Rule hash n e (.owner message recorded ran)
        { n with journal := n.journal.complete result } g
  | lose {n : Node} {e : Reading} {message : Message} {recorded : Option Entry} {ran : Bool} :
      Rule hash n e (.owner message recorded ran) n .idle
  | send {n : Node} {e : Reading} {message : Message} {recorded : Option Entry} {failed : Bool}
      {result : Result} :
      Rule hash n e (.answering message recorded failed result)
        { n with
          replies := n.replies ++
            [⟨message, recorded, failed, spawnResultWire result message.operatorAuthorized⟩] }
        .idle

/-- The protocol of the node. -/
def protocol (hash : Message → String) : Protocol Node Reading Unit Proc Role where
  entry _ := .idle
  spawns _ := False
  rule _ := Rule hash

/-! ## The programs keep to the protocol -/

section Programs

variable {hash : Message → String} {g : Role} {message : Message} {recorded : Option Entry}

/-- A step that neither the journal nor the history sees. -/
theorem quiet_same {α : Type} {en : Node → Reading → Bool} {f : Node → Reading → Node × α}
    (hf : ∀ n e, (f n e).1.journal = n.journal ∧ (f n e).1.engineRuns = n.engineRuns ∧
      (f n e).1.replies = n.replies) : (protocol hash).Same g (Cmd.actWhen () en f) :=
  .actWhen fun n e _ => ⟨g, .quiet (hf n e).1 (hf n e).2.1 (hf n e).2.2, rfl⟩

theorem startEngine_starts :
    (protocol hash).Triple (.owner message recorded false) (startEngine message.requestID)
      fun _ g => g = .owner message recorded true :=
  .act fun _ _ => ⟨_, .start, rfl⟩

theorem sendSpawnResult_sends (failed : Bool) (result : Result) :
    (protocol hash).Triple (.answering message recorded failed result)
      (sendSpawnResult message recorded failed result) fun _ g => g = .idle :=
  .act fun _ _ => ⟨_, .send, rfl⟩

/-- The engine is started by the owner of the request, who then reports on that request. -/
theorem runHubSpawn_owned :
    (protocol hash).Triple (.owner message recorded false) (runHubSpawn message) fun result g =>
      result.requestID = message.requestID ∧ ∃ ran, g = .owner message recorded ran := by
  refine .bind_same (quiet_same fun _ _ => ⟨rfl, rfl, rfl⟩) fun refusal => ?_
  cases refusal with
  | some refusal => exact .pure ⟨rfl, false, rfl⟩
  | none =>
    refine .bind startEngine_starts ?_
    rintro _ _ rfl
    refine .bind_same (quiet_same fun _ _ => ⟨rfl, rfl, rfl⟩) fun execution => ?_
    exact .pure ⟨rfl, true, rfl⟩

theorem runClaimedHubSpawn_owned :
    (protocol hash).Triple (.owner message recorded false) (runClaimedHubSpawn message)
      fun result g =>
        result.requestID = message.requestID ∧ ∃ ran, g = .owner message recorded ran := by
  refine .bind_same (quiet_same fun _ _ => ⟨rfl, rfl, rfl⟩) fun time => ?_
  split
  · exact .pure ⟨rfl, false, rfl⟩
  · exact runHubSpawn_owned

theorem complete_completes {ran : Bool} (hid : result.requestID = message.requestID) :
    (protocol hash).Triple (.owner message recorded ran) (complete result) fun stored g =>
      (stored = true → g = .answering message recorded false result) ∧
      (stored = false → g = .idle) := by
  refine .act fun n e => ?_
  cases he : e.fault with
  | none => exact ⟨_, .complete hid (.inr rfl), fun _ => rfl, nofun⟩
  | lost => exact ⟨_, .complete hid (.inl rfl), nofun, fun _ => rfl⟩
  | refused => exact ⟨_, .lose, nofun, fun _ => rfl⟩

theorem executeClaimed_owned :
    (protocol hash).Triple (.owner message recorded false) (executeClaimed message recorded)
      fun _ _ => True := by
  refine .bind_same (quiet_same fun _ _ => ⟨rfl, rfl, rfl⟩) fun _ => ?_
  refine .bind runClaimedHubSpawn_owned ?_
  rintro result _ ⟨hid, ran, rfl⟩
  refine .bind_same (quiet_same fun _ _ => ⟨rfl, rfl, rfl⟩) fun _ => ?_
  refine .bind (complete_completes hid) ?_
  rintro stored g ⟨hy, hno⟩
  cases stored with
  | true =>
    obtain rfl := hy rfl
    refine .bind (sendSpawnResult_sends false result) ?_
    rintro _ _ rfl
    exact .of_same (quiet_same fun _ _ => ⟨rfl, rfl, rfl⟩) fun _ => trivial
  | false => exact .of_same (quiet_same fun _ _ => ⟨rfl, rfl, rfl⟩) fun _ => trivial

theorem answerClaim_answers (claim : Claim) (active : Bool) :
    (protocol hash).Triple (claim.role message recorded active)
      (answerClaim message recorded claim active) fun _ _ => True := by
  cases claim with
  | claimed => exact executeClaimed_owned
  | failed | conflict | cached | executing =>
    exact (sendSpawnResult_sends _ _).conseq fun _ _ _ => trivial

theorem acquireSpawnJournal_acquires :
    (protocol hash).Triple (.arrived message recorded) acquireSpawnJournal fun ok g =>
      (ok = true → g = .arrived message recorded) ∧
      (ok = false →
        g = .answering message recorded true (message.uncertain "journal_unavailable")) := by
  refine .act fun n e => ?_
  split
  · exact ⟨_, .unavailable, nofun, fun _ => rfl⟩
  · exact ⟨_, .quiet rfl rfl rfl, fun _ => rfl, nofun⟩

theorem claimHubSpawn_claims :
    (protocol hash).Triple (.arrived message recorded) (claimHubSpawn hash message) fun r g =>
      g = r.1.role message recorded r.2 :=
  .act fun _ _ => ⟨_, .claim _ _, rfl⟩

theorem handleHubSpawn_follows (message : Message) :
    (protocol hash).Follows (handleHubSpawn hash message).prog .idle := by
  have ha : (protocol hash).Triple .idle (arrive message) fun recorded g =>
      g = .arrived message recorded := .act fun _ _ => ⟨_, .arrive message, rfl⟩
  refine Protocol.Triple.follows (.bind ha ?_) (Q := fun _ _ => True)
  rintro recorded _ rfl
  refine .bind acquireSpawnJournal_acquires ?_
  rintro ok g ⟨hy, hno⟩
  cases ok with
  | false =>
    obtain rfl := hno rfl
    exact (sendSpawnResult_sends _ _).conseq fun _ _ _ => trivial
  | true =>
    obtain rfl := hy rfl
    refine .bind claimHubSpawn_claims ?_
    rintro ⟨claim, active⟩ _ rfl
    exact .bind (answerClaim_answers claim active) fun _ _ _ =>
      .of_same (quiet_same fun _ _ => ⟨rfl, rfl, rfl⟩) fun _ => trivial

end Programs

/-! ## Soundness -/

/-- What a role says about a request that was completed when its message arrived. -/
def Role.Faithful (hash : Message → String) (journal : Journal) : Role → Prop
  | .idle => True
  | .arrived message recorded => ∀ entry result, recorded = some entry →
    entry.status = .completed result → entry ∈ journal ∧ entry.requestID = message.requestID
  | .owner _ recorded _ => ∀ entry result, recorded = some entry →
    entry.status ≠ .completed result
  | .answering message recorded failed answer => ∀ entry result, recorded = some entry →
    entry.status = .completed result → failed = false → answer = message.answer hash entry result

/-- **The reply is the recorded result**, or a refusal of another payload. -/
def Reply.Exact (hash : Message → String) (reply : Reply) : Prop :=
  ∀ entry result, reply.recorded = some entry → entry.status = .completed result →
    reply.journalFailed = false →
    reply.wire = spawnResultWire (reply.message.answer hash entry result)
      reply.message.operatorAuthorized

/-- The invariant of the node. -/
structure Sound (hash : Message → String) (n : Node) (gs : List Role) : Prop where
  once : ∀ id, n.engineRuns.count id ≤ 1
  entered : ∀ id ∈ n.engineRuns, ∃ entry ∈ n.journal, entry.requestID = id
  alone : ∀ id, AtMostOne (Role.Owns id) gs
  owned : ∀ message recorded ran, .owner message recorded ran ∈ gs →
    (∃ entry ∈ n.journal, entry.requestID = message.requestID) ∧
    (ran = false → message.requestID ∉ n.engineRuns)
  faithful : ∀ g ∈ gs, g.Faithful hash n.journal
  exact : ∀ reply ∈ n.replies, reply.Exact hash

variable {hash : Message → String} {n n' : Node} {gs : List Role} {message : Message}
  {recorded : Option Entry} {s t : Sys Node Reading Unit Proc}

theorem Role.Faithful.grows {journal' : Journal} {g : Role}
    (hg : g.Faithful hash journal) (hj : journal.Grows journal') : g.Faithful hash journal' := by
  cases g with
  | arrived message recorded =>
    intro entry result hrec hst
    obtain ⟨he, hid⟩ := hg entry result hrec hst
    exact ⟨hj.completed entry he (by simp [hst]), hid⟩
  | idle | owner | answering => exact hg

/-- The claim keeps a delivery faithful: a completed entry is found, and answered from. -/
theorem Claim.faithful (hg : (Role.arrived message recorded).Faithful hash journal)
    (fault : Fault) (active : Bool) (journal' : Journal) :
    ((journal.claim (hash message) message fault).2.role message recorded active).Faithful hash
      journal' := by
  by_cases hdo : ∃ entry result, recorded = some entry ∧ entry.status = .completed result
  · obtain ⟨entry, result, rfl, hst⟩ := hdo
    obtain ⟨he, hid⟩ := hg entry result rfl hst
    rw [Journal.claim_of_completed he hid hst]
    have same : ∀ entry' result', some entry = some entry' → entry'.status = .completed result' →
        entry' = entry ∧ result' = result := by
      intro entry' result' hrec hst'
      obtain rfl := Option.some.inj hrec
      rw [hst, Progress.completed.injEq] at hst'
      exact ⟨rfl, hst'.symm⟩
    split
    · intro _ _ _ _ hfai
      cases hfai
    split
    · next hfp =>
      intro entry' result' hrec hst' _
      obtain ⟨rfl, rfl⟩ := same entry' result' hrec hst'
      rw [Message.answer, if_pos hfp]
    · next hfp =>
      intro entry' result' hrec hst' _
      obtain ⟨rfl, rfl⟩ := same entry' result' hrec hst'
      rw [Message.answer, if_neg hfp]
  · have none : ∀ entry result, recorded = some entry → entry.status ≠ .completed result :=
      fun entry result hrec hst => hdo ⟨entry, result, hrec, hst⟩
    cases (journal.claim (hash message) message fault).2 with
    | claimed => exact none
    | failed | conflict | cached | executing =>
      exact fun entry result hrec hst => absurd hst (none entry result hrec)

/-- Only a claim that succeeds makes an owner. -/
theorem Claim.claimed_of_owns {claim : Claim} {active : Bool} {id : String}
    (h : (claim.role message recorded active).Owns id) :
    claim = .claimed ∧ message.requestID = id := by
  cases claim with
  | claimed => exact ⟨rfl, h⟩
  | failed | conflict | cached | executing => cases h

namespace Sound

/-- **Frame**: a step that starts no engine, sends no reply and makes no owner keeps the invariant
if the journal only grows and the new role is faithful. -/
theorem frame (h : Sound hash n gs) {g' : Role} (i : ℕ) (hj : n.journal.Grows n'.journal)
    (hru : n'.engineRuns = n.engineRuns)
    (hrep : n'.replies = n.replies) (hg' : g'.Faithful hash n'.journal)
    (ho : ∀ id, ¬g'.Owns id) : Sound hash n' (gs.set i g') := by
  have ids : ∀ id, (∃ entry ∈ n.journal, entry.requestID = id) →
      ∃ entry ∈ n'.journal, entry.requestID = id := by
    rintro id ⟨entry, he, rfl⟩
    exact hj.ids entry he
  refine ⟨?_, ?_, ?_, ?_, ?_, ?_⟩
  · rw [hru]
    exact h.once
  · rw [hru]
    exact fun id hid => ids id (h.entered id hid)
  · exact fun id => (h.alone id).set_of_not i (ho id)
  · intro message recorded ran hmem
    rcases mem_set_cases hmem with rfl | hmem
    · exact absurd rfl (ho message.requestID)
    · obtain ⟨hent, hran⟩ := h.owned message recorded ran hmem
      exact ⟨ids _ hent, by rwa [hru]⟩
  · exact forall_mem_set (fun r hr => (h.faithful r hr).grows hj) hg'
  · rw [hrep]
    exact h.exact

/-- A step that the invariant does not see. -/
theorem quiet (h : Sound hash n gs) (hj : n'.journal = n.journal)
    (hru : n'.engineRuns = n.engineRuns) (hrep : n'.replies = n.replies) : Sound hash n' gs := by
  cases n'
  cases hj
  cases hru
  cases hrep
  exact ⟨h.once, h.entered, h.alone, h.owned, h.faithful, h.exact⟩

/-- **A claim** makes the first owner of an id that no entry had. -/
theorem claim (h : Sound hash n gs) (hi : gs[i]? = some (.arrived message recorded))
    (fault : Fault) (marks : List String) (active : Bool) :
    Sound hash
      { n with
        journal := (n.journal.claim (hash message) message fault).1
        spawnActive := marks }
      (gs.set i ((n.journal.claim (hash message) message fault).2.role message recorded
        active)) := by
  obtain ⟨hk, hcd⟩ := n.journal.claim_spec (hash message) message fault
  have hj : n.journal.Grows (n.journal.claim (hash message) message fault).1 := .of_subset hk
  have hfai := Claim.faithful (h.faithful _ (mem_of_getElem? hi)) fault active
    (n.journal.claim (hash message) message fault).1
  by_cases hown : (n.journal.claim (hash message) message fault).2 = .claimed
  · obtain ⟨hfree, hn⟩ := hcd hown
    rw [hown] at hfai ⊢
    have hnoR : message.requestID ∉ n.engineRuns := by
      intro hrun
      obtain ⟨entry, he, hid⟩ := h.entered _ hrun
      exact hfree entry he hid
    -- an owner of the id would have an entry for it
    have hnoO : ∀ g ∈ gs, ¬g.Owns message.requestID := by
      intro g hg ho
      cases g with
      | owner message' recorded' ran =>
        obtain ⟨⟨entry, he, hid⟩, -⟩ := h.owned message' recorded' ran hg
        exact hfree entry he (hid.trans ho)
      | idle | arrived | answering => exact ho
    refine ⟨h.once, ?_, ?_, ?_, ?_, h.exact⟩
    · intro id hid
      obtain ⟨entry, he, rfl⟩ := h.entered id hid
      exact hj.ids entry he
    · intro id
      by_cases hid : message.requestID = id
      · exact hid ▸ AtMostOne.set_first hnoO i _
      · exact (h.alone id).set_of_not i hid
    · intro message' recorded' ran hmem
      rcases mem_set_cases hmem with heq | hmem
      · cases heq
        exact ⟨⟨_, hn, rfl⟩, fun _ => hnoR⟩
      · obtain ⟨⟨entry, he, hid⟩, hran⟩ := h.owned message' recorded' ran hmem
        exact ⟨⟨entry, hk entry he, hid⟩, hran⟩
    · exact forall_mem_set (fun g hg => (h.faithful g hg).grows hj) hfai
  · refine h.frame i hj rfl rfl hfai ?_
    exact fun id ho => hown (Claim.claimed_of_owns ho).1

/-- **The engine** is started by the only owner, for the first time. -/
theorem start (h : Sound hash n gs) (hi : gs[i]? = some (.owner message recorded false)) :
    Sound hash { n with engineRuns := n.engineRuns ++ [message.requestID] }
      (gs.set i (.owner message recorded true)) := by
  have hmem := mem_of_getElem? hi
  obtain ⟨he, hran⟩ := h.owned message recorded false hmem
  have hn := hran rfl
  refine ⟨?_, ?_, ?_, ?_, ?_, h.exact⟩
  · intro id
    rw [count_append]
    by_cases hid : message.requestID = id
    · rw [← hid, count_eq_zero_of_not_mem hn]
      simp
    · simpa [hid] using h.once id
  · exact forall_mem_concat h.entered he
  · exact fun id => (h.alone id).set_of_imp hi fun ho => ho
  · intro message' recorded' ran hm
    obtain ⟨j, hj⟩ := List.getElem?_of_mem hm
    rcases getElem?_set_cases hj with ⟨-, heq⟩ | ⟨hne, hj⟩
    · cases heq
      exact ⟨he, nofun⟩
    · obtain ⟨he', hran'⟩ := h.owned message' recorded' ran (mem_of_getElem? hj)
      refine ⟨he', fun hr hrun => ?_⟩
      rcases mem_append.mp hrun with hrun | hrun
      · exact hran' hr hrun
      · exact hne (h.alone message.requestID j i _ _ hj hi (mem_singleton.mp hrun) rfl)
  · exact forall_mem_set h.faithful
      (h.faithful _ hmem : Role.Faithful hash n.journal (.owner message recorded false))

/-- **A step** keeps the node sound. -/
theorem step (h : Sound hash n gs) {e : Reading} {g g' : Role} (hi : gs[i]? = some g)
    (hr : Rule hash n e g n' g') : Sound hash n' (gs.set i g') := by
  have hg := h.faithful g (mem_of_getElem? hi)
  cases hr with
  | quiet hj hru hrep =>
    rw [set_eq_self hi]
    exact h.quiet hj hru hrep
  | arrive message =>
    refine h.frame i (.refl _) rfl rfl ?_ fun _ ho => ho
    intro entry result hrec _
    exact mem_of_find hrec
  | unavailable =>
    refine h.frame i (.refl _) rfl rfl ?_ fun _ ho => ho
    intro _ _ _ _ hfai
    cases hfai
  | claim marks active => exact h.claim hi e.fault marks active
  | start => exact h.start hi
  | complete hid next =>
    refine h.frame i (n.journal.grows_complete _) rfl rfl ?_ ?_
    · rcases next with rfl | rfl
      · trivial
      · exact fun entry result hrec hst => absurd hst (hg entry result hrec)
    · rcases next with rfl | rfl <;> exact fun _ ho => ho
  | lose => exact h.frame i (.refl _) rfl rfl trivial fun _ ho => ho
  | @send _ message recorded failed result =>
    have hidl : Sound hash n (gs.set i .idle) := h.frame i (.refl _) rfl rfl trivial fun _ ho => ho
    refine ⟨hidl.once, hidl.entered, hidl.alone, hidl.owned, hidl.faithful, ?_⟩
    refine forall_mem_concat h.exact fun entry stored hrec hst hfai => ?_
    rw [hg entry stored hrec hst hfai]

end Sound

/-- Every move keeps the node sound. -/
theorem sound_keeps (hash : Message → String) :
    (protocol hash).Keeps (program hash) limits (Sound hash) where
  follows r _ := by
    cases r with
    | deliver message => exact handleHubSpawn_follows message
  enter n gs r _ h := by
    refine ⟨h.once, h.entered, fun id => (h.alone id).concat_of_not fun hg => hg, ?_, ?_, h.exact⟩
    · intro message recorded ran hmem
      rcases mem_append.mp hmem with hmem | hmem
      · exact h.owned message recorded ran hmem
      · cases mem_singleton.mp hmem
    · exact forall_mem_concat h.faithful trivial
  rule _ _ _ _ _ _ _ _ hi _ hr h := h.step hi hr
  restart n _ gs hn h := by
    cases hn
    exact ⟨h.once, h.entered, fun _ => AtMostOne.nil,
      fun _ _ _ hmem => absurd hmem not_mem_nil,
      fun _ hmem => absurd hmem not_mem_nil, h.exact⟩

/-- **Every reachable node is sound.** -/
theorem Reachable.sound (hs : Reachable hash s) : (protocol hash).Holds (Sound hash) s := by
  refine (sound_keeps hash).run hs ⟨[], .nil, ?_⟩
  have none {α : Type} {p : α → Prop} : ∀ a ∈ ([] : List α), p a :=
    fun _ hmem => absurd hmem not_mem_nil
  exact ⟨fun _ => by simp, none, fun _ => AtMostOne.nil,
    fun _ _ _ hmem => absurd hmem not_mem_nil, none, none⟩

/-! ## Requests without an owner -/

/-- The request has an entry and no owner, and its engine was started `runs` times. -/
structure Orphaned (id : String) (runs : ℕ) (n : Node) (gs : List Role) : Prop where
  entered : ∃ entry ∈ n.journal, entry.requestID = id
  unowned : ∀ g ∈ gs, ¬g.Owns id
  runs : n.engineRuns.count id = runs

/-- **Nobody becomes the owner of a request that has an entry**, and so nobody starts it. -/
theorem orphaned_keeps (hash : Message → String) (id : String) (runs : ℕ) :
    (protocol hash).Keeps (program hash) limits (Orphaned id runs) where
  follows r _ := by
    cases r with
    | deliver message => exact handleHubSpawn_follows message
  enter n gs r _ h := by
    exact ⟨h.entered, forall_mem_concat h.unowned fun ho => ho, h.runs⟩
  rule _ n e n' gs i g g' hi _ hr h := by
    have hg := h.unowned g (mem_of_getElem? hi)
    have set : ¬g'.Owns id → ∀ a ∈ gs.set i g', ¬a.Owns id := forall_mem_set h.unowned
    obtain ⟨entry, he, hid⟩ := h.entered
    cases hr with
    | quiet hj hru _ =>
      refine ⟨?_, set hg, ?_⟩
      · rw [hj]
        exact h.entered
      · rw [hru]
        exact h.runs
    | arrive | unavailable | lose | send => exact ⟨h.entered, set fun ho => ho, h.runs⟩
    | @claim _ message recorded marks active =>
      obtain ⟨hk, hcd⟩ := n.journal.claim_spec (hash message) message e.fault
      refine ⟨⟨entry, hk entry he, hid⟩, set fun ho => ?_, h.runs⟩
      obtain ⟨hs, hmid⟩ := Claim.claimed_of_owns ho
      exact (hcd hs).1 entry he (hid.trans hmid.symm)
    | @start _ message recorded =>
      refine ⟨h.entered, set hg, ?_⟩
      have hne : message.requestID ≠ id := hg
      simpa [count_append, count_singleton, hne] using h.runs
    | complete _ next =>
      obtain ⟨entry', he', hid'⟩ := (n.journal.grows_complete _).ids entry he
      refine ⟨⟨entry', he', hid'.trans hid⟩, set ?_, h.runs⟩
      rcases next with rfl | rfl <;> exact fun ho => ho
  restart n _ gs hn h := by
    cases hn
    exact ⟨h.entered, fun _ hmem => absurd hmem not_mem_nil, h.runs⟩

/-! ## The theorem -/

/-- **A delivery of a completed request ends**, with the recorded result. -/
theorem exists_reply (hfi : s.shared.journal.find message.requestID = some entry)
    (hst : entry.status = .completed result) (hfp : entry.fingerprint = hash message) :
    ∃ t, Runs hash s t ∧ t.shared.replies = s.shared.replies ++
      [⟨message, some entry, false, spawnResultWire result message.operatorAuthorized⟩] := by
  obtain ⟨he, hid⟩ := mem_of_find hfi
  have hcl : (s.shared.journal.claim (hash message) message .none).2 = .cached result := by
    rw [Journal.claim_of_completed he hid hst, if_neg (by simp), if_pos hfp]
  refine Run.exists_after_start (.deliver message) rfl ?_
  refine Run.exists_after_step {} rfl rfl ?_
  refine Run.exists_after_step {} rfl rfl ?_
  simp only [ne_eq, not_true_eq_false, decide_false, Bool.and_false, Bool.false_eq_true, if_false,
    if_true, hfi]
  refine Run.exists_after_step {} rfl rfl ?_
  simp only [hcl]
  refine Run.exists_after_step {} rfl rfl ?_
  exact ⟨_, .refl, rfl⟩

/-- **A spawn request runs at most once.** In every state of a node, whatever was delivered and
however often it restarted:

* the engine was started at most once for each request id;
* a delivery that found its request completed was answered with the recorded result, or refused
  for another payload, and such a delivery can always be answered;
* once the process restarts, a request that it finds executing is never started again. -/
theorem spawn_request_runs_once {s : Sys Node Reading Unit Proc} (hs : Reachable hash s) :
    (∀ id, s.shared.engineRuns.count id ≤ 1) ∧
    (∀ reply ∈ s.shared.replies, ∀ entry result, reply.recorded = some entry →
      entry.status = .completed result → reply.journalFailed = false →
      reply.wire = spawnResultWire
        (if entry.fingerprint = hash reply.message then result
          else reply.message.uncertain "journal_conflict") reply.message.operatorAuthorized) ∧
    (∀ message entry result, s.shared.journal.find message.requestID = some entry →
      entry.status = .completed result → entry.fingerprint = hash message →
      ∃ t, Runs hash s t ∧ t.shared.replies = s.shared.replies ++
        [⟨message, some entry, false, spawnResultWire result message.operatorAuthorized⟩]) ∧
    (∀ id entry t, s.shared.journal.find id = some entry → entry.status = .executing →
      Runs hash ⟨s.shared.restarted, []⟩ t →
      t.shared.engineRuns.count id = s.shared.engineRuns.count id) := by
  obtain ⟨gs, -, hsou⟩ := hs.sound
  refine ⟨hsou.once, hsou.exact, fun _ _ _ => exists_reply, ?_⟩
  intro id entry t hfi _ ht
  have ho : Orphaned id (s.shared.engineRuns.count id) s.shared.restarted [] :=
    ⟨⟨entry, mem_of_find hfi⟩, fun _ hmem => absurd hmem not_mem_nil, rfl⟩
  obtain ⟨_, -, h⟩ := (orphaned_keeps hash id _).run ht ⟨[], .nil, ho⟩
  exact h.runs

/-- `count` steps of one thread, with a working journal. -/
def steps (thread count : ℕ) : List (Move Proc Reading) := List.replicate count (.sched thread {})

def sampleMessage : Message := { requestID := "a", operatorAuthorized := true }

/-- A request is delivered, delivered again while its engine runs, and once more after its result
was stored. -/
def deliveredThrice : List (Move Proc Reading) :=
  [.start (.deliver sampleMessage)] ++ steps 0 7 ++
    [.start (.deliver sampleMessage)] ++ steps 1 5 ++
    [.sched 0 { execution := { pane := "p1", jobID := "j1" } }] ++ steps 0 5 ++
    [.start (.deliver sampleMessage)] ++ steps 2 5

/-- The engine runs and the replies of a node. -/
def Node.outcome (n : Node) : List String × List (String × String) :=
  (n.engineRuns, n.replies.map fun reply => (reply.wire.error, reply.wire.pane))

theorem spawn_request_runs_once_delivered : ∃ s : Sys Node Reading Unit Proc,
    Reachable Message.cwdKey s ∧
    s.shared.outcome = (["a"], [("reconciling", ""), ("", "p1"), ("", "p1")]) ∧
    (∀ id, s.shared.engineRuns.count id ≤ 1) := by
  exact Run.exists_of_replay_and deliveredThrice (by decide +kernel) fun _ hrun _ =>
    (spawn_request_runs_once hrun).1

end Panewire.NodeSpawn

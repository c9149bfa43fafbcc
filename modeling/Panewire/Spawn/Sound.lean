import Panewire.Spawn.Store

/-!
# Operations and their reservations

An operation owns its job id exactly as long as its status is not `retryable`, and the reservation
row is what says so. `Change` lists all that a call can do to the two tables, and each row only
makes `Progress`; `Store.Sound` is kept by every change, so it holds after every sequence of calls.

A call may act on a **snapshot**, a task that was read from the store at any earlier time.
`Reachable` keeps the snapshots beside the store: they never go stale in the job and the request.
-/

namespace Panewire.Spawn

open Data Store Option Bool Table

/-- The row of a request. -/
def Store.row (s : Store) (id : String) : Option OperationRow := s.operations.find id

variable {op : Op} {row a b : OperationRow} {cfg : Config} {s t : Store}

/-! ## Progress -/

/-- How far an attempt is. -/
def Status.phase : Status → ℕ
  | .accepted | .dispatching | .reconciling => 0
  | .deadlineExceeded => 1
  | .succeeded | .failed | .retryable => 2

/-- An operation that nothing changes any more. -/
def Status.Final (status : Status) : Prop := status = .succeeded ∨ status = .failed

/-- **No step back**: not in the attempt, not in the phase of an attempt, not from the end. -/
structure Progress (a b : OperationRow) : Prop where
  attempt : a.attempt ≤ b.attempt
  phase : b.attempt = a.attempt → a.status.phase ≤ b.status.phase
  final : a.status.Final → b.status = a.status

theorem Progress.refl (row : OperationRow) : Progress row row :=
  ⟨le_rfl, fun _ => le_rfl, fun _ => rfl⟩

theorem Progress.trans {c : OperationRow} (hab : Progress a b) (hbc : Progress b c) :
    Progress a c := by
  refine ⟨hab.attempt.trans hbc.attempt, fun heq => ?_, fun hfin => ?_⟩
  · have hb : b.attempt = a.attempt := le_antisymm (heq ▸ hbc.attempt) hab.attempt
    exact (hab.phase hb).trans (hbc.phase (heq.trans hb.symm))
  · have hb := hab.final hfin
    exact (hbc.final (hb ▸ hfin)).trans hb

/-- An attempt that goes on. -/
theorem Progress.of_phase (hat : b.attempt = a.attempt) (hp : a.status.phase ≤ b.status.phase)
    (hl : ¬a.status.Final) : Progress a b :=
  ⟨hat.ge, fun _ => hp, fun h => absurd h hl⟩

/-- A change of columns other than these. -/
theorem Progress.of_eq (hat : b.attempt = a.attempt) (hst : b.status = a.status) : Progress a b :=
  ⟨hat.ge, fun _ => hst ▸ le_rfl, fun _ => hst⟩

theorem Status.not_final_of_pending {status : Status} (h : status.pending = true) :
    ¬status.Final := by
  rintro (rfl | rfl) <;> cases h

/-- An outcome leaves an attempt `reconciling` or further. -/
theorem Outcome.phase_status (o : Outcome) (h : o.status ≠ .reconciling) : 1 ≤ o.status.phase := by
  revert h
  unfold Outcome.status spawnOutcomeStatus
  split_ifs <;> simp [Status.phase]

theorem OperationRow.pending_of_takes {task : Task} {o : Outcome} (h : row.takes task o = true) :
    row.status.pending = true := by
  simp only [OperationRow.takes, and_eq_true] at h
  exact h.1.1.1.2

/-- A result is taken by a pending operation, and never sends it back from `deadline_exceeded`. -/
theorem Progress.of_takes {task : Task} {o : Outcome} (h : row.takes task o = true) :
    Progress row { row with status := o.status, result := o.stored } := by
  have hpd := OperationRow.pending_of_takes h
  refine .of_phase rfl ?_ (Status.not_final_of_pending hpd)
  by_cases hl : row.status = .deadlineExceeded
  · simp only [OperationRow.takes, and_eq_true, not_eq_true', and_eq_false_iff,
      decide_eq_false_iff_not] at h
    obtain ⟨⟨-, hrow | ho⟩, -⟩ := h
    · exact absurd hl hrow
    · rw [hl]
      exact o.phase_status ho
  · -- any other pending status is in the first phase
    have hz : row.status.phase = 0 := by
      cases hs : row.status with
      | accepted | dispatching | reconciling => rfl
      | deadlineExceeded => exact absurd hs hl
      | succeeded | failed | retryable =>
        rw [hs] at hpd
        cases hpd
    rw [hz]
    exact Nat.zero_le _

/-! ## What a call can do -/

/-- The same operation, not gone back. Only a bind gives it a node. -/
structure GoesOn (op : Op) (a b : OperationRow) : Prop extends Progress a b where
  payload : b.payload = a.payload
  job : b.job = a.job
  node : (∀ id attempt node, op ≠ .bind id attempt node) →
    b.node = none ∨ b.node = a.node ∧ (b.status = a.status ∨ a.status.pending = true)

/-- The same operation, still retryable or still not. -/
structure Kin (op : Op) (a b : OperationRow) : Prop extends GoesOn op a b where
  retryable : b.status = .retryable ↔ a.status = .retryable

theorem GoesOn.refl (row : OperationRow) : GoesOn op row row :=
  ⟨.refl row, rfl, rfl, fun _ => .inr ⟨rfl, .inl rfl⟩⟩

theorem Kin.refl (row : OperationRow) : Kin op row row := ⟨.refl row, Iff.rfl⟩

/-- A step inside the first phase of an attempt. -/
theorem Kin.of_phase (ha : a.status.phase = 0) (hb : b.status.phase = 0)
    (hat : b.attempt = a.attempt) (payload : b.payload = a.payload) (job : b.job = a.job)
    (node : (∀ id attempt node, op ≠ .bind id attempt node) → b.node = none) : Kin op a b := by
  have early : ∀ {status : Status}, status.phase = 0 → status ≠ .retryable ∧ ¬status.Final := by
    intro status h
    cases status <;> simp_all [Status.phase, Status.Final]
  exact ⟨⟨.of_phase hat (ha ▸ Nat.zero_le _) (early ha).2, payload, job,
    fun hb => .inl (node hb)⟩, iff_of_false (early hb).1 (early ha).1⟩

theorem GoesOn.of_takes {task : Task} {o : Outcome} (h : row.takes task o = true) :
    GoesOn op row { row with status := o.status, result := o.stored } :=
  ⟨.of_takes h, rfl, rfl, fun _ => .inr ⟨rfl, .inr (OperationRow.pending_of_takes h)⟩⟩

/-- **What a call can do** to operations and reservations. -/
inductive Change (op : Op) (s t : Store) : Prop where
  /-- rows change, but nobody loses or gains ownership -/
  | steady (g : OperationRow → OperationRow) (hg : ∀ row, Kin op row (g row))
      (rows : ∀ id, t.row id = (s.row id).map g) (reservations : t.reservations = s.reservations)
  /-- a new operation with its reservation -/
  | claimed (row : OperationRow) (r : Reservation) (new : s.row row.requestID = none)
      (live : row.status ≠ .retryable) (node : row.node = none)
      (id : r.requestID = row.requestID) (job : r.job = row.job)
      (rows : ∀ id, t.row id = if id = row.requestID then some row else s.row id)
      (reservations : ∀ q, q ∈ t.reservations ↔ q ∈ s.reservations ∨ q = r)
  /-- a completion that ends `retryable` gives the reservation back -/
  | freed (task : Task) (o : Outcome) (now : ℤ) (row row' : OperationRow)
      (call : op = .complete task o now) (before : s.row task.request.requestID = some row)
      (taken : row.takes task o = true) (status : o.status = .retryable)
      (goesOn : GoesOn op row row') (retryable : row'.status = .retryable)
      (rows : ∀ id, t.row id = if id = task.request.requestID then some row' else s.row id)
      (reservations : ∀ q, q ∈ t.reservations ↔
        q ∈ s.reservations ∧ ¬(q.job = task.job ∧ q.requestID = task.request.requestID))
  /-- a new attempt takes the reservation again -/
  | resumed (task : Task) (now : ℤ) (row row' : OperationRow) (r : Reservation)
      (call : op = .resumeCleaned task now) (before : s.row task.request.requestID = some row)
      (retryable : row.status = .retryable) (goesOn : GoesOn op row row')
      (live : row'.status ≠ .retryable)
      (id : r.requestID = task.request.requestID) (resJob : r.job = task.job)
      (rows : ∀ id, t.row id = if id = task.request.requestID then some row' else s.row id)
      (reservations : ∀ q, q ∈ t.reservations ↔ q ∈ s.reservations ∨ q = r)
  /-- a finished operation gives up its slot -/
  | cleared (id : String) (p : Reservation → Bool)
      (finished : ∀ q, p q = true → q.requestID = id ∧
        ∃ row, s.row id = some row ∧ (row.status = .succeeded ∨ row.status = .failed))
      (operations : t.operations = s.operations)
      (reservations : t.reservations = s.reservations.clearRoleWhere p)

theorem Change.refl (s : Store) : Change op s s :=
  .steady id .refl (fun _ => by rw [map_id]; rfl) rfl

/-! ## Statements on one row -/

section Statements

variable {s : Store} {id : String} {p : OperationRow → Bool} {f : OperationRow → OperationRow}
  {hf : ∀ row, (f row).requestID = row.requestID}

theorem Store.row_change (k : String) : (s.change id p f hf).row k =
    (s.row k).map fun row => if row.requestID = id && p row then f row else row := by
  rw [Store.row, change, find_updateWhere]
  rfl

theorem Store.requestID_of_row {k : String} (h : s.row k = some row) : row.requestID = k :=
  (mem_of_find h).2

theorem Store.affects_iff : s.affects id p = true ↔ ∃ row, s.row id = some row ∧ p row = true :=
  any_eq_true ..

/-- The statement changes the row it finds, and no other. -/
theorem Store.row_change_of_affected (h : s.row id = some row) (hp : p row = true) (k : String) :
    (s.change id p f hf).row k = if k = id then some (f row) else s.row k := by
  rw [row_change]
  by_cases hk : k = id
  · rw [if_pos hk, hk, h]
    simp [requestID_of_row h, hp]
  · rw [if_neg hk]
    cases hrow : s.row k with
    | none => rfl
    | some other => simp [requestID_of_row hrow, hk]

/-- A statement that leaves ownership alone. -/
theorem Change.of_change (h : ∀ row, p row = true → Kin op row (f row)) :
    Change op s (s.change id p f hf) := by
  refine .steady _ (fun row => ?_) row_change rfl
  split
  · next hp =>
    rw [and_eq_true] at hp
    exact h row hp.2
  · exact .refl row

end Statements

variable (task : Task) (o : Outcome)

theorem Store.row_notify (now : ℤ) (s : Store) (k : String) :
    (s.notify task o now).row k = s.row k := by
  rw [row, (notify_keeps task o now s).1, row]

theorem Store.row_unreserve (s : Store) (k : String) :
    (s.unreserve task).row k = s.row k := rfl

/-! ## The calls -/

section Calls

variable {cfg : Config} {s : Store}

theorem claimSpawn_change (request : Submission) (job owner : String) (now : ℤ) :
    Change op s (s.claimSpawn cfg request job owner now).2 := by
  unfold claimSpawn
  split
  · exact .refl s
  next spawn _ =>
  split
  · split <;> exact .refl s
  next hn =>
  split
  · exact .refl s
  next reservations hi =>
  obtain ⟨-, hmem⟩ := Reservations.insertNew_eq_some hi
  refine .claimed (accepted cfg request job owner now) _ hn (by simp [accepted])
    rfl rfl rfl (fun id => ?_) hmem
  have hfi := find_insertNew (a := accepted cfg request job owner now) hn id
  refine hfi.trans ?_
  by_cases hid : id = (accepted cfg request job owner now).requestID
  · rw [if_pos hid.symm, if_pos hid]
  · rw [if_neg (Ne.symm hid), if_neg hid]
    rfl

theorem bindSpawn_change (id : String) (attempt : ℕ) (node : NodeRequest) :
    Change (.bind id attempt node) s (s.bindSpawn id attempt node).2 := by
  unfold bindSpawn
  dsimp only
  split
  · exact .refl s
  · refine .of_change fun row hp => .of_phase ?_ rfl rfl rfl rfl fun hb => (hb _ _ _ rfl).elim
    simp only [and_eq_true, decide_eq_true_eq] at hp
    rw [hp.2, Status.phase]

theorem unbindRefusedSpawn_change (id : String) (attempt : ℕ) (nodeID : String) :
    Change op s (s.unbindRefusedSpawn id attempt nodeID).2 := by
  unfold unbindRefusedSpawn
  dsimp only
  split
  · refine .of_change fun row hp => .of_phase ?_ rfl rfl rfl rfl fun _ => rfl
    simp only [and_eq_true, decide_eq_true_eq] at hp
    rw [hp.2, Status.phase]
  · exact .refl s

theorem resumeUndispatchedSpawn_change : Change op s (s.resumeUndispatchedSpawn task) := by
  refine .of_change fun row hp => ?_
  simp only [and_eq_true, decide_eq_true_eq, isNone_iff_eq_none] at hp
  exact .of_phase (by rw [hp.2, Status.phase]) rfl rfl rfl rfl fun _ => hp.1.2

theorem touchSpawn_change (id : String) (now : ℤ) : Change op s (s.touchSpawn id now) :=
  .of_change fun _ _ => ⟨⟨.of_eq rfl rfl, rfl, rfl, fun _ => .inr ⟨rfl, .inl rfl⟩⟩, Iff.rfl⟩

theorem resumeCleanedSpawn_change (now : ℤ) :
    Change (.resumeCleaned task now) s (s.resumeCleanedSpawn cfg task now).2 := by
  unfold resumeCleanedSpawn
  split
  · exact .refl s
  next spawn _ =>
  split
  · exact .refl s
  next reservations hi =>
  dsimp only
  split
  · next ha =>
    obtain ⟨row, hrow, hp⟩ := affects_iff.mp ha
    obtain ⟨-, hmem⟩ := Reservations.insertNew_eq_some hi
    have hry : row.status = .retryable := by
      rw [and_eq_true, decide_eq_true_eq] at hp
      exact hp.1
    refine .resumed task now row { row with
      status := .accepted
      deadline := now + task.request.deadlineSeconds * 1000
      node := none
      attempt := row.attempt + 1
      lastRun := 0 } _ rfl hrow hry ⟨⟨Nat.le_succ _, fun heq => ?_, fun hfin => ?_⟩, rfl, rfl,
        fun _ => .inl rfl⟩ Status.noConfusion rfl rfl (fun k => ?_) hmem
    · exact absurd heq (Nat.succ_ne_self _)
    · simp [hry, Status.Final] at hfin
    rw [row_change_of_affected (s := { s with reservations := reservations }) hrow hp]
    rfl
  · exact .refl s

theorem releaseCompletedSpawnRole_change (id roleKey : String) :
    Change op s (s.releaseCompletedSpawnRole id roleKey) := by
  refine .cleared id _ (fun q hq => ?_) rfl rfl
  simp only [and_eq_true, decide_eq_true_eq] at hq
  obtain ⟨⟨hid, -⟩, ha⟩ := hq
  obtain ⟨row, hrow, hst⟩ := affects_iff.mp ha
  exact ⟨hid, row, hrow, by simpa using hst⟩

theorem completeSpawn_change (now : ℤ) :
    Change (.complete task o now) s (s.completeSpawn task o now).2 := by
  unfold completeSpawn
  split
  · next ha =>
    obtain ⟨row, hrow, hp⟩ := affects_iff.mp ha
    split
    · next hst =>
      refine .freed task o now row { row with status := o.status, result := o.stored } rfl hrow hp
        hst (.of_takes hp) hst (fun k => ?_) fun q => ?_
      · rw [row_notify, row_unreserve, row_change_of_affected hrow hp]
      · rw [(notify_keeps ..).2]
        refine Reservations.mem_deleteWhere.trans (and_congr Iff.rfl ?_)
        simp
    · next hst =>
      refine .steady (fun other =>
          if other.requestID = task.request.requestID && other.takes task o then
            { other with status := o.status, result := o.stored } else other)
        (fun other => ?_) (fun k => ?_) (notify_keeps ..).2
      · split
        · next hq =>
          rw [and_eq_true] at hq
          have ho := OperationRow.pending_of_takes hq.2
          refine ⟨.of_takes hq.2, iff_of_false hst fun heq => ?_⟩
          rw [heq] at ho
          cases ho
        · exact .refl other
      · rw [row_notify, row_change]
  · exact .refl s

end Calls

/-- **Every call** is one of the changes. -/
theorem Store.perform_change (cfg : Config) (s : Store) (op : Op) :
    Change op s (s.perform cfg op) := by
  cases op with
  | claim request job owner now => exact claimSpawn_change request job owner now
  | bind id attempt node => exact bindSpawn_change id attempt node
  | complete task outcome now => exact completeSpawn_change task outcome now
  | unbind id attempt nodeID => exact unbindRefusedSpawn_change id attempt nodeID
  | resumeCleaned task now => exact resumeCleanedSpawn_change task now
  | resumeUndispatched task => exact resumeUndispatchedSpawn_change task
  | releaseRole id roleKey => exact releaseCompletedSpawnRole_change id roleKey
  | touch id now => exact touchSpawn_change id now

/-! ## The invariant -/

/-- **An operation that is not retryable has its reservation, and only such an operation has one.**
-/
structure Store.Sound (s : Store) : Prop where
  held : ∀ id row, s.row id = some row → row.status ≠ .retryable →
    ∃ r ∈ s.reservations, r.requestID = id ∧ r.job = row.job
  owned : ∀ r ∈ s.reservations,
    ∃ row, s.row r.requestID = some row ∧ row.job = r.job ∧ row.status ≠ .retryable

/-- The snapshot is of an operation of the store: its job and its request never change. -/
def Store.Knows (s : Store) (task : Task) : Prop :=
  ∃ row, s.row task.request.requestID = some row ∧ row.payload = task.request ∧ row.job = task.job

theorem Store.sound_empty : empty.Sound where
  held id row h := by cases h
  owned r hr := absurd hr Reservations.not_mem_empty

/-- A row that is replaced, by the same operation later. -/
theorem Store.goesOn_of_replaced {k id : String} {old new : OperationRow}
    (before : s.row k = some old) (hgo : GoesOn op old new)
    (rows : ∀ id, t.row id = if id = k then some new else s.row id) (hrow : s.row id = some row) :
    ∃ row', t.row id = some row' ∧ GoesOn op row row' := by
  by_cases hid : id = k
  · rw [hid, before, Option.some.injEq] at hrow
    exact ⟨new, by rw [rows, if_pos hid], hrow ▸ hgo⟩
  · exact ⟨row, by rw [rows, if_neg hid, hrow], .refl row⟩

/-- **Operations are never deleted**, and each has only gone on. -/
theorem Change.goesOn {id : String} (h : Change op s t) (hrow : s.row id = some row) :
    ∃ row', t.row id = some row' ∧ GoesOn op row row' := by
  cases h with
  | steady g hg rows _ => exact ⟨g row, by rw [rows, hrow]; rfl, (hg row).toGoesOn⟩
  | claimed new r hn _ _ _ _ rows _ =>
    have hid : id ≠ new.requestID := by
      rintro rfl
      exact nomatch hn.symm.trans hrow
    exact ⟨row, by rw [rows, if_neg hid, hrow], .refl row⟩
  | freed _ _ _ old new _ before _ _ hgo _ rows _ => exact goesOn_of_replaced before hgo rows hrow
  | resumed _ _ old new r _ before _ hgo _ _ _ rows _ =>
    exact goesOn_of_replaced before hgo rows hrow
  | cleared _ p _ operations _ =>
    exact ⟨row, by rw [Store.row, operations]; exact hrow, .refl row⟩

/-- **Where an operation comes from.** -/
theorem Change.comesFrom {id : String} (h : Change op s t) (hrow : t.row id = some row) :
    row.node = none ∨ ∃ old, s.row id = some old ∧ GoesOn op old row := by
  cases h with
  | steady g hg rows _ =>
    rw [rows] at hrow
    obtain ⟨old, hold, rfl⟩ := map_eq_some_iff.mp hrow
    exact .inr ⟨old, hold, (hg old).toGoesOn⟩
  | claimed new r _ _ hno _ _ rows _ =>
    rw [rows] at hrow
    split at hrow
    · exact .inl (Option.some.inj hrow ▸ hno)
    · exact .inr ⟨row, hrow, .refl row⟩
  | freed _ _ _ old new _ before _ _ hgo _ rows _
  | resumed _ _ old new _ _ before _ hgo _ _ _ rows _ =>
    rw [rows] at hrow
    split at hrow
    · next hid => exact .inr ⟨old, hid ▸ before, Option.some.inj hrow ▸ hgo⟩
    · exact .inr ⟨row, hrow, .refl row⟩
  | cleared _ p _ operations _ =>
    rw [Store.row, operations] at hrow
    exact .inr ⟨row, hrow, .refl row⟩

theorem Change.knows {task : Task} (h : Change op s t) (hk : s.Knows task) : t.Knows task := by
  obtain ⟨row, hrow, hpay, hjob⟩ := hk
  obtain ⟨row', hrow', hgo⟩ := h.goesOn hrow
  exact ⟨row', hrow', hgo.payload.trans hpay, hgo.job.trans hjob⟩

/-- An operation that had no reservation gets one and is not retryable any more. -/
theorem Store.Sound.reserve (hs : s.Sound) {id : String} {new : OperationRow} {r : Reservation}
    (hold : ∀ row, s.row id = some row → row.status = .retryable) (hl : new.status ≠ .retryable)
    (hid : r.requestID = id) (hjob : r.job = new.job)
    (rows : ∀ k, t.row k = if k = id then some new else s.row k)
    (reservations : ∀ q, q ∈ t.reservations ↔ q ∈ s.reservations ∨ q = r) : t.Sound := by
  refine ⟨fun k row hrow hro => ?_, fun q hq => ?_⟩
  · rw [rows] at hrow
    by_cases hk : k = id
    · rw [if_pos hk, Option.some.injEq] at hrow
      exact ⟨r, (reservations r).mpr (.inr rfl), hid.trans hk.symm, hrow ▸ hjob⟩
    · rw [if_neg hk] at hrow
      obtain ⟨q, hq, hres⟩ := hs.held k row hrow hro
      exact ⟨q, (reservations q).mpr (.inl hq), hres⟩
  · rcases (reservations q).mp hq with hq | rfl
    · obtain ⟨row, hrow, hqj, hro⟩ := hs.owned q hq
      have hne : q.requestID ≠ id := fun heq => hro (hold row (heq ▸ hrow))
      exact ⟨row, by rw [rows, if_neg hne, hrow], hqj, hro⟩
    · exact ⟨new, by rw [rows, if_pos hid], hjob.symm, hl⟩

/-- **Every change keeps the invariant**, when the snapshot that it acts on is of the store. -/
theorem Change.sound (h : Change op s t) (hs : s.Sound)
    (hk : ∀ task, op.task = some task → s.Knows task) : t.Sound := by
  cases h with
  | steady g hg rows reservations =>
    refine ⟨fun id row hrow hl => ?_, fun r hr => ?_⟩
    · rw [rows] at hrow
      obtain ⟨old, hold, rfl⟩ := map_eq_some_iff.mp hrow
      rw [reservations, (hg old).job]
      exact hs.held id old hold fun h => hl ((hg old).retryable.mpr h)
    · rw [reservations] at hr
      obtain ⟨row, hrow, hjob, hl⟩ := hs.owned r hr
      exact ⟨g row, by rw [rows, hrow]; rfl, (hg row).job.trans hjob,
        fun h => hl ((hg row).retryable.mp h)⟩
  | claimed new r hn live _ id job rows reservations =>
    exact hs.reserve (fun row hrow => by rw [hn] at hrow; cases hrow) live id job rows reservations
  | freed task o now row new call before _ _ _ retryable rows reservations =>
    obtain ⟨known, hkn, -, hjob⟩ := hk task (by rw [call]; rfl)
    rw [before, Option.some.injEq] at hkn
    refine ⟨fun k other ho hl => ?_, fun q hq => ?_⟩
    · rw [rows] at ho
      by_cases hk : k = task.request.requestID
      · rw [if_pos hk, Option.some.injEq] at ho
        exact absurd (ho ▸ retryable) hl
      · rw [if_neg hk] at ho
        obtain ⟨q, hq, hid, hqj⟩ := hs.held k other ho hl
        exact ⟨q, (reservations q).mpr ⟨hq, fun h => hk (hid ▸ h.2)⟩, hid, hqj⟩
    · obtain ⟨hq, hke⟩ := (reservations q).mp hq
      obtain ⟨other, ho, hqj, hl⟩ := hs.owned q hq
      -- the reservation of this request has the job of the snapshot, so it is gone
      have hne : q.requestID ≠ task.request.requestID := by
        intro heq
        rw [heq, before, Option.some.injEq] at ho
        refine hke ⟨?_, heq⟩
        rw [← hqj, ← ho, hkn, hjob]
      exact ⟨other, by rw [rows, if_neg hne, ho], hqj, hl⟩
  | resumed task now row new r call before retryable hgo live id resJob rows reservations =>
    obtain ⟨known, hkn, -, hjob⟩ := hk task (by rw [call]; rfl)
    rw [before, Option.some.injEq] at hkn
    refine hs.reserve (fun old hold => ?_) live id (by rw [resJob, hgo.job, hkn, hjob]) rows
      reservations
    rw [before, Option.some.injEq] at hold
    exact hold ▸ retryable
  | cleared id p _ operations reservations =>
    have hrow : ∀ k, t.row k = s.row k := fun k => by rw [Store.row, operations]; rfl
    refine ⟨fun k row hk hl => ?_, fun q hq => ?_⟩
    · obtain ⟨q, hq, hid, hjob⟩ := hs.held k row (hrow k ▸ hk) hl
      refine ⟨_, reservations ▸ Reservations.mem_clearRoleWhere.mpr ⟨q, hq, rfl⟩, ?_⟩
      split
      · exact ⟨hid, hjob⟩
      · exact ⟨hid, hjob⟩
    · rw [reservations] at hq
      obtain ⟨old, hold, rfl⟩ := Reservations.mem_clearRoleWhere.mp hq
      obtain ⟨row, hold⟩ := hs.owned old hold
      refine ⟨row, ?_⟩
      split
      · exact ⟨(hrow _).trans hold.1, hold.2⟩
      · exact ⟨(hrow _).trans hold.1, hold.2⟩

/-! ## Slots -/

/-- The request holds slot `k`. -/
def Store.HoldsSlot (s : Store) (id k : String) : Prop :=
  ∃ r ∈ s.reservations, r.requestID = id ∧ r.taskRole = some k

/-- **A slot is freed** only for an operation that succeeded, failed or became retryable. -/
theorem Change.slot_freed {id k : String} (h : Change op s t) (hh : s.HoldsSlot id k)
    (hfre : ¬t.HoldsSlot id k) :
    ∃ row', t.row id = some row' ∧
      (row'.status = .succeeded ∨ row'.status = .failed ∨ row'.status = .retryable) := by
  obtain ⟨r, hr, hid, hs⟩ := hh
  have kept : r ∈ t.reservations → False := fun hmem => hfre ⟨r, hmem, hid, hs⟩
  cases h with
  | steady g hg rows reservations => exact (kept (reservations ▸ hr)).elim
  | claimed new q _ _ _ _ _ _ reservations => exact (kept ((reservations r).mpr (.inl hr))).elim
  | resumed task now old new q _ _ _ _ _ _ _ _ reservations =>
    exact (kept ((reservations r).mpr (.inl hr))).elim
  | freed task o now old new _ _ _ _ _ retryable rows reservations =>
    by_cases hmi : r.job = task.job ∧ r.requestID = task.request.requestID
    · refine ⟨new, ?_, .inr (.inr retryable)⟩
      rw [rows, if_pos (hid.symm.trans hmi.2)]
    · exact (kept ((reservations r).mpr ⟨hr, hmi⟩)).elim
  | cleared other p finished operations reservations =>
    by_cases hp : p r = true
    · obtain ⟨ho, row', hrow', hst⟩ := finished r hp
      rw [← ho, hid] at hrow'
      refine ⟨row', ?_, ?_⟩
      · rw [Store.row, operations]
        exact hrow'
      · rcases hst with h | h
        · exact .inl h
        · exact .inr (.inl h)
    · refine (kept ?_).elim
      rw [reservations]
      exact Reservations.mem_clearRoleWhere.mpr ⟨r, hr, by rw [if_neg hp]⟩

/-! ## Sequences of calls -/

/-- A store, and the snapshots that were read from it so far. -/
structure History where
  store : Store
  read : List Task

variable {h h' : History}

/-- One call, or the reading of one snapshot. -/
inductive Event where
  | call (op : Op)
  | read (id : String)

/-- A call on a snapshot acts on one that was read, at any earlier time. -/
def History.after (cfg : Config) (h : History) : Event → Option History
  | .call op =>
    if op.task.all fun task => task ∈ h.read then some ⟨h.store.perform cfg op, h.read⟩ else none
  | .read id => (h.store.row id).map fun row => ⟨h.store, row.task :: h.read⟩

/-- What any sequence of calls leads to, from an empty store. -/
inductive Reachable (cfg : Config) : History → Prop where
  | empty : Reachable cfg ⟨.empty, []⟩
  | step {h h' : History} (e : Event) :
      Reachable cfg h → h.after cfg e = some h' → Reachable cfg h'

/-- A sequence of calls from an empty store. -/
def replay (cfg : Config) (es : List Event) : Option History :=
  es.foldlM (History.after cfg) ⟨.empty, []⟩

theorem Reachable.foldlM {es : List Event} (hr : Reachable cfg h)
    (heq : es.foldlM (History.after cfg) h = some h') : Reachable cfg h' := by
  induction es generalizing h with
  | nil =>
    cases heq
    exact hr
  | cons e es ih =>
    obtain ⟨next, hn, hre⟩ := bind_eq_some_iff.mp heq
    exact ih (hr.step e hn) hre

/-- **Inversion for an event**: a call on a known snapshot, or a new snapshot. -/
theorem History.after_cases {e : Event} (he : h.after cfg e = some h') :
    (∃ op, (∀ task, op.task = some task → task ∈ h.read) ∧
      h' = ⟨h.store.perform cfg op, h.read⟩) ∨
    (∃ id row, h.store.row id = some row ∧ h' = ⟨h.store, row.task :: h.read⟩) := by
  cases e with
  | call op =>
    simp only [History.after] at he
    split at he
    · next ha =>
      cases he
      refine .inl ⟨op, fun task ht => ?_, rfl⟩
      rw [ht] at ha
      simpa using ha
    · cases he
  | read id =>
    obtain ⟨row, hrow, rfl⟩ := map_eq_some_iff.mp he
    exact .inr ⟨id, row, hrow, rfl⟩

/-- The store is sound, and every snapshot is of an operation of the store. -/
structure History.Sound (h : History) : Prop where
  store : h.store.Sound
  read : ∀ task ∈ h.read, h.store.Knows task

theorem History.Sound.after {e : Event} (hs : h.Sound) (he : h.after cfg e = some h') :
    h'.Sound := by
  obtain ⟨op, hsn, rfl⟩ | ⟨id, row, hrow, rfl⟩ := History.after_cases he
  · have hc := h.store.perform_change cfg op
    refine ⟨hc.sound hs.store fun task ht => hs.read task (hsn task ht), ?_⟩
    exact fun task ht => hc.knows (hs.read task ht)
  · refine ⟨hs.store, fun task ht => ?_⟩
    rcases List.mem_cons.mp ht with rfl | ht
    · have hid : row.task.request.requestID = id := requestID_of_row hrow
      exact ⟨row, by rw [hid, hrow], rfl, rfl⟩
    · exact hs.read task ht

theorem Reachable.sound (hr : Reachable cfg h) : h.Sound := by
  induction hr with
  | empty => exact ⟨sound_empty, fun _ ht => nomatch ht⟩
  | step e _ he ih => exact ih.after he

/-! ## Ownership -/

/-- The operation has its reservation row. -/
def Store.Reserved (s : Store) (row : OperationRow) : Prop :=
  ∃ r ∈ s.reservations, r.requestID = row.requestID ∧ r.job = row.job

theorem Store.row_of_mem (h : row ∈ s.operations) : s.row row.requestID = some row :=
  find_of_mem h

theorem Store.Sound.reserved_iff (hs : s.Sound) (hrow : row ∈ s.operations) :
    s.Reserved row ↔ row.status ≠ .retryable := by
  constructor
  · rintro ⟨r, hr, hid, -⟩
    obtain ⟨owner, ho, -, hl⟩ := hs.owned r hr
    rw [hid, row_of_mem hrow, Option.some.injEq] at ho
    exact ho ▸ hl
  · exact hs.held _ row (row_of_mem hrow)

/-- Two operations that are not retryable have different jobs. -/
theorem Store.Sound.eq_of_job (hs : s.Sound) {a b : OperationRow} (ha : a ∈ s.operations)
    (hb : b ∈ s.operations) (hla : a.status ≠ .retryable) (hlb : b.status ≠ .retryable)
    (hjob : a.job = b.job) : a = b := by
  obtain ⟨q, hq, hqa, hqj⟩ := hs.held _ a (row_of_mem ha) hla
  obtain ⟨r, hr, hrb, hrj⟩ := hs.held _ b (row_of_mem hb) hlb
  have hqr : q = r := Reservations.eq_of_job hq hr (by rw [hqj, hrj, hjob])
  exact eq_of_key ha hb (by rw [← hqa, ← hrb, hqr])

/-- **Ownership of jobs and slots.** After any sequence of calls, an operation has its reservation
exactly when it is not retryable; so a job has at most one such operation. A slot is held by at most
one operation, and the next call frees it only if that operation is then succeeded, failed or
retryable. -/
theorem reservations_follow_status {cfg : Config} {h : History} (hr : Reachable cfg h) :
    (∀ row ∈ h.store.operations, h.store.Reserved row ↔ row.status ≠ .retryable) ∧
    (∀ a ∈ h.store.operations, ∀ b ∈ h.store.operations, a.status ≠ .retryable →
      b.status ≠ .retryable → a.job = b.job → a = b) ∧
    (∀ a ∈ h.store.operations, ∀ b ∈ h.store.operations, ∀ k,
      h.store.HoldsSlot a.requestID k → h.store.HoldsSlot b.requestID k → a = b) ∧
    ∀ e h', h.after cfg e = some h' → ∀ row ∈ h.store.operations, ∀ k,
      h.store.HoldsSlot row.requestID k → ¬h'.store.HoldsSlot row.requestID k →
      ∃ row', h'.store.row row.requestID = some row' ∧
        (row'.status = .succeeded ∨ row'.status = .failed ∨ row'.status = .retryable) := by
  have hs := hr.sound.store
  refine ⟨fun row hrow => hs.reserved_iff hrow, fun a ha b hb => hs.eq_of_job ha hb, ?_, ?_⟩
  · rintro a ha b hb k ⟨q, hq, hqa, hqk⟩ ⟨r, hr', hrb, hrk⟩
    have hqr : q = r := Reservations.eq_of_role hq hr' hqk hrk
    exact eq_of_key ha hb (by rw [← hqa, ← hrb, hqr])
  · intro e h' he row _ k hh hfre
    obtain ⟨op, -, rfl⟩ | ⟨id, read, -, rfl⟩ := History.after_cases he
    · exact (h.store.perform_change cfg op).slot_freed hh hfre
    · exact absurd hh hfre

/-- Requests for one job, each told apart by its id. -/
def sampleConfig : Config where
  validate r := some ⟨"job", "lane", "7", "worker", "", r.rest⟩
  fingerprint r := r.requestID

def sampleRequest (id : String) : Submission := ⟨id, [], 60, ""⟩

/-- A first request ends retryable, and a second one takes the job and the slot. -/
def secondClaim : List Event :=
  let first : Task := ⟨sampleRequest "a", "job", "lane", .accepted, 0, 60000, 1, none, {}⟩
  [.call (.claim (sampleRequest "a") "job" "lane" 0), .read "a",
    .call (.complete first { rc := 78, reason := "configuration", retryable := true } 5),
    .call (.claim (sampleRequest "b") "job" "lane" 9)]

theorem reservations_follow_status_second : ∃ h, replay sampleConfig secondClaim = some h ∧
    h.store.operations.rows.map (·.status) = [.retryable, .accepted] ∧
    (∀ row ∈ h.store.operations, h.store.Reserved row ↔ row.status ≠ .retryable) := by
  obtain ⟨h, hrun, hst⟩ := bind_eq_some_iff.mp (show ((replay sampleConfig
    secondClaim).bind fun h => if h.store.operations.rows.map (·.status) = [.retryable, .accepted]
    then some () else none) = some () by decide +kernel)
  exact ⟨h, hrun, (ite_none_right_eq_some.mp hst).1,
    (reservations_follow_status (Reachable.empty.foldlM hrun)).1⟩

end Panewire.Spawn

import Panewire.Spawn.Coordinator

/-!
# What the threads of the hub keep to

Every thread knows some snapshots: those that it read itself or was handed. The protocol says that
it only acts on these, and that a completion is **honest** about its source: an outcome that the hub
made up is not a refusal of a node that the snapshot shows as bound.

From this the coordinator refines the store: whatever it does is one of the sequences of calls that
`Reachable` is about.
-/

namespace Panewire.Spawn

open Conc List

variable {task : Task} {source : Option String} {o : Outcome} {t : Transport}

/-- **An honest completion**: the result of a node is written to a snapshot that shows this node; an
outcome of the hub itself, for a snapshot that shows a node, is a timeout or not retryable. -/
structure Honest (source : Option String) (task : Task) (o : Outcome) : Prop where
  ofNode : ∀ n, source = some n → ∃ node, task.node = some node ∧ node.requestID = n
  ofHub : source = none → task.node ≠ none →
    (o.reason = "timeout" ∧ o.nodeResult = false) ∨ (o.retryable = false ∧ o.reason ≠ "timeout")

/-- A call that is made on known snapshots only. -/
structure Fair (known : List Task) (source : Option String) (op : Op) : Prop where
  snapshot : ∀ task, op.task = some task → task ∈ known
  honest : ∀ task o now, op = .complete task o now → Honest source task o

/-- The store after a write, by the fault of the step. -/
def Hub.write (cfg : Config) (h : Hub) (op : Op) (fault : Fault) : Store :=
  if fault = .refused then h.store else h.store.perform cfg op

/-- **What a thread does** that knows some snapshots. -/
inductive Rule (cfg : Config) : Label → Hub → Answer → List Task → Hub → List Task → Prop where
  | call {h : Hub} {e : Answer} {known : List Task} {source : Option String} {op : Op}
      (fair : Fair known source op) :
      Rule cfg (.call source op) h e known { h with store := h.write cfg op e.fault } known
  | other {h h' : Hub} {e : Answer} {known known' : List Task} (store : h'.store = h.store)
      (grows : ∀ task ∈ h.read, task ∈ h'.read)
      (read : ∀ task ∈ h'.read,
        task ∈ h.read ∨ ∃ id row, h.store.row id = some row ∧ task = row.task)
      (work : ∀ task ∈ h'.work, task ∈ h.work ∨ task ∈ known)
      (learns : ∀ task ∈ known', task ∈ known ∨ task ∈ h'.read ∨ task ∈ h.work) :
      Rule cfg .other h e known h' known'

/-- The protocol of the hub. -/
def protocol (cfg : Config) : Protocol Hub Answer Label Proc (List Task) where
  entry _ := []
  spawns r := r = .coordinator ∨ r = .worker
  rule := Rule cfg

variable {cfg : Config} {known : List Task}

/-! ## Safe commands -/

/-- A command that keeps to the protocol; the thread then knows at least what it knew, and the
result satisfies `Q`. -/
def Safe {α : Type} (cfg : Config) (known : List Task) (c : Hub.Cmd α)
    (Q : α → List Task → Prop) : Prop :=
  (protocol cfg).Triple known c fun a g => known ⊆ g ∧ Q a g

/-- A command that keeps to the protocol, whatever its result. -/
abbrev Plain {α : Type} (cfg : Config) (known : List Task) (c : Hub.Cmd α) : Prop :=
  Safe cfg known c fun _ _ => True

namespace Safe

variable {α β : Type} {c : Hub.Cmd α} {Q : α → List Task → Prop} {R : β → List Task → Prop}

theorem pure {a : α} (h : Q a known) : Safe cfg known (Pure.pure a) Q :=
  Protocol.Triple.pure ⟨List.Subset.refl known, h⟩

/-- An error is no snapshot. -/
theorem error (err : Error) {P : Task → List Task → Prop} :
    Safe cfg known (Pure.pure (Except.error err)) fun r g => ∀ task, r = .ok task → P task g :=
  pure fun _ h => nomatch h

theorem bind {f : α → Hub.Cmd β} (h : Safe cfg known c Q)
    (hf : ∀ a known', known ⊆ known' → Q a known' → Safe cfg known' (f a) R) :
    Safe cfg known (c >>= f) R :=
  Protocol.Triple.bind h fun a g hg =>
    (hf a g hg.1 hg.2).conseq fun _ _ hg' => ⟨List.Subset.trans hg.1 hg'.1, hg'.2⟩

theorem conseq {Q' : α → List Task → Prop} (h : Safe cfg known c Q)
    (hQ : ∀ a g, Q a g → Q' a g) : Safe cfg known c Q' :=
  Protocol.Triple.conseq h fun a g hg => ⟨hg.1, hQ a g hg.2⟩

theorem go {r : Proc} (h : r = .coordinator ∨ r = .worker) : Plain cfg known (.go r) :=
  Protocol.Triple.go h ⟨List.Subset.refl known, trivial⟩

/-- The result is not used. -/
theorem discard {b : β} (h : Safe cfg known c Q) : Plain cfg known (c >>= fun _ => Pure.pure b) :=
  h.bind fun _ _ _ _ => pure trivial

/-- A loop over snapshots that the thread knows. -/
theorem forEach {body : Task → Hub.Cmd Unit}
    (hb : ∀ task known, task ∈ known → Plain cfg known (body task)) :
    ∀ {tasks : List Task} {known : List Task}, tasks ⊆ known →
      Plain cfg known (Cmd.forEach tasks body)
  | [], _, _ => pure trivial
  | task :: _, known, h =>
    bind (hb task known (h mem_cons_self)) fun _ _ hs _ =>
      forEach hb fun _ ht => hs (h (mem_cons_of_mem task ht))

/-- A step outside the store that reads nothing; `work` says what it does to the channel. -/
theorem step {f : Hub → Answer → Hub × α} (store : ∀ h e, (f h e).1.store = h.store)
    (read : ∀ h e, (f h e).1.read = h.read)
    (work : ∀ h e, ∀ task ∈ (f h e).1.work, task ∈ h.work ∨ task ∈ known)
    (hQ : ∀ h e, Q (f h e).2 known) : Safe cfg known (.act .other f) Q :=
  .act fun h e => ⟨known, .other (store h e) (fun _ ht => by rwa [read])
    (fun _ ht => .inl (by rwa [read] at ht)) (work h e) fun _ ht => .inl ht,
    List.Subset.refl known, hQ h e⟩

/-- A step that only looks at the answer. -/
theorem look (f : Answer → α) (hQ : ∀ a, Q a known) :
    Safe cfg known (.act .other fun h e => (h, f e)) Q :=
  step (fun _ _ => rfl) (fun _ _ => rfl) (fun _ _ _ ht => .inl ht) fun _ _ => hQ _

end Safe

theorem clock_safe : Plain cfg known clock := .look _ fun _ => trivial
theorem ask_safe : Plain cfg known ask := .look _ fun _ => trivial
theorem reach_safe : Plain cfg known reach := .look _ fun _ => trivial

/-- The snapshots of an answer. -/
def got {α : Type} (tasks : α → List Task) : Except Error α → List Task
  | .ok a => tasks a
  | .error _ => []

/-- **A read**: the thread then knows the snapshots that it got. -/
theorem query_safe {α : Type} {f : Store → Except Error α} {tasks : α → List Task}
    (hf : ∀ s a, f s = .ok a → ∀ task ∈ tasks a, ∃ id row, s.row id = some row ∧ task = row.task) :
    Safe cfg known (query f tasks) fun r g => got tasks r ⊆ g := by
  have unread : ∀ (h : Hub) (e : Answer) (err : Error), ∃ g', Rule cfg .other h e known h g' ∧
      known ⊆ g' ∧ got tasks (.error err) ⊆ g' := fun h e err =>
    ⟨known, .other rfl (fun _ ht => ht) (fun _ ht => .inl ht) (fun _ ht => .inl ht)
      fun _ ht => .inl ht, List.Subset.refl known, nil_subset _⟩
  refine .act fun h e => ?_
  cases e.fault with
  | none =>
    cases hfs : f h.store with
    | error err => exact unread h e err
    | ok a =>
      refine ⟨tasks a ++ known, .other rfl (fun _ ht => mem_append_right _ ht) ?_
        (fun _ ht => .inl ht) ?_, subset_append_right _ _, subset_append_left _ _⟩
      · intro task ht
        rcases mem_append.mp ht with ht | ht
        · exact .inr (hf _ a hfs task ht)
        · exact .inl ht
      · intro task ht
        rcases mem_append.mp ht with ht | ht
        · exact .inr (.inl (mem_append_left _ ht))
        · exact .inl ht
  | lost | refused => exact unread h e .unavailable

/-- **A write** that is fair. -/
theorem exec_safe {α : Type} {op : Op}
    {reply : Store → Except Error α} (fair : Fair known source op) :
    Plain cfg known (exec cfg source op reply) := by
  refine .act fun h e => ⟨known, ?_, List.Subset.refl known, trivial⟩
  have hc : (protocol cfg).rule (.call source op) h e known
      { h with store := h.write cfg op e.fault } known := Rule.call fair
  cases hflt : e.fault with
  | none | lost | refused =>
    rw [hflt] at hc
    exact hc

/-- A call that acts on no snapshot is fair. -/
theorem Fair.of_none {op : Op} (h : op.task = none) : Fair known source op where
  snapshot task ht := by rw [h] at ht; cases ht
  honest task o now heq := by rw [heq] at h; cases h

/-- What a thread knows after it asked for a snapshot. -/
def Learned (r : Except Error Task) (known : List Task) : Prop :=
  ∀ task, r = .ok task → task ∈ known

theorem spawnTask_safe (id : String) : Safe cfg known (spawnTask id) Learned := by
  refine (query_safe fun s task hta t ht => ?_).conseq fun r g hg => ?_
  · obtain rfl := mem_singleton.mp ht
    unfold Store.spawnTask at hta
    split at hta
    · next row hrow =>
      cases hta
      exact ⟨id, row, hrow, rfl⟩
    · cases hta
  · rintro task rfl
    exact hg mem_cons_self

/-- The list of pending operations holds snapshots of the store. -/
theorem Store.mem_pendingSpawns {s : Store} (h : task ∈ s.pendingSpawns) :
    ∃ id row, s.row id = some row ∧ task = row.task := by
  obtain ⟨row, hrow, rfl⟩ := mem_map.mp h
  have hmem := mem_mergeSort.mp (mem_of_mem_take hrow)
  exact ⟨row.requestID, row, Store.row_of_mem (mem_filter.mp hmem).1, rfl⟩

theorem pendingSpawns_safe : Safe cfg known pendingSpawns fun r g => got id r ⊆ g := by
  refine query_safe fun s tasks htas task ht => ?_
  obtain rfl : s.pendingSpawns = tasks := Except.ok.inj htas
  exact Store.mem_pendingSpawns ht

/-! ## The commands of a worker -/

theorem bindSpawn_safe (id : String) (attempt : ℕ) (node : NodeRequest) :
    Safe cfg known (bindSpawn cfg id attempt node) fun r g =>
      ∀ task, r = .ok task → task ∈ g ∧ task.node = some node := by
  refine .bind (exec_safe (.of_none rfl)) fun r _ _ _ => ?_
  cases r with
  | error err => exact .error err
  | ok =>
    refine .bind (spawnTask_safe id) fun r _ _ hr => ?_
    cases r with
    | error err => exact .error err
    | ok task =>
      dsimp only
      split
      · next hsame =>
        rw [Bool.and_eq_true, decide_eq_true_eq, decide_eq_true_eq] at hsame
        refine .pure fun t ht => ?_
        cases ht
        exact ⟨hr task rfl, hsame.2⟩
      · exact .error .claimed

theorem unbindRefusedSpawn_safe (id : String) (attempt : ℕ) (nodeID : String) :
    Safe cfg known (unbindRefusedSpawn cfg id attempt nodeID) Learned := by
  refine .bind (exec_safe (.of_none rfl)) fun r _ _ _ => ?_
  cases r with
  | error err => exact .error err
  | ok => exact spawnTask_safe id

theorem resumeUndispatchedSpawn_safe (ht : task ∈ known) :
    Safe cfg known (resumeUndispatchedSpawn cfg task) Learned := by
  have fair : Fair known none (.resumeUndispatched task) :=
    ⟨fun t h => Option.some.inj h ▸ ht, fun _ _ _ h => nomatch h⟩
  refine .bind (exec_safe fair) fun r _ _ _ => ?_
  cases r with
  | error err => exact .error err
  | ok => exact spawnTask_safe _

theorem Honest.timedOut
    (h : Honest source task o) (ho : o.reason = "timeout") (node : Option NodeRequest) :
    Honest source task (o.timedOut node) where
  ofNode := h.ofNode
  ofHub hs ht := by
    rcases h.ofHub hs ht with hout | ⟨-, hne⟩
    · exact .inl hout
    · exact absurd ho hne

theorem recordOutcome_safe (ht : task ∈ known) (h : Honest source task o) :
    Plain cfg known (recordOutcome cfg source task o) := by
  refine .bind clock_safe fun now known' hs _ => exec_safe ⟨fun t hop => ?_, ?_⟩
  · exact Option.some.inj hop ▸ hs ht
  · rintro _ _ _ ⟨⟩
    exact h

/-- **A completion** on a known snapshot is safe when it is honest. -/
theorem completeSpawn_safe (ht : task ∈ known) (h : Honest source task o) :
    Plain cfg known (completeSpawn cfg source task o) := by
  unfold completeSpawn
  split
  · next hw =>
    refine .bind (query_safe fun _ _ _ _ hmem => nomatch hmem) fun r _ hs _ => ?_
    cases r with
    | error err => exact .pure trivial
    | ok node => exact recordOutcome_safe (hs ht) (h.timedOut hw node)
  · exact recordOutcome_safe ht h

/-- The outcomes that the hub makes up. -/
theorem Honest.unbound (o : Outcome) (h : task.node = none) : Honest none task o :=
  ⟨nofun, fun _ hne => absurd h hne⟩

theorem Honest.final (h : o.retryable = false)
    (hn : o.nodeResult = false) : Honest none task o := by
  refine ⟨nofun, fun _ _ => ?_⟩
  by_cases hw : o.reason = "timeout"
  · exact .inl ⟨hw, hn⟩
  · exact .inr ⟨h, hw⟩

theorem finishSpawnOutcome_safe (ht : task ∈ known)
    (h : Honest none task o) : Plain cfg known (finishSpawnOutcome cfg task o) :=
  (completeSpawn_safe ht h).discard

theorem releaseSpawnRole_safe (task : Task) : Plain cfg known (releaseSpawnRole cfg task) := by
  unfold releaseSpawnRole
  split
  · exact .pure trivial
  · split
    · exact .pure trivial
    · refine .bind (exec_safe (.of_none rfl)) fun r _ _ _ => ?_
      cases r with
      | error | ok => exact .pure trivial

theorem finishUnownedSpawn_safe (ht : task ∈ known)
    (h : Honest none task o) : Plain cfg known (finishUnownedSpawn cfg task o) := by
  unfold finishUnownedSpawn
  split
  · exact .pure trivial
  refine .bind ask_safe fun yes _ hs _ => ?_
  split
  · exact .pure trivial
  · refine .bind (completeSpawn_safe (hs ht) h) fun r _ _ _ => ?_
    split
    · exact releaseSpawnRole_safe task
    · exact .pure trivial
    · exact .pure trivial

theorem resolveOrphanedSpawn_safe (ht : task ∈ known) :
    Plain cfg known (resolveOrphanedSpawn cfg task) := by
  refine .bind ask_safe fun yes _ hs _ => ?_
  split
  · exact .pure trivial
  · have hw : "orphaned_after_restart" ≠ "timeout" := by decide
    exact finishUnownedSpawn_safe (hs ht) ⟨nofun, fun _ _ => .inr ⟨rfl, hw⟩⟩

/-! ## Dispatch -/

/-- The thread knows the task of a transport. -/
def Carried (t : Transport) (known : List Task) : Prop := t.task ∈ known

theorem unknown_safe (ht : t.task ∈ known) (reason : String) :
    Plain cfg known (t.unknown cfg reason) :=
  finishSpawnOutcome_safe ht (.final rfl rfl)

theorem nextHostAfterRefusal_safe (t : Transport) (node : NodeRequest) (r : NodeResult) :
    Safe cfg known (t.nextHostAfterRefusal cfg node r) fun next g =>
      ∀ t', next = some t' → t'.task ∈ g := by
  unfold Transport.nextHostAfterRefusal
  dsimp only
  split
  · exact .pure fun _ h => nomatch h
  · refine .bind (unbindRefusedSpawn_safe _ _ _) fun r _ _ hr => ?_
    cases r with
    | error err => exact .pure fun _ h => nomatch h
    | ok task =>
      refine .pure fun t' ht' => ?_
      cases ht'
      exact hr task rfl

/-- **The result of a node** is written with this node as its source, to a snapshot that shows
it. -/
theorem settle_safe {node : NodeRequest} (ht : t.task ∈ known)
    (hno : t.task.node = some node) (r : NodeResult) :
    Safe cfg known (t.settle cfg node r) Carried := by
  have giveUp : ∀ {known : List Task}, t.task ∈ known → Safe cfg known
      (do t.unknown cfg "unknown"; pure t : Hub.Cmd Transport) Carried := fun ht =>
    .bind (unknown_safe ht _) fun _ _ hs _ => .pure (hs ht)
  unfold Transport.settle
  split
  · exact giveUp ht
  refine .bind ask_safe fun yes _ hs _ => ?_
  have ht := hs ht
  split
  · exact giveUp ht
  refine .bind (nextHostAfterRefusal_safe t node r) fun next _ hs hne => ?_
  cases next with
  | some t' => exact .pure (hne t' rfl)
  | none =>
    have honest : Honest (some node.requestID) t.task (r.outcome node) :=
      ⟨fun n hn => ⟨node, hno, Option.some.inj hn⟩, nofun⟩
    exact .bind (completeSpawn_safe (hs ht) honest) fun _ _ hs' _ => .pure (hs' (hs ht))

theorem dispatch_safe {node : NodeRequest} (ht : t.task ∈ known)
    (hn : t.task.node = some node) : Safe cfg known (t.dispatch cfg node) Carried := by
  refine .bind reach_safe fun reached _ hs _ => ?_
  have ht := hs ht
  cases reached with
  | disconnected | expired => exact .bind (unknown_safe ht _) fun _ _ hs _ => .pure (hs ht)
  | cancelled => exact .pure ht
  | answered r =>
    refine .bind clock_safe fun now _ hs _ => ?_
    have ht := hs ht
    split
    · refine .bind (resolveOrphanedSpawn_safe ht) fun resolved _ hs _ => ?_
      split
      · exact .pure (hs ht)
      · exact settle_safe (hs ht) hn r
    · exact settle_safe ht hn r

theorem spawn_safe (ht : t.task ∈ known) (request : NodeRequest) :
    Safe cfg known (t.spawn cfg request) Carried := by
  refine .bind ask_safe fun yes _ hs _ => ?_
  have ht := hs ht
  split
  · exact .pure ht
  split
  · exact .pure ht
  · refine .bind (bindSpawn_safe _ _ _) fun r _ hs hr => ?_
    cases r with
    | error err => exact .pure (hs ht)
    | ok task =>
      obtain ⟨hmem, hn⟩ := hr task rfl
      exact dispatch_safe hmem hn

/-! ## Workers and handlers -/

theorem executeSubmission_safe (n : ℕ) (ht : t.task ∈ known) :
    Plain cfg known (executeSubmission cfg n t) := by
  induction n generalizing known t with
  | zero => exact .look _ fun _ => trivial
  | succ n ih =>
    refine .bind (.look _ (Q := fun _ _ => True) fun _ => trivial) fun node _ hs _ => ?_
    exact .bind (spawn_safe (hs ht) node) fun t _ _ ht => ih ht

theorem launch_safe (ht : task ∈ known) : Plain cfg known (launch cfg task) := by
  unfold launch
  split
  · next node hn =>
    exact (dispatch_safe (t := { task := task }) ht hn).discard
  next hn =>
  -- nothing that follows is about a snapshot that shows a node
  refine .bind ask_safe fun configured _ hs _ => ?_
  have ht := hs ht
  split
  · exact finishSpawnOutcome_safe ht (.unbound _ hn)
  refine .bind ask_safe fun inTime _ hs _ => ?_
  have ht := hs ht
  split
  · exact finishSpawnOutcome_safe ht (.unbound _ hn)
  refine .bind (.look _ (Q := fun _ _ => True) fun _ => trivial) fun n _ hs _ => ?_
  have ht := hs ht
  refine .bind (executeSubmission_safe n (t := { task := task }) ht) fun r _ hs _ => ?_
  have ht := hs ht
  split
  · exact finishSpawnOutcome_safe ht (.unbound _ hn)
  split
  · exact .pure trivial
  refine .bind ask_safe fun running _ hs _ => ?_
  have ht := hs ht
  split
  · exact .pure trivial
  · refine .bind ask_safe fun inTime _ hs _ => ?_
    split
    · exact finishSpawnOutcome_safe (hs ht) (.unbound _ hn)
    · exact finishSpawnOutcome_safe (hs ht) (.unbound _ hn)

theorem executeSpawnTask_safe (ht : task ∈ known) :
    Plain cfg known (executeSpawnTask cfg task) := by
  refine .bind clock_safe fun now _ hs _ => ?_
  have ht := hs ht
  split
  · refine .bind (finishSpawnOutcome_safe ht ⟨nofun, fun _ _ => .inl ⟨rfl, rfl⟩⟩)
      fun _ _ hs _ => ?_
    split
    · exact .pure trivial
    · next node hn =>
      exact (dispatch_safe (t := { task := task }) (hs ht) hn).discard
  · split
    · refine .bind (resumeUndispatchedSpawn_safe ht) fun r _ _ hr => ?_
      cases r with
      | error err => exact .pure trivial
      | ok task => exact launch_safe (hr task rfl)
    · exact launch_safe ht

theorem forget_safe (id : String) : Plain cfg known (forget id) :=
  .step (fun _ _ => rfl) (fun _ _ => rfl) (fun _ _ _ ht => .inl ht) fun _ _ => trivial

theorem activate_safe (id : String) : Plain cfg known (activate id) := by
  refine .step (fun h _ => ?_) (fun h _ => ?_) (fun h _ task ht => ?_) fun _ _ => trivial
  · split <;> rfl
  · split <;> rfl
  · split at ht <;> exact .inl ht

theorem handOut_safe (ht : task ∈ known) : Plain cfg known (handOut task) := by
  refine .step (fun h _ => ?_) (fun h _ => ?_) (fun h _ t hmem => ?_) fun _ _ => trivial
  · split <;> rfl
  · split <;> rfl
  · split at hmem
    · rcases mem_append.mp hmem with hmem | hmem
      · exact .inl hmem
      · exact .inr (mem_singleton.mp hmem ▸ ht)
    · exact .inl hmem

variable (request : Submission)

theorem claimSpawn_safe (job owner : String) : Plain cfg known (claimSpawn cfg request job owner) :=
  .bind clock_safe fun _ _ _ _ => exec_safe (.of_none rfl)

theorem reclaimSpawnRole_safe (spawn : Parsed) :
    Plain cfg known (reclaimSpawnRole cfg request spawn) := by
  refine .bind (query_safe fun _ _ _ _ h => nomatch h) fun r _ _ _ => ?_
  cases r with
  | error err => exact .pure trivial
  | ok id =>
    refine .bind ask_safe fun yes _ _ _ => ?_
    split
    · exact .bind (exec_safe (.of_none rfl)) fun _ _ _ _ =>
        (claimSpawn_safe _ _ _).discard
    · exact .pure trivial

theorem submit_safe : Plain cfg known (submit cfg request) := by
  unfold submit
  split
  · exact .pure trivial
  next spawn _ =>
  refine .bind (spawnTask_safe _) fun r _ _ hr => ?_
  cases r with
  | ok old =>
    refine .bind clock_safe fun now _ hs _ => ?_
    have fair := hs (hr old rfl)
    split
    · refine .discard (exec_safe ⟨fun t ht => ?_, fun _ _ _ h => nomatch h⟩)
      exact Option.some.inj ht ▸ fair
    · exact .pure trivial
  | error err =>
    refine .bind ask_safe fun yes _ _ _ => ?_
    split
    · refine .bind (claimSpawn_safe _ _ _) fun r _ _ _ => ?_
      split
      · split
        · exact reclaimSpawnRole_safe request spawn
        · exact .pure trivial
      · exact .pure trivial
      · exact .pure trivial
    · exact .pure trivial

theorem abandon_safe (id reason : String) : Plain cfg known (abandon cfg id reason) := by
  refine .bind (spawnTask_safe id) fun r _ _ hr => ?_
  cases r with
  | error err => exact .pure trivial
  | ok task =>
    dsimp only
    split
    · exact (finishUnownedSpawn_safe (hr task rfl) (.final rfl rfl)).discard
    · exact .pure trivial

theorem replaceSpawn_safe (job owner priorID priorRole : String) :
    Plain cfg known (replaceSpawn cfg request job owner priorID priorRole) := by
  refine .bind ask_safe fun yes _ _ _ => ?_
  split
  · exact .bind (exec_safe (.of_none rfl)) fun _ _ _ _ =>
      (claimSpawn_safe _ _ _).discard
  · exact (claimSpawn_safe _ _ _).discard

theorem coordinator_safe : Plain cfg known coordinator := by
  refine .bind pendingSpawns_safe fun r known' _ hr => ?_
  cases r with
  | error err => exact .go (.inl rfl)
  | ok tasks =>
    refine .bind (.forEach (fun task known ht => ?_) (show tasks ⊆ known' from hr))
      fun _ _ _ _ => .go (.inl rfl)
    refine .bind (activate_safe _) fun free _ hs _ => ?_
    split
    · refine .bind (handOut_safe (hs ht)) fun sent _ _ _ => ?_
      cases sent with
      | true => exact .pure trivial
      | false => exact forget_safe _
    · exact .pure trivial

theorem worker_safe : Plain cfg known (worker cfg) := by
  refine .bind (Q := fun task g => ∀ t, task = some t → t ∈ g) (.actWhen fun h e _ => ?_)
    fun task _ _ hg => ?_
  · refine ⟨h.work.head?.toList ++ known, .other rfl (fun _ ht => ht) (fun _ ht => .inl ht)
      (fun _ ht => .inl (mem_of_mem_tail ht)) (fun t ht => ?_),
      subset_append_right _ _, fun t ht => ?_⟩
    · rcases mem_append.mp ht with ht | ht
      · exact .inr (.inr (mem_of_mem_head? (Option.mem_toList.mp ht)))
      · exact .inl ht
    · exact mem_append_left _ (Option.mem_toList.mpr ht)
  · cases task with
    | none => exact .pure trivial
    | some task =>
      refine .bind clock_safe fun now _ hs _ => ?_
      have ht := hs (hg task rfl)
      refine .bind (exec_safe (.of_none rfl)) fun _ _ hs _ => ?_
      exact .bind (executeSpawnTask_safe (hs ht)) fun _ _ _ _ =>
        .bind (forget_safe _) fun _ _ _ _ => .go (.inr rfl)

theorem boot_safe : Plain cfg known boot := by
  refine .bind (Q := fun _ _ => True) (.actWhen fun h e _ => ?_) fun _ _ _ _ => ?_
  · exact ⟨known, .other rfl (fun _ ht => ht) (fun _ ht => .inl ht) (fun _ ht => .inl ht)
      fun _ ht => .inl ht, List.Subset.refl known, trivial⟩
  · refine .bind (.go (.inl rfl)) fun _ _ _ _ => ?_
    exact .bind (.go (.inr rfl)) fun _ _ _ _ => .bind (.go (.inr rfl)) fun _ _ _ _ =>
      .bind (.go (.inr rfl)) fun _ _ _ _ => .discard (.go (.inr rfl))

/-- **Every procedure keeps to the protocol.** -/
theorem program_follows (r : Proc) :
    (protocol cfg).Follows (program cfg r) ((protocol cfg).entry r) := by
  cases r with
  | boot => exact boot_safe.follows
  | coordinator => exact coordinator_safe.follows
  | worker => exact worker_safe.follows
  | submit request => exact (submit_safe request).follows
  | abandon id reason => exact (abandon_safe id reason).follows
  | replace request job owner priorID priorRole =>
    exact (replaceSpawn_safe request job owner priorID priorRole).follows

/-! ## Refinement -/

/-- The store of the hub is the store of a sequence of calls, in which everything was read that any
thread knows. -/
structure Refines (cfg : Config) (h : Hub) (gs : List (List Task)) : Prop where
  reachable : ∃ hist, Reachable cfg hist ∧ hist.store = h.store ∧ h.read ⊆ hist.read
  known : ∀ g ∈ gs, g ⊆ h.read
  work : h.work ⊆ h.read

/-- Any number of snapshots may be read. -/
theorem Reachable.reads {hist : History} (hr : Reachable cfg hist) (tasks : List Task)
    (h : ∀ task ∈ tasks, task ∈ hist.read ∨
      ∃ id row, hist.store.row id = some row ∧ task = row.task) :
    ∃ hist', Reachable cfg hist' ∧ hist'.store = hist.store ∧ tasks ⊆ hist'.read ∧
      hist.read ⊆ hist'.read := by
  induction tasks with
  | nil => exact ⟨hist, hr, rfl, nil_subset _, .refl _⟩
  | cons task tasks ih =>
    obtain ⟨hist', hr', hstore, hs, hre⟩ := ih fun t ht => h t (mem_cons_of_mem _ ht)
    rcases h task mem_cons_self with hold | ⟨id, row, hrow, rfl⟩
    · exact ⟨hist', hr', hstore, cons_subset.mpr ⟨hre hold, hs⟩, hre⟩
    · rw [← hstore] at hrow
      refine ⟨⟨hist'.store, row.task :: hist'.read⟩, hr'.step (.read id) ?_, hstore,
        cons_subset_cons _ hs, List.Subset.trans hre (subset_cons_self _ _)⟩
      rw [History.after, hrow]
      rfl

theorem Rule.refines {l : Label} {h h' : Hub} {e : Answer} {g g' : List Task}
    {gs : List (List Task)} {i : ℕ} (hru : Rule cfg l h e g h' g') (hi : gs[i]? = some g)
    (hr : Refines cfg h gs) : Refines cfg h' (gs.set i g') := by
  have hg : g ⊆ h.read := hr.known g (mem_of_getElem? hi)
  obtain ⟨hist, hrea, hstore, hre⟩ := hr.reachable
  cases hru with
  | @call _ _ _ source op fair =>
    rw [set_eq_self hi]
    refine ⟨?_, hr.known, hr.work⟩
    by_cases hflt : e.fault = .refused
    · exact ⟨hist, hrea, by simp [Hub.write, hflt, hstore], hre⟩
    · refine ⟨⟨hist.store.perform cfg op, hist.read⟩, hrea.step (.call op) ?_,
        by simp [Hub.write, hflt, hstore], hre⟩
      have ha : op.task.all (fun task => task ∈ hist.read) = true := by
        rw [Option.all_eq_true]
        intro task hta
        exact decide_eq_true (hre (hg (fair.snapshot task hta)))
      rw [History.after, if_pos ha]
  | other store grows read work learns =>
    refine ⟨?_, fun k hk => ?_, fun task ht => ?_⟩
    · obtain ⟨hist', hrea', hstore', hs, -⟩ := hrea.reads h'.read fun t ht => by
        rcases read t ht with h | h
        · exact .inl (hre h)
        · exact .inr (hstore ▸ h)
      exact ⟨hist', hrea', by rw [hstore', hstore, store], hs⟩
    · rcases mem_or_eq_of_mem_set hk with hk | rfl
      · exact fun t ht => grows t (hr.known k hk ht)
      · intro t ht
        rcases learns t ht with h | h | h
        · exact grows t (hg h)
        · exact h
        · exact grows t (hr.work h)
    · rcases work task ht with h | h
      · exact grows task (hr.work h)
      · exact grows task (hg h)

theorem refines_keeps : (protocol cfg).Keeps (program cfg) limits (Refines cfg) where
  follows r _ := program_follows r
  enter s gs r _ h := ⟨h.reachable, forall_mem_concat h.known (nil_subset _), h.work⟩
  rule l s e s' gs i g g' hi _ hru h := hru.refines hi h
  restart s s' gs hs h := by
    cases hs
    exact ⟨h.reachable, nofun, nil_subset _⟩

theorem Running.holds {s : Sys Hub Answer Label Proc} (h : Running cfg s) :
    (protocol cfg).Holds (Refines cfg) s :=
  refines_keeps.run h
    ⟨[], .nil, ⟨⟨_, .empty, rfl, nil_subset _⟩, nofun, nil_subset _⟩⟩

/-- **The hub refines the store**: whatever its threads do, the store is one that a sequence of
calls leads to, and so sound. -/
theorem Running.reachable {s : Sys Hub Answer Label Proc} (h : Running cfg s) :
    ∃ hist, Reachable cfg hist ∧ hist.store = s.shared.store := by
  obtain ⟨gs, -, hr⟩ := h.holds
  obtain ⟨hist, hrea, hstore, -⟩ := hr.reachable
  exact ⟨hist, hrea, hstore⟩

end Panewire.Spawn

import Panewire.Arbiter.System

/-!
# What holds in every history of the ledger

The invariants of the tables, carried from single changes to whole runs of any callers:

* `reachable_inv` — in every state that a run from an empty ledger reaches, the tables are sound
  and keep track of the generations in the log;
* `move_cases` — the ledger's database changes only by the request of the step.
-/

namespace Panewire.Arbiter

open Data Conc List

variable {s t : Sys Shared Answer Label Proc} {w : Ledger} {m : Move Proc Answer}

/-! ## Steps of callers -/

/-- A caller's step is a request, or leaves the database alone. -/
theorem Rule.cases {l : Label} {s s' : Shared} {e : Answer} {g g' : Role} (h : Rule l s e g s' g') :
    (∃ pass r, l = .call pass r ∧ s' = s.perform pass r e) ∨
    ((∀ pass r, l ≠ .call pass r) ∧ s'.ledger.db = s.ledger.db ∧ s'.now = s.after e ∧
      ∃ entry, s'.log = s.log ++ [entry] ∧ ∀ pass r reply, entry ≠ .call pass r reply) := by
  cases h with
  | ask | write => exact .inl ⟨_, _, rfl, rfl⟩
  | _ => exact .inr ⟨by rintro _ _ ⟨⟩, rfl, rfl, _, rfl, by rintro _ _ _ ⟨⟩⟩

theorem Shared.callOf_upTo (s : Shared) (e : Answer) : (s.callOf e).UpTo (s.after e) :=
  fun _ => min_le_right _ _

theorem Shared.now_le_after (s : Shared) (e : Answer) : s.now ≤ s.after e := le_max_left _ _

/-- **A request in a run**: it fails and leaves the database as it was, or makes the changes of its
kind. -/
theorem Shared.perform_cases (s : Shared) (pass : Option ℕ) (r : Request) (e : Answer) :
    (s.perform pass r e).now = s.after e ∧
    ((∃ err, (s.ledger.perform r (s.callOf e)).1 = .error err ∧
      (s.perform pass r e).ledger.db = s.ledger.db ∧
      (s.perform pass r e).log = s.log ++ [.call pass r (.error err)]) ∨
    ∃ reply chs, (s.ledger.perform r (s.callOf e)).1 = .ok reply ∧
      Steps e.call.calendar (s.after e) s.ledger.db.core chs
        (s.perform pass r e).ledger.db.core ∧
      r.Makes s.ledger.db.core reply chs ∧
      (s.perform pass r e).log = s.log ++ [.call pass r (.ok reply)]) := by
  refine ⟨rfl, ?_⟩
  unfold Shared.perform
  rcases hrun : s.ledger.perform r (s.callOf e) with ⟨_ | reply, w'⟩
  · exact .inl ⟨_, rfl, (write_error hrun).1, rfl⟩
  · obtain ⟨chs, hst, hmak⟩ := performs (s.callOf_upTo e) hrun
    exact .inr ⟨reply, chs, rfl, hst, hmak, rfl⟩

/-! ## The invariant of a run -/

/-- The generation that a logged request started. -/
def Entry.granting : Entry → List LeaseRow
  | .call _ (.acquire _) (.ok (.granted lease)) => [lease.row]
  | _ => []

/-- The generations granted in a history, oldest first. -/
def grants (log : List Entry) : List LeaseRow := log.flatMap Entry.granting

theorem grants_append (log : List Entry) (entry : Entry) :
    grants (log ++ [entry]) = grants log ++ entry.granting := by
  simp [grants]

/-- The log has the generation that a request started. -/
theorem Request.Makes.granting {core : Core} {r : Request} {reply : Reply} {chs : List Change}
    (h : r.Makes core reply chs) (pass : Option ℕ) :
    chs.flatMap Change.granting = (Entry.call pass r (.ok reply)).granting := by
  cases r with
  | appendEvent | releaseClaim | releaseOrphan => obtain rfl := h; rfl
  | claim =>
    obtain rfl | rfl := h
    · rfl
    · rfl
  | acquire => obtain ⟨lease, rfl, rfl, -, -⟩ := h; rfl
  | release => obtain ⟨row, rfl, -, -⟩ := h; rfl
  | recordQuotaPool => obtain ⟨res, -, rfl, -⟩ := h; rfl
  | releaseQuotaPool => obtain ⟨row, rfl, -⟩ := h; rfl
  | gc =>
    show chs.flatMap Change.granting = []
    rw [flatMap_eq_nil_iff]
    intro ch hch
    cases ch with
    | granted row => exact (h _ hch).elim
    | _ => rfl

/-- The tables are sound and keep track of the generations in the log. -/
structure Shared.Inv (s : Shared) : Prop where
  sound : s.ledger.db.core.Sound s.now
  tracks : Tracks s.ledger.db.core (grants s.log)

theorem Shared.Inv.perform {s : Shared} (h : s.Inv) (pass : Option ℕ) (r : Request) (e : Answer) :
    (s.perform pass r e).Inv := by
  obtain ⟨hnow, ⟨err, -, hdb, hl⟩ | ⟨reply, chs, -, hst, hmak, hl⟩⟩ :=
    s.perform_cases pass r e
  · refine ⟨?_, ?_⟩
    · rw [hnow, hdb]
      exact h.sound.mono (s.now_le_after e)
    · have hn : (Entry.call pass r (.error err)).granting = [] := by cases r <;> rfl
      rw [hl, hdb, grants_append, hn, append_nil]
      exact h.tracks
  · refine ⟨?_, ?_⟩
    · exact hst.keeps (fun _ _ _ _ hs => hs.sound) (h.sound.mono (s.now_le_after e))
    · rw [hl, grants_append, ← hmak.granting]
      exact hst.tracks h.tracks

theorem inv_keeps : protocol.Keeps program limits fun s _ => s.Inv where
  follows r _ := program_follows r
  enter _ _ _ _ h := h
  rule l s e s' gs i g g' _ _ hru h := by
    obtain ⟨pass, r, -, rfl⟩ | ⟨-, hdb, hnow, entry, hl, he⟩ := Rule.cases hru
    · exact h.perform pass r e
    refine ⟨?_, ?_⟩
    · rw [hdb, hnow]
      exact h.sound.mono (s.now_le_after e)
    · have hn : entry.granting = [] := by
        cases entry with
        | call pass r reply => exact absurd rfl (he pass r reply)
        | _ => rfl
      rw [hdb, hl, grants_append, hn, append_nil]
      exact h.tracks
  restart _ _ _ hs := by cases hs

/-- **In every state of every run** from an empty ledger, the tables are sound and keep track of
the generations. -/
theorem reachable_inv (h : Reachable .empty s) : s.shared.Inv := by
  obtain ⟨now, hrun⟩ := h
  have hs : protocol.Holds (fun s _ => s.Inv) (Shared.start .empty now) :=
    ⟨[], .nil, Core.sound_empty, Tracks.empty⟩
  obtain ⟨_, _, hi⟩ := inv_keeps.run hrun hs
  exact hi

/-- The threads of a run keep to the protocol. -/
theorem reachable_follows (h : Reachable w s) : protocol.Holds (fun _ _ => True) s := by
  obtain ⟨now, hrun⟩ := h
  have hk : protocol.Keeps program limits fun _ _ => True :=
    ⟨fun r _ => program_follows r, fun _ _ _ _ h => h, fun _ _ _ _ _ _ _ _ _ _ _ h => h,
      fun _ _ _ hs => by cases hs⟩
  exact hk.run hrun ⟨[], .nil, trivial⟩

/-- **A move of a run** is a request, or leaves the database alone. -/
theorem move_cases (h : Reachable w s) (hm : s.move program limits m = some t) :
    (∃ i e pass r, m = .sched i e ∧ s.label m = some (.call pass r) ∧
      t.shared = s.shared.perform pass r e) ∨
    (t.shared.ledger.db = s.shared.ledger.db ∧ ∀ pass r, s.label m ≠ some (.call pass r)) := by
  cases hl : s.label m with
  | none =>
    refine .inr ⟨?_, nofun⟩
    rcases Sys.shared_of_label_none hm hl with heq | heq
    · rw [heq]
    · cases heq
  | some l =>
    obtain ⟨_, i, e, g, g', -, -, rfl, hru⟩ := (reachable_follows h).rule_of_move hm hl
    rcases Rule.cases hru with ⟨pass, r, rfl, heq⟩ | ⟨hne, hdb, -⟩
    · exact .inl ⟨i, e, pass, r, rfl, rfl, heq⟩
    · exact .inr ⟨hdb, fun pass r hc => hne pass r (Option.some.inj hc)⟩

/-! ## Jobs that are not leased -/

/-- A claim finds its job idle, and leaves it idle. -/
theorem Step.claim_idle {cal : Calendar} {now : ℤ} {core core' : Core} {ch : Change} {job : String}
    (h : Step cal now core ch core') (hch : ch = .claimed job ∨ ch = .reclaimed job)
    (hs : core.Sound now) : core.Idle now job ∧ core'.Idle now job := by
  cases h with
  | @claim row fresh state =>
    obtain rfl : row.job = job := by simpa using hch
    have hn : core.stateOf row.job = none := by rw [Core.stateOf, fresh]; rfl
    have hi : core.Idle now row.job :=
      ⟨fun q hq hjob => hs.quotaJob q hq (hjob ▸ hn),
        fun l hl hjob => absurd (hjob ▸ hn) (hs.leaseJob l hl)⟩
    exact ⟨hi, hi.of_subset (fun _ hq => hq) fun _ hl => hl⟩
  | @reclaim job' row f hf found state state' =>
    obtain rfl : job' = job := by simpa using hch
    have hi : core.Idle now job' :=
      hs.idle job' _ (Core.stateOf_of_find found) (by rw [state]; decide)
    exact ⟨hi, hi.of_subset (fun _ hq => hq) fun _ hl => hl⟩
  | _ => simp at hch

/-- **A claimed or released job holds nothing.** In every history a job in state claimed or
released has no quota-pool record and no lease that is unexpired at the present. So a claim or
re-claim that succeeds, whatever clock it reads, takes a job that no earlier generation holds
anything for. -/
theorem claimed_or_released_holds_nothing (h : Reachable .empty s) :
    (∀ job state, s.shared.ledger.db.jobState job = some state →
      state = .claimed ∨ state = .released →
      s.shared.ledger.db.core.Idle s.shared.now job) ∧
    ∀ cl c res w', s.shared.ledger.perform (.claim cl) c = (.ok (.claimed res), w') →
      s.shared.ledger.db.core.Idle s.shared.now cl.job ∧
        w'.db.core.Idle s.shared.now cl.job := by
  have hs := (reachable_inv h).sound
  refine ⟨fun job state hst hi => hs.idle job state hst ?_, ?_⟩
  · rcases hi with rfl | rfl
    · decide
    · decide
  · intro cl c res w' hcl
    obtain ⟨-, o, hrun, rfl⟩ := write_ok hcl
    obtain ⟨res', hres, -⟩ := return_ok hrun
    obtain ⟨ch, hste, hch⟩ := claim_effect s.shared.now hres
    exact hste.claim_idle hch hs

/-- A job that was released while a lease of it, which is over, is still in the table. -/
def releasedEarly : List (Move Proc Answer) :=
  submit 0 (.claim (workerClaim "j" false)) 0 ++
  submit 1 (.acquire ⟨"j", "r", .path, 10 * second, true⟩) 1 ++
  submit 2 (.recordQuotaPool ⟨"j", "p", "", "pool", []⟩) 2 ++
  submit 3 (.releaseQuotaPool "j" "pool" false) 20

/-- The released job of such a run holds nothing. -/
theorem claimed_or_released_holds_nothing_early : ∃ s, Reachable .empty s ∧
    s.shared.ledger.db.jobState "j" = some .released ∧
    s.shared.ledger.db.core.leases.rows.length = 1 ∧
    s.shared.ledger.db.core.Idle s.shared.now "j" := by
  obtain ⟨s, hrea, ⟨hst, hl⟩, hi⟩ := exists_reachable (w := .empty) (p := fun s =>
      s.shared.ledger.db.jobState "j" = some .released ∧
      s.shared.ledger.db.core.leases.rows.length = 1) releasedEarly (by decide +kernel)
    fun s hrea hs => (claimed_or_released_holds_nothing hrea).1 "j" _ hs.1 (.inr rfl)
  exact ⟨s, hrea, hst, hl, hi⟩

/-! ## Generations -/

/-- The rows that say how a generation ended. -/
def terminalRows (core : Core) (g : LeaseRow) : List LeaseHistory :=
  core.history.rows.filter fun h =>
    h.lease.key = g.key && h.lease.token = g.token && h.state ≠ .expired

/-- The rows that say that a generation was found expired. -/
def expiredRows (core : Core) (g : LeaseRow) : List LeaseHistory :=
  core.history.rows.filter fun h =>
    h.lease.key = g.key && h.lease.token = g.token && h.state = .expired

theorem mem_terminalRows {core : Core} {g : LeaseRow} {x : LeaseHistory} :
    x ∈ terminalRows core g ↔ x ∈ core.history ∧ x.lease.key = g.key ∧
      x.lease.token = g.token ∧ x.state ≠ .expired := by
  simp [terminalRows, and_assoc]

/-- The history has no row twice. -/
theorem history_nodup (core : Core) : core.history.rows.Nodup := core.history.nodup.of_map _

/-- **Conservation for one generation.** -/
theorem Tracks.conserved {core : Core} {gs : List LeaseRow} (h : Tracks core gs) {g : LeaseRow}
    (hg : g ∈ gs) :
    (g ∈ core.leases ∧ terminalRows core g = []) ∨
    (g ∉ core.leases ∧ ∃ x, terminalRows core g = [x] ∧ x.lease = g) := by
  -- a row of the history under the generation's token is about the generation
  have hls : ∀ x ∈ terminalRows core g, x.lease = g := by
    intro x hx
    obtain ⟨hmem, -, ht, -⟩ := mem_terminalRows.mp hx
    exact h.eq_of_seq (h.archived x hmem) hg (by rw [ht])
  by_cases hl : g ∈ core.leases
  · refine .inl ⟨hl, eq_nil_iff_forall_not_mem.mpr fun x hx => ?_⟩
    obtain ⟨hmem, -, -, hst⟩ := mem_terminalRows.mp hx
    exact hst (h.notEnded x hmem (hls x hx ▸ hl))
  obtain ⟨x, hx, hxg, hst⟩ := h.ended g hg hl
  have hxr : x ∈ terminalRows core g := mem_terminalRows.mpr ⟨hx, by rw [hxg], by rw [hxg], hst⟩
  have ho : ∀ y ∈ terminalRows core g, y = x := by
    intro y hy
    obtain ⟨hmem, -, -, hys⟩ := mem_terminalRows.mp hy
    exact h.once y hmem x hx ((hls y hy).trans hxg.symm) hys hst
  refine .inr ⟨hl, x, ?_, hxg⟩
  have hnd : (terminalRows core g).Nodup := (history_nodup core).filter _
  obtain ⟨n, hn⟩ : ∃ n, terminalRows core g = List.replicate n x :=
    ⟨_, eq_replicate_of_mem ho⟩
  rw [hn] at hnd hxr ⊢
  have hle : n ≤ 1 := nodup_replicate.mp hnd
  have hp : n ≠ 0 := by rintro rfl; simp at hxr
  obtain rfl : n = 1 := by omega
  rfl

/-- A generation is found expired at most once. -/
theorem expiredRows_length_le (core : Core) (g : LeaseRow) : (expiredRows core g).length ≤ 1 := by
  have hke : ((expiredRows core g).map LeaseHistory.key).Nodup :=
    core.history.nodup.sublist (filter_sublist.map _)
  have hsame : ∀ k ∈ (expiredRows core g).map LeaseHistory.key, k = (g.key, g.token, .expired) := by
    intro k hk
    obtain ⟨x, hx, rfl⟩ := mem_map.mp hk
    obtain ⟨-, hx⟩ := mem_filter.mp hx
    simp only [Bool.and_eq_true, decide_eq_true_eq] at hx
    rw [LeaseHistory.key, hx.1.1, hx.1.2, hx.2]
  rw [eq_replicate_of_mem hsame] at hke
  simpa using hke

end Panewire.Arbiter

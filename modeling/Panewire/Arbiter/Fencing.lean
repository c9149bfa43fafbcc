import Panewire.Arbiter.Histories

/-!
# Fencing tokens

What a token is good for, over every history of the ledger: each grant has a number of its own,
larger than all before it; each generation is live or has ended once; and only the token of the live
generation releases a lease.
-/

namespace Panewire.Arbiter

open Data Conc

variable {s : Sys Shared Answer Label Proc} {core core' : Core}

/-! ## The history of leases only grows -/

theorem Core.mem_archive {row : LeaseRow} {state : HistoryState} {moment : ℤ} {x : LeaseHistory}
    (hx : x ∈ core.history) : x ∈ (core.archive row state moment).1.history := by
  show x ∈ (core.history.insertNew _).1
  rcases core.history.insertNew_cases ⟨row, state, iso moment⟩ with ⟨heq, -⟩ | ⟨-, -, hmem⟩
  · rwa [heq]
  · exact (hmem x).mpr (.inl hx)

@[simp] theorem Core.settle_history (cal : Calendar) (job : String) (moment : ℤ) :
    (core.settle cal job moment).history = core.history := by
  unfold settle
  split <;> rfl

theorem Step.history_grows {cal : Calendar} {now : ℤ} {ch : Change}
    (h : Step cal now core ch core') {x : LeaseHistory} (hx : x ∈ core.history) :
    x ∈ core'.history := by
  cases h with
  | @grant row moment job hm found token times expired =>
    unfold Core.superseding
    split
    · exact hx
    · exact Core.mem_archive hx
  | release =>
    rw [Core.settle_history]
    exact Core.mem_archive hx
  | expire => exact Core.mem_archive hx
  | abort | drop =>
    rw [Core.settle_history]
    exact hx
  | claim | reclaim | record | sweep | orphan => exact hx

/-! ## Conservation -/

/-- **Generations are conserved.** In every history tokens are granted with strictly increasing
numbers. Each granted generation is the live row of its resource and kind, or has exactly one row
that says how it ended, and that row is about it; it has at most one row that says it was found
expired; and no step takes a row out of the history. -/
theorem generations_conserved (h : Reachable .empty s) :
    ((grants s.shared.log).map (·.token.seq)).Pairwise (· < ·) ∧
    (∀ g ∈ grants s.shared.log,
      ((s.shared.ledger.db.core.leases.find g.key = some g ∧
          terminalRows s.shared.ledger.db.core g = []) ∨
        (g ∉ s.shared.ledger.db.core.leases ∧
          ∃ x, terminalRows s.shared.ledger.db.core g = [x] ∧ x.lease = g)) ∧
      (expiredRows s.shared.ledger.db.core g).length ≤ 1) ∧
    (∀ l ∈ s.shared.ledger.db.core.leases, l ∈ grants s.shared.log) ∧
    ∀ m t, s.move program limits m = some t → ∀ x ∈ s.shared.ledger.db.core.history,
      x ∈ t.shared.ledger.db.core.history := by
  have ht := (reachable_inv h).tracks
  refine ⟨ht.increasing, fun g hg => ⟨?_, expiredRows_length_le _ g⟩, ht.live, ?_⟩
  · rcases ht.conserved hg with ⟨hl, hn⟩ | he
    · exact .inl ⟨Table.find_of_mem hl, hn⟩
    · exact .inr he
  intro m t hm x hx
  rcases move_cases h hm with ⟨i, e, pass, r, -, -, heq⟩ | ⟨hdb, -⟩
  · rw [heq]
    obtain ⟨-, ⟨err, -, hdb, -⟩ | ⟨reply, chs, -, hst, -, -⟩⟩ :=
      s.shared.perform_cases pass r e
    · rwa [hdb]
    · exact hst.keeps (P := fun core => x ∈ core.history)
        (fun _ _ _ _ hs hx => hs.history_grows hx) hx
  · rwa [hdb]

/-- A lease that was found expired, superseded, and released under its second token. -/
def twoGenerations : List (Move Proc Answer) :=
  submit 0 (.claim (workerClaim "j" false)) 0 ++
  submit 1 (.acquire ⟨"j", "r", .path, 10 * second, true⟩) 1 ++
  [.start .gc, .sched 2 (.ofSecond 20 []), .sched 2 (.ofSecond 20 []), .sched 2 (.ofSecond 20 []),
    .sched 2 (.ofSecond 20 []), .sched 2 (.ofSecond 20 []), .sched 2 (.ofSecond 20 [])] ++
  submit 3 (.acquire ⟨"j", "r", .path, 10 * second, true⟩) 30 ++
  submit 4 (.release "j" "r" .path "2-5a" false) 31

/-- A run with two generations and three rows of history. -/
theorem generations_conserved_two : ∃ s, Reachable .empty s ∧
    ((grants s.shared.log).map (·.token.seq),
      s.shared.ledger.db.core.history.rows.map fun x => (x.lease.token.seq, x.state)) =
      ([1, 2], [(1, .expired), (1, .superseded), (2, .released)]) ∧
    ((grants s.shared.log).map (·.token.seq)).Pairwise (· < ·) := by
  exact exists_reachable twoGenerations (by decide +kernel) fun s hrea _ =>
    (generations_conserved hrea).1

/-! ## Stale holders -/

/-- A release that is not forced succeeds only for the owner of the live generation. -/
theorem release_owner {w w' : Ledger} {c : Call} {job resource token : String} {kind : LeaseKind}
    {reply : Reply} (h : w.perform (.release job resource kind token false) c = (.ok reply, w')) :
    ∃ row, w.db.core.leases.find (resource, kind) = some row ∧ row.job = job ∧
      row.token.text = token := by
  obtain ⟨-, o, hrun, rfl⟩ := write_ok h
  obtain ⟨n, hn, -⟩ := return_ok hrun
  obtain ⟨row, -, hfi, ho⟩ := release_effect le_rfl hn
  exact ⟨row, hfi, ho rfl⟩

/-- **A stale holder is refused.** In every history a release that is not forced succeeds only with
the job and the token of the live generation of that resource and kind; and a release with the token
of a generation that is no longer live fails and leaves the database as it was, on every resource
and under every job id. -/
theorem release_needs_live_token (h : Reachable .empty s) :
    (∀ job resource kind token c reply w',
      s.shared.ledger.perform (.release job resource kind token false) c = (.ok reply, w') →
      ∃ row ∈ grants s.shared.log,
        s.shared.ledger.db.core.leases.find (resource, kind) = some row ∧
        row.job = job ∧ row.token.text = token) ∧
    ∀ g ∈ grants s.shared.log, g ∉ s.shared.ledger.db.core.leases →
      ∀ job resource kind c, ∃ e w',
        s.shared.ledger.perform (.release job resource kind g.token.text false) c =
          (.error e, w') ∧ w'.db = s.shared.ledger.db := by
  have ht := (reachable_inv h).tracks
  refine ⟨fun job resource kind token c reply w' hrel => ?_, fun g hg hde job resource kind c => ?_⟩
  · obtain ⟨row, hfi, ho⟩ := release_owner hrel
    exact ⟨row, ht.live row (Table.mem_of_find hfi).1, hfi, ho⟩
  rcases hrel : s.shared.ledger.perform (.release job resource kind g.token.text false) c with
    ⟨_ | reply, w'⟩
  · exact ⟨_, w', rfl, (write_error hrel).1⟩
  · -- a live generation with this token would be the dead one
    obtain ⟨row, hfi, -, htok⟩ := release_owner hrel
    have hrow : row ∈ s.shared.ledger.db.core.leases := (Table.mem_of_find hfi).1
    have hsame : row = g :=
      ht.eq_of_seq (ht.live row hrow) hg (Token.seq_of_text_eq htok)
    exact absurd (hsame ▸ hrow) hde

/-- The holder of the first of two generations replays its token. -/
theorem release_needs_live_token_replayed : ∃ s, Reachable .empty s ∧
    (∃ g ∈ grants s.shared.log, g ∉ s.shared.ledger.db.core.leases ∧ g.token.text = "1-5a") ∧
    ∀ c, ∃ e w', s.shared.ledger.perform (.release "j" "r" .path "1-5a" false) c = (.error e, w') ∧
      w'.db = s.shared.ledger.db := by
  refine exists_reachable (twoGenerations.take 13) (by decide +kernel) fun s hrea hs c => ?_
  obtain ⟨g, hg, hde, ht⟩ := hs
  rw [← ht]
  exact (release_needs_live_token hrea).2 g hg hde "j" "r" .path c

/-- A lease goes by its release, or by a grant after it has expired. -/
theorem Step.lease_kept {cal : Calendar} {now : ℤ} {ch : Change} {l : LeaseRow}
    (h : Step cal now core ch core') (hl : l ∈ core.leases) : l ∈ core'.leases ∨
      (∃ force, ch = .released l force) ∨ ∃ row, ch = .granted row ∧ row.key = l.key ∧
        ∃ expiry, parseISO cal l.expires = some expiry ∧ expiry ≤ now := by
  cases h with
  | @grant row moment _ hm _ _ _ hexp =>
    by_cases hk : l.key = row.key
    · obtain ⟨expiry, he, hle⟩ := hexp l (hk ▸ Table.find_of_mem hl)
      exact .inr (.inr ⟨row, rfl, hk.symm, expiry, he, hle.trans hm⟩)
    · have hs : l ∈ (core.superseding row.key moment).leases :=
        Core.mem_superseding_leases.mpr ⟨hl, hk⟩
      rcases Table.insertNew_cases (core.superseding ..).leases row with ⟨heq, -⟩ | ⟨-, -, hmem⟩
      · exact .inl (heq ▸ hs)
      · exact .inl ((hmem l).mpr (.inl hs))
  | @release row force _ _ hfi =>
    by_cases hk : l.key = row.key
    · obtain rfl := Table.eq_of_key hl (Table.mem_of_find hfi).1 hk
      exact .inr (.inl ⟨force, rfl⟩)
    · rw [Core.settle_leases]
      exact .inl (Table.mem_deleteWhere.mpr ⟨hl, decide_eq_false hk⟩)
  | abort | drop => exact .inl (by rwa [Core.settle_leases])
  | _ => exact .inl hl

/-- A request that may end the lease `l` at `now`: its release, forced or with its job and token,
or a grant of its resource once it has expired. -/
def Request.Ends (cal : Calendar) (now : ℤ) (l : LeaseRow) : Request → Prop
  | .release job resource kind token force => l.key = (resource, kind) ∧
      (force = false → l.job = job ∧ l.token.text = token)
  | .acquire req => (req.resource, req.kind) = l.key ∧
      ∃ expiry, parseISO cal l.expires = some expiry ∧ expiry ≤ now
  | _ => False

/-- **A lease stays with its holder** in every interleaving and from any ledger, until a request
that may end it succeeds. -/
theorem lease_kept_until_ended {w : Ledger} {t : Sys Shared Answer Label Proc}
    {m : Move Proc Answer} {l : LeaseRow} (h : Reachable w s)
    (hm : s.move program limits m = some t) (hl : l ∈ s.shared.ledger.db.core.leases)
    (hgo : l ∉ t.shared.ledger.db.core.leases) :
    ∃ i e pass r reply, m = .sched i e ∧ s.label m = some (.call pass r) ∧
      (s.shared.ledger.perform r (s.shared.callOf e)).1 = .ok reply ∧
      r.Ends e.call.calendar t.shared.now l := by
  obtain ⟨i, e, pass, r, rfl, hlab, heq⟩ | ⟨hdb, -⟩ := move_cases h hm
  · rw [heq] at hgo ⊢
    obtain ⟨hnow, ⟨err, -, hdb, -⟩ | ⟨reply, chs, hok, hst, hmak, -⟩⟩ :=
      s.shared.perform_cases pass r e
    · exact absurd (hdb ▸ hl) hgo
    refine ⟨i, e, pass, r, reply, rfl, hlab, hok, ?_⟩
    by_contra hno
    refine hgo (hst.keeps (P := fun core => l ∈ core.leases) (fun _ ch _ hch hs hl => ?_) hl)
    refine (hs.lease_kept hl).resolve_right fun hr => hno ?_
    -- no other request makes such a change
    cases r with
    | release =>
      obtain ⟨row, rfl, hfi, ho⟩ := hmak
      cases List.mem_singleton.mp hch
      obtain ⟨_, ⟨⟩⟩ | ⟨_, ⟨⟩, -⟩ := hr
      exact ⟨(Table.mem_of_find hfi).2, ho⟩
    | acquire =>
      obtain ⟨lease, -, rfl, -, hkey⟩ := hmak
      cases List.mem_singleton.mp hch
      obtain ⟨_, ⟨⟩⟩ | ⟨_, ⟨⟩, hk, he⟩ := hr
      exact ⟨hkey.symm.trans hk, hnow ▸ he⟩
    | _ => grind [Request.Makes, Change.ByPass]
  · exact absurd (hdb ▸ hl) hgo

theorem lease_kept_until_ended_second : ∃ s t l r reply, Reachable .empty s ∧
    s.move program limits (.sched 3 (.ofSecond 30 [])) = some t ∧
    l ∈ s.shared.ledger.db.core.leases ∧
    (s.shared.ledger.perform r (s.shared.callOf (.ofSecond 30 []))).1 = .ok reply ∧
    Request.Ends plainCalendar t.shared.now l r := by
  obtain ⟨s, t, h, hm, l, hl, hgo⟩ := exists_move (w := .empty)
    (p := fun s t => ∃ l ∈ s.shared.ledger.db.core.leases.rows,
      l ∉ t.shared.ledger.db.core.leases.rows)
    (twoGenerations.take 12) (.sched 3 (.ofSecond 30 [])) (by decide +kernel)
  obtain ⟨_, _, _, r, reply, ⟨⟩, -, hok, hr⟩ := lease_kept_until_ended h hm hl hgo
  exact ⟨s, t, l, r, reply, h, hm, hl, hok, hr⟩

end Panewire.Arbiter

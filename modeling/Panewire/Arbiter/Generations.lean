import Panewire.Arbiter.Sound
import Panewire.Text.Digits

/-!
# Generations of leases

Every grant of a lease starts a **generation**, named by its fencing token. `Tracks` is the
conservation law: a generation is the live row of its resource and kind, or it has one row in the
history that says how it ended, never both and never neither. Tokens are minted with increasing
numbers, so a token names one generation for ever.
-/

namespace Panewire.Arbiter

open Data List Table

variable {cal : Calendar} {now : ℤ} {core core' : Core} {ch : Change} {grants : List LeaseRow}
  {row : LeaseRow} {moment : ℤ}

/-- Different numbers give different tokens, whatever the secrets are. -/
theorem Token.seq_of_text_eq {a b : Token} (h : a.text = b.text) : a.seq = b.seq := by
  have hcut : ∀ t : Token, Go.cut t.text '-' = toString t.seq := by
    intro t
    have hda : Go.All (fun c => c ≠ '-') (toString t.seq) :=
      Go.all_natRepr (fun c hc => by rintro rfl; exact absurd hc (by decide)) t.seq
    have hl : t.text.toList = (toString t.seq).toList ++ '-' :: t.secret.toList := by
      have hlit : "-".toList = ['-'] := by decide
      simp [Token.text, hlit]
    rw [Go.cut, hl, Go.cutChars_append _ fun hm => hda _ hm rfl, String.ofList_toList]
  exact Go.natRepr_injective (by rw [← hcut a, ← hcut b, h])

/-- The generation that a change starts. -/
def Change.granting : Change → List LeaseRow
  | .granted row => [row]
  | _ => []

/-- The tables keep track of the generations granted so far, oldest first. -/
structure Tracks (core : Core) (grants : List LeaseRow) : Prop where
  increasing : (grants.map (·.token.seq)).Pairwise (· < ·)
  minted : ∀ g ∈ grants, g.token.seq ≤ core.tokenSeq
  live : ∀ l ∈ core.leases, l ∈ grants
  archived : ∀ h ∈ core.history, h.lease ∈ grants
  /-- a live generation has at most been found expired -/
  notEnded : ∀ h ∈ core.history, h.lease ∈ core.leases → h.state = .expired
  /-- a generation that is not live has ended somehow -/
  ended : ∀ g ∈ grants, g ∉ core.leases → ∃ h ∈ core.history, h.lease = g ∧ h.state ≠ .expired
  /-- it ended once -/
  once : ∀ h ∈ core.history, ∀ h' ∈ core.history, h.lease = h'.lease → h.state ≠ .expired →
    h'.state ≠ .expired → h = h'

namespace Tracks

theorem empty : Tracks Db.empty.core [] where
  increasing := List.Pairwise.nil
  minted g hg := by cases hg
  live l hl := absurd hl not_mem_empty
  archived h hh := absurd hh not_mem_empty
  notEnded h hh := absurd hh not_mem_empty
  ended g hg := by cases hg
  once h hh := absurd hh not_mem_empty

variable (h : Tracks core grants)
include h

/-- A sequence number names one generation. -/
theorem eq_of_seq {g g' : LeaseRow} (hg : g ∈ grants) (hg' : g' ∈ grants)
    (hs : g.token.seq = g'.token.seq) : g = g' :=
  inj_on_of_nodup_map (h.increasing.imp fun hlt => Nat.ne_of_lt hlt) hg hg' hs

/-- Changes elsewhere do not matter. -/
theorem congr (hs : core'.tokenSeq = core.tokenSeq)
    (hl : core'.leases = core.leases) (hh : core'.history = core.history) :
    Tracks core' grants := by
  obtain ⟨h₁, h₂, h₃, h₄, h₅, h₆, h₇⟩ := h
  refine ⟨h₁, ?_, ?_, ?_, ?_, ?_, ?_⟩
  · rwa [hs]
  · rwa [hl]
  · rwa [hh]
  · rwa [hh, hl]
  · rwa [hh, hl]
  · rwa [hh]

/-- Finding a live lease expired, for the first time or again. -/
theorem expire (hrow : row ∈ core.leases) : Tracks (core.archive row .expired moment).1 grants := by
  have hold : ∀ x ∈ core.history, x ∈ (core.archive row .expired moment).1.history := by
    intro x hx
    rcases core.history.insertNew_cases ⟨row, .expired, iso moment⟩ with ⟨heq, -⟩ | ⟨-, -, hmem⟩
    · show x ∈ (core.history.insertNew _).1
      rwa [heq]
    · exact (hmem x).mpr (.inl hx)
  refine ⟨h.increasing, h.minted, h.live, ?_, ?_, ?_, ?_⟩
  · intro x hx
    rcases mem_insertNew hx with hx | rfl
    · exact h.archived x hx
    · exact h.live row hrow
  · intro x hx hl
    rcases mem_insertNew hx with hx | rfl
    · exact h.notEnded x hx hl
    · rfl
  · intro g hg hde
    obtain ⟨x, hx, hxg⟩ := h.ended g hg hde
    exact ⟨x, hold x hx, hxg⟩
  · intro x hx y hy hxy hxs hys
    rcases mem_insertNew hx with hx | rfl
    · rcases mem_insertNew hy with hy | rfl
      · exact h.once x hx y hy hxy hxs hys
      · exact absurd rfl hys
    · exact absurd rfl hxs

/-- **Ending a live generation**: it is archived and its row deleted. -/
theorem retire (hrow : row ∈ core.leases) {state : HistoryState} (hst : state ≠ .expired) :
    Tracks ((core.archive row state moment).1.deleteLease row.key) grants := by
  -- the archive does not have it in that state yet, so the insert is not ignored
  have hfr : ∀ x ∈ core.history,
      x.key ≠ LeaseHistory.key ⟨row, state, iso moment⟩ := by
    intro x hx hk
    obtain ⟨-, ht, hxs⟩ : x.lease.key = row.key ∧ x.lease.token = row.token ∧
        x.state = state := by simpa [LeaseHistory.key] using hk
    have hls : x.lease = row :=
      h.eq_of_seq (h.archived x hx) (h.live row hrow) (by rw [ht])
    exact hst (hxs ▸ h.notEnded x hx (hls ▸ hrow))
  have hmem : ∀ x, x ∈ (core.archive row state moment).1.history ↔
      x ∈ core.history ∨ x = ⟨row, state, iso moment⟩ := by
    rcases core.history.insertNew_cases ⟨row, state, iso moment⟩ with
      ⟨-, x, hx, hk⟩ | ⟨-, -, hmem⟩
    · exact absurd hk (hfr x hx)
    · exact hmem
  have hlss : ∀ l, l ∈ ((core.archive row state moment).1.deleteLease row.key).leases ↔
      l ∈ core.leases ∧ l ≠ row := by
    intro l
    show l ∈ core.leases.deleteWhere _ ↔ _
    rw [mem_deleteWhere, decide_eq_false_iff_not]
    refine and_congr_right fun hl => not_congr ⟨fun hk => ?_, fun heq => heq ▸ rfl⟩
    exact eq_of_key hl hrow hk
  refine ⟨h.increasing, h.minted, fun l hl => h.live l ((hlss l).mp hl).1, ?_, ?_, ?_, ?_⟩
  · intro x hx
    rcases (hmem x).mp hx with hx | rfl
    · exact h.archived x hx
    · exact h.live row hrow
  · intro x hx hli
    obtain ⟨hli, hne⟩ := (hlss _).mp hli
    rcases (hmem x).mp hx with hx | rfl
    · exact h.notEnded x hx hli
    · exact absurd rfl hne
  · intro g hg hde
    by_cases heq : g = row
    · exact ⟨⟨row, state, iso moment⟩, (hmem _).mpr (.inr rfl), heq.symm, hst⟩
    · have hde' : g ∉ core.leases := fun hli => hde ((hlss g).mpr ⟨hli, heq⟩)
      obtain ⟨x, hx, hxg⟩ := h.ended g hg hde'
      exact ⟨x, (hmem x).mpr (.inl hx), hxg⟩
  · intro x hx y hy hxy hxs hys
    rcases (hmem x).mp hx with hx | rfl
    · rcases (hmem y).mp hy with hy | rfl
      · exact h.once x hx y hy hxy hxs hys
      · exact absurd (h.notEnded x hx (hxy ▸ hrow)) hxs
    · rcases (hmem y).mp hy with hy | rfl
      · exact absurd (h.notEnded y hy (hxy ▸ hrow)) hys
      · rfl

/-- **Starting a generation** with the next token, where no lease is live. -/
theorem mint (ht : row.token.seq = core.tokenSeq + 1) (hfree : core.leases.find row.key = none) :
    Tracks { core with
      tokenSeq := core.tokenSeq + 1
      leases := (core.leases.insertNew row).1 } (grants ++ [row]) := by
  have hn : row ∉ grants := fun hmem => by have := h.minted row hmem; omega
  have hmem : ∀ l, l ∈ (core.leases.insertNew row).1 ↔ l ∈ core.leases ∨ l = row := by
    intro l
    show l ∈ (core.leases.insertNew row).1.rows ↔ _
    rw [insertNew_rows hfree]
    simp
  refine ⟨?_, ?_, ?_, ?_, ?_, ?_, h.once⟩
  · rw [map_append, pairwise_append]
    refine ⟨h.increasing, pairwise_singleton _ _, fun a ha b hb => ?_⟩
    obtain ⟨g, hg, rfl⟩ := mem_map.mp ha
    obtain rfl : b = row.token.seq := by simpa using hb
    have := h.minted g hg
    omega
  · intro g hg
    show g.token.seq ≤ core.tokenSeq + 1
    rcases mem_append.mp hg with hg | hg
    · have := h.minted g hg
      omega
    · obtain rfl : g = row := by simpa using hg
      omega
  · intro l hl
    rcases (hmem l).mp hl with hl | rfl
    · exact mem_append_left _ (h.live l hl)
    · simp
  · exact fun x hx => mem_append_left _ (h.archived x hx)
  · intro x hx hli
    rcases (hmem _).mp hli with hli | heq
    · exact h.notEnded x hx hli
    · exact absurd (heq ▸ h.archived x hx) hn
  · intro g hg hde
    rcases mem_append.mp hg with hg | hg
    · exact h.ended g hg fun hli => hde ((hmem g).mpr (.inl hli))
    · obtain rfl : g = row := by simpa using hg
      exact absurd ((hmem g).mpr (.inr rfl)) hde

end Tracks

/-- Settling a job does not touch leases or tokens. -/
theorem Tracks.settle (h : Tracks core grants) (cal : Calendar) (job : String) (moment : ℤ) :
    Tracks (core.settle cal job moment) grants := by
  refine h.congr ?_ Core.settle_leases ?_
  · unfold Core.settle
    split <;> rfl
  · unfold Core.settle
    split <;> rfl

/-- **Every change keeps track.** -/
theorem Step.tracks (h : Step cal now core ch core') (ht : Tracks core grants) :
    Tracks core' (grants ++ ch.granting) := by
  cases h with
  | @grant row moment job hm found token times expired =>
    have hs : Tracks (core.superseding row.key moment) grants := by
      unfold Core.superseding
      split
      · exact ht
      · next held hfi => exact ht.retire (mem_of_find hfi).1 (by decide)
    have hfree : (core.superseding row.key moment).leases.find row.key = none :=
      find_eq_none.mpr fun l hl => (Core.mem_superseding_leases.mp hl).2
    have hmi := hs.mint (by rw [token, Core.superseding_tokenSeq]) hfree
    rw [Core.superseding_tokenSeq] at hmi
    exact hmi.congr rfl rfl rfl
  | @release row force moment hm found =>
    refine (append_nil grants).symm ▸ (ht.retire (mem_of_find found).1 ?_).settle cal _ _
    cases force with
    | true | false => decide
  | expire found => exact (append_nil grants).symm ▸ ht.expire found
  | abort => exact (append_nil grants).symm ▸ ht.settle cal _ _
  | drop =>
    refine (append_nil grants).symm ▸ Tracks.settle ?_ cal _ _
    exact ht.congr rfl rfl rfl
  | claim | reclaim | record | sweep | orphan =>
    exact (append_nil grants).symm ▸ ht.congr rfl rfl rfl

theorem Steps.tracks {chs : List Change} (h : Steps cal now core chs core')
    (ht : Tracks core grants) : Tracks core' (grants ++ chs.flatMap Change.granting) := by
  induction h generalizing grants with
  | nil => simpa using ht
  | cons hs _ ih =>
    have := ih (hs.tracks ht)
    rwa [append_assoc] at this

end Panewire.Arbiter

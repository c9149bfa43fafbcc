import Mathlib.Data.Prod.Lex
import Panewire.Fleet.History

/-!
# Attempts

A job may be worked on more than once: a claim, a spawn or a reprompt begins another **attempt**,
and what ended the one before no longer counts. Whether the current attempt is over, and whether it
was escalated, are folds over the history that start anew there.

* `Job.over`, `escalated` — the two folds; `foldl_over` and `escalated_append` say what events that
  begin no attempt do to them;
* `events_grown` — a directory to which files were added, while the clock did not move back, has the
  history it had and then the new events.
-/

namespace Panewire.Fleet

open Go Data Events List

variable {times : TimeText} {files : List EventFile} {evs : List Event} {ev : Event}

/-! ## The order of a history -/

/-- What events are sorted by. -/
def Event.key (ev : Event) : ℤ ×ₗ ℤ ×ₗ String := toLex (ev.time, toLex (ev.mtime, ev.name))

theorem before_iff {a b : Event} : a.before b = true ↔ a.key < b.key := by
  rw [Event.key, Event.key, Prod.Lex.toLex_lt_toLex, Prod.Lex.toLex_lt_toLex]
  unfold Event.before
  by_cases ht : a.time = b.time
  · by_cases hmti : a.mtime = b.mtime
    · rw [if_pos ht, if_pos hmti, decide_eq_true_iff]
      simp only [ht, hmti, lt_irrefl, true_and, false_or]
    · rw [if_pos ht, if_neg hmti, decide_eq_true_iff]
      simp only [ht, hmti, lt_irrefl, true_and, false_or, false_and, or_false]
  · rw [if_neg ht, decide_eq_true_iff]
    simp only [ht, false_and, or_false]

theorem before_eq_false_iff {a b : Event} : a.before b = false ↔ b.key ≤ a.key := by
  rw [← not_lt, ← before_iff, Bool.not_eq_true]

theorem sortEvents_pairwise (evs : List Event) :
    (sortEvents evs).Pairwise fun a b => a.key ≤ b.key := by
  have hle : (fun a b : Event => b.before a = false) = fun a b => a.key ≤ b.key := by
    funext a b
    exact propext before_eq_false_iff
  have : Std.Total fun a b : Event => b.before a = false := ⟨fun a b => by
    rw [before_eq_false_iff, before_eq_false_iff]
    exact le_total _ _⟩
  have : IsTrans Event fun a b => b.before a = false := ⟨fun a b c h h' => by
    rw [before_eq_false_iff] at h h' ⊢
    exact h.trans h'⟩
  rw [← hle]
  exact pairwise_insertionSort _ _

/-- Two orders of events with different names are one. -/
theorem eq_of_sorted {evs' : List Event} (hnms : (evs.map Event.name).Nodup) (hp : evs.Perm evs')
    (h : evs.Pairwise fun a b => a.key ≤ b.key) (h' : evs'.Pairwise fun a b => a.key ≤ b.key) :
    evs = evs' := by
  refine List.Perm.eq_of_pairwise (fun a b ha hb hab hba => ?_) h h' hp
  have hn : a.name = b.name := congrArg (fun k => (ofLex (ofLex k).2).2) (le_antisymm hab hba)
  exact inj_on_of_nodup_map hnms ha (hp.mem_iff.mpr hb) hn

/-- **Events that are not before what was there come after it.** -/
theorem sortEvents_append {new all : List Event} (hall : all.Perm (evs ++ new))
    (hn : (all.map Event.name).Nodup) (hl : ∀ a ∈ evs, ∀ b ∈ new, b.before a = false) :
    sortEvents all = sortEvents evs ++ sortEvents new := by
  have hp : (sortEvents all).Perm (sortEvents evs ++ sortEvents new) :=
    (sortEvents_perm all).trans
      (hall.trans ((sortEvents_perm evs).append (sortEvents_perm new)).symm)
  refine eq_of_sorted ?_ hp (sortEvents_pairwise all) ?_
  · exact (((sortEvents_perm all).map _).nodup_iff).mpr hn
  · refine pairwise_append.mpr ⟨sortEvents_pairwise evs, sortEvents_pairwise new, ?_⟩
    intro a ha b hb
    exact before_eq_false_iff.mp
      (hl a ((sortEvents_perm evs).mem_iff.mp ha) b ((sortEvents_perm new).mem_iff.mp hb))

/-! ## A directory that grows -/

/-- The events in the files that are read. -/
def readEvents (times : TimeText) (files : List EventFile) : List Event :=
  files.filterMap fun f => if f.isJson then (Event.read times f).toOption else none

theorem events_eq_ok_iff :
    events times files = .ok evs ↔
      (∀ f ∈ files, f.isJson = true → ∃ ev, Event.read times f = .ok ev) ∧
        evs = sortEvents (readEvents times files) := by
  have hre : ∀ {l : List EventFile} {read : List Event},
      l.mapM (Event.read times) = .ok read →
        read = l.filterMap fun f => (Event.read times f).toOption := by
    intro l read h
    have ha := mapM_ok_iff.mp h
    clear h
    induction ha with
    | nil => rfl
    | cons hev _ ih =>
      rw [filterMap_cons, hev, ← ih]
      rfl
  have hfil : readEvents times files =
      (files.filter EventFile.isJson).filterMap fun f => (Event.read times f).toOption :=
    (filterMap_filter ..).symm
  rw [events_ok, hfil]
  constructor
  · rintro ⟨read, h, rfl⟩
    refine ⟨fun f hf hj => ?_, by rw [hre h]⟩
    obtain ⟨ev, -, hev⟩ := exists_of_mapM_ok h (mem_filter.mpr ⟨hf, hj⟩)
    exact ⟨ev, hev⟩
  · rintro ⟨ha, rfl⟩
    obtain ⟨read, h⟩ := mapM_ok_of_forall (f := Event.read times)
      fun f hf => ha f (mem_of_mem_filter hf) (mem_filter.mp hf).2
    exact ⟨read, h, by rw [hre h]⟩

/-- **The clock did not move back**: no file that was added is before one that was there. -/
def Forward (times : TimeText) (dir dir' : EventsDir) : Prop :=
  ∀ f ∈ dir, ∀ g ∈ dir', g ∉ dir → ∀ ev ev', Event.read times f = .ok ev →
    Event.read times g = .ok ev' → ev'.before ev = false

theorem not_mem_of_added {dir dir' : EventsDir} {new : List EventFile}
    (hro : dir'.rows = dir.rows ++ new) {g : EventFile} (hg : g ∈ new) : g ∈ dir' ∧ g ∉ dir := by
  refine ⟨Table.mem_rows.mp (hro ▸ mem_append_right _ hg), fun hdir => ?_⟩
  have hnd := dir'.nodup
  rw [hro, map_append, nodup_append] at hnd
  exact hnd.2.2 _ (mem_map_of_mem hdir) _ (mem_map_of_mem hg) rfl

theorem toOption_eq_some {f : EventFile} :
    (Event.read times f).toOption = some ev ↔ Event.read times f = .ok ev := by
  cases Event.read times f <;> simp [Except.toOption]

theorem mem_readEvents :
    ev ∈ readEvents times files ↔ ∃ f ∈ files, f.isJson = true ∧ Event.read times f = .ok ev := by
  simp only [readEvents, mem_filterMap, Option.ite_none_right_eq_some, toOption_eq_some]

/-- The names of what is read are different, as those of the files are. -/
theorem nodup_readEvents
    (h : (files.map EventFile.name).Nodup) : ((readEvents times files).map Event.name).Nodup := by
  refine List.Nodup.sublist ?_ h
  clear h
  induction files with
  | nil => exact List.Sublist.refl _
  | cons f files ih =>
    rw [readEvents, filterMap_cons]
    split
    · exact ih.trans (sublist_cons_self _ _)
    next ev hev =>
    obtain ⟨-, hev⟩ := Option.ite_none_right_eq_some.mp hev
    rw [map_cons, (Event.read_ok (toOption_eq_some.mp hev)).1]
    exact ih.cons_cons _

/-- **The history of a directory that has grown**: what it was, and then the new events. -/
theorem events_grown {dir dir' : EventsDir} {new : List EventFile}
    (hro : dir'.rows = dir.rows ++ new)
    (hre : ∀ f ∈ new, f.isJson = true ∧ ∃ ev, Event.read times f = .ok ev)
    (he : events times dir.listing = .ok evs) (hc : Forward times dir dir') :
    ∃ later, events times dir'.listing = .ok (evs ++ later) ∧
      ∀ kind, (∃ ev ∈ later, ev.kind = kind) ↔ ∃ f ∈ new, fileKind f = kind := by
  obtain ⟨hall, rfl⟩ := events_eq_ok_iff.mp he
  have hl : dir'.listing.Perm (dir.listing ++ new) := by
    refine (perm_insertionSort _ _).trans ?_
    rw [hro]
    exact (perm_insertionSort _ _).symm.append_right new
  refine ⟨sortEvents (readEvents times new), events_eq_ok_iff.mpr ⟨fun f hf hj => ?_, ?_⟩, ?_⟩
  · rcases mem_append.mp (hl.mem_iff.mp hf) with hf | hf
    · exact hall f hf hj
    · exact (hre f hf).2
  · refine (sortEvents_append ?_ (nodup_readEvents dir'.nodup_sorted) ?_).symm
    · have happ : readEvents times (dir.listing ++ new) =
          readEvents times dir.listing ++ readEvents times new := filterMap_append ..
      rw [← happ]
      exact hl.filterMap _
    · intro a ha b hb
      obtain ⟨f, hf, -, hrea⟩ := mem_readEvents.mp ha
      obtain ⟨g, hg, -, hread⟩ := mem_readEvents.mp hb
      obtain ⟨hg, hn⟩ := not_mem_of_added hro hg
      exact hc f (Table.mem_sorted.mp hf) g hg hn a b hrea hread
  · intro kind
    constructor
    · rintro ⟨ev, hev, rfl⟩
      obtain ⟨f, hf, -, hrea⟩ := mem_readEvents.mp ((sortEvents_perm _).mem_iff.mp hev)
      exact ⟨f, hf, (Event.read_ok hrea).2.1.symm⟩
    · rintro ⟨f, hf, rfl⟩
      obtain ⟨hj, ev, hrea⟩ := hre f hf
      exact ⟨ev, (sortEvents_perm _).mem_iff.mpr (mem_readEvents.mpr ⟨f, hf, hj, hrea⟩),
        (Event.read_ok hrea).2.1⟩

/-! ## Whether the attempt is over -/

/-- The kinds that begin an attempt. -/
def reviveKinds : List String := claimKinds ++ ["job.spawned", "job.reprompted"]

def Job.over (j : Job) : Bool := j.terminal || j.reaped

/-- The kinds after which an attempt is over. -/
def overKinds : List String := terminalKinds ++ ["job.reaped"]

theorem Job.observe_over {j : Job} (h : ev.kind ∉ reviveKinds) :
    (j.observe ev).over = (j.over || decide (ev.kind ∈ overKinds)) := by
  obtain ⟨hcl, hsp, hrep⟩ : ev.kind ∉ claimKinds ∧ ev.kind ≠ "job.spawned" ∧
      ev.kind ≠ "job.reprompted" := by
    simpa [reviveKinds] using h
  unfold Job.observe
  simp only [hcl, hsp, hrep, if_false]
  by_cases ht : ev.kind ∈ terminalKinds
  · split <;> simp [Job.over, overKinds, ht]
  · by_cases hrea : ev.kind = "job.reaped"
    · split <;> simp [Job.over, overKinds, hrea]
    · split <;> simp [Job.over, overKinds, ht, hrea]

theorem foldl_over {j : Job} {later : List Event} (h : ∀ ev ∈ later, ev.kind ∉ reviveKinds) :
    (later.foldl Job.observe j).over = true ↔
      j.over = true ∨ ∃ ev ∈ later, ev.kind ∈ overKinds := by
  induction later generalizing j with
  | nil => simp
  | cons ev later ih =>
    rw [foldl_cons, ih fun ev' h' => h ev' (mem_cons_of_mem ev h'),
      Job.observe_over (h ev mem_cons_self), Bool.or_eq_true, decide_eq_true_iff, or_assoc]
    simp only [mem_cons, exists_eq_or_imp]

/-! ## Whether it was escalated -/

/-- **The current attempt was escalated**: an escalation is later than the newest event that begins
an attempt. -/
def escalated (evs : List Event) : Bool :=
  evs.foldl (fun escalated ev =>
    if ev.kind ∈ reviveKinds then false else escalated || ev.kind = "job.escalate") false

theorem escalated_append {later : List Event} (h : ∀ ev ∈ later, ev.kind ∉ reviveKinds) :
    escalated (evs ++ later) = true ↔
      escalated evs = true ∨ ∃ ev ∈ later, ev.kind = "job.escalate" := by
  unfold escalated
  rw [foldl_append]
  generalize evs.foldl _ false = before
  induction later generalizing before with
  | nil => simp
  | cons ev later ih =>
    rw [foldl_cons, ih fun ev' h' => h ev' (mem_cons_of_mem ev h'),
      if_neg (h ev mem_cons_self), Bool.or_eq_true, decide_eq_true_iff, or_assoc]
    simp only [mem_cons, exists_eq_or_imp]

end Panewire.Fleet

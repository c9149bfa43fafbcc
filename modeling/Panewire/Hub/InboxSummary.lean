import Panewire.Hub.RelayText
import Mathlib.Data.List.Dedup

/-!
# The inbox summary line

A lane with an inbox summary gets one more line with each directive: how many unread items of which
kinds wait for it, the titles of reports, and the document that has the details. The line is cut to
a number of characters, the pointer to the document never.
-/

namespace Panewire.Hub

open Go

structure LaneInboxItem where
  kind : RelayKind
  event : HubJobEventPayload

def deliveryEventText (e : HubJobEventPayload) : String :=
  e.text ++ "\n" ++ e.reportLastLine ++ "\n" ++ e.question ++ "\n" ++ e.reason

def inboxSummaryKind (i : LaneInboxItem) : String :=
  let text := deliveryEventText i.event
  if contains text "[dots] RESULT" then "dots"
  else match i.event.notifyType with
    | some t => t.wire
    | none =>
      if contains text "\"kind\":\"idle-wake\"" ∨ contains text "\"kind\": \"idle-wake\"" then
        "idle-wake"
      else if contains text "[mergewake] MERGED" then "merged"
      else if contains text "[mergewake] READY" then "ready"
      else if contains text "[report]" ∨ i.kind = .jobCompleted ∨ i.kind = .jobJoined then "report"
      else i.kind.wire

def inboxSummaryTitleRunes : ℕ := 60

/-- The first line of a report is its title. -/
def inboxSummaryTitle (i : LaneInboxItem) : String :=
  let source := if i.event.text = "" then i.event.reportLastLine else i.event.text
  let first := String.ofList (cutChars '\n' source.toList).1
  let text := join " " (fields first)
  trimPrefix (trimPrefix text "[dots] RESULT ") "[report] "

def inboxSummaryTitles (items : List LaneInboxItem) : List String :=
  items.filterMap fun i =>
    if (inboxSummaryKind i = "dots" ∨ inboxSummaryKind i = "report") ∧ inboxSummaryTitle i ≠ "" then
      some (runePrefix (inboxSummaryTitle i) inboxSummaryTitleRunes)
    else none

def inboxSummaryParts (items : List LaneInboxItem) : List String :=
  let kinds := items.map inboxSummaryKind
  (kinds.dedup.mergeSort).map fun kind => kind ++ " " ++ toString (kinds.count kind)

def capInboxSummaryContent (content : String) (budget : ℕ) : String :=
  if content.length ≤ budget then content else runePrefix content (budget - 1) ++ "…"

def inboxSummaryContent (items : List LaneInboxItem) : String :=
  let titles := inboxSummaryTitles items
  let content := "[inbox] " ++ toString items.length ++ " new: " ++
    join ", " (inboxSummaryParts items)
  if titles = [] then content else content ++ " | " ++ join "; " titles

def inboxSummaryLine (items : List LaneInboxItem) (doc : String) (limit : ℕ) : String :=
  let pointer := " | hk:doc " ++ doc
  capInboxSummaryContent (inboxSummaryContent items) (limit - pointer.length) ++ pointer

/-- What a summary is made of: accepted events, a document key of the digest store and the limit of
the lane's policy. -/
structure InboxSummary where
  items : List LaneInboxItem
  sound : ∀ i ∈ items, i.event.Sound i.kind
  /-- the key of the newest digest -/
  doc : String
  doc_clean : Clean doc
  doc_length : doc.length ≤ 180
  limit : ℕ
  limit_bounds : 240 ≤ limit ∧ limit ≤ 300

def InboxSummary.line (s : InboxSummary) : String := inboxSummaryLine s.items s.doc s.limit

/-! ## Bounds of the line -/

theorem natRepr_clean (n : ℕ) : Clean (toString n) := by
  refine all_natRepr (fun c hc => ?_) n
  refine ⟨?_, ?_, ?_⟩ <;> rintro rfl <;> revert hc <;> decide

theorem inboxSummaryKind_clean (i : LaneInboxItem) : Clean (inboxSummaryKind i) := by
  have hw : ∀ t : NotifyType, Clean t.wire := by intro t; cases t <;> decide
  have hkind : ∀ k : RelayKind, Clean k.wire := by intro k; cases k <;> decide
  unfold inboxSummaryKind
  dsimp only
  split
  · decide
  · split
    · exact hw _
    · split_ifs <;> first | decide | exact hkind _

theorem inboxSummaryTitles_clean {items : List LaneInboxItem}
    (h : ∀ i ∈ items, i.event.Sound i.kind) : ∀ t ∈ inboxSummaryTitles items, Clean t := by
  intro t ht
  obtain ⟨i, hi, ht⟩ := List.mem_filterMap.mp ht
  obtain ⟨-, ht⟩ := Option.ite_none_right_eq_some.mp ht
  obtain rfl := Option.some.inj ht
  have hs : Clean (if i.event.text = "" then i.event.reportLastLine else i.event.text) := by
    split
    · obtain ⟨-, -, -, -, hl, -, -⟩ := (h i hi).parts
      exact hl.clean
    · exact (h i hi).text
  refine All.runePrefix ?_ _
  refine All.trimPrefix (All.trimPrefix ?_ _) _
  refine All.join (by decide) (All.fields ?_)
  exact hs.ofList_sublist (cutChars_fst_sublist _ _)

theorem inboxSummaryContent_clean {items : List LaneInboxItem}
    (h : ∀ i ∈ items, i.event.Sound i.kind) : Clean (inboxSummaryContent items) := by
  have hp : ∀ t ∈ inboxSummaryParts items, Clean t := by
    intro t ht
    obtain ⟨kind, hkind, rfl⟩ := List.mem_map.mp ht
    have hkind : kind ∈ items.map inboxSummaryKind := by
      simpa [List.mem_mergeSort] using hkind
    obtain ⟨i, -, rfl⟩ := List.mem_map.mp hkind
    simp only [all_append]
    exact ⟨⟨inboxSummaryKind_clean i, by decide⟩, natRepr_clean _⟩
  have hct : Clean ("[inbox] " ++ toString items.length ++ " new: " ++
      join ", " (inboxSummaryParts items)) := by
    simp only [all_append]
    exact ⟨⟨⟨by decide, natRepr_clean _⟩, by decide⟩, All.join (by decide) hp⟩
  unfold inboxSummaryContent
  dsimp only
  split
  · exact hct
  · exact all_append.mpr ⟨all_append.mpr ⟨hct, by decide⟩,
      All.join (by decide) (inboxSummaryTitles_clean h)⟩

theorem capInboxSummaryContent_length {content : String} {budget : ℕ} (h : 1 ≤ budget) :
    (capInboxSummaryContent content budget).length ≤ budget := by
  unfold capInboxSummaryContent
  split
  · assumption
  · have h₁ := length_runePrefix_le content (budget - 1)
    have h₂ : "…".length = 1 := by decide
    rw [String.length_append]
    omega

/-- **A summary line** is one line of at most 300 characters. -/
theorem InboxSummary.line_short (s : InboxSummary) : Clean s.line ∧ s.line.length ≤ 300 := by
  have hc := inboxSummaryContent_clean s.sound
  constructor
  · refine all_append.mpr ⟨?_, all_append.mpr ⟨by decide, s.doc_clean⟩⟩
    unfold capInboxSummaryContent
    split
    · exact hc
    · exact all_append.mpr ⟨hc.runePrefix _, by decide⟩
  · have hdoc := s.doc_length
    obtain ⟨h240, h300⟩ := s.limit_bounds
    have hp : (" | hk:doc " ++ s.doc).length = 10 + s.doc.length := by
      rw [String.length_append]; rfl
    have hro : 1 ≤ s.limit - (" | hk:doc " ++ s.doc).length := by omega
    have hcap : (capInboxSummaryContent (inboxSummaryContent s.items)
        (s.limit - (" | hk:doc " ++ s.doc).length)).length ≤ _ := capInboxSummaryContent_length hro
    rw [InboxSummary.line, inboxSummaryLine, String.length_append]
    omega

end Panewire.Hub

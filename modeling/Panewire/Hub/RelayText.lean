import Panewire.Hub.Event

/-!
# Relay texts

The one line that a relayed event becomes in a pane. Every kind has its own shape; all but the
completion and the lane event are cut to the 512 bytes of a note.

* `relayTextForKind_clean` — the line stays one line.
* `relayTextForKind_note` — the shapes with a budget keep it.
* `completedRelayText_size` — what the completion's line adds up to, which no budget bounds.
-/

namespace Panewire.Hub

open Go String

/-- the warning against running a repeated line again -/
def rerunNotice : String := "(같은 내용이 두 번 보이면 재실행 금지) "

/-- The report path is deliberately last, and the first to be cut. -/
def boundRelayText (lead reportPath : String) : String :=
  if lead.utf8ByteSize + reportPath.utf8ByteSize ≤ 512 then lead ++ reportPath
  else if 512 ≤ lead.utf8ByteSize then truncateRelayText lead 512
  else lead ++ truncateRelayText reportPath (512 - lead.utf8ByteSize)

variable (event : HubJobEventPayload)

def escalationLead : String :=
  "[escalate] " ++ truncateRelayText event.label 64 ++ " (" ++
    truncateRelayText event.host 64 ++ ") :: Q: "

/-- The question comes before the path, which stands twice: after the arrow and as the pointer to
the full text. -/
def escalationRelayText : String :=
  let lead := escalationLead event
  let question := truncateHubRelayPayloadText event.question true
  let arrow := " … → "
  let fullText := " (전문: "
  let fixed := lead.utf8ByteSize + arrow.utf8ByteSize + fullText.utf8ByteSize + ")".utf8ByteSize
  let roomForPaths := 512 - fixed - question.utf8ByteSize
  let shown :=
    if roomForPaths < 2 then truncateRelayText question (512 - fixed - 2) else question
  let room := if roomForPaths < 2 then 2 else roomForPaths
  let path := truncateRelayText event.reportPath (room / 2)
  lead ++ shown ++ arrow ++ path ++ fullText ++ path ++ ")"

def joinedRelayText : String :=
  boundRelayText ("[joined] " ++ truncateRelayText event.label 120 ++ " :: PR " ++
    truncateRelayText event.pr 120 ++ " @ " ++ truncateRelayText event.head 9 ++ " → ")
    event.reportPath

/-- A terminal signal: `tag` says which. -/
def signalRelayText (tag : String) (event : HubJobEventPayload) : String :=
  boundRelayText (tag ++ truncateRelayText event.label 64 ++ " (" ++
    truncateRelayText event.host 64 ++ ") :: " ++ truncateRelayText event.reason 200 ++ " → ")
    event.reportPath

/-- The last line of a report, on one line and within 240 bytes. -/
def completedLine : String :=
  truncateRelayText (String.ofList (event.reportLastLine.toList.map fun c =>
    if c = '\n' ∨ c = '\r' then ' ' else c)) 240

def completedReason : String :=
  if event.reason = "" then "" else " [reason: " ++ event.reason ++ "]"

def completedLead : String :=
  if event.late then "[late completion: re-armed] " else ""

def completedRelayText : String :=
  completedLead event ++ rerunNotice ++ "[report] " ++ event.label ++ " (" ++ event.host ++ ")" ++
    completedReason event ++ " :: " ++ completedLine event ++ " → " ++ event.reportPath

def relayTextForKind (kind : RelayKind) (event : HubJobEventPayload) : String :=
  match kind with
  | .laneEvent => rerunNotice ++ "[event] " ++ event.ownerLane ++ " :: " ++ event.text
  | .jobEscalate => escalationRelayText event
  | .jobJoined => joinedRelayText event
  | .jobLost => signalRelayText "[lost] " event
  | .jobRevoked => signalRelayText "[revoked] " event
  | .jobCompleted => completedRelayText event

/-! ## One line -/

theorem rerunNotice_clean : Clean rerunNotice := by decide +kernel

theorem rerunNotice_size : rerunNotice.utf8ByteSize = 54 := by decide +kernel

theorem boundRelayText_clean {lead path : String} (h : Clean lead) (hp : Clean path) :
    Clean (boundRelayText lead path) := by
  unfold boundRelayText
  split
  · exact all_append.mpr ⟨h, hp⟩
  · split
    · exact h.truncateRelayText _
    · exact all_append.mpr ⟨h, hp.truncateRelayText _⟩

section Sound

variable {kind : RelayKind} {e : HubJobEventPayload}

/-- The texts of a sound event that a line is made of. -/
theorem HubJobEventPayload.Sound.parts (h : e.Sound kind) : Short e.ownerLane ∧ Short e.label ∧
    Short e.host ∧ Short e.reportPath ∧ Short e.reportLastLine ∧ Short e.reason ∧
    Short e.question := by
  have := h.short
  simpa only [List.forall_mem_cons, List.not_mem_nil, false_implies, implies_true, and_true]

theorem completedLine_clean (h : e.Sound kind) : Clean (completedLine e) := by
  obtain ⟨-, -, -, -, hl, -, -⟩ := h.parts
  refine Clean.truncateRelayText (all_ofList.mpr fun c hc => ?_) 240
  obtain ⟨d, hd, rfl⟩ := List.mem_map.mp hc
  split
  · decide
  · exact hl.clean d hd

theorem escalationRelayText_clean (h : e.Sound kind) : Clean (escalationRelayText e) := by
  obtain ⟨-, hlab, hh, hp, -, -, hque⟩ := h.parts
  have hl : Clean (escalationLead e) := by
    simp only [escalationLead, all_append]
    exact ⟨⟨⟨⟨by decide, hlab.clean.truncateRelayText _⟩, by decide⟩,
      hh.clean.truncateRelayText _⟩, by decide⟩
  have hq := hque.clean.truncateHubRelayPayloadText true
  have ha : Clean " … → " := by decide
  have hfu : Clean " (전문: " := by decide
  unfold escalationRelayText
  refine all_append.mpr ⟨all_append.mpr ⟨all_append.mpr ⟨all_append.mpr ⟨all_append.mpr
    ⟨all_append.mpr ⟨hl, ?_⟩, ha⟩, hp.clean.truncateRelayText _⟩, hfu⟩,
    hp.clean.truncateRelayText _⟩, by decide⟩
  split
  · exact hq.truncateRelayText _
  · exact hq

/-- **The line of a sound event is one line.** -/
theorem relayTextForKind_clean (h : e.Sound kind) : Clean (relayTextForKind kind e) := by
  obtain ⟨hl, hlab, hh, hp, -, hw, -⟩ := h.parts
  have signal : ∀ tag : String, Clean tag → Clean (signalRelayText tag e) := by
    intro tag htag
    refine boundRelayText_clean ?_ hp.clean
    simp only [all_append]
    exact ⟨⟨⟨⟨⟨⟨htag, hlab.clean.truncateRelayText _⟩, by decide⟩,
      hh.clean.truncateRelayText _⟩, by decide⟩, hw.clean.truncateRelayText _⟩, by decide⟩
  cases kind with
  | laneEvent =>
    obtain ⟨-, ht⟩ := h.lane rfl
    simp only [relayTextForKind, all_append]
    exact ⟨⟨⟨⟨rerunNotice_clean, by decide⟩, hl.clean⟩, by decide⟩, clean_of_laneEventText ht⟩
  | jobEscalate => exact escalationRelayText_clean h
  | jobJoined =>
    refine boundRelayText_clean ?_ hp.clean
    simp only [all_append]
    exact ⟨⟨⟨⟨⟨⟨by decide, hlab.clean.truncateRelayText _⟩, by decide⟩,
      h.pr.truncateRelayText _⟩, by decide⟩, h.head.truncateRelayText _⟩, by decide⟩
  | jobLost | jobRevoked => exact signal _ (by decide)
  | jobCompleted =>
    simp only [relayTextForKind, completedRelayText, all_append]
    refine ⟨⟨⟨⟨⟨⟨⟨⟨⟨⟨⟨?_, rerunNotice_clean⟩, by decide⟩, hlab.clean⟩, by decide⟩, hh.clean⟩,
      by decide⟩, ?_⟩, by decide⟩, completedLine_clean h⟩, by decide⟩, hp.clean⟩
    · unfold completedLead; split <;> decide
    · unfold completedReason
      split
      · decide
      · simp only [all_append]
        exact ⟨⟨by decide, hw.clean⟩, by decide⟩

/-! ## Bytes -/

theorem boundRelayText_size (lead path : String) :
    (boundRelayText lead path).utf8ByteSize ≤ 512 := by
  unfold boundRelayText
  split
  · rwa [utf8ByteSize_append]
  · split
    · exact prefixWithin_size_le _ _
    · have := prefixWithin_size_le path (512 - lead.utf8ByteSize)
      rw [utf8ByteSize_append, truncateRelayText]
      omega

theorem escalationRelayText_size (e : HubJobEventPayload) :
    (escalationRelayText e).utf8ByteSize ≤ 512 := by
  have hl : (escalationLead e).utf8ByteSize ≤ 149 := by
    have hlab := prefixWithin_size_le e.label 64
    have hh := prefixWithin_size_le e.host 64
    have h₁ : "[escalate] ".utf8ByteSize = 11 := by decide
    have h₂ : " (".utf8ByteSize = 2 := by decide
    have h₃ : ") :: Q: ".utf8ByteSize = 8 := by decide
    simp only [escalationLead, utf8ByteSize_append, truncateRelayText, h₁, h₂, h₃]
    omega
  have h₄ : " … → ".utf8ByteSize = 9 := by decide
  have h₅ : " (전문: ".utf8ByteSize = 10 := by decide
  have h₆ : ")".utf8ByteSize = 1 := by decide
  unfold escalationRelayText
  generalize escalationLead e = lead at hl ⊢
  generalize truncateHubRelayPayloadText e.question true = question
  simp only [utf8ByteSize_append, truncateRelayText, h₄, h₅, h₆]
  split
  · -- the question gives way, and each copy of the path keeps one byte
    have hq := prefixWithin_size_le question (512 - (lead.utf8ByteSize + 9 + 10 + 1) - 2)
    have hp := prefixWithin_size_le e.reportPath (2 / 2)
    omega
  · have hp := prefixWithin_size_le e.reportPath
      ((512 - (lead.utf8ByteSize + 9 + 10 + 1) - question.utf8ByteSize) / 2)
    omega

/-- **The shapes with a budget keep it.** -/
theorem relayTextForKind_note (hc : kind ≠ .jobCompleted) (hl : kind ≠ .laneEvent) :
    (relayTextForKind kind e).utf8ByteSize ≤ 512 := by
  cases kind with
  | jobCompleted => exact absurd rfl hc
  | laneEvent => exact absurd rfl hl
  | jobEscalate => exact escalationRelayText_size e
  | jobJoined | jobLost | jobRevoked => exact boundRelayText_size _ _

/-! ## Never empty -/

theorem boundRelayText_ne_empty {lead path : String} (hne : lead ≠ "") :
    boundRelayText lead path ≠ "" := by
  unfold boundRelayText
  split
  · simp [hne]
  split
  · exact prefixWithin_ne_empty hne (by decide)
  · simp [hne]

theorem relayTextForKind_ne_empty (kind : RelayKind) (e : HubJobEventPayload) :
    relayTextForKind kind e ≠ "" := by
  cases kind with
  | laneEvent => simp [relayTextForKind, rerunNotice]
  | jobEscalate => simp [relayTextForKind, escalationRelayText, escalationLead]
  | jobJoined | jobLost | jobRevoked => exact boundRelayText_ne_empty (by simp)
  | jobCompleted => simp [relayTextForKind, completedRelayText, rerunNotice]

/-! ## The budget of a completion -/

/-- The bytes of a completion's line, from its fields. -/
def completedBytes (e : HubJobEventPayload) : ℕ :=
  (if e.late then 28 else 0) + e.label.utf8ByteSize + e.host.utf8ByteSize +
    (if e.reason = "" then 0 else e.reason.utf8ByteSize + 11) +
    (completedLine e).utf8ByteSize + e.reportPath.utf8ByteSize + 75

theorem completedRelayText_size (e : HubJobEventPayload) :
    (completedRelayText e).utf8ByteSize = completedBytes e := by
  have h₁ := rerunNotice_size
  have h₂ : "[report] ".utf8ByteSize = 9 := by decide
  have h₃ : " (".utf8ByteSize = 2 := by decide
  have h₄ : ")".utf8ByteSize = 1 := by decide
  have h₅ : " :: ".utf8ByteSize = 4 := by decide
  have h₆ : " → ".utf8ByteSize = 5 := by decide
  have hl : (completedLead e).utf8ByteSize = if e.late then 28 else 0 := by
    unfold completedLead; split <;> decide
  have hw : (completedReason e).utf8ByteSize =
      if e.reason = "" then 0 else e.reason.utf8ByteSize + 11 := by
    have h₇ : " [reason: ".utf8ByteSize = 10 := by decide
    have h₈ : "]".utf8ByteSize = 1 := by decide
    unfold completedReason
    split
    · decide
    · rw [utf8ByteSize_append, utf8ByteSize_append, h₇, h₈]; omega
  unfold completedRelayText completedBytes
  simp only [utf8ByteSize_append, h₁, h₂, h₃, h₄, h₅, h₆, hl, hw]
  omega

/-- The bytes of a line: a completion is bounded by its fields, a lane event by its text. -/
theorem relayTextForKind_size (h : e.Sound kind)
    (ht : kind = .laneEvent → e.text.utf8ByteSize ≤ laneEventTextLimitSink) :
    (relayTextForKind kind e).utf8ByteSize ≤ 10000 := by
  obtain ⟨hla, hlab, hh, hp, -, hw, -⟩ := h.parts
  by_cases hc : kind = .jobCompleted
  · subst hc
    have hli : (completedLine e).utf8ByteSize ≤ 240 := prefixWithin_size_le _ _
    have h₁ := hlab.utf8ByteSize_le
    have h₂ := hh.utf8ByteSize_le
    have h₃ := hp.utf8ByteSize_le
    have h₄ := hw.utf8ByteSize_le
    rw [relayTextForKind, completedRelayText_size, completedBytes]
    split <;> split <;> omega
  · by_cases hl : kind = .laneEvent
    · subst hl
      have h₁ := rerunNotice_size
      have h₂ : "[event] ".utf8ByteSize = 8 := by decide
      have h₃ : " :: ".utf8ByteSize = 4 := by decide
      have h₄ := hla.utf8ByteSize_le
      have h₅ : e.text.utf8ByteSize ≤ 8192 := ht rfl
      simp only [relayTextForKind, utf8ByteSize_append, h₁, h₂, h₃]
      omega
    · exact (relayTextForKind_note hc hl).trans (by decide)

end Sound

end Panewire.Hub

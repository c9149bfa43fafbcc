import Panewire.Text.Bounds

/-!
# Names on the wire

The name patterns that the hub and the node check, and the texts they pass on. A **clean** text
holds no carriage return, line feed or NUL: it is what may stand on one line of a pane.
-/

namespace Panewire

open Go

variable {s : String}

/-! ## Patterns -/

def hubJobIDPattern : Pattern where
  first := Char.isAlphanum
  rest c := c.isAlphanum || c == '.' || c == '_' || c == '-'
  max := 127

def hubAgentLabelPattern : Pattern where
  first := Char.isAlphanum
  rest c := c.isAlphanum || c == '.' || c == '_' || c == ':' || c == '-'
  max := 127

def laneNamePattern : Pattern where
  first c := c.isLower || c.isDigit || c == '_' || c == '-'
  rest c := c.isLower || c.isDigit || c == '_' || c == '-'
  max := 31

def machineIDPattern : Pattern where
  first c := c.isLower || c.isDigit
  rest c := c.isLower || c.isDigit || c == '.' || c == '_' || c == '-'
  max := 62

variable (value : String)

/-- Both the relay label spelling and every lane name of the write API. -/
def validReportRelayLaneName : Bool :=
  hubAgentLabelPattern.accepts value || laneNamePattern.accepts value

/-! ## Clean texts -/

/-- A character that may stand on one line. -/
def Clear (c : Char) : Prop := c ≠ '\r' ∧ c ≠ '\n' ∧ c ≠ '\x00'

instance : DecidablePred Clear := fun c =>
  inferInstanceAs (Decidable (c ≠ '\r' ∧ c ≠ '\n' ∧ c ≠ '\x00'))

/-- A text on one line. -/
abbrev Clean (s : String) : Prop := All Clear s

theorem clean_iff : Clean s ↔ containsAny s "\r\n\x00" = false := by
  rw [containsAny_eq_false]
  constructor
  · intro h
    refine h.mono fun c hc => ?_
    obtain ⟨h₁, h₂, h₃⟩ := hc
    simp [h₁, h₂, h₃]
  · intro h
    refine h.mono fun c hc => ?_
    simpa [Clear] using hc

theorem clean_of_hubAgentLabel (h : hubAgentLabelPattern.accepts s = true) : Clean s := by
  refine Pattern.all_of_accepts h ?_ ?_ <;>
  · intro c hc
    refine ⟨?_, ?_, ?_⟩ <;> rintro rfl <;> revert hc <;> decide

theorem clean_of_machineID (h : machineIDPattern.accepts s = true) : Clean s := by
  refine Pattern.all_of_accepts h ?_ ?_ <;>
  · intro c hc
    refine ⟨?_, ?_, ?_⟩ <;> rintro rfl <;> revert hc <;> decide

/-! ## Lane event fields -/

def laneEventTextLimit : ℕ := 2048
def laneEventTextLimitSink : ℕ := 8192
def laneEventRefLimit : ℕ := 256
def hubPaneIDLimit : ℕ := 128
def hubRelayPayloadTextLimit : ℕ := 240
def relaySingleItemMax : ℕ := 24 * 1024

/-- a C0 or C1 control character, or DEL -/
def isControl (c : Char) : Bool :=
  c.toNat ≤ 0x1f || (0x7f ≤ c.toNat && c.toNat ≤ 0x9f)

def validLaneEventText : Bool :=
  value ≠ "" && value.toList.all fun c => !isControl c

def validLaneEventID : Bool :=
  value.utf8ByteSize ≤ 512 && validLaneEventText value

def validLaneRelayText : Bool :=
  value.utf8ByteSize ≤ laneEventTextLimitSink && validLaneEventText value

def validLaneEventRef : Bool :=
  value.utf8ByteSize ≤ laneEventRefLimit && !containsAny value "\r\n\x00"

def validHubNoteText (text : String) : Bool :=
  text.utf8ByteSize ≤ 512 && !containsAny text "\r\n"

def validRelayFinalText : Bool :=
  value ≠ "" && value.utf8ByteSize ≤ relaySingleItemMax && !containsAny value "\r\n\x00"

theorem clean_of_laneEventText (h : validLaneEventText s = true) : Clean s := by
  rw [validLaneEventText, Bool.and_eq_true, List.all_eq_true] at h
  intro c hc
  have := h.2 c hc
  refine ⟨?_, ?_, ?_⟩ <;> rintro rfl <;> revert this <;> decide

theorem validRelayFinalText_iff : validRelayFinalText s = true ↔
    s ≠ "" ∧ s.utf8ByteSize ≤ relaySingleItemMax ∧ Clean s := by
  rw [clean_iff]
  simp [validRelayFinalText, and_assoc]

/-- A note is refused for its length alone when it is clean. -/
theorem validHubNoteText_of_clean (h : Clean s) :
    validHubNoteText s = true ↔ s.utf8ByteSize ≤ 512 := by
  have : containsAny s "\r\n" = false := by
    rw [containsAny_eq_false]
    refine h.mono fun c hc => ?_
    obtain ⟨h₁, h₂, -⟩ := hc
    simp [h₁, h₂]
  simp [validHubNoteText, this]

/-- The bound on the display fields of a relay record, in characters; a question's line breaks are
display text. -/
def truncateHubRelayPayloadText (normalizeNewlines : Bool) : String :=
  runePrefix (if normalizeNewlines then replaceLines value else value) hubRelayPayloadTextLimit

/-- The plain byte bound for relay note text. -/
def truncateRelayText (limit : ℕ) : String := prefixWithin value limit

theorem Clean.truncateRelayText (h : Clean s) (n : ℕ) : Clean (truncateRelayText s n) :=
  All.prefixWithin h n

theorem Clean.truncateHubRelayPayloadText (h : Clean s) (b : Bool) :
    Clean (truncateHubRelayPayloadText s b) := by
  refine All.runePrefix ?_ _
  split
  · exact all_replaceLines (by decide) (h.mono fun c hc => .inr (.inr hc))
  · exact h

def boundLaneEventPaneID (pane : String) : String :=
  if prefixWithin pane hubPaneIDLimit ≠ pane ∨ containsAny pane "\x00\r\n\t" then "" else pane

end Panewire

import Panewire.HubRelay.Routes

/-!
# Which timeouts are announced

The first timeout of a window's key is announced and the next ones are suppressed, by an index that
holds the last 4096 keys that timed out. A delivery clears the index under the job id, which is
never a key of a window, so that the index is at every time what the **log of timeouts** makes it:
the keys by their last timeout, cut at its bound.

`timeout_notice_iff` reads off what is announced, for an event that was not delivered in between.
-/

namespace Panewire.HubRelay

open Conc Data Hub List

/-- The key that timed out. -/
@[simp] def Ev.timedOutKey : Ev → Option String
  | .timedOut key _ => some key.text
  | .delivered _ => none

variable (key : PendingKey)

/-- The keys that timed out, the last one first. -/
def timedOut (log : List Ev) : List String := log.filterMap Ev.timedOutKey

/-- What happened since the last timeout of a key. -/
def sinceTimeout (key : PendingKey) (log : List Ev) : List Ev :=
  log.takeWhile fun x => x.timedOutKey ≠ some key.text

variable (log : List Ev)

theorem timedOut_sinceTimeout :
    timedOut (sinceTimeout key log) = (timedOut log).takeWhile (· ≠ key.text) := by
  induction log with
  | nil => rfl
  | cons x log ih =>
    unfold sinceTimeout timedOut at *
    cases x with
    | delivered k =>
      exact ih
    | timedOut k notice =>
      by_cases hk : k.text = key.text
      · simp [hk]
      · simpa [hk] using ih

/-- The keys that the index holds after this history. -/
def suppressed (log : List Ev) : List String :=
  (Lru.recent (timedOut log)).take relayTimeoutsMaxEntries

/-- Each timeout was announced exactly when its key was not suppressed. -/
def Announced : List Ev → Prop
  | [] => True
  | .timedOut key notice :: earlier =>
    (notice = true ↔ key.text ∉ suppressed earlier) ∧ Announced earlier
  | .delivered _ :: earlier => Announced earlier

theorem Announced.of_append {later earlier : List Ev} (h : Announced (later ++ earlier)) :
    Announced earlier := by
  induction later with
  | nil => exact h
  | cons x later ih =>
    cases x with
    | timedOut key notice => exact ih h.2
    | delivered key => exact ih h

/-- **The index is what the log makes it.** -/
structure Suppresses (h : HubState) : Prop where
  order : h.relayTimeoutOrder = suppressed h.log
  mem : ∀ key, key ∈ h.relayTimeouts ↔ key ∈ suppressed h.log
  nodup : h.relayTimeouts.Nodup
  announced : Announced h.log

theorem colon_of_suppressed {log : List Ev} {text : String} (h : text ∈ suppressed log) :
    ∃ key : PendingKey, text = key.text := by
  have hmem := Lru.mem_recent.mp (mem_of_mem_take h)
  obtain ⟨x, -, hx⟩ := mem_filterMap.mp hmem
  cases x with
  | timedOut key notice => exact ⟨key, (Option.some.inj hx).symm⟩
  | delivered key => cases hx

theorem nodup_suppressed : (suppressed log).Nodup :=
  (Lru.nodup_recent _).sublist (take_sublist _ _)

/-- The bound of the index is positive. -/
theorem touch_suppressed (notice : Bool) :
    (Lru.touch (suppressed log) key.text relayTimeoutsMaxEntries).order =
      suppressed (.timedOut key notice :: log) :=
  Lru.touch_order (n := 4095) (timedOut log) key.text

namespace Suppresses

variable {h h' : HubState}

/-- A delivery clears nothing, since a job id is no key. -/
theorem of_delivered (hs : Suppresses h) {key : PendingKey} {jobID : String}
    (valid : hubJobIDPattern.accepts jobID = true)
    (timeouts : h'.relayTimeouts = h.relayTimeouts.erase jobID)
    (order : h'.relayTimeoutOrder = Lru.forget h.relayTimeoutOrder jobID)
    (log : h'.log = .delivered key :: h.log) : Suppresses h' := by
  have ha : jobID ∉ suppressed h.log := by
    intro hmem
    obtain ⟨k, hk⟩ := colon_of_suppressed hmem
    exact jobID_ne_text valid k hk
  have ht : h'.relayTimeouts = h.relayTimeouts := by
    rw [timeouts, erase_of_not_mem (fun hmem => ha ((hs.mem jobID).mp hmem))]
  have ho : h'.relayTimeoutOrder = h.relayTimeoutOrder := by
    rw [order, Lru.forget, erase_of_not_mem (hs.order ▸ ha)]
  have hsame : suppressed h'.log = suppressed h.log := by
    rw [log]
    rfl
  exact
    { order := by rw [ho, hs.order, hsame]
      mem := fun k => by rw [ht, hsame, hs.mem]
      nodup := ht ▸ hs.nodup
      announced := log ▸ hs.announced }

/-- A timeout is announced if its key is not in the index, and is the first key of it then. -/
theorem of_timedOut (hs : Suppresses h) {key : PendingKey}
    (timeouts : h'.relayTimeouts = (h.rememberRelayTimeout key.text).1.relayTimeouts)
    (order : h'.relayTimeoutOrder = (h.rememberRelayTimeout key.text).1.relayTimeoutOrder)
    (log : h'.log = .timedOut key (h.rememberRelayTimeout key.text).2 :: h.log) :
    Suppresses h' := by
  have touched : ∀ text, text ∈ suppressed h'.log ↔ text = key.text ∨ text ∈ suppressed h.log ∧
      (Lru.touch (suppressed h.log) key.text relayTimeoutsMaxEntries).evicted ≠ some text := by
    intro text
    rw [log, ← touch_suppressed]
    exact Lru.mem_touch (nodup_suppressed h.log) (by decide)
  have ho : h'.relayTimeoutOrder = suppressed h'.log := by
    rw [order, log, ← touch_suppressed, ← hs.order]
    unfold HubState.rememberRelayTimeout
    split <;> rfl
  unfold HubState.rememberRelayTimeout at timeouts log
  rw [hs.order] at timeouts
  by_cases hold : key.text ∈ h.relayTimeouts
  · -- suppressed: the key only moves to the front
    rw [if_pos hold] at timeouts log
    have hmem := (hs.mem key.text).mp hold
    refine ⟨ho, fun text => ?_, timeouts ▸ hs.nodup, ?_⟩
    · rw [touched, timeouts, hs.mem, Lru.touch, if_pos hmem]
      constructor
      · exact fun ht => .inr ⟨ht, (Option.some_ne_none _).symm⟩
      · rintro (rfl | ⟨ht, -⟩)
        · exact hmem
        · exact ht
    · rw [log]
      exact ⟨⟨fun hfal => absurd hfal Bool.false_ne_true, fun hnot => absurd hmem hnot⟩,
        hs.announced⟩
  · rw [if_neg hold] at timeouts log
    have hn : key.text ∉ suppressed h.log := fun hmem => hold ((hs.mem key.text).mpr hmem)
    have ha : Announced h'.log := by
      rw [log]
      exact ⟨⟨fun _ => hn, fun _ => rfl⟩, hs.announced⟩
    generalize hev : (Lru.touch (suppressed h.log) key.text relayTimeoutsMaxEntries).evicted =
      evicted at timeouts touched
    cases evicted with
    | none =>
      rw [Option.map_none, Option.getD_none] at timeouts
      refine ⟨ho, fun text => ?_, timeouts ▸ nodup_cons.mpr ⟨hold, hs.nodup⟩, ha⟩
      rw [touched, timeouts, mem_cons, hs.mem]
      simp
    | some gone =>
      rw [Option.map_some, Option.getD_some] at timeouts
      have hnd : (key.text :: h.relayTimeouts.erase gone).Nodup :=
        nodup_cons.mpr ⟨fun hmem => hold (mem_of_mem_erase hmem), hs.nodup.erase gone⟩
      refine ⟨ho, fun text => ?_, timeouts ▸ hnd, ha⟩
      rw [touched, timeouts, mem_cons, hs.nodup.mem_erase_iff, hs.mem]
      refine or_congr_right ⟨fun hk => ⟨hk.2, fun heq => ?_⟩, fun hk => ⟨?_, hk.1⟩⟩
      · exact hk.1 (Option.some.inj heq).symm
      · exact fun heq => hk.2 (congrArg some heq.symm)

/-- **A step keeps the index true to the log.** -/
theorem step (hs : Suppresses h) (ht : Timing h h') : Suppresses h' := by
  cases ht with
  | same timeouts order log =>
    exact ⟨by rw [order, log, hs.order], fun key => by rw [timeouts, log, hs.mem],
      timeouts ▸ hs.nodup, log ▸ hs.announced⟩
  | timedOut key timeouts order log => exact hs.of_timedOut timeouts order log
  | delivered key jobID valid timeouts order log => exact hs.of_delivered valid timeouts order log

end Suppresses

theorem suppresses_empty : Suppresses {} :=
  ⟨rfl, fun _ => Iff.rfl, nodup_nil, trivial⟩

theorem suppresses_keeps (cfg : Config) :
    protocol.Keeps (program cfg) limits fun h _ => Suppresses h where
  follows r hr := program_follows cfg hr
  enter _ _ _ _ hs := hs
  rule _ _ _ _ _ _ _ _ _ _ hdo hs := hs.step hdo.timing
  restart h h' _ hh _ := by
    cases hh
    exact ⟨rfl, fun _ => Iff.rfl, nodup_nil, trivial⟩

theorem announced_of_run {cfg : Config} {s : Sys HubState Answer Label Proc}
    (hrun : Run (program cfg) limits ⟨{}, []⟩ s) : Announced s.shared.log := by
  obtain ⟨_, -, hs⟩ := (suppresses_keeps cfg).run hrun ⟨[], .nil, suppresses_empty⟩
  exact hs.announced

/-- **Suppressed means recent**: the key timed out, and fewer than 4096 others did since. -/
theorem mem_suppressed {key : PendingKey} {log : List Ev} : key.text ∈ suppressed log ↔
    key.text ∈ timedOut log ∧
      (timedOut (sinceTimeout key log)).toFinset.card < relayTimeoutsMaxEntries := by
  rw [suppressed, Lru.mem_take_recent, timedOut_sinceTimeout, Lru.length_recent]

/-- **What is announced.** Take a timeout in the log of a run, of an event that was not delivered
since its last timeout, if it had one. It was announced exactly when it was the first timeout of the
event since the hub started, or at least 4096 other events timed out since its last one.

The proof does not use that there was no delivery, for a delivery clears no key of a window; it says
which timeouts the suppression is meant for. -/
theorem timeout_notice_iff {cfg : Config} {s : Sys HubState Answer Label Proc}
    (hrun : Run (program cfg) limits ⟨{}, []⟩ s) {later earlier : List Ev} {key : PendingKey}
    {notice : Bool} (hlog : s.shared.log = later ++ .timedOut key notice :: earlier)
    (_undelivered : key.text ∈ timedOut earlier → .delivered key ∉ sinceTimeout key earlier) :
    notice = true ↔ key.text ∉ timedOut earlier ∨
      relayTimeoutsMaxEntries ≤ (timedOut (sinceTimeout key earlier)).toFinset.card := by
  have ha : Announced (.timedOut key notice :: earlier) :=
    Announced.of_append (hlog ▸ announced_of_run hrun)
  rw [ha.1, mem_suppressed, not_and_or, Nat.not_lt]

/-- A lane event is sent and times out, and so does its replay. -/
def timedOutTwice : List (Move Proc Answer) :=
  [.start (.laneEvent sampleLaneEvent false false)] ++
    answers 0 [{}, {}, {}, connected, {}, {}, {}, {}, {}, {}, {}] ++
    [.start (.expire sampleKey 1)] ++ answers 1 [{}, {}, {}, {}] ++
    [.start (.replay 1)] ++ answers 2 [{}, {}, {}, {}, connected, {}, {}, {}, {}] ++
    [.start (.expire sampleKey 2)] ++ answers 3 [{}, {}, {}, {}]

theorem timeout_notice_iff_replayed : ∃ s : Sys HubState Answer Label Proc,
    Run (program sampleConfig) limits ⟨{}, []⟩ s ∧
    s.shared.log = [.timedOut sampleKey false, .timedOut sampleKey true] ∧
    (false = true ↔ sampleKey.text ∉ timedOut [.timedOut sampleKey true] ∨ relayTimeoutsMaxEntries ≤
      (timedOut (sinceTimeout sampleKey [.timedOut sampleKey true])).toFinset.card) := by
  refine Run.exists_of_replay_and timedOutTwice (by decide +kernel) fun s hrun hl => ?_
  have undelivered : .delivered sampleKey ∉ sinceTimeout sampleKey [.timedOut sampleKey true] := by
    decide
  exact timeout_notice_iff hrun (hl.trans (nil_append _).symm) fun _ => undelivered

end Panewire.HubRelay

import Panewire.HubRelay.Dedupe

/-!
# Which timer expires a window

A timer outlives the arm that started it: nothing stops it when its window is answered, dropped or
held back. It finds its window by the key alone, and so it may find one that was armed again, or a
new one.

* `expired_by_latest_arm` — a window is expired **only by the timer of its last arm**, in every run
  in which the earlier timers of a key are over when a hold is released or a window is opened;
* `stale_timer_expires` — otherwise a stale timer cuts the new clock short.
-/

namespace Panewire.HubRelay

open Conc Data Hub HubState

/-- **Timers are fresh**: a running timer whose window is open belongs to the last arm of that
window, and so did every timer that expired one. -/
structure Fresh (h : HubState) : Prop where
  running : ∀ key pending n, h.window key = some pending → (key, n) ∈ h.timers →
    pending.armed = true ∧ n = pending.timer
  expired : ∀ x ∈ h.expiries, x.timer = x.latest

namespace Fresh

variable {h h' : HubState}

/-- No window is new or changed, no timer is new, and no window expired. -/
theorem of_less (hf : Fresh h)
    (windows : ∀ key pending, h'.window key = some pending → h.window key = some pending)
    (timers : ∀ t ∈ h'.timers, t ∈ h.timers) (expiries : h'.expiries = h.expiries) : Fresh h' where
  running key pending n hw hn := hf.running key pending n (windows key pending hw) (timers _ hn)
  expired x hx := hf.expired x (expiries ▸ hx)

/-- The window under one key is new or changed, and agrees with the timers of this key. -/
theorem of_put (hf : Fresh h) {key : PendingKey} {pending : Pending}
    (windows : h'.relayPending = Assoc.put h.relayPending key pending)
    (timers : ∀ k n, k ≠ key → (k, n) ∈ h'.timers → (k, n) ∈ h.timers)
    (agrees : ∀ n, (key, n) ∈ h'.timers → pending.armed = true ∧ n = pending.timer)
    (expiries : h'.expiries = h.expiries) : Fresh h' where
  running k p n hw hn := by
    rw [window, windows, Assoc.get_put] at hw
    split at hw
    · next hk =>
      cases hw
      subst hk
      exact agrees n hn
    · next hk => exact hf.running k p n hw (timers k n (Ne.symm hk) hn)
  expired x hx := hf.expired x (expiries ▸ hx)

theorem window_of_del {key k : PendingKey} {p : Pending}
    (windows : h'.relayPending = Assoc.del h.relayPending key) (hw : h'.window k = some p) :
    h.window k = some p := by
  rw [window, windows, Assoc.get_del] at hw
  split at hw
  · cases hw
  · exact hw

end Fresh

/-- No timer of the key is running. -/
def HubState.untimed (h : HubState) (key : PendingKey) : Bool := h.timers.all fun t => t.1 ≠ key

theorem HubState.not_mem_of_untimed {h : HubState} {key : PendingKey} (hu : h.untimed key = true)
    (n : ℕ) : (key, n) ∉ h.timers := by
  intro hn
  have := List.all_eq_true.mp hu (key, n) hn
  simp at this

/-- When a window is opened or a hold is released, the earlier timers of its key are over. -/
def timersOver : Label → HubState → Bool
  | .register key, h => (h.window key).isSome || h.untimed key
  | .release key, h => (h.window key).isNone || h.untimed key
  | _, _ => true

/-- **A step keeps the timers fresh**, if earlier timers are over where it has to. -/
theorem Fresh.step {l : Label} {h h' : HubState} (hf : Fresh h) (ho : timersOver l h = true)
    (hw : Windowing l h h') : Fresh h' := by
  cases hw with
  | same windows timers arms expiries =>
    exact hf.of_less (fun key p hp => by rwa [window, windows] at hp)
      (fun t ht => timers ▸ ht) expiries
  | register key pending label free windows timers arms expiries =>
    subst label
    have hu : h.untimed key = true := by simpa [timersOver, free] using ho
    refine hf.of_put windows (fun k n _ hn => timers ▸ hn) (fun n hn => ?_) expiries
    exact absurd (timers ▸ hn) (not_mem_of_untimed hu n)
  | arm key pending found unarmed windows timers arms expiries =>
    refine hf.of_put windows (fun k n hk hn => ?_) (fun n hn => ?_) expiries
    · rw [timers, List.mem_cons] at hn
      exact hn.resolve_left fun heq => hk (congrArg Prod.fst heq)
    · rw [timers, List.mem_cons] at hn
      rcases hn with heq | hn
      · exact ⟨rfl, congrArg Prod.snd heq⟩
      · -- an unarmed window has no running timer
        rw [(hf.running key pending n found hn).1] at unarmed
        cases unarmed
  | hold key pending pane found windows timers arms expiries =>
    exact hf.of_put windows (fun k n _ hn => timers ▸ hn)
      (fun n hn => hf.running key pending n found (timers ▸ hn)) expiries
  | release key pending label found windows timers arms expiries =>
    subst label
    have hu : h.untimed key = true := by simpa [timersOver, found] using ho
    refine hf.of_put windows (fun k n _ hn => timers ▸ hn) (fun n hn => ?_) expiries
    exact absurd (timers ▸ hn) (not_mem_of_untimed hu n)
  | drop key windows timers arms expiries =>
    exact hf.of_less (fun _ _ hp => window_of_del windows hp) (fun t ht => timers ▸ ht) expiries
  | fire key n windows timers arms expiries =>
    exact hf.of_less (fun k p hp => by rwa [window, windows] at hp)
      (fun t ht => List.mem_of_mem_erase (timers ▸ ht)) expiries
  | expire key n pending running found windows timers arms expiries =>
    refine ⟨fun k p m hp hm => ?_, fun x hx => ?_⟩
    · exact hf.running k p m (window_of_del windows hp) (List.mem_of_mem_erase (timers ▸ hm))
    · rw [expiries, List.mem_cons] at hx
      rcases hx with rfl | hx
      · exact (hf.running key pending n found running).2
      · exact hf.expired x hx

/-- The runs in which earlier timers are over where they have to be. -/
def timersOverLimits : Limits HubState Answer Label Proc :=
  { limits with step := fun l h _ => timersOver l h }

theorem fresh_keeps (cfg : Config) :
    protocol.Keeps (program cfg) timersOverLimits fun h _ => Fresh h where
  follows r hr := program_follows cfg hr
  enter _ _ _ _ hf := hf
  rule _ _ _ _ _ _ _ _ _ hl hdo hf := hf.step hl hdo.windowing
  restart _ _ _ hh hf := by
    cases hh
    exact ⟨fun _ _ _ hw _ => (nomatch hw), hf.expired⟩

/-- **A window is expired only by the timer of its last arm**, in every run in which all earlier
timers of a key have fired when a hold of its window is released, and when a window is opened under
it. -/
theorem expired_by_latest_arm {cfg : Config} {s : Sys HubState Answer Label Proc}
    (hrun : Run (program cfg) timersOverLimits ⟨{}, []⟩ s) :
    ∀ x ∈ s.shared.expiries, x.timer = x.latest := by
  have hi : Fresh {} := ⟨fun _ _ _ hw _ => (nomatch hw), fun _ hx => nomatch hx⟩
  obtain ⟨gs, -, hf⟩ := (fresh_keeps cfg).run hrun ⟨[], .nil, hi⟩
  exact hf.expired

/-- A report is sent, and its node holds it back. -/
def sentAndHeld : List (Move Proc Answer) :=
  [.start (.jobEvent sampleEvent)] ++ answers 0 [{}, {}, connected, {}, {}, {}, {}, {}] ++
    [.start (.held "node-a" 1 "job-1" "p1")] ++ answers 1 [{}]

/-- The node releases it, and the window is armed again. -/
def released : List (Move Proc Answer) :=
  [.start (.released "node-a" 1 "job-1")] ++ answers 2 [{}, {}] ++ answers 3 [{}]

def sampleKey : PendingKey := relayPendingKey 1 "job-1"

/-- The first timer fires after the window was armed again. -/
def staleTimer : List (Move Proc Answer) :=
  sentAndHeld ++ released ++ [.start (.expire sampleKey 1)] ++ answers 4 [{}]

/-- **A stale timer expires a window** that was armed again after a hold. -/
theorem stale_timer_expires : ∃ s : Sys HubState Answer Label Proc,
    Run (program sampleConfig) limits ⟨{}, []⟩ s ∧ s.shared.expiries = [⟨sampleKey, 1, 2⟩] := by
  exact Run.exists_of_replay staleTimer (by decide +kernel)

/-- The first timer fires while the report is held back; the second expires the window. -/
def freshTimer : List (Move Proc Answer) :=
  sentAndHeld ++ [.start (.expire sampleKey 1)] ++ answers 2 [{}] ++
    [.start (.released "node-a" 1 "job-1")] ++ answers 3 [{}, {}] ++ answers 4 [{}] ++
    [.start (.expire sampleKey 2)] ++ answers 5 [{}]

theorem expired_by_latest_arm_released : ∃ s : Sys HubState Answer Label Proc,
    Run (program sampleConfig) timersOverLimits ⟨{}, []⟩ s ∧
    s.shared.expiries = [⟨sampleKey, 2, 2⟩] ∧ ∀ x ∈ s.shared.expiries, x.timer = x.latest := by
  exact Run.exists_of_replay_and freshTimer (by decide +kernel) fun _ hrun _ =>
    expired_by_latest_arm hrun

end Panewire.HubRelay

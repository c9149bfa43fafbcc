import Panewire.HubRelay.Steps

/-!
# What a step of the relay does to a window

The steps that open, arm, hold, release, answer and expire an acknowledgement window, each with what
it may do in the role of its goroutine:

* an **acknowledgement** binds to a window of its own machine;
* a **timer** finds the window under its own key or none, since no job id is the key of a window;
* an **unconfirmed report** and the **arm after a release** take the window that is there.
-/

namespace Panewire.HubRelay

open Conc Data Hub HubState List

variable {key : PendingKey} {h h' : HubState} {machine : String} {p : Pending} {l : Label}
  {pick : ℕ} {ack : Ack}

section Primitives

variable {g : Role} {a : Answer}

/-! ## Windows -/

/-- No job id is the key of a window. -/
theorem jobID_ne_text {jobID : String} (valid : hubJobIDPattern.accepts jobID = true)
    (key : PendingKey) : jobID ≠ key.text := by
  intro heq
  have hpl : Go.All (fun c => c ≠ ':') jobID :=
    Go.Pattern.all_of_accepts valid (fun c hc => by rintro rfl; revert hc; decide)
      (fun c hc => by rintro rfl; revert hc; decide)
  exact hpl ':' (heq ▸ key.colon) rfl

theorem HubState.open_of_put {k : PendingKey}
    {event : String} (hp : h'.relayPending = Assoc.put h.relayPending key p)
    (ho : h'.Open k event machine) :
    (key = k ∧ p.event.key = event ∧ p.machine = machine) ∨ h.Open k event machine := by
  obtain ⟨q, hq, he, hm⟩ := ho
  rw [window, hp, Assoc.get_put] at hq
  split at hq
  · next hk =>
    cases hq
    exact .inl ⟨hk, he, hm⟩
  · exact .inr ⟨q, hq, he, hm⟩

theorem HubState.open_of_del {k : PendingKey} {event : String}
    (hdel : h'.relayPending = Assoc.del h.relayPending key)
    (ho : h'.Open k event machine) : h.Open k event machine := by
  obtain ⟨q, hq, he, hm⟩ := ho
  rw [window, hdel, Assoc.get_del] at hq
  split at hq
  · cases hq
  · exact ⟨q, hq, he, hm⟩

theorem HubState.Open.actsOn {event : String}
    (ho : h.Open key event machine) : h.ActsOn l ⟨machine, event⟩ key := by
  obtain ⟨p, hp, he, hm⟩ := ho
  exact ⟨p, hp, he, .inl hm⟩

theorem registerRelayAckEvent_same {e : Event} {route : ReportRelayRoute}
    (hm : (e.key, route.machine) ∈ g.known) (eventID : ℕ) :
    protocol.Same g (registerRelayAckEvent e route eventID) := by
  refine .act fun h a => ⟨g, ?_, rfl⟩
  unfold HubState.registerRelayAckEvent
  cases hw : h.window (relayPendingKey eventID e.payload.jobID) with
  | some pending => simpa only [hw] using .quiet rfl
  | none =>
    simp only [hw]
    refine .of_windowing (.register _ _ rfl hw rfl rfl rfl rfl)
      { routed := fun _ hp => hp
        known := fun _ hp => .inl hp
        rows := .refl
        windows := fun key event machine ho => ?_
        effects := fun _ hx => .inl hx } rfl
    rcases open_of_put rfl ho with ⟨-, rfl, rfl⟩ | hold
    · exact .inr hm
    · exact .inl hold

/-- A step that changes the window under a key, and keeps its event and machine. -/
theorem Routing.of_put {p' : Pending}
    (found : h.window key = some p) (hput : h'.relayPending = Assoc.put h.relayPending key p')
    (hev : p'.event = p.event) (hma : p'.machine = p.machine) (rows : h'.rows = h.rows)
    (routed : h'.routed = h.routed) (effects : ∀ x ∈ h'.effects, x ∈ h.effects ∨ h.ActsOn l x key) :
    Routing l h a g h' g where
  routed _ hp := routed ▸ hp
  known _ hp := .inl hp
  rows := rows ▸ .refl
  windows k event machine ho := by
    rcases open_of_put hput ho with ⟨rfl, rfl, rfl⟩ | hold
    · exact .inl ⟨p, found, by rw [hev], hma.symm⟩
    · exact .inl hold
  effects x hx := by
    exact (effects x hx).imp (fun hx => hx) fun ha => .inr ⟨key, ha⟩

/-- A step that removes the window under a key. -/
theorem Routing.of_del {g' : Role}
    (hdel : h'.relayPending = Assoc.del h.relayPending key) (rows : h'.rows = h.rows)
    (routed : h'.routed = h.routed)
    (known : ∀ pair ∈ g'.known, pair ∈ g.known ∨ h.Open key pair.1 pair.2)
    (effects : ∀ x ∈ h'.effects, x ∈ h.effects ∨ h.ActsOn l x key) : Routing l h a g h' g' where
  routed _ hp := routed ▸ hp
  known pair hp := (known pair hp).imp (fun hp => hp) fun ho => .inr (.inr (.inl ⟨key, ho⟩))
  rows := rows ▸ .refl
  windows _ _ _ ho := .inl (open_of_del hdel ho)
  effects x hx := by
    exact (effects x hx).imp (fun hx => hx) fun ha => .inr ⟨key, ha⟩

/-- A window is armed, with or without an effect. -/
theorem Does.arm
    {pending : Pending} (found : h.window key = some pending) (ha : pending.armed = false)
    {effects : List Effect}
    (hh : h' = { h.setWindow key { pending with armed := true, timer := h.arms + 1 } with
      timers := (key, h.arms + 1) :: h.timers, arms := h.arms + 1, effects := effects })
    (he : ∀ x ∈ effects, x ∈ h.effects ∨ h.ActsOn l x key) : Does l h a g h' g := by
  subst hh
  exact .of_windowing (.arm key pending found ha rfl rfl rfl rfl)
    (.of_put found rfl rfl rfl rfl rfl he) rfl

/-- What arming does: nothing, or start the timer of a window that is neither armed nor held. -/
theorem HubState.armRelayAckEvent_cases (h : HubState) (key : PendingKey) :
    (h.armRelayAckEvent key = h ∧
      ∀ pending, h.window key = some pending → (pending.armed || pending.held) = true) ∨
    ∃ pending, h.window key = some pending ∧ pending.armed = false ∧ pending.held = false ∧
      h.armRelayAckEvent key =
        { h.setWindow key { pending with armed := true, timer := h.arms + 1 } with
          timers := (key, h.arms + 1) :: h.timers, arms := h.arms + 1 } := by
  unfold armRelayAckEvent
  cases hw : h.window key with
  | none => exact .inl ⟨rfl, fun _ hp => nomatch hp⟩
  | some pending =>
    dsimp only
    by_cases hb : (pending.armed || pending.held) = true
    · rw [if_pos hb]
      refine .inl ⟨rfl, fun p hp => ?_⟩
      cases hp
      exact hb
    · rw [if_neg hb]
      rw [Bool.or_eq_true, not_or, Bool.not_eq_true, Bool.not_eq_true] at hb
      exact .inr ⟨pending, rfl, hb.1, hb.2, rfl⟩

theorem armRelayAckEvent_same (key : PendingKey) : protocol.Same g (armRelayAckEvent key) := by
  refine .act fun h a => ⟨g, ?_, rfl⟩
  show Does _ h _ g (h.armRelayAckEvent key) g
  rcases h.armRelayAckEvent_cases key with ⟨heq, -⟩ | ⟨pending, found, ha, -, heq⟩
  · rw [heq]
    exact .quiet rfl
  · exact .arm found ha heq fun _ hx => .inl hx

theorem armAfterRelease_same (machine : String) (key : PendingKey) :
    protocol.Same g (armAfterRelease machine key) := by
  refine .act fun h a => ⟨g, ?_, rfl⟩
  rcases h.armRelayAckEvent_cases key with ⟨heq, hb⟩ | ⟨pending, found, ha, hh, heq⟩
  · rw [heq]
    cases hw : h.window key with
    | none => exact .quiet rfl
    | some pending =>
      simp only [hb pending hw, if_true]
      exact .quiet rfl
  · simp only [found, ha, hh, Bool.or_self, Bool.false_eq_true, if_false]
    exact .arm found ha (by rw [heq]; rfl)
      (mem_or_of_cons ⟨pending, found, rfl, .inr (.inr ⟨rfl, by simp [ha, hh]⟩)⟩)

theorem dropWindow_same (key : PendingKey) : protocol.Same g (change (·.dropWindow key)) :=
  .act fun _ _ => ⟨g, .of_windowing (.drop key rfl rfl rfl rfl)
    (.of_del rfl rfl rfl (fun _ hp => .inl hp) fun _ hx => .inl hx) rfl, rfl⟩

/-! ## Acknowledgements -/

theorem HubState.mem_of_choose {α : Type} {entries : List α} {a : α}
    (h : choose entries pick = some a) : a ∈ entries :=
  mem_of_getElem? h

theorem HubState.window_of_named (hn : h.named machine ack pick = some (key, p)) :
    h.window key = some p := by
  have entry : ∀ {f : PendingKey × Pending → Bool},
      (key, p) ∈ (Assoc.entries h.relayPending).filter f → h.window key = some p :=
    fun hmem => Assoc.get_of_mem_entries (mem_filter.mp hmem).1
  unfold named at hn
  dsimp only at hn
  split at hn
  · next hw =>
    cases hn
    exact hw
  · split at hn
    · cases hn
    · split at hn
      · next hc =>
        cases hn
        exact entry (mem_filter.mp (mem_of_choose hc)).1
      · exact entry (mem_of_choose hn)

/-- **An acknowledgement binds to a window of its machine.** -/
theorem HubState.findRelayPending_spec (hf : h.findRelayPending machine ack pick = some (key, p)) :
    p.machine = machine ∧ ∃ q, h.window key = some q ∧ q.event = p.event ∧ q.machine = machine := by
  unfold findRelayPending at hf
  split at hf
  · cases hf
  · next key' q hn =>
    split at hf
    · cases hf
    · next hok =>
      cases hf
      rw [Bool.or_eq_true, not_or, decide_eq_true_eq, not_not] at hok
      exact ⟨hok.1, q, window_of_named hn, rfl, hok.1⟩

theorem HubState.open_of_find (hf : h.findRelayPending machine ack pick = some (key, p)) :
    p.machine = machine ∧ h.Open key p.event.key machine := by
  obtain ⟨hm, q, hq, he, hqm⟩ := findRelayPending_spec hf
  exact ⟨hm, q, hq, by rw [he], hqm⟩

/-- The role after a window was found. -/
def Role.found (g : Role) (r : Option (PendingKey × Pending)) : Role :=
  match r with
  | none => g
  | some (_, p) => { g with known := (p.event.key, p.machine) :: g.known }

theorem count_erase_le (live : List String) (x key : String) :
    (live.erase x).count key ≤ live.count key :=
  List.Sublist.count_le key erase_sublist

/-- A window of a machine is retired by its acknowledgement, or by an unconfirmed report. -/
theorem Does.retire {held : List (ℕ × Held)} {g' : Role}
    (hc : g'.claim = g.claim) (hlap : g'.lapsed = g.lapsed)
    (known : ∀ pair ∈ g'.known, pair ∈ g.known ∨ h.Open key pair.1 pair.2)
    (ha : h.ActsOn l ⟨machine, p.event.key⟩ key) :
    Does l h a g
      (({ h with relayHeld := held }.retire key p).affect machine p.event.key) g' where
  lapsed hl := .inl (hlap ▸ hl)
  claiming := .same rfl rfl (count_erase_le _ _) hc
  timing := .same rfl rfl rfl
  windowing := .drop key rfl rfl rfl rfl
  routing := .of_del rfl rfl rfl known (mem_or_of_cons ha)

/-- A lookup teaches its role the window it finds. -/
theorem finds (ack : Ack) {f : HubState → Answer → HubState × Option (PendingKey × Pending)}
    (hn : ∀ h a, h.findRelayPending machine ack a.pick = none → f h a = (h, none))
    (hd : ∀ h a key p, h.findRelayPending machine ack a.pick = some (key, p) →
      h.Open key p.event.key p.machine →
      ∃ h', f h a = (h', some (key, p)) ∧ Does .other h a g h' (g.found (some (key, p)))) :
    protocol.Triple g (Cmd.act .other f)
      fun r g' => g' = g.found r ∧ ∀ key p, r = some (key, p) → p.machine = machine := by
  refine .act fun h a => ?_
  cases hf : h.findRelayPending machine ack a.pick with
  | none =>
    rw [hn h a hf]
    exact ⟨g, .quiet rfl, rfl, fun _ _ hr => nomatch hr⟩
  | some w =>
    obtain ⟨hm, ho⟩ := open_of_find hf
    obtain ⟨h', he, hdoes⟩ := hd h a w.1 w.2 hf (hm ▸ ho)
    rw [he]
    exact ⟨_, hdoes, rfl, fun _ _ hr => by cases hr; exact hm⟩

theorem acknowledge_finds (machine : String) (ack : Ack) :
    protocol.Triple g (Cmd.act .other fun h a => h.acknowledgeRelayPending machine ack a.pick)
      fun r g' => g' = g.found r ∧ ∀ key p, r = some (key, p) → p.machine = machine := by
  refine finds ack (fun h a hf => ?_) fun h a key p hf ho => ?_ <;>
    simp only [acknowledgeRelayPending, hf]
  exact ⟨_, rfl, .retire rfl rfl (mem_or_of_cons ho) ((open_of_find hf).2.actsOn)⟩

theorem peek_finds (machine : String) (ack : Ack) :
    protocol.Triple g (Cmd.act .other fun h a => (h, h.findRelayPending machine ack a.pick))
      fun r g' => g' = g.found r ∧ ∀ key p, r = some (key, p) → p.machine = machine := by
  refine finds ack (fun h a hf => by rw [hf]) fun h a key p hf ho => ?_
  exact ⟨h, by rw [hf], .learn rfl rfl rfl (mem_or_of_cons (.inr (.inr (.inl ⟨key, ho⟩))))⟩

theorem consume_same (machine : String) (key : PendingKey) :
    protocol.Same g (Cmd.act (.consume machine key) fun h _ =>
      (h.consumeRelayPending machine key, ())) := by
  refine .act fun h a => ⟨g, ?_, rfl⟩
  unfold consumeRelayPending
  cases hw : h.window key with
  | none => exact .quiet rfl
  | some p =>
    exact .retire rfl rfl (fun _ hp => .inl hp) ⟨p, hw, rfl, .inr (.inl rfl)⟩

theorem settle_same (pending : Pending) : protocol.Same g (change (·.settle pending)) := by
  refine .act fun h a => ⟨g, ?_, rfl⟩
  unfold settle
  split <;> exact
    { lapsed := fun hl => .inl hl
      claiming := .of_same rfl rfl rfl rfl
      timing := .delivered _ pending.event.payload.jobID pending.event.valid rfl rfl rfl
      windowing := .same rfl rfl rfl rfl
      routing := .of_same rfl rfl rfl rfl fun _ hp => .inl hp }

/-! ## Holding and releasing -/

theorem rememberRelayHeld_same (machine : String) (id : ℕ) (jobID pane : String) :
    protocol.Same g (change (·.rememberRelayHeld machine id jobID pane)) := by
  refine .act fun h a => ⟨g, ?_, rfl⟩
  unfold rememberRelayHeld
  dsimp only
  split
  · exact .quiet rfl
  next p hw =>
  split
  · exact .quiet rfl
  next hm =>
  rw [not_not] at hm
  exact .of_windowing (.hold _ p pane hw rfl rfl rfl rfl)
    (.of_put hw rfl rfl rfl rfl rfl (mem_or_of_cons ⟨p, hw, rfl, .inl hm⟩)) rfl

theorem releaseRelayHeld_same (machine : String) (id : ℕ) (jobID : String) :
    protocol.Same g (Cmd.act (.release (relayPendingKey id jobID)) fun h _ =>
      h.releaseRelayHeld machine id jobID) := by
  refine .act fun h a => ⟨g, ?_, rfl⟩
  unfold releaseRelayHeld
  dsimp only
  split
  · exact .quiet rfl
  split
  · exact .quiet rfl
  next hok =>
  cases hw : h.window (relayPendingKey id jobID) with
  | none => exact .quiet rfl
  | some p =>
    have hm : p.machine = machine := by
      by_contra hm
      simp [hw, hm] at hok
    exact .of_windowing (.release _ p rfl hw rfl rfl rfl rfl)
      (.of_put hw rfl rfl rfl rfl rfl (mem_or_of_cons ⟨p, hw, rfl, .inl hm⟩)) rfl

theorem consumeRelayDropped_same (machine : String) (id : ℕ) (jobID pane : String) :
    protocol.Same g (change (·.consumeRelayDropped machine id jobID pane)) := by
  refine .act fun h a => ⟨g, ?_, rfl⟩
  unfold consumeRelayDropped
  dsimp only
  split
  · exact .quiet rfl
  split
  · exact .quiet rfl
  next hok =>
  cases hw : h.window (relayPendingKey id jobID) with
  | none => exact .quiet rfl
  | some p =>
    have hm : p.machine = machine := by
      by_contra hm
      simp [hw, hm] at hok
    exact .retire rfl rfl (fun _ hp => .inl hp) ⟨p, hw, rfl, .inl hm⟩

theorem relayCancelled_same (id : ℕ) : protocol.Same g (relayCancelled id) := by
  refine quiet_same fun h a => ?_
  split <;> rfl

/-- An operator's delete drops the window without an acknowledgement. -/
theorem deleteRelayHeld_same (id : ℕ) :
    protocol.Same g (Cmd.act .other fun h a =>
        match Assoc.get h.relayHeld id with
        | some held => if a.queued then (h.deleteRelayHeld id held, some held) else (h, none)
        | none => (h, none)) := by
  refine .act fun h a => ⟨g, ?_, rfl⟩
  split
  · split
    · exact .of_windowing (.drop _ rfl rfl rfl rfl)
        (.of_del rfl rfl rfl (fun _ hp => .inl hp) fun _ hx => .inl hx) rfl
    · exact .quiet rfl
  · exact .quiet rfl

/-! ## Timers -/

/-- A timer finds the window under its own key, or none. -/
theorem HubState.expiring_eq (h : HubState) (key : PendingKey) (pick : ℕ) :
    h.expiring key pick = (h.window key).map (key, ·) := by
  unfold expiring
  cases h.window key with
  | some p => rfl
  | none =>
    have hn : (Assoc.entries h.relayPending).filter
        (fun w => w.2.event.payload.jobID = key.text) = [] := by
      rw [filter_eq_nil_iff]
      intro w _
      simpa using jobID_ne_text w.2.event.valid key
    simp only [hn]
    rfl

theorem fire_finds (key : PendingKey) (n : ℕ) :
    protocol.Triple g (fire key n) fun r g' => g' = g.found r := by
  refine .actWhen fun h a hen => ?_
  have hrun : (key, n) ∈ h.timers := by simpa using hen
  have hfir : Does .other h a g { h with timers := h.timers.erase (key, n) } g :=
    .of_windowing (.fire key n rfl rfl rfl rfl) (.of_same rfl rfl rfl rfl fun _ hp => .inl hp) rfl
  unfold HubState.expireRelayAck
  rw [expiring_eq]
  cases hw : h.window key with
  | none => exact ⟨g, hfir, rfl⟩
  | some p =>
    dsimp only [Option.map_some]
    split
    · exact ⟨g, hfir, rfl⟩
    refine ⟨g.found (some (key, p)), ?_, rfl⟩
    exact
      { lapsed := fun hl => .inl hl
        claiming := .same rfl rfl (count_erase_le _ _) rfl
        timing := .same rfl rfl rfl
        windowing := .expire key n p hrun hw rfl rfl rfl rfl
        routing := .of_del rfl rfl rfl (mem_or_of_cons ⟨p, hw, rfl, rfl⟩) fun _ hx => .inl hx }

/-- Noting a timeout only changes the index of timeouts. -/
theorem HubState.rememberRelayTimeout_fst (h : HubState) (key : String) :
    (h.rememberRelayTimeout key).1 =
      { h with
        relayTimeouts := (h.rememberRelayTimeout key).1.relayTimeouts
        relayTimeoutOrder := (h.rememberRelayTimeout key).1.relayTimeoutOrder } := by
  unfold rememberRelayTimeout
  split <;> rfl

theorem noteTimeout_same (key : PendingKey) : protocol.Same g (noteTimeout key) := by
  refine .act fun h a => ⟨g, ?_, rfl⟩
  dsimp only
  rw [rememberRelayTimeout_fst]
  exact
    { lapsed := fun hl => .inl hl
      claiming := .of_same rfl rfl rfl rfl
      timing := .timedOut key rfl rfl rfl
      windowing := .same rfl rfl rfl rfl
      routing := .of_same rfl rfl rfl rfl fun _ hp => .inl hp }

/-- The claim of a send that is over is given back, for a lane event. -/
theorem giveBack_same {key : String} (hl : LaneKey key) (id : ℕ) :
    protocol.Same g (change fun h => if Assoc.get h.relayDedupe key = some id then
      h.forgetRelayEvent key else h) := by
  refine .act fun h a => ⟨g, ?_, rfl⟩
  dsimp only
  split
  · exact .release (.inr hl)
  · exact .quiet rfl

end Primitives

end Panewire.HubRelay

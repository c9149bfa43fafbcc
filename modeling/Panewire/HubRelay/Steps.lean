import Panewire.HubRelay.Programs

/-!
# What a step of the relay can do

A goroutine of the relay has a **role**: the claim that it holds, the routes that it knows, and
whether a duplicate of it found no way to name its row. `Does` says once what a step may do in a
role, one part for each concern of the hub:

* `Claiming` — the dedupe index and the unanswered injections;
* `Timing` — the timeout index and the log of timeouts and deliveries;
* `Windowing` — the windows, their timers and how they expire;
* `Routing` — which machine an event was routed to, and what acknowledgements did.

Each invariant of the relay reads only its own part.
-/

namespace Panewire.HubRelay

open Conc Data Hub List
open Spawn (Fault)

variable {id : ℕ} {machine pane : String}

/-- What a goroutine knows and owns. -/
structure Role where
  /-- the key that it claimed and has not injected -/
  claim : Option String := none
  /-- events with a machine that the hub has for them -/
  known : List (String × String) := []
  /-- it handles a duplicate, and found no route or could not name the row -/
  lapsed : Bool := false

/-- The dedupe key of a row's event. -/
def Row.key (row : Row) : String := relayEventDedupeKey row.kind row.payload

/-- A lane event's key. -/
def LaneKey (key : String) : Prop := ∃ lane eventID, key = relayLaneEventOutboxKey lane eventID

/-- **Claims**: a free key is claimed; a key is forgotten by its claimant, by a lapsed duplicate, or
because a lane may be tried again; the claimant injects. -/
inductive Claiming (h : HubState) (g : Role) (h' : HubState) (g' : Role) : Prop where
  | same (dedupe : h'.relayDedupe = h.relayDedupe) (owned : h'.owned = h.owned)
      (live : ∀ key, h'.live.count key ≤ h.live.count key) (claim : g'.claim = g.claim)
  | claim (key : String) (id : ℕ) (free : Assoc.get h.relayDedupe key = none)
      (dedupe : h'.relayDedupe = Assoc.put h.relayDedupe key id)
      (owned : h'.owned = key :: h.owned) (live : h'.live = h.live) (claim : g'.claim = some key)
  | forget (key : String) (own : g.claim = some key)
      (dedupe : h'.relayDedupe = Assoc.del h.relayDedupe key)
      (owned : h'.owned = h.owned.erase key) (live : h'.live = h.live) (claim : g'.claim = none)
  | release (key : String) (why : g.lapsed = true ∨ LaneKey key)
      (dedupe : h'.relayDedupe = Assoc.del h.relayDedupe key) (owned : h'.owned = h.owned)
      (live : h'.live = h.live) (claim : g'.claim = g.claim)
  | remember (key : String) (id : ℕ)
      (dedupe : h'.relayDedupe = Assoc.put h.relayDedupe key id) (owned : h'.owned = h.owned)
      (live : h'.live = h.live) (claim : g'.claim = g.claim)
  | inject (key : String) (own : g.claim = some key) (dedupe : h'.relayDedupe = h.relayDedupe)
      (owned : h'.owned = h.owned.erase key) (live : h'.live = key :: h.live)
      (claim : g'.claim = none)

/-- **Timeouts**: the index changes with a timeout, or when a delivery clears a job id. -/
inductive Timing (h h' : HubState) : Prop where
  | same (timeouts : h'.relayTimeouts = h.relayTimeouts)
      (order : h'.relayTimeoutOrder = h.relayTimeoutOrder) (log : h'.log = h.log)
  | timedOut (key : PendingKey)
      (timeouts : h'.relayTimeouts = (h.rememberRelayTimeout key.text).1.relayTimeouts)
      (order : h'.relayTimeoutOrder = (h.rememberRelayTimeout key.text).1.relayTimeoutOrder)
      (log : h'.log = .timedOut key (h.rememberRelayTimeout key.text).2 :: h.log)
  | delivered (key : PendingKey) (jobID : String) (valid : hubJobIDPattern.accepts jobID = true)
      (timeouts : h'.relayTimeouts = h.relayTimeouts.erase jobID)
      (order : h'.relayTimeoutOrder = Lru.forget h.relayTimeoutOrder jobID)
      (log : h'.log = .delivered key :: h.log)

/-- **Windows**, their timers, and their expiries. -/
inductive Windowing (l : Label) (h h' : HubState) : Prop where
  | same (windows : h'.relayPending = h.relayPending) (timers : h'.timers = h.timers)
      (arms : h'.arms = h.arms) (expiries : h'.expiries = h.expiries)
  | register (key : PendingKey) (pending : Pending) (label : l = .register key)
      (free : h.window key = none)
      (windows : h'.relayPending = Assoc.put h.relayPending key pending)
      (timers : h'.timers = h.timers) (arms : h'.arms = h.arms)
      (expiries : h'.expiries = h.expiries)
  | arm (key : PendingKey) (pending : Pending) (found : h.window key = some pending)
      (unarmed : pending.armed = false)
      (windows : h'.relayPending =
        Assoc.put h.relayPending key { pending with armed := true, timer := h.arms + 1 })
      (timers : h'.timers = (key, h.arms + 1) :: h.timers) (arms : h'.arms = h.arms + 1)
      (expiries : h'.expiries = h.expiries)
  | hold (key : PendingKey) (pending : Pending) (pane : String)
      (found : h.window key = some pending)
      (windows : h'.relayPending =
        Assoc.put h.relayPending key { pending with held := true, pane := pane })
      (timers : h'.timers = h.timers) (arms : h'.arms = h.arms)
      (expiries : h'.expiries = h.expiries)
  | release (key : PendingKey) (pending : Pending) (label : l = .release key)
      (found : h.window key = some pending)
      (windows : h'.relayPending =
        Assoc.put h.relayPending key { pending with held := false, armed := false })
      (timers : h'.timers = h.timers) (arms : h'.arms = h.arms)
      (expiries : h'.expiries = h.expiries)
  | drop (key : PendingKey) (windows : h'.relayPending = Assoc.del h.relayPending key)
      (timers : h'.timers = h.timers) (arms : h'.arms = h.arms)
      (expiries : h'.expiries = h.expiries)
  | fire (key : PendingKey) (n : ℕ) (windows : h'.relayPending = h.relayPending)
      (timers : h'.timers = h.timers.erase (key, n)) (arms : h'.arms = h.arms)
      (expiries : h'.expiries = h.expiries)
  | expire (key : PendingKey) (n : ℕ) (pending : Pending) (running : (key, n) ∈ h.timers)
      (found : h.window key = some pending)
      (windows : h'.relayPending = Assoc.del h.relayPending key)
      (timers : h'.timers = h.timers.erase (key, n)) (arms : h'.arms = h.arms)
      (expiries : h'.expiries = ⟨key, n, pending.timer⟩ :: h.expiries)

/-- Some window is open for this event at this machine. -/
def HubState.Open (h : HubState) (key : PendingKey) (event machine : String) : Prop :=
  ∃ pending, h.window key = some pending ∧ pending.event.key = event ∧ pending.machine = machine

/-- The window under a key is what an acknowledgement acts on: it is the machine's own, or it is
there when an unconfirmed report retires the key, or when the arm after a release finds it idle. -/
def HubState.ActsOn (h : HubState) (l : Label) (x : Effect) (key : PendingKey) : Prop :=
  ∃ pending, h.window key = some pending ∧ pending.event.key = x.event ∧
    (pending.machine = x.machine ∨ l = .consume x.machine key ∨
      (l = .armReleased x.machine key ∧ (pending.armed || pending.held) = false))

/-- What a look-up that sends nothing finds: the route of a duplicate, and the present route of an
event if it is the machine that says it delivered the event. -/
def Label.Finds : Label → Answer → String × String → Prop
  | .reackRoute event, a, pair => pair = (event, a.route.machine) ∧ a.routed = true
  | .lateRoute machine event, a, pair => pair = (event, machine) ∧
      (machine = "" ∨ a.route.machine = machine ∧ a.route.sink = false)
  | _, _, _ => False

/-- Where an event and a machine for it can come from: a send, a row, a window, or a look-up. -/
def Source (l : Label) (h : HubState) (a : Answer) (h' : HubState) (pair : String × String) :
    Prop :=
  pair ∈ h'.routed ∨ (∃ row ∈ h.rows, pair = (row.key, row.machine)) ∨
    (∃ key, h.Open key pair.1 pair.2) ∨ l.Finds a pair

/-- The rows that a goroutine may leave: of old events and machines, or for machines it knows. -/
def Role.Writes (g : Role) (rows rows' : List Row) : Prop :=
  ∀ row ∈ rows', (∃ old ∈ rows, old.key = row.key ∧ old.machine = row.machine) ∨
    (row.key, row.machine) ∈ g.known ∨ row.machine = ""

/-- **Routes**: what a goroutine learns has a source; rows and windows are made for the machines it
knows; an acknowledgement of a machine acts on what the machine is known for, or on a window of its
own. -/
structure Routing (l : Label) (h : HubState) (a : Answer) (g : Role) (h' : HubState) (g' : Role) :
    Prop where
  routed : ∀ pair ∈ h.routed, pair ∈ h'.routed
  known : ∀ pair ∈ g'.known, pair ∈ g.known ∨ Source l h a h' pair
  rows : g.Writes h.rows h'.rows
  windows : ∀ key event machine, h'.Open key event machine → h.Open key event machine ∨
    (event, machine) ∈ g.known
  effects : ∀ x ∈ h'.effects, x ∈ h.effects ∨ (x.event, x.machine) ∈ g.known ∨
    ∃ key, h.ActsOn l x key

/-- **What a step does** in a role. -/
structure Does (l : Label) (h : HubState) (a : Answer) (g : Role) (h' : HubState) (g' : Role) :
    Prop where
  lapsed : g'.lapsed = true → g.lapsed = true ∨ ((∃ event, l = .reackRoute event) ∧
    a.routed = false) ∨ (l = .reackPersist 0 ∧ a.fault ≠ .none)
  claiming : Claiming h g h' g'
  timing : Timing h h'
  windowing : Windowing l h h'
  routing : Routing l h a g h' g'

/-- The role of a new goroutine: an event without a producer node names a host. -/
def Proc.role : Proc → Role
  | .laneEvent e true _ => { known := [(e.key, e.payload.host)] }
  | _ => {}

/-- The protocol of the relay. -/
def protocol : Protocol HubState Answer Label Proc Role where
  entry := Proc.role
  spawns r := ∃ machine key, r = .armReleased machine key
  rule := Does

/-! ## Steps that change little -/

/-- The part of the state that `Does` sees. -/
structure Seen where
  dedupe : List (String × ℕ)
  owned : List String
  live : List String
  timeouts : List String
  order : List String
  log : List Ev
  windows : List (PendingKey × Pending)
  timers : List (PendingKey × ℕ)
  arms : ℕ
  expiries : List Expiry
  rows : List Row
  routed : List (String × String)
  effects : List Effect

def HubState.seen (h : HubState) : Seen :=
  ⟨h.relayDedupe, h.owned, h.live, h.relayTimeouts, h.relayTimeoutOrder, h.log, h.relayPending,
    h.timers, h.arms, h.expiries, h.rows, h.routed, h.effects⟩

/-- The state as far as `Does` sees it is the same. -/
def Unseen (h h' : HubState) : Prop := h'.seen = h.seen

section Frames

variable {l : Label} {h h' : HubState} {a : Answer} {g g' : Role}

theorem Claiming.of_same (dedupe : h'.relayDedupe = h.relayDedupe) (owned : h'.owned = h.owned)
    (live : h'.live = h.live) (claim : g'.claim = g.claim) : Claiming h g h' g' :=
  .same dedupe owned (fun _ => live ▸ le_refl _) claim

theorem Role.Writes.refl {rows : List Row} : g.Writes rows rows :=
  fun row hrow => .inl ⟨row, hrow, rfl, rfl⟩

/-- Rows and windows as they were, and no effect. -/
theorem Routing.of_same (rows : h'.rows = h.rows) (windows : h'.relayPending = h.relayPending)
    (routed : h'.routed = h.routed) (effects : h'.effects = h.effects)
    (known : ∀ pair ∈ g'.known, pair ∈ g.known ∨ Source l h a h' pair) :
    Routing l h a g h' g' where
  routed pair hp := routed ▸ hp
  known := known
  rows := rows ▸ .refl
  windows key event machine ho := by
    obtain ⟨p, hp, he, hm⟩ := ho
    refine .inl ⟨p, ?_, he, hm⟩
    rwa [HubState.window, windows] at hp
  effects x hx := .inl (effects ▸ hx)

theorem mem_or_of_cons {α : Type} {P : α → Prop} {x : α} {xs : List α} (h : P x) :
    ∀ y ∈ x :: xs, y ∈ xs ∨ P y :=
  fun _ hy => (mem_cons.mp hy).elim (fun he => .inr (he ▸ h)) .inl

/-- A step that only changes who claims what, and what the goroutine knows. -/
theorem Does.of_claiming (claiming : Claiming h g h' g') (lapsed : g'.lapsed = g.lapsed)
    (u : h'.seen = { h.seen with dedupe := h'.relayDedupe, owned := h'.owned, live := h'.live })
    (known : ∀ pair ∈ g'.known, pair ∈ g.known ∨ Source l h a h' pair) :
    Does l h a g h' g' where
  lapsed hl := .inl (lapsed ▸ hl)
  claiming := claiming
  timing := .same (congrArg Seen.timeouts u) (congrArg Seen.order u) (congrArg Seen.log u)
  windowing := .same (congrArg Seen.windows u) (congrArg Seen.timers u) (congrArg Seen.arms u)
    (congrArg Seen.expiries u)
  routing := .of_same (congrArg Seen.rows u) (congrArg Seen.windows u) (congrArg Seen.routed u)
    (congrArg Seen.effects u) known

/-- **Nothing happens** that any part sees, except that the goroutine may learn. -/
theorem Does.learn (u : Unseen h h') (claim : g'.claim = g.claim) (lapsed : g'.lapsed = g.lapsed)
    (known : ∀ pair ∈ g'.known, pair ∈ g.known ∨ Source l h a h' pair) :
    Does l h a g h' g' :=
  .of_claiming (.of_same (congrArg Seen.dedupe u) (congrArg Seen.owned u) (congrArg Seen.live u)
    claim) lapsed (by rw [← u]; rfl) known

theorem Does.quiet (u : Unseen h h') : Does l h a g h' g :=
  .learn u rfl rfl fun _ => .inl

/-- A step that changes windows and rows, and claims nothing. -/
theorem Does.of_windowing (windowing : Windowing l h h') (routing : Routing l h a g h' g)
    (u : h'.seen = { h.seen with
      windows := h'.relayPending, timers := h'.timers, arms := h'.arms, expiries := h'.expiries
      rows := h'.rows, effects := h'.effects }) :
    Does l h a g h' g where
  lapsed hl := .inl hl
  claiming := .of_same (congrArg Seen.dedupe u) (congrArg Seen.owned u) (congrArg Seen.live u) rfl
  timing := .same (congrArg Seen.timeouts u) (congrArg Seen.order u) (congrArg Seen.log u)
  windowing := windowing
  routing := routing

end Frames

section Primitives

variable {cfg : Config} {g : Role} {α : Type}

theorem quiet_same {l : Label} {f : HubState → Answer → HubState × α}
    (hf : ∀ h a, Unseen h (f h a).1) : protocol.Same g (Cmd.act l f) :=
  .act fun h a => ⟨g, .quiet (hf h a), rfl⟩

theorem ask_same : protocol.Same g ask := quiet_same fun _ _ => rfl

theorem askGate_same : protocol.Same g askGate := quiet_same fun _ _ => rfl

theorem isDigestBatch_same : protocol.Same g isDigestBatch :=
  quiet_same fun _ _ => rfl

theorem nameRow_same (pending : Pending) : protocol.Same g (nameRow pending) :=
  quiet_same fun _ _ => rfl

variable (key : String)

theorem rememberLanePersisted_same (id : ℕ) : protocol.Same g (rememberLanePersisted key id) := by
  refine quiet_same fun h _ => ?_
  unfold HubState.rememberLanePersisted
  split <;> rfl

/-! ## Claims -/

/-- The role after an attempt to claim. -/
def Role.claimed (g : Role) (key : String) (won : Bool) : Role :=
  if won then { g with claim := some key } else g

/-- A step that only claims. -/
theorem Does.claim {l : Label} {h : HubState} {a : Answer} {key : String}
    (free : Assoc.get h.relayDedupe key = none) :
    Does l h a g (h.claim key id) { g with claim := some key } :=
  .of_claiming (.claim key id free rfl rfl rfl rfl) rfl rfl fun _ => .inl

theorem claimRelayEvent_claims :
    protocol.Triple g (claimRelayEvent key) fun r g' => g' = g.claimed key r.isNone := by
  refine .act fun h a => ?_
  cases hk : Assoc.get h.relayDedupe key with
  | some id => exact ⟨g, .quiet rfl, rfl⟩
  | none => exact ⟨_, .claim hk, rfl⟩

theorem claimReplay_claims (id : ℕ) :
    protocol.Triple g (claimReplay key id) fun r g' => g' = g.claimed key r := by
  refine .act fun h a => ?_
  cases hk : Assoc.get h.relayDedupe key with
  | some id => exact ⟨g, .quiet rfl, rfl⟩
  | none => exact ⟨_, .claim hk, rfl⟩

/-- Looking a row up only changes the order of use. -/
theorem HubState.lanePersistedID_fst (h : HubState) :
    ∃ order, (h.lanePersistedID key).1 = { h with lanePersistedOrder := order } := by
  unfold HubState.lanePersistedID
  split
  · exact ⟨_, rfl⟩
  · exact ⟨h.lanePersistedOrder, rfl⟩

theorem claimLaneEvent_claims :
    protocol.Triple g (claimLaneEvent key) fun r g' => g' = g.claimed key r := by
  refine .act fun h a => ?_
  obtain ⟨order, ho⟩ := h.lanePersistedID_fst key
  dsimp only
  rw [ho]
  split
  · exact ⟨g, .quiet rfl, rfl⟩
  cases hk : Assoc.get h.relayDedupe key with
  | some id => exact ⟨g, .quiet rfl, rfl⟩
  | none =>
    exact ⟨{ g with claim := some key },
      .of_claiming (.claim key 0 hk rfl rfl rfl rfl) rfl rfl fun _ => .inl, rfl⟩

/-- The claimant gives its claim back. -/
theorem forgetOwnRelayEvent_own {key : String} (own : g.claim = some key) :
    protocol.Triple g (forgetOwnRelayEvent key) fun _ g' => g' = { g with claim := none } :=
  .act fun _ _ => ⟨{ g with claim := none },
    .of_claiming (.forget key own rfl rfl rfl rfl) rfl rfl fun _ => .inl, rfl⟩

/-- Somebody else's claim is released. -/
theorem Does.release {l : Label} {h : HubState} {a : Answer} {key : String}
    (why : g.lapsed = true ∨ LaneKey key) : Does l h a g (h.forgetRelayEvent key) g :=
  .of_claiming (.release key why rfl rfl rfl rfl) rfl rfl fun _ => .inl

theorem forgetRelayEvent_same {key : String} (why : g.lapsed = true ∨ LaneKey key) :
    protocol.Same g (forgetRelayEvent key) :=
  .act fun _ _ => ⟨g, .release why, rfl⟩

theorem rememberRelayEvent_same (id : ℕ) : protocol.Same g (rememberRelayEvent key id) := by
  refine .act fun h _ => ⟨g, ?_, rfl⟩
  unfold HubState.rememberRelayEvent
  split
  · exact .quiet rfl
  · exact .of_claiming (.remember key id rfl rfl rfl rfl) rfl rfl fun _ => .inl

/-- The directive goes out, and the claim is spent. -/
theorem queueRelay_injects {key : String} (own : g.claim = some key) :
    protocol.Triple g (queueRelay key) fun r g' =>
      g' = if r then { g with claim := none } else g := by
  refine .act fun h a => ?_
  split
  · exact ⟨{ g with claim := none },
      .of_claiming (.inject key own rfl rfl rfl rfl) rfl rfl fun _ => .inl, rfl⟩
  · exact ⟨g, .quiet rfl, rfl⟩

/-! ## Routes and rows -/

/-- The role after a look-up of the route, for a send or by a duplicate. -/
def Role.resolved (g : Role) (l : Label) (event : String) (r : ReportRelayRoute × Bool) : Role :=
  { g with
    known := if r.2 then (event, r.1.machine) :: g.known else g.known
    lapsed := g.lapsed || (l = .reackRoute event && !r.2) }

/-- A look-up leaves what the other parts see. -/
theorem Does.looked {h h' : HubState} {a : Answer} {g' : Role} {l : Label}
    {routed : List (String × String)} (hh : h' = { h with routed := routed })
    (hrt : ∀ pair ∈ h.routed, pair ∈ routed) (claim : g'.claim = g.claim)
    (lapsed : g'.lapsed = true → g.lapsed = true ∨ ((∃ event, l = .reackRoute event) ∧
      a.routed = false) ∨ (l = .reackPersist 0 ∧ a.fault ≠ .none))
    (known : ∀ pair ∈ g'.known, pair ∈ g.known ∨ Source l h a h' pair) : Does l h a g h' g' := by
  subst hh
  exact ⟨lapsed, .of_same rfl rfl rfl claim, .same rfl rfl rfl, .same rfl rfl rfl rfl,
    { routed := hrt
      known := known
      rows := .refl
      windows := fun _ _ _ ho => .inl ho
      effects := fun _ hx => .inl hx }⟩

/-- A lane event without a node has an empty route. -/
theorem resolveRelayRoute_resolves (l : Label) (e : Event)
    (hl : l = .other ∨ l = .reackRoute e.key) :
    protocol.Triple g (resolveRelayRoute l e) fun r g' => g' = g.resolved l e.key r ∧
      (e.kind = .laneEvent → r.2 = false → r.1.machine = "") := by
  refine .act fun h a => ⟨_, ?_, rfl, fun hk hr => ?_⟩
  · cases hr : a.routed with
    | false =>
      simp only [Bool.and_false, Bool.false_eq_true, if_false]
      refine .looked rfl (fun _ hp => hp) rfl (fun hlap => ?_) fun _ hp => .inl hp
      simp only [Role.resolved, Bool.or_eq_true, Bool.and_eq_true, decide_eq_true_eq] at hlap
      exact hlap.imp id fun hd => .inl ⟨⟨_, hd.1⟩, hr⟩
    | true =>
      have hlap : ∀ route, (g.resolved l e.key (route, true)).lapsed = true → g.lapsed = true := by
        simp [Role.resolved]
      rcases hl with rfl | rfl
      · simp only [Bool.not_true, Bool.and_false, Bool.false_eq_true, if_false, decide_true,
          Bool.and_self, if_true]
        exact .looked rfl (fun _ hp => mem_cons_of_mem _ hp) rfl (fun h => .inl (hlap _ h))
          (mem_or_of_cons (.inl mem_cons_self))
      · simp only [Bool.not_true, Bool.and_false, Bool.false_eq_true, if_false, reduceCtorEq,
          decide_false, Bool.false_and]
        exact .looked rfl (fun _ hp => hp) rfl (fun h => .inl (hlap _ h))
          (mem_or_of_cons (.inr (.inr (.inr ⟨rfl, hr⟩))))
  · simp only at hr
    simp only [hk, hr, decide_true, Bool.not_false, Bool.and_self, if_true]

/-- A late acknowledgement learns whether its machine is the present route. -/
theorem lateRoute_resolves (machine : String) (e : Event) :
    protocol.Triple g (resolveRelayRoute (.lateRoute machine e.key) e) fun r g' =>
      g.known ⊆ g'.known ∧
      (r.1.machine = machine → r.1.sink = false → (e.key, machine) ∈ g'.known) := by
  refine .act fun h a => ?_
  simp only [reduceCtorEq, decide_false, Bool.false_and, Bool.false_eq_true, if_false]
  by_cases hf : machine = "" ∨ a.route.machine = machine ∧ a.route.sink = false
  · refine ⟨{ g with known := (e.key, machine) :: g.known }, ?_, subset_cons_self _ _,
      fun _ _ => mem_cons_self⟩
    exact .learn rfl rfl rfl (mem_or_of_cons (.inr (.inr (.inr ⟨rfl, hf⟩))))
  · refine ⟨g, .quiet rfl, .refl _, fun hm hs => absurd ?_ hf⟩
    split at hm
    · exact .inl hm.symm
    · next hr =>
      rw [if_neg hr] at hs
      exact .inr ⟨hm, hs⟩

/-- A read of a row teaches its machine. -/
theorem findRow_learns (p : Row → Bool) :
    protocol.Triple g (Cmd.act .other fun h a =>
        (h, if a.fault ≠ .none then none else some (h.rows.find? p)))
      fun r g' => g'.claim = g.claim ∧ g'.lapsed = g.lapsed ∧ g.known ⊆ g'.known ∧
        ∀ row, r = some (some row) → (row.key, row.machine) ∈ g'.known := by
  refine .act fun h a => ?_
  by_cases hf : a.fault ≠ .none
  · rw [if_pos hf]
    exact ⟨g, .quiet rfl, rfl, rfl, .refl _, fun _ hr => nomatch hr⟩
  rw [if_neg hf]
  cases hrow : h.rows.find? p with
  | none => exact ⟨g, .quiet rfl, rfl, rfl, .refl _, fun _ hr => nomatch hr⟩
  | some row =>
    refine ⟨{ g with known := (row.key, row.machine) :: g.known }, ?_, rfl, rfl,
      fun _ hp => mem_cons_of_mem _ hp, ?_⟩
    · exact .learn rfl rfl rfl
        (mem_or_of_cons (.inr (.inl ⟨row, mem_of_find?_eq_some hrow, rfl⟩)))
    · intro row' hr
      cases hr
      exact mem_cons_self

/-- A write keeps the rows and their machines; a new row is for the machine of the write. -/
theorem appendEvent_writes {e : Event} (hm : (e.key, machine) ∈ g.known ∨ machine = "")
    (rows : List Row) (pane : String) : g.Writes rows (appendEvent rows e machine pane).1 := by
  intro row h
  unfold appendEvent at h
  split at h
  · next found hfd =>
    obtain ⟨r, hr, rfl⟩ := mem_map.mp h
    split
    · exact .inl ⟨found, mem_of_find?_eq_some hfd, rfl, rfl⟩
    · exact .inl ⟨r, hr, rfl, rfl⟩
  · rcases mem_append.mp h with h | h
    · exact .inl ⟨row, h, rfl, rfl⟩
    · rw [mem_singleton.mp h]
      exact .inr hm

/-- The row that a write returns is of the event's kind; for a lane event it has the event's key. -/
theorem appendEvent_row (rows : List Row) (e : Event) (machine pane : String) :
    (appendEvent rows e machine pane).2.1.kind = e.kind ∧
      (e.kind = .laneEvent → (appendEvent rows e machine pane).2.1.key = e.key) := by
  unfold appendEvent
  split
  · next found hfd =>
    have hc := List.find?_some hfd
    rw [Row.collides, Bool.and_eq_true, decide_eq_true_eq, decide_eq_true_eq] at hc
    refine ⟨hc.1, fun hl => ?_⟩
    have hk := hc.2
    rw [hc.1] at hk
    simp only [idempotencyKey, hl, if_true] at hk
    simp only [Row.key, Event.key, relayEventDedupeKey, hc.1, hl, if_true, hk]
  · exact ⟨rfl, fun _ => rfl⟩

def Persisted.isFailed : Persisted → Bool
  | .failed => true
  | .without | .stored _ _ => false

/-- The role after a write. -/
def Role.persisted (g : Role) (l : Label) (r : Persisted) : Role :=
  { g with lapsed := g.lapsed || (l = .reackPersist 0 && r.isFailed) }

/-- A write that leaves rows of the old machines, or for machines that the goroutine knows. -/
theorem Does.wrote {l : Label} {h : HubState} {a : Answer} {r : Persisted} {rows : List Row}
    (hr : r.isFailed = true → a.fault ≠ .none) (hrows : g.Writes h.rows rows) :
    Does l h a g { h with rows := rows } (g.persisted l r) where
  lapsed hl := by
    simp only [Role.persisted, Bool.or_eq_true, Bool.and_eq_true, decide_eq_true_eq] at hl
    exact hl.imp id fun hd => .inr ⟨hd.1, hr hd.2⟩
  claiming := .of_same rfl rfl rfl rfl
  timing := .same rfl rfl rfl
  windowing := .same rfl rfl rfl rfl
  routing := ⟨fun _ hp => hp, fun _ hp => .inl hp, hrows, fun _ _ _ ho => .inl ho,
    fun _ hx => .inl hx⟩

theorem persistRelayEventRecord_persists {l : Label} {e : Event}
    (hm : (e.key, machine) ∈ g.known ∨ machine = "") :
    protocol.Triple g (persistRelayEventRecord cfg l e machine pane) fun r g' =>
      g' = g.persisted l r ∧
      ∀ row existing, r = .stored row existing →
        row.kind = e.kind ∧ (e.kind = .laneEvent → row.key = e.key) := by
  refine .act fun h a => ?_
  have hput := appendEvent_writes hm h.rows pane
  by_cases hk : cfg.handoffkeep = true
  · simp only [hk, Bool.not_true, Bool.false_eq_true, if_false]
    cases hf : a.fault with
    | none =>
      refine ⟨g.persisted l (.stored _ _), .wrote nofun hput, rfl, ?_⟩
      rintro row existing ⟨⟩
      exact appendEvent_row h.rows e machine pane
    | lost =>
      exact ⟨g.persisted l .failed, .wrote (by simp [hf]) hput, rfl, fun _ _ h => nomatch h⟩
    | refused =>
      exact ⟨g.persisted l .failed, .wrote (by simp [hf]) .refl, rfl, fun _ _ h => nomatch h⟩
  · simp only [hk, Bool.not_false, if_true]
    exact ⟨g.persisted l .without, .wrote nofun .refl, rfl, fun _ _ h => nomatch h⟩

/-- A delivery mark keeps the rows and their machines. -/
theorem markDelivered_writes (rows : List Row) :
    g.Writes rows (markDelivered rows id machine pane) := by
  intro row hrow
  obtain ⟨r, hr, rfl⟩ := mem_map.mp hrow
  split
  · exact .inl ⟨r, hr, rfl, rfl⟩
  · exact .inl ⟨r, hr, rfl, rfl⟩

/-- A step that only marks a row, with an effect that the goroutine knows of. -/
theorem Does.mark {l : Label} {h : HubState} {a : Answer} {effects : List Effect}
    (he : ∀ x ∈ effects, x ∈ h.effects ∨ (x.event, x.machine) ∈ g.known) :
    Does l h a g
      { h with rows := markDelivered h.rows id machine pane, effects := effects } g :=
  .of_windowing (.same rfl rfl rfl rfl)
    { routed := fun _ hp => hp
      known := fun _ hp => .inl hp
      rows := markDelivered_writes _
      windows := fun _ _ _ ho => .inl ho
      effects := fun x hx => (he x hx).imp (fun hx => hx) .inl } rfl

theorem markRow_same (id : ℕ) (machine pane : String) :
    protocol.Same g (markRow id machine pane) := by
  refine .act fun h a => ⟨g, ?_, rfl⟩
  split
  · exact .mark fun _ hx => .inl hx
  · exact .mark fun _ hx => .inl hx
  · exact .quiet rfl

theorem markRowFor_same {event : String} (hm : (event, machine) ∈ g.known) (id : ℕ)
    (pane : String) : protocol.Same g (markRowFor machine event id pane) := by
  refine .act fun h a => ⟨g, ?_, rfl⟩
  have he : ∀ x ∈ (h.affect machine event).effects,
      x ∈ h.effects ∨ (x.event, x.machine) ∈ g.known := mem_or_of_cons hm
  split
  · exact .mark he
  · exact .mark he
  · exact .quiet rfl

end Primitives

end Panewire.HubRelay

import Panewire.HubRelay.Timers

/-!
# Acknowledgements act on what was routed to their machine

A window remembers the machine that its event was routed to, and a row the machine of the write that
made it. An acknowledgement may close either, if the machine is its own. Five things get between
this check and the routes of the sends and replays:

* a lane event **over HTTP** has no producer node, and its row names the host of the request;
* a **duplicate** looks for a route of its own, and its write may be the one that makes the row;
* a **late delivery** is also taken from the machine of the present route, and the lane may have
  been pointed there after the event was sent;
* an **unconfirmed report** looks its window up, writes the mark, and then retires what is under the
  key by then;
* the **arm after a release** is a goroutine of its own, and arms what is under the key by then.

`acknowledgement_acts_on_routed` says that nothing else does.
-/

namespace Panewire.HubRelay

open Conc Data Hub List

variable {M : String} {h : HubState} {a : Answer} {l : Label}

/-- An event and a machine; if the machine is `M`, the event was routed to it. -/
def HubState.Gave (h : HubState) (M : String) (pair : String × String) : Prop :=
  pair.2 = M → pair ∈ h.routed

/-- **Whatever names `M` was routed to `M`**: what a goroutine knows, the rows, the windows, and the
effects of the acknowledgements from `M`. -/
structure Entitled (M : String) (h : HubState) (gs : List Role) : Prop where
  known : ∀ g ∈ gs, ∀ pair ∈ g.known, h.Gave M pair
  rows : ∀ row ∈ h.rows, h.Gave M (row.key, row.machine)
  windows : ∀ key event machine, h.Open key event machine → h.Gave M (event, machine)
  effects : ∀ x ∈ h.effects, h.Gave M (x.event, x.machine)

/-- When an unconfirmed report from `M` retires a window, and when the arm after a release by `M`
arms one, the window is one of `M`; when a duplicate of an event, or a late delivery from `M`, finds
that the event's route is `M`, the event was routed to `M` before. -/
def ownStep (M : String) : Label → HubState → Answer → Bool
  | .consume machine key, h, _ => machine ≠ M || (h.window key).all fun p => p.machine = M
  | .armReleased machine key, h, _ =>
    machine ≠ M || (h.window key).all fun p => p.armed || p.held || p.machine = M
  | .reackRoute event, h, a => !a.routed || a.route.machine ≠ M || h.routed.contains (event, M)
  | .lateRoute machine event, h, a =>
    machine ≠ M || a.route.machine ≠ M || a.route.sink || h.routed.contains (event, M)
  | _, _, _ => true

/-- No lane event over HTTP names `M` as its host. -/
def foreignHost (M : String) : Proc → Bool
  | .laneEvent e true _ => e.payload.host ≠ M
  | _ => true

/-- The window that an acknowledgement from `M` acts on is one of `M`. -/
theorem HubState.ActsOn.isOpen {x : Effect} {key : PendingKey} (ha : h.ActsOn l x key)
    (hM : x.machine = M) (ho : ownStep M l h a = true) : h.Open key x.event M := by
  obtain ⟨p, hp, he, hw⟩ := ha
  refine ⟨p, hp, he, ?_⟩
  rcases hw with hm | rfl | ⟨rfl, hi⟩
  · exact hm.trans hM
  · simpa [ownStep, hM, hp] using ho
  · rw [Bool.or_eq_false_iff] at hi
    simpa [ownStep, hM, hp, hi.1, hi.2] using ho

/-- What a look-up without a send finds for `M` was routed to `M`. -/
theorem Label.Finds.gave {pair : String × String} (hf : l.Finds a pair) (hM : M ≠ "")
    (hown : ownStep M l h a = true) : h.Gave M pair := by
  cases l with
  | reackRoute event =>
    obtain ⟨rfl, hrt⟩ := hf
    rintro rfl
    simpa [ownStep, hrt] using hown
  | lateRoute machine event =>
    obtain ⟨rfl, hrt⟩ := hf
    rintro rfl
    obtain ⟨hm, hs⟩ := hrt.resolve_left hM
    simpa [ownStep, hm, hs] using hown
  | _ => exact hf.elim

/-- **A step keeps it**, if its window and its look-up are the right ones. -/
theorem Entitled.step {h' : HubState} {gs : List Role} {i : ℕ} {g g' : Role}
    (he : Entitled M h gs) (hi : gs[i]? = some g) (hM : M ≠ "") (hown : ownStep M l h a = true)
    (hr : Routing l h a g h' g') : Entitled M h' (gs.set i g') := by
  have later : ∀ {pair}, h.Gave M pair → h'.Gave M pair := fun hp hm => hr.routed _ (hp hm)
  have known := he.known g (mem_of_getElem? hi)
  refine ⟨fun b hb pair hp => ?_, fun row hrow => ?_, fun key event machine ho => ?_,
    fun x hx => ?_⟩
  · rcases mem_set_cases hb with rfl | hb
    · rcases hr.known pair hp with hp | hp | ⟨row, hrow, rfl⟩ | ⟨key, ho⟩ | hf
      · exact later (known pair hp)
      · exact fun _ => hp
      · exact later (he.rows row hrow)
      · exact later (he.windows key _ _ ho)
      · exact later (hf.gave hM hown)
    · exact later (he.known b hb pair hp)
  · rcases hr.rows row hrow with ⟨old, hold, hk, hma⟩ | hp | hn
    · exact later (hk ▸ hma ▸ he.rows old hold)
    · exact later (known _ hp)
    · exact fun hm => absurd (hm.symm.trans hn) hM
  · rcases hr.windows key event machine ho with ho | hp
    · exact later (he.windows key event machine ho)
    · exact later (known _ hp)
  · rcases hr.effects x hx with hx | hp | ⟨key, hac⟩
    · exact later (he.effects x hx)
    · exact later (known _ hp)
    · intro hm
      have ho := hac.isOpen hm hown
      rw [show x.machine = M from hm]
      exact hr.routed _ (he.windows key _ _ ho rfl)

/-- The runs in which nothing gets between the check of an acknowledgement from `M` and the
routes. -/
def ownLimits (M : String) : Limits HubState Answer Label Proc :=
  { limits with
    start := fun r => r.admissible && foreignHost M r
    step := ownStep M }

theorem entitled_keeps (cfg : Config) (hM : M ≠ "") :
    protocol.Keeps (program cfg) (ownLimits M) (Entitled M) where
  follows r hr := program_follows cfg (hr.imp (fun hr => (Bool.and_eq_true _ _ ▸ hr).1) id)
  enter h gs r hr he := by
    refine ⟨fun g hg pair hp => ?_, he.rows, he.windows, he.effects⟩
    rcases mem_append.mp hg with hg | hg
    · exact he.known g hg pair hp
    rw [mem_singleton.mp hg] at hp
    cases r with
    | laneEvent e ingress sinkOnly =>
      cases ingress with
      | false => exact absurd hp not_mem_nil
      | true =>
        -- the host of an event over HTTP is not `M`
        have hho : e.payload.host ≠ M := by
          rcases hr with hr | ⟨_, _, hr⟩
          · have hfor : foreignHost M (.laneEvent e true sinkOnly) = true :=
              (Bool.and_eq_true _ _ ▸ hr).2
            exact of_decide_eq_true hfor
          · cases hr
        rw [mem_singleton.mp hp]
        exact fun hm => absurd hm hho
    | _ => exact absurd hp not_mem_nil
  rule l h a h' gs i g g' hi hl hdo he := he.step hi hM hl hdo.routing
  restart h h' gs hh he := by
    cases hh
    refine ⟨fun _ hg => absurd hg not_mem_nil, he.rows, fun key event machine ho => ?_,
      he.effects⟩
    obtain ⟨p, hp, -⟩ := ho
    cases hp

/-- **An acknowledgement acts on what was routed to its machine.** Take any machine `M`, and a run
in which no lane event over HTTP names `M` as its host, the window is one of `M` whenever an
unconfirmed report from `M` retires it or a release by `M` arms it, and the event was sent or
replayed to `M` before whenever a duplicate or a late delivery from `M` finds that its route is `M`.
Then every window that an acknowledgement from `M` retired, held, released or armed, and every row
that it marked, is of an event that a send or a replay was routed to `M` for. -/
theorem acknowledgement_acts_on_routed {cfg : Config} {M : String} (hM : M ≠ "")
    {s : Sys HubState Answer Label Proc} (hrun : Run (program cfg) (ownLimits M) ⟨{}, []⟩ s) :
    ∀ x ∈ s.shared.effects, x.machine = M → (x.event, M) ∈ s.shared.routed := by
  have hi : Entitled M {} [] :=
    ⟨fun _ hg => absurd hg not_mem_nil, fun _ hrow => absurd hrow not_mem_nil,
      fun _ _ _ ho => (nomatch ho.choose_spec.1), fun _ hx => absurd hx not_mem_nil⟩
  obtain ⟨gs, -, he⟩ := (entitled_keeps cfg hM).run hrun ⟨[], .nil, hi⟩
  intro x hx hm
  exact hm ▸ he.effects x hx hm

/-- A lane event that an HTTP client sent from `node-b`. -/
def sampleLaneEvent : Event where
  kind := .laneEvent
  payload := { jobID := laneEventTransportID sampleConfig.sha "lane" "e1", epoch := 1,
               ownerLane := "lane", eventID := "e1", host := "node-b", text := "hello" }
  valid := hubJobID_laneEventTransportID _ _ _

/-- The acknowledgement of the row; `node-b` need not have seen the event. -/
def sampleAck : Ack :=
  { jobID := sampleLaneEvent.payload.jobID, pane := "p9", originalEventID := 1 }

/-- The event is routed and sent to `node-a`; `node-b` says that it delivered the row, when the
look-up for the acknowledgement gives `present`. -/
def foreignAck (ingress : Bool) (present : Answer) : List (Move Proc Answer) :=
  [.start (.laneEvent sampleLaneEvent ingress false)] ++
    answers 0 [{}, {}, {}, connected, {}, {}, {}, {}, {}, {}, {}] ++
    [.start (.delivered "node-b" sampleAck)] ++ answers 1 [{}, {}, present, {}, {}, {}]

/-- **A machine closes a row that was not routed to it**: the row names the host of the HTTP
request. -/
theorem foreign_machine_marks_row : ∃ s : Sys HubState Answer Label Proc,
    Run (program sampleConfig) limits ⟨{}, []⟩ s ∧
    s.shared.effects = [⟨"node-b", sampleLaneEvent.key⟩] ∧
    (sampleLaneEvent.key, "node-b") ∉ s.shared.routed ∧
    s.shared.rows.map (·.deliveredTo) = ["node-b/p9"] := by
  exact Run.exists_of_replay (foreignAck true connected) (by decide +kernel)

/-- So does the machine that the lane was pointed to after the event was sent. -/
example : ∃ s : Sys HubState Answer Label Proc,
    Run (program sampleConfig) limits ⟨{}, []⟩ s ∧
    s.shared.effects = [⟨"node-b", sampleLaneEvent.key⟩] ∧
    s.shared.routed = [(sampleLaneEvent.key, "node-a")] :=
  Run.exists_of_replay (foreignAck false { connected with route := { machine := "node-b" } })
    (by decide +kernel)

/-- The report of a job is sent to `node-a`, which holds it back, releases it and delivers it. -/
def ownAcks : List (Move Proc Answer) :=
  sentAndHeld ++ released ++
    [.start (.delivered "node-a" { jobID := "job-1", pane := "p1", originalEventID := 1 })] ++
    answers 4 [{}, {}, {}, {}]

theorem acknowledgement_acts_on_routed_report : ∃ s : Sys HubState Answer Label Proc,
    "node-a" ≠ "" ∧ Run (program sampleConfig) (ownLimits "node-a") ⟨{}, []⟩ s ∧
    s.shared.effects.map (·.machine) = List.replicate 5 "node-a" ∧
    ∀ x ∈ s.shared.effects, x.machine = "node-a" → (x.event, "node-a") ∈ s.shared.routed := by
  have hne : "node-a" ≠ "" := by decide
  exact Exists.imp (fun _ h => ⟨hne, h⟩) (Run.exists_of_replay_and ownAcks (by decide +kernel)
    fun _ hrun _ => acknowledgement_acts_on_routed hne hrun)

end Panewire.HubRelay

import Panewire.Conc.Protocol
import Panewire.Relay.Manager

/-!
# Who carries an event

For one durable event, this file says what a node is about, without panes, waits, batches or
retries. The **view** of the event is what the node keeps of it: its held rows, whether a release
has it in flight, how many offers of it are running, who claimed it, its delivered records and its
history. A thread's **role** is what it has of the event in hand: the rows it may still type or hold
again, and the landed ones it still has to record and delete.

`Step` is the whole of what a thread may do to the event. A row gets into a hand by a release, which
needs the row in the store and marks the event in flight, or by an offer; it leaves the hand into
the store, into the pane, or nowhere.
-/

namespace Panewire.Relay

open Data Conc List

/-- What matters of a row: where it goes and what it says. -/
structure Face where
  pane : String
  lane : String
  text : String
  edited : Bool
  deriving DecidableEq

def Held.face (h : Held) : Face := ⟨h.pane, h.lane, h.text, h.edited⟩

/-- The first row of a directive. -/
def Directive.face (m : Directive) : Face := ⟨m.pane, m.lane, m.text, false⟩

def Face.edit (text : String) (f : Face) : Face := { f with text := text, edited := true }

/-- Whether an entry of the history is about an event. -/
def Ev.about (E : ℕ) : Ev → Bool
  | .offered m => m.eventID = E
  | .injected _ group _ _ => group.any fun h => h.eventID = E
  | .edited id _ _ _ => id = E
  | .cancelled id _ _ => id = E

/-- What a node keeps of one event. -/
structure View where
  faces : List Face
  inflight : Bool
  offering : ℕ
  /-- the lanes under which offers claimed it -/
  claims : List String
  records : List Delivered
  hist : List Ev

/-- Nobody has the event in hand. -/
def View.quiet (v : View) : Bool := !v.inflight && v.offering == 0

/-- The faces of the rows of an event. -/
def facesOf (E : ℕ) (items : List Held) : List Face :=
  (items.filter fun h => h.eventID = E).map Held.face

def Node.view (E : ℕ) (s : Node) : View where
  faces := facesOf E s.rows.rows
  inflight := E ∈ s.inflight
  offering := s.offering.count E
  claims := (s.claims.filter fun k => k.2 = E).map (·.1)
  records := s.delivered.rows.filter fun d => d.eventID = E
  hist := s.hist.filter (Ev.about E)

/-- What a thread has of the event. -/
structure Role where
  /-- the directive it is handling -/
  offers : Option Directive := none
  /-- the lane under which it claimed the event -/
  claim : Option String := none
  /-- its release has the event in flight -/
  flight : Bool := false
  /-- the rows it may still type or hold again -/
  hand : List Face := []
  /-- the rows that landed and are not recorded yet -/
  landed : List Face := []
  /-- a landed row is not deleted yet -/
  owes : Bool := false
  /-- a store call of this thread failed -/
  faulty : Bool := false

namespace Role

/-- Nothing that landed is left to record or delete, unless the store failed. -/
def Clean (g : Role) : Prop := g.faulty = true ∨ g.landed = [] ∧ g.owes = false

end Role

/-- The records of an event with a new one, which counts only for a lane that has none. -/
def View.noted (E : ℕ) (d : Delivered) (records : List Delivered) : List Delivered :=
  if d.eventID = E ∧ ∀ r ∈ records, r.lane ≠ d.lane then records ++ [d] else records

/-- The records of an event after a record was written: old ones go. -/
def View.recorded (E : ℕ) (d : Delivered) (records : List Delivered) : List Delivered :=
  (View.noted E d records).filter fun r =>
    d.deliveredAt - Node.relayDeliveredMaxAge ≤ r.deliveredAt

/-! ## The view of each operation -/

section Views

variable (E : ℕ)

@[simp] theorem facesOf_nil : facesOf E [] = [] := rfl

theorem mem_facesOf {items : List Held} {f : Face} :
    f ∈ facesOf E items ↔ ∃ h ∈ items, h.eventID = E ∧ h.face = f := by
  simp [facesOf, and_assoc]

theorem facesOf_append (xs ys : List Held) :
    facesOf E (xs ++ ys) = facesOf E xs ++ facesOf E ys := by
  simp [facesOf]

theorem facesOf_cons_self {h : Held} (hE : h.eventID = E) (items : List Held) :
    facesOf E (h :: items) = h.face :: facesOf E items := by
  simp [facesOf, hE]

theorem facesOf_cons_ne {h : Held} (hE : h.eventID ≠ E) (items : List Held) :
    facesOf E (h :: items) = facesOf E items := by
  simp [facesOf, hE]

/-- Rows that change without changing their event. -/
theorem facesOf_map (f : Held → Held) (k : Face → Face) (hid : ∀ h, (f h).eventID = h.eventID)
    (hk : ∀ h, h.eventID = E → (f h).face = k h.face) (items : List Held) :
    facesOf E (items.map f) = (facesOf E items).map k := by
  induction items with
  | nil => rfl
  | cons h items ih =>
    by_cases hE : h.eventID = E
    · rw [map_cons, facesOf_cons_self E ((hid h).trans hE), facesOf_cons_self E hE,
        map_cons, ih, hk h hE]
    · rw [map_cons, facesOf_cons_ne E (by rwa [hid h]), facesOf_cons_ne E hE, ih]

variable (s : Node)

theorem view_quiet : s.quiet E = (s.view E).quiet := by
  have hc : (E ∉ s.offering) ↔ (List.count E s.offering = 0) := count_eq_zero.symm
  simp only [Node.quiet, View.quiet, Node.view, hc]
  by_cases h : List.count E s.offering = 0 <;> by_cases h' : E ∈ s.inflight <;> simp [h, h']

theorem view_hist (ev : Ev) :
    Node.view E { s with hist := ev :: s.hist } =
      if ev.about E then { s.view E with hist := ev :: (s.view E).hist } else s.view E := by
  cases h : ev.about E <;> simp [Node.view, h]

variable (lane : String) (id : ℕ)

theorem view_claim :
    Node.view E { s with claims := (lane, id) :: s.claims } =
      if id = E then { s.view E with claims := lane :: (s.view E).claims } else s.view E := by
  by_cases h : id = E <;> simp [Node.view, h]

theorem view_unclaim :
    Node.view E { s with claims := s.claims.filter fun k => k ≠ (lane, id) } =
      if id = E then { s.view E with claims := (s.view E).claims.filter fun x => x ≠ lane }
      else s.view E := by
  have hc : ((s.claims.filter fun k => k ≠ (lane, id)).filter fun k => k.2 = E).map (·.1) =
      if id = E then ((s.claims.filter fun k => k.2 = E).map (·.1)).filter fun x => x ≠ lane
      else (s.claims.filter fun k => k.2 = E).map (·.1) := by
    rw [filter_filter]
    split
    · next h =>
      subst h
      rw [filter_map, filter_filter]
      congr 1
      refine filter_congr fun k _ => ?_
      by_cases hk : k.2 = id <;> simp [hk, Prod.ext_iff]
    · next h =>
      congr 1
      refine filter_congr fun k _ => ?_
      by_cases hk : k.2 = E <;> simp [hk, Prod.ext_iff, Ne.symm h]
  simp only [Node.view, hc]
  split <;> rfl

theorem mem_view_claims : lane ∈ (s.view E).claims ↔ (lane, E) ∈ s.claims := by
  simp [Node.view]

theorem view_arrive (m : Directive) :
    Node.view E { s with offering := m.eventID :: s.offering, hist := .offered m :: s.hist } =
      if m.eventID = E then
        { s.view E with
          offering := (s.view E).offering + 1
          hist := .offered m :: (s.view E).hist }
      else s.view E := by
  by_cases h : m.eventID = E
  · simp [Node.view, h, Ev.about]
  · simp [Node.view, h, Ev.about, count_cons_of_ne]

theorem view_leave :
    Node.view E { s with offering := s.offering.erase id } =
      if id = E then { s.view E with offering := (s.view E).offering - 1 } else s.view E := by
  by_cases h : id = E
  · subst h
    simp [Node.view]
  · simp [Node.view, h, count_erase_of_ne (Ne.symm h)]

theorem view_deleteRelayHeld :
    (s.deleteRelayHeld id).1.view E =
      if id = E then { s.view E with faces := [] } else s.view E := by
  have hfc : facesOf E (s.deleteRelayHeld id).1.rows.rows =
      if id = E then [] else facesOf E s.rows.rows := by
    simp only [Node.deleteRelayHeld, Table.deleteWhere, facesOf, filter_filter]
    split
    · next h =>
      subst h
      rw [filter_eq_nil_iff.mpr, map_nil]
      simp
    · next h =>
      congr 1
      refine filter_congr fun a _ => ?_
      by_cases ha : a.eventID = E
      · simp [ha, Ne.symm h]
      · simp [ha]
  split
  · next h => simp only [Node.view, hfc, if_pos h]; rfl
  · next h => simp only [Node.view, hfc, if_neg h]; rfl

/-- An insert adds the row's face when its lane has none, and changes nothing otherwise. -/
theorem view_insertRelayHeld (item : Held) :
    (s.insertRelayHeld item).1.view E = s.view E ∨
    (item.eventID = E ∧ (∀ f ∈ (s.view E).faces, f.lane ≠ item.lane) ∧
      (s.insertRelayHeld item).1.view E =
        { s.view E with faces := (s.view E).faces ++ [item.face] }) := by
  unfold Node.insertRelayHeld
  set seq := if item.recvSeq = 0 then (s.rows.rows.map (·.recvSeq)).foldl max 0 + 1
    else item.recvSeq with hs
  dsimp only
  unfold Table.insertNew
  split
  · exact .inl rfl
  next hfree =>
  by_cases hE : item.eventID = E
  · refine .inr ⟨hE, ?_, ?_⟩
    · intro f hf hl
      obtain ⟨h, hh, hid, rfl⟩ := (mem_facesOf E).mp hf
      refine hfree (mem_map.mpr ⟨h, hh, ?_⟩)
      exact Prod.ext hl (hid.trans hE.symm)
    · simp only [Node.view, facesOf_append]
      rw [facesOf_cons_self E (show (item.stored seq).eventID = E from hE)]
      rfl
  · simp only [Node.view, facesOf_append]
    rw [facesOf_cons_ne E (show (item.stored seq).eventID ≠ E from hE)]
    simp

theorem view_extendRelayHeldMaxWait (maxWait : ℤ) :
    (s.extendRelayHeldMaxWait id maxWait).view E = s.view E := by
  have hfc : facesOf E (s.extendRelayHeldMaxWait id maxWait).rows.rows =
      facesOf E s.rows.rows := by
    have := facesOf_map E (Held.extendFor id (maxWait.tdiv millisecond * millisecond)) (fun f => f)
      (fun h => by unfold Held.extendFor; split <;> rfl)
      (fun h _ => by unfold Held.extendFor; split <;> rfl) s.rows.rows
    rwa [map_id'] at this
  simp only [Node.view, hfc]
  rfl

theorem view_takeInflight (pane : String) (items : List Held) (remaining : Option (List Held)) :
    (s.takeInflight pane items remaining).view E =
      if E ∈ items.map (·.eventID) then { s.view E with inflight := true } else s.view E := by
  split
  · next h => simp only [Node.view, Node.takeInflight, mem_append, h, true_or, decide_true]
  · next h => simp only [Node.view, Node.takeInflight, mem_append, h, false_or]

theorem view_finishInflight (items : List Held) :
    (s.finishInflight items).view E =
      if E ∈ items.map (·.eventID) then { s.view E with inflight := false } else s.view E := by
  split
  · next h =>
    simp only [Node.view, Node.finishInflight, mem_filter, h, not_true_eq_false,
      decide_false, Bool.false_eq_true, and_false]
  · next h =>
    simp only [Node.view, Node.finishInflight, mem_filter, h, not_false_eq_true,
      decide_true, and_true]

theorem noted_insertNew (t : DeliveredTable) (d : Delivered) :
    ((t.insertNew d).1.rows.filter fun r => r.eventID = E) =
      View.noted E d (t.rows.filter fun r => r.eventID = E) := by
  unfold Table.insertNew View.noted
  split
  · next htk =>
    obtain ⟨r, hr, hk⟩ := mem_map.mp htk
    obtain ⟨hl, hid⟩ := Prod.mk.inj hk
    rw [if_neg]
    rintro ⟨hE, hfree⟩
    exact hfree r (mem_filter.mpr ⟨hr, by simpa using hid.trans hE⟩) hl
  · next hfree =>
    by_cases hE : d.eventID = E
    · rw [if_pos]
      · simp [hE]
      · refine ⟨hE, fun r hr hl => hfree (mem_map.mpr ⟨r, (mem_filter.mp hr).1, ?_⟩)⟩
        have hid : r.eventID = E := by simpa using (mem_filter.mp hr).2
        exact Prod.ext hl (hid.trans hE.symm)
    · simp [hE]

theorem view_recordRelayDelivered (d : Delivered) :
    (s.recordRelayDelivered d).view E =
      { s.view E with records := View.recorded E d (s.view E).records } := by
  have hrec : ((s.recordRelayDelivered d).delivered.rows.filter fun r => r.eventID = E) =
      View.recorded E d (s.delivered.rows.filter fun r => r.eventID = E) := by
    unfold View.recorded
    rw [← noted_insertNew]
    simp only [Node.recordRelayDelivered, Table.deleteWhere, filter_filter]
    refine filter_congr fun r _ => ?_
    rw [Bool.and_comm]
    simp only [← decide_not, not_lt]
  simp only [Node.view, hrec]
  rfl

theorem view_edit (text : String) :
    (s.edit id text).1.view E =
      if id = E then
        { s.view E with
          faces := (s.view E).faces.map (Face.edit text)
          hist := .edited E text (s.edit id text).2 (s.view E).quiet :: (s.view E).hist }
      else s.view E := by
  have hfc : facesOf E (s.edit id text).1.rows.rows =
      if id = E then (facesOf E s.rows.rows).map (Face.edit text) else facesOf E s.rows.rows := by
    split
    · next h =>
      subst h
      exact facesOf_map id (Held.editFor id text) (Face.edit text)
        (fun h => by unfold Held.editFor; split <;> rfl)
        (fun h hid => by simp [Held.editFor, hid, Held.face, Face.edit]) s.rows.rows
    · next h =>
      have := facesOf_map E (Held.editFor id text) (fun f => f)
        (fun h => by unfold Held.editFor; split <;> rfl)
        (fun x hx => by simp [Held.editFor, hx, Ne.symm h]) s.rows.rows
      rwa [map_id'] at this
  split
  · next h =>
    subst h
    rw [← view_quiet]
    simp only [Node.view, hfc, if_true]
    simp [Node.edit, Ev.about, Node.updateRelayHeldText]
  · next h =>
    simp only [Node.view, hfc, if_neg h]
    simp [Node.edit, Ev.about, Node.updateRelayHeldText, h]

theorem view_cancel :
    (s.cancel id).1.view E =
      if id = E then
        { s.view E with
          faces := []
          hist := .cancelled E (s.cancel id).2.isSome (s.view E).quiet :: (s.view E).hist }
      else s.view E := by
  have hdel := view_deleteRelayHeld E s id
  have hok : (s.cancel id).2.isSome = (s.deleteRelayHeld id).2 := by
    simp only [Node.cancel]
    split <;> simp [*]
  have hv : (s.cancel id).1.view E = { (s.deleteRelayHeld id).1.view E with
      hist := (Ev.cancelled id (s.deleteRelayHeld id).2 (s.quiet id) :: s.hist).filter
        (Ev.about E) } := rfl
  rw [hv, hdel, hok]
  split
  · next h =>
    subst h
    rw [view_quiet]
    simp [Ev.about, Node.view]
  · next h => simp [Ev.about, Node.view, h]

end Views

section Steps

variable (E : ℕ) (cfg : Config)

/-- The rows of the event that an inject proved and that a record can name. -/
def landedFaces (group : List Held) (r : InjectResult) : List Face :=
  (facesOf E (r.landed group)).filter fun f => f.lane ≠ ""

/-- **What a thread may do to the event.** `err` says that the store call of the step failed. -/
inductive Step : Label → View → Bool → Role → View → Role → Prop where
  /-- nothing, or letting go of a row -/
  | quiet {l v err g hand faulty} : hand ⊆ g.hand →
      (faulty = g.faulty ∨ faulty = true ∧ err = true) →
      Step l v err g v { g with hand := hand, faulty := faulty }
  /-- delete the rows of the event -/
  | delete {l v err g hand} : hand ⊆ g.hand →
      Step l v err g { v with faces := [] } { g with hand := hand, owes := false }
  /-- put a row in hand into the store; its lane has none -/
  | insert {l v err g hand x} : x ∈ g.hand → (∀ f ∈ v.faces, f.lane ≠ x.lane) →
      hand ⊆ g.hand → (∀ f ∈ hand, f.lane ≠ x.lane) →
      Step l v err g { v with faces := v.faces ++ [x] } { g with hand := hand }
  /-- a release takes stored rows that no release has in flight -/
  | take {l v err g faces} : v.inflight = false → faces ⊆ v.faces → g.flight = false →
      g.hand = [] →
      Step l v err g { v with inflight := true } { g with flight := true, hand := faces }
  /-- a release is over -/
  | finish {l v err g} : g.flight = true → g.Clean →
      Step l v err g { v with inflight := false } { g with flight := false, hand := [] }
  /-- a directive arrives -/
  | arrive {v err g m} : m.eventID = E → g.offers = none →
      Step (.offer m) v err g
        { v with offering := v.offering + 1, hist := .offered m :: v.hist }
        { g with offers := some m }
  /-- the directive is dealt with -/
  | leave {l v err g m} : g.offers = some m → g.claim = none → g.Clean →
      Step l v err g { v with offering := v.offering - 1 } { g with offers := none, hand := [] }
  | claim {l v err g lane} : lane ∉ v.claims → g.claim = none →
      Step l v err g { v with claims := lane :: v.claims } { g with claim := some lane }
  | unclaim {l v err g lane} : g.claim = some lane → g.Clean →
      Step l v err g { v with claims := v.claims.filter fun x => x ≠ lane }
        { g with claim := none, hand := [] }
  /-- an offer takes its directive in hand: no row of its lane was found, or one on another pane -/
  | pick {v err g m} : g.offers = some m → (cfg.mode ≠ .off → g.claim = some m.lane) → g.Clean →
      (err = true ∨ (∀ f ∈ v.faces, f.lane ≠ m.lane) ∨
        ∃ f ∈ v.faces, f.lane = m.lane ∧ f.pane ≠ m.pane) →
      Step (.readHeld m.lane E) v err g v
        { g with hand := [m.face], faulty := g.faulty || err }
  /-- type the text of rows in hand -/
  | inject {v err g hand pane group expired now result} : facesOf E group ⊆ g.hand →
      hand ⊆ g.hand → (∀ x ∈ landedFaces E group result, ∀ f ∈ hand, f.lane ≠ x.lane) →
      (group.any fun h => h.eventID = E) = true → g.Clean →
      Step .inject v err g
        { v with
          hist := .injected pane group (relayBatchText group expired now) result :: v.hist }
        { g with
          hand := hand
          landed := g.landed ++ landedFaces E group result
          owes := g.owes || (result.landed group).any fun h => h.eventID = E }
  /-- write a delivered record, for a landed row or for another event -/
  | record {v err g d} :
      (d.eventID = E → g.faulty = true ∨
        ∃ x ∈ g.landed, x.lane = d.lane ∧ x.pane = d.pane ∧ cfg.fingerprint x.text = d.payloadSHA) →
      Step (.recordDelivered d) v err g { v with records := View.recorded E d v.records }
        { g with landed := if d.eventID = E then g.landed.filter fun f => f.lane ≠ d.lane
            else g.landed }
  | edit {v err g text ok} :
      Step (.edit E) v err g
        { v with
          faces := v.faces.map (Face.edit text)
          hist := .edited E text ok v.quiet :: v.hist } g
  | cancel {v err g ok} :
      Step (.cancel E) v err g
        { v with faces := [], hist := .cancelled E ok v.quiet :: v.hist } g

/-- Threads start with nothing in hand; waits and timers are all they spawn. -/
def carryProtocol : Protocol Node Answer Label Proc Role where
  entry _ := {}
  spawns
    | .waitForPane .. => True
    | .rearm _ => True
    | _ => False
  rule l s e g s' g' := Step E cfg l (s.view E) e.storeErr g (s'.view E) g'

/-- The command keeps to the carrying protocol from a role, and returns with `Q`. -/
abbrev Carries {α : Type} (g : Role) (c : Act α) (Q : α → Role → Prop) : Prop :=
  (carryProtocol E cfg).Triple g c Q

end Steps

end Panewire.Relay

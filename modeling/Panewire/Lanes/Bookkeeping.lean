import Panewire.Conc.Machine
import Panewire.Lanes.Write

/-!
# The write times of rows

When a pane was closed by command, the hub drops the rows that point at it, but not those written
since the command began: they belong to a pane that reused the id. The hub remembers when it wrote
each row for that. A put records the time **inside** the lock of the file. A delete, a sweep and a
close forget the rows they removed **after** they have released it, and whoever put such a row again
in between loses its time.

* `Books` — the rows, the write times and every operation between its steps;
* `closed_panes_spare_new_rows` — no row that was put after a close began is dropped by it, in every
  run in which no lane is put while the hub still has to forget its removed row;
* `new_row_dropped` — otherwise one is.
-/

namespace Panewire.Lanes

open Data Conc List Assoc

variable {time : ℤ} {lane : String}

/-! ## State -/

inductive Kind where
  | put (lane : String) (row : LaneRow)
  | delete (lane : String)
  | sweep
  /-- rows of a machine at a pane that a command closed, which began at `start` -/
  | close (machine pane : String) (start : ℤ)
  deriving DecidableEq

/-- What the one operation inside the lock is about. -/
inductive Section where
  /-- it has read the file and is choosing; a close has looked at these rows, and may drop those
  that come with false -/
  | choosing (kind : Kind) (looked : List (String × Bool))
  /-- a put has replaced the file: its write is to be noted and its victims forgotten -/
  | noting (lane : String) (victims : List String)
  | evicting (victims : List String)
  deriving DecidableEq

/-- A row that a close has dropped: when it was last put, and when the command began. -/
structure Released where
  lane : String
  lastPut : Option ℤ
  start : ℤ
  deriving DecidableEq

structure Books where
  rows : List (String × LaneRow)
  life : LaneLiveness := {}
  inside : Option Section := none
  /-- rows that were removed outside of a put and are still to be forgotten -/
  pending : List String := []
  /-- when each row was last put through the hub -/
  lastPut : List (String × ℤ) := []
  released : List Released := []
  deriving DecidableEq

/-! ## Steps -/

namespace Books

variable (s : Books)

/-- Those of the lanes that have a row. -/
def present (lanes : List String) : List String :=
  lanes.filter fun lane => (Assoc.get s.rows lane).isSome

def remove (lanes : List String) : Books :=
  { s with rows := removeLanes s.rows lanes, lastPut := lanes.foldl Assoc.del s.lastPut }

/-- The rows that a put evicts; only a new row does. -/
def victims (lane : String) (drops : List String) : List String :=
  if (Assoc.get s.rows lane).isSome then [] else s.present drops

def putRow (lane : String) (row : LaneRow) (victims : List String) : Books :=
  let s := s.remove victims
  { s with rows := Assoc.put s.rows lane row, inside := some (.noting lane victims) }

/-- Drop rows and leave the lock; they are forgotten later. -/
def drop (lanes : List String) : Books :=
  let s := s.remove lanes
  { s with inside := none, pending := lanes ++ s.pending }

/-- What a close has found. -/
def closable (looked : List (String × Bool)) (drops : List String) : List String :=
  (s.present drops).filter fun lane => (lane, false) ∈ looked

/-- The file is replaced. Which rows may go is decided elsewhere: here it is `drops`. -/
def update (kind : Kind) (looked : List (String × Bool)) (drops : List String) : Option Books :=
  match kind with
  | .put lane row => some (s.putRow lane row (s.victims lane drops))
  | .delete lane => if (Assoc.get s.rows lane).isSome then some (s.drop [lane]) else none
  | .sweep => some (s.drop (s.present drops))
  | .close _ _ start =>
    let lanes := s.closable looked drops
    let dropped := lanes.map fun lane => ⟨lane, Assoc.get s.lastPut lane, start⟩
    some { s.drop lanes with released := dropped ++ s.released }

end Books

/-- One locked update of the file, or one call of the bookkeeping. -/
inductive BookStep where
  /-- an operation takes the lock and reads the file -/
  | enter (kind : Kind)
  /-- `writeOrSeed`, in a put at the row cap or in a sweep -/
  | seed (lane : String) (now : ℤ)
  /-- `retainWrites`, in a sweep -/
  | retain
  /-- `lastWrite`, in a close -/
  | look (lane : String)
  /-- it is refused, fails or finds nothing to do -/
  | leave
  | update (drops : List String)
  /-- `noteWrite`, in a put -/
  | note (now : ℤ)
  /-- `forget`, in a put -/
  | evict
  /-- `forget`, after the lock -/
  | forget (lane : String)
  deriving DecidableEq

namespace Books

def step (s : Books) : BookStep → Option Books
  | .enter kind =>
    if s.inside = none then some { s with inside := some (.choosing kind []) } else none
  | .seed lane now =>
    match s.inside with
    | some (.choosing (.put _ _) _) | some (.choosing .sweep _) =>
      some { s with life := (s.life.writeOrSeed lane now).2 }
    | _ => none
  | .retain =>
    match s.inside with
    | some (.choosing .sweep _) => some { s with life := s.life.retainWrites s.rows }
    | _ => none
  | .look lane =>
    match s.inside, Assoc.get s.rows lane with
    | some (.choosing (.close machine pane start) looked), some row =>
      if row.pane = pane then
        let kept := (s.life.lastWrite lane).any (start < ·)
        some { s with
          inside := some (.choosing (.close machine pane start) ((lane, kept) :: looked)) }
      else none
    | _, _ => none
  | .leave =>
    match s.inside with
    | some (.choosing _ _) => some { s with inside := none }
    | _ => none
  | .update drops =>
    match s.inside with
    | some (.choosing kind looked) => s.update kind looked drops
    | _ => none
  | .note now =>
    match s.inside with
    | some (.noting lane victims) =>
      some { s with
        life := s.life.noteWrite lane now
        lastPut := Assoc.put s.lastPut lane now
        inside := some (.evicting victims) }
    | _ => none
  | .evict =>
    match s.inside with
    | some (.evicting []) => some { s with inside := none }
    | some (.evicting (lane :: victims)) =>
      some { s with life := s.life.forget lane, inside := some (.evicting victims) }
    | _ => none
  | .forget lane =>
    if lane ∈ s.pending then
      some { s with life := s.life.forget lane, pending := s.pending.erase lane }
    else none

/-- **No lane is put while the hub still has to forget its removed row.** -/
def settled (s : Books) : BookStep → Bool
  | .update _ =>
    match s.inside with
    | some (.choosing (.put lane _) _) => lane ∉ s.pending
    | _ => true
  | _ => true

/-- Any step. -/
def anyStep (_ : Books) (_ : BookStep) : Bool := true

/-- No row was dropped by a close that began before the row was put. -/
def Spares (s : Books) : Prop := ∀ r ∈ s.released, ∀ time ∈ r.lastPut, time ≤ r.start

end Books

/-! ## The invariant -/

def Section.victims : Section → List String
  | .choosing _ _ => []
  | .noting _ victims => victims
  | .evicting victims => victims

structure Books.Sound (s : Books) : Prop where
  /-- what is to be forgotten has no row -/
  pending : ∀ lane ∈ s.pending, Assoc.get s.rows lane = none
  victims : ∀ inside ∈ s.inside, ∀ lane ∈ inside.victims, Assoc.get s.rows lane = none
  noting : ∀ lane victims, s.inside = some (.noting lane victims) →
    (Assoc.get s.rows lane).isSome = true
  fresh : ∀ lane, Assoc.get s.rows lane = none → Assoc.get s.lastPut lane = none
  /-- the time of every put is known -/
  known : ∀ lane time, Assoc.get s.lastPut lane = some time → s.life.lastWrite lane = some time
  looked : ∀ machine pane start looked,
    s.inside = some (.choosing (.close machine pane start) looked) →
    ∀ lane, (lane, false) ∈ looked → ∀ time, Assoc.get s.lastPut lane = some time → time ≤ start
  spares : s.Spares

namespace Books

variable {s t : Books}

/-- The books at the start. -/
theorem Sound.init (rows : List (String × LaneRow)) (life : LaneLiveness) :
    Sound { rows, life } where
  pending _ hl := absurd hl not_mem_nil
  victims _ hi := nomatch hi
  noting _ _ hi := nomatch hi
  fresh _ _ := rfl
  known _ _ h := nomatch h
  looked _ _ _ _ hi := nomatch hi
  spares _ hr := absurd hr not_mem_nil

/-! ### Write times -/

variable (l : LaneLiveness)

theorem lastWrite_noteWrite (lane other : String) (time : ℤ) :
    (l.noteWrite lane time).lastWrite other =
      if lane = other then some time else l.lastWrite other :=
  get_put l.wrote lane other time

theorem lastWrite_forget (lane other : String) :
    (l.forget lane).lastWrite other = if lane = other then none else l.lastWrite other :=
  get_del l.wrote lane other

theorem lastWrite_writeOrSeed {l : LaneLiveness} {other : String}
    (hkn : l.lastWrite other = some time) (lane : String) (now : ℤ) :
    (l.writeOrSeed lane now).2.lastWrite other = some time := by
  unfold LaneLiveness.writeOrSeed
  split
  · exact hkn
  · next hn =>
    have hne : lane ≠ other := by
      rintro rfl
      rw [LaneLiveness.lastWrite, hn] at hkn
      cases hkn
    exact (get_put _ _ _ _).trans ((if_neg hne).trans hkn)

theorem lastWrite_retainWrites {rows : List (String × LaneRow)}
    (hrow : (Assoc.get rows lane).isSome = true) :
    (l.retainWrites rows).lastWrite lane = l.lastWrite lane :=
  (get_filter (fun k => (Assoc.get rows k).isSome) l.wrote lane).trans (if_pos hrow)

/-- A row that was put is there. -/
theorem Sound.row_of_lastPut (hs : s.Sound)
    (hp : Assoc.get s.lastPut lane = some time) : (Assoc.get s.rows lane).isSome = true := by
  by_contra hn
  rw [Option.not_isSome_iff_eq_none] at hn
  rw [hs.fresh lane hn] at hp
  cases hp

/-! ### Removing rows -/

theorem rows_remove (s : Books) (lanes : List String) (lane : String) :
    Assoc.get (s.remove lanes).rows lane = if lane ∈ lanes then none else Assoc.get s.rows lane :=
  get_foldl_del s.rows lanes lane

theorem lastPut_remove (s : Books) (lanes : List String) (lane : String) :
    Assoc.get (s.remove lanes).lastPut lane =
      if lane ∈ lanes then none else Assoc.get s.lastPut lane :=
  get_foldl_del s.lastPut lanes lane

theorem rows_remove_none (hn : Assoc.get s.rows lane = none)
    (lanes : List String) : Assoc.get (s.remove lanes).rows lane = none := by
  rw [rows_remove, hn, ite_self]

theorem lastPut_of_remove {lanes : List String}
    (hp : Assoc.get (s.remove lanes).lastPut lane = some time) :
    Assoc.get s.lastPut lane = some time := by
  rw [lastPut_remove] at hp
  split at hp
  · cases hp
  · exact hp

theorem Sound.fresh_remove (hs : s.Sound) (lanes : List String)
    (hn : Assoc.get (s.remove lanes).rows lane = none) :
    Assoc.get (s.remove lanes).lastPut lane = none := by
  rw [rows_remove] at hn
  rw [lastPut_remove]
  split
  · rfl
  · next hl =>
    rw [if_neg hl] at hn
    exact hs.fresh lane hn

/-- Dropping rows and leaving the lock. -/
theorem Sound.drop (hs : s.Sound) (lanes : List String) : (s.drop lanes).Sound :=
  { hs with
    pending lane hl := by
      change Assoc.get (s.remove lanes).rows lane = none
      rcases mem_append.mp hl with hl | hl
      · rw [rows_remove, if_pos hl]
      · exact rows_remove_none (hs.pending lane hl) lanes
    victims _ hi := nomatch hi
    noting _ _ hi := nomatch hi
    fresh _ hn := hs.fresh_remove lanes hn
    known lane time hp := hs.known lane time (lastPut_of_remove hp)
    looked _ _ _ _ hi := nomatch hi }

/-! ### The update -/

theorem not_mem_victims (s : Books) (lane : String) (drops : List String) :
    lane ∉ s.victims lane drops := by
  unfold Books.victims
  split
  · exact not_mem_nil
  · next hn => exact fun hmem => hn (mem_filter.mp hmem).2

variable {victims : List String}

section Steps

variable (hs : s.Sound)
include hs

theorem Sound.putRow (row : LaneRow)
    (hpd : lane ∉ s.pending) (hv : lane ∉ victims) : (s.putRow lane row victims).Sound :=
  { hs with
    pending other hl := by
      have hne : lane ≠ other := fun h => hpd (h ▸ hl)
      refine (get_put _ _ _ _).trans ((if_neg hne).trans ?_)
      exact rows_remove_none (hs.pending other hl) victims
    victims inside hi other hl := by
      cases hi
      have hne : lane ≠ other := fun h => hv (h ▸ hl)
      refine (get_put _ _ _ _).trans ((if_neg hne).trans ?_)
      exact (rows_remove s victims other).trans (if_pos hl)
    noting other _ hi := by
      obtain ⟨rfl, -⟩ := Section.noting.inj (Option.some.inj hi)
      exact congrArg Option.isSome ((get_put _ _ _ _).trans (if_pos rfl))
    fresh other hn := by
      change Assoc.get (Assoc.put _ lane row) other = none at hn
      rw [get_put] at hn
      split at hn
      · cases hn
      · exact hs.fresh_remove victims hn
    known other time hp := hs.known other time (lastPut_of_remove hp)
    looked _ _ _ _ hi := nomatch hi }

theorem Sound.update {kind : Kind} {looked : List (String × Bool)}
    (hin : s.inside = some (.choosing kind looked)) {drops : List String}
    (hok : s.settled (.update drops) = true) (h : s.update kind looked drops = some t) :
    t.Sound := by
  cases kind with
  | put lane row =>
    cases h
    have hpd : lane ∉ s.pending := by simpa [settled, hin] using hok
    exact hs.putRow row hpd (s.not_mem_victims lane drops)
  | delete lane =>
    obtain ⟨-, hdr⟩ := Option.ite_none_right_eq_some.mp h
    cases hdr
    exact hs.drop [lane]
  | sweep =>
    cases h
    exact hs.drop _
  | close machine pane start =>
    cases h
    have hdr := hs.drop (s.closable looked drops)
    refine ⟨hdr.pending, hdr.victims, hdr.noting, hdr.fresh, hdr.known, hdr.looked, ?_⟩
    intro r hr time ht
    rcases mem_append.mp hr with hr | hr
    · obtain ⟨lane, hl, rfl⟩ := mem_map.mp hr
      have hfal : (lane, false) ∈ looked := by simpa using (mem_filter.mp hl).2
      exact hs.looked machine pane start looked hin lane hfal time ht
    · exact hs.spares r hr time ht

/-! ### The other calls -/

/-- Forgetting a lane without a row. -/
theorem Sound.known_forget {gone : String} (hn : Assoc.get s.rows gone = none)
    (hp : Assoc.get s.lastPut lane = some time) :
    (s.life.forget gone).lastWrite lane = some time := by
  have hne : gone ≠ lane := by
    rintro rfl
    rw [hs.fresh gone hn] at hp
    cases hp
  rw [lastWrite_forget, if_neg hne]
  exact hs.known lane time hp

/-- A change of the write times alone. -/
theorem Sound.setLife {life : LaneLiveness} (hkn : ∀ lane time,
    Assoc.get s.lastPut lane = some time → life.lastWrite lane = some time) :
    Sound { s with life := life } :=
  ⟨hs.pending, hs.victims, hs.noting, hs.fresh, hkn, hs.looked, hs.spares⟩

theorem Sound.look {machine pane : String} {start : ℤ} {looked : List (String × Bool)}
    (hin : s.inside = some (.choosing (.close machine pane start) looked)) :
    Sound { s with inside := some (.choosing (.close machine pane start)
      ((lane, (s.life.lastWrite lane).any (start < ·)) :: looked)) } :=
  { hs with
    victims inside hi := by
      cases hi
      exact fun _ hl => absurd hl not_mem_nil
    noting _ _ hi := nomatch hi
    looked m p st lk hi other hfal time hp := by
      obtain ⟨hkind, rfl⟩ := Section.choosing.inj (Option.some.inj hi)
      obtain ⟨rfl, rfl, rfl⟩ := Kind.close.inj hkind
      rcases mem_cons.mp hfal with heq | hfal
      · obtain ⟨rfl, hk⟩ := Prod.mk.inj heq
        rw [hs.known other time hp] at hk
        simpa using hk.symm
      · exact hs.looked _ _ _ _ hin other hfal time hp }

theorem Sound.leave : Sound { s with inside := none } :=
  { hs with
    victims _ hi := nomatch hi
    noting _ _ hi := nomatch hi
    looked _ _ _ _ hi := nomatch hi }

theorem Sound.enter (kind : Kind) :
    Sound { s with inside := some (.choosing kind []) } :=
  { hs with
    victims inside hi := by
      cases hi
      exact fun _ hl => absurd hl not_mem_nil
    noting _ _ hi := nomatch hi
    looked _ _ _ lk hi := by
      obtain ⟨-, rfl⟩ := Section.choosing.inj (Option.some.inj hi)
      exact fun _ hl => absurd hl not_mem_nil }

theorem Sound.note (hin : s.inside = some (.noting lane victims)) (now : ℤ) :
    Sound { s with
      life := s.life.noteWrite lane now
      lastPut := Assoc.put s.lastPut lane now
      inside := some (.evicting victims) } :=
  { hs with
    victims inside hi := by
      cases hi
      exact hs.victims (.noting lane victims) hin
    noting _ _ hi := nomatch hi
    fresh other hn := by
      have hne : lane ≠ other := by
        rintro rfl
        have hrow := hs.noting lane victims hin
        rw [hn] at hrow
        cases hrow
      exact (get_put _ _ _ _).trans ((if_neg hne).trans (hs.fresh other hn))
    known other time hp := by
      rw [get_put] at hp
      rw [lastWrite_noteWrite]
      split
      · next hl => rwa [if_pos hl] at hp
      · next hl =>
        rw [if_neg hl] at hp
        exact hs.known other time hp
    looked _ _ _ _ hi := nomatch hi }

theorem Sound.evict (hin : s.inside = some (.evicting (lane :: victims))) :
    Sound { s with life := s.life.forget lane, inside := some (.evicting victims) } :=
  { hs with
    victims inside hi other hl := by
      cases hi
      exact hs.victims (.evicting (lane :: victims)) hin other (mem_cons_of_mem _ hl)
    noting _ _ hi := nomatch hi
    known _ _ hp :=
      hs.known_forget (hs.victims (.evicting (lane :: victims)) hin lane mem_cons_self) hp
    looked _ _ _ _ hi := nomatch hi }

theorem Sound.forget (hla : lane ∈ s.pending) :
    Sound { s with life := s.life.forget lane, pending := s.pending.erase lane } :=
  { hs with
    pending other hl := hs.pending other (mem_of_mem_erase hl)
    known _ _ hp := hs.known_forget (hs.pending lane hla) hp }

/-! ## Every run -/

theorem Sound.step {a : BookStep} (hok : s.settled a = true) (h : s.step a = some t) : t.Sound := by
  cases a with dsimp only [Books.step] at h
  | enter kind =>
    obtain ⟨-, he⟩ := Option.ite_none_right_eq_some.mp h
    cases he
    exact hs.enter kind
  | seed lane now =>
    have hse : ∀ other time, Assoc.get s.lastPut other = some time →
        (s.life.writeOrSeed lane now).2.lastWrite other = some time :=
      fun other time hp => lastWrite_writeOrSeed (hs.known other time hp) lane now
    split at h
    · cases h
      exact hs.setLife hse
    · cases h
      exact hs.setLife hse
    · cases h
  | retain =>
    split at h
    · cases h
      refine hs.setLife fun lane time hp => ?_
      rw [lastWrite_retainWrites _ (hs.row_of_lastPut hp)]
      exact hs.known lane time hp
    · cases h
  | look lane =>
    split at h
    · next hin _ =>
      obtain ⟨-, hlo⟩ := Option.ite_none_right_eq_some.mp h
      cases hlo
      exact hs.look hin
    · cases h
  | leave =>
    split at h
    · cases h
      exact hs.leave
    · cases h
  | update drops =>
    split at h
    · next hin => exact hs.update hin hok h
    · cases h
  | note now =>
    split at h
    · next hin =>
      cases h
      exact hs.note hin now
    · cases h
  | evict =>
    split at h
    · cases h
      exact hs.leave
    · next hin =>
      cases h
      exact hs.evict hin
    · cases h
  | forget lane =>
    obtain ⟨hl, hfor⟩ := Option.ite_none_right_eq_some.mp h
    cases hfor
    exact hs.forget hl

end Steps

/-- **A close spares the rows put since it began**, in every run in which no lane is put while the
hub still has to forget its removed row: whatever the rows and the write times are at first and
whatever the clock says. -/
theorem closed_panes_spare_new_rows (rows : List (String × LaneRow)) (life : LaneLiveness)
    {s : Books} (hrun : Reach step settled { rows, life } s) : s.Spares :=
  (hrun.keeps (Sound.init rows life) fun _ _ _ hs hok h => hs.step hok h).spares

end Books

/-! ## A new row that is dropped -/

def sampleRow : LaneRow := { machine := "machine-a", pane := "w1:p1" }

/-- The row is deleted, put again at 20 and then forgotten; a close that began at 10 follows. -/
def putBeforeForget : List BookStep :=
  [.enter (.delete "lane"), .update [], .enter (.put "lane" sampleRow), .update [], .note 20,
    .evict, .forget "lane", .enter (.close "machine-a" "w1:p1" 10), .look "lane", .update ["lane"]]

/-- **A new row is dropped**: it was put at 20, and the command that closed its pane began at 10. -/
theorem new_row_dropped :
    ∃ s, Reach Books.step Books.anyStep { rows := [("lane", sampleRow)] } s ∧
      s.released = [⟨"lane", some 20, 10⟩] := by
  exact Reach.exists_of_replay putBeforeForget (by decide +kernel)

/-- Forgotten before it is put again, the row is kept, and a later close drops it. -/
theorem closed_panes_spare_new_rows_in_turn :
    ∃ s, Reach Books.step Books.settled { rows := [("lane", sampleRow)] } s ∧
      s.released = [⟨"lane", some 20, 30⟩] ∧ s.Spares := by
  exact Reach.exists_of_replay_and
    [.enter (.delete "lane"), .update [], .forget "lane", .enter (.put "lane" sampleRow),
      .update [], .note 20, .evict, .enter (.close "machine-a" "w1:p1" 10), .look "lane",
      .update ["lane"], .enter (.close "machine-a" "w1:p1" 30), .look "lane", .update ["lane"]]
    (by decide +kernel) fun _ hrun _ => Books.closed_panes_spare_new_rows _ _ hrun

end Panewire.Lanes

import Mathlib.Data.List.Perm.Subperm
import Panewire.Conc.Machine
import Panewire.Data.Assoc
import Panewire.Spawn.Sound

/-!
# Pool caps

A pool with a **cap** should take a new spawn only while fewer live spawns than the cap run on it.
A worker that places an automatic spawn reads the live count once, while it selects; the spawn
becomes visible to others when it is bound to a node, later. Reads and binds of several workers
interleave. The count also leaves operations out that are bound and await reconciliation, and
succeeded ones whose job no node has listed for two minutes; and a resumed operation is counted
under the profile of the attempt before, whatever it is bound to now.

* `Pools` — the store of operations, the jobs that nodes list and the selections under way;
* `pools_within_caps` — no pool is over its cap, in every run in which nothing is bound to the pool
  between a worker's read and its bind and every read counts what is bound where it is bound;
* `two_selections_exceed` — otherwise two workers fill the last slot.
-/

namespace Panewire.Spawn

open Data Conc OperationRow List Option

variable {key profile : String} {e : String × String} {row row' : OperationRow} {now : ℤ}
  {cfg : Config} {node : NodeRequest} {s : Store}

/-! ## Caps -/

def devinFreeCapKey : String := "devin-free"

/-- What a selection reads of the catalog, the policy and the configuration. -/
structure Catalog where
  /-- the catalog profile that a placed profile runs -/
  canon : String → String
  poolOf : String → Option String
  /-- the rungs that draw on the free quota -/
  devinFreeRungs : List String
  /-- `[quota].pool_max_concurrent` -/
  caps : List (String × ℕ)

namespace Catalog

variable (cat : Catalog)

/-- A placed profile counts under a key. -/
def inKey (key profile : String) : Bool :=
  if key = devinFreeCapKey then cat.canon profile ∈ cat.devinFreeRungs
  else cat.poolOf (cat.canon profile) = some key

/-- The keys that a candidate must pass. -/
def capKeys (profile : String) : List String :=
  (cat.poolOf (cat.canon profile)).toList ++
    if cat.canon profile ∈ cat.devinFreeRungs then [devinFreeCapKey] else []

theorem mem_capKeys (h : cat.inKey key profile = true) : key ∈ cat.capKeys profile := by
  unfold inKey at h
  unfold capKeys
  split at h
  · next hk =>
    have hfree : cat.canon profile ∈ cat.devinFreeRungs := by simpa using h
    rw [if_pos hfree, hk]
    exact mem_append_right _ mem_cons_self
  · have hp : cat.poolOf (cat.canon profile) = some key := by simpa using h
    rw [hp]
    exact mem_append_left _ mem_cons_self

/-- How many of the live spawns count under a key. -/
def count (live : List (String × String)) (key : String) : ℕ :=
  live.countP fun e => cat.inKey key e.2

/-- `poolCapGate.full` finds no cap that the candidate is over; `live` is the count that was read,
if it was. -/
def admits (live : Option (List (String × String))) (profile : String) : Bool :=
  (cat.capKeys profile).all fun key =>
    match Assoc.get cat.caps key with
    | none => true
    | some limit => live.any fun live => cat.count live key < limit

end Catalog

/-! ## What is counted -/

/-- The profile that an operation is bound to. -/
def OperationRow.boundProfile (row : OperationRow) : Option String :=
  (row.node.map fun node => hubSpawnArg "-m" node.args).filter fun p => p ≠ "" ∧ p ≠ "auto"

/-- `livePlacedProfile` of an automatic spawn: the profile of the stored outcome comes first, and a
resumed operation still has the outcome of the attempt before. -/
def OperationRow.placedProfile (row : OperationRow) : Option String :=
  if row.result.profile ≠ "" then some row.result.profile else row.boundProfile

def spawnLiveSettle : ℤ := 2 * 60 * 1000

/-- `liveSpawns` lists the row. -/
def OperationRow.counts (active : List String) (settled : ℤ) (row : OperationRow) : Bool :=
  row.status = .accepted || row.status = .dispatching ||
    (row.status = .succeeded &&
      (settled ≤ row.created || settled ≤ row.lastRun || row.job ∈ active))

/-- `liveSpawnProfiles`, with the request that each profile belongs to. -/
def Store.liveSpawnProfiles (s : Store) (active : List String) (now : ℤ) (exceptRequest : String) :
    List (String × String) :=
  s.operations.rows.filterMap fun row =>
    if row.counts active (now - spawnLiveSettle) ∧ row.requestID ≠ exceptRequest then
      row.placedProfile.map (row.requestID, ·)
    else none

/-! ## State -/

/-- A selection that has read the live count. -/
structure Selection where
  live : List (String × String)
  /-- the profiles that other workers have bound since -/
  boundSince : List String := []
  deriving DecidableEq

structure Pools where
  store : Store := .empty
  /-- the jobs that nodes list -/
  active : List String := []
  /-- by request -/
  selections : List (String × Selection) := []
  /-- succeeded operations that some read has left out -/
  leftOut : List String := []

inductive PoolStep where
  /-- any write of the store but a bind -/
  | write (op : Op)
  /-- what nodes list changes -/
  | heartbeat (active : List String)
  /-- a worker reads the live count -/
  | read (id : String) (now : ℤ)
  /-- a worker binds what it has selected -/
  | bind (id : String) (attempt : ℕ) (node : NodeRequest)
  /-- a selection is over -/
  | finish (id : String)

namespace Pools

def leaveOut (s : Pools) (now : ℤ) : List String :=
  (s.store.operations.rows.filter fun row => row.status = .succeeded &&
    !row.counts s.active (now - spawnLiveSettle)).map (·.requestID)

/-- The row of a request is bound to this node request. -/
def isBound (store : Store) (id : String) (node : NodeRequest) : Bool :=
  (store.operations.find id).any fun row => row.node = some node

/-- Every other selection is behind by one bind. -/
def noteBind (selections : List (String × Selection)) (id profile : String) :
    List (String × Selection) :=
  Assoc.mapValues (fun k sel => if k = id then sel
    else { sel with boundSince := profile :: sel.boundSince }) selections

def step (cfg : Config) (cat : Catalog) (s : Pools) : PoolStep → Option Pools
  | .write op =>
    match op with
    | .bind _ _ _ => none
    | op => some { s with store := s.store.perform cfg op }
  | .heartbeat active => some { s with active }
  | .read id now =>
    let sel : Selection := { live := s.store.liveSpawnProfiles s.active now id }
    some { s with
      selections := Assoc.put s.selections id sel
      leftOut := s.leaveOut now ++ s.leftOut }
  | .bind id attempt node =>
    let profile := hubSpawnArg "-m" node.args
    if cat.admits ((Assoc.get s.selections id).map (·.live)) profile then
      let store := (s.store.bindSpawn id attempt node).2
      some { s with
        store
        selections := if isBound store id node then noteBind s.selections id profile
          else s.selections }
    else none
  | .finish id => some { s with selections := Assoc.del s.selections id }

/-- **The condition**: nothing is bound to a capped pool of the candidate between the read and the
bind; no read leaves out an unfinished operation that is bound, or counts an unfinished or succeeded
one under another profile than it is bound to; and no node begins to list the job of a succeeded
operation that a read has left out. -/
def careful (cat : Catalog) (s : Pools) : PoolStep → Bool
  | .write _ => true
  | .heartbeat active => s.store.operations.rows.all fun row =>
      !(row.status = .succeeded && row.job ∈ active && row.job ∉ s.active &&
        row.requestID ∈ s.leftOut)
  | .read _ _ => s.store.operations.rows.all fun row =>
      !((row.status = .reconciling || row.status = .deadlineExceeded) && row.node.isSome) &&
        (!(row.status.pending || row.status = .succeeded) || row.boundProfile.isNone ||
          row.placedProfile = row.boundProfile)
  | .bind id _ node => (Assoc.get s.selections id).all fun sel => sel.boundSince.all fun other =>
      (cat.capKeys (hubSpawnArg "-m" node.args)).all fun key =>
        !((Assoc.get cat.caps key).isSome && cat.inKey key other)
  | .finish _ => true

/-- Any step. -/
def anyStep (_ : Pools) (_ : PoolStep) : Bool := true

/-! ## Live operations

The invariant is about more operations than take a slot: a succeeded one stays **live** until a read
has left it out, whether or not a node lists its job yet. -/

def live (s : Pools) (row : OperationRow) : Bool :=
  row.status.pending ||
    (row.status = .succeeded && (row.requestID ∉ s.leftOut || row.job ∈ s.active))

/-- The live operations with their profiles. -/
def entries (s : Pools) : List (String × String) :=
  s.store.operations.rows.filterMap fun row =>
    if s.live row then row.boundProfile.map (row.requestID, ·) else none

variable {s t : Pools}

theorem mem_entries : e ∈ s.entries ↔ ∃ row ∈ s.store.operations,
    s.live row = true ∧ row.requestID = e.1 ∧ row.boundProfile = some e.2 := by
  unfold entries
  rw [mem_filterMap]
  refine exists_congr fun row => and_congr_right fun _ => ?_
  obtain ⟨id, profile⟩ := e
  by_cases hl : s.live row = true
  · simp [hl, map_eq_some_iff, and_comm]
  · simp [hl]

theorem nodup_entries (s : Pools) : s.entries.Nodup := by
  have hi : s.store.operations.rows.Pairwise fun a b => a.requestID ≠ b.requestID :=
    pairwise_map.mp s.store.operations.nodup
  refine List.Pairwise.filterMap _ (fun a b hab x hx y hy hxy => ?_) hi
  have hk : ∀ {row : OperationRow} {z : String × String},
      z ∈ (if s.live row then row.boundProfile.map (row.requestID, ·) else none) →
      row.requestID = z.1 := by
    intro row z hz
    split at hz
    · obtain ⟨p, -, rfl⟩ := map_eq_some_iff.mp hz
      rfl
    · cases hz
  exact hab ((hk hx).trans (hxy ▸ (hk hy).symm))

/-- Fewer operations under a key. -/
theorem count_le_of_subset {cat : Catalog} {l l' : List (String × String)}
    (hn : l'.Nodup) (hs : ∀ e ∈ l', cat.inKey key e.2 = true → e ∈ l) :
    cat.count l' key ≤ cat.count l key := by
  unfold Catalog.count
  rw [countP_eq_length_filter, countP_eq_length_filter]
  refine (subperm_of_subset (hn.filter _) fun e he => ?_).length_le
  obtain ⟨hmem, hk⟩ := mem_filter.mp he
  exact mem_filter.mpr ⟨hs e hmem hk, hk⟩

structure Sound (cat : Catalog) (s : Pools) : Prop where
  within : ∀ key limit, Assoc.get cat.caps key = some limit → cat.count s.entries key ≤ limit
  /-- a selection knows every live operation, but for those bound since and its own -/
  known : ∀ id sel, Assoc.get s.selections id = some sel → ∀ e ∈ s.entries, e.1 ≠ id →
    e ∈ sel.live ∨ e.2 ∈ sel.boundSince

theorem Sound.init (cat : Catalog) (active : List String) : Sound cat { active } where
  within _ _ _ := Nat.zero_le _
  known _ _ h := nomatch h

/-- A step that makes no operation live. -/
theorem Sound.shrink {cat : Catalog} (hs : Sound cat s) (hsub : ∀ e ∈ t.entries, e ∈ s.entries)
    (hsel : t.selections = s.selections) : Sound cat t where
  within key limit hc :=
    (count_le_of_subset t.nodup_entries fun e he _ => hsub e he).trans (hs.within key limit hc)
  known id sel hget e he hne := hs.known id sel (hsel ▸ hget) e (hsub e he) hne

end Pools

/-! ### Writes of the store -/

/-- The node of a row is gone, or the row is an old one whose status changed only if it was
pending. -/
def Follows (s : Store) (row' : OperationRow) : Prop :=
  row'.node = none ∨ ∃ row ∈ s.operations, row'.requestID = row.requestID ∧ row'.job = row.job ∧
    row'.node = row.node ∧ (row'.status = row.status ∨ row.status.pending = true)

/-- A row after a statement is the row that it changed or an old one. -/
theorem mem_change {id : String} {p : OperationRow → Bool} {f : OperationRow → OperationRow}
    {hf : ∀ row, (f row).requestID = row.requestID}
    (hrow : row' ∈ (s.change id p f hf).operations) :
    (∃ row ∈ s.operations, row.requestID = id ∧ p row = true ∧ f row = row') ∨
      row' ∈ s.operations := by
  have hu : row' ∈ s.operations.updateWhere (fun row => row.requestID = id && p row) f hf :=
    hrow
  rcases Table.mem_updateWhere.mp hu with ⟨row, hmem, hp, hrow'⟩ | ⟨hmem, -⟩
  · obtain ⟨hid, hp⟩ := Bool.and_eq_true_iff.mp hp
    exact .inl ⟨row, hmem, of_decide_eq_true hid, hp, hrow'⟩
  · exact .inr hmem

/-- **Every write but a bind**. -/
theorem follows_perform {op : Op} (hb : ∀ id attempt node, op ≠ .bind id attempt node)
    (hrow : row' ∈ (s.perform cfg op).operations) : Follows s row' := by
  rcases (s.perform_change cfg op).comesFrom (Table.find_of_mem hrow) with hno | ⟨row, hold, hgo⟩
  · exact .inl hno
  · have hmem := Table.mem_of_find hold
    exact (hgo.node hb).imp_right fun hsame => ⟨row, hmem.1, hmem.2.symm, hgo.job, hsame⟩

namespace Pools

variable {cat : Catalog} {s t : Pools} {id : String}

/-- A row that follows an old one is live only if that one was. -/
theorem mem_entries_of_follows
    (hfol : Follows s.store row') (hl : s.live row' = true) (hid : row'.requestID = e.1)
    (hp : row'.boundProfile = some e.2) : e ∈ s.entries := by
  rcases hfol with hno | ⟨row, hmem, hid', hjob, hn, hst⟩
  · rw [boundProfile, hno] at hp
    cases hp
  · refine mem_entries.mpr ⟨row, hmem, ?_, hid'.symm.trans hid, ?_⟩
    · rcases hst with hst | hpd
      · simpa [live, hst, hid', hjob] using hl
      · simp [live, hpd]
    · rw [← hp, boundProfile, boundProfile, hn]

theorem Sound.write (hs : Sound cat s) (cfg : Config) {op : Op}
    (hb : ∀ id attempt node, op ≠ .bind id attempt node) :
    Sound cat { s with store := s.store.perform cfg op } := by
  refine hs.shrink (fun e he => ?_) rfl
  obtain ⟨row', hrow, hl, hid, hp⟩ := mem_entries.mp he
  exact mem_entries_of_follows (follows_perform hb hrow) hl hid hp

theorem Sound.heartbeat (hs : Sound cat s) {active : List String}
    (hok : s.careful cat (.heartbeat active) = true) : Sound cat { s with active } := by
  refine hs.shrink (fun e he => ?_) rfl
  obtain ⟨row, hrow, hli, hid, hp⟩ := mem_entries.mp he
  refine mem_entries.mpr ⟨row, hrow, ?_, hid, hp⟩
  have hc := all_eq_true.mp hok row hrow
  unfold live at hli ⊢
  rcases (Bool.or_eq_true _ _).mp hli with h | h
  · rw [h]
    rfl
  · simp only [Bool.and_eq_true, Bool.or_eq_true, decide_eq_true_eq] at h
    by_cases hl : row.requestID ∈ s.leftOut
    · have hlst : row.job ∈ active := h.2.resolve_left fun hn => hn hl
      simp only [h.1, hlst, hl, decide_true, Bool.true_and, Bool.and_true, Bool.not_not,
        decide_eq_true_eq, decide_not] at hc
      simp [h.1, hc]
    · simp [h.1, hl]

/-- What a read counts. -/
theorem mem_liveSpawnProfiles (hrow : row ∈ s.store.operations)
    (hc : row.counts s.active (now - spawnLiveSettle) = true) (hid : row.requestID = e.1)
    (hp : row.placedProfile = some e.2) (hne : e.1 ≠ id) :
    e ∈ s.store.liveSpawnProfiles s.active now id := by
  refine mem_filterMap.mpr ⟨row, hrow, ?_⟩
  rw [if_pos ⟨hc, hid ▸ hne⟩, hp, map_some, hid]

theorem Sound.read (hs : Sound cat s) (hok : s.careful cat (.read id now) = true) :
    Sound cat { s with
      selections := Assoc.put s.selections id
        { live := s.store.liveSpawnProfiles s.active now id }
      leftOut := s.leaveOut now ++ s.leftOut } := by
  have hsub : ∀ e ∈ ({ s with leftOut := s.leaveOut now ++ s.leftOut } : Pools).entries,
      e ∈ s.entries := by
    intro e he
    obtain ⟨row, hrow, hl, hid, hp⟩ := mem_entries.mp he
    refine mem_entries.mpr ⟨row, hrow, ?_, hid, hp⟩
    unfold live at hl ⊢
    simp only [mem_append, not_or, Bool.or_eq_true, Bool.and_eq_true, decide_eq_true_eq] at hl ⊢
    tauto
  refine ⟨fun key limit hcap => ?_, fun other sel hget e he hne => ?_⟩
  · exact (count_le_of_subset (nodup_entries _) fun e he _ => hsub e he).trans
      (hs.within key limit hcap)
  rw [Assoc.get_put] at hget
  split at hget
  · next ho =>
    cases hget
    obtain ⟨row, hrow, hl, hid, hp⟩ := mem_entries.mp he
    obtain ⟨hc, hcounted⟩ := Bool.and_eq_true_iff.mp (all_eq_true.mp hok row hrow)
    have hlast : row.status.pending = true ∨ row.status = .succeeded := by
      unfold live at hl
      simp only [Bool.or_eq_true, Bool.and_eq_true, decide_eq_true_eq] at hl
      exact hl.imp_right And.left
    have hpl : row.placedProfile = some e.2 := by
      rcases hlast with hst | hst <;> simpa [hst, hp] using hcounted
    refine .inl (mem_liveSpawnProfiles hrow ?_ hid hpl (ho ▸ hne))
    by_contra hcou
    have hno : row.node.isSome = true := by
      by_contra hn
      rw [not_isSome_iff_eq_none] at hn
      rw [boundProfile, hn] at hp
      cases hp
    have hsta : row.status = .succeeded := by
      unfold counts at hcou
      unfold live at hl
      cases hst : row.status <;> simp_all [Status.pending]
    have hle : row.requestID ∈ s.leaveOut now :=
      mem_map.mpr ⟨row, mem_filter.mpr ⟨hrow, by simp [hsta, hcou]⟩, rfl⟩
    have hlst : row.job ∈ s.active := by
      simpa [live, hsta, Status.pending, hle] using hl
    exact hcou (by simp [counts, hsta, hlst])
  · exact hs.known other sel hget e (hsub e he) hne

/-! ### Binds -/

/-- **What a bind does to the rows**: nothing, or the row of the request had no node and has this
one now. -/
theorem bindSpawn_rows (store : Store) (id : String) (attempt : ℕ) (node : NodeRequest) :
    (∀ row ∈ (store.bindSpawn id attempt node).2.operations, row ∈ store.operations) ∨
    (isBound (store.bindSpawn id attempt node).2 id node = true ∧
      (∀ row ∈ store.operations, row.requestID = id → row.node = none) ∧
      ∀ row ∈ (store.bindSpawn id attempt node).2.operations,
        row ∈ store.operations ∨ (row.requestID = id ∧ row.node = some node)) := by
  unfold Store.bindSpawn
  dsimp only
  split
  · exact .inl fun _ h => h
  by_cases hex : ∃ old ∈ store.operations, old.requestID = id ∧
      (old.attempt = attempt && old.node.isNone && old.status = .accepted) = true
  · obtain ⟨old, hold, hid, hu⟩ := hex
    refine .inr ⟨?_, fun row hrow hrid => ?_, fun row hrow => ?_⟩
    · have hfi : store.operations.find id = some old := hid ▸ Table.find_of_mem hold
      unfold isBound Store.change
      rw [Table.find_updateWhere, hfi]
      simp only [hid, hu, decide_true, Bool.and_self, if_true, map_some, any_some]
    · rw [Table.eq_of_key hrow hold (hrid.trans hid.symm)]
      simp only [Bool.and_eq_true, isNone_iff_eq_none] at hu
      exact hu.1.2
    · rcases mem_change hrow with ⟨b, -, hbid, -, rfl⟩ | hmem
      · exact .inr ⟨hbid, rfl⟩
      · exact .inl hmem
  · refine .inl fun row hrow => ?_
    rcases mem_change hrow with ⟨b, hb, hbid, hbp, -⟩ | hmem
    · exact absurd ⟨b, hb, hbid, hbp⟩ hex
    · exact hmem

theorem boundProfile_of_node (hn : row.node = some node) (hp : row.boundProfile = some profile) :
    profile = hubSpawnArg "-m" node.args := by
  rw [boundProfile, hn] at hp
  exact (Option.some.inj (filter_eq_some_iff.mp hp).1).symm

/-- A selection that passed the gate and missed no bind has room for one more. -/
theorem Sound.room (hs : Sound cat s) {limit attempt : ℕ}
    (hok : s.careful cat (.bind id attempt node) = true)
    (ha : cat.admits ((Assoc.get s.selections id).map (·.live)) (hubSpawnArg "-m" node.args) = true)
    (hfree : ∀ e ∈ s.entries, e.1 ≠ id) (hcap : Assoc.get cat.caps key = some limit)
    (hk : cat.inKey key (hubSpawnArg "-m" node.args) = true) : cat.count s.entries key < limit := by
  have hmem := cat.mem_capKeys hk
  have hgate := all_eq_true.mp ha key hmem
  simp only [hcap] at hgate
  obtain ⟨live, hl, hlt⟩ := (Option.any_eq_true ..).mp hgate
  obtain ⟨sel, hsel, rfl⟩ := map_eq_some_iff.mp hl
  refine lt_of_le_of_lt (count_le_of_subset s.nodup_entries fun e he hin => ?_)
    (of_decide_eq_true hlt)
  rcases hs.known id sel hsel e he (hfree e he) with hkn | hsin
  · exact hkn
  · have hc : (sel.boundSince.all fun other => (cat.capKeys (hubSpawnArg "-m" node.args)).all
        fun key => !((Assoc.get cat.caps key).isSome && cat.inKey key other)) = true := by
      simpa [careful, hsel] using hok
    have hno := all_eq_true.mp (all_eq_true.mp hc e.2 hsin) key hmem
    simp [hcap, hin] at hno

theorem get_noteBind {selections : List (String × Selection)} {other : String} {sel' : Selection}
    (h : Assoc.get (noteBind selections id profile) other = some sel') :
    ∃ sel, Assoc.get selections other = some sel ∧ sel'.live = sel.live ∧
      (∀ p ∈ sel.boundSince, p ∈ sel'.boundSince) ∧ (other ≠ id → profile ∈ sel'.boundSince) := by
  rw [noteBind, Assoc.get_mapValues] at h
  obtain ⟨sel, hs, rfl⟩ := map_eq_some_iff.mp h
  refine ⟨sel, hs, ?_⟩
  split
  · next hid => exact ⟨rfl, fun _ hp => hp, fun hne => absurd hid hne⟩
  · exact ⟨rfl, fun _ hp => mem_cons_of_mem _ hp, fun _ => mem_cons_self⟩

theorem Sound.bind (hs : Sound cat s) {attempt : ℕ}
    (hok : s.careful cat (.bind id attempt node) = true)
    (ha : cat.admits ((Assoc.get s.selections id).map (·.live))
      (hubSpawnArg "-m" node.args) = true) :
    Sound cat { s with
      store := (s.store.bindSpawn id attempt node).2
      selections := if isBound (s.store.bindSpawn id attempt node).2 id node then
        noteBind s.selections id (hubSpawnArg "-m" node.args) else s.selections } := by
  -- More binds noted than there were do no harm.
  have hkn : ∀ {other sel'}, Assoc.get (if isBound (s.store.bindSpawn id attempt node).2 id node
      then noteBind s.selections id (hubSpawnArg "-m" node.args) else s.selections) other =
        some sel' → ∀ e ∈ s.entries, e.1 ≠ other → e ∈ sel'.live ∨ e.2 ∈ sel'.boundSince := by
    intro other sel' hget e he hne
    split at hget
    · obtain ⟨sel, hold, hl, hmo, -⟩ := get_noteBind hget
      rw [hl]
      exact (hs.known other sel hold e he hne).imp_right (hmo e.2)
    · exact hs.known other sel' hget e he hne
  rcases bindSpawn_rows s.store id attempt node with hsame | ⟨hbd, hn, hro⟩
  · have hsub : ∀ e ∈ ({ s with store := (s.store.bindSpawn id attempt node).2 } : Pools).entries,
        e ∈ s.entries := by
      intro e he
      obtain ⟨row, hrow, hre⟩ := mem_entries.mp he
      exact mem_entries.mpr ⟨row, hsame row hrow, hre⟩
    exact ⟨(hs.shrink hsub rfl).within, fun other sel' hget e he hne =>
      hkn hget e (hsub e he) hne⟩
  have hfree : ∀ e ∈ s.entries, e.1 ≠ id := by
    intro e he hid
    obtain ⟨row, hrow, -, hrid, hpr⟩ := mem_entries.mp he
    rw [boundProfile, hn row hrow (hrid.trans hid)] at hpr
    cases hpr
  have hsub : ∀ e ∈ ({ s with store := (s.store.bindSpawn id attempt node).2 } : Pools).entries,
      e ∈ (id, hubSpawnArg "-m" node.args) :: s.entries := by
    intro e he
    obtain ⟨row, hrow, hl, hrid, hpr⟩ := mem_entries.mp he
    rcases hro row hrow with hold | ⟨hid, hnew⟩
    · exact mem_cons_of_mem _ (mem_entries.mpr ⟨row, hold, hl, hrid, hpr⟩)
    · refine mem_cons.mpr (.inl (Prod.ext (hrid.symm.trans hid) ?_))
      exact boundProfile_of_node hnew hpr
  refine ⟨fun key limit hc => ?_, fun other sel' hget e he hne => ?_⟩
  · refine (count_le_of_subset (nodup_entries _) fun e he _ => hsub e he).trans ?_
    unfold Catalog.count
    rw [countP_cons]
    split
    · next hk => exact hs.room hok ha hfree hc hk
    · exact hs.within key limit hc
  · rcases mem_cons.mp (hsub e he) with rfl | hold
    · rw [if_pos hbd] at hget
      obtain ⟨-, -, -, -, hnew⟩ := get_noteBind hget
      exact .inr (hnew (Ne.symm hne))
    · exact hkn hget e hold hne

theorem Sound.finish (hs : Sound cat s) (id : String) :
    Sound cat { s with selections := Assoc.del s.selections id } where
  within := hs.within
  known other sel hget := by
    rw [Assoc.get_del] at hget
    split at hget
    · cases hget
    · exact hs.known other sel hget

/-! ## Every run -/

theorem Sound.step (hs : Sound cat s) {a : PoolStep} (hok : s.careful cat a = true)
    (h : s.step cfg cat a = some t) : Sound cat t := by
  cases a with
  | write op =>
    have hp : (∀ id attempt node, op ≠ .bind id attempt node) ∧
        t = { s with store := s.store.perform cfg op } := by
      cases op with
      | bind id attempt node => cases h
      | _ => exact ⟨fun _ _ _ hne => (nomatch hne), (Option.some.inj h).symm⟩
    rw [hp.2]
    exact hs.write cfg hp.1
  | heartbeat active =>
    cases h
    exact hs.heartbeat hok
  | read id now =>
    cases h
    exact hs.read hok
  | bind id attempt node =>
    obtain ⟨ha, hb⟩ := ite_none_right_eq_some.mp h
    cases hb
    exact hs.bind hok ha
  | finish id =>
    cases h
    exact hs.finish id

end Pools

/-! ## Two workers and one slot -/

end Panewire.Spawn

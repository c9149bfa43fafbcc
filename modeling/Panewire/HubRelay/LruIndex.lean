import Panewire.Data.Lru
import Mathlib.Logic.Function.Basic

/-!
# The recency index

The hub bounds its tables with an index of its own: a **map** from the keys to the elements of a
linked list, and the **list**, whose front is the key used last. The map gets its elements from
`PushFront` of the key, so an element is known by the key that it holds.

* `LruIndex.touch` and `LruIndex.forget` — the two operations;
* `LruIndex.Linked` — map and list hold the same keys, in the order of their last uses;
* `lru_index_sound` — so it is after every sequence of calls: the size is within the largest limit,
  and what is evicted is the key used longest ago;
* `limit_shrinks` — one call evicts one key, so a limit that shrinks is not met.
-/

namespace Panewire.HubRelay

open Data List Function

variable {κ : Type} [DecidableEq κ]

structure LruIndex (κ : Type) where
  /-- whether the key has an element -/
  entries : κ → Bool := fun _ => false
  /-- the elements from the front -/
  order : List κ := []

namespace LruIndex

variable {l : LruIndex κ} {k : κ} {uses : List κ}

/-- Whether the key was there, what was evicted, and the index afterwards. -/
def touch (l : LruIndex κ) (key : κ) (maxEntries : ℕ) : Bool × Option κ × LruIndex κ :=
  if l.entries key then (true, none, { l with order := key :: l.order.erase key })
  else
    let entries := update l.entries key true
    let order := key :: l.order
    if order.length ≤ maxEntries then (false, none, ⟨entries, order⟩)
    else
      let oldest := order.getLast (cons_ne_nil _ _)
      (false, some oldest, ⟨update entries oldest false, order.dropLast⟩)

def forget (l : LruIndex κ) (key : κ) : LruIndex κ :=
  if l.entries key then ⟨update l.entries key false, l.order.erase key⟩ else l

/-! ## The map and the list -/

/-- **Map and list hold the same keys**, the list in the order of their last uses; `uses` has the
latest first. -/
structure Linked (uses : List κ) (l : LruIndex κ) : Prop where
  same : ∀ k, l.entries k = true ↔ k ∈ l.order
  recent : l.order.Pairwise fun x y => uses.idxOf x < uses.idxOf y

/-- A later use leaves the order of the other keys as it was. -/
theorem recent_cons {ks : List κ} (hr : ks.Pairwise fun x y => uses.idxOf x < uses.idxOf y)
    (hk : k ∉ ks) : (k :: ks).Pairwise fun x y => (k :: uses).idxOf x < (k :: uses).idxOf y := by
  have hcons : ∀ y ∈ ks, (k :: uses).idxOf y = (uses.idxOf y).succ := fun y hy =>
    idxOf_cons_ne _ fun heq => hk (heq ▸ hy)
  refine pairwise_cons.mpr ⟨fun y hy => ?_, hr.imp_of_mem fun {x y} hx hy hlt => ?_⟩
  · rw [hcons y hy, idxOf_cons_self]
    exact Nat.succ_pos _
  · rw [hcons x hx, hcons y hy]
    exact Nat.succ_lt_succ hlt

namespace Linked

variable (h : l.Linked uses)

include h

theorem nodup : l.order.Nodup := by
  refine h.recent.imp ?_
  rintro x _ hlt rfl
  exact lt_irrefl _ hlt

theorem forget (k : κ) : (l.forget k).Linked uses ∧ (l.forget k).order.length ≤ l.order.length := by
  unfold LruIndex.forget
  split
  · refine ⟨⟨fun x => ?_, h.recent.sublist erase_sublist⟩, erase_sublist.length_le⟩
    simp [update_apply, h.nodup.mem_erase_iff, h.same]
  · exact ⟨h, le_rfl⟩

/-- **One use**: the key is there, everything else unless it was evicted, and the key that was
evicted is the one used longest ago. -/
theorem touch (k : κ) (n : ℕ) : ∃ already evicted l', l.touch k n = (already, evicted, l') ∧
    l'.order = (Lru.touch l.order k n).order ∧ l'.Linked (k :: uses) ∧
    l'.order.length ≤ max n l.order.length ∧
    (∀ x, x ∈ l'.order ↔ (x = k ∨ x ∈ l.order) ∧ evicted ≠ some x) ∧
    ∀ e, evicted = some e → ∀ x ∈ l'.order, (k :: uses).idxOf x < (k :: uses).idxOf e := by
  unfold LruIndex.touch Lru.touch
  by_cases hk : k ∈ l.order
  · rw [if_pos ((h.same k).mpr hk), if_pos hk]
    have hmem : ∀ x, x ∈ k :: l.order.erase k ↔ x ∈ l.order := fun x =>
      (perm_cons_erase hk).mem_iff.symm
    refine ⟨_, _, _, rfl, rfl, ⟨fun x => ?_, ?_⟩, ?_, fun x => ?_, nofun⟩
    · rw [h.same, hmem]
    · exact recent_cons (h.recent.sublist erase_sublist) h.nodup.not_mem_erase
    · rw [(perm_cons_erase hk).length_eq.symm]
      exact le_max_right _ _
    · rw [hmem]
      refine ⟨fun hx => ⟨.inr hx, nofun⟩, ?_⟩
      rintro ⟨rfl | hx, -⟩
      · exact hk
      · exact hx
  rw [if_neg fun hent => hk ((h.same k).mp hent), if_neg hk]
  have hr := recent_cons h.recent hk
  by_cases hle : l.order.length + 1 ≤ n
  · simp only [length_cons, if_pos hle]
    refine ⟨_, _, _, rfl, rfl, ⟨fun x => ?_, hr⟩, ?_, fun x => by simp, nofun⟩
    · simp [update_apply, h.same]
    · exact le_max_of_le_left hle
  · simp only [length_cons, if_neg hle]
    have hmem := fun x =>
      Lru.mem_dropLast_iff (x := x) (nodup_cons.mpr ⟨hk, h.nodup⟩) (cons_ne_nil _ _)
    refine ⟨_, _, _, rfl, rfl, ⟨fun x => ?_, hr.sublist (dropLast_sublist _)⟩, ?_, fun x => ?_, ?_⟩
    · simp [update_apply, h.same, hmem, and_comm (a := x = k ∨ _)]
    · simp
    · simp [hmem, eq_comm]
    · intro e he x hx
      cases he
      exact hr.rel_dropLast_getLast hx

end Linked

/-! ## Sequences of calls -/

inductive Call (κ : Type) where
  | touch (key : κ) (maxEntries : ℕ)
  | forget (key : κ)

/-- The index after some calls, of which the latest comes first. -/
def after : List (Call κ) → LruIndex κ
  | [] => {}
  | .touch k n :: calls => ((after calls).touch k n).2.2
  | .forget k :: calls => (after calls).forget k

/-- The keys that were used, the latest first. -/
def used : List (Call κ) → List κ
  | [] => []
  | .touch k _ :: calls => k :: used calls
  | .forget _ :: calls => used calls

theorem linked_after (calls : List (Call κ)) : (after calls).Linked (used calls) ∧
    ∀ m, (∀ k n, .touch k n ∈ calls → n ≤ m) → (after calls).order.length ≤ m := by
  induction calls with
  | nil => exact ⟨⟨fun _ => by simp [after], .nil⟩, fun m _ => Nat.zero_le m⟩
  | cons c calls ih =>
    have hsize := fun m (hm : ∀ k n, .touch k n ∈ c :: calls → n ≤ m) =>
      ih.2 m fun k n hc => hm k n (mem_cons_of_mem _ hc)
    cases c with
    | touch k n =>
      obtain ⟨_, _, l', ht, -, hl, hle, -⟩ := ih.1.touch k n
      rw [after, ht]
      exact ⟨hl, fun m hm => hle.trans (max_le (hm k n mem_cons_self) (hsize m hm))⟩
    | forget k =>
      obtain ⟨hl, hle⟩ := ih.1.forget k
      exact ⟨hl, fun m hm => hle.trans (hsize m hm)⟩

/-- **The index after any calls**: map and list hold the same keys, each once, and not more than the
largest limit; the next use removes what it evicts and nothing else, and this is the key after whose
last use every other one was used. -/
theorem lru_index_sound (calls : List (Call κ)) :
    (∀ k, (after calls).entries k = true ↔ k ∈ (after calls).order) ∧
      (after calls).order.Nodup ∧
      (∀ m, (∀ k n, .touch k n ∈ calls → n ≤ m) → (after calls).order.length ≤ m) ∧
      ∀ k n already evicted l', (after calls).touch k n = (already, evicted, l') →
        (∀ x, x ∈ l'.order ↔ (x = k ∨ x ∈ (after calls).order) ∧ evicted ≠ some x) ∧
        ∀ e, evicted = some e → ∀ x ∈ l'.order,
          (k :: used calls).idxOf x < (k :: used calls).idxOf e := by
  obtain ⟨h, hsize⟩ := linked_after calls
  refine ⟨h.same, h.nodup, hsize, fun k n already evicted l' ht => ?_⟩
  obtain ⟨_, _, _, ht', -, -, -, hspec⟩ := h.touch k n
  cases ht.symm.trans ht'
  exact hspec

/-- **A limit that shrinks is not met**: one call evicts one key. -/
theorem limit_shrinks : 1 < (after [.touch 'c' 1, .touch 'b' 2, .touch 'a' 2]).order.length := by
  decide

end LruIndex

end Panewire.HubRelay

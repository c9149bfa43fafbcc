import Mathlib.Data.Int.Order.Basic
import Mathlib.Order.Basic
import Panewire.Text.Strings

/-!
# The account of a host

Hosts report which accounts they are logged in to. `hostAccount` resolves the account of a host for
a pool from these **presence** records in one pass: it keeps the newest time so far, the account
seen at that time, and whether two accounts were.

* `Latest.Sound` — what the pass knows of the records it has seen.
* `hostAccount_order_free` — the result does not depend on the order of the records: it is the one
  account that the newest records name.
-/

namespace Panewire.Select

open Go

/-- A `PresenceRecord`; times are in nanoseconds after Go's zero time. -/
structure PresenceRecord where
  accountKey : String
  hostID : String
  lastSeen : ℤ
  deriving DecidableEq

/-- `accountFP` -/
def accountFP (s : String) : Bool :=
  s.length = 16 && s.toList.all fun c => c.isDigit || ('a' ≤ c && c ≤ 'f')

/-- `Time.Sub`: the difference, as far as a duration holds it. -/
def timeSub (t u : ℤ) : ℤ := max (-2 ^ 63) (min (t - u) (2 ^ 63 - 1))

/-- `time.Minute` -/
def minute : ℤ := 60 * 10 ^ 9

/-- A fresh record of this host, for an account of this pool. -/
def PresenceRecord.counts (pool host : String) (now ttl : ℤ) (rec : PresenceRecord) : Bool :=
  pool ≠ "" && rec.hostID = host && (cutPrefix rec.accountKey (pool ++ ":")).any accountFP &&
    -minute ≤ timeSub now rec.lastSeen && timeSub now rec.lastSeen ≤ ttl

/-- The variables of the loop. -/
structure Latest where
  newest : ℤ := 0
  key : String := ""
  ambiguous : Bool := false

def Latest.see (n : Latest) (rec : PresenceRecord) : Latest :=
  if rec.lastSeen > n.newest then ⟨rec.lastSeen, rec.accountKey, false⟩
  else if rec.lastSeen = n.newest ∧ rec.accountKey ≠ n.key then { n with ambiguous := true }
  else n

def hostAccount (presence : List PresenceRecord) (pool host : String) (now ttl : ℤ) : String :=
  let n : Latest :=
    presence.foldl (fun n rec => if rec.counts pool host now ttl then n.see rec else n) {}
  if n.ambiguous then "" else n.key

/-- **The newest records name one account**, and were seen after the zero time. -/
def NamedBy (fresh : List PresenceRecord) (key : String) : Prop :=
  ∃ rec ∈ fresh, 0 < rec.lastSeen ∧ rec.accountKey = key ∧ ∀ other ∈ fresh,
    other.lastSeen ≤ rec.lastSeen ∧ (other.lastSeen = rec.lastSeen → other.accountKey = key)

/-- What the loop knows of the records that it has seen. -/
structure Latest.Sound (n : Latest) (seen : List PresenceRecord) : Prop where
  bound : 0 ≤ n.newest ∧ ∀ rec ∈ seen, rec.lastSeen ≤ n.newest
  clear : n.ambiguous = false ↔ ∀ rec ∈ seen, rec.lastSeen = n.newest → rec.accountKey = n.key
  named : (n.newest = 0 ∧ n.key = "") ∨
    (0 < n.newest ∧ ∃ rec ∈ seen, rec.lastSeen = n.newest ∧ rec.accountKey = n.key)

namespace Latest.Sound

variable {n : Latest} {seen : List PresenceRecord}

/-- One more record. -/
theorem see (h : n.Sound seen) (rec : PresenceRecord) : (n.see rec).Sound (seen ++ [rec]) := by
  have hmem : ∀ {p : PresenceRecord → Prop},
      (∀ r ∈ seen ++ [rec], p r) ↔ (∀ r ∈ seen, p r) ∧ p rec := by
    simp [or_imp, forall_and]
  obtain ⟨h0, hold⟩ := h.bound
  unfold Latest.see
  split
  · next hlt =>
    have hp : 0 < rec.lastSeen := h0.trans_lt hlt
    refine ⟨⟨hp.le, hmem.mpr ⟨fun r hr => (hold r hr).trans hlt.le, le_refl _⟩⟩,
      iff_of_true rfl (hmem.mpr ⟨fun r hr heq => ?_, fun _ => rfl⟩),
      .inr ⟨hp, rec, by simp, rfl, rfl⟩⟩
    -- an older record was not seen then
    exact absurd heq ((hold r hr).trans_lt hlt).ne
  next hle =>
  have hbd : ∀ r ∈ seen ++ [rec], r.lastSeen ≤ n.newest := hmem.mpr ⟨hold, not_lt.mp hle⟩
  have hnm : (n.newest = 0 ∧ n.key = "") ∨ (0 < n.newest ∧
      ∃ r ∈ seen ++ [rec], r.lastSeen = n.newest ∧ r.accountKey = n.key) :=
    h.named.imp_right fun ⟨hp, r, hr, hr'⟩ => ⟨hp, r, List.mem_append_left _ hr, hr'⟩
  split
  · next ho =>
    refine ⟨⟨h0, hbd⟩, iff_of_false nofun fun ha => ?_, hnm⟩
    exact ho.2 ((hmem.mp ha).2 ho.1)
  · next hsame =>
    refine ⟨⟨h0, hbd⟩, h.clear.trans (hmem.trans (and_iff_left fun heq => ?_)).symm, hnm⟩
    exact not_not.mp fun hne => hsame ⟨heq, hne⟩

theorem foldl (h : n.Sound seen) (recs : List PresenceRecord) :
    (recs.foldl Latest.see n).Sound (seen ++ recs) := by
  induction recs generalizing n seen with
  | nil => rwa [List.append_nil]
  | cons rec recs ih => simpa using ih (h.see rec)

/-- The account that the loop ends with is the one that the newest records name. -/
theorem result (h : n.Sound seen) {key : String} (hk : key ≠ "") :
    (if n.ambiguous then "" else n.key) = key ↔ NamedBy seen key := by
  constructor
  · intro hres
    split at hres
    · exact absurd hres.symm hk
    next hc =>
    subst hres
    have ha := h.clear.mp (Bool.eq_false_iff.mpr hc)
    obtain ⟨-, hno⟩ | ⟨hp, rec, hrec, hs, hn⟩ := h.named
    · exact absurd hno hk
    · rw [← hs] at hp ha
      exact ⟨rec, hrec, hp, hn, fun other ho =>
        ⟨hs ▸ h.bound.2 other ho, ha other ho⟩⟩
  · rintro ⟨rec, hrec, hp, hn, ha⟩
    have hle := h.bound.2 rec hrec
    obtain ⟨hz, -⟩ | ⟨-, last, hl, hs, hlna⟩ := h.named
    · omega
    have heq : n.newest = rec.lastSeen := le_antisymm (hs ▸ (ha last hl).1) hle
    have hk' : n.key = key := hlna ▸ (ha last hl).2 (hs.trans heq)
    have hc : n.ambiguous = false := h.clear.mpr fun r hr hr' =>
      ((ha r hr).2 (hr'.trans heq)).trans hk'.symm
    rw [hc]
    exact hk'

end Latest.Sound

/-- The records that count. -/
def recent (presence : List PresenceRecord) (pool host : String) (now ttl : ℤ) :
    List PresenceRecord :=
  presence.filter (·.counts pool host now ttl)

section Host

variable {pool host : String} {now ttl : ℤ}

theorem hostAccount_eq_iff (presence : List PresenceRecord) {key : String} (hk : key ≠ "") :
    hostAccount presence pool host now ttl = key ↔
      NamedBy (recent presence pool host now ttl) key := by
  have hs : ({} : Latest).Sound [] :=
    ⟨⟨le_refl _, nofun⟩, iff_of_true rfl nofun, .inl ⟨rfl, rfl⟩⟩
  have hl := (hs.foldl (recent presence pool host now ttl)).result hk
  rwa [recent, List.foldl_filter, List.nil_append] at hl

/-- A record that counts has a key. -/
theorem NamedBy.key_ne {presence : List PresenceRecord} {key : String}
    (h : NamedBy (recent presence pool host now ttl) key) : key ≠ "" := by
  obtain ⟨rec, hrec, -, rfl, -⟩ := h
  intro hn
  have hc := (List.mem_filter.mp hrec).2
  simp [PresenceRecord.counts, hn, cutPrefix, hasPrefix] at hc

theorem NamedBy.perm {presence presence' : List PresenceRecord} {key : String}
    (hp : presence'.Perm presence) (h : NamedBy (recent presence' pool host now ttl) key) :
    NamedBy (recent presence pool host now ttl) key := by
  simpa only [NamedBy, recent, (hp.filter _).mem_iff] using h

end Host

/-- **The account of a host** does not depend on the order of the records, and there is one exactly
when the newest fresh records of the host and pool, seen after the zero time, name one account. -/
theorem hostAccount_order_free (presence : List PresenceRecord) (pool host : String)
    (now ttl : ℤ) :
    (∀ presence', presence'.Perm presence →
      hostAccount presence' pool host now ttl = hostAccount presence pool host now ttl) ∧
    (hostAccount presence pool host now ttl ≠ "" ↔
      ∃ key, NamedBy (recent presence pool host now ttl) key) := by
  refine ⟨fun presence' hp => ?_, fun hne => ?_, fun ⟨key, hnm⟩ => ?_⟩
  · by_cases hne : hostAccount presence' pool host now ttl = ""
    · by_contra hdi
      rw [hne] at hdi
      have hnm := (hostAccount_eq_iff presence (Ne.symm hdi)).mp rfl
      exact hdi (hne ▸ (hostAccount_eq_iff presence' hnm.key_ne).mpr (hnm.perm hp.symm))
    · have hnm := (hostAccount_eq_iff presence' hne).mp rfl
      exact ((hostAccount_eq_iff presence hne).mpr (hnm.perm hp)).symm
  · exact ⟨_, (hostAccount_eq_iff presence hne).mp rfl⟩
  · rw [(hostAccount_eq_iff presence hnm.key_ne).mpr hnm]
    exact hnm.key_ne

/-- A record of the zero time is fresh at that time, and gives no account. -/
theorem hostAccount_zero_time :
    recent [⟨"p:0123456789abcdef", "h", 0⟩] "p" "h" 0 0 = [⟨"p:0123456789abcdef", "h", 0⟩] ∧
    hostAccount [⟨"p:0123456789abcdef", "h", 0⟩] "p" "h" 0 0 = "" := by
  decide +kernel

end Panewire.Select

import Panewire.Arbiter.System
import Panewire.Data.Newest

/-!
# The numbers of events

An event without a number gets the one after the highest in use: by a row of the database, or by a
file of the job's directory, where rolled-back transactions leave theirs and other writers put
their own. The number is read back from the name of the file that the event itself gets, so neither
the row nor the file can be there already.
-/

namespace Panewire.Arbiter

open Go Data

variable {job : String} {db : Db}

/-- The number of a file: what is in front of the first dash of its name. -/
def File.number (f : File) : Option ℤ := parseInt (cut f.name '-')

/-- The numbers of a job that are in use. -/
def Open.InUse (o : Open) (job : String) (n : ℤ) : Prop :=
  (∃ e ∈ o.db.events, e.job = job ∧ e.seq = n) ∨
    ∃ f ∈ o.files, f.job = job ∧ f.number = some n

theorem le_maxSeq {e : EventRow} (he : e ∈ db.events) (hjob : e.job = job) :
    e.seq ≤ db.maxSeq job := by
  have hmem : e.seq ∈ (db.events.rows.filter fun e => e.job = job).map (·.seq) :=
    List.mem_map_of_mem (List.mem_filter.mpr ⟨he, by simpa using hjob⟩)
  unfold Db.maxSeq
  cases hmax : ((db.events.rows.filter fun e => e.job = job).map (·.seq)).max? with
  | none => rw [List.max?_eq_none_iff.mp hmax] at hmem; cases hmem
  | some m => exact (List.max?_eq_some_iff.mp hmax).2 _ hmem

theorem maxSeq_cases (db : Db) (job : String) :
    db.maxSeq job = 0 ∨ ∃ e ∈ db.events, e.job = job ∧ e.seq = db.maxSeq job := by
  unfold Db.maxSeq
  cases hmax : ((db.events.rows.filter fun e => e.job = job).map (·.seq)).max? with
  | none => exact .inl rfl
  | some m =>
    obtain ⟨e, he, hm⟩ := List.mem_map.mp (List.max?_eq_some_iff.mp hmax).1
    obtain ⟨he, hjob⟩ := List.mem_filter.mp he
    exact .inr ⟨e, he, by simpa using hjob, hm⟩

theorem highestPrefix_eq (files : List File) (job : String) :
    highestPrefix files job =
      highest (fun f : File => if f.job = job then f.number else none) 0 files := by
  unfold highestPrefix highest
  congr 1
  funext _ f
  by_cases hjob : f.job = job
  · simp only [hjob, if_true, File.number]
    cases parseInt (cut f.name '-') <;> rfl
  · simp only [hjob, if_false]

/-- What the highest prefix is: at least that of every file, and of one of them unless it is 0. -/
theorem highestPrefix_spec (files : List File) (job : String) :
    0 ≤ highestPrefix files job ∧
    (∀ f ∈ files, f.job = job → ∀ n, f.number = some n → n ≤ highestPrefix files job) ∧
    (highestPrefix files job = 0 ∨
      ∃ f ∈ files, f.job = job ∧ f.number = some (highestPrefix files job)) := by
  rw [highestPrefix_eq]
  obtain ⟨hs, ha, hone⟩ :=
    highest_spec (fun f : File => if f.job = job then f.number else none) 0 files
  refine ⟨hs, fun f hf hjob n hn => ha f hf n (by rw [if_pos hjob, hn]), ?_⟩
  refine hone.imp_right fun ⟨f, hf, hn⟩ => ?_
  split at hn
  · next hjob => exact ⟨f, hf, hjob, hn⟩
  · cases hn

/-- **A number is read back from the name of its artifact**, whatever the event's kind is. -/
theorem parseInt_artifactName {n : ℤ} (h0 : 0 ≤ n) (hn : n < 2 ^ 63) (kind : String) :
    parseInt (cut (artifactName n kind) '-') = some n := by
  obtain ⟨m, rfl⟩ := Int.eq_ofNat_of_zero_le h0
  obtain ⟨k, hk⟩ : ∃ k, (pad5 m).toList = List.replicate k '0' ++ (toString m).toList := by
    unfold pad5
    dsimp only
    split
    · exact ⟨_, by rw [String.toList_append, String.toList_ofList]; rfl⟩
    · exact ⟨0, rfl⟩
  have hna : (artifactName m kind).toList =
      (pad5 m).toList ++ '-' :: (safeKind kind ++ ".json").toList := by
    simp [artifactName]
  rw [cut, hna, hk, cutChars_append _ fun h => absurd (isDigit_of_mem_padded h) (by decide)]
  exact parseInt_padded k (by exact_mod_cast hn)

/-- The next number is the one after the highest in use, as long as that is not the largest one. -/
theorem nextSeq_eq {o : Open} (hl : ∀ n, o.InUse job n → n < 2 ^ 63 - 1) :
    nextSeq o.db o.files job = max (o.db.maxSeq job) (highestPrefix o.files job) + 1 ∧
      max (o.db.maxSeq job) (highestPrefix o.files job) < 2 ^ 63 - 1 := by
  have hrow : o.db.maxSeq job < 2 ^ 63 - 1 := by
    rcases maxSeq_cases o.db job with h | h
    · rw [h]
      decide
    · exact hl _ (.inl h)
  obtain ⟨h0, -, hfi⟩ := highestPrefix_spec o.files job
  have hfi : highestPrefix o.files job < 2 ^ 63 - 1 := by
    rcases hfi with h | h
    · rw [h]
      decide
    · exact hl _ (.inr h)
  have hlt := max_lt hrow hfi
  refine ⟨Int.bmod_eq_of_le_mul_two ?_ ?_, hlt⟩
  · omega
  · omega

/-- **The number that an event gets is above every number in use.** -/
theorem lt_nextSeq {o : Open} (hl : ∀ n, o.InUse job n → n < 2 ^ 63 - 1) {n : ℤ}
    (hn : o.InUse job n) : n < nextSeq o.db o.files job := by
  rw [(nextSeq_eq hl).1, Int.lt_add_one_iff]
  rcases hn with ⟨e, he, hjob, rfl⟩ | ⟨f, hf, hjob, hnum⟩
  · exact (le_maxSeq he hjob).trans (le_max_left _ _)
  · exact ((highestPrefix_spec o.files job).2.1 f hf hjob n hnum).trans (le_max_right _ _)

/-- **An event without a number is never a duplicate**: as long as no number in use is the largest
integer, it gets a number above all of them, and recording it fails only with the storage; else its
row is in the table and its artifact in the directory. -/
theorem recordEvent_unnumbered (c : Call) (o : Open) (job kind : String)
    (payload : Calendar → Object) (hlimit : ∀ n, o.InUse job n → n < 2 ^ 63 - 1) :
    (∀ n, o.InUse job n → n < (eventRow c o job kind payload none).seq) ∧
      match (recordEvent job kind payload none).run c o with
      | (.ok n, o') =>
        let row := eventRow c o job kind payload none
        n = row.seq ∧ o'.db.events.find (job, n) = some row ∧
          o'.files = o.files ++ [⟨job, artifactName n kind, .event row⟩]
      | (.error e, _) => e = .storageFailed := by
  have hlt : ∀ n, o.InUse job n → n < (eventRow c o job kind payload none).seq :=
    fun n => lt_nextSeq hlimit
  refine ⟨hlt, ?_⟩
  have hfree : o.Free (eventRow c o job kind payload none) := by
    rw [Open.free_iff]
    refine ⟨Table.find_eq_none.mpr fun e he hk => ?_, fun f hf hjob hn => ?_⟩
    · obtain ⟨hjob, hs⟩ := Prod.mk.inj hk
      exact (hlt _ (.inl ⟨e, he, hjob, hs⟩)).ne rfl
    · obtain ⟨heq, hmax⟩ := nextSeq_eq hlimit
      have h0 := (highestPrefix_spec o.files job).1.trans (le_max_right (o.db.maxSeq job) _)
      have hnum := parseInt_artifactName (n := nextSeq o.db o.files job) (by omega) (by omega) kind
      exact (hlt _ (.inr ⟨f, hf, hjob, by rw [File.number, hn]; exact hnum⟩)).ne rfl
  rcases recordEvent_cases c o job kind payload none with
    ⟨-, hrun⟩ | ⟨-, htk, -⟩ | ⟨-, -, hrun⟩ | ⟨-, -, -, hrun⟩
  · rw [hrun]
  · exact absurd hfree htk
  · rw [hrun]
  · rw [hrun]
    exact ⟨rfl, (Table.find_insertNew hfree.1 _).trans (if_pos rfl), rfl⟩

/-- A directory with a file of another writer. -/
def foreignFile : Open := ⟨Ledger.empty.db, [⟨"j", "00041-other.json", .torn⟩], 0, 0⟩

/-- The payload of a note. -/
def notePayload : Calendar → Object := fun _ => .ofOptional [] (by simp)

/-- The note is the one after the foreign file. -/
theorem recordEvent_unnumbered_foreign :
    ∃ c row o', (recordEvent "j" "note" notePayload none).run c foreignFile = (.ok 42, o') ∧
      o'.db.events.find ("j", 42) = some row ∧
      o'.files = foreignFile.files ++ [⟨"j", artifactName 42 "note", .event row⟩] := by
  have hl : ∀ n, foreignFile.InUse "j" n → n < 2 ^ 63 - 1 := by
    rintro n (⟨e, he, -⟩ | ⟨f, hf, -, hn⟩)
    · cases he
    · obtain rfl := List.mem_singleton.mp hf
      obtain rfl := Option.some.inj (hn.symm.trans (by decide +kernel : _ = some (41 : ℤ)))
      decide
  have hok : ((recordEvent "j" "note" notePayload none).run (Answer.ofSecond 1 []).call
      foreignFile).1.toOption = some 42 := by
    decide +kernel
  have h := (recordEvent_unnumbered (Answer.ofSecond 1 []).call foreignFile "j" "note" notePayload
    hl).2
  rcases hrun : (recordEvent "j" "note" notePayload none).run (Answer.ofSecond 1 []).call
    foreignFile with ⟨_ | n, o'⟩
  · rw [hrun] at hok
    cases hok
  · rw [hrun] at hok
    obtain rfl := Option.some.inj hok
    rw [hrun] at h
    exact ⟨_, _, o', hrun, h.2⟩

end Panewire.Arbiter

import Panewire.Data.Ranking
import Panewire.Select.Classify

/-!
# Ranking the selection's candidates

`orderSelCands` sorts the candidates that survived classification with a comparison whose keys apply
only to some pairs: urgency between two candidates at waste risk, dollars between two credit pools.
It reads the urgency of a candidate at risk without looking whether there is one.

* **classification keeps the mixed cases apart**: a candidate at risk has dollars or an urgency, and
  the credit tier holds exactly the credit pools that are not at risk;
* so the comparison is a **strict weak order** on the survivors, and the order in which they arrive
  changes the ranking in exact ties only.
-/

namespace Panewire.Select

open Data

variable {row : CatalogRow} {x y : SelCand}

/-! ## The comparison -/

def gradeOrder (grade : String) : ℤ :=
  match grade with
  | "C" => 0
  | "B" => 1
  | "A" => 2
  | "A+" => 3
  | "S" => 4
  | "S+" => 5
  | _ => 0

def rankEffort (effort : String) : ℕ :=
  match effort with
  | "" => 0
  | "low" => 1
  | "medium" => 2
  | "high" => 3
  | "xhigh" => 4
  | "max" => 5
  | "ultra" => 6
  | _ => 7

def topProfiles : List String := ["opus", "fable", "codex-sol", "codex-astra"]

def ompTopModels : List (String × String) :=
  [("anthropic/claude-opus-5-5", "opus"), ("anthropic/claude-fable-5-1", "fable"),
    ("openai/gpt-6.1-sol", "codex-sol"), ("openai/gpt-6-astra", "codex-astra")]

def topProfileRank (row : CatalogRow) : ℕ :=
  topProfiles.idxOf ((ompTopModels.lookup row.modelId).getD row.profile)

def firstPct (a b : Option F64) : Option F64 := a.or b

def rankBlocking (b : Option F64) : F64 := b.getD (.num 1000000000)

def rankScore (s : Option F64) : F64 := (s.map F64.neg).getD (.num (-1000000000))

/-- A number ranks before none, and a higher number before a lower one. -/
def higherFirst : Option F64 → Option F64 → Ordering
  | some x, some y => F64.order y x
  | some _, none => .lt
  | none, some _ => .gt
  | none, none => .eq

/-- Two candidates at waste risk: `none` where the urgency that is read is missing. -/
def compareRisk (x y : SelCand) : Option Ordering :=
  match x.usdUrgency, y.usdUrgency with
  | some _, none => some .lt
  | none, some _ => some .gt
  | some a, some b => some (F64.order b a)
  | none, none =>
    match x.urgency, y.urgency with
    | some a, some b => some (F64.order b a)
    | _, _ => none

def compareTier (x y : SelCand) : Ordering :=
  (compare x.tier y.tier).then
    (if x.creditPool && y.creditPool then higherFirst x.usdUrgency y.usdUrgency else .eq)

/-- The keys every pair is compared by in the end. -/
def compareRest (x y : SelCand) : Ordering :=
  (if x.ignoreGrade then .eq else compare (gradeOrder x.row.grade) (gradeOrder y.row.grade)).then <|
  (higherFirst x.urgency y.urgency).then <|
  (F64.order (rankBlocking (firstPct x.longProj x.blocking))
    (rankBlocking (firstPct y.longProj y.blocking))).then <|
  (if x.ignoreGrade then compare (topProfileRank x.row) (topProfileRank y.row) else .eq).then <|
  (compare (rankEffort x.row.effort) (rankEffort y.row.effort)).then <|
  (F64.order (rankScore x.row.score) (rankScore y.row.score)).then <|
  (compare x.row.profile y.row.profile).then (compare x.row.effort y.row.effort)

def compareSel (x y : SelCand) : Option Ordering :=
  if x.risk != y.risk then some (if x.risk then .lt else .gt)
  else if x.behindCredit != y.behindCredit then some (if y.behindCredit then .lt else .gt)
  else do
    let first ← if x.risk then compareRisk x y else some (compareTier x y)
    return first.then (compareRest x y)

/-- A pool on pace to be used up goes behind credit once a credit pool with a balance competes. -/
def markBehind (pending : List SelCand) : List SelCand :=
  let creditLeft := pending.any fun c => c.creditPool && c.creditLeft
  pending.map fun c => { c with behindCredit := creditLeft && c.paced }

/-- The candidates in rank order; `none` when a comparison reads a missing urgency. -/
def orderSelCands (pending : List SelCand) : Option (List SelCand) :=
  stableSort compareSel (markBehind pending)

/-! ## What survives classification -/

/-- What ranking relies on in a candidate. -/
structure Rankable (p : SelPlan) (c : SelCand) : Prop where
  grade : c.ignoreGrade = p.top
  urgent : c.risk = true → c.usdUrgency = none → c.urgency.isSome = true
  credit : c.risk = false → c.creditPool = true → c.tier = index p.policy.order "credit"
  paid : c.creditPool = false → ∃ name, name ≠ "credit" ∧ c.tier = index p.policy.order name ∧
    0 ≤ c.tier

variable {A : Arith} {p : SelPlan} {c : SelCand} {v : PoolView}

theorem index_inj {names : List String} {a b : String} (h : index names a = index names b)
    (ha : 0 ≤ index names a) : a = b := by
  unfold index at h ha
  cases hi : names.idxOf? a with
  | none => simp [hi] at ha
  | some i =>
    cases hj : names.idxOf? b with
    | none => simp only [hi, hj] at h; omega
    | some j =>
      simp only [hi, hj, Nat.cast_inj] at h
      subst h
      rw [List.idxOf?_eq_some_iff] at hi hj
      obtain ⟨_, hia, -⟩ := hi
      obtain ⟨_, hjb, -⟩ := hj
      exact hia.symm.trans hjb

/-- Within a tier that is not at risk there are credit pools only, or none. -/
theorem Rankable.creditPool_eq (hx : Rankable p x) (hy : Rankable p y)
    (hrx : x.risk = false) (hry : y.risk = false) (ht : x.tier = y.tier) :
    x.creditPool = y.creditPool := by
  -- a paid pool's tier is found in the order, so it is not where the credit tier is
  have apart : ∀ {x y : SelCand}, Rankable p x → Rankable p y → x.risk = false → x.tier = y.tier →
      x.creditPool = true → y.creditPool = false → False := by
    intro x y hx hy hrx ht hcx hcy
    obtain ⟨name, hn, hi, hp⟩ := hy.paid hcy
    rw [hx.credit hrx hcx] at ht
    exact hn (index_inj (hi.symm.trans ht.symm) (hi ▸ hp))
  cases hcx : x.creditPool <;> cases hcy : y.creditPool
  · rfl
  · exact (apart hy hx hry ht.symm hcy hcx).elim
  · exact (apart hx hy hrx ht hcx hcy).elim
  · rfl

theorem tierOf_name (hc : (p.policy.isCredit row.pool || v.cls == "credit") = false)
    (hp : 0 ≤ (p.policy.tierOf A row v).2) :
    ∃ name, name ≠ "credit" ∧ (p.policy.tierOf A row v).2 = index p.policy.order name := by
  unfold PoolPolicy.tierOf at hp ⊢
  split_ifs at hp ⊢ with hfree he hcr hb
  · exact ⟨"free", by decide, rfl⟩
  · simp at hp
  · rw [hc] at hcr; cases hcr
  · simp at hp
  · have hn : ∀ wasted : Bool, (if wasted then "waste" else "ranked") ≠ "credit" := by decide
    exact ⟨_, hn _, rfl⟩

theorem urgency_of_wasteRisk {free : Bool}
    (h : (p.policy.wasteRisk A row free v).1 = true) : v.urgency.isSome = true := by
  unfold PoolPolicy.wasteRisk at h
  split at h
  · next hu _ => rw [hu]; rfl
  · cases h

theorem rankable_expireCredit {balance : CreditBalance} {hours : F64}
    (hgr : c.ignoreGrade = p.top) (hpo : c.creditPool = true)
    (ht : c.tier = index p.policy.order "credit") :
    Rankable p (expireCredit A p c balance hours) := by
  have hp : c.creditPool ≠ false := by rw [hpo]; decide
  unfold expireCredit
  split
  · dsimp only
    split
    · exact ⟨hgr, (fun _ hu => nomatch hu), (fun h => nomatch h), fun h => absurd h hp⟩
    · exact ⟨hgr, (fun _ hu => nomatch hu), fun _ _ => ht, fun h => absurd h hp⟩
  · exact ⟨hgr, fun _ _ => rfl, (fun h => nomatch h), fun h => absurd h hp⟩

/-- A credit pool's candidate that was not at risk before can be ranked. -/
theorem rankable_classifyCredit (hgr : c.ignoreGrade = p.top) (hri : c.risk = false) :
    Rankable p (classifyCredit A p c v) := by
  have hc : c.risk ≠ true := by rw [hri]; decide
  unfold classifyCredit
  split
  · exact ⟨hgr, fun h => absurd h hc, fun _ _ => rfl, fun h => nomatch h⟩
  · split
    · exact ⟨hgr, fun h => absurd h hc, fun _ _ => rfl, fun h => nomatch h⟩
    · split
      · exact ⟨hgr, fun h => absurd h hc, fun _ _ => rfl, fun h => nomatch h⟩
      · exact rankable_expireCredit hgr rfl rfl

/-- A paid pool's candidate that survives can be ranked. -/
theorem rankable_classifyPaid (hgr : c.ignoreGrade = p.top) (hp : c.creditPool = false)
    (hu : c.urgency = v.urgency) (hcr : (p.policy.isCredit c.row.pool || v.cls == "credit") = false)
    (h : (classifyPaid A p c v).reason = "") : Rankable p (classifyPaid A p c v) := by
  unfold classifyPaid at h ⊢
  dsimp only at h ⊢
  split at h
  · next hw => exact absurd h hw
  next hw =>
  rw [if_neg hw]
  unfold tierView at h ⊢
  dsimp only at h ⊢
  split at h
  · exact absurd (show "quota_unknown" = "" from h) (by decide)
  next hkn =>
  rw [if_neg hkn]
  have hpos : 0 ≤ (p.policy.tierOf A c.row v).2 := by
    simp only [Bool.or_eq_true, decide_eq_true_eq, not_or] at hkn
    exact not_lt.mp hkn.1
  obtain ⟨name, hn, hi⟩ := tierOf_name hcr hpos
  refine ⟨hgr, fun hri _ => ?_, fun _ hc => ?_, fun _ => ⟨name, hn, hi, hpos⟩⟩
  · exact hu ▸ urgency_of_wasteRisk hri
  · exact absurd (hp.symm.trans hc) (by decide)

theorem classifyPaid_kept : (classifyPaid A p c v).creditPool = c.creditPool ∧
    (classifyPaid A p c v).ignoreGrade = c.ignoreGrade ∧ (classifyPaid A p c v).row = c.row := by
  unfold classifyPaid tierView
  dsimp only
  split
  · exact ⟨rfl, rfl, rfl⟩
  · split
    · exact ⟨rfl, rfl, rfl⟩
    · exact ⟨rfl, rfl, rfl⟩

/-- A credit pool's candidate never asks for a refresh. -/
theorem classifyCredit_known (h : c.code = none) :
    (classifyCredit A p c v).code ≠ some .quotaUnknown := by
  have hc : c.code ≠ some .quotaUnknown := by rw [h]; decide
  unfold classifyCredit expireCredit
  dsimp only
  split
  · exact fun h => nomatch h
  · split
    · exact hc
    · split
      · exact hc
      · split
        · split <;> exact hc
        · exact hc

/-- A candidate that was classified at most as a paid pool's. -/
structure Plain (p : SelPlan) (c : SelCand) : Prop where
  grade : c.ignoreGrade = p.top
  pool : c.creditPool = false

theorem rankable_classify (hc : Plain p c)
    (hri : c.risk = true → (p.policy.isCredit c.row.pool || v.cls == "credit") = false)
    (h : (classify A p c v).reason = "") : Rankable p (classify A p c v) := by
  have hs : classify A p c v =
      if (p.policy.isCredit c.row.pool || v.cls == "credit") = true
      then classifyCredit A p (readView A c v) v else classifyPaid A p (readView A c v) v := rfl
  rw [hs] at h ⊢
  cases hcr : p.policy.isCredit c.row.pool || v.cls == "credit" with
  | true =>
    refine rankable_classifyCredit hc.grade (Bool.eq_false_iff.mpr fun hr => ?_)
    exact absurd (hcr.symm.trans (hri hr)) (by decide)
  | false =>
    rw [hcr] at h
    exact rankable_classifyPaid hc.grade hc.pool rfl hcr h

/-- A candidate that asks for a refresh was not classified as a credit pool's. -/
theorem plain_classify (hc : Plain p c) (hco : c.code = none)
    (h : (classify A p c v).code = some .quotaUnknown) :
    Plain p (classify A p c v) ∧ (classify A p c v).row = c.row := by
  unfold classify at h ⊢
  dsimp only at h ⊢
  split at h
  · exact absurd h (classifyCredit_known hco)
  · next hcr =>
    rw [if_neg hcr]
    obtain ⟨hp, hgr, hrow⟩ := @classifyPaid_kept A p (readView A c v) v
    exact ⟨⟨hgr.trans hc.grade, hp.trans hc.pool⟩, hrow⟩

theorem rankable_classifyRung {account : AccountView} (hc : Plain p c)
    (hri : ∀ v, account.forRung c.row p.agyGroup = some v → c.risk = true →
      (p.policy.isCredit c.row.pool || v.cls == "credit") = false)
    (h : (classifyRung A p c account).reason = "") : Rankable p (classifyRung A p c account) := by
  unfold classifyRung at h ⊢
  cases hv : account.forRung c.row p.agyGroup with
  | none => rw [hv] at h; exact absurd (show "quota_unknown" = "" from h) (by decide)
  | some v =>
    rw [hv] at h
    exact rankable_classify hc (hri v hv) h

theorem plain_classifyRung {account : AccountView} (hc : Plain p c) (hco : c.code = none)
    (h : (classifyRung A p c account).code = some .quotaUnknown) :
    Plain p (classifyRung A p c account) ∧ (classifyRung A p c account).row = c.row := by
  unfold classifyRung at h ⊢
  cases hv : account.forRung c.row p.agyGroup with
  | none => exact ⟨⟨hc.grade, hc.pool⟩, rfl⟩
  | some v =>
    rw [hv] at h
    exact plain_classify hc hco h

/-- What a refresh measured is never classed as credit. -/
theorem cls_of_forRung {again : AccountReading} {agyGroup : String → String}
    (h : again.view.forRung row agyGroup = some v) : v.cls = "spend" := by
  have hl : ∀ (groups : List (String × Reading)) (name : String) (v : PoolView),
      (groups.map fun g => (g.1, g.2.view)).lookup name = some v → v.cls = "spend" := by
    intro groups name v hv
    induction groups with
    | nil => cases hv
    | cons g groups ih =>
      rw [List.map_cons, List.lookup_cons] at hv
      split at hv
      · rw [← Option.some.inj hv]; rfl
      · exact ih hv
  unfold AccountView.forRung at h
  split_ifs at h
  · rw [← Option.some.inj h]; rfl
  · rw [← Option.some.inj h]; rfl
  · exact hl _ _ _ h

theorem Outcome.reason_ne_empty (o : Outcome) : o.reason ≠ "" := by cases o <;> decide

/-- The second classification may find the candidate at risk from the first: it rewrites the risk,
since a refreshed account is not classed as credit. -/
theorem rankable_reclassify {reads : Reads} (hx : Plain p x)
    (hp : p.policy.isCredit x.row.pool = false) (h : (reclassify A p x reads).reason = "") :
    Rankable p (reclassify A p x reads) := by
  unfold reclassify at h ⊢
  cases hre : reads.refreshed with
  | none => rw [hre] at h; exact absurd h (Outcome.reason_ne_empty _)
  | some again =>
    rw [hre] at h
    refine rankable_classifyRung ⟨hx.grade, hx.pool⟩ (fun v hv _ => ?_) h
    rw [cls_of_forRung hv, hp]
    decide

/-- **A candidate that survives the round can be ranked.** -/
theorem rankable_consider {accountKey : String} {reads : Reads}
    (h : (consider A p row accountKey reads).reason = "") :
    Rankable p (consider A p row accountKey reads) := by
  have hfr : Plain p (fresh p row accountKey) := ⟨rfl, rfl⟩
  unfold consider at h ⊢
  split at h
  · next hcr =>
    rw [if_pos hcr]
    cases hre : reads.credit with
    | none => rw [hre] at h; exact absurd (show "quota_unknown" = "" from h) (by decide)
    | some v =>
      rw [hre] at h
      exact rankable_classify hfr (fun hr => nomatch hr) h
  · next hcr =>
    rw [if_neg hcr]
    cases hre : reads.account with
    | none => rw [hre] at h; exact absurd h (Outcome.reason_ne_empty _)
    | some account =>
      simp only [hre] at h ⊢
      split at h
      · next hc =>
        rw [if_pos hc]
        obtain ⟨hpl, hrow⟩ := plain_classifyRung hfr rfl hc
        refine rankable_reclassify hpl ?_ h
        rw [hrow]
        exact Bool.eq_false_iff.mpr hcr
      · next hc =>
        rw [if_neg hc]
        exact rankable_classifyRung hfr (fun _ _ hr => nomatch hr) h

/-! ## The ranking -/

instance : Std.TransCmp higherFirst where
  eq_swap {a b} := by
    have swap : ∀ a b : F64, F64.order a b = (F64.order b a).swap := fun _ _ =>
      Std.OrientedCmp.eq_swap
    cases a <;> cases b <;> first | rfl | exact swap _ _
  isLE_trans {a b c} hab hbc := by
    have trans : ∀ {a b c : F64}, (F64.order a b).isLE = true → (F64.order b c).isLE = true →
        (F64.order a c).isLE = true := Std.TransCmp.isLE_trans
    have less : (Ordering.gt).isLE ≠ true := by decide
    cases a <;> cases b <;> cases c <;>
      first | rfl | exact trans hbc hab | exact absurd hab less | exact absurd hbc less

/-- Dollars order candidates at risk and credit pools; others count alike. -/
def dollars (c : SelCand) : Option F64 := if c.risk || c.creditPool then c.usdUrgency else none

/-- A percentage orders candidates at risk without dollars. -/
def percent (c : SelCand) : Option F64 :=
  if c.risk && c.usdUrgency.isNone then c.urgency else none

/-- The keys every pair is compared by in the end, in a round that ignores the grade or not. -/
def restOrder (top : Bool) : SelCand → SelCand → Ordering :=
  compareLex (compareOn fun c => if top then 0 else gradeOrder c.row.grade) <|
  compareLex (onKey higherFirst fun c => c.urgency) <|
  compareLex (onKey F64.order fun c => rankBlocking (firstPct c.longProj c.blocking)) <|
  compareLex (compareOn fun c => if top then topProfileRank c.row else 0) <|
  compareLex (compareOn fun c => rankEffort c.row.effort) <|
  compareLex (onKey F64.order fun c => rankScore c.row.score) <|
  compareLex (compareOn fun c => c.row.profile) (compareOn fun c => c.row.effort)

/-- The comparison with every key total. -/
def rankOrder (top : Bool) : SelCand → SelCand → Ordering :=
  compareLex (compareOn fun c => !c.risk) <|
  compareLex (compareOn fun c => c.behindCredit) <|
  compareLex (compareOn fun c => if c.risk then 0 else c.tier) <|
  compareLex (onKey higherFirst dollars) <|
  compareLex (onKey higherFirst percent) (restOrder top)

instance (top : Bool) : Std.TransCmp (restOrder top) := by
  unfold restOrder
  infer_instance

instance (top : Bool) : Std.TransCmp (rankOrder top) := by
  unfold rankOrder
  infer_instance

theorem compareRest_eq {top : Bool} (hx : x.ignoreGrade = top) :
    compareRest x y = restOrder top x y := by
  unfold compareRest
  rw [hx]
  cases top
  · rfl
  · rfl

/-- Between candidates at risk the urgency that is read is there. -/
theorem compareRisk_eq (hx : Rankable p x) (hy : Rankable p y)
    (hrx : x.risk = true) (hry : y.risk = true) :
    compareRisk x y = some ((higherFirst (dollars x) (dollars y)).then
      (higherFirst (percent x) (percent y))) := by
  have hux := hx.urgent hrx
  have huy := hy.urgent hry
  unfold compareRisk dollars percent
  rw [hrx, hry]
  cases hdx : x.usdUrgency <;> cases hdy : y.usdUrgency
  · obtain ⟨a, ha⟩ := Option.isSome_iff_exists.mp (hux hdx)
    obtain ⟨b, hb⟩ := Option.isSome_iff_exists.mp (huy hdy)
    rw [ha, hb]
    rfl
  · rfl
  · rfl
  · simp [higherFirst]

/-- Within a tier the dollars are compared between credit pools, and no tier mixes them. -/
theorem compareTier_eq (hx : Rankable p x) (hy : Rankable p y)
    (hrx : x.risk = false) (hry : y.risk = false) :
    compareTier x y = (compare x.tier y.tier).then ((higherFirst (dollars x) (dollars y)).then
      (higherFirst (percent x) (percent y))) := by
  unfold compareTier
  by_cases ht : x.tier = y.tier
  · have hp := hx.creditPool_eq hy hrx hry ht
    unfold dollars percent
    rw [hrx, hry, hp]
    cases y.creditPool <;> simp [higherFirst]
  · have hne : compare x.tier y.tier ≠ .eq := fun h => ht (Std.LawfulEqOrd.eq_of_compare h)
    cases ho : compare x.tier y.tier with
    | eq => exact absurd ho hne
    | lt | gt => rfl

/-- **The comparison is the total one** on candidates that can be ranked. -/
theorem compareSel_agrees : Agrees compareSel (rankOrder p.top) (Rankable p) := by
  intro x y hx hy
  have hre := @compareRest_eq x y p.top hx.grade
  have hu : rankOrder p.top x y = (compare (!x.risk) (!y.risk)).then
      ((compare x.behindCredit y.behindCredit).then
        ((compare (if x.risk then 0 else x.tier) (if y.risk then 0 else y.tier)).then
          ((higherFirst (dollars x) (dollars y)).then
            ((higherFirst (percent x) (percent y)).then (compareRest x y))))) := by
    rw [hre]; rfl
  have hs : ∀ b : Bool, compare b b = .eq := by decide
  rw [hu]
  unfold compareSel
  by_cases hri : x.risk = y.risk
  · by_cases hb : x.behindCredit = y.behindCredit
    · rw [hri, hb, bne_self_eq_false, bne_self_eq_false, hs, hs]
      cases hry : y.risk with
      | true => simp [compareRisk_eq hx hy (hri.trans hry) hry, Ordering.then_assoc]
      | false => simp [compareTier_eq hx hy (hri.trans hry) hry, Ordering.then_assoc]
    · rw [hri, bne_self_eq_false, hs]
      cases hbx : x.behindCredit <;> cases hby : y.behindCredit
      · exact absurd (hbx.trans hby.symm) hb
      · rfl
      · rfl
      · exact absurd (hbx.trans hby.symm) hb
  · cases hrx : x.risk <;> cases hry : y.risk
    · exact absurd (hrx.trans hry.symm) hri
    · rfl
    · rfl
    · exact absurd (hrx.trans hry.symm) hri

/-- A rung on an account, with what the round could read about it. -/
structure Rung where
  row : CatalogRow
  accountKey : String
  reads : Reads

/-- The candidates of the round that survive, in the order in which they were considered. -/
def pending (A : Arith) (p : SelPlan) (rungs : List Rung) : List SelCand :=
  (rungs.map fun r => consider A p r.row r.accountKey r.reads).filter fun c => c.reason = ""

theorem rankable_pending {rungs : List Rung} :
    ∀ c ∈ markBehind (pending A p rungs), Rankable p c := by
  intro c hc
  obtain ⟨c, hmem, rfl⟩ := List.mem_map.mp hc
  obtain ⟨hfr, hw⟩ := List.mem_filter.mp hmem
  obtain ⟨r, -, rfl⟩ := List.mem_map.mp hfr
  have h := rankable_consider (of_decide_eq_true hw)
  exact ⟨h.grade, h.urgent, h.credit, h.paid⟩

theorem markBehind_perm {l l' : List SelCand} (h : l'.Perm l) :
    (markBehind l').Perm (markBehind l) := by
  unfold markBehind
  rw [h.any_eq]
  exact h.map _

/-- Candidates that tie are of one profile and effort. -/
theorem same_rung_of_tie (h : compareSel x y = some .eq) :
    x.row.profile = y.row.profile ∧ x.row.effort = y.row.effort := by
  unfold compareSel at h
  split_ifs at h <;> try cases h
  all_goals
    obtain ⟨first, -, hrest⟩ := Option.bind_eq_some_iff.mp h
    simp only [Option.pure_def, Option.some.injEq, compareRest, Ordering.then_eq_eq,
      Std.LawfulEqOrd.compare_eq_iff_eq] at hrest
    exact hrest.2.2.2.2.2.2.2

/-- **The ranking does not depend on arrival.** The comparison is a strict weak order on the
survivors of any round, so it reads no missing urgency, and the rungs in any other order are ranked
to candidates that tie position by position, so they are of the same profiles and efforts. -/
theorem ranking_strict_weak (A : Arith) (p : SelPlan) (rungs : List Rung) :
    StrictWeak compareSel (· ∈ markBehind (pending A p rungs)) ∧
    ∃ ranked, orderSelCands (pending A p rungs) = some ranked ∧
      ranked.Perm (markBehind (pending A p rungs)) ∧
      ranked.Pairwise (fun x y => compareSel x y ≠ some .gt) ∧
      ∀ arrived : List Rung, arrived.Perm rungs →
        ∃ ranked', orderSelCands (pending A p arrived) = some ranked' ∧
          List.Forall₂ (fun x y => compareSel x y = some .eq ∧
            x.row.profile = y.row.profile ∧ x.row.effort = y.row.effort) ranked ranked' := by
  have ha : Agrees compareSel (rankOrder p.top) (· ∈ markBehind (pending A p rungs)) :=
    fun x y hx hy => compareSel_agrees x y (rankable_pending x hx) (rankable_pending y hy)
  obtain ⟨ranked, hran, hp, hs⟩ := stableSort_spec ha fun _ => id
  refine ⟨ha.strictWeak, ranked, hran, hp, ?_, fun arrived harr => ?_⟩
  · refine hs.imp_of_mem fun {x y} hx hy hle hgt => ?_
    rw [ha x y (hp.mem_iff.mp hx) (hp.mem_iff.mp hy), Option.some.injEq] at hgt
    rw [hgt] at hle
    exact absurd hle (by decide)
  · have hsame : (markBehind (pending A p arrived)).Perm (markBehind (pending A p rungs)) :=
      markBehind_perm ((harr.map _).filter _)
    obtain ⟨ranked', hran', hp', hs'⟩ :=
      stableSort_spec ha fun x hx => hsame.mem_iff.mp hx
    have htie := ha.forall₂_tie (forall₂_tie_of_perm (hp.trans (hp'.trans hsame).symm) hs hs')
      (fun _ => hp.mem_iff.mp) fun _ => (hp'.trans hsame).mem_iff.mp
    exact ⟨ranked', hran', htie.imp fun _ _ h => ⟨h, same_rung_of_tie h⟩⟩

/-- A candidate on one account. -/
def sampleCand (profile effort : String) : SelCand where
  row := ⟨profile, effort, "A", "", "pool", none, ""⟩
  accountKey := "account"
  ignoreGrade := false
  tier := 1

-- the effort tells candidates of one profile apart, whichever arrives first
example : orderSelCands [sampleCand "opus" "max", sampleCand "opus" "low"] =
    some [sampleCand "opus" "low", sampleCand "opus" "max"] ∧
    orderSelCands [sampleCand "opus" "low", sampleCand "opus" "max"] =
      some [sampleCand "opus" "low", sampleCand "opus" "max"] := by
  decide +kernel

end Panewire.Select

import Panewire.Admission.Verdict
import Panewire.Data.Results

/-!
# What an admission rests on

The judge admits after some twenty refusals in a row. Here each stage is said once: what a rung that
was **opened** has passed, and what its windows must be like to be **measured**.

* `opening_ok_iff`, `weigh_ok_iff` — the two stages before the escalation rule;
* `admission_justified_iff` — an admission that is not free is justified in every respect, exactly
  when the cutoff of the pool is a number: a configured cutoff of NaN passes its bounds check, and
  no use is ever at or above it;
* `less_use_admits` — a lower use never turns an admission into a refusal.
-/

namespace Panewire.Admission

open Data AdmissionInputs List Bool

variable {row : AdmissionRow} {d : AdmissionVerdict} {resolved arm : String}
  {bs bs' : List AdmissionBucket} {rows : List AdmissionRow} {inp : AdmissionInputs}
  {req : AdmissionRequest} {allowUnrated : Bool} {v : AdmissionVerdict} {o : Opened} {fuel : ℕ}

/-! ## The opening -/

theorem unless_bind_ok {β : Type} {denial : Option GateDenial}
    {f : Unit → Except AdmissionVerdict β} {b : β} :
    (d.unless denial >>= f) = .ok b ↔ denial = none ∧ f () = .ok b := by
  cases denial <;> simp [AdmissionVerdict.unless, bind, Except.bind]

/-- What a request has passed when quota is looked at. -/
structure Opens (inp : AdmissionInputs) (req : AdmissionRequest) (allowUnrated : Bool)
    (row : AdmissionRow) (resolved arm : String) : Prop where
  profile : inp.checkProfile req = none
  marker : inp.checkMarker req allowUnrated = none
  resolves : resolveRow inp.catalog.rows req allowUnrated = .ok (row, resolved, arm)
  role : admissionRoleCheck req row = none
  placement : checkPlacement req row = none
  pool : inp.checkPool req row = none

/-- The draft of the verdict at that point. -/
def draft (inp : AdmissionInputs) (req : AdmissionRequest) (row : AdmissionRow) :
    AdmissionVerdict where
  profile := req.profile
  pool := row.pool
  grade := if row.placed then some row.grade else none
  operatorRequestRef := req.operatorRequest
  requestedBy := if req.operatorRequest = "" then ""
    else if req.requestedBy = "" then "unknown" else req.requestedBy
  poolClass := some (inp.policy.pool row.pool inp.now).poolClass

theorem opening_ok_iff : inp.opening req allowUnrated = .ok o ↔
    Opens inp req allowUnrated o.row o.resolved o.arm ∧ o.d = draft inp req o.row := by
  unfold opening
  simp only [unless_bind_ok]
  constructor
  · rintro ⟨hpr, hmar, hre⟩
    split at hre
    · cases hre
    · next row resolved arm hres =>
      simp only [unless_bind_ok] at hre
      obtain ⟨hrole, hpla, hp, hok⟩ := hre
      obtain rfl := Except.ok.inj hok
      exact ⟨⟨hpr, hmar, hres, hrole, hpla, hp⟩, rfl⟩
  · rintro ⟨hop, hd⟩
    refine ⟨hop.profile, hop.marker, ?_⟩
    simp only [hop.resolves, unless_bind_ok]
    refine ⟨hop.role, hop.placement, hop.pool, ?_⟩
    obtain ⟨d, row, resolved, arm⟩ := o
    obtain rfl : d = draft inp req row := hd
    rfl

theorem refused_or_of_unless {β : Type} {d' : AdmissionVerdict} {denial : Option GateDenial}
    {f : Unit → Except AdmissionVerdict β} (h : (d.unless denial >>= f) = .error d') :
    d'.ok = false ∨ f () = .error d' := by
  cases denial with
  | none => exact .inr h
  | some e => cases h; exact .inl rfl

/-- A verdict at this stage is a refusal. -/
theorem refused_of_opening (h : inp.opening req allowUnrated = .error d) : d.ok = false := by
  refine (refused_or_of_unless h).elim id fun h => ?_
  refine (refused_or_of_unless h).elim id fun h => ?_
  split at h
  · cases h; rfl
  · refine (refused_or_of_unless h).elim id fun h => ?_
    refine (refused_or_of_unless h).elim id fun h => ?_
    refine (refused_or_of_unless h).elim id fun h => ?_
    cases h

namespace AdmissionInputs

/-- No window of a reading gates the rung, so that the operator's entries decide. -/
def fallback (inp : AdmissionInputs) (row : AdmissionRow) : Bool :=
  (Assoc.get inp.readings row.pool).isNone ||
    matchingBuckets (inp.reading row.pool).buckets row.group = []

/-- The windows that gate the rung. -/
def gating (inp : AdmissionInputs) (row : AdmissionRow) : List AdmissionBucket :=
  if inp.fallback row then inp.manualBuckets row.pool
  else matchingBuckets (inp.reading row.pool).buckets row.group

/-- What the evidence should have. -/
def required (inp : AdmissionInputs) (row : AdmissionRow) : List String :=
  requiredWindows row.pool (inp.reading row.pool).plan (inp.fallback row)

/-- A rung whose windows do not object. -/
structure Measured (inp : AdmissionInputs) (row : AdmissionRow) : Prop where
  fresh : ∀ b ∈ matchingBuckets (inp.reading row.pool).buckets row.group,
    exhaustedAt (inp.cutoff row.pool) b = true → inp.wasReset row.pool b = true
  /-- the operator's entries are complete -/
  entered : inp.fallback row = true → ∀ w ∈ inp.required row, ∃ b ∈ inp.gating row, b.window = w
  nonempty : inp.gating row ≠ []
  below : ∀ b ∈ inp.gating row, exhaustedAt (inp.cutoff row.pool) b = false
  complete : missingWindowRefusal row.pool (inp.reading row.pool).plan
    (missingWindows (inp.required row) (inp.gating row)) = ""

end AdmissionInputs

theorem valid_of_mem_validManual {entries : List AdmissionManual} {now : ℤ} {m : AdmissionManual}
    (h : m ∈ validManual entries now) : admissionValidPct m.used = true := by
  have hfil := (mem_filter.mp ((mem_insertionSort _).mp h)).2
  simp only [and_eq_true] at hfil
  exact hfil.1.1.1

/-- The windows that gate a rung are valid. -/
theorem valid_of_mem_gating {b : AdmissionBucket}
    (h : b ∈ inp.gating row) : admissionValidPct b.used = true := by
  unfold AdmissionInputs.gating at h
  split at h
  · obtain ⟨m, hm, rfl⟩ := mem_map.mp h
    exact valid_of_mem_validManual hm
  · exact (and_eq_true_iff.mp (mem_filter.mp h).2).2

theorem lt_of_foldl_max_lt {acc c : F64}
    (h : (bs.foldl (fun acc b => acc.max (b.used.getD .nan)) acc).lt c = true) :
    acc.lt c = true := by
  induction bs generalizing acc with
  | nil => exact h
  | cons b bs ih => exact F64.lt_of_max_lt (ih h)

/-- Something was measured if there is a window at all. -/
theorem maxUsed_lt_zero_iff (hv : ∀ b ∈ bs, admissionValidPct b.used = true) :
    (maxUsed bs).lt (.num 0) = true ↔ bs = [] := by
  cases bs with
  | nil => exact iff_of_true (by decide +kernel) rfl
  | cons b bs =>
    refine iff_of_false (fun hlt => ?_) (by simp)
    have hb := hv b mem_cons_self
    unfold admissionValidPct at hb
    split at hb
    · next q hu =>
      simp only [and_eq_true, decide_eq_true_eq] at hb
      have hfst : (F64.max (.num (-1)) (b.used.getD .nan)).lt (.num 0) = true :=
        lt_of_foldl_max_lt hlt
      have hl : (-1 : ℚ) < q := lt_of_lt_of_le (by decide +kernel) hb.1
      have hmax : F64.max (.num (-1)) (b.used.getD .nan) = .num q := by
        simp [hu, F64.max, F64.lt, F64.le, not_le.mpr hl]
      rw [hmax] at hfst
      simp [F64.lt, F64.le, hb.1] at hfst
    · cases hb

/-- The draft with the operator's entries named. -/
def AdmissionInputs.cited (inp : AdmissionInputs) (o : Opened) : AdmissionVerdict :=
  if inp.fallback o.row then
    { o.d with
      source := "operator"
      manualIDs := (validManual ((Assoc.get inp.manual o.row.pool).getD []) inp.now).map (·.id) }
  else o.d

theorem evidence_ok_iff {result : AdmissionVerdict × List AdmissionBucket} :
    inp.evidence o = .ok result ↔ (inp.fallback o.row = true → inp.gating o.row ≠ [] ∧
      ∀ w ∈ inp.required o.row, ∃ b ∈ inp.gating o.row, b.window = w) ∧
      result = (inp.cited o, inp.gating o.row) := by
  unfold evidence
  dsimp only
  by_cases hfa : inp.fallback o.row = true
  · have hif : (Assoc.get inp.readings o.row.pool).isNone = true ∨
        matchingBuckets (inp.reading o.row.pool).buckets o.row.group = [] := by
      simpa [AdmissionInputs.fallback] using hfa
    have hgat : inp.gating o.row = inp.manualBuckets o.row.pool := if_pos hfa
    have hreq : inp.required o.row =
        requiredWindows o.row.pool (inp.reading o.row.pool).plan true := by
      rw [required, hfa]
    rw [if_pos hif, cited, if_pos hfa, hgat, hreq]
    simp only [hfa, true_implies, manualBuckets, ne_eq, map_eq_nil_iff,
      mem_map, exists_exists_and_eq_and]
    split
    · next w hfi =>
      refine iff_of_false (fun h => by cases h) fun h => ?_
      have hmis := List.find?_some hfi
      obtain ⟨m, hm, hw⟩ := h.1.2 w (mem_of_find?_eq_some hfi)
      simp only [not_eq_true', any_eq_false, decide_eq_true_eq] at hmis
      exact hmis m hm hw
    · next hfi =>
      have ha := List.find?_eq_none.mp hfi
      split
      · next hn => exact iff_of_false (fun h => by cases h) fun h => h.1.1 hn
      · next hne =>
        refine ⟨fun h => ⟨⟨hne, fun w hw => ?_⟩, (Except.ok.inj h).symm⟩, fun h => ?_⟩
        · simpa using ha w hw
        · rw [h.2]
  · have hif : ¬ ((Assoc.get inp.readings o.row.pool).isNone = true ∨
        matchingBuckets (inp.reading o.row.pool).buckets o.row.group = []) := by
      simpa [AdmissionInputs.fallback] using hfa
    rw [if_neg hif, cited, if_neg hfa, AdmissionInputs.gating, if_neg hfa]
    exact ⟨fun h => ⟨fun hf => absurd hf hfa, (Except.ok.inj h).symm⟩, fun h => by rw [h.2]⟩

theorem source_cited (hs : o.d.source = "") :
    decide ((inp.cited o).source = "operator") = inp.fallback o.row := by
  unfold cited
  split
  · next h => simp [h]
  · next h => simp [hs, h]

section Weigh

variable {o : Opened}

theorem filter_gating (row : AdmissionRow) :
    (inp.gating row).filter (fun b => admissionValidPct b.used) = inp.gating row :=
  filter_eq_self.mpr fun _ hb => valid_of_mem_gating hb

/-- **A rung whose windows do not object** is measured. -/
theorem measured_of_weigh {p : Pending} (hs : o.d.source = "") (h : inp.weigh o = .ok p) :
    inp.Measured o.row ∧ p.row = o.row ∧ p.d.basis = o.d.basis := by
  unfold weigh at h
  dsimp only at h
  split at h
  · cases h
  next hfr =>
  obtain ⟨result, hevi, h⟩ := except_bind_ok.mp h
  obtain ⟨he, rfl⟩ := evidence_ok_iff.mp hevi
  rw [filter_gating, source_cited hs] at h
  split at h
  · cases h
  next hblw =>
  split at h
  · cases h
  next hu =>
  split at h
  · cases h
  next hw =>
  obtain rfl := Except.ok.inj h
  have hne : inp.gating o.row ≠ [] := fun hn =>
    hu ((maxUsed_lt_zero_iff fun _ hb => valid_of_mem_gating hb).mpr hn)
  refine ⟨⟨?_, fun hf => (he hf).2, hne, ?_, not_not.mp hw⟩, rfl, ?_⟩
  · simpa [List.find?_eq_none] using hfr
  · simpa [List.find?_eq_none] using hblw
  · unfold cited
    split <;> rfl

theorem weigh_of_measured (hs : o.d.source = "") (h : inp.Measured o.row) :
    ∃ p, inp.weigh o = .ok p := by
  have hfr : ((matchingBuckets (inp.reading o.row.pool).buckets o.row.group).find? fun b =>
      exhaustedAt (inp.cutoff o.row.pool) b && !inp.wasReset o.row.pool b) =
      none := by
    simpa [List.find?_eq_none] using h.fresh
  have hblw : (inp.gating o.row).find?
      (exhaustedAt (inp.cutoff o.row.pool)) = none := by
    simpa [List.find?_eq_none] using h.below
  have hu : ¬ (maxUsed (inp.gating o.row)).lt (.num 0) = true := fun hlt =>
    h.nonempty ((maxUsed_lt_zero_iff fun _ hb => valid_of_mem_gating hb).mp hlt)
  have he : inp.evidence o = .ok (inp.cited o, inp.gating o.row) :=
    evidence_ok_iff.mpr ⟨fun hf => ⟨h.nonempty, h.entered hf⟩, rfl⟩
  have hc := h.complete
  rw [required] at hc
  unfold weigh
  dsimp only
  rw [hfr, he]
  dsimp only [bind, Except.bind]
  rw [filter_gating, source_cited hs, hblw]
  rw [if_neg hu, if_neg (not_not.mpr hc)]
  exact ⟨_, rfl⟩

theorem refused_of_evidence (h : inp.evidence o = .error d) : d.ok = false := by
  unfold evidence at h
  dsimp only at h
  split at h
  · split at h
    · cases h; rfl
    · split at h <;> cases h
      rfl
  · cases h

theorem refused_of_weigh (h : inp.weigh o = .error d) : d.ok = false := by
  unfold weigh at h
  dsimp only at h
  split at h
  · cases h; rfl
  rcases except_bind_error.mp h with h | ⟨result, -, h⟩
  · exact refused_of_evidence h
  · split at h
    · cases h; rfl
    · split at h
      · cases h; rfl
      · split at h <;> cases h
        rfl

end Weigh

theorem mem_missingWindows {required : List String} {buckets : List AdmissionBucket} {w : String} :
    w ∈ missingWindows required buckets ↔ w ∈ required ∧ ¬ ∃ b ∈ buckets, b.window = w := by
  simp [missingWindows]

/-! ## The verdict -/

theorem settle_ok {p : Pending} (h : inp.settle req allowUnrated = .ok p) :
    ∃ resolved arm, Opens inp req allowUnrated p.row resolved arm ∧
      Assoc.get devinFreeRungs req.profile = none ∧ inp.Measured p.row ∧ p.d.basis = "" := by
  obtain ⟨o, ho, h⟩ := except_bind_ok.mp h
  obtain ⟨hop, hd⟩ := opening_ok_iff.mp ho
  split at h
  · cases h
  · next hfree =>
    obtain ⟨hms, hrow, hb⟩ := measured_of_weigh (by rw [hd]; rfl) h
    rw [hrow]
    exact ⟨o.resolved, o.arm, hop, hfree, hms, by rw [hb, hd]; rfl⟩

theorem settle_of_measured (hop : Opens inp req allowUnrated row resolved arm)
    (hfree : Assoc.get devinFreeRungs req.profile = none) (hms : inp.Measured row) :
    ∃ p, inp.settle req allowUnrated = .ok p ∧ p.row = row := by
  have ho : inp.opening req allowUnrated = .ok ⟨draft inp req row, row, resolved, arm⟩ :=
    opening_ok_iff.mpr ⟨hop, rfl⟩
  have hs : (draft inp req row).source = "" := rfl
  obtain ⟨p, hp⟩ := weigh_of_measured
    (o := ⟨draft inp req row, row, resolved, arm⟩) hs hms
  refine ⟨p, except_bind_ok.mpr ⟨_, ho, ?_⟩, (measured_of_weigh hs hp).2.1⟩
  rw [hfree]
  exact hp

/-- An admission that comes before the escalation rule is free. -/
theorem free_of_settle (h : inp.settle req allowUnrated = .error d)
    (hok : d.ok = true) : Go.hasPrefix d.basis "free-bucket:" = true := by
  rcases except_bind_error.mp h with h | ⟨o, -, h⟩
  · rw [refused_of_opening h] at hok
    cases hok
  split at h
  · obtain rfl := Except.error.inj h
    unfold judgeFree at hok ⊢
    split at hok
    · cases hok
    · simp [Go.hasPrefix]
  · rw [refused_of_weigh h] at hok
    cases hok

/-- Any other admission is the conclusion of what was settled. -/
theorem settle_of_admitted (h : inp.judgeWith fuel req allowUnrated = some v) (hok : v.ok = true)
    (hb : Go.hasPrefix v.basis "free-bucket:" = false) :
    ∃ p, inp.settle req allowUnrated = .ok p := by
  cases fuel with
  | zero => cases h
  | succ fuel =>
    unfold judgeWith at h
    split at h
    · next d hs =>
      obtain rfl := Option.some.inj h
      rw [free_of_settle hs hok] at hb
      cases hb
    · next p hs => exact ⟨p, hs⟩

/-- A request resolves to a rung on offer, with the effort that was asked for or the best one. -/
theorem resolveRow_ok (h : resolveRow rows req allowUnrated = .ok (row, resolved, arm)) :
    row ∈ eligibleRows rows req allowUnrated ∧
      (row.effort = resolvedEffort (requestedEffort rows req)
          (admissionDefaultEffort (eligibleRows rows req allowUnrated)) ∨
        row.effort = admissionDefaultEffort (eligibleRows rows req allowUnrated)) := by
  unfold resolveRow at h
  split at h
  · cases h
  dsimp only at h
  split at h
  · cases h
  split at h
  · cases h
  split at h
  · cases h
  split at h
  · cases h
  split at h
  · cases h
  next chosen hc =>
  have hrow : chosen = row := by
    split at h
    · split at h
      · cases h
      · exact (Prod.mk.inj (Except.ok.inj h)).1
    · exact (Prod.mk.inj (Except.ok.inj h)).1
  obtain rfl := hrow
  rcases Option.or_eq_some_iff.mp hc with hfi | ⟨-, hfi⟩
  · exact ⟨mem_of_find?_eq_some hfi, .inl (by simpa using List.find?_some hfi)⟩
  · exact ⟨mem_of_find?_eq_some hfi, .inr (by simpa using List.find?_some hfi)⟩

theorem eligible_of_resolve (h : resolveRow rows req allowUnrated = .ok (row, resolved, arm)) :
    row ∈ eligibleRows rows req allowUnrated :=
  (resolveRow_ok h).1

theorem offered_of_eligible (h : row ∈ eligibleRows rows req allowUnrated) :
    row ∈ rows ∧ row.profile = req.profile ∧ row.retired = false := by
  obtain ⟨hro, -⟩ := mem_filter.mp h
  obtain ⟨hmem, hrow⟩ := mem_filter.mp hro
  simp only [and_eq_true, decide_eq_true_eq, not_eq_true'] at hrow
  exact ⟨hmem, hrow⟩

theorem subscribed_of_checkProfile (h : inp.checkProfile req = none) :
    inp.policy.subscribed req.profile (inp.hintPool req.profile) = true := by
  unfold checkProfile at h
  dsimp only at h
  split at h
  · cases h
  · split at h
    · cases h
    · next hs => simpa using hs

theorem class_of_checkPool (h : inp.checkPool req row = none) :
    (inp.policy.pool row.pool inp.now).poolClass ≠ .exclude := by
  intro hc
  unfold checkPool at h
  rw [if_pos hc] at h
  cases h

/-! ## Justified admissions -/

/-- The evidence would not do without the window. -/
def AdmissionInputs.AbsenceRefuses (inp : AdmissionInputs) (row : AdmissionRow) (w : String) :
    Prop :=
  w ∈ inp.required row ∧ (inp.fallback row = true ∨
    missingWindowRefusal row.pool (inp.reading row.pool).plan [w] ≠ "")

structure Justified (inp : AdmissionInputs) (req : AdmissionRequest) (row : AdmissionRow) :
    Prop where
  subscribed : inp.policy.subscribed req.profile (inp.hintPool req.profile) = true
  notExcluded : (inp.policy.pool row.pool inp.now).poolClass ≠ .exclude
  role : admissionRoleCheck req row = none
  offered : row ∈ inp.catalog.rows ∧ row.profile = req.profile ∧ row.retired = false
  below : ∀ b ∈ inp.gating row, ∃ used, b.used = some used ∧ used.lt (inp.cutoff row.pool) = true
  covered : ∀ w, inp.AbsenceRefuses row w → ∃ b ∈ inp.gating row, b.window = w

/-- One missing window that refuses does so among others. -/
theorem missingWindowRefusal_of_mem {pool plan w : String} {missing : List String}
    (hw : w ∈ missing) (h : missingWindowRefusal pool plan [w] ≠ "") :
    missingWindowRefusal pool plan missing ≠ "" := by
  have hne : missing ≠ [] := ne_nil_of_mem hw
  unfold missingWindowRefusal at h ⊢
  rw [if_neg hne]
  rw [if_neg (by simp)] at h
  by_cases hcod : pool = "codex" ∧ plan ∈ ["plus", "prolite", "free"]
  · rw [if_pos hcod]
    simp [String.append_eq_empty_iff]
  · rw [if_neg hcod] at h ⊢
    by_cases hc : pool = "commandcode" ∧ "30d" ∈ [w]
    · obtain rfl := mem_singleton.mp hc.2
      rw [if_pos ⟨hc.1, hw⟩]
      decide
    · rw [if_neg hc] at h
      exact absurd rfl h

theorem used_of_valid {used : Option F64} (h : admissionValidPct used = true) :
    ∃ q : ℚ, used = some (.num q) := by
  unfold admissionValidPct at h
  split at h
  · exact ⟨_, rfl⟩
  · cases h

/-- **An admission is justified** exactly when the cutoff of the pool is a number: whatever the
catalog, the policy, the readings and the request are, what is admitted other than from a free
bucket is subscribed, not excluded, seated, on offer, below the cutoff in every window that gates
it, and covered where a missing window would refuse. -/
theorem admission_justified_iff {fuel : ℕ} {v : AdmissionVerdict}
    (h : inp.judge fuel req = some v) (hok : v.ok = true)
    (hbasis : Go.hasPrefix v.basis "free-bucket:" = false) :
    ∃ row resolved arm,
      resolveRow inp.catalog.rows req (admissionUnratedRole req) = .ok (row, resolved, arm) ∧
      (Justified inp req row ↔ inp.cutoff row.pool ≠ .nan) := by
  obtain ⟨p, hp⟩ := settle_of_admitted h hok hbasis
  obtain ⟨resolved, arm, hop, -, hms, -⟩ := settle_ok hp
  refine ⟨p.row, resolved, arm, hop.resolves, fun hj hnan => ?_, fun hnum => ?_⟩
  · obtain ⟨b, hb⟩ := exists_mem_of_ne_nil _ hms.nonempty
    obtain ⟨used, -, hlt⟩ := hj.below b hb
    rw [hnan, F64.not_lt_nan] at hlt
    cases hlt
  refine ⟨subscribed_of_checkProfile hop.profile, class_of_checkPool hop.pool, hop.role,
    offered_of_eligible (eligible_of_resolve hop.resolves), fun b hb => ?_, fun w hw => ?_⟩
  · obtain ⟨q, hq⟩ := used_of_valid (valid_of_mem_gating hb)
    have hn := hms.below b hb
    rw [exhaustedAt, hq] at hn
    exact ⟨.num q, hq, (F64.lt_iff (by simp) hnum).mpr hn⟩
  · rcases hw.2 with hfa | href
    · exact hms.entered hfa w hw.1
    · by_contra hmis
      exact missingWindowRefusal_of_mem (mem_missingWindows.mpr ⟨hw.1, hmis⟩) href
        hms.complete

/-! ### A cutoff that is no number -/

/-- The bounds check of a configured cutoff. -/
def acceptsCutoff (cutoff : F64) : Bool := !(cutoff.lt (.num 0) || (F64.num 100).lt cutoff)

def plainRendering : Rendering := ⟨fun _ => "", fun _ => "", fun _ => "", fun _ _ => none⟩

def sampleRow : AdmissionRow :=
  { profile := "opus", effort := "", modelID := "model", pool := "claude", grade := .a,
    gate := .default }

/-- One rung, both of whose windows are used up to the given share. -/
def sampleInputs (cutoff : F64) (used : ℚ) : AdmissionInputs where
  now := 0
  catalog := ⟨[sampleRow], by decide⟩
  policy := { pools := [("claude", { cutoff })] }
  readings := [("claude",
    { buckets := ["5h", "7d"].map fun window =>
        { window, used := some (.num used), scopeKind := "account" } })]
  rendering := plainRendering

/-- **A cutoff of NaN never refuses**: it passes its bounds check, and a rung whose windows are used
up is admitted. -/
theorem nan_cutoff_admits :
    acceptsCutoff .nan = true ∧
    ((sampleInputs .nan 100).judge 1 { profile := "opus" }).map (fun v => (v.ok, v.basis)) =
      some (true, "") ∧
    ¬ Justified (sampleInputs .nan 100) { profile := "opus" } sampleRow := by
  refine ⟨by decide, by decide +kernel, fun hj => ?_⟩
  have hgat : (sampleInputs .nan 100).gating sampleRow ≠ [] := by decide +kernel
  have hc : (sampleInputs .nan 100).cutoff "claude" = .nan := by decide +kernel
  obtain ⟨b, hb⟩ := exists_mem_of_ne_nil _ hgat
  obtain ⟨used, -, hlt⟩ := hj.below b hb
  rw [show sampleRow.pool = "claude" from rfl, hc, F64.not_lt_nan] at hlt
  cases hlt

/-- With the default cutoff and half of the quota left the admission is justified. -/
theorem admission_justified_iff_default :
    ∃ row, row.pool = "claude" ∧
      Justified (sampleInputs (.num 0) 50) { profile := "opus" } row := by
  have hj : ((sampleInputs (.num 0) 50).judge 1 { profile := "opus" }).map
      (fun v => (v.ok, v.basis)) = some (true, "") := by decide +kernel
  obtain ⟨v, hv, hfac⟩ := Option.map_eq_some_iff.mp hj
  obtain ⟨hok, hb⟩ := Prod.mk.inj hfac
  obtain ⟨row, resolved, arm, hres, hi⟩ :=
    admission_justified_iff hv hok (by rw [hb]; decide)
  have hmem := (offered_of_eligible (eligible_of_resolve hres)).1
  obtain rfl : row = sampleRow := mem_singleton.mp hmem
  exact ⟨sampleRow, rfl, hi.mpr (by decide +kernel)⟩

/-! ## Less use -/

/-- The second window is the first, or the first with a use that is lower and still valid. -/
def LowerUse (b b' : AdmissionBucket) : Prop :=
  b' = b ∨ ∃ used used', b.used = some used ∧ used'.le used = true ∧
    admissionValidPct (some used) = true ∧ admissionValidPct (some used') = true ∧
    b' = { b with used := some used' }

/-- The readings of an account differ in use alone. -/
structure LessUsed (r r' : AdmissionReading) : Prop where
  plan : r'.plan = r.plan
  fp : r'.fp = r.fp
  free : r'.free = r.free
  buckets : List.Forall₂ LowerUse r.buckets r'.buckets

def LessUsedIn : List (String × AdmissionReading) → List (String × AdmissionReading) → Prop :=
  List.Forall₂ fun e e' => e'.1 = e.1 ∧ LessUsed e.2 e'.2

theorem LowerUse.refl (b : AdmissionBucket) : LowerUse b b := .inl rfl

theorem LessUsed.refl (r : AdmissionReading) : LessUsed r r :=
  ⟨rfl, rfl, rfl, List.forall₂_same.mpr fun b _ => .refl b⟩

namespace LowerUse

variable {b b' : AdmissionBucket}

theorem window (h : LowerUse b b') : b'.window = b.window := by
  obtain rfl | ⟨_, _, -, -, -, -, rfl⟩ := h <;> rfl

theorem reset (h : LowerUse b b') : b'.reset = b.reset := by
  obtain rfl | ⟨_, _, -, -, -, -, rfl⟩ := h <;> rfl

theorem valid (h : LowerUse b b') : admissionValidPct b'.used = admissionValidPct b.used := by
  obtain rfl | ⟨_, _, hu, -, hv, hv', rfl⟩ := h
  · rfl
  · rw [hu, hv, hv']

theorem exhausted (h : LowerUse b b') {cutoff : F64} (hex : exhaustedAt cutoff b' = true) :
    exhaustedAt cutoff b = true := by
  obtain rfl | ⟨used, used', hu, hle, -, -, rfl⟩ := h
  · exact hex
  · rw [exhaustedAt, hu, Option.any_some]
    exact F64.le_trans hex hle

end LowerUse

theorem LessUsed.matching {r r' : AdmissionReading} (h : LessUsed r r') (group : String) :
    List.Forall₂ LowerUse (matchingBuckets r.buckets group) (matchingBuckets r'.buckets group) := by
  refine rel_filter ?_ h.buckets
  intro b b' hb
  have hsc : b'.scopeKind = b.scopeKind ∧ b'.scopeName = b.scopeName := by
    obtain rfl | ⟨_, _, -, -, -, -, rfl⟩ := hb <;> exact ⟨rfl, rfl⟩
  dsimp only
  rw [hb.valid, hsc.1, hsc.2]

section LessUse

variable {readings' : List (String × AdmissionReading)}

/-- The pools that have a reading are the same. -/
theorem LessUsedIn.get {readings : List (String × AdmissionReading)}
    (h : LessUsedIn readings readings') (pool : String) :
    (Assoc.get readings pool = none ∧ Assoc.get readings' pool = none) ∨
      ∃ r r', Assoc.get readings pool = some r ∧ Assoc.get readings' pool = some r' ∧
        LessUsed r r' := by
  induction h with
  | nil => exact .inl ⟨rfl, rfl⟩
  | @cons e e' _ _ hh _ ih =>
    obtain ⟨k, r⟩ := e
    obtain ⟨k', r'⟩ := e'
    obtain ⟨rfl, hl⟩ : k' = k ∧ LessUsed r r' := hh
    by_cases hk : k' = pool
    · exact .inr ⟨r, r', by simp [Assoc.get, hk], by simp [Assoc.get, hk], hl⟩
    · rw [Assoc.get_cons_of_ne _ hk, Assoc.get_cons_of_ne _ hk]
      exact ih

/-- The same inputs with other readings. -/
def AdmissionInputs.withReadings (inp : AdmissionInputs)
    (readings : List (String × AdmissionReading)) : AdmissionInputs :=
  { inp with readings }

theorem LessUsedIn.reading (h : LessUsedIn inp.readings readings') (pool : String) :
    LessUsed (inp.reading pool) ((inp.withReadings readings').reading pool) := by
  unfold AdmissionInputs.reading AdmissionInputs.withReadings
  rcases h.get pool with ⟨hn, hn'⟩ | ⟨r, r', hs, hs', hl⟩
  · rw [hn, hn']
    exact .refl _
  · rw [hs, hs']
    exact hl

theorem LessUsedIn.fallback (h : LessUsedIn inp.readings readings') (row : AdmissionRow) :
    (inp.withReadings readings').fallback row = inp.fallback row := by
  have hno : (Assoc.get readings' row.pool).isNone = (Assoc.get inp.readings row.pool).isNone := by
    rcases h.get row.pool with ⟨hn, hn'⟩ | ⟨r, r', hs, hs', -⟩
    · rw [hn, hn']
    · rw [hs, hs']
      rfl
  have hl := ((h.reading row.pool).matching row.group).length_eq
  have hnil : matchingBuckets ((inp.withReadings readings').reading row.pool).buckets row.group =
      [] ↔ matchingBuckets (inp.reading row.pool).buckets row.group = [] := by
    rw [← length_eq_zero_iff, ← length_eq_zero_iff, hl]
  unfold AdmissionInputs.fallback
  rw [show (inp.withReadings readings').readings = readings' from rfl, hno, decide_eq_decide.mpr
    hnil]

theorem LessUsedIn.gating (h : LessUsedIn inp.readings readings') (row : AdmissionRow) :
    List.Forall₂ LowerUse (inp.gating row) ((inp.withReadings readings').gating row) := by
  unfold AdmissionInputs.gating
  rw [h.fallback row]
  split
  · exact List.forall₂_same.mpr fun b _ => .refl b
  · exact (h.reading row.pool).matching row.group

theorem windows_of_lowerUse (h : List.Forall₂ LowerUse bs bs') :
    bs'.map (·.window) = bs.map (·.window) := by
  induction h with
  | nil => rfl
  | cons hh _ ih => rw [map_cons, map_cons, hh.window, ih]

theorem missingWindows_congr {required : List String} (h : bs'.map (·.window) = bs.map (·.window)) :
    missingWindows required bs' = missingWindows required bs := by
  have ha : ∀ (w : String) (l : List AdmissionBucket),
      (l.any fun b => b.window = w) = (l.map (·.window)).any fun x => x = w := by
    intro w l
    rw [any_map]
    rfl
  unfold missingWindows
  simp only [ha, h]

/-- **Less use keeps a rung measured.** -/
theorem LessUsedIn.measured (h : LessUsedIn inp.readings readings')
    (hm : inp.Measured row) : (inp.withReadings readings').Measured row := by
  have hp := (h.reading row.pool).plan
  have hreq : (inp.withReadings readings').required row = inp.required row := by
    rw [required, required, hp, h.fallback row]
  have hwin := windows_of_lowerUse (h.gating row)
  refine ⟨fun b' hb' hex => ?_, fun hfa w hw => ?_, fun hn => ?_, fun b' hb' => ?_, ?_⟩
  · obtain ⟨b, hb, hl⟩ := exists_of_forall₂ ((h.reading row.pool).matching row.group) hb'
    have hrst := hm.fresh b hb (hl.exhausted hex)
    rw [wasReset] at hrst ⊢
    rwa [hl.reset]
  · rw [h.fallback row] at hfa
    rw [hreq] at hw
    obtain ⟨b, hb, hbw⟩ := hm.entered hfa w hw
    have hmem : w ∈ ((inp.withReadings readings').gating row).map (·.window) := by
      rw [hwin]
      exact mem_map.mpr ⟨b, hb, hbw⟩
    exact mem_map.mp hmem
  · rw [hn] at hwin
    exact hm.nonempty (map_eq_nil_iff.mp hwin.symm)
  · obtain ⟨b, hb, hl⟩ := exists_of_forall₂ (h.gating row) hb'
    by_contra hex
    have hblw := hm.below b hb
    rw [hl.exhausted (not_eq_false _ ▸ hex)] at hblw
    cases hblw
  · rw [hreq, missingWindows_congr hwin, hp]
    exact hm.complete

theorem LessUsedIn.opens (h : LessUsedIn inp.readings readings')
    (ho : Opens inp req allowUnrated row resolved arm) :
    Opens (inp.withReadings readings') req allowUnrated row resolved arm := by
  refine ⟨ho.profile, ho.marker, ho.resolves, ho.role, ho.placement, ?_⟩
  have hfp : (Assoc.get readings' row.pool).map (·.fp) =
      (Assoc.get inp.readings row.pool).map (·.fp) := by
    rcases h.get row.pool with ⟨hn, hn'⟩ | ⟨r, r', hs, hs', hl⟩
    · rw [hn, hn']
    · rw [hs, hs', Option.map_some, Option.map_some, hl.fp]
  have hp := ho.pool
  unfold checkPool at hp ⊢
  rw [show (inp.withReadings readings').readings = readings' from rfl, hfp]
  exact hp

/-- **Less use never refuses**: for every catalog, policy and request that resolves to a rung which
is not behind the escalation gate, what is admitted on some readings is admitted on readings with a
lower use in any of the windows. -/
theorem less_use_admits (hless : LessUsedIn inp.readings readings')
    (hgate : ∀ row resolved arm,
      resolveRow inp.catalog.rows req (admissionUnratedRole req) = .ok (row, resolved, arm) →
        row.gate ≠ .escalation)
    {fuel : ℕ} {v : AdmissionVerdict} (h : inp.judge fuel req = some v) (hok : v.ok = true) :
    ∃ v', (inp.withReadings readings').judge fuel req = some v' ∧ v'.ok = true := by
  cases fuel with
  | zero => cases h
  | succ fuel =>
    unfold judge judgeWith at h ⊢
    cases hs : inp.settle req (admissionUnratedRole req) with
    | error d =>
      rw [hs] at h
      obtain rfl := Option.some.inj h
      -- What is admitted here is free, and the free bucket is the same in both readings.
      rcases except_bind_error.mp hs with ho | ⟨o, ho, hre⟩
      · rw [refused_of_opening ho] at hok
        cases hok
      obtain ⟨hop, hd⟩ := opening_ok_iff.mp ho
      have ho' : (inp.withReadings readings').opening req (admissionUnratedRole req) =
          .ok o := opening_ok_iff.mpr ⟨hless.opens hop, hd⟩
      split at hre
      · next rung hfree =>
        have hfree' : (inp.withReadings readings').judgeFree o rung = inp.judgeFree o rung := by
          unfold judgeFree
          rw [(hless.reading o.row.pool).free]
          rfl
        have hs' : (inp.withReadings readings').settle req (admissionUnratedRole req) =
            .error d := by
          refine except_bind_error.mpr (.inr ⟨o, ho', ?_⟩)
          rw [hfree]
          dsimp only
          rw [hfree']
          exact hre
        exact ⟨d, by rw [hs'], hok⟩
      · rw [refused_of_weigh hre] at hok
        cases hok
    | ok p =>
      obtain ⟨resolved, arm, hop, hfree, hms, -⟩ := settle_ok hs
      obtain ⟨p', hp', hrow⟩ := settle_of_measured (hless.opens hop) hfree
        (hless.measured hms)
      have hne : p'.row.gate ≠ .escalation := by
        rw [hrow]
        exact hgate p.row resolved arm hop.resolves
      rw [hp']
      exact ⟨_, if_neg fun he => hne he.1, rfl⟩

end LessUse

/-- Half of the use is admitted like the whole. -/
theorem less_use_admits_half :
    ∃ v', ((sampleInputs (.num 0) 80).withReadings (sampleInputs (.num 0) 40).readings).judge 1
      { profile := "opus" } = some v' ∧ v'.ok = true := by
  have hj : ((sampleInputs (.num 0) 80).judge 1 { profile := "opus" }).map (·.ok) =
      some true := by decide +kernel
  obtain ⟨v, hv, hok⟩ := Option.map_eq_some_iff.mp hj
  have hlow : ∀ window, LowerUse { window, used := some (.num 80), scopeKind := "account" }
      { window, used := some (.num 40), scopeKind := "account" } := fun window =>
    .inr ⟨.num 80, .num 40, rfl, by decide +kernel, by decide +kernel, by decide +kernel, rfl⟩
  have hl : LessUsedIn (sampleInputs (.num 0) 80).readings (sampleInputs (.num 0) 40).readings :=
    .cons ⟨rfl, rfl, rfl, rfl, .cons (hlow "5h") (.cons (hlow "7d") .nil)⟩ .nil
  refine less_use_admits hl (fun row resolved arm hres => ?_) hv hok
  have hmem := (offered_of_eligible (eligible_of_resolve hres)).1
  obtain rfl : row = sampleRow := mem_singleton.mp hmem
  decide

end Panewire.Admission

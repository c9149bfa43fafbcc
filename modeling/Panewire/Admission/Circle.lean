import Panewire.Admission.Justified

/-!
# When the judge returns

A rung behind the escalation gate is refused while an ordinary rung of its grade would be admitted.
To ask, the judge takes each ordinary rung of the catalog as a request of its own, and it takes
**retired** rungs too. A retired rung without an effort asks for its profile without an effort, and
that may open on an escalation rung again. Profiles that lead to each other in this way are a
**circle**.

* `exists_of_not_terminates` — a request on which the judge does not return has an alternative on
  which it does not;
* `judge_terminates_iff` — the judge returns on every request, for every policy and all readings,
  exactly when the catalog has no circle in any order of its rungs;
* `circle_diverges` — a catalog of two profiles on which it never returns.
-/

namespace Panewire.Admission

open Data AdmissionInputs AdmissionRow List

variable {inp : AdmissionInputs} {req : AdmissionRequest} {allowUnrated : Bool}
  {profile role : String} {rows : List AdmissionRow} {row : AdmissionRow} {catalog : Catalog}

/-- **The judge returns.** -/
def AdmissionInputs.Terminates (inp : AdmissionInputs) (req : AdmissionRequest) : Prop :=
  ∃ fuel, (inp.judge fuel req).isSome = true

/-! ## Fuel -/

theorem anyAdmitted_mono {judge judge' : AdmissionRequest → Option AdmissionVerdict}
    (hmo : ∀ req v, judge req = some v → judge' req = some v) {reqs : List AdmissionRequest}
    {b : Bool} (h : anyAdmitted judge reqs = some b) : anyAdmitted judge' reqs = some b := by
  induction reqs with
  | nil => exact h
  | cons req reqs ih =>
    unfold anyAdmitted at h ⊢
    cases hreq : judge req with
    | none =>
      rw [hreq] at h
      cases h
    | some v =>
      rw [hreq] at h
      rw [hmo req v hreq]
      dsimp only at h ⊢
      split
      · next hok => rwa [if_pos hok] at h
      · next hok =>
        rw [if_neg hok] at h
        exact ih h

/-- More fuel changes no verdict. -/
theorem judgeWith_succ {fuel : ℕ} {v : AdmissionVerdict} :
    ∀ {req : AdmissionRequest} {allowUnrated : Bool},
      inp.judgeWith fuel req allowUnrated = some v →
        inp.judgeWith (fuel + 1) req allowUnrated = some v := by
  induction fuel generalizing v with
  | zero => exact fun h => nomatch h
  | succ fuel ih =>
    intro req allowUnrated h
    unfold judgeWith at h ⊢
    split
    · next d hs => rwa [hs] at h
    next p hs =>
    rw [hs] at h
    dsimp only at h
    split
    · next he =>
      rw [if_pos he] at h
      cases ha : anyAdmitted (fun other => inp.judgeWith fuel other (admissionUnratedRole other))
          (inp.alternatives req p.row) with
      | none =>
        rw [ha] at h
        cases h
      | some b =>
        rw [anyAdmitted_mono (fun _ _ hv => ih hv) ha]
        rwa [ha] at h
    · next he => rwa [if_neg he] at h

theorem judge_le {fuel fuel' : ℕ} (hle : fuel ≤ fuel') {v : AdmissionVerdict}
    (h : inp.judge fuel req = some v) : inp.judge fuel' req = some v := by
  induction hle with
  | refl => exact h
  | step _ ih => exact judgeWith_succ ih

/-- A list of requests is answered if each of them is. -/
theorem exists_anyAdmitted {reqs : List AdmissionRequest} (h : ∀ r ∈ reqs, inp.Terminates r) :
    ∃ fuel, (anyAdmitted (inp.judge fuel) reqs).isSome = true := by
  induction reqs with
  | nil => exact ⟨0, rfl⟩
  | cons r reqs ih =>
    obtain ⟨fuel, hfu⟩ := h r mem_cons_self
    obtain ⟨fuel', hfu'⟩ := ih fun r hr => h r (mem_cons_of_mem _ hr)
    obtain ⟨v, hv⟩ := Option.isSome_iff_exists.mp hfu
    obtain ⟨b, hb⟩ := Option.isSome_iff_exists.mp hfu'
    refine ⟨max fuel fuel', ?_⟩
    unfold anyAdmitted
    rw [judge_le (Nat.le_max_left _ _) hv]
    dsimp only
    split
    · rfl
    · rw [anyAdmitted_mono (fun _ _ hv => judge_le (Nat.le_max_right fuel fuel') hv) hb]
      rfl

/-- **A request on which the judge does not return** asks without an effort, resolves to an
escalation rung, and has an alternative on which the judge does not return. -/
theorem exists_of_not_terminates (h : ¬ inp.Terminates req) :
    req.effort = "" ∧ req.operatorRequest = "" ∧
      ∃ p, inp.settle req (admissionUnratedRole req) = .ok p ∧ p.row.gate = .escalation ∧
        ∃ r ∈ inp.alternatives req p.row, ¬ inp.Terminates r := by
  cases hs : inp.settle req (admissionUnratedRole req) with
  | error d =>
    refine absurd ⟨1, ?_⟩ h
    unfold judge judgeWith
    rw [hs]
    rfl
  | ok p =>
    by_cases he : p.row.gate = .escalation ∧ req.effort = "" ∧ req.operatorRequest = ""
    · refine ⟨he.2.1, he.2.2, p, rfl, he.1, ?_⟩
      by_contra ha
      simp only [not_exists, not_and, not_not] at ha
      obtain ⟨fuel, hfu⟩ := exists_anyAdmitted ha
      obtain ⟨b, hb⟩ := Option.isSome_iff_exists.mp hfu
      refine h ⟨fuel + 1, ?_⟩
      have hany : anyAdmitted (fun other => inp.judgeWith fuel other (admissionUnratedRole other))
          (inp.alternatives req p.row) = some b := hb
      unfold judge judgeWith
      rw [hs]
      dsimp only
      rw [if_pos he, hany]
      cases b <;> rfl
    · refine absurd ⟨1, ?_⟩ h
      unfold judge judgeWith
      rw [hs]
      dsimp only
      rw [if_neg he]
      rfl

/-! ## Circles -/

/-- A request without an effort. -/
def bare (profile role : String) : AdmissionRequest := { profile, role }

/-- The rung that a profile opens on when no effort is asked for. -/
def opensOn (rows : List AdmissionRow) (allowUnrated : Bool) (profile : String) :
    Option AdmissionRow :=
  match resolveRow rows (bare profile "") allowUnrated with
  | .ok (row, _, _) => some row
  | .error _ => none

/-- An ordinary rung with a grade and without an effort. -/
def AdmissionRow.plain (row : AdmissionRow) : Bool :=
  row.gate = .default && row.placed && row.effort = ""

/-- **Profiles that lead to each other**: each of them, asked for without an effort, opens on an
escalation rung whose grade is that of a plain rung of another one. -/
structure Circle (rows : List AdmissionRow) (allowUnrated : Bool) (profiles : Set String) :
    Prop where
  nonempty : profiles.Nonempty
  /-- none of them is a removed seat or runs on the free bucket -/
  seats : ∀ profile ∈ profiles, Go.contains profile "astra" = false ∧
    Assoc.get devinFreeRungs profile = none
  leads : ∀ profile ∈ profiles, ∃ rung, opensOn rows allowUnrated profile = some rung ∧
    rung.gate = .escalation ∧ ∃ other ∈ rows, other.profile ∈ profiles ∧ other.profile ≠ profile ∧
      other.grade = rung.grade ∧ other.plain = true

def Circular (rows : List AdmissionRow) : Prop :=
  ∃ allowUnrated profiles, Circle rows allowUnrated profiles

theorem resolveRow_bare (rows : List AdmissionRow) (profile role : String) (allowUnrated : Bool) :
    resolveRow rows (bare profile role) allowUnrated =
      resolveRow rows (bare profile "") allowUnrated :=
  rfl

theorem opensOn_eq_some :
    opensOn rows allowUnrated profile = some row ↔ ∃ resolved arm,
      resolveRow rows (bare profile role) allowUnrated = .ok (row, resolved, arm) := by
  rw [resolveRow_bare, opensOn]
  split
  · next row' resolved arm hres =>
    simp [hres]
  · next hres => simp [hres]

/-- A removed seat is denied to a request without a purpose. -/
theorem not_astra_of_roleCheck (h : admissionRoleCheck (bare profile role) row = none) :
    Go.contains profile "astra" = false := by
  unfold admissionRoleCheck at h
  simp only [if_some_eq_none] at h
  dsimp only [bare] at h
  obtain ⟨-, -, -, -, ha, hast, -⟩ := h
  by_contra hcon
  have hc : profile = "codex-astra" := by
    by_contra hne
    exact ha ⟨by simpa using hcon, hne⟩
  exact hast ⟨hc, by decide, by decide, by decide, by decide⟩

/-- The profiles on which the judge does not return for a role. -/
def stuck (inp : AdmissionInputs) (role : String) : Set String :=
  fun profile => ¬ inp.Terminates (bare profile role)

/-- An alternative on which the judge does not return is a plain rung. -/
theorem plain_of_alternative {r : AdmissionRequest} (hr : r ∈ inp.alternatives req row)
    (hs : ¬ inp.Terminates r) :
    ∃ other ∈ inp.catalog.rows, other.profile ∈ stuck inp req.role ∧ other.profile ≠ req.profile ∧
      other.grade = row.grade ∧ other.plain = true := by
  obtain ⟨other, ho, rfl⟩ := mem_map.mp hr
  obtain ⟨hmem, hfil⟩ := mem_filter.mp ho
  simp only [Bool.and_eq_true, decide_eq_true_eq] at hfil
  have he : other.effort = "" := (exists_of_not_terminates hs).1
  refine ⟨other, hmem, ?_, hfil.1.1.1, hfil.1.1.2, ?_⟩
  · rw [he] at hs
    exact hs
  · simp [plain, hfil.1.2, hfil.2, he]

/-- **Where the judge does not return there is a circle.** -/
theorem circle_of_stuck (hne : (stuck inp role).Nonempty) :
    Circle inp.catalog.rows (admissionUnratedRole (bare "" role)) (stuck inp role) := by
  have hs : ∀ profile ∈ stuck inp role, ∃ p,
      inp.settle (bare profile role) (admissionUnratedRole (bare "" role)) = .ok p ∧
      p.row.gate = .escalation ∧
      ∃ r ∈ inp.alternatives (bare profile role) p.row, ¬ inp.Terminates r :=
    fun profile hpr => (exists_of_not_terminates hpr).2.2
  refine ⟨hne, fun profile hpr => ?_, fun profile hpr => ?_⟩
  · obtain ⟨p, hp, -⟩ := hs profile hpr
    obtain ⟨resolved, arm, hop, hfree, -⟩ := settle_ok hp
    exact ⟨not_astra_of_roleCheck hop.role, hfree⟩
  · obtain ⟨p, hp, hgate, r, hr, hstk⟩ := hs profile hpr
    obtain ⟨resolved, arm, hop, -⟩ := settle_ok hp
    exact ⟨p.row, opensOn_eq_some.mpr ⟨resolved, arm, hop.resolves⟩, hgate,
      plain_of_alternative hr hstk⟩

theorem circular_of_not_terminates (h : ¬ inp.Terminates req) : Circular inp.catalog.rows := by
  obtain ⟨-, -, p, -, -, r, hr, hs⟩ := exists_of_not_terminates h
  obtain ⟨other, -, ho, -⟩ := plain_of_alternative hr hs
  exact ⟨_, _, circle_of_stuck ⟨other.profile, ho⟩⟩

/-! ## Going round

A circle is enough for the judge not to return: no policy objects, every window is measured at
nothing, and the plain rungs of the circle come first in the catalog. -/

/-- The windows that any pool may require. -/
def everyWindow : List AdmissionBucket :=
  ["5h", "7d", "30d", "credit"].map fun window =>
    { window, used := some (.num 0), scopeKind := "account" }

/-- Inputs that object to nothing. -/
def openInputs (catalog : Catalog) : AdmissionInputs where
  now := 0
  catalog
  policy := { pools := catalog.rows.map fun r => (r.pool, { fusionBillingFP := "account" }) }
  readings := catalog.rows.map fun r => (r.pool, { fp := "account", buckets := everyWindow })
  rendering := ⟨fun _ => "", fun _ => "", fun _ => "", fun _ _ => none⟩

section Open

variable {catalog : Catalog} {row : AdmissionRow}

theorem setting_open (hrow : row ∈ catalog.rows) :
    (openInputs catalog).policy.setting row.pool = { fusionBillingFP := "account" } := by
  unfold AdmissionPolicy.setting
  rw [show (openInputs catalog).policy.pools =
    catalog.rows.map fun r => (r.pool, { fusionBillingFP := "account" }) from rfl,
    Assoc.get_map_key (fun r : AdmissionRow => r.pool) (fun _ => _) hrow]
  rfl

theorem reading_open (hrow : row ∈ catalog.rows) :
    Assoc.get (openInputs catalog).readings row.pool =
      some { fp := "account", buckets := everyWindow } :=
  Assoc.get_map_key (fun r : AdmissionRow => r.pool) (fun _ => _) hrow

theorem subscribed_open (profile pool : String) :
    (openInputs catalog).policy.subscribed profile pool = true := by
  have hs : ((openInputs catalog).policy.setting pool).subscribed = none := by
    unfold AdmissionPolicy.setting
    cases hget : Assoc.get (openInputs catalog).policy.pools pool with
    | none => rfl
    | some setting =>
      obtain ⟨r, -, hr⟩ := mem_map.mp (Assoc.mem_of_get hget)
      rw [← (Prod.mk.inj hr).2]
      rfl
  unfold AdmissionPolicy.subscribed
  rw [hs]
  rfl

theorem gating_open (hrow : row ∈ catalog.rows) :
    (openInputs catalog).gating row = everyWindow ∧ (openInputs catalog).fallback row = false := by
  have hrea : (openInputs catalog).reading row.pool =
      { fp := "account", buckets := everyWindow } := by
    rw [reading, reading_open hrow]
    rfl
  have hmat : matchingBuckets everyWindow row.group = everyWindow := by
    refine filter_eq_self.mpr fun b hb => ?_
    obtain ⟨window, -, rfl⟩ := mem_map.mp hb
    have hv : admissionValidPct (some (.num 0)) = true := by decide +kernel
    simp [hv]
  have hfa : (openInputs catalog).fallback row = false := by
    unfold fallback
    rw [reading_open hrow, hrea, hmat]
    decide
  refine ⟨?_, hfa⟩
  unfold gating
  rw [hfa, hrea]
  exact hmat

theorem mem_everyWindow_of_required {pool plan w : String} {manual : Bool}
    (h : w ∈ requiredWindows pool plan manual) : ∃ b ∈ everyWindow, b.window = w := by
  have hl : requiredWindows pool plan manual ∈
      [[], ["credit"], ["7d"], ["30d"], ["5h", "7d"], ["5h", "7d", "30d"]] := by
    unfold requiredWindows
    repeat' split
    all_goals decide
  have hw : ∀ l ∈ [[], ["credit"], ["7d"], ["30d"], ["5h", "7d"], ["5h", "7d", "30d"]],
      ∀ w ∈ l, w ∈ ["5h", "7d", "30d", "credit"] := by decide
  exact ⟨_, mem_map_of_mem (hw _ hl w h), rfl⟩

theorem measured_open (hrow : row ∈ catalog.rows) : (openInputs catalog).Measured row := by
  obtain ⟨hgat, hfa⟩ := gating_open hrow
  have hmat : matchingBuckets ((openInputs catalog).reading row.pool).buckets row.group =
      everyWindow := by
    rw [gating, hfa] at hgat
    exact hgat
  have hc : (openInputs catalog).cutoff row.pool = .num 99 := by
    unfold cutoff AdmissionPolicy.pool
    rw [setting_open hrow]
    rfl
  have hblw : ∀ b ∈ everyWindow, exhaustedAt (.num 99) b = false := by
    decide +kernel
  refine ⟨fun b hb hex => ?_, fun hf => ?_, ?_, fun b hb => ?_, ?_⟩
  · rw [hmat] at hb
    rw [hc, hblw b hb] at hex
    cases hex
  · rw [hfa] at hf
    cases hf
  · rw [hgat]
    decide
  · rw [hgat] at hb
    rw [hc]
    exact hblw b hb
  · have hmis : missingWindows ((openInputs catalog).required row)
        ((openInputs catalog).gating row) = [] := by
      rw [hgat]
      refine eq_nil_iff_forall_not_mem.mpr fun w hw => ?_
      obtain ⟨hreq, hn⟩ := mem_missingWindows.mp hw
      exact hn (mem_everyWindow_of_required hreq)
    rw [hmis]
    rfl

/-- The roles that a circle is walked in. -/
def circleRole (allowUnrated : Bool) : String := if allowUnrated then "lead" else ""

theorem admissionUnratedRole_circle (profile : String) :
    admissionUnratedRole (bare profile (circleRole allowUnrated)) = allowUnrated := by
  change admissionUnratedRole (bare "" (circleRole allowUnrated)) = allowUnrated
  cases allowUnrated <;> decide

theorem roleCheck_circle (hcr : admissionCredit profile = false)
    (ha : Go.contains profile "astra" = false) (row : AdmissionRow) :
    admissionRoleCheck (bare profile (circleRole allowUnrated)) row = none := by
  have hrole : ∀ role ∈ ["worker", "captain", "builder", "tester", "reviewer"],
      admissionNormalize (circleRole allowUnrated) ≠ role := by
    cases allowUnrated <;> decide
  have hc : profile ≠ "cmd-dsflash41" := by
    rintro rfl
    exact absurd hcr (by decide)
  have hcod : profile ≠ "codex-astra" := by
    rintro rfl
    exact absurd ha (by decide)
  simp only [forall_mem_cons] at hrole
  unfold admissionRoleCheck
  simp only [if_some_eq_none]
  simp [bare, hcr, hc, hcod, ha, hrole]

theorem credit_of_resolve {result : AdmissionRow × String × String}
    (h : resolveRow rows (bare profile "") allowUnrated = .ok result) :
    admissionCredit profile = false := by
  unfold resolveRow at h
  split at h
  · cases h
  next hi =>
  unfold checkIdentity at hi
  simp only [if_some_eq_none] at hi
  have hnil : admissionNormalize (bare profile "").effort = "" := by
    change admissionNormalize "" = ""
    decide
  have hn := hi.1
  rw [hnil] at hn
  simpa [bare] using hn

/-- Nothing objects to a profile that opens on an escalation rung. -/
theorem settle_open (ha : Go.contains profile "astra" = false)
    (hfree : Assoc.get devinFreeRungs profile = none)
    (hop : opensOn catalog.rows allowUnrated profile = some row) (hgate : row.gate = .escalation) :
    ∃ p, (openInputs catalog).settle (bare profile (circleRole allowUnrated)) allowUnrated = .ok p ∧
      p.row = row := by
  obtain ⟨resolved, arm, hres⟩ := opensOn_eq_some.mp hop
  have hrow := (offered_of_eligible (eligible_of_resolve hres)).1
  have hcr := credit_of_resolve hres
  have ho : Opens (openInputs catalog) (bare profile (circleRole allowUnrated)) allowUnrated
      row resolved arm := by
    refine ⟨?_, ?_, hres, roleCheck_circle hcr ha row, ?_, ?_⟩
    · unfold checkProfile
      dsimp only
      split
      · next e hs =>
        split at hs
        · cases hs
        · rw [roleCheck_circle hcr ha] at hs
          cases hs
      · have hreq : checkRequest (bare "" "") = none := by decide
        rw [subscribed_open]
        exact hreq
    · simp [checkMarker, bare]
    · simp [checkPlacement, bare, hgate]
    · have hc : ((openInputs catalog).policy.pool row.pool (openInputs catalog).now) =
          ⟨.spend, .num 99, "account", false⟩ := by
        unfold AdmissionPolicy.pool
        rw [setting_open hrow]
        rfl
      unfold checkPool
      rw [hc, reading_open hrow]
      simp
  exact settle_of_measured ho hfree (measured_open hrow)

end Open

/-! ### The rung that a profile opens on -/

section Opening

variable {rows : List AdmissionRow} {profile : String} {rung : AdmissionRow}

/-- It has the effort of the best rung on offer. -/
theorem effort_of_opensOn (h : opensOn rows allowUnrated profile = some rung) :
    rung ∈ eligibleRows rows (bare profile "") allowUnrated ∧
      rung.effort = admissionDefaultEffort (eligibleRows rows (bare profile "") allowUnrated) := by
  obtain ⟨resolved, arm, hres⟩ : ∃ resolved arm,
      resolveRow rows (bare profile "") allowUnrated = .ok (rung, resolved, arm) :=
    opensOn_eq_some.mp h
  refine ⟨eligible_of_resolve hres, ?_⟩
  have hreq : requestedEffort rows (bare profile "") = "" := by
    have hn : admissionNormalize (bare profile "").effort = "" := by
      change admissionNormalize "" = ""
      decide
    have ha : Go.hasPrefix (bare profile "").e6Arm ((bare profile "").profile ++ "@") = false := by
      simp [bare, Go.hasPrefix]
    unfold requestedEffort
    simp [hn, ha]
  rcases (resolveRow_ok hres).2 with he | he
  · rwa [hreq] at he
  · exact he

/-- **A profile with an ordinary rung on offer** does not open on an escalation rung. -/
theorem retired_of_opensOn (hu : (rows.map fun r => (r.profile, r.effort)).Nodup)
    (h : opensOn rows allowUnrated profile = some rung) (hgate : rung.gate = .escalation)
    {other : AdmissionRow} (ho : other ∈ rows) (hp : other.profile = profile)
    (hpl : other.plain = true) : other.retired = true := by
  by_contra hret
  simp only [plain, Bool.and_eq_true, decide_eq_true_eq] at hpl
  obtain ⟨⟨hdef, hpla⟩, -⟩ := hpl
  obtain ⟨hru, he⟩ := effort_of_opensOn h
  have hgra : other.grade ≠ .unrated := by simpa [placed] using hpla
  have hel : other ∈ (eligibleRows rows (bare profile "") allowUnrated).filter
      ordinary := by
    refine mem_filter.mpr ⟨mem_filter.mpr ⟨mem_filter.mpr ⟨ho, ?_⟩, ?_⟩, ?_⟩
    · simpa [bare, hp] using hret
    · simp [admissionMarkerRequired, hgra, hpla]
    · simp [ordinary, hdef, hpla]
  have hne := ne_nil_of_mem hel
  -- The best rung is then an ordinary one, and the rung that opens has its effort.
  rw [admissionDefaultEffort, if_neg hne] at he
  cases hs : ((eligibleRows rows (bare profile "") allowUnrated).filter
      ordinary).insertionSort rungBefore with
  | nil =>
    have hmem := (mem_insertionSort (r := rungBefore)).mpr hel
    rw [hs] at hmem
    cases hmem
  | cons best rest =>
    rw [hs] at he
    have hb : best ∈ (eligibleRows rows (bare profile "") allowUnrated).filter
        ordinary := by
      refine (mem_insertionSort (r := rungBefore)).mp ?_
      rw [hs]
      exact mem_cons_self
    obtain ⟨hb, hord⟩ := mem_filter.mp hb
    obtain ⟨hmem, hp', -⟩ := offered_of_eligible hru
    obtain ⟨hmem', hp'', -⟩ := offered_of_eligible hb
    have hsame : rung = best :=
      inj_on_of_nodup_map hu hmem hmem' (by
        rw [hp', hp'', he]
        rfl)
    rw [hsame] at hgate
    simp [ordinary, hgate] at hord

theorem opensOn_congr {rows' : List AdmissionRow} (hp : rows'.Perm rows)
    (hro : profileRows rows' profile = profileRows rows profile) :
    opensOn rows' allowUnrated profile = opensOn rows allowUnrated profile := by
  have ho : profileRows rows' (bare profile "").profile =
      profileRows rows (bare profile "").profile := hro
  have hi : ∀ requested, checkIdentity rows' (bare profile "").profile requested =
      checkIdentity rows (bare profile "").profile requested := by
    intro requested
    unfold checkIdentity
    simp only [ho, hp.any_eq]
  have hreq : requestedEffort rows' (bare profile "") =
      requestedEffort rows (bare profile "") := by
    unfold requestedEffort
    simp only [ho]
  have hel : eligibleRows rows' (bare profile "") allowUnrated =
      eligibleRows rows (bare profile "") allowUnrated := by
    unfold eligibleRows
    rw [ho]
  have hres : resolveRow rows' (bare profile "") allowUnrated =
      resolveRow rows (bare profile "") allowUnrated := by
    unfold resolveRow
    simp only [hi, hreq, hel, ho, hp.any_eq]
  rw [opensOn, opensOn, hres]

end Opening

/-! ### The plain rungs first -/

section Reorder

open Classical

variable {rows : List AdmissionRow} {profiles : Set String}

/-- A plain rung of the circle. -/
def Leading (profiles : Set String) (row : AdmissionRow) : Prop :=
  row.profile ∈ profiles ∧ row.plain = true

/-- The catalog with the plain rungs of the circle in front. -/
noncomputable def frontRows (profiles : Set String) (rows : List AdmissionRow) :
    List AdmissionRow :=
  rows.filter (fun r => decide (Leading profiles r)) ++
    rows.filter (fun r => !decide (Leading profiles r))

theorem frontRows_perm (profiles : Set String) (rows : List AdmissionRow) :
    (frontRows profiles rows).Perm rows :=
  filter_append_perm _ rows

theorem profileRows_frontRows
    (hret : ∀ r ∈ rows, r.profile = profile → r.plain = true → r.retired = true) :
    profileRows (frontRows profiles rows) profile = profileRows rows profile := by
  unfold profileRows frontRows
  rw [filter_append, filter_filter, filter_filter]
  have hfro : rows.filter (fun r => (decide (r.profile = profile) && !r.retired) &&
      decide (Leading profiles r)) = [] := by
    refine filter_eq_nil_iff.mpr fun r hr hk => ?_
    simp only [Bool.and_eq_true, decide_eq_true_eq, Bool.not_eq_true'] at hk
    rw [hret r hr hk.1.1 hk.2.2] at hk
    cases hk.1.2
  rw [hfro, nil_append]
  refine filter_congr fun r hr => ?_
  by_cases hk : r.profile = profile ∧ r.retired = false
  · have hn : ¬ Leading profiles r := fun hl => by
      rw [hret r hr hk.1 hl.2] at hk
      cases hk.2
    simp [hk.1, hk.2, hn]
  · rcases not_and_or.mp hk with hp | hr
    · simp [hp]
    · simp [hr]

/-- The first alternative of a profile is then a plain rung of the circle. -/
theorem first_alternative {rung : AdmissionRow} (hro : catalog.rows = frontRows profiles rows)
    (h : ∃ other ∈ rows, other.profile ∈ profiles ∧ other.profile ≠ profile ∧
      other.grade = rung.grade ∧ other.plain = true) :
    ∃ next ∈ profiles, ∃ rest,
      (openInputs catalog).alternatives (bare profile role) rung = bare next role :: rest := by
  obtain ⟨other, ho, hin, hne, hgr, hpl⟩ := h
  unfold alternatives
  rw [show (openInputs catalog).catalog.rows = frontRows profiles rows from hro, frontRows,
    filter_append]
  obtain ⟨front, hfr⟩ : ∃ front, front = (rows.filter fun r => decide (Leading profiles r)).filter
      fun r => r.profile ≠ (bare profile role).profile && r.grade = rung.grade &&
        r.gate = .default && r.placed := ⟨_, rfl⟩
  rw [← hfr]
  cases front with
  | nil =>
    have hpl' := hpl
    simp only [plain, Bool.and_eq_true, decide_eq_true_eq] at hpl'
    have hl : Leading profiles other := ⟨hin, hpl⟩
    have hmem : other ∈ [] := hfr ▸ mem_filter.mpr ⟨mem_filter.mpr ⟨ho, decide_eq_true hl⟩,
      by simp [bare, hne, hgr, hpl'.1.1, hpl'.1.2]⟩
    cases hmem
  | cons next rest =>
    have hmem := hfr ▸ mem_cons_self (a := next) (l := rest)
    have hl : Leading profiles next :=
      of_decide_eq_true (mem_filter.mp (mem_filter.mp hmem).1).2
    have he : next.effort = "" := by
      have hn := hl.2
      simp only [plain, Bool.and_eq_true, decide_eq_true_eq] at hn
      exact hn.2
    rw [cons_append, map_cons, he]
    exact ⟨next.profile, hl.1, _, rfl⟩

end Reorder

/-- **A circle is never left**: if every profile of it meets another one of it as its first
alternative, the judge does not return. -/
theorem judge_circle {profiles : Set String} (hc : Circle catalog.rows allowUnrated profiles)
    (hfst : ∀ profile ∈ profiles, ∀ rung, opensOn catalog.rows allowUnrated profile = some rung →
      ∃ next ∈ profiles, ∃ rest, (openInputs catalog).alternatives
        (bare profile (circleRole allowUnrated)) rung =
          bare next (circleRole allowUnrated) :: rest) :
    ∀ fuel, ∀ profile ∈ profiles,
      (openInputs catalog).judge fuel (bare profile (circleRole allowUnrated)) = none := by
  intro fuel
  induction fuel with
  | zero => exact fun _ _ => rfl
  | succ fuel ih =>
    intro profile hpr
    obtain ⟨rung, hop, hgate, -⟩ := hc.leads profile hpr
    obtain ⟨hast, hfree⟩ := hc.seats profile hpr
    obtain ⟨p, hp, hrow⟩ := settle_open hast hfree hop hgate
    obtain ⟨next, hn, rest, hre⟩ := hfst profile hpr rung hop
    have ha : anyAdmitted
        (fun other => (openInputs catalog).judgeWith fuel other (admissionUnratedRole other))
        ((openInputs catalog).alternatives (bare profile (circleRole allowUnrated)) rung) =
        none := by
      rw [hre, anyAdmitted]
      have hno : (openInputs catalog).judgeWith fuel (bare next (circleRole allowUnrated))
          (admissionUnratedRole (bare next (circleRole allowUnrated))) = none := ih next hn
      rw [hno]
    unfold judge judgeWith
    rw [admissionUnratedRole_circle, hp]
    dsimp only
    rw [hrow, if_pos ⟨hgate, rfl, rfl⟩, ha]

theorem not_terminates_of_judge {r : AdmissionRequest} (h : ∀ fuel, inp.judge fuel r = none) :
    ¬ inp.Terminates r := by
  rintro ⟨fuel, hfu⟩
  rw [h fuel] at hfu
  cases hfu

theorem exists_diverges (hpe : rows.Perm catalog.rows) (h : Circular rows) :
    ∃ inp : AdmissionInputs, inp.catalog.rows.Perm catalog.rows ∧ ∃ req, ¬ inp.Terminates req := by
  obtain ⟨allowUnrated, profiles, hc⟩ := h
  have hfro := frontRows_perm profiles rows
  have hu : (rows.map fun r => (r.profile, r.effort)).Nodup :=
    (hpe.map _).nodup_iff.mpr catalog.unique
  let front : Catalog := ⟨frontRows profiles rows, (hfro.map _).nodup_iff.mpr hu⟩
  have hope : ∀ profile ∈ profiles, opensOn front.rows allowUnrated profile =
      opensOn rows allowUnrated profile := by
    intro profile hpr
    obtain ⟨rung, hop, hgate, -⟩ := hc.leads profile hpr
    exact opensOn_congr hfro (profileRows_frontRows fun r hr hp hpl =>
      retired_of_opensOn hu hop hgate hr hp hpl)
  have hc' : Circle front.rows allowUnrated profiles := by
    refine ⟨hc.nonempty, hc.seats, fun profile hpr => ?_⟩
    obtain ⟨rung, hop, hgate, other, ho, hre⟩ := hc.leads profile hpr
    rw [hope profile hpr]
    exact ⟨rung, hop, hgate, other, hfro.mem_iff.mpr ho, hre⟩
  obtain ⟨profile, hpr⟩ := hc.nonempty
  refine ⟨openInputs front, hfro.trans hpe, bare profile (circleRole allowUnrated),
    not_terminates_of_judge fun fuel => judge_circle hc' ?_ fuel profile hpr⟩
  intro profile hpr rung hop
  rw [hope profile hpr] at hop
  obtain ⟨rung', hop', -, other, ho, hin, hne, hgr, hpl⟩ :=
    hc.leads profile hpr
  obtain rfl := Option.some.inj (hop.symm.trans hop')
  exact first_alternative rfl ⟨other, ho, hin, hne, hgr, hpl⟩

/-- **The judge returns** on every request, whatever the policy and the readings are, exactly when
the catalog has no circle, in whichever order its rungs are listed. -/
theorem judge_terminates_iff (catalog : Catalog) :
    (∀ inp : AdmissionInputs, inp.catalog.rows.Perm catalog.rows → ∀ req, inp.Terminates req) ↔
      ∀ rows : List AdmissionRow, rows.Perm catalog.rows → ¬ Circular rows := by
  constructor
  · intro ha rows hp hc
    obtain ⟨inp, hi, req, hnot⟩ := exists_diverges hp hc
    exact hnot (ha inp hi req)
  · intro hn inp hi req
    by_contra hnot
    exact hn inp.catalog.rows hi (circular_of_not_terminates hnot)

/-! ## Two profiles -/

def retiredRung (profile : String) : AdmissionRow :=
  { profile, effort := "", modelID := "model", pool := "claude", grade := .a, gate := .default,
    retired := true }

def escalationRung (profile : String) : AdmissionRow :=
  { profile, effort := "high", modelID := "model", pool := "claude", grade := .a,
    gate := .escalation }

/-- Each profile has a retired ordinary rung without an effort and an escalation rung. -/
def twoProfiles : Catalog where
  rows := [retiredRung "opus", retiredRung "sonnet", escalationRung "opus", escalationRung "sonnet"]
  unique := by decide

/-- **The judge goes round**: asked for one of the two profiles it asks for the other, and so on. -/
theorem circle_diverges : ¬ (openInputs twoProfiles).Terminates { profile := "opus" } := by
  have ho : opensOn twoProfiles.rows false "opus" = some (escalationRung "opus") := by
    decide +kernel
  have hs : opensOn twoProfiles.rows false "sonnet" = some (escalationRung "sonnet") := by
    decide +kernel
  have hc : Circle twoProfiles.rows false {"opus", "sonnet"} := by
    refine ⟨⟨"opus", .inl rfl⟩, ?_, ?_⟩
    · rintro profile (rfl | rfl) <;> decide +kernel
    · rintro profile (rfl | rfl)
      · exact ⟨_, ho, rfl, retiredRung "sonnet", by decide, .inr rfl, by decide, rfl, by decide⟩
      · exact ⟨_, hs, rfl, retiredRung "opus", by decide, .inl rfl, by decide, rfl, by decide⟩
  refine not_terminates_of_judge fun fuel => judge_circle hc ?_ fuel "opus" (.inl rfl)
  rintro profile (rfl | rfl) rung hop
  · obtain rfl := Option.some.inj (ho.symm.trans hop)
    exact ⟨"sonnet", .inr rfl, [], by decide +kernel⟩
  · obtain rfl := Option.some.inj (hs.symm.trans hop)
    exact ⟨"opus", .inl rfl, [], by decide +kernel⟩

end Panewire.Admission

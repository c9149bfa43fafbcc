import Mathlib.Data.List.Sort
import Panewire.Text.Bounds

/-!
# The rungs of the catalog

A request for a worker names a **profile** and perhaps an effort. The catalog lists the rungs of
each profile: one for each effort, with a grade, the quota pool that it draws on and a **gate** that
says how it may be asked for. A rung without a grade may be tried only under an exact measurement
marker.

* `admissionRoleCheck` — which seats a profile may take;
* `resolveRow` — the rung that a request means.
-/

namespace Panewire.Admission

/-! ## Rungs -/

inductive Grade where
  | sPlus
  | s
  | aPlus
  | a
  | b
  | c
  | unrated
  deriving DecidableEq

inductive Gate where
  /-- ordinary placement -/
  | default
  | escalation
  | consultOnly
  deriving DecidableEq

structure AdmissionRow where
  profile : String
  effort : String
  modelID : String
  pool : String
  grade : Grade
  gate : Gate
  /-- the metering group -/
  group : String := ""
  retired : Bool := false
  deriving DecidableEq

def AdmissionRow.placed (row : AdmissionRow) : Bool := row.grade ≠ .unrated

/-- A catalog that was decoded: the rungs are unique by profile and effort. -/
structure Catalog where
  rows : List AdmissionRow
  unique : (rows.map fun r => (r.profile, r.effort)).Nodup

/-- A request; an empty field was not given. -/
structure AdmissionRequest where
  profile : String
  effort : String := ""
  role : String := ""
  purpose : String := ""
  operatorRequest : String := ""
  requestedBy : String := ""
  e6Arm : String := ""
  deriving DecidableEq

/-- How a request ends; the source uses the exit statuses of the gate. -/
inductive GateExit where
  | admitted
  | blocked
  | unmeasurable
  | roleDenied
  | unsubscribed
  deriving DecidableEq

structure GateDenial where
  code : GateExit
  msg : String
  deriving DecidableEq

def admissionNormalize (s : String) : String := Go.toLower (Go.trimSpace s)

/-- Credit rungs. -/
def admissionCredit (profile : String) : Bool :=
  Go.hasPrefix profile "pi-" || profile = "cmd-dsflash41"

/-! ## Seats -/

def admissionRoleCheck (req : AdmissionRequest) (row : AdmissionRow) : Option GateDenial :=
  let role := admissionNormalize req.role
  let purpose := admissionNormalize req.purpose
  if admissionCredit req.profile ∧
      !(role = "worker" || role = "tester" ||
        (role = "builder" && row.placed && row.gate = .default)) then
    some ⟨.roleDenied, "role_restricted: credit rung requires worker/tester; " ++
      "placed default rungs also allow builder"⟩
  else if req.profile = "cmd-dsflash41" ∧ role ≠ "worker" ∧ role ≠ "tester" then
    some ⟨.roleDenied, "role_restricted: cmd-dsflash41 seats only a worker or tester"⟩
  else if (req.profile = "codex-astra" ∨ req.profile = "fable") ∧
      (role = "worker" ∨ role = "captain") then
    some ⟨.roleDenied, "role_restricted: consult model cannot hold this seat"⟩
  else if (req.profile = "codex-astra" ∨ req.profile = "fable") ∧
      (role = "builder" ∨ role = "tester" ∨ role = "reviewer") ∧
      (purpose ≠ "round-extension" ∨ !Go.hasPrefix req.operatorRequest "hk:doc/round-ext/") then
    some ⟨.roleDenied, "role_restricted: round-extension and a round-ext document required"⟩
  else if Go.contains req.profile "astra" ∧ req.profile ≠ "codex-astra" then
    some ⟨.roleDenied, "role_restricted: removed astra seat alias"⟩
  else if req.profile = "codex-astra" ∧ purpose ≠ "director" ∧ purpose ≠ "architect" ∧
      purpose ≠ "operator-request" ∧ purpose ≠ "round-extension" then
    some ⟨.roleDenied,
      "role_restricted: astra requires director, architect, or operator-request purpose"⟩
  else none

/-- References `hk:task/N` and `hk:doc/…`. -/
def admissionValidRef (s : String) : Bool :=
  if Go.trimSpace s ≠ s ∨ Go.containsAny s "\r\n\t\x00 " then false
  else
    match Go.cutPrefix s "hk:task/" with
    | some rest => rest ≠ "" && rest ≠ "0" && rest.toList.all Char.isDigit
    | none => Go.hasPrefix s "hk:doc/" && 7 < s.utf8ByteSize

/-- The roles that may try a rung without a grade. -/
def admissionUnratedRole (req : AdmissionRequest) : Bool :=
  admissionNormalize req.role ∈ ["lead", "consult", "builder", "counsel"]

/-! ## The rung of a request -/

def admissionMarkerRequired (row : AdmissionRow) (allowUnrated : Bool) : Bool :=
  if row.grade = .unrated then !allowUnrated
  else !row.placed && row.gate ≠ .consultOnly && !Go.hasPrefix row.profile "devin-argon"

def admissionEfforts : List String :=
  ["", "off", "none", "minimal", "low", "medium", "high", "xhigh", "max", "ultra"]

def admissionEffortRank (s : String) : ℕ :=
  if s ∈ admissionEfforts then admissionEfforts.idxOf s else 99

def admissionGradeRank (g : Grade) : ℕ :=
  [Grade.sPlus, .s, .aPlus, .a, .b, .c, .unrated].idxOf g

variable (rows : List AdmissionRow)

/-- The rungs of a profile that are on offer. -/
def profileRows (profile : String) : List AdmissionRow :=
  rows.filter fun r => r.profile = profile && !r.retired

/-- Ordinary rungs. -/
def AdmissionRow.ordinary (r : AdmissionRow) : Bool :=
  r.gate = .default && (r.placed || r.grade = .unrated)

/-- Better grade first, then lower effort. -/
def rungBefore (a b : AdmissionRow) : Prop :=
  admissionGradeRank a.grade < admissionGradeRank b.grade ∨
    admissionGradeRank a.grade = admissionGradeRank b.grade ∧
      admissionEffortRank a.effort ≤ admissionEffortRank b.effort

instance : DecidableRel rungBefore := fun _ _ => inferInstanceAs (Decidable (_ ∨ _))

/-- The effort of the best ordinary rung, or of the best rung if none is ordinary. -/
def admissionDefaultEffort : String :=
  let ordinary := rows.filter AdmissionRow.ordinary
  let candidates := if ordinary = [] then rows else ordinary
  ((candidates.insertionSort rungBefore).head?.map (·.effort)).getD ""

/-- The exact measurement marker of a rung. -/
def armOf (profile effort : String) : String := profile ++ "@" ++ effort

def creditEfforts (profile : String) : List String :=
  if Go.hasPrefix profile "pi-" then ["off", "minimal", "low", "medium", "high", "xhigh", "max"]
  else ["low", "high", "max"]

def retiredProfiles : List String :=
  ["codex-med", "builder-terra-high", "builder-terra-xhigh", "builder-terra-max"]

/-- What is wrong with the effort or the profile, before the rungs are looked at. -/
def checkIdentity (profile requested : String) : Option GateDenial :=
  if admissionCredit profile ∧ requested = "" then
    some ⟨.blocked, "explicit --effort required for credit profile"⟩
  else if requested ≠ "" ∧ admissionEffortRank requested = 99 ∧
      !(rows.any fun r => r.profile = profile && r.effort = requested) then
    some ⟨.blocked, "unknown effort rung"⟩
  else if admissionCredit profile ∧ requested ∉ creditEfforts profile then
    some ⟨.blocked, "credit effort is not placed"⟩
  else if profile ∈ retiredProfiles ∨
      (rows.any fun r => r.profile = profile && r.modelID = "gpt-5.6-terra") then
    some ⟨.blocked, "model_refused: retired model identity"⟩
  else if profileRows rows profile = [] then
    some ⟨.blocked, "profile " ++ Go.quote profile ++ " is unknown or retired"⟩
  else none

/-- The effort that is asked for; a marker names one for a profile that has no grade yet. -/
def requestedEffort (req : AdmissionRequest) : String :=
  let requested := admissionNormalize req.effort
  if requested = "" ∧ Go.hasPrefix req.e6Arm (req.profile ++ "@") ∧
      !((profileRows rows req.profile).any AdmissionRow.placed) then
    Go.trimPrefix req.e6Arm (req.profile ++ "@")
  else requested

/-- The rungs that need no marker, or whose marker was given. -/
def eligibleRows (req : AdmissionRequest) (allowUnrated : Bool) : List AdmissionRow :=
  (profileRows rows req.profile).filter fun r =>
    !admissionMarkerRequired r allowUnrated || req.e6Arm = armOf req.profile r.effort

/-- The effort that was asked for, or else the best one. -/
def resolvedEffort (requested fallback : String) : String :=
  if requested ≠ "" then requested else fallback

/-- The rung that a request means, its effort, and the marker that it was admitted under. -/
def resolveRow (req : AdmissionRequest) (allowUnrated : Bool) :
    Except GateDenial (AdmissionRow × String × String) :=
  match checkIdentity rows req.profile (admissionNormalize req.effort) with
  | some e => .error e
  | none =>
    let requested := requestedEffort rows req
    let eligible := eligibleRows rows req allowUnrated
    if (profileRows rows req.profile).any fun r => requested = r.effort && r.grade = .unrated &&
        admissionMarkerRequired r allowUnrated && req.e6Arm ≠ armOf req.profile r.effort then
      .error ⟨.blocked, "e6_arm_required: exact measurement marker required"⟩
    else if eligible = [] then
      .error ⟨.blocked, "e6_arm_required: unplaced profile requires exact measurement marker"⟩
    else
      let fallback := admissionDefaultEffort eligible
      let resolved := resolvedEffort requested fallback
      if rows.any fun r => r.profile = req.profile && r.effort = resolved && r.retired then
        .error ⟨.blocked, "rung is retired in the catalog"⟩
      else
        let asked := eligible.find? (·.effort = resolved)
        if asked = none ∧ (admissionCredit req.profile ∨ req.profile = "codex-terra61") then
          .error ⟨.blocked, "e6_arm_required: rung is not placed"⟩
        else
          match asked.or (eligible.find? (·.effort = fallback)) with
          | none => .error ⟨.blocked, "rung is not in the catalog"⟩
          | some chosen =>
            if admissionMarkerRequired chosen allowUnrated then
              if req.e6Arm ≠ armOf req.profile resolved then .error ⟨.blocked, "e6_arm_required"⟩
              else .ok (chosen, resolved, req.e6Arm)
            else .ok (chosen, resolved, "")

end Panewire.Admission

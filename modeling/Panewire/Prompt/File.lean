import Panewire.Text.Strings
import Mathlib.Data.List.Sort

/-!
# Prompt files and recipient checks

A prompt file starts with an `expect:` line that names its recipient; the rest is the text to be
typed. `parsePromptFile` reads it, `resolveTarget` finds the pane a target names in a herdr
snapshot, and `expectFailures` compares the two.
-/

namespace Panewire

/-- An error with the exit code the command line returns for it. -/
structure CodedError where
  code : ℕ
  msg : String
  deriving DecidableEq

/-- no answer in time -/
def ExitTimeout : ℕ := 3
/-- the daemon cannot serve the operation -/
def ExitDaemonUnavailable : ℕ := 4
/-- the request or its recipient is not acceptable -/
def ExitConditionInvalid : ℕ := 5
/-- the text could not be shown to have arrived -/
def ExitDeliveryFailure : ℕ := 6
/-- a fault of the program itself -/
def ExitInternal : ℕ := 70

namespace Prompt

/-- The recipient a prompt file asks for; an empty field asks for nothing. -/
structure ExpectFields where
  name : String := ""
  label : String := ""
  cwd : String := ""
  titleContains : String := ""
  recentContains : String := ""
  deriving DecidableEq

/-- One `key=value` token of the `expect:` line. -/
def expectToken (e : ExpectFields) (token : String) : Except String ExpectFields :=
  match Go.cutChars '=' token.toList with
  | (_, none) => .error ("invalid expect field: " ++ token)
  | (key, some value) =>
    let v := String.ofList value
    if v = "" then .error ("invalid expect field: " ++ token)
    else match String.ofList key with
      | "name" => .ok { e with name := v }
      | "label" => .ok { e with label := v }
      | "cwd" => .ok { e with cwd := v }
      | "title~" => .ok { e with titleContains := v }
      | "recent~" => .ok { e with recentContains := v }
      | k => .error ("unknown expect field: " ++ k)

/-- The longest line `bufio.Scanner` returns, in bytes: its buffer of 64 KiB has to hold one
byte more. -/
def scannerLineLimit : ℕ := 65535

/-- The first line that is not blank, trimmed; empty when there is none, or when the scanner
stops at a line it cannot hold. -/
def firstLine : List (List Char) → String
  | [] => ""
  | line :: lines =>
    let text := String.ofList line
    if scannerLineLimit < text.utf8ByteSize then ""
    else if Go.trimSpace text ≠ "" then Go.trimSpace text
    else firstLine lines

def parsePromptFile (raw : String) : Except String (ExpectFields × String) :=
  let s := Go.unixLines raw.toList
  let line := firstLine (Go.splitChars '\n' s)
  if !Go.hasPrefix line "expect:" then .error "prompt file must begin with expect metadata"
  else do
    let e ← (Go.fields (Go.trimPrefix line "expect:")).foldlM expectToken {}
    if e.name = "" ∧ e.cwd = "" then .error "expect requires name or cwd"
    else match (Go.cutChars '\n' s).2 with
      | none => .ok (e, "")
      | some rest =>
        let body := rest.dropWhile (· == '\n')
        if Go.trimSpace (String.ofList body) = "" then .error "prompt body is empty"
        else .ok (e, String.ofList body)

/-- What herdr reports about one pane, as far as a prompt uses it. -/
structure PaneIdentity where
  paneID : String := ""
  workspaceID : String := ""
  tabID : String := ""
  agent : String := ""
  name : String := ""
  label : String := ""
  title : String := ""
  cwd : String := ""
  harness : String := ""
  status : String := ""
  revision : ℤ := 0
  /-- the record's own `tab_label`, matched beside the label -/
  tabLabel : String := ""
  deriving DecidableEq

/-- The label `tab.list` gives for a tab, empty when it lists none. -/
def tabLabels (tabs : List (String × String)) (tab : String) : String :=
  match tabs.findRev? fun t => t.1 = tab ∧ t.1 ≠ "" ∧ t.2 ≠ "" with
  | some t => t.2
  | none => ""

/-- One pane per pane id; panes without an id are all kept. -/
def uniquePanes (ps : List PaneIdentity) : List PaneIdentity :=
  ps.foldl (fun kept p =>
    if p.paneID ≠ "" ∧ kept.any (·.paneID = p.paneID) then kept else kept ++ [p]) []

def orDash (s : String) : String := if s = "" then "-" else s

/-- `uniqueTarget`: nothing found, one pane, or an error that spells out every candidate. -/
def uniqueTarget (candidates : List PaneIdentity) (tier target : String) :
    Except CodedError (Option PaneIdentity) :=
  match uniquePanes candidates with
  | [] => .ok none
  | [p] => .ok (some p)
  | ps =>
    let desc := (ps.insertionSort fun a b => a.paneID ≤ b.paneID).map fun p =>
      "pane_id=" ++ orDash p.paneID ++ " name=" ++ orDash p.name ++ " label=" ++
        orDash p.label ++ " agent=" ++ orDash p.agent ++ " status=" ++ orDash p.status
    .error ⟨ExitConditionInvalid, "ambiguous agent target \"" ++ target ++ "\" (" ++
      toString ps.length ++ " " ++ tier ++ " candidates): " ++ Go.join "; " desc⟩

/-- The pane a target names in a snapshot: first by pane id, agent or name, then by a label. -/
def resolveIn (agents : List PaneIdentity) (tabs : List (String × String)) (target : String) :
    Except CodedError PaneIdentity := do
  let panes := agents.map fun p =>
    if p.label = "" then { p with label := tabLabels tabs p.tabID } else p
  let byIdentity (p : PaneIdentity) : Bool :=
    p.paneID = target || p.agent = target || p.name = target
  let byLabel (p : PaneIdentity) : Bool :=
    p.label = target || tabLabels tabs p.tabID = target || p.tabID = target ||
      p.title = target || p.tabLabel = target
  match ← uniqueTarget (panes.filter byIdentity) "identity" target with
  | some p => pure p
  | none =>
    match ← uniqueTarget (panes.filter fun p => !byIdentity p && byLabel p) "label" target with
    | some p => pure p
    | none => .error ⟨ExitConditionInvalid, "no exact match for agent target \"" ++ target ++
        "\" (targets match pane_id, name, or label exactly)"⟩

/-- The expectations a pane does not meet, by name. -/
def expectFailures (e : ExpectFields) (p : PaneIdentity) (recent : String) : List String :=
  (if e.name ≠ "" ∧ e.name ≠ p.agent ∧ e.name ≠ p.name then ["name"] else []) ++
  (if e.label ≠ "" ∧ e.label ≠ p.label ∧ e.label ≠ p.title then ["label"] else []) ++
  (if e.cwd ≠ "" ∧ e.cwd ≠ p.cwd then ["cwd"] else []) ++
  (if e.titleContains ≠ "" ∧ !Go.contains p.title e.titleContains then ["title~"] else []) ++
  (if e.recentContains ≠ "" ∧ !Go.contains recent e.recentContains then ["recent~"] else [])

def matchesExpect (e : ExpectFields) (p : PaneIdentity) (recent : String) : Bool :=
  (expectFailures e p recent).length = 0

def identityChanged (a b : PaneIdentity) : Bool :=
  a.paneID ≠ b.paneID || a.agent ≠ b.agent || a.name ≠ b.name || a.cwd ≠ b.cwd

end Prompt

end Panewire

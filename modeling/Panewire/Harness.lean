import Panewire.Text.Strings

/-!
# Harness adapters

What the relay and the prompt command know about each agent program: how its text is typed and
which evidence on its screen proves that a text was taken. The composer geometry of an adapter is
left out; it is only read by the screen classifiers.
-/

namespace Panewire

/-- The evidence that earns a delivered acknowledgement. -/
inductive RelayProof where
  /-- nothing on the screen proves anything -/
  | none
  /-- the nonce above the composer, or the queue banner beside it -/
  | transcriptEcho
  /-- the nonce on screen, and the pane turned working after the send -/
  | echoAndWorking
  deriving DecidableEq

structure HarnessAdapter where
  proof : RelayProof
  /-- typed through the pane-level calls instead of the agent prompt -/
  paneTransport : Bool := false
  /-- a text typed into a working pane cannot be proved -/
  workingUnprovable : Bool := false
  /-- an unproven inject is read again for a while before it is called unconfirmed -/
  observe : Bool := false
  /-- `0` stands for the common bound -/
  maxAttempts : ℕ := 0
  deriving DecidableEq

def relayMaxInjectAttempts : ℕ := 3
def relayDevinMaxInjectAttempts : ℕ := 2

/-- The closed table of harnesses. -/
def relayHarnessAdapters : String → Option HarnessAdapter
  | "claude" => some { proof := .transcriptEcho, observe := true }
  | "codex" => some { proof := .transcriptEcho, observe := true }
  | "devin" => some { proof := .transcriptEcho, maxAttempts := relayDevinMaxInjectAttempts }
  | "grok" => some { proof := .echoAndWorking, observe := true }
  | "omp" => some { proof := .echoAndWorking, observe := true }
  | "cmd" => some
      { proof := .echoAndWorking, observe := true, paneTransport := true,
        workingUnprovable := true }
  | _ => none

def relayAdapterFor (harness : String) : Option HarnessAdapter :=
  relayHarnessAdapters (Go.toLower (Go.trimSpace harness))

def HarnessAdapter.injectAttempts (a : HarnessAdapter) : ℕ :=
  if 0 < a.maxAttempts then a.maxAttempts else relayMaxInjectAttempts

def relayHarnessWorkingUnprovable (harness : String) : Bool :=
  ((relayAdapterFor harness).map (·.workingUnprovable)).getD false

def harnessPaneTransport (harness : String) : Bool :=
  ((relayAdapterFor harness).map (·.paneTransport)).getD false

end Panewire

import EdgeNode.Output.Status

/-!
# The record of device faults

What the parts of the node do to the faults its status reports: the collector notes how its
transactions end, the supervisor of the Input Adapters whether their interfaces open.
-/

namespace EdgeNode

def maxFaultDetailBytes : ℕ := 200

/-- The characters that fit into so many bytes. -/
def takeBytes : ℕ → List Char → List Char
  | _, [] => []
  | n, c :: cs => if c.utf8Size ≤ n then c :: takeBytes (n - c.utf8Size) cs else []

/-- A text that is too long is cut before the first character that does not fit. -/
def truncateDetail (text : String) : String :=
  if maxFaultDetailBytes < text.utf8ByteSize then
    String.ofList (takeBytes maxFaultDetailBytes text.toList)
  else text

namespace DeviceFaultSnapshot

variable (s : DeviceFaultSnapshot)

/-- One input transaction failed: the fault starts, or counts one more. -/
def storageWriteFailed (error : String) (uptimeMs : ℤ) : DeviceFaultSnapshot :=
  { s with storage := match s.storage with
      | some fault =>
        some { fault with count := fault.count + 1, lastError := truncateDetail error }
      | none => some ⟨uptimeMs, 1, truncateDetail error⟩ }

def storageWriteSucceeded : DeviceFaultSnapshot := { s with storage := none }

/-- A repeated failure of an adapter keeps the time of the first one. -/
def interfaceOpenFailed (adapter : String) (reason : InterfaceOpenReason) (detail : Option String)
    (uptimeMs : ℤ) : DeviceFaultSnapshot :=
  let detail := detail.map truncateDetail
  if s.interfaces.any fun f => f.1 == adapter then
    { s with
      interfaces := s.interfaces.map fun f =>
        if f.1 = adapter then (f.1, { f.2 with reason := reason, detail := detail }) else f }
  else
    { s with
      interfaces := s.interfaces.orderedInsert (fun f g => f.1 ≤ g.1)
        (adapter, ⟨uptimeMs, reason, detail⟩) }

def interfaceOpened (adapter : String) : DeviceFaultSnapshot :=
  { s with interfaces := s.interfaces.filter fun f => f.1 ≠ adapter }

end DeviceFaultSnapshot

end EdgeNode

import VulkanGen.FunctionTable
import VulkanGen.Wrapper

/-!
# The report of a run

A report counts what a run read and made.  Every wrapper is counted under exactly
one of the five shapes, a forwarding one by the handle that is bound.

* `tally`   wrappers are counted one by one
* `render`  the text of a report
-/

namespace VulkanGen

/-- The counts of one run. -/
structure Report where
  headers : Nat := 0
  functions : Nat := 0
  plain : Nat := 0
  deviceBound : Nat := 0
  instanceBound : Nat := 0
  countQueries : Nat := 0
  recorderMethods : Nat := 0
  tableEntries : Nat := 0
  groups : Nat := 0
  diagnostics : Nat := 0
  milliseconds : Nat := 0
  deriving DecidableEq, Repr

namespace Report

/-- A report that counts one more wrapper under its shape. -/
def count (r : Report) (w : Wrapper) : Report :=
  match w.form, w.binding with
  | .forward, none => { r with plain := r.plain + 1 }
  | .forward, some .device => { r with deviceBound := r.deviceBound + 1 }
  | .forward, some .inst => { r with instanceBound := r.instanceBound + 1 }
  | .countQuery _ _, _ => { r with countQueries := r.countQueries + 1 }
  | .recorderMethod, _ => { r with recorderMethods := r.recorderMethods + 1 }

/-- A report that counts wrappers under their shapes. -/
def tally (r : Report) (ws : List Wrapper) : Report :=
  ws.foldl count r

/-- The text of a report. -/
def render (r : Report) : String :=
  "=== Generation Report ===\n" ++
  s!"Headers: {r.headers}\n" ++
  s!"Duration: {r.milliseconds} ms\n" ++
  "\n" ++
  "--- Wrappers ---\n" ++
  s!"  Functions: {r.functions}\n" ++
  s!"  Plain: {r.plain}\n" ++
  s!"  Device-bound: {r.deviceBound}\n" ++
  s!"  Instance-bound: {r.instanceBound}\n" ++
  s!"  Count queries: {r.countQueries}\n" ++
  s!"  Recorder methods: {r.recorderMethods}\n" ++
  "\n" ++
  "--- Function Table ---\n" ++
  s!"  Entries: {r.tableEntries}\n" ++
  s!"  Groups: {r.groups}\n" ++
  if r.diagnostics > 0 then s!"\nSkipped declarations: {r.diagnostics}\n" else ""

end Report

end VulkanGen

/-
What is counted about reconciliations, and its published text.

Reconciliations are counted, failures are counted under the label of their error, and
the durations of reconciliations are gathered in a histogram for each phase.  The text
lists the metrics by name and the samples of a metric by label; a metric with labels is
left out as long as it has no samples.
-/
import ControlPlane.Error
import ControlPlane.Text.Shortest

namespace ControlPlane

/-- A span in seconds. -/
def Duration.toFloat (d : Duration) : Float :=
  Float.ofNat d.seconds + Float.ofNat d.subsecNanos / 1000000000.0

/-- Durations, counted by how long they are. -/
structure Histogram where
  /-- For every bound, the number of durations that do not exceed it. -/
  within : List Nat
  count : Nat
  /-- All durations together in seconds. -/
  sum : Float

namespace Histogram

/-- The bounds of the histogram, and how they are written in seconds. -/
def bounds : List (Duration × String) :=
  [(.ofMillis 10, "0.01"), (.ofMillis 100, "0.1"), (.ofMillis 250, "0.25"), (.ofMillis 500, "0.5"),
    (.ofSeconds 1, "1"), (.ofSeconds 5, "5"), (.ofSeconds 15, "15"), (.ofSeconds 60, "60")]

def empty : Histogram := ⟨bounds.map fun _ => 0, 0, 0.0⟩

instance : Inhabited Histogram := ⟨empty⟩

/-- Adds a duration. -/
def observe (h : Histogram) (d : Duration) : Histogram where
  within := List.zipWith (fun n bound => if d ≤ bound.1 then n + 1 else n) h.within bounds
  count := h.count + 1
  sum := h.sum + d.toFloat

end Histogram

structure Metrics where
  reconciliations : Nat
  /-- The number of failures by the label of their error. -/
  failures : Table String Nat
  /-- The durations of reconciliations by the phase before them. -/
  durations : Table String Histogram

namespace Metrics

def empty : Metrics := ⟨0, .empty, .empty⟩

instance : Inhabited Metrics := ⟨empty⟩

/-- Counts a failure. -/
def countFailure (m : Metrics) (error : ControllerError) : Metrics :=
  { m with failures := m.failures.insert error.label (m.failures.getD error.label 0 + 1) }

/-- Counts a reconciliation from a phase that took some time. -/
def countReconciliation (m : Metrics) (phase : String) (d : Duration) : Metrics :=
  { m with
    reconciliations := m.reconciliations + 1
    durations := m.durations.insert phase ((m.durations.getD phase .empty).observe d) }

/-! ### The published text -/

/-- A value of a label between quotes. -/
def labelText (value : String) : String :=
  "\"" ++ String.ofList (value.toList.flatMap escaped) ++ "\""
where
  /-- A backslash, a quote and the end of a line are escaped. -/
  escaped : Char → List Char
    | '\\' => ['\\', '\\']
    | '"' => ['\\', '"']
    | '\n' => ['\\', 'n']
    | c => [c]

/-- The lines that introduce a metric. -/
def heading (name help kind : String) : List String :=
  ["# HELP " ++ name ++ " " ++ help, "# TYPE " ++ name ++ " " ++ kind]

/-- The name of a metric with its labels in braces. -/
def sample (name : String) (labels : List (String × String)) (value : String) : String :=
  name ++ "\x7b" ++ ",".intercalate (labels.map fun l => l.1 ++ "=" ++ labelText l.2) ++ "\x7d " ++
    value

def durationsName : String := "openshift_control_plane_reconcile_duration_seconds"

/-- The samples of the durations from one phase. -/
def histogramLines (phase : String) (h : Histogram) : List String :=
  List.zipWith (fun n bound => sample (durationsName ++ "_bucket")
      [("phase", phase), ("le", bound.2)] (toString n)) h.within Histogram.bounds ++
    [sample (durationsName ++ "_bucket") [("phase", phase), ("le", "+Inf")] (toString h.count),
      sample (durationsName ++ "_sum") [("phase", phase)] (Text.shortestText h.sum),
      sample (durationsName ++ "_count") [("phase", phase)] (toString h.count)]

def failuresName : String := "openshift_control_plane_reconciliation_errors_total"

def reconciliationsName : String := "openshift_control_plane_reconciliations_total"

/-- The lines of the published text. -/
def lines (m : Metrics) : List String :=
  (if m.durations.isEmpty then []
    else heading durationsName "The duration of reconcile to complete in seconds" "histogram" ++
      m.durations.entries.flatMap fun e => histogramLines e.1 e.2) ++
  (if m.failures.isEmpty then []
    else heading failuresName "reconciliation errors by error class" "counter" ++
      m.failures.entries.map fun e => sample failuresName [("error", e.1)] (toString e.2)) ++
  heading reconciliationsName "reconciliations" "counter" ++
    [reconciliationsName ++ " " ++ toString m.reconciliations]

/-- The published text: every line ends with the end of a line. -/
def text (m : Metrics) : String := String.join (m.lines.map (· ++ "\n"))

end Metrics

end ControlPlane

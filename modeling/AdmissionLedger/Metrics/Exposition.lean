import AdmissionLedger.Metrics.Counter
import AdmissionLedger.Number.Shortest

/-!
# Exposition

Readings are exposed as text: for each family its help, its type, and a line for each
counter that was ever named.

## Main definitions

* `MetricFamily`, `MetricFamily.all` — what is measured.
* `exposition` — the lines of a reading.
-/

namespace AdmissionLedger

/-- How a family is measured. -/
inductive MetricType
  | counter
  | gauge
  | histogram
  deriving DecidableEq, Repr

/-- The name of a type. -/
def MetricType.name : MetricType → Text
  | counter => "counter"
  | gauge => "gauge"
  | histogram => "histogram"

/-- Something that is measured. -/
structure MetricFamily where
  name : Text
  type : MetricType
  help : Text

namespace MetricFamily

/-- All that is measured. -/
def all : List MetricFamily := [
  ⟨"kubechronicle_admission_requests_total", .counter, "Admission requests by terminal outcome."⟩,
  ⟨"kubechronicle_admission_duration_seconds", .histogram,
    "Time spent deciding an admission request."⟩,
  ⟨"kubechronicle_events_dropped_total", .counter, "Change events dropped before persistence."⟩,
  ⟨"kubechronicle_events_saved_total", .counter, "Change events handed to the store."⟩,
  ⟨"kubechronicle_notifications_total", .counter, "Notification deliveries by channel and result."⟩,
  ⟨"kubechronicle_config_reloads_total", .counter, "Rule configuration reload attempts."⟩,
  ⟨"kubechronicle_queue_depth", .gauge, "Change events waiting in the processing queue."⟩]

/-- The lines that introduce a family. -/
def header (f : MetricFamily) : List Text :=
  [Text.ofString "# HELP " ++ f.name ++ " " ++ f.help,
    Text.ofString "# TYPE " ++ f.name ++ " " ++ f.type.name]

end MetricFamily

/-- A label with its value in quotation marks. -/
def quotedLabel (label : Text × Text) : Text :=
  let value := label.2.flatMap fun c =>
    if c = .backslash then Text.ofString "\\\\"
    else if c = .doubleQuote then [.backslash, .doubleQuote]
    else if c = .lineFeed then Text.ofString "\\n"
    else [c]
  label.1 ++ "=" ++ [CodePoint.doubleQuote] ++ value ++ [CodePoint.doubleQuote]

/-- The line of a counter. -/
def Counter.sample (c : Counter) (reading : Nat) : Text :=
  let labels := if c.labels.isEmpty then []
    else [CodePoint.openBrace] ++ Text.join "," (c.labels.map quotedLabel) ++ [CodePoint.closeBrace]
  c.family ++ labels ++ " " ++ Text.decimal reading ++ ".0"

/-- The lines of the counters of a family, each counter in the order of its first mention. -/
def MetricFamily.samples (f : MetricFamily) (counts : List Counter) : List Text :=
  let mine := counts.filter fun c => c.family.startsWith f.name
  mine.eraseDups.map fun c => c.sample (mine.count c)

/-- The lines of a reading. -/
def exposition (counts : List Counter) : List Text :=
  MetricFamily.all.flatMap fun f => f.header ++ f.samples counts

end AdmissionLedger

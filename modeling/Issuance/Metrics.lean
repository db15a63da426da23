import Issuance.Text.Blank
import Issuance.Decimal.Binary
/-! # Metrics

Counts, times and channel states as series of a name with labels; a run's
effect is the marks it gathers, so unrelated recordings commute. Counters
add modulo 2^64; durations are milliseconds. -/
namespace Issuance.Metrics

structure Series where
  name : String
  labels : List (String × String)
  deriving DecidableEq, Repr

def escapeLabel (v : String) : String :=
  String.join (v.toList.map fun c =>
    if c = '\\' then "\\\\" else if c = '"' then "\\\"" else if c = '\n' then "\\n" else c.toString)

def insertLabel (l : String × String) : List (String × String) → List (String × String)
  | [] => [l]
  | m :: ms => if l.1 ≤ m.1 then l :: m :: ms else m :: insertLabel l ms

def Series.text (s : Series) : String :=
  let sorted := s.labels.foldr insertLabel []
  s.name ++ "\x7b" ++ ",".intercalate (sorted.map fun (k, v) => k ++ "=\"" ++ escapeLabel v ++ "\"") ++ "\x7d"

/-- A mark a recording leaves: a counter raised by an amount, or a
histogram given an observation in nanoseconds. -/
inductive Mark where
  | count (s : Series) (amount : Nat)
  | observe (s : Series) (nanos : Int)
  deriving DecidableEq, Repr

def Mark.series : Mark → Series
  | .count s _ => s
  | .observe s _ => s

def buckets : List (Nat × String) :=
  [(5, "0.005"), (10, "0.01"), (25, "0.025"), (50, "0.05"), (100, "0.1"), (250, "0.25"),
   (500, "0.5"), (1000, "1"), (2500, "2.5"), (5000, "5"), (10000, "10")]

def nanosOf (ms : Int) : Int :=
  let v := (ms * 1000000) % Int.pow 2 64
  if v ≥ Int.pow 2 63 then v - Int.pow 2 64 else v

def orWhenEmpty (v fallback : String) : String := if v.isEmpty then fallback else v

/-- A label value trimmed, or a replacement when that is empty. -/
def trimmedOr (v fallback : String) : String := orWhenEmpty (Text.trim v) fallback

def metricName (subsystem name : String) : String := "stablefactory_" ++ subsystem ++ "_" ++ name

def asFloat (n : Nat) : Nat :=
  ((Decimal.Binary64.ofDecimal false n 0).truncate.getD 0).toNat

inductive Call where
  | httpObserve (route method : String) (status : Int) (ms : Int)
  | throttle (route reason : String)
  | engineObserve (operation : String) (ms : Int) (code : String)
  | limitRejection (kind : String)
  | conversion (kind channel : String) (stable fee : Nat)
  | event (type : String)
  | drop (sink : String)
  | channel (kind channel : String) (active : Bool) (lifetimeIssued remaining accumulatedFee : Nat)
  deriving DecidableEq, Repr

/-- The marks a recording leaves: status ≥ 400 is an error, an operation
with a code failed, a conversion adds a fee only if any. -/
def Call.marks : Call → List Mark
  | .httpObserve route method status ms =>
    let route := orWhenEmpty route "unknown"
    let method := orWhenEmpty method "unknown"
    let failed := status ≥ 400
    [.count ⟨metricName "http" "requests_total",
        [("route", route), ("method", method), ("outcome", if failed then "error" else "success")]⟩ 1] ++
    (if failed then
      [.count ⟨metricName "http" "errors_total", [("route", route), ("method", method), ("status", toString status)]⟩ 1]
    else []) ++
    [.observe ⟨metricName "http" "request_duration_seconds", [("route", route), ("method", method)]⟩ (nanosOf ms)]
  | .throttle route reason =>
    [.count ⟨metricName "http" "throttles_total",
      [("route", orWhenEmpty route "unknown"), ("reason", orWhenEmpty reason "unspecified")]⟩ 1]
  | .engineObserve operation ms code =>
    let op := trimmedOr operation "unknown"
    (if code.isEmpty then [] else [.count ⟨metricName "engine" "errors_total", [("operation", op), ("code", code)]⟩ 1]) ++
    [.count ⟨metricName "engine" "operations_total",
        [("operation", op), ("outcome", if code.isEmpty then "success" else "error")]⟩ 1,
     .observe ⟨metricName "engine" "operation_duration_seconds", [("operation", op)]⟩ (nanosOf ms)]
  | .limitRejection kind => [.count ⟨metricName "engine" "limit_rejections_total", [("kind", kind)]⟩ 1]
  | .conversion kind name stable fee =>
    [.count ⟨metricName "engine" "stable_volume_total", [("kind", kind), ("channel", name)]⟩ stable] ++
    (if fee > 0 then [.count ⟨metricName "engine" "fee_volume_total", [("kind", kind), ("channel", name)]⟩ fee]
     else [])
  | .event type => [.count ⟨metricName "events" "emitted_total", [("type", trimmedOr type "unknown")]⟩ 1]
  | .drop sink =>
    [.count ⟨metricName "events" "dropped_total",
      [("sink", if (Text.trim sink).isEmpty then "unknown" else sink)]⟩ 1]
  | .channel .. => []

def Call.gauges : Call → List (Series × Nat)
  | .channel kind name active issued remaining fee =>
    let kind := orWhenEmpty kind "unknown"
    let g (n : String) : Series := ⟨"stablefactory_channel_" ++ n, [("kind", kind), ("channel", name)]⟩
    [(g "accumulated_fee", asFloat fee), (g "active", if active then 1 else 0),
     (g "lifetime_issued", asFloat issued), (g "remaining", asFloat remaining)]
  | _ => []

/-- What a series shows after some marks: a counter's total, or a
histogram's count with the cumulative count at each bound. -/
inductive Change where
  | counter (s : Series) (total : Nat)
  | histogram (s : Series) (count : Nat) (perBucket : List (String × Nat))
  deriving DecidableEq, Repr

def amounts (marks : List Mark) (s : Series) : List Nat :=
  marks.filterMap fun m => match m with
    | .count t a => if t = s then some a else none
    | .observe .. => none

/-- The value of a counter after some amounts: those whose binary64 fits a
machine word summed as words, the others summed as binary64 values. -/
def counterValue (as : List Nat) : Nat :=
  let rounded := as.map asFloat
  let words := (rounded.filter (· < Nat.pow 2 64)).foldl (· + ·) 0 % Nat.pow 2 64
  let large := (rounded.filter (· ≥ Nat.pow 2 64)).foldl (fun acc a => asFloat (acc + a)) 0
  asFloat (asFloat words + large)

def counterTotal (marks : List Mark) (s : Series) : Nat :=
  counterValue (amounts marks s)

def observations (marks : List Mark) (s : Series) : List Int :=
  marks.filterMap fun m => match m with
    | .observe t v => if t = s then some v else none
    | .count .. => none

/-- The series marked, each once, in the order first marked. -/
def seriesOf (marks : List Mark) : List Series :=
  (marks.map Mark.series).foldl (fun acc s => if acc.contains s then acc else acc ++ [s]) []

def changeOf (marks : List Mark) (s : Series) : Option Change :=
  match observations marks s with
  | [] =>
    let total := counterTotal marks s
    if total = 0 then none else some (.counter s total)
  | obs =>
    let per := buckets.filterMap fun (ms, label) =>
      let n := (obs.filter fun v => v ≤ (ms : Int) * 1000000).length
      if n = 0 then none else some (label, n)
    some (.histogram s obs.length per)

def Change.text : Change → String
  | .counter s _ => s.text
  | .histogram s _ _ => s.text

def insertChange (c : Change) : List Change → List Change
  | [] => [c]
  | d :: ds => if c.text ≤ d.text then c :: d :: ds else d :: insertChange c ds

def changes (calls : List Call) : List Change :=
  let marks := calls.flatMap Call.marks
  ((seriesOf marks).filterMap (changeOf marks)).foldr insertChange []

theorem amounts_append (a b : List Mark) (s : Series) :
    amounts (a ++ b) s = amounts a s ++ amounts b s := by
  simp [amounts, List.filterMap_append]

end Issuance.Metrics

/-!
# When the duration of an import is reported

An import is timed, and its duration is reported when it reaches a threshold.  One threshold holds
for the whole process.  It is kept in a single word, whose largest value stands for the absence of
a threshold.
-/

namespace ComputeImport

/-- The largest duration, which stands for the absence of a threshold. -/
def noThreshold : UInt64 := 0xFFFFFFFFFFFFFFFF

/-- The process-wide threshold, in microseconds, as it is kept. -/
structure ThresholdCell where
  word : UInt64 := noThreshold
  deriving DecidableEq, Repr

namespace ThresholdCell

/-- A cell that keeps a threshold. -/
def ofLimit (limit : Option UInt64) : ThresholdCell :=
  ⟨limit.getD noThreshold⟩

/-- The threshold that a cell keeps. -/
def limit (cell : ThresholdCell) : Option UInt64 :=
  if cell.word = noThreshold then none else some cell.word

end ThresholdCell

/-- A timed operation, with the threshold that its report has to reach. -/
structure Stopwatch where
  operation : String
  limit : Option UInt64
  deriving DecidableEq, Repr

namespace Stopwatch

/-- A timer that goes by the process-wide threshold. -/
def start (cell : ThresholdCell) (operation : String) : Stopwatch :=
  ⟨operation, cell.limit⟩

/-- Whether a duration is reported; without a threshold every one is. -/
def reports (timer : Stopwatch) (elapsed : UInt64) : Bool :=
  match timer.limit with
  | none => true
  | some limit => limit ≤ elapsed

end Stopwatch

end ComputeImport

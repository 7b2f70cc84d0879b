import OpenFrag.Library.MachineInt
import OpenFrag.Library.Outcome
import OpenFrag.Library.Written

open MachineInt Decimal Except

-- The recorder and the clips each read the duration that `ffprobe` prints.
namespace Capture

def parseDurationMs (duration : String) : Except String Nat := do
  let (whole, fraction) := parts duration.toList
  check (whole ≠ [] ∧ AllDigits whole ∧ AllDigits fraction)
    "ffprobe duration must be an unsigned decimal"
  let seconds ← okOr "ffprobe duration is too large" (parseUnsigned 64 (.ofList whole))
  let milliseconds := ((fraction.take 3).zip [100, 10, 1]).foldl
    (fun ms (c, weight) => saturatingAdd 64 ms ((c.toNat - '0'.toNat) * weight)) 0
  let result ← okOr "ffprobe duration is too large"
    ((checkedMul 64 seconds 1000).bind (checkedAdd 64 · milliseconds))
  check (result ≠ 0) "ffprobe duration must be positive"
  return result

end Capture

namespace Clips

inductive MediaProbeError
  | cancelled
  | timedOut
  | spawn (error : String)
  | failed (status : Option Int) (stderr : String) (stderrTruncated : Bool)
  | malformedOutput
  | nonPositiveDuration
  | missingVideoStream
  deriving DecidableEq, Repr

-- The multiplication that stops at the greatest value.
def saturatingMul (bits a b : Nat) : Nat :=
  min (a * b) (2 ^ bits - 1)

def toDigit (c : Char) : Option Nat :=
  if c.isDigit then some (c.toNat - '0'.toNat) else none

def parseSecondsAsMilliseconds (value : String) : Except MediaProbeError Nat := do
  let (seconds, fraction) := parts value.toList
  let seconds ← okOr .malformedOutput (parseUnsigned 64 (.ofList seconds))
  check (AllDigits fraction) .malformedOutput
  let (fractionMs, digits) ← okOr .malformedOutput <| (fraction.take 3).foldlM
    (fun (ms, digits) c => (toDigit c).map fun digit =>
      (saturatingAdd 64 (saturatingMul 64 ms 10) digit, digits + 1)) (0, 0)
  -- The missing digits are zeros.
  let fractionMs := (saturatingMul 64 · 10)^[3 - digits] fractionMs
  let durationMs ← okOr .malformedOutput
    ((checkedMul 64 seconds 1000).bind (checkedAdd 64 · fractionMs))
  check (durationMs ≠ 0) .nonPositiveDuration
  return durationMs

end Clips

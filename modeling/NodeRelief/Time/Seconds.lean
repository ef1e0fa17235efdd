import NodeRelief.Fault
import NodeRelief.Number
import NodeRelief.Time.Instant

/-!
# Seconds

Numbers of seconds, whole or in the binary format. The binary format holds a duration of many years
only to a few microseconds, and a wait that is stated in seconds lasts as long as the format says.
-/

namespace NodeRelief

/-- A number of seconds as it was given. -/
abbrev Seconds := Number

namespace Seconds

/-- The microseconds. A number of the binary format is multiplied within the format and then brought
to the nearest whole number, which an infinity and a NaN do not have. -/
def micros : Seconds → Except Fault Int
  | .whole n => .ok (n * 1000000)
  | .fractional x => Fault.nearest (x.times 1000000)

/-- A duration as the nearest number of the binary format. -/
def ofDuration (d : Duration) : Seconds :=
  .fractional (.ofRatio (d.micros < 0) d.micros.natAbs 1000000)

end Seconds

end NodeRelief

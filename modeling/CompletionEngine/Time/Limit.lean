/-!
# Time limits

A time limit is a number of nanoseconds that fits in 64 bits. Limits given in larger units saturate
at the largest word instead of wrapping, so a longer request never becomes a shorter limit. Minutes,
hours and days are first turned into seconds, with a saturation of its own; the two steps together
still give the exact minimum of the product and the largest word.

`TimeSpec` is the block a kernel timer reads, and `Duration` is a length of time that does not fit
in 64 bits of nanoseconds.
-/

namespace CompletionEngine

/-- The product of two words, or the largest word when the product does not fit. -/
def saturatingMul (left right : UInt64) : UInt64 :=
  UInt64.ofNat (min (left.toNat * right.toNat) (UInt64.size - 1))

/-- The number of nanoseconds in a second. -/
def nanosPerSecond : UInt64 := 1000000000

/-- A unit in which a time limit may be given. -/
inductive TimeUnit where
  | nanosecond
  | microsecond
  | millisecond
  | second
  | minute
  | hour
  | day
  deriving DecidableEq

namespace TimeUnit

/-- Every unit, shortest first. -/
def all : List TimeUnit := [nanosecond, microsecond, millisecond, second, minute, hour, day]

/-- The name of a unit. -/
def name : TimeUnit → String
  | nanosecond => "nanos"
  | microsecond => "micros"
  | millisecond => "millis"
  | second => "secs"
  | minute => "minutes"
  | hour => "hours"
  | day => "days"

/-- The unit that bears a name. -/
def ofName? (name : String) : Option TimeUnit := all.find? fun unit => unit.name = name

end TimeUnit

/-- A kernel time specification: whole seconds and the nanoseconds left over. -/
structure TimeSpec where
  seconds : UInt64
  nanos : UInt32
  deriving DecidableEq

/-- The time specification of no time at all, which is also a freshly allocated block. -/
def TimeSpec.zero : TimeSpec := ⟨0, 0⟩

/-- A length of time with seconds of its own, larger than a time limit may be. -/
structure Duration where
  seconds : UInt64
  nanos : UInt32
  deriving DecidableEq

namespace Duration

/--
Build a duration from seconds and any number of nanoseconds, carrying whole seconds over.
There is none when the carry does not fit.
-/
def carry? (seconds : UInt64) (nanos : UInt32) : Option Duration :=
  let carried := seconds.toNat + nanos.toNat / 1000000000
  if carried < UInt64.size then
    some ⟨UInt64.ofNat carried, nanos % 1000000000⟩
  else
    none

/-- The whole duration in nanoseconds. -/
def totalNanos (duration : Duration) : Nat :=
  duration.seconds.toNat * 1000000000 + duration.nanos.toNat

end Duration

/-- A relative time limit, in nanoseconds. -/
structure TimeLimit where
  nanos : UInt64
  deriving DecidableEq

namespace TimeLimit

/-- No time at all. -/
def zero : TimeLimit := ⟨0⟩

/-- A limit of whole seconds, saturating. -/
def ofSeconds (seconds : UInt64) : TimeLimit := ⟨saturatingMul seconds nanosPerSecond⟩

/-- A limit of milliseconds, saturating. -/
def ofMillis (millis : UInt64) : TimeLimit := ⟨saturatingMul millis 1000000⟩

/-- A limit of `count` units, saturating. -/
def ofUnit (unit : TimeUnit) (count : UInt64) : TimeLimit :=
  match unit with
  | .nanosecond => ⟨count⟩
  | .microsecond => ⟨saturatingMul count 1000⟩
  | .millisecond => ofMillis count
  | .second => ofSeconds count
  | .minute => ofSeconds (saturatingMul count 60)
  | .hour => ofSeconds (saturatingMul count 3600)
  | .day => ofSeconds (saturatingMul count 86400)

/-- Whole microseconds, rounded down. -/
def micros (limit : TimeLimit) : UInt64 := limit.nanos / 1000

/-- Whole milliseconds, rounded down. -/
def millis (limit : TimeLimit) : UInt64 := limit.nanos / 1000000

/-- The limit as a kernel timer wants it. -/
def timeSpec (limit : TimeLimit) : TimeSpec :=
  ⟨limit.nanos / nanosPerSecond, (limit.nanos % nanosPerSecond).toUInt32⟩

/-- The limit as a duration. -/
def toDuration (limit : TimeLimit) : Duration :=
  ⟨limit.nanos / nanosPerSecond, (limit.nanos % nanosPerSecond).toUInt32⟩

/-- The limit of a duration, or the largest limit when the duration is longer. -/
def ofDuration (duration : Duration) : TimeLimit :=
  ⟨UInt64.ofNat (min duration.totalNanos (UInt64.size - 1))⟩

/-- The limit as people read it. -/
def text (limit : TimeLimit) : String := "Timeout(" ++ toString limit.nanos ++ "ns)"

/-- The limit with its field, as diagnostics show it. -/
def debugText (limit : TimeLimit) : String :=
  "Timeout \x7b nanos: " ++ toString limit.nanos ++ " \x7d"

end TimeLimit

/-- Overwrite a time specification block with a limit. -/
def TimeSpec.set (limit : TimeLimit) (_previous : TimeSpec) : TimeSpec := limit.timeSpec

/-- A reading of a clock that never goes back, in nanoseconds. -/
abbrev Instant := Nat

end CompletionEngine

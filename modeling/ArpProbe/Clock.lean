/-! Instants of the monotonic clock and the time between them, in nanoseconds. -/

namespace ArpProbe

structure Duration where
  nanoseconds : Nat
  deriving DecidableEq, Repr, Inhabited

structure Instant where
  nanoseconds : Nat
  deriving DecidableEq, Repr, Inhabited

namespace Duration

def ofSeconds (n : Nat) : Duration := ⟨n * 1000000000⟩

def ofMicroseconds (n : Nat) : Duration := ⟨n * 1000⟩

def seconds (d : Duration) : Nat := d.nanoseconds / 1000000000

def subsecond (d : Duration) : Nat := d.nanoseconds % 1000000000

def microseconds (d : Duration) : Nat := d.nanoseconds / 1000

def fractionText (width n : Nat) : String :=
  let digits := (Nat.toDigits 10 n).leftpad width '0'
  let kept := (digits.reverse.dropWhile (· == '0')).reverse
  if kept.isEmpty then "" else "." ++ String.ofList kept

def text (d : Duration) : String :=
  let sub := d.subsecond
  if 0 < d.seconds then s!"{d.seconds}{fractionText 9 sub}s"
  else if 1000000 ≤ sub then s!"{sub / 1000000}{fractionText 6 (sub % 1000000)}ms"
  else if 1000 ≤ sub then s!"{sub / 1000}{fractionText 3 (sub % 1000)}µs"
  else s!"{sub}ns"

end Duration

namespace Instant

def after (t : Instant) (d : Duration) : Instant := ⟨t.nanoseconds + d.nanoseconds⟩

def since (t earlier : Instant) : Duration := ⟨t.nanoseconds - earlier.nanoseconds⟩

end Instant

end ArpProbe

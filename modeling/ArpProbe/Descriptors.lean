import ArpProbe.Kernel.Calls

/-! What a probe waits on beside its socket: signals as readable events, those that end a probe
among them, and the timer that tells when the next probe is due. -/

namespace ArpProbe

namespace SignalChannel

def terminating : List Int := [2, 3, 15]

def isTermination (signal : UInt32) : Bool := terminating.contains (signal.toNat : Int)

/-- Whether a number is that of a signal that a program may wait for; two of them are kept by the
threads library. -/
def isSignal (signal : Int) : Bool := 1 ≤ signal && signal ≤ 64 && signal ≠ 32 && signal ≠ 33

def mask (signals : List Int) : List Nat :=
  (List.range 65).filter fun n => signals.contains (n : Int)

def route (signals : List Int) : ExceptT IoError Sys Unit := do
  if ¬ signals.all isSignal then throw (.system Errno.invalid)
  Sys.perform (.sigprocmask (mask signals))
  Sys.perform (.signalfd (mask signals))

end SignalChannel

namespace TimeSpec

/-- The words that hold a time; seconds beyond the signed range wrap around. -/
def ofDuration (d : Duration) : TimeSpec := ⟨Int64.ofNat d.seconds, Int64.ofNat d.subsecond⟩

def ofInstant (t : Instant) : TimeSpec := ofDuration ⟨t.nanoseconds⟩

def add (a b : TimeSpec) : TimeSpec :=
  let nanoseconds := a.nanoseconds + b.nanoseconds
  if nanoseconds < 1000000000 then ⟨a.seconds + b.seconds, nanoseconds⟩
  else ⟨a.seconds + b.seconds + 1, nanoseconds - 1000000000⟩

end TimeSpec

namespace Timer

def start (interval : Duration) (v : Verbosity) : ExceptT IoError Sys Unit := do
  Sys.perform .timerCreate
  let now ← Sys.clock
  let period := TimeSpec.ofDuration interval
  Sys.timerSet ((TimeSpec.ofInstant now).add period) period
  ExceptT.lift (Sys.debug v .high .timer ("interval timer armed every " ++ interval.text))

end Timer

end ArpProbe

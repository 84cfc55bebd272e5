import ArpProbe.Interface
import ArpProbe.Kernel.Basic

/-! Going through interfaces one by one until the answer is known. -/

namespace ArpProbe

inductive Finding where
  | skip
  | candidate (interface : Interface)
  | answer (outcome : Outcome)
  deriving DecidableEq, Repr

namespace Finding

def isWanted (hint : Option String) (name : String) : Bool :=
  match hint with
  | some wanted => wanted = name
  | none => true

def ofFlags (hint : Option String) (flags : UInt32) (dad : Bool) (next : Sys Finding) :
    Sys Finding :=
  match InterfaceFlags.check hint flags dad with
  | .ok true => next
  | .ok false => pure skip
  | .error e => pure (answer (.fatal e))

end Finding

/-- Examines entries in order and stops at an answer or at the second candidate, which settles
that there is no single one. -/
def survey {α : Type} (examine : α → Sys Finding) : List α → List Interface → Sys Outcome
  | [], found => pure (select found)
  | x :: xs, found => do
    match ← examine x with
    | .skip => survey examine xs found
    | .answer outcome => pure outcome
    | .candidate i =>
      if found.isEmpty then survey examine xs [i] else pure (select (found ++ [i]))

end ArpProbe

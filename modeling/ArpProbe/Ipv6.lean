import ArpProbe.Ipv4
import ArpProbe.Text.Basic

/-! Which texts are protocol addresses of version 6: up to eight groups of one to four
hexadecimal digits, one run of groups left out as a double colon, and a dotted address in the
place of the last two groups. Their values are not needed: no probe can go to them. -/

namespace ArpProbe.Ipv6

def dropGroup? (cs : List Char) : Option (List Char) :=
  let isHex := fun c => (Numeral.digit? 16 c).isSome
  let digits := cs.takeWhile isHex
  if digits.isEmpty || 4 < digits.length then none else some (cs.dropWhile isHex)

def dropSeparator? (first : Bool) (cs : List Char) : Option (List Char) :=
  if first then some cs
  else match cs with
    | ':' :: rest => some rest
    | _ => none

structure Run where
  count : Nat
  dotted : Bool
  rest : List Char

/-- Reads up to `room` groups; a dotted address ends the run and takes two of them. -/
def groups : Nat → Bool → List Char → Run
  | 0, _, cs => ⟨0, false, cs⟩
  | room + 1, first, cs =>
    match dropSeparator? first cs with
    | none => ⟨0, false, cs⟩
    | some body =>
      match if room = 0 then none else Ipv4.take? body with
      | some (_, rest) => ⟨2, true, rest⟩
      | none =>
        match dropGroup? body with
        | none => ⟨0, false, cs⟩
        | some rest =>
          let run := groups room false rest
          { run with count := run.count + 1 }

def isLiteral (s : String) : Bool :=
  let head := groups 8 true s.toList
  if head.count = 8 then head.rest.isEmpty
  else if head.dotted then false
  else match head.rest with
    | ':' :: ':' :: cs => (groups (7 - head.count) true cs).rest.isEmpty
    | _ => false

end ArpProbe.Ipv6

import ArpProbe.Text.Basic

/-! Protocol addresses of version 4 and their dotted text. -/

namespace ArpProbe

structure Ipv4 where
  a : UInt8
  b : UInt8
  c : UInt8
  d : UInt8
  deriving DecidableEq, Repr, Inhabited

namespace Ipv4

def unspecified : Ipv4 := ⟨0, 0, 0, 0⟩

def isUnspecified (x : Ipv4) : Bool := x = unspecified

def octets (x : Ipv4) : Octets := [x.a, x.b, x.c, x.d]

def ofOctets : Octets → Ipv4
  | a :: b :: c :: d :: _ => ⟨a, b, c, d⟩
  | _ => unspecified

def text (x : Ipv4) : String :=
  s!"{x.a.toNat}.{x.b.toNat}.{x.c.toNat}.{x.d.toNat}"

instance : ToString Ipv4 := ⟨text⟩

def takeOctet? (cs : List Char) : Option (UInt8 × List Char) :=
  let digits := cs.takeWhile Char.isDigit
  let value := digits.foldl (fun n c => n * 10 + (c.toNat - '0'.toNat)) 0
  if digits.isEmpty || 3 < digits.length || (digits.head? == some '0' && 1 < digits.length)
      || 255 < value then none
  else some (UInt8.ofNat value, cs.dropWhile Char.isDigit)

def takeDot? : List Char → Option (List Char)
  | '.' :: cs => some cs
  | _ => none

def take? (cs : List Char) : Option (Ipv4 × List Char) := do
  let (a, cs) ← takeOctet? cs
  let (b, cs) ← takeDot? cs >>= takeOctet?
  let (c, cs) ← takeDot? cs >>= takeOctet?
  let (d, cs) ← takeDot? cs >>= takeOctet?
  return (⟨a, b, c, d⟩, cs)

def ofText? (s : String) : Option Ipv4 :=
  match take? s.toList with
  | some (x, []) => some x
  | _ => none

end Ipv4

end ArpProbe

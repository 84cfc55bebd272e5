/-! Octets and characters: octet strings as hexadecimal and as UTF-8 text, text split at separators
and at blanks, and integers written in it with an optional sign and at least one digit. -/

namespace ArpProbe

abbrev Octets := List UInt8

def wordOctets (w : UInt16) : Octets := [(w >>> 8).toUInt8, w.toUInt8]

def octetsWord (hi lo : UInt8) : UInt16 := hi.toUInt16 <<< 8 ||| lo.toUInt16

def octetDigits (b : UInt8) : List Char :=
  [Nat.digitChar (b.toNat / 16), Nat.digitChar (b.toNat % 16)]

def hexText (xs : Octets) : String := String.ofList (xs.flatMap octetDigits)

def utf8Text? (xs : Octets) : Option String := String.fromUTF8? ⟨xs.toArray⟩

def utf8Octets (s : String) : Octets := s.toUTF8.data.toList

namespace Text

def fields (separator : Char) : List Char → List (List Char)
  | [] => [[]]
  | c :: cs =>
    if c = separator then [] :: fields separator cs
    else match fields separator cs with
      | [] => [[c]]
      | f :: fs => (c :: f) :: fs

def isBlank (c : Char) : Bool :=
  let n := c.toNat
  (9 ≤ n && n ≤ 13) || n = 0x20 || n = 0x85 || n = 0xa0 || n = 0x1680 ||
    (0x2000 ≤ n && n ≤ 0x200a) || n = 0x2028 || n = 0x2029 || n = 0x202f || n = 0x205f ||
    n = 0x3000

def firstWord? (cs : List Char) : Option (List Char) :=
  let word := (cs.dropWhile isBlank).takeWhile (!isBlank ·)
  if word.isEmpty then none else some word

end Text

namespace Numeral

def bound (bits : Nat) : Nat := Nat.pow 2 bits

def digit? (base : Nat) (c : Char) : Option Nat :=
  let value :=
    if c.isDigit then some (c.toNat - '0'.toNat)
    else if c.isLower then some (c.toNat - 'a'.toNat + 10)
    else if c.isUpper then some (c.toNat - 'A'.toNat + 10)
    else none
  value.filter (· < base)

def ofDigits? (base : Nat) (cs : List Char) : Option Nat :=
  if cs.isEmpty then none
  else cs.foldlM (fun n c => (digit? base c).map (n * base + ·)) 0

def natural? (base bound : Nat) : List Char → Option Nat
  | '+' :: cs => (ofDigits? base cs).filter (· < bound)
  | cs => (ofDigits? base cs).filter (· < bound)

def integer? (base bound : Nat) : List Char → Option Int
  | '-' :: cs => ((ofDigits? base cs).filter (· ≤ bound)).map fun n => -(n : Int)
  | cs => (natural? base bound cs).map fun n => (n : Int)

def decimal64? (s : String) : Option Nat := natural? 10 (bound 64) s.toList

def hexadecimal64? (s : String) : Option Nat :=
  match s.toList with
  | '0' :: 'x' :: cs => natural? 16 (bound 64) cs
  | '0' :: 'X' :: cs => natural? 16 (bound 64) cs
  | cs => natural? 16 (bound 64) cs

end Numeral

end ArpProbe

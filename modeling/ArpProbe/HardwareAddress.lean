import ArpProbe.Text.Basic

/-! Hardware addresses as text: pairs of hexadecimal digits joined by colons. Writing uses
upper case; reading takes either case, a single digit, and a plus sign before one digit. -/

namespace ArpProbe.HardwareAddress

def upperPair (b : UInt8) : List Char := (octetDigits b).map Char.toUpper

def chars : Octets → List Char
  | [] => []
  | [b] => upperPair b
  | b :: bs => upperPair b ++ ':' :: chars bs

def text (addr : Octets) : String := String.ofList (chars addr)

def ofField? : List Char → Option UInt8
  | [d] => (Numeral.digit? 16 d).map UInt8.ofNat
  | ['+', d] => (Numeral.digit? 16 d).map UInt8.ofNat
  | [h, l] => do
    let high ← Numeral.digit? 16 h
    let low ← Numeral.digit? 16 l
    return UInt8.ofNat (high * 16 + low)
  | _ => none

def ofChars? (cs : List Char) (length : Nat) : Option Octets :=
  ((Text.fields ':' cs).mapM ofField?).filter (·.length = length)

def ofText? (s : String) (length : Nat) : Option Octets := ofChars? s.toList length

end ArpProbe.HardwareAddress

import ArpProbe.Text.Basic
import Mathlib.Data.Nat.Basic

/-! Numbers in decimal digits, with zeros and a sign in front if one likes. Every such text is read
as its number, within the range that is asked for. -/

namespace ArpProbe.Numeral

variable {digits text : List Char} {n bound : Nat}

def IsDecimal (digits : List Char) (n : Nat) : Prop :=
  digits ≠ [] ∧ (∀ c ∈ digits, c.isDigit = true) ∧ Nat.ofDigitChars 10 digits 0 = n

def IsNatural (text : List Char) (n : Nat) : Prop :=
  ∃ digits, IsDecimal digits n ∧ (text = digits ∨ text = '+' :: digits)

inductive IsInteger : List Char → Int → Prop
  | natural {text : List Char} {n : Nat} (written : IsNatural text n) : IsInteger text n
  | negative {digits : List Char} {n : Nat} (written : IsDecimal digits n) :
    IsInteger ('-' :: digits) (-n)

theorem isDecimal_toDigits (n : Nat) : IsDecimal (Nat.toDigits 10 n) n :=
  ⟨Nat.toDigits_ne_nil, fun _ => Nat.isDigit_of_mem_toDigits (by decide) (by decide),
    Nat.ofDigitChars_ten_toDigits⟩

theorem digit?_of_isDigit {c : Char} (digit : c.isDigit = true) :
    digit? 10 c = some (c.toNat - '0'.toNat) := by
  have range : c.toNat - '0'.toNat < 10 := by
    have bounds : 48 ≤ c.toNat ∧ c.toNat ≤ 57 := Char.isDigit_iff_toNat.mp digit
    have zero : '0'.toNat = 48 := rfl
    omega
  rw [digit?, if_pos digit]
  exact Option.filter_eq_some_iff.mpr ⟨rfl, decide_eq_true range⟩

theorem foldlM_digits (decimal : ∀ c ∈ digits, c.isDigit = true) (start : Nat) :
    digits.foldlM (fun n c => (digit? 10 c).map (n * 10 + ·)) start =
      some (Nat.ofDigitChars 10 digits start) := by
  induction digits generalizing start with
  | nil => rfl
  | cons c cs ih =>
    have first := digit?_of_isDigit (decimal c List.mem_cons_self)
    rw [List.foldlM_cons, first, Option.map_some, Nat.ofDigitChars_cons, Nat.mul_comm]
    exact ih (fun c later => decimal c (.tail _ later)) _

theorem IsDecimal.read (written : IsDecimal digits n) : ofDigits? 10 digits = some n := by
  obtain ⟨some, decimal, rfl⟩ := written
  rw [ofDigits?, List.isEmpty_eq_false_iff.mpr some]
  exact foldlM_digits decimal 0

theorem IsDecimal.unsigned {sign : Char} {cs : List Char} (written : IsDecimal digits n)
    (mark : sign.isDigit = false) : digits ≠ sign :: cs := by
  rintro rfl
  exact absurd (written.2.1 sign List.mem_cons_self) (by simp [mark])

theorem IsNatural.read (written : IsNatural text n) (small : n < bound) :
    natural? 10 bound text = some n := by
  obtain ⟨digits, decimal, whole⟩ := written
  have value : (ofDigits? 10 digits).filter (· < bound) = some n := by
    rw [decimal.read]
    exact Option.filter_eq_some_iff.mpr ⟨rfl, decide_eq_true small⟩
  rcases whole with rfl | rfl
  · unfold natural?
    split
    · exact absurd rfl (decimal.unsigned rfl)
    · exact value
  · exact value

theorem IsInteger.read {m : Int} (written : IsInteger text m) (low : -(bound : Int) ≤ m)
    (high : m < bound) : integer? 10 bound text = some m := by
  cases written with
  | @natural _ n written =>
    have value : natural? 10 bound text = some n := written.read (by omega)
    obtain ⟨digits, decimal, whole⟩ := written
    unfold integer?
    split
    · rcases whole with rfl | signed
      · exact absurd rfl (decimal.unsigned rfl)
      · cases signed
    · rw [value]
      rfl
  | @negative digits n written =>
    have value : (ofDigits? 10 digits).filter (· ≤ bound) = some n := by
      rw [written.read]
      exact Option.filter_eq_some_iff.mpr ⟨rfl, decide_eq_true (by omega)⟩
    rw [integer?, value]
    rfl

end ArpProbe.Numeral

import ArpProbe.Ipv4
import ArpProbe.Proofs.Text.Reading

/-! Writing that can be told from the text behind it. A line is put together from parts that are
legible before each other, and then it shows every one of them. -/

namespace ArpProbe

namespace Text

theorem toString_self (s : String) : toString s = s := rfl

variable {α β : Type} {write : α → List Char} {follows : List Char → Prop} {inside : Char → Bool}

/-- Whoever knows what kind of text comes next can tell what was written, and where it ends. -/
def IsLegible (write : α → List Char) (follows : List Char → Prop) : Prop :=
  ∀ ⦃a b : α⦄ ⦃r s : List Char⦄, follows r → follows s → write a ++ r = write b ++ s → a = b ∧ r = s

/-- The text does not go on with a character of the class. -/
def Leaves (inside : Char → Bool) (r : List Char) : Prop := ∀ c ∈ r.head?, inside c = false

theorem leaves_cons {c : Char} {r : List Char} : Leaves inside (c :: r) ↔ inside c = false := by
  simp only [Leaves, List.head?_cons, Option.mem_some_iff, forall_eq']

theorem takeWhile_of_leaves {a r : List Char} (within : ∀ c ∈ a, inside c = true)
    (leaves : Leaves inside r) : (a ++ r).takeWhile inside = a := by
  have stop : r.takeWhile inside = [] := by
    cases r with
    | nil => rfl
    | cons c cs => exact List.takeWhile_cons_of_neg (by simp [leaves_cons.mp leaves])
  rw [List.takeWhile_append_of_pos within, stop, List.append_nil]

namespace IsLegible

theorem of_class (injective : Function.Injective write)
    (within : ∀ a, ∀ c ∈ write a, inside c = true) : IsLegible write (Leaves inside) := by
  intro a b r s left right same
  have written : write a = write b := by
    rw [← takeWhile_of_leaves (within a) left, same, takeWhile_of_leaves (within b) right]
  rw [written, List.append_cancel_left_eq] at same
  exact ⟨injective written, same⟩

theorem injective (legible : IsLegible write follows) (ends : follows []) :
    Function.Injective write := by
  intro a b same
  exact (legible ends ends (congrArg (· ++ []) same)).1

theorem append {first : α → List Char} {second : β → List Char} {between : List Char → Prop}
    (legible₁ : IsLegible first between) (legible₂ : IsLegible second follows)
    (meets : ∀ b r, follows r → between (second b ++ r)) :
    IsLegible (fun x : α × β => first x.1 ++ second x.2) follows := by
  rintro ⟨a, a'⟩ ⟨b, b'⟩ r s left right same
  rw [List.append_assoc, List.append_assoc] at same
  obtain ⟨rfl, rest⟩ := legible₁ (meets a' r left) (meets b' s right) same
  obtain ⟨rfl, rfl⟩ := legible₂ left right rest
  exact ⟨rfl, rfl⟩

theorem prepend (mark : List Char) (legible : IsLegible write follows) :
    IsLegible (fun a => mark ++ write a) follows := by
  intro a b r s left right same
  rw [List.append_assoc, List.append_assoc, List.append_cancel_left_eq] at same
  exact legible left right same

theorem closed {mark : List Char} (legible : IsLegible write follows)
    (ends : ∀ r, follows (mark ++ r)) : IsLegible (fun a => write a ++ mark) fun _ => True := by
  intro a b r s _ _ same
  rw [List.append_assoc, List.append_assoc] at same
  obtain ⟨rfl, rest⟩ := legible (ends r) (ends s) same
  exact ⟨rfl, List.append_cancel_left rest⟩

theorem comp {γ : Type} {view : γ → α} (legible : IsLegible write follows)
    (injective : Function.Injective view) : IsLegible (fun c => write (view c)) follows := by
  intro a b r s left right same
  obtain ⟨seen, rest⟩ := legible left right same
  exact ⟨injective seen, rest⟩

theorem mono {follows' : List Char → Prop} (legible : IsLegible write follows)
    (fewer : ∀ r, follows' r → follows r) : IsLegible write follows' :=
  fun _ _ _ _ left right same => legible (fewer _ left) (fewer _ right) same

theorem either {yes no : List Char} (apart : ∀ r s, yes ++ r ≠ no ++ s) :
    IsLegible (fun b : Bool => if b then yes else no) fun _ => True := by
  intro a b r s _ _ same
  cases a <;> cases b
  · exact ⟨rfl, List.append_cancel_left same⟩
  · exact absurd same.symm (apart s r)
  · exact absurd same (apart r s)
  · exact ⟨rfl, List.append_cancel_left same⟩

end IsLegible

def optionally (write : α → List Char) : Option α → List Char
  | none => []
  | some a => write a

theorem IsLegible.optionally (legible : IsLegible write follows)
    (begins : ∀ a, ∃ c ∈ (write a).head?, inside c = true)
    (leaves : ∀ r, follows r → Leaves inside r) : IsLegible (Text.optionally write) follows := by
  -- What comes behind cannot be mistaken for the part.
  have apart {a : α} {r s : List Char} (right : follows s) : write a ++ r ≠ s := by
    intro same
    obtain ⟨c, first, within⟩ := begins a
    have head : s.head? = some c := by
      rw [← same, List.head?_append, Option.mem_def.mp first]
      rfl
    exact absurd within (by simp [leaves s right c head])
  intro a b r s left right same
  cases a with
  | none =>
    cases b with
    | none => exact ⟨rfl, same⟩
    | some b => exact absurd same.symm (apart left)
  | some a =>
    cases b with
    | none => exact absurd same (apart right)
    | some b =>
      obtain ⟨rfl, rest⟩ := legible left right same
      exact ⟨rfl, rest⟩

end Text

open Text

namespace Numeral

theorem toDigits_injective : Function.Injective (Nat.toDigits 10) := by
  intro m n same
  calc
    m = Nat.ofDigitChars 10 (Nat.toDigits 10 m) 0 := Nat.ofDigitChars_ten_toDigits.symm
    _ = Nat.ofDigitChars 10 (Nat.toDigits 10 n) 0 := congrArg (Nat.ofDigitChars 10 · 0) same
    _ = n := Nat.ofDigitChars_ten_toDigits

theorem decimal_legible : IsLegible (Nat.toDigits 10) (Leaves Char.isDigit) :=
  .of_class toDigits_injective fun _ _ => Nat.isDigit_of_mem_toDigits (by decide) (by decide)

theorem head_toDigits (n : Nat) : ∃ c ∈ (Nat.toDigits 10 n).head?, c.isDigit = true := by
  obtain ⟨c, cs, digits⟩ := List.exists_cons_of_ne_nil (@Nat.toDigits_ne_nil n 10)
  have digit : c ∈ Nat.toDigits 10 n := digits ▸ List.mem_cons_self
  exact ⟨c, digits ▸ rfl, Nat.isDigit_of_mem_toDigits (by decide) (by decide) digit⟩

theorem ofDigitChars_leftpad (places n : Nat) :
    Nat.ofDigitChars 10 ((Nat.toDigits 10 n).leftpad places '0') 0 = n := by
  rw [List.leftpad, Nat.ofDigitChars_append, Nat.ofDigitChars_replicate_zero, Nat.mul_zero,
    Nat.ofDigitChars_ten_toDigits]

theorem padded_legible (places : Nat) :
    IsLegible (fun n => (Nat.toDigits 10 n).leftpad places '0') (Leaves Char.isDigit) := by
  refine .of_class (fun m n same => ?_) fun n c member => ?_
  · calc
      m = Nat.ofDigitChars 10 ((Nat.toDigits 10 m).leftpad places '0') 0 :=
        (ofDigitChars_leftpad places m).symm
      _ = Nat.ofDigitChars 10 ((Nat.toDigits 10 n).leftpad places '0') 0 :=
        congrArg (Nat.ofDigitChars 10 · 0) same
      _ = n := ofDigitChars_leftpad places n
  · rcases List.mem_append.mp member with zero | digit
    · rw [List.eq_of_mem_replicate zero]
      rfl
    · exact Nat.isDigit_of_mem_toDigits (by decide) (by decide) digit

end Numeral

namespace Ipv4

def chars (x : Ipv4) : List Char :=
  Nat.toDigits 10 x.a.toNat ++ '.' :: (Nat.toDigits 10 x.b.toNat ++ '.' ::
    (Nat.toDigits 10 x.c.toNat ++ '.' :: Nat.toDigits 10 x.d.toNat))

theorem toList_text (x : Ipv4) : x.text.toList = x.chars := by
  simp [text, chars, toString_self]

theorem chars_legible : IsLegible chars (Leaves Char.isDigit) := by
  intro x y r s left right same
  have dot {r : List Char} : Leaves Char.isDigit ('.' :: r) := leaves_cons.mpr rfl
  simp only [chars, List.append_assoc, List.cons_append] at same
  obtain ⟨a, same⟩ := Numeral.decimal_legible dot dot same
  obtain ⟨b, same⟩ := Numeral.decimal_legible dot dot (List.tail_eq_of_cons_eq same)
  obtain ⟨c, same⟩ := Numeral.decimal_legible dot dot (List.tail_eq_of_cons_eq same)
  obtain ⟨d, rest⟩ := Numeral.decimal_legible left right (List.tail_eq_of_cons_eq same)
  rw [UInt8.toNat_inj] at a b c d
  exact ⟨Ipv4.mk.injEq .. ▸ ⟨a, b, c, d⟩, rest⟩

theorem head_chars (x : Ipv4) : ∃ c ∈ x.chars.head?, c.isDigit = true := by
  obtain ⟨c, first, digit⟩ := Numeral.head_toDigits x.a.toNat
  refine ⟨c, ?_, digit⟩
  rw [chars, List.head?_append, Option.mem_def.mp first]
  rfl

end Ipv4

end ArpProbe

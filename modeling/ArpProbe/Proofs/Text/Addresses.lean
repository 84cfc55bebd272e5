import ArpProbe.Proofs.Text.Legible
import Mathlib.Data.List.Forall2

/-! The grammar of hardware addresses: fields of hexadecimal digits with colons between them.
Reading takes exactly these texts, and among them every address as it is written. -/

namespace ArpProbe

namespace Text

variable {separator : Char}

theorem mapM_eq_some_iff {α β : Type} {f : α → Option β} {xs : List α} {ys : List β} :
    xs.mapM f = some ys ↔ List.Forall₂ (fun x y => f x = some y) xs ys := by
  induction xs generalizing ys with
  | nil =>
    rw [List.mapM_nil, List.forall₂_nil_left_iff, eq_comm]
    exact Option.some_inj
  | cons x xs ih =>
    rw [List.mapM_cons, List.forall₂_cons_left_iff]
    constructor
    · intro mapped
      obtain ⟨y, first, rest⟩ := Option.bind_eq_some_iff.mp mapped
      obtain ⟨ys', others, whole⟩ := Option.bind_eq_some_iff.mp rest
      exact ⟨y, ys', first, ih.mp others, (Option.some_inj.mp whole).symm⟩
    · rintro ⟨y, ys', first, others, rfl⟩
      rw [first, ih.mpr others]
      rfl

theorem fields_ne_nil (cs : List Char) : fields separator cs ≠ [] := by
  cases cs with
  | nil => exact List.cons_ne_nil _ _
  | cons c cs =>
    rw [fields]
    split
    · exact List.cons_ne_nil _ _
    · split <;> exact List.cons_ne_nil _ _

theorem intercalate_fields (cs : List Char) :
    List.intercalate [separator] (fields separator cs) = cs := by
  induction cs with
  | nil => rfl
  | cons c cs ih =>
    rw [fields]
    split
    · next same => rw [List.intercalate_cons_of_ne_nil (fields_ne_nil cs), ih, same]; rfl
    · split
      · next none => exact absurd none (fields_ne_nil cs)
      · next f fs split => rw [List.intercalate_cons_cons_left, ← split, ih]

end Text

namespace HardwareAddress

def lowerDigits : List Char := "0123456789abcdef".toList

def upperDigits : List Char := "0123456789ABCDEF".toList

def IsDigit (c : Char) (value : Nat) : Prop :=
  lowerDigits[value]? = some c ∨ upperDigits[value]? = some c

/-- How one octet may be written: with one digit, with a plus sign before it, or with two digits. -/
inductive Spells : List Char → UInt8 → Prop
  | digit {c : Char} {n : Nat} (low : IsDigit c n) : Spells [c] (.ofNat n)
  | signed {c : Char} {n : Nat} (low : IsDigit c n) : Spells ['+', c] (.ofNat n)
  | pair {c c' : Char} {n n' : Nat} (high : IsDigit c n) (low : IsDigit c' n') :
    Spells [c, c'] (.ofNat (16 * n + n'))

def Denotes (s : String) (length : Nat) (addr : Octets) : Prop :=
  ∃ fields : List (List Char), s.toList = List.intercalate [':'] fields ∧ fields.length = length ∧
    1 ≤ length ∧ List.Forall₂ Spells fields addr

variable {c : Char} {n : Nat} {b : UInt8} {field : List Char} {addr : Octets}

theorem digit?_of_isDigit (digit : IsDigit c n) : Numeral.digit? 16 c = some n := by
  have read {digits : List Char}
      (values : digits.map (Numeral.digit? 16) = (List.range 16).map some)
      (shown : digits[n]? = some c) : Numeral.digit? 16 c = some n := by
    have place : ((List.range 16).map some)[n]? = some (Numeral.digit? 16 c) := by
      rw [← values, List.getElem?_map, shown]
      rfl
    rw [List.getElem?_map] at place
    obtain ⟨m, stands, same⟩ := Option.map_eq_some_iff.mp place
    obtain ⟨bound, rfl⟩ := List.getElem?_eq_some_iff.mp stands
    rw [← same, List.getElem_range]
  rcases digit with lower | upper
  · exact read (by decide) lower
  · exact read (by decide) upper

theorem isDigit_of_digit? (read : Numeral.digit? 16 c = some n) : IsDigit c n := by
  have tables : (∀ d < 10, lowerDigits[d]? = some (Char.ofNat (48 + d))) ∧
      (∀ d < 6, lowerDigits[d + 10]? = some (Char.ofNat (97 + d))) ∧
      ∀ d < 6, upperDigits[d + 10]? = some (Char.ofNat (65 + d)) := by decide
  obtain ⟨decimals, lowers, uppers⟩ := tables
  simp only [Numeral.digit?, Option.filter_eq_some_iff, decide_eq_true_eq] at read
  obtain ⟨value, small⟩ := read
  have same {start d : Nat} (place : c.toNat = start + d) : Char.ofNat (start + d) = c := by
    rw [← place, Char.ofNat_toNat]
  split at value
  · next digit =>
    have range : 48 ≤ c.toNat ∧ c.toNat ≤ 57 := Char.isDigit_iff_toNat.mp digit
    obtain rfl : c.toNat - 48 = n := Option.some_inj.mp value
    exact .inl ((decimals _ (by omega)).trans (congrArg some (same (by omega))))
  · split at value
    · next lower =>
      have range : 97 ≤ c.toNat ∧ c.toNat ≤ 122 := by
        obtain ⟨low, high⟩ := Bool.and_eq_true_iff.mp lower
        exact ⟨of_decide_eq_true low, of_decide_eq_true high⟩
      obtain rfl : c.toNat - 97 + 10 = n := Option.some_inj.mp value
      exact .inl ((lowers _ (by omega)).trans (congrArg some (same (by omega))))
    · split at value
      · next upper =>
        have range : 65 ≤ c.toNat ∧ c.toNat ≤ 90 := of_decide_eq_true upper
        obtain rfl : c.toNat - 65 + 10 = n := Option.some_inj.mp value
        exact .inr ((uppers _ (by omega)).trans (congrArg some (same (by omega))))
      · cases value

theorem digit?_iff : Numeral.digit? 16 c = some n ↔ IsDigit c n :=
  ⟨isDigit_of_digit?, digit?_of_isDigit⟩

theorem ne_of_isDigit {c' : Char} (digit : IsDigit c n) (other : Numeral.digit? 16 c' = none) :
    c ≠ c' := by
  rintro rfl
  cases other.symm.trans (digit?_of_isDigit digit)

theorem ofField?_iff : ofField? field = some b ↔ Spells field b := by
  constructor
  · intro read
    unfold ofField? at read
    split at read
    · obtain ⟨n, value, rfl⟩ := Option.map_eq_some_iff.mp read
      exact .digit (digit?_iff.mp value)
    · obtain ⟨n, value, rfl⟩ := Option.map_eq_some_iff.mp read
      exact .signed (digit?_iff.mp value)
    · obtain ⟨high, first, rest⟩ := Option.bind_eq_some_iff.mp read
      obtain ⟨low, second, whole⟩ := Option.bind_eq_some_iff.mp rest
      obtain rfl : UInt8.ofNat (high * 16 + low) = b := Option.some_inj.mp whole
      rw [Nat.mul_comm]
      exact .pair (digit?_iff.mp first) (digit?_iff.mp second)
    · cases read
  · intro spelled
    cases spelled with
    | digit low => rw [ofField?, digit?_of_isDigit low]; rfl
    | signed low => rw [ofField?, digit?_of_isDigit low]; rfl
    | @pair c c' n n' high low =>
      have unsigned : c ≠ '+' := ne_of_isDigit high rfl
      rw [ofField?, digit?_of_isDigit high, digit?_of_isDigit low, Nat.mul_comm]
      · rfl
      · exact fun sign => absurd sign unsigned

theorem Spells.clean (spelled : Spells field b) : ':' ∉ field := by
  have colon {c : Char} {n : Nat} (digit : IsDigit c n) : ':' ≠ c := (ne_of_isDigit digit rfl).symm
  cases spelled with
  | digit low => simp [colon low]
  | signed low => simp [colon low]
  | pair high low => simp [colon high, colon low]

theorem spells_upperPair (b : UInt8) : Spells (upperPair b) b := by
  have digits : ∀ d < 16, upperDigits[d]? = some (Nat.digitChar d).toUpper := by decide
  have high : b.toNat / 16 < 16 := Nat.div_lt_of_lt_mul b.toNat_lt
  have low : b.toNat % 16 < 16 := Nat.mod_lt _ (by decide)
  have spelled := Spells.pair (.inr (digits _ high)) (.inr (digits _ low))
  rwa [Nat.div_add_mod, UInt8.ofNat_toNat] at spelled

theorem chars_eq (addr : Octets) : chars addr = List.intercalate [':'] (addr.map upperPair) := by
  induction addr with
  | nil => rfl
  | cons b bs ih =>
    cases bs with
    | nil =>
      rw [List.map_singleton, List.intercalate_singleton]
      rfl
    | cons b' bs =>
      rw [List.map_cons, List.map_cons, List.intercalate_cons_cons, List.append_assoc,
        List.singleton_append, ← List.map_cons, ← ih]
      rfl

theorem spells_map (addr : Octets) : List.Forall₂ Spells (addr.map upperPair) addr := by
  rw [List.forall₂_map_left_iff, List.forall₂_same]
  exact fun b _ => spells_upperPair b

theorem mapM_fields_iff {cs : List Char} : (Text.fields ':' cs).mapM ofField? = some addr ↔
    addr ≠ [] ∧ ∃ fields, cs = List.intercalate [':'] fields ∧ List.Forall₂ Spells fields addr := by
  simp only [Text.mapM_eq_some_iff, ofField?_iff]
  constructor
  · intro spelled
    refine ⟨?_, _, (Text.intercalate_fields cs).symm, spelled⟩
    rintro rfl
    exact Text.fields_ne_nil cs (List.forall₂_nil_right_iff.mp spelled)
  · rintro ⟨written, fields, rfl, spelled⟩
    have some : fields ≠ [] := by
      rintro rfl
      exact written (List.forall₂_nil_left_iff.mp spelled)
    -- No octet is spelled with a colon, so splitting undoes the joining.
    have clean : ∀ field ∈ fields, ':' ∉ field := by
      intro field member
      obtain ⟨i, bound, rfl⟩ := List.getElem_of_mem member
      exact (spelled.get bound (spelled.length_eq ▸ bound)).clean
    rwa [Text.fields_intercalate some clean]

theorem mapM_fields_chars (written : addr ≠ []) :
    (Text.fields ':' (chars addr)).mapM ofField? = some addr :=
  mapM_fields_iff.mpr ⟨written, _, chars_eq addr, spells_map addr⟩

theorem fields_leftInverse :
    Function.LeftInverse (fun cs => ((Text.fields ':' cs).mapM ofField?).getD []) chars := by
  intro addr
  by_cases none : addr = []
  · subst none
    rfl
  · exact congrArg (Option.getD · []) (mapM_fields_chars none)

theorem chars_injective : Function.Injective chars := fields_leftInverse.injective

theorem ofText?_iff_denotes {s : String} {length : Nat} :
    ofText? s length = some addr ↔ Denotes s length addr := by
  rw [ofText?, ofChars?, Option.filter_eq_some_iff, mapM_fields_iff, decide_eq_true_eq]
  constructor
  · rintro ⟨⟨written, fields, joined, spelled⟩, rfl⟩
    exact ⟨fields, joined, spelled.length_eq, List.length_pos_iff.mpr written, spelled⟩
  · rintro ⟨fields, joined, rfl, some, spelled⟩
    rw [spelled.length_eq] at some
    exact ⟨⟨List.length_pos_iff.mp some, fields, joined, spelled⟩, spelled.length_eq.symm⟩

/-- Text is read as an address of some length just where it denotes one, so an address that was
written is read back unless it is empty, and no two are written alike. -/
theorem reading_exact :
    (∀ (s : String) (length : Nat) (addr : Octets),
        ofText? s length = some addr ↔ Denotes s length addr) ∧
      (∀ (s : String) (length : Nat),
        ofText? s length = none ↔ ∀ addr, ¬ Denotes s length addr) ∧
      (∀ (addr : Octets) (length : Nat),
        ofText? (text addr) length = some addr ↔ addr ≠ [] ∧ length = addr.length) ∧
      Function.Injective text := by
  refine ⟨fun _ _ _ => ofText?_iff_denotes, fun s length => ?_, fun addr length => ?_, ?_⟩
  · simp only [← ofText?_iff_denotes, Option.eq_none_iff_forall_ne_some, ne_eq]
  · rw [ofText?, ofChars?, text, String.toList_ofList, Option.filter_eq_some_iff,
      decide_eq_true_eq, @eq_comm _ length]
    refine and_congr_left fun _ => ⟨fun read => (mapM_fields_iff.mp read).1, mapM_fields_chars⟩
  · intro a b same
    exact chars_injective (String.ofList_injective same)

example : ofText? "2:+a:fF" 3 = some [2, 10, 255] := by decide

end HardwareAddress

end ArpProbe

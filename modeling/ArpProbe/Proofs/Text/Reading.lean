import ArpProbe.HardwareAddress
import ArpProbe.Text.Basic
import Mathlib.Data.List.Basic

/-! Text that is read as what it was written from: octets as the text that they encode, the first
word of a line, the fields of a joined list, numerals and hardware addresses. -/

namespace ArpProbe

theorem utf8Text?_eq_some_iff {octets : Octets} {s : String} :
    utf8Text? octets = some s ↔ utf8Octets s = octets := by
  unfold utf8Text? utf8Octets String.fromUTF8?
  constructor
  · intro read
    split at read
    · cases read
      rfl
    · cases read
  · rintro rfl
    exact dif_pos s.isValidUTF8

namespace Text

variable {separator : Char}

theorem firstWord?_line {word : List Char} (solid : ∀ c ∈ word, isBlank c = false)
    (written : word ≠ []) : firstWord? (word ++ ['\n']) = some word := by
  obtain ⟨c, cs, rfl⟩ := List.exists_cons_of_ne_nil written
  have start : (c :: cs ++ ['\n']).dropWhile isBlank = c :: cs ++ ['\n'] :=
    List.dropWhile_cons_of_neg (by simp [solid c List.mem_cons_self])
  have stop : (c :: cs ++ ['\n']).takeWhile (!isBlank ·) = c :: cs := by
    rw [List.takeWhile_append_of_pos (by simpa using solid)]
    exact List.append_nil _
  unfold firstWord?
  simp only [start, stop]
  rfl

theorem fields_of_clean {part : List Char} (clean : separator ∉ part) :
    fields separator part = [part] := by
  induction part with
  | nil => rfl
  | cons c cs ih =>
    rw [List.mem_cons, not_or] at clean
    rw [fields, if_neg (Ne.symm clean.1), ih clean.2]

theorem fields_append {part : List Char} (clean : separator ∉ part) (rest : List Char) :
    fields separator (part ++ separator :: rest) = part :: fields separator rest := by
  induction part with
  | nil => exact if_pos rfl
  | cons c cs ih =>
    rw [List.mem_cons, not_or] at clean
    rw [List.cons_append, fields, if_neg (Ne.symm clean.1), ih clean.2]

theorem fields_intercalate {parts : List (List Char)} (written : parts ≠ [])
    (clean : ∀ part ∈ parts, separator ∉ part) :
    fields separator (List.intercalate [separator] parts) = parts := by
  induction parts with
  | nil => exact absurd rfl written
  | cons part parts ih =>
    have first : separator ∉ part := clean part List.mem_cons_self
    cases parts with
    | nil =>
      rw [List.intercalate_singleton]
      exact fields_of_clean first
    | cons next others =>
      rw [List.intercalate_cons_cons, List.append_assoc, List.singleton_append,
        fields_append first, ih (List.cons_ne_nil _ _) fun p h => clean p (.tail _ h)]

end Text

namespace Numeral

variable {base n : Nat}

theorem digit?_digitChar {digit : Nat} (fits : base ≤ 16) (small : digit < base) :
    digit? base (Nat.digitChar digit) = some digit := by
  have value : ∀ d < 16, digit? 16 (Nat.digitChar d) = some d := by decide
  have read := value digit (by omega)
  simp only [digit?, Option.filter_eq_some_iff] at read ⊢
  exact ⟨read.1, decide_eq_true small⟩

theorem mem_toDigits {c : Char} (wide : 1 < base) (digit : c ∈ Nat.toDigits base n) :
    ∃ d < base, c = Nat.digitChar d := by
  induction n using Nat.strongRecOn with
  | ind n ih =>
    rcases Nat.lt_or_ge n base with small | large
    · rw [Nat.toDigits_of_lt_base small, List.mem_singleton] at digit
      exact ⟨n, small, digit⟩
    · rw [Nat.toDigits_of_base_le wide large, List.mem_append, List.mem_singleton] at digit
      rcases digit with front | last
      · exact ih (n / base) (Nat.div_lt_self (by omega) wide) front
      · exact ⟨n % base, Nat.mod_lt n (by omega), last⟩

theorem foldlM_toDigits (wide : 1 < base) (fits : base ≤ 16) :
    (Nat.toDigits base n).foldlM (fun n c => (digit? base c).map (n * base + ·)) 0 = some n := by
  induction n using Nat.strongRecOn with
  | ind n ih =>
    rcases Nat.lt_or_ge n base with small | large
    · rw [Nat.toDigits_of_lt_base small, List.foldlM_cons, digit?_digitChar fits small]
      simp
    · have last : n % base < base := Nat.mod_lt n (by omega)
      rw [Nat.toDigits_of_base_le wide large, List.foldlM_append,
        ih (n / base) (Nat.div_lt_self (by omega) wide)]
      simp [digit?_digitChar fits last, Nat.div_add_mod']

theorem natural?_toDigits {bound : Nat} (wide : 1 < base) (fits : base ≤ 16) (small : n < bound) :
    natural? base bound (Nat.toDigits base n) = some n := by
  have read : ofDigits? base (Nat.toDigits base n) = some n := by
    rw [ofDigits?, List.isEmpty_eq_false_iff.mpr Nat.toDigits_ne_nil]
    exact foldlM_toDigits wide fits
  unfold natural?
  split
  · next cs digits =>
    have sign : '+' ∈ Nat.toDigits base n := digits ▸ List.mem_cons_self
    obtain ⟨d, -, plus⟩ := mem_toDigits wide sign
    exact absurd plus.symm (Nat.digitChar_ne '+' rfl)
  · rw [read]
    simp [small]

theorem solid_digitChar : ∀ digit < 16, Text.isBlank (Nat.digitChar digit) = false := by decide

theorem solid_toDigits (wide : 1 < base) (fits : base ≤ 16) :
    ∀ c ∈ Nat.toDigits base n, Text.isBlank c = false := by
  intro c digit
  obtain ⟨d, small, rfl⟩ := mem_toDigits wide digit
  exact solid_digitChar d (Nat.lt_of_lt_of_le small fits)

theorem decimal64?_toDigits (small : n < bound 64) :
    decimal64? (String.ofList (Nat.toDigits 10 n)) = some n := by
  rw [decimal64?, String.toList_ofList]
  exact natural?_toDigits (by decide) (by decide) small

theorem hexadecimal64?_toDigits (small : n < bound 64) :
    hexadecimal64? (String.ofList ('0' :: 'x' :: Nat.toDigits 16 n)) = some n := by
  rw [hexadecimal64?, String.toList_ofList]
  exact natural?_toDigits (by decide) (by decide) small

end Numeral

namespace HardwareAddress

def lowerChars (addr : Octets) : List Char := List.intercalate [':'] (addr.map octetDigits)

theorem ofField?_octetDigits (b : UInt8) : ofField? (octetDigits b) = some b := by
  have high : b.toNat / 16 < 16 := Nat.div_lt_of_lt_mul b.toNat_lt
  have low : b.toNat % 16 < 16 := Nat.mod_lt _ (by decide)
  have unsigned : Nat.digitChar (b.toNat / 16) ≠ '+' := Nat.digitChar_ne '+' rfl
  unfold ofField? octetDigits
  split
  · next one => cases one
  · next signed =>
    injection signed with sign
    exact absurd sign unsigned
  · next pair =>
    obtain ⟨rfl, rfl⟩ : _ ∧ _ := by simpa using pair
    rw [Numeral.digit?_digitChar (by decide) high, Numeral.digit?_digitChar (by decide) low]
    change some (UInt8.ofNat (b.toNat / 16 * 16 + b.toNat % 16)) = some b
    rw [Nat.div_add_mod', UInt8.ofNat_toNat]
  · next longer => exact absurd rfl (longer _ _)

theorem mem_octetDigits {c : Char} {b : UInt8} (digit : c ∈ octetDigits b) :
    ∃ d < 16, c = Nat.digitChar d := by
  have high : b.toNat / 16 < 16 := Nat.div_lt_of_lt_mul b.toNat_lt
  have low : b.toNat % 16 < 16 := Nat.mod_lt _ (by decide)
  simp only [octetDigits, List.mem_cons, List.not_mem_nil, or_false] at digit
  rcases digit with rfl | rfl
  · exact ⟨_, high, rfl⟩
  · exact ⟨_, low, rfl⟩

theorem lowerChars_ne_nil {addr : Octets} (written : addr ≠ []) : lowerChars addr ≠ [] := by
  obtain ⟨b, bs, rfl⟩ := List.exists_cons_of_ne_nil written
  unfold lowerChars
  rw [List.map_cons]
  cases bs.map octetDigits with
  | nil =>
    rw [List.intercalate_singleton]
    exact List.cons_ne_nil _ _
  | cons next rest =>
    rw [List.intercalate_cons_cons]
    exact List.cons_ne_nil _ _

theorem solid_lowerChars (addr : Octets) : ∀ c ∈ lowerChars addr, Text.isBlank c = false := by
  intro c member
  have solid (b : UInt8) : ∀ c ∈ octetDigits b, Text.isBlank c = false := by
    intro c digit
    obtain ⟨d, small, rfl⟩ := mem_octetDigits digit
    exact Numeral.solid_digitChar d small
  unfold lowerChars at member
  induction addr with
  | nil => cases member
  | cons b bs ih =>
    cases bs with
    | nil =>
      rw [List.map_singleton, List.intercalate_singleton] at member
      exact solid b c member
    | cons next rest =>
      rw [List.map_cons, List.map_cons, List.intercalate_cons_cons, List.mem_append,
        List.mem_append, List.mem_singleton] at member
      rcases member with (digit | rfl) | later
      · exact solid b c digit
      · decide
      · exact ih later

theorem ofText?_lowerChars {addr : Octets} (written : addr ≠ []) :
    ofText? (String.ofList (lowerChars addr)) addr.length = some addr := by
  have clean : ∀ part ∈ addr.map octetDigits, ':' ∉ part := by
    intro part member
    obtain ⟨b, -, rfl⟩ := List.mem_map.mp member
    intro colon
    obtain ⟨d, -, same⟩ := mem_octetDigits colon
    exact Nat.digitChar_ne ':' rfl same.symm
  have fields : Text.fields ':' (lowerChars addr) = addr.map octetDigits :=
    Text.fields_intercalate (by simpa using written) clean
  have read (octets : Octets) : (octets.map octetDigits).mapM ofField? = some octets := by
    induction octets with
    | nil => rfl
    | cons b bs ih => rw [List.map_cons, List.mapM_cons, ofField?_octetDigits, ih]; rfl
  rw [ofText?, ofChars?, String.toList_ofList, fields, read]
  exact if_pos (decide_eq_true rfl)

end HardwareAddress

end ArpProbe

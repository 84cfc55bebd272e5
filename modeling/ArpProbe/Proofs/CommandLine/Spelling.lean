import ArpProbe.CommandLine.Options
import Mathlib.Data.List.Basic

/-! The ways to spell the items of a command line as arguments. Letters without values stand alone
or together behind one dash, and a letter with a value may close such a row, with the value in the
same argument or in the next. Arguments are read as the items that they spell. -/

namespace ArpProbe.CommandLine

variable {rules : List OptionRule} {items : List Item} {arguments : List String}
  {letters cs : List Char} {letter c : Char} {text value : String}

def IsFlag (rules : List OptionRule) (letter : Char) : Prop :=
  (ruleFor? rules letter).map OptionRule.takesValue = some false

def IsSetting (rules : List OptionRule) (letter : Char) : Prop :=
  (ruleFor? rules letter).map OptionRule.takesValue = some true

def dashed (letters : List Char) : String := String.ofList ('-' :: letters)

inductive Spells (rules : List OptionRule) : List Item → List String → Prop
  | nothing : Spells rules [] []
  | operand {text : String} {items : List Item} {arguments : List String}
    (plain : text.toList.head? ≠ some '-') (rest : Spells rules items arguments) :
    Spells rules (.operand text :: items) (text :: arguments)
  | flags {letters : List Char} {items : List Item} {arguments : List String}
    (some : letters ≠ []) (flags : ∀ c ∈ letters, IsFlag rules c)
    (rest : Spells rules items arguments) :
    Spells rules (letters.map .flag ++ items) (dashed letters :: arguments)
  | attached {letters : List Char} {letter : Char} {value : String} {items : List Item}
    {arguments : List String} (flags : ∀ c ∈ letters, IsFlag rules c)
    (setting : IsSetting rules letter) (written : value ≠ "")
    (rest : Spells rules items arguments) :
    Spells rules (letters.map .flag ++ .setting letter value :: items)
      (dashed (letters ++ letter :: value.toList) :: arguments)
  | behind {letters : List Char} {letter : Char} {value : String} {items : List Item}
    {arguments : List String} (flags : ∀ c ∈ letters, IsFlag rules c)
    (setting : IsSetting rules letter) (rest : Spells rules items arguments) :
    Spells rules (letters.map .flag ++ .setting letter value :: items)
      (dashed (letters ++ [letter]) :: value :: arguments)

theorem readLetters_flags (flags : ∀ c ∈ letters, IsFlag rules c) :
    readLetters rules (letters ++ cs) =
      (readLetters rules cs).map fun said => ⟨letters.map .flag ++ said.items, said.awaiting⟩ := by
  induction letters with
  | nil =>
    rw [List.nil_append]
    cases readLetters rules cs <;> rfl
  | cons c letters ih =>
    obtain ⟨rule, known, valueless⟩ := Option.map_eq_some_iff.mp (flags c List.mem_cons_self)
    rw [List.cons_append, readLetters, known]
    simp only [valueless, Bool.false_eq_true, if_false]
    rw [ih fun c later => flags c (.tail _ later)]
    cases readLetters rules cs <;> rfl

theorem readLetters_setting (setting : IsSetting rules letter) :
    readLetters rules (letter :: cs) =
      .ok (if cs.isEmpty then ⟨[], some letter⟩
        else ⟨[.setting letter (String.ofList cs)], none⟩) := by
  obtain ⟨rule, known, valued⟩ := Option.map_eq_some_iff.mp setting
  rw [readLetters, known]
  simp only [valued, if_true]
  split <;> rfl

theorem readArgument_dashed (dashless : ruleFor? rules '-' = none)
    (known : ∃ c ∈ letters.head?, ruleFor? rules c ≠ none) :
    dashed letters ≠ endOfOptions ∧
      readArgument rules (dashed letters) = readLetters rules letters := by
  obtain ⟨c, first, rule⟩ := known
  obtain ⟨cs, rfl⟩ := List.head?_eq_some_iff.mp first
  have letter : c ≠ '-' := by
    rintro rfl
    exact rule dashless
  constructor
  · intro same
    have chars := congrArg String.toList same
    rw [dashed, String.toList_ofList] at chars
    exact letter (List.cons.inj (List.cons.inj chars).2).1
  · unfold readArgument
    rw [dashed, String.toList_ofList]
    split
    · next name => exact absurd (List.cons.inj (List.cons.inj name).2).1 letter
    · next row => rw [(List.cons.inj row).2]
    · next other => exact absurd rfl (other c cs)

theorem readArgument_plain (plain : text.toList.head? ≠ some '-') :
    text ≠ endOfOptions ∧ readArgument rules text = .ok ⟨[.operand text], none⟩ := by
  constructor
  · rintro rfl
    exact plain rfl
  · unfold readArgument
    split
    · next dash => exact absurd (congrArg List.head? dash) plain
    · next dash => exact absurd (congrArg List.head? dash) plain
    · rfl

theorem known_of_takesValue {valued : Bool}
    (rule : (ruleFor? rules c).map OptionRule.takesValue = some valued) :
    ruleFor? rules c ≠ none := by
  intro none
  rw [none] at rule
  cases rule

theorem known_head (flags : ∀ c ∈ letters, IsFlag rules c) (setting : IsSetting rules letter) :
    ∃ c ∈ (letters ++ letter :: cs).head?, ruleFor? rules c ≠ none := by
  cases letters with
  | nil => exact ⟨letter, rfl, known_of_takesValue setting⟩
  | cons c letters => exact ⟨c, rfl, known_of_takesValue (flags c List.mem_cons_self)⟩

theorem readArguments_of_spells (dashless : ruleFor? rules '-' = none)
    (spelled : Spells rules items arguments) : readArguments rules arguments = .ok items := by
  -- By the spelling: each case reads one row of letters, and the value behind it if one is awaited.
  induction spelled with
  | nothing => rfl
  | operand plain rest ih =>
    obtain ⟨more, read⟩ := @readArgument_plain rules _ plain
    rw [readArguments, if_neg more, read]
    simp only [ih]
    rfl
  | @flags letters items arguments some flags rest ih =>
    obtain ⟨c, cs, rfl⟩ := List.exists_cons_of_ne_nil some
    have first := known_of_takesValue (flags c List.mem_cons_self)
    obtain ⟨more, read⟩ := @readArgument_dashed _ (c :: cs) dashless ⟨c, rfl, first⟩
    have row := @readLetters_flags _ _ [] flags
    rw [List.append_nil] at row
    rw [readArguments, if_neg more, read, row]
    simp only [readLetters, Except.map, List.append_nil, ih]
  | @attached letters letter value items arguments flags setting written rest ih =>
    obtain ⟨more, read⟩ := readArgument_dashed dashless (known_head flags setting)
    have value' : value.toList.isEmpty = false := by
      simpa using written
    rw [readArguments, if_neg more, read, readLetters_flags flags, readLetters_setting setting,
      value']
    simp only [Bool.false_eq_true, if_false, Except.map, ih, String.ofList_toList,
      List.append_assoc, List.singleton_append]
  | @behind letters letter value items arguments flags setting rest ih =>
    obtain ⟨more, read⟩ := readArgument_dashed dashless (known_head flags setting)
    rw [readArguments, if_neg more, read, readLetters_flags flags, readLetters_setting setting]
    simp only [List.isEmpty_nil, if_true, Except.map, ih, List.append_nil]

end ArpProbe.CommandLine

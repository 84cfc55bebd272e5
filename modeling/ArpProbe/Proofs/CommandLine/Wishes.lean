import ArpProbe.CommandLine.Request
import ArpProbe.Proofs.CommandLine.Spelling
import ArpProbe.Proofs.Text.Numerals
import Mathlib.Data.List.Nodup

/-! What one can wish for on a command line: some of the switches, some of the values, and one
target. In whatever order these are given and however they are spelled, the same probe is asked
for. -/

namespace ArpProbe.CommandLine

structure Told {α : Type} (denotes : List Char → α → Prop) where
  text : String
  value : α
  denoted : denotes text.toList value

def IsCount (text : List Char) (n : Int) : Prop :=
  Numeral.IsInteger text n ∧ Int32.minValue.toInt ≤ n ∧ n ≤ Int32.maxValue.toInt

def IsInterval (text : List Char) (n : Nat) : Prop :=
  Numeral.IsNatural text n ∧ 1 ≤ n ∧ n < UInt64.size

def IsLevel (text : List Char) (n : Nat) : Prop := Numeral.IsNatural text n ∧ n < UInt8.size

structure Wishes where
  target : String
  switch : Char → Bool
  count : Option (Told IsCount) := none
  timeout : Option (Told IsCount) := none
  interval : Option (Told IsInterval) := none
  level : Option (Told IsLevel) := none
  interface : Option String := none
  source : Option String := none
  path : Option String := none

namespace Wishes

variable (w : Wishes)

def switches : List Char := ['f', 'q', 'b', 'D', 'U', 'A']

def settingLetters : List Char := ['c', 'w', 'i', 'd', 'I', 's', 'C']

theorem letters_nodup : (switches ++ settingLetters).Nodup := by decide

def values : List (Char × Option String) := [
  ('c', w.count.map Told.text),
  ('w', w.timeout.map Told.text),
  ('i', w.interval.map Told.text),
  ('d', w.level.map Told.text),
  ('I', w.interface),
  ('s', w.source),
  ('C', w.path)]

def items : List Item :=
  (switches.filter w.switch).map .flag ++
    (w.values.filterMap fun (letter, value) => value.map (.setting letter)) ++ [.operand w.target]

def request : Request where
  config := {
    target := w.target
    source := w.source
    interface := w.interface.filter (· ≠ "")
    modes := {
      dad := w.switch 'D'
      unsolicited := w.switch 'U' || w.switch 'A'
      advert := w.switch 'A'
      broadcastOnly := w.switch 'b'
      quiet := w.switch 'q'
      quitOnReply := w.switch 'f' || w.switch 'D' }
    count := (w.count.map Told.value).getD (-1)
    timeout := (w.timeout.map Told.value).getD 0 }
  interval := w.interval.map Told.value
  level := w.level.map Told.value
  path := w.path

def valuesFor (letter : Char) : List String :=
  w.values.filterMap fun (other, value) => if other = letter then value else none

def valueLetters : List Char := w.values.filterMap fun (letter, value) => value.map fun _ => letter

theorem filterMap_items {α : Type} (view : Item → Option α) : w.items.filterMap view =
    ((switches.filter w.switch).filterMap fun letter => view (.flag letter)) ++
      (w.values.filterMap fun (letter, value) =>
          value.bind fun text => view (.setting letter text)) ++
        (view (.operand w.target)).toList := by
  have settings (letter : Char) (value : Option String) :
      (value.map (Item.setting letter)).bind view =
        value.bind fun text => view (.setting letter text) := by
    cases value <;> rfl
  rw [items, List.filterMap_append, List.filterMap_append, List.filterMap_map,
    List.filterMap_filterMap]
  simp only [settings]
  congr 1

theorem filterMap_valueOf (letter : Char) :
    w.items.filterMap (Item.valueOf? letter) = w.valuesFor letter := by
  have settings (other : Char) (value : Option String) :
      (value.bind fun text => Item.valueOf? letter (.setting other text)) =
        if other = letter then value else none := by
    cases value with
    | none => exact (ite_self none).symm
    | some value => rfl
  have flags : (switches.filter w.switch).filterMap
      (fun other => Item.valueOf? letter (.flag other)) = [] :=
    List.filterMap_eq_nil_iff.mpr fun _ _ => rfl
  rw [filterMap_items, flags]
  simp only [settings]
  exact List.append_nil _

theorem filterMap_operand : w.items.filterMap Item.operand? = [w.target] := by
  have flags : (switches.filter w.switch).filterMap (fun c => Item.operand? (.flag c)) = [] :=
    List.filterMap_eq_nil_iff.mpr fun _ _ => rfl
  have settings (letter : Char) (value : Option String) :
      (value.bind fun text => Item.operand? (.setting letter text)) = none := by
    cases value <;> rfl
  rw [filterMap_items, flags]
  simp only [settings, List.filterMap_none]
  rfl

theorem filterMap_letter :
    w.items.filterMap Item.letter? = switches.filter w.switch ++ w.valueLetters := by
  have flags : (switches.filter w.switch).filterMap (fun c => Item.letter? (.flag c)) =
      switches.filter w.switch := List.filterMap_some
  have settings (letter : Char) (value : Option String) :
      (value.bind fun text => Item.letter? (.setting letter text)) = value.map fun _ => letter := by
    cases value <;> rfl
  rw [filterMap_items, flags]
  simp only [settings]
  exact List.append_nil _

theorem valueLetters_sublist : w.valueLetters.Sublist settingLetters := by
  have given (pairs : List (Char × Option String)) :
      (pairs.filterMap fun (letter, value) => value.map fun _ => letter).Sublist
        (pairs.map Prod.fst) := by
    induction pairs with
    | nil => exact .slnil
    | cons pair pairs ih =>
      obtain ⟨letter, value⟩ := pair
      cases value with
      | none => exact ih.cons letter
      | some value => exact ih.cons_cons letter
  exact given w.values

variable {w} {items : List Item} {letter : Char}

theorem filterMap_of_mem {pairs : List (Char × Option String)} {value : Option String}
    (distinct : (pairs.map Prod.fst).Nodup) (given : (letter, value) ∈ pairs) :
    (pairs.filterMap fun (other, value) => if other = letter then value else none) =
      value.toList := by
  induction pairs with
  | nil => cases given
  | cons pair pairs ih =>
    obtain ⟨first, others⟩ := List.nodup_cons.mp distinct
    rcases List.mem_cons.mp given with rfl | later
    · have rest : (pairs.filterMap fun (other, value) => if other = letter then value else none) =
          [] := by
        refine List.filterMap_eq_nil_iff.mpr fun pair member => if_neg fun same => first ?_
        have listed : pair.1 ∈ pairs.map Prod.fst := List.mem_map_of_mem member
        rwa [same] at listed
      cases value <;> simp [rest]
    · have other : pair.1 ≠ letter := fun same => first (same ▸ List.mem_map_of_mem later)
      rw [List.filterMap_cons_none (by exact if_neg other)]
      exact ih others later

theorem occurrences_le (order : items.Perm w.items) : occurrences items letter ≤ 1 := by
  have letters : (w.items.filterMap Item.letter?).Nodup := by
    rw [filterMap_letter]
    exact letters_nodup.sublist (List.filter_sublist.append w.valueLetters_sublist)
  have once := List.nodup_iff_count_le_one.mp letters letter
  rw [List.count_filterMap] at once
  unfold occurrences
  rw [order.countP_eq]
  simpa only [beq_eq_decide] using once

theorem isGiven_iff : isGiven items letter = true ↔ letter ∈ items.filterMap Item.letter? := by
  rw [isGiven, List.any_eq_true, List.mem_filterMap]
  simp only [decide_eq_true_eq]

theorem isGiven_switch (order : items.Perm w.items) (switch : letter ∈ switches) :
    isGiven items letter = w.switch letter := by
  have valued : letter ∉ w.valueLetters := fun value =>
    List.disjoint_of_nodup_append letters_nodup switch (w.valueLetters_sublist.subset value)
  rw [Bool.eq_iff_iff, isGiven_iff, (order.filterMap _).mem_iff, filterMap_letter, List.mem_append,
    List.mem_filter]
  simp only [switch, valued, true_and, or_false]

theorem isGiven_other (order : items.Perm w.items)
    (other : letter ∉ switches ++ settingLetters) :
    isGiven items letter = false := by
  rw [Bool.eq_false_iff, ne_eq, isGiven_iff, (order.filterMap _).mem_iff, filterMap_letter]
  exact fun given => other ((List.filter_sublist.append w.valueLetters_sublist).subset given)

theorem valueOf?_eq (order : items.Perm w.items) {value : Option String}
    (wished : (letter, value) ∈ w.values) : valueOf? items letter = value := by
  have distinct : (w.values.map Prod.fst).Nodup := letters_nodup.of_append_right
  have given := order.filterMap (Item.valueOf? letter)
  rw [filterMap_valueOf, valuesFor, filterMap_of_mem distinct wished] at given
  -- A list of at most one value does not show the order of the items.
  have same : items.filterMap (Item.valueOf? letter) = value.toList := by
    cases value with
    | none => exact given.eq_nil
    | some value => exact List.perm_singleton.mp given
  rw [valueOf?, ← List.head?_filterMap, same]
  cases value <;> rfl

theorem operands_eq (order : items.Perm w.items) : operands items = [w.target] := by
  have given := order.filterMap Item.operand?
  rw [filterMap_operand] at given
  exact List.perm_singleton.mp given

theorem readItems_eq (order : items.Perm w.items) {arguments : List String}
    (spelled : Spells rules items arguments) : readItems rules arguments = .ok items := by
  have once : repeated? rules items = none := by
    refine List.find?_eq_none.mpr fun letter _ => ?_
    have few : occurrences items letter ≤ 1 := occurrences_le order
    simpa using few
  rw [readItems, readArguments_of_spells rfl spelled]
  simp only [once]

theorem number?_eq {α : Type} {denotes : List Char → α → Prop} {told : Option (Told denotes)}
    {read : List Char → Option α} (reads : ∀ text n, denotes text n → read text = some n)
    (given : valueOf? items letter = told.map Told.text) :
    number? read items letter = .ok (told.map Told.value) := by
  rw [number?, given]
  cases told with
  | none => rfl
  | some told => simp only [Option.map_some, reads _ _ told.denoted]

theorem reads_count (text : List Char) (n : Int) (count : IsCount text n) :
    Numeral.integer? 10 (Numeral.bound 31) text = some n := by
  have low : -(Numeral.bound 31 : Int) = Int32.minValue.toInt := by decide
  have high : Int32.maxValue.toInt < Numeral.bound 31 := by decide
  exact count.1.read (low ▸ count.2.1) (Int.lt_of_le_of_lt count.2.2 high)

theorem reads_interval (text : List Char) (n : Nat) (interval : IsInterval text n) :
    Numeral.natural? 10 (Numeral.bound 64) text = some n :=
  interval.1.read interval.2.2

theorem reads_level (text : List Char) (n : Nat) (level : IsLevel text n) :
    Numeral.natural? 10 (Numeral.bound 8) text = some n :=
  level.1.read level.2

theorem interval?_eq (given : valueOf? items 'i' = w.interval.map Told.text) :
    interval? items = .ok (w.interval.map Told.value) := by
  rw [interval?, number?_eq reads_interval given]
  split
  · next zero =>
    obtain ⟨told, -, value⟩ := Option.map_eq_some_iff.mp (Except.ok.inj zero)
    exact absurd told.denoted.2.1 (by simp [value])
  · rfl

theorem modes_eq (order : items.Perm w.items) : modes items = w.request.config.modes := by
  have given (letter : Char) (switch : letter ∈ switches) := isGiven_switch order switch
  simp only [modes, given 'D' (by decide), given 'U' (by decide), given 'A' (by decide),
    given 'b' (by decide), given 'q' (by decide), given 'f' (by decide), request]

theorem request_eq (order : items.Perm w.items) :
    CommandLine.request items w.target = .ok w.request := by
  have given {letter : Char} {value : Option String} (wished : (letter, value) ∈ w.values) :=
    valueOf?_eq order wished
  have count : valueOf? items 'c' = w.count.map Told.text := given (by simp [values])
  have timeout : valueOf? items 'w' = w.timeout.map Told.text := given (by simp [values])
  have interval : valueOf? items 'i' = w.interval.map Told.text := given (by simp [values])
  have level : valueOf? items 'd' = w.level.map Told.text := given (by simp [values])
  have interface : valueOf? items 'I' = w.interface := given (by simp [values])
  have source : valueOf? items 's' = w.source := given (by simp [values])
  have path : valueOf? items 'C' = w.path := given (by simp [values])
  rw [CommandLine.request, number?_eq reads_count count, number?_eq reads_count timeout,
    interval?_eq interval, number?_eq reads_level level, modes_eq order, interface, source, path]
  rfl

end Wishes

/-- The order and the spelling of the arguments do not matter: they ask for what is wished for. -/
theorem parse_spelled (w : Wishes) {items : List Item} {arguments : List String}
    (order : items.Perm w.items) (spelled : Spells rules items arguments) :
    parse arguments = .ok (.probe w.request) := by
  have help : isGiven items 'h' = false := Wishes.isGiven_other order (by decide)
  have version : isGiven items 'V' = false := Wishes.isGiven_other order (by decide)
  rw [parse, Wishes.readItems_eq order spelled]
  simp only [action, help, version, Wishes.operands_eq order, Wishes.request_eq order]
  rfl

theorem parse_spelled_mixed :
    parse ["-Dc", "-5", "10.0.0.9", "-i+7", "-I", "", "-bs-q", "-C", "--"] =
      .ok (.probe {
        config := {
          target := "10.0.0.9"
          source := some "-q"
          modes := { dad := true, broadcastOnly := true, quitOnReply := true }
          count := -5 }
        interval := some 7
        path := some "--" }) := by
  let w : Wishes := {
    target := "10.0.0.9"
    switch := (· ∈ ['D', 'b'])
    count := some ⟨"-5", -5, .negative (Numeral.isDecimal_toDigits 5), by decide⟩
    interval := some ⟨"+7", 7, ⟨_, Numeral.isDecimal_toDigits 7, .inr rfl⟩, by decide⟩
    interface := some ""
    source := some "-q"
    path := some "--" }
  let items : List Item := [
    .flag 'D', .setting 'c' "-5", .operand "10.0.0.9", .setting 'i' "+7", .setting 'I' "",
    .flag 'b', .setting 's' "-q", .setting 'C' "--"]
  have order : items.Perm w.items := by decide
  have afterSource : Spells rules [.setting 'C' "--"] ["-C", "--"] :=
    @Spells.behind _ [] _ _ _ _ nofun rfl .nothing
  have afterInterface : Spells rules (items.drop 5) ["-bs-q", "-C", "--"] :=
    @Spells.attached _ ['b'] 's' "-q" _ _ (List.forall_mem_singleton.mpr rfl) rfl (by decide)
      afterSource
  have afterTarget : Spells rules (items.drop 3) ["-i+7", "-I", "", "-bs-q", "-C", "--"] :=
    @Spells.attached _ [] 'i' "+7" _ _ nofun rfl (by decide)
      (@Spells.behind _ [] 'I' "" _ _ nofun rfl afterInterface)
  exact parse_spelled w order
    (@Spells.behind _ ['D'] 'c' "-5" _ _ (List.forall_mem_singleton.mpr rfl) rfl
      (.operand (by decide) afterTarget))

end ArpProbe.CommandLine

import ArpProbe.Proofs.Discovery.Uniqueness
import ArpProbe.Proofs.Prober.History
import Mathlib.Data.List.Induction

/-! Which names discovery asks about. The list is requested with twice the room each time until
room is left, so that no entry is cut off, and from the entries that are there each name is taken
where it comes first. -/

namespace ArpProbe.ControlRequest

variable {name : String} {record : Octets} {records entries : List Octets} {names : List String}

def Carries (record : Octets) (name : String) : Prop :=
  (record.take nameSize).takeWhile (· ≠ 0) = utf8Octets name

instance (name : String) : DecidablePred (Carries · name) :=
  fun record => inferInstanceAs (Decidable ((record.take nameSize).takeWhile (· ≠ 0) = _))

/-- The names that are not empty and that stand in some entry, each once, the one that comes first
before the others. -/
structure Lists (entries : List Octets) (names : List String) : Prop where
  complete : ∀ name, name ∈ names ↔ name ≠ "" ∧ ∃ record ∈ entries, Carries record name
  distinct : names.Nodup
  ordered : names.Pairwise fun a b =>
    entries.findIdx (Carries · a) < entries.findIdx (Carries · b)

theorem utf8Octets_eq_nil : utf8Octets name = [] ↔ name = "" := by
  constructor
  · intro none
    have empty : name.utf8ByteSize = 0 := congrArg List.length none
    exact String.utf8ByteSize_eq_zero_iff.mp empty
  · rintro rfl
    rfl

theorem recordName?_eq_some :
    recordName? record = some name ↔ name ≠ "" ∧ Carries record name := by
  unfold recordName? Carries
  dsimp only
  split
  · next none =>
    constructor
    · intro read
      cases read
    · rintro ⟨written, carries⟩
      have same : utf8Octets name = [] := carries.symm.trans (List.isEmpty_iff.mp none)
      exact absurd (utf8Octets_eq_nil.mp same) written
  · next some =>
    rw [utf8Text?_eq_some_iff, eq_comm (a := utf8Octets name)]
    constructor
    · intro carries
      refine ⟨fun none => some ?_, carries⟩
      rw [carries, utf8Octets_eq_nil.mpr none, List.isEmpty_nil]
    · exact And.right

theorem nameField?_eq_some (short : name.utf8ByteSize < nameSize)
    (clean : (utf8Octets name).contains 0 = false) (written : name ≠ "") :
    ∃ field, nameField? name = some field ∧ field.length = nameSize ∧
      recordName? field = some name := by
  have fit : fits name = true := (fits_iff clean).mpr short
  let rest := List.replicate (nameSize - name.utf8ByteSize) (0 : UInt8)
  have size : (utf8Octets name ++ rest).length = nameSize := by
    rw [List.length_append, List.length_replicate]
    exact Nat.add_sub_cancel' (Nat.le_of_lt short)
  have solid : ∀ octet ∈ utf8Octets name, decide (octet ≠ 0) = true := by
    intro octet member
    rw [decide_eq_true_eq]
    rintro rfl
    rw [List.contains_eq_mem, decide_eq_false_iff_not] at clean
    exact clean member
  have ends : rest.takeWhile (· ≠ 0) = [] := by
    rw [List.takeWhile_replicate]
    rfl
  have carries : Carries (utf8Octets name ++ rest) name := by
    unfold Carries
    rw [List.take_of_length_le (Nat.le_of_eq size), List.takeWhile_append_of_pos solid, ends,
      List.append_nil]
  exact ⟨_, if_pos fit, size, recordName?_eq_some.mpr ⟨written, carries⟩⟩

namespace Lists

theorem concat_iff : (name ≠ "" ∧ ∃ r ∈ entries ++ [record], Carries r name) ↔
    (name ≠ "" ∧ ∃ r ∈ entries, Carries r name) ∨ recordName? record = some name := by
  simp only [List.mem_append, List.mem_singleton, or_and_right, exists_or, exists_eq_left,
    recordName?_eq_some, and_or_left]

variable (lists : Lists entries names)

include lists

theorem early (member : name ∈ names) : entries.findIdx (Carries · name) < entries.length := by
  obtain ⟨_, r, place, carries⟩ := (lists.complete name).mp member
  exact List.findIdx_lt_length_of_exists ⟨r, place, decide_eq_true carries⟩

theorem stays (member : name ∈ names) :
    (entries ++ [record]).findIdx (Carries · name) = entries.findIdx (Carries · name) := by
  rw [List.findIdx_append, if_pos (lists.early member)]

theorem remain : names.Pairwise fun a b =>
    (entries ++ [record]).findIdx (Carries · a) < (entries ++ [record]).findIdx (Carries · b) := by
  refine lists.ordered.imp_of_mem fun first second before => ?_
  rwa [lists.stays first, lists.stays second]

theorem pass (known : ∀ name, recordName? record = some name → name ∈ names) :
    Lists (entries ++ [record]) names where
  complete name := by
    rw [concat_iff, ← lists.complete name]
    exact (or_iff_left_of_imp (known name)).symm
  distinct := lists.distinct
  ordered := lists.remain

theorem add (read : recordName? record = some name) (new : name ∉ names) :
    Lists (entries ++ [record]) (names ++ [name]) where
  complete other := by
    rw [concat_iff, ← lists.complete other, List.mem_append, List.mem_singleton, read,
      Option.some.injEq, eq_comm]
  distinct := by
    rw [← List.concat_eq_append]
    exact lists.distinct.concat new
  ordered := by
    obtain ⟨written, _⟩ := recordName?_eq_some.mp read
    have absent : ¬ entries.findIdx (Carries · name) < entries.length := by
      intro found
      have carries := of_decide_eq_true (List.findIdx_getElem (w := found))
      exact new ((lists.complete name).mpr ⟨written, _, List.getElem_mem found, carries⟩)
    rw [List.pairwise_append]
    refine ⟨lists.remain, List.pairwise_singleton _ name, ?_⟩
    intro other old added member
    rw [List.mem_singleton.mp member, lists.stays old, List.findIdx_append, if_neg absent]
    exact Nat.lt_of_lt_of_le (lists.early old) (Nat.le_add_left _ _)

end Lists

theorem recordNames_concat : recordNames (entries ++ [record]) =
    match recordName? record with
    | none => recordNames entries
    | some name => withName (recordNames entries) name := by
  unfold recordNames
  rw [List.filterMap_append, List.foldl_append]
  cases read : recordName? record with
  | none => rw [List.filterMap_cons_none read, List.filterMap_nil, List.foldl_nil]
  | some name =>
    rw [List.filterMap_cons_some read, List.filterMap_nil, List.foldl_cons, List.foldl_nil]

theorem recordNames_lists (entries : List Octets) : Lists entries (recordNames entries) := by
  induction entries using List.reverseRecOn with
  | nil =>
    have none (name : String) : name ∉ recordNames [] := List.not_mem_nil
    exact ⟨fun name => by simpa using none name, List.nodup_nil, List.Pairwise.nil⟩
  | append_singleton entries record lists =>
    rw [recordNames_concat]
    cases read : recordName? record with
    | none => exact lists.pass fun name other => nomatch read.symm.trans other
    | some name =>
      dsimp only
      unfold withName
      split
      · next old =>
        rw [List.contains_eq_mem, decide_eq_true_eq] at old
        refine lists.pass fun other same => ?_
        rwa [← Option.some.inj (read.symm.trans same)]
      · next new =>
        rw [List.contains_eq_mem, decide_eq_true_eq] at new
        exact lists.add read new

def requests (room : Nat) (failure : Option Errno) : Nat → History
  | 0 => [.call (.listInterfaces room) failure]
  | more + 1 => .call (.listInterfaces room) none :: requests (2 * room) failure more

theorem length_requests (room : Nat) (failure : Option Errno) (more : Nat) :
    (requests room failure more).length = more + 1 := by
  induction more generalizing room with
  | zero => rfl
  | succ more ih => rw [requests, List.length_cons, ih]

def doubled (room : Nat) : Nat → Nat
  | 0 => room
  | more + 1 => doubled (2 * room) more

theorem le_doubled (room more : Nat) : room ≤ doubled room more := by
  induction more generalizing room with
  | zero => exact Nat.le_refl room
  | succ more ih => exact Nat.le_trans (Nat.le_mul_of_pos_left room Nat.two_pos) (ih (2 * room))

/-- What requests come to that end in a failure, or in none: all names of the entries, if there are
fewer than a bound. -/
inductive Enumerates (entries : List Octets) (bound : Nat) :
    Option Errno → Except IoError (List String) → Prop
  | failed (e : Errno) : Enumerates entries bound (some e) (.error (.system e))
  | listed {names : List String} (few : entries.length < bound) (lists : Lists entries names) :
    Enumerates entries bound none (.ok names)
  | many (more : bound ≤ entries.length) : Enumerates entries bound none (.error .tooManyInterfaces)

theorem Enumerates.lists {bound : Nat} {failure : Option Errno}
    (came : Enumerates entries bound failure (.ok names)) : Lists entries names := by
  cases came with
  | listed _ lists => exact lists

theorem listInterfaces_run (room : Nat) {k : Kernel} (calm : k.configuredFloods = false) :
    ∃ failure k', k'.events = k.events ++ [.call (.listInterfaces room) failure] ∧
      k'.configuredNames = k.configuredNames ∧ k'.configuredFloods = false ∧
      ((∃ e, failure = some e ∧
          (Sys.listInterfaces room).run.run k = (.error (.system e), k')) ∨
        failure = none ∧
          (Sys.listInterfaces room).run.run k = (.ok (k.configuredNames.take room), k')) := by
  let answer (k : Kernel) : List Octets :=
    if k.configuredFloods then List.replicate room [] else k.configuredNames.take room
  obtain ⟨faults, ⟨e, ran⟩ | ran⟩ := Sys.query_answers (.listInterfaces room) answer k
  · let k' := { k with faults }.record (.call (.listInterfaces room) (some e))
    exact ⟨some e, k', rfl, rfl, calm, .inl ⟨e, rfl, ran⟩⟩
  · let k' := { k with faults }.record (.call (.listInterfaces room) none)
    have answered : answer { k with faults } = k.configuredNames.take room :=
      if_neg (ne_true_of_eq_false calm)
    rw [answered] at ran
    exact ⟨none, k', rfl, rfl, calm, .inr ⟨rfl, ran⟩⟩

theorem listNames_step (doublings room : Nat) {k : Kernel} (calm : k.configuredFloods = false) :
    let ran := (listNames Sys.listInterfaces doublings room).run.run k
    (∃ failure, ran.2.events = k.events ++ requests room failure 0 ∧
        ∀ bound, room ≤ bound → Enumerates k.configuredNames bound failure ran.1) ∨
      ∃ k', k'.events = k.events ++ requests room none 0 ∧
        k'.configuredNames = k.configuredNames ∧ k'.configuredFloods = false ∧
        room ≤ k.configuredNames.length ∧
        ran = match doublings with
          | 0 => (.error .tooManyInterfaces, k')
          | doublings + 1 => (listNames Sys.listInterfaces doublings (2 * room)).run.run k' := by
  intro ran
  obtain ⟨failure, k', recorded, same, calm', ⟨e, rfl, asked⟩ | ⟨rfl, asked⟩⟩ :=
    listInterfaces_run room calm
  · have failed : ran = (.error (.system e), k') := by
      unfold ran listNames
      rw [Sys.run_except_bind, asked]
    rw [failed]
    exact .inl ⟨some e, recorded, fun _ _ => .failed e⟩
  · -- A list that just fills the room may have been cut off, so only a shorter one is complete.
    by_cases few : k.configuredNames.length < room
    · have all : k.configuredNames.take room = k.configuredNames :=
        List.take_of_length_le (Nat.le_of_lt few)
      have listed : ran = (.ok (recordNames k.configuredNames), k') := by
        unfold ran listNames
        rw [Sys.run_except_bind, asked]
        dsimp only
        rw [all, if_pos few]
        rfl
      rw [listed]
      have lists := recordNames_lists k.configuredNames
      exact .inl ⟨none, recorded, fun _ large => .listed (Nat.lt_of_lt_of_le few large) lists⟩
    · have full : ¬ (k.configuredNames.take room).length < room := by
        rw [List.length_take]
        omega
      refine .inr ⟨k', recorded, same, calm', Nat.le_of_not_lt few, ?_⟩
      unfold ran
      cases doublings with
      | zero =>
        rw [listNames, Sys.run_except_bind, asked]
        dsimp only
        rw [if_neg full]
        rfl
      | succ doublings =>
        rw [listNames, Sys.run_except_bind, asked]
        dsimp only
        rw [if_neg full]

theorem listNames_run (doublings room : Nat) {k : Kernel} (calm : k.configuredFloods = false) :
    let ran := (listNames Sys.listInterfaces doublings room).run.run k
    ∃ more ≤ doublings, ∃ failure, ran.2.events = k.events ++ requests room failure more ∧
      Enumerates k.configuredNames (doubled room doublings) failure ran.1 := by
  -- By induction on the doublings that are left: the list that did not fit is asked for again.
  induction doublings generalizing room k with
  | zero =>
    intro ran
    rcases listNames_step 0 room calm with
      ⟨failure, recorded, came⟩ | ⟨k', recorded, -, -, more, again⟩
    · exact ⟨0, Nat.le_refl _, failure, recorded, came room (Nat.le_refl _)⟩
    · have many : ran = (.error .tooManyInterfaces, k') := again
      rw [many]
      exact ⟨0, Nat.le_refl _, none, recorded, .many more⟩
  | succ doublings ih =>
    intro ran
    rcases listNames_step (doublings + 1) room calm with
      ⟨failure, recorded, came⟩ | ⟨k', recorded, same, calm', -, again⟩
    · exact ⟨0, Nat.zero_le _, failure, recorded, came _ (le_doubled room _)⟩
    · have follows : ran = (listNames Sys.listInterfaces doublings (2 * room)).run.run k' := again
      obtain ⟨more, within, failure, recorded', came⟩ := ih (2 * room) calm'
      rw [← follows, same] at came
      rw [← follows, recorded, List.append_assoc] at recorded'
      exact ⟨more + 1, Nat.succ_le_succ within, failure, recorded', came⟩

/-- All names of the entries are listed, each once and in the order in which they come first, if
there are fewer than 65536 entries. It takes at most seventeen requests, and if one fails its error
is all there is. A listed name that is short enough can be asked about in turn. -/
theorem listNames_exhaustive (k : Kernel) (calm : k.configuredFloods = false) :
    let ran := (listNames Sys.listInterfaces maxDoublings 1).run.run k
    (k.since ran.2).length ≤ 17 ∧
      (∃ more failure, k.since ran.2 = requests 1 failure more ∧
        Enumerates k.configuredNames 65536 failure ran.1) ∧
      ∀ names, ran.1 = .ok names → ∀ name ∈ names, name.utf8ByteSize < nameSize →
        ∃ field, nameField? name = some field ∧ field.length = nameSize ∧
          recordName? field = some name := by
  intro ran
  obtain ⟨more, within, failure, recorded, came⟩ := listNames_run maxDoublings 1 calm
  have asked : k.since ran.2 = requests 1 failure more := Kernel.since_of_append recorded
  refine ⟨?_, ⟨more, failure, asked, came⟩, ?_⟩
  · rw [asked, length_requests]
    exact Nat.succ_le_succ within
  · intro names listed name member short
    have clean : Clean names := listNames_clean maxDoublings 1 k names listed
    have lists : Lists k.configuredNames names := Enumerates.lists (listed ▸ came)
    obtain ⟨written, _⟩ := (lists.complete name).mp member
    exact nameField?_eq_some short (clean.unbroken name member) written

theorem listNames_exhaustive_aliases :
    let k : Kernel :=
      { configured := some [utf8Octets "eth0", [255], utf8Octets "lo", utf8Octets "eth0"] }
    let ran := (listNames Sys.listInterfaces maxDoublings 1).run.run k
    k.configuredFloods = false ∧ k.since ran.2 = requests 1 none 3 ∧
      ran.1.toOption = some ["eth0", "lo"] ∧ Lists k.configuredNames ["eth0", "lo"] := by
  intro k ran
  have asked : k.since ran.2 = requests 1 none 3 := by decide +kernel
  have listed : ran.1 = .ok ["eth0", "lo"] := by decide +kernel
  obtain ⟨_, ⟨more, failure, _, came⟩, _⟩ := listNames_exhaustive k rfl
  have lists : Lists k.configuredNames ["eth0", "lo"] := Enumerates.lists (listed ▸ came)
  exact ⟨rfl, asked, congrArg Except.toOption listed, lists⟩

end ArpProbe.ControlRequest

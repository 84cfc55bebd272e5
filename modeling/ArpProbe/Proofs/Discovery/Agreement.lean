import ArpProbe.Proofs.Discovery.Refusal
import ArpProbe.Proofs.Text.Reading
import Mathlib.Data.List.Nodup
import Mathlib.Data.List.TakeWhile

/-! The same devices in the list of interface addresses and in the tree of attribute files. However
they are ordered there and whatever stands between them, either way to look finds the same one, or
none for the same reason. -/

namespace ArpProbe

open InterfaceFlags (Usable refusal? refusal?_eq_none)

/-- A device that both sources can show: there is no zero in its name, its index is a positive
number of 31 bits, and its addresses have one length, which fits a socket address. -/
structure Device where
  name : String
  index : Nat
  flags : UInt32
  link : Octets
  broadcast : Octets
  unbroken : 0 ∉ utf8Octets name
  numbered : 0 < index ∧ index < Numeral.bound 31
  addressed : link ≠ [] ∧ link.length ≤ StoredAddress.capacity
  alike : broadcast.length = link.length

namespace Device

def interface (d : Device) : Interface :=
  ⟨d.name, Int32.ofNat d.index, d.link.length, some d.broadcast, d.flags⟩

theorem ofNat_index_ne_zero (d : Device) : Int32.ofNat d.index ≠ 0 := by
  intro zero
  have value : (Int32.ofNat d.index).toInt = d.index := Int32.toInt_ofNat_of_lt d.numbered.2
  rw [zero] at value
  have positive := d.numbered.1
  simp at value
  omega

/-- What is to be found among devices: the only one that can be used, or the one that is asked for
unless there is a reason against it. -/
def chosen (devices : List Device) (hint : Option String) (dad : Bool) : Outcome :=
  match hint with
  | none => select ((devices.filter (Usable ·.flags)).map interface)
  | some name =>
    match devices.find? (·.name = name) with
    | none => .notFound
    | some d =>
      match refusal? name d.flags dad with
      | some error => .fatal error
      | none => .found d.interface

def examine (hint : Option String) (dad : Bool) (d : Device) : Sys Finding :=
  if ¬ Finding.isWanted hint d.name then pure .skip
  else Finding.ofFlags hint d.flags dad (pure (.candidate d.interface))

variable {devices shown : List Device} {dad : Bool}

theorem filter_named (distinct : (devices.map name).Nodup) (same : shown.Perm devices)
    (name : String) :
    shown.filter (·.name = name) = (devices.find? (·.name = name)).toList := by
  have named := same.filter (·.name = name)
  have one : (devices.filter (·.name = name)).length ≤ 1 := by
    have count := List.nodup_iff_count_le_one.mp distinct name
    rw [List.count, List.countP_map, List.countP_eq_length_filter] at count
    exact count
  rw [← List.head?_filter]
  rcases kept : devices.filter (·.name = name) with _ | ⟨d, _ | ⟨d', rest⟩⟩
  · rw [kept] at named ⊢
    exact List.perm_nil.mp named
  · rw [kept] at named ⊢
    exact List.perm_singleton.mp named
  · rw [kept] at one
    simp at one

theorem survey_unnamed (same : shown.Perm devices) (k : Kernel) :
    ((survey (examine none dad) shown []).run k).1 = chosen devices none dad := by
  let described (d : Device) : Option Interface := if Usable d.flags then some d.interface else none
  have tells : ∀ p ∈ turns (examine none dad) shown k,
      Finding.Tells none ((examine none dad p.1).run p.2).1 (described p.1) := by
    intro p _
    refine Finding.ofFlags_tells (fun unusable => if_neg unusable) fun usable => ?_
    change Finding.Tells none _ (if Usable p.1.flags then _ else _)
    rw [if_pos usable]
    exact .candidate _
  have usable (ds : List Device) :
      ds.filterMap described = (ds.filter (Usable ·.flags)).map interface := by
    rw [← List.filterMap_eq_map, List.filterMap_filter]
    simp [described]
  rw [survey_select tells, List.nil_append, filterMap_turns, usable]
  exact select_perm ((same.filter _).map interface)

theorem survey_named (distinct : (devices.map name).Nodup) (same : shown.Perm devices)
    (name : String) (k : Kernel) :
    ((survey (examine (some name) dad) shown []).run k).1 = chosen devices (some name) dad := by
  have passed (d : Device) (other : decide (d.name = name) = false) :
      examine (some name) dad d = pure .skip := by
    have ne : name ≠ d.name := fun same => of_decide_eq_false other same.symm
    exact if_pos (Finding.isWanted_of_ne ne)
  rw [survey_filter passed, filter_named distinct same]
  unfold chosen
  dsimp only
  cases found : devices.find? (·.name = name) with
  | none => rfl
  | some d =>
    obtain rfl : d.name = name := by simpa using List.find?_some found
    have wanted : ¬ ¬ Finding.isWanted (some d.name) d.name = true :=
      not_not_intro Finding.isWanted_self
    rw [Option.toList_some, survey_cons]
    unfold examine
    rw [if_neg wanted]
    dsimp only
    cases refused : refusal? d.name d.flags dad with
    | some error =>
      rw [Finding.ofFlags_of_refusal refused]
      rfl
    | none =>
      rw [Finding.ofFlags_of_usable (refusal?_eq_none.mp refused)]
      rfl

theorem survey_chosen (distinct : (devices.map name).Nodup) (same : shown.Perm devices)
    (hint : Option String) (k : Kernel) :
    ((survey (examine hint dad) shown []).run k).1 = chosen devices hint dad := by
  cases hint with
  | none => exact survey_unnamed same k
  | some name => exact survey_named distinct same name k

end Device

namespace InterfaceEntry

structure Shows (e : InterfaceEntry) (d : Device) : Prop where
  name : e.name = some (utf8Octets d.name)
  flags : e.flags = d.flags
  family : e.family = LinkSocketAddress.family ∧ e.broadcastFamily = LinkSocketAddress.family
  link : e.address.map StoredAddress.octets = some d.link
  broadcast : e.broadcast.map StoredAddress.octets = some d.broadcast

variable {e : InterfaceEntry} {d : Device}

theorem Shows.nameText? (s : e.Shows d) : e.nameText? = some d.name := by
  have whole : (utf8Octets d.name).takeWhile (· ≠ 0) = utf8Octets d.name := by
    rw [List.takeWhile_eq_self_iff]
    intro octet member
    exact decide_eq_true fun zero => d.unbroken (zero ▸ member)
  rw [InterfaceEntry.nameText?, s.name, Option.bind_some, whole]
  exact utf8Text?_eq_some_iff.mpr rfl

theorem Shows.link? (s : e.Shows d) : e.link? = some d.link := by
  rw [InterfaceEntry.link?, if_pos s.family.1]
  exact s.link

theorem Shows.broadcastLink? (s : e.Shows d) : e.broadcastLink? = some d.broadcast := by
  rw [InterfaceEntry.broadcastLink?, if_pos s.family.2]
  exact s.broadcast

end InterfaceEntry

namespace AttributeDirectory

def Holds (dir : AttributeDirectory) (file : String) (line : List Char) : Prop :=
  (dir.attributes.find? (·.1 = file)).map Prod.snd =
    some (utf8Octets (String.ofList (line ++ ['\n'])))

instance (dir : AttributeDirectory) (file : String) (line : List Char) :
    Decidable (dir.Holds file line) := inferInstanceAs (Decidable (_ = _))

structure Renders (dir : AttributeDirectory) (d : Device) : Prop where
  name : dir.name = utf8Octets d.name
  index : dir.Holds "ifindex" (Nat.toDigits 10 d.index)
  flags : dir.Holds "flags" ('0' :: 'x' :: Nat.toDigits 16 d.flags.toNat)
  length : dir.Holds "addr_len" (Nat.toDigits 10 d.link.length)
  broadcast : dir.Holds "broadcast" (HardwareAddress.lowerChars d.broadcast)

variable {dir : AttributeDirectory} {d : Device}

theorem attribute?_of_holds {file : String} {line : List Char} (holds : dir.Holds file line)
    (solid : ∀ c ∈ line, Text.isBlank c = false) (written : line ≠ []) :
    dir.attribute? file = some (String.ofList line) := by
  obtain ⟨⟨_, content⟩, found, rfl⟩ := Option.map_eq_some_iff.mp holds
  have read := utf8Text?_eq_some_iff.mpr (rfl : utf8Octets (String.ofList (line ++ ['\n'])) = _)
  unfold attribute?
  rw [found]
  change (utf8Text? (utf8Octets _) >>= _) = _
  rw [read]
  change (Text.firstWord? (String.ofList _).toList).map String.ofList = _
  rw [String.toList_ofList, Text.firstWord?_line solid written]
  rfl

theorem decimal_of_holds {file : String} {n : Nat} (holds : dir.Holds file (Nat.toDigits 10 n))
    (small : n < Numeral.bound 64) : dir.attribute? file >>= Numeral.decimal64? = some n := by
  have solid : ∀ c ∈ Nat.toDigits 10 n, Text.isBlank c = false :=
    Numeral.solid_toDigits (by decide) (by decide)
  rw [attribute?_of_holds holds solid Nat.toDigits_ne_nil, Option.bind_eq_bind, Option.bind_some]
  exact Numeral.decimal64?_toDigits small

theorem Renders.interface? (r : dir.Renders d) : dir.interface? d.name = some d.interface := by
  have indexed := decimal_of_holds r.index (Nat.lt_trans d.numbered.2 (by decide))
  have length := decimal_of_holds r.length (Nat.lt_of_le_of_lt d.addressed.2 (by decide))
  have flagged : dir.attribute? "flags" >>= Numeral.hexadecimal64? = some d.flags.toNat := by
    have solid : ∀ c ∈ '0' :: 'x' :: Nat.toDigits 16 d.flags.toNat, Text.isBlank c = false := by
      rw [List.forall_mem_cons, List.forall_mem_cons]
      exact ⟨rfl, rfl, Numeral.solid_toDigits (by decide) (by decide)⟩
    rw [attribute?_of_holds r.flags solid (List.cons_ne_nil _ _), Option.bind_eq_bind,
      Option.bind_some]
    exact Numeral.hexadecimal64?_toDigits (Nat.lt_trans d.flags.toNat_lt (by decide))
  have addressed : d.broadcast ≠ [] := by
    rw [ne_eq, ← List.length_eq_zero_iff, d.alike, List.length_eq_zero_iff]
    exact d.addressed.1
  have reached : dir.attribute? "broadcast" >>= (HardwareAddress.ofText? · d.broadcast.length) =
      some d.broadcast := by
    rw [attribute?_of_holds r.broadcast (HardwareAddress.solid_lowerChars _)
      (HardwareAddress.lowerChars_ne_nil addressed), Option.bind_eq_bind, Option.bind_some]
    exact HardwareAddress.ofText?_lowerChars addressed
  rw [← d.alike] at length
  rw [interface?_of_reads d.numbered.2 indexed flagged length reached, d.alike]
  rfl

end AttributeDirectory

namespace Kernel

structure Indexes (k : Kernel) (devices : List Device) : Prop where
  found : ∀ d ∈ devices, ∃ e, k.entry? d.name = some e ∧ e.index = Int32.ofNat d.index
  answered : ∀ errno ∈ k.faults .interfaceIndex, errno = 0

structure Lists (k : Kernel) (devices : List Device) : Prop where
  readable : (k.takeFault .getifaddrs).1 = none
  shown : ∃ shown, shown.Perm devices ∧
    List.Forall₂ InterfaceEntry.Shows (k.interfaces.filter (·.link?.isSome)) shown
  indexes : k.Indexes devices

def Keeps (k : Kernel) (devices : List Device) : Prop :=
  ∃ directories shown, k.directories = some directories ∧ shown.Perm devices ∧
    List.Forall₂ AttributeDirectory.Renders directories shown

variable {k k' : Kernel} {devices : List Device} {d : Device}

theorem Indexes.congr (h : k.Indexes devices) (interfaces : k'.interfaces = k.interfaces)
    (faults : k'.faults .interfaceIndex ⊆ k.faults .interfaceIndex) : k'.Indexes devices where
  found := by
    unfold entry?
    rw [interfaces]
    exact h.found
  answered errno member := h.answered errno (faults member)

theorem Indexes.run (h : k.Indexes devices) (member : d ∈ devices) :
    ∃ k', (Sys.interfaceIndex d.name).run.run k = (.ok (Int32.ofNat d.index), k') ∧
      k'.Indexes devices := by
  have later : (k.takeFault .interfaceIndex).2.Indexes devices := by
    refine h.congr (k.interfaces_takeFault _) ?_
    rw [k.faults_takeFault_self]
    exact fun _ => List.mem_of_mem_tail
  have fine : (k.takeFault .interfaceIndex).1 = none := k.takeFault_of_zeros h.answered
  obtain ⟨e, found, index⟩ := later.found d member
  refine ⟨_, Sys.run_query k rfl fine ?_, later.congr rfl (List.Subset.refl _)⟩
  simp only [found, index, if_neg d.ofNat_index_ne_zero]

end Kernel

variable {hint : Option String} {dad : Bool} {d : Device}

theorem AddressList.examine_shown {devices : List Device} {e : InterfaceEntry} {k : Kernel}
    (shows : d ∈ devices ∧ e.Shows d) (fine : k.Indexes devices) :
    ((examine hint dad e).run k).2.Indexes devices ∧
      ∀ k', ((examine hint dad e).run k).1 = ((d.examine hint dad).run k').1 := by
  obtain ⟨member, shows⟩ := shows
  unfold examine Device.examine Finding.ofFlags
  rw [shows.link?, shows.nameText?, shows.flags, shows.broadcastLink?]
  dsimp only
  split
  · exact ⟨fine, fun _ => rfl⟩
  · rcases InterfaceFlags.check hint d.flags dad with error | _ | _
    · exact ⟨fine, fun _ => rfl⟩
    · exact ⟨fine, fun _ => rfl⟩
    · obtain ⟨k', told, later⟩ := fine.run member
      have filled : d.link.isEmpty = false := List.isEmpty_eq_false_iff.mpr d.addressed.1
      simp only [filled]
      rw [Sys.run_bind, told]
      exact ⟨later, fun _ => rfl⟩

theorem AddressList.examine_unlinked {e : InterfaceEntry} (other : e.link?.isSome = false) :
    examine hint dad e = pure .skip := by
  rw [Option.isSome_eq_false_iff, Option.isNone_iff_eq_none] at other
  unfold examine
  rw [other]

theorem AddressList.resolve_chosen {devices : List Device}
    (distinct : (devices.map Device.name).Nodup) {k : Kernel} (lists : k.Lists devices) :
    ((resolve hint dad).run k).1 = Device.chosen devices hint dad := by
  obtain ⟨readable, ⟨shown, same, alike⟩, indexes⟩ := lists
  let listed := if k.interfaces.isEmpty then [.blank] else k.interfaces
  let k₁ := (k.takeFault .getifaddrs).2.record (.call .getifaddrs none)
  have indexes₁ : k₁.Indexes devices := by
    refine indexes.congr (k.interfaces_takeFault _) ?_
    rw [← k.faults_takeFault (by decide : CallKind.interfaceIndex ≠ .getifaddrs)]
    exact List.Subset.refl _
  -- The entry in place of an empty list has no link address, so it is filtered out like others.
  have kept : listed.filter (·.link?.isSome) = k.interfaces.filter (·.link?.isSome) := by
    dsimp only [listed]
    split
    · next none =>
      rw [List.isEmpty_iff.mp none]
      rfl
    · rfl
  have told : List.Forall₂ (fun e d => d ∈ devices ∧ InterfaceEntry.Shows e d)
      (listed.filter (·.link?.isSome)) shown := by
    rw [kept]
    refine List.Forall₂.flip ((List.forall₂_and_left _ _).mpr ⟨?_, alike.flip⟩)
    exact fun d => same.mem_iff.mp
  rw [resolve_run readable, survey_filter fun _ => examine_unlinked]
  have step : ∀ (e : InterfaceEntry) (d : Device) (k : Kernel), d ∈ devices ∧ e.Shows d →
      k.Indexes devices → ((examine hint dad e).run k).2.Indexes devices ∧
        ∀ k', ((examine hint dad e).run k).1 = ((d.examine hint dad).run k').1 :=
    fun _ _ _ => examine_shown
  apply (survey_alike (·.Indexes devices) step told indexes₁ k₁ []).trans
  exact Device.survey_chosen distinct same hint k₁

theorem Attributes.examine_rendered {dir : AttributeDirectory} (renders : dir.Renders d)
    (k k' : Kernel) :
    ((examine hint dad dir).run k).1 = ((d.examine hint dad).run k').1 := by
  have named : utf8Text? dir.name = some d.name := utf8Text?_eq_some_iff.mpr renders.name.symm
  have addressed : d.link.length ≠ 0 := List.length_eq_zero_iff.not.mpr d.addressed.1
  unfold examine Device.examine Finding.ofFlags
  rw [named]
  dsimp only
  rw [renders.interface?]
  dsimp only [Device.interface]
  rw [if_neg addressed]
  split
  · rfl
  · rcases InterfaceFlags.check hint d.flags dad with error | _ | _
    · rfl
    · rfl
    · rfl

theorem Attributes.resolve_chosen {devices : List Device}
    (distinct : (devices.map Device.name).Nodup) {k : Kernel} (keeps : k.Keeps devices) :
    ((resolve hint dad).run k).1 = Device.chosen devices hint dad := by
  obtain ⟨directories, shown, root, same, alike⟩ := keeps
  rw [resolve_run root]
  have step : ∀ (dir : AttributeDirectory) (d : Device) (k : Kernel), dir.Renders d → True →
      True ∧ ∀ k', ((examine hint dad dir).run k).1 = ((d.examine hint dad).run k').1 :=
    fun _ _ k renders _ => ⟨trivial, examine_rendered renders k⟩
  apply (survey_alike (fun _ => True) step alike trivial k []).trans
  exact Device.survey_chosen distinct same hint k

/-- Devices of distinct names that both sources show, each in its own order and the list with
entries of other families between them, are found alike by either way to look: the same interface
in all its parts, or none for the same reason. -/
theorem discovered_alike {devices : List Device} (distinct : (devices.map Device.name).Nodup)
    {list tree : Kernel} (lists : list.Lists devices) (keeps : tree.Keeps devices)
    (hint : Option String) (dad : Bool) :
    ((AddressList.resolve hint dad).run list).1 = ((Attributes.resolve hint dad).run tree).1 ∧
      ((Attributes.resolve hint dad).run tree).1 = Device.chosen devices hint dad := by
  have listed : ((AddressList.resolve hint dad).run list).1 = Device.chosen devices hint dad :=
    AddressList.resolve_chosen distinct lists
  have kept : ((Attributes.resolve hint dad).run tree).1 = Device.chosen devices hint dad :=
    Attributes.resolve_chosen distinct keeps
  exact ⟨listed.trans kept.symm, kept⟩

theorem discovered_alike_one_down :
    let eth0 : Device := ⟨"eth0", 2, 0x1003, [2, 0, 0, 0, 0, 1], List.replicate 6 255,
      by decide +kernel, by decide, by decide, by decide⟩
    let ib0 : Device := ⟨"ib0", 2147483647, 0x1002, List.replicate 8 7, List.replicate 8 255,
      by decide +kernel, by decide, by decide, by decide⟩
    let entry (d : Device) : InterfaceEntry := ⟨some (utf8Octets d.name), Int32.ofNat d.index,
      d.flags, 17, some (.hold d.link), 17, some (.hold d.broadcast)⟩
    let directory (name index flags length broadcast : String) : AttributeDirectory :=
      ⟨utf8Octets name, [("ifindex", utf8Octets index), ("flags", utf8Octets flags),
        ("addr_len", utf8Octets length), ("broadcast", utf8Octets broadcast)]⟩
    let wired := directory "eth0" "2\n" "0x1003\n" "6\n" "ff:ff:ff:ff:ff:ff\n"
    let infiniband :=
      directory "ib0" "2147483647\n" "0x1002\n" "8\n" "ff:ff:ff:ff:ff:ff:ff:ff\n"
    let k : Kernel := {
      interfaces := [{ entry eth0 with family := 2 }, entry ib0, entry eth0]
      directories := some [wired, infiniband] }
    k.Lists [eth0, ib0] ∧ k.Keeps [eth0, ib0] ∧
      ((AddressList.resolve none true).run k).1 = .found eth0.interface ∧
      ((Attributes.resolve none true).run k).1 = .found eth0.interface ∧
      ((AddressList.resolve (some "ib0") true).run k).1 = .fatal (.deviceDown "ib0") ∧
      ((Attributes.resolve (some "ib0") true).run k).1 = .fatal (.deviceDown "ib0") := by
  intro eth0 ib0 entry directory wired infiniband k
  have shows (d : Device) (held : (StoredAddress.hold d.link).octets = d.link ∧
      (StoredAddress.hold d.broadcast).octets = d.broadcast) : (entry d).Shows d :=
    ⟨rfl, rfl, ⟨rfl, rfl⟩, congrArg some held.1, congrArg some held.2⟩
  have packets : k.interfaces.filter (·.link?.isSome) = [entry ib0, entry eth0] := rfl
  have indexes : k.Indexes [eth0, ib0] := by
    refine ⟨?_, nofun⟩
    rw [List.forall_mem_cons, List.forall_mem_singleton]
    exact ⟨⟨{ entry eth0 with family := 2 }, by decide +kernel, rfl⟩,
      entry ib0, by decide +kernel, rfl⟩
  have lists : k.Lists [eth0, ib0] := by
    refine ⟨rfl, ⟨[ib0, eth0], .swap eth0 ib0 [], ?_⟩, indexes⟩
    rw [packets]
    exact .cons (shows ib0 (by decide)) (.cons (shows eth0 (by decide)) .nil)
  have keeps : k.Keeps [eth0, ib0] := by
    have rendered : wired.Renders eth0 :=
      ⟨rfl, by decide +kernel, by decide +kernel, by decide +kernel, by decide +kernel⟩
    have rendered' : infiniband.Renders ib0 :=
      ⟨rfl, by decide +kernel, by decide +kernel, by decide +kernel, by decide +kernel⟩
    exact ⟨_, [eth0, ib0], rfl, .refl _, .cons rendered (.cons rendered' .nil)⟩
  have distinct : ([eth0, ib0].map Device.name).Nodup := by decide
  have chosen : Device.chosen [eth0, ib0] none true = .found eth0.interface := by decide +kernel
  have chosen' : Device.chosen [eth0, ib0] (some "ib0") true = .fatal (.deviceDown "ib0") := by
    decide +kernel
  obtain ⟨same, found⟩ := discovered_alike distinct lists keeps none true
  obtain ⟨same', found'⟩ := discovered_alike distinct lists keeps (some "ib0") true
  rw [same, same', found, found', chosen, chosen']
  exact ⟨lists, keeps, rfl, rfl, rfl, rfl⟩

end ArpProbe

import ArpProbe.Discovery.AddressList
import ArpProbe.Discovery.Attributes
import ArpProbe.Discovery.ControlRequest
import ArpProbe.Proofs.Discovery.Survey

/-! Looking for an interface by a name that was asked for, where it is down or resolves no
addresses. Each way to look for it refuses it at once and for the same reason. Only its attributes
do not get as far as that reason if it has no address. -/

namespace ArpProbe

theorem HardwareAddress.ofText?_zero (s : String) : ofText? s 0 = none := by
  -- However it is split, there is a field, and each field is an octet.
  have field (cs : List Char) : ∃ f fs, Text.fields ':' cs = f :: fs := by
    cases cs with
    | nil => exact ⟨_, _, rfl⟩
    | cons c cs =>
      unfold Text.fields
      split
      · exact ⟨_, _, rfl⟩
      · split <;> exact ⟨_, _, rfl⟩
  obtain ⟨f, fs, split⟩ := field s.toList
  rw [ofText?, ofChars?, split, List.mapM_cons]
  cases ofField? f with
  | none => rfl
  | some octet =>
    cases fs.mapM ofField? with
    | none => rfl
    | some octets => rfl

open InterfaceFlags (refusal? check_of_refusal)

namespace AttributeDirectory

def IsBlank (d : AttributeDirectory) (file : String) : Prop :=
  ∃ content text, (d.attributes.find? (·.1 = file)).map Prod.snd = some content ∧
    utf8Text? content = some text ∧ Text.firstWord? text.toList = none

/-- Well-formed attributes: numbers in their ranges, and a broadcast address of just the length
that is stated, with nothing written where that is zero. -/
structure States (d : AttributeDirectory) (flags : UInt32) (broadcast : Octets) : Prop where
  index : ∃ n < Numeral.bound 31, d.attribute? "ifindex" >>= Numeral.decimal64? = some n
  flags : d.attribute? "flags" >>= Numeral.hexadecimal64? = some flags.toNat
  length : d.attribute? "addr_len" >>= Numeral.decimal64? = some broadcast.length
  written : broadcast ≠ [] →
    d.attribute? "broadcast" >>= (HardwareAddress.ofText? · broadcast.length) = some broadcast
  blank : broadcast = [] → d.IsBlank "broadcast"

variable {d : AttributeDirectory} {flags : UInt32} {broadcast : Octets}

theorem interface?_of_unaddressed
    (length : d.attribute? "addr_len" >>= Numeral.decimal64? = some 0) (name : String) :
    d.interface? name = none := by
  have never : d.attribute? "broadcast" >>= (HardwareAddress.ofText? · 0) = none := by
    cases d.attribute? "broadcast" with
    | none => rfl
    | some text => exact HardwareAddress.ofText?_zero text
  unfold interface?
  rw [length]
  cases d.attribute? "ifindex" >>= Numeral.decimal64? with
  | none => rfl
  | some index =>
    cases d.attribute? "flags" >>= Numeral.hexadecimal64? with
    | none => rfl
    | some flags =>
      change ((d.attribute? "broadcast" >>= (HardwareAddress.ofText? · 0)) >>= _) = none
      rw [never]
      rfl

theorem interface?_of_reads {index : Nat} (fits : index < Numeral.bound 31)
    (indexed : d.attribute? "ifindex" >>= Numeral.decimal64? = some index)
    (flagged : d.attribute? "flags" >>= Numeral.hexadecimal64? = some flags.toNat)
    (length : d.attribute? "addr_len" >>= Numeral.decimal64? = some broadcast.length)
    (reached : d.attribute? "broadcast" >>= (HardwareAddress.ofText? · broadcast.length) =
      some broadcast) (name : String) :
    d.interface? name =
      some ⟨name, Int32.ofNat index, broadcast.length, some broadcast, flags⟩ := by
  have inRange : index < Numeral.bound 31 ∧ flags.toNat < Numeral.bound 32 :=
    ⟨fits, flags.toNat_lt⟩
  unfold interface?
  rw [indexed, flagged, length]
  change ((d.attribute? "broadcast" >>= (HardwareAddress.ofText? · broadcast.length)) >>= _) = _
  rw [reached]
  change (if _ then _ else _) = _
  rw [if_pos inRange, UInt32.ofNat_toNat]

theorem States.interface? (s : d.States flags broadcast) (addressed : broadcast ≠ [])
    (name : String) : ∃ index,
      d.interface? name = some ⟨name, index, broadcast.length, some broadcast, flags⟩ := by
  obtain ⟨index, fits, read⟩ := s.index
  exact ⟨_, interface?_of_reads fits read s.flags s.length (s.written addressed) name⟩

end AttributeDirectory

namespace Kernel

variable (k : Kernel) (name : String) (flags : UInt32)

def HasDirectory (broadcast : Octets) : Prop :=
  ∃ directories d, k.directories = some directories ∧
    directories.filter (utf8Text? ·.name = some name) = [d] ∧ d.States flags broadcast

def ListsPacket (link : Octets) : Prop :=
  (k.takeFault .getifaddrs).1 = none ∧
    ∃ e, k.interfaces.find? (fun e => e.link?.isSome && e.nameText? = some name) = some e ∧
      e.flags = flags ∧ e.link? = some link

def TellsFlags : Prop :=
  (k.takeFault .inetSocket).1 = none ∧ (k.takeFault .requestFlags).1 = none ∧
    ControlRequest.fits name = true ∧
      ∃ e, k.entry? name = some e ∧ e.flags = flags

end Kernel

namespace Attributes

variable {name : String} {dad : Bool} {d : AttributeDirectory}

theorem examine_other (other : utf8Text? d.name ≠ some name) :
    examine (some name) dad d = pure .skip := by
  unfold examine
  split
  · rfl
  · next name' found =>
    have ne : name ≠ name' := fun same => other (same ▸ found)
    rw [if_pos (Finding.isWanted_of_ne ne)]

theorem examine_named (named : utf8Text? d.name = some name) :
    examine (some name) dad d =
      match d.interface? name with
      | none => pure .skip
      | some i => Finding.ofFlags (some name) i.flags dad do
        return if i.addressLength = 0 then .skip else .candidate i := by
  unfold examine
  rw [named]
  exact if_neg (not_not_intro Finding.isWanted_self)

theorem resolve_only {k : Kernel} {directories : List AttributeDirectory}
    (root : k.directories = some directories)
    (only : directories.filter (utf8Text? ·.name = some name) = [d]) :
    (resolve (some name) dad).run k = (survey (examine (some name) dad) [d] []).run k := by
  have passed (d : AttributeDirectory) (other : decide (utf8Text? d.name = some name) = false) :
      examine (some name) dad d = pure .skip := examine_other (of_decide_eq_false other)
  rw [← only, ← survey_filter passed, resolve_run root]

end Attributes

section Refusal

variable {k : Kernel} {name : String} {flags : UInt32} {dad : Bool} {error : Error}
  (refused : refusal? name flags dad = some error)
include refused

theorem Attributes.resolve_refused {broadcast : Octets}
    (there : k.HasDirectory name flags broadcast) :
    ((resolve (some name) dad).run k).1 =
      if broadcast = [] then .notFound else .fatal error := by
  obtain ⟨directories, d, root, only, states⟩ := there
  have member : d ∈ directories.filter (utf8Text? ·.name = some name) := by
    rw [only]
    exact List.mem_singleton_self d
  have named : utf8Text? d.name = some name := of_decide_eq_true (List.mem_filter.mp member).2
  rw [resolve_only root only, survey, examine_named named]
  by_cases none : broadcast = []
  · have length := states.length
    rw [none] at length
    rw [if_pos none, AttributeDirectory.interface?_of_unaddressed length]
    rfl
  · obtain ⟨index, read⟩ := states.interface? none name
    rw [if_neg none, read]
    simp only [Finding.ofFlags_of_refusal refused]
    rfl

theorem AddressList.resolve_refused {link : Octets} (lists : k.ListsPacket name flags link) :
    ((resolve (some name) dad).run k).1 = .fatal error := by
  obtain ⟨fine, e, first, rfl, packet⟩ := lists
  let wanted (e : InterfaceEntry) : Bool := e.link?.isSome && e.nameText? = some name
  obtain ⟨rest, kept⟩ : ∃ rest, k.interfaces.filter wanted = e :: rest := by
    rw [← List.head?_filter] at first
    exact List.head?_eq_some_iff.mp first
  have passed (e : InterfaceEntry) (other : wanted e = false) :
      examine (some name) dad e = pure .skip := by
    unfold examine
    split
    · next link name' linked found =>
      have ne : name ≠ name' := fun same => by simp [wanted, linked, found, same] at other
      rw [if_pos (Finding.isWanted_of_ne ne)]
    · rfl
  have answers : examine (some name) dad e = pure (.answer (.fatal error)) := by
    have found := List.find?_some first
    rw [Bool.and_eq_true, decide_eq_true_eq] at found
    unfold examine
    simp only [packet, found.2, if_neg (not_not_intro Finding.isWanted_self)]
    exact Finding.ofFlags_of_refusal refused _
  have listed : k.interfaces.isEmpty = false := by
    rw [List.isEmpty_eq_false_iff]
    exact List.ne_nil_of_mem (List.mem_of_find?_eq_some first)
  rw [resolve_run fine, listed, if_neg Bool.false_ne_true, survey_filter passed, kept,
    survey_of_answer answers]
  rfl

theorem ControlRequest.resolve_refused (tells : k.TellsFlags name flags) :
    ((resolve (some name) dad).run k).1 = .fatal error := by
  obtain ⟨opens, fine, fits, e, found, rfl⟩ := tells
  let k₁ := (k.takeFault .inetSocket).2.record (.call .inetSocket none)
  have opened : (Sys.perform .inetSocket).run.run k = (.ok (), k₁) :=
    Sys.run_query k rfl opens rfl
  have fine₁ : (k₁.takeFault .requestFlags).1 = none := by
    rw [← fine]
    exact Kernel.takeFault_congr (k.faults_takeFault (by decide))
  let k₂ := (k₁.takeFault .requestFlags).2.record (.call (.requestFlags name) none)
  have answered : (Sys.requestFlags name).run.run k₁ = (.ok (e.flags &&& 0xffff), k₂) := by
    refine Sys.run_query k₁ rfl fine₁ ?_
    have same : (k₁.takeFault .requestFlags).2.interfaces = k.interfaces :=
      (k₁.interfaces_takeFault _).trans (k.interfaces_takeFault _)
    have found₁ : Kernel.entry? (k₁.takeFault .requestFlags).2 name = some e := by
      unfold Kernel.entry? at found ⊢
      rw [same]
      exact found
    simp only [found₁]
  have refused' := refused
  rw [← InterfaceFlags.refusal?_lower] at refused'
  unfold resolve
  rw [Sys.run_bind, opened]
  simp only [named, fits, not_true, if_false]
  rw [Sys.run_bind]
  simp only [answered, check_of_refusal refused']
  rfl

end Refusal

/-- Whichever way it is looked for, an interface that was asked for by name and is down, or resolves
no addresses, is refused for that reason, be it with an address or without. Only its attributes
must hold an address: without one it is not found among them. -/
theorem refused_alike {name : String} {flags : UInt32} {dad : Bool} {error : Error}
    (refused : refusal? name flags dad = some error) {tree list socket : Kernel}
    {broadcast link : Octets} (directory : tree.HasDirectory name flags broadcast)
    (packet : list.ListsPacket name flags link) (told : socket.TellsFlags name flags) :
    ((Attributes.resolve (some name) dad).run tree).1 =
        (if broadcast = [] then .notFound else .fatal error) ∧
      ((AddressList.resolve (some name) dad).run list).1 = .fatal error ∧
      ((ControlRequest.resolve (some name) dad).run socket).1 = .fatal error :=
  ⟨Attributes.resolve_refused refused directory, AddressList.resolve_refused refused packet,
    ControlRequest.resolve_refused refused told⟩

theorem refused_alike_addressed :
    let broadcast : Octets := List.replicate 6 255
    let attributes : List (String × Octets) := [("ifindex", utf8Octets "4\n"),
      ("flags", utf8Octets "0x1081\n"), ("addr_len", utf8Octets "6\n"),
      ("broadcast", utf8Octets "ff:ff:ff:ff:ff:ff\n")]
    let neighbour : InterfaceEntry :=
      ⟨some (utf8Octets "lo"), 1, 0x49, 17, some (.hold (List.replicate 6 0)), 0, none⟩
    let entry : InterfaceEntry := ⟨some (utf8Octets "eth0"), 4, 0x1081, 17,
      some (.hold [2, 0, 0, 0, 0, 1]), 17, some (.hold broadcast)⟩
    let k : Kernel := {
      directories := some [⟨utf8Octets "lo", []⟩, ⟨utf8Octets "eth0", attributes⟩]
      interfaces := [neighbour, entry] }
    let error : Error := .notArpable "eth0" true
    refusal? "eth0" 0x1081 true = some error ∧ k.HasDirectory "eth0" 0x1081 broadcast ∧
      k.ListsPacket "eth0" 0x1081 [2, 0, 0, 0, 0, 1] ∧ k.TellsFlags "eth0" 0x1081 ∧
      ((Attributes.resolve (some "eth0") true).run k).1 = .fatal error ∧
      ((AddressList.resolve (some "eth0") true).run k).1 = .fatal error ∧
      ((ControlRequest.resolve (some "eth0") true).run k).1 = .fatal error := by
  intro broadcast attributes neighbour entry k error
  have refused : refusal? "eth0" 0x1081 true = some error := by decide +kernel
  have states : AttributeDirectory.States ⟨utf8Octets "eth0", attributes⟩ 0x1081 broadcast :=
    ⟨⟨4, by decide, by decide +kernel⟩, by decide +kernel, by decide +kernel,
      fun _ => by decide +kernel, fun none => absurd none (by decide)⟩
  have directory : k.HasDirectory "eth0" 0x1081 broadcast :=
    ⟨_, _, rfl, by decide +kernel, states⟩
  have packet : k.ListsPacket "eth0" 0x1081 [2, 0, 0, 0, 0, 1] :=
    ⟨rfl, entry, by decide +kernel, rfl, by decide⟩
  have told : k.TellsFlags "eth0" 0x1081 :=
    ⟨rfl, rfl, by decide +kernel, entry, by decide +kernel, rfl⟩
  exact ⟨refused, directory, packet, told, refused_alike refused directory packet told⟩

/-- A tunnel has no address and resolves none. Asked for by name it is refused for that by the other
two ways, and not found among the attributes. -/
theorem refused_apart_unaddressed :
    let attributes : List (String × Octets) := [("ifindex", utf8Octets "4\n"),
      ("flags", utf8Octets "0x1091\n"), ("addr_len", utf8Octets "0\n"),
      ("broadcast", utf8Octets "\n")]
    let entry : InterfaceEntry :=
      ⟨some (utf8Octets "tun0"), 4, 0x1091, 17, some (.hold []), 0, none⟩
    let k : Kernel :=
      { directories := some [⟨utf8Octets "tun0", attributes⟩], interfaces := [entry] }
    let error : Error := .notArpable "tun0" true
    refusal? "tun0" 0x1091 true = some error ∧ k.HasDirectory "tun0" 0x1091 [] ∧
      k.ListsPacket "tun0" 0x1091 [] ∧ k.TellsFlags "tun0" 0x1091 ∧
      ((Attributes.resolve (some "tun0") true).run k).1 = .notFound ∧
      ((AddressList.resolve (some "tun0") true).run k).1 = .fatal error ∧
      ((ControlRequest.resolve (some "tun0") true).run k).1 = .fatal error := by
  intro attributes entry k error
  have states : AttributeDirectory.States ⟨utf8Octets "tun0", attributes⟩ 0x1091 [] :=
    ⟨⟨4, by decide, by decide +kernel⟩, by decide +kernel, by decide +kernel,
      fun some => absurd rfl some, fun _ => ⟨utf8Octets "\n", "\n", by decide +kernel⟩⟩
  refine ⟨by decide +kernel, ⟨_, _, rfl, by decide +kernel, states⟩,
    ⟨rfl, entry, by decide +kernel, rfl, by decide⟩,
    ⟨rfl, rfl, by decide +kernel, entry, by decide +kernel, rfl⟩, ?_⟩
  decide +kernel

end ArpProbe

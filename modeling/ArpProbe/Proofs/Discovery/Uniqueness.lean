import ArpProbe.Proofs.Discovery.Survey
import ArpProbe.Proofs.Text.Reading
import ArpProbe.Resolver
import Mathlib.Data.List.Nodup

/-! Which interface discovery picks. An entry qualifies by what it says and by what is answered
about it, and without a name to ask for, the qualifying entries alone decide the outcome: the only
one is found, in whatever order they come. Names that are asked about are met once each. -/

namespace ArpProbe

open InterfaceFlags (Usable)

namespace InterfaceEntry

def described? (hint : Option String) (e : InterfaceEntry) (index : Int32) : Option Interface := do
  let name ← e.nameText?
  let link ← e.link?
  let broadcast ← e.broadcastLink?
  if (∀ wanted ∈ hint, name = wanted) ∧ Usable e.flags ∧ link ≠ [] then
    some ⟨name, index, link.length, some broadcast, e.flags⟩
  else none

def indexIn (e : InterfaceEntry) (k : Kernel) : Int32 :=
  match ((Sys.interfaceIndex (e.nameText?.getD "")).run.run k).1 with
  | .ok index => index
  | .error _ => 0

theorem indexIn_answered {e : InterfaceEntry} {k : Kernel} {name : String}
    (named : e.nameText? = some name) (answered : e.indexIn k ≠ 0) :
    ∃ k', (Sys.interfaceIndex name).run.run k = (.ok (e.indexIn k), k') := by
  unfold indexIn at answered ⊢
  rw [named, Option.getD_some] at answered ⊢
  rcases ran : (Sys.interfaceIndex name).run.run k with ⟨cause | index, k'⟩
  · rw [ran] at answered
    exact absurd rfl answered
  · exact ⟨k', rfl⟩

theorem described?_eq_some {hint : Option String} {e : InterfaceEntry} {index : Int32}
    {i : Interface} : e.described? hint index = some i ↔
      ∃ link broadcast, e.nameText? = some i.name ∧ e.link? = some link ∧
        e.broadcastLink? = some broadcast ∧ (∀ wanted ∈ hint, i.name = wanted) ∧
        Usable e.flags ∧ link ≠ [] ∧
        i = ⟨i.name, index, link.length, some broadcast, e.flags⟩ := by
  simp only [described?, Option.bind_eq_bind, Option.bind_eq_some_iff,
    Option.ite_none_right_eq_some, Option.some.injEq]
  constructor
  · rintro ⟨name, named, link, linked, broadcast, reached, ⟨asked, usable, written⟩, rfl⟩
    exact ⟨link, broadcast, named, linked, reached, asked, usable, written, rfl⟩
  · rintro ⟨link, broadcast, named, linked, reached, asked, usable, written, same⟩
    exact ⟨i.name, named, link, linked, broadcast, reached, ⟨asked, usable, written⟩, same.symm⟩

end InterfaceEntry

namespace AttributeDirectory

def described? (hint : Option String) (d : AttributeDirectory) : Option Interface := do
  let name ← utf8Text? d.name
  let i ← d.interface? name
  if (∀ wanted ∈ hint, name = wanted) ∧ Usable i.flags ∧ 0 < i.addressLength then some i else none

theorem interface?_name {d : AttributeDirectory} {name : String} {i : Interface}
    (read : d.interface? name = some i) : i.name = name := by
  simp only [interface?, Option.bind_eq_bind, Option.bind_eq_some_iff,
    Option.ite_none_right_eq_some, Option.some.injEq] at read
  obtain ⟨index, -, flags, -, length, -, broadcast, -, -, rfl⟩ := read
  rfl

theorem described?_wanted {hint : Option String} {d : AttributeDirectory} {i : Interface}
    (described : d.described? hint = some i) : ∀ wanted ∈ hint, i.name = wanted := by
  simp only [described?, Option.bind_eq_bind, Option.bind_eq_some_iff,
    Option.ite_none_right_eq_some, Option.some.injEq] at described
  obtain ⟨name, -, i, read, ⟨asked, -⟩, rfl⟩ := described
  rw [interface?_name read]
  exact asked

end AttributeDirectory

structure Told where
  name : String
  flags : Option UInt32
  index : Option Int32
  deriving DecidableEq

namespace Told

def ofKernel (name : String) (k : Kernel) : Told :=
  let flags := (Sys.requestFlags name).run.run k
  let index := (Sys.requestIndex name).run.run flags.2
  ⟨name, flags.1.toOption, index.1.toOption⟩

theorem answered_iff {name : String} {k : Kernel} {flags : UInt32} {index : Int32} :
    (ofKernel name k).flags = some flags ∧ (ofKernel name k).index = some index ↔
      ∃ k₁ k₂, (Sys.requestFlags name).run.run k = (.ok flags, k₁) ∧
        (Sys.requestIndex name).run.run k₁ = (.ok index, k₂) := by
  unfold ofKernel
  constructor
  · rintro ⟨told, found⟩
    dsimp only at told found
    rcases asked : (Sys.requestFlags name).run.run k with ⟨cause | flags', k₁⟩
    · rw [asked] at told
      cases told
    · rw [asked] at told found
      rcases asked' : (Sys.requestIndex name).run.run k₁ with ⟨cause | index', k₂⟩
      · rw [asked'] at found
        cases found
      · rw [asked'] at found
        cases told
        cases found
        exact ⟨k₁, k₂, rfl, asked'⟩
  · rintro ⟨k₁, k₂, asked, asked'⟩
    rw [asked]
    dsimp only
    rw [asked']
    exact ⟨rfl, rfl⟩

def described? (hint : Option String) (t : Told) : Option Interface := do
  let flags ← t.flags
  let index ← t.index
  if (∀ wanted ∈ hint, t.name = wanted) ∧ t.name.utf8ByteSize < ControlRequest.nameSize ∧
      Usable flags then
    some ⟨t.name, index, 0, none, flags⟩
  else none

theorem described?_eq_some {hint : Option String} {t : Told} {i : Interface} :
    t.described? hint = some i ↔ ∃ flags index, t.flags = some flags ∧ t.index = some index ∧
      (∀ wanted ∈ hint, t.name = wanted) ∧ t.name.utf8ByteSize < ControlRequest.nameSize ∧
      Usable flags ∧ i = ⟨t.name, index, 0, none, flags⟩ := by
  simp only [described?, Option.bind_eq_bind, Option.bind_eq_some_iff,
    Option.ite_none_right_eq_some, Option.some.injEq]
  constructor
  · rintro ⟨flags, told, index, found, ⟨asked, short, usable⟩, rfl⟩
    exact ⟨flags, index, told, found, asked, short, usable, rfl⟩
  · rintro ⟨flags, index, told, found, asked, short, usable, rfl⟩
    exact ⟨flags, told, index, found, ⟨asked, short, usable⟩, rfl⟩

end Told

inductive Listing where
  | addresses (entries : List (InterfaceEntry × Int32))
  | attributes (directories : List AttributeDirectory)
  | requests (names : List Told)

namespace Listing

def method : Listing → DiscoveryMethod
  | addresses _ => .ifaddrs
  | attributes _ => .sysfs
  | requests _ => .ioctl

def qualifying (hint : Option String) : Listing → List Interface
  | addresses entries => entries.filterMap fun (e, index) => e.described? hint index
  | attributes directories => directories.filterMap (·.described? hint)
  | requests names => names.filterMap (·.described? hint)

inductive Permuted : Listing → Listing → Prop
  | addresses {es es'} (p : List.Perm es es') : Permuted (.addresses es) (.addresses es')
  | attributes {ds ds'} (p : List.Perm ds ds') : Permuted (.attributes ds) (.attributes ds')
  | requests {ts ts'} (p : List.Perm ts ts') : Permuted (.requests ts) (.requests ts')

variable {listing listing' : Listing} {hint : Option String}

theorem Permuted.method_eq (p : Permuted listing listing') : listing'.method = listing.method := by
  cases p <;> rfl

theorem Permuted.qualifying (p : Permuted listing listing') :
    (listing.qualifying hint).Perm (listing'.qualifying hint) := by
  cases p with
  | addresses p => exact p.filterMap _
  | attributes p => exact p.filterMap _
  | requests p => exact p.filterMap _

theorem wanted_of_qualifying {i : Interface} (member : i ∈ listing.qualifying hint) :
    ∀ wanted ∈ hint, i.name = wanted := by
  cases listing with
  | addresses entries =>
    obtain ⟨⟨e, index⟩, -, described⟩ := List.mem_filterMap.mp member
    obtain ⟨link, broadcast, -, -, -, asked, -⟩ := InterfaceEntry.described?_eq_some.mp described
    exact asked
  | attributes directories =>
    obtain ⟨d, -, described⟩ := List.mem_filterMap.mp member
    exact AttributeDirectory.described?_wanted described
  | requests names =>
    obtain ⟨t, -, described⟩ := List.mem_filterMap.mp member
    obtain ⟨flags, index, -, -, asked, -, -, rfl⟩ := Told.described?_eq_some.mp described
    exact asked

end Listing

/-- The source can be read and holds the entries, each with what the kernel answers about it when
its turn comes. A qualifying address has an index, and a name that is asked for is the only entry,
whether or not it is in the list. -/
def Kernel.Shows (k : Kernel) (hint : Option String) (dad : Bool) : Listing → Prop
  | .addresses entries => ∃ listed k₁, Sys.getifaddrs.run.run k = (.ok listed, k₁) ∧
      entries = ((turns (AddressList.examine hint dad) listed k₁).map fun (e, k) =>
        (e, e.indexIn k)) ∧
      ∀ p ∈ entries, (p.1.described? hint p.2).isSome → p.2 ≠ 0
  | .attributes directories => k.directories = some directories
  | .requests names => ∃ k₁, (Sys.perform .inetSocket).run.run k = (.ok (), k₁) ∧
      match hint with
      | some name => names = [.ofKernel name k₁]
      | none => ∃ listed k₂,
          (ControlRequest.listNames Sys.listInterfaces ControlRequest.maxDoublings 1).run.run k₁ =
            (.ok listed, k₂) ∧
          names = (turns (ControlRequest.examine dad) listed k₂).map fun (name, k) =>
            .ofKernel name k

namespace AddressList

variable {hint : Option String} {dad : Bool}

theorem examine_tells (e : InterfaceEntry) (k : Kernel)
    (known : (e.described? hint (e.indexIn k)).isSome → e.indexIn k ≠ 0) :
    Finding.Tells hint ((examine hint dad e).run k).1 (e.described? hint (e.indexIn k)) := by
  cases qualified : e.described? hint (e.indexIn k) with
  | some i =>
    obtain ⟨link, broadcast, named, linked, reached, asked, usable, written, same⟩ :=
      InterfaceEntry.described?_eq_some.mp qualified
    obtain ⟨octet, octets, rfl⟩ := List.exists_cons_of_ne_nil written
    have wanted : Finding.isWanted hint i.name = true := Finding.isWanted_iff.mpr asked
    have answered : e.indexIn k ≠ 0 := known (Option.isSome_of_eq_some qualified)
    obtain ⟨k', told⟩ := InterfaceEntry.indexIn_answered named answered
    unfold examine
    simp only [linked, named, reached, if_neg (not_not_intro wanted),
      Finding.ofFlags_of_usable usable, List.isEmpty_cons]
    rw [Sys.run_bind, told, same]
    exact .candidate _
  | none =>
    unfold examine
    split
    · next link name linked named =>
      split
      · exact .skip
      · next wanted =>
        refine Finding.ofFlags_tells (fun _ => rfl) fun usable => ?_
        split
        · next broadcast written reached =>
          have asked := Finding.isWanted_iff.mp (not_not.mp wanted)
          let i : Interface := ⟨name, e.indexIn k, link.length, some broadcast, e.flags⟩
          have described : e.described? hint (e.indexIn k) = some i :=
            InterfaceEntry.described?_eq_some.mpr ⟨link, broadcast, named, linked, reached, asked,
              usable, List.isEmpty_eq_false_iff.mp written, rfl⟩
          cases qualified.symm.trans described
        · exact .skip
    · exact .skip

theorem resolve_settles {k : Kernel} {entries : List (InterfaceEntry × Int32)}
    (shows : k.Shows hint dad (.addresses entries)) :
    Settles hint ((resolve hint dad).run k).1 (Listing.qualifying hint (.addresses entries)) := by
  obtain ⟨listed, k₁, ran, rfl, known⟩ := shows
  have tells : ∀ p ∈ turns (examine hint dad) listed k₁,
      Finding.Tells hint ((examine hint dad p.1).run p.2).1
        (p.1.described? hint (p.1.indexIn p.2)) := by
    intro p turn
    exact examine_tells p.1 p.2 (known _ (List.mem_map.mpr ⟨p, turn, rfl⟩))
  have settles := survey_settles tells
  unfold resolve
  rw [Sys.run_bind, ran, Listing.qualifying, List.filterMap_map]
  exact settles

end AddressList

namespace Attributes

variable {hint : Option String} {dad : Bool}

theorem examine_tells (d : AttributeDirectory) (k : Kernel) :
    Finding.Tells hint ((examine hint dad d).run k).1 (d.described? hint) := by
  unfold examine AttributeDirectory.described?
  cases named : utf8Text? d.name with
  | none => exact .skip
  | some name =>
    change Finding.Tells hint _ (d.interface? name >>= _)
    dsimp only
    cases read : d.interface? name with
    | none =>
      split <;> exact .skip
    | some i =>
      change Finding.Tells hint _ (if _ then _ else _)
      split
      · next unwanted =>
        rw [Finding.isWanted_iff] at unwanted
        rw [if_neg fun qualifies => unwanted qualifies.1]
        exact .skip
      · next wanted =>
        have asked := Finding.isWanted_iff.mp (not_not.mp wanted)
        dsimp only
        refine Finding.ofFlags_tells (fun unusable => ?_) fun usable => ?_
        · exact if_neg fun qualifies => unusable qualifies.2.1
        · by_cases addressed : i.addressLength = 0
          · have short : ¬ 0 < i.addressLength := Nat.not_lt.mpr (Nat.le_of_eq addressed)
            rw [if_pos addressed, if_neg fun qualifies => short qualifies.2.2]
            exact .skip
          · rw [if_neg addressed, if_pos ⟨asked, usable, Nat.pos_of_ne_zero addressed⟩]
            exact .candidate i

theorem resolve_settles {k : Kernel} {directories : List AttributeDirectory}
    (shows : k.Shows hint dad (.attributes directories)) :
    Settles hint ((resolve hint dad).run k).1
      (Listing.qualifying hint (.attributes directories)) := by
  have settles : Settles hint ((survey (examine hint dad) directories []).run k).1
      ((turns (examine hint dad) directories k).filterMap fun p => p.1.described? hint) :=
    survey_settles fun p _ => examine_tells p.1 p.2
  rw [filterMap_turns] at settles
  rw [resolve_run shows]
  exact settles

end Attributes

namespace ControlRequest

variable {hint : Option String} {dad : Bool} {name : String}

theorem recordName?_clean {record : Octets} (read : recordName? record = some name) :
    (utf8Octets name).contains 0 = false := by
  unfold recordName? at read
  dsimp only at read
  split at read
  · cases read
  · rw [utf8Text?_eq_some_iff.mp read, List.contains_eq_mem, decide_eq_false_iff_not]
    intro zero
    have nonzero := List.all_eq_true.mp List.all_takeWhile 0 zero
    simp at nonzero

structure Clean (names : List String) : Prop where
  distinct : names.Nodup
  unbroken : ∀ name ∈ names, (utf8Octets name).contains 0 = false

theorem Clean.withName {names : List String} (clean : Clean names)
    (unbroken : (utf8Octets name).contains 0 = false) : Clean (withName names name) := by
  unfold ControlRequest.withName
  split
  · exact clean
  · next new =>
    rw [List.contains_eq_mem, decide_eq_true_eq] at new
    refine ⟨?_, ?_⟩
    · rw [List.nodup_append]
      refine ⟨clean.distinct, List.nodup_singleton name, ?_⟩
      intro other old added member same
      rw [List.mem_singleton.mp member] at same
      exact new (same ▸ old)
    · intro other member
      rcases List.mem_append.mp member with old | added
      · exact clean.unbroken other old
      · rw [List.mem_singleton.mp added]
        exact unbroken

theorem recordNames_clean (records : List Octets) : Clean (recordNames records) := by
  have added (more names : List String) (clean : Clean names)
      (unbroken : ∀ name ∈ more, (utf8Octets name).contains 0 = false) :
      Clean (more.foldl withName names) := by
    induction more generalizing names with
    | nil => exact clean
    | cons next more ih =>
      have first := unbroken next List.mem_cons_self
      exact ih _ (clean.withName first) fun name later => unbroken name (.tail _ later)
  refine added _ [] ⟨List.nodup_nil, nofun⟩ fun name read => ?_
  obtain ⟨record, -, read⟩ := List.mem_filterMap.mp read
  exact recordName?_clean read

theorem listNames_clean (doublings room : Nat) :
    Sys.Yields Clean (listNames Sys.listInterfaces doublings room) := by
  induction doublings generalizing room with
  | zero =>
    unfold listNames
    refine .bind_any fun records => ?_
    split
    · exact .pure (recordNames_clean records)
    · rintro _ _ ⟨⟩
  | succ doublings ih =>
    unfold listNames
    refine .bind_any fun records => ?_
    split
    · exact .pure (recordNames_clean records)
    · exact ih _

theorem fits_iff (clean : (utf8Octets name).contains 0 = false) :
    fits name = true ↔ name.utf8ByteSize < nameSize := by
  rw [fits, clean, Bool.not_false, Bool.and_true, decide_eq_true_eq]

theorem examine_tells (k : Kernel) (clean : (utf8Octets name).contains 0 = false) :
    Finding.Tells none ((examine dad name).run k).1 ((Told.ofKernel name k).described? none) := by
  unfold examine
  cases qualified : (Told.ofKernel name k).described? none with
  | some i =>
    obtain ⟨flags, index, told, found, -, short, usable, rfl⟩ :=
      Told.described?_eq_some.mp qualified
    obtain ⟨k₁, k₂, asked, asked'⟩ := Told.answered_iff.mp ⟨told, found⟩
    have fit : fits name = true := (fits_iff clean).mpr short
    rw [if_neg (not_not_intro fit), Sys.run_bind, asked]
    dsimp only
    rw [Finding.ofFlags_of_usable usable, Sys.run_bind, asked']
    exact .candidate _
  | none =>
    by_cases fit : fits name = true
    case neg =>
      rw [if_pos fit]
      exact .skip
    rw [if_neg (not_not_intro fit), Sys.run_bind]
    rcases asked : (Sys.requestFlags name).run.run k with ⟨cause | flags, k₁⟩
    · exact .skip
    · refine Finding.ofFlags_tells (fun _ => rfl) fun usable => ?_
      rw [Sys.run_bind]
      rcases asked' : (Sys.requestIndex name).run.run k₁ with ⟨cause | index, k₂⟩
      · exact .skip
      · obtain ⟨told, found⟩ := Told.answered_iff.mpr ⟨k₁, k₂, asked, asked'⟩
        have short : name.utf8ByteSize < nameSize := (fits_iff clean).mp fit
        have unnamed : ∀ wanted ∈ (none : Option String), name = wanted := nofun
        have described := Told.described?_eq_some.mpr
          ⟨flags, index, told, found, unnamed, short, usable, rfl⟩
        cases qualified.symm.trans described

theorem named_found {k : Kernel} {i : Interface} (found : ((named name dad).run k).1 = .found i) :
    (Told.ofKernel name k).described? (some name) = some i := by
  unfold named at found
  by_cases fit : fits name = true
  case neg =>
    rw [if_pos fit] at found
    cases found
  rw [if_neg (not_not_intro fit), Sys.run_bind] at found
  rcases asked : (Sys.requestFlags name).run.run k with ⟨cause | flags, k₁⟩
  · rw [asked] at found
    dsimp only at found
    split at found <;> cases found
  rw [asked] at found
  by_cases usable : Usable flags
  case neg =>
    cases refused : InterfaceFlags.refusal? name flags dad with
    | none => exact absurd (InterfaceFlags.refusal?_eq_none.mp refused) usable
    | some error =>
      simp only [InterfaceFlags.check_of_refusal refused] at found
      cases found
  simp only [InterfaceFlags.check_of_usable usable] at found
  rw [Sys.run_bind] at found
  rcases asked' : (Sys.requestIndex name).run.run k₁ with ⟨cause | index, k₂⟩
  · rw [asked'] at found
    cases found
  rw [asked'] at found
  obtain rfl : describe name index flags = i := by injection found
  obtain ⟨told, known⟩ := Told.answered_iff.mpr ⟨k₁, k₂, asked, asked'⟩
  have short : name.utf8ByteSize < nameSize := by
    rw [fits, Bool.and_eq_true, decide_eq_true_eq] at fit
    exact fit.1
  have same : ∀ wanted ∈ some name, name = wanted := fun _ wanted => Option.some.inj wanted
  exact Told.described?_eq_some.mpr ⟨flags, index, told, known, same, short, usable, rfl⟩

theorem resolve_settles {k : Kernel} {names : List Told}
    (shows : k.Shows hint dad (.requests names)) :
    Settles hint ((resolve hint dad).run k).1 (Listing.qualifying hint (.requests names)) := by
  obtain ⟨k₁, opened, shows⟩ := shows
  unfold resolve
  rw [Sys.run_bind, opened]
  cases hint with
  | some name =>
    obtain rfl : names = [.ofKernel name k₁] := shows
    refine ⟨fun i found => ?_, fun none => nomatch none⟩
    exact List.mem_filterMap.mpr ⟨_, List.mem_singleton_self _, named_found found⟩
  | none =>
    obtain ⟨listed, k₂, ran, rfl⟩ := shows
    have clean : Clean listed :=
      listNames_clean maxDoublings 1 k₁ listed (congrArg Prod.fst ran)
    have tells : ∀ p ∈ turns (examine dad) listed k₂,
        Finding.Tells none ((examine dad p.1).run p.2).1
          ((Told.ofKernel p.1 p.2).described? none) := by
      intro p turn
      have member : p.1 ∈ listed := by
        rw [← map_fst_turns (examine dad) listed k₂]
        exact List.mem_map_of_mem turn
      exact examine_tells p.2 (clean.unbroken p.1 member)
    have settles := survey_settles tells
    change Settles none ((enumerate dad).run k₁).1 _
    unfold enumerate
    rw [Sys.run_bind, ran, Listing.qualifying, List.filterMap_map]
    exact settles

theorem told_distinct {k : Kernel} {names : List Told}
    (shows : k.Shows hint dad (.requests names)) : (names.map Told.name).Nodup := by
  obtain ⟨k₁, -, shows⟩ := shows
  cases hint with
  | some name =>
    obtain rfl : names = [.ofKernel name k₁] := shows
    exact List.nodup_singleton _
  | none =>
    obtain ⟨listed, k₂, ran, rfl⟩ := shows
    have clean : Clean listed :=
      listNames_clean maxDoublings 1 k₁ listed (congrArg Prod.fst ran)
    have same : ((turns (examine dad) listed k₂).map fun p => Told.ofKernel p.1 p.2).map
        Told.name = listed := by
      conv_rhs => rw [← map_fst_turns (examine dad) listed k₂]
      rw [List.map_map]
      rfl
    rw [same]
    exact clean.distinct

end ControlRequest

theorem Kernel.Shows.settles {k : Kernel} {hint : Option String} {dad : Bool} {listing : Listing}
    (shows : k.Shows hint dad listing) :
    Settles hint (((Strategy.ofMethod listing.method).resolve hint dad).run k).1
      (listing.qualifying hint) := by
  cases listing with
  | addresses entries => exact AddressList.resolve_settles shows
  | attributes directories => exact Attributes.resolve_settles shows
  | requests names => exact ControlRequest.resolve_settles shows

/-- Discovery finds only what a qualifying entry describes, by its name where one is asked for.
Without one it finds the only interface that qualifies, nothing where none does, and no single one
where several do, and the order of the entries does not matter. -/
theorem resolve_unique {k : Kernel} {hint : Option String} {dad : Bool} {listing : Listing}
    (shows : k.Shows hint dad listing) :
    let outcome (k : Kernel) := (((Strategy.ofMethod listing.method).resolve hint dad).run k).1
    let qualifying := listing.qualifying hint
    (∀ i, outcome k = .found i → i ∈ qualifying ∧ ∀ wanted ∈ hint, i.name = wanted) ∧
      (hint = none →
        (∀ i, outcome k = .found i ↔ qualifying = [i]) ∧
        (outcome k = .notFound ↔ qualifying = []) ∧
        (outcome k = .ambiguous ↔ 2 ≤ qualifying.length) ∧
        ∀ k' listing', k'.Shows hint dad listing' → listing.Permuted listing' →
          outcome k' = outcome k) ∧
      ∀ names, listing = .requests names → (names.map Told.name).Nodup := by
  have settles := shows.settles
  dsimp only
  refine ⟨fun i found => ?_, fun unnamed => ?_, ?_⟩
  · have member := settles.member i found
    exact ⟨member, Listing.wanted_of_qualifying member⟩
  · rw [settles.only unnamed]
    refine ⟨fun _ => select_eq_found, select_eq_notFound, select_eq_ambiguous, ?_⟩
    intro k' listing' shows' permuted
    have settles' := shows'.settles
    rw [permuted.method_eq] at settles'
    rw [settles'.only unnamed]
    exact (select_perm permuted.qualifying).symm
  · rintro names rfl
    exact ControlRequest.told_distinct shows

theorem resolve_unique_reordered :
    let broadcast : Octets := List.replicate 6 255
    let eth0 : InterfaceEntry := ⟨some (utf8Octets "eth0"), 2, 0x1003, 17,
      some (.hold [2, 0, 0, 0, 0, 1]), 17, some (.hold broadcast)⟩
    let lo : InterfaceEntry :=
      { eth0 with name := some (utf8Octets "lo"), index := 1, flags := 0x49 }
    let unreadable : InterfaceEntry := { eth0 with name := some [255] }
    let entries := [(unreadable, 0), (lo, 1), (eth0, 2)]
    let k : Kernel := { interfaces := [unreadable, lo, eth0] }
    let k' : Kernel := { interfaces := [eth0, lo, unreadable] }
    let outcome (k : Kernel) := (((Strategy.ofMethod .ifaddrs).resolve none false).run k).1
    k.Shows none false (.addresses entries) ∧ k'.Shows none false (.addresses entries.reverse) ∧
      outcome k = .found ⟨"eth0", 2, 6, some broadcast, 0x1003⟩ ∧ outcome k' = outcome k := by
  intro broadcast eth0 lo unreadable entries k k' outcome
  have shows : k.Shows none false (.addresses entries) :=
    ⟨_, _, rfl, by decide +kernel, by decide +kernel⟩
  have shows' : k'.Shows none false (.addresses entries.reverse) :=
    ⟨_, _, rfl, by decide +kernel, by decide +kernel⟩
  obtain ⟨-, unnamed, -⟩ := resolve_unique shows
  obtain ⟨found, -, -, reordered⟩ := unnamed rfl
  have qualifying : (Listing.addresses entries).qualifying none =
      [⟨"eth0", 2, 6, some broadcast, 0x1003⟩] := by decide +kernel
  have permuted : (Listing.addresses entries).Permuted (.addresses entries.reverse) :=
    .addresses (List.reverse_perm entries).symm
  exact ⟨shows, shows', (found _).mpr qualifying, reordered k' _ shows' permuted⟩

/-- A name that is asked for is not looked up in the list. An interface with no address of the
network is found by it though no names are listed. -/
theorem resolve_unlisted :
    let eth0 : InterfaceEntry := ⟨some (utf8Octets "eth0"), 2, 0x1003, 17,
      some (.hold [2, 0, 0, 0, 0, 1]), 17, some (.hold (List.replicate 6 255))⟩
    let k : Kernel := { interfaces := [eth0], configured := some [] }
    let opened := (Sys.perform .inetSocket).run.run k
    let names := ControlRequest.listNames Sys.listInterfaces ControlRequest.maxDoublings 1
    opened.1.isOk = true ∧ (names.run.run opened.2).1.toOption = some [] ∧
      (((Strategy.ofMethod .ioctl).resolve (some "eth0") false).run k).1 =
        .found ⟨"eth0", 2, 0, none, 0x1003⟩ := by
  decide +kernel

end ArpProbe

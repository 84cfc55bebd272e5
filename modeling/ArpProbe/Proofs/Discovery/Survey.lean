import ArpProbe.Discovery.AddressList
import ArpProbe.Discovery.Attributes
import ArpProbe.Proofs.Kernel.Running
import Mathlib.Data.List.Forall2
import Mathlib.Data.List.Perm.Basic

/-! Going through interfaces one by one: what the flags of each decide, and what the survey comes
to. It is settled by the interfaces that the entries describe, in whatever order. -/

namespace ArpProbe

section Select

variable {is js : List Interface} {i : Interface}

theorem select_eq_found : select is = .found i ↔ is = [i] := by
  rcases is with _ | ⟨j, _ | ⟨j', rest⟩⟩ <;> simp [select]

theorem select_eq_notFound : select is = .notFound ↔ is = [] := by
  rcases is with _ | ⟨j, _ | ⟨j', rest⟩⟩ <;> simp [select]

theorem select_eq_ambiguous : select is = .ambiguous ↔ 2 ≤ is.length := by
  rcases is with _ | ⟨j, _ | ⟨j', rest⟩⟩ <;> simp [select]

theorem select_perm (same : is.Perm js) : select is = select js := by
  have lengths : is.length = js.length := same.length_eq
  rcases is with _ | ⟨j, _ | ⟨j', rest⟩⟩
  · rw [List.nil_perm.mp same]
  · rw [List.singleton_perm.mp same]
  · have several : 2 ≤ js.length := by
      rw [← lengths]
      exact Nat.le_add_left 2 _
    rw [select_eq_ambiguous.mpr several]
    rfl

end Select

namespace InterfaceFlags

def refusal? (name : String) (flags : UInt32) (dad : Bool) : Option Error :=
  if flags &&& up = 0 then some (.deviceDown name)
  else if flags &&& noArp ≠ 0 ∨ flags &&& loopback ≠ 0 then some (.notArpable name dad)
  else none

variable {name : String} {flags : UInt32} {dad : Bool} {error : Error}

theorem resolves_iff : resolves flags = true ↔ flags &&& noArp = 0 ∧ flags &&& loopback = 0 := by
  have both : flags &&& (noArp ||| loopback) = flags &&& noArp ||| flags &&& loopback := by
    rw [← UInt32.toBitVec_inj]
    exact BitVec.and_or_distrib_left
  rw [resolves, decide_eq_true_eq, both, UInt32.or_eq_zero_iff]

def Usable (flags : UInt32) : Prop :=
  flags &&& up ≠ 0 ∧ flags &&& noArp = 0 ∧ flags &&& loopback = 0

instance : Decidable (Usable flags) := inferInstanceAs (Decidable (_ ∧ _))

theorem usable_iff : Usable flags ↔ isUp flags = true ∧ resolves flags = true := by
  rw [resolves_iff, Usable, isUp, decide_eq_true_eq]

theorem check_of_usable {hint : Option String} (usable : Usable flags) :
    check hint flags dad = .ok true := by
  obtain ⟨isUp, resolving⟩ := usable_iff.mp usable
  simp [check, isUp, resolving]

theorem check_unnamed (unusable : ¬ Usable flags) : check none flags dad = .ok false := by
  rw [usable_iff, Decidable.not_and_iff_not_or_not] at unusable
  rcases unusable with down | unresolving
  · simp [check, down]
  · simp [check, unresolving]

theorem refusal?_eq_none : refusal? name flags dad = none ↔ Usable flags := by
  unfold refusal? Usable
  by_cases down : flags &&& up = 0
  · simp [down]
  · simp [down]

theorem check_of_refusal (refused : refusal? name flags dad = some error) :
    check (some name) flags dad = .error error := by
  unfold refusal? at refused
  unfold check isUp
  by_cases down : flags &&& up = 0
  · rw [if_pos down] at refused
    cases refused
    simp [down]
  · rw [if_neg down] at refused
    by_cases resolving : resolves flags = true
    · obtain ⟨arp, local?⟩ := resolves_iff.mp resolving
      simp [arp, local?] at refused
    · have without : flags &&& noArp ≠ 0 ∨ flags &&& loopback ≠ 0 := by
        rw [resolves_iff] at resolving
        rwa [Decidable.not_and_iff_not_or_not] at resolving
      rw [if_pos without] at refused
      cases refused
      simp [down, resolving]

theorem refusal?_lower : refusal? name (flags &&& 0xffff) dad = refusal? name flags dad := by
  simp only [refusal?, UInt32.and_assoc]
  rfl

end InterfaceFlags

open InterfaceFlags

namespace Finding

variable {name : String}

theorem isWanted_self : isWanted (some name) name = true := decide_eq_true rfl

theorem isWanted_of_ne {other : String} (ne : name ≠ other) :
    ¬ isWanted (some name) other = true := fun wanted => ne (of_decide_eq_true wanted)

theorem isWanted_iff {hint : Option String} :
    isWanted hint name = true ↔ ∀ wanted ∈ hint, name = wanted := by
  cases hint with
  | none => simp [isWanted]
  | some wanted => simp [isWanted, eq_comm]

theorem ofFlags_of_usable {hint : Option String} {flags : UInt32} {dad : Bool}
    (usable : Usable flags) (next : Sys Finding) : ofFlags hint flags dad next = next := by
  rw [ofFlags, check_of_usable usable]

theorem ofFlags_of_refusal {flags : UInt32} {dad : Bool} {error : Error}
    (refused : refusal? name flags dad = some error) (next : Sys Finding) :
    ofFlags (some name) flags dad next = pure (.answer (.fatal error)) := by
  rw [ofFlags, check_of_refusal refused]

theorem ofFlags_unnamed {flags : UInt32} {dad : Bool} (unusable : ¬ Usable flags)
    (next : Sys Finding) : ofFlags none flags dad next = pure .skip := by
  rw [ofFlags, check_unnamed unusable]

/-- What may be found where an entry describes an interface, or none. To describe none is a reason
to stop only where one was asked for. -/
inductive Tells (hint : Option String) : Finding → Option Interface → Prop
  | candidate (i : Interface) : Tells hint (.candidate i) (some i)
  | skip : Tells hint .skip none
  | refusal {name : String} (asked : hint = some name) (error : Error) :
    Tells hint (.answer (.fatal error)) none

theorem ofFlags_tells {hint : Option String} {flags : UInt32} {dad : Bool} {next : Sys Finding}
    {k : Kernel} {described : Option Interface}
    (passed : ¬ Usable flags → described = none)
    (kept : Usable flags → Tells hint (next.run k).1 described) :
    Tells hint ((ofFlags hint flags dad next).run k).1 described := by
  by_cases usable : Usable flags
  · rw [ofFlags_of_usable usable]
    exact kept usable
  · rw [passed usable]
    cases hint with
    | none =>
      rw [ofFlags_unnamed usable]
      exact .skip
    | some name =>
      cases refused : refusal? name flags dad with
      | none => exact absurd (refusal?_eq_none.mp refused) usable
      | some error =>
        rw [ofFlags_of_refusal refused]
        exact .refusal rfl error

end Finding

/-- Entries with the kernels that they are looked at on, one after the other. -/
def turns {α : Type} (examine : α → Sys Finding) : List α → Kernel → List (α × Kernel)
  | [], _ => []
  | x :: xs, k => (x, k) :: turns examine xs ((examine x).run k).2

theorem map_fst_turns {α : Type} (examine : α → Sys Finding) (xs : List α) (k : Kernel) :
    (turns examine xs k).map Prod.fst = xs := by
  induction xs generalizing k with
  | nil => rfl
  | cons x xs ih => rw [turns, List.map_cons, ih]

theorem filterMap_turns {α : Type} (examine : α → Sys Finding) (xs : List α) (k : Kernel)
    (f : α → Option Interface) :
    (turns examine xs k).filterMap (fun p => f p.1) = xs.filterMap f := by
  conv_rhs => rw [← map_fst_turns examine xs k, List.filterMap_map]
  rfl

section Survey

variable {α : Type} {examine : α → Sys Finding} {wanted : α → Bool}

theorem survey_filter (passed : ∀ x, wanted x = false → examine x = pure .skip) (xs : List α)
    (found : List Interface) :
    survey examine xs found = survey examine (xs.filter wanted) found := by
  induction xs generalizing found with
  | nil => rfl
  | cons x xs ih =>
    cases keeps : wanted x with
    | false =>
      rw [List.filter_cons_of_neg (by simp [keeps]), survey, passed x keeps, pure_bind]
      exact ih found
    | true =>
      rw [List.filter_cons_of_pos keeps, survey, survey]
      congr 1
      funext finding
      cases finding with
      | skip => exact ih found
      | answer outcome => rfl
      | candidate i => simp only [ih]

theorem survey_of_answer {x : α} {outcome : Outcome}
    (answers : examine x = pure (.answer outcome)) (xs : List α) (found : List Interface) :
    survey examine (x :: xs) found = pure outcome := by
  rw [survey, answers, pure_bind]

theorem survey_cons (x : α) (xs : List α) (found : List Interface) (k : Kernel) :
    (survey examine (x :: xs) found).run k =
      match (examine x).run k with
      | (.skip, k) => (survey examine xs found).run k
      | (.answer outcome, k) => (outcome, k)
      | (.candidate i, k) =>
        if found.isEmpty then (survey examine xs [i]).run k else (select (found ++ [i]), k) := by
  rw [survey, Sys.run_bind]
  rcases (examine x).run k with ⟨_ | i | outcome, k'⟩
  · rfl
  · dsimp only
    split <;> rfl
  · rfl

theorem survey_alike {β : Type} {examine' : β → Sys Finding} {R : α → β → Prop}
    (Fine : Kernel → Prop)
    (step : ∀ x y k, R x y → Fine k → Fine ((examine x).run k).2 ∧
      ∀ k', ((examine x).run k).1 = ((examine' y).run k').1)
    {xs : List α} {ys : List β} (alike : List.Forall₂ R xs ys) {k : Kernel} (fine : Fine k)
    (k' : Kernel) (found : List Interface) :
    ((survey examine xs found).run k).1 = ((survey examine' ys found).run k').1 := by
  -- The second kernel is any at each turn, so only the first has to stay fine.
  induction alike generalizing k k' found with
  | nil => rfl
  | @cons x y xs ys same _ ih =>
    obtain ⟨later, told⟩ := step x y k same fine
    have told := told k'
    rw [survey_cons, survey_cons]
    rcases ran : (examine x).run k with ⟨finding, k₁⟩
    rcases ran' : (examine' y).run k' with ⟨finding', k₂⟩
    rw [ran, ran'] at told
    rw [ran] at later
    obtain rfl : finding = finding' := told
    cases finding with
    | skip => exact ih later k₂ found
    | answer outcome => rfl
    | candidate i =>
      dsimp only
      split
      · exact ih later k₂ [i]
      · rfl

variable {hint : Option String} {described : α × Kernel → Option Interface}

theorem survey_member {xs : List α} {k : Kernel} {found : List Interface} {i : Interface}
    (tells : ∀ p ∈ turns examine xs k, Finding.Tells hint ((examine p.1).run p.2).1 (described p))
    (result : ((survey examine xs found).run k).1 = .found i) :
    i ∈ found ++ (turns examine xs k).filterMap described := by
  induction xs generalizing found k with
  | nil =>
    have only : found = [i] := select_eq_found.mp result
    simp [only]
  | cons x xs ih =>
    have told := tells _ List.mem_cons_self
    have later (found : List Interface) :=
      @ih ((examine x).run k).2 found fun p h => tells p (.tail _ h)
    rw [survey_cons] at result
    rw [turns, List.filterMap_cons]
    rcases step : (examine x).run k with ⟨finding, k'⟩
    simp only [step] at told result later ⊢
    generalize described (x, k) = interface? at told ⊢
    cases told with
    | skip => exact later found result
    | refusal => cases result
    | candidate j =>
      cases found with
      | nil => exact later [j] result
      | cons first rest =>
        -- Two candidates are too many for anything to be found.
        have one : (first :: rest) ++ [j] = [i] := select_eq_found.mp result
        simp at one

theorem survey_select {xs : List α} {k : Kernel} {found : List Interface}
    (tells : ∀ p ∈ turns examine xs k, Finding.Tells none ((examine p.1).run p.2).1 (described p)) :
    ((survey examine xs found).run k).1 =
      select (found ++ (turns examine xs k).filterMap described) := by
  induction xs generalizing found k with
  | nil =>
    rw [turns, List.filterMap_nil, List.append_nil]
    rfl
  | cons x xs ih =>
    have told := tells _ List.mem_cons_self
    have later (found : List Interface) :=
      @ih ((examine x).run k).2 found fun p h => tells p (.tail _ h)
    rw [survey_cons, turns, List.filterMap_cons]
    rcases step : (examine x).run k with ⟨finding, k'⟩
    simp only [step] at told later ⊢
    generalize described (x, k) = interface? at told ⊢
    cases told with
    | skip => exact later found
    | refusal asked => cases asked
    | candidate j =>
      cases found with
      | nil => exact later [j]
      | cons first rest =>
        -- The second candidate settles it, and whatever comes after it changes nothing.
        have several (others : List Interface) :
            select (first :: rest ++ j :: others) = .ambiguous := by
          rw [select_eq_ambiguous]
          simp
          omega
        simp only [List.isEmpty_cons, Bool.false_eq_true, if_false, several]

/-- What the entries describe settles the outcome. With no name asked for it is the choice among
all of it, and what is found is in any case part of it. -/
structure Settles (hint : Option String) (outcome : Outcome) (described : List Interface) :
    Prop where
  member : ∀ i, outcome = .found i → i ∈ described
  only : hint = none → outcome = select described

theorem survey_settles {xs : List α} {k : Kernel}
    (tells : ∀ p ∈ turns examine xs k, Finding.Tells hint ((examine p.1).run p.2).1 (described p)) :
    Settles hint ((survey examine xs []).run k).1 ((turns examine xs k).filterMap described) where
  member _ found := survey_member tells found
  only unnamed := survey_select (unnamed ▸ tells)

end Survey

section Resolve

variable {hint : Option String} {dad : Bool} {k : Kernel}

theorem Attributes.resolve_run {directories : List AttributeDirectory}
    (root : k.directories = some directories) :
    (resolve hint dad).run k = (survey (examine hint dad) directories []).run k := by
  have got : (get : Sys Kernel).run k = (k, k) := rfl
  unfold resolve
  rw [Sys.run_bind, got]
  simp only [root]

theorem AddressList.resolve_run (readable : (k.takeFault .getifaddrs).1 = none) :
    (resolve hint dad).run k =
      (survey (examine hint dad) (if k.interfaces.isEmpty then [.blank] else k.interfaces) []).run
        ((k.takeFault .getifaddrs).2.record (.call .getifaddrs none)) := by
  have answered : Sys.getifaddrs.run.run k =
      (.ok (if k.interfaces.isEmpty then [.blank] else k.interfaces),
        (k.takeFault .getifaddrs).2.record (.call .getifaddrs none)) := by
    refine Sys.run_query k rfl readable ?_
    rw [k.interfaces_takeFault]
  unfold resolve
  rw [Sys.run_bind, answered]

end Resolve

end ArpProbe

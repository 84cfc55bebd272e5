import ArpProbe.Proofs.Kernel.Aside
import ArpProbe.Proofs.Kernel.Recording
import ArpProbe.Proofs.Prober.History
import ArpProbe.Resolver

/-! A chain of strategies. They are asked in order, each once, up to the first with a definite
answer, which alone decides what the chain comes to. A chain that has none tells all reasons. -/

namespace ArpProbe

open Kernel (Course SameButText)

namespace Resolver

def Asks (hint : Option String) (dad : Bool) (answer : Strategy × Outcome) (k k' : Kernel) : Prop :=
  (answer.1.resolve hint dad).run k = (answer.2, k')

inductive Decides (hint : Option String) : Outcome → Except Error Interface → Prop
  | found (i : Interface) : Decides hint (.found i) (.ok i)
  | missing {name : String} (named : hint = some name) :
    Decides hint .notFound (.error (.deviceNotAvailable name))
  | none (unnamed : hint = none) : Decides hint .notFound (.error .noSuitableDevice)
  | several : Decides hint .ambiguous (.error .noSuitableDevice)
  | fatal (e : Error) : Decides hint (.fatal e) (.error e)

def reasonText (method : DiscoveryMethod) (reason : String) : String :=
  method.name ++ ": " ++ reason

def exhausted (reasons : List String) : Except Error Interface :=
  .error (.discovery (String.intercalate ", " reasons))

variable (hint : Option String) (dad : Bool) (v : Verbosity)

/-- How a chain came to its result, after earlier reasons not to have one: strategies were asked
that do not apply, and then one that decided, or there was no other. -/
def Concludes (strategies : List Strategy) (earlier : List String) (k : Kernel)
    (ran : Except Error Interface × Kernel) : Prop :=
  ∃ skipped : List (Strategy × String),
    let passed := skipped.map fun (s, reason) => (s, Outcome.notApplicable reason)
    (∃ s outcome rest, strategies = skipped.map Prod.fst ++ s :: rest ∧
        Course (Asks hint dad) (passed ++ [(s, outcome)]) k ran.2 ∧ Decides hint outcome ran.1) ∨
      (strategies = skipped.map Prod.fst ∧ Course (Asks hint dad) passed k ran.2 ∧
        ran.1 = exhausted (earlier ++ skipped.map fun (s, reason) => reasonText s.method reason))

theorem ask_cons (s : Strategy) (rest : List Strategy) (earlier : List String) (k : Kernel) :
    ∃ k₁ outcome k₂ k₃, SameButText k k₁ ∧ Asks hint dad (s, outcome) k₁ k₂ ∧ SameButText k₂ k₃ ∧
      ((∃ reason, outcome = .notApplicable reason ∧
          (ask hint dad v (s :: rest) earlier).run k =
            (ask hint dad v rest (earlier ++ [reasonText s.method reason])).run k₃) ∨
        ∃ result, Decides hint outcome result ∧
          (ask hint dad v (s :: rest) earlier).run k = (result, k₃)) := by
  let message := "looking up interface " ++ Text.quotedOption hint ++ " using " ++ s.method.name
  have noted := Sys.within_debug v .high .device message k
  generalize announced : ((Sys.debug v .high .device message).run k).2 = k₁ at noted
  rw [ask, Sys.run_bind, announced, Sys.run_bind]
  rcases answer : (s.resolve hint dad).run k₁ with ⟨outcome, k₂⟩
  have silent : SameButText k₂ k₂ := SameButText.chains.refl k₂
  cases outcome with
  | found i =>
    let found := s!"found interface {i.name} (index {i.index.toInt}) using {s.method.name}"
    have text := Sys.within_debug v .medium .device found k₂
    exact ⟨k₁, _, k₂, _, noted, answer, text, .inr ⟨_, .found i, rfl⟩⟩
  | notApplicable reason =>
    let unavailable := s!"{s.method.name} unavailable: {reason}"
    have text := Sys.within_debug v .low .device unavailable k₂
    exact ⟨k₁, _, k₂, _, noted, answer, text, .inl ⟨reason, rfl, rfl⟩⟩
  | notFound =>
    refine ⟨k₁, _, k₂, k₂, noted, answer, silent, .inr ⟨_, ?_, rfl⟩⟩
    cases hint with
    | none => exact .none rfl
    | some name => exact .missing rfl
  | ambiguous => exact ⟨k₁, _, k₂, k₂, noted, answer, silent, .inr ⟨_, .several, rfl⟩⟩
  | fatal e => exact ⟨k₁, _, k₂, k₂, noted, answer, silent, .inr ⟨_, .fatal e, rfl⟩⟩

theorem ask_concludes (strategies : List Strategy) (earlier : List String) (k : Kernel) :
    Concludes hint dad strategies earlier k ((ask hint dad v strategies earlier).run k) := by
  induction strategies generalizing earlier k with
  | nil =>
    have none : earlier = earlier ++ [] := (List.append_nil earlier).symm
    exact ⟨[], .inr ⟨rfl, .done (SameButText.chains.refl k), congrArg exhausted none⟩⟩
  | cons s rest ih =>
    obtain ⟨k₁, outcome, k₂, k₃, before, asked, after,
        ⟨reason, rfl, ran⟩ | ⟨result, decides, ran⟩⟩ := ask_cons hint dad v s rest earlier k
    · have concluded := ih (earlier ++ [reasonText s.method reason]) k₃
      rw [← ran] at concluded
      -- The strategy that was passed over goes to the front of those that come after it.
      obtain ⟨skipped, ⟨s', outcome, others, rfl, course, decides⟩ | ⟨rfl, course, none⟩⟩ :=
        concluded
      · have whole := Kernel.Course.next before asked (course.after after)
        exact ⟨(s, reason) :: skipped, .inl ⟨s', outcome, others, rfl, whole, decides⟩⟩
      · have whole := Kernel.Course.next before asked (course.after after)
        rw [List.append_assoc] at none
        exact ⟨(s, reason) :: skipped, .inr ⟨rfl, whole, none⟩⟩
    · rw [ran]
      have only := Kernel.Course.next before asked (.done after)
      exact ⟨[], .inl ⟨s, outcome, rest, rfl, only, decides⟩⟩

end Resolver

def Strategy.marked (number : Nat) (method : DiscoveryMethod)
    (answer : Option String → Bool → Outcome) : Strategy where
  method := method
  resolve hint dad := do
    Sys.record (.asked number)
    return answer hint dad

namespace Resolver

def numbered (n : Nat) (chain : List (DiscoveryMethod × (Option String → Bool → Outcome))) :
    List Strategy :=
  (chain.zipIdx n).map fun ((method, answer), i) => .marked i method answer

variable (hint : Option String) (dad : Bool) (v : Verbosity)

theorem ask_marked (n : Nat) (link : DiscoveryMethod × (Option String → Bool → Outcome))
    (chain : List (DiscoveryMethod × (Option String → Bool → Outcome))) (earlier : List String)
    (k : Kernel) :
    let ran := (ask hint dad v (numbered n (link :: chain)) earlier).run k
    ∃ k', k'.events = k.events ++ [.asked n] ∧
      ((∃ reason, link.2 hint dad = .notApplicable reason ∧
          ran = (ask hint dad v (numbered (n + 1) chain)
            (earlier ++ [reasonText link.1 reason])).run k') ∨
        ∃ result, Decides hint (link.2 hint dad) result ∧ ran = (result, k')) := by
  intro ran
  obtain ⟨k₁, outcome, k₂, k₃, before, asked, after, course⟩ :=
    ask_cons hint dad v (.marked n link.1 link.2) (numbered (n + 1) chain) earlier k
  obtain ⟨rfl, rfl⟩ : link.2 hint dad = outcome ∧ k₁.record (.asked n) = k₂ :=
    Prod.ext_iff.mp asked
  have marked : k₃.events = k.events ++ [.asked n] := by
    rw [after.events, ← before.events]
    rfl
  exact ⟨k₃, marked, course⟩

theorem ask_definite {reasons : List String} {outcome : Outcome} {later : List Outcome}
    (settled : ∀ reason, outcome ≠ .notApplicable reason)
    {chain : List (DiscoveryMethod × (Option String → Bool → Outcome))}
    (split : (chain.map fun link => link.2 hint dad) =
      reasons.map .notApplicable ++ outcome :: later)
    (n : Nat) (earlier : List String) (k : Kernel) :
    let ran := (ask hint dad v (numbered n chain) earlier).run k
    Decides hint outcome ran.1 ∧
      ran.2.events = k.events ++ (List.range' n (reasons.length + 1)).map .asked := by
  -- By induction on the reasons: each is that of a strategy passed over, with the next number.
  induction reasons generalizing chain n earlier k with
  | nil =>
    obtain ⟨link, rest, rfl, given, _⟩ := List.map_eq_cons_iff.mp split
    obtain ⟨k', marked, ⟨reason, skipped, _⟩ | ⟨result, decides, ended⟩⟩ :=
      ask_marked hint dad v n link rest earlier k
    · exact absurd (given.symm.trans skipped) (settled reason)
    · rw [ended, ← given]
      exact ⟨decides, marked⟩
  | cons reason reasons ih =>
    obtain ⟨link, rest, rfl, given, others⟩ := List.map_eq_cons_iff.mp split
    obtain ⟨k', marked, ⟨_, _, followed⟩ | ⟨result, decides, _⟩⟩ :=
      ask_marked hint dad v n link rest earlier k
    · rw [followed]
      obtain ⟨decides, recorded⟩ := ih others (n + 1) _ k'
      refine ⟨decides, ?_⟩
      rw [recorded, marked, List.append_assoc]
      rfl
    · rw [given] at decides
      cases decides

theorem ask_indefinite {reasons : List String}
    {chain : List (DiscoveryMethod × (Option String → Bool → Outcome))}
    (split : (chain.map fun link => link.2 hint dad) = reasons.map .notApplicable)
    (n : Nat) (earlier : List String) (k : Kernel) :
    let ran := (ask hint dad v (numbered n chain) earlier).run k
    ran.1 = exhausted (earlier ++ (chain.map Prod.fst).zipWith reasonText reasons) ∧
      ran.2.events = k.events ++ (List.range' n chain.length).map .asked := by
  induction reasons generalizing chain n earlier k with
  | nil =>
    obtain rfl := List.map_eq_nil_iff.mp split
    have none : earlier = earlier ++ [] := (List.append_nil earlier).symm
    exact ⟨congrArg exhausted none, (List.append_nil k.events).symm⟩
  | cons reason reasons ih =>
    obtain ⟨link, rest, rfl, given, others⟩ := List.map_eq_cons_iff.mp split
    obtain ⟨k', marked, ⟨reason', skipped, followed⟩ | ⟨result, decides, _⟩⟩ :=
      ask_marked hint dad v n link rest earlier k
    · obtain rfl : reason = reason' := Outcome.notApplicable.inj (given.symm.trans skipped)
      rw [followed]
      obtain ⟨none, recorded⟩ := ih others (n + 1) (earlier ++ [reasonText link.1 reason]) k'
      rw [List.append_assoc] at none
      refine ⟨none, ?_⟩
      rw [recorded, marked, List.append_assoc]
      rfl
    · rw [given] at decides
      cases decides

/-- A chain comes to what its first definite outcome says, whatever the reasons before it and the
strategies behind it, and to all the reasons if it has none. The strategies up to that outcome are
asked about the same interface, one after the other, and strategies that mark it show that each of
them is asked once and no other is. -/
theorem resolve_first_definite (hint : Option String) (dad : Bool) (v : Verbosity) (k : Kernel) :
    (∀ strategies : List Strategy,
        Concludes hint dad strategies [] k ((resolve strategies hint dad v).run.run k)) ∧
      ∀ chain : List (DiscoveryMethod × (Option String → Bool → Outcome)),
        let outcomes := chain.map fun link => link.2 hint dad
        let ran := (resolve (numbered 0 chain) hint dad v).run.run k
        (∀ (reasons : List String) outcome later,
            outcomes = reasons.map .notApplicable ++ outcome :: later →
            (∀ reason, outcome ≠ .notApplicable reason) → Decides hint outcome ran.1 ∧
              k.since ran.2 = (List.range (reasons.length + 1)).map .asked) ∧
          ∀ reasons : List String, outcomes = reasons.map .notApplicable →
            ran.1 = exhausted ((chain.map Prod.fst).zipWith reasonText reasons) ∧
              k.since ran.2 = (List.range chain.length).map .asked := by
  constructor
  · intro strategies
    exact ask_concludes hint dad v strategies [] k
  · intro chain outcomes ran
    constructor
    · intro reasons outcome later split settled
      obtain ⟨decides, recorded⟩ := ask_definite hint dad v settled split 0 [] k
      rw [List.range_eq_range']
      exact ⟨decides, Kernel.since_of_append recorded⟩
    · intro reasons split
      obtain ⟨none, recorded⟩ := ask_indefinite hint dad v split 0 [] k
      rw [List.range_eq_range']
      exact ⟨none, Kernel.since_of_append recorded⟩

theorem resolve_first_definite_missing :
    let chain : List (DiscoveryMethod × (Option String → Bool → Outcome)) :=
      [(.sysfs, fun _ _ => .notApplicable "no directory"), (.ifaddrs, fun _ _ => .notFound),
        (.ioctl, fun _ _ => .ambiguous)]
    let ran := (resolve (numbered 0 chain) (some "eth9") true {}).run.run {}
    ran.1 = .error (.deviceNotAvailable "eth9") ∧ Kernel.since {} ran.2 = [.asked 0, .asked 1] := by
  intro chain ran
  have only {result : Except Error Interface} (decides : Decides (some "eth9") .notFound result) :
      result = .error (.deviceNotAvailable "eth9") := by
    cases decides with
    | missing named => rw [Option.some.inj named]
    | none unnamed => cases unnamed
  obtain ⟨_, marks⟩ := resolve_first_definite (some "eth9") true {} {}
  obtain ⟨definite, _⟩ := marks chain
  obtain ⟨decides, recorded⟩ := definite ["no directory"] .notFound [.ambiguous] rfl nofun
  exact ⟨only decides, recorded⟩

end Resolver

end ArpProbe

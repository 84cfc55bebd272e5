import ArpProbe.Proofs.Kernel.Aside
import ArpProbe.Proofs.Probe.Outline

/-! Which source address is selected. The mode, the address that is given and the target decide
what has to be done for it. This is attempted in order up to the first failure, and the attempt
that settles the address is the last. -/

namespace ArpProbe.Source

open Kernel (Course SameButText)

inductive Action where
  | openSocket
  | tie
  | bind (address : Ipv4)
  | connect
  | readBack
  deriving DecidableEq

inductive Attempt where
  | opened (result : Except IoError Unit)
  | closed (result : Except IoError Unit)
  | bound (address : Ipv4) (result : Except IoError Unit)
  | connected (result : Except IoError Unit)
  | readBack (result : Except IoError Ipv4)

namespace Attempt

def action : Attempt → Action
  | opened _ => .openSocket
  | closed _ => .tie
  | bound address _ => .bind address
  | connected _ => .connect
  | readBack _ => .readBack

def outcome : Attempt → Except Error (Option Ipv4)
  | opened result => (result.mapError (.source "socket")).map fun _ => none
  | closed result => (result.mapError (.privilege "release")).map fun _ => none
  | bound address result => (result.mapError (.source "bind")).map fun _ => some address
  | connected result => (result.mapError (.source "connect")).map fun _ => none
  | readBack result => (result.mapError (.source "getsockname")).map some

/-- The attempt is made on one kernel and leaves the other. Neither what comes of opening the
window and of what is done inside it nor whether packets can be kept off routers matters. -/
def Made (b : Bracket Sys) (name : String) (target : Ipv4) : Attempt → Kernel → Kernel → Prop
  | opened result, k, k' => (Sys.perform .inetSocket).run.run k = (result, k')
  | closed result, k, k' => ∃ k₁,
    (b.acquire.run.run (k.record (.window .acquire))).2.SameButText k₁ ∧
      b.release.run.run (((Sys.perform (.bindToDevice name)).run.run k₁).2.record
        (.window .release)) = (result, k')
  | bound address result, k, k' =>
    (Sys.perform (.inetBind address)).run.run k = (result, k')
  | connected result, k, k' => ∃ k₁, ((Sys.perform .dontRoute).run.run k).2.SameButText k₁ ∧
    (Sys.perform (.connect target 1025)).run.run k₁ = (result, k')
  | readBack result, k, k' => Sys.inetName.run.run k = (result, k')

theorem of_settles {attempt : Attempt} {address : Ipv4}
    (settles : attempt.outcome = .ok (some address)) :
    attempt = .bound address (.ok ()) ∨ attempt = .readBack (.ok address) := by
  cases attempt with
  | opened result => rcases result with _ | _ <;> cases settles
  | closed result => rcases result with _ | _ <;> cases settles
  | bound address' result =>
    rcases result with _ | _ <;> cases settles
    exact .inl rfl
  | connected result => rcases result with _ | _ <;> cases settles
  | readBack result =>
    rcases result with _ | _ <;> cases settles
    exact .inr rfl

theorem of_connects {attempt : Attempt} {settled : Option Ipv4}
    (connects : attempt.action = .connect) (fine : attempt.outcome = .ok settled) :
    attempt = .connected (.ok ()) := by
  cases attempt with
  | connected result =>
    rcases result with _ | _
    · cases fine
    · rfl
  | _ => cases connects

end Attempt

/-- What has to be done on a socket for its address. An address that is given is bound, and so is
the target of an announcement. -/
def addressing (target : Ipv4) (source : Option Ipv4) (modes : Modes) : List Action :=
  match source with
  | some address => [.bind address]
  | none =>
    if modes.unsolicited = true ∧ target ≠ .unspecified then [.bind target]
    else [.connect, .readBack]

def plan (target : Ipv4) (source : Option Ipv4) (name : String) (modes : Modes) : List Action :=
  .openSocket :: ((if name = "" then [] else [.tie]) ++ addressing target source modes)

def verdict (dad : Bool) (address : Ipv4) : Except Error Ipv4 :=
  if dad = false ∧ address = .unspecified then .error .noSourceAddress else .ok address

section

variable {dad : Bool} {address : Ipv4}

theorem verdict_eq_error {e : Error} : verdict dad address = .error e ↔
    e = .noSourceAddress ∧ dad = false ∧ address = .unspecified := by
  unfold verdict
  split
  · next missing => simp [missing, eq_comm]
  · next there => simp [there]

theorem verdict_eq_ok {other : Ipv4} : verdict dad address = .ok other ↔
    address = other ∧ (dad = false → address ≠ .unspecified) := by
  unfold verdict
  split
  · next missing => simp [missing]
  · next there => simpa using fun _ => not_and.mp there

end

inductive Picks (dad : Bool) : List Action → List Attempt → Except Error Ipv4 → Prop
  | failed {attempt : Attempt} {e : Error} {actions : List Action}
    (fails : attempt.outcome = .error e) :
    Picks dad (attempt.action :: actions) [attempt] (.error e)
  | settled {attempt : Attempt} {address : Ipv4} (settles : attempt.outcome = .ok (some address)) :
    Picks dad [attempt.action] [attempt] (verdict dad address)
  | next {attempt : Attempt} {actions : List Action} {attempts : List Attempt}
    {result : Except Error Ipv4} (fine : attempt.outcome = .ok none)
    (rest : Picks dad actions attempts result) :
    Picks dad (attempt.action :: actions) (attempt :: attempts) result

namespace Picks

variable {dad : Bool} {actions : List Action} {attempts : List Attempt}
  {result : Except Error Ipv4} {address : Ipv4} {e : Error}

theorem error_iff (picks : Picks dad actions attempts result) : result = .error e ↔
    (∃ attempt ∈ attempts, attempt.outcome = .error e) ∨
      (e = .noSourceAddress ∧ dad = false ∧
        ∃ attempt ∈ attempts, attempt.outcome = .ok (some .unspecified)) := by
  induction picks with
  | failed fails => simp [fails]
  | settled settles => simp [settles, verdict_eq_error]
  | next fine rest ih => simp [fine, ih]

theorem addressed (picks : Picks dad actions attempts result) (ok : result = .ok address) :
    dad = false → address ≠ .unspecified := by
  induction picks with
  | failed fails => cases ok
  | settled settles =>
    obtain ⟨rfl, known⟩ := verdict_eq_ok.mp ok
    exact known
  | next fine rest ih => exact ih ok

theorem done (picks : Picks dad actions attempts result) (ok : result = .ok address) :
    ∀ action ∈ actions, ∃ attempt ∈ attempts, attempt.action = action ∧
      ∃ settled, attempt.outcome = .ok settled := by
  induction picks with
  | failed fails => cases ok
  | settled settles =>
    intro action only
    rw [List.mem_singleton.mp only]
    exact ⟨_, List.mem_singleton_self _, rfl, _, settles⟩
  | next fine rest ih =>
    intro action member
    rcases List.mem_cons.mp member with rfl | later
    · exact ⟨_, List.mem_cons_self, rfl, none, fine⟩
    · obtain ⟨attempt, made, outcome⟩ := ih ok action later
      exact ⟨attempt, .tail _ made, outcome⟩

theorem settles (picks : Picks dad actions attempts result) (ok : result = .ok address) :
    ∃ attempt ∈ attempts, attempt.action ∈ actions ∧ attempt.outcome = .ok (some address) := by
  induction picks with
  | failed fails => cases ok
  | settled settles =>
    obtain ⟨rfl, _⟩ := verdict_eq_ok.mp ok
    exact ⟨_, List.mem_singleton_self _, List.mem_singleton_self _, settles⟩
  | next fine rest ih =>
    obtain ⟨attempt, made, planned, settles⟩ := ih ok
    exact ⟨attempt, .tail _ made, .tail _ planned, settles⟩

end Picks

def Attempts {α : Type} (b : Bracket Sys) (name : String) (target : Ipv4) (x : ExceptT Error Sys α)
    (action : Action) (address? : α → Option Ipv4) : Prop :=
  ∀ k, ∃ attempt k₁, Attempt.Made b name target attempt k k₁ ∧
    k₁.SameButText (x.run.run k).2 ∧ attempt.action = action ∧
    attempt.outcome = (x.run.run k).1.map address?

def Selects (b : Bracket Sys) (name : String) (target : Ipv4) (dad : Bool)
    (x : ExceptT Error Sys Ipv4) (actions : List Action) : Prop :=
  ∀ k, ∃ attempts, Course (Attempt.Made b name target) attempts k (x.run.run k).2 ∧
    Picks dad actions attempts (x.run.run k).1

variable {b : Bracket Sys} {name : String} {target : Ipv4} {dad : Bool} {actions : List Action}

theorem Attempts.next {α : Type} {x : ExceptT Error Sys α} {f : α → ExceptT Error Sys Ipv4}
    {action : Action} (one : Attempts b name target x action fun _ => none)
    (rest : ∀ a, Selects b name target dad (f a) actions) :
    Selects b name target dad (x >>= f) (action :: actions) := by
  intro k
  obtain ⟨attempt, k₁, made, text, rfl, outcome⟩ := one k
  rw [Sys.run_except_bind]
  rcases ran : x.run.run k with ⟨e | a, k₂⟩
  · rw [ran] at text outcome
    exact ⟨[attempt], .cons made (.done text), .failed outcome⟩
  · rw [ran] at text outcome
    obtain ⟨attempts, course, picks⟩ := rest a k₂
    exact ⟨attempt :: attempts, .cons made (course.after text), .next outcome picks⟩

def check (target : Ipv4) (dad : Bool) (v : Verbosity) (address : Ipv4) :
    ExceptT Error Sys Ipv4 := do
  ExceptT.lift (Sys.debug v .medium .socket s!"source address {address} for target {target}")
  if !dad && address.isUnspecified then throw .noSourceAddress
  else return address

theorem check_run (target : Ipv4) (dad : Bool) (v : Verbosity) (address : Ipv4) (k : Kernel) :
    ∃ k', k.SameButText k' ∧
      (check target dad v address).run.run k = (verdict dad address, k') := by
  let message := s!"source address {address} for target {target}"
  refine ⟨_, Sys.within_debug v .medium .socket message k, ?_⟩
  have missing : (!dad && address.isUnspecified) = true ↔
      dad = false ∧ address = .unspecified := by
    rw [Bool.and_eq_true, Bool.not_eq_true', Ipv4.isUnspecified, decide_eq_true_eq]
  unfold check
  rw [Sys.run_except_bind, Sys.run_lift]
  simp only [verdict, missing]
  split <;> rfl

theorem Attempts.last {x : ExceptT Error Sys Ipv4} {action : Action}
    (one : Attempts b name target x action some) (v : Verbosity) :
    Selects b name target dad (x >>= check target dad v) [action] := by
  intro k
  obtain ⟨attempt, k₁, made, text, rfl, outcome⟩ := one k
  rw [Sys.run_except_bind]
  rcases ran : x.run.run k with ⟨e | address, k₂⟩
  · rw [ran] at text outcome
    exact ⟨[attempt], .cons made (.done text), .failed outcome⟩
  · rw [ran] at text outcome
    obtain ⟨k₃, noted, checked⟩ := check_run target dad v address k₂
    dsimp only
    rw [checked]
    have both := SameButText.chains.trans text noted
    exact ⟨[attempt], .cons made (.done both), .settled outcome⟩

section

variable (b name target)

theorem open_attempts : Attempts b name target
    ((Sys.perform .inetSocket).adapt (Error.source "socket")) .openSocket fun _ => none :=
  fun _ => ⟨.opened _, _, rfl, SameButText.chains.refl _, rfl, rfl⟩

theorem tie_attempts (v : Verbosity) :
    Attempts b name target (bindToDevice name b v) .tie fun _ => none := by
  intro k
  obtain ⟨k₁, opened, window⟩ := bracketed_run b v (Sys.perform (.bindToDevice name)).run k
  obtain ⟨k₂, ran, text, _⟩ := bindToDevice_run name b v k
  rw [window] at ran text
  rw [ran]
  rcases closed : b.release.run.run (((Sys.perform (.bindToDevice name)).run.run k₁).2.record
    (.window .release)) with ⟨e | ⟨⟩, k₃⟩
  · rw [closed] at text
    exact ⟨.closed _, k₃, ⟨k₁, opened, closed⟩, text, rfl, rfl⟩
  · rw [closed] at text
    exact ⟨.closed _, k₃, ⟨k₁, opened, closed⟩, text, rfl, rfl⟩

theorem bind_attempts (address : Ipv4) : Attempts b name target (do
    (Sys.perform (.inetBind address)).adapt (Error.source "bind")
    pure address) (.bind address) some := by
  intro k
  rw [Sys.run_bind_pure, Sys.run_adapt]
  rcases ran : (Sys.perform (.inetBind address)).run.run k with ⟨e | ⟨⟩, k'⟩
  · exact ⟨.bound address _, k', ran, SameButText.chains.refl k', rfl, rfl⟩
  · exact ⟨.bound address _, k', ran, SameButText.chains.refl k', rfl, rfl⟩

def reach (target : Ipv4) : ExceptT Error Sys Unit := do
  match ← ExceptT.lift (Sys.perform .dontRoute).run with
  | .ok () => pure ()
  | .error cause => ExceptT.lift (warn ("setsockopt(SO_DONTROUTE): " ++ cause.text))
  (Sys.perform (.connect target udpPort)).adapt (Error.source "connect")

theorem routed_eq : routed target =
    reach target >>= fun _ => Sys.inetName.adapt (Error.source "getsockname") := by
  unfold routed reach
  rw [bind_assoc]
  congr 1
  funext result
  cases result with
  | error cause => simp only [bind_assoc]
  | ok => rfl

theorem connect_attempts : Attempts b name target (reach target) .connect fun _ => none := by
  intro k
  have prepared : ∃ k₁, ((Sys.perform .dontRoute).run.run k).2.SameButText k₁ ∧
      (reach target).run.run k =
        ((Sys.perform (.connect target udpPort)).adapt (Error.source "connect")).run.run k₁ := by
    unfold reach
    rw [Sys.run_except_bind, Sys.run_lift]
    rcases (Sys.perform .dontRoute).run.run k with ⟨cause | ⟨⟩, k₁⟩
    · exact ⟨_, Sys.within_print .log _ k₁, rfl⟩
    · exact ⟨k₁, SameButText.chains.refl k₁, rfl⟩
  obtain ⟨k₁, text, ran⟩ := prepared
  rw [ran]
  exact ⟨.connected _, _, ⟨k₁, text, rfl⟩, SameButText.chains.refl _, rfl, rfl⟩

theorem readBack_attempts : Attempts b name target
    (Sys.inetName.adapt (Error.source "getsockname")) .readBack some :=
  fun _ => ⟨.readBack _, _, rfl, SameButText.chains.refl _, rfl, rfl⟩

end

theorem pick_eq (source : Option Ipv4) (modes : Modes) (v : Verbosity) :
    let address := known target source modes
    pick target source modes v =
      (if source.isSome || !address.isUnspecified then do
        (Sys.perform (.inetBind address)).adapt (Error.source "bind")
        pure address
      else routed target) >>= check target modes.dad v := by
  intro address
  unfold pick check
  by_cases direct : (source.isSome || !address.isUnspecified) = true
  · simp only [if_pos direct, bind_assoc, pure_bind, address]
  · simp only [if_neg direct, address]

theorem pick_selects (source : Option Ipv4) (modes : Modes) (v : Verbosity)
    (asked : ¬ (modes.dad = true ∧ source = none)) :
    Selects b name target modes.dad (pick target source modes v)
      (addressing target source modes) := by
  rw [pick_eq]
  unfold addressing
  cases source with
  | some address =>
    rw [Option.isSome_some, Bool.true_or, if_pos rfl]
    exact (bind_attempts b name target address).last v
  | none =>
    have probing : modes.dad = false := by simpa using asked
    rw [Option.isSome_none, Bool.false_or]
    -- With none given, an address is known beforehand only if it is announced.
    by_cases announced : modes.unsolicited = true ∧ target ≠ .unspecified
    · have settled : known target none modes = target := by
        simp [known, announced, probing]
      have direct : (!target.isUnspecified) = true := by
        simp [Ipv4.isUnspecified, announced]
      rw [settled, if_pos direct, if_pos announced]
      exact (bind_attempts b name target target).last v
    · have unsettled : known target none modes = .unspecified := by
        simp only [known, probing, Bool.not_false, Bool.and_true, ite_eq_right_iff]
        intro unsolicited
        exact Decidable.not_not.mp fun addressed => announced ⟨unsolicited, addressed⟩
      rw [unsettled, if_neg (by decide), if_neg announced, routed_eq, bind_assoc]
      refine (connect_attempts b name target).next fun _ => ?_
      exact (readBack_attempts b name target).last v

theorem discover_picks (source : Option Ipv4) (modes : Modes) (v : Verbosity)
    (asked : ¬ (modes.dad = true ∧ source = none)) :
    Selects b name target modes.dad (discover target source name modes b v)
      (plan target source name modes) := by
  have picked := @pick_selects b name target source modes v asked
  have apart : ¬ (modes.dad && source.isNone) = true := by simpa using asked
  rw [discover_eq, if_neg apart]
  unfold plan
  refine (open_attempts b name target).next fun _ => ?_
  by_cases unnamed : name = ""
  · rw [if_neg (not_not_intro unnamed), if_pos unnamed]
    exact picked
  · rw [if_pos unnamed, if_neg unnamed]
    exact (tie_attempts b name target v).next fun _ => picked

theorem mem_plan {source : Option Ipv4} {modes : Modes} {action : Action} :
    action ∈ plan target source name modes ↔ action = .openSocket ∨
      (name ≠ "" ∧ action = .tie) ∨ action ∈ addressing target source modes := by
  unfold plan
  split
  · next unnamed => simp [unnamed]
  · next named => simp [named]

theorem picked_by {source : Option Ipv4} {modes : Modes} {attempts : List Attempt}
    {result : Except Error Ipv4} {address : Ipv4}
    (picks : Picks dad (plan target source name modes) attempts result)
    (ok : result = .ok address) :
    (.bind address ∈ addressing target source modes ∧ .bound address (.ok ()) ∈ attempts) ∨
      (.readBack ∈ addressing target source modes ∧ .readBack (.ok address) ∈ attempts) := by
  obtain ⟨attempt, made, planned, settles⟩ := picks.settles ok
  rw [mem_plan] at planned
  rcases Attempt.of_settles settles with rfl | rfl
  · have addressed : .bind address ∈ addressing target source modes := by
      simpa [Attempt.action] using planned
    exact .inl ⟨addressed, made⟩
  · have addressed : .readBack ∈ addressing target source modes := by
      simpa [Attempt.action] using planned
    exact .inr ⟨addressed, made⟩

/-- How an address is selected. A probe for duplicates without an address takes the unspecified one
and does nothing. Else the actions of the plan are attempted, and it fails with the error of an
attempt or for want of an address, and otherwise picks the address that is given, the target of an
announcement, or the local address of the way to the target. -/
theorem discover_selects (target : Ipv4) (source : Option Ipv4) (name : String) (modes : Modes)
    (b : Bracket Sys) (v : Verbosity) (k : Kernel) :
    let ran := (discover target source name modes b v).run.run k
    (modes.dad = true → source = none → ran = (.ok .unspecified, k)) ∧
      (¬ (modes.dad = true ∧ source = none) → ∃ attempts,
        Course (Attempt.Made b name target) attempts k ran.2 ∧
        Picks modes.dad (plan target source name modes) attempts ran.1 ∧
        (∀ e, ran.1 = .error e ↔ (∃ attempt ∈ attempts, attempt.outcome = .error e) ∨
          (e = .noSourceAddress ∧ modes.dad = false ∧
            ∃ attempt ∈ attempts, attempt.outcome = .ok (some .unspecified))) ∧
        ∀ address, ran.1 = .ok address →
          (modes.dad = false → address ≠ .unspecified) ∧
          (∀ given, source = some given →
            address = given ∧ .bound given (.ok ()) ∈ attempts) ∧
          (source = none → if modes.unsolicited = true ∧ target ≠ .unspecified
            then address = target ∧ .bound target (.ok ()) ∈ attempts
            else .connected (.ok ()) ∈ attempts ∧ .readBack (.ok address) ∈ attempts)) := by
  intro ran
  constructor
  · rintro probing rfl
    have unasked : (modes.dad && (none : Option Ipv4).isNone) = true := by rw [probing]; rfl
    unfold ran
    rw [discover_eq, if_pos unasked]
    rfl
  intro asked
  obtain ⟨attempts, course, picks⟩ := discover_picks (b := b) source modes v asked k
  refine ⟨attempts, course, picks, fun _ => picks.error_iff, fun address ok => ?_⟩
  refine ⟨picks.addressed ok, ?_, ?_⟩
  · rintro given rfl
    rcases picked_by picks ok with ⟨bound, made⟩ | ⟨read, _⟩
    · obtain rfl : address = given := by simpa [addressing] using bound
      exact ⟨rfl, made⟩
    · cases List.mem_singleton.mp read
  · rintro rfl
    have picked := picked_by picks ok
    unfold addressing at picked
    dsimp only at picked
    split
    · next announced =>
      rw [if_pos announced] at picked
      rcases picked with ⟨bound, made⟩ | ⟨read, _⟩
      · obtain rfl : address = target := by simpa using bound
        exact ⟨rfl, made⟩
      · cases List.mem_singleton.mp read
    · next other =>
      have connects : .connect ∈ plan target none name modes := by
        simp [mem_plan, addressing, other]
      obtain ⟨attempt, tried, connect, settled, fine⟩ := picks.done ok .connect connects
      rw [Attempt.of_connects connect fine] at tried
      rw [if_neg other] at picked
      rcases picked with ⟨bound, _⟩ | ⟨_, made⟩
      · simp at bound
      · exact ⟨tried, made⟩

theorem discover_selects_untied :
    let b : Bracket Sys := .settled (.error (.system 1)) (.ok ()) (.ok ())
    let modes : Modes := { unsolicited := true }
    let k : Kernel :=
      { route := ⟨192, 0, 2, 7⟩
        faults := fun kind => if kind = .bindToDevice then [1] else [] }
    let ran := (discover .unspecified none "eth0" modes b {}).run.run k
    ran.1 = .ok ⟨192, 0, 2, 7⟩ ∧ ∃ attempts,
      Course (Attempt.Made b "eth0" .unspecified) attempts k ran.2 ∧
      .connected (.ok ()) ∈ attempts ∧ .readBack (.ok ⟨192, 0, 2, 7⟩) ∈ attempts := by
  intro b modes k ran
  have picked : ran.1 = .ok ⟨192, 0, 2, 7⟩ := by rfl
  obtain ⟨_, asked⟩ := discover_selects .unspecified none "eth0" modes b {} k
  obtain ⟨attempts, course, _, _, selected⟩ := asked (by decide)
  obtain ⟨_, _, routed⟩ := selected _ picked
  have way := routed rfl
  rw [if_neg (by decide)] at way
  exact ⟨picked, attempts, course, way⟩

end ArpProbe.Source

import ArpProbe.Probe
import ArpProbe.Proofs.Kernel.Running

/-! The errors that setting a probe up can end in. Those that depend on the question asked carry
the question of the configuration. -/

namespace ArpProbe

/-- The error knows of no other question than whether an address is in use, or of no question. -/
def Error.Keeps (dad : Bool) : Error → Prop
  | .notArpable _ d | .noLinkAddress _ d => d = dad
  | _ => True

def Outcome.Keeps (dad : Bool) : Outcome → Prop
  | .fatal e => e.Keeps dad
  | _ => True

def Finding.Keeps (dad : Bool) : Finding → Prop
  | .answer outcome => outcome.Keeps dad
  | _ => True

open Sys (RaisesOnly Returns)

variable {dad : Bool}

theorem select_keeps (found : List Interface) : (select found).Keeps dad := by
  unfold select
  split <;> trivial

theorem InterfaceFlags.check_keeps {hint : Option String} {flags : UInt32} {e : Error}
    (h : check hint flags dad = .error e) : e.Keeps dad := by
  unfold check at h
  split at h
  · split at h
    · cases h
    · cases hint <;> cases h
      rfl
  · cases hint <;> cases h
    trivial

theorem Finding.ofFlags_keeps (hint : Option String) (flags : UInt32) {next : Sys Finding}
    (h : Returns (Finding.Keeps dad) next) :
    Returns (Finding.Keeps dad) (Finding.ofFlags hint flags dad next) := by
  unfold Finding.ofFlags
  split
  · exact h
  · exact .pure trivial
  · next e failed => exact .pure (InterfaceFlags.check_keeps failed)

theorem survey_keeps {α : Type} {examine : α → Sys Finding}
    (h : ∀ a, Returns (Finding.Keeps dad) (examine a)) (as : List α) (found : List Interface) :
    Returns (Outcome.Keeps dad) (survey examine as found) := by
  induction as generalizing found with
  | nil => exact .pure (select_keeps found)
  | cons a rest ih =>
    refine .bind (h a) fun finding kept => ?_
    cases finding with
    | skip => exact ih found
    | answer outcome => exact .pure kept
    | candidate i =>
      by_cases first : found.isEmpty
      · simp only [first, if_true]
        exact ih [i]
      · simp only [first]
        exact .pure (select_keeps _)

theorem AddressList.resolve_keeps (hint : Option String) :
    Returns (Outcome.Keeps dad) (AddressList.resolve hint dad) := by
  refine .bind_any fun entries => ?_
  split
  · exact .pure trivial
  · refine survey_keeps (fun e => ?_) _ []
    unfold AddressList.examine
    split
    · split
      · exact .pure trivial
      · refine Finding.ofFlags_keeps _ _ ?_
        split
        · refine .bind_any fun index => ?_
          cases index <;> exact .pure trivial
        · exact .pure trivial
    · exact .pure trivial

theorem Attributes.resolve_keeps (hint : Option String) :
    Returns (Outcome.Keeps dad) (Attributes.resolve hint dad) := by
  refine .bind_any fun k => ?_
  split
  · exact .pure trivial
  · refine survey_keeps (fun d => ?_) _ []
    unfold Attributes.examine
    split
    · exact .pure trivial
    · split
      · exact .pure trivial
      · split
        · exact .pure trivial
        · refine Finding.ofFlags_keeps _ _ (.pure ?_)
          split <;> trivial

namespace ControlRequest

theorem named_keeps (name : String) : Returns (Outcome.Keeps dad) (named name dad) := by
  unfold named
  split
  · exact .pure trivial
  · refine .bind_any fun flags => ?_
    split
    · split <;> exact .pure trivial
    · split
      · next e failed => exact .pure (InterfaceFlags.check_keeps failed)
      · refine .bind_any fun index => ?_
        cases index <;> exact .pure trivial

theorem enumerate_keeps : Returns (Outcome.Keeps dad) (enumerate dad) := by
  refine .bind_any fun names => ?_
  split
  · exact .pure trivial
  · refine survey_keeps (fun name => ?_) _ []
    unfold examine
    split
    · exact .pure trivial
    · refine .bind_any fun flags => ?_
      split
      · exact .pure trivial
      · refine Finding.ofFlags_keeps _ _ (.bind_any fun index => ?_)
        cases index <;> exact .pure trivial

theorem resolve_keeps (hint : Option String) :
    Returns (Outcome.Keeps dad) (ControlRequest.resolve hint dad) := by
  refine .bind_any fun socket => ?_
  split
  · exact .pure trivial
  · cases hint with
    | some name => exact named_keeps name
    | none => exact enumerate_keeps

end ControlRequest

theorem Strategy.ofMethod_keeps (method : DiscoveryMethod) (hint : Option String) :
    Returns (Outcome.Keeps dad) ((ofMethod method).resolve hint dad) := by
  cases method with
  | ifaddrs => exact AddressList.resolve_keeps hint
  | sysfs => exact Attributes.resolve_keeps hint
  | ioctl => exact ControlRequest.resolve_keeps hint

theorem Resolver.ask_keeps (hint : Option String) (v : Verbosity) {strategies : List Strategy}
    (h : ∀ s ∈ strategies, Returns (Outcome.Keeps dad) (s.resolve hint dad))
    (reasons : List String) :
    Returns (fun r => ∀ e, r = .error e → e.Keeps dad) (ask hint dad v strategies reasons) := by
  induction strategies generalizing reasons with
  | nil =>
    refine .pure fun e he => ?_
    cases he
    trivial
  | cons s rest ih =>
    obtain ⟨first, later⟩ := List.forall_mem_cons.mp h
    refine .bind_any fun _ => .bind first fun outcome kept => ?_
    cases outcome with
    | found i => exact .bind_any fun _ => .pure fun e he => by cases he
    | notApplicable reason => exact .bind_any fun _ => ih later _
    | notFound =>
      refine .pure fun e he => ?_
      cases he
      cases hint <;> trivial
    | ambiguous =>
      refine .pure fun e he => ?_
      cases he
      trivial
    -- Only here an error comes from a strategy and not from the chain itself.
    | fatal e =>
      refine .pure fun e' he => ?_
      cases he
      exact kept

theorem CapabilityBracket.limit_keeps : RaisesOnly (Error.Keeps dad) (limit (m := Sys)) := by
  unfold limit privileged
  refine .bind (.adapt (fun _ => trivial) _) fun sets => .first ?_ fun _ => ?_
  · unfold shed
    refine .bind (.lift _) fun shed => ?_
    split
    · exact .pure ()
    · split
      · exact .throw trivial
      · exact .pure ()
  · exact .bind (.adapt (fun _ => trivial) _) fun _ => .bind (.lift _) fun users =>
      .bind (.adapt (fun _ => trivial) _) fun _ => .bind (.adapt (fun _ => trivial) _) fun _ =>
        .pure _

theorem limitPrivileges_keeps : RaisesOnly (Error.Keeps dad) (limitPrivileges (m := Sys)) := by
  unfold limitPrivileges
  refine .bind (.lift _) fun sets => ?_
  split
  · exact CapabilityBracket.limit_keeps
  · unfold UserBracket.limit privileged
    exact .bind (.lift _) fun users => .first (.adapt (fun _ => trivial) _) fun _ => .pure _

theorem bracketed_keeps {α : Type} (b : Bracket Sys) (v : Verbosity) (op : Sys α) :
    RaisesOnly (Error.Keeps dad) (bracketed b v op) := by
  have rest : RaisesOnly (Error.Keeps dad) (do
      let result ← ExceptT.lift op
      ExceptT.lift (Sys.record (.window .release))
      b.release.adapt (Error.privilege "release")
      return result) :=
    .bind (.lift _) fun _ => .bind (.lift _) fun _ => .bind (.adapt (fun _ => trivial) _) fun _ =>
      .pure _
  unfold bracketed
  refine .bind (.lift _) fun _ => .bind (.lift _) fun acquired => ?_
  cases acquired with
  | error cause => exact .bind (.lift _) fun _ => rest
  | ok => exact rest

theorem dropPrivileges_keeps (b : Bracket Sys) (v : Verbosity) :
    RaisesOnly (Error.Keeps dad) (dropPrivileges b v) :=
  .bind (.lift _) fun _ => .bind (.adapt (fun _ => trivial) _) fun _ => .lift _

namespace Source

theorem bindToDevice_keeps (name : String) (b : Bracket Sys) (v : Verbosity) :
    RaisesOnly (Error.Keeps dad) (bindToDevice name b v) := by
  refine .bind (bracketed_keeps b v _) fun bound => ?_
  cases bound with
  | error cause => exact .lift _
  | ok => exact .pure ()

theorem routed_keeps (target : Ipv4) : RaisesOnly (Error.Keeps dad) (routed target) := by
  have rest : RaisesOnly (Error.Keeps dad) (do
      (Sys.perform (.connect target udpPort)).adapt (Error.source "connect")
      Sys.inetName.adapt (Error.source "getsockname")) :=
    .bind (.adapt (fun _ => trivial) _) fun _ => .adapt (fun _ => trivial) _
  refine .bind (.lift _) fun set => ?_
  cases set with
  | error cause => exact .bind (.lift _) fun _ => rest
  | ok => exact rest

theorem checked_keeps (target : Ipv4) (source : Option Ipv4) (name : String) (modes : Modes)
    (b : Bracket Sys) (v : Verbosity) :
    RaisesOnly (Error.Keeps dad) (checked target source name modes b v) := by
  refine .bind (.adapt (fun _ => trivial) _) fun _ =>
    .first (bindToDevice_keeps name b v) fun _ => ?_
  split
  · exact .bind (.adapt (fun _ => trivial) _) fun _ => .bind (.pure _) fun _ =>
      .bind (.lift _) fun _ => .pure _
  · exact .bind (routed_keeps target) fun _ => .bind (.lift _) fun _ => .pure _

theorem discover_keeps (target : Ipv4) (source : Option Ipv4) (name : String) (modes : Modes)
    (b : Bracket Sys) (v : Verbosity) :
    RaisesOnly (Error.Keeps dad) (discover target source name modes b v) := by
  unfold discover
  split
  · exact .pure _
  · refine .bind (checked_keeps target source name modes b v) fun address => ?_
    split
    · exact .throw trivial
    · exact .pure _

end Source

theorem Source.ofText_keeps (text : Option String) :
    RaisesOnly (Error.Keeps dad) (ExceptT.mk (pure (ofText text))) := by
  refine Returns.raisesOnly (.pure fun e he => ?_)
  unfold ofText at he
  split at he
  · cases he
  · split at he <;> cases he
    trivial

theorem Target.resolve_keeps (target : String) :
    RaisesOnly (Error.Keeps dad) (resolve target) := by
  refine Returns.raisesOnly (.bind_any fun found => .pure fun e he => ?_)
  cases found <;> cases he
  trivial

namespace Probe

theorem endpoint_keeps (c : Config) (i : Interface) :
    RaisesOnly (Error.Keeps c.modes.dad) (endpoint c i) := by
  unfold endpoint
  refine .bind (.adapt (fun _ => trivial) _) fun _ => .bind (.adapt (fun _ => trivial) _) ?_
  rintro ⟨hardwareType, me⟩
  refine .first (.throw rfl) fun _ => .first (.lift _) fun _ => ?_
  exact .bind (.lift _) fun _ => .bind (.lift _) fun _ => .pure _

def MaySetUp (c : Config) : Except Error Prober → Prop
  | .ok p => ∃ endpoint q index, p = .fresh c.modes c.count c.timeout endpoint q index
  | .error e => e.Keeps c.modes.dad

theorem setUp_returns (c : Config) : Returns (MaySetUp c) (setUp c).run := by
  unfold setUp
  refine .bind_except limitPrivileges_keeps fun bracket => ?_
  refine .bind_except (bracketed_keeps bracket _ _) fun socket => ?_
  refine .bind_except (Returns.raisesOnly (.pure fun e he => ?_)) fun _ => ?_
  · cases socket <;> cases he
    trivial
  refine .bind_except (Returns.raisesOnly (Resolver.ask_keeps _ _ (fun s hs => ?_) [])) fun i => ?_
  · obtain ⟨method, _, rfl⟩ := List.mem_map.mp hs
    exact Strategy.ofMethod_keeps method _
  refine .bind_except (.lift _) fun _ => .bind_except (Target.resolve_keeps _) fun target => ?_
  refine .bind_except (Source.ofText_keeps _) fun given => ?_
  refine .bind_except (Source.discover_keeps _ _ _ _ _ _) fun source => ?_
  refine .bind_except (endpoint_keeps c i) fun endpoint => .first (.lift _) fun _ => ?_
  exact .bind_except (dropPrivileges_keeps _ _) fun _ => .pure ⟨endpoint, _, _, rfl⟩

end Probe

end ArpProbe

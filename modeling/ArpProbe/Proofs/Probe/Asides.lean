import ArpProbe.Proofs.EventLoop.Onward
import ArpProbe.Proofs.Privilege.Windows
import ArpProbe.Proofs.Probe.Stages

/-! What setting a probe up does outside of its privilege windows, and what the loop does: nothing
that needs the privilege, and before the loop nothing on the link either. -/

namespace ArpProbe

namespace Event

def isProbing : Event → Bool
  | call (.poll _) _ => true
  | e => e.touchesLink

def isAside (e : Event) : Bool := e.isUnguarded && !e.isProbing

theorem isProbing_of_isCredential {e : Event} (h : e.isCredential = true) :
    e.isProbing = false := by
  cases e with
  | call c failure =>
    cases c with
    | capget | capset | keepCapabilities | setuid | seteuid | setresuid => rfl
    | _ => cases h
  | _ => cases h

theorem isAside_of_isCredential {e : Event} (h : e.isCredential = true) : e.isAside = true := by
  rw [isAside, isUnguarded_of_isCredential h, isProbing_of_isCredential h]
  rfl

end Event

open Kernel (Adds AddsCredentials)
open Sys (Within)

def Kernel.AddsAsides : Kernel → Kernel → Prop := Adds fun e => e.isAside = true

def Kernel.AddsUnguarded : Kernel → Kernel → Prop := Adds fun e => e.isUnguarded = true

open Kernel (AddsAsides AddsUnguarded)

theorem Kernel.AddsAsides.chains : Chains AddsAsides := Adds.chains _

theorem Kernel.AddsUnguarded.chains : Chains AddsUnguarded := Adds.chains _

open Kernel.AddsAsides (chains)

section

variable {α : Type}

theorem within_asides_query {c : Call} (aside : ∀ failure, (Event.call c failure).isAside = true)
    (model : Kernel → Except Errno α) : Within AddsAsides (Sys.query c model).run :=
  Sys.within_query_adds aside model

theorem within_asides_debug (v : Verbosity) (detail : Detail) (topic : Topic) (message : String) :
    Within AddsAsides (Sys.debug v detail topic message) :=
  Sys.within_debug_adds v detail topic message

end

section Discovery

variable {hint : Option String} {dad : Bool}

theorem Finding.within_ofFlags (flags : UInt32) {next : Sys Finding}
    (h : Within AddsAsides next) : Within AddsAsides (Finding.ofFlags hint flags dad next) := by
  unfold Finding.ofFlags
  split
  · exact h
  · exact chains.pure _
  · exact chains.pure _

theorem within_survey {α : Type} {examine : α → Sys Finding}
    (h : ∀ a, Within AddsAsides (examine a)) (as : List α) (found : List Interface) :
    Within AddsAsides (survey examine as found) := by
  induction as generalizing found with
  | nil => exact chains.pure _
  | cons a rest ih =>
    refine chains.bind (h a) fun finding => ?_
    cases finding with
    | skip => exact ih found
    | answer outcome => exact chains.pure _
    | candidate i =>
      by_cases first : found.isEmpty
      · simp only [first, if_true]
        exact ih [i]
      · simp only [first]
        exact chains.pure _

theorem AddressList.within_resolve : Within AddsAsides (AddressList.resolve hint dad) := by
  refine chains.bind (within_asides_query (fun _ => rfl) _) fun entries => ?_
  split
  · exact chains.pure _
  · refine within_survey (fun e => ?_) _ []
    unfold AddressList.examine
    split
    · split
      · exact chains.pure _
      · refine Finding.within_ofFlags _ ?_
        split
        · refine chains.bind (within_asides_query (fun _ => rfl) _) fun index => ?_
          cases index <;> exact chains.pure _
        · exact chains.pure _
    · exact chains.pure _

theorem Attributes.within_resolve : Within AddsAsides (Attributes.resolve hint dad) := by
  refine chains.bind (fun k => chains.refl k) fun k => ?_
  split
  · exact chains.pure _
  · refine within_survey (fun d => ?_) _ []
    unfold Attributes.examine
    split
    · exact chains.pure _
    · split
      · exact chains.pure _
      · split
        · exact chains.pure _
        · exact Finding.within_ofFlags _ (chains.pure _)

namespace ControlRequest

theorem within_named (name : String) : Within AddsAsides (named name dad) := by
  unfold named
  split
  · exact chains.pure _
  · refine chains.bind (within_asides_query (fun _ => rfl) _) fun flags => ?_
    split
    · split <;> exact chains.pure _
    · split
      · exact chains.pure _
      · refine chains.bind (within_asides_query (fun _ => rfl) _) fun index => ?_
        cases index <;> exact chains.pure _

theorem within_listNames (doublings room : Nat) :
    Within AddsAsides (listNames Sys.listInterfaces doublings room).run := by
  induction doublings generalizing room with
  | zero =>
    refine chains.bind_except (within_asides_query (fun _ => rfl) _) fun records => ?_
    split
    · exact chains.pure _
    · exact chains.throw _
  | succ doublings ih =>
    refine chains.bind_except (within_asides_query (fun _ => rfl) _) fun records => ?_
    split
    · exact chains.pure _
    · exact ih _

theorem within_enumerate : Within AddsAsides (enumerate dad) := by
  refine chains.bind (within_listNames _ _) fun names => ?_
  split
  · exact chains.pure _
  · refine within_survey (fun name => ?_) _ []
    unfold examine
    split
    · exact chains.pure _
    · refine chains.bind (within_asides_query (fun _ => rfl) _) fun flags => ?_
      split
      · exact chains.pure _
      · refine Finding.within_ofFlags _ ?_
        refine chains.bind (within_asides_query (fun _ => rfl) _) fun index => ?_
        cases index <;> exact chains.pure _

theorem within_resolve : Within AddsAsides (ControlRequest.resolve hint dad) := by
  refine chains.bind (within_asides_query (fun _ => rfl) _) fun socket => ?_
  split
  · exact chains.pure _
  · cases hint with
    | some name => exact within_named name
    | none => exact within_enumerate

end ControlRequest

theorem Strategy.within_ofMethod (method : DiscoveryMethod) :
    Within AddsAsides ((ofMethod method).resolve hint dad) := by
  cases method with
  | ifaddrs => exact AddressList.within_resolve
  | sysfs => exact Attributes.within_resolve
  | ioctl => exact ControlRequest.within_resolve

theorem Resolver.within_ask (v : Verbosity) {strategies : List Strategy}
    (h : ∀ s ∈ strategies, Within AddsAsides (s.resolve hint dad)) (reasons : List String) :
    Within AddsAsides (ask hint dad v strategies reasons) := by
  induction strategies generalizing reasons with
  | nil => exact chains.pure _
  | cons s rest ih =>
    obtain ⟨first, later⟩ := List.forall_mem_cons.mp h
    refine chains.bind (within_asides_debug _ _ _ _) fun _ => chains.bind first fun outcome => ?_
    cases outcome with
    | found i => exact chains.bind (within_asides_debug _ _ _ _) fun _ => chains.pure _
    | notApplicable reason => exact chains.bind (within_asides_debug _ _ _ _) fun _ => ih later _
    | notFound | ambiguous | fatal e => exact chains.pure _

theorem Resolver.within_resolve (methods : List DiscoveryMethod) (v : Verbosity) :
    Within AddsAsides (resolve (methods.map Strategy.ofMethod) hint dad v).run := by
  refine within_ask v (fun s hs => ?_) []
  obtain ⟨method, _, rfl⟩ := List.mem_map.mp hs
  exact Strategy.within_ofMethod method

end Discovery

theorem Target.within_resolve (target : String) : Within AddsAsides (resolve target).run := by
  refine chains.bind ?_ fun found => chains.pure _
  unfold find
  split
  · exact chains.pure _
  · split
    · exact chains.pure _
    · split
      · exact chains.pure _
      · refine chains.bind (fun k => ?_) fun answer => chains.pure _
        exact .record rfl

theorem Source.within_routed (target : Ipv4) : Within AddsAsides (routed target).run := by
  have rest : Within AddsAsides (do
      (Sys.perform (.connect target udpPort)).adapt (Error.source "connect")
      Sys.inetName.adapt (Error.source "getsockname")).run :=
    chains.bind_except ((within_asides_query (fun _ => rfl) _).adapt _) fun _ =>
      (within_asides_query (fun _ => rfl) _).adapt _
  refine chains.bind_except (.lift _ (within_asides_query (fun _ => rfl) _)) fun set => ?_
  cases set with
  | error cause => exact chains.bind_except (.lift _ (Sys.within_print_adds _ _)) fun _ => rest
  | ok => exact rest

theorem Source.within_pick (target : Ipv4) (source : Option Ipv4) (modes : Modes) (v : Verbosity) :
    Within AddsAsides (pick target source modes v).run := by
  have rest (address : Ipv4) : Within AddsAsides (do
      ExceptT.lift (Sys.debug v .medium .socket s!"source address {address} for target {target}")
      if !modes.dad && address.isUnspecified then throw .noSourceAddress
      else return address : ExceptT Error Sys Ipv4).run := by
    refine chains.bind_except (.lift _ (within_asides_debug _ _ _ _)) fun _ => ?_
    split
    · exact chains.throw _
    · exact chains.pure _
  unfold pick
  dsimp only
  split
  · refine chains.bind_except ((within_asides_query (fun _ => rfl) _).adapt _) fun _ => ?_
    exact chains.bind_except (chains.pure _) rest
  · exact chains.bind_except (within_routed target) rest

namespace Probe

theorem within_findInterface (c : Config) : Within AddsAsides (findInterface c).run :=
  chains.bind_except (Resolver.within_resolve _ _) fun _ =>
    chains.bind_except (.lift _ (within_asides_debug _ _ _ _)) fun _ => chains.pure _

theorem within_addresses (c : Config) (i : Interface) :
    Within AddsAsides (addresses c i).run := by
  have broadcasts (length : Nat) : Within AddsAsides (broadcast i length c.modes.quiet) := by
    unfold broadcast
    split
    · exact chains.pure _
    · split
      · exact chains.bind (Sys.within_print_adds _ _) fun _ => chains.pure _
      · exact chains.pure _
  refine chains.bind_except ((within_asides_query (fun _ => rfl) _).adapt _) ?_
  rintro ⟨hardwareType, me⟩
  refine chains.first (chains.throw _) fun _ => ?_
  refine chains.first (.lift _ (within_asides_debug _ _ _ _)) fun _ => ?_
  refine chains.bind_except (.lift _ (broadcasts _)) fun he => ?_
  exact chains.bind_except (.lift _ (within_asides_debug _ _ _ _)) fun _ => chains.pure _

theorem within_readBack (c : Config) (i : Interface) (q : Query) :
    Within AddsAsides (readBack c i q).run :=
  chains.bind_except (within_addresses c i) fun _ =>
    chains.first (.lift _ (Sys.within_print_adds _ _)) fun _ => chains.pure _

end Probe

theorem Prober.Move.unguarded {p p' : Prober} {g : History} (m : p.Move g p') :
    ∀ e ∈ g, e.isUnguarded = true := by
  cases m with
  | @waited c waits failure =>
    intro e he
    rw [List.mem_singleton.mp he]
    cases c with
    | poll | readSignal | readTimer => rfl
    | _ => cases waits
  | _ => simp [Event.isUnguarded, Event.windowStep?, Event.needsWindow, Call.isGuarded]

theorem Prober.Moves.unguarded {p p' : Prober} {h : History} (m : p.Moves h p') :
    ∀ e ∈ h, e.isUnguarded = true := by
  induction m with
  | none => simp
  | more before going move ih =>
    intro e he
    exact (List.mem_append.mp he).elim (ih e) (move.unguarded e)

namespace EventLoop

end EventLoop

end ArpProbe

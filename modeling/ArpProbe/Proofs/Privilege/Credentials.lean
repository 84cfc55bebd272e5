import ArpProbe.Privilege
import ArpProbe.Proofs.Kernel.Recording

/-! The calls on the credentials of a process. Privileges are limited by such calls alone, and a
bracket that comes of it makes no others. -/

namespace ArpProbe

def Call.isCredential : Call → Bool
  | capget | capset _ | keepCapabilities _ | setuid _ | seteuid _ | setresuid _ => true
  | _ => false

def Event.isCredential : Event → Bool
  | .call c _ => c.isCredential
  | _ => false

namespace Kernel

theorem events_switchUser {k k' : Kernel} {permitted : Bool} {users : UserIds}
    (h : k.switchUser permitted users = .ok ((), k')) : k'.events = k.events := by
  unfold switchUser at h
  split at h <;> cases h
  rfl

theorem events_setuid {k k' : Kernel} {u : Nat} (h : k.setuid u = .ok ((), k')) :
    k'.events = k.events := by
  unfold setuid at h
  split at h
  · cases h
    rfl
  · exact events_switchUser h

theorem events_capset {k k' : Kernel} {sets : CapSets} (h : k.capset sets = .ok ((), k')) :
    k'.events = k.events := by
  unfold capset at h
  split at h
  · cases h
  · split at h <;> cases h
    rfl

end Kernel

open Kernel (Adds)

def Kernel.AddsCredentials : Kernel → Kernel → Prop := Adds fun e => e.isCredential = true

theorem Kernel.AddsCredentials.chains : Chains AddsCredentials := Adds.chains _

open Kernel (AddsCredentials)
open Kernel.AddsCredentials (chains)

namespace Sys

open CredentialCalls

theorem capget_credentials : Within AddsCredentials (capget (m := Sys)).run :=
  within_query_adds (fun _ => rfl) _

theorem capset_credentials (sets : CapSets) : Within AddsCredentials (capset (m := Sys) sets).run :=
  within_adds (call_adds fun _ _ _ h => Kernel.events_capset h) fun _ => rfl

theorem keepCapabilities_credentials (on : Bool) :
    Within AddsCredentials (keepCapabilities (m := Sys) on).run :=
  within_query_adds (fun _ => rfl) _

theorem setuid_credentials (u : Nat) : Within AddsCredentials (setuid (m := Sys) u).run :=
  within_adds (call_adds fun _ _ _ h => Kernel.events_setuid h) fun _ => rfl

theorem seteuid_credentials (u : Nat) : Within AddsCredentials (seteuid (m := Sys) u).run :=
  within_adds (call_adds fun _ _ _ h => Kernel.events_switchUser h) fun _ => rfl

theorem setresuid_credentials (ids : UserIds) :
    Within AddsCredentials (setresuid (m := Sys) ids).run :=
  within_adds (call_adds fun _ _ _ h => Kernel.events_switchUser h) fun _ => rfl

theorem userIds_credentials : Within AddsCredentials (userIds (m := Sys)) := fun _ => .still rfl

end Sys

open Sys (Within Returns)

namespace Bracket

structure IsModest (b : Bracket Sys) : Prop where
  acquire : Within AddsCredentials b.acquire.run
  release : Within AddsCredentials b.release.run
  dropPermanently : Within AddsCredentials b.dropPermanently.run

end Bracket

namespace CapabilityBracket

theorem modifyRaw_credentials (permitted on : Bool) :
    Within AddsCredentials (modifyRaw (m := Sys) permitted on).run := by
  unfold modifyRaw
  split
  · exact chains.bind_except Sys.capget_credentials fun _ => Sys.capset_credentials _
  · split
    · exact chains.throw _
    · exact chains.pure _

theorem ofPermitted_isModest (permitted : Bool) : (ofPermitted (m := Sys) permitted).IsModest where
  acquire := modifyRaw_credentials permitted true
  release := modifyRaw_credentials permitted false
  dropPermanently := Sys.capset_credentials _

theorem shed_credentials : Within AddsCredentials (shed (m := Sys)).run := by
  refine chains.bind_except (.lift _ (Sys.capset_credentials _)) fun result => ?_
  cases result with
  | ok => exact chains.pure _
  | error cause =>
    simp only
    split
    · exact chains.throw _
    · exact chains.pure _

theorem limit_credentials : Within AddsCredentials (limit (m := Sys)).run := by
  refine chains.bind_except (Sys.capget_credentials.adapt _) fun sets =>
    chains.first shed_credentials fun _ => ?_
  refine chains.bind_except ((Sys.keepCapabilities_credentials _).adapt _) fun _ => ?_
  refine chains.bind_except (.lift _ Sys.userIds_credentials) fun _ => ?_
  refine chains.bind_except ((Sys.setuid_credentials _).adapt _) fun _ => ?_
  exact chains.bind_except ((Sys.keepCapabilities_credentials _).adapt _) fun _ => chains.pure _

end CapabilityBracket

namespace UserBracket

theorem drop_credentials (real effective : Nat) :
    Within AddsCredentials (drop (m := Sys) real effective).run := by
  refine chains.bind_except (Sys.setresuid_credentials _) fun _ => ?_
  split
  · refine chains.bind_except (.lift _ (Sys.seteuid_credentials _)) fun result => ?_
    cases result with
    | ok => exact chains.throw _
    | error cause => exact chains.pure _
  · exact chains.pure _

theorem ofUsers_isModest (real effective : Nat) :
    (ofUsers (m := Sys) real effective).IsModest where
  acquire := Sys.seteuid_credentials effective
  release := Sys.seteuid_credentials real
  dropPermanently := drop_credentials real effective

theorem limit_credentials : Within AddsCredentials (limit (m := Sys)).run :=
  chains.bind_except (.lift _ Sys.userIds_credentials) fun _ =>
    chains.first ((Sys.seteuid_credentials _).adapt _) fun _ => chains.pure _

end UserBracket

theorem limitPrivileges_credentials : Within AddsCredentials (limitPrivileges (m := Sys)).run := by
  refine chains.bind_except (.lift _ Sys.capget_credentials) fun sets => ?_
  cases sets with
  | ok => exact CapabilityBracket.limit_credentials
  | error => exact UserBracket.limit_credentials

theorem limitPrivileges_isModest :
    Returns (fun r => ∀ b, r = .ok b → b.IsModest) (limitPrivileges (m := Sys)).run := by
  -- An error is no bracket, so all that counts is what is returned in the end.
  have failing {α : Type} (x : ExceptT Error Sys α) :
      Sys.RaisesOnly (fun e => ∀ b, (.error e : Except Error (Bracket Sys)) = .ok b → b.IsModest)
        x := fun _ _ _ _ h => nomatch h
  unfold limitPrivileges
  refine .bind_except (failing _) fun sets => ?_
  cases sets with
  | ok =>
    unfold CapabilityBracket.limit
    refine .bind_except (failing _) fun sets => .first (failing _) fun _ => ?_
    refine .bind_except (failing _) fun _ => .bind_except (failing _) fun _ => ?_
    refine .bind_except (failing _) fun _ => .bind_except (failing _) fun _ => .pure ?_
    rintro _ ⟨⟩
    exact CapabilityBracket.ofPermitted_isModest _
  | error =>
    unfold UserBracket.limit
    refine .bind_except (failing _) fun users => .first (failing _) fun _ => .pure ?_
    rintro _ ⟨⟩
    exact UserBracket.ofUsers_isModest _ _

end ArpProbe

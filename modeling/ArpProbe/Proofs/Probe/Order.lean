import ArpProbe.Proofs.Probe.Outline

/-! The order of privileges, stages and probing in whole runs. At most two calls are made with the
privilege, each in a window of its own; the first stage that fails is the last of the run; and
nothing is sent, received or waited for before all privileges are given up for good. -/

namespace ArpProbe

namespace Probe

variable {c : Config} {b : Bracket Sys}

namespace Starts

variable {n : Nat} {s : Stage} {k k₁ k₂ : Kernel}

theorem isModest (starts : Starts c b k n s k₁) : b.IsModest := by
  induction starts with
  | first limited => exact limitPrivileges_isModest k b (by rw [limited])
  | next before step ih => exact ih

theorem recorded (starts : Starts c b k n s k₁) :
    ∃ h, k₁.events = k.events ++ h ∧ Recorded b s.phase h := by
  induction starts with
  | first limited =>
    obtain ⟨g, added, credentials⟩ := limitPrivileges_credentials k
    rw [limited] at added
    have nothing : Recorded b .limited [] := ⟨.of_none (by simp), .limited, by simp⟩
    exact ⟨g, added, nothing.asides fun e he => Event.isAside_of_isCredential (credentials e he)⟩
  | next before step ih =>
    obtain ⟨h, added, had⟩ := ih
    obtain ⟨g, more, _, goes⟩ := Stage.step_leaves (c := c) before.isModest _ had _
    rw [step] at more goes
    exact ⟨h ++ g, by rw [more, added, List.append_assoc], goes _ rfl⟩

theorem dropped {p : Prober} (starts : Starts c b k n (.ready p) k₁) :
    ∃ m i q endpoint k₀ k', Starts c b k m (.drop i q endpoint) k₀ ∧
      b.dropPermanently.run.run (k₀.record (.window .drop)) = (.ok (), k') ∧ k'.SameButText k₁ ∧
      p = .fresh c.modes c.count c.timeout endpoint q i.index := by
  obtain ⟨m, i, q, endpoint, k₀, before, step⟩ := starts.of_ready
  obtain ⟨k', ran, noted⟩ := dropPrivileges_run b c.verbosity k₀
  rw [Stage.step, Sys.run_bind_pure, ran] at step
  rcases h : b.dropPermanently.run.run (k₀.record (.window .drop)) with ⟨e | ⟨⟩, k₂⟩ <;>
    rw [h] at step noted
  · cases step
  · cases step
    exact ⟨m, i, q, endpoint, k₀, k₂, before, h, noted, rfl⟩

end Starts

def events (c : Config) (k : Kernel) : History := k.since ((run c).run.run k).2

namespace Starts

variable {n : Nat} {s : Stage} {k k₁ k₂ : Kernel}

end Starts

example :
    let c : Config :=
      { target := "10.0.0.9", interface := some "eth0", modes := { quiet := true }
        source := some "10.0.0.1", count := 1, discovery := [.ioctl] }
    let eth0 : InterfaceEntry :=
      { InterfaceEntry.blank with name := some [101, 116, 104, 48], index := 2, flags := 0x43 }
    let k : Kernel := { interfaces := [eth0], faults := fun | .capset => [0, 1] | _ => [] }
    (events c k).guarded =
      [.window .acquire, .call .packetSocket none, .window .release, .window .acquire,
        .call (.bindToDevice "eth0") none, .window .release, .window .drop] := by
  decide +kernel

end Probe

end ArpProbe

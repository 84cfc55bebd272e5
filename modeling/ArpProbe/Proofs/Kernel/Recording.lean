import ArpProbe.Proofs.Kernel.Aside

/-! What a program adds to the record of its kernel: only events of some kind, for programs made of
calls of that kind. -/

namespace ArpProbe

namespace Kernel

def Adds (P : Event → Prop) (k k' : Kernel) : Prop :=
  ∃ g, k'.events = k.events ++ g ∧ ∀ e ∈ g, P e

namespace Adds

variable {P Q : Event → Prop} {k k' : Kernel}

theorem chains (P : Event → Prop) : Chains (Adds P) where
  refl k := ⟨[], (List.append_nil _).symm, by simp⟩
  trans := by
    rintro a b c ⟨h, eh, all⟩ ⟨g, eg, all'⟩
    refine ⟨h ++ g, by rw [eg, eh, List.append_assoc], fun e he => ?_⟩
    exact (List.mem_append.mp he).elim (all e) (all' e)

theorem mono (h : Adds P k k') (weaker : ∀ e, P e → Q e) : Adds Q k k' := by
  obtain ⟨g, recorded, all⟩ := h
  exact ⟨g, recorded, fun e he => weaker e (all e he)⟩

theorem still (same : k'.events = k.events) : Adds P k k' :=
  ⟨[], by rw [same, List.append_nil], by simp⟩

theorem record {e : Event} (he : P e) : Adds P k (k.record e) := ⟨[e], rfl, by simpa using he⟩

end Adds

theorem SameButText.adds {P : Event → Prop} {k k' : Kernel} (h : SameButText k k') :
    Adds P k k' := .still h.events

theorem events_takeFault (k : Kernel) (kind : CallKind) :
    (k.takeFault kind).2.events = k.events := by
  obtain ⟨faults, left⟩ := Sys.takeFault_leaves k kind
  rw [left]

theorem events_scripted (k : Kernel) (c : Call) : (k.scripted c).2.events = k.events := by
  obtain ⟨faults, left⟩ := Sys.scripted_leaves k c
  rw [left]

end Kernel

open Kernel (Adds)

theorem Chains.first {R : Kernel → Kernel → Prop} (hR : Chains R) {ε β : Type} {c : Prop}
    [Decidable c] {x : ExceptT ε Sys Unit} {f : Unit → ExceptT ε Sys β}
    (hx : Sys.Within R x.run) (hf : ∀ u, Sys.Within R (f u).run) :
    Sys.Within R (if c then x >>= f else f ()).run := by
  split
  · exact hR.bind_except hx hf
  · exact hf ()

namespace Sys

variable {P : Event → Prop} {ε α β : Type}

theorem run_record (e : Event) (k : Kernel) : (record e).run k = ((), k.record e) := rfl

theorem run_bind_pure (x : ExceptT ε Sys α) (f : α → β) (k : Kernel) :
    (x >>= fun a => pure (f a)).run.run k = ((x.run.run k).1.map f, (x.run.run k).2) := by
  rw [run_except_bind]
  rcases x.run.run k with ⟨_ | _, k'⟩ <;> rfl

theorem call_adds {c : Call} {model : Kernel → Except Errno (α × Kernel)}
    (keeps : ∀ k a k', model k = .ok (a, k') → k'.events = k.events) (k : Kernel) :
    ∃ failure, ((call c model).run.run k).2.events = k.events ++ [.call c failure] := by
  have fault := k.events_scripted c
  change ∃ failure, (call c model k).2.events = _
  unfold call
  rcases h : k.scripted c with ⟨_ | e, k₁⟩ <;> rw [h] at fault <;> rw [← fault]
  · cases hm : model k₁ with
    | error e => exact ⟨some e, by simp only [ExceptT.mk, h, hm]; rfl⟩
    | ok r =>
      refine ⟨none, ?_⟩
      simp only [ExceptT.mk, h, hm]
      rw [← keeps k₁ r.1 r.2 hm]
      rfl
  · exact ⟨some e, by simp only [ExceptT.mk, h]; rfl⟩

theorem query_adds (c : Call) (model : Kernel → Except Errno α) (k : Kernel) :
    ∃ failure, ((query c model).run.run k).2.events = k.events ++ [.call c failure] := by
  refine call_adds (fun k a k' h => ?_) k
  cases hm : model k with
  | error e => rw [hm] at h; cases h
  | ok a => rw [hm] at h; cases h; rfl

theorem within_adds {x : Sys α} {c : Call}
    (h : ∀ k, ∃ failure, (x.run k).2.events = k.events ++ [.call c failure])
    (all : ∀ failure, P (.call c failure)) : Within (Adds P) x := by
  intro k
  obtain ⟨failure, recorded⟩ := h k
  exact ⟨[.call c failure], recorded, by simpa using all failure⟩

theorem within_query_adds {c : Call} (all : ∀ failure, P (.call c failure))
    (model : Kernel → Except Errno α) : Within (Adds P) (query c model).run :=
  within_adds (query_adds c model) all

theorem within_debug_adds (v : Verbosity) (detail : Detail) (topic : Topic) (message : String) :
    Within (Adds P) (debug v detail topic message) :=
  fun k => (within_debug v detail topic message k).adds

theorem within_print_adds (c : Channel) (text : String) : Within (Adds P) (print c text) :=
  fun k => (within_print c text k).adds

end Sys

end ArpProbe

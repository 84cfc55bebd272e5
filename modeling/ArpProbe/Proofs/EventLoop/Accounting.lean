import ArpProbe.Proofs.EventLoop.Onward
import ArpProbe.Proofs.Prober.Account

/-! What holds between the states before and after every single step holds between those before and
after whole runs. So a run keeps the account of its prober, as long as that does not get stuck. -/

namespace ArpProbe

/-- A relation between two states of a run that follows from one step to the next. -/
structure Continues (R : Prober → Kernel → Prober → Kernel → Prop) : Prop where
  refl : ∀ p k, R p k p k
  trans : ∀ {p k p' k' p'' k''}, R p k p' k' → R p' k' p'' k'' → R p k p'' k''

namespace Continues

variable {R : Prober → Kernel → Prober → Kernel → Prop} {v : Verbosity} (hR : Continues R)
  (step : ∀ s p k, R p k ((Step.take v p s).run k).1.1 ((Step.take v p s).run k).2)
include hR step

theorem walk (steps : List Step) (p : Prober) (k : Kernel) :
    R p k ((EventLoop.walk v p steps).run k).1.1 ((EventLoop.walk v p steps).run k).2 := by
  induction steps generalizing p k with
  | nil => exact hR.refl p k
  | cons s rest ih =>
    rw [EventLoop.walk_cons]
    exact hR.trans (step s p k) (ih _ _)

theorem untilFinal (steps : List Step) (p : Prober) (k : Kernel) :
    R p k ((EventLoop.untilFinal v p steps).run k).1.1
      ((EventLoop.untilFinal v p steps).run k).2 := by
  induction steps generalizing p k with
  | nil => exact hR.refl p k
  | cons s rest ih =>
    have first := step s p k
    rw [EventLoop.untilFinal, Sys.run_bind]
    rcases h : (s.take v p).run k with ⟨⟨p₁, _ | _⟩, k₁⟩ <;> rw [h] at first
    · exact hR.trans first (ih p₁ k₁)
    · exact first

end Continues

namespace Account

variable {modes : Modes} {me : Octets} {q : Query} {h g : History} {p p' : Prober}

theorem expire (a : Account modes me q h p) (expirations : UInt64) :
    Account modes me q h { p with session := (p.session.expire expirations).1 } :=
  ⟨a.sameModes, a.sameMe, a.sameQuery, a.sent, a.broadcastSent, a.received, a.unicasting, a.netDown⟩

theorem move (a : Account modes me q h p) (m : p.Move g p') (going : p'.stuck = false) :
    Account modes me q (h ++ g) p' := by
  cases m with
  | @waited c waits failure =>
    refine a.idle ?_
    cases c with
    | poll | readSignal | readTimer => rfl
    | _ => cases waits
  | unsent encoded e => exact a.idle rfl
  | @sent octets encoded now n =>
    have called := a.idle (e := .call (.send p.index p.session.endpoint.he octets) none) rfl
    simpa using called.send now octets n
  | expired expirations => simpa using a.expire expirations
  | unreceived e => exact a.failure e
  | received now packet link =>
    have called := a.idle (e := .call .receive none) rfl
    simpa using called.receive now packet link
  | lost | clockless | unencodable => cases going

theorem moves (a : Account modes me q h p) (m : p.Moves g p') (going : p'.stuck = false) :
    Account modes me q (h ++ g) p' := by
  induction m with
  | none => simpa using a
  | more before still move ih =>
    rw [← List.append_assoc]
    rcases move.stuck with same | stuck
    · exact (ih (same.symm.trans going)).move move going
    · rw [going] at stuck
      cases stuck

end Account

/-- The kernel's history went on, and unless the prober got stuck its account went along. -/
def Accounted (p : Prober) (k : Kernel) (p' : Prober) (k' : Kernel) : Prop :=
  ∃ g, k'.events = k.events ++ g ∧ (p'.stuck = false → p.stuck = false ∧
    ∀ modes me q h, Account modes me q h p → Account modes me q (h ++ g) p')

namespace Accounted

theorem continues : Continues Accounted where
  refl p k := ⟨[], by simp, fun going => ⟨going, by simp⟩⟩
  trans := by
    rintro p k p' k' p'' k'' ⟨g, eg, first⟩ ⟨g', eg', second⟩
    refine ⟨g ++ g', by rw [eg', eg, List.append_assoc], fun going => ?_⟩
    obtain ⟨going', second⟩ := second going
    obtain ⟨going'', first⟩ := first going'
    refine ⟨going'', fun modes me q h a => ?_⟩
    rw [← List.append_assoc]
    exact second modes me q _ (first modes me q h a)

theorem account {p p' : Prober} {k k' : Kernel} {modes : Modes} {me : Octets} {q : Query}
    (h : Accounted p k p' k') (a : Account modes me q [] p) (going : p'.stuck = false) :
    Account modes me q (k.since k') p' := by
  obtain ⟨g, eg, along⟩ := h
  rw [Kernel.since_of_append eg]
  exact (along going).2 modes me q [] a

theorem of_leads {p p' : Prober} {k k' : Kernel} (l : p.Leads k p' k') : Accounted p k p' k' := by
  obtain ⟨g, recorded, moves⟩ := l
  refine ⟨g, recorded, fun going => ⟨?_, fun modes me q h a => a.moves moves going⟩⟩
  cases was : p.stuck with
  | true => rw [moves.stuck was] at going; cases going
  | false => rfl

theorem take (v : Verbosity) (s : Step) (p : Prober) (k : Kernel) :
    Accounted p k ((s.take v p).run k).1.1 ((s.take v p).run k).2 := of_leads (p.take_leads v k s)

theorem probe (v : Verbosity) (p : Prober) (k : Kernel) :
    Accounted p k ((EventLoop.probe v p).run k).1 ((EventLoop.probe v p).run k).2 := by
  rw [EventLoop.probe_run]
  exact continues.untilFinal (take v) _ p k

end Accounted

end ArpProbe

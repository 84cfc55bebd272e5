import ArpProbe.EventLoop
import ArpProbe.Proofs.Kernel.Streams

/-! Programs that leave the link alone: those that only write text change nothing but text, and
what most calls add to the record is neither a frame sent nor a frame received. -/

namespace ArpProbe

namespace Kernel

/-- The kernels differ at most in what was written and in what the streams have in store. -/
def SameButText (k k' : Kernel) : Prop :=
  ∃ output streams laterStreams, k' = { k with output, streams, laterStreams }

namespace SameButText

theorem chains : Chains SameButText where
  refl k := ⟨k.output, k.streams, k.laterStreams, rfl⟩
  trans := by
    rintro _ _ _ ⟨_, _, _, rfl⟩ ⟨o, s, l, rfl⟩
    exact ⟨o, s, l, rfl⟩

theorem events {k k' : Kernel} (h : SameButText k k') : k'.events = k.events := by
  obtain ⟨_, _, _, rfl⟩ := h
  rfl

theorem wakes {k k' : Kernel} (h : SameButText k k') : k'.wakes = k.wakes := by
  obtain ⟨_, _, _, rfl⟩ := h
  rfl

end SameButText

theorem sameButText_takeStreams (k : Kernel) : SameButText k k.takeStreams.2 := by
  unfold takeStreams
  split
  · exact SameButText.chains.refl k
  · exact ⟨_, _, _, rfl⟩

theorem sameButText_write (k : Kernel) (c : Channel) (text : String) :
    SameButText k (k.write c text) := ⟨_, k.streams, k.laterStreams, rfl⟩

end Kernel

open Kernel (SameButText)

namespace Sys

theorem within_print (c : Channel) (text : String) : Within SameButText (print c text) :=
  fun k => k.sameButText_write c text

theorem within_debug (v : Verbosity) (detail : Detail) (topic : Topic) (message : String) :
    Within SameButText (debug v detail topic message) :=
  SameButText.chains.debug (fun k text => k.sameButText_write .log text) v detail topic message

theorem within_writeReports (texts : List String) : Within SameButText (writeReports texts).run :=
  SameButText.chains.writeReports Kernel.sameButText_takeStreams
    fun text _ k => k.sameButText_write .report text

theorem within_tell (v : Verbosity) (n : Note) : Within SameButText (tell v n) :=
  SameButText.chains.tell Kernel.sameButText_takeStreams
    (fun k c text _ => k.sameButText_write c text) v

theorem within_tellAll (v : Verbosity) (notes : List Note) :
    Within SameButText (notes.forM (tell v)) :=
  SameButText.chains.tellAll Kernel.sameButText_takeStreams
    (fun k c text _ => k.sameButText_write c text) v

end Sys

theorem Prober.within_finish (p : Prober) : Sys.Within SameButText p.finish.run := by
  unfold Prober.finish
  split
  · exact SameButText.chains.bind_except (Sys.within_writeReports _) fun _ =>
      SameButText.chains.pure _
  · exact SameButText.chains.pure _

def Event.touchesLink : Event → Bool
  | .call (.send _ _ _) _ | .call .receive _ | .written _ _ | .taken _ _ => true
  | _ => false

namespace Kernel

/-- From one kernel to the other nothing was sent or received, and what is to come is the same. -/
structure OffLink (k k' : Kernel) : Prop where
  wakes : k'.wakes = k.wakes
  events : ∃ h, k'.events = k.events ++ h ∧ ∀ e ∈ h, e.touchesLink = false

namespace OffLink

theorem chains : Chains OffLink where
  refl k := ⟨rfl, [], (List.append_nil _).symm, by simp⟩
  trans := by
    rintro a b c ⟨hab, h, eh, qh⟩ ⟨hbc, g, eg, qg⟩
    refine ⟨hbc.trans hab, h ++ g, by rw [eg, eh, List.append_assoc], ?_⟩
    intro e he
    exact (List.mem_append.mp he).elim (qh e) (qg e)

theorem record {k : Kernel} {e : Event} (he : e.touchesLink = false) : OffLink k (k.record e) :=
  ⟨rfl, [e], rfl, by simpa using he⟩

end OffLink

theorem SameButText.offLink {k k' : Kernel} (h : SameButText k k') : OffLink k k' :=
  ⟨h.wakes, [], by rw [h.events, List.append_nil], by simp⟩

theorem offLink_takeFault (k : Kernel) (kind : CallKind) : OffLink k (k.takeFault kind).2 := by
  unfold takeFault
  split
  · exact OffLink.chains.refl k
  · exact ⟨rfl, [], (List.append_nil _).symm, by simp⟩

theorem offLink_scripted (k : Kernel) (c : Call) : OffLink k (k.scripted c).2 := by
  unfold scripted
  split
  · exact k.offLink_takeFault _
  · exact OffLink.chains.refl k

end Kernel

open Kernel (OffLink)

namespace Sys

theorem within_query {α : Type} {c : Call} (hc : ∀ f, (Event.call c f).touchesLink = false)
    (model : Kernel → Except Errno α) : Within OffLink (query c model).run :=
  OffLink.chains.query (fun k => k.offLink_scripted c) (fun _ f => .record (hc f)) model

theorem within_clock : Within OffLink clock.run := by
  intro k
  have fault := k.offLink_takeFault .clock
  rw [run_clock]
  rcases h : k.takeFault .clock with ⟨_ | e, k₁⟩ <;> simpa only [h] using fault

end Sys

theorem SignalChannel.within_route (signals : List Int) :
    Sys.Within OffLink (SignalChannel.route signals).run := by
  unfold SignalChannel.route
  split
  · exact OffLink.chains.throw _
  · exact OffLink.chains.bind_except (Sys.within_query (fun _ => rfl) _) fun _ =>
      Sys.within_query (fun _ => rfl) _

theorem Timer.within_start (interval : Duration) (v : Verbosity) :
    Sys.Within OffLink (Timer.start interval v).run := by
  refine OffLink.chains.bind_except (Sys.within_query (fun _ => rfl) _) fun _ => ?_
  refine OffLink.chains.bind_except Sys.within_clock fun now => ?_
  refine OffLink.chains.bind_except (Sys.within_query (fun _ => rfl) _) fun _ => ?_
  exact Sys.Within.lift _ fun k => (Sys.within_debug _ _ _ _ k).offLink

theorem EventLoop.within_arm (v : Verbosity) (interval : Duration) :
    Sys.Within OffLink (EventLoop.arm v interval).run :=
  OffLink.chains.bind_except ((SignalChannel.within_route _).adapt _)
    fun _ => (Timer.within_start interval v).adapt _

namespace Kernel

section Courses

variable {α : Type}

/-- What was done in order, each thing on the kernel that was left by those before it, with nothing
but text in between. -/
inductive Course (does : α → Kernel → Kernel → Prop) : List α → Kernel → Kernel → Prop
  | done {k k' : Kernel} (text : SameButText k k') : Course does [] k k'
  | next {a : α} {as : List α} {k k₁ k₂ k' : Kernel} (text : SameButText k k₁)
    (did : does a k₁ k₂) (rest : Course does as k₂ k') : Course does (a :: as) k k'

namespace Course

variable {does : α → Kernel → Kernel → Prop} {a : α} {as : List α} {k k' k'' : Kernel}

theorem cons (did : does a k k') (rest : Course does as k' k'') : Course does (a :: as) k k'' :=
  next (SameButText.chains.refl k) did rest

theorem after (text : SameButText k k') (course : Course does as k' k'') :
    Course does as k k'' := by
  cases course with
  | done text' => exact done (SameButText.chains.trans text text')
  | next text' did rest => exact next (SameButText.chains.trans text text') did rest

end Course

end Courses

end Kernel

end ArpProbe

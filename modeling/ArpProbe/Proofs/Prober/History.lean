import ArpProbe.Kernel.Basic
import ArpProbe.Proofs.Tally

/-! What a probe sent and received, read off the events of its kernel: complete writes, answers to
a query, and receptions that failed because the network was down. -/

namespace ArpProbe

namespace Event

def isProbe : Event → Bool
  | written frame length => length = frame.length
  | _ => false

def isReception : Event → Bool
  | taken _ _ => true
  | _ => false

def isAnswer (me : Octets) (q : Query) : Event → Bool
  | taken packet link => (Frame.parse packet link me q).isOk
  | _ => false

def isNetworkDown : Event → Bool
  | call .receive (some e) => e = Errno.networkDown
  | _ => false

def isIdle (me : Octets) (q : Query) (e : Event) : Bool :=
  !e.isProbe && !e.isAnswer me q && !e.isNetworkDown

end Event

abbrev History := List Event

def Kernel.since (k k' : Kernel) : History := k'.events.drop k.events.length

theorem Kernel.since_of_append {k k' : Kernel} {g : History} (h : k'.events = k.events ++ g) :
    k.since k' = g := by rw [since, h, List.drop_left]

theorem Kernel.since_trans {k k' k'' : Kernel} {g g' : History} (h : k'.events = k.events ++ g)
    (h' : k''.events = k'.events ++ g') : k.since k'' = k.since k' ++ k'.since k'' := by
  rw [since_of_append h, since_of_append h']
  exact since_of_append (by rw [h', h, List.append_assoc])

namespace History

def probes (h : History) : Nat := h.countP Event.isProbe

def answers (me : Octets) (q : Query) (h : History) : Nat := h.countP (Event.isAnswer me q)

def receptions (h : History) : Nat := h.countP Event.isReception

def networkDown (h : History) : Bool := h.any Event.isNetworkDown

def unanswered (me : Octets) (q : Query) (h : History) : History :=
  h.takeWhile fun e => !e.isAnswer me q

/-- The probes that went to the broadcast address: all of them if it is never left, else those
before the first answer. -/
def broadcasts (broadcastOnly : Bool) (me : Octets) (q : Query) (h : History) : Nat :=
  if broadcastOnly then probes h else probes (h.unanswered me q)

variable (me : Octets) (q : Query) (h : History) (e : Event)

theorem probes_append (g : History) : probes (h ++ g) = probes h + probes g := List.countP_append

theorem probes_pos_iff : 0 < probes h ↔ h.any Event.isProbe = true := by
  rw [probes, List.countP_pos_iff, List.any_eq_true]

theorem probes_eq_zero_iff : probes h = 0 ↔ h.any Event.isProbe = false := by
  rw [probes, List.countP_eq_zero, List.any_eq_false]

theorem answers_append (g : History) : answers me q (h ++ g) = answers me q h + answers me q g :=
  List.countP_append

theorem receptions_append (g : History) :
    receptions (h ++ g) = receptions h + receptions g := List.countP_append

theorem answers_le_receptions : answers me q h ≤ receptions h := by
  refine List.countP_mono_left fun e _ answer => ?_
  cases e with
  | taken packet link => rfl
  | _ => cases answer

theorem networkDown_append (g : History) :
    networkDown (h ++ g) = (networkDown h || networkDown g) := List.any_append

theorem probes_singleton : probes [e] = if e.isProbe then 1 else 0 := List.countP_singleton

theorem answers_singleton : answers me q [e] = if e.isAnswer me q then 1 else 0 :=
  List.countP_singleton

theorem networkDown_singleton : networkDown [e] = e.isNetworkDown := by simp [networkDown]

theorem isProbe_of_isAnswer (answer : e.isAnswer me q = true) : e.isProbe = false := by
  cases e with
  | taken packet link => rfl
  | call | written | window | asked => cases answer

theorem broadcasts_of_none (broadcastOnly : Bool) (none : answers me q h = 0) :
    broadcasts broadcastOnly me q h = probes h := by
  have before : probes (unanswered me q h) = probes h := Tally.before_of_none h none
  rw [broadcasts, before, ite_self]

theorem broadcasts_append (broadcastOnly : Bool) :
    broadcasts broadcastOnly me q (h ++ [e]) =
      broadcasts broadcastOnly me q h +
        if !broadcastOnly && 0 < answers me q h then 0 else probes [e] := by
  cases broadcastOnly with
  | true => exact probes_append h [e]
  | false =>
    simp only [Bool.not_false, Bool.true_and, decide_eq_true_eq]
    exact Tally.before_concat h e fun e => isProbe_of_isAnswer me q e

theorem broadcasts_le_probes (broadcastOnly : Bool) :
    broadcasts broadcastOnly me q h ≤ probes h := by
  unfold broadcasts
  split
  · exact Nat.le_refl _
  · exact Tally.before_le h

variable {e}

theorem probes_append_of (he : e.isProbe = false) : probes (h ++ [e]) = probes h := by
  rw [probes_append, probes_singleton, he]
  rfl

theorem broadcasts_append_of (broadcastOnly : Bool) (he : e.isProbe = false) :
    broadcasts broadcastOnly me q (h ++ [e]) = broadcasts broadcastOnly me q h := by
  rw [broadcasts_append, probes_singleton, he]
  simp

theorem answers_append_of (he : e.isAnswer me q = false) :
    answers me q (h ++ [e]) = answers me q h := by
  rw [answers_append, answers_singleton, he]
  rfl

theorem networkDown_append_of (he : e.isNetworkDown = false) :
    networkDown (h ++ [e]) = networkDown h := by
  rw [networkDown_append, networkDown_singleton, he, Bool.or_false]

end History

end ArpProbe

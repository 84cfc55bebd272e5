import ArpProbe.Prober
import ArpProbe.Proofs.Kernel.Running

/-! Text on its way out. A relation between kernels is kept by all that is told if it is kept when
an operation on a stream takes its faults, and when a text is written that may be written. -/

namespace ArpProbe

def Note.reportText? : Note → Option String
  | report line _ _ => some (line ++ "\n")
  | _ => none

namespace Chains

variable {R : Kernel → Kernel → Prop} (hR : Chains R)
include hR

theorem debug (written : ∀ k text, R k (k.write .log text)) (v : Verbosity) (detail : Detail)
    (topic : Topic) (message : String) : Sys.Within R (Sys.debug v detail topic message) := by
  unfold Sys.debug Sys.logLine
  split
  · exact hR.bind hR.refl fun _ k => written k _
  · exact hR.pure ()

variable (taken : ∀ k, R k k.takeStreams.2)
include taken

theorem onStream (pick : StreamFaults → Option Errno) {act : Sys Unit} (h : Sys.Within R act) :
    Sys.Within R (Sys.onStream pick act).run := by
  intro k
  change R k (Sys.onStream pick act k).2
  unfold Sys.onStream
  cases met : pick k.takeStreams.1 with
  | some e =>
    simp only [ExceptT.mk, met]
    exact taken k
  | none =>
    simp only [ExceptT.mk, met]
    exact hR.trans (taken k) (h k.takeStreams.2)

theorem writeReports {texts : List String}
    (written : ∀ text ∈ texts, ∀ k, R k (k.write .report text)) :
    Sys.Within R (Sys.writeReports texts).run := by
  refine hR.bind_except ?_ fun _ => hR.onStream taken _ (hR.pure ())
  induction texts with
  | nil => exact hR.pure _
  | cons text rest ih =>
    obtain ⟨first, later⟩ := List.forall_mem_cons.mp written
    exact hR.bind_except (hR.onStream taken _ first) fun _ => ih later

theorem tell {n : Note}
    (written : ∀ k c text, (c = .report → n.reportText? = some text) → R k (k.write c text))
    (v : Verbosity) : Sys.Within R (Sys.tell v n) := by
  have log (k : Kernel) (text : String) : R k (k.write .log text) := written k .log text nofun
  cases n with
  | report line flush topic =>
    have own (k : Kernel) : R k (k.write .report (line ++ "\n")) := written k _ _ fun _ => rfl
    refine hR.bind ?_ fun r => ?_
    · cases flush
      · exact hR.onStream taken _ own
      · exact hR.writeReports taken fun text only => List.mem_singleton.mp only ▸ own
    · -- A stream that failed is at most worth a line of the log.
      cases r with
      | ok => exact hR.pure ()
      | error cause => exact hR.debug log v _ _ _
  | failure topic message =>
    refine hR.bind (hR.onStream taken _ fun k => written k .diagnostic _ nofun) fun r => ?_
    cases r with
    | ok => exact hR.pure ()
    | error cause => exact hR.debug log v _ _ _
  | detail detail topic message => exact hR.debug log v _ _ _

theorem tellAll {notes : List Note}
    (written : ∀ k c text, (c = .report → ∃ n ∈ notes, n.reportText? = some text) →
      R k (k.write c text))
    (v : Verbosity) : Sys.Within R (notes.forM (Sys.tell v)) := by
  induction notes with
  | nil => exact hR.pure ()
  | cons n rest ih =>
    refine hR.bind (hR.tell taken (fun k c text allowed => ?_) v) fun _ =>
      ih fun k c text allowed => ?_
    · exact written k c text fun report => ⟨n, List.mem_cons_self, allowed report⟩
    · refine written k c text fun report => ?_
      obtain ⟨n', later, own⟩ := allowed report
      exact ⟨n', List.mem_cons_of_mem n later, own⟩

end Chains

end ArpProbe

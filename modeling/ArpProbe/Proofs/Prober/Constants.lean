import ArpProbe.Proofs.Prober.Account
import ArpProbe.Proofs.Prober.Moves

/-! What nothing changes that happens to a prober: the task that it was given. -/

namespace ArpProbe.Prober

structure Task where
  me : Octets
  query : Query
  modes : Modes
  count : Int

def task (p : Prober) : Task :=
  ⟨p.session.endpoint.me, p.query, p.session.modes, p.session.count⟩

variable {p p' : Prober} {g : History}

theorem Move.sameTask (m : p.Move g p') : p'.task = p.task := by
  cases m with
  | sent encoded now n =>
    rw [afterSend]
    split <;> rfl
  | received now packet link =>
    rw [afterReceive]
    split
    · rfl
    · simp [task, Session.accept]
  | waited | unsent | expired | unreceived | lost | clockless | unencodable => rfl

namespace Moves

theorem sameTask (m : p.Moves g p') : p'.task = p.task := m.same Move.sameTask

theorem sameMe (m : p.Moves g p') : p'.session.endpoint.me = p.session.endpoint.me :=
  congrArg Task.me m.sameTask

theorem sameQuery (m : p.Moves g p') : p'.query = p.query := congrArg Task.query m.sameTask

theorem sameModes (m : p.Moves g p') : p'.session.modes = p.session.modes :=
  congrArg Task.modes m.sameTask

theorem sameCount (m : p.Moves g p') : p'.session.count = p.session.count :=
  congrArg Task.count m.sameTask

end Moves

end ArpProbe.Prober

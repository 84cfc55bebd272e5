import ArpProbe.Frame.Basic

/-! Conditions on a packet in the order in which they are looked at, each with the reason to ignore
a packet that does not meet it, and searches for the first that fails. -/

namespace ArpProbe

abbrev Condition := Prop × Reject

/-- All conditions before one with the reason hold, and that one does not. -/
def FirstFails (cs : List Condition) (r : Reject) : Prop :=
  ∃ before p after, cs = before ++ (p, r) :: after ∧ (∀ c ∈ before, c.1) ∧ ¬ p

def Finds (cs : List Condition) : Option Reject → Prop
  | none => ∀ c ∈ cs, c.1
  | some r => FirstFails cs r

theorem firstFails_cons (p : Prop) (r r' : Reject) (cs : List Condition) :
    FirstFails ((p, r') :: cs) r ↔ ¬ p ∧ r = r' ∨ p ∧ FirstFails cs r := by
  constructor
  · rintro ⟨_ | ⟨c, before⟩, p', after, h, holds, fails⟩
    · cases h
      exact .inl ⟨fails, rfl⟩
    · cases h
      exact .inr ⟨holds _ List.mem_cons_self,
        before, p', after, rfl, fun c hc => holds c (List.mem_cons_of_mem _ hc), fails⟩
  · rintro (⟨fails, rfl⟩ | ⟨hp, before, p', after, rfl, holds, fails⟩)
    · exact ⟨[], p, cs, rfl, by simp, fails⟩
    · exact ⟨(p, r') :: before, p', after, rfl, by simpa using ⟨hp, fun a b => holds (a, b)⟩, fails⟩

theorem firstFails_unique {cs : List Condition} {r r' : Reject} (h : FirstFails cs r)
    (h' : FirstFails cs r') : r = r' := by
  induction cs with
  | nil =>
    obtain ⟨before, _, _, nil, _⟩ := h
    simp at nil
  | cons c cs ih =>
    rw [firstFails_cons] at h h'
    rcases h with ⟨fails, rfl⟩ | ⟨holds, h⟩
    · rcases h' with ⟨_, rfl⟩ | ⟨holds, _⟩
      · rfl
      · exact absurd holds fails
    · rcases h' with ⟨fails, _⟩ | ⟨_, h'⟩
      · exact absurd holds fails
      · exact ih h h'

theorem FirstFails.not_all {cs : List Condition} {r : Reject} (h : FirstFails cs r) :
    ¬ ∀ c ∈ cs, c.1 := by
  obtain ⟨before, p, after, rfl, _, fails⟩ := h
  exact fun all => fails (all (p, r) (by simp))

namespace Finds

variable {cs ds : List Condition} {o : Option Reject} {p : Prop} {r : Reject}

theorem nil : Finds [] none := by simp [Finds]

theorem pass (hp : p) (h : Finds cs o) : Finds ((p, r) :: cs) o := by
  cases o with
  | none => exact List.forall_mem_cons.mpr ⟨hp, h⟩
  | some r' => exact (firstFails_cons p r' r cs).mpr (.inr ⟨hp, h⟩)

theorem stop (hp : ¬ p) : Finds ((p, r) :: cs) (some r) :=
  (firstFails_cons p r r cs).mpr (.inl ⟨hp, rfl⟩)

theorem check {b : Prop} [Decidable b] (hb : b ↔ ¬ p) (h : Finds cs o) :
    Finds ((p, r) :: cs) (if b then some r else o) := by
  split
  · next fails => exact stop (hb.mp fails)
  · next holds => exact pass (Classical.not_not.mp (mt hb.mpr holds)) h

theorem before (h : Finds cs (some r)) (ds : List Condition) : Finds (cs ++ ds) (some r) := by
  obtain ⟨first, p, after, rfl, holds, fails⟩ := h
  exact ⟨first, p, after ++ ds, by simp, holds, fails⟩

theorem after (h : Finds cs none) (h' : Finds ds o) : Finds (cs ++ ds) o := by
  induction cs with
  | nil => exact h'
  | cons c cs ih =>
    obtain ⟨hc, h⟩ := List.forall_mem_cons.mp h
    exact pass hc (ih h)

end Finds

end ArpProbe

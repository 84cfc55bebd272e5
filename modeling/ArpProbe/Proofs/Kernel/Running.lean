import ArpProbe.Kernel.Calls

/-! Running programs on a kernel: what sequences of them come to, with and without failures, and
what holds between the kernel before a program and the kernel after it. -/

namespace ArpProbe

theorem Kernel.takeFault_congr {k k' : Kernel} {kind : CallKind}
    (same : k.faults kind = k'.faults kind) : (k.takeFault kind).1 = (k'.takeFault kind).1 := by
  unfold takeFault
  rw [same]
  cases k'.faults kind <;> rfl

theorem Kernel.faults_takeFault (k : Kernel) {kind kind' : CallKind} (apart : kind' ≠ kind) :
    (k.takeFault kind).2.faults kind' = k.faults kind' := by
  unfold takeFault
  split
  · rfl
  · exact if_neg apart

theorem Kernel.takeFault_of_zeros (k : Kernel) {kind : CallKind}
    (zeros : ∀ errno ∈ k.faults kind, errno = 0) : (k.takeFault kind).1 = none := by
  unfold takeFault
  split
  · rfl
  · next errno rest script =>
    rw [script] at zeros
    exact if_pos (zeros errno List.mem_cons_self)

theorem Kernel.faults_takeFault_self (k : Kernel) (kind : CallKind) :
    (k.takeFault kind).2.faults kind = (k.faults kind).tail := by
  unfold takeFault
  split
  · next none => rw [none, List.tail_nil]
  · next e es more =>
    rw [more]
    exact if_pos rfl

theorem Kernel.interfaces_takeFault (k : Kernel) (kind : CallKind) :
    (k.takeFault kind).2.interfaces = k.interfaces := by
  unfold takeFault
  split <;> rfl

namespace Sys

variable {ε ε' α β : Type}

theorem run_bind (x : Sys α) (f : α → Sys β) (k : Kernel) :
    (x >>= f).run k = (f (x.run k).1).run (x.run k).2 := rfl

theorem run_except_bind (x : ExceptT ε Sys α) (f : α → ExceptT ε Sys β) (k : Kernel) :
    (x >>= f).run.run k =
      match x.run.run k with
      | (.ok a, k) => (f a).run.run k
      | (.error e, k) => (.error e, k) := by
  change (ExceptT.bindCont f (x.run.run k).1).run (x.run.run k).2 = _
  rcases x.run.run k with ⟨_ | _, k'⟩ <;> rfl

theorem run_adapt (f : ε → ε') (x : ExceptT ε Sys α) (k : Kernel) :
    (x.adapt f).run.run k = ((x.run.run k).1.mapError f, (x.run.run k).2) := rfl

theorem run_lift (x : Sys α) (k : Kernel) :
    (ExceptT.lift x : ExceptT ε Sys α).run.run k = (.ok (x.run k).1, (x.run k).2) := rfl

theorem takeFault_leaves (k : Kernel) (kind : CallKind) :
    ∃ faults, (k.takeFault kind).2 = { k with faults } := by
  unfold Kernel.takeFault
  split
  · exact ⟨k.faults, rfl⟩
  · exact ⟨_, rfl⟩

theorem run_query {α : Type} {c : Call} {kind : CallKind} (k : Kernel)
    (known : c.kind? = some kind) (fine : (k.takeFault kind).1 = none)
    {model : Kernel → Except Errno α} {a : α} (answer : model (k.takeFault kind).2 = .ok a) :
    (query c model).run.run k = (.ok a, (k.takeFault kind).2.record (.call c none)) := by
  have scripted : k.scripted c = (none, (k.takeFault kind).2) := by
    rw [Kernel.scripted, known]
    exact Prod.ext fine rfl
  change query c model k = _
  simp only [query, call, ExceptT.mk, scripted, answer, Except.map]

theorem scripted_leaves (k : Kernel) (c : Call) :
    ∃ faults, (k.scripted c).2 = { k with faults } := by
  unfold Kernel.scripted
  split
  · exact takeFault_leaves k _
  · exact ⟨k.faults, rfl⟩

theorem ok_of_bind {x : ExceptT ε Sys α} {f : α → ExceptT ε Sys β} {b : β} {k k' : Kernel}
    (done : (x >>= f).run.run k = (.ok b, k')) :
    ∃ a k₁, x.run.run k = (.ok a, k₁) ∧ (f a).run.run k₁ = (.ok b, k') := by
  rw [run_except_bind] at done
  rcases ran : x.run.run k with ⟨e | a, k₁⟩ <;> rw [ran] at done
  · cases done
  · exact ⟨a, k₁, rfl, done⟩

theorem ok_of_query {α : Type} {c : Call} {model : Kernel → Except Errno α} {k k' : Kernel} {a : α}
    (done : (query c model).run.run k = (.ok a, k')) :
    ∃ faults, k' = { k with faults }.record (.call c none) := by
  obtain ⟨faults, left⟩ := scripted_leaves k c
  refine ⟨faults, ?_⟩
  rw [← left]
  change query c model k = _ at done
  unfold query call at done
  rcases called : k.scripted c with ⟨_ | e, k₁⟩
  · cases answer : model k₁ with
    | error e =>
      simp only [ExceptT.mk, called, answer, Except.map] at done
      cases done
    | ok b =>
      simp only [ExceptT.mk, called, answer, Except.map] at done
      exact (Prod.mk.inj done).2.symm
  · simp only [ExceptT.mk, called] at done
    cases done

theorem query_answers {α : Type} (c : Call) (answer : Kernel → α) (k : Kernel) :
    ∃ faults, let k' := { k with faults }
      (∃ e, (query c fun k => .ok (answer k)).run.run k =
          (.error (.system e), k'.record (.call c (some e)))) ∨
        (query c fun k => .ok (answer k)).run.run k =
          (.ok (answer k'), k'.record (.call c none)) := by
  obtain ⟨faults, left⟩ := scripted_leaves k c
  refine ⟨faults, ?_⟩
  rw [← left]
  intro k'
  rcases called : k.scripted c with ⟨_ | e, k₁⟩
  · have same : k' = k₁ := congrArg Prod.snd called
    rw [same]
    refine .inr ?_
    change (query c fun k => .ok (answer k)) k = _
    simp only [query, call, ExceptT.mk, called, Except.map]
  · have same : k' = k₁ := congrArg Prod.snd called
    rw [same]
    refine .inl ⟨e, ?_⟩
    change (query c fun k => .ok (answer k)) k = _
    simp only [query, call, ExceptT.mk, called]

theorem run_clock (k : Kernel) :
    clock.run.run k =
      match k.takeFault .clock with
      | (some e, k) => (.error (.system e), k)
      | (none, k) => (.ok k.monotonic, k) := rfl

theorem ok_of_clock {now : Instant} {k k' : Kernel} (read : clock.run.run k = (.ok now, k')) :
    now = k.monotonic ∧ ∃ faults, k' = { k with faults } := by
  obtain ⟨faults, left⟩ := takeFault_leaves k .clock
  rw [run_clock] at read
  rcases fault : k.takeFault .clock with ⟨_ | e, k₁⟩ <;> rw [fault] at read left
  · cases read
    subst left
    exact ⟨rfl, faults, rfl⟩
  · cases read

theorem run_send (index : Int32) (destination frame : Octets) (k : Kernel) :
    (send index destination frame).run.run k =
      let c := Call.send index destination frame
      match (k.sends.headD .complete).written frame with
      | .ok n =>
        (.ok n, ({ k with sends := k.sends.tail }.record (.call c none)).record (.written frame n))
      | .error e =>
        (.error (.system e), { k with sends := k.sends.tail }.record (.call c (some e))) := rfl

theorem run_receive_frame (octets : Octets) (link : LinkInfo) (k : Kernel) :
    (receive (.frame octets link)).run.run k =
      (.ok (octets.take receiveCapacity, link),
        (k.record (.call .receive none)).record (.taken (octets.take receiveCapacity) link)) := rfl

/-- Whatever kernel the program starts on, `R` relates it to the kernel that the program leaves. -/
def Within (R : Kernel → Kernel → Prop) (x : Sys α) : Prop := ∀ k, R k (x.run k).2

end Sys

def Sys.RaisesOnly {ε α : Type} (meant : ε → Prop) (x : ExceptT ε Sys α) : Prop :=
  ∀ k e, (x.run.run k).1 = .error e → meant e

namespace Sys.RaisesOnly

variable {ε α β : Type}

theorem pure {meant : ε → Prop} (a : α) : RaisesOnly meant (pure a) := fun _ _ h => by cases h

theorem lift {meant : ε → Prop} (x : Sys α) : RaisesOnly meant (ExceptT.lift x) :=
  fun _ _ h => by cases h

theorem throw {meant : ε → Prop} {e : ε} (he : meant e) :
    RaisesOnly meant (throw e : ExceptT ε Sys α) := by
  rintro _ _ ⟨⟩
  exact he

theorem adapt {ε' : Type} {meant : ε' → Prop} {f : ε → ε'} (hf : ∀ e, meant (f e))
    (x : ExceptT ε Sys α) : RaisesOnly meant (x.adapt f) := by
  intro k e h
  rw [run_adapt] at h
  cases hx : (x.run.run k).1 with
  | error cause =>
    rw [hx] at h
    cases h
    exact hf cause
  | ok a =>
    rw [hx] at h
    cases h

theorem bind {meant : ε → Prop} {x : ExceptT ε Sys α} {f : α → ExceptT ε Sys β}
    (hx : RaisesOnly meant x) (hf : ∀ a, RaisesOnly meant (f a)) : RaisesOnly meant (x >>= f) := by
  intro k e h
  have raised := hx k e
  rw [run_except_bind] at h
  rcases hk : x.run.run k with ⟨e₁ | a, k₁⟩ <;> rw [hk] at h raised
  · cases h
    exact raised rfl
  · exact hf a k₁ e h

theorem first {meant : ε → Prop} {c : Prop} [Decidable c] {x : ExceptT ε Sys Unit}
    {f : Unit → ExceptT ε Sys β} (hx : RaisesOnly meant x)
    (hf : ∀ u, RaisesOnly meant (f u)) : RaisesOnly meant (if c then x >>= f else f ()) := by
  split
  · exact hx.bind hf
  · exact hf ()

end Sys.RaisesOnly

def Sys.Returns {α : Type} (good : α → Prop) (x : Sys α) : Prop := ∀ k, good (x.run k).1

namespace Sys.Returns

variable {ε α β : Type}

theorem pure {good : α → Prop} {a : α} (ha : good a) : Returns good (pure a : Sys α) := fun _ => ha

theorem bind {good : β → Prop} {met : α → Prop} {x : Sys α} {f : α → Sys β} (hx : Returns met x)
    (hf : ∀ a, met a → Returns good (f a)) : Returns good (x >>= f) :=
  fun k => hf _ (hx k) _

theorem bind_any {good : β → Prop} {x : Sys α} {f : α → Sys β} (hf : ∀ a, Returns good (f a)) :
    Returns good (x >>= f) := fun _ => hf _ _

theorem bind_except {good : Except ε β → Prop} {x : ExceptT ε Sys α} {f : α → ExceptT ε Sys β}
    (hx : RaisesOnly (fun e => good (.error e)) x) (hf : ∀ a, Returns good (f a).run) :
    Returns good (x >>= f).run := by
  intro k
  have raised := hx k
  rw [run_except_bind]
  rcases hk : x.run.run k with ⟨e | a, k'⟩ <;> rw [hk] at raised
  · exact raised e rfl
  · exact hf a k'

theorem raisesOnly {meant : ε → Prop} {x : Sys (Except ε α)}
    (h : Returns (fun r => ∀ e, r = .error e → meant e) x) : RaisesOnly meant (ExceptT.mk x) :=
  fun k e he => h k e he

theorem first {good : Except ε β → Prop} {c : Prop} [Decidable c] {x : ExceptT ε Sys Unit}
    {f : Unit → ExceptT ε Sys β} (hx : RaisesOnly (fun e => good (.error e)) x)
    (hf : ∀ u, Returns good (f u).run) : Returns good (if c then x >>= f else f ()).run := by
  split
  · exact bind_except hx hf
  · exact hf ()

end Sys.Returns

def Sys.Yields {ε α : Type} (good : α → Prop) (x : ExceptT ε Sys α) : Prop :=
  ∀ k a, (x.run.run k).1 = .ok a → good a

namespace Sys.Yields

variable {ε α β : Type}

theorem pure {good : α → Prop} {a : α} (ha : good a) :
    Yields good (pure a : ExceptT ε Sys α) := by
  rintro _ _ ⟨⟩
  exact ha

theorem throw {good : β → Prop} (e : ε) (f : α → ExceptT ε Sys β) :
    Yields good (throw e >>= f) := fun _ _ h => by cases h

theorem any (x : ExceptT ε Sys α) : Yields (fun _ => True) x := fun _ _ _ => trivial

theorem lift {good : α → Prop} {x : Sys α} (hx : Returns good x) :
    Yields good (ExceptT.lift x : ExceptT ε Sys α) := by
  rintro k a ⟨⟩
  exact hx k

theorem adapt {ε' : Type} {good : α → Prop} {x : ExceptT ε Sys α} (hx : Yields good x)
    (f : ε → ε') : Yields good (x.adapt f) := by
  intro k a h
  have value := hx k
  rw [run_adapt] at h
  cases hk : (x.run.run k).1 with
  | error e =>
    rw [hk] at h
    cases h
  | ok a' =>
    rw [hk] at h
    cases h
    exact value a hk

theorem bind {good : β → Prop} {met : α → Prop} {x : ExceptT ε Sys α} {f : α → ExceptT ε Sys β}
    (hx : Yields met x) (hf : ∀ a, met a → Yields good (f a)) : Yields good (x >>= f) := by
  intro k b h
  have value := hx k
  rw [run_except_bind] at h
  rcases hk : x.run.run k with ⟨e | a, k'⟩ <;> rw [hk] at h value
  · cases h
  · exact hf a (value a rfl) k' b h

theorem bind_any {good : β → Prop} {x : ExceptT ε Sys α} {f : α → ExceptT ε Sys β}
    (hf : ∀ a, Yields good (f a)) : Yields good (x >>= f) := bind (any x) fun a _ => hf a

theorem first {good : β → Prop} {c : Prop} [Decidable c] {x : ExceptT ε Sys Unit}
    {f : Unit → ExceptT ε Sys β} (hf : ∀ u, Yields good (f u)) :
    Yields good (if c then x >>= f else f ()) := by
  split
  · exact bind_any hf
  · exact hf ()

end Sys.Yields

/-- A relation that a sequence of programs keeps to if each of them does. -/
structure Chains (R : Kernel → Kernel → Prop) : Prop where
  refl : ∀ k, R k k
  trans : ∀ {a b c}, R a b → R b c → R a c

namespace Chains

variable {R : Kernel → Kernel → Prop} {ε ε' α β : Type}

theorem pure (hR : Chains R) (a : α) : Sys.Within R (pure a : Sys α) := fun k => hR.refl k

theorem bind (hR : Chains R) {x : Sys α} {f : α → Sys β} (hx : Sys.Within R x)
    (hf : ∀ a, Sys.Within R (f a)) : Sys.Within R (x >>= f) :=
  fun k => hR.trans (hx k) (hf _ _)

theorem throw (hR : Chains R) (e : ε) :
    Sys.Within R (throw e : ExceptT ε Sys α).run := fun k => hR.refl k

theorem bind_except (hR : Chains R) {x : ExceptT ε Sys α} {f : α → ExceptT ε Sys β}
    (hx : Sys.Within R x.run) (hf : ∀ a, Sys.Within R (f a).run) :
    Sys.Within R (x >>= f).run := by
  intro k
  have h := hx k
  rw [Sys.run_except_bind]
  rcases hk : x.run.run k with ⟨_ | a, k'⟩
  · simpa only [hk] using h
  · exact hR.trans (by simpa only [hk] using h) (hf a k')

theorem query (hR : Chains R) {c : Call} (scripted : ∀ k : Kernel, R k (k.scripted c).2)
    (recorded : ∀ (k : Kernel) failure, R k (k.record (.call c failure)))
    (model : Kernel → Except Errno α) : Sys.Within R (Sys.query c model).run := by
  intro k
  have found := scripted k
  change R k (Sys.query c model k).2
  unfold Sys.query Sys.call
  rcases h : k.scripted c with ⟨_ | e, k₁⟩ <;> rw [h] at found
  · cases hm : model k₁ with
    | error e => simpa only [ExceptT.mk, h, hm, Except.map] using hR.trans found (recorded k₁ _)
    | ok a => simpa only [ExceptT.mk, h, hm, Except.map] using hR.trans found (recorded k₁ _)
  · simpa only [ExceptT.mk, h] using hR.trans found (recorded k₁ _)

end Chains

theorem Sys.Within.adapt {R : Kernel → Kernel → Prop} {ε ε' α : Type} {x : ExceptT ε Sys α}
    (hx : Sys.Within R x.run) (f : ε → ε') : Sys.Within R (x.adapt f).run := fun k => hx k

theorem Sys.Within.lift {R : Kernel → Kernel → Prop} (ε : Type) {α : Type} {x : Sys α}
    (hx : Sys.Within R x) : Sys.Within R (ExceptT.lift x : ExceptT ε Sys α).run := fun k => hx k

end ArpProbe

import AgentWorkflow.Event

/-!
# Runs of whatever publishes

An operation that publishes takes a state to another one and says something on
the way. A **run** does one operation after the other; its events are those of
its operations, in order. `List.foldlM` is that run, and this module says what
a run owes to its operations: what every operation keeps the run keeps
(`Publishing.foldlM_preserves`), and what operations begin and end holds after
the run if one has begun it and none has ended it since
(`Publishing.foldlM_iff_of_step`, and `Publishing.foldlM_iff_of_step_of_kept`
where the one needs the other).

All of them speak of the operations where the run meets them. An operation often
keeps or begins something only at some states, and what is asked of it is asked
at exactly the states that the run has reached.
-/

namespace AgentWorkflow

namespace Publishing

variable {α β γ S O : Type}

@[ext] theorem ext {p q : Publishing α} (value : p.value = q.value)
    (events : p.events = q.events) : p = q := by
  cases p
  cases q
  cases value
  cases events
  rfl

instance : LawfulMonad Publishing := LawfulMonad.mk' Publishing
  (fun p => Publishing.ext rfl (List.append_nil p.events))
  (fun a next => Publishing.ext rfl (List.nil_append (next a).events))
  (fun p next after => Publishing.ext rfl
    (List.append_assoc p.events (next p.value).events (after (next p.value).value).events))

/-! ## What a run keeps -/

/-- **A run keeps what its operations keep**, if the guard holds wherever the
run carries out an operation. -/
theorem foldlM_preserves {f : S → O → Publishing S} {P : S → Prop} {guard : S → O → Prop}
    (step : ∀ s o, guard s o → P s → P (f s o).value) (ops : List O) (s : S)
    (guarded : ∀ u o v, ops = u ++ o :: v → guard (u.foldlM f s).value o) (hs : P s) :
    P (ops.foldlM f s).value := by
  induction ops generalizing s with
  | nil => exact hs
  | cons o ops ih =>
    rw [List.foldlM_cons, value_bind]
    refine ih (f s o).value (fun u x v h => ?_) (step s o (guarded [] o ops rfl) hs)
    have reached := guarded (o :: u) x v (by rw [h, List.cons_append])
    rwa [List.foldlM_cons, value_bind] at reached

/-- A run keeps what all operations in it keep. -/
theorem foldlM_preserves_of_mem {f : S → O → Publishing S} {P : S → Prop} {ops : List O}
    (step : ∀ o ∈ ops, ∀ s, P s → P (f s o).value) {s : S} (hs : P s) :
    P (ops.foldlM f s).value :=
  have step' : ∀ s o, o ∈ ops → P s → P (f s o).value := fun s o ho => step o ho s
  foldlM_preserves step' ops s (fun u _ _ h => h ▸ List.mem_append_right u List.mem_cons_self) hs

/-! ## What a run says -/

theorem value_foldlM_append (f : S → O → Publishing S) (s : S) (u v : List O) :
    ((u ++ v).foldlM f s).value = (v.foldlM f (u.foldlM f s).value).value := by
  rw [List.foldlM_append, value_bind]

theorem events_foldlM_append (f : S → O → Publishing S) (s : S) (u v : List O) :
    ((u ++ v).foldlM f s).events
      = (u.foldlM f s).events ++ (v.foldlM f (u.foldlM f s).value).events := by
  rw [List.foldlM_append, events_bind]

/-- **A run says only what its operations say**, each of them where the run meets it and
something holds that all of them keep. -/
theorem forall_mem_events_foldlM {f : S → O → Publishing S} {I : S → Prop} {P : Event → Prop}
    {ops : List O} (keeps : ∀ o ∈ ops, ∀ s, I s → I (f s o).value)
    (tells : ∀ o ∈ ops, ∀ s, I s → ∀ e ∈ (f s o).events, P e) {s : S} (hs : I s) :
    ∀ e ∈ (ops.foldlM f s).events, P e := by
  induction ops generalizing s with
  | nil => exact nofun
  | cons o ops ih =>
    intro e he
    rw [List.foldlM_cons, events_bind] at he
    rcases List.mem_append.mp he with first | later
    · exact tells o List.mem_cons_self s hs e first
    · exact ih (fun x hx => keeps x (List.mem_cons_of_mem o hx))
        (fun x hx => tells x (List.mem_cons_of_mem o hx)) (keeps o List.mem_cons_self s hs) e later

/-! ## What a run owes to one of its operations -/

theorem exists_operation_cons {P : List O → O → List O → Prop} {o : O} {ops : List O} :
    (∃ u x v, o :: ops = u ++ x :: v ∧ P u x v)
      ↔ P [] o ops ∨ ∃ u x v, ops = u ++ x :: v ∧ P (o :: u) x v := by
  constructor
  · rintro ⟨u, x, v, split, h⟩
    cases u with
    | nil =>
      obtain ⟨rfl, rfl⟩ := List.cons.inj split
      exact Or.inl h
    | cons y u =>
      obtain ⟨rfl, rfl⟩ := List.cons.inj split
      exact Or.inr ⟨u, x, v, rfl, h⟩
  · rintro (h | ⟨u, x, v, rfl, h⟩)
    · exact ⟨[], o, ops, rfl, h⟩
    · exact ⟨o :: u, x, v, rfl, h⟩

/-- **Nothing of a kind happens** in the course of a run: no operation is of the
kind where the run carries it out. -/
def Never (f : S → O → Publishing S) (kind : S → O → Prop) (s : S) (ops : List O) : Prop :=
  ¬∃ u o v, ops = u ++ o :: v ∧ kind (u.foldlM f s).value o

theorem never_nil (f : S → O → Publishing S) (kind : S → O → Prop) (s : S) :
    Never f kind s [] := by
  rintro ⟨u, o, v, split, -⟩
  exact List.cons_ne_nil o v (List.append_eq_nil_iff.mp split.symm).2

theorem never_cons {f : S → O → Publishing S} {kind : S → O → Prop} {s : S} {o : O}
    {ops : List O} :
    Never f kind s (o :: ops) ↔ ¬kind s o ∧ Never f kind (f s o).value ops := by
  unfold Never
  rw [exists_operation_cons (P := fun u o _ => kind (u.foldlM f s).value o), not_or]
  simp only [List.foldlM_cons, value_bind, List.foldlM_nil, value_pure]

/-- What does not depend on the state is a matter of the operations alone. -/
theorem never_iff_forall_mem {f : S → O → Publishing S} {kind : O → Prop} {s : S}
    {ops : List O} : Never f (fun _ o => kind o) s ops ↔ ∀ o ∈ ops, ¬kind o := by
  induction ops generalizing s with
  | nil => exact iff_of_true (never_nil f _ s) nofun
  | cons o ops ih => rw [never_cons, ih, List.forall_mem_cons]

/-- **What comes and goes holds after a run if it came last.** If an operation
makes something hold or leaves it alone unless it ends it, then after a run it
holds exactly if some operation made it hold and none ended it since, or if it
held before and none ended it at all. This is asked of the operations in the run,
and only where something holds that all of them keep. -/
theorem foldlM_iff_of_step_of_kept {f : S → O → Publishing S} {P I : S → Prop}
    {begins ends : S → O → Prop} {ops : List O}
    (keeps : ∀ o ∈ ops, ∀ s, I s → I (f s o).value)
    (step : ∀ o ∈ ops, ∀ s, I s → (P (f s o).value ↔ begins s o ∨ P s ∧ ¬ends s o))
    {s : S} (hs : I s) :
    P (ops.foldlM f s).value
      ↔ (∃ u o v, ops = u ++ o :: v ∧ begins (u.foldlM f s).value o
            ∧ Never f ends ((u ++ [o]).foldlM f s).value v)
        ∨ P s ∧ Never f ends s ops := by
  -- from the front: what holds after the first operation is what the rest begins with
  induction ops generalizing s with
  | nil => simp [never_nil]
  | cons o ops ih =>
    have first := step o List.mem_cons_self s hs
    have rest := ih (fun x hx => keeps x (List.mem_cons_of_mem o hx))
      (fun x hx => step x (List.mem_cons_of_mem o hx)) (keeps o List.mem_cons_self s hs)
    rw [List.foldlM_cons, value_bind, rest, first, never_cons,
      exists_operation_cons (P := fun u o v => begins (u.foldlM f s).value o
        ∧ Never f ends ((u ++ [o]).foldlM f s).value v)]
    simp only [List.nil_append, List.cons_append, List.foldlM_cons, value_bind, List.foldlM_nil,
      value_pure]
    constructor
    · rintro (later | ⟨first | ⟨held, kept⟩, rest⟩)
      · exact Or.inl (Or.inr later)
      · exact Or.inl (Or.inl ⟨first, rest⟩)
      · exact Or.inr ⟨held, kept, rest⟩
    · rintro ((⟨first, rest⟩ | later) | ⟨held, kept, rest⟩)
      · exact Or.inr ⟨Or.inl first, rest⟩
      · exact Or.inl later
      · exact Or.inr ⟨Or.inr ⟨held, kept⟩, rest⟩

/-- What comes and goes, if every operation ends it wherever it is carried out or
nowhere. -/
theorem foldlM_iff_of_step {f : S → O → Publishing S} {P : S → Prop} {begins : S → O → Prop}
    {ends : O → Prop} (step : ∀ s o, P (f s o).value ↔ begins s o ∨ P s ∧ ¬ends o)
    (ops : List O) (s : S) :
    P (ops.foldlM f s).value
      ↔ (∃ u o v, ops = u ++ o :: v ∧ begins (u.foldlM f s).value o ∧ ∀ x ∈ v, ¬ends x)
        ∨ P s ∧ ∀ x ∈ ops, ¬ends x := by
  have run := foldlM_iff_of_step_of_kept (I := fun _ => True)
    (fun _ (_ : _ ∈ ops) _ _ => trivial) (fun o _ s _ => step s o) (s := s) trivial
  simpa only [never_iff_forall_mem] using run

end Publishing

end AgentWorkflow

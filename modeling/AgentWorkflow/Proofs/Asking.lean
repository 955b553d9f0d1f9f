import AgentWorkflow.Monitor
import AgentWorkflow.Proofs.Publishing

/-!
# What a computation that asks a runtime ends with

A computation of `Asking` is begun at some state of the runtime. It ends with a
value, a state of the runtime, and what was said on the way. A postcondition is
about all three at once, `Asking.Ends` says that it holds in the end, and the
lemmas here take a computation apart for it: two computations in a row end with
a postcondition if the first one ends in such a way that the second one does.

It is stated once for the three parts, so that a computation that branches has
to be split in one place only.
-/

namespace AgentWorkflow

namespace Asking

variable {σ α β : Type}

/-- **What a computation ends with**, begun at a state of the runtime: its
value, the runtime afterwards, and what was said. -/
def Ends (x : Asking σ α) (s : σ) (post : α → σ → List Event → Prop) : Prop :=
  post (x s).value.1 (x s).value.2 (x s).events

theorem ends_pure {a : α} {s : σ} {post : α → σ → List Event → Prop} :
    (pure a : Asking σ α).Ends s post ↔ post a s [] := Iff.rfl

/-- Two computations in a row say what the first one says, then what the second
one does. -/
theorem ends_bind {x : Asking σ α} {next : α → Asking σ β} {s : σ}
    {post : β → σ → List Event → Prop} :
    (x >>= next).Ends s post
      ↔ x.Ends s fun a t said => (next a).Ends t fun b u more => post b u (said ++ more) :=
  Iff.rfl

theorem ends_lift {p : Publishing α} {s : σ} {post : α → σ → List Event → Prop} :
    (liftM p : Asking σ α).Ends s post ↔ post p.value s p.events := by
  have said : ((liftM p : Asking σ α) s).events = p.events := List.append_nil p.events
  unfold Ends
  rw [said]
  rfl

theorem ends_ask {question : σ → α × σ} {s : σ} {post : α → σ → List Event → Prop} :
    (ask question).Ends s post ↔ post (question s).1 (question s).2 [] := Iff.rfl

theorem map_apply (f : α → β) (x : Asking σ α) (s : σ) :
    (f <$> x) s = ⟨(f (x s).value.1, (x s).value.2), (x s).events⟩ :=
  Publishing.ext rfl (List.append_nil (x s).events)

theorem ends_map {f : α → β} {x : Asking σ α} {s : σ} {post : β → σ → List Event → Prop} :
    (f <$> x).Ends s post ↔ x.Ends s fun a t said => post (f a) t said := by
  unfold Ends
  rw [map_apply]

theorem ask_bind_apply (question : σ → α × σ) (next : α → Asking σ β) (s : σ) :
    (ask question >>= next) s = next (question s).1 (question s).2 := rfl

theorem Ends.mono {x : Asking σ α} {s : σ} {post post' : α → σ → List Event → Prop}
    (h : x.Ends s post) (imp : ∀ a t said, post a t said → post' a t said) :
    x.Ends s post' :=
  imp _ _ _ h

theorem Ends.and {x : Asking σ α} {s : σ} {post post' : α → σ → List Event → Prop}
    (h : x.Ends s post) (h' : x.Ends s post') :
    x.Ends s fun a t said => post a t said ∧ post' a t said :=
  ⟨h, h'⟩

end Asking

end AgentWorkflow

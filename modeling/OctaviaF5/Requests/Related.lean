import OctaviaF5.Requests.Session
import OctaviaF5.Python.Parse

/-! Two runs side by side, from worlds that differ only in the credentials of the requests
already on the wire. `Related R x₁ x₂` says that the runs end in such worlds again, with the
same log and metrics, and that they return `R`-related values or raise the same exception.
The rules below build the relation of a computation from those of its parts, as the rules of
a relational Hoare logic do. -/
namespace OctaviaF5

/-- Two requests that differ at most in their credentials: the `auth` object, and what
`log_response` redacts from the URL. -/
def Request.Twin (q₁ q₂ : Request) : Prop :=
  q₁.method = q₂.method ∧ q₁.body = q₂.body ∧ Parse.redactedUrl q₁.url = Parse.redactedUrl q₂.url

/-- Two responses to twin requests with the same reply. -/
def Response.Twin (r₁ r₂ : Response) : Prop := r₁.reply = r₂.reply ∧ r₁.request.Twin r₂.request

/-- Two worlds with the same appliance, timing, log, metrics and waits, whose requests on the
wire are twins. -/
structure World.Twin (w₁ w₂ : World) : Prop where
  replies : w₁.replies = w₂.replies
  deadline : w₁.deadline = w₂.deadline
  background : w₁.background = w₂.background
  sent : List.Forall₂ Request.Twin w₁.sent w₂.sent
  log : w₁.log = w₂.log
  metrics : w₁.metrics = w₂.metrics
  waits : w₁.waits = w₂.waits

namespace World.Twin

variable {w₁ w₂ : World}

theorem refl (w : World) : w.Twin w :=
  ⟨rfl, rfl, rfl, List.forall₂_same.mpr fun _ _ => ⟨rfl, rfl, rfl⟩, rfl, rfl, rfl⟩

theorem send (h : w₁.Twin w₂) {q₁ q₂ : Request} (hq : q₁.Twin q₂) :
    World.Twin { w₁ with sent := w₁.sent ++ [q₁] } { w₂ with sent := w₂.sent ++ [q₂] } :=
  { h with sent := List.rel_append h.sent (.cons hq .nil) }

end World.Twin

namespace PyM

variable {α β γ δ : Type}

/-- The outcomes of twin runs: related values, or the same exception. -/
def Outcome (R : α → β → Prop) : Except PyError α → Except PyError β → Prop
  | .ok a, .ok b => R a b
  | .error e₁, .error e₂ => e₁ = e₂
  | _, _ => False

/-- From twin worlds, `x₁` and `x₂` end in twin worlds with related outcomes. -/
def Related (R : α → β → Prop) (x₁ : PyM α) (x₂ : PyM β) : Prop :=
  ∀ w₁ w₂, w₁.Twin w₂ → Outcome R (x₁.exec w₁).1 (x₂.exec w₂).1 ∧ (x₁.exec w₁).2.Twin (x₂.exec w₂).2

namespace Related

variable {R : α → β → Prop} {S : γ → δ → Prop}

theorem pure {a : α} {b : β} (h : R a b) : Related R (Pure.pure a) (Pure.pure b) :=
  fun _ _ hw => ⟨h, hw⟩

theorem throw (e : PyError) : Related R (MonadExcept.throw e : PyM α) (MonadExcept.throw e) :=
  fun _ _ hw => ⟨rfl, hw⟩

theorem lift {x₁ : Except PyError α} {x₂ : Except PyError β} (h : Outcome R x₁ x₂) :
    Related R (PyM.lift x₁) (PyM.lift x₂) :=
  fun _ _ hw => by simpa using And.intro h hw

theorem read : Related World.Twin PyM.read PyM.read := fun _ _ hw => ⟨hw, hw⟩

/-- Outcomes kept as values are related as outcomes. -/
theorem attempt {x₁ : PyM α} {x₂ : PyM β} (hx : Related R x₁ x₂) :
    Related (Outcome R) (PyM.attempt x₁) (PyM.attempt x₂) := fun w₁ w₂ hw => by
  simpa [Outcome] using hx w₁ w₂ hw

/-- A change of the world that keeps twins twins. -/
theorem update {f : World → World} (hf : ∀ w₁ w₂, w₁.Twin w₂ → (f w₁).Twin (f w₂)) :
    Related (fun _ _ => True) (PyM.update f) (PyM.update f) :=
  fun w₁ w₂ hw => ⟨trivial, hf w₁ w₂ hw⟩

theorem bind {x₁ : PyM α} {x₂ : PyM β} {f₁ : α → PyM γ} {f₂ : β → PyM δ} (hx : Related R x₁ x₂)
    (hf : ∀ a b, R a b → Related S (f₁ a) (f₂ b)) : Related S (x₁ >>= f₁) (x₂ >>= f₂) := by
  intro w₁ w₂ hw
  have hrel := hx w₁ w₂ hw
  rw [exec_bind, exec_bind]
  revert hrel
  rcases x₁.exec w₁ with ⟨_ | a, w₁'⟩ <;> rcases x₂.exec w₂ with ⟨_ | b, w₂'⟩ <;>
    rintro ⟨ho, hw'⟩ <;> simp only [Outcome] at ho
  · exact ⟨ho, hw'⟩
  · exact hf a b ho w₁' w₂' hw'

theorem map {x₁ : PyM α} {x₂ : PyM β} {f₁ : α → γ} {f₂ : β → δ} (hx : Related R x₁ x₂)
    (hf : ∀ a b, R a b → S (f₁ a) (f₂ b)) : Related S (f₁ <$> x₁) (f₂ <$> x₂) := by
  intro w₁ w₂ hw
  have hrel := hx w₁ w₂ hw
  simp only [exec_map]
  revert hrel
  rcases x₁.exec w₁ with ⟨_ | a, w₁'⟩ <;> rcases x₂.exec w₂ with ⟨_ | b, w₂'⟩ <;>
    rintro ⟨ho, hw'⟩ <;> simp only [Outcome] at ho
  · exact ⟨ho, hw'⟩
  · exact ⟨hf a b ho, hw'⟩

theorem tryExcept (handles : PyError → Bool) {x₁ x₂ : PyM α} {h₁ h₂ : PyError → PyM α}
    {R : α → α → Prop} (hx : Related R x₁ x₂) (hh : ∀ e, Related R (h₁ e) (h₂ e)) :
    Related R (PyM.tryExcept handles x₁ h₁) (PyM.tryExcept handles x₂ h₂) := by
  intro w₁ w₂ hw
  have hrel := hx w₁ w₂ hw
  rw [exec_tryExcept, exec_tryExcept]
  revert hrel
  rcases x₁.exec w₁ with ⟨e₁ | a, w₁'⟩ <;> rcases x₂.exec w₂ with ⟨e₂ | b, w₂'⟩ <;>
    rintro ⟨ho, hw'⟩ <;> simp only [Outcome] at ho
  · subst ho
    dsimp only
    split_ifs
    · exact hh e₁ w₁' w₂' hw'
    · exact ⟨rfl, hw'⟩
  · exact ⟨ho, hw'⟩

/-- The same loop over one list, with related bodies. -/
theorem forM {xs : List γ} {f₁ f₂ : γ → PyM Unit}
    (hf : ∀ x ∈ xs, Related (fun _ _ => True) (f₁ x) (f₂ x)) :
    Related (fun _ _ => True) (xs.forM f₁) (xs.forM f₂) := by
  induction xs with
  | nil => exact pure trivial
  | cons x xs ih =>
    exact bind (hf x (List.mem_cons_self x xs)) fun _ _ _ =>
      ih fun y hy => hf y (List.mem_cons_of_mem x hy)

end Related
end PyM
end OctaviaF5

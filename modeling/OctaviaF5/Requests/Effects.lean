import OctaviaF5.Requests.Session

/-! Computations that only write log records, the same records and the same outcome from
every world. The debug hook is one: the facts here let the proofs about requests treat a hook
as its outcome and its records. Then computations whose exceptions, from every world, are all
of one kind, with one rule per way of combining them. -/
namespace OctaviaF5
namespace PyM

variable {α β : Type}

/-- `x` returns `o` and appends `L` to the log, from every world, and changes nothing else. -/
def Logs (x : PyM α) (o : Except PyError α) (L : List LogRecord) : Prop :=
  ∀ w, x.exec w = (o, { w with log := w.log ++ L })

namespace Logs

theorem pure (a : α) : Logs (Pure.pure a : PyM α) (.ok a) [] := fun w => by simp

theorem throw (e : PyError) : Logs (MonadExcept.throw e : PyM α) (.error e) [] := fun w => by simp

theorem lift (x : Except PyError α) : Logs (PyM.lift x) x [] := fun w => by simp

theorem emit (r : LogRecord) : Logs (OctaviaF5.emit r) (.ok ()) [r] := fun _ => rfl

theorem bind_ok {x : PyM α} {f : α → PyM β} {a : α} {o : Except PyError β}
    {L₁ L₂ : List LogRecord} (hx : Logs x (.ok a) L₁) (hf : Logs (f a) o L₂) :
    Logs (x >>= f) o (L₁ ++ L₂) := fun w => by
  rw [exec_bind_ok (hx w), hf]
  simp

theorem bind_error {x : PyM α} {e : PyError} {L : List LogRecord} (hx : Logs x (.error e) L)
    (f : α → PyM β) : Logs (x >>= f) (.error e) L := fun w => exec_bind_error (hx w) f

/-- A log-only computation followed by log-only continuations is log-only. -/
theorem bind {x : PyM α} {f : α → PyM β} {o : Except PyError α} {L : List LogRecord}
    (hx : Logs x o L) (hf : ∀ a, ∃ o' L', Logs (f a) o' L') : ∃ o' L', Logs (x >>= f) o' L' := by
  cases o with
  | error e => exact ⟨_, _, bind_error hx f⟩
  | ok a =>
    obtain ⟨o', L', h⟩ := hf a
    exact ⟨_, _, bind_ok hx h⟩

theorem tryExcept {x : PyM α} {o : Except PyError α} {L : List LogRecord}
    (handles : PyError → Bool) {handler : PyError → PyM α} (hx : Logs x o L)
    (hh : ∀ e, ∃ o' L', Logs (handler e) o' L') :
    ∃ o' L', Logs (PyM.tryExcept handles x handler) o' L' := by
  cases o with
  | ok a => exact ⟨.ok a, L, fun w => by rw [exec_tryExcept, hx w]⟩
  | error e =>
    by_cases h : handles e
    · obtain ⟨o', L', hl⟩ := hh e
      exact ⟨o', L ++ L', fun w => by rw [exec_tryExcept, hx w]; simp [h, hl _]⟩
    · exact ⟨.error e, L, fun w => by rw [exec_tryExcept, hx w]; simp [h]⟩

/-- A log-only step run once for every element of a list. -/
theorem forM {γ : Type} {f : γ → PyM Unit} (hf : ∀ g, ∃ o L, Logs (f g) o L) :
    ∀ gs : List γ, ∃ o L, Logs (gs.forM f) o L
  | [] => ⟨_, _, Logs.pure ()⟩
  | g :: gs => by
    obtain ⟨o, L, h⟩ := hf g
    exact bind h fun _ => forM hf gs

end Logs

/-! ### The exceptions a computation raises -/

/-- From every world, every exception `x` raises satisfies `P`. -/
def RaisesOnly (P : PyError → Prop) (x : PyM α) : Prop :=
  ∀ w e, (x.exec w).1 = .error e → P e

namespace RaisesOnly

variable {P : PyError → Prop}

theorem mono {Q : PyError → Prop} {x : PyM α} (hx : RaisesOnly P x) (h : ∀ e, P e → Q e) :
    RaisesOnly Q x := fun w e he => h e (hx w e he)

theorem pure (a : α) : RaisesOnly P (Pure.pure a : PyM α) := fun _ _ h => by cases h

theorem throw {e : PyError} (he : P e) : RaisesOnly P (MonadExcept.throw e : PyM α) :=
  fun w _ h => by
    rw [exec_throw] at h
    cases h
    exact he

theorem lift {x : Except PyError α} (hx : ∀ e, x = .error e → P e) : RaisesOnly P (PyM.lift x) :=
  fun w e h => hx e (by rwa [exec_lift] at h)

theorem update (f : World → World) : RaisesOnly P (PyM.update f) := fun _ _ h => by cases h

theorem read : RaisesOnly P PyM.read := fun _ _ h => by cases h

theorem emit (r : LogRecord) : RaisesOnly P (OctaviaF5.emit r) := update _

theorem bind {x : PyM α} {f : α → PyM β} (hx : RaisesOnly P x) (hf : ∀ a, RaisesOnly P (f a)) :
    RaisesOnly P (x >>= f) := fun w e h => by
  rw [exec_bind] at h
  revert h
  rcases hw : x.exec w with ⟨e' | a, w'⟩ <;> intro h
  · cases h
    exact hx w e (by rw [hw])
  · exact hf a w' e h

theorem map {x : PyM α} (hx : RaisesOnly P x) (f : α → β) : RaisesOnly P (f <$> x) :=
  fun w e h => by
    rw [exec_map] at h
    revert h
    rcases hw : (x.exec w).1 with e' | a <;> intro h <;> cases h
    exact hx w e hw

theorem tryExcept (handles : PyError → Bool) {x : PyM α} {h : PyError → PyM α}
    (hx : RaisesOnly P x) (hh : ∀ e, RaisesOnly P (h e)) :
    RaisesOnly P (PyM.tryExcept handles x h) := fun w e he => by
  rw [exec_tryExcept] at he
  revert he
  rcases hw : x.exec w with ⟨e' | a, w'⟩ <;> intro he
  · dsimp only at he
    split at he
    · exact hh e' w' e he
    · cases he
      exact hx w e (by rw [hw])
  · cases he

theorem forM {γ : Type} {xs : List γ} {f : γ → PyM Unit} (hf : ∀ x ∈ xs, RaisesOnly P (f x)) :
    RaisesOnly P (xs.forM f) := by
  induction xs with
  | nil => exact pure _
  | cons x xs ih =>
    exact bind (hf x (List.mem_cons_self x xs)) fun _ =>
      ih fun y hy => hf y (List.mem_cons_of_mem x hy)

end RaisesOnly
end PyM
end OctaviaF5

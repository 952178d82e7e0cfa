import OctaviaF5.Restclient.TaskPolling

/-! The task watcher (as3restclient.py, lines 58-60 and 114-119), a `ThreadPoolExecutor` with one
worker. `post` submits its wait at the end of the queue, and the worker runs the first wait, one
pass of its loop per poll, until the wait ends. `fut.result(timeout=ASYNC_TIMEOUT)` stops
waiting, but its wait goes on running, and the waits submitted later queue behind it.

`exec_workerStep` says once what a poll of the worker does. From it: the worker only completes
GETs of task paths and ends waits at the front of the queue (`WorkerEffect`); the future of a
wait with no wait before it sees `wait_for_task_finished` itself (`awaitWait_head`); and in
general a future sees the polls of the waits ahead of it, then the loop of its own task. -/
namespace OctaviaF5
namespace AS3RestClient

/-- Requests that are all GETs of task paths. -/
def TaskPolls (c : AS3RestClient) (qs : List Request) : Prop := ∀ q ∈ qs, ∃ t, q = c.taskRequest t

namespace TaskPolls

variable {c : AS3RestClient}

theorem nil : TaskPolls c [] := nofun

theorem append {qs qs' : List Request} (h : TaskPolls c qs) (h' : TaskPolls c qs') :
    TaskPolls c (qs ++ qs') := fun q hq => (List.mem_append.mp hq).elim (h q) (h' q)

theorem replicate (k : Nat) (t : JsonValue) : TaskPolls c (List.replicate k (c.taskRequest t)) :=
  fun _ hq => ⟨t, List.eq_of_mem_replicate hq⟩

end TaskPolls

/-- The loop changes the world only by its GETs of the task path and its log records. -/
theorem waitForTaskFinished_world (c : AS3RestClient) (taskId : JsonValue) :
    ∀ (fuel : Nat) (w : World), ∃ k L, ((c.waitForTaskFinished taskId fuel).exec w).2 =
      { w with sent := w.sent ++ List.replicate k (c.taskRequest taskId), log := w.log ++ L }
  | 0, w => ⟨0, [], by simp [waitForTaskFinished]⟩
  | fuel + 1, w => by
    obtain ⟨o, L, hp, -, -⟩ := pollTask_spec c taskId w
    rw [waitForTaskFinished, PyM.exec_bind, hp]
    rcases o with e | (_ | t)
    · exact ⟨1, L, rfl⟩
    · obtain ⟨k, L', h⟩ := waitForTaskFinished_world c taskId fuel _
      refine ⟨k + 1, L ++ L', ?_⟩
      rw [h]
      simp [List.replicate_succ]
    · exact ⟨1, L, rfl⟩

/-! ### One poll of the worker -/

/-- What the worker does to the world: it completes GETs of task paths, writes log records, and
ends waits at the front of the queue. Nothing else changes. -/
def WorkerEffect (c : AS3RestClient) (w w' : World) : Prop :=
  ∃ polls L d, TaskPolls c polls ∧
    w' = { w with sent := w.sent ++ polls, log := w.log ++ L, waits := w.waits.drop d }

namespace WorkerEffect

variable {c : AS3RestClient} {w w₁ w₂ : World}

theorem refl (w : World) : WorkerEffect c w w := ⟨[], [], 0, TaskPolls.nil, by simp⟩

theorem trans (h₁ : WorkerEffect c w w₁) (h₂ : WorkerEffect c w₁ w₂) : WorkerEffect c w w₂ := by
  obtain ⟨p₁, L₁, d₁, hp₁, rfl⟩ := h₁
  obtain ⟨p₂, L₂, d₂, hp₂, rfl⟩ := h₂
  exact ⟨p₁ ++ p₂, L₁ ++ L₂, d₁ + d₂, hp₁.append hp₂, by simp [List.drop_drop, Nat.add_comm]⟩

end WorkerEffect

theorem exec_workerStep_nil (c : AS3RestClient) {w : World} (hw : w.waits = []) :
    c.workerStep.exec w = (.ok none, w) := by
  rw [workerStep, PyM.exec_bind_ok (PyM.exec_read w)]
  simp only [hw]
  rfl

/-- One poll of the worker: the first wait runs one pass of its loop, and leaves the queue when
the pass returns the task or raises. -/
theorem exec_workerStep (c : AS3RestClient) {w : World} {t : JsonValue} {rest : List JsonValue}
    (hw : w.waits = t :: rest) :
    c.workerStep.exec w =
      match (c.pollTask t).exec w with
      | (.ok none, w₁) => (.ok none, w₁)
      | (.ok (some task), w₁) => (.ok (some (.ok task)), { w₁ with waits := rest })
      | (.error e, w₁) => (.ok (some (.error e)), { w₁ with waits := rest }) := by
  obtain ⟨o, L, hp, -, -⟩ := pollTask_spec c t w
  rw [workerStep, PyM.exec_bind_ok (PyM.exec_read w)]
  simp only [hw]
  rw [PyM.exec_bind, PyM.exec_attempt, hp]
  rcases o with e | (_ | task) <;> simp [dequeue, PyM.exec_bind, hw, Except.map]

theorem workerStep_effect (c : AS3RestClient) (w : World) :
    WorkerEffect c w (c.workerStep.exec w).2 := by
  rcases hw : w.waits with _ | ⟨t, rest⟩
  · rw [exec_workerStep_nil c hw]
    exact .refl w
  obtain ⟨o, L, hp, -, -⟩ := pollTask_spec c t w
  have hpoll : WorkerEffect c w { w with sent := w.sent ++ [c.taskRequest t], log := w.log ++ L } :=
    ⟨_, L, 0, TaskPolls.replicate 1 t, by simp⟩
  have hend : WorkerEffect c w
      { w with sent := w.sent ++ [c.taskRequest t], log := w.log ++ L, waits := rest } :=
    ⟨_, L, 1, TaskPolls.replicate 1 t, by simp [hw]⟩
  rw [exec_workerStep c hw, hp]
  rcases o with e | (_ | task) <;> assumption

/-- The worker never raises: an exception of a wait goes to its future. -/
theorem workerStep_ok (c : AS3RestClient) (w : World) : ∃ o, (c.workerStep.exec w).1 = .ok o := by
  rcases hw : w.waits with _ | ⟨t, rest⟩
  · exact ⟨none, by rw [exec_workerStep_nil c hw]⟩
  rw [exec_workerStep c hw]
  rcases (c.pollTask t).exec w with ⟨e | (_ | task), w₁⟩ <;> exact ⟨_, rfl⟩

/-- A wait ends with what its pass raised: a failure of the GET or of the test. -/
theorem workerStep_error_ofRequest (c : AS3RestClient) (w : World) {e : PyError}
    (h : (c.workerStep.exec w).1 = .ok (some (.error e))) : e.OfRequest := by
  rcases hw : w.waits with _ | ⟨t, rest⟩
  · rw [exec_workerStep_nil c hw] at h
    cases h
  rw [exec_workerStep c hw] at h
  rcases hp : (c.pollTask t).exec w with ⟨e' | (_ | task), w₁⟩ <;> rw [hp] at h <;> cases h
  exact pollTask_raisesOnly c t w e (by rw [hp])

/-! ### Polls between calls -/

/-- The polls between the caller's calls: they return, and have the worker's effect. -/
theorem workerPolls_spec (c : AS3RestClient) :
    ∀ (n : Nat) (w : World), ∃ w', (c.workerPolls n).exec w = (.ok (), w') ∧ WorkerEffect c w w'
  | 0, w => ⟨w, rfl, .refl w⟩
  | n + 1, w => by
    obtain ⟨o, ho⟩ := workerStep_ok c w
    obtain ⟨w', h, heff⟩ := workerPolls_spec c n (c.workerStep.exec w).2
    exact ⟨w', by rw [workerPolls, PyM.exec_bind_of_ok ho, h], (workerStep_effect c w).trans heff⟩

/-! ### The future of a wait -/

theorem awaitWait_effect (c : AS3RestClient) :
    ∀ (ahead n : Nat) (w : World), WorkerEffect c w ((c.awaitWait ahead n).exec w).2
  | _, 0, w => .refl w
  | ahead, n + 1, w => by
    obtain ⟨o, ho⟩ := workerStep_ok c w
    rw [awaitWait, PyM.exec_bind_of_ok ho]
    refine (workerStep_effect c w).trans ?_
    rcases o with _ | outcome
    · exact awaitWait_effect c ahead n _
    rcases ahead with _ | ahead
    · simpa using WorkerEffect.refl _
    · exact awaitWait_effect c ahead n _

/-- A future raises the exception its wait ended with, or `TimeoutError`. -/
theorem awaitWait_raisesOnly (c : AS3RestClient) :
    ∀ ahead n, PyM.RaisesOnly (fun e => e.OfRequest ∨ e = .timeoutError) (c.awaitWait ahead n)
  | _, 0 => .throw (.inr rfl)
  | ahead, n + 1 => fun w e h => by
    obtain ⟨o, ho⟩ := workerStep_ok c w
    rw [awaitWait, PyM.exec_bind_of_ok ho] at h
    rcases o with _ | outcome
    · exact awaitWait_raisesOnly c ahead n _ e h
    rcases ahead with _ | ahead
    · rw [PyM.exec_lift] at h
      subst h
      exact .inl (workerStep_error_ofRequest c w ho)
    · exact awaitWait_raisesOnly c ahead n _ e h

/-- With no wait before its own, a future sees `wait_for_task_finished` run for the polls the
deadline allows: it returns what the loop returns, raises what it raises, and times out when the
loop is still polling. A wait that ends leaves the queue. -/
theorem awaitWait_head (c : AS3RestClient) (taskId : JsonValue) (rest : List JsonValue) :
    ∀ (n : Nat) (w : World), w.waits = taskId :: rest →
      (c.awaitWait 0 n).exec w =
        match (c.waitForTaskFinished taskId n).exec w with
        | (.ok (some task), w') => (.ok task, { w' with waits := rest })
        | (.ok none, w') => (.error .timeoutError, w')
        | (.error e, w') => (.error e, { w' with waits := rest })
  | 0, _, _ => rfl
  | n + 1, w, hw => by
    obtain ⟨o, L, hp, -, -⟩ := pollTask_spec c taskId w
    rw [awaitWait, PyM.exec_bind, exec_workerStep c hw, waitForTaskFinished, PyM.exec_bind, hp]
    rcases o with e | (_ | task)
    · rfl
    · exact awaitWait_head c taskId rest n _ hw
    · rfl

/-- One poll for a future with waits before it: the first of them runs one pass, and a future
whose wait moves up when that wait ends. -/
theorem exec_awaitWait_ahead (c : AS3RestClient) {w : World} {p : JsonValue}
    {waits : List JsonValue} (hw : w.waits = p :: waits) (ahead n : Nat) :
    (c.awaitWait (ahead + 1) (n + 1)).exec w =
      match (c.pollTask p).exec w with
      | (.ok none, w₁) => (c.awaitWait (ahead + 1) n).exec w₁
      | (_, w₁) => (c.awaitWait ahead n).exec { w₁ with waits := waits } := by
  rw [awaitWait, PyM.exec_bind, exec_workerStep c hw]
  rcases (c.pollTask p).exec w with ⟨e | (_ | task), w₁⟩ <;> rfl

/-- A future that returns saw the polls of the waits before its own, then the loop of its task
return the first finished response: one GET of the task path per position up to it. Its wait
has left the queue. -/
theorem awaitWait_returns (c : AS3RestClient) (taskId : JsonValue) (rest : List JsonValue) :
    ∀ (n : Nat) (pre : List JsonValue) (w w' : World) (task : Response),
      w.waits = pre ++ taskId :: rest → (c.awaitWait pre.length n).exec w = (.ok task, w') →
        ∃ stale k, (∀ q ∈ stale, ∃ t ∈ pre, q = c.taskRequest t) ∧
          FirstFinished c taskId { w with sent := w.sent ++ stale } k task ∧
          w'.sent = w.sent ++ stale ++ List.replicate (k + 1) (c.taskRequest taskId) ∧
          w'.waits = rest
  | 0, _, _, _, _, _, h => by cases h
  | n + 1, [], w, w', task, hw, h => by
    rw [List.length_nil, awaitWait_head c taskId rest (n + 1) w hw] at h
    rcases hx : (c.waitForTaskFinished taskId (n + 1)).exec w with ⟨e | (_ | t), w₂⟩ <;>
      rw [hx] at h <;> cases h
    obtain ⟨k, -, hfirst, hsent⟩ := waitForTaskFinished_returns c taskId _ w _ _ hx
    exact ⟨[], k, nofun, (firstFinished_congr (by rfl) (by simp) k _).mpr hfirst,
      by simpa using hsent, rfl⟩
  | n + 1, p :: pre, w, w', task, hw, h => by
    obtain ⟨o, L, hp, -, -⟩ := pollTask_spec c p w
    have hpass : ∀ (w₁ : World) (pre' : List JsonValue),
        (c.awaitWait pre'.length n).exec w₁ = (.ok task, w') → w₁.waits = pre' ++ taskId :: rest →
        w₁.sent = w.sent ++ [c.taskRequest p] → w₁.replies = w.replies → pre' ⊆ p :: pre →
        ∃ stale k, (∀ q ∈ stale, ∃ t ∈ p :: pre, q = c.taskRequest t) ∧
          FirstFinished c taskId { w with sent := w.sent ++ stale } k task ∧
          w'.sent = w.sent ++ stale ++ List.replicate (k + 1) (c.taskRequest taskId) ∧
          w'.waits = rest := by
      intro w₁ pre' h₁ hw₁ hsent₁ hrep hsub
      obtain ⟨stale, k, hstale, hfirst, hsent, hrest⟩ :=
        awaitWait_returns c taskId rest n pre' w₁ w' task hw₁ h₁
      refine ⟨c.taskRequest p :: stale, k, ?_,
        (firstFinished_congr (by exact hrep) (by simp [hsent₁]) k _).mp hfirst,
        by simp [hsent, hsent₁], hrest⟩
      rintro q (_ | ⟨_, hq⟩)
      · exact ⟨p, List.mem_cons_self p pre, rfl⟩
      · obtain ⟨t, ht, rfl⟩ := hstale q hq
        exact ⟨t, hsub ht, rfl⟩
    rw [List.length_cons, exec_awaitWait_ahead c hw, hp] at h
    rcases o with e | (_ | t) <;> dsimp only at h
    · exact hpass _ pre h (by simp) rfl rfl (List.subset_cons_self p pre)
    · exact hpass _ (p :: pre) h hw rfl rfl (List.Subset.refl _)
    · exact hpass _ pre h (by simp) rfl rfl (List.subset_cons_self p pre)

/-- The future of a wait submitted behind the queue: the worker completes GETs of task paths,
and with no wait before this one, the polls of its own task. -/
theorem awaitWait_submitted_sent (c : AS3RestClient) (taskId : JsonValue) (n : Nat) (w : World) :
    ∃ polls, ((c.awaitWait w.waits.length n).exec { w with waits := w.waits ++ [taskId] }).2.sent =
        w.sent ++ polls ∧ TaskPolls c polls ∧
      (w.waits = [] → ∃ k, polls = List.replicate k (c.taskRequest taskId)) := by
  obtain ⟨polls, L, d, hpolls, hworld⟩ :=
    awaitWait_effect c w.waits.length n { w with waits := w.waits ++ [taskId] }
  refine ⟨polls, by rw [hworld], hpolls, fun hidle => ?_⟩
  obtain ⟨k, L', hk⟩ := waitForTaskFinished_world c taskId n { w with waits := [taskId] }
  have hs := congrArg World.sent hworld
  simp only [hidle, List.length_nil, List.nil_append] at hs
  rw [awaitWait_head c taskId [] n _ rfl] at hs
  refine ⟨k, ?_⟩
  rcases hx : (c.waitForTaskFinished taskId n).exec { w with waits := [taskId] } with
    ⟨e | (_ | task), w₂⟩ <;> rw [hx] at hk hs <;> subst hk <;> simpa using hs.symm

/-- While every poll finds the first wait's task unfinished, no wait ends: the future times out
after the polls the deadline allows, all of that task, and the queue is as it was. -/
theorem awaitWait_of_head_unfinished (c : AS3RestClient) (t : JsonValue) (rest : List JsonValue) :
    ∀ (n ahead : Nat) (w : World), w.waits = t :: rest →
      (∀ j < n, ∃ rj, GetReturns c t w j rj ∧ taskFinished rj = .ok false) →
        ∃ w', (c.awaitWait ahead n).exec w = (.error .timeoutError, w') ∧
          w'.sent = w.sent ++ List.replicate n (c.taskRequest t) ∧ w'.waits = w.waits
  | 0, _, w, _, _ => ⟨w, rfl, by simp, rfl⟩
  | n + 1, ahead, w, hw, hpolls => by
    obtain ⟨o, L, hp, -, hnone⟩ := pollTask_spec c t w
    obtain ⟨w', h, hsent, hwaits⟩ := awaitWait_of_head_unfinished c t rest n ahead
      { w with sent := w.sent ++ [c.taskRequest t], log := w.log ++ L } hw fun j hj =>
        let ⟨rj, hrj, hfj⟩ := hpolls (j + 1) (by omega)
        ⟨rj, (getReturns_pass j rj).mpr hrj, hfj⟩
    refine ⟨w', ?_, by simp [hsent, List.replicate_succ], hwaits⟩
    rw [awaitWait, PyM.exec_bind, exec_workerStep c hw, hp, hnone.mpr (hpolls 0 (by omega))]
    cases ahead <;> exact h

/-- A future that times out leaves its wait in the queue, behind what is left of the waits that
were before it. -/
theorem awaitWait_timeout_waits (c : AS3RestClient) (taskId : JsonValue) (rest : List JsonValue) :
    ∀ (n : Nat) (pre : List JsonValue) (w w' : World), w.waits = pre ++ taskId :: rest →
      (c.awaitWait pre.length n).exec w = (.error .timeoutError, w') →
        ∃ pre', pre' <:+ pre ∧ w'.waits = pre' ++ taskId :: rest
  | 0, pre, w, w', hw, h => by
    cases h
    exact ⟨pre, List.suffix_refl pre, hw⟩
  | n + 1, [], w, w', hw, h => by
    rw [List.length_nil, awaitWait_head c taskId rest (n + 1) w hw] at h
    obtain ⟨k, L, hworld⟩ := waitForTaskFinished_world c taskId (n + 1) w
    rcases hx : (c.waitForTaskFinished taskId (n + 1)).exec w with ⟨e | (_ | t), w₂⟩ <;>
      rw [hx] at h hworld <;> cases h
    · exact (waitForTaskFinished_raisesOnly c taskId _ w .timeoutError (by rw [hx]) : False).elim
    · refine ⟨[], List.nil_suffix, ?_⟩
      have h := congrArg World.waits hworld
      dsimp only at h
      rw [h, hw]
  | n + 1, p :: pre, w, w', hw, h => by
    obtain ⟨o, L, hp, -, -⟩ := pollTask_spec c p w
    rw [List.length_cons, exec_awaitWait_ahead c hw, hp] at h
    have hmove : ∀ w₁ : World, (c.awaitWait pre.length n).exec w₁ = (.error .timeoutError, w') →
        w₁.waits = pre ++ taskId :: rest →
        ∃ pre', pre' <:+ p :: pre ∧ w'.waits = pre' ++ taskId :: rest := fun w₁ h₁ hw₁ =>
      let ⟨pre', hsuf, hw'⟩ := awaitWait_timeout_waits c taskId rest n pre w₁ w' hw₁ h₁
      ⟨pre', hsuf.trans (List.suffix_cons p pre), hw'⟩
    rcases o with e | (_ | t) <;> dsimp only at h
    · exact hmove _ h rfl
    · exact awaitWait_timeout_waits c taskId rest n (p :: pre) _ w' (by exact hw) h
    · exact hmove _ h rfl

end AS3RestClient
end OctaviaF5

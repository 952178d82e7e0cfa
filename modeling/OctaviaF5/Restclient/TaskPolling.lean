import OctaviaF5.Restclient.Transport

/-! `wait_for_task_finished` (as3restclient.py, lines 96-105) as a first-hit loop over the
responses of its successive GETs. It returns the first response whose test
`task.ok and all(res['code'] != 0 ...)` is true, after exactly as many GETs as that
response's position, all to the same task path. Every earlier test must evaluate to `False`:
an ok response whose body lacks the `results` of a task raises out of the loop. -/
namespace OctaviaF5
namespace AS3RestClient

open LogResponse

/-- The GET of one poll of task `taskId`. -/
def taskRequest (c : AS3RestClient) (taskId : JsonValue) : Request :=
  c.request "GET" (c.getUrl (as3TasksPath taskId)) none

/-- The `k`-th GET of a loop started in `w` returns `r`: the appliance answered it with
`r.reply` and the hooks let it through. -/
def GetReturns (c : AS3RestClient) (taskId : JsonValue) (w : World) (k : Nat) (r : Response) :
    Prop :=
  w.replies (w.sent.length + k) = some r.reply ∧ r.request = c.taskRequest taskId ∧
    (c.debugHooks = 0 ∨ Harmless r)

/-- The `k`-th GET returns `r`, the first response whose test is true: every earlier GET
returned a response whose test evaluated to `False`. -/
def FirstFinished (c : AS3RestClient) (taskId : JsonValue) (w : World) (k : Nat)
    (r : Response) : Prop :=
  (∀ j < k, ∃ rj, GetReturns c taskId w j rj ∧ taskFinished rj = .ok false) ∧
    GetReturns c taskId w k r ∧ taskFinished r = .ok true

/-- After one more request on the wire, the loop's GETs are counted from the next one. -/
theorem getReturns_shift {c : AS3RestClient} {taskId : JsonValue} {w w₁ : World}
    (hrep : w₁.replies = w.replies) (hlen : w₁.sent.length = w.sent.length + 1) (j : Nat)
    (r : Response) : GetReturns c taskId w₁ j r ↔ GetReturns c taskId w (j + 1) r := by
  simp only [GetReturns, hrep, hlen, Nat.add_right_comm _ 1 j, Nat.add_assoc]

/-- Only the appliance and the number of requests on the wire decide what the loop's GETs
return. -/
theorem getReturns_congr {c : AS3RestClient} {taskId : JsonValue} {w₁ w₂ : World}
    (hrep : w₁.replies = w₂.replies) (hlen : w₁.sent.length = w₂.sent.length) (j : Nat)
    (r : Response) : GetReturns c taskId w₁ j r ↔ GetReturns c taskId w₂ j r := by
  simp only [GetReturns, hrep, hlen]

theorem firstFinished_congr {c : AS3RestClient} {taskId : JsonValue} {w₁ w₂ : World}
    (hrep : w₁.replies = w₂.replies) (hlen : w₁.sent.length = w₂.sent.length) (k : Nat)
    (r : Response) : FirstFinished c taskId w₁ k r ↔ FirstFinished c taskId w₂ k r := by
  simp only [FirstFinished, getReturns_congr hrep hlen]

/-- Two GETs at one position return one response. -/
theorem getReturns_unique {c : AS3RestClient} {taskId : JsonValue} {w : World} {j : Nat}
    {r r' : Response} (h : GetReturns c taskId w j r) (h' : GetReturns c taskId w j r') : r = r' := by
  obtain ⟨reply, req⟩ := r
  obtain ⟨reply', req'⟩ := r'
  obtain ⟨h₁, rfl, -⟩ := h
  obtain ⟨h₁', rfl, -⟩ := h'
  rw [h₁] at h₁'
  cases h₁'
  rfl

/-- One pass of the loop: one GET of the task path, and log records besides. It returns the
task when the GET returns a finished response, and `None` when the test evaluates to
`False`. -/
theorem pollTask_spec (c : AS3RestClient) (taskId : JsonValue) (w : World) :
    ∃ o L, (c.pollTask taskId).exec w =
        (o, { w with sent := w.sent ++ [c.taskRequest taskId], log := w.log ++ L }) ∧
      (∀ t, o = .ok (some t) ↔ GetReturns c taskId w 0 t ∧ taskFinished t = .ok true) ∧
      (o = .ok none ↔ ∃ r, GetReturns c taskId w 0 r ∧ taskFinished r = .ok false) := by
  obtain ⟨o, L, h, hok⟩ := c.send_spec "GET" (c.getUrl (as3TasksPath taskId)) none w
  have hret : ∀ r, GetReturns c taskId w 0 r ↔ o = .ok r := fun r => by
    simpa [GetReturns, taskRequest] using (hok r).symm
  rw [pollTask, get, PyM.exec_bind, h]
  rcases o with e | r
  · exact ⟨.error e, L, rfl, fun t => by simp [hret], by simp [hret]⟩
  dsimp only
  rw [PyM.exec_bind, PyM.exec_lift]
  have hr := (hret r).mpr rfl
  rcases hf : taskFinished r with e | (_ | _)
  · exact ⟨.error e, L, rfl, fun t => by simp [hret]; rintro rfl; simp [hf], by simp [hret, hf]⟩
  · exact ⟨.ok none, L, rfl, fun t => by simp [hret]; rintro rfl; simp [hf],
      by simpa [hret] using hf⟩
  · refine ⟨.ok (some r), L, rfl, fun t => ?_, by simp [hret, hf]⟩
    simp only [Except.ok.injEq, Option.some.injEq, hret]
    exact ⟨fun h => ⟨h, h ▸ hf⟩, fun h => h.1⟩

/-- After one pass the loop's GETs are counted from the next request. -/
theorem getReturns_pass {c : AS3RestClient} {taskId : JsonValue} {w : World} {q : Request}
    {L : List LogRecord} (j : Nat) (r : Response) :
    GetReturns c taskId { w with sent := w.sent ++ [q], log := w.log ++ L } j r ↔
      GetReturns c taskId w (j + 1) r :=
  getReturns_shift (by rfl) (by simp) j r

/-- A returned response is the first finished one, after one GET per position. -/
theorem waitForTaskFinished_returns (c : AS3RestClient) (taskId : JsonValue) :
    ∀ (fuel : Nat) (w w' : World) (r : Response),
      (c.waitForTaskFinished taskId fuel).exec w = (.ok (some r), w') →
        ∃ k < fuel, FirstFinished c taskId w k r ∧
          w'.sent = w.sent ++ List.replicate (k + 1) (c.taskRequest taskId)
  | 0, w, w', r, h => by simp [waitForTaskFinished] at h
  | fuel + 1, w, w', r, h => by
    obtain ⟨o, L, hp, hsome, hnone⟩ := pollTask_spec c taskId w
    rw [waitForTaskFinished, PyM.exec_bind, hp] at h
    rcases o with e | (_ | t)
    · cases h
    · obtain ⟨r₀, hr₀, hf₀⟩ := hnone.mp rfl
      obtain ⟨k, hk, ⟨hpre, hret, hfin⟩, hsent⟩ := waitForTaskFinished_returns c taskId fuel _ w' r h
      refine ⟨k + 1, by omega, ⟨fun j hj => ?_, (getReturns_pass k r).mp hret, hfin⟩, ?_⟩
      · rcases j with _ | j
        · exact ⟨r₀, hr₀, hf₀⟩
        · obtain ⟨rj, hrj, hfj⟩ := hpre j (by omega)
          exact ⟨rj, (getReturns_pass j rj).mp hrj, hfj⟩
      · rw [hsent, List.append_assoc, List.singleton_append, ← List.replicate_succ]
    · simp only [PyM.exec_pure, Prod.mk.injEq, Except.ok.injEq, Option.some.injEq] at h
      obtain ⟨rfl, rfl⟩ := h
      obtain ⟨ht, hft⟩ := (hsome t).mp rfl
      exact ⟨0, by omega, ⟨fun j hj => absurd hj (Nat.not_lt_zero j), ht, hft⟩, rfl⟩

/-- With more polls than the first finished response's position, the loop returns it. -/
theorem waitForTaskFinished_of_firstFinished (c : AS3RestClient) (taskId : JsonValue) :
    ∀ (k : Nat) (w : World) (r : Response), FirstFinished c taskId w k r →
      ∀ fuel, k < fuel → ∃ w', (c.waitForTaskFinished taskId fuel).exec w = (.ok (some r), w') ∧
        w'.sent = w.sent ++ List.replicate (k + 1) (c.taskRequest taskId)
  | _, _, _, _, 0, hk => absurd hk (Nat.not_lt_zero _)
  | k, w, r, ⟨hpre, hret, hfin⟩, fuel + 1, hk => by
    obtain ⟨o, L, hp, hsome, hnone⟩ := pollTask_spec c taskId w
    rw [waitForTaskFinished, PyM.exec_bind, hp]
    rcases k with _ | k
    · rw [(hsome r).mpr ⟨hret, hfin⟩]
      exact ⟨_, rfl, rfl⟩
    · rw [hnone.mpr (hpre 0 (by omega))]
      have hnext : FirstFinished c taskId
          { w with sent := w.sent ++ [c.taskRequest taskId], log := w.log ++ L } k r :=
        ⟨fun j hj => let ⟨rj, hrj, hfj⟩ := hpre (j + 1) (by omega)
          ⟨rj, (getReturns_pass j rj).mpr hrj, hfj⟩, (getReturns_pass k r).mpr hret, hfin⟩
      obtain ⟨w', hw', hsent'⟩ :=
        waitForTaskFinished_of_firstFinished c taskId k _ r hnext fuel (by omega)
      refine ⟨w', hw', ?_⟩
      rw [hsent', List.append_assoc, List.singleton_append, ← List.replicate_succ]

/-- When every poll the loop may make finds the task unfinished, it gives up after exactly that
many GETs of the task path. -/
theorem waitForTaskFinished_of_unfinished (c : AS3RestClient) (taskId : JsonValue) :
    ∀ (fuel : Nat) (w : World),
      (∀ j < fuel, ∃ rj, GetReturns c taskId w j rj ∧ taskFinished rj = .ok false) →
        ∃ w', (c.waitForTaskFinished taskId fuel).exec w = (.ok none, w') ∧
          w'.sent = w.sent ++ List.replicate fuel (c.taskRequest taskId)
  | 0, w, _ => ⟨w, rfl, by simp⟩
  | fuel + 1, w, hpolls => by
    obtain ⟨o, L, hp, -, hnone⟩ := pollTask_spec c taskId w
    rw [waitForTaskFinished, PyM.exec_bind, hp, hnone.mpr (hpolls 0 (by omega))]
    obtain ⟨w', hw', hsent'⟩ := waitForTaskFinished_of_unfinished c taskId fuel _ fun j hj =>
      let ⟨rj, hrj, hfj⟩ := hpolls (j + 1) (by omega)
      ⟨rj, (getReturns_pass j rj).mpr hrj, hfj⟩
    refine ⟨w', hw', ?_⟩
    rw [hsent', List.append_assoc, List.singleton_append, ← List.replicate_succ]

theorem allM_eq_ok_true {α : Type} (p : α → Except PyError Bool) :
    ∀ xs : List α, xs.allM p = .ok true ↔ ∀ x ∈ xs, p x = .ok true
  | [] => by simp [List.allM, pure, Except.pure]
  | x :: xs => by
    simp only [List.allM, List.mem_cons, forall_eq_or_imp, bind, Except.bind]
    rcases p x with e | (_ | _) <;> simp [allM_eq_ok_true p xs, pure, Except.pure]

/-- A finished task response: `task.ok`, and every result of `task.json()['results']` has a
`code` that is not `0`. -/
theorem taskFinished_eq_true_iff (r : Response) :
    taskFinished r = .ok true ↔ r.ok ∧ ∃ v results items, r.json = .ok v ∧
      v.getItem "results" = .ok results ∧ results.iter = .ok items ∧
      ∀ res ∈ items, ∃ code, res.getItem "code" = .ok code ∧ code.neZero := by
  unfold taskFinished
  by_cases hok : r.ok
  · simp only [hok, if_true, true_and, bind, Except.bind]
    rcases r.json with e | v
    · simp
    rcases hres : v.getItem "results" with e | results
    · simp [hres]
    rcases hit : results.iter with e | items
    · simp [hres, hit]
    simp only [hres, hit, allM_eq_ok_true, Except.ok.injEq]
    constructor
    · intro h
      refine ⟨v, results, items, rfl, hres, hit, fun res hr => ?_⟩
      have := h res hr
      cases hc : res.getItem "code" <;> simp_all [pure, Except.pure]
    · rintro ⟨_, results', items', rfl, hres', hit', h⟩ res hr
      rw [hres] at hres'
      cases hres'
      rw [hit] at hit'
      cases hit'
      obtain ⟨code, hc, hz⟩ := h res hr
      simp [hc, hz, pure, Except.pure]
  · simp [hok, pure, Except.pure]

/-- `wait_for_task_finished` returns `r` exactly when `r` is the first finished response among
those its GETs return and every earlier test evaluated to `False`; it has then put one GET of
the task path on the wire per position, up to and including `r`'s. -/
theorem waitForTaskFinished_first_finished (c : AS3RestClient) (taskId : JsonValue) (w : World)
    (r : Response) :
    ((∃ fuel w', (c.waitForTaskFinished taskId fuel).exec w = (.ok (some r), w')) ↔
      ∃ k, FirstFinished c taskId w k r) ∧
    ∀ fuel w', (c.waitForTaskFinished taskId fuel).exec w = (.ok (some r), w') →
      ∃ k < fuel, FirstFinished c taskId w k r ∧
        w'.sent = w.sent ++ List.replicate (k + 1) (c.taskRequest taskId) := by
  refine ⟨⟨fun ⟨fuel, w', h⟩ => ?_, fun ⟨k, hk⟩ => ?_⟩,
    fun fuel w' => waitForTaskFinished_returns c taskId fuel w w' r⟩
  · obtain ⟨k, -, hk, -⟩ := waitForTaskFinished_returns c taskId fuel w w' r h
    exact ⟨k, hk⟩
  · obtain ⟨w', hw', -⟩ := waitForTaskFinished_of_firstFinished c taskId k w r hk (k + 1) (by omega)
    exact ⟨k + 1, w', hw'⟩

/-! ### What the loop raises, and when it gives up -/

theorem allM_error {α : Type} (p : α → Except PyError Bool) :
    ∀ {xs : List α} {e : PyError}, xs.allM p = .error e → ∃ x ∈ xs, p x = .error e
  | [], _, h => by cases h
  | x :: xs, e, h => by
    simp only [List.allM, bind, Except.bind] at h
    rcases hx : p x with e' | (_ | _) <;> rw [hx] at h
    · cases h
      exact ⟨x, List.mem_cons_self x xs, hx⟩
    · cases h
    · obtain ⟨y, hy, hpy⟩ := allM_error p h
      exact ⟨y, List.mem_cons_of_mem x hy, hpy⟩

/-- The test raises `ValueError` for a body that is not JSON, `KeyError` and `TypeError` for
one without the `results` of a task. -/
theorem taskFinished_error_ofRequest {r : Response} {e : PyError}
    (h : taskFinished r = .error e) : e.OfRequest := by
  unfold taskFinished at h
  split_ifs at h
  · rcases bind_eq_error h with h | ⟨v, -, h⟩
    · exact Response.json_error_ofRequest h
    rcases bind_eq_error h with h | ⟨results, -, h⟩
    · exact JsonValue.getItem_error_ofRequest h
    rcases bind_eq_error h with h | ⟨items, -, h⟩
    · exact JsonValue.iter_error_ofRequest h
    obtain ⟨res, -, h⟩ := allM_error _ h
    rcases bind_eq_error h with h | ⟨_, -, h⟩
    · exact JsonValue.getItem_error_ofRequest h
    · cases h
  · cases h

/-- A pass raises what its GET or its test raises. -/
theorem pollTask_raisesOnly (c : AS3RestClient) (taskId : JsonValue) :
    PyM.RaisesOnly PyError.OfRequest (c.pollTask taskId) :=
  (send_raisesOnly c _ _ _).bind fun _ =>
    (PyM.RaisesOnly.lift fun _ => taskFinished_error_ofRequest).bind fun b => by
      cases b <;> exact .pure _

/-- The loop raises what a GET or a test raises, never a timeout: `None` is how it gives up. -/
theorem waitForTaskFinished_raisesOnly (c : AS3RestClient) (taskId : JsonValue) :
    ∀ fuel, PyM.RaisesOnly PyError.OfRequest (c.waitForTaskFinished taskId fuel)
  | 0 => .pure _
  | fuel + 1 => (pollTask_raisesOnly c taskId).bind fun o => by
      cases o
      · exact waitForTaskFinished_raisesOnly c taskId fuel
      · exact .pure _

/-- A loop that gives up has found the task unfinished at every poll it was allowed. -/
theorem unfinished_of_waitForTaskFinished_none (c : AS3RestClient) (taskId : JsonValue) :
    ∀ (fuel : Nat) (w w' : World), (c.waitForTaskFinished taskId fuel).exec w = (.ok none, w') →
      ∀ j < fuel, ∃ rj, GetReturns c taskId w j rj ∧ taskFinished rj = .ok false
  | 0, _, _, _ => fun j hj => absurd hj (Nat.not_lt_zero j)
  | fuel + 1, w, w', h => by
    obtain ⟨o, L, hp, -, hnone⟩ := pollTask_spec c taskId w
    rw [waitForTaskFinished, PyM.exec_bind, hp] at h
    rcases o with e | (_ | t)
    · cases h
    · rintro (_ | j) hj
      · exact hnone.mp rfl
      · obtain ⟨rj, hrj, hfj⟩ := unfinished_of_waitForTaskFinished_none c taskId fuel _ w' h j
          (by omega)
        exact ⟨rj, (getReturns_pass j rj).mp hrj, hfj⟩
    · simp at h

/-! ### A task response without `results` -/

/-- A device at `https://10.0.0.1`. -/
def device : Bigip.Target :=
  ⟨"https", "10.0.0.1", .inr rfl, ⟨by decide, by decide⟩⟩

/-- An ok JSON reply with the given body. -/
def jsonReply (v : JsonValue) : Reply :=
  ⟨200, [("Content-Type", "application/json")], Body.ofJson v⟩

/-- The appliance answers every request with an ok, empty JSON object. -/
def acceptingWorld : World :=
  ⟨fun _ => some (jsonReply (.obj [])), (fun _ _ h => by cases h; rfl), fun _ => 0, fun _ => 0,
    [], [], default, []⟩

/-- The appliance first answers a poll with `{}`, then with a finished task. -/
def malformedThenFinished : World :=
  ⟨fun n => if n = 0 then some (jsonReply (.obj []))
      else if n = 1 then some (jsonReply (.obj [("results", .arr [.obj [("code", .num 1)]])]))
      else none,
    (fun n _ h => by dsimp only at h; split_ifs at h <;> cases h <;> rfl), fun _ => 0, fun _ => 0,
    [], [], default, []⟩

/-- The second GET returns a finished response, but the loop's test raises `KeyError` on the
first response, `{}`: the loop raises it and never returns the finished response. -/
theorem waitForTaskFinished_raises_before_finished :
    ¬((∃ fuel r w', ((init device .none false).waitForTaskFinished (.str "t1") fuel).exec
          malformedThenFinished = (.ok (some r), w')) ↔
        ∃ k r, (∀ j < k, ∃ rj,
          GetReturns (init device .none false) (.str "t1") malformedThenFinished j rj) ∧
          GetReturns (init device .none false) (.str "t1") malformedThenFinished k r ∧
          taskFinished r = .ok true) := by
  have hret : ∀ j r, GetReturns (init device .none false) (.str "t1") malformedThenFinished j r ↔
      malformedThenFinished.replies j = some r.reply ∧
        r.request = (init device .none false).taskRequest (.str "t1") := by
    simp [GetReturns, init, malformedThenFinished]
  have hfirst : ∀ r, GetReturns (init device .none false) (.str "t1") malformedThenFinished 0 r →
      taskFinished r = .error (.keyError "results") := by
    rintro ⟨reply, req⟩ h
    obtain ⟨hr, -⟩ := (hret 0 _).mp h
    cases hr
    rfl
  refine fun h => ?_
  obtain ⟨fuel, r, w', hw⟩ := h.mpr ⟨1, ⟨_, (init device .none false).taskRequest (.str "t1")⟩,
    fun j hj => ⟨⟨jsonReply (.obj []), _⟩,
      (hret j _).mpr ⟨by simp [malformedThenFinished, show j = 0 by omega], rfl⟩⟩,
    (hret 1 _).mpr ⟨rfl, rfl⟩, rfl⟩
  obtain ⟨k, -, ⟨hpre, hk, hfin⟩, -⟩ := waitForTaskFinished_returns _ _ fuel _ w' r hw
  rcases k with _ | k
  · rw [hfirst r hk] at hfin
    cases hfin
  · obtain ⟨r₀, hr₀, hf₀⟩ := hpre 0 (by omega)
    rw [hfirst r₀ hr₀] at hf₀
    cases hf₀

end AS3RestClient
end OctaviaF5

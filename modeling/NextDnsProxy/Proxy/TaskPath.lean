import NextDnsProxy.Proxy.Accounting

/-!
# What a query task does, path by path

A task's path through tcp.go:69–118 is fixed by what its collaborators do. `TaskInv` says, at each
statement, what the task has done to shared state so far (its trail of effects) and what its `err`
and `rsize` are, in terms of `TaskEnv` alone. The global invariant `ConnInv` bundles `Owned`,
`Acct` and `TaskInv` of every task, and holds at every reachable state (`connInv_reachable`).

* **`TaskInv.step`** — every task step on an open connection keeps `TaskInv`.
* **`join_before_close`** — the `WaitGroup` counter is never negative; when `serveTCPConn` returns,
  the connection is closed and every task has put both buffers back, released its token, logged
  its record and run `wg.Done()`, after at most one `writeTCP`; once the connection is closed
  nothing is written to it and no task moves; and once the read loop is in its deferred function
  no task is added and the counter never rises.
* **`logged_error_eq_none_iff`** — a task logs `Error = nil` exactly when `Resolve` returned a nil
  error, nothing panicked, and both `Write`s of `writeTCP` succeeded. Neither a parse error nor a
  SERVFAIL answer to a size outside 1..65535 shows in the record: `Resolve` overwrites `err`.
-/

namespace NextDnsProxy.Proxy.Conn

open BufferPool Framing

variable {cfg : Config} {env : ℕ → TaskEnv} {p : TieredBufferPool} {mem : Memory}
    {st input : Stream} {s : ConnState}

/-! ### A task's path, from what its collaborators do -/

/-- tcp.go:110: the task answers SERVFAIL instead of `rbuf[:rsize]`. -/
def Resolved.servfail (r : Resolved) : Prop :=
  r.err ≠ none ∨ r.rsize ≤ 0 ∨ (maxTCPSize : ℤ) < r.rsize

instance (r : Resolved) : Decidable r.servfail := inferInstanceAs (Decidable (_ ∨ _))

/-- The task calls `writeTCP`: `Resolve` returned, and so did `replyRCode` if the task called it. -/
def TaskEnv.replies (e : TaskEnv) : Bool :=
  match e.resolve, e.replyRCode with
  | .panic, _ => false
  | .ret r, .panic => !decide r.servfail
  | .ret _, .ret () => true

/-- A task hands `writeTCP` nothing exactly when `Resolve` panicked, or reported failure and then
`replyRCode` panicked. -/
theorem TaskEnv.replies_eq_false_iff (e : TaskEnv) :
    e.replies = false ↔
      e.resolve = .panic ∨ ∃ r, e.resolve = .ret r ∧ r.servfail ∧ e.replyRCode = .panic := by
  unfold TaskEnv.replies
  split <;> simp_all

/-- What `err` holds after `writeTCP` on an open connection, from what it held before
(tcp.go:113–117, 133–139). -/
def TaskEnv.writeErr (e : TaskEnv) (err : Option TaskErr) : Option TaskErr :=
  match e.writeLen, e.writeBody with
  | .panic, _ => some .panic
  | .ret (some w), _ => err.or (some (.write w))
  | .ret none, .panic => some .panic
  | .ret none, .ret w => err.or (w.map .write)

/-- The error a task logs on an open connection, from what its collaborators do. -/
def TaskEnv.loggedErr (e : TaskEnv) : Option TaskErr :=
  match e.resolve with
  | .panic => some .panic
  | .ret r => if e.replies then e.writeErr (r.err.map .resolve) else some .panic

/-- The effects of the task's deferred function by the time it is at `pc`. -/
def QueryTask.cleanup (t : QueryTask) : TaskPc → List Effect
  | .putRBuf => [.put t.buf]
  | .release => [.put t.buf, .put t.rbuf]
  | .logQuery => [.put t.buf, .put t.rbuf, .release]
  | .done => [.put t.buf, .put t.rbuf, .release, .logQuery t.record]
  | .finished => [.put t.buf, .put t.rbuf, .release, .logQuery t.record, .done]
  | _ => []

/-- A `writeTCP` on the connection. -/
def Effect.isWrite : Effect → Bool
  | .writeTCP _ => true
  | _ => false

/-- **What a task has done by the time it is at each statement**, when its collaborators behave
as `e`: no effect before `writeTCP`; at most one `writeTCP`, made exactly when the task replies;
then the deferred function's effects in order, with `err` final. -/
def TaskInv (e : TaskEnv) (t : QueryTask) : Prop :=
  match t.pc with
  | .start | .getLarge | .resolve => t.trail = []
  | .writeLen => t.trail = [] ∧ e.replies ∧ 0 ≤ t.rsize ∧ t.rsize ≤ maxTCPSize ∧
      ∃ r, e.resolve = .ret r ∧ t.err = r.err.map .resolve
  | .writeBody => (∃ b, t.trail = [.writeTCP b]) ∧ e.replies ∧ e.writeLen = .ret none ∧
      ∃ r, e.resolve = .ret r ∧ t.err = r.err.map .resolve
  | .crashed => t.trail = [.done]
  | pc => ∃ pre, t.trail = pre ++ t.cleanup pc ∧ pre.length = (if e.replies then 1 else 0) ∧
      (∀ x ∈ pre, x.isWrite) ∧ t.err = e.loggedErr

theorem replyRCode_length (rcode : ℕ) (q : Query) :
    (replyRCode rcode q).length = 12 + q.question.length := by
  simp [replyRCode]
  omega

theorem TaskInv.spawn (e : TaskEnv) (b : Slice) (n : ℕ) : TaskInv e (QueryTask.spawn b n) := rfl

/-- **Task steps on an open connection keep `TaskInv`.** -/
theorem TaskInv.step {e : TaskEnv} {pick : Option ℕ} {s' : ConnState}
    {t t' : QueryTask} (hinv : TaskInv e t) (hclosed : s.closed = false)
    (hbig : ∀ b ∈ t.bufs, b.cap = 65536) (h : taskStep cfg e pick s t = some (s', t')) :
    TaskInv e t' := by
  unfold taskStep at h
  cases hpc : t.pc <;> simp only [hpc] at h <;> simp only [TaskInv, hpc] at hinv
  case start =>
    split at h <;> (try split at h) <;> cases h <;> simp [TaskInv, crash, hinv]
  case getLarge => cases h; simp [TaskInv, hinv]
  case resolve =>
    split at h
    · cases h
      simp [TaskInv, QueryTask.recover, QueryTask.cleanup, TaskEnv.loggedErr, TaskEnv.replies, *]
    · rename_i r hr
      split at h
      · split at h <;> cases h
        · simp [TaskInv, QueryTask.recover, QueryTask.cleanup, TaskEnv.loggedErr, TaskEnv.replies,
            Resolved.servfail, *]
        · -- SERVFAIL: `rsize` is the length of the message `replyRCode` wrote
          have hlen := replyRCode_length rcodeServerFailure t.q
          have hq := t.q.question_le
          simp [TaskInv, TaskEnv.replies, hr, hlen, maxTCPSize, *]
          omega
      · cases h
        have hr' : e.replies = true := by
          cases hrc : e.replyRCode <;> simp [TaskEnv.replies, hr, hrc, Resolved.servfail, *]
        simp [TaskInv, hr, hr', *]
        omega
  case writeLen =>
    obtain ⟨htr, hrep, h0, hmax, r, hr, herr⟩ := hinv
    have hcap : t.rbuf.cap = 65536 := hbig _ (by simp [QueryTask.bufs, hpc])
    rw [if_neg (by simp only [maxTCPSize] at hmax; omega)] at h
    cases hw : e.writeLen with
    | ret w =>
      cases w <;> simp only [writeOutcome, hclosed, hw, Option.map] at h <;> cases h
      · simp [TaskInv, htr, hrep, hr, herr, hw]
      · simp [TaskInv, QueryTask.cleanup, Effect.isWrite, TaskEnv.loggedErr, TaskEnv.writeErr,
          htr, hrep, hr, herr, hw]
    | panic =>
      simp only [writeOutcome, hclosed, hw] at h
      cases h
      simp [TaskInv, QueryTask.recover, QueryTask.cleanup, Effect.isWrite, TaskEnv.loggedErr,
        TaskEnv.writeErr, htr, hrep, hr, hw]
  case writeBody =>
    obtain ⟨⟨b, htr⟩, hrep, hwl, r, hr, herr⟩ := hinv
    cases hw : e.writeBody <;> simp only [writeOutcome, hclosed, hw] at h <;> cases h <;>
      simp [TaskInv, QueryTask.recover, QueryTask.cleanup, Effect.isWrite, TaskEnv.loggedErr,
        TaskEnv.writeErr, htr, hrep, hr, herr, hwl, hw]
  case finished | crashed => cases h
  all_goals
    obtain ⟨pre, htr, hlen, hw, herr⟩ := hinv
    (try split at h) <;> cases h
    exact ⟨pre, by simp [htr, QueryTask.cleanup, QueryTask.record], hlen, hw, herr⟩

/-- The error a task logs is nil exactly when `Resolve` returned a nil error, `replyRCode`
returned if it was called, and both `Write`s returned nil. -/
theorem TaskEnv.loggedErr_eq_none_iff (e : TaskEnv) :
    e.loggedErr = none ↔ ∃ r, e.resolve = .ret r ∧ r.err = none ∧
      (r.servfail → e.replyRCode = .ret ()) ∧ e.writeLen = .ret none ∧ e.writeBody = .ret none := by
  have hw : ∀ err, e.writeErr err = none ↔
      err = none ∧ e.writeLen = .ret none ∧ e.writeBody = .ret none := by
    intro err
    unfold writeErr
    split <;> simp_all
  unfold loggedErr replies
  split <;> rename_i r hr
  · simp [hr]
  · cases hrc : e.replyRCode <;> by_cases hs : r.servfail <;> simp [hw, hr, hrc, hs]

/-- A task's record appears in its trail only once it has logged, and carries the final `err`. -/
theorem TaskInv.logQuery_mem {e : TaskEnv} {t : QueryTask} {rec : QueryInfo} (h : TaskInv e t)
    (hl : .logQuery rec ∈ t.trail) : rec = t.record ∧ t.err = e.loggedErr := by
  have hpre : ∀ pre : List Effect, (∀ x ∈ pre, x.isWrite) → .logQuery rec ∉ pre :=
    fun pre hw hm => by simpa [Effect.isWrite] using hw _ hm
  cases hpc : t.pc <;> simp only [TaskInv, hpc] at h
  case start | getLarge | resolve | crashed => simp [h] at hl
  case writeLen => simp [h.1] at hl
  case writeBody => obtain ⟨⟨b, htr⟩, -⟩ := h; simp [htr] at hl
  all_goals
    obtain ⟨pre, htr, -, hw, herr⟩ := h
    simp only [htr, QueryTask.cleanup, List.mem_append, List.mem_cons, List.mem_singleton,
      Effect.logQuery.injEq, reduceCtorEq, List.not_mem_nil, or_false, false_or] at hl
    first
      | exact absurd hl (hpre pre hw)
      | exact (hl.resolve_left (hpre pre hw)) ▸ ⟨rfl, herr⟩

/-! ### The connection invariant -/

/-- **The connection invariant**: ownership, the counters, and the path facts of every task, whose
collaborators behave as `env` gives for its spawn index. -/
structure ConnInv (cfg : Config) (env : ℕ → TaskEnv) (s : ConnState) : Prop where
  owned : Owned s
  acct : Acct cfg s
  tasks : ∀ i t, s.tasks[i]? = some t → TaskInv (env i) t

/-- Where a task after a move comes from: it was there as it is, it is the task that moved, or the
read loop has just spawned it. -/
theorem Move.task_of {s' : ConnState}
    (hm : Move cfg env s s') {i : ℕ} {u : QueryTask} (hi : s'.tasks[i]? = some u) :
    s.tasks[i]? = some u ∨
      (∃ t pick s₁, s.tasks[i]? = some t ∧ taskStep cfg (env i) pick s t = some (s₁, u) ∧
        s' = { s₁ with tasks := s.tasks.set i u }) ∨
      ∃ b n, u = QueryTask.spawn b n := by
  cases hm with
  | loop pick hl =>
    cases hl with
    | spawn b res =>
      rcases lt_or_ge i s.tasks.length with hlt | hge
      · exact .inl (by rwa [List.getElem?_append_left hlt] at hi)
      · -- the task just spawned
        rw [List.getElem?_append_right hge] at hi
        exact .inr (.inr ⟨b, _, (List.mem_singleton.1 (List.getElem?_mem hi))⟩)
    | _ => exact .inl hi
  | task j pick hj ht =>
    rcases eq_or_ne j i with rfl | hne
    · rw [List.getElem?_set_self (List.getElem?_eq_some_iff.1 hj).1] at hi
      cases hi
      exact .inr (.inl ⟨_, pick, _, hj, ht, rfl⟩)
    · exact .inl (by rwa [List.getElem?_set_ne hne] at hi)
  | drop tier k => exact .inl hi

/-- A task that can still step finds the connection open. -/
theorem Joins.closed_eq_false {t : QueryTask} (h : Joins s) (ht : t ∈ s.tasks)
    (hpc : t.pc ≠ .finished) : s.closed = false := by
  rw [h.closed]
  cases hl : s.loop <;> try rfl
  exact absurd (h.joined (by simp [hl, ReadLoop.joined]) t ht) hpc

/-- A task that can step finds the connection open. -/
theorem Joins.closed_of_taskStep {e : TaskEnv} {pick : Option ℕ}
    {s₁ : ConnState} {t t' : QueryTask} (h : Joins s) (ht : t ∈ s.tasks)
    (hs : Conn.taskStep cfg e pick s t = some (s₁, t')) : s.closed = false :=
  h.closed_eq_false ht fun hf => by
    have hn := (taskStep_spec hs).next
    simp [hf, TaskPc.next] at hn

/-- **Every move keeps `TaskInv` of every task**: the task that moves by `TaskInv.step`, every
other task because it is as it was. -/
theorem tasksInv_move {s' : ConnState} (ho : Owned s)
    (hj : Joins s) (h : ∀ i t, s.tasks[i]? = some t → TaskInv (env i) t)
    (hm : Move cfg env s s') : ∀ i u, s'.tasks[i]? = some u → TaskInv (env i) u := by
  intro i u hi
  rcases hm.task_of hi with hu | ⟨t, pick, s₁, ht, hs, -⟩ | ⟨b, n, rfl⟩
  · exact h i u hu
  · -- the task that moved
    have hmem := List.getElem?_mem ht
    exact (h i t ht).step (hj.closed_of_taskStep hmem hs)
      (fun b hb => ho.large b (List.mem_append_right _ (List.mem_flatMap.2 ⟨_, hmem, hb⟩))) hs
  · exact TaskInv.spawn _ b n

theorem ConnInv.init (cfg : Config) (env : ℕ → TaskEnv) (hp : PoolWF p)
    (mem : Memory) (input : Stream) : ConnInv cfg env (ConnState.init p mem input) :=
  ⟨Owned.init hp mem input, Acct.init cfg p mem input,
    fun i t h => by simp [ConnState.init] at h⟩

/-- **Every step of a live connection keeps `ConnInv`.** -/
theorem ConnInv.move {s' : ConnState}
    (h : ConnInv cfg env s) (hc : s.crashed = false) (hm : Move cfg env s s') :
    ConnInv cfg env s' :=
  ⟨h.owned.move hm, h.acct.move hc hm, tasksInv_move h.owned h.acct.joins h.tasks hm⟩

/-- **`ConnInv` at every reachable state.** -/
theorem connInv_reachable (hp : PoolWF p)
    (hr : Reachable cfg env (ConnState.init p mem input) s) : ConnInv cfg env s :=
  hr.inv (ConnInv.init cfg env hp mem input) fun h hc hm => h.move hc hm

/-! ### Join before close -/

/-- **Join before close**, at one state of a connection. -/
structure JoinBeforeClose (cfg : Config) (env : ℕ → TaskEnv) (s : ConnState) : Prop where
  /-- The `WaitGroup` counter is never negative. -/
  wg_nonneg : 0 ≤ s.wg
  /-- When `serveTCPConn` has returned, the connection is closed and every task has finished: at
  most one `writeTCP`, then both `Put`s, the release of its token, its record and `wg.Done()`. -/
  returned : ∀ r, s.loop = .returned r → s.closed = true ∧ ∀ t ∈ s.tasks, t.pc = .finished ∧
    ∃ pre, t.trail = pre ++ [.put t.buf, .put t.rbuf, .release, .logQuery t.record, .done] ∧
      pre.length ≤ 1 ∧ ∀ x ∈ pre, x.isWrite
  /-- After `c.Close()` nothing is written to the connection and no task moves. -/
  closed : s.closed = true → ∀ c s', step cfg env s c = some s' →
    s'.out = s.out ∧ s'.tasks = s.tasks
  /-- Once `wg.Wait()` has begun, no task is added and the counter never rises. -/
  waiting : s.loop.inDefer = true → ∀ c s', step cfg env s c = some s' →
    s'.loop.inDefer = true ∧ s'.tasks.length = s.tasks.length ∧ s'.wg ≤ s.wg

/-- No task of a joined connection moves. -/
theorem taskStep_ne_of_joined {e : TaskEnv} {pick : Option ℕ} {s' : ConnState}
    {t t' : QueryTask} (h : Joins s) (hj : s.loop.joined = true) (ht : t ∈ s.tasks) :
    taskStep cfg e pick s t ≠ some (s', t') := fun hs => by
  have hn := (taskStep_spec hs).next
  simp [h.joined hj t ht, TaskPc.next] at hn

/-- Join before close follows from `Joins` and `TaskInv` of every task. -/
theorem JoinBeforeClose.of_joins (ha : Joins s)
    (h : ∀ i t, s.tasks[i]? = some t → TaskInv (env i) t) : JoinBeforeClose cfg env s := by
  refine ⟨by rw [ha.wg]; omega, fun r hl => ⟨?_, fun t ht => ?_⟩,
    fun hcl c s' hs => ?_, fun hw c s' hs => ?_⟩
  · simp [ha.closed, hl, ReadLoop.isReturned]
  · -- a finished task has run its whole deferred function
    have hf := ha.joined (by simp [hl, ReadLoop.joined]) t ht
    obtain ⟨i, hi⟩ := List.mem_iff_getElem?.1 ht
    have hinv := h i t hi
    simp only [TaskInv, hf] at hinv
    obtain ⟨pre, htr, hlen, hw, -⟩ := hinv
    exact ⟨hf, pre, htr, by split at hlen <;> omega, hw⟩
  · -- the loop has returned and every task has finished
    have hl : s.loop.joined = true := by
      cases hl : s.loop <;> simp_all [ReadLoop.isReturned, ReadLoop.joined, ha.closed]
    obtain ⟨-, hm⟩ := step_move hs
    cases hm with
    | loop pick hm => cases hm <;> simp_all [ReadLoop.joined]
    | task i pick hi ht => exact absurd ht (taskStep_ne_of_joined ha hl (List.getElem?_mem hi))
    | drop tier j => exact ⟨rfl, rfl⟩
  · obtain ⟨-, hm⟩ := step_move hs
    cases hm with
    | loop pick hm => cases hm <;> simp_all [ReadLoop.inDefer]
    | task i pick hi ht =>
      have hs := taskStep_spec ht
      refine ⟨by simp [hs.loop, hw], by simp, ?_⟩
      rw [hs.wg]; split <;> omega
    | drop tier j => exact ⟨hw, rfl, le_rfl⟩

/-- **Join before close at every reachable state.** -/
theorem join_before_close (hp : PoolWF p)
    (hr : Reachable cfg env (ConnState.init p mem input) s) : JoinBeforeClose cfg env s :=
  have h := connInv_reachable hp hr
  .of_joins h.acct.joins h.tasks

theorem join_before_close_serveOne :
    JoinBeforeClose ⟨fun _ _ _ => .ret (default, none), 1⟩
      (fun _ => .resolving (.ret ⟨[], 12, default, none⟩))
      ((run ⟨fun _ _ _ => .ret (default, none), 1⟩
        (fun _ => .resolving (.ret ⟨[], 12, default, none⟩))
        (.fresh (queries 1 15)) (serveOne 10)).getD (.fresh (queries 1 15))) :=
  join_before_close poolWF_new (reachable_run_getD .init (by decide))

/-! ### One reply per task, and the error it logs -/

/-- **At most one reply.** A finished task has made one `writeTCP` if `Resolve` returned, and so
did `replyRCode` if the task called it, and none otherwise. -/
theorem finished_writes (hp : PoolWF p)
    (hr : Reachable cfg env (ConnState.init p mem input) s) {i : ℕ}
    (hf : s.tasks[i]?.map (·.pc) = some .finished) :
    s.tasks[i]?.map (·.trail.countP Effect.isWrite) = some (if (env i).replies then 1 else 0) := by
  obtain ⟨t, hi, hf⟩ := Option.map_eq_some'.1 hf
  have hinv := (connInv_reachable hp hr).tasks i t hi
  simp only [TaskInv, hf] at hinv
  obtain ⟨pre, htr, hlen, hw, -⟩ := hinv
  rw [hi, Option.map_some', htr, List.countP_append, List.countP_eq_length.2 hw, hlen]
  simp [QueryTask.cleanup, Effect.isWrite]

theorem finished_writes_serveOne :
    ((run ⟨fun _ _ _ => .ret (default, none), 1⟩
        (fun _ => .resolving (.ret ⟨[], 12, default, none⟩))
        (.fresh (queries 1 15)) (serveOne 10)).getD (.fresh (queries 1 15))).tasks[0]?.map
      (·.trail.countP Effect.isWrite) =
      some (if (TaskEnv.resolving (.ret ⟨[], 12, default, none⟩)).replies then 1 else 0) :=
  finished_writes poolWF_new (reachable_run_getD .init (by decide)) (by decide)

/-- `Resolve` panics: the task recovers, puts both buffers back, releases its token and logs the
panic, but sends no reply, and the connection closes with nothing written to it. -/
theorem resolve_panic_no_reply :
    (run ⟨fun _ _ _ => .ret (default, none), 1⟩ (fun _ => .resolving .panic) (.fresh (queries 1 15))
        (serveOne 8)).map
        (fun s => (s.out, s.closed, s.tasks.map fun t => t.trail.countP Effect.isWrite)) =
      some ([], true, [0]) := by
  decide

/-- The record task `i` has logged, if it has (`p.logQuery`, tcp.go:90–102). -/
def ConnState.record (s : ConnState) (i : ℕ) : Option QueryInfo :=
  s.tasks[i]?.bind fun t => t.trail.findSome? fun
    | .logQuery r => some r
    | _ => none

theorem ConnState.record_eq_some {i : ℕ} {rec : QueryInfo}
    (h : s.record i = some rec) :
    ∃ t, s.tasks[i]? = some t ∧ .logQuery rec ∈ t.trail := by
  obtain ⟨t, hi, hf⟩ := Option.bind_eq_some.1 h
  obtain ⟨x, hx, hrec⟩ := List.exists_of_findSome?_eq_some hf
  cases x <;> simp only [Option.some.injEq, reduceCtorEq] at hrec
  exact ⟨t, hi, hrec ▸ hx⟩

/-- **The logged error.** A task logs `Error = nil` exactly when `Resolve` returned a nil error,
`replyRCode` returned if it was called, and both `Write`s of `writeTCP` returned nil. Whether
`query.New` failed and whether the reply is SERVFAIL play no part. -/
theorem logged_error_eq_none_iff (hp : PoolWF p)
    (hr : Reachable cfg env (ConnState.init p mem input) s) {i : ℕ} {rec : QueryInfo}
    (hl : s.record i = some rec) :
    rec.error = none ↔ ∃ r, (env i).resolve = .ret r ∧ r.err = none ∧
      (r.servfail → (env i).replyRCode = .ret ()) ∧ (env i).writeLen = .ret none ∧
      (env i).writeBody = .ret none := by
  obtain ⟨t, hi, hl⟩ := ConnState.record_eq_some hl
  obtain ⟨rfl, herr⟩ := ((connInv_reachable hp hr).tasks i t hi).logQuery_mem hl
  rw [← TaskEnv.loggedErr_eq_none_iff, ← herr]
  rfl

theorem logged_error_resolve_error :
    (⟨"", "TCP", 0, "", 15, 12, "", false, "", some (.resolve 5)⟩ : QueryInfo).error = none ↔
      ∃ r, (TaskEnv.resolving (.ret ⟨[], 12, default, some 5⟩)).resolve = .ret r ∧ r.err = none ∧
        (r.servfail → (TaskEnv.resolving (.ret ⟨[], 12, default, some 5⟩)).replyRCode = .ret ()) ∧
        (TaskEnv.resolving (.ret ⟨[], 12, default, some 5⟩)).writeLen = .ret none ∧
        (TaskEnv.resolving (.ret ⟨[], 12, default, some 5⟩)).writeBody = .ret none :=
  logged_error_eq_none_iff poolWF_new
    (reachable_run_getD .init (show (run ⟨fun _ _ _ => .ret (default, none), 1⟩
      (fun _ => .resolving (.ret ⟨[], 12, default, some 5⟩)) (.fresh (queries 1 15))
      (serveOne 10)).isSome by decide)) (i := 0) (by decide)

/-- A query `query.New` rejects, which `Resolve` answers with an empty reply: the task answers
SERVFAIL, and logs `Error = nil`. -/
theorem parse_failure_logged_nil :
    (run ⟨fun _ _ _ => .ret (default, some 1), 1⟩
        (fun _ => .resolving (.ret ⟨[], 0, default, none⟩))
        (.fresh (queries 1 15)) (serveOne 10)).bind (·.record 0) =
      some ⟨"", "TCP", 0, "", 15, 12, "", false, "", none⟩ := by
  decide

end NextDnsProxy.Proxy.Conn

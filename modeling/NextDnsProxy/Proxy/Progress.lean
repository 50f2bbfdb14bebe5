import NextDnsProxy.Proxy.Accounting

/-!
# Every connection completes

`serveTCPConn` and its tasks can neither get stuck nor run for ever: every interleaving of a
connection takes at most `L + 8` goroutine steps on a client stream of `L` bytes, and can be
carried on until `serveTCPConn` has returned or a panic has ended the process.

* **`no_deadlock`** — when `inflightRequests` has room for a token, at every reachable state where
  `serveTCPConn` has not returned and no panic has ended the process, the read loop or some task
  can move. A full channel means some live task holds a token and can go on to release it; a
  `wg.Wait()` that blocks means some task has not run `wg.Done()` and can move.
* **`goroutine_steps_le`** — every run from a fresh connection makes at most `L + 8` goroutine
  steps. Each frame the loop dispatches is at least 17 bytes long (a 2-byte prefix and more than
  14 bytes) and costs 13 steps: three of the loop and ten of its task. The runtime dropping pooled
  buffers is not a goroutine step and is not counted.
* **`completes`** — the two together: from every reachable state, some schedule of the loop and
  the tasks, within the budget left, ends with `serveTCPConn` returned or the process ended by a
  panic.

The collaborators are taken to return: each read of the client's stream, each `Write` and each
`Resolve` is one step that ends. tcp.go sets no deadline on the connection, so a client that stops
sending without closing, or stops reading its replies, pins the goroutine at that call, and with
it the token it holds, for as long as it does; no step of the model stands for that wait, and
these results say nothing about it.
-/

namespace NextDnsProxy.Proxy.Conn

open BufferPool Framing

variable {cfg : Config} {env : ℕ → TaskEnv} {p : TieredBufferPool} {mem : Memory}
    {st input : Stream} {s : ConnState}

/-! ### No deadlock -/

/-- A task that has not ended can move, unless it waits at `<-inflightRequests` on an empty
channel. -/
theorem taskStep_isSome (cfg : Config) (e : TaskEnv) (pick : Option ℕ)
    {t : QueryTask} (hrun : t.pc.running = true) (hrel : t.pc = .release → 0 < s.tokens) :
    (taskStep cfg e pick s t).isSome := by
  unfold taskStep
  cases hpc : t.pc <;> simp only [hpc, TaskPc.running, reduceCtorEq] at hrun hrel ⊢
  case release => simp [hrel]
  all_goals (repeat' split) <;> simp

theorem TaskPc.running_of_holdsToken {p : TaskPc} (h : p.holdsToken = true) (hc : p ≠ .crashed) :
    p.running = true := by
  cases p <;> simp_all [TaskPc.holdsToken, TaskPc.running]

/-- On a live connection, a task that has not ended can move: if it waits at
`<-inflightRequests`, the token it holds is in the channel. -/
theorem task_canStep (hle : s.holders ≤ s.tokens) (hc : s.crashed = false) {i : ℕ} {t : QueryTask}
    (hi : s.tasks[i]? = some t) (hrun : t.pc.running = true) :
    (step cfg env s (.task i none)).isSome := by
  have hrel : t.pc = .release → 0 < s.tokens := fun hpc => by
    have hpos : 0 < s.tasks.countP (·.pc.holdsToken) :=
      List.countP_pos_iff.2 ⟨t, List.getElem?_mem hi, by simp [hpc, TaskPc.holdsToken]⟩
    rw [ConnState.holders] at hle
    omega
  simpa [step, hc, hi] using taskStep_isSome cfg (env i) none hrun hrel

/-- On a live connection, a task holding a token can move. -/
theorem Joins.task_canStep_of_holds
    (hj : Joins s) (hle : s.holders ≤ s.tokens) (hc : s.crashed = false)
    (hpos : 0 < s.tasks.countP (·.pc.holdsToken)) :
    ∃ i, (step cfg env s (.task i none)).isSome := by
  obtain ⟨t, ht, hh⟩ := List.countP_pos_iff.1 hpos
  obtain ⟨i, hi⟩ := List.mem_iff_getElem?.1 ht
  exact ⟨i, task_canStep hle hc hi (TaskPc.running_of_holdsToken hh fun hpc => by
    simp [hj.crashed t ht hpc] at hc)⟩

/-- **A live connection can move**, unless its loop waits at a full `inflightRequests`: the loop
moves, or `wg.Wait()` blocks and a task the `WaitGroup` counts can move. -/
theorem Joins.canStep (hj : Joins s)
    (hle : s.holders ≤ s.tokens) (hc : s.crashed = false) (hret : s.loop.isReturned = false) :
    (step cfg env s (.loop none)).isSome ∨ (∃ i, (step cfg env s (.task i none)).isSome) ∨
      s.loop = .acquire ∧ cfg.capacity ≤ s.tokens := by
  cases hl : s.loop with
  | acquire =>
    by_cases htok : s.tokens < cfg.capacity
    · simp [step, hc, loopStep, hl, htok]
    · exact .inr (.inr ⟨rfl, by omega⟩)
  | release r =>
    -- the loop holds a token, so the channel is not empty
    simp only [ConnState.holders, hl, ReadLoop.holdsToken, ↓reduceIte] at hle
    simp [step, hc, loopStep, hl, show 0 < s.tokens by omega]
  | wait r =>
    by_cases hw : s.wg = 0
    · simp [step, hc, loopStep, hl, hw]
    · -- `wg.Wait()` blocks, so some task has not run `wg.Done()`
      have hpos : 0 < s.tasks.countP (·.pc.running) := by
        have := hj.wg
        simp only [ConnState.running] at this
        omega
      obtain ⟨t, ht, hrun⟩ := List.countP_pos_iff.1 hpos
      obtain ⟨i, hi⟩ := List.mem_iff_getElem?.1 ht
      exact .inr (.inl ⟨i, task_canStep hle hc hi hrun⟩)
  | returned r => simp [hl, ReadLoop.isReturned] at hret
  | read b =>
    left
    simp only [step, hc, loopStep, hl, Bool.false_eq_true, ↓reduceIte]
    (repeat' split) <;> simp
  | _ => simp [step, hc, loopStep, hl]

/-- A live connection whose goroutines hold a token can move. -/
theorem Joins.canStep_of_holders
    (hj : Joins s) (hle : s.holders ≤ s.tokens) (hc : s.crashed = false) (hh : 0 < s.holders) :
    (step cfg env s (.loop none)).isSome ∨ ∃ i, (step cfg env s (.task i none)).isSome := by
  by_cases hl : s.loop.holdsToken = true
  · -- the loop is between its send and its release
    have hret : s.loop.isReturned = false := by
      cases h : s.loop <;> simp_all [ReadLoop.holdsToken, ReadLoop.isReturned]
    rcases hj.canStep hle hc hret with h | h | ⟨h, -⟩
    · exact .inl h
    · exact .inr h
    · simp [h, ReadLoop.holdsToken] at hl
  · simp only [ConnState.holders, hl, Bool.false_eq_true, ↓reduceIte] at hh
    exact .inr (hj.task_canStep_of_holds hle hc (by omega))

/-- Where `Acct` holds and `inflightRequests` has room for a token, a live connection whose loop
has not returned can move: a full channel means some goroutine holds a token. -/
theorem Acct.canStep (h : Acct cfg s)
    (hcap : 0 < cfg.capacity) (hc : s.crashed = false) (hret : s.loop.isReturned = false) :
    (step cfg env s (.loop none)).isSome ∨ ∃ i, (step cfg env s (.task i none)).isSome := by
  rcases h.joins.canStep h.tokens.ge hc hret with hl | ht | ⟨-, hfull⟩
  · exact .inl hl
  · exact .inr ht
  · -- the channel is full, so some goroutine holds a token
    exact h.joins.canStep_of_holders h.tokens.ge hc (by have := h.tokens; omega)

/-- **No deadlock.** When `inflightRequests` has room for a token, at every reachable state where
`serveTCPConn` has not returned and no panic has ended the process, the read loop or some task
can move: the channel and the `WaitGroup` never block every goroutine. Reads, `Write`s and
`Resolve` are taken to return; a silent client is not a step of the model. -/
theorem no_deadlock (hcap : 0 < cfg.capacity)
    (hr : Reachable cfg env (ConnState.init p mem input) s) (hc : s.crashed = false)
    (hret : s.loop.isReturned = false) :
    (step cfg env s (.loop none)).isSome ∨ ∃ i, (step cfg env s (.task i none)).isSome :=
  Acct.canStep (hr.inv (Acct.init cfg p mem input) fun h hc hm => h.move hc hm) hcap hc hret

/-- One token, taken by the task the loop has just spawned: the loop waits at
`inflightRequests <- struct{}{}`, and the task can move. -/
theorem no_deadlock_full_channel :
    (step ⟨fun _ _ _ => .ret (default, none), 1⟩ (fun _ => .resolving .panic)
        ((run ⟨fun _ _ _ => .ret (default, none), 1⟩ (fun _ => .resolving .panic)
          (.fresh (queries 2 15)) (List.replicate 3 (.loop none))).getD (.fresh (queries 2 15)))
        (.loop none)).isSome ∨
      ∃ i, (step ⟨fun _ _ _ => .ret (default, none), 1⟩ (fun _ => .resolving .panic)
        ((run ⟨fun _ _ _ => .ret (default, none), 1⟩ (fun _ => .resolving .panic)
          (.fresh (queries 2 15)) (List.replicate 3 (.loop none))).getD (.fresh (queries 2 15)))
        (.task i none)).isSome :=
  no_deadlock (by decide) (reachable_run_getD .init (by decide)) (by decide) (by decide)

/-! ### No run goes on for ever -/

/-- How many more steps the read loop can make with `L` bytes of input unread: three per frame of
at least 17 bytes, then seven. -/
def ReadLoop.budget (L : ℕ) : ReadLoop → ℕ
  | .acquire => L + 7
  | .getLarge => L + 6
  | .read _ => L + 5
  | .put _ _ => 4
  | .release _ => 3
  | .wait _ => 2
  | .close _ => 1
  | .returned _ => 0

/-- How many more steps a task can make. -/
def TaskPc.budget : TaskPc → ℕ
  | .start => 10
  | .getLarge => 9
  | .resolve => 8
  | .writeLen => 7
  | .writeBody => 6
  | .putBuf => 5
  | .putRBuf => 4
  | .release => 3
  | .logQuery => 2
  | .done => 1
  | .finished | .crashed => 0

/-- How many more goroutine steps the connection can make: none once a panic has ended the
process. -/
def ConnState.budget (s : ConnState) : ℕ :=
  if s.crashed then 0 else s.loop.budget s.input.bytes.length + sumBy (·.pc.budget) s.tasks + 1

/-- Whether a move is the runtime dropping a pooled buffer rather than a goroutine's step. -/
def Choice.isDrop : Choice → Bool
  | .drop _ _ => true
  | _ => false

theorem TaskPc.budget_next (p : TaskPc) : ∀ q ∈ p.next, q.budget < p.budget := by
  cases p <;> decide

/-- A read-loop step spends budget: a dispatched frame of `n > 14` bytes takes `n + 2` bytes off
the stream, more than its task's ten steps. -/
theorem LoopMove.budget_lt {pick : Option ℕ} {s' : ConnState}
    (hm : LoopMove cfg pick s s') (hc : s.crashed = false) : s'.budget < s.budget := by
  cases hm with
  | spawn b res input h1 hr herr hn =>
    have hlen := readTCP_ok hr herr
    simp only [ConnState.budget, hc, h1, ReadLoop.budget, sumBy_append, sumBy,
      QueryTask.spawn, TaskPc.budget]
    simp only [Bool.false_eq_true, if_false]
    omega
  | panic b h1 _ => simp [ConnState.budget, hc]
  | _ => simp_all [ConnState.budget, ReadLoop.budget]

/-- A task step spends budget: the task moves on along its control-flow graph. -/
theorem taskStep_budget_lt {e : TaskEnv} {pick : Option ℕ} {s₁ : ConnState}
    {i : ℕ} {t t' : QueryTask} (hc : s.crashed = false) (hi : s.tasks[i]? = some t)
    (ht : taskStep cfg e pick s t = some (s₁, t')) :
    ({ s₁ with tasks := s.tasks.set i t' } : ConnState).budget < s.budget := by
  have hs := taskStep_spec ht
  obtain ⟨hlt, rfl⟩ := List.getElem?_eq_some_iff.1 hi
  have hsum := sumBy_set (·.pc.budget) s.tasks i t' hlt
  have hlt' := TaskPc.budget_next _ _ hs.next
  simp only [ConnState.budget, hs.crashed, hs.loop, hs.input, hc, Bool.false_or]
  split <;> simp only [Bool.false_eq_true, if_false] <;> omega

/-- **Every goroutine step spends budget**, and the runtime dropping a pooled buffer spends none. -/
theorem budget_step {s' : ConnState} {c : Choice}
    (h : step cfg env s c = some s') : s'.budget + (if c.isDrop then 0 else 1) ≤ s.budget := by
  have hc := (step_move h).1
  cases c with
  | loop pick =>
    simp only [step, hc, Bool.false_eq_true, ↓reduceIte] at h
    simpa [Choice.isDrop] using (loopStep_move h).budget_lt hc
  | task i pick =>
    simp only [step, hc, Bool.false_eq_true, ↓reduceIte] at h
    split at h
    · cases h
    · obtain ⟨⟨s₁, t'⟩, ht, rfl⟩ := Option.map_eq_some'.1 h
      simpa [Choice.isDrop] using taskStep_budget_lt hc ‹_› ht
  | drop tier j =>
    simp only [step, hc, Bool.false_eq_true, ↓reduceIte, Option.some.injEq] at h
    subst h
    simp [Choice.isDrop, ConnState.budget, hc]

/-- Over a whole run, the goroutine steps taken and the budget left add up to at most the budget
at the start. -/
theorem budget_run :
    ∀ {s s' : ConnState} {cs : List Choice}, run cfg env s cs = some s' →
      s'.budget + cs.countP (!·.isDrop) ≤ s.budget
  | _, _, [], h => by cases h; simp
  | s, s', c :: cs, h => by
    simp only [run, Option.bind_eq_some] at h
    obtain ⟨s₁, h₁, h₂⟩ := h
    have := budget_step h₁
    have := budget_run h₂
    cases hd : c.isDrop <;> simp only [hd, List.countP_cons, Bool.not_false, Bool.not_true,
      if_true, if_false, Bool.false_eq_true] at * <;> omega

/-- **Every interleaving ends.** A connection whose client sends `L` bytes makes at most `L + 8`
goroutine steps, whatever the schedule, the pool, the collaborators and the channel's capacity. -/
theorem goroutine_steps_le {cs : List Choice}
    (h : run cfg env (ConnState.init p mem input) cs = some s) :
    cs.countP (!·.isDrop) ≤ input.bytes.length + 8 := by
  have := budget_run h
  simp only [ConnState.budget, ConnState.init, ReadLoop.budget, sumBy, Bool.false_eq_true,
    if_false] at this
  omega

theorem goroutine_steps_serveOne :
    (serveOne 10).countP (!·.isDrop) ≤ (queries 1 15).bytes.length + 8 :=
  goroutine_steps_le (Option.eq_some_of_isSome (show (run ⟨fun _ _ _ => .ret (default, none), 1⟩
    (fun _ => .resolving (.ret ⟨[], 12, default, none⟩)) (.fresh (queries 1 15))
    (serveOne 10)).isSome by decide))

/-! ### Every connection can complete -/

/-- From a state where `Acct` holds, the goroutines can be scheduled, within the budget left, until
`serveTCPConn` returns or a panic ends the process: each step the loop or a task can take spends
budget (`budget_step`), and there is one until then (`Acct.canStep`). -/
theorem Acct.exists_run_to_end (hcap : 0 < cfg.capacity)
    (h : Acct cfg s) :
    ∃ cs s', run cfg env s cs = some s' ∧ (∀ c ∈ cs, c.isDrop = false) ∧
      cs.length ≤ s.budget ∧ (s'.loop.isReturned = true ∨ s'.crashed = true) := by
  generalize hn : s.budget = n
  induction n using Nat.strong_induction_on generalizing s with
  | _ n ih =>
    cases hc : s.crashed
    · cases hret : s.loop.isReturned
      · -- the loop or a task moves, and spends budget
        obtain ⟨c, s₁, hs, hd⟩ : ∃ c s₁, step cfg env s c = some s₁ ∧ c.isDrop = false := by
          rcases h.canStep hcap hc hret with hl | ⟨i, ht⟩
          · exact ⟨_, _, (Option.isSome_iff_exists.1 hl).choose_spec, rfl⟩
          · exact ⟨_, _, (Option.isSome_iff_exists.1 ht).choose_spec, rfl⟩
        have hb := budget_step hs
        rw [hd, if_neg Bool.false_ne_true] at hb
        obtain ⟨cs, s', hrun, hcs, hlen, hend⟩ :=
          ih s₁.budget (by omega) (h.move hc (step_move hs).2) rfl
        refine ⟨c :: cs, s', by simp [run, hs, hrun], ?_, by simp; omega, hend⟩
        simpa [hd] using hcs
      · exact ⟨[], s, rfl, by simp, by simp, .inl hret⟩
    · exact ⟨[], s, rfl, by simp, by simp, .inr hc⟩

/-- **Every connection can complete.** When `inflightRequests` has room for a token, from every
reachable state some schedule of the loop and the tasks, no longer than the budget left, ends
with `serveTCPConn` returned or the process ended by a panic; with `goroutine_steps_le`, every
interleaving ends there or can be carried on until it does. Reads, `Write`s and `Resolve` are
taken to return, as each is one step of the model. -/
theorem completes (hcap : 0 < cfg.capacity)
    (hr : Reachable cfg env (ConnState.init p mem input) s) :
    ∃ cs s', run cfg env s cs = some s' ∧ (∀ c ∈ cs, c.isDrop = false) ∧
      cs.length ≤ s.budget ∧ (s'.loop.isReturned = true ∨ s'.crashed = true) :=
  (hr.inv (Acct.init cfg p mem input) fun h hc hm => h.move hc hm).exists_run_to_end hcap

theorem completes_fresh :
    ∃ cs s', run ⟨fun _ _ _ => .ret (default, none), 1⟩
        (fun _ => .resolving (.ret ⟨[], 12, default, none⟩)) (.fresh (queries 1 15)) cs = some s' ∧
      (∀ c ∈ cs, c.isDrop = false) ∧ cs.length ≤ (ConnState.fresh (queries 1 15)).budget ∧
      (s'.loop.isReturned = true ∨ s'.crashed = true) :=
  completes (by decide) .init

end NextDnsProxy.Proxy.Conn

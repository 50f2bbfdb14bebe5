import NextDnsProxy.Proxy.Ownership

/-!
# Admission tokens, the `WaitGroup`, and join-before-close

The counters `serveTCPConn` shares with its tasks are exact at every reachable state:

* **`Acct`** — `len(inflightRequests)` is the number of goroutines holding a token (the read loop
  from its acquire to its release or hand-over, a task until its `<-inflightRequests`, a crashed
  task for ever) and stays within the channel's capacity; the `WaitGroup` counter is the number of
  tasks that have not run `wg.Done()`, so it is never negative; a crashed task has ended the
  process; the connection is closed exactly when the read loop has returned; and once the loop is
  past `wg.Wait()` every task has finished.
* **`acct_reachable`** — `Acct` holds at every state reachable from a fresh connection.
* **`Joins`** — the part of `Acct` about the connection's own goroutines, kept by every move
  (`Joins.move`); it is what the server lifts to each of its connections.

A panic in `query.New` is raised before the task's recovering defer is registered: it ends the
process with the task's token still held and its `buf` never put back (`queryNew_panic_escapes`).
-/

namespace NextDnsProxy.Proxy.Conn

open BufferPool Framing

variable {cfg : Config} {env : ℕ → TaskEnv} {p : TieredBufferPool} {mem : Memory}
    {st input : Stream} {s : ConnState}

/-! ### Who holds a token, whom the `WaitGroup` counts -/

/-- The read loop holds a token from `inflightRequests <- struct{}{}` until it hands it over to
the task it spawns or releases it. -/
def ReadLoop.holdsToken : ReadLoop → Bool
  | .getLarge | .read _ | .put _ _ | .release _ => true
  | _ => false

/-- The read loop is in its deferred function: `wg.Wait()` has begun. -/
def ReadLoop.inDefer : ReadLoop → Bool
  | .wait _ | .close _ | .returned _ => true
  | _ => false

/-- The read loop is past `wg.Wait()`. -/
def ReadLoop.joined : ReadLoop → Bool
  | .close _ | .returned _ => true
  | _ => false

/-- `serveTCPConn` has returned. -/
def ReadLoop.isReturned : ReadLoop → Bool
  | .returned _ => true
  | _ => false

theorem ReadLoop.isReturned_iff {l : ReadLoop} : l.isReturned = true ↔ ∃ r, l = .returned r := by
  cases l <;> simp [ReadLoop.isReturned]

/-- A loop that has returned has joined its tasks. -/
theorem ReadLoop.joined_of_isReturned {l : ReadLoop} (h : l.isReturned = true) :
    l.joined = true := by
  obtain ⟨r, rfl⟩ := isReturned_iff.1 h
  rfl

/-- A task holds its token until `<-inflightRequests`; a crashed task never gives it back. -/
def TaskPc.holdsToken : TaskPc → Bool
  | .logQuery | .done | .finished => false
  | _ => true

/-- The `WaitGroup` counts a task until its deferred `wg.Done()` has run. -/
def TaskPc.running : TaskPc → Bool
  | .finished | .crashed => false
  | _ => true

theorem TaskPc.holdsToken_next (p : TaskPc) :
    ∀ q ∈ p.next, q.holdsToken = (p.holdsToken && p != .release) := by
  cases p <;> decide

theorem TaskPc.running_of_next (p : TaskPc) : ∀ q ∈ p.next, p.running = true := by
  cases p <;> decide

theorem TaskPc.running_eq_false (p : TaskPc) :
    p.running = false ↔ p = .finished ∨ p = .crashed := by
  cases p <;> decide

/-- `len(inflightRequests)` as the goroutines holding a token count it. -/
def ConnState.holders (s : ConnState) : ℕ :=
  (if s.loop.holdsToken then 1 else 0) + s.tasks.countP (·.pc.holdsToken)

/-- The tasks the `WaitGroup` counts. -/
def ConnState.running (s : ConnState) : ℕ := s.tasks.countP (·.pc.running)

theorem countP_set {α : Type} (p : α → Bool) (l : List α) (i : ℕ) (a : α) (h : i < l.length) :
    (l.set i a).countP p + (if p l[i] then 1 else 0) = l.countP p + if p a then 1 else 0 := by
  simpa [List.countP_cons] using (perm_set_append l i a h).countP_eq p

/-! ### What a step does to the counters -/

/-- A read-loop step moves `len(inflightRequests)` exactly as it moves the token holders, and the
`WaitGroup` counter exactly as the tasks it counts. -/
theorem LoopMove.counters {pick : Option ℕ} {s' : ConnState}
    (hm : LoopMove cfg pick s s') :
    s'.tokens + s.holders = s.tokens + s'.holders ∧ s'.wg + s.running = s.wg + s'.running := by
  cases hm with
  | spawn b res input h1 =>
    -- the loop hands its token to the task, which the `WaitGroup` now counts
    have h₁ : (QueryTask.spawn b res.n.toNat).pc.holdsToken = true := rfl
    have h₂ : (QueryTask.spawn b res.n.toNat).pc.running = true := rfl
    simp only [ConnState.holders, ConnState.running, h1, ReadLoop.holdsToken, List.countP_append,
      List.countP_cons, List.countP_nil, h₁, h₂, ↓reduceIte, Bool.false_eq_true]
    constructor <;> omega
  | acquire h1 =>
    refine ⟨?_, rfl⟩
    simp only [ConnState.holders, h1, ReadLoop.holdsToken, ↓reduceIte, Bool.false_eq_true]
    omega
  | release r h1 h0 =>
    refine ⟨?_, rfl⟩
    simp only [ConnState.holders, h1, ReadLoop.holdsToken, ↓reduceIte, Bool.false_eq_true]
    omega
  | _ => simp_all [ConnState.holders, ConnState.running, ReadLoop.holdsToken]

/-- A task step moves `len(inflightRequests)` exactly as it moves the token holders, and the
`WaitGroup` counter exactly as the tasks it counts. -/
theorem taskStep_counters {e : TaskEnv} {pick : Option ℕ} {s₁ : ConnState}
    {t t' : QueryTask} {i : ℕ} (hi : s.tasks[i]? = some t)
    (ht : taskStep cfg e pick s t = some (s₁, t')) :
    s₁.tokens + s.holders = s.tokens + ({ s₁ with tasks := s.tasks.set i t' } : ConnState).holders ∧
      s₁.wg + s.running = s.wg + ({ s₁ with tasks := s.tasks.set i t' } : ConnState).running := by
  have hs := taskStep_spec ht
  obtain ⟨hlt, rfl⟩ := List.getElem?_eq_some_iff.1 hi
  have hnext := hs.next
  have htok := countP_set (·.pc.holdsToken) s.tasks i t' hlt
  have hwg := countP_set (·.pc.running) s.tasks i t' hlt
  have h1 := hs.tokens
  have h2 := hs.wg
  rw [TaskPc.holdsToken_next _ _ hnext] at htok
  simp only [TaskPc.running_of_next _ _ hnext, if_true] at hwg
  simp only [ConnState.holders, ConnState.running, hs.loop]
  constructor
  · -- the task gives its token back exactly at `<-inflightRequests`
    by_cases hr : s.tasks[i].pc = .release
    · have hrel : TaskPc.holdsToken .release = true := rfl
      simp [hr, hrel] at h1 htok
      omega
    · simp [hr] at h1 htok
      omega
  · -- the counter drops exactly when the task runs `wg.Done()`
    by_cases hq : t'.pc.running
    · have hq' : ¬(t'.pc = .finished ∨ t'.pc = .crashed) := by
        rw [← TaskPc.running_eq_false, hq]; decide
      simp only [hq, hq', if_true, if_false] at hwg h2
      omega
    · have hq' := (TaskPc.running_eq_false _).1 (by simpa using hq)
      simp only [hq, hq', if_true, if_false, Bool.false_eq_true] at hwg h2
      omega

/-- The sum of `f` over a list. -/
def sumBy {α : Type} (f : α → ℕ) : List α → ℕ
  | [] => 0
  | a :: l => f a + sumBy f l

theorem sumBy_append {α : Type} (f : α → ℕ) (l l' : List α) :
    sumBy f (l ++ l') = sumBy f l + sumBy f l' := by
  induction l with
  | nil => simp [sumBy]
  | cons a l ih => rw [List.cons_append, sumBy, sumBy, ih, Nat.add_assoc]

theorem sumBy_set {α : Type} (f : α → ℕ) :
    ∀ (l : List α) (i : ℕ) (a : α) (h : i < l.length),
      sumBy f (l.set i a) + f l[i] = sumBy f l + f a
  | [], _, _, h => absurd h (by simp)
  | b :: l, 0, a, _ => by
    simp only [List.set_cons_zero, sumBy, List.getElem_cons_zero]
    omega
  | b :: l, i + 1, a, h => by
    have := sumBy_set f l i a (by simpa using h)
    simp only [List.set_cons_succ, sumBy, List.getElem_cons_succ]
    omega

theorem sumBy_le_sumBy {α : Type} {f g : α → ℕ} :
    ∀ {l : List α}, (∀ a ∈ l, f a ≤ g a) → sumBy f l ≤ sumBy g l
  | [], _ => le_rfl
  | a :: l, h => Nat.add_le_add (h a (List.mem_cons_self a l))
      (sumBy_le_sumBy fun b hb => h b (List.mem_cons_of_mem a hb))

theorem le_sumBy_of_mem {α : Type} (f : α → ℕ) : ∀ {l : List α} {a : α}, a ∈ l → f a ≤ sumBy f l
  | _ :: _, _, .head _ => Nat.le_add_right _ _
  | _ :: _, _, .tail _ h => (le_sumBy_of_mem f h).trans (Nat.le_add_left _ _)

theorem sumBy_eq_zero {α : Type} {f : α → ℕ} : ∀ {l : List α}, (∀ a ∈ l, f a = 0) → sumBy f l = 0
  | [], _ => rfl
  | a :: _, h => by
    rw [sumBy, h a (List.mem_cons_self _ _),
      sumBy_eq_zero fun b hb => h b (List.mem_cons_of_mem a hb)]

theorem exists_pos_of_sumBy_pos {α : Type} {f : α → ℕ} :
    ∀ {l : List α}, 0 < sumBy f l → ∃ a ∈ l, 0 < f a
  | [], h => absurd h (lt_irrefl 0)
  | a :: l, h =>
    if ha : 0 < f a then ⟨a, List.mem_cons_self a l, ha⟩
    else
      have ⟨b, hb, hpos⟩ := exists_pos_of_sumBy_pos (show 0 < sumBy f l by
        have : sumBy f (a :: l) = f a + sumBy f l := rfl
        omega)
      ⟨b, List.mem_cons_of_mem a hb, hpos⟩

/-! ### The invariant -/

/-- The part of the accounting invariant about the connection's own goroutines: the `WaitGroup`
counter, the crash flag, `c.Close()` and `wg.Wait()`. No other connection touches it. -/
structure Joins (s : ConnState) : Prop where
  wg : s.wg = s.running
  crashed : ∀ t ∈ s.tasks, t.pc = .crashed → s.crashed = true
  closed : s.closed = s.loop.isReturned
  joined : s.loop.joined = true → ∀ t ∈ s.tasks, t.pc = .finished

/-- **The accounting invariant.** -/
structure Acct (cfg : Config) (s : ConnState) : Prop where
  tokens : s.tokens = s.holders
  capacity : s.tokens ≤ cfg.capacity
  wg : s.wg = s.running
  crashed : ∀ t ∈ s.tasks, t.pc = .crashed → s.crashed = true
  closed : s.closed = s.loop.isReturned
  joined : s.loop.joined = true → ∀ t ∈ s.tasks, t.pc = .finished

theorem Acct.joins (h : Acct cfg s) : Joins s :=
  ⟨h.wg, h.crashed, h.closed, h.joined⟩

theorem Acct.init (cfg : Config) (pool : TieredBufferPool) (mem : Memory) (input : Stream) :
    Acct cfg (ConnState.init pool mem input) :=
  ⟨rfl, Nat.zero_le _, rfl, by simp [ConnState.init], rfl, by simp [ConnState.init]⟩

/-- **Read-loop steps keep `Joins`.** -/
theorem Joins.loopMove {pick : Option ℕ} {s' : ConnState} (h : Joins s)
    (hc : s.crashed = false) (hm : LoopMove cfg pick s s') : Joins s' := by
  -- the counter follows the tasks it counts
  have hw' : s'.wg = s'.running := by have := hm.counters.2; have := h.wg; omega
  obtain ⟨hw, hcr, hcl, hj⟩ := h
  cases hm with
  | acquire h1 _ | getLarge h1 | stop b res input r h1 _ _ _ | put b r h1 | release r h1 _ =>
    exact ⟨hw', hcr, by simpa [h1, ReadLoop.isReturned] using hcl, by simp [ReadLoop.joined]⟩
  | panic b _ _ => exact ⟨hw, fun _ _ _ => rfl, hcl, hj⟩
  | spawn b res input h1 _ _ _ =>
    refine ⟨hw', fun t ht' hpc => ?_, by simpa [h1, ReadLoop.isReturned] using hcl,
      by simp [ReadLoop.joined]⟩
    rcases List.mem_append.1 ht' with ht' | ht'
    · exact hcr t ht' hpc
    · simp [QueryTask.spawn] at ht'; simp [ht'] at hpc
  | wait r h1 hw0 =>
    -- `wg.Wait()` returns: no task is counted, and none crashed, so every task has finished
    refine ⟨hw', hcr, by simpa [h1, ReadLoop.isReturned] using hcl, fun _ t ht' => ?_⟩
    have hr : t.pc.running = false := by
      rw [hw0, ConnState.running] at hw
      exact Bool.eq_false_iff.2 fun hr =>
        (List.countP_pos_iff.2 ⟨t, ht', hr⟩).ne' (by exact_mod_cast hw.symm)
    rcases (TaskPc.running_eq_false _).1 hr with hpc | hpc
    · exact hpc
    · simp [hcr t ht' hpc] at hc
  | close r h1 =>
    exact ⟨hw', hcr, by simp [ReadLoop.isReturned], fun _ => hj (by simp [h1, ReadLoop.joined])⟩

/-- **Task steps keep `Joins`.** -/
theorem Joins.taskStep {e : TaskEnv} {pick : Option ℕ} {s₁ : ConnState}
    {t t' : QueryTask} {i : ℕ} (h : Joins s) (hi : s.tasks[i]? = some t)
    (ht : taskStep cfg e pick s t = some (s₁, t')) :
    Joins { s₁ with tasks := s.tasks.set i t' } := by
  have hs := taskStep_spec ht
  have hwg := (taskStep_counters hi ht).2
  obtain ⟨hlt, rfl⟩ := List.getElem?_eq_some_iff.1 hi
  refine ⟨?_, fun u hu hpc => ?_, by rw [hs.closed, hs.loop, h.closed], fun hj => ?_⟩
  · have := h.wg; dsimp only at hwg ⊢; omega
  · rcases List.mem_or_eq_of_mem_set hu with hu | rfl
    · simp [hs.crashed, h.crashed u hu hpc]
    · simp [hs.crashed, hpc]
  · -- a finished task takes no step
    have hf := h.joined (hs.loop ▸ hj) _ (List.getElem_mem hlt)
    have hnext := hs.next
    simp [hf, TaskPc.next] at hnext

/-- **Every step of a live connection keeps `Joins`.** -/
theorem Joins.move {s' : ConnState} (h : Joins s)
    (hc : s.crashed = false) (hm : Move cfg env s s') : Joins s' := by
  cases hm with
  | loop pick hl => exact h.loopMove hc hl
  | task i pick hi ht => exact h.taskStep hi ht
  | drop tier j => exact ⟨h.wg, h.crashed, h.closed, h.joined⟩

/-- A move changes `len(inflightRequests)` exactly as it changes the token holders, and the
`WaitGroup` counter exactly as the tasks it counts. -/
theorem Move.counters {s' : ConnState}
    (hm : Move cfg env s s') :
    s'.tokens + s.holders = s.tokens + s'.holders ∧ s'.wg + s.running = s.wg + s'.running := by
  cases hm with
  | loop pick hl => exact hl.counters
  | task i pick hi ht => exact (taskStep_counters hi ht :)
  | drop tier j => exact ⟨rfl, rfl⟩

/-- Only the read loop's send on `inflightRequests` adds a token, and it waits for room. -/
theorem Move.tokens_le {s' : ConnState}
    (hm : Move cfg env s s') (h : s.tokens ≤ cfg.capacity) : s'.tokens ≤ cfg.capacity := by
  cases hm with
  | loop pick hl =>
    cases hl with
    | acquire _ hlt => exact hlt
    | release _ _ _ => exact Nat.le_trans (Nat.sub_le _ _) h
    | _ => exact h
  | task i pick hi ht => have := (taskStep_spec ht).tokens; dsimp only; omega
  | drop tier j => exact h

/-- **Every step of a live connection keeps `Acct`.** -/
theorem Acct.move {s' : ConnState} (h : Acct cfg s)
    (hc : s.crashed = false) (hm : Move cfg env s s') : Acct cfg s' :=
  have hj := h.joins.move hc hm
  ⟨by have := hm.counters.1; have := h.tokens; omega, hm.tokens_le h.capacity, hj.wg, hj.crashed,
    hj.closed, hj.joined⟩

theorem acct_reachable {pool : TieredBufferPool}
    (hr : Reachable cfg env (ConnState.init pool mem input) s) : Acct cfg s :=
  hr.inv (Acct.init cfg pool mem input) fun h hc hm => h.move hc hm

theorem acct_serveOne :
    Acct ⟨fun _ _ _ => .ret (default, none), 1⟩
      ((run ⟨fun _ _ _ => .ret (default, none), 1⟩ (fun _ => .resolving .panic)
        (.fresh (queries 1 15)) (serveOne 8)).getD (.fresh (queries 1 15))) :=
  acct_reachable (reachable_run_getD .init (by decide))

/-- `query.New` panics: the panic escapes the task, whose recovering defer is not registered yet,
and ends the process (after which no step runs, by `step_move`), with the task's token still
held and its `buf` never put back. -/
theorem queryNew_panic_escapes :
    (run ⟨fun _ _ _ => .panic, 1⟩ (fun _ => .resolving (.ret ⟨[], 12, default, none⟩))
        (.fresh (queries 1 15)) [.loop none, .loop none, .loop none, .task 0 none]).map
      (fun s => (s.crashed, s.tokens, s.tasks.map (·.pc), s.pool.large.length)) =
      some (true, 1, [.crashed], 0) := by
  decide

end NextDnsProxy.Proxy.Conn

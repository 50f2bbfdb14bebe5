import NextDnsProxy.Proxy.Conn

/-!
# What one step of a connection can do

The invariants of `serveTCPConn` are all derived from three inversion lemmas, so that no later
proof unfolds a step function:

* **`taskStep_spec`** — a task step moves the task along its control-flow graph
  (`TaskPc.next`), keeps its `buf`, takes `rbuf` only at `GetLarge`, touches the pool only at
  `GetLarge` and its two `Put`s, the memory only in its own `rbuf` at `Resolve`, the admission
  counter only at its release, and the `WaitGroup` only when it ends; the only bytes it hands
  to `writeTCP` are `rbuf[:rsize]`, at `writeTCP`'s first `Write`.
* **`loopStep_move`** — a read-loop step is one of the nine moves of `LoopMove`.
* **`step_move`** — a connection step is a loop move, a task step, or the runtime dropping a
  pooled buffer, and none follows a crash.
* **`Reachable.inv`** — so an invariant is proved once per kind of move.
-/

namespace NextDnsProxy.Proxy.Conn

open BufferPool Framing

variable {cfg : Config} {env : ℕ → TaskEnv} {p : TieredBufferPool} {mem : Memory}
    {st input : Stream} {s : ConnState}

/-! ### Memory -/

@[simp] theorem fill_same (mem : Memory) (a : ℕ) (bs : List UInt8) (i : ℕ) :
    fill mem a bs a i = bs.getD i (mem a i) := by
  simp [fill]

theorem fill_ne {a b : ℕ} (bs : List UInt8) (h : b ≠ a) :
    fill mem a bs b = mem b := by
  simp [fill, Function.update_noteq h]

@[simp] theorem length_slice (mem : Memory) (a n : ℕ) : (slice mem a n).length = n := by
  simp [slice]

/-- Reading back what was just written. -/
theorem slice_fill (mem : Memory) (a : ℕ) (bs : List UInt8) :
    slice (fill mem a bs) a bs.length = bs := by
  apply List.ext_getElem (by simp)
  intro i h₁ h₂
  simp [slice, List.getElem?_eq_getElem h₂]

/-- Reading back a prefix of what was just written. -/
theorem slice_fill_of_le (mem : Memory) (a : ℕ) {bs : List UInt8} {n : ℕ} (h : n ≤ bs.length) :
    slice (fill mem a bs) a n = bs.take n := by
  apply List.ext_getElem (by simp [h])
  intro i h₁ h₂
  simp [slice, List.getElem?_eq_getElem (show i < bs.length by simp at h₁; omega)]

/-- A slice reads only its own array. -/
theorem slice_congr {mem' : Memory} {a : ℕ} (h : mem' a = mem a) (n : ℕ) :
    slice mem' a n = slice mem a n := by
  simp [slice, h]

/-! ### Task steps -/

/-- The statements a task can go to from each statement (tcp.go:69–118). -/
def TaskPc.next : TaskPc → List TaskPc
  | .start => [.getLarge, .crashed]
  | .getLarge => [.resolve]
  | .resolve => [.writeLen, .putBuf]
  | .writeLen => [.writeBody, .putBuf]
  | .writeBody => [.putBuf]
  | .putBuf => [.putRBuf]
  | .putRBuf => [.release]
  | .release => [.logQuery]
  | .logQuery => [.done]
  | .done => [.finished]
  | .finished | .crashed => []

/-- What one step of a task does to the shared state and to its own buffers. -/
structure TaskStepSpec (pick : Option ℕ) (s s' : ConnState) (t t' : QueryTask) : Prop where
  next : t'.pc ∈ t.pc.next
  buf : t'.buf = t.buf
  qsize : t'.qsize = t.qsize
  rbuf : t'.rbuf = if t.pc = .getLarge then (s.pool.getLarge pick).1 else t.rbuf
  pool : s'.pool = match t.pc with
    | .getLarge => (s.pool.getLarge pick).2
    | .putBuf => s.pool.put (some t.buf)
    | .putRBuf => s.pool.put (some t.rbuf)
    | _ => s.pool
  mem : ∀ a, a ≠ t.rbuf.arr ∨ t.pc ≠ .resolve → s'.mem a = s.mem a
  tokens : s'.tokens + (if t.pc = .release then 1 else 0) = s.tokens
  wg : s'.wg = if t'.pc = .finished ∨ t'.pc = .crashed then s.wg - 1 else s.wg
  crashed : s'.crashed = (s.crashed || decide (t'.pc = .crashed))
  input : s'.input = s.input
  loop : s'.loop = s.loop
  tasks : s'.tasks = s.tasks
  closed : s'.closed = s.closed
  out : t.pc = .writeLen ∨ t.pc = .writeBody ∨ s'.out = s.out
  sent : ∀ b, .writeTCP b ∈ t'.trail →
    .writeTCP b ∈ t.trail ∨ t.pc = .writeLen ∧ b = slice s.mem t.rbuf.arr t.rsize.toNat

/-- **The task-step inversion lemma.** -/
theorem taskStep_spec {e : TaskEnv} {pick : Option ℕ} {s' : ConnState}
    {t t' : QueryTask} (h : taskStep cfg e pick s t = some (s', t')) :
    TaskStepSpec pick s s' t t' := by
  unfold taskStep at h
  cases hpc : t.pc <;> simp only [hpc] at h <;> (repeat' split at h) <;>
    (try simp only [Option.some.injEq, Prod.mk.injEq, reduceCtorEq] at h) <;>
    (try obtain ⟨rfl, rfl⟩ := h) <;>
    constructor <;>
    simp_all [TaskPc.next, crash, QueryTask.recover, fill_ne, Nat.sub_add_cancel,
      Nat.succ_le_of_lt]

/-! ### Read-loop steps -/

/-- Why the loop stops after a read that returned `res` and no query (tcp.go:57–65). -/
def Stop.ofRead (res : ReadResult) : Stop :=
  match res.err with
  | some e => if e = .eof then .eof else .read e
  | none => .tooSmall res.n

/-- What one step of the read loop can do (tcp.go:44–69). -/
inductive LoopMove (cfg : Config) (pick : Option ℕ) (s : ConnState) : ConnState → Prop where
  | acquire : s.loop = .acquire → s.tokens < cfg.capacity →
      LoopMove cfg pick s { s with tokens := s.tokens + 1, loop := .getLarge }
  | getLarge : s.loop = .getLarge →
      LoopMove cfg pick s
        { s with pool := (s.pool.getLarge pick).2, loop := .read (s.pool.getLarge pick).1 }
  | panic (b : Slice) : s.loop = .read b → readTCP b.cap s.input = .panic →
      LoopMove cfg pick s { s with crashed := true }
  | stop (b : Slice) (res : ReadResult) (input : Stream) (r : Stop) : s.loop = .read b →
      readTCP b.cap s.input = .ret (res, input) → res.err ≠ none ∨ res.n ≤ 14 →
      r = Stop.ofRead res →
      LoopMove cfg pick s { s with input, mem := fill s.mem b.arr res.data, loop := .put b r }
  | spawn (b : Slice) (res : ReadResult) (input : Stream) : s.loop = .read b →
      readTCP b.cap s.input = .ret (res, input) → res.err = none → 14 < res.n →
      LoopMove cfg pick s
        { s with input, mem := fill s.mem b.arr res.data, wg := s.wg + 1, loop := .acquire,
                 tasks := s.tasks ++ [QueryTask.spawn b res.n.toNat] }
  | put (b : Slice) (r : Stop) : s.loop = .put b r →
      LoopMove cfg pick s { s with pool := s.pool.put (some b), loop := .release r }
  | release (r : Stop) : s.loop = .release r → 0 < s.tokens →
      LoopMove cfg pick s { s with tokens := s.tokens - 1, loop := .wait r }
  | wait (r : Stop) : s.loop = .wait r → s.wg = 0 → LoopMove cfg pick s { s with loop := .close r }
  | close (r : Stop) : s.loop = .close r →
      LoopMove cfg pick s { s with closed := true, loop := .returned r }

/-- **The read-loop inversion lemma.** -/
theorem loopStep_move {pick : Option ℕ} {s' : ConnState}
    (h : loopStep cfg pick s = some s') : LoopMove cfg pick s s' := by
  unfold loopStep at h
  split at h
  · split at h
    · cases h; exact .acquire ‹_› ‹_›
    · cases h
  · cases h; exact .getLarge ‹_›
  · rename_i b hl
    split at h
    · cases h; exact .panic b hl ‹_›
    · rename_i res input hr
      dsimp only at h
      split at h
      · cases h; exact .stop b res input _ hl hr (.inl (by simp_all)) (by simp [Stop.ofRead, *])
      · split at h
        · cases h; exact .stop b res input _ hl hr (.inr ‹_›) (by simp [Stop.ofRead, *])
        · cases h; exact .spawn b res input hl hr ‹_› (by omega)
  · cases h; exact .put _ _ ‹_›
  · split at h
    · cases h; exact .release _ ‹_› ‹_›
    · cases h
  · split at h
    · cases h; exact .wait _ ‹_› ‹_›
    · cases h
  · cases h; exact .close _ ‹_›
  · cases h

/-! ### Connection steps -/

/-- What one step of the connection can do: the read loop moves, task `i` steps, or the
runtime drops a pooled buffer; nothing moves once a panic has ended the process. -/
inductive Move (cfg : Config) (env : ℕ → TaskEnv) (s : ConnState) : ConnState → Prop where
  | loop {s' : ConnState} (pick : Option ℕ) : LoopMove cfg pick s s' → Move cfg env s s'
  | task {s' : ConnState} {t t' : QueryTask} (i : ℕ) (pick : Option ℕ) :
      s.tasks[i]? = some t → taskStep cfg (env i) pick s t = some (s', t') →
      Move cfg env s { s' with tasks := s.tasks.set i t' }
  | drop (tier : Tier) (j : ℕ) : Move cfg env s { s with pool := s.pool.drop tier j }

/-- **The connection-step inversion lemma.** -/
theorem step_move {s' : ConnState} {c : Choice}
    (h : step cfg env s c = some s') : s.crashed = false ∧ Move cfg env s s' := by
  unfold step at h
  split at h
  · cases h
  · refine ⟨by simpa using ‹¬s.crashed = true›, ?_⟩
    split at h
    · exact .loop _ (loopStep_move h)
    · split at h
      · cases h
      · obtain ⟨⟨s₁, t'⟩, h₁, rfl⟩ := Option.map_eq_some'.1 h
        exact .task _ _ ‹_› h₁
    · cases h; exact .drop _ _

/-- **Invariants of a connection.** A property of the start state that every move from a live
state keeps holds at every reachable state. -/
theorem Reachable.inv {s₀ : ConnState}
    {P : ConnState → Prop} (hr : Reachable cfg env s₀ s) (h₀ : P s₀)
    (hmove : ∀ {s s'}, P s → s.crashed = false → Move cfg env s s' → P s') : P s := by
  induction hr with
  | init => exact h₀
  | step c _ h ih => exact hmove ih (step_move h).1 (step_move h).2

end NextDnsProxy.Proxy.Conn

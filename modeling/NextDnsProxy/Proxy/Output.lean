import NextDnsProxy.Proxy.Reply

/-!
# What reaches the connection

`writeTCP` is two `Write`s on the connection (tcp.go:133–139), the length prefix and then the
body, and a task makes them whenever it gets there. A task step appends to the connection exactly
what it appends to that task's own output (`written_step`), so the connection's bytes interleave
the tasks' outputs `Write` by `Write`. Two tasks that both hold a token can interleave their
prefixes and bodies (`interleaved_replies`). With one token only the last task spawned can be
writing, and so:

* **`serial_output`** — when `cap(inflightRequests)` is 1, at every reachable state the
  connection holds the tasks' outputs one after the other, in the order the loop spawned them.
* `Interleaved.move` — whatever the capacity, every step keeps the connection's bytes the tasks'
  `Write`s, each whole, interleaved in an order that keeps each task's `Write`s in order
  (`WriteLog`); `server_writes_interleaved` states it of every connection of the server.
-/

namespace NextDnsProxy.Proxy.Conn

open BufferPool Framing

variable {cfg : Config} {env : ℕ → TaskEnv} {p : TieredBufferPool} {mem : Memory}
    {st input : Stream} {s : ConnState}

/-! ### One task's output -/

/-- What `writeTCP(c, b)` puts on an open connection: the prefix if the first `Write` returns nil,
and then the body if the second does too (tcp.go:133–139). -/
def TaskEnv.framed (e : TaskEnv) (b : List UInt8) : List UInt8 :=
  match e.writeLen, e.writeBody with
  | .ret none, .ret none => bePutUint16 b.length ++ b
  | .ret none, _ => bePutUint16 b.length
  | _, _ => []

/-- What `writeTCP(c, b)` puts on an open connection, `Write` by `Write`. -/
def TaskEnv.framedWrites (e : TaskEnv) (b : List UInt8) : List (List UInt8) :=
  match e.writeLen, e.writeBody with
  | .ret none, .ret none => [bePutUint16 b.length, b]
  | .ret none, _ => [bePutUint16 b.length]
  | _, _ => []

theorem TaskEnv.flatten_framedWrites (e : TaskEnv) (b : List UInt8) :
    (e.framedWrites b).flatten = e.framed b := by
  unfold TaskEnv.framedWrites TaskEnv.framed
  split <;> simp

/-- The `Write`s a task has made on the connection so far, each as the bytes it put there: the
length prefix, then the body, of each reply it handed to `writeTCP`. -/
def QueryTask.writes (e : TaskEnv) (t : QueryTask) : List (List UInt8) :=
  match t.pc with
  | .start | .getLarge | .resolve | .writeLen | .crashed => []
  | .writeBody => (t.trail.filterMap Effect.sentBytes).map fun b => bePutUint16 b.length
  | _ => (t.trail.filterMap Effect.sentBytes).flatMap e.framedWrites

/-- What a task has put on the connection so far. -/
def QueryTask.written (e : TaskEnv) (t : QueryTask) : List UInt8 :=
  match t.pc with
  | .start | .getLarge | .resolve | .writeLen | .crashed => []
  | .writeBody => (t.trail.filterMap Effect.sentBytes).flatMap fun b => bePutUint16 b.length
  | _ => (t.trail.filterMap Effect.sentBytes).flatMap e.framed

/-- A task's output is its `Write`s, one after the other. -/
theorem QueryTask.flatten_writes (e : TaskEnv) (t : QueryTask) :
    (t.writes e).flatten = t.written e := by
  unfold QueryTask.writes QueryTask.written
  split <;> simp [List.flatMap_def, List.flatten_flatten, Function.comp_def,
    TaskEnv.flatten_framedWrites]

/-- What a task has handed to `writeTCP`: at most `maxTCPSize` bytes, so that the length prefix
does not wrap, and between the two `Write`s still `rbuf[:rsize]`. -/
structure SentInv (s : ConnState) (t : QueryTask) : Prop where
  length_le : ∀ b, .writeTCP b ∈ t.trail → b.length ≤ maxTCPSize
  body : t.pc = .writeBody → t.trail = [.writeTCP (slice s.mem t.rbuf.arr t.rsize.toNat)]

theorem SentInv.spawn (s : ConnState) (b : Slice) (n : ℕ) : SentInv s (QueryTask.spawn b n) :=
  ⟨by simp [QueryTask.spawn], fun h => nomatch h⟩

theorem SentInv.frame {s' : ConnState} {t : QueryTask} (h : SentInv s t)
    (hmem : t.pc = .writeBody → s'.mem t.rbuf.arr = s.mem t.rbuf.arr) : SentInv s' t :=
  ⟨h.length_le, fun hpc => by rw [slice_congr (hmem hpc)]; exact h.body hpc⟩

/-- A task's own step keeps `SentInv`: only the first `Write` leads to the second, and it hands
`writeTCP` the `rsize` bytes of `rbuf`, at most `maxTCPSize` of them. -/
theorem SentInv.step {e : TaskEnv} {pick : Option ℕ} {s' : ConnState}
    {t t' : QueryTask} (hinv : TaskInv e t) (h : SentInv s t)
    (ht : taskStep cfg e pick s t = some (s', t')) : SentInv s' t' := by
  have hs := taskStep_spec ht
  refine ⟨fun b hb => ?_, fun hpc' => ?_⟩
  · rcases hs.sent b hb with hb | ⟨hpc, rfl⟩
    · exact h.length_le b hb
    · simp only [TaskInv, hpc] at hinv
      simp only [length_slice, maxTCPSize] at hinv ⊢
      omega
  · have hpc : t.pc = .writeLen := by
      have hn := hs.next
      rw [hpc'] at hn
      cases hp : t.pc <;> simp [hp, TaskPc.next] at hn ⊢
    have htr : t.trail = [] := by simp only [TaskInv, hpc] at hinv; exact hinv.1
    unfold taskStep at ht
    simp only [hpc] at ht
    split at ht
    · cases ht; cases hpc'
    · split at ht <;> cases ht <;> simp_all [QueryTask.recover]

/-- **A task step appends to the connection the `Write`s it appends to the task's own**: none,
except at the two `Write`s of `writeTCP`, each of which puts its bytes whole. -/
theorem writes_step {e : TaskEnv} {pick : Option ℕ} {s' : ConnState}
    {t t' : QueryTask} (hinv : TaskInv e t) (hb : SentInv s t) (hclosed : s.closed = false)
    (ht : taskStep cfg e pick s t = some (s', t')) :
    ∃ ws : List (List UInt8), s'.out = s.out ++ ws.flatten ∧ t'.writes e = t.writes e ++ ws ∧
      (ws = [] ∨ t.pc = .writeLen ∨ t.pc = .writeBody) := by
  unfold taskStep at ht
  rw [hclosed] at ht
  cases hpc : t.pc <;> simp only [hpc] at ht <;> simp only [TaskInv, hpc] at hinv
  case writeLen =>
    obtain ⟨htr, -⟩ := hinv
    split at ht
    · cases ht
      exact ⟨[], by simp, by simp [QueryTask.writes, QueryTask.recover, htr, hpc], .inl rfl⟩
    · rcases hw : e.writeLen with (_ | w) | _ <;> simp [writeOutcome, hw] at ht <;>
      obtain ⟨rfl, rfl⟩ := ht
      · exact ⟨[bePutUint16 t.rsize.toNat], by simp, by
          simp [QueryTask.writes, Effect.sentBytes, htr, hpc], .inr (.inl rfl)⟩
      all_goals exact ⟨[], by simp, by simp [QueryTask.writes, QueryTask.recover,
        TaskEnv.framedWrites, Effect.sentBytes, htr, hpc, hw], .inl rfl⟩
  case writeBody =>
    obtain ⟨-, -, hwl, -⟩ := hinv
    have htr := hb.body hpc
    rcases hw : e.writeBody with (_ | w) | _ <;> simp [writeOutcome, hw] at ht <;>
      obtain ⟨rfl, rfl⟩ := ht
    · exact ⟨[slice s.mem t.rbuf.arr t.rsize.toNat], by simp, by simp [QueryTask.writes,
        TaskEnv.framedWrites, Effect.sentBytes, htr, hpc, hwl, hw], .inr (.inr rfl)⟩
    all_goals exact ⟨[], by simp, by simp [QueryTask.writes, QueryTask.recover,
      TaskEnv.framedWrites, Effect.sentBytes, htr, hpc, hwl, hw], .inl rfl⟩
  case finished | crashed => cases ht
  all_goals
    -- no `Write`: the task's `Write`s stay as they were
    (repeat' split at ht) <;> cases ht <;>
      exact ⟨[], by simp [crash], by simp [QueryTask.writes, QueryTask.recover, crash,
        Effect.sentBytes, hpc, hinv], .inl rfl⟩

/-- **A task step appends to the connection what it appends to the task's output**: nothing,
except at the two `Write`s of `writeTCP`. -/
theorem written_step {e : TaskEnv} {pick : Option ℕ} {s' : ConnState}
    {t t' : QueryTask} (hinv : TaskInv e t) (hb : SentInv s t) (hclosed : s.closed = false)
    (ht : taskStep cfg e pick s t = some (s', t')) :
    ∃ Δ, s'.out = s.out ++ Δ ∧ t'.written e = t.written e ++ Δ ∧
      (Δ = [] ∨ t.pc = .writeLen ∨ t.pc = .writeBody) := by
  obtain ⟨ws, hout, hw, hws⟩ := writes_step hinv hb hclosed ht
  refine ⟨ws.flatten, hout, ?_, hws.imp_left fun h => by simp [h]⟩
  rw [← QueryTask.flatten_writes, ← QueryTask.flatten_writes, hw, List.flatten_append]

/-! ### The tasks' outputs in spawn order -/

/-- The outputs of tasks `ts`, one after the other in the order the loop spawned them. -/
def outputs (env : ℕ → TaskEnv) (ts : List QueryTask) : List UInt8 :=
  (List.range ts.length).flatMap fun i => (ts[i]?.map (QueryTask.written (env i))).getD []

/-- The outputs of all tasks are those of the tasks before the last, then the last one's. -/
theorem outputs_succ (env : ℕ → TaskEnv) {ts : List QueryTask} {n : ℕ}
    (h : ts.length = n + 1) :
    outputs env ts =
      (List.range n).flatMap (fun i => (ts[i]?.map (QueryTask.written (env i))).getD []) ++
        (ts[n]?.map (QueryTask.written (env n))).getD [] := by
  rw [outputs, h, List.range_succ, List.flatMap_append, List.flatMap_singleton]

/-- A task spawned adds nothing to the outputs. -/
theorem outputs_spawn (env : ℕ → TaskEnv) (ts : List QueryTask) (b : Slice) (n : ℕ) :
    outputs env (ts ++ [QueryTask.spawn b n]) = outputs env ts := by
  rw [outputs_succ env (List.length_append _ _), outputs]
  simp only [List.getElem?_concat_length, Option.map_some', Option.getD_some]
  refine (List.append_right_eq_self.2 rfl).trans (List.flatMap_congr fun i hi => ?_)
  rw [List.getElem?_append_left (List.mem_range.1 hi)]

/-- A task whose output grows by `Δ` makes the outputs grow by `Δ`, if it is the last task or
`Δ` is empty. -/
theorem outputs_set (env : ℕ → TaskEnv) {ts : List QueryTask} {j : ℕ} {t u : QueryTask}
    {Δ : List UInt8} (hj : ts[j]? = some t) (hw : u.written (env j) = t.written (env j) ++ Δ)
    (hlast : Δ = [] ∨ j + 1 = ts.length) : outputs env (ts.set j u) = outputs env ts ++ Δ := by
  have hlt := (List.getElem?_eq_some_iff.1 hj).1
  rcases hlast with rfl | hlen
  · rw [List.append_nil] at hw
    rw [List.append_nil, outputs, outputs, List.length_set]
    refine List.flatMap_congr fun i _ => ?_
    rcases eq_or_ne j i with rfl | hne
    · rw [List.getElem?_set_self hlt, hj, Option.map_some', Option.map_some', hw]
    · rw [List.getElem?_set_ne hne]
  · rw [outputs_succ env ((List.length_set _ _ _).trans hlen.symm), outputs_succ env hlen.symm,
      List.getElem?_set_self hlt, hj]
    simp only [Option.map_some', Option.getD_some, hw, List.append_assoc]
    congr 1
    refine List.flatMap_congr fun i hi => ?_
    rw [List.getElem?_set_ne (List.mem_range.1 hi).ne']

/-! ### One token: one writer -/

/-- Every task but the last has given its token back. -/
def Serial (s : ConnState) : Prop :=
  ∀ i t, s.tasks[i]? = some t → i + 1 < s.tasks.length → t.pc.holdsToken = false

/-- So a task that holds a token is the last one. -/
theorem Serial.last (h : Serial s) {i : ℕ} {t : QueryTask}
    (hi : s.tasks[i]? = some t) (hh : t.pc.holdsToken = true) : i + 1 = s.tasks.length := by
  have := (List.getElem?_eq_some_iff.1 hi).1
  by_contra hne
  simp [h i t hi (by omega)] at hh

/-- **With one token, every step keeps `Serial`**: when the loop spawns a task it holds the only
token, so no task holds one, and a task never takes a token back. -/
theorem Serial.move {s' : ConnState}
    (hh : s.holders ≤ 1) (h : Serial s) (hm : Move cfg env s s') : Serial s' := by
  cases hm with
  | loop pick hl =>
    cases hl with
    | spawn b res input h1 _ _ _ =>
      have hno : s.tasks.countP (·.pc.holdsToken) = 0 := by
        rw [ConnState.holders, h1] at hh
        simp only [ReadLoop.holdsToken, if_true] at hh
        omega
      intro i t hi hlt
      dsimp only at hi hlt
      simp only [List.length_append, List.length_singleton, Nat.add_lt_add_iff_right] at hlt
      rw [List.getElem?_append_left hlt] at hi
      simpa using List.countP_eq_zero.1 hno t (List.getElem?_mem hi)
    | _ => exact h
  | task j pick hj ht =>
    intro i u hi hlt
    rw [List.length_set] at hlt
    rcases eq_or_ne j i with rfl | hne
    · rw [List.getElem?_set_self (List.getElem?_eq_some_iff.1 hj).1] at hi
      cases hi
      rw [TaskPc.holdsToken_next _ _ (taskStep_spec ht).next, h j _ hj hlt, Bool.false_and]
    · rw [List.getElem?_set_ne hne] at hi
      exact h i u hi hlt
  | drop tier k => exact h

/-- **Every step keeps `SentInv` of every task**, whatever the number of tokens: the task that
moves by `SentInv.step`, every other because no one else writes into its `rbuf`. -/
theorem sentInv_move {s' : ConnState} (ho : Owned s)
    (ht : ∀ i t, s.tasks[i]? = some t → TaskInv (env i) t)
    (h : ∀ (i : ℕ) (t : QueryTask), s.tasks[i]? = some t → SentInv s t)
    (hm : Move cfg env s s') : ∀ (i : ℕ) (t : QueryTask), s'.tasks[i]? = some t → SentInv s' t := by
  intro i u hi
  rcases hm.task_of hi with hu | ⟨t, pick, s₁, hti, hs, rfl⟩ | ⟨b, n, rfl⟩
  · exact (h i u hu).frame fun hpc =>
      ho.mem_frame hm hu hi (c := u.rbuf) (by simp [QueryTask.bufs, hpc])
  · exact ((h i t hti).step (ht i t hti) hs).frame fun _ => rfl
  · exact SentInv.spawn _ b n

/-- What one token makes of a connection's output: one writer at a time, every task's reply
still in its `rbuf` until it is sent, and the connection's bytes the tasks' outputs in spawn
order. -/
structure Serialized (env : ℕ → TaskEnv) (s : ConnState) : Prop where
  serial : Serial s
  sent : ∀ (i : ℕ) (t : QueryTask), s.tasks[i]? = some t → SentInv s t
  out : s.out = outputs env s.tasks

/-- **A step of a connection whose goroutines hold at most one token keeps `Serialized`.** -/
theorem Serialized.move {s' : ConnState}
    (h : Serialized env s) (ho : Owned s) (hj : Joins s)
    (ht : ∀ i t, s.tasks[i]? = some t → TaskInv (env i) t) (hh : s.holders ≤ 1)
    (hm : Move cfg env s s') : Serialized env s' := by
  refine ⟨h.serial.move hh hm, sentInv_move ho ht h.sent hm, ?_⟩
  cases hm with
  | loop pick hl =>
    cases hl with
    | spawn b res input => exact h.out.trans (outputs_spawn env _ b _).symm
    | _ => exact h.out
  | task j pick hji hs =>
    -- only the last task writes, and what it writes is its own output
    obtain ⟨Δ, hout, hw, hΔ⟩ := written_step (ht j _ hji) (h.sent j _ hji)
      (hj.closed_of_taskStep (List.getElem?_mem hji) hs) hs
    refine hout.trans ?_
    rw [h.out, outputs_set env hji hw (hΔ.imp_right fun hpc => h.serial.last hji ?_)]
    rcases hpc with hpc | hpc <;> simp [hpc, TaskPc.holdsToken]
  | drop tier k => exact h.out

/-- **The invariant behind `serial_output`.** -/
structure SerialInv (cfg : Config) (env : ℕ → TaskEnv) (s : ConnState) : Prop where
  conn : ConnInv cfg env s
  ser : Serialized env s

theorem SerialInv.init (cfg : Config) (env : ℕ → TaskEnv) (hp : PoolWF p)
    (mem : Memory) (input : Stream) : SerialInv cfg env (ConnState.init p mem input) :=
  ⟨ConnInv.init cfg env hp mem input, fun i t h => by simp [ConnState.init] at h,
    fun i t h => by simp [ConnState.init] at h, rfl⟩

/-- **With one token, every step of a live connection keeps `SerialInv`.** -/
theorem SerialInv.move {s' : ConnState}
    (hcap : cfg.capacity = 1) (h : SerialInv cfg env s) (hc : s.crashed = false)
    (hm : Move cfg env s s') : SerialInv cfg env s' :=
  have ha := h.conn.acct
  ⟨h.conn.move hc hm, h.ser.move h.conn.owned ha.joins h.conn.tasks
    (by have := ha.capacity; rw [ha.tokens, hcap] at this; exact this) hm⟩

theorem serialInv_reachable (hp : PoolWF p) (hcap : cfg.capacity = 1)
    (hr : Reachable cfg env (ConnState.init p mem input) s) : SerialInv cfg env s :=
  @Reachable.inv cfg env s _ (SerialInv cfg env) hr (SerialInv.init cfg env hp mem input)
    fun h hc hm => h.move hcap hc hm

/-- **One token, one writer.** With `cap(inflightRequests) = 1`, at every reachable state the
connection holds the tasks' outputs, each whole, one after the other in the order the loop spawned
the tasks: no reply is split by another's bytes. -/
theorem serial_output (hp : PoolWF p) (hcap : cfg.capacity = 1)
    (hr : Reachable cfg env (ConnState.init p mem input) s) : s.out = outputs env s.tasks :=
  (serialInv_reachable hp hcap hr).ser.out

/-- Queries served one at a time: for each, the loop reads it and its task runs to the end. -/
def serveInOrder (k : ℕ) : List Choice :=
  (List.range k).flatMap (fun i => List.replicate 3 (.loop none) ++
    List.replicate 10 (.task i none)) ++ List.replicate 7 (.loop none)

/-- A connection with one token that has served `k` queries one at a time, `Resolve` doing as `r`
says. -/
def servedInOrder (k : ℕ) (r : Outcome Resolved) : ConnState :=
  (run ⟨fun _ _ _ => .ret (default, none), 1⟩ (fun _ => .resolving r) (.fresh (queries k 15))
    (serveInOrder k)).getD (.fresh (queries k 15))

theorem serial_output_two :
    (servedInOrder 2 (.ret ⟨[], 0, default, none⟩)).out =
      outputs (fun _ => .resolving (.ret ⟨[], 0, default, none⟩))
        (servedInOrder 2 (.ret ⟨[], 0, default, none⟩)).tasks :=
  serial_output poolWF_new (by rfl) (reachable_run_getD .init (by decide))

/-! ### Whole frames -/

/-- The replies the tasks have handed to `writeTCP`, in the order the loop spawned them. -/
def ConnState.sentReplies (s : ConnState) : List (List UInt8) :=
  (List.range s.tasks.length).flatMap s.sent

/-- Once both `Write`s succeed, a task past them has put on the connection the frame of each reply
it handed to `writeTCP`. -/
theorem QueryTask.written_eq_frames {e : TaskEnv} {t : QueryTask} (hpc : t.pc = .finished)
    (hl : e.writeLen = .ret none) (hb : e.writeBody = .ret none) :
    t.written e = (t.trail.filterMap Effect.sentBytes).flatMap frameBytes := by
  have hf : e.framed = frameBytes := funext fun b => by simp [TaskEnv.framed, hl, hb, frameBytes_eq]
  simp [QueryTask.written, hpc, hf]

/-- Once `serveTCPConn` has returned, if every task's two `Write`s returned nil, the connection's
bytes read back as one whole frame per reply, in spawn order, and then `io.EOF`. -/
theorem Serialized.frames (h : Serialized env s)
    (hj : Joins s) (hret : s.loop.isReturned = true)
    (hw : ∀ i < s.tasks.length, (env i).writeLen = .ret none ∧ (env i).writeBody = .ret none) :
    readFrames (s.sentReplies.length + 1) ⟨s.out, .eof⟩ =
      s.sentReplies.map frameResult ++ [⟨-1, some .eof, []⟩] := by
  have hfin : ∀ (i : ℕ) (t : QueryTask), s.tasks[i]? = some t → t.pc = .finished :=
    fun i t hi => hj.joined (ReadLoop.joined_of_isReturned hret) t (List.getElem?_mem hi)
  -- the connection holds the frames of the replies, one after the other
  have hout : s.out = encodeFrames s.sentReplies := by
    rw [h.out, encodeFrames, ← List.flatMap_def, ConnState.sentReplies, List.flatMap_assoc,
      outputs]
    refine List.flatMap_congr fun i hi => ?_
    obtain ⟨hl, hb⟩ := hw i (List.mem_range.1 hi)
    have hi := List.getElem?_eq_getElem (List.mem_range.1 hi)
    simp [ConnState.sent, hi, (hfin i _ hi), QueryTask.written_eq_frames (hfin i _ hi) hl hb]
  -- and each reply is short enough for its length prefix
  have hlen : ∀ m ∈ s.sentReplies, m.length ≤ maxTCPSize := by
    intro m hm
    obtain ⟨i, -, hm⟩ := List.mem_flatMap.1 hm
    cases hi : s.tasks[i]? with
    | none => simp [ConnState.sent, hi] at hm
    | some t =>
      obtain ⟨x, hx, hxm⟩ := List.mem_filterMap.1 (by simpa [ConnState.sent, hi] using hm)
      cases x <;> simp only [Effect.sentBytes, reduceCtorEq, Option.some.injEq] at hxm
      exact hxm ▸ (h.sent i t hi).length_le _ hx
  rw [hout]
  simpa using readFrames_frames s.sentReplies hlen [] .eof 1

/-- **Whole frames, in order, with one token.** With `cap(inflightRequests) = 1`, once
`serveTCPConn` has returned, if every task's two `Write`s returned nil, the connection's bytes read
back with repeated `readTCP` as one whole frame per reply the tasks handed to `writeTCP`, in the
order the loop spawned the tasks, and then `io.EOF`. -/
theorem serial_frames (hp : PoolWF p) (hcap : cfg.capacity = 1)
    (hr : Reachable cfg env (ConnState.init p mem input) s) (hret : s.loop.isReturned = true)
    (hw : ∀ i < s.tasks.length, (env i).writeLen = .ret none ∧ (env i).writeBody = .ret none) :
    readFrames (s.sentReplies.length + 1) ⟨s.out, .eof⟩ =
      s.sentReplies.map frameResult ++ [⟨-1, some .eof, []⟩] :=
  have h := serialInv_reachable hp hcap hr
  h.ser.frames h.conn.acct.joins hret hw

theorem serial_frames_two :
    (servedInOrder 2 (.ret ⟨[7, 7, 7], 3, default, none⟩)).loop.isReturned = true ∧
      (∀ i < (servedInOrder 2 (.ret ⟨[7, 7, 7], 3, default, none⟩)).tasks.length,
        (TaskEnv.resolving (.ret ⟨[7, 7, 7], 3, default, none⟩)).writeLen = .ret none ∧
        (TaskEnv.resolving (.ret ⟨[7, 7, 7], 3, default, none⟩)).writeBody = .ret none) ∧
      readFrames ((servedInOrder 2 (.ret ⟨[7, 7, 7], 3, default, none⟩)).sentReplies.length + 1)
          ⟨(servedInOrder 2 (.ret ⟨[7, 7, 7], 3, default, none⟩)).out, .eof⟩ =
        (servedInOrder 2 (.ret ⟨[7, 7, 7], 3, default, none⟩)).sentReplies.map frameResult ++
          [⟨-1, some .eof, []⟩] :=
  ⟨by decide, by decide, serial_frames poolWF_new (by rfl) (reachable_run_getD .init (by decide))
    (by decide) (by decide)⟩

/-! ### Any number of tokens: whole `Write`s, interleaved -/

/-- `log` names the task that made each `Write` on the connection, with the bytes it put there,
in the order they reached it: the connection's bytes are the log's, and the entries of task `i`
are its `Write`s, in order. -/
def WriteLog (env : ℕ → TaskEnv) (s : ConnState) (log : List (ℕ × List UInt8)) : Prop :=
  s.out = (log.map Prod.snd).flatten ∧ ∀ i, (log.filter (·.1 == i)).map Prod.snd =
    (s.tasks[i]?.map (QueryTask.writes (env i))).getD []

/-- A task spawned has made no `Write` yet. -/
theorem writes_getD_concat (e : TaskEnv) (ts : List QueryTask) (b : Slice) (n i : ℕ) :
    ((ts ++ [QueryTask.spawn b n])[i]?.map (QueryTask.writes e)).getD [] =
      (ts[i]?.map (QueryTask.writes e)).getD [] := by
  rcases lt_or_le i ts.length with h | h
  · rw [List.getElem?_append_left h]
  · rw [List.getElem?_eq_none h]
    rcases eq_or_lt_of_le h with rfl | h
    · simp [QueryTask.writes, QueryTask.spawn]
    · rw [List.getElem?_eq_none (by simpa using h)]

/-- A task step that appends the `Write`s `ws` to its own appends them to the log. -/
theorem WriteLog.task {s₁ : ConnState} {log : List (ℕ × List UInt8)}
    (h : WriteLog env s log) {j : ℕ} {t u : QueryTask} (hj : s.tasks[j]? = some t)
    {ws : List (List UInt8)} (hout : s₁.out = s.out ++ ws.flatten)
    (hw : u.writes (env j) = t.writes (env j) ++ ws) :
    WriteLog env { s₁ with tasks := s.tasks.set j u } (log ++ ws.map (j, ·)) := by
  refine ⟨by simp [hout, h.1, Function.comp_def], fun i => ?_⟩
  rw [List.filter_append, List.map_append, h.2 i]
  rcases eq_or_ne j i with rfl | hne
  · simp [List.getElem?_set_self (List.getElem?_eq_some_iff.1 hj).1, hj, hw, List.filter_map,
      Function.comp_def]
  · simp [List.getElem?_set_ne hne, List.filter_map, Function.comp_def, hne]

/-- What any number of tokens makes of a connection's output: the tasks' `Write`s, each whole,
interleaved. -/
structure Interleaved (env : ℕ → TaskEnv) (s : ConnState) : Prop where
  sent : ∀ (i : ℕ) (t : QueryTask), s.tasks[i]? = some t → SentInv s t
  log : ∃ log, WriteLog env s log

/-- **Every step keeps `Interleaved`**: a task step appends its `Write`s to the connection
(`writes_step`), and no other step writes on it. -/
theorem Interleaved.move {s' : ConnState}
    (h : Interleaved env s) (ho : Owned s) (hj : Joins s)
    (ht : ∀ i t, s.tasks[i]? = some t → TaskInv (env i) t) (hm : Move cfg env s s') :
    Interleaved env s' := by
  obtain ⟨log, hlog⟩ := h.log
  refine ⟨sentInv_move ho ht h.sent hm, ?_⟩
  cases hm with
  | loop pick hl =>
    cases hl with
    | spawn b res input => exact ⟨log, hlog.1, fun i => (hlog.2 i).trans
        (writes_getD_concat _ _ b _ i).symm⟩
    | _ => exact ⟨log, hlog⟩
  | task j pick hji hs =>
    obtain ⟨ws, hout, hw, -⟩ := writes_step (ht j _ hji) (h.sent j _ hji)
      (hj.closed_of_taskStep (List.getElem?_mem hji) hs) hs
    exact ⟨_, hlog.task hji hout hw⟩
  | drop tier k => exact ⟨log, hlog⟩

end NextDnsProxy.Proxy.Conn

import NextDnsProxy.Proxy.Output
import NextDnsProxy.Proxy.Dispatch

/-!
# What the client reads back

What `serveTCPConn` is for: a client writes DNS queries on the connection, each behind its
2-byte length, and reads back their replies framed the same way. This module states that
purpose as a function of the client's stream, and proves that the code meets it when
`inflightRequests` holds one token.

* `TaskEnv.answer` — the reply owed to a parsed query, and `Config.owedAll`, the replies
  owed to a client for the queries it sent, in order; `QueryTask.reply` is `answer` of the
  task's query (`reply_eq_answer`).
* `Parsed` — every task past `query.New` holds the query parsed from its own frame of the
  client's stream; it holds at every reachable state (`parsed_reachable`).
* `Serialized.served` — the same law from the invariants of one connection, so that it lifts to
  each connection of the server.
* `Escaped` — every task a panic ended was given a frame on which `addrIP`, `query.New` or
  `logErr` panics before the recovering defer (`Config.escapes`); `Move.crashed_task` — the read
  loop's own slice never ends the process.
* **`served_replies`** — when `cap(inflightRequests)` is 1, once `serveTCPConn` has returned
  and every `Write` has succeeded, the client reads from the connection, frame by frame, the
  reply owed to each query it sent, in the order it sent them, and then `io.EOF`.
-/

namespace NextDnsProxy.Proxy.Conn

open BufferPool Framing

variable {cfg : Config} {env : ℕ → TaskEnv} {p : TieredBufferPool} {mem : Memory}
    {st input : Stream} {s : ConnState}

/-! ### What a client is owed -/

/-- The reply owed to a query `query.New` parsed as `q`, when `Resolve` does as `e` says: the
SERVFAIL message `replyRCode` builds from `q` when `Resolve` fails or returns a size outside
1..65535, otherwise the first `rsize` bytes `Resolve` wrote (tcp.go:110–113). It is none in two
cases: `Resolve` panicked, and no reply is sent; or `Resolve` reported more bytes than it wrote,
and `rbuf[:rsize]` is sent with whatever `rbuf` held past them, which the model does not say. -/
def TaskEnv.answer (e : TaskEnv) (q : Query) : Option (List UInt8) :=
  match e.resolve with
  | .panic => none
  | .ret r =>
    if r.servfail then some (Conn.replyRCode rcodeServerFailure q)
    else if r.rsize.toNat ≤ r.written.length then some (r.written.take r.rsize.toNat) else none

/-- A task's reply reads nothing of the task but its query. -/
theorem reply_eq_answer (e : TaskEnv) (t : QueryTask) : t.reply e = e.answer t.q := rfl

/-- What the query of bytes `b` is owed: the answer to the query `query.New` parses from it, with
the addresses `addrIP` gives, when its task replies. -/
def Config.owed (cfg : Config) (e : TaskEnv) (b : List UInt8) : List (List UInt8) :=
  match cfg.newQuery e b with
  | .ret (q, _) => if e.replies then (e.answer q).toList else []
  | .panic => []

/-- The replies owed to a client for its queries `qs`, in order; `env i` is how the `i`-th
query's collaborators behave. -/
def Config.owedAll (cfg : Config) (env : ℕ → TaskEnv) (qs : List (List UInt8)) :
    List (List UInt8) :=
  (List.range qs.length).flatMap fun i => (qs[i]?.map (cfg.owed (env i))).getD []

/-- Two queries of 15 zero bytes, each answered with the 3 bytes `Resolve` wrote. -/
example : Config.owedAll ⟨fun _ _ _ => .ret (default, none), 1⟩
    (fun _ => .resolving (.ret ⟨[7, 7, 7], 3, default, none⟩))
    (dispatch ((queries 2 15).bytes.length + 1) (queries 2 15)) = [[7, 7, 7], [7, 7, 7]] := by
  decide

/-! ### Every task holds the query parsed from its frame -/

/-- `query.New` sets a task's query at its first step; no step sends a task back to its start or
changes its query again. -/
theorem taskStep_q {e : TaskEnv} {pick : Option ℕ} {s' : ConnState}
    {t u : QueryTask} (h : taskStep cfg e pick s t = some (s', u)) (hu : u.pc ≠ .crashed) :
    u.pc ≠ .start ∧ if t.pc = .start then
      ∃ c, cfg.newQuery e (slice s.mem t.buf.arr t.qsize) = .ret (u.q, c) else u.q = t.q := by
  unfold taskStep at h
  cases hpc : t.pc <;> simp only [hpc] at h
  case start =>
    rcases hq : cfg.newQuery e (slice s.mem t.buf.arr t.qsize) with ⟨q, _ | c⟩ | _ <;>
      simp only [hq] at h
    · cases h; simp
    · split at h <;> cases h
      · simp [crash] at hu
      · simp
    · cases h; simp [crash] at hu
  case finished | crashed => cases h
  all_goals (repeat' split at h) <;> cases h <;> simp [hpc, QueryTask.recover]

/-- Every task past `query.New`, unless a panic ended it there, holds the query `query.New`
parsed from its frame, the `i`-th of the queries `D` the loop dispatches from the client, with
the addresses `addrIP` gave it. -/
def Parsed (cfg : Config) (env : ℕ → TaskEnv) (D : List (List UInt8)) (s : ConnState) : Prop :=
  ∀ (i : ℕ) (t : QueryTask), s.tasks[i]? = some t → t.pc ≠ .start → t.pc ≠ .crashed →
    ∃ b c, D[i]? = some b ∧ cfg.newQuery (env i) b = .ret (t.q, c)

/-- **Every step keeps `Parsed`**: a task that parses its query finds its frame in its buffer
(`Dispatch`), and a frame the loop has dispatched is a frame of `D`. -/
theorem Parsed.move {r : Stream}
    {qs : List (List UInt8)} {s' : ConnState}
    (hd : Dispatch st qs r s) (h : Parsed cfg env (dispatch (st.bytes.length + 1) st) s)
    (hm : Move cfg env s s') : Parsed cfg env (dispatch (st.bytes.length + 1) st) s' := by
  intro i u hi hs hc
  rcases hm.task_of hi with hu | ⟨t, pick, s₁, hti, hts, -⟩ | ⟨b, n, rfl⟩
  · exact h i u hu hs hc
  · have hq := (taskStep_q hts hc).2
    split_ifs at hq with hstart
    · -- the task's first step: `query.New` of its frame
      obtain ⟨c, hc'⟩ := hq
      exact ⟨_, c, hd.payload_dispatch hti hstart, hc'⟩
    · have hct : t.pc ≠ .crashed := fun hct => by simp [taskStep, hct] at hts
      rw [hq]
      exact h i t hti hstart hct
  · exact absurd rfl hs

theorem Parsed.init (cfg : Config) (env : ℕ → TaskEnv) (D : List (List UInt8))
    (p : TieredBufferPool) (mem : Memory) (st : Stream) :
    Parsed cfg env D (ConnState.init p mem st) := by
  intro i t h
  simp [ConnState.init] at h

/-- **`Parsed` at every reachable state.** -/
theorem parsed_reachable (hp : PoolWF p)
    (hr : Reachable cfg env (ConnState.init p mem st) s) :
    Parsed cfg env (dispatch (st.bytes.length + 1) st) s :=
  have := hr.inv (P := fun s => Owned s ∧ (∃ qs r, Dispatch st qs r s) ∧
      Parsed cfg env (dispatch (st.bytes.length + 1) st) s)
    ⟨Owned.init hp mem st, ⟨[], st, Dispatch.init p mem st⟩, Parsed.init cfg env _ p mem st⟩
    fun ⟨ho, ⟨_, _, hd⟩, h⟩ _ hm => ⟨ho.move hm, hd.move ho hm, h.move hd hm⟩
  this.2.2

/-! ### The replies sent -/

/-- What a finished task has sent is what its query is owed. -/
theorem sent_eq_owed {D : List (List UInt8)}
    (hq : Parsed cfg env D s) (hrs : RepliesInv env s)
    (ht : ∀ i t, s.tasks[i]? = some t → TaskInv (env i) t) {i : ℕ} {t : QueryTask}
    (hi : s.tasks[i]? = some t) (hf : t.pc = .finished)
    (hres : ∀ r, (env i).resolve = .ret r → ¬ r.servfail → r.rsize.toNat ≤ r.written.length) :
    s.sent i = (D[i]?.map (cfg.owed (env i))).getD [] := by
  obtain ⟨b, c, hb, hpar⟩ := hq i t hi (by simp [hf]) (by simp [hf])
  simp only [hb, Option.map_some', Option.getD_some, Config.owed, hpar]
  have hfin := hrs.finished ht hi hf
  cases hrep : (env i).replies
  · exact hfin.1 hrep
  · obtain ⟨m, hm, hs⟩ := hfin.2 hres hrep
    simp [hs, ← reply_eq_answer, hm]

/-- The client's frames from the invariants of its connection: once `serveTCPConn` has
returned, the tasks it joined are one per query of the client, and each has sent what its query
is owed, one whole frame after the other. -/
theorem Serialized.served {r : Stream}
    {qs : List (List UInt8)} (hser : Serialized env s) (hj : Joins s)
    (ht : ∀ i t, s.tasks[i]? = some t → TaskInv (env i) t) (hrs : RepliesInv env s)
    (hd : Dispatch st qs r s) (hq : Parsed cfg env (dispatch (st.bytes.length + 1) st) s)
    (hret : s.loop.isReturned = true)
    (hw : ∀ i < (dispatch (st.bytes.length + 1) st).length,
      (env i).writeLen = .ret none ∧ (env i).writeBody = .ret none)
    (hres : ∀ i < (dispatch (st.bytes.length + 1) st).length, ∀ r, (env i).resolve = .ret r →
      ¬ r.servfail → r.rsize.toNat ≤ r.written.length) :
    readFrames ((cfg.owedAll env (dispatch (st.bytes.length + 1) st)).length + 1)
        ⟨s.out, .eof⟩ =
      (cfg.owedAll env (dispatch (st.bytes.length + 1) st)).map frameResult ++
        [⟨-1, some .eof, []⟩] := by
  obtain ⟨_, hl⟩ := ReadLoop.isReturned_iff.1 hret
  -- the loop has read every query of the client, spawned one task for each, and joined them
  have hqs := hd.law.2.2.1 (by simp [hl, ReadLoop.stopped])
  have hlen : s.tasks.length = (dispatch (st.bytes.length + 1) st).length := by
    simpa [hqs] using congrArg List.length hd.qsize
  have hfin := hj.joined (ReadLoop.joined_of_isReturned hret)
  have howed : s.sentReplies = cfg.owedAll env (dispatch (st.bytes.length + 1) st) := by
    rw [ConnState.sentReplies, Config.owedAll, hlen]
    refine List.flatMap_congr fun i hi => ?_
    have hi := List.mem_range.1 hi
    have hti := List.getElem?_eq_getElem (l := s.tasks) (by omega : i < s.tasks.length)
    exact sent_eq_owed hq hrs ht hti (hfin _ (List.getElem?_mem hti)) (hres i hi)
  rw [← howed]
  exact hser.frames hj hret fun i hi => hw i (hlen ▸ hi)

/-- **What the client reads back.** With one token, once `serveTCPConn` has returned and both
`Write`s of every task have succeeded, the client reads from the connection, frame by frame,
the reply owed to each query it sent, in the order it sent them, and then `io.EOF`. This needs
`Resolve` to write at least the bytes it reports. -/
theorem served_replies (hp : PoolWF p) (hcap : cfg.capacity = 1)
    (hr : Reachable cfg env (ConnState.init p mem st) s) (hret : s.loop.isReturned = true)
    (hw : ∀ i < (dispatch (st.bytes.length + 1) st).length,
      (env i).writeLen = .ret none ∧ (env i).writeBody = .ret none)
    (hres : ∀ i < (dispatch (st.bytes.length + 1) st).length, ∀ r, (env i).resolve = .ret r →
      ¬ r.servfail → r.rsize.toNat ≤ r.written.length) :
    readFrames ((cfg.owedAll env (dispatch (st.bytes.length + 1) st)).length + 1)
        ⟨s.out, .eof⟩ =
      (cfg.owedAll env (dispatch (st.bytes.length + 1) st)).map frameResult ++
        [⟨-1, some .eof, []⟩] :=
  have hs := serialInv_reachable hp hcap hr
  have ⟨_, _, hd⟩ := dispatch_reachable hp hr
  hs.ser.served hs.conn.acct.joins hs.conn.tasks (repliesInv_reachable hp hr) hd
    (parsed_reachable hp hr) hret hw hres

theorem served_replies_two :
    readFrames ((Config.owedAll ⟨fun _ _ _ => .ret (default, none), 1⟩
        (fun _ => .resolving (.ret ⟨[7, 7, 7], 3, default, none⟩))
        (dispatch ((queries 2 15).bytes.length + 1) (queries 2 15))).length + 1)
        ⟨(servedInOrder 2 (.ret ⟨[7, 7, 7], 3, default, none⟩)).out, .eof⟩ =
      (Config.owedAll ⟨fun _ _ _ => .ret (default, none), 1⟩
        (fun _ => .resolving (.ret ⟨[7, 7, 7], 3, default, none⟩))
        (dispatch ((queries 2 15).bytes.length + 1) (queries 2 15))).map frameResult ++
        [⟨-1, some .eof, []⟩] :=
  served_replies poolWF_new rfl (reachable_run_getD .init (by decide)) (by decide)
    (fun _ _ => ⟨rfl, rfl⟩) fun _ _ r h _ => by cases h; decide

/-! ### What ends the process -/

/-- A panic escapes the task whose frame is `b`: `addrIP` or `query.New` panics, or `query.New`
returns an error and `logErr` panics. All three run before the task registers its recovering
defer (tcp.go:74–81). -/
def Config.escapes (cfg : Config) (e : TaskEnv) (b : List UInt8) : Bool :=
  match cfg.newQuery e b with
  | .panic => true
  | .ret (_, none) => false
  | .ret (_, some _) =>
    match e.logErr with
    | .panic => true
    | .ret () => false

/-- A task step that ends the process is the task's first, where a panic escapes it. -/
theorem taskStep_crashed {e : TaskEnv} {pick : Option ℕ} {s' : ConnState} {t u : QueryTask}
    (h : taskStep cfg e pick s t = some (s', u)) (hu : u.pc = .crashed) :
    t.pc = .start ∧ cfg.escapes e (slice s.mem t.buf.arr t.qsize) = true := by
  unfold taskStep at h
  cases hpc : t.pc <;> simp only [hpc] at h
  case start =>
    refine ⟨rfl, ?_⟩
    unfold Config.escapes
    rcases hq : cfg.newQuery e (slice s.mem t.buf.arr t.qsize) with ⟨q, _ | c⟩ | _ <;>
      simp only [hq] at h ⊢
    · cases h; simp at hu
    · rcases hl : e.logErr with ⟨⟩ | _ <;> simp only [hl] at h ⊢
      cases h; simp at hu
  case finished | crashed => cases h
  all_goals (repeat' split at h) <;> cases h <;> simp [QueryTask.recover] at hu

/-- Every task a panic ended was given a frame of `D` on which a panic escapes it. -/
def Escaped (cfg : Config) (env : ℕ → TaskEnv) (D : List (List UInt8)) (s : ConnState) : Prop :=
  ∀ (i : ℕ) (t : QueryTask), s.tasks[i]? = some t → t.pc = .crashed →
    ∃ b, D[i]? = some b ∧ cfg.escapes (env i) b = true

/-- **Every step keeps `Escaped`**: a task crashes at its first step, on the frame in its
buffer. -/
theorem Escaped.move {r : Stream} {qs : List (List UInt8)} {s' : ConnState}
    (hd : Dispatch st qs r s) (h : Escaped cfg env (dispatch (st.bytes.length + 1) st) s)
    (hm : Move cfg env s s') : Escaped cfg env (dispatch (st.bytes.length + 1) st) s' := by
  intro i u hi hc
  rcases hm.task_of hi with hu | ⟨t, pick, s₁, hti, hts, -⟩ | ⟨b, n, rfl⟩
  · exact h i u hu hc
  · obtain ⟨hstart, hesc⟩ := taskStep_crashed hts hc
    exact ⟨_, hd.payload_dispatch hti hstart, hesc⟩
  · simp [QueryTask.spawn] at hc

end NextDnsProxy.Proxy.Conn

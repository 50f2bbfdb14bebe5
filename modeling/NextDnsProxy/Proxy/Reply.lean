import NextDnsProxy.Proxy.TaskPath

/-!
# The bytes of each reply

Between `Resolve` and `writeTCP` a task's reply sits in its `rbuf`, a buffer no other goroutine
holds, so no other goroutine's step changes it (`Owned.mem_frame`). What the task hands to
`writeTCP` is therefore exactly what it meant to send:

* **`finished_reply`** — a finished task has sent, once, the SERVFAIL message `replyRCode` builds
  from its query when `Resolve` failed or returned a size outside 1..65535, and otherwise the first
  `rsize` bytes `Resolve` wrote; it has sent nothing if `Resolve` or `replyRCode` panicked.
-/

namespace NextDnsProxy.Proxy.Conn

open BufferPool Framing

variable {cfg : Config} {env : ℕ → TaskEnv} {p : TieredBufferPool} {mem : Memory}
    {st input : Stream} {s : ConnState}

/-- The bytes a task answers with, from what its collaborators do: the SERVFAIL message
`replyRCode` builds from the query, or the first `rsize` bytes `Resolve` wrote when it wrote
that many (tcp.go:110–113). -/
def QueryTask.reply (e : TaskEnv) (t : QueryTask) : Option (List UInt8) :=
  match e.resolve with
  | .panic => none
  | .ret r =>
    if r.servfail then some (replyRCode rcodeServerFailure t.q)
    else if r.rsize.toNat ≤ r.written.length then some (r.written.take r.rsize.toNat) else none

/-- The bytes a `writeTCP` hands to the connection. -/
def Effect.sentBytes : Effect → Option (List UInt8)
  | .writeTCP b => some b
  | _ => none

/-- The replies task `i` has handed to `writeTCP`. -/
def ConnState.sent (s : ConnState) (i : ℕ) : List (List UInt8) :=
  (s.tasks[i]?.map fun t => t.trail.filterMap Effect.sentBytes).getD []

/-- What a task's `rbuf` and trail hold of its reply: at `writeTCP`, `rbuf[:rsize]` is the reply;
anything it has sent is the reply. -/
def ReplyInv (e : TaskEnv) (s : ConnState) (t : QueryTask) : Prop :=
  match t.pc with
  | .writeLen => ∀ m, t.reply e = some m → slice s.mem t.rbuf.arr t.rsize.toNat = m
  | _ => ∀ b, .writeTCP b ∈ t.trail → ∀ m, t.reply e = some m → b = m

theorem ReplyInv.spawn (e : TaskEnv) (s : ConnState) (b : Slice) (n : ℕ) :
    ReplyInv e s (QueryTask.spawn b n) := by
  simp [ReplyInv, QueryTask.spawn]

/-- Away from `writeLen`, `ReplyInv` reads only the trail. -/
theorem replyInv_iff_sent {e : TaskEnv} {u : QueryTask} (hpc : u.pc ≠ .writeLen) :
    ReplyInv e s u ↔ ∀ b, .writeTCP b ∈ u.trail → ∀ m, u.reply e = some m → b = m := by
  unfold ReplyInv
  split
  · contradiction
  · rfl

/-- `ReplyInv` reads memory only through the task's `rbuf`, and only at `writeLen`. -/
theorem ReplyInv.frame {e : TaskEnv} {s' : ConnState} {u : QueryTask} (h : ReplyInv e s u)
    (hmem : u.pc = .writeLen → s'.mem u.rbuf.arr = s.mem u.rbuf.arr) : ReplyInv e s' u := by
  by_cases hpc : u.pc = .writeLen
  · simp only [ReplyInv, hpc, slice, hmem hpc] at h ⊢
    exact h
  · exact (replyInv_iff_sent hpc).2 ((replyInv_iff_sent hpc).1 h)

/-- **A task's own step keeps `ReplyInv`**: `Resolve` and `replyRCode` write the reply into
`rbuf`, and `writeTCP` sends `rbuf[:rsize]`. -/
theorem ReplyInv.step {e : TaskEnv} {pick : Option ℕ} {s' : ConnState}
    {t t' : QueryTask} (hinv : TaskInv e t) (h : ReplyInv e s t)
    (ht : taskStep cfg e pick s t = some (s', t')) : ReplyInv e s' t' := by
  unfold taskStep at ht
  cases hpc : t.pc <;> simp only [hpc] at ht <;> simp only [TaskInv, hpc] at hinv <;>
    simp only [ReplyInv, hpc] at h
  case start | getLarge =>
    -- nothing has been sent yet
    (repeat' split at ht) <;> cases ht <;> simp [ReplyInv, crash, hinv]
  case resolve =>
    split at ht
    · cases ht; simp [ReplyInv, QueryTask.recover, hinv]
    · rename_i r hr
      split at ht
      · split at ht <;> cases ht
        · simp [ReplyInv, QueryTask.recover, hinv]
        · -- SERVFAIL: `replyRCode` wrote its message over what `Resolve` wrote
          simp only [ReplyInv, QueryTask.reply, hr, if_pos ‹r.servfail›, Option.some.injEq]
          rintro m rfl
          simpa using slice_fill (fill s.mem t.rbuf.arr r.written) t.rbuf.arr
            (replyRCode rcodeServerFailure t.q)
      · cases ht
        simp only [ReplyInv, QueryTask.reply, hr, if_neg ‹¬r.servfail›]
        split_ifs with hle
        · rintro m ⟨⟩
          exact slice_fill_of_le s.mem t.rbuf.arr hle
        · simp
  case writeLen =>
    -- `writeTCP` sends `rbuf[:rsize]`, the only message on the trail
    split at ht
    · cases ht; simp [ReplyInv, QueryTask.recover, hinv.1]
    · split at ht <;> cases ht <;>
        exact (replyInv_iff_sent (by simp [QueryTask.recover])).2 fun b hb m hm => by
          simp only [QueryTask.recover, hinv.1, List.nil_append, List.mem_singleton,
            Effect.writeTCP.injEq] at hb
          exact hb ▸ h m hm
  case finished | crashed => cases ht
  all_goals
    -- the rest of the task sends nothing more
    (try split at ht) <;> cases ht <;>
      exact (replyInv_iff_sent (by simp [QueryTask.recover])).2 fun b hb m hm =>
        h b (by simpa [QueryTask.recover] using hb) m hm

/-- `ReplyInv` of every task of the connection. -/
def RepliesInv (env : ℕ → TaskEnv) (s : ConnState) : Prop :=
  ∀ i t, s.tasks[i]? = some t → ReplyInv (env i) s t

/-- **Every step keeps `RepliesInv`**: the task that moves by `ReplyInv.step`, every other task
because no one else writes into its `rbuf` (`Owned.mem_frame`). -/
theorem RepliesInv.move {s' : ConnState} (ho : Owned s)
    (ht : ∀ i t, s.tasks[i]? = some t → TaskInv (env i) t) (h : RepliesInv env s)
    (hm : Move cfg env s s') : RepliesInv env s' := by
  intro i u hi
  rcases hm.task_of hi with hu | ⟨t, pick, s₁, hti, hs, rfl⟩ | ⟨b, n, rfl⟩
  · exact (h i u hu).frame fun hpc =>
      ho.mem_frame hm hu hi (c := u.rbuf) (by simp [QueryTask.bufs, hpc])
  · exact ((h i t hti).step (ht i t hti) hs :)
  · exact ReplyInv.spawn _ _ b n

/-- **`RepliesInv` at every reachable state.** -/
theorem repliesInv_reachable (hp : PoolWF p)
    (hr : Reachable cfg env (ConnState.init p mem input) s) : RepliesInv env s :=
  have h : ConnInv cfg env s ∧ RepliesInv env s :=
    @Reachable.inv cfg env s _ (fun s => ConnInv cfg env s ∧ RepliesInv env s) hr
      ⟨ConnInv.init cfg env hp mem input, fun i t h => by simp [ConnState.init] at h⟩
      fun h hc hm => ⟨h.1.move hc hm, h.2.move h.1.owned h.1.tasks hm⟩
  h.2

/-- What a finished task has sent, from `ReplyInv` and `TaskInv`. -/
theorem RepliesInv.sent_of_finished (h : RepliesInv env s)
    (ht : ∀ i t, s.tasks[i]? = some t → TaskInv (env i) t) {i : ℕ} {m : List UInt8}
    (hf : s.tasks[i]?.map (·.pc) = some .finished)
    (hm : s.tasks[i]?.bind (·.reply (env i)) = some m) :
    s.sent i = if (env i).replies then [m] else [] := by
  obtain ⟨t, hi, hf⟩ := Option.map_eq_some'.1 hf
  rw [hi, Option.some_bind] at hm
  have hsent := (replyInv_iff_sent (by simp [hf])).1 (h i t hi)
  have hinv := ht i t hi
  simp only [TaskInv, hf] at hinv
  obtain ⟨pre, htr, hlen, hw, -⟩ := hinv
  simp only [ConnState.sent, hi, Option.map_some', Option.getD_some, htr, List.filterMap_append]
  split at hlen
  · -- one `writeTCP`, of the reply
    obtain ⟨x, rfl⟩ := List.length_eq_one.1 hlen
    cases x with
    | writeTCP b => simp [*, QueryTask.cleanup, Effect.sentBytes, hsent b (by simp [htr]) m hm]
    | _ => simp [Effect.isWrite] at hw
  · simp [List.length_eq_zero.1 hlen, QueryTask.cleanup, Effect.sentBytes, *]

/-- A finished task that does not reply has sent nothing. -/
theorem sent_of_not_replies
    (ht : ∀ i t, s.tasks[i]? = some t → TaskInv (env i) t) {i : ℕ} {t : QueryTask}
    (hi : s.tasks[i]? = some t) (hf : t.pc = .finished) (hrep : (env i).replies = false) :
    s.sent i = [] := by
  have hinv := ht i t hi
  simp only [TaskInv, hf] at hinv
  obtain ⟨pre, htr, hlen, -, -⟩ := hinv
  rw [hrep] at hlen
  simp [ConnState.sent, hi, htr, List.length_eq_zero.1 hlen, QueryTask.cleanup, Effect.sentBytes]

/-- A task that replies has a reply when `Resolve` writes at least the bytes it reports. -/
theorem QueryTask.reply_isSome {e : TaskEnv} (t : QueryTask) (hrep : e.replies = true)
    (hres : ∀ r : Resolved, e.resolve = .ret r → ¬ r.servfail → r.rsize.toNat ≤ r.written.length) :
    (t.reply e).isSome := by
  cases hr : e.resolve with
  | panic => simp [TaskEnv.replies, hr] at hrep
  | ret r =>
    simp only [QueryTask.reply, hr]
    split_ifs with hs hle
    · rfl
    · rfl
    · exact absurd (hres r hr hs) hle

/-- What a finished task has sent, from `ReplyInv` and `TaskInv`: nothing when `Resolve` or
`replyRCode` panicked, and otherwise its reply, once, when `Resolve` wrote at least the bytes it
reports. -/
theorem RepliesInv.finished (h : RepliesInv env s)
    (ht : ∀ i t, s.tasks[i]? = some t → TaskInv (env i) t) {i : ℕ} {t : QueryTask}
    (hi : s.tasks[i]? = some t) (hf : t.pc = .finished) :
    ((env i).replies = false → s.sent i = []) ∧
      ((∀ r, (env i).resolve = .ret r → ¬ r.servfail → r.rsize.toNat ≤ r.written.length) →
        (env i).replies = true → ∃ m, t.reply (env i) = some m ∧ s.sent i = [m]) :=
  ⟨sent_of_not_replies ht hi hf, fun hres hrep =>
    have ⟨m, hm⟩ := Option.isSome_iff_exists.1 (t.reply_isSome hrep hres)
    ⟨m, hm, by rw [h.sent_of_finished ht (m := m) (by simp [hi, hf]) (by simp [hi, hm]), hrep,
      if_pos rfl]⟩⟩

/-- **The reply a task sends.** A finished task has handed `writeTCP` nothing when `Resolve`
panicked, or reported failure and `replyRCode` then panicked (`replies` is false, by
`TaskEnv.replies_eq_false_iff`), and otherwise, when `Resolve` wrote at least the bytes it
reports, its reply exactly once: the SERVFAIL message built from its query, or the
first `rsize` bytes `Resolve` wrote. Where `Resolve` reports more than it wrote, tcp.go:113
sends `rbuf[:rsize]` all the same, whatever the buffer held past those bytes. -/
theorem finished_reply (hp : PoolWF p)
    (hr : Reachable cfg env (ConnState.init p mem input) s) {i : ℕ} {t : QueryTask}
    (hi : s.tasks[i]? = some t) (hf : t.pc = .finished) :
    ((env i).replies = false → s.sent i = []) ∧
      ((∀ r, (env i).resolve = .ret r → ¬ r.servfail → r.rsize.toNat ≤ r.written.length) →
        (env i).replies = true → ∃ m, t.reply (env i) = some m ∧ s.sent i = [m]) :=
  (repliesInv_reachable hp hr).finished (connInv_reachable hp hr).tasks hi hf

theorem finished_reply_servfail :
    let s := (run ⟨fun _ _ _ => .ret (default, none), 1⟩
      (fun _ => .resolving (.ret ⟨[], 0, default, none⟩)) (.fresh (queries 1 15))
      (serveOne 10)).getD (.fresh (queries 1 15))
    let t := s.tasks[0]?.getD (.spawn (.make 0 0) 0)
    ((TaskEnv.resolving (.ret ⟨[], 0, default, none⟩)).replies = false → s.sent 0 = []) ∧
      ((∀ r, (TaskEnv.resolving (.ret ⟨[], 0, default, none⟩)).resolve = .ret r →
          ¬ r.servfail → r.rsize.toNat ≤ r.written.length) →
        (TaskEnv.resolving (.ret ⟨[], 0, default, none⟩)).replies = true →
          ∃ m, t.reply (.resolving (.ret ⟨[], 0, default, none⟩)) = some m ∧ s.sent 0 = [m]) :=
  @finished_reply ⟨fun _ _ _ => .ret (default, none), 1⟩
    (fun _ => .resolving (.ret ⟨[], 0, default, none⟩)) _ _ _ _ poolWF_new
    (reachable_run_getD .init (by decide)) 0 _
    (Option.getD_of_ne_none (Option.ne_none_iff_isSome.2 (by decide)) _).symm (by decide)

end NextDnsProxy.Proxy.Conn

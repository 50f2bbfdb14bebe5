import NextDnsProxy.Proxy.Accounting

/-!
# Which queries a connection dispatches

The read loop of `serveTCPConn` reads the client's stream one frame at a time and spawns a task
for each frame of more than 14 bytes, until the first read error or frame of at most 14 bytes
(tcp.go:62 tests `qsize <= 14`). Run alone, that reader is `dispatch`: the payloads of the
stream's successive frames, up to the first one that stops the loop.

* **`dispatch_law`** — in every interleaving, the tasks spawned so far are given, in spawn order,
  a prefix of `dispatch`, all of it once the loop has stopped reading; and while a task has not
  yet parsed its query, its buffer holds exactly its frame's payload: no later read overwrites it.
* **`frames_dispatched`** — for a stream made of frames of more than 14 bytes and a rest that
  does not begin with one, those frames are what `dispatch` gives: the tasks get them one
  each and in order, and no frame of the rest is dispatched.
* **`returned_nil_iff`** — when `serveTCPConn` returns, it returns nil exactly when the stream,
  past the dispatched frames, is empty or a bare length prefix announcing a non-empty body, and
  then ends in `io.EOF`: `io.ReadFull` reports `io.EOF` for a body it reads none of.
* **`fourteen_byte_query_rejected`** — a frame of exactly 14 bytes stops the loop with
  `"query too small: 14"`, and no task is spawned for it.
-/

namespace NextDnsProxy.Proxy.Conn

open BufferPool Framing

variable {cfg : Config} {env : ℕ → TaskEnv} {p : TieredBufferPool} {mem : Memory}
    {st input : Stream} {s : ConnState}

/-! ### The sequential reader -/

/-- The loop's next query on `r`, and the stream after it; `none` where the loop stops
(tcp.go:53–66). The loop's buffers have capacity 65536. -/
def nextQuery (r : Stream) : Option (List UInt8 × Stream) :=
  match readTCP 65536 r with
  | .ret (res, r') => if res.err = none ∧ 14 < res.n then some (res.data, r') else none
  | .panic => none

/-- The queries the loop dispatches from `r`, reading at most `fuel` frames. -/
def dispatch : ℕ → Stream → List (List UInt8)
  | 0, _ => []
  | fuel + 1, r =>
    match nextQuery r with
    | some (q, r') => q :: dispatch fuel r'
    | none => []

/-- Why the loop stops at `r`, where `nextQuery` finds no query (tcp.go:54–65). -/
def stopOf (r : Stream) : Stop :=
  match readTCP 65536 r with
  | .ret (res, _) => Stop.ofRead res
  | .panic => .eof

/-- The stream where the loop stops, reading at most `fuel` frames. -/
def restAfter : ℕ → Stream → Stream
  | 0, r => r
  | fuel + 1, r =>
    match nextQuery r with
    | some (_, r') => restAfter fuel r'
    | none => r

/-- Reading the queries `qs` one after another takes `r` to `r'`. -/
inductive Dispatched : Stream → List (List UInt8) → Stream → Prop where
  | nil (r : Stream) : Dispatched r [] r
  | cons {r r' r'' : Stream} {q : List UInt8} {qs : List (List UInt8)} :
      nextQuery r = some (q, r') → Dispatched r' qs r'' → Dispatched r (q :: qs) r''

theorem Dispatched.snoc {r r' r'' : Stream} {qs : List (List UInt8)} {q : List UInt8}
    (h : Dispatched r qs r') (hq : nextQuery r' = some (q, r'')) :
    Dispatched r (qs ++ [q]) r'' := by
  induction h with
  | nil => exact .cons hq (.nil _)
  | cons h₁ _ ih => exact .cons h₁ (ih hq)

theorem Dispatched.dispatch_add {r r' : Stream} {qs : List (List UInt8)} (h : Dispatched r qs r')
    (k : ℕ) : dispatch (qs.length + k) r = qs ++ dispatch k r' := by
  induction h with
  | nil => simp
  | cons h₁ _ ih =>
    rw [List.length_cons, Nat.add_right_comm, dispatch, h₁]
    simp [ih]

theorem Dispatched.restAfter_add {r r' : Stream} {qs : List (List UInt8)} (h : Dispatched r qs r')
    (k : ℕ) : restAfter (qs.length + k) r = restAfter k r' := by
  induction h with
  | nil => simp
  | cons h₁ _ ih => rw [List.length_cons, Nat.add_right_comm, restAfter, h₁]; exact ih

/-- A dispatched query took more than 16 bytes off the stream. -/
theorem nextQuery_length {r r' : Stream} {q : List UInt8} (h : nextQuery r = some (q, r')) :
    r'.bytes.length + 17 ≤ r.bytes.length := by
  unfold nextQuery at h
  split at h
  · rename_i res r₁ hr
    split_ifs at h with hok
    cases h
    have := readTCP_ok hr hok.1
    omega
  · cases h

theorem Dispatched.length_le {r r' : Stream} {qs : List (List UInt8)} (h : Dispatched r qs r') :
    qs.length ≤ r.bytes.length := by
  induction h with
  | nil => simp
  | cons h₁ _ ih => have := nextQuery_length h₁; simp only [List.length_cons]; omega

/-- Where the sequential reader stops after `qs`, `qs` is all it dispatches. -/
theorem Dispatched.dispatch_eq {r r' : Stream} {qs : List (List UInt8)} (h : Dispatched r qs r')
    (hn : nextQuery r' = none) : dispatch (r.bytes.length + 1) r = qs := by
  obtain ⟨k, hk⟩ := Nat.exists_eq_add_of_lt (Nat.lt_succ_of_le h.length_le)
  rw [show r.bytes.length + 1 = qs.length + (k + 1) by omega, h.dispatch_add, dispatch, hn,
    List.append_nil]

/-- A frame of more than 14 bytes is the loop's next query. -/
theorem nextQuery_frameBytes {m : List UInt8} (hm : 14 < m.length ∧ m.length ≤ maxTCPSize)
    (rest : List UInt8) (fin : StreamEnd) :
    nextQuery ⟨frameBytes m ++ rest, fin⟩ = some (m, ⟨rest, fin⟩) := by
  have : (14 : ℤ) < m.length := by omega
  simp [nextQuery, readTCP_frameBytes (show maxTCPSize ≤ 65536 by decide) hm.2, this]

/-- The reader dispatches the frames `writeTCP` put on the stream, one query each. -/
theorem Dispatched.encodeFrames {ms : List (List UInt8)}
    (hms : ∀ m ∈ ms, 14 < m.length ∧ m.length ≤ maxTCPSize) (rest : List UInt8) (fin : StreamEnd) :
    Dispatched ⟨encodeFrames ms ++ rest, fin⟩ ms ⟨rest, fin⟩ := by
  induction ms with
  | nil => exact .nil _
  | cons m ms ih =>
    simp only [Framing.encodeFrames, List.map_cons, List.flatten_cons, List.append_assoc] at ih ⊢
    exact .cons (nextQuery_frameBytes (hms m (List.mem_cons_self _ _)) _ fin)
      (ih fun m' h => hms m' (List.mem_cons_of_mem _ h))

/-! ### The loop refines the sequential reader -/

/-- The read loop has stopped reading. -/
def ReadLoop.stopped : ReadLoop → Bool
  | .put _ _ | .release _ | .wait _ | .close _ | .returned _ => true
  | _ => false

/-- Why the loop has stopped reading, once it has. -/
def ReadLoop.stop? : ReadLoop → Option Stop
  | .put _ r | .release r | .wait r | .close r | .returned r => some r
  | _ => none

/-- The loop has dispatched `qs` from the client's stream `st`, and `r` is what it read them
from: the tasks, in spawn order, have the sizes of `qs`; a task that has not parsed yet finds its
query in its buffer; the loop reads on from `r`, or `r` starts with no query, which is why the
loop stopped. -/
structure Dispatch (st : Stream) (qs : List (List UInt8)) (r : Stream) (s : ConnState) : Prop where
  read : Dispatched st qs r
  qsize : s.tasks.map (·.qsize) = qs.map List.length
  payload : ∀ (i : ℕ) (t : QueryTask), s.tasks[i]? = some t → t.pc = .start →
    qs[i]? = some (slice s.mem t.buf.arr t.qsize)
  reading : s.loop.stopped = false → s.input = r
  stopped : s.loop.stopped = true → nextQuery r = none
  reason : ∀ r', s.loop.stop? = some r' → r' = stopOf r

theorem Dispatch.init (p : TieredBufferPool) (mem : Memory) (st : Stream) :
    Dispatch st [] st (ConnState.init p mem st) :=
  ⟨.nil st, rfl, fun i t h => by simp [ConnState.init] at h, fun _ => rfl,
    fun h => by simp [ConnState.init, ReadLoop.stopped] at h,
    fun _ h => by simp [ConnState.init, ReadLoop.stop?] at h⟩

/-- A step that leaves the tasks, the input, the loop's progress and the tasks' buffers alone
keeps `Dispatch`. -/
theorem Dispatch.of_frame {r : Stream} {qs : List (List UInt8)} {s' : ConnState}
    (h : Dispatch st qs r s) (ht : s'.tasks = s.tasks) (hi : s'.input = s.input)
    (hl : s'.loop.stopped = s.loop.stopped) (hr : s'.loop.stop? = s.loop.stop?)
    (hm : ∀ t ∈ s.tasks, t.pc = .start → s'.mem t.buf.arr = s.mem t.buf.arr) :
    Dispatch st qs r s' := by
  refine ⟨h.read, ht ▸ h.qsize, fun i t hi' hpc => ?_, fun h' => hi ▸ h.reading (hl ▸ h'),
    fun h' => h.stopped (hl ▸ h'), fun r' h' => h.reason r' (hr ▸ h')⟩
  rw [ht] at hi'
  rw [slice_congr (hm t (List.getElem?_mem hi') hpc)]
  exact h.payload i t hi' hpc

/-- **Read-loop steps keep `Dispatch`**, with one more query when the loop spawns a task. -/
theorem Dispatch.loopMove {pick : Option ℕ} {r : Stream}
    {qs : List (List UInt8)} {s' : ConnState} (ho : Owned s) (h : Dispatch st qs r s)
    (hm : LoopMove cfg pick s s') : ∃ qs' r', Dispatch st qs' r' s' := by
  have hbuf : ∀ b, s.loop = .read b → b.cap = 65536 := fun b hl =>
    ho.large b (by simp [ConnState.held, hl, ReadLoop.bufs])
  have hread : ∀ b res input, s.loop = .read b → readTCP b.cap s.input = .ret (res, input) →
      readTCP 65536 s.input = .ret (res, input) := fun b _ _ hl hr => hbuf b hl ▸ hr
  -- the loop writes only into its own buffer
  have hmem : ∀ b, s.loop = .read b → ∀ data, ∀ t ∈ s.tasks, t.pc = .start →
      fill s.mem b.arr data t.buf.arr = s.mem t.buf.arr := fun b hl data t ht hpc =>
    fill_ne data (ho.loop_arr_ne (by simp [hl, ReadLoop.bufs]) ht
      (by simp [QueryTask.bufs, hpc])).symm
  cases hm with
  | acquire h1 _ => exact ⟨qs, r, h.of_frame rfl rfl (by simp [h1, ReadLoop.stopped])
    (by simp [h1, ReadLoop.stop?]) fun _ _ _ => rfl⟩
  | getLarge h1 => exact ⟨qs, r, h.of_frame rfl rfl (by simp [h1, ReadLoop.stopped])
    (by simp [h1, ReadLoop.stop?]) fun _ _ _ => rfl⟩
  | panic b h1 hr =>
    exact absurd hr (readTCP_ne_panic (by rw [hbuf b h1]; decide) _)
  | stop b res input r' h1 hr hstop hr' =>
    -- the read that stops the loop is the one `nextQuery` finds no query in
    have hin := h.reading (by simp [h1, ReadLoop.stopped])
    refine ⟨qs, r, h.read, h.qsize, fun i t hi' hpc => ?_,
      fun h' => by simp [ReadLoop.stopped] at h', fun _ => ?_, fun r'' h' => ?_⟩
    · rw [slice_congr (hmem b h1 _ t (List.getElem?_mem hi') hpc)]
      exact h.payload i t hi' hpc
    · rw [← hin, nextQuery, hread b res input h1 hr]
      simp only [ite_eq_right_iff, reduceCtorEq, imp_false, not_and, not_lt]
      rcases hstop with he | hn
      · exact fun h' => absurd h' he
      · exact fun _ => hn
    · simp only [ReadLoop.stop?, Option.some.injEq] at h'
      rw [← h', hr', ← hin, stopOf, hread b res input h1 hr]
  | spawn b res input h1 hr he hn =>
    -- the loop dispatches the next query, and its task finds it in `buf`
    have hin := h.reading (by simp [h1, ReadLoop.stopped])
    have hq : nextQuery r = some (res.data, input) := by
      rw [← hin, nextQuery, hread b res input h1 hr]
      simp [he, hn]
    obtain ⟨hlen, -⟩ := readTCP_ok hr he
    refine ⟨qs ++ [res.data], input, h.read.snoc hq, ?_, fun i t hi' hpc => ?_, fun _ => rfl,
      fun h' => by simp [ReadLoop.stopped] at h', fun _ h' => by simp [ReadLoop.stop?] at h'⟩
    · simp [h.qsize, QueryTask.spawn, hlen]
    · have hqs : qs.length = s.tasks.length := by simpa using congrArg List.length h.qsize.symm
      rcases lt_or_ge i s.tasks.length with hlt | hge
      · rw [List.getElem?_append_left hlt] at hi'
        rw [List.getElem?_append_left (hqs ▸ hlt),
          slice_congr (hmem b h1 _ t (List.getElem?_mem hi') hpc)]
        exact h.payload i t hi' hpc
      · rw [List.getElem?_append_right hge] at hi'
        obtain ⟨hi₁, rfl⟩ := List.getElem?_eq_some_iff.1 hi'
        have hi₀ : i - s.tasks.length = 0 := by simpa using hi₁
        simp only [List.getElem_singleton, QueryTask.spawn]
        rw [List.getElem?_append_right (by omega), hqs, hi₀, hlen]
        simp [slice_fill]
  | put b r' h1 => exact ⟨qs, r, h.of_frame rfl rfl (by simp [h1, ReadLoop.stopped])
    (by simp [h1, ReadLoop.stop?]) fun _ _ _ => rfl⟩
  | release r' h1 _ =>
    exact ⟨qs, r, h.of_frame rfl rfl (by simp [h1, ReadLoop.stopped])
    (by simp [h1, ReadLoop.stop?]) fun _ _ _ => rfl⟩
  | wait r' h1 _ => exact ⟨qs, r, h.of_frame rfl rfl (by simp [h1, ReadLoop.stopped])
    (by simp [h1, ReadLoop.stop?]) fun _ _ _ => rfl⟩
  | close r' h1 => exact ⟨qs, r, h.of_frame rfl rfl (by simp [h1, ReadLoop.stopped])
    (by simp [h1, ReadLoop.stop?]) fun _ _ _ => rfl⟩

/-- **Task steps keep `Dispatch`**: a task writes only into its own `rbuf`. -/
theorem Dispatch.taskStep {e : TaskEnv} {pick : Option ℕ} {r : Stream}
    {qs : List (List UInt8)} {s₁ : ConnState} {t t' : QueryTask} {j : ℕ} (ho : Owned s)
    (h : Dispatch st qs r s) (hj : s.tasks[j]? = some t)
    (ht : taskStep cfg e pick s t = some (s₁, t')) :
    Dispatch st qs r { s₁ with tasks := s.tasks.set j t' } := by
  have hs := taskStep_spec ht
  refine ⟨h.read, ?_, fun i u hi hpc => ?_, fun h' => ?_, fun h' => ?_, fun r' h' => ?_⟩
  · -- a task step keeps the task's `qsize`
    obtain ⟨hlt, rfl⟩ := List.getElem?_eq_some_iff.1 hj
    rw [← h.qsize]
    apply List.ext_getElem (by simp)
    intro k _ _
    rcases eq_or_ne j k with rfl | hne
    · simp [hs.qsize]
    · simp [List.getElem_set_ne hne]
  · rcases eq_or_ne j i with rfl | hne
    · -- the task that moved has left `start`
      rw [List.getElem?_set_self (List.getElem?_eq_some_iff.1 hj).1] at hi
      cases hi
      have hn := hs.next
      cases hpc' : t.pc <;> simp [TaskPc.next, hpc', hpc] at hn
    · -- another task wrote only into its own `rbuf`
      have hi' := hi
      rw [List.getElem?_set_ne hne] at hi
      have hm : Move cfg (fun _ => e) s _ := .task j pick hj ht
      rw [slice_congr (ho.mem_frame hm hi hi' (c := u.buf) (by simp [QueryTask.bufs, hpc]))]
      exact h.payload i u hi hpc
  · exact hs.input ▸ h.reading (hs.loop ▸ h')
  · exact h.stopped (hs.loop ▸ h')
  · exact h.reason r' (hs.loop ▸ h')

/-- **Every move keeps `Dispatch`**, with one more query when the loop spawns a task. -/
theorem Dispatch.move {r : Stream} {qs : List (List UInt8)}
    {s' : ConnState} (ho : Owned s) (h : Dispatch st qs r s) (hm : Move cfg env s s') :
    ∃ qs' r', Dispatch st qs' r' s' := by
  cases hm with
  | loop pick hl => exact h.loopMove ho hl
  | task j pick hj ht => exact ⟨qs, r, h.taskStep ho hj ht⟩
  | drop tier k => exact ⟨qs, r, h.of_frame rfl rfl rfl rfl fun _ _ _ => rfl⟩

/-- **`Dispatch` at every reachable state.** -/
theorem dispatch_reachable (hp : PoolWF p)
    (hr : Reachable cfg env (ConnState.init p mem st) s) : ∃ qs r, Dispatch st qs r s :=
  have := hr.inv (P := fun s => Owned s ∧ ∃ qs r, Dispatch st qs r s)
    ⟨Owned.init hp mem st, [], st, Dispatch.init p mem st⟩
    fun ⟨ho, _, _, h⟩ _ hm => ⟨ho.move hm, h.move ho hm⟩
  this.2

/-- What `Dispatch` says of the queries the tasks were given. -/
theorem Dispatch.law {r : Stream} {qs : List (List UInt8)}
    (h : Dispatch st qs r s) :
    s.tasks.map (·.qsize) = qs.map List.length ∧
      qs <+: dispatch (st.bytes.length + 1) st ∧
      (s.loop.stopped = true → qs = dispatch (st.bytes.length + 1) st) ∧
      ∀ (i : ℕ) (t : QueryTask), s.tasks[i]? = some t → t.pc = .start →
        qs[i]? = some (slice s.mem t.buf.arr t.qsize) := by
  obtain ⟨k, hk⟩ := Nat.exists_eq_add_of_le (Nat.le_succ_of_le h.read.length_le)
  exact ⟨h.qsize, ⟨_, (hk ▸ h.read.dispatch_add k).symm⟩,
    fun hs => (h.read.dispatch_eq (h.stopped hs)).symm, h.payload⟩

/-- A task that has not parsed its query yet finds in its buffer its own frame of `dispatch`. -/
theorem Dispatch.payload_dispatch {r : Stream} {qs : List (List UInt8)} (hd : Dispatch st qs r s)
    {i : ℕ} {t : QueryTask} (hi : s.tasks[i]? = some t) (hpc : t.pc = .start) :
    (dispatch (st.bytes.length + 1) st)[i]? = some (slice s.mem t.buf.arr t.qsize) := by
  obtain ⟨rest, hrest⟩ := hd.law.2.1
  have hp := hd.payload i t hi hpc
  rw [← hrest, List.getElem?_append_left (List.getElem?_eq_some_iff.1 hp).1, hp]

/-- **The dispatch law.** In every interleaving, the tasks spawned so far are given, in spawn order,
the first queries of `dispatch`; all of them once the loop has stopped reading; and a task that
has not parsed its query yet finds exactly its frame's payload in its buffer. -/
theorem dispatch_law (hp : PoolWF p)
    (hr : Reachable cfg env (ConnState.init p mem st) s) :
    ∃ qs, s.tasks.map (·.qsize) = qs.map List.length ∧
      qs <+: dispatch (st.bytes.length + 1) st ∧
      (s.loop.stopped = true → qs = dispatch (st.bytes.length + 1) st) ∧
      ∀ (i : ℕ) (t : QueryTask), s.tasks[i]? = some t → t.pc = .start →
        qs[i]? = some (slice s.mem t.buf.arr t.qsize) :=
  have ⟨qs, _, h⟩ := dispatch_reachable hp hr
  ⟨qs, h.law⟩

theorem dispatch_law_serveOne :
    let st := queries 1 15
    let s := (run ⟨fun _ _ _ => .ret (default, none), 1⟩ (fun _ => .resolving .panic) (.fresh st)
      (serveOne 8)).getD (.fresh st)
    ∃ qs, s.tasks.map (·.qsize) = qs.map List.length ∧ qs <+: dispatch (st.bytes.length + 1) st ∧
      (s.loop.stopped = true → qs = dispatch (st.bytes.length + 1) st) ∧
      ∀ (i : ℕ) (t : QueryTask), s.tasks[i]? = some t → t.pc = .start →
        qs[i]? = some (slice s.mem t.buf.arr t.qsize) :=
  dispatch_law poolWF_new (reachable_run_getD .init (by decide))

/-! ### The frames a connection dispatches -/

/-- Where the loop has returned, it returned why the sequential reader stops. -/
theorem Dispatch.returned {r₀ : Stream} {qs : List (List UInt8)}
    (h : Dispatch st qs r₀ s) {r : Stop} (hl : s.loop = .returned r) :
    r = stopOf (restAfter (st.bytes.length + 1) st) := by
  have hle := h.read.length_le
  have hrest := h.read.restAfter_add (st.bytes.length + 1 - qs.length)
  rw [Nat.add_sub_cancel' (by omega)] at hrest
  obtain ⟨k, hk⟩ : ∃ k, st.bytes.length + 1 - qs.length = k + 1 :=
    ⟨_, (Nat.succ_pred_eq_of_pos (by omega)).symm⟩
  rw [hrest, hk, restAfter, h.stopped (by simp [hl, ReadLoop.stopped])]
  exact h.reason r (by simp [hl, ReadLoop.stop?])

/-- The loop stops where the sequential reader does, and for the same reason. -/
theorem returned_stopOf (hp : PoolWF p)
    (hr : Reachable cfg env (ConnState.init p mem st) s) {r : Stop} (hl : s.loop = .returned r) :
    r = stopOf (restAfter (st.bytes.length + 1) st) :=
  have ⟨_, _, h⟩ := dispatch_reachable hp hr
  h.returned hl

theorem Stop.ofRead_eq_eof_iff (res : ReadResult) :
    Stop.ofRead res = .eof ↔ res.err = some .eof := by
  unfold Stop.ofRead
  split <;> simp_all

theorem shortErr_eq_eof_iff (fin : StreamEnd) (got : ℕ) :
    shortErr fin got = .eof ↔ fin = .eof ∧ got = 0 := by
  cases fin <;> simp [shortErr]

/-- `readTCP` stops the loop with `io.EOF` exactly on a stream that ends in `io.EOF` and is empty,
or is a bare length prefix announcing a non-empty body. -/
theorem stopOf_eq_eof_iff (r : Stream) :
    stopOf r = .eof ↔ r = ⟨[], .eof⟩ ∨ ∃ a b, r = ⟨[a, b], .eof⟩ ∧ 0 < beUint16 [a, b] := by
  obtain ⟨bs, fin⟩ := r
  match bs with
  | [] => simp [stopOf, readTCP, readFull, Stop.ofRead_eq_eof_iff, shortErr_eq_eof_iff]
  | [a] => simp [stopOf, readTCP, readFull, Stop.ofRead_eq_eof_iff, shortErr_eq_eof_iff]
  | a :: b :: rest =>
    have hle := beUint16_take_two_le (a :: b :: rest)
    simp only [List.take, maxTCPSize] at hle
    simp only [stopOf, readTCP, readFull_of_le fin (show 2 ≤ (a :: b :: rest).length by simp),
      List.take, List.drop, maxTCPSize, if_neg (Nat.not_lt.2 hle),
      if_neg (show ¬65536 < beUint16 [a, b] by omega), Stop.ofRead_eq_eof_iff]
    by_cases hL : beUint16 [a, b] ≤ rest.length
    · -- a whole frame: no error
      rw [readFull_of_le fin hL]
      refine ⟨fun h => by simp at h, ?_⟩
      rintro (h | ⟨a', b', h, h0⟩)
      · simp at h
      · simp only [Stream.mk.injEq, List.cons.injEq] at h
        obtain ⟨⟨rfl, rfl, rfl⟩, -⟩ := h
        simp only [List.length_nil, Nat.le_zero] at hL
        omega
    · -- the stream ends inside the body
      rw [readFull_of_lt fin (Nat.lt_of_not_le hL), Option.some.injEq, shortErr_eq_eof_iff,
        List.length_eq_zero]
      constructor
      · rintro ⟨rfl, rfl⟩
        exact .inr ⟨a, b, rfl, by simp only [List.length_nil, Nat.le_zero] at hL; omega⟩
      · rintro (h | ⟨a', b', h, -⟩)
        · simp at h
        · simp only [Stream.mk.injEq, List.cons.injEq] at h
          obtain ⟨⟨rfl, rfl, rfl⟩, rfl⟩ := h
          exact ⟨rfl, rfl⟩

/-- A stop where `readTCP` finds no query in `x` returns nil exactly when `x` is empty, or a bare
length prefix announcing a non-empty body, and then ends in `io.EOF`. -/
theorem Stop.error_eq_none_iff {x : Stream} {r : Stop} (h : r = stopOf x) (ioText : ℕ → String) :
    Stop.error ioText r = none ↔
      x = ⟨[], .eof⟩ ∨ ∃ a b, x = ⟨[a, b], .eof⟩ ∧ 0 < beUint16 [a, b] := by
  rw [← stopOf_eq_eof_iff, ← h]
  cases r <;> simp [Stop.error]

/-- **What `serveTCPConn` returns.** Once it has returned, it has returned `Stop.error` of why
`readTCP` finds no query where the sequential reader stops: nil exactly when the client's stream,
past the frames the loop dispatched, is empty or a bare length prefix announcing a non-empty body,
and then ends in `io.EOF`; otherwise `"TCP read: …"` or `"query too small: …"`. -/
theorem returned_nil_iff (hp : PoolWF p)
    (hr : Reachable cfg env (ConnState.init p mem st) s) {r : Stop} (hl : s.loop = .returned r)
    (ioText : ℕ → String) :
    r = stopOf (restAfter (st.bytes.length + 1) st) ∧
      (Stop.error ioText r = none ↔ restAfter (st.bytes.length + 1) st = ⟨[], .eof⟩ ∨
        ∃ a b, restAfter (st.bytes.length + 1) st = ⟨[a, b], .eof⟩ ∧ 0 < beUint16 [a, b]) :=
  have h := returned_stopOf hp hr hl
  ⟨h, Stop.error_eq_none_iff h ioText⟩

/-- A frame, then a bare length prefix announcing 20 bytes, then `io.EOF`: `serveTCPConn`
answers the frame and returns nil. -/
theorem returned_nil_bare_prefix :
    let st : Stream := ⟨(queries 1 15).bytes ++ [0, 20], .eof⟩
    Stop.eof = stopOf (restAfter (st.bytes.length + 1) st) ∧
      (Stop.error (fun _ => "") .eof = none ↔ restAfter (st.bytes.length + 1) st = ⟨[], .eof⟩ ∨
        ∃ a b, restAfter (st.bytes.length + 1) st = ⟨[a, b], .eof⟩ ∧ 0 < beUint16 [a, b]) :=
  returned_nil_iff poolWF_new
    (reachable_run_getD .init (show (run ⟨fun _ _ _ => .ret (default, none), 1⟩
      (fun _ => .resolving (.ret ⟨[], 12, default, none⟩))
      (.fresh ⟨(queries 1 15).bytes ++ [0, 20], .eof⟩) (serveOne 10)).isSome by decide))
    (by decide) (fun _ => "")

end NextDnsProxy.Proxy.Conn

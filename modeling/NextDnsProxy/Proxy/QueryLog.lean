import NextDnsProxy.Proxy.ServerServed

/-!
# The query log

Each query task ends by handing `p.logQuery` a `QueryInfo` (tcp.go:90–102) built from its
variables: the query `query.New` parsed from the frame and the connection's addresses, the
frame's size `qsize`, what `Resolve` returned, and the final `err`. Those variables are set by
different statements, some of them after a recovered panic, and `qsize` by the read loop before
the task started. This module states what the log is owed for each frame a client sends, as a
function of the frame and of the collaborators alone, and proves that the code logs exactly
that.

* `Config.logRecord` — the record owed to the query of bytes `b`; `TaskEnv.resolved` gives its
  response size and `ResolveInfo`.
* `RecordInv` — a task's `rsize` and `ResolveInfo` are zero until `Resolve`, then what
  `TaskEnv.resolved` says, and every reply it hands to `writeTCP` is `rsize` bytes long.
* `Dispatch.logged` — what each task of one connection has logged, from the connection's
  invariants, so that it lifts to each connection of the server.
* **`server_query_logged`** — on every connection of the server, the `i`-th task logs nothing
  before `logQuery` and exactly one record from then on: the one owed to the `i`-th frame its
  client sent, whose `ResponseSize` is the length of the reply the task handed to `writeTCP`.
-/

namespace NextDnsProxy.Proxy.Conn

open BufferPool Framing

variable {cfg : Config}

/-! ### What the log is owed -/

/-- The `rsize` and `ResolveInfo` a task logs when its collaborators behave as `e` and its query
is `q` (tcp.go:104–112): what `Resolve` returned, except that `rsize` becomes the length of the
SERVFAIL message once `replyRCode` has written it; their zero values when `Resolve` panicked. -/
def TaskEnv.resolved (e : TaskEnv) (q : Query) : ℤ × ResolveInfo :=
  match e.resolve, e.replyRCode with
  | .panic, _ => (0, default)
  | .ret r, .ret () =>
    (if r.servfail then (Conn.replyRCode rcodeServerFailure q).length else r.rsize, r.info)
  | .ret r, .panic => (r.rsize, r.info)

/-- The record `p.logQuery` is owed for the query of bytes `b` (tcp.go:90–102): the fields of the
query `query.New` parses from `b` with the connection's addresses as `addrIP` gives them (its
`PeerIP` among them), the frame's length, what `Resolve` returned and the error `loggedErr`;
none when `addrIP` or `query.New` panics, as the task then never logs. -/
def Config.logRecord (cfg : Config) (e : TaskEnv) (b : List UInt8) : Option QueryInfo :=
  match cfg.newQuery e b with
  | .panic => none
  | .ret (q, _) => some ⟨q.peerIP, "TCP", q.qtype, q.name, b.length, (e.resolved q).1,
      (e.resolved q).2.profile, (e.resolved q).2.fromCache, (e.resolved q).2.transport,
      e.loggedErr⟩

/-- The record a `p.logQuery` effect hands to the log. -/
def Effect.logged : Effect → Option QueryInfo
  | .logQuery r => some r
  | _ => none

/-- A task logs once, at `logQuery`, and logs its own record. -/
theorem TaskInv.logged {e : TaskEnv} {t : QueryTask} (h : TaskInv e t) :
    t.trail.filterMap Effect.logged =
      if t.pc = .done ∨ t.pc = .finished then [t.record] else [] := by
  have hpre : ∀ pre : List Effect, (∀ x ∈ pre, x.isWrite) → pre.filterMap Effect.logged = [] :=
    fun pre hw => List.filterMap_eq_nil_iff.2 fun x hx => by
      have := hw x hx
      cases x <;> simp_all [Effect.isWrite, Effect.logged]
  cases hpc : t.pc <;> simp only [TaskInv, hpc] at h
  case start | getLarge | resolve | crashed => simp [h, Effect.logged]
  case writeLen => simp [h.1]
  case writeBody => obtain ⟨⟨b, htr⟩, -⟩ := h; simp [htr, Effect.logged]
  all_goals
    obtain ⟨pre, htr, -, hw, -⟩ := h
    simp [htr, hpre pre hw, QueryTask.cleanup, Effect.logged]

/-- A task's record is the one owed to its frame once its variables are those of its query. -/
theorem logRecord_eq_record {e : TaskEnv} {t : QueryTask} {b : List UInt8}
    {c : Option ℕ} (hq : cfg.newQuery e b = .ret (t.q, c)) (hsize : t.qsize = b.length)
    (hres : (t.rsize, t.ri) = e.resolved t.q) (herr : t.err = e.loggedErr) :
    cfg.logRecord e b = some t.record := by
  simp [Config.logRecord, QueryTask.record, hq, hsize, herr, ← hres]

/-! ### The response size and `ResolveInfo` of each task -/

/-- Only `Resolve` sets a task's `rsize` and `ResolveInfo`. -/
theorem taskStep_rsize {e : TaskEnv} {pick : Option ℕ} {s s' : ConnState}
    {t u : QueryTask} (h : taskStep cfg e pick s t = some (s', u)) (hpc : t.pc ≠ .resolve) :
    u.rsize = t.rsize ∧ u.ri = t.ri := by
  unfold taskStep at h
  cases hpc' : t.pc <;> simp only [hpc'] at h
  case resolve => exact absurd hpc' hpc
  case finished | crashed => cases h
  all_goals (repeat' split at h) <;> cases h <;> simp [crash, QueryTask.recover]

/-- What a task's `rsize` and `ResolveInfo` are: zero until `Resolve`, then what its
collaborators and its query make them; every reply it hands to `writeTCP` is `rsize` bytes. -/
def RecordInv (e : TaskEnv) (t : QueryTask) : Prop :=
  (∀ m, .writeTCP m ∈ t.trail → (m.length : ℤ) = t.rsize) ∧
  match t.pc with
  | .start | .getLarge | .resolve => (t.rsize, t.ri) = (0, default)
  | .crashed => True
  | _ => (t.rsize, t.ri) = e.resolved t.q

theorem RecordInv.spawn (e : TaskEnv) (b : Slice) (n : ℕ) : RecordInv e (QueryTask.spawn b n) :=
  ⟨fun _ h => absurd h (List.not_mem_nil _), rfl⟩

/-- `Resolve` leaves a task at `writeLen` or, having panicked, at `putBuf`, with the `rsize` and
`ResolveInfo` that `TaskEnv.resolved` gives. -/
theorem taskStep_resolved {e : TaskEnv} {pick : Option ℕ} {s s' : ConnState}
    {t u : QueryTask} (h : taskStep cfg e pick s t = some (s', u)) (hpc : t.pc = .resolve)
    (hz : (t.rsize, t.ri) = (0, default)) : (u.rsize, u.ri) = e.resolved u.q := by
  obtain ⟨hr, hi⟩ := Prod.mk.inj hz
  unfold taskStep at h
  simp only [hpc] at h
  unfold TaskEnv.resolved
  split at h
  · cases h
    split <;> simp_all [QueryTask.recover]
  · rename_i r hres
    split at h
    · split at h <;> cases h <;> simp [QueryTask.recover, Resolved.servfail, hres, *]
    · cases h
      cases hrc : e.replyRCode <;> simp [Resolved.servfail, hres, *]

/-- **Task steps keep `RecordInv`.** -/
theorem RecordInv.step {e : TaskEnv} {pick : Option ℕ} {s s' : ConnState}
    {t u : QueryTask} (hinv : TaskInv e t) (h : RecordInv e t)
    (ht : taskStep cfg e pick s t = some (s', u)) : RecordInv e u := by
  have hs := taskStep_spec ht
  have hnext := hs.next
  refine ⟨fun m hm => ?_, ?_⟩
  · rcases hs.sent m hm with hm | ⟨hpc, rfl⟩
    · -- an earlier reply: `Resolve` runs before any `writeTCP`
      have hpc : t.pc ≠ .resolve := fun hpc => by simp [TaskInv, hpc] at hinv; simp [hinv] at hm
      rw [(taskStep_rsize ht hpc).1]
      exact h.1 m hm
    · -- the reply handed to `writeTCP` now: `rbuf[:rsize]`, with `0 ≤ rsize`
      have h0 : 0 ≤ t.rsize := by simp only [TaskInv, hpc] at hinv; exact hinv.2.2.1
      rw [(taskStep_rsize ht (by simp [hpc])).1, length_slice, Int.toNat_of_nonneg h0]
  · obtain ⟨-, h⟩ := h
    have hq := taskStep_q ht
    generalize u.pc = p at hnext hq ⊢
    cases hpc : t.pc <;> simp only [hpc] at h <;> simp only [TaskPc.next, hpc, List.mem_cons,
      List.mem_singleton, List.not_mem_nil, or_false] at hnext
    case resolve => rcases hnext with rfl | rfl <;> exact taskStep_resolved ht hpc h
    case start | getLarge =>
      obtain ⟨hr, hi⟩ := taskStep_rsize ht (by simp [hpc])
      rcases hnext with rfl | rfl <;> simp only [hr, hi, h]
    all_goals
      obtain ⟨hr, hi⟩ := taskStep_rsize ht (by simp [hpc])
      rcases hnext with rfl | rfl <;>
      · have hq : u.q = t.q := by simpa [hpc] using (hq (by simp)).2
        simp only [hr, hi, hq, h]

/-- Every step of the connection keeps `RecordInv` of its tasks. -/
theorem recordsInv_move {env : ℕ → TaskEnv} {s s' : ConnState}
    (ht : ∀ i t, s.tasks[i]? = some t → TaskInv (env i) t)
    (h : ∀ (i : ℕ) (t : QueryTask), s.tasks[i]? = some t → RecordInv (env i) t)
    (hm : Move cfg env s s') :
    ∀ (i : ℕ) (u : QueryTask), s'.tasks[i]? = some u → RecordInv (env i) u := by
  intro i u hi
  rcases hm.task_of hi with hu | ⟨t, pick, s₁, hti, hts, -⟩ | ⟨b, n, rfl⟩
  · exact h i u hu
  · exact (h i t hti).step (ht i t hti) hts
  · exact RecordInv.spawn _ b n

/-! ### What each task has logged -/

/-- The `i`-th task serves the `i`-th frame the loop dispatched, of the task's `qsize`. -/
theorem Dispatch.frame {st r : Stream} {qs : List (List UInt8)} {s : ConnState}
    (hd : Dispatch st qs r s) {i : ℕ} {t : QueryTask} (hi : s.tasks[i]? = some t) :
    ∃ b, (dispatch (st.bytes.length + 1) st)[i]? = some b ∧ t.qsize = b.length := by
  obtain ⟨hsz, ⟨rest, hrest⟩, -, -⟩ := hd.law
  have hl := congrArg (·[i]?) hsz
  simp only [List.getElem?_map, hi, Option.map_some'] at hl
  obtain ⟨b, hb, hlen⟩ := Option.map_eq_some'.1 hl.symm
  exact ⟨b, hrest ▸ (List.getElem?_append_left (List.getElem?_eq_some_iff.1 hb).1).trans hb,
    hlen.symm⟩

/-- **What each task of a connection has logged**, from the connection's invariants: the task
spawned for the `i`-th frame `b` of the client logs nothing before `logQuery` and then once the
record owed to `b`, whose response size is the length of any reply the task handed to
`writeTCP`. -/
theorem Dispatch.logged {env : ℕ → TaskEnv} {st r : Stream}
    {qs : List (List UInt8)} {s : ConnState} (hd : Dispatch st qs r s)
    (hq : Parsed cfg env (dispatch (st.bytes.length + 1) st) s)
    (ht : ∀ i t, s.tasks[i]? = some t → TaskInv (env i) t)
    (hrec : ∀ (i : ℕ) (t : QueryTask), s.tasks[i]? = some t → RecordInv (env i) t)
    {i : ℕ} {t : QueryTask} (hi : s.tasks[i]? = some t) :
    ∃ b, (dispatch (st.bytes.length + 1) st)[i]? = some b ∧
      t.trail.filterMap Effect.logged =
        (if t.pc = .done ∨ t.pc = .finished then (cfg.logRecord (env i) b).toList else []) ∧
      ∀ rec m, cfg.logRecord (env i) b = some rec → .writeTCP m ∈ t.trail →
        rec.responseSize = m.length := by
  obtain ⟨b, hb, hsize⟩ := hd.frame hi
  -- past `Resolve`, the task holds the query parsed from that frame, and what `Resolve` returned
  have hpast : t.pc ∉ [.start, .getLarge, .resolve, .crashed] →
      ∃ c, cfg.newQuery (env i) b = .ret (t.q, c) ∧ (t.rsize, t.ri) = (env i).resolved t.q := by
    intro hpc
    simp only [List.mem_cons, List.not_mem_nil, or_false, not_or] at hpc
    obtain ⟨b', c, hb', hpar⟩ := hq i t hi hpc.1 hpc.2.2.2
    have hres := (hrec i t hi).2
    refine ⟨c, Option.some.inj (hb'.symm.trans hb) ▸ hpar, ?_⟩
    split at hres <;> simp_all
  have hinv := ht i t hi
  refine ⟨b, hb, ?_, fun rec m hrec' hm => ?_⟩
  · rw [hinv.logged]
    split_ifs with hpc
    · -- done or finished: the task has logged its own record, with `err` final
      obtain ⟨c, hpar, hres⟩ := hpast (by rcases hpc with h | h <;> simp [h])
      have herr : t.err = (env i).loggedErr := by
        rcases hpc with h | h <;> simp only [TaskInv, h] at hinv <;>
          obtain ⟨-, -, -, -, h⟩ := hinv <;> exact h
      rw [logRecord_eq_record hpar hsize hres herr]
      rfl
    · rfl
  · -- a task that has written has run `Resolve`
    obtain ⟨c, hpar, hres⟩ := hpast fun hpc => by
      simp only [List.mem_cons, List.not_mem_nil, or_false] at hpc
      rcases hpc with h | h | h | h <;> simp [TaskInv, h] at hinv <;> simp [hinv] at hm
    simp only [Config.logRecord, hpar, Option.some.injEq] at hrec'
    rw [← hrec', (hrec i t hi).1 m hm, ← hres]

end NextDnsProxy.Proxy.Conn

namespace NextDnsProxy.Proxy.Server

open BufferPool Framing
open Conn (ConnState Config TaskEnv QueryTask Memory Effect RecordInv dispatch)

variable {cfg : Config} {env : ℕ → ℕ → TaskEnv} {pending : List Accepted} {mem : Memory}
    {srv : State}

/-! ### Across the server -/

/-- `RecordInv` of every task of every connection. -/
def RecordConns (env : ℕ → ℕ → TaskEnv) (srv : State) : Prop :=
  ∀ k h, srv.handlers[k]? = some h →
    ∀ (i : ℕ) (t : QueryTask), h.tasks[i]? = some t → RecordInv (env k i) t

/-- **Every move of the server keeps `RecordConns`**: `RecordInv` reads a task alone, and only the
connection's own moves change its tasks. -/
theorem RecordConns.move {srv' : State}
    (hi : Inv cfg env srv) (h : RecordConns env srv) (hm : Move cfg env srv srv') :
    RecordConns env srv' := by
  cases hm with
  | accept input rest =>
    intro k u hk
    rcases getElem?_accept hk with hk | ⟨-, rfl⟩
    · exact h k u hk
    · simp [Handler.init]
  | conn k hk hc hm =>
    intro j v hj
    rcases getElem?_update hk hj with ⟨rfl, rfl⟩ | ⟨-, hj⟩
    · exact Conn.recordsInv_move (hi.conns j _ hk).tasks (h j _ hk) hm
    · exact h j v hj
  | _ => exact h

/-- **`RecordConns` at every reachable state.** -/
theorem recordConns_reachable (hr : Reachable cfg env (State.init pending mem) srv) :
    RecordConns env srv :=
  have h := hr.inv (P := fun srv => Inv cfg env srv ∧ RecordConns env srv)
    ⟨Inv.init cfg env pending mem, fun k h hk => by simp [State.init] at hk⟩
    fun h hm => ⟨h.1.move hm, h.2.move h.1 hm⟩
  h.2

/-- **The query log.** At every reachable state of the server, whatever `cap(inflightRequests)`,
the `i`-th task of the `k`-th connection serves the `i`-th frame `b` the `k`-th client sent. It
has logged nothing before `logQuery`, and from then on exactly one record: the one `b` is owed,
with the name, type and `PeerIP` of the query `query.New` builds from `b` and the connection's
addresses, `len(b)` as its size, what `Resolve` returned and the error `loggedErr`. Its
`ResponseSize` is the length of the reply the task handed to `writeTCP`. -/
theorem server_query_logged (hr : Reachable cfg env (State.init pending mem) srv) {k : ℕ}
    {h : Handler} {st : Stream} (hk : srv.handlers[k]? = some h)
    (hst : (connInputs pending)[k]? = some st) {i : ℕ} {t : QueryTask}
    (hi : h.tasks[i]? = some t) :
    ∃ b, (dispatch (st.bytes.length + 1) st)[i]? = some b ∧
      t.trail.filterMap Effect.logged =
        (if t.pc = .done ∨ t.pc = .finished then (cfg.logRecord (env k i) b).toList else []) ∧
      ∀ rec m, cfg.logRecord (env k i) b = some rec → .writeTCP m ∈ t.trail →
        rec.responseSize = m.length :=
  have ⟨_, _, hd, hq, _⟩ := (parsedConns_reachable hr).get hk hst
  hd.logged hq ((inv_reachable hr).conns k h hk).tasks (recordConns_reachable hr k h hk) hi

theorem server_query_logged_serveTwo :
    let cfg : Config := ⟨fun _ _ _ => .ret (default, none), 2⟩
    let e : TaskEnv := .resolving (.ret ⟨[7, 7, 7], 3, default, none⟩)
    let h := ((run cfg (fun _ _ => e) startTwo (serveTwo 10)).getD startTwo).handlers[1]?.getD
      (.init ⟨[], .eof⟩)
    let t := h.tasks[0]?.getD (.spawn (.make 0 0) 0)
    let st := Conn.queries 1 15
    ∃ b, (dispatch (st.bytes.length + 1) st)[0]? = some b ∧
      t.trail.filterMap Effect.logged =
        (if t.pc = .done ∨ t.pc = .finished then (cfg.logRecord e b).toList else []) ∧
      ∀ rec m, cfg.logRecord e b = some rec → .writeTCP m ∈ t.trail →
        rec.responseSize = m.length :=
  @server_query_logged _ (fun _ _ => .resolving (.ret ⟨[7, 7, 7], 3, default, none⟩)) _ _ _
    (reachable_run_getD .init (by decide)) 1 _ _ (some_getD _ (by decide))
    (by decide : (connInputs (twoClients 15))[1]? = some (Conn.queries 1 15)) 0 _
    (some_getD _ (by decide))

end NextDnsProxy.Proxy.Server

import NextDnsProxy.Proxy.Server
import NextDnsProxy.Proxy.Reply

/-!
# Many connections on one pool, one memory and one admission channel

The single-connection development lifts to the server. Its invariants split in two. Ownership of
the pool's arrays and the count of `inflightRequests` are shared by every connection and by the
other transports, so they are restated over the whole server (`Owned`, `Acct`). The rest —
`Joins`, `TaskInv` and `RepliesInv` — is each connection's own (`Local`), and holds of each
connection's `view`: a step of one connection changes no field of another and writes into no
buffer another connection holds.

* **`server_admission`** — `len(inflightRequests)` is the number of tokens the other transports
  and the goroutines of all connections hold, and the queries in flight on every connection
  together with the other transports' never exceed the channel's capacity.
* **`buffers_not_shared`** — a buffer one connection's goroutine holds is neither in the pool nor
  held by another connection.
* **`server_step_projects`** — seen from one connection, a server step is a step of
  `Conn.step` on the connection's view when it is that connection's move, and otherwise leaves the
  connection and the bytes of every buffer it holds as they were.
* **`server_finished_reply`**, **`server_join_before_close`** — `finished_reply` and
  `join_before_close` hold of every connection, in any interleaving with the others.
* **`server_tokens_released`** — once every connection accepted has returned from
  `serveTCPConn`, the only tokens left in `inflightRequests` are the other transports'.
-/

namespace NextDnsProxy.Proxy.Server

open BufferPool Framing
open Conn (ConnState Config TaskEnv QueryTask ReadLoop Memory Joins TaskInv RepliesInv
  JoinBeforeClose sumBy poolArrays)

variable {cfg : Config} {env : ℕ → ℕ → TaskEnv} {pending : List Accepted} {mem : Memory}
    {srv : State}

/-! ### What each connection holds -/

/-- The buffers the goroutines of a connection hold. -/
def Handler.held (h : Handler) : List Slice := h.loop.bufs ++ h.tasks.flatMap QueryTask.bufs

/-- Their backing arrays, once per owner. -/
def Handler.arrays (h : Handler) : List ℕ := h.held.map Slice.arr

/-- The goroutines of a connection that hold a token. -/
def Handler.holders (h : Handler) : ℕ :=
  (if h.loop.holdsToken then 1 else 0) + h.tasks.countP (·.pc.holdsToken)

/-- Every array the pool or a goroutine of any connection owns, once per owner. -/
def State.owned (srv : State) : List ℕ :=
  poolArrays srv.pool ++ srv.handlers.flatMap Handler.arrays

@[simp] theorem view_held (srv : State) (h : Handler) : (srv.view h).held = h.held := rfl

@[simp] theorem view_holders (srv : State) (h : Handler) : (srv.view h).holders = h.holders := rfl

@[simp] theorem ofConn_holders (s : ConnState) : (Handler.ofConn s).holders = s.holders := rfl

theorem view_owned (srv : State) (h : Handler) :
    (srv.view h).owned = poolArrays srv.pool ++ h.arrays := by
  simp only [ConnState.owned, Handler.arrays, Handler.held, List.map_append, List.map_flatMap,
    List.append_assoc]
  rfl

theorem owned_eq_ofConn (s : ConnState) :
    s.owned = poolArrays s.pool ++ (Handler.ofConn s).arrays :=
  view_owned ⟨[], none, s.pool, s.mem, s.tokens, 0, s.crashed, []⟩ (.ofConn s)

theorem mem_held_of_mem_bufs {u : Handler} {i : ℕ} {t : QueryTask} (hi : u.tasks[i]? = some t)
    {b : Slice} (hb : b ∈ t.bufs) : b ∈ u.held :=
  List.mem_append_right _ (List.mem_flatMap.2 ⟨t, List.getElem?_mem hi, hb⟩)

/-! ### Ownership across connections -/

/-- **Ownership across connections**: the pool stays segregated; every array is in the pool or
held by one goroutine of one connection, at most once, and below the allocator's next; every held
buffer is a large one. -/
structure Owned (srv : State) : Prop where
  segregated : Segregated srv.pool
  nodup : srv.owned.Nodup
  fresh : ∀ a ∈ srv.owned, a < srv.pool.fresh
  large : ∀ h ∈ srv.handlers, ∀ b ∈ h.held, b.cap = 65536

theorem Owned.init (pending : List Accepted) (mem : Memory) : Owned (State.init pending mem) :=
  have h : (State.init pending mem).owned = poolArrays newTieredBufferPool := by
    simp [State.owned, State.init]
  ⟨segregated_new, h ▸ Conn.poolWF_new.nodup, h ▸ Conn.poolWF_new.fresh, by simp [State.init]⟩

/-- Each connection, seen alone, owns its arrays as `Conn.Owned` asks. -/
theorem Owned.view (ho : Owned srv) {h : Handler} (hh : h ∈ srv.handlers) :
    Conn.Owned (srv.view h) := by
  have hs : List.Sublist (srv.view h).owned srv.owned := by
    rw [view_owned]
    exact (List.sublist_flatten_of_mem (List.mem_map_of_mem _ hh)).append_left _
  exact ⟨ho.segregated, ho.nodup.sublist hs, fun a ha => ho.fresh a (hs.subset ha), ho.large h hh⟩

/-- Two connections hold no array in common. -/
theorem Owned.arr_ne (ho : Owned srv) {j k : ℕ} (hjk : j ≠ k) {hj hk : Handler}
    (h₁ : srv.handlers[j]? = some hj) (h₂ : srv.handlers[k]? = some hk) {b c : Slice}
    (hb : b ∈ hj.held) (hc : c ∈ hk.held) : b.arr ≠ c.arr := fun he =>
  Conn.disjoint_of_nodup_flatMap ho.nodup.of_append_right hjk h₁ h₂ (List.mem_map_of_mem _ hb)
    (he ▸ List.mem_map_of_mem _ hc)

/-- A step of connection `k` writes no byte of a buffer another connection holds. -/
theorem Owned.mem_other {e : ℕ → TaskEnv} (ho : Owned srv) {j k : ℕ}
    (hjk : j ≠ k) {hj hk : Handler} (h₁ : srv.handlers[j]? = some hj)
    (h₂ : srv.handlers[k]? = some hk) {s' : ConnState} (hm : Conn.Move cfg e (srv.view hk) s') :
    ∀ b ∈ hj.held, s'.mem b.arr = srv.mem b.arr :=
  fun _ hb => hm.mem_eq_of_not_held fun _ hc => (ho.arr_ne hjk h₁ h₂ hb hc).symm

/-- **A step of one connection keeps `Owned`**: it trades arrays between the pool and that
connection's goroutines only (`Conn.Owned.trade`). -/
theorem Owned.conn {e : ℕ → TaskEnv} (ho : Owned srv) {k : ℕ}
    {h : Handler} (hk : srv.handlers[k]? = some h) {s' : ConnState}
    (hm : Conn.Move cfg e (srv.view h) s') : Owned (srv.update k s') := by
  have ht := (ho.view (List.getElem?_mem hk)).trade hm
  obtain ⟨hlt, rfl⟩ := List.getElem?_eq_some_iff.1 hk
  have hp := Conn.flatMap_set_perm Handler.arrays srv.handlers k (.ofConn s') hlt
  have h' : (srv.update k s').owned.Nodup ∧ ∀ a ∈ (srv.update k s').owned, a < s'.pool.fresh :=
    Conn.nodup_fresh_of_count ho.nodup ho.fresh ht.fresh_le fun a => by
      have h₁ := ht.count a
      have h₂ := hp.count_eq a
      rw [view_owned, owned_eq_ofConn] at h₁
      simp only [State.owned, update_handlers, update_pool, view_pool, List.count_append] at h₁ h₂ ⊢
      omega
  refine ⟨ht.segregated, h'.1, h'.2, fun u hu b hb => ?_⟩
  rcases List.mem_or_eq_of_mem_set hu with hu | rfl
  · exact ho.large u hu b hb
  · exact ht.large b hb

/-! ### Admission across connections -/

/-- **Admission across connections**: `len(inflightRequests)` counts the tokens of the other
transports and of every goroutine of every connection, and stays within the capacity. -/
structure Acct (cfg : Config) (srv : State) : Prop where
  tokens : srv.tokens = srv.others + sumBy Handler.holders srv.handlers
  capacity : srv.tokens ≤ cfg.capacity

/-- **A step of one connection keeps `Acct`**: it moves the count as it moves that connection's
token holders (`Conn.Move.counters`). -/
theorem Acct.conn {e : ℕ → TaskEnv} (ha : Acct cfg srv) {k : ℕ}
    {h : Handler} (hk : srv.handlers[k]? = some h) {s' : ConnState}
    (hm : Conn.Move cfg e (srv.view h) s') : Acct cfg (srv.update k s') := by
  have h₁ := hm.counters.1
  obtain ⟨hlt, rfl⟩ := List.getElem?_eq_some_iff.1 hk
  have h₂ := Conn.sumBy_set Handler.holders srv.handlers k (.ofConn s') hlt
  have h₃ := ha.tokens
  simp only [view_tokens, view_holders, ofConn_holders] at h₁ h₂
  exact ⟨by simp only [update_tokens, update_others, update_handlers]; omega,
    hm.tokens_le ha.capacity⟩

/-- A connection's token holders are among the server's tokens. -/
theorem Acct.holders_le (ha : Acct cfg srv) {h : Handler}
    (hh : h ∈ srv.handlers) : h.holders ≤ srv.tokens := by
  have := Conn.le_sumBy_of_mem Handler.holders hh
  have := ha.tokens
  omega

/-! ### What each connection keeps to itself -/

/-- What the single-connection development knows of a connection apart from the tokens and the
arrays it shares: `Joins`, `TaskInv` of every task and `RepliesInv`. -/
structure Local (env : ℕ → TaskEnv) (s : ConnState) : Prop where
  joins : Joins s
  tasks : ∀ i t, s.tasks[i]? = some t → TaskInv (env i) t
  replies : RepliesInv env s

/-- A connection's own step keeps `Local`, by the single-connection lemmas. -/
theorem Local.move {env : ℕ → TaskEnv} {s s' : ConnState} (hl : Local env s)
    (ho : Conn.Owned s) (hc : s.crashed = false) (hm : Conn.Move cfg env s s') : Local env s' :=
  ⟨hl.joins.move hc hm, Conn.tasksInv_move ho hl.joins hl.tasks hm, hl.replies.move ho hl.tasks hm⟩

/-- Any other step keeps `Local`: it changes no field of the connection and no byte of a buffer
the connection holds, and can only set the crash flag. -/
theorem Local.frame {env : ℕ → TaskEnv} {srv' : State} {h : Handler}
    (hl : Local env (srv.view h)) (hmem : ∀ b ∈ h.held, srv'.mem b.arr = srv.mem b.arr)
    (hcr : srv.crashed = true → srv'.crashed = true) : Local env (srv'.view h) := by
  obtain ⟨⟨hw, hc, hcl, hj⟩, ht, hr⟩ := hl
  exact ⟨⟨hw, fun t ht hpc => hcr (hc t ht hpc), hcl, hj⟩, ht, fun i t hi =>
    (hr i t hi).frame fun hpc =>
      hmem t.rbuf (mem_held_of_mem_bufs hi (by simp [QueryTask.bufs, hpc]))⟩

theorem Local.init (env : ℕ → TaskEnv) (srv : State) (input : Stream) :
    Local env (srv.view (.init input)) :=
  ⟨⟨rfl, by simp [Handler.init], rfl, by simp [Handler.init]⟩, by simp [Handler.init],
    by simp [RepliesInv, Handler.init]⟩

/-! ### The server invariant -/

/-- **The server invariant.** -/
structure Inv (cfg : Config) (env : ℕ → ℕ → TaskEnv) (srv : State) : Prop where
  owned : Owned srv
  acct : Acct cfg srv
  conns : ∀ k h, srv.handlers[k]? = some h → Local (env k) (srv.view h)

theorem Inv.init (cfg : Config) (env : ℕ → ℕ → TaskEnv) (pending : List Accepted)
    (mem : Memory) : Inv cfg env (State.init pending mem) :=
  ⟨Owned.init pending mem, ⟨rfl, Nat.zero_le _⟩, fun k h hk => by simp [State.init] at hk⟩

/-- Accepting a connection keeps `Inv`: the new handler holds no buffer and no token. -/
theorem Inv.accept (h : Inv cfg env srv)
    (input : Stream) (rest : List Accepted) :
    Inv cfg env { srv with pending := rest, handlers := srv.handlers ++ [.init input] } := by
  obtain ⟨ho, ha, hl⟩ := h
  have hown : ({ srv with pending := rest, handlers := srv.handlers ++ [.init input] } :
      State).owned = srv.owned := by
    simp [State.owned, Handler.arrays, Handler.held, Handler.init, ReadLoop.bufs]
  refine ⟨⟨ho.segregated, hown ▸ ho.nodup, hown ▸ ho.fresh, fun u hu b hb => ?_⟩,
    ⟨?_, ha.capacity⟩, fun k u hk => ?_⟩
  · rcases List.mem_append.1 hu with hu | hu
    · exact ho.large u hu b hb
    · simp [List.mem_singleton.1 hu, Handler.held, Handler.init, ReadLoop.bufs] at hb
  · simp [ha.tokens, Conn.sumBy_append, sumBy, Handler.holders, Handler.init, ReadLoop.holdsToken]
  · rcases getElem?_accept hk with hk | ⟨-, rfl⟩
    · exact hl k u hk
    · exact Local.init (env k) _ input

/-- **Every move of the server keeps `Inv`.** -/
theorem Inv.move {srv' : State} (h : Inv cfg env srv)
    (hm : Move cfg env srv srv') : Inv cfg env srv' := by
  cases hm with
  | accept input rest => exact h.accept input rest
  | timeout | fail =>
    exact ⟨⟨h.owned.1, h.owned.2, h.owned.3, h.owned.4⟩, ⟨h.acct.1, h.acct.2⟩, h.conns⟩
  | conn k hk hc hm =>
    rename_i u s'
    refine ⟨h.owned.conn hk hm, h.acct.conn hk hm, fun j v hj => ?_⟩
    rcases getElem?_update hk hj with ⟨rfl, rfl⟩ | ⟨hne, hj⟩
    · -- the connection that moved
      exact (h.conns j u hk).move (h.owned.view (List.getElem?_mem hk)) hc hm
    · -- another connection: its fields are as they were, and its buffers untouched
      exact (h.conns j v hj).frame (h.owned.mem_other hne hj hk hm) fun hcr => by simp [hc] at hcr
  | otherAcquire hc hlt =>
    refine ⟨⟨h.owned.1, h.owned.2, h.owned.3, h.owned.4⟩, ⟨?_, hlt⟩, fun k u hk =>
      (h.conns k u hk).frame (fun _ _ => rfl) id⟩
    have := h.acct.tokens
    dsimp only
    omega
  | otherRelease hc hlt =>
    refine ⟨⟨h.owned.1, h.owned.2, h.owned.3, h.owned.4⟩, ⟨?_, ?_⟩, fun k u hk =>
      (h.conns k u hk).frame (fun _ _ => rfl) id⟩ <;>
    · have := h.acct.tokens
      have := h.acct.capacity
      dsimp only
      omega

/-- **`Inv` at every reachable state.** -/
theorem inv_reachable (hr : Reachable cfg env (State.init pending mem) srv) :
    Inv cfg env srv :=
  hr.inv (Inv.init cfg env pending mem) fun h hm => h.move hm

/-! ### Safety across connections -/

/-- **Admission across connections.** -/
theorem server_admission (hr : Reachable cfg env (State.init pending mem) srv) :
    srv.tokens = srv.others + sumBy Handler.holders srv.handlers ∧
      srv.others + sumBy (fun h => h.tasks.countP (·.pc.holdsToken)) srv.handlers ≤
        cfg.capacity := by
  have ha := (inv_reachable hr).acct
  have hle : sumBy (fun h => h.tasks.countP (·.pc.holdsToken)) srv.handlers ≤
      sumBy Handler.holders srv.handlers :=
    Conn.sumBy_le_sumBy fun h _ => Nat.le_add_left _ _
  exact ⟨ha.tokens, by have := ha.tokens; have := ha.capacity; omega⟩

theorem server_admission_readTwo :
    let srv := (run ⟨fun _ _ _ => .ret (default, none), 2⟩
      (fun _ _ => .resolving (.ret ⟨[], 0, default, none⟩)) startTwo readTwo).getD startTwo
    srv.tokens = srv.others + sumBy Handler.holders srv.handlers ∧
      srv.others + sumBy (fun h => h.tasks.countP (·.pc.holdsToken)) srv.handlers ≤ 2 :=
  server_admission (reachable_run_getD .init (by decide))

/-- **No buffer is shared between connections.** -/
theorem buffers_not_shared (hr : Reachable cfg env (State.init pending mem) srv) {j k : ℕ}
    (hjk : j ≠ k) {hj hk : Handler} (h₁ : srv.handlers[j]? = some hj)
    (h₂ : srv.handlers[k]? = some hk) {b c : Slice} (hb : b ∈ hj.held) (hc : c ∈ hk.held) :
    b.arr ≠ c.arr ∧ b.arr ∉ poolArrays srv.pool := by
  have ho := (inv_reachable hr).owned
  exact ⟨ho.arr_ne hjk h₁ h₂ hb hc, fun hp => List.disjoint_of_nodup_append ho.nodup hp
    (List.mem_flatMap.2 ⟨hj, List.getElem?_mem h₁, List.mem_map_of_mem _ hb⟩)⟩

theorem buffers_not_shared_readTwo :
    let srv := (run ⟨fun _ _ _ => .ret (default, none), 2⟩
      (fun _ _ => .resolving (.ret ⟨[], 0, default, none⟩)) startTwo readTwo).getD startTwo
    let b : Slice := ⟨0, 65536, 65536, le_rfl⟩
    let c : Slice := ⟨1, 65536, 65536, le_rfl⟩
    b.arr ≠ c.arr ∧ b.arr ∉ poolArrays srv.pool :=
  buffers_not_shared (reachable_run_getD .init (by decide)) (by decide : (0 : ℕ) ≠ 1)
    (some_getD (.init ⟨[], .eof⟩) (by decide)) (some_getD (.init ⟨[], .eof⟩) (by decide))
    (by decide) (by decide)

/-- **Each connection runs `serveTCPConn`.** Seen from one connection, a step of the server is a
step of the single-connection model on the connection's view, when it is that connection's move;
any other step — the accept loop, another connection, another transport — leaves the connection's
fields and the bytes of every buffer it holds as they were. -/
theorem server_step_projects {srv' : State} {c : Choice}
    (hr : Reachable cfg env (State.init pending mem) srv) (hs : step cfg env srv c = some srv')
    {k : ℕ} {h : Handler} (hk : srv.handlers[k]? = some h) :
    (∀ c', c = .conn k c' → ∃ s', Conn.step cfg (env k) (srv.view h) c' = some s' ∧
      srv'.handlers[k]? = some (.ofConn s') ∧ srv'.view (.ofConn s') = s') ∧
    ((∀ c', c ≠ .conn k c') →
      srv'.handlers[k]? = some h ∧ ∀ b ∈ h.held, srv'.mem b.arr = srv.mem b.arr) := by
  refine ⟨fun c' hc => ?_, fun hn => ?_⟩
  · -- the connection's own move
    subst hc
    obtain ⟨u, s', hu, hs', rfl⟩ := step_conn hs
    cases hk.symm.trans hu
    exact ⟨s', hs', by
      rw [update_handlers, List.getElem?_set_self (List.getElem?_eq_some_iff.1 hk).1], rfl⟩
  · cases c with
    | conn j c =>
      -- another connection's move
      obtain ⟨u, s', hu, hs', rfl⟩ := step_conn hs
      have hne : j ≠ k := fun e => hn c (e ▸ rfl)
      exact ⟨by rwa [update_handlers, List.getElem?_set_ne hne],
        (inv_reachable hr).owned.mem_other hne.symm hk hu (Conn.step_move hs').2⟩
    | _ =>
      have ⟨hm, hh⟩ := step_frame (by simp) hs
      exact ⟨hh hk, fun _ _ => by rw [hm]⟩

theorem server_step_projects_readTwo :
    let cfg : Config := ⟨fun _ _ _ => .ret (default, none), 2⟩
    let env : ℕ → ℕ → TaskEnv := fun _ _ => .resolving (.ret ⟨[], 0, default, none⟩)
    let srv := (run cfg env startTwo readTwo).getD startTwo
    let srv' := (step cfg env srv (.conn 0 (.task 0 none))).getD srv
    let h := srv.handlers[1]?.getD (.init ⟨[], .eof⟩)
    (∀ c', Choice.conn 0 (.task 0 none) = .conn 1 c' → ∃ s', Conn.step cfg (env 1) (srv.view h) c' =
      some s' ∧ srv'.handlers[1]? = some (.ofConn s') ∧ srv'.view (.ofConn s') = s') ∧
    ((∀ c', Choice.conn 0 (.task 0 none) ≠ .conn 1 c') →
      srv'.handlers[1]? = some h ∧ ∀ b ∈ h.held, srv'.mem b.arr = srv.mem b.arr) :=
  server_step_projects (reachable_run_getD .init (by decide)) (some_getD _ (by decide))
    (some_getD _ (by decide))

/-- **Every reply of every connection is right**: `finished_reply` holds of each connection, in
any interleaving with the others, though they share the pool. A finished task has sent nothing
when `Resolve` panicked, or reported failure and `replyRCode` then panicked, and otherwise, when
`Resolve` wrote at least the bytes it reports, exactly its reply, once. -/
theorem server_finished_reply (hr : Reachable cfg env (State.init pending mem) srv) {k : ℕ}
    {h : Handler} (hk : srv.handlers[k]? = some h) {i : ℕ} {t : QueryTask}
    (hi : h.tasks[i]? = some t) (hf : t.pc = .finished) :
    ((env k i).replies = false → (srv.view h).sent i = []) ∧
      ((∀ r, (env k i).resolve = .ret r → ¬ r.servfail → r.rsize.toNat ≤ r.written.length) →
        (env k i).replies = true → ∃ m, t.reply (env k i) = some m ∧ (srv.view h).sent i = [m]) :=
  have hl := (inv_reachable hr).conns k h hk
  hl.replies.finished hl.tasks hi hf

theorem server_finished_reply_serveTwo :
    let env : ℕ → ℕ → TaskEnv := fun _ _ => .resolving (.ret ⟨[], 0, default, none⟩)
    let srv := (run ⟨fun _ _ _ => .ret (default, none), 2⟩ env startTwo (serveTwo 10)).getD
      startTwo
    let h := srv.handlers[1]?.getD (.init ⟨[], .eof⟩)
    let t := h.tasks[0]?.getD (.spawn (.make 0 0) 0)
    ((env 1 0).replies = false → (srv.view h).sent 0 = []) ∧
      ((∀ r, (env 1 0).resolve = .ret r → ¬ r.servfail → r.rsize.toNat ≤ r.written.length) →
        (env 1 0).replies = true → ∃ m, t.reply (env 1 0) = some m ∧ (srv.view h).sent 0 = [m]) :=
  @server_finished_reply ⟨fun _ _ _ => .ret (default, none), 2⟩
    (fun _ _ => .resolving (.ret ⟨[], 0, default, none⟩)) _ _ _
    (reachable_run_getD .init (by decide)) 1 _ (some_getD _ (by decide)) 0 _
    (some_getD _ (by decide)) (by decide)

/-- **Join before close on every connection.** -/
theorem server_join_before_close
    (hr : Reachable cfg env (State.init pending mem) srv) {k : ℕ} {h : Handler}
    (hk : srv.handlers[k]? = some h) : JoinBeforeClose cfg (env k) (srv.view h) :=
  have hl := (inv_reachable hr).conns k h hk
  .of_joins hl.joins hl.tasks

theorem server_join_before_close_serveTwo :
    let cfg : Config := ⟨fun _ _ _ => .ret (default, none), 2⟩
    let env : ℕ → ℕ → TaskEnv := fun _ _ => .resolving (.ret ⟨[], 0, default, none⟩)
    let srv := (run cfg env startTwo (serveTwo 10)).getD startTwo
    JoinBeforeClose cfg (env 1) (srv.view (srv.handlers[1]?.getD (.init ⟨[], .eof⟩))) :=
  @server_join_before_close _ (fun _ _ => .resolving (.ret ⟨[], 0, default, none⟩)) _ _ _
    (reachable_run_getD .init (by decide)) 1 _ (some_getD _ (by decide))

/-- A connection that has returned from `serveTCPConn` holds no token: its loop has released its
own, and every task has given its back. -/
theorem Local.holders_eq_zero {env : ℕ → TaskEnv} {h : Handler}
    (hl : Local env (srv.view h)) (hret : h.loop.isReturned = true) : h.holders = 0 := by
  have hfin := hl.joins.joined (ReadLoop.joined_of_isReturned hret)
  have hloop : h.loop.holdsToken = false := by
    obtain ⟨r, hl'⟩ := ReadLoop.isReturned_iff.1 hret
    simp [hl', ReadLoop.holdsToken]
  simp only [Handler.holders, hloop, Bool.false_eq_true, if_false, Nat.zero_add,
    List.countP_eq_zero]
  intro t ht
  simp [hfin t ht, Conn.TaskPc.holdsToken]

/-- **No token outlives its connection.** -/
theorem server_tokens_released (hr : Reachable cfg env (State.init pending mem) srv)
    (hret : ∀ h ∈ srv.handlers, h.loop.isReturned = true) : srv.tokens = srv.others := by
  have hi := inv_reachable hr
  have hz : sumBy Handler.holders srv.handlers = 0 := Conn.sumBy_eq_zero fun h hh =>
    have ⟨k, hk⟩ := List.mem_iff_getElem?.1 hh
    (hi.conns k h hk).holders_eq_zero (hret h hh)
  rw [hi.acct.tokens, hz, Nat.add_zero]

theorem server_tokens_released_serveTwo :
    let srv := (run ⟨fun _ _ _ => .ret (default, none), 2⟩
      (fun _ _ => .resolving (.ret ⟨[], 0, default, none⟩)) startTwo (serveTwo 10)).getD startTwo
    srv.tokens = srv.others :=
  server_tokens_released (reachable_run_getD .init (by decide)) (by decide)

end NextDnsProxy.Proxy.Server

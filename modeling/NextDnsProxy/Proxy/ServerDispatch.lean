import NextDnsProxy.Proxy.ServerInv
import NextDnsProxy.Proxy.Dispatch

/-!
# Each connection reads its own client

All connections take their buffers from one pool, and a buffer one connection puts back may be
the next another gets. Still, the dispatch law of a connection alone holds of every connection
of the server, against its own client's stream: no step of another connection writes into a
buffer this connection holds (`Owned.mem_other`).

* **`server_dispatch_law`** — the tasks of the `k`-th connection `serveTCP` accepted are given,
  in spawn order, the first queries of `dispatch` on the stream of the `k`-th client among the
  listener's results; all of them once its loop has stopped reading; and a task that has not
  parsed its query yet finds exactly its frame's payload in its buffer.
* **`server_returned_nil_iff`** — what each connection's goroutine hands to `p.ErrorLog`: the
  error `serveTCPConn` returns on the `k`-th connection is the one the sequential reader of the
  `k`-th client's stream gives where it stops.
-/

namespace NextDnsProxy.Proxy.Server

open BufferPool Framing
open Conn (ConnState Config TaskEnv QueryTask Memory Dispatch dispatch slice)

variable {cfg : Config} {env : ℕ → ℕ → TaskEnv} {pending : List Accepted} {mem : Memory}
    {srv : State}

/-- Another step keeps a connection's `Dispatch`: it writes into no buffer the connection holds. -/
theorem dispatch_frame {st r : Stream} {qs : List (List UInt8)} {srv' : State} {h : Handler}
    (hd : Dispatch st qs r (srv.view h)) (hmem : ∀ b ∈ h.held, srv'.mem b.arr = srv.mem b.arr) :
    Dispatch st qs r (srv'.view h) :=
  hd.of_frame rfl rfl rfl rfl fun t ht hpc => hmem t.buf
    (List.mem_append_right _ (List.mem_flatMap.2 ⟨t, ht, by simp [QueryTask.bufs, hpc]⟩))

/-- A property `P k st` of every connection, `k` its accept index and `st` its own client's
stream: the streams of the connections accepted so far, followed by those still pending, are the
listener's. -/
def AgainstClients (P : ℕ → Stream → ConnState → Prop) (pending₀ : List Accepted) (srv : State) :
    Prop :=
  ∃ acc : List Stream, connInputs pending₀ = acc ++ connInputs srv.pending ∧
    acc.length = srv.handlers.length ∧
    ∀ (k : ℕ) (h : Handler) (st : Stream), srv.handlers[k]? = some h → acc[k]? = some st →
      P k st (srv.view h)

/-- **Every move of the server keeps `AgainstClients P`** when `P` holds of a connection just
accepted, is kept by the connection's own moves, and reads only the connection's fields and the
bytes of the buffers it holds. -/
theorem AgainstClients.move
    {P : ℕ → Stream → ConnState → Prop} {pending₀ : List Accepted} {srv' : State}
    (hnew : ∀ (srv : State) (k : ℕ) (st : Stream), P k st (srv.view (.init st)))
    (hown : ∀ {srv : State} {k : ℕ} {h : Handler} {s' : ConnState} {st : Stream},
      Inv cfg env srv → srv.handlers[k]? = some h → P k st (srv.view h) →
        Conn.Move cfg (env k) (srv.view h) s' → P k st s')
    (hframe : ∀ {srv srv' : State} {k : ℕ} {h : Handler} {st : Stream},
      (∀ b ∈ h.held, srv'.mem b.arr = srv.mem b.arr) → P k st (srv.view h) →
        P k st (srv'.view h))
    (hi : Inv cfg env srv) (h : AgainstClients P pending₀ srv) (hm : Move cfg env srv srv') :
    AgainstClients P pending₀ srv' := by
  obtain ⟨acc, hacc, hlen, hd⟩ := h
  cases hm with
  | accept input rest _ _ hp =>
    refine ⟨acc ++ [input], by rw [hacc, hp]; simp [connInputs], by simp [hlen],
      fun k u st hk hst => ?_⟩
    rcases getElem?_accept hk with hk | ⟨rfl, rfl⟩
    · rw [List.getElem?_append_left (hlen ▸ (List.getElem?_eq_some_iff.1 hk).1)] at hst
      exact hframe (fun _ _ => rfl) (hd k u st hk hst)
    · -- the new connection, against the client the listener returned
      rw [← hlen, List.getElem?_concat_length, Option.some.injEq] at hst
      subst hst
      exact hframe (fun _ _ => rfl) (hnew srv _ _)
  | timeout rest _ _ hp => exact ⟨acc, by rw [hacc, hp]; rfl, hlen, hd⟩
  | fail code rest _ _ hp => exact ⟨acc, by rw [hacc, hp]; rfl, hlen, hd⟩
  | conn k hk hc hm =>
    rename_i u s'
    refine ⟨acc, hacc, by simp [hlen], fun j v st hj hst => ?_⟩
    rcases getElem?_update hk hj with ⟨rfl, rfl⟩ | ⟨hne, hj⟩
    · exact (update_view srv j s').symm ▸ hown hi hk (hd j u st hk hst) hm
    · exact hframe (hi.owned.mem_other hne hj hk hm) (hd j v st hj hst)
  | otherAcquire | otherRelease =>
    exact ⟨acc, hacc, hlen, fun k u st hk hst =>
      @hframe srv _ k u st (fun _ _ => rfl) (hd k u st hk hst)⟩

/-- The `k`-th connection satisfies `P` against the `k`-th client among the listener's results. -/
theorem AgainstClients.get {P : ℕ → Stream → ConnState → Prop} {pending₀ : List Accepted}
    (h : AgainstClients P pending₀ srv) {k : ℕ} {u : Handler} {st : Stream}
    (hk : srv.handlers[k]? = some u) (hst : (connInputs pending₀)[k]? = some st) :
    P k st (srv.view u) := by
  obtain ⟨acc, hacc, hlen, hd⟩ := h
  rw [hacc, List.getElem?_append_left (hlen ▸ (List.getElem?_eq_some_iff.1 hk).1)] at hst
  exact hd k u st hk hst

/-- `Dispatch` of every connection against its own client's stream. -/
def DispatchConns (pending₀ : List Accepted) (srv : State) : Prop :=
  AgainstClients (fun _ st s => ∃ qs r, Dispatch st qs r s) pending₀ srv

/-- **Every move of the server keeps `DispatchConns`.** -/
theorem DispatchConns.move {pending₀ : List Accepted}
    {srv' : State} (hi : Inv cfg env srv) (h : DispatchConns pending₀ srv)
    (hm : Move cfg env srv srv') : DispatchConns pending₀ srv' :=
  AgainstClients.move
    (fun srv _ _ => ⟨[], _, (Conn.Dispatch.init srv.pool srv.mem _).of_frame rfl rfl rfl rfl
      fun _ ht => absurd ht (List.not_mem_nil _)⟩)
    (fun hi hk ⟨_, _, hd⟩ hm => hd.move (hi.owned.view (List.getElem?_mem hk)) hm)
    (fun hmem ⟨qs, r, hd⟩ => ⟨qs, r, dispatch_frame hd hmem⟩) hi h hm

/-- **`DispatchConns` at every reachable state.** -/
theorem dispatchConns_reachable (hr : Reachable cfg env (State.init pending mem) srv) :
    DispatchConns pending srv :=
  have h := hr.inv (P := fun srv => Inv cfg env srv ∧ DispatchConns pending srv)
    ⟨Inv.init cfg env pending mem, [], rfl, rfl, fun k h _ hk => by simp [State.init] at hk⟩
    fun h hm => ⟨h.1.move hm, h.2.move h.1 hm⟩
  h.2

/-- At every reachable state, each connection satisfies `Dispatch` against its own client's
stream. -/
theorem dispatch_of_reachable (hr : Reachable cfg env (State.init pending mem) srv) {k : ℕ}
    {h : Handler} {st : Stream} (hk : srv.handlers[k]? = some h)
    (hst : (connInputs pending)[k]? = some st) : ∃ qs r, Dispatch st qs r (srv.view h) :=
  (dispatchConns_reachable hr).get hk hst

/-- **Each connection reads its own client.** -/
theorem server_dispatch_law (hr : Reachable cfg env (State.init pending mem) srv) {k : ℕ}
    {h : Handler} {st : Stream} (hk : srv.handlers[k]? = some h)
    (hst : (connInputs pending)[k]? = some st) :
    ∃ qs, h.tasks.map (·.qsize) = qs.map List.length ∧
      qs <+: dispatch (st.bytes.length + 1) st ∧
      (h.loop.stopped = true → qs = dispatch (st.bytes.length + 1) st) ∧
      ∀ (i : ℕ) (t : QueryTask), h.tasks[i]? = some t → t.pc = .start →
        qs[i]? = some (slice srv.mem t.buf.arr t.qsize) :=
  have ⟨qs, _, hd⟩ := dispatch_of_reachable hr hk hst
  ⟨qs, hd.law⟩

theorem server_dispatch_law_readTwo :
    let srv := (run ⟨fun _ _ _ => .ret (default, none), 2⟩
      (fun _ _ => .resolving (.ret ⟨[], 0, default, none⟩)) startTwo readTwo).getD startTwo
    let h := srv.handlers[1]?.getD (.init ⟨[], .eof⟩)
    let st := Conn.queries 1 15
    ∃ qs, h.tasks.map (·.qsize) = qs.map List.length ∧
      qs <+: dispatch (st.bytes.length + 1) st ∧
      (h.loop.stopped = true → qs = dispatch (st.bytes.length + 1) st) ∧
      ∀ (i : ℕ) (t : QueryTask), h.tasks[i]? = some t → t.pc = .start →
        qs[i]? = some (slice srv.mem t.buf.arr t.qsize) :=
  server_dispatch_law (reachable_run_getD .init (by decide)) (some_getD _ (by decide))
    (by decide : (connInputs (twoClients 15))[1]? = some (Conn.queries 1 15))

/-- **What each connection's goroutine hands to `p.ErrorLog`.** Once `serveTCPConn` has returned
on the `k`-th connection, it has returned `Stop.error` of why `readTCP` finds no query where the
sequential reader of the `k`-th client's stream stops: nil, so that nothing is logged, exactly
when that stream, past its dispatched frames, is empty or a bare length prefix announcing a
non-empty body, and then ends in `io.EOF`. -/
theorem server_returned_nil_iff
    (hr : Reachable cfg env (State.init pending mem) srv) {k : ℕ} {h : Handler} {st : Stream}
    (hk : srv.handlers[k]? = some h) (hst : (connInputs pending)[k]? = some st) {r : Conn.Stop}
    (hl : h.loop = .returned r) (ioText : ℕ → String) :
    r = Conn.stopOf (Conn.restAfter (st.bytes.length + 1) st) ∧
      (Conn.Stop.error ioText r = none ↔
        Conn.restAfter (st.bytes.length + 1) st = ⟨[], .eof⟩ ∨
          ∃ a b, Conn.restAfter (st.bytes.length + 1) st = ⟨[a, b], .eof⟩ ∧
            0 < beUint16 [a, b]) :=
  have ⟨_, _, hd⟩ := dispatch_of_reachable hr hk hst
  have h := hd.returned hl
  ⟨h, Conn.Stop.error_eq_none_iff h ioText⟩

theorem server_returned_nil_iff_serveTwo :
    let st := Conn.queries 1 15
    Conn.Stop.eof = Conn.stopOf (Conn.restAfter (st.bytes.length + 1) st) ∧
      (Conn.Stop.error (fun _ => "") .eof = none ↔
        Conn.restAfter (st.bytes.length + 1) st = ⟨[], .eof⟩ ∨
          ∃ a b, Conn.restAfter (st.bytes.length + 1) st = ⟨[a, b], .eof⟩ ∧
            0 < beUint16 [a, b]) :=
  @server_returned_nil_iff ⟨fun _ _ _ => .ret (default, none), 2⟩
    (fun _ _ => .resolving (.ret ⟨[], 0, default, none⟩)) _ _
    ((run ⟨fun _ _ _ => .ret (default, none), 2⟩
      (fun _ _ => .resolving (.ret ⟨[], 0, default, none⟩)) startTwo (serveTwo 10)).getD startTwo)
    (reachable_run_getD .init (by decide)) 1 _ _ (some_getD (.init ⟨[], .eof⟩) (by decide))
    (by decide : (connInputs (twoClients 15))[1]? = some (Conn.queries 1 15)) _ (by decide)
    (fun _ => "")

end NextDnsProxy.Proxy.Server

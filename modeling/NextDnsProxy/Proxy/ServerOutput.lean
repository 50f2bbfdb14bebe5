import NextDnsProxy.Proxy.ServerInv
import NextDnsProxy.Proxy.Output

/-!
# What each connection of the server receives

Another connection's step writes on no connection but its own and into no buffer this one holds,
so what the single-connection development says of the bytes written lifts to each connection of
the server. With `cap(inflightRequests) = 1` the one token is shared by every connection and by
the other transports, so the goroutines of each connection hold at most one at a time, and what
`serial_frames` says of a connection alone holds of each connection of the server.

* **`server_serial_frames`** — with one token, every connection that `serveTCPConn` has returned
  from, and whose `Write`s all returned nil, has received one whole frame per reply its tasks sent,
  in the order its loop read the queries, and then `io.EOF`.
* **`server_writes_interleaved`** — whatever the capacity, the bytes written to each connection
  are the `Write`s of its own tasks, each whole, interleaved in an order that keeps each task's
  `Write`s in order.
-/

namespace NextDnsProxy.Proxy.Server

open BufferPool Framing
open Conn (ConnState Config TaskEnv QueryTask Memory Serialized SentInv Interleaved outputs sumBy)

variable {cfg : Config} {env : ℕ → ℕ → TaskEnv} {pending : List Accepted} {mem : Memory}
    {srv : State}

/-- Another step keeps `SentInv` of the connection's tasks: it writes into no buffer the
connection holds. -/
theorem sentInv_frame {srv' : State} {h : Handler}
    (hs : ∀ (i : ℕ) (t : QueryTask), h.tasks[i]? = some t → SentInv (srv.view h) t)
    (hmem : ∀ b ∈ h.held, srv'.mem b.arr = srv.mem b.arr) :
    ∀ (i : ℕ) (t : QueryTask), h.tasks[i]? = some t → SentInv (srv'.view h) t :=
  fun i t hi => (hs i t hi).frame fun hpc =>
    hmem t.rbuf (mem_held_of_mem_bufs hi (by simp [QueryTask.bufs, hpc]))

/-- Another step keeps `Serialized`: it changes no field of the connection and no byte of a
buffer the connection holds. -/
theorem serialized_frame {env : ℕ → TaskEnv} {srv' : State} {h : Handler}
    (hs : Serialized env (srv.view h)) (hmem : ∀ b ∈ h.held, srv'.mem b.arr = srv.mem b.arr) :
    Serialized env (srv'.view h) :=
  ⟨hs.serial, sentInv_frame hs.sent hmem, hs.out⟩

/-- `Serialized` of every connection. -/
def SerialConns (env : ℕ → ℕ → TaskEnv) (srv : State) : Prop :=
  ∀ k h, srv.handlers[k]? = some h → Serialized (env k) (srv.view h)

/-- **With one token, every move of the server keeps `SerialConns`.** -/
theorem SerialConns.move {srv' : State}
    (hcap : cfg.capacity = 1) (hi : Inv cfg env srv) (h : SerialConns env srv)
    (hm : Move cfg env srv srv') : SerialConns env srv' := by
  cases hm with
  | accept input rest =>
    intro k u hk
    rcases getElem?_accept hk with hk | ⟨-, rfl⟩
    · exact h k u hk
    · exact ⟨fun i t hi => by simp [Handler.init] at hi, fun i t hi => by simp [Handler.init] at hi,
        rfl⟩
  | timeout | fail => exact h
  | conn k hk hc hm =>
    rename_i u s'
    intro j v hj
    rcases getElem?_update hk hj with ⟨rfl, rfl⟩ | ⟨hne, hj⟩
    · -- the connection that moved: its goroutines hold at most the one token
      have hu := List.getElem?_mem hk
      have hl := hi.conns j u hk
      have hh : (srv.view u).holders ≤ 1 := by
        have := hi.acct.holders_le hu
        have := hi.acct.capacity
        simp only [view_holders]
        omega
      exact (h j u hk).move (hi.owned.view hu) hl.joins hl.tasks hh hm
    · exact serialized_frame (h j v hj) (hi.owned.mem_other hne hj hk hm)
  | otherAcquire | otherRelease => exact fun k u hk => serialized_frame (h k u hk) fun _ _ => rfl

/-- **`SerialConns` at every reachable state, with one token.** -/
theorem serialConns_reachable (hcap : cfg.capacity = 1)
    (hr : Reachable cfg env (State.init pending mem) srv) : SerialConns env srv :=
  have h : Inv cfg env srv ∧ SerialConns env srv :=
    @Reachable.inv cfg env srv _ (fun srv => Inv cfg env srv ∧ SerialConns env srv) hr
      ⟨Inv.init cfg env pending mem, fun k h hk => by simp [State.init] at hk⟩
      fun h hm => ⟨h.1.move hm, h.2.move hcap h.1 hm⟩
  h.2

/-- **Whole frames on every connection, with one token.** -/
theorem server_serial_frames (hcap : cfg.capacity = 1)
    (hr : Reachable cfg env (State.init pending mem) srv) {k : ℕ} {h : Handler}
    (hk : srv.handlers[k]? = some h) (hret : h.loop.isReturned = true)
    (hw : ∀ i < h.tasks.length, (env k i).writeLen = .ret none ∧ (env k i).writeBody = .ret none) :
    readFrames ((srv.view h).sentReplies.length + 1) ⟨h.out, .eof⟩ =
      (srv.view h).sentReplies.map frameResult ++ [⟨-1, some .eof, []⟩] :=
  (serialConns_reachable hcap hr k h hk).frames ((inv_reachable hr).conns k h hk).joins hret hw

theorem server_serial_frames_inOrder :
    let env : ℕ → ℕ → TaskEnv := fun _ _ => .resolving (.ret ⟨[7, 7, 7], 3, default, none⟩)
    let srv :=
      (run ⟨fun _ _ _ => .ret (default, none), 1⟩ env startTwo serveTwoInOrder).getD startTwo
    let h := srv.handlers[1]?.getD (.init ⟨[], .eof⟩)
    readFrames ((srv.view h).sentReplies.length + 1) ⟨h.out, .eof⟩ =
      (srv.view h).sentReplies.map frameResult ++ [⟨-1, some .eof, []⟩] :=
  @server_serial_frames _ (fun _ _ => .resolving (.ret ⟨[7, 7, 7], 3, default, none⟩)) _ _ _
    (by rfl) (reachable_run_getD .init (by decide)) 1 _ (some_getD _ (by decide)) (by decide)
    (by decide)

/-! ### Any number of tokens -/

/-- `Interleaved` of every connection. -/
def InterleavedConns (env : ℕ → ℕ → TaskEnv) (srv : State) : Prop :=
  ∀ k h, srv.handlers[k]? = some h → Interleaved (env k) (srv.view h)

/-- **Every move of the server keeps `InterleavedConns`**: a connection's own move by
`Interleaved.move`, any other because it writes on no connection but its own and into no buffer
another connection holds. -/
theorem InterleavedConns.move {srv' : State}
    (hi : Inv cfg env srv) (h : InterleavedConns env srv) (hm : Move cfg env srv srv') :
    InterleavedConns env srv' := by
  cases hm with
  | accept input rest =>
    intro k u hk
    rcases getElem?_accept hk with hk | ⟨-, rfl⟩
    · exact h k u hk
    · exact ⟨fun i t hi => by simp [Handler.init] at hi, [], rfl, fun i => by simp [Handler.init]⟩
  | timeout | fail => exact h
  | conn k hk hc hm =>
    rename_i u s'
    intro j v hj
    rcases getElem?_update hk hj with ⟨rfl, rfl⟩ | ⟨hne, hj⟩
    · have hl := hi.conns j u hk
      exact (h j u hk).move (hi.owned.view (List.getElem?_mem hk)) hl.joins hl.tasks hm
    · exact ⟨sentInv_frame (h j v hj).sent (hi.owned.mem_other hne hj hk hm), (h j v hj).log⟩
  | otherAcquire | otherRelease =>
    exact fun k u hk => ⟨sentInv_frame (h k u hk).sent fun _ _ => rfl, (h k u hk).log⟩

/-- **`InterleavedConns` at every reachable state.** -/
theorem interleavedConns_reachable
    (hr : Reachable cfg env (State.init pending mem) srv) : InterleavedConns env srv :=
  have h : Inv cfg env srv ∧ InterleavedConns env srv :=
    @Reachable.inv cfg env srv _ (fun srv => Inv cfg env srv ∧ InterleavedConns env srv) hr
      ⟨Inv.init cfg env pending mem, fun k h hk => by simp [State.init] at hk⟩
      fun h hm => ⟨h.1.move hm, h.2.move h.1 hm⟩
  h.2

/-- **Whole `Write`s, interleaved, on every connection.** At every reachable state of the
server, whatever `cap(inflightRequests)`, the bytes written to each connection are the `Write`s
of that connection's own tasks, each whole, in an interleaving that keeps each task's `Write`s in
order: `log` names the task behind each `Write`, and task `i`'s entries are its `Write`s, the
length prefix and then the body of the reply it handed to `writeTCP`. -/
theorem server_writes_interleaved
    (hr : Reachable cfg env (State.init pending mem) srv) {k : ℕ} {h : Handler}
    (hk : srv.handlers[k]? = some h) :
    ∃ log : List (ℕ × List UInt8), h.out = (log.map Prod.snd).flatten ∧
      ∀ i, (log.filter (·.1 == i)).map Prod.snd =
        (h.tasks[i]?.map (QueryTask.writes (env k i))).getD [] :=
  (interleavedConns_reachable hr k h hk).log

theorem server_writes_interleaved_serveTwo :
    let e : TaskEnv := .resolving (.ret ⟨[7, 7, 7], 3, default, none⟩)
    let srv :=
      (run ⟨fun _ _ _ => .ret (default, none), 2⟩ (fun _ _ => e) startTwo (serveTwo 10)).getD
        startTwo
    let h := srv.handlers[1]?.getD (.init ⟨[], .eof⟩)
    ∃ log : List (ℕ × List UInt8), h.out = (log.map Prod.snd).flatten ∧
      ∀ i, (log.filter (·.1 == i)).map Prod.snd = (h.tasks[i]?.map (QueryTask.writes e)).getD [] :=
  @server_writes_interleaved _ (fun _ _ => .resolving (.ret ⟨[7, 7, 7], 3, default, none⟩)) _ _ _
    (reachable_run_getD .init (by decide)) 1 _ (some_getD _ (by decide))

end NextDnsProxy.Proxy.Server

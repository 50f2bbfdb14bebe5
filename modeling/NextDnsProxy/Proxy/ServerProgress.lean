import NextDnsProxy.Proxy.ServerInv
import NextDnsProxy.Proxy.Progress

/-!
# No deadlock across connections

A connection whose loop waits at a full `inflightRequests` depends on whoever holds the tokens:
another connection's goroutines, or another transport. The first can always move
(`Joins.canStep_of_holders`); the second can give its token back.

* **`server_no_deadlock`** — when `inflightRequests` has room for a token, at every reachable
  state of the server where no panic has ended the process and some connection has not returned,
  the read loop or a task of some connection can move, or another transport holds a token it can
  give back.
* **`server_steps_le`** — every run of the server makes at most `L + 9` accept and goroutine steps
  per connection whose client sends `L` bytes, and one per timeout or error of the listener,
  whatever the other transports do and however the runtime drops pooled buffers.
* **`server_completes`** — the two together: from every reachable state, a schedule of accept
  steps, goroutine steps and the other transports' releases alone, never a runtime drop or another
  transport taking a token, runs until a panic ends the process, or every result of the listener
  is taken and every connection has returned.

Like their single-connection counterparts, these take every read, `Write` and `Resolve` to
return: tcp.go sets no deadline on the connection, so a client that neither sends nor reads holds
its connection's token for as long as it stays silent, and no step of the model stands for that
wait. That such a schedule exists does not make the scheduler run it: other transports that take
and give back tokens for ever can starve a connection waiting at a full channel.
-/

namespace NextDnsProxy.Proxy.Server

open BufferPool Framing
open Conn (ConnState Config TaskEnv Memory ReadLoop sumBy sumBy_set sumBy_append)

variable {cfg : Config} {env : ℕ → ℕ → TaskEnv} {pending : List Accepted} {mem : Memory}
    {srv : State}

/-- A connection moves in the server as it moves in its view. -/
theorem step_conn_isSome {k : ℕ}
    {h : Handler} (hk : srv.handlers[k]? = some h) (c : Conn.Choice) :
    (step cfg env srv (.conn k c)).isSome = (Conn.step cfg (env k) (srv.view h) c).isSome := by
  simp [step, hk]

/-- A connection that can move in its view, by its loop or a task, moves the server. -/
theorem canStep_of_view {k : ℕ}
    {h : Handler} (hk : srv.handlers[k]? = some h)
    (hs : (Conn.step cfg (env k) (srv.view h) (.loop none)).isSome ∨
      ∃ i, (Conn.step cfg (env k) (srv.view h) (.task i none)).isSome) :
    ∃ j c, c.isDrop = false ∧ (step cfg env srv (.conn j c)).isSome := by
  rcases hs with hs | ⟨i, hs⟩
  · exact ⟨k, .loop none, rfl, (step_conn_isSome hk _).trans hs⟩
  · exact ⟨k, .task i none, rfl, (step_conn_isSome hk _).trans hs⟩

/-- Where `Inv` holds and `inflightRequests` has room for a token, while some connection has not
returned, a goroutine of some connection can move, or another transport holds a token it can give
back. -/
theorem Inv.canStep (hi : Inv cfg env srv)
    (hcap : 0 < cfg.capacity) (hc : srv.crashed = false) {k : ℕ} {h : Handler}
    (hk : srv.handlers[k]? = some h) (hret : h.loop.isReturned = false) :
    (∃ j c, c.isDrop = false ∧ (step cfg env srv (.conn j c)).isSome) ∨
      (step cfg env srv .otherRelease).isSome := by
  have hle : ∀ {j u}, srv.handlers[j]? = some u → (srv.view u).holders ≤ (srv.view u).tokens :=
    fun hj => hi.acct.holders_le (List.getElem?_mem hj)
  rcases (hi.conns k h hk).joins.canStep (hle hk) hc hret with hs | hs | ⟨-, hfull⟩
  · exact .inl (canStep_of_view hk (.inl hs))
  · exact .inl (canStep_of_view hk (.inr hs))
  · -- the channel is full: another transport or a goroutine of some connection holds a token
    have htok := hi.acct.tokens
    simp only [view_tokens] at hfull
    rcases Nat.eq_zero_or_pos srv.others with h0 | h0
    · obtain ⟨u, hu, hpos⟩ :=
        Conn.exists_pos_of_sumBy_pos (show 0 < sumBy Handler.holders srv.handlers by omega)
      obtain ⟨j, hj⟩ := List.mem_iff_getElem?.1 hu
      exact .inl (canStep_of_view hj
        ((hi.conns j u hj).joins.canStep_of_holders (hle hj) hc hpos))
    · exact .inr (by simp [step, hc, h0])

/-- **No deadlock across connections.** While a connection has not returned, the read loop or a
task of some connection can move (not the runtime dropping a pooled buffer), or another transport
holds a token it can give back. Reads, `Write`s and `Resolve` are taken to return. -/
theorem server_no_deadlock (hcap : 0 < cfg.capacity)
    (hr : Reachable cfg env (State.init pending mem) srv) (hc : srv.crashed = false) {k : ℕ}
    {h : Handler} (hk : srv.handlers[k]? = some h) (hret : h.loop.isReturned = false) :
    (∃ j c, c.isDrop = false ∧ (step cfg env srv (.conn j c)).isSome) ∨
      (step cfg env srv .otherRelease).isSome :=
  (inv_reachable hr).canStep hcap hc hk hret

theorem server_no_deadlock_readTwo :
    let cfg : Config := ⟨fun _ _ _ => .ret (default, none), 2⟩
    let env : ℕ → ℕ → TaskEnv := fun _ _ => .resolving (.ret ⟨[], 0, default, none⟩)
    let srv := (run cfg env startTwo readTwo).getD startTwo
    (∃ j c, c.isDrop = false ∧ (step cfg env srv (.conn j c)).isSome) ∨
      (step cfg env srv .otherRelease).isSome :=
  @server_no_deadlock ⟨fun _ _ _ => .ret (default, none), 2⟩
    (fun _ _ => .resolving (.ret ⟨[], 0, default, none⟩)) _ _ _ (by decide)
    (reachable_run_getD .init (by decide)) (by decide) 0 _
    (some_getD (.init ⟨[], .eof⟩) (by decide))
    (by decide)

/-! ### No run goes on for ever -/

/-- How many accept and goroutine steps a result of the listener gives rise to: a connection whose
client sends `L` bytes, its accept and at most `L + 8` steps of its goroutines
(`goroutine_steps_le`); a timeout or an error, its accept. -/
def Accepted.budget : Accepted → ℕ
  | .conn input => input.bytes.length + 9
  | _ => 1

/-- How many more steps a connection's goroutines can make while the process lives. -/
def Handler.budget (h : Handler) : ℕ :=
  h.loop.budget h.input.bytes.length + sumBy (·.pc.budget) h.tasks + 1

/-- How many more accept and goroutine steps the server can make: none once a panic has ended
the process. -/
def State.budget (srv : State) : ℕ :=
  if srv.crashed then 0 else sumBy Handler.budget srv.handlers + sumBy Accepted.budget srv.pending

/-- Whether a server step is the accept loop's or a goroutine's, rather than another transport's
or the runtime dropping a pooled buffer. -/
def Choice.counts : Choice → Bool
  | .accept => true
  | .conn _ c => !c.isDrop
  | _ => false

theorem view_budget (srv : State) (h : Handler) :
    (srv.view h).budget = if srv.crashed then 0 else h.budget := rfl

theorem ofConn_budget {s : ConnState} (hc : s.crashed = false) :
    (Handler.ofConn s).budget = s.budget := by
  simp [Handler.budget, ConnState.budget, hc, Handler.ofConn]

/-- **Every accept and goroutine step spends budget**; the other transports and the runtime
spend none. -/
theorem budget_step {srv' : State} {c : Choice}
    (h : step cfg env srv c = some srv') :
    srv'.budget + (if c.counts then 1 else 0) ≤ srv.budget := by
  cases c with
  | accept =>
    simp only [step, Bool.or_eq_true, Option.isSome_iff_ne_none] at h
    split_ifs at h with hs
    simp only [not_or, Bool.not_eq_true] at hs
    -- the accepted connection's goroutines get the budget its listener result had, less one
    split at h <;> cases h <;> rename_i hp <;>
      simp [State.budget, Choice.counts, hs.1, hp, sumBy_append, sumBy, Accepted.budget,
        Handler.budget, Handler.init, ReadLoop.budget] <;> omega
  | conn k c =>
    obtain ⟨u, s', hk, hs, rfl⟩ := step_conn h
    have hb := Conn.budget_step hs
    have hc : srv.crashed = false := (Conn.step_move hs).1
    obtain ⟨hlt, rfl⟩ := List.getElem?_eq_some_iff.1 hk
    have hsum := sumBy_set Handler.budget srv.handlers k (.ofConn s') hlt
    have hmem := Conn.le_sumBy_of_mem Handler.budget (List.getElem_mem hlt)
    have hpos : 1 ≤ srv.handlers[k].budget := Nat.le_add_left 1 _
    rw [view_budget, hc, if_neg Bool.false_ne_true] at hb
    simp only [State.budget, update_crashed, update_handlers, update_pending, hc,
      Bool.false_eq_true, if_false, Choice.counts]
    rw [show (if (!c.isDrop) = true then 1 else 0) = if c.isDrop = true then 0 else 1 by
      cases c.isDrop <;> rfl]
    by_cases hc' : s'.crashed = true
    · -- a panic ends the process: nothing more runs
      rw [if_pos hc']
      omega
    · rw [if_neg hc', ofConn_budget (by simpa using hc')] at *
      omega
  | otherAcquire =>
    simp only [step] at h
    split_ifs at h
    cases h
    exact le_of_eq (by simp [State.budget, Choice.counts])
  | otherRelease =>
    simp only [step] at h
    split_ifs at h
    cases h
    exact le_of_eq (by simp [State.budget, Choice.counts])

/-- Over a whole run, the accept and goroutine steps taken and the budget left add up to at most
the budget at the start. -/
theorem budget_run :
    ∀ {srv srv' : State} {cs : List Choice}, run cfg env srv cs = some srv' →
      srv'.budget + cs.countP Choice.counts ≤ srv.budget
  | _, _, [], h => by cases h; simp
  | srv, srv', c :: cs, h => by
    simp only [run, Option.bind_eq_some] at h
    obtain ⟨srv₁, h₁, h₂⟩ := h
    have := budget_step h₁
    have := budget_run h₂
    cases hd : c.counts <;> simp only [hd, List.countP_cons, if_true, if_false,
      Bool.false_eq_true] at * <;> omega

/-- **Every run of the server ends.** -/
theorem server_steps_le {cs : List Choice}
    (h : run cfg env (State.init pending mem) cs = some srv) :
    cs.countP Choice.counts ≤ sumBy Accepted.budget pending := by
  have := budget_run h
  simp only [State.budget, State.init, sumBy, Bool.false_eq_true, if_false, Nat.zero_add] at this
  omega

theorem server_steps_serveTwo :
    (serveTwo 10).countP Choice.counts ≤ sumBy Accepted.budget (twoClients 15) :=
  server_steps_le (Option.eq_some_of_isSome (show (run ⟨fun _ _ _ => .ret (default, none), 2⟩
    (fun _ _ => .resolving (.ret ⟨[], 0, default, none⟩)) startTwo (serveTwo 10)).isSome by
      decide))

/-! ### Every run of the server can be carried to its end -/

/-- An accept step, a goroutine step, or another transport giving its token back lowers the
budget plus the tokens the other transports hold. -/
theorem measure_step {srv' : State} {c : Choice}
    (h : step cfg env srv c = some srv') (hc : c.counts = true ∨ c = .otherRelease) :
    srv'.budget + srv'.others < srv.budget + srv.others := by
  have hb := budget_step h
  cases c with
  | accept =>
    simp only [step] at h
    split_ifs at h
    split at h <;> cases h <;> dsimp only <;> simp only [Choice.counts, if_true] at hb <;> omega
  | conn k c =>
    obtain ⟨_, _, -, -, rfl⟩ := step_conn h
    simp only [Choice.counts, Bool.not_eq_true', reduceCtorEq, or_false] at hc
    simp only [Choice.counts, hc, Bool.not_false, if_true, update_others] at hb ⊢
    omega
  | otherAcquire => simp [Choice.counts] at hc
  | otherRelease =>
    simp only [step] at h
    split_ifs at h with hs
    cases h
    simp only [State.budget] at hb ⊢
    omega

/-- From a state where `Inv` holds, the accept loop, the goroutines and the other transports'
releases can be scheduled, within the budget plus the tokens the other transports hold, until a
panic ends the process, or the listener's results are all taken and every connection has
returned. -/
theorem Inv.exists_run_to_end (hcap : 0 < cfg.capacity)
    (hi : Inv cfg env srv) :
    ∃ cs srv', run cfg env srv cs = some srv' ∧
      (∀ c ∈ cs, c.counts = true ∨ c = .otherRelease) ∧ cs.length ≤ srv.budget + srv.others ∧
      (srv'.crashed = true ∨ ((srv'.pending = [] ∨ srv'.returned.isSome) ∧
        ∀ h ∈ srv'.handlers, h.loop.isReturned = true)) := by
  generalize hn : srv.budget + srv.others = n
  induction n using Nat.strong_induction_on generalizing srv with
  | _ n ih =>
    -- a step that lowers the measure, and then the rest of the schedule
    have next : ∀ c srv₁, step cfg env srv c = some srv₁ → (c.counts = true ∨ c = .otherRelease) →
        ∃ cs srv', run cfg env srv cs = some srv' ∧
          (∀ c ∈ cs, c.counts = true ∨ c = .otherRelease) ∧ cs.length ≤ n ∧
          (srv'.crashed = true ∨ ((srv'.pending = [] ∨ srv'.returned.isSome) ∧
            ∀ h ∈ srv'.handlers, h.loop.isReturned = true)) := fun c srv₁ hs hc =>
      have hlt := measure_step hs hc
      have ⟨cs, srv', hrun, hcs, hlen, hend⟩ := ih _ (hn ▸ hlt) (hi.move (step_move hs)) rfl
      ⟨c :: cs, srv', by simp [run, hs, hrun], List.forall_mem_cons.2 ⟨hc, hcs⟩,
        by simp only [List.length_cons]; omega, hend⟩
    cases hc : srv.crashed
    · by_cases hall : ∀ h ∈ srv.handlers, h.loop.isReturned = true
      · by_cases hacc : srv.pending = [] ∨ srv.returned.isSome
        · exact ⟨[], srv, rfl, List.forall_mem_nil _, Nat.zero_le _, .inr ⟨hacc, hall⟩⟩
        · -- the accept loop takes the listener's next result
          obtain ⟨hp, hret⟩ := not_or.1 hacc
          obtain ⟨a, rest, hp⟩ := List.exists_cons_of_ne_nil hp
          obtain ⟨srv₁, hs⟩ : ∃ srv₁, step cfg env srv .accept = some srv₁ := by
            rw [Bool.not_eq_true] at hret
            cases a <;> simp [step, hc, hret, hp]
          exact next _ _ hs (.inl rfl)
      · -- some connection has not returned: a goroutine or another transport can move
        obtain ⟨h, hh, hret⟩ : ∃ h ∈ srv.handlers, h.loop.isReturned = false := by simpa using hall
        obtain ⟨k, hk⟩ := List.mem_iff_getElem?.1 hh
        rcases hi.canStep hcap hc hk hret with ⟨j, c, hd, hs⟩ | hs
        · exact next _ _ (Option.isSome_iff_exists.1 hs).choose_spec
            (.inl (by simp [Choice.counts, hd]))
        · exact next _ _ (Option.isSome_iff_exists.1 hs).choose_spec (.inr rfl)
    · exact ⟨[], srv, rfl, List.forall_mem_nil _, Nat.zero_le _, .inl hc⟩

/-- **Every run of the server can be carried to its end.** When `inflightRequests` has room for
a token, from every reachable state there is a schedule made only of accept steps, steps of the
connections' goroutines and other transports giving their tokens back (no runtime drop, and no
other transport taking a token) after which a panic has ended the process, or `serveTCP` has
taken every result of its listener (or returned its error) and `serveTCPConn` has returned on
every connection; the schedule is no longer than the budget left plus the tokens the other
transports hold. Reads, `Write`s and `Resolve` are taken to return. -/
theorem server_completes (hcap : 0 < cfg.capacity)
    (hr : Reachable cfg env (State.init pending mem) srv) :
    ∃ cs srv', run cfg env srv cs = some srv' ∧
      (∀ c ∈ cs, c.counts = true ∨ c = .otherRelease) ∧ cs.length ≤ srv.budget + srv.others ∧
      (srv'.crashed = true ∨ ((srv'.pending = [] ∨ srv'.returned.isSome) ∧
        ∀ h ∈ srv'.handlers, h.loop.isReturned = true)) :=
  (inv_reachable hr).exists_run_to_end hcap

theorem server_completes_startTwo :
    ∃ cs srv', run ⟨fun _ _ _ => .ret (default, none), 1⟩
        (fun _ _ => .resolving (.ret ⟨[], 12, default, none⟩)) startTwo cs = some srv' ∧
      (∀ c ∈ cs, c.counts = true ∨ c = .otherRelease) ∧
      cs.length ≤ startTwo.budget + startTwo.others ∧
      (srv'.crashed = true ∨ ((srv'.pending = [] ∨ srv'.returned.isSome) ∧
        ∀ h ∈ srv'.handlers, h.loop.isReturned = true)) :=
  server_completes (by decide) .init

end NextDnsProxy.Proxy.Server

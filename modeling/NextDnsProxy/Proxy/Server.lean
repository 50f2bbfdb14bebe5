import NextDnsProxy.Proxy.ConnSteps

/-!
# The TCP server (`serveTCP`, tcp.go:21–40)

`serveTCP` accepts connections one after another and serves each on a goroutine of its own with
`serveTCPConn`. All of them share the pool `serveTCP` makes and the `inflightRequests` channel it
is given, which the proxy's other transports fill too. A timeout from `Accept` is skipped; any
other error ends `serveTCP`, and the connections already accepted are served on.

The model keeps what is shared once — the pool, the memory, `len(inflightRequests)`, whether a
panic has ended the process — and, per connection accepted, a `Handler`: the fields of a
`ConnState` that are the connection's own. A step of connection `k` is `Conn.step` on the
connection's `view`, whose shared part `update` writes back; the runtime's drops from the pool
are such steps too. The other transports take and give back tokens as an environment would:
the model counts the tokens they hold and lets them give back only those.

* **`step_move`** — the server-step inversion lemma: an accept, a step of one connection, or
  another transport's token.
-/

namespace NextDnsProxy.Proxy.Server

open BufferPool Framing
open Conn (ConnState Config TaskEnv QueryTask ReadLoop Memory)

/-! ### State -/

/-- What `l.Accept()` returns: a connection carrying the bytes its client sends, a timeout, or
another error. -/
inductive Accepted where
  | conn (input : Stream)
  | timeout
  | err (code : ℕ)

/-- The goroutine serving one connection: the fields of `ConnState` that are the connection's
own. -/
structure Handler where
  input : Stream
  out : List UInt8
  closed : Bool
  wg : ℤ
  loop : ReadLoop
  tasks : List QueryTask

/-- A connection as `serveTCPConn` starts on it. -/
def Handler.init (input : Stream) : Handler := ⟨input, [], false, 0, .acquire, []⟩

/-- The connection's own fields of a connection state. -/
def Handler.ofConn (s : ConnState) : Handler := ⟨s.input, s.out, s.closed, s.wg, s.loop, s.tasks⟩

/-- The server: the listener's results still to come, the error `serveTCP` returned, the shared
pool, memory, `len(inflightRequests)` and crash flag, the tokens the other transports hold, and
one handler per connection accepted, in accept order. -/
structure State where
  pending : List Accepted
  returned : Option ℕ
  pool : TieredBufferPool
  mem : Memory
  tokens : ℕ
  others : ℕ
  crashed : Bool
  handlers : List Handler

/-- `serveTCP` as it starts: a new pool and no connection yet. -/
def State.init (pending : List Accepted) (mem : Memory) : State :=
  ⟨pending, none, newTieredBufferPool, mem, 0, 0, false, []⟩

variable {cfg : Config} {env : ℕ → ℕ → TaskEnv} {pending : List Accepted} {mem : Memory}
    {srv : State}

/-- What a handler sees: its own fields and the shared ones. -/
def State.view (srv : State) (h : Handler) : ConnState :=
  ⟨h.input, h.out, h.closed, srv.tokens, h.wg, srv.pool, srv.mem, h.loop, h.tasks, srv.crashed⟩

/-- The server after handler `k` has stepped to `s`. -/
def State.update (srv : State) (k : ℕ) (s : ConnState) : State :=
  { srv with pool := s.pool, mem := s.mem, tokens := s.tokens, crashed := s.crashed,
             handlers := srv.handlers.set k (.ofConn s) }

/-- Handler `k` after its step sees the state it stepped to. -/
@[simp] theorem update_view (srv : State) (k : ℕ) (s : ConnState) :
    (srv.update k s).view (.ofConn s) = s := rfl

@[simp] theorem update_handlers (srv : State) (k : ℕ) (s : ConnState) :
    (srv.update k s).handlers = srv.handlers.set k (.ofConn s) := rfl

@[simp] theorem update_pool (srv : State) (k : ℕ) (s : ConnState) :
    (srv.update k s).pool = s.pool := rfl

@[simp] theorem update_mem (srv : State) (k : ℕ) (s : ConnState) :
    (srv.update k s).mem = s.mem := rfl

@[simp] theorem update_tokens (srv : State) (k : ℕ) (s : ConnState) :
    (srv.update k s).tokens = s.tokens := rfl

@[simp] theorem update_others (srv : State) (k : ℕ) (s : ConnState) :
    (srv.update k s).others = srv.others := rfl

@[simp] theorem update_crashed (srv : State) (k : ℕ) (s : ConnState) :
    (srv.update k s).crashed = s.crashed := rfl

@[simp] theorem update_pending (srv : State) (k : ℕ) (s : ConnState) :
    (srv.update k s).pending = srv.pending := rfl

@[simp] theorem view_tasks (srv : State) (h : Handler) : (srv.view h).tasks = h.tasks := rfl

@[simp] theorem view_loop (srv : State) (h : Handler) : (srv.view h).loop = h.loop := rfl

@[simp] theorem view_pool (srv : State) (h : Handler) : (srv.view h).pool = srv.pool := rfl

@[simp] theorem view_mem (srv : State) (h : Handler) : (srv.view h).mem = srv.mem := rfl

@[simp] theorem view_tokens (srv : State) (h : Handler) : (srv.view h).tokens = srv.tokens := rfl

@[simp] theorem view_crashed (srv : State) (h : Handler) : (srv.view h).crashed = srv.crashed :=
  rfl

@[simp] theorem ofConn_tasks (s : ConnState) : (Handler.ofConn s).tasks = s.tasks := rfl

@[simp] theorem ofConn_loop (s : ConnState) : (Handler.ofConn s).loop = s.loop := rfl

/-- A handler after an accept was there before, or is the new one. -/
theorem getElem?_accept {l : List Handler} {a u : Handler} {k : ℕ}
    (hk : (l ++ [a])[k]? = some u) : l[k]? = some u ∨ k = l.length ∧ u = a := by
  rcases lt_or_ge k l.length with hlt | hge
  · exact .inl (by rwa [List.getElem?_append_left hlt] at hk)
  · rw [List.getElem?_append_right hge] at hk
    obtain ⟨hk', rfl⟩ := List.getElem?_eq_some_iff.1 hk
    exact .inr ⟨by simp at hk'; omega, List.getElem_singleton _ _⟩

/-- The streams of the clients of the connections among the listener's results, in order. -/
def connInputs : List Accepted → List Stream
  | [] => []
  | .conn input :: rest => input :: connInputs rest
  | _ :: rest => connInputs rest

/-- A handler after handler `k`'s step is the one that stepped, or another one, as it was. -/
theorem getElem?_update {k : ℕ} {h : Handler} (hk : srv.handlers[k]? = some h)
    {s : ConnState} {j : ℕ} {u : Handler} (hj : (srv.update k s).handlers[j]? = some u) :
    (j = k ∧ u = .ofConn s) ∨ (j ≠ k ∧ srv.handlers[j]? = some u) := by
  rw [update_handlers] at hj
  rcases eq_or_ne j k with rfl | hne
  · rw [List.getElem?_set_self (List.getElem?_eq_some_iff.1 hk).1] at hj
    exact .inl ⟨rfl, (Option.some.inj hj).symm⟩
  · exact .inr ⟨hne, by rwa [List.getElem?_set_ne hne.symm] at hj⟩

/-! ### Steps -/

/-- Who moves: the accept loop, connection `k` (by accept order) making the move `c`, or another
transport taking or giving back a token of `inflightRequests`. -/
inductive Choice where
  | accept
  | conn (k : ℕ) (c : Conn.Choice)
  | otherAcquire
  | otherRelease

/-- One step of the server; `env k i` is how task `i` of connection `k` finds its
collaborators. -/
def step (cfg : Config) (env : ℕ → ℕ → TaskEnv) (srv : State) : Choice → Option State
  | .accept =>
    if srv.crashed || srv.returned.isSome then none
    else match srv.pending with
      | [] => none
      | .conn input :: rest =>
        some { srv with pending := rest, handlers := srv.handlers ++ [.init input] }
      | .timeout :: rest => some { srv with pending := rest }
      | .err code :: rest => some { srv with pending := rest, returned := some code }
  | .conn k c =>
    match srv.handlers[k]? with
    | none => none
    | some h => (Conn.step cfg (env k) (srv.view h) c).map (srv.update k)
  | .otherAcquire =>
    if srv.crashed = false ∧ srv.tokens < cfg.capacity then
      some { srv with tokens := srv.tokens + 1, others := srv.others + 1 }
    else none
  | .otherRelease =>
    if srv.crashed = false ∧ 0 < srv.others then
      some { srv with tokens := srv.tokens - 1, others := srv.others - 1 }
    else none

/-- The server states reachable from `srv₀`, in any interleaving of the connections, the accept
loop and the other transports. -/
inductive Reachable (cfg : Config) (env : ℕ → ℕ → TaskEnv) (srv₀ : State) : State → Prop where
  | init : Reachable cfg env srv₀ srv₀
  | step {srv srv' : State} (c : Choice) :
      Reachable cfg env srv₀ srv → step cfg env srv c = some srv' → Reachable cfg env srv₀ srv'

/-- The state after a schedule of choices, if every one of them can move. -/
def run (cfg : Config) (env : ℕ → ℕ → TaskEnv) (srv : State) : List Choice → Option State
  | [] => some srv
  | c :: cs => (step cfg env srv c).bind fun srv' => run cfg env srv' cs

theorem reachable_of_run {srv₀ srv srv' : State} (hs : Reachable cfg env srv₀ srv) :
    ∀ {cs : List Choice}, run cfg env srv cs = some srv' → Reachable cfg env srv₀ srv'
  | [], h => by cases h; exact hs
  | c :: cs, h => by
    simp only [run, Option.bind_eq_some] at h
    obtain ⟨srv₁, h₁, h₂⟩ := h
    exact reachable_of_run (hs.step c h₁) h₂

/-- The state a schedule that runs to its end leaves is reachable. -/
theorem reachable_run_getD {srv₀ : State}
    {cs : List Choice} (hs : Reachable cfg env srv₀ srv) (h : (run cfg env srv cs).isSome) :
    Reachable cfg env srv₀ ((run cfg env srv cs).getD srv) := by
  obtain ⟨srv', hs'⟩ := Option.isSome_iff_exists.1 h
  rw [hs']
  exact reachable_of_run hs hs'

/-! ### What a step can do -/

/-- What one step of the server can do. -/
inductive Move (cfg : Config) (env : ℕ → ℕ → TaskEnv) (srv : State) : State → Prop where
  | accept (input : Stream) (rest : List Accepted) : srv.crashed = false → srv.returned = none →
      srv.pending = .conn input :: rest →
      Move cfg env srv { srv with pending := rest, handlers := srv.handlers ++ [.init input] }
  | timeout (rest : List Accepted) : srv.crashed = false → srv.returned = none →
      srv.pending = .timeout :: rest → Move cfg env srv { srv with pending := rest }
  | fail (code : ℕ) (rest : List Accepted) : srv.crashed = false → srv.returned = none →
      srv.pending = .err code :: rest →
      Move cfg env srv { srv with pending := rest, returned := some code }
  | conn (k : ℕ) {h : Handler} {s' : ConnState} : srv.handlers[k]? = some h →
      srv.crashed = false → Conn.Move cfg (env k) (srv.view h) s' →
      Move cfg env srv (srv.update k s')
  | otherAcquire : srv.crashed = false → srv.tokens < cfg.capacity →
      Move cfg env srv { srv with tokens := srv.tokens + 1, others := srv.others + 1 }
  | otherRelease : srv.crashed = false → 0 < srv.others →
      Move cfg env srv { srv with tokens := srv.tokens - 1, others := srv.others - 1 }

/-- A connection's move is a step of its view, written back into its handler. -/
theorem step_conn {srv' : State} {k : ℕ}
    {c : Conn.Choice} (h : step cfg env srv (.conn k c) = some srv') :
    ∃ u s', srv.handlers[k]? = some u ∧ Conn.step cfg (env k) (srv.view u) c = some s' ∧
      srv' = srv.update k s' := by
  simp only [step] at h
  split at h
  · cases h
  · obtain ⟨s', hs, rfl⟩ := Option.map_eq_some'.1 h
    exact ⟨_, s', ‹_›, hs, rfl⟩

/-- The accept loop and the other transports leave memory, and every connection at its index, as
they were. -/
theorem step_frame {srv' : State} {c : Choice}
    (hc : ∀ k c', c ≠ .conn k c') (h : step cfg env srv c = some srv') :
    srv'.mem = srv.mem ∧ ∀ {k : ℕ} {u : Handler}, srv.handlers[k]? = some u →
      srv'.handlers[k]? = some u := by
  cases c with
  | conn k c => exact absurd rfl (hc k c)
  | accept =>
    simp only [step] at h
    split_ifs at h
    split at h <;> cases h
    · exact ⟨rfl, fun hk => by
        rw [List.getElem?_append_left (List.getElem?_eq_some_iff.1 hk).1]; exact hk⟩
    all_goals exact ⟨rfl, id⟩
  | otherAcquire | otherRelease =>
    simp only [step] at h
    split_ifs at h
    cases h
    exact ⟨rfl, id⟩

/-- **The server-step inversion lemma.** -/
theorem step_move {srv' : State} {c : Choice}
    (h : step cfg env srv c = some srv') : Move cfg env srv srv' := by
  cases c with
  | accept =>
    simp only [step, Bool.or_eq_true, Option.isSome_iff_ne_none] at h
    split_ifs at h with hs
    simp only [not_or, Bool.not_eq_true, not_not] at hs
    split at h <;> cases h
    · exact .accept _ _ hs.1 hs.2 ‹_›
    · exact .timeout _ hs.1 hs.2 ‹_›
    · exact .fail _ _ hs.1 hs.2 ‹_›
  | conn k c =>
    obtain ⟨_, s', hk, hs, rfl⟩ := step_conn h
    exact .conn k hk (Conn.step_move hs).1 (Conn.step_move hs).2
  | otherAcquire =>
    simp only [step] at h
    split_ifs at h with hs
    cases h
    exact .otherAcquire hs.1 hs.2
  | otherRelease =>
    simp only [step] at h
    split_ifs at h with hs
    cases h
    exact .otherRelease hs.1 hs.2

/-- **Invariants of the server.** A property of the start state that every move keeps holds at
every reachable state. -/
theorem Reachable.inv {srv₀ : State}
    {P : State → Prop} (hr : Reachable cfg env srv₀ srv) (h₀ : P srv₀)
    (hmove : ∀ {srv srv'}, P srv → Move cfg env srv srv' → P srv') : P srv := by
  induction hr with
  | init => exact h₀
  | step c _ h ih => exact hmove ih (step_move h)

/-! ### Fixed inputs for runs -/

/-- Two clients that send one query of `n` zero bytes each, with a timeout of `Accept` between
them. -/
def twoClients (n : ℕ) : List Accepted :=
  [.conn (Conn.queries 1 n), .timeout, .conn (Conn.queries 1 n)]

/-- `serveTCP` facing the clients of `twoClients 15`, with every byte of memory zero. -/
def startTwo : State := .init (twoClients 15) fun _ _ => 0

/-- The accept loop takes both connections, and each read loop reads its client's query. -/
def readTwo : List Choice :=
  List.replicate 3 .accept ++ List.replicate 3 (.conn 0 (.loop none)) ++
    List.replicate 3 (.conn 1 (.loop none))

/-- After `readTwo`, task 0 of each connection takes `k` steps, and each read loop reads EOF and
returns. -/
def serveTwo (k : ℕ) : List Choice :=
  readTwo ++ List.replicate k (.conn 0 (.task 0 none)) ++
    List.replicate k (.conn 1 (.task 0 none)) ++ List.replicate 7 (.conn 0 (.loop none)) ++
    List.replicate 7 (.conn 1 (.loop none))

/-- The accept loop takes both connections, and then each is served to the end, one after the
other: its loop reads its query, task 0 runs to the end, and the loop reads EOF and returns. -/
def serveTwoInOrder : List Choice :=
  List.replicate 3 .accept ++ [0, 1].flatMap fun k =>
    List.replicate 3 (.conn k (.loop none)) ++ List.replicate 10 (.conn k (.task 0 none)) ++
      List.replicate 7 (.conn k (.loop none))

/-- A value that is there is its own default. -/
theorem some_getD {α : Type} {o : Option α} (d : α) (h : o.isSome) : o = some (o.getD d) := by
  obtain ⟨a, rfl⟩ := Option.isSome_iff_exists.1 h
  rfl

end NextDnsProxy.Proxy.Server

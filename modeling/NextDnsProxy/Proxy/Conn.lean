import Mathlib.Logic.Function.Basic
import NextDnsProxy.Proxy.BufferPool
import NextDnsProxy.Proxy.Framing

/-!
# One TCP connection (`serveTCPConn`, tcp.go:42–120)

`serveTCPConn` runs a read loop on one connection: it takes an admission token from
`inflightRequests`, reads a length-prefixed frame into a large pooled buffer, and spawns a query
task per frame; on a read error or a short frame it returns, and its deferred function waits for
the tasks (`wg.Wait()`) before `c.Close()`. Each task parses the query, resolves it into a second
large buffer, writes the reply with `writeTCP`, and in a deferred function recovers a panic, puts
both buffers back, releases its token and logs one record.

The model is an interleaving semantics. The state holds the client's unread bytes, the bytes
written to the connection, the pool, the contents of every backing array, the admission counter,
the `WaitGroup` counter, the read loop's statement and the list of tasks in spawn order. A step
runs one goroutine up to its next access to shared state. What the collaborators do — `addrIP`,
`logErr`, `Resolve`, `replyRCode`, the `Write`s — is a `TaskEnv` per task (each call returns or
panics); `query.New` is a function of the frame's bytes and of the two addresses `addrIP` gives.
A panic that escapes a goroutine runs its deferred `wg.Done()` and ends the process: no step
follows it.

Only the large tier of the pool is modelled, and `Server` runs many connections on one pool;
`ctx`, `start` and the record's `Duration` are not modelled.
-/

namespace NextDnsProxy.Proxy.Conn

open BufferPool Framing

/-! ### What a query task exchanges with its collaborators -/

/-- `query.Query`: the fields the task passes on or logs. A question section is at most 259 bytes
(a name of at most 255, a type and a class). -/
structure Query where
  id : UInt16
  name : String
  qtype : UInt16
  peerIP : String
  question : List UInt8
  question_le : question.length ≤ 259
  deriving DecidableEq, Repr

/-- The zero `query.Query`. -/
instance : Inhabited Query := ⟨⟨0, "", 0, "", [], Nat.zero_le _⟩⟩

/-- `resolver.ResolveInfo`: the fields the task logs. -/
structure ResolveInfo where
  profile : String
  fromCache : Bool
  transport : String
  deriving DecidableEq, Repr, Inhabited

/-- What `p.Resolve(ctx, q, rbuf)` does when it returns: the bytes it wrote at the start of
`rbuf`, and its results `(rsize, info, err)`. -/
structure Resolved where
  written : List UInt8
  rsize : ℤ
  info : ResolveInfo
  err : Option ℕ
  deriving DecidableEq, Repr

/-- The values of the task's `err`. -/
inductive TaskErr where
  | query (code : ℕ)
  | resolve (code : ℕ)
  | write (code : ℕ)
  | closed
  | panic
  deriving DecidableEq, Repr

/-- `QueryInfo`, the record `p.logQuery` receives (tcp.go:90–102); `Duration` is not modelled. -/
structure QueryInfo where
  peerIP : String
  protocol : String
  qtype : UInt16
  name : String
  querySize : ℕ
  responseSize : ℤ
  profile : String
  fromCache : Bool
  upstreamTransport : String
  error : Option TaskErr
  deriving DecidableEq, Repr

/-- `dnsmessage.RCodeServerFailure`. -/
def rcodeServerFailure : ℕ := 2

/-- Modelled from the spec: `replyRCode` is not under src/. It is to "synthesize a minimal
SERVER_FAILURE response reusing the original question section": a 12-byte header with the
query's ID, the response flag, the rcode and the question count, one when the query has a
question section and none otherwise, then the query's question section. -/
def replyRCode (rcode : ℕ) (q : Query) : List UInt8 :=
  [UInt8.ofNat (q.id.toNat / 256), UInt8.ofNat q.id.toNat, 0x80, UInt8.ofNat rcode,
    0, if q.question = [] then 0 else 1, 0, 0, 0, 0, 0, 0] ++ q.question

/-- How the collaborators of one query task behave: each call returns or panics. -/
structure TaskEnv where
  /-- `addrIP(c.LocalAddr())` and `addrIP(c.RemoteAddr())` (tcp.go:74–75): the connection's
  local and remote IPs, or a panic of either call. -/
  addrIP : Outcome (String × String)
  /-- `p.logErr(err)` (tcp.go:78). -/
  logErr : Outcome Unit
  /-- `p.Resolve(ctx, q, rbuf)` (tcp.go:110). -/
  resolve : Outcome Resolved
  /-- `replyRCode(dnsmessage.RCodeServerFailure, q, rbuf)` (tcp.go:111). -/
  replyRCode : Outcome Unit
  /-- The `Write` of the length prefix inside `binary.Write` (tcp.go:134): nil or an error. -/
  writeLen : Outcome (Option ℕ)
  /-- `c.Write(buf)` (tcp.go:137). -/
  writeBody : Outcome (Option ℕ)

/-- What the connection's goroutines share with the rest of the proxy. -/
structure Config where
  /-- `query.New(buf[:qsize], remoteIP, localIP)`: the query and its error, or a panic. -/
  queryNew : List UInt8 → String → String → Outcome (Query × Option ℕ)
  /-- `cap(inflightRequests)`. -/
  capacity : ℕ

/-- tcp.go:74–76: `addrIP` of the connection's local and remote addresses, then
`query.New(buf[:qsize], remoteIP, localIP)` on the frame's bytes `b`. -/
def Config.newQuery (cfg : Config) (e : TaskEnv) (b : List UInt8) : Outcome (Query × Option ℕ) :=
  match e.addrIP with
  | .panic => .panic
  | .ret (localIP, remoteIP) => cfg.queryNew b remoteIP localIP

/-! ### Memory -/

/-- The contents of every backing array. -/
abbrev Memory := ℕ → ℕ → UInt8

/-- The first `n` bytes of array `a`. -/
def slice (mem : Memory) (a n : ℕ) : List UInt8 := (List.range n).map (mem a)

/-- Array `a` with its first bytes overwritten by `bs`. -/
def fill (mem : Memory) (a : ℕ) (bs : List UInt8) : Memory :=
  Function.update mem a fun i => bs.getD i (mem a i)

/-! ### Goroutines and the shared state -/

/-- Where a query task is (tcp.go:69–118). A step runs the statements up to the next one that
touches shared state. -/
inductive TaskPc where
  /-- tcp.go:74–79: `addrIP` twice, `query.New(buf[:qsize], …)`, `logErr` on its error. -/
  | start
  /-- tcp.go:80: `rbuf := *bpool.GetLarge()`; the recovering defer is registered after it. -/
  | getLarge
  /-- tcp.go:104–112: `Resolve`, the SERVFAIL test, `replyRCode`. -/
  | resolve
  /-- tcp.go:113, 134: `rbuf[:rsize]`, then the `Write` of the length prefix. -/
  | writeLen
  /-- tcp.go:137, 114–117: the `Write` of the body, then `err`. -/
  | writeBody
  /-- tcp.go:82–87: `recover()`, `bpool.Put(&buf)`. -/
  | putBuf
  /-- tcp.go:88: `bpool.Put(&rbuf)`. -/
  | putRBuf
  /-- tcp.go:89: `<-inflightRequests`. -/
  | release
  /-- tcp.go:90–102: `p.logQuery(QueryInfo{…})`. -/
  | logQuery
  /-- tcp.go:70: `wg.Done()`. -/
  | done
  | finished
  /-- A panic escaped the task: its deferred `wg.Done()` ran and the process ended. -/
  | crashed
  deriving DecidableEq, Repr

/-- What a task did to shared state, in order (ghost). -/
inductive Effect where
  | writeTCP (buf : List UInt8)
  | put (b : Slice)
  | release
  | logQuery (r : QueryInfo)
  | done
  deriving DecidableEq, Repr

/-- A query task: its statement, its variables, and what it has done to shared state. -/
structure QueryTask where
  pc : TaskPc
  buf : Slice
  qsize : ℕ
  q : Query
  err : Option TaskErr
  rbuf : Slice
  rsize : ℤ
  ri : ResolveInfo
  trail : List Effect
  deriving Repr

/-- The task `go func() {…}` starts for a frame of `qsize` bytes in `buf` (tcp.go:69). -/
def QueryTask.spawn (buf : Slice) (qsize : ℕ) : QueryTask :=
  ⟨.start, buf, qsize, default, none, Slice.make 0 0, 0, default, []⟩

/-- The record `p.logQuery` receives (tcp.go:90–102). -/
def QueryTask.record (t : QueryTask) : QueryInfo :=
  ⟨t.q.peerIP, "TCP", t.q.qtype, t.q.name, t.qsize, t.rsize, t.ri.profile, t.ri.fromCache,
    t.ri.transport, t.err⟩

/-- Why `serveTCPConn` returns: `io.EOF` (it returns nil), another read error
(`"TCP read: %v"`), or a frame of at most 14 bytes (`"query too small: %d"`). -/
inductive Stop where
  | eof
  | read (e : ReadErr)
  | tooSmall (n : ℤ)
  deriving DecidableEq, Repr

/-- What `serveTCPConn` returns when its loop stops for `r` (tcp.go:57–65): nil on `io.EOF`,
otherwise its error's text; `ioText` gives a transport error's. -/
def Stop.error (ioText : ℕ → String) : Stop → Option String
  | .eof => none
  | .read e => some ("TCP read: " ++ e.text ioText)
  | .tooSmall n => some ("query too small: " ++ toString n)

/-- Where the read loop of `serveTCPConn` is. -/
inductive ReadLoop where
  /-- tcp.go:51: `inflightRequests <- struct{}{}`. -/
  | acquire
  /-- tcp.go:52: `buf := *bpool.GetLarge()`. -/
  | getLarge
  /-- tcp.go:53–69: `readTCP`, the tests, and `wg.Add(1)` with `go` for a frame. -/
  | read (buf : Slice)
  /-- tcp.go:55, 63: `bpool.Put(&buf)`. -/
  | put (buf : Slice) (r : Stop)
  /-- tcp.go:56, 64: `<-inflightRequests`, then return. -/
  | release (r : Stop)
  /-- tcp.go:46: the deferred `wg.Wait()`. -/
  | wait (r : Stop)
  /-- tcp.go:47: the deferred `c.Close()`. -/
  | close (r : Stop)
  | returned (r : Stop)
  deriving DecidableEq, Repr

/-- One connection: the client's unread bytes, the bytes written to it, whether it is closed,
`len(inflightRequests)`, the `WaitGroup` counter, the pool, the memory, the read loop and the
tasks in spawn order. -/
structure ConnState where
  input : Stream
  out : List UInt8
  closed : Bool
  tokens : ℕ
  wg : ℤ
  pool : TieredBufferPool
  mem : Memory
  loop : ReadLoop
  tasks : List QueryTask
  crashed : Bool

/-- A connection as `serveTCPConn` starts on it. -/
def ConnState.init (pool : TieredBufferPool) (mem : Memory) (input : Stream) : ConnState :=
  ⟨input, [], false, 0, 0, pool, mem, .acquire, [], false⟩

/-! ### Steps -/

variable {cfg : Config} {env : ℕ → TaskEnv} {p : TieredBufferPool} {mem : Memory}
    {st input : Stream} {s : ConnState}

/-- One step of the read loop; `pick` is the pooled buffer `GetLarge` hands out. A blocked
statement (a full or empty channel, a nonzero `WaitGroup`) takes no step. -/
def loopStep (cfg : Config) (pick : Option ℕ) (s : ConnState) : Option ConnState :=
  match s.loop with
  | .acquire =>
    if s.tokens < cfg.capacity then some { s with tokens := s.tokens + 1, loop := .getLarge }
    else none
  | .getLarge =>
    some { s with pool := (s.pool.getLarge pick).2, loop := .read (s.pool.getLarge pick).1 }
  | .read b =>
    match readTCP b.cap s.input with
    | .panic => some { s with crashed := true }
    | .ret (res, input) =>
      let s := { s with input, mem := fill s.mem b.arr res.data }
      match res.err with
      | some e => some { s with loop := .put b (if e = .eof then .eof else .read e) }
      | none =>
        if res.n ≤ 14 then some { s with loop := .put b (.tooSmall res.n) }
        else some { s with wg := s.wg + 1, loop := .acquire,
                           tasks := s.tasks ++ [QueryTask.spawn b res.n.toNat] }
  | .put b r => some { s with pool := s.pool.put (some b), loop := .release r }
  | .release r =>
    if 0 < s.tokens then some { s with tokens := s.tokens - 1, loop := .wait r } else none
  | .wait r => if s.wg = 0 then some { s with loop := .close r } else none
  | .close r => some { s with closed := true, loop := .returned r }
  | .returned _ => none

/-- A panic escapes the task: its deferred `wg.Done()` runs and the process ends. -/
def crash (s : ConnState) (t : QueryTask) : ConnState × QueryTask :=
  ({ s with wg := s.wg - 1, crashed := true },
    { t with pc := .crashed, trail := t.trail ++ [.done] })

/-- The deferred function recovers a panic: `err` becomes the panic's error (tcp.go:82–86). -/
def QueryTask.recover (t : QueryTask) : QueryTask := { t with err := some .panic, pc := .putBuf }

/-- What a `Write` on the connection returns; on a closed connection it fails. -/
def writeOutcome (closed : Bool) (o : Outcome (Option ℕ)) : Outcome (Option TaskErr) :=
  if closed then .ret (some .closed)
  else match o with
    | .ret e => .ret (e.map .write)
    | .panic => .panic

/-- One step of a query task with collaborators `e`; `pick` is the pooled buffer `GetLarge`
hands out. -/
def taskStep (cfg : Config) (e : TaskEnv) (pick : Option ℕ) (s : ConnState) (t : QueryTask) :
    Option (ConnState × QueryTask) :=
  match t.pc with
  | .start =>
    match cfg.newQuery e (slice s.mem t.buf.arr t.qsize) with
    | .panic => some (crash s t)
    | .ret (q, none) => some (s, { t with q, pc := .getLarge })
    | .ret (q, some c) =>
      match e.logErr with
      | .panic => some (crash s t)
      | .ret () => some (s, { t with q, err := some (.query c), pc := .getLarge })
  | .getLarge =>
    some ({ s with pool := (s.pool.getLarge pick).2 },
      { t with rbuf := (s.pool.getLarge pick).1, pc := .resolve })
  | .resolve =>
    match e.resolve with
    | .panic => some (s, t.recover)
    | .ret r =>
      let mem := fill s.mem t.rbuf.arr r.written
      let t : QueryTask := { t with rsize := r.rsize, ri := r.info, err := r.err.map .resolve }
      if r.err ≠ none ∨ r.rsize ≤ 0 ∨ (maxTCPSize : ℤ) < r.rsize then
        match e.replyRCode with
        | .panic => some ({ s with mem }, t.recover)
        | .ret () =>
          let msg := replyRCode rcodeServerFailure t.q
          some ({ s with mem := fill mem t.rbuf.arr msg },
            { t with rsize := msg.length, pc := .writeLen })
      else some ({ s with mem }, { t with pc := .writeLen })
  | .writeLen =>
    if t.rsize < 0 ∨ (t.rbuf.cap : ℤ) < t.rsize then some (s, t.recover)
    else
      let arg := slice s.mem t.rbuf.arr t.rsize.toNat
      let t : QueryTask := { t with trail := t.trail ++ [.writeTCP arg] }
      match writeOutcome s.closed e.writeLen with
      | .ret none =>
        some ({ s with out := s.out ++ bePutUint16 arg.length }, { t with pc := .writeBody })
      | .ret (some werr) => some (s, { t with err := t.err.or (some werr), pc := .putBuf })
      | .panic => some (s, t.recover)
  | .writeBody =>
    match writeOutcome s.closed e.writeBody with
    | .ret werr =>
      some ({ s with
          out := if werr = none then s.out ++ slice s.mem t.rbuf.arr t.rsize.toNat else s.out },
        { t with err := t.err.or werr, pc := .putBuf })
    | .panic => some (s, t.recover)
  | .putBuf =>
    some ({ s with pool := s.pool.put (some t.buf) },
      { t with pc := .putRBuf, trail := t.trail ++ [.put t.buf] })
  | .putRBuf =>
    some ({ s with pool := s.pool.put (some t.rbuf) },
      { t with pc := .release, trail := t.trail ++ [.put t.rbuf] })
  | .release =>
    if 0 < s.tokens then
      some ({ s with tokens := s.tokens - 1 },
        { t with pc := .logQuery, trail := t.trail ++ [.release] })
    else none
  | .logQuery => some (s, { t with pc := .done, trail := t.trail ++ [.logQuery t.record] })
  | .done =>
    some ({ s with wg := s.wg - 1 }, { t with pc := .finished, trail := t.trail ++ [.done] })
  | .finished | .crashed => none

/-- Who moves: the read loop, a task (by spawn index), or the runtime dropping a pooled buffer. -/
inductive Choice where
  | loop (pick : Option ℕ)
  | task (i : ℕ) (pick : Option ℕ)
  | drop (t : Tier) (i : ℕ)
  deriving DecidableEq, Repr

/-- One step of the connection; `env i` is how task `i`'s collaborators behave. -/
def step (cfg : Config) (env : ℕ → TaskEnv) (s : ConnState) (c : Choice) : Option ConnState :=
  if s.crashed then none
  else match c with
    | .loop pick => loopStep cfg pick s
    | .task i pick =>
      match s.tasks[i]? with
      | none => none
      | some t =>
        (taskStep cfg (env i) pick s t).map fun p => { p.1 with tasks := s.tasks.set i p.2 }
    | .drop t i => some { s with pool := s.pool.drop t i }

/-- The states a connection reaches from `s₀`, in any interleaving and with any pool picks. -/
inductive Reachable (cfg : Config) (env : ℕ → TaskEnv) (s₀ : ConnState) : ConnState → Prop where
  | init : Reachable cfg env s₀ s₀
  | step {s s' : ConnState} (c : Choice) :
      Reachable cfg env s₀ s → step cfg env s c = some s' → Reachable cfg env s₀ s'

/-- The state after a schedule of choices, if every one of them can move. -/
def run (cfg : Config) (env : ℕ → TaskEnv) (s : ConnState) : List Choice → Option ConnState
  | [] => some s
  | c :: cs => (step cfg env s c).bind fun s' => run cfg env s' cs

theorem reachable_of_run {s₀ s s' : ConnState} (hs : Reachable cfg env s₀ s) :
    ∀ {cs : List Choice}, run cfg env s cs = some s' → Reachable cfg env s₀ s'
  | [], h => by cases h; exact hs
  | c :: cs, h => by
    simp only [run, Option.bind_eq_some] at h
    obtain ⟨s₁, h₁, h₂⟩ := h
    exact reachable_of_run (hs.step c h₁) h₂

/-- The state a schedule that runs to its end leaves is reachable. -/
theorem reachable_run_getD {s₀ : ConnState} {cs : List Choice}
    (hs : Reachable cfg env s₀ s) (h : (run cfg env s cs).isSome) :
    Reachable cfg env s₀ ((run cfg env s cs).getD s) := by
  obtain ⟨s', hs'⟩ := Option.isSome_iff_exists.1 h
  rw [hs']
  exact reachable_of_run hs hs'

/-! ### Fixed inputs for runs -/

/-- A client that sends `k` queries of `n` zero bytes each, then closes its side. -/
def queries (k n : ℕ) : Stream :=
  ⟨(List.replicate k (frameBytes (List.replicate n 0))).flatten, .eof⟩

/-- Collaborators that all return, with `Resolve` doing as `r` says and both `Write`s succeeding. -/
def TaskEnv.resolving (r : Outcome Resolved) : TaskEnv :=
  ⟨.ret ("", ""), .ret (), r, .ret (), .ret none, .ret none⟩

/-- A connection on a new pool, with every byte of memory zero. -/
def ConnState.fresh (input : Stream) : ConnState :=
  ConnState.init newTieredBufferPool (fun _ _ => 0) input

/-- Two queries read and their tasks run up to `writeTCP`; then the tasks write their length
prefixes one after the other, and their bodies. -/
def prefixesFirst : List Choice :=
  List.replicate 6 (.loop none) ++ List.replicate 4 (.task 0 none) ++
    List.replicate 4 (.task 1 none) ++ [.task 0 none, .task 1 none]

/-- `writeTCP`'s two `Write`s are two steps of the task: on two pipelined queries answered with the
same 12 bytes, both tasks can write their length prefix before either writes its body. The
connection's bytes then decode to a frame that is neither reply, and a truncated one. -/
theorem interleaved_replies :
    (run ⟨fun _ _ _ => .ret (default, none), 2⟩
        (fun _ => .resolving (.ret ⟨(List.range 12).map (UInt8.ofNat ·.succ), 12, default, none⟩))
        (.fresh (queries 2 15)) prefixesFirst).map (fun s => readFrames 2 ⟨s.out, .eof⟩) =
      some [⟨12, none, [0, 12, 1, 2, 3, 4, 5, 6, 7, 8, 9, 10]⟩,
        ⟨12, some .unexpectedEOF, [1, 2, 3, 4, 5, 6, 7, 8, 9, 10, 11, 12]⟩] := by
  decide

/-- The read loop and task 0 take turns: the loop reads one query, task 0 takes `k` steps, and the
loop reads EOF and returns. -/
def serveOne (k : ℕ) : List Choice :=
  [.loop none, .loop none, .loop none] ++ List.replicate k (.task 0 none) ++
    List.replicate 7 (.loop none)

end NextDnsProxy.Proxy.Conn

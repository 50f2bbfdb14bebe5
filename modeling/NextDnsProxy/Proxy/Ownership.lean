import Mathlib.Data.List.Nodup
import NextDnsProxy.Proxy.ConnSteps

/-!
# Buffer ownership on a connection

Every backing array is owned by at most one party at a time: a freelist of the pool (once), the
read loop, or one query task. The read loop owns `buf` from its `GetLarge` until it hands the
buffer to the task it spawns or puts it back; a task owns `buf` until its `Put(&buf)` and `rbuf`
from its `GetLarge` until its `Put(&rbuf)`.

* **`Owned`** — the owners' arrays, the pool's included, are pairwise distinct and below the
  allocator's next array, the pool is segregated, and every held buffer is a 65536-byte one.
* **`Owned.trade`** — every step of the connection is a `Trade`: it moves a buffer between the
  pool and one goroutine, hands a fresh one out, or lets the runtime drop a pooled one; so it
  keeps `Owned` (`Owned.move`).
* **`owned_reachable`** — so `Owned` holds at every state reachable from a well-formed pool
  (`PoolWF`), `newTieredBufferPool()` among them.

Hence no `Get` hands out a buffer that a goroutine still holds, no buffer is `Put` twice, and a
goroutine writing into a buffer it holds touches no other goroutine's bytes.
-/

namespace NextDnsProxy.Proxy.Conn

open BufferPool Framing
open scoped List

variable {cfg : Config} {env : ℕ → TaskEnv} {p : TieredBufferPool} {mem : Memory}
    {st input : Stream} {s : ConnState}

/-! ### Who holds what -/

/-- The buffer the read loop holds: `buf` from its `GetLarge` to its `Put` or hand-over. -/
def ReadLoop.bufs : ReadLoop → List Slice
  | .read b | .put b _ => [b]
  | _ => []

/-- The buffers a task holds: `buf` until its `Put` (for ever once the process has crashed),
`rbuf` from its `GetLarge` until its `Put`. -/
def QueryTask.bufs (t : QueryTask) : List Slice :=
  match t.pc with
  | .start | .getLarge | .crashed => [t.buf]
  | .resolve | .writeLen | .writeBody | .putBuf => [t.buf, t.rbuf]
  | .putRBuf => [t.rbuf]
  | .release | .logQuery | .done | .finished => []

/-- The buffers the connection's goroutines hold. -/
def ConnState.held (s : ConnState) : List Slice := s.loop.bufs ++ s.tasks.flatMap QueryTask.bufs

/-- The backing arrays of the buffers a task holds. -/
def QueryTask.arrays (t : QueryTask) : List ℕ := t.bufs.map Slice.arr

/-- The backing arrays in the pool's freelists. -/
def poolArrays (p : TieredBufferPool) : List ℕ := (p.small ++ p.medium ++ p.large).map Slice.arr

/-- Every array the pool or a goroutine owns, once per owner. -/
def ConnState.owned (s : ConnState) : List ℕ :=
  poolArrays s.pool ++ s.loop.bufs.map Slice.arr ++ s.tasks.flatMap QueryTask.arrays

/-- **The ownership invariant.** -/
structure Owned (s : ConnState) : Prop where
  segregated : Segregated s.pool
  nodup : s.owned.Nodup
  fresh : ∀ a ∈ s.owned, a < s.pool.fresh
  large : ∀ b ∈ s.held, b.cap = 65536

/-! ### The pool's arrays -/

theorem perm_getElem_cons_eraseIdx {α : Type} (l : List α) {i : ℕ} (h : i < l.length) :
    l ~ l[i] :: l.eraseIdx i := by
  rw [List.eraseIdx_eq_take_drop_succ]
  calc l = l.take i ++ l[i] :: l.drop (i + 1) := by
        rw [List.getElem_cons_drop, List.take_append_drop]
    _ ~ l[i] :: (l.take i ++ l.drop (i + 1)) := List.perm_middle

theorem poolArrays_setItems_large (p : TieredBufferPool) (l : List Slice) :
    poolArrays (p.setItems .large l) = (p.small ++ p.medium ++ l).map Slice.arr := rfl

/-- `GetLarge` hands out a pooled large buffer and drops it from the pool, or a fresh one. -/
theorem getLarge_arrays (hp : Segregated p) (pick : Option ℕ) :
    (p.getLarge pick).1.cap = 65536 ∧
      ((poolArrays p ~ (p.getLarge pick).1.arr :: poolArrays (p.getLarge pick).2 ∧
          (p.getLarge pick).2.fresh = p.fresh) ∨
        (poolArrays (p.getLarge pick).2 = poolArrays p ∧ (p.getLarge pick).1.arr = p.fresh ∧
          (p.getLarge pick).2.fresh = p.fresh + 1)) := by
  refine ⟨hp.getTier_cap .large pick, ?_⟩
  rcases TieredBufferPool.getTier_cases p .large pick with ⟨i, hi, h⟩ | h <;>
    simp only [TieredBufferPool.getLarge, h]
  · refine .inl ⟨?_, by simp⟩
    rw [poolArrays_setItems_large, poolArrays]
    simp only [List.map_append]
    exact ((perm_getElem_cons_eraseIdx _ hi).map _).append_left _ |>.trans List.perm_middle
  · exact .inr ⟨rfl, rfl, rfl⟩

/-- A large buffer `Put` back joins the large freelist. -/
theorem put_arrays (p : TieredBufferPool) {b : Slice} (hb : b.cap = 65536) :
    poolArrays (p.put (some b)) ~ b.arr :: poolArrays p ∧ (p.put (some b)).fresh = p.fresh := by
  simp only [TieredBufferPool.put, hb]
  refine ⟨?_, by simp⟩
  rw [poolArrays_setItems_large, poolArrays]
  simp only [List.map_append, List.map_cons]
  exact List.perm_middle

theorem drop_arrays (p : TieredBufferPool) (t : Tier) (i : ℕ) :
    poolArrays (p.drop t i) <+ poolArrays p ∧ (p.drop t i).fresh = p.fresh := by
  refine ⟨?_, by simp [TieredBufferPool.drop]⟩
  have h := List.eraseIdx_sublist (p.items t) i
  cases t
  · exact ((h.append_right p.medium).append_right p.large).map _
  · exact ((h.append_left p.small).append_right p.large).map _
  · exact (h.append_left (p.small ++ p.medium)).map _

/-! ### One step -/

/-- Replacing an entry of a list permutes it, the old entry traded for the new. -/
theorem perm_set_append {α : Type} : ∀ (l : List α) (i : ℕ) (a : α) (h : i < l.length),
    l.set i a ++ [l[i]] ~ l ++ [a]
  | [], _, _, h => absurd h (by simp)
  | x :: l, 0, a, _ => by
    simp only [List.set_cons_zero, List.getElem_cons_zero, List.cons_append]
    exact ((List.perm_append_singleton x l).cons a).trans
      ((List.Perm.swap x a l).trans ((List.perm_append_singleton a l).symm.cons x))
  | x :: l, i + 1, a, h => by
    simpa using (perm_set_append l i a (by simpa using h)).cons x

theorem flatMap_set_perm {α β : Type} (f : α → List β) (l : List α) (i : ℕ) (a : α)
    (h : i < l.length) : (l.set i a).flatMap f ++ f l[i] ~ l.flatMap f ++ f a := by
  simpa using (perm_set_append l i a h).flatMap_right f

/-- How a task step changes the task's buffers. -/
theorem bufs_step {pick : Option ℕ} {s' : ConnState} {t t' : QueryTask}
    (hs : TaskStepSpec pick s s' t t') :
    (t.pc = .getLarge ∧ t'.bufs = t.bufs ++ [(s.pool.getLarge pick).1] ∧
      s'.pool = (s.pool.getLarge pick).2) ∨
    (t.pc = .putBuf ∧ t.bufs = t.buf :: t'.bufs ∧ s'.pool = s.pool.put (some t.buf)) ∨
    (t.pc = .putRBuf ∧ t.bufs = t.rbuf :: t'.bufs ∧ s'.pool = s.pool.put (some t.rbuf)) ∨
    (t'.bufs = t.bufs ∧ s'.pool = s.pool) := by
  have hn := hs.next
  have hp := hs.pool
  have hr := hs.rbuf
  cases hpc : t.pc <;> simp only [hpc, TaskPc.next, List.mem_cons, List.mem_singleton,
      List.not_mem_nil, or_false] at hn hp hr <;>
    (try rcases hn with hn | hn) <;> simp [QueryTask.bufs, hpc, hn, hs.buf, hr, hp]

/-- **What a step does to the buffers**: after it every array is owned at most as often as
before, a freshly allocated one apart; the pool stays segregated, and every held buffer is a
large one. -/
structure Trade (s s' : ConnState) : Prop where
  segregated : Segregated s'.pool
  large : ∀ b ∈ s'.held, b.cap = 65536
  fresh_le : s.pool.fresh ≤ s'.pool.fresh
  count : ∀ a, s'.owned.count a ≤
    s.owned.count a + if s.pool.fresh ≤ a ∧ a < s'.pool.fresh then 1 else 0

/-- Arrays owned once each and below `f` stay so, below `f'`, when each is owned at most as
often as before, one allocated in `[f, f')` apart. -/
theorem nodup_fresh_of_count {l l' : List ℕ} {f f' : ℕ} (hn : l.Nodup) (hf : ∀ a ∈ l, a < f)
    (hle : f ≤ f') (hc : ∀ a, l'.count a ≤ l.count a + if f ≤ a ∧ a < f' then 1 else 0) :
    l'.Nodup ∧ ∀ a ∈ l', a < f' := by
  have hz : ∀ a, f ≤ a → l.count a = 0 := fun a ha =>
    List.count_eq_zero.2 fun hm => by have := hf a hm; omega
  refine ⟨List.nodup_iff_count_le_one.2 fun a => ?_, fun a ha => ?_⟩
  · have h1 := List.nodup_iff_count_le_one.1 hn a
    have h2 := hc a
    split_ifs at h2 with h3
    · have := hz a h3.1; omega
    · omega
  · have h1 := List.count_pos_iff.2 ha
    have h2 := hc a
    split_ifs at h2 with h3
    · exact h3.2
    · have := hf a (List.count_pos_iff.1 (by omega)); omega

/-- A trade keeps `Owned`. -/
theorem Owned.of_trade {s' : ConnState} (h : Owned s) (ht : Trade s s') : Owned s' :=
  have h' := nodup_fresh_of_count h.nodup h.fresh ht.fresh_le ht.count
  ⟨ht.segregated, h'.1, h'.2, ht.large⟩

theorem mem_flatMap_set {α β : Type} {f : α → List β} {l : List α} {i : ℕ} {a : α} {b : β}
    (h : b ∈ (l.set i a).flatMap f) : b ∈ l.flatMap f ∨ b ∈ f a := by
  obtain ⟨u, hu, hb⟩ := List.mem_flatMap.1 h
  rcases List.mem_or_eq_of_mem_set hu with hu | rfl
  · exact .inl (List.mem_flatMap.2 ⟨u, hu, hb⟩)
  · exact .inr hb

/-- A task step that only trades arrays between the pool and the stepping task, taking at most a
fresh one, is a trade. -/
theorem Owned.tradeTask {s₁ : ConnState} {i : ℕ} {t' : QueryTask} (h : Owned s)
    (hlt : i < s.tasks.length) (hl : s₁.loop = s.loop) (hseg : Segregated s₁.pool)
    (hbig : ∀ b ∈ t'.bufs, b ∈ s.tasks[i].bufs ∨ b.cap = 65536)
    (hfr : s.pool.fresh ≤ s₁.pool.fresh)
    (hc : ∀ a, (poolArrays s₁.pool).count a + t'.arrays.count a ≤
      (poolArrays s.pool).count a + s.tasks[i].arrays.count a +
        if s.pool.fresh ≤ a ∧ a < s₁.pool.fresh then 1 else 0) :
    Trade s { s₁ with tasks := s.tasks.set i t' } := by
  classical
  refine ⟨hseg, fun b hb => ?_, hfr, fun a => ?_⟩
  · simp only [ConnState.held, hl, List.mem_append] at hb
    rcases hb with hb | hb
    · exact h.large b (List.mem_append_left _ hb)
    rcases mem_flatMap_set hb with hb | hb
    · exact h.large b (List.mem_append_right _ hb)
    rcases hbig b hb with hb | hb
    · exact h.large b (List.mem_append_right _ (List.mem_flatMap.2 ⟨_, List.getElem_mem hlt, hb⟩))
    · exact hb
  · have hset := (flatMap_set_perm QueryTask.arrays s.tasks i t' hlt).count_eq a
    have := hc a
    simp only [ConnState.owned, hl, List.count_append] at hset ⊢
    omega

/-- **A task step is a trade.** -/
theorem Owned.taskTrade {e : TaskEnv} {pick : Option ℕ} {s₁ : ConnState}
    {t t' : QueryTask} {i : ℕ} (h : Owned s) (hi : s.tasks[i]? = some t)
    (ht : taskStep cfg e pick s t = some (s₁, t')) :
    Trade s { s₁ with tasks := s.tasks.set i t' } := by
  classical
  have hs := taskStep_spec ht
  obtain ⟨hlt, rfl⟩ := List.getElem?_eq_some_iff.1 hi
  have hbig : ∀ b ∈ s.tasks[i].bufs, b.cap = 65536 := fun b hb =>
    h.large b (List.mem_append_right _ (List.mem_flatMap.2 ⟨_, List.getElem_mem hlt, hb⟩))
  -- a `Put`: the buffer goes back to the pool
  have hput : ∀ b, s.tasks[i].bufs = b :: t'.bufs → s₁.pool = s.pool.put (some b) →
      Trade s { s₁ with tasks := s.tasks.set i t' } := fun b hb hp => by
    obtain ⟨hperm, hfr⟩ := put_arrays s.pool (hbig b (hb ▸ List.mem_cons_self _ _))
    refine h.tradeTask hlt hs.loop (hp ▸ h.segregated.put _)
      (fun c hc => .inl (hb ▸ List.mem_cons_of_mem _ hc)) (by rw [hp, hfr]) fun a => ?_
    have := hperm.count_eq a
    simp only [QueryTask.arrays, hb, hp, List.map_cons, List.count_cons] at this ⊢
    omega
  rcases bufs_step hs with ⟨-, hb, hp⟩ | ⟨-, hb, hp⟩ | ⟨-, hb, hp⟩ | ⟨hb, hp⟩
  · -- `GetLarge`: the task takes a buffer from the pool, or a fresh one
    obtain ⟨hcap, hcase⟩ := getLarge_arrays h.segregated pick
    have harr : ∀ a, t'.arrays.count a =
        s.tasks[i].arrays.count a + if (s.pool.getLarge pick).1.arr = a then 1 else 0 := by
      intro a
      simp only [QueryTask.arrays, hb, List.map_append, List.map_cons, List.map_nil,
        List.count_append, List.count_singleton', beq_iff_eq]
    refine h.tradeTask hlt hs.loop (hp ▸ h.segregated.getTier _ _) (fun b hb' => ?_) ?_ fun a => ?_
    · rw [hb, List.mem_append, List.mem_singleton] at hb'
      exact hb'.imp id (by rintro rfl; exact hcap)
    · rw [hp]
      rcases hcase with ⟨-, hfr⟩ | ⟨-, -, hfr⟩ <;> omega
    · rw [hp, harr a]
      rcases hcase with ⟨hperm, hfr⟩ | ⟨hpa, harr', hfr⟩
      · have := hperm.count_eq a
        simp only [List.count_cons, beq_iff_eq] at this
        split_ifs at this ⊢ <;> omega
      · rw [hpa, harr', hfr]
        split_ifs <;> omega
  · exact hput _ hb hp
  · exact hput _ hb hp
  · -- the buffers stay where they are
    refine h.tradeTask hlt hs.loop (hp ▸ h.segregated) (fun b hb' => .inl (hb ▸ hb')) (by rw [hp])
      fun a => ?_
    simp [QueryTask.arrays, hb, hp]

/-- A step that moves no buffer is a trade. -/
theorem Owned.tradeSame {s' : ConnState} (h : Owned s) (hp : s'.pool = s.pool)
    (hl : s'.loop.bufs = s.loop.bufs) (ht : s'.tasks = s.tasks) : Trade s s' := by
  have hh : s'.held = s.held := by simp only [ConnState.held, hl, ht]
  have ho : s'.owned = s.owned := by simp only [ConnState.owned, hp, hl, ht]
  exact ⟨hp ▸ h.segregated, hh ▸ h.large, by rw [hp], fun a => by simp [ho, hp]⟩

/-- A step that keeps the tasks and only trades arrays between the pool and the read loop, taking
at most a fresh one, is a trade. -/
theorem Owned.tradeLoop {s' : ConnState} (h : Owned s) (ht : s'.tasks = s.tasks)
    (hseg : Segregated s'.pool) (hbig : ∀ b ∈ s'.loop.bufs, b.cap = 65536)
    (hfr : s.pool.fresh ≤ s'.pool.fresh)
    (hc : ∀ a, (poolArrays s'.pool).count a + (s'.loop.bufs.map Slice.arr).count a ≤
      (poolArrays s.pool).count a + (s.loop.bufs.map Slice.arr).count a +
        if s.pool.fresh ≤ a ∧ a < s'.pool.fresh then 1 else 0) : Trade s s' := by
  classical
  refine ⟨hseg, fun b hb => ?_, hfr, fun a => ?_⟩
  · rcases List.mem_append.1 hb with hb | hb
    · exact hbig b hb
    · exact h.large b (List.mem_append_right _ (ht ▸ hb))
  · have := hc a
    simp only [ConnState.owned, ht, List.count_append]
    omega

/-- **A read-loop step is a trade.** -/
theorem Owned.loopTrade {pick : Option ℕ} {s' : ConnState} (h : Owned s)
    (hm : LoopMove cfg pick s s') : Trade s s' := by
  classical
  cases hm with
  | acquire h1 _ => exact h.tradeSame rfl (by simp [h1, ReadLoop.bufs]) rfl
  | panic b _ _ => exact h.tradeSame rfl rfl rfl
  | stop b res input r h1 _ _ _ => exact h.tradeSame rfl (by simp [h1, ReadLoop.bufs]) rfl
  | release r h1 _ => exact h.tradeSame rfl (by simp [h1, ReadLoop.bufs]) rfl
  | wait r h1 _ => exact h.tradeSame rfl (by simp [h1, ReadLoop.bufs]) rfl
  | close r h1 => exact h.tradeSame rfl (by simp [h1, ReadLoop.bufs]) rfl
  | getLarge h1 =>
    -- the loop takes `buf` from the pool, or a fresh one
    obtain ⟨hcap, hcase⟩ := getLarge_arrays h.segregated pick
    refine h.tradeLoop rfl (h.segregated.getTier _ _) (by simpa [ReadLoop.bufs] using hcap) ?_
      fun a => ?_
    · rcases hcase with ⟨-, hfr⟩ | ⟨-, -, hfr⟩ <;> (dsimp only; omega)
    · simp only [h1, ReadLoop.bufs, List.map_cons, List.map_nil, List.count_singleton',
        List.count_nil]
      rcases hcase with ⟨hperm, hfr⟩ | ⟨hpa, harr, hfr⟩
      · have := hperm.count_eq a
        simp only [List.count_cons, beq_iff_eq] at this
        split_ifs at this ⊢ <;> omega
      · simp only [hpa, harr, hfr]
        split_ifs <;> omega
  | spawn b res input h1 _ _ _ =>
    -- the loop hands `buf` to the task it spawns
    have hlarge : ∀ b ∈ s.held, b.cap = 65536 := h.large
    refine ⟨h.segregated, by simpa [ConnState.held, ReadLoop.bufs, h1, QueryTask.bufs,
      QueryTask.spawn, or_comm] using hlarge, le_rfl, fun a => ?_⟩
    simp only [ConnState.owned, h1, ReadLoop.bufs, List.flatMap_append, List.flatMap_cons,
      List.flatMap_nil, QueryTask.arrays, QueryTask.bufs, QueryTask.spawn, List.map_cons,
      List.map_nil, List.count_append, List.count_cons, List.count_nil]
    omega
  | put b r h1 =>
    -- the loop puts `buf` back
    obtain ⟨hperm, hfr⟩ :=
      put_arrays s.pool (h.large b (by simp [ConnState.held, h1, ReadLoop.bufs]))
    refine h.tradeLoop rfl (h.segregated.put _) (by simp [ReadLoop.bufs]) (by simp [hfr])
      fun a => ?_
    have := hperm.count_eq a
    simp only [h1, ReadLoop.bufs, List.map_cons, List.map_nil, List.count_cons,
      List.count_nil] at this ⊢
    omega

/-- The runtime dropping a pooled buffer is a trade. -/
theorem Owned.dropTrade (h : Owned s) (tier : Tier) (j : ℕ) :
    Trade s { s with pool := s.pool.drop tier j } := by
  classical
  obtain ⟨hsub, hfr⟩ := drop_arrays s.pool tier j
  refine ⟨h.segregated.drop _ _, h.large, by simp [hfr], fun a => ?_⟩
  have := hsub.count_le a
  simp only [ConnState.owned, List.count_append]
  omega

/-- **Every step of the connection is a trade.** -/
theorem Owned.trade {s' : ConnState} (h : Owned s)
    (hm : Move cfg env s s') : Trade s s' := by
  cases hm with
  | loop pick hl => exact h.loopTrade hl
  | task i pick hi ht => exact h.taskTrade hi ht
  | drop tier j => exact h.dropTrade tier j

/-- **Every step of the connection keeps `Owned`.** -/
theorem Owned.move {s' : ConnState} (h : Owned s)
    (hm : Move cfg env s s') : Owned s' :=
  h.of_trade (h.trade hm)

/-! ### Different owners, different arrays -/

theorem Owned.loop_arr_ne (h : Owned s) {b c : Slice} {t : QueryTask}
    (hb : b ∈ s.loop.bufs) (ht : t ∈ s.tasks) (hc : c ∈ t.bufs) : b.arr ≠ c.arr := fun he =>
  List.disjoint_of_nodup_append h.nodup (List.mem_append_right _ (List.mem_map_of_mem _ hb))
    (he ▸ List.mem_flatMap.2 ⟨t, ht, List.mem_map_of_mem _ hc⟩)

/-- Entries at two indices of a list whose images under `f` are disjoint share no image. -/
theorem disjoint_of_nodup_flatMap {α β : Type} {f : α → List β} {l : List α}
    (hn : (l.flatMap f).Nodup) {i j : ℕ} (hij : i ≠ j) {x y : α} (hi : l[i]? = some x)
    (hj : l[j]? = some y) {a : β} (hx : a ∈ f x) (hy : a ∈ f y) : False := by
  have hp := (List.nodup_flatMap.1 hn).2
  obtain ⟨hi', rfl⟩ := List.getElem?_eq_some_iff.1 hi
  obtain ⟨hj', rfl⟩ := List.getElem?_eq_some_iff.1 hj
  rcases Nat.lt_or_gt_of_ne hij with hlt | hlt
  · exact List.pairwise_iff_getElem.1 hp i j hi' hj' hlt hx hy
  · exact List.pairwise_iff_getElem.1 hp j i hj' hi' hlt hy hx

theorem Owned.task_arr_ne (h : Owned s) {i j : ℕ} {t u : QueryTask} (hij : i ≠ j)
    (hi : s.tasks[i]? = some t) (hj : s.tasks[j]? = some u) {b c : Slice} (hb : b ∈ t.bufs)
    (hc : c ∈ u.bufs) : b.arr ≠ c.arr := fun he =>
  disjoint_of_nodup_flatMap (List.Nodup.of_append_right h.nodup) hij hi hj
    (List.mem_map_of_mem _ hb) (he ▸ List.mem_map_of_mem _ hc)

theorem TaskPc.not_mem_next_self (p : TaskPc) : p ∉ p.next := by
  cases p <;> decide

/-- **Where bytes go.** A move that leaves task `i` as it was leaves the bytes of its buffers alone:
the loop writes only into its own `buf`, another task only into its own `rbuf`. -/
theorem Owned.mem_frame {s' : ConnState} (h : Owned s)
    (hm : Move cfg env s s') {i : ℕ} {u : QueryTask} (hi : s.tasks[i]? = some u)
    (hi' : s'.tasks[i]? = some u) {c : Slice} (hc : c ∈ u.bufs) : s'.mem c.arr = s.mem c.arr := by
  have hu := List.getElem?_mem hi
  cases hm with
  | loop pick hl =>
    cases hl with
    | stop b _ _ _ h1 _ _ _ | spawn b _ _ h1 _ _ _ =>
      exact fill_ne _ (h.loop_arr_ne (by simp [h1, ReadLoop.bufs]) hu hc).symm
    | _ => rfl
  | task j pick hj ht =>
    rename_i t t'
    have hs := taskStep_spec ht
    rcases eq_or_ne j i with rfl | hne
    · -- task `i` itself moved, so it is no longer `u`
      rw [List.getElem?_set_self (List.getElem?_eq_some_iff.1 hj).1] at hi'
      rw [hj] at hi
      cases hi
      cases hi'
      exact absurd hs.next (TaskPc.not_mem_next_self _)
    · refine hs.mem _ ?_
      by_cases hr : t.pc = .resolve
      · exact .inl (h.task_arr_ne hne.symm hi hj hc (by simp [QueryTask.bufs, hr]))
      · exact .inr hr
  | drop tier k => rfl

/-- A move writes only into arrays its goroutines hold: the read loop into its `buf`, a task into
its `rbuf`. -/
theorem Move.mem_eq_of_not_held {s' : ConnState}
    (hm : Move cfg env s s') {a : ℕ} (ha : ∀ b ∈ s.held, b.arr ≠ a) : s'.mem a = s.mem a := by
  cases hm with
  | loop pick hl =>
    cases hl with
    | stop b _ _ _ h1 _ _ _ | spawn b _ _ h1 _ _ _ =>
      exact fill_ne _ (ha b (by simp [ConnState.held, h1, ReadLoop.bufs])).symm
    | _ => rfl
  | task j pick hj ht =>
    rename_i t t'
    refine (taskStep_spec ht).mem a ?_
    by_cases hr : t.pc = .resolve
    · refine .inl (ha t.rbuf (List.mem_append_right _ (List.mem_flatMap.2
        ⟨t, List.getElem?_mem hj, by simp [QueryTask.bufs, hr]⟩))).symm
    · exact .inr hr
  | drop tier k => rfl

/-! ### Every reachable state -/

/-- A pool as a connection may find it: segregated, each pooled array once, and every pooled array
below the allocator's next. -/
structure PoolWF (p : TieredBufferPool) : Prop where
  segregated : Segregated p
  nodup : (poolArrays p).Nodup
  fresh : ∀ a ∈ poolArrays p, a < p.fresh

theorem poolWF_new : PoolWF newTieredBufferPool :=
  ⟨segregated_new, List.nodup_nil, by simp [poolArrays, newTieredBufferPool]⟩

theorem Owned.init (hp : PoolWF p) (mem : Memory) (input : Stream) :
    Owned (ConnState.init p mem input) := by
  have h : (ConnState.init p mem input).owned = poolArrays p := by
    simp [ConnState.owned, ConnState.init, ReadLoop.bufs]
  exact ⟨hp.segregated, h ▸ hp.nodup, h ▸ hp.fresh,
    by simp [ConnState.held, ConnState.init, ReadLoop.bufs]⟩

/-- **Ownership at every reachable state.** -/
theorem owned_reachable (hp : PoolWF p)
    (hr : Reachable cfg env (ConnState.init p mem input) s) : Owned s :=
  hr.inv (Owned.init hp mem input) fun h _ hm => h.move hm

theorem owned_serveOne :
    Owned ((run ⟨fun _ _ _ => .ret (default, none), 1⟩ (fun _ => .resolving .panic)
      (.fresh (queries 1 15)) (serveOne 8)).getD (.fresh (queries 1 15))) :=
  owned_reachable poolWF_new (reachable_run_getD .init (by decide))

end NextDnsProxy.Proxy.Conn

import Mathlib.Data.List.Basic

/-!
# The tiered buffer pool (`proxy/bufferpool.go`)

`TieredBufferPool` keeps three `sync.Pool` freelists of byte buffers, made by `New` at 512, 4096
and 65536 bytes. `Get(size)` picks the freelist by the requested size, `GetLarge()` always takes
the large one, and `Put(buf)` files a buffer by its exact capacity and drops anything else.

A Go slice is modelled by its backing array (an identity), its length and its capacity. A
`sync.Pool` hands out *any* pooled item or a fresh `New()` one, and the runtime may discard pooled
items at any time; so `Get` takes a `pick` naming the item the runtime hands out, and `drop` is an
operation of its own. Every theorem holds for every pick.

* **`segregated_run`** — after any sequence of `Get`, `GetLarge`, `Put` (of any buffer: nil,
  foreign capacities, resliced) and runtime drops, every pooled buffer has exactly its tier's size
  as capacity; hence `Get(n)` has capacity `tierCeiling n` and `GetLarge()` capacity 65536.
* **`getLarge_resliced_len`** — `Put` files by capacity only, so a resliced buffer comes back
  shorter than the docstring's "at least the requested size"; **`get_len_of_fullPuts`** — when
  every `Put` passes a full-length buffer, `Get(n)` has length at least `min n 65536`.
-/

namespace NextDnsProxy.Proxy.BufferPool

/-- A Go `[]byte` as the pool sees it: the backing array it points into, its length, its
capacity. -/
structure Slice where
  arr : ℕ
  len : ℕ
  cap : ℕ
  len_le_cap : len ≤ cap
  deriving DecidableEq, Repr

/-- `make([]byte, n)` on a fresh backing array `arr`. -/
def Slice.make (arr n : ℕ) : Slice := ⟨arr, n, n, le_refl n⟩

/-- The three freelists of `TieredBufferPool`. -/
inductive Tier where
  | small
  | medium
  | large
  deriving DecidableEq, Repr

/-- The size each freelist's `New` allocates (bufferpool.go:17–34). -/
def Tier.size : Tier → ℕ
  | .small => 512
  | .medium => 4096
  | .large => 65536

/-- `TieredBufferPool`: the items of the three `sync.Pool`s, and the next backing array the
allocator hands to a `New`. -/
structure TieredBufferPool where
  small : List Slice
  medium : List Slice
  large : List Slice
  fresh : ℕ
  deriving Repr

variable {p : TieredBufferPool}

/-- `newTieredBufferPool()`: three empty freelists. -/
def newTieredBufferPool : TieredBufferPool := ⟨[], [], [], 0⟩

namespace TieredBufferPool

/-- The items of one freelist. -/
def items (p : TieredBufferPool) : Tier → List Slice
  | .small => p.small
  | .medium => p.medium
  | .large => p.large

/-- Replace the items of one freelist. -/
def setItems (p : TieredBufferPool) : Tier → List Slice → TieredBufferPool
  | .small, l => { p with small := l }
  | .medium, l => { p with medium := l }
  | .large, l => { p with large := l }

@[simp] theorem items_setItems (p : TieredBufferPool) (t u : Tier) (l : List Slice) :
    (p.setItems t l).items u = if u = t then l else p.items u := by
  cases t <;> cases u <;> rfl

@[simp] theorem fresh_setItems (p : TieredBufferPool) (t : Tier) (l : List Slice) :
    (p.setItems t l).fresh = p.fresh := by
  cases t <;> rfl

/-- A freelist's `New`: `make([]byte, size)` on the next backing array. -/
def new (p : TieredBufferPool) (t : Tier) : Slice × TieredBufferPool :=
  (Slice.make p.fresh t.size, { p with fresh := p.fresh + 1 })

/-- `sync.Pool.Get` on one freelist: the item `pick` names, or `New()` when it names none. -/
def getTier (p : TieredBufferPool) (t : Tier) : Option ℕ → Slice × TieredBufferPool
  | some i =>
    if h : i < (p.items t).length then ((p.items t)[i], p.setItems t ((p.items t).eraseIdx i))
    else p.new t
  | none => p.new t

/-- `Get` (bufferpool.go:40–49). -/
def get (p : TieredBufferPool) (size : ℤ) (pick : Option ℕ) : Slice × TieredBufferPool :=
  if size ≤ 512 then p.getTier .small pick
  else if size ≤ 4096 then p.getTier .medium pick
  else p.getTier .large pick

/-- `GetLarge` (bufferpool.go:68–70). -/
def getLarge (p : TieredBufferPool) (pick : Option ℕ) : Slice × TieredBufferPool :=
  p.getTier .large pick

/-- `Put` (bufferpool.go:52–64): a nil pointer is ignored, a buffer is filed by its exact
capacity, any other capacity is dropped. -/
def put (p : TieredBufferPool) : Option Slice → TieredBufferPool
  | none => p
  | some b =>
    match b.cap with
    | 512 => p.setItems .small (b :: p.small)
    | 4096 => p.setItems .medium (b :: p.medium)
    | 65536 => p.setItems .large (b :: p.large)
    | _ => p

/-- The runtime discards the `i`-th item of a freelist (a `sync.Pool` may do so at any time). -/
def drop (p : TieredBufferPool) (t : Tier) (i : ℕ) : TieredBufferPool :=
  p.setItems t ((p.items t).eraseIdx i)

@[simp] theorem items_new (p : TieredBufferPool) (t u : Tier) :
    (p.new t).2.items u = p.items u := by
  cases u <;> rfl

@[simp] theorem new_fst (p : TieredBufferPool) (t : Tier) :
    (p.new t).1 = Slice.make p.fresh t.size := rfl

/-- What `Get` on one freelist can do: hand out a pooled item and remove it, or make a fresh one. -/
theorem getTier_cases (p : TieredBufferPool) (t : Tier) (pick : Option ℕ) :
    (∃ i, ∃ h : i < (p.items t).length,
      p.getTier t pick = ((p.items t)[i], p.setItems t ((p.items t).eraseIdx i))) ∨
    p.getTier t pick = p.new t := by
  cases pick with
  | none => exact .inr rfl
  | some i =>
    by_cases h : i < (p.items t).length
    · exact .inl ⟨i, h, by simp [getTier, h]⟩
    · exact .inr (by simp [getTier, h])

/-- `Put` files a buffer under the tier whose size is its capacity, and nowhere else. -/
theorem mem_put_items {ob : Option Slice} {u : Tier} {c : Slice}
    (h : c ∈ (p.put ob).items u) : c ∈ p.items u ∨ (ob = some c ∧ c.cap = u.size) := by
  cases ob with
  | none => exact .inl h
  | some b =>
    simp only [put] at h
    split at h <;> first
      | exact .inl h
      | (simp only [items_setItems] at h; split at h
         · subst_vars; rcases List.mem_cons.1 h with rfl | h
           · exact .inr ⟨rfl, by simp_all [Tier.size]⟩
           · exact .inl h
         · exact .inl h)

end TieredBufferPool

/-! ### Tier segregation -/

open TieredBufferPool

/-- Every pooled buffer has exactly its freelist's size as capacity. -/
def Segregated (p : TieredBufferPool) : Prop := ∀ t, ∀ b ∈ p.items t, b.cap = t.size

theorem segregated_new : Segregated newTieredBufferPool := by
  intro t b hb; cases t <;> cases hb

theorem Segregated.getTier (hp : Segregated p) (t : Tier)
    (pick : Option ℕ) : Segregated (p.getTier t pick).2 := by
  rcases getTier_cases p t pick with ⟨i, _, h⟩ | h <;> rw [h] <;> intro u b hb
  · simp only [items_setItems] at hb
    split at hb
    · subst_vars; exact hp _ b (List.mem_of_mem_eraseIdx hb)
    · exact hp u b hb
  · exact hp u b (by simpa using hb)

/-- A freelist of a segregated pool hands out buffers of exactly its size. -/
theorem Segregated.getTier_cap (hp : Segregated p) (t : Tier)
    (pick : Option ℕ) : (p.getTier t pick).1.cap = t.size := by
  rcases getTier_cases p t pick with ⟨i, hi, h⟩ | h <;> rw [h]
  · exact hp t _ (List.getElem_mem hi)
  · rfl

theorem Segregated.put (hp : Segregated p) (ob : Option Slice) :
    Segregated (p.put ob) := by
  intro u c hc
  rcases mem_put_items hc with hc | ⟨-, hcap⟩
  · exact hp u c hc
  · exact hcap

theorem Segregated.drop (hp : Segregated p) (t : Tier) (i : ℕ) :
    Segregated (p.drop t i) := by
  intro u b hb
  simp only [TieredBufferPool.drop, items_setItems] at hb
  split at hb
  · subst_vars; exact hp _ b (List.mem_of_mem_eraseIdx hb)
  · exact hp u b hb

/-- One call on the pool, as a caller or the runtime makes it. -/
inductive Op where
  | get (size : ℤ) (pick : Option ℕ)
  | getLarge (pick : Option ℕ)
  | put (b : Option Slice)
  | drop (t : Tier) (i : ℕ)
  deriving Repr

/-- The pool after one call. -/
def TieredBufferPool.apply (p : TieredBufferPool) : Op → TieredBufferPool
  | .get size pick => (p.get size pick).2
  | .getLarge pick => (p.getLarge pick).2
  | .put b => p.put b
  | .drop t i => p.drop t i

/-- The pool after a sequence of calls. -/
def runOps (p : TieredBufferPool) (ops : List Op) : TieredBufferPool :=
  ops.foldl TieredBufferPool.apply p

theorem Segregated.apply (hp : Segregated p) :
    ∀ op, Segregated (p.apply op)
  | .get size pick => by
    simp only [TieredBufferPool.apply, TieredBufferPool.get]
    split_ifs <;> exact hp.getTier _ pick
  | .getLarge pick => hp.getTier .large pick
  | .put b => hp.put b
  | .drop t i => hp.drop t i

theorem Segregated.runOps (hp : Segregated p) (ops : List Op) :
    Segregated (BufferPool.runOps p ops) := by
  induction ops generalizing p with
  | nil => exact hp
  | cons op ops ih => exact ih (hp.apply op)

/-- The tier ceilings, smallest first. -/
def ceilings : List ℕ := [512, 4096, 65536]

/-- The smallest tier ceiling that is at least `n`; the largest ceiling when none is. -/
def tierCeiling (n : ℤ) : ℕ := (ceilings.find? fun c : ℕ => decide (n ≤ (c : ℤ))).getD 65536

/-- `Get(n)` on a segregated pool has capacity `tierCeiling n`, for every `int` `n`. -/
theorem Segregated.get_cap (hp : Segregated p) (n : ℤ)
    (pick : Option ℕ) : (p.get n pick).1.cap = tierCeiling n := by
  simp only [TieredBufferPool.get, tierCeiling, ceilings]
  split_ifs with h1 h2
  · simp [hp.getTier_cap, Tier.size, h1]
  · simp [hp.getTier_cap, Tier.size, h1, h2]
  · simp [hp.getTier_cap, Tier.size, h1, h2]
    split <;> rfl

/-- **Tier segregation (proved).** After any sequence of calls from `newTieredBufferPool`,
every pooled buffer has its tier's size as capacity, `Get(n)` has capacity `tierCeiling n` and
`GetLarge()` has capacity 65536. -/
theorem segregated_run (ops : List Op) :
    Segregated (runOps newTieredBufferPool ops) ∧
      (∀ n pick, ((runOps newTieredBufferPool ops).get n pick).1.cap = tierCeiling n) ∧
      ∀ pick, ((runOps newTieredBufferPool ops).getLarge pick).1.cap = 65536 := by
  have hp := segregated_new.runOps ops
  exact ⟨hp, hp.get_cap, hp.getTier_cap .large⟩

/-! ### Usable length -/

/-- `Put` looks at the capacity only: `make([]byte, 65536)[:0]` is filed as a large buffer, and a
later `GetLarge()` can hand it out with length 0. -/
theorem getLarge_resliced_len :
    ((runOps newTieredBufferPool [.put (some ⟨0, 0, 65536, Nat.zero_le _⟩)]).getLarge
      (some 0)).1.len = 0 := rfl

/-- Every pooled buffer is at full length. -/
def FullLength (p : TieredBufferPool) : Prop := ∀ t, ∀ b ∈ p.items t, b.len = b.cap

/-- Every buffer a sequence of calls hands to `Put` is at full length. -/
def FullPuts (ops : List Op) : Prop := ∀ b, Op.put (some b) ∈ ops → b.len = b.cap

theorem FullLength.getTier (hp : FullLength p) (t : Tier)
    (pick : Option ℕ) :
    FullLength (p.getTier t pick).2 ∧ (p.getTier t pick).1.len = (p.getTier t pick).1.cap := by
  rcases getTier_cases p t pick with ⟨i, hi, h⟩ | h <;> rw [h]
  · refine ⟨fun u b hb => ?_, hp t _ (List.getElem_mem hi)⟩
    simp only [items_setItems] at hb
    split at hb
    · subst_vars; exact hp _ b (List.mem_of_mem_eraseIdx hb)
    · exact hp u b hb
  · exact ⟨fun u b hb => hp u b (by simpa using hb), rfl⟩

theorem FullLength.apply (hp : FullLength p) :
    ∀ op, (∀ b, op = .put (some b) → b.len = b.cap) → FullLength (p.apply op)
  | .get size pick, _ => by
    simp only [TieredBufferPool.apply, TieredBufferPool.get]
    split_ifs <;> exact (hp.getTier _ pick).1
  | .getLarge pick, _ => (hp.getTier .large pick).1
  | .put ob, hb => fun u c hc => by
    rcases mem_put_items hc with hc | ⟨rfl, -⟩
    · exact hp u c hc
    · exact hb c rfl
  | .drop t i, _ => fun u b hb => by
    simp only [TieredBufferPool.apply, TieredBufferPool.drop, items_setItems] at hb
    split at hb
    · subst_vars; exact hp _ b (List.mem_of_mem_eraseIdx hb)
    · exact hp u b hb

/-- Under `FullLength`, `Get` hands out its buffer at full length. -/
theorem FullLength.get_len (hp : FullLength p) (n : ℤ)
    (pick : Option ℕ) : (p.get n pick).1.len = (p.get n pick).1.cap := by
  simp only [TieredBufferPool.get]
  split_ifs <;> exact (hp.getTier _ pick).2

theorem fullLength_new : FullLength newTieredBufferPool := fun t b hb => by
  cases t <;> cases hb

theorem FullLength.runOps (hp : FullLength p) (ops : List Op)
    (h : FullPuts ops) : FullLength (BufferPool.runOps p ops) := by
  induction ops generalizing p with
  | nil => exact hp
  | cons op ops ih =>
    exact ih (hp.apply op fun b hb => h b (hb ▸ List.mem_cons_self _ _))
      fun b hb => h b (List.mem_cons_of_mem _ hb)

theorem min_le_tierCeiling (n : ℤ) : min n 65536 ≤ tierCeiling n := by
  simp only [tierCeiling, ceilings, List.find?_cons, List.find?_nil]
  repeat' split
  all_goals simp only [Option.getD_some, Option.getD_none, decide_eq_true_eq] at *
  all_goals omega

/-- **Usable length under full-length `Put`s (proved).** When every buffer handed to `Put` is at
full length, `Get(n)` has length at least `min n 65536` and `GetLarge()` length 65536. -/
theorem get_len_of_fullPuts (ops : List Op) (h : FullPuts ops) (n : ℤ) (pick : Option ℕ) :
    min n 65536 ≤ (((runOps newTieredBufferPool ops).get n pick).1.len : ℤ) ∧
      ((runOps newTieredBufferPool ops).getLarge pick).1.len = 65536 := by
  have hf := fullLength_new.runOps ops h
  have hs := segregated_new.runOps ops
  refine ⟨?_, ?_⟩
  · rw [hf.get_len, hs.get_cap]
    exact min_le_tierCeiling n
  · rw [getLarge, (hf.getTier .large pick).2]
    exact hs.getTier_cap .large pick

theorem get_len_of_fullPuts_getPut :
    FullPuts [.getLarge none, .put (some ⟨0, 65536, 65536, le_rfl⟩)] ∧
      min 100 65536 ≤ (((runOps newTieredBufferPool
          [.getLarge none, .put (some ⟨0, 65536, 65536, le_rfl⟩)]).get 100 none).1.len : ℤ) ∧
      ((runOps newTieredBufferPool
          [.getLarge none, .put (some ⟨0, 65536, 65536, le_rfl⟩)]).getLarge (some 0)).1.len =
        65536 :=
  have h : FullPuts [.getLarge none, .put (some ⟨0, 65536, 65536, le_rfl⟩)] := by
    simp [FullPuts]
  ⟨h, get_len_of_fullPuts _ h 100 none |>.1, get_len_of_fullPuts _ h 100 (some 0) |>.2⟩

end NextDnsProxy.Proxy.BufferPool

import AccessGrants.Model.Session
import Mathlib.Data.List.Nodup

/-!
# The transaction an access statement runs in

The `World` an operation of `access.rs` runs against, and the `Txn` monad its body is
written in.

* The grant entries of the key-value store are a list of (key, grant) pairs in the order
  a prefix scan returns them, each key at most once (`Store`, which carries that fact).
  `set` overwrites in place or appends, `del` removes, `put` refuses a present key.
* The clock `Datetime::default()` reads and the random source `rand::thread_rng()`
  draws from are streams with a read position, so every sequence of readings and draws
  is some world's. So are the store's answers to writes: each `put`, `set` and `del` first
  asks the store, which takes the write or fails it with its own error (`Error::Tx` and
  its kin, returned with `?`), and every sequence of answers is some world's.
* The trace records what is handed to the outside: audit lines, the collision warning,
  and each document a condition is computed on.

A `Txn` maps a world to its outcome and the world after it; writes made before an error
stay in the transaction, as they stay in the source's `txn`.
-/

set_option autoImplicit false

namespace AccessGrants

/-! ## Grant entries -/

/-- The grant stored under `k`. -/
def lookup (k : GrantKey) : List (GrantKey × AccessGrant) → Option AccessGrant
  | [] => none
  | e :: es => if e.1 = k then some e.2 else lookup k es

/-- The entries with `k` set to `v`: in place if `k` is present, appended otherwise. -/
def write (k : GrantKey) (v : AccessGrant) :
    List (GrantKey × AccessGrant) → List (GrantKey × AccessGrant)
  | [] => [(k, v)]
  | e :: es => if e.1 = k then (k, v) :: es else e :: write k v es

/-- INTERNAL: a lookup after a write finds the written grant at its key and the old one
elsewhere. -/
theorem lookup_write (k k' : GrantKey) (v : AccessGrant) (es : List (GrantKey × AccessGrant)) :
    lookup k' (write k v es) = if k = k' then some v else lookup k' es := by
  induction es with
  | nil => simp [write, lookup]
  | cons e es ih =>
    by_cases he : e.1 = k
    · subst he; by_cases hk : e.1 = k' <;> simp [write, lookup, hk]
    · by_cases hk : e.1 = k' <;> simp [write, lookup, he, ih] <;> aesop

/-- INTERNAL: a lookup of a key no entry has finds nothing. -/
theorem lookup_eq_none {k : GrantKey} {es : List (GrantKey × AccessGrant)}
    (h : k ∉ es.map Prod.fst) : lookup k es = none := by
  induction es with
  | nil => rfl
  | cons e es ih =>
    simp only [List.map_cons, List.mem_cons, not_or] at h
    simp [lookup, Ne.symm h.1, ih h.2]

/-- INTERNAL: a write adds its key at the end when absent, and keeps the keys otherwise. -/
theorem keys_write (k : GrantKey) (v : AccessGrant) (es : List (GrantKey × AccessGrant)) :
    (write k v es).map Prod.fst =
      if k ∈ es.map Prod.fst then es.map Prod.fst else es.map Prod.fst ++ [k] := by
  induction es with
  | nil => simp [write]
  | cons e es ih =>
    by_cases he : e.1 = k
    · simp [write, he]
    · simp only [write, he, if_false, List.map_cons, ih, List.mem_cons, Ne.symm he, false_or]
      split_ifs <;> rfl

/-- INTERNAL: removing one key keeps every other key's lookup. -/
theorem lookup_filter_ne (k k' : GrantKey) (es : List (GrantKey × AccessGrant)) :
    lookup k' (es.filter fun e => e.1 ≠ k) = if k = k' then none else lookup k' es := by
  induction es with
  | nil => simp [lookup]
  | cons e es ih =>
    simp only [List.filter_cons, ne_eq, decide_not] at ih ⊢
    by_cases he : e.1 = k
    · subst he
      by_cases hk : e.1 = k' <;> simp_all [lookup]
    · by_cases hk : e.1 = k'
      · subst hk; simp [lookup, he, Ne.symm he]
      · simp_all [lookup]

/-- INTERNAL: with keys listed once, an entry is what a lookup of its key finds. -/
theorem lookup_of_mem {k : GrantKey} {g : AccessGrant} {es : List (GrantKey × AccessGrant)}
    (hn : (es.map Prod.fst).Nodup) (h : (k, g) ∈ es) : lookup k es = some g := by
  induction es with
  | nil => simp at h
  | cons e es ih =>
    simp only [List.map_cons, List.nodup_cons, List.mem_map] at hn
    rcases List.mem_cons.mp h with rfl | h
    · simp [lookup]
    · have hk : e.1 ≠ k := fun hk => hn.1 ⟨(k, g), h, hk.symm⟩
      simp [lookup, hk, ih hn.2 h]

/-- INTERNAL: selecting entries by a key predicate keeps the lookup of a selected key. -/
theorem lookup_filter_of {p : GrantKey → Bool} {k : GrantKey} (hk : p k = true)
    (es : List (GrantKey × AccessGrant)) : lookup k (es.filter fun e => p e.1) = lookup k es := by
  induction es with
  | nil => rfl
  | cons e es ih =>
    by_cases he : e.1 = k
    · subst he; simp [List.filter_cons, hk, lookup]
    · by_cases hp : p e.1 <;> simp [List.filter_cons, hp, lookup, he, ih]

/-- Writing a key the filter keeps commutes with the filter. -/
theorem filter_write {p : GrantKey → Bool} {k : GrantKey} (hk : p k = true) (v : AccessGrant)
    (es : List (GrantKey × AccessGrant)) :
    (write k v es).filter (fun e => p e.1) = write k v (es.filter fun e => p e.1) := by
  induction es with
  | nil => simp [write, hk]
  | cons e es ih =>
    by_cases he : e.1 = k
    · subst he; simp [write, List.filter_cons, hk]
    · by_cases hp : p e.1 <;> simp [write, List.filter_cons, hp, he, ih]

/-- The grant entries of the store, in scan order, each key at most once. -/
structure Store where
  entries : List (GrantKey × AccessGrant)
  nodup : (entries.map Prod.fst).Nodup

namespace Store

/-- The store with no grant entries. -/
def empty : Store := ⟨[], List.nodup_nil⟩

/-- Point read of a grant entry. -/
def get (s : Store) (k : GrantKey) : Option AccessGrant := lookup k s.entries

/-- `txn.set`: overwrite, or insert if absent. -/
def set (s : Store) (k : GrantKey) (v : AccessGrant) : Store :=
  ⟨write k v s.entries, by
    rw [keys_write]
    split_ifs with h
    · exact s.nodup
    · exact s.nodup.append (List.nodup_singleton k) (by simpa using h)⟩

/-- `txn.del`. -/
def del (s : Store) (k : GrantKey) : Store :=
  ⟨s.entries.filter fun e => e.1 ≠ k,
    s.nodup.sublist ((List.filter_sublist _).map _)⟩

/-- The entries of one partition and access method, with their keys, in scan order. -/
def part (s : Store) (l : Level) (ac : String) : List (GrantKey × AccessGrant) :=
  s.entries.filter fun e => e.1.level = l ∧ e.1.ac = ac

/-- `all_{root,ns,db}_access_grants`: the prefix scan of one access method's grants. -/
def scan (s : Store) (l : Level) (ac : String) : List AccessGrant := (s.part l ac).map Prod.snd

@[simp] theorem get_empty (k : GrantKey) : empty.get k = none := rfl

@[simp] theorem get_set (s : Store) (k k' : GrantKey) (v : AccessGrant) :
    (s.set k v).get k' = if k = k' then some v else s.get k' :=
  lookup_write k k' v s.entries

@[simp] theorem get_del (s : Store) (k k' : GrantKey) :
    (s.del k).get k' = if k = k' then none else s.get k' :=
  lookup_filter_ne k k' s.entries

/-- **Writes at distinct keys**: after setting each entry of `ws` in turn, a key holds what
`ws` sets it to, or what it held before. -/
theorem get_foldl_set (s : Store) {ws : List (GrantKey × AccessGrant)} (hn : (ws.map Prod.fst).Nodup)
    (k : GrantKey) : (ws.foldl (fun s e => s.set e.1 e.2) s).get k = (lookup k ws).or (s.get k) := by
  induction ws generalizing s with
  | nil => rfl
  | cons e ws ih =>
    simp only [List.map_cons, List.nodup_cons] at hn
    rw [List.foldl_cons, ih _ hn.2, get_set]
    by_cases he : e.1 = k
    · subst he; simp [lookup, lookup_eq_none hn.1]
    · simp [lookup, he]

/-- **Deleting keys in turn** removes exactly their entries, in place. -/
theorem entries_foldl_del (s : Store) (ks : List GrantKey) :
    (ks.foldl (fun s k => s.del k) s).entries = s.entries.filter fun e => e.1 ∉ ks := by
  induction ks generalizing s with
  | nil => simp
  | cons k ks ih =>
    rw [List.foldl_cons, ih]
    simp only [del, List.filter_filter, List.mem_cons, not_or]
    congr 1; funext e; simp [Bool.and_comm]

/-- A point read in a partition reads the partition's entries. -/
theorem get_eq_lookup_part (s : Store) (l : Level) (ac gr : String) :
    s.get ⟨l, ac, gr⟩ = lookup ⟨l, ac, gr⟩ (s.part l ac) :=
  (@lookup_filter_of (fun k => decide (k.level = l ∧ k.ac = ac)) _ (by simp) s.entries).symm

/-- A write in a partition writes the partition's entries. -/
theorem part_set (s : Store) (l : Level) (ac gr : String) (v : AccessGrant) :
    (s.set ⟨l, ac, gr⟩ v).part l ac = write ⟨l, ac, gr⟩ v (s.part l ac) :=
  @filter_write (fun k => decide (k.level = l ∧ k.ac = ac)) _ (by simp) v s.entries

/-- INTERNAL: a partition after a delete is the partition without the key. -/
theorem part_del (s : Store) (k : GrantKey) (l : Level) (ac : String) :
    (s.del k).part l ac = (s.part l ac).filter fun e => e.1 ≠ k := by
  simp only [part, del, List.filter_filter, Bool.and_comm]

/-- Every entry a scan lists is what a point read of its key returns. -/
theorem get_of_mem_part {s : Store} {l : Level} {ac : String} {e : GrantKey × AccessGrant}
    (h : e ∈ s.part l ac) : s.get e.1 = some e.2 :=
  lookup_of_mem s.nodup (List.mem_of_mem_filter h)

/-- A scanned entry's key is in the scanned partition. -/
theorem key_of_mem_part {s : Store} {l : Level} {ac : String} {e : GrantKey × AccessGrant}
    (h : e ∈ s.part l ac) : e.1.level = l ∧ e.1.ac = ac := by
  simpa using (List.mem_filter.mp h).2

end Store

/-! ## The world and the monad -/

/-- What an operation runs against: the grant entries, the catalog, the clock and its
readings taken, the random source and its draws, the store's answers to writes (`none`
takes the write, `some msg` fails it) and the writes asked, and the events. -/
structure World where
  store : Store
  catalog : Catalog
  clock : ℕ → Datetime
  ticks : ℕ
  rng : ℕ → ℕ
  draws : ℕ
  faults : ℕ → Option String
  writes : ℕ
  events : List Event

/-- An operation: its outcome on a world, and the world after it. -/
def Txn (α : Type) : Type := World → Except Error α × World

namespace Txn

/-- Sequencing: an error stops the operation in the world it was raised in. -/
protected def bind {α β : Type} (m : Txn α) (f : α → Txn β) : Txn β := fun w =>
  match m w with
  | (.ok a, w') => f a w'
  | (.error e, w') => (.error e, w')

/-- Operations are sequenced by passing the world on, a failure stopping the rest. -/
instance : Monad Txn where
  pure a := fun w => (.ok a, w)
  bind := Txn.bind

variable {α β : Type}

@[simp] theorem pure_apply (a : α) (w : World) : (pure a : Txn α) w = (.ok a, w) := rfl

/-- INTERNAL: a sequence runs its first step and, on success, the rest from the world it left. -/
theorem bind_apply (m : Txn α) (f : α → Txn β) (w : World) :
    (m >>= f) w = match m w with
      | (.ok a, w') => f a w'
      | (.error e, w') => (.error e, w') := rfl

/-- INTERNAL: a sequence whose first step succeeds runs the rest from there. -/
theorem bind_of_ok {m : Txn α} {w w' : World} {a : α} (h : m w = (.ok a, w')) (f : α → Txn β) :
    (m >>= f) w = f a w' := by
  rw [bind_apply, h]

/-- INTERNAL: a sequence whose first step fails fails with its error and world. -/
theorem bind_of_error {m : Txn α} {w w' : World} {e : Error} (h : m w = (.error e, w'))
    (f : α → Txn β) : (m >>= f) w = (.error e, w') := by
  rw [bind_apply, h]

/-- `bail!`: raise an error. -/
def fail (e : Error) : Txn α := fun w => (.error e, w)

/-- `ensure!(c, e)`: raise `e` unless `c` holds. -/
def ensure (c : Prop) [Decidable c] (e : Error) : Txn Unit := if c then pure () else fail e

/-- A computation of the session alone, with its `?`. -/
def lift (x : Except Error α) : Txn α := fun w => (x, w)

/-- The outcome of `m` as a value: the source's `let res = …; match res { … }`. -/
def attempt (m : Txn α) : Txn (Except Error α) := fun w => (.ok (m w).1, (m w).2)

@[simp] theorem fail_apply (e : Error) (w : World) : (fail e : Txn α) w = (.error e, w) := rfl
@[simp] theorem lift_apply (x : Except Error α) (w : World) : (lift x : Txn α) w = (x, w) := rfl
@[simp] theorem attempt_apply (m : Txn α) (w : World) :
    attempt m w = (.ok (m w).1, (m w).2) := rfl

/-- **Peeling a bind**: a successful sequence is a successful first step followed by a
successful rest. -/
theorem bind_eq_ok {m : Txn α} {f : α → Txn β} {w w'' : World} {b : β}
    (h : (m >>= f) w = (.ok b, w'')) : ∃ a w', m w = (.ok a, w') ∧ f a w' = (.ok b, w'') := by
  rw [bind_apply] at h
  rcases hm : m w with ⟨_ | a, w'⟩ <;> rw [hm] at h
  · cases h
  · exact ⟨a, w', rfl, h⟩

/-- A failed sequence failed in its first step, or in the rest after a successful first
step. -/
theorem bind_eq_error {m : Txn α} {f : α → Txn β} {w w'' : World} {e : Error}
    (h : (m >>= f) w = (.error e, w'')) :
    m w = (.error e, w'') ∨ ∃ a w', m w = (.ok a, w') ∧ f a w' = (.error e, w'') := by
  rw [bind_apply] at h
  rcases hm : m w with ⟨_ | a, w'⟩ <;> rw [hm] at h
  · simp only [Prod.mk.injEq, Except.error.injEq] at h
    rw [h.1, h.2]; exact .inl rfl
  · exact .inr ⟨a, w', rfl, h⟩

/-- INTERNAL: a passed check held, and left the world as it was. -/
theorem ensure_ok {c : Prop} [Decidable c] {e : Error} {w w' : World} {u : Unit}
    (h : ensure c e w = (.ok u, w')) : c ∧ w' = w := by
  unfold ensure at h
  split_ifs at h with hc
  · exact ⟨hc, (Prod.mk.inj h).2.symm⟩
  · cases h

/-- INTERNAL: a failed check did not hold, and left the world as it was. -/
theorem ensure_error {c : Prop} [Decidable c] {e e' : Error} {w w' : World}
    (h : ensure c e w = (.error e', w')) : ¬c ∧ e' = e ∧ w' = w := by
  unfold ensure at h
  split_ifs at h with hc
  · cases h
  · simp only [fail_apply, Prod.mk.injEq, Except.error.injEq] at h
    exact ⟨hc, h.1.symm, h.2.symm⟩

/-- INTERNAL: a lifted success is the computed value, with the world unchanged. -/
theorem lift_ok {x : Except Error α} {w w' : World} {a : α}
    (h : (lift x : Txn α) w = (.ok a, w')) : x = .ok a ∧ w' = w := by
  simp only [lift_apply, Prod.mk.injEq] at h
  exact ⟨h.1, h.2.symm⟩

/-- INTERNAL: a lifted failure is the computed error, with the world unchanged. -/
theorem lift_error {x : Except Error α} {w w' : World} {e : Error}
    (h : (lift x : Txn α) w = (.error e, w')) : x = .error e ∧ w' = w := by
  simp only [lift_apply, Prod.mk.injEq] at h
  exact ⟨h.1, h.2.symm⟩

/-- Runs `body` on each element in turn and keeps what it returns `some` of, in order:
the source's `for gr in grs.iter() { …; continue; …; out.push(…) }`. -/
def collect (body : α → Txn (Option β)) : List α → Txn (List β)
  | [] => pure []
  | a :: as => do
    let r ← body a
    let rs ← collect body as
    pure (r.toList ++ rs)

/-- What a step of an operation may do to the world: a preorder on worlds. -/
structure Step where
  rel : World → World → Prop
  refl : ∀ w, rel w w
  trans : ∀ {a b c}, rel a b → rel b c → rel a c

/-- `m` changes the world only by a `T`-step, whatever its outcome. -/
def Moves (T : Step) (m : Txn α) : Prop := ∀ w, T.rel w (m w).2

namespace Moves

variable {T : Step}

/-- INTERNAL: returning a value takes every kind of step. -/
theorem pure (a : α) : Moves T (Pure.pure a : Txn α) := fun w => T.refl w

/-- INTERNAL: failing takes every kind of step. -/
theorem fail (e : Error) : Moves T (Txn.fail e : Txn α) := fun w => T.refl w

/-- INTERNAL: lifting a computed outcome takes every kind of step. -/
theorem lift (x : Except Error α) : Moves T (Txn.lift x) := fun w => T.refl w

/-- INTERNAL: a check takes every kind of step. -/
theorem ensure (c : Prop) [Decidable c] (e : Error) : Moves T (Txn.ensure c e) := by
  unfold Txn.ensure; split_ifs
  · exact Moves.pure ()
  · exact Moves.fail e

/-- INTERNAL: a sequence of `T`-steps is a `T`-step. -/
theorem bind {m : Txn α} {f : α → Txn β} (hm : Moves T m) (hf : ∀ a, Moves T (f a)) :
    Moves T (m >>= f) := by
  intro w
  rw [bind_apply]
  rcases hw : m w with ⟨_ | a, w'⟩
  · have := hm w; rw [hw] at this; exact this
  · have := hm w; rw [hw] at this; exact T.trans this (hf a w')

/-- INTERNAL: a loop whose body is a `T`-step is a `T`-step. -/
theorem collect {body : α → Txn (Option β)} (hb : ∀ a, Moves T (body a)) (l : List α) :
    Moves T (Txn.collect body l) := by
  induction l with
  | nil => exact Moves.pure _
  | cons a l ih => exact bind (hb a) fun _ => bind ih fun _ => Moves.pure _

/-- **Sequencing at one world**: the rest may use what the first step returned. -/
theorem bind_at {m : Txn α} {f : α → Txn β} {w : World} (hm : T.rel w (m w).2)
    (hf : ∀ a w', m w = (.ok a, w') → T.rel w' (f a w').2) : T.rel w ((m >>= f) w).2 := by
  rw [bind_apply]
  rcases h : m w with ⟨_ | a, w'⟩
  · rw [h] at hm; exact hm
  · rw [h] at hm; exact T.trans hm (hf a w' h)

/-- **A loop under an invariant**: if each element's iteration is a `T`-step from every
world where `P` holds of it, and `T`-steps keep `P`, the loop is a `T`-step from every
world where `P` holds of all its elements. -/
theorem collect_at {body : α → Txn (Option β)} (P : α → World → Prop)
    (hP : ∀ a w w', P a w → T.rel w w' → P a w') (hb : ∀ a w, P a w → T.rel w (body a w).2) :
    ∀ (l : List α) (w : World), (∀ a ∈ l, P a w) → T.rel w (Txn.collect body l w).2 := by
  intro l
  induction l with
  | nil => intro w _; exact T.refl w
  | cons a l ih =>
    intro w hl
    refine bind_at (hb a w (hl a (List.mem_cons_self _ _))) fun _ w₁ h₁ => ?_
    have h₁' : T.rel w w₁ := by have := hb a w (hl a (List.mem_cons_self _ _)); rwa [h₁] at this
    refine bind_at (ih w₁ fun b hb' => hP b w w₁ (hl b (List.mem_cons_of_mem _ hb')) h₁') fun _ w₂ _ => ?_
    exact T.refl w₂

/-- A weaker kind of step. -/
theorem mono {T' : Step} (hT : ∀ w w', T.rel w w' → T'.rel w w') {m : Txn α} (hm : Moves T m) :
    Moves T' m := fun w => hT _ _ (hm w)

end Moves

/-- Nothing changes. -/
def Step.same : Step := ⟨fun w w' => w' = w, fun _ => rfl, fun h h' => h' ▸ h⟩

/-- The part `f` of the world is kept. -/
def Step.keeps {β : Type} (f : World → β) : Step :=
  ⟨fun w w' => f w' = f w, fun _ => rfl, fun h h' => h'.trans h⟩

/-- An operation that changes nothing changes nothing of any kind. -/
theorem Moves.of_same {T : Step} {m : Txn α} (hm : Moves Step.same m) : Moves T m := fun w =>
  (hm w).symm ▸ T.refl w

/-- Every error `m` raises satisfies `E`; with `E` false, `m` never fails. -/
def Errs (E : Error → Prop) (m : Txn α) : Prop := ∀ w e w', m w = (.error e, w') → E e

namespace Errs

variable {E : Error → Prop}

/-- INTERNAL: returning a value never fails. -/
theorem pure (a : α) : Errs E (Pure.pure a : Txn α) := fun _ _ _ h => nomatch h

/-- INTERNAL: failing with an error of `E`. -/
theorem fail {e : Error} (he : E e) : Errs E (Txn.fail e : Txn α) := fun _ _ _ h => by
  cases h; exact he

/-- INTERNAL: lifting an outcome whose errors are of `E`. -/
theorem lift {x : Except Error α} (hx : ∀ e, x = .error e → E e) : Errs E (Txn.lift x) :=
  fun _ _ _ h => hx _ (lift_error h).1

/-- INTERNAL: a check whose error is of `E`. -/
theorem ensure (c : Prop) [Decidable c] {e : Error} (he : E e) : Errs E (Txn.ensure c e) :=
  fun _ _ _ h => (ensure_error h).2.1 ▸ he

/-- INTERNAL: a sequence of steps failing only in `E` fails only in `E`. -/
theorem bind {m : Txn α} {f : α → Txn β} (hm : Errs E m) (hf : ∀ a, Errs E (f a)) :
    Errs E (m >>= f) := by
  intro w e w'' h
  rcases bind_eq_error h with h | ⟨a, w', -, h⟩
  · exact hm _ _ _ h
  · exact hf a _ _ _ h

/-- INTERNAL: a loop whose body fails only in `E` fails only in `E`. -/
theorem collect {body : α → Txn (Option β)} (hb : ∀ a, Errs E (body a)) (l : List α) :
    Errs E (Txn.collect body l) := by
  induction l with
  | nil => exact Errs.pure _
  | cons a l ih => exact bind (hb a) fun _ => bind ih fun _ => Errs.pure _

end Errs

/-- Every failed run of `m` changes the world only by a `T`-step. -/
def OnError (T : Step) (m : Txn α) : Prop := ∀ w e w', m w = (.error e, w') → T.rel w w'

/-- One run of an operation that moves by `T` is a `T`-step. -/
theorem Moves.rel {T : Step} {m : Txn α} (hm : Moves T m) {w w' : World} {r : Except Error α}
    (h : m w = (r, w')) : T.rel w w' := by
  have := hm w; rw [h] at this; exact this

/-- INTERNAL: a `T`-step is one when it fails too. -/
theorem Moves.onError {T : Step} {m : Txn α} (hm : Moves T m) : OnError T m := fun w _ _ h => by
  simpa only [h] using hm w

/-- An operation that cannot fail has no failed run. -/
theorem Errs.onError {T : Step} {m : Txn α} (hm : Errs (fun _ => False) m) : OnError T m :=
  fun _ _ _ h => (hm _ _ _ h).elim

namespace OnError

variable {T : Step}

/-- A failure after a `T`-step is a `T`-step. -/
theorem bind {m : Txn α} {f : α → Txn β} (hm : Moves T m) (hf : ∀ a, OnError T (f a)) :
    OnError T (m >>= f) := by
  intro w e w'' h
  rcases bind_eq_error h with h | ⟨a, w', hw, h⟩
  · exact hm.onError _ _ _ h
  · exact T.trans (by simpa only [hw] using hm w) (hf a _ _ _ h)

/-- After its last fallible step an operation cannot fail. -/
theorem bind_safe {m : Txn α} {f : α → Txn β} (hm : OnError T m)
    (hf : ∀ a, Errs (fun _ => False) (f a)) : OnError T (m >>= f) := by
  intro w e w'' h
  rcases bind_eq_error h with h | ⟨a, w', -, h⟩
  · exact hm _ _ _ h
  · exact (hf a _ _ _ h).elim

end OnError

end Txn

/-! ## Primitives -/

open Txn

/-- `Datetime::default()`: the next clock reading. -/
def now : Txn Datetime := fun w => (.ok (w.clock w.ticks), { w with ticks := w.ticks + 1 })

/-- Hands an event to the outside. -/
def emit (e : Event) : Txn Unit := fun w => (.ok (), { w with events := w.events ++ [e] })

/-- `random_string(length, pool)`: `length` draws, each `pool[rng.gen_range(0..pool.len())]`. -/
def randomString (length : ℕ) (pool : List Char) : Txn String := fun w =>
  (.ok ⟨(List.range length).map fun j => pool.getD (w.rng (w.draws + j) % pool.length) 'a'⟩,
    { w with draws := w.draws + length })

/-- `get_{root,ns,db}_access`: the access method's definition, or not found. -/
def getAccess (l : Level) (ac : String) : Txn DefineAccess := fun w =>
  match w.catalog.access l ac with
  | some d => (.ok d, w)
  | none => (.error (.accessNotFound l ac), w)

/-- Modelled from the spec: `get_{root,ns,db}_user` (not under src/), which fails unless
the user exists at the level. -/
def getUser (l : Level) (name : String) : Txn Unit := fun w =>
  if (l, name) ∈ w.catalog.users then (.ok (), w) else (.error (.userNotFound l name), w)

/-- Modelled from the spec: `get_or_add_ns` (not under src/), which ensures the namespace
exists, refusing to add it in strict mode. -/
def getOrAddNs (ns : String) (strict : Bool) : Txn Unit := fun w =>
  if ns ∈ w.catalog.namespaces then (.ok (), w)
  else if strict then (.error (.nsNotFound ns), w)
  else (.ok (), { w with catalog := { w.catalog with namespaces := w.catalog.namespaces ++ [ns] } })

/-- Modelled from the spec: `get_or_add_db` (not under src/), as `get_or_add_ns`. -/
def getOrAddDb (ns db : String) (strict : Bool) : Txn Unit := fun w =>
  if (ns, db) ∈ w.catalog.databases then (.ok (), w)
  else if strict then (.error (.dbNotFound ns db), w)
  else (.ok (), { w with catalog := { w.catalog with databases := w.catalog.databases ++ [(ns, db)] } })

/-- `get_{root,ns,db}_access_grant`: point read of a grant, or not found. -/
def getGrant (k : GrantKey) : Txn AccessGrant := fun w =>
  match w.store.get k with
  | some g => (.ok g, w)
  | none => (.error (.grantNotFound k.level k.ac k.gr), w)

/-- `all_{root,ns,db}_access_grants`. -/
def allGrants (l : Level) (ac : String) : Txn (List AccessGrant) := fun w =>
  (.ok (w.store.scan l ac), w)

/-- The store's answer to the next write: it takes the write, or fails the transaction
with its own error. -/
def storeWrite : Txn Unit := fun w =>
  (match w.faults w.writes with
    | none => .ok ()
    | some msg => .error (.tx msg), { w with writes := w.writes + 1 })

/-- The insert of a write the store took: `TxKeyAlreadyExists` if the key is present. -/
def insertEntry (k : GrantKey) (v : AccessGrant) : Txn Unit := fun w =>
  match w.store.get k with
  | some _ => (.error .txKeyAlreadyExists, w)
  | none => (.ok (), { w with store := w.store.set k v })

/-- The overwrite of a write the store took. -/
def setEntry (k : GrantKey) (v : AccessGrant) : Txn Unit := fun w =>
  (.ok (), { w with store := w.store.set k v })

/-- The delete of a write the store took. -/
def delEntry (k : GrantKey) : Txn Unit := fun w => (.ok (), { w with store := w.store.del k })

/-- `txn.put`: insert, failing with the store's error or with `TxKeyAlreadyExists` if the
key is present. -/
def put (k : GrantKey) (v : AccessGrant) : Txn Unit := do
  storeWrite
  insertEntry k v

/-- `txn.set`: overwrite regardless of presence, unless the store fails the write. -/
def set (k : GrantKey) (v : AccessGrant) : Txn Unit := do
  storeWrite
  setEntry k v

/-- `txn.del`, unless the store fails the write. -/
def del (k : GrantKey) : Txn Unit := do
  storeWrite
  delEntry k

/-- A condition computed on a document, which is handed to the evaluator. -/
def evaluate (c : Cond) (doc : Value) : Txn Bool := do
  emit (.evaluate doc)
  lift (c doc)

/-- The ancestors a write arm of the source ensures before writing at level `l`: nothing
at the root, `get_or_add_ns` in a namespace, `get_or_add_ns` then `get_or_add_db` in a
database. -/
def ensureLevel (l : Level) (strict : Bool) : Txn Unit :=
  match l with
  | .root => pure ()
  | .ns ns => getOrAddNs ns strict
  | .db ns db => do
    getOrAddNs ns strict
    getOrAddDb ns db strict

/-! ## What the primitives leave -/

section Frames

variable {E : Error → Prop}

/-- INTERNAL: reading the clock keeps the grant entries. -/
theorem now_keeps_store : Moves (Step.keeps World.store) now := fun _ => rfl
/-- INTERNAL: the store's answer to a write keeps the grant entries. -/
theorem storeWrite_keeps_store : Moves (Step.keeps World.store) storeWrite := fun _ => rfl
/-- INTERNAL: emitting an event keeps the grant entries. -/
theorem emit_keeps_store (e : Event) : Moves (Step.keeps World.store) (emit e) := fun _ => rfl
/-- INTERNAL: drawing a random string keeps the grant entries. -/
theorem randomString_keeps_store (length : ℕ) (pool : List Char) :
    Moves (Step.keeps World.store) (randomString length pool) := fun _ => rfl

/-- INTERNAL: reading an access method changes nothing. -/
theorem getAccess_same (l : Level) (ac : String) : Moves Step.same (getAccess l ac) := by
  intro w; unfold getAccess; split <;> rfl
/-- INTERNAL: reading a grant changes nothing. -/
theorem getGrant_same (k : GrantKey) : Moves Step.same (getGrant k) := by
  intro w; unfold getGrant; split <;> rfl
/-- INTERNAL: reading a partition changes nothing. -/
theorem allGrants_same (l : Level) (ac : String) : Moves Step.same (allGrants l ac) :=
  fun _ => rfl

/-- INTERNAL: a grant read is the entry under its key, with the world unchanged. -/
theorem getGrant_ok {k : GrantKey} {w w' : World} {g : AccessGrant}
    (h : getGrant k w = (.ok g, w')) : w.store.get k = some g ∧ w' = w := by
  unfold getGrant at h
  split at h
  · cases h; exact ⟨‹_›, rfl⟩
  · cases h

/-- INTERNAL: ensuring a namespace keeps the grant entries. -/
theorem getOrAddNs_keeps_store (ns : String) (strict : Bool) :
    Moves (Step.keeps World.store) (getOrAddNs ns strict) := by
  intro w; unfold getOrAddNs; split_ifs <;> rfl
/-- INTERNAL: ensuring a database keeps the grant entries. -/
theorem getOrAddDb_keeps_store (ns db : String) (strict : Bool) :
    Moves (Step.keeps World.store) (getOrAddDb ns db strict) := by
  intro w; unfold getOrAddDb; split_ifs <;> rfl
/-- INTERNAL: ensuring a level keeps the grant entries. -/
theorem ensureLevel_keeps_store (l : Level) (strict : Bool) :
    Moves (Step.keeps World.store) (ensureLevel l strict) := by
  cases l with
  | root => exact Moves.pure ()
  | ns ns => exact getOrAddNs_keeps_store ns strict
  | db ns db => exact Moves.bind (getOrAddNs_keeps_store ns strict) fun _ =>
      getOrAddDb_keeps_store ns db strict

/-- INTERNAL: reading the clock never fails. -/
theorem now_errs : Errs E now := fun _ _ _ h => nomatch h
/-- INTERNAL: emitting an event never fails. -/
theorem emit_errs (ev : Event) : Errs E (emit ev) := fun _ _ _ h => nomatch h
/-- INTERNAL: drawing a random string never fails. -/
theorem randomString_errs (length : ℕ) (pool : List Char) : Errs E (randomString length pool) :=
  fun _ _ _ h => nomatch h
/-- INTERNAL: setting an entry never fails. -/
theorem setEntry_errs (k : GrantKey) (v : AccessGrant) : Errs E (setEntry k v) :=
  fun _ _ _ h => nomatch h
/-- INTERNAL: removing an entry never fails. -/
theorem delEntry_errs (k : GrantKey) : Errs E (delEntry k) := fun _ _ _ h => nomatch h
/-- INTERNAL: the store's answer to a write fails only with the store's own error. -/
theorem storeWrite_errs (hE : ∀ msg, E (.tx msg)) : Errs E storeWrite := by
  intro w e w' h; unfold storeWrite at h; split at h <;> cases h; exact hE _
/-- INTERNAL: a store write fails only with the store's own error. -/
theorem set_errs (k : GrantKey) (v : AccessGrant) (hE : ∀ msg, E (.tx msg)) : Errs E (set k v) :=
  Errs.bind (storeWrite_errs hE) fun _ => setEntry_errs k v
/-- INTERNAL: a store delete fails only with the store's own error. -/
theorem del_errs (k : GrantKey) (hE : ∀ msg, E (.tx msg)) : Errs E (del k) :=
  Errs.bind (storeWrite_errs hE) fun _ => delEntry_errs k
/-- INTERNAL: reading a partition never fails. -/
theorem allGrants_errs (l : Level) (ac : String) : Errs E (allGrants l ac) :=
  fun _ _ _ h => nomatch h

/-- INTERNAL: reading a grant fails only when it does not exist. -/
theorem getGrant_errs {k : GrantKey} (hE : E (.grantNotFound k.level k.ac k.gr)) :
    Errs E (getGrant k) := by
  intro w e w' h; unfold getGrant at h; split at h <;> cases h; exact hE
/-- INTERNAL: ensuring a namespace fails only when it does not exist. -/
theorem getOrAddNs_errs {ns : String} {strict : Bool} (hE : E (.nsNotFound ns)) :
    Errs E (getOrAddNs ns strict) := by
  intro w e w' h; unfold getOrAddNs at h; split_ifs at h <;> cases h; exact hE
/-- INTERNAL: ensuring a database fails only when it does not exist. -/
theorem getOrAddDb_errs {ns db : String} {strict : Bool} (hE : E (.dbNotFound ns db)) :
    Errs E (getOrAddDb ns db strict) := by
  intro w e w' h; unfold getOrAddDb at h; split_ifs at h <;> cases h; exact hE
/-- INTERNAL: ensuring a level fails only when its namespace or database does not exist. -/
theorem ensureLevel_errs {l : Level} {strict : Bool} (hns : ∀ ns, E (.nsNotFound ns))
    (hdb : ∀ ns db, E (.dbNotFound ns db)) : Errs E (ensureLevel l strict) := by
  cases l with
  | root => exact Errs.pure ()
  | ns ns => exact getOrAddNs_errs (hns ns)
  | db ns db => exact Errs.bind (getOrAddNs_errs (hns ns)) fun _ => getOrAddDb_errs (hdb ns db)

/-- A failed `set` failed at the store's answer, before its write. -/
theorem set_onError (k : GrantKey) (v : AccessGrant) : OnError (Step.keeps World.store) (set k v) :=
  OnError.bind_safe storeWrite_keeps_store.onError fun _ => setEntry_errs k v

/-- A failed `del` failed at the store's answer, before its write. -/
theorem del_onError (k : GrantKey) : OnError (Step.keeps World.store) (del k) :=
  OnError.bind_safe storeWrite_keeps_store.onError fun _ => delEntry_errs k

end Frames

/-- The store took the write: nothing else changed but the writes asked. -/
theorem storeWrite_ok {w w' : World} {u : Unit} (h : storeWrite w = (.ok u, w')) :
    w.faults w.writes = none ∧ w' = { w with writes := w.writes + 1 } := by
  unfold storeWrite at h
  split at h
  · exact ⟨‹_›, (Prod.mk.inj h).2.symm⟩
  · cases h

/-- The store failed the write with its own error, and nothing else changed but the writes
asked. -/
theorem storeWrite_error {w w' : World} {e : Error} (h : storeWrite w = (.error e, w')) :
    ∃ msg, w.faults w.writes = some msg ∧ e = .tx msg ∧ w' = { w with writes := w.writes + 1 } := by
  unfold storeWrite at h
  split at h
  · cases h
  · cases h; exact ⟨_, ‹_›, rfl, rfl⟩

/-- A successful `set` wrote its entry. -/
theorem set_ok {k : GrantKey} {v : AccessGrant} {w w' : World} {u : Unit}
    (h : set k v w = (.ok u, w')) :
    w.faults w.writes = none ∧ w' = { w with store := w.store.set k v, writes := w.writes + 1 } := by
  obtain ⟨_, w₁, h₁, h₂⟩ := bind_eq_ok h
  obtain ⟨hf, rfl⟩ := storeWrite_ok h₁
  cases h₂
  exact ⟨hf, rfl⟩

/-- A successful `put` found the key absent and inserted its entry. -/
theorem put_ok {k : GrantKey} {v : AccessGrant} {w w' : World} {u : Unit}
    (h : put k v w = (.ok u, w')) :
    w.store.get k = none ∧ w' = { w with store := w.store.set k v, writes := w.writes + 1 } := by
  obtain ⟨_, w₁, h₁, h₂⟩ := bind_eq_ok h
  obtain ⟨-, rfl⟩ := storeWrite_ok h₁
  unfold insertEntry at h₂
  split at h₂
  · cases h₂
  · cases h₂; exact ⟨‹_›, rfl⟩

/-- A failed `put` was refused by the store or found the key present, and wrote nothing. -/
theorem put_error {k : GrantKey} {v : AccessGrant} {w w' : World} {e : Error}
    (h : put k v w = (.error e, w')) :
    (e = .txKeyAlreadyExists ∨ ∃ msg, e = .tx msg) ∧ w'.store = w.store := by
  rcases bind_eq_error h with h | ⟨_, w₁, h₁, h₂⟩
  · obtain ⟨msg, -, rfl, rfl⟩ := storeWrite_error h
    exact ⟨.inr ⟨msg, rfl⟩, rfl⟩
  · obtain ⟨-, rfl⟩ := storeWrite_ok h₁
    unfold insertEntry at h₂
    split at h₂
    · cases h₂; exact ⟨.inl rfl, rfl⟩
    · cases h₂

/-- A successful `del` deleted its entry. -/
theorem del_ok {k : GrantKey} {w w' : World} {u : Unit} (h : del k w = (.ok u, w')) :
    w.faults w.writes = none ∧ w' = { w with store := w.store.del k, writes := w.writes + 1 } := by
  obtain ⟨_, w₁, h₁, h₂⟩ := bind_eq_ok h
  obtain ⟨hf, rfl⟩ := storeWrite_ok h₁
  cases h₂
  exact ⟨hf, rfl⟩

/-- INTERNAL: a passed user read found the user, with the world unchanged. -/
theorem getUser_ok {l : Level} {name : String} {w w' : World} {u : Unit}
    (h : getUser l name w = (.ok u, w')) : (l, name) ∈ w.catalog.users ∧ w' = w := by
  unfold getUser at h
  split_ifs at h with hu
  · exact ⟨hu, (Prod.mk.inj h).2.symm⟩
  · cases h

/-- INTERNAL: reading a user leaves the world as it was. -/
theorem getUser_world (l : Level) (name : String) (w : World) : (getUser l name w).2 = w := by
  unfold getUser; split_ifs <;> rfl

/-- `get_or_add_ns` changes the catalog only. -/
theorem getOrAddNs_world (ns : String) (strict : Bool) (w : World) :
    ∃ c, (getOrAddNs ns strict w).2 = { w with catalog := c } := by
  unfold getOrAddNs; split_ifs <;> exact ⟨_, rfl⟩

/-- `get_or_add_db` changes the catalog only. -/
theorem getOrAddDb_world (ns db : String) (strict : Bool) (w : World) :
    ∃ c, (getOrAddDb ns db strict w).2 = { w with catalog := c } := by
  unfold getOrAddDb; split_ifs <;> exact ⟨_, rfl⟩

/-- Ensuring a level's ancestors changes the catalog only. -/
theorem ensureLevel_world (l : Level) (strict : Bool) (w : World) :
    ∃ c, (ensureLevel l strict w).2 = { w with catalog := c } := by
  cases l with
  | root => exact ⟨w.catalog, rfl⟩
  | ns ns => exact getOrAddNs_world ns strict w
  | db ns db =>
    obtain ⟨c, hc⟩ := getOrAddNs_world ns strict w
    simp only [ensureLevel, bind_apply]
    rcases h : getOrAddNs ns strict w with ⟨_ | _, w₁⟩
    · exact ⟨c, by rw [← hc, h]⟩
    · obtain ⟨c', hc'⟩ := getOrAddDb_world ns db strict w₁
      rw [h] at hc
      subst hc
      exact ⟨c', hc'⟩

end AccessGrants

import AccessGrants.Analysis.Frame
import AccessGrants.Analysis.KeyRecord

/-!
# What a failed statement leaves

Every write of `access.rs` is returned with `?`, so the store can fail a statement after
some of its writes; the source leaves undoing them to the transaction being cancelled. What
a failed statement leaves is a prefix of what it writes when it succeeds:

* Create, Show and Revoke by id write nothing: each has at most one write, and fails before
  it or at it (`createGrant_onError`, `computeShow_keeps_store`);
* a bulk Revoke has written back the first `n` of the revocations a success writes, each
  under its grant's own id (`collect_revokeOne_error`), whether the predicate, the
  ancestors of the level or the store failed;
* a Purge has deleted the first `n` of the deletions a success makes
  (`collect_purgeOne_error`), the store having failed the next one.
-/

set_option autoImplicit false

namespace AccessGrants.Analysis

open AccessGrants Txn

/-! ## The loops -/

section Loop

variable {opt : Options} {b : Base} {l : Level}

/-- INTERNAL: a failed iteration of the bulk revoke has written nothing.
SOURCE: access.rs:738-806 -/
theorem revokeOne_onError (stmt : AccessStatementRevoke) (gr : AccessGrant) :
    OnError (Step.keeps World.store) (revokeOne stmt opt b gr) := by
  unfold revokeOne
  split
  · exact (Moves.pure _).onError
  · refine OnError.bind (matchesCond_keeps_store _ _) fun keep => ?_
    cases keep
    · exact (Moves.pure _).onError
    · exact OnError.bind_safe (revokeAs_onError _ _ _ _ _) fun _ => Errs.pure _

/-- INTERNAL: a failed iteration of the purge has written nothing.
SOURCE: access.rs:874-920 -/
theorem purgeOne_onError (stmt : AccessStatementPurge) (gr : AccessGrant) :
    OnError (Step.keeps World.store) (purgeOne stmt opt b gr) :=
  OnError.bind now_keeps_store fun _ => by
    split
    · exact OnError.bind (Moves.lift _) fun _ => OnError.bind_safe (del_onError _) fun _ =>
        Errs.bind (emit_errs _) fun _ => Errs.pure _
    · exact (Moves.pure _).onError

/-- INTERNAL: **a failed bulk revoke loop has written a prefix of its revocations**: the
first `n` of `revokeScan`'s, each under its grant's own id at the partition `l`.
SOURCE: access.rs:738-806 -/
theorem collect_revokeOne_error (stmt : AccessStatementRevoke) (hl : opt.level b = .ok l) :
    ∀ (es : List (GrantKey × AccessGrant)) {w w' : World} {e : Error},
      collect (revokeOne stmt opt b) (es.map Prod.snd) w = (.error e, w') →
      ∃ n, w'.store = ((revokeScan (passes stmt.cond) w.clock w.ticks es).take n).foldl
        (fun s e => s.set ⟨l, stmt.ac, e.2.id⟩ e.2) w.store
  | [], _, _, _, h => by cases h
  | (k, g) :: es, w, w', e, h => by
    rcases bind_eq_error h with h₁ | ⟨r, w₁, h₁, h₂⟩
    · exact ⟨0, revokeOne_onError stmt g w _ _ h₁⟩
    rcases bind_eq_error h₂ with h₃ | ⟨_, _, _, h₃⟩
    · obtain ⟨n, hn⟩ := collect_revokeOne_error stmt hl es h₃
      obtain ⟨hc, hsel⟩ := revokeOne_ok hl h₁
      rw [hc] at hn
      by_cases hp : (g.revocation.isNone && passes stmt.cond g) = true
      · obtain ⟨-, hs, ht⟩ := (if_pos hp).symm ▸ hsel
        exact ⟨n + 1, by rw [hn, hs, ht]; simp only [revokeScan, hp, if_true, List.take_succ_cons,
          List.foldl_cons]⟩
      · obtain ⟨-, hs, ht⟩ := (if_neg hp).symm ▸ hsel
        exact ⟨n, by rw [hn, hs, ht]; simp only [revokeScan, hp, Bool.false_eq_true, if_false]⟩
    · cases h₃

/-- INTERNAL: **a failed purge loop has deleted a prefix of its deletions**: the first `n`
of `purgeScan`'s entries, each under its grant's own id at the partition `l`.
SOURCE: access.rs:874-922 -/
theorem collect_purgeOne_error (stmt : AccessStatementPurge) (hl : opt.level b = .ok l) :
    ∀ (es : List (GrantKey × AccessGrant)) {w w' : World} {e : Error},
      collect (purgeOne stmt opt b) (es.map Prod.snd) w = (.error e, w') →
      ∃ n, w'.store = (((purgeScan (purgeDue stmt) w.clock w.ticks es).take n).map
        fun e => (⟨l, stmt.ac, e.2.id⟩ : GrantKey)).foldl (fun s k => s.del k) w.store
  | [], _, _, _, h => by cases h
  | (k, g) :: es, w, w', e, h => by
    rcases bind_eq_error h with h₁ | ⟨r, w₁, h₁, h₂⟩
    · exact ⟨0, purgeOne_onError stmt g w _ _ h₁⟩
    rcases bind_eq_error h₂ with h₃ | ⟨_, _, _, h₃⟩
    · obtain ⟨n, hn⟩ := collect_purgeOne_error stmt hl es h₃
      obtain ⟨hc, ht, hsel⟩ := purgeOne_ok hl h₁
      rw [hc, ht] at hn
      by_cases hd : purgeDue stmt g (w.clock w.ticks) = true
      · obtain ⟨-, hs⟩ := (if_pos hd).symm ▸ hsel
        exact ⟨n + 1, by rw [hn, hs]; simp only [purgeScan, hd, if_true, List.take_succ_cons,
          List.map_cons, List.foldl_cons]⟩
      · obtain ⟨-, hs⟩ := (if_neg hd).symm ▸ hsel
        exact ⟨n, by rw [hn, hs]; simp only [purgeScan, hd, Bool.false_eq_true, if_false]⟩
    · cases h₃

end Loop

/-! ## Each statement -/

/-- INTERNAL: **a failed Revoke has written nothing, or is a bulk Revoke that wrote back a
prefix of its revocations.**
SOURCE: access.rs:636-814 -/
theorem revokeGrant_error {stmt : AccessStatementRevoke} {opt : Options} {w w' : World} {e : Error}
    (hfail : revokeGrant stmt opt w = (.error e, w')) :
    w'.store = w.store ∨ stmt.gr = none ∧ ∃ b l n, effectiveBase stmt.base opt = .ok b ∧
      opt.level b = .ok l ∧
      w'.store = ((revokeScan (passes stmt.cond) w.clock w.ticks (w.store.part l stmt.ac)).take n).foldl
        (fun s e => s.set ⟨l, stmt.ac, e.2.id⟩ e.2) w.store := by
  rcases bind_eq_error hfail with h | ⟨⟨b, _⟩, w₁, h₁, h⟩
  · exact .inl (by rw [openAccess_error h])
  obtain ⟨rfl, hb, -⟩ := openAccess_ok h₁
  cases hgr : stmt.gr with
  | some gr =>
    simp only [hgr] at h
    exact .inl ((OnError.bind (Moves.lift _) fun _ =>
      OnError.bind (Moves.of_same (getGrant_same _)) fun _ => OnError.bind (Moves.ensure _ _)
        fun _ => OnError.bind_safe (revokeAs_onError _ _ _ _ _) fun _ => Errs.pure _) _ _ _ h)
  | none =>
    simp only [hgr] at h
    rcases bind_eq_error h with h₂ | ⟨l, w₂, h₂, h₃⟩
    · exact .inl (by rw [(lift_error h₂).2])
    obtain ⟨hl, rfl⟩ := lift_ok h₂
    rcases bind_eq_error h₃ with h₄ | ⟨_, w₃, h₄, h₅⟩
    · cases h₄
    cases h₄
    rcases bind_eq_error h₅ with h₆ | ⟨_, _, _, h₆⟩
    · obtain ⟨n, hn⟩ := collect_revokeOne_error stmt hl _ h₆
      exact .inr ⟨rfl, b, l, n, hb, hl, hn⟩
    · cases h₆

/-- INTERNAL: **a failed Purge has written nothing, or deleted a prefix of its deletions.**
SOURCE: access.rs:827-923 -/
theorem computePurge_error {stmt : AccessStatementPurge} {opt : Options} {w w' : World}
    {e : Error} (hfail : computePurge stmt opt w = (.error e, w')) :
    w'.store = w.store ∨ ∃ b l n, effectiveBase stmt.base opt = .ok b ∧ opt.level b = .ok l ∧
      w'.store = (((purgeScan (purgeDue stmt) w.clock w.ticks (w.store.part l stmt.ac)).take n).map
        fun e => (⟨l, stmt.ac, e.2.id⟩ : GrantKey)).foldl (fun s k => s.del k) w.store := by
  rcases bind_eq_error hfail with h | ⟨⟨b, _⟩, w₁, h₁, h⟩
  · exact .inl (by rw [openAccess_error h])
  obtain ⟨rfl, hb, -⟩ := openAccess_ok h₁
  rcases bind_eq_error h with h₂ | ⟨l, w₂, h₂, h₃⟩
  · exact .inl (by rw [(lift_error h₂).2])
  obtain ⟨hl, rfl⟩ := lift_ok h₂
  rcases bind_eq_error h₃ with h₄ | ⟨_, w₃, h₄, h₅⟩
  · cases h₄
  cases h₄
  rcases bind_eq_error h₅ with h₆ | ⟨_, _, _, h₆⟩
  · obtain ⟨n, hn⟩ := collect_purgeOne_error stmt hl _ h₆
    exact .inr ⟨b, l, n, hb, hl, hn⟩
  · cases h₆

/-- **A failed statement has written a prefix of what a success writes.** Create, Show and
Revoke by id leave the grant entries as they were; a bulk Revoke has written back the first
`n` of the revocations a success writes (those of `revokeScan` over the partition of its
effective base), each under the key built from its own grant id; a Purge has deleted the
first `n` of the keys a success deletes (those of `purgeScan`'s entries). -/
theorem failed_statement_writes_prefix (digest : String → String) (stmt : AccessStatement)
    (opt : Options) (w : World) (e : Error) (w' : World)
    (h : stmt.compute digest opt w = (.error e, w')) :
    w'.store = w.store ∨
    (∃ s b l n, stmt = .revoke s ∧ s.gr = none ∧ effectiveBase s.base opt = .ok b ∧
      opt.level b = .ok l ∧
      w'.store = ((revokeScan (passes s.cond) w.clock w.ticks (w.store.part l s.ac)).take n).foldl
        (fun st e => st.set ⟨l, s.ac, e.2.id⟩ e.2) w.store) ∨
    ∃ s b l n, stmt = .purge s ∧ effectiveBase s.base opt = .ok b ∧ opt.level b = .ok l ∧
      w'.store = (((purgeScan (purgeDue s) w.clock w.ticks (w.store.part l s.ac)).take n).map
        fun e => (⟨l, s.ac, e.2.id⟩ : GrantKey)).foldl (fun st k => st.del k) w.store := by
  cases stmt with
  | grant s =>
    rcases bind_eq_error h with h | ⟨_, _, _, h⟩
    · exact .inl (createGrant_onError _ _ _ h)
    · cases h
  | show' s => exact .inl ((computeShow_keeps_store s opt).rel h)
  | revoke s =>
    rcases bind_eq_error h with h | ⟨_, _, _, h⟩
    · exact (revokeGrant_error h).imp_right fun ⟨hgr, b, l, n, hb, hl, hs⟩ =>
        .inl ⟨s, b, l, n, rfl, hgr, hb, hl, hs⟩
    · cases h
  | purge s =>
    exact (computePurge_error h).imp_right fun ⟨b, l, n, hb, hl, hs⟩ =>
      .inr ⟨s, b, l, n, rfl, hb, hl, hs⟩

/-- A grant of method `a` at the root with key id `id`, revoked at the clock's origin. -/
def revokedGrant (id : String) : AccessGrant :=
  { id := id, ac := "a", creation := ⟨0⟩, expiration := none, revocation := some ⟨0⟩,
    subject := .user "u", grant := .bearer ⟨id, "h"⟩ }

/-- The store holding `revokedGrant "x"` and `revokedGrant "y"`, each under its own id, with
the clock at 10 s and a store that fails the second write. -/
def busyWorld : World :=
  { store := ⟨[(⟨.root, "a", "x"⟩, revokedGrant "x"), (⟨.root, "a", "y"⟩, revokedGrant "y")],
      by decide⟩
    catalog := methodCatalog
    clock := fun _ => ⟨10000000000⟩, ticks := 0, rng := fun _ => 0, draws := 0,
    faults := fun n => if n = 1 then some "busy" else none, writes := 0, events := [] }

/-- On `busyWorld` the purge of revoked grants deletes `x`, then the store fails its delete
of `y`: the purge fails having deleted the first of the two keys it selected. -/
theorem purge_fails_after_first_delete :
    ((AccessStatement.purge purgeRevoked).compute id rootSession busyWorld).1 = .error (.tx "busy") ∧
    ((AccessStatement.purge purgeRevoked).compute id rootSession busyWorld).2.store.get
      ⟨.root, "a", "x"⟩ = none ∧
    ((AccessStatement.purge purgeRevoked).compute id rootSession busyWorld).2.store.get
      ⟨.root, "a", "y"⟩ = some (revokedGrant "y") ∧
    (((AccessStatement.purge purgeRevoked).compute id rootSession busyWorld).2.store =
        busyWorld.store ∨
      (∃ s b l n, AccessStatement.purge purgeRevoked = .revoke s ∧ s.gr = none ∧
        effectiveBase s.base rootSession = .ok b ∧ rootSession.level b = .ok l ∧
        ((AccessStatement.purge purgeRevoked).compute id rootSession busyWorld).2.store =
          ((revokeScan (passes s.cond) busyWorld.clock busyWorld.ticks
            (busyWorld.store.part l s.ac)).take n).foldl
              (fun st e => st.set ⟨l, s.ac, e.2.id⟩ e.2) busyWorld.store) ∨
      ∃ s b l n, AccessStatement.purge purgeRevoked = .purge s ∧
        effectiveBase s.base rootSession = .ok b ∧ rootSession.level b = .ok l ∧
        ((AccessStatement.purge purgeRevoked).compute id rootSession busyWorld).2.store =
          (((purgeScan (purgeDue s) busyWorld.clock busyWorld.ticks
            (busyWorld.store.part l s.ac)).take n).map
              fun e => (⟨l, s.ac, e.2.id⟩ : GrantKey)).foldl (fun st k => st.del k) busyWorld.store) :=
  have h : (AccessStatement.purge purgeRevoked).compute id rootSession busyWorld =
      (.error (.tx "busy"), ((AccessStatement.purge purgeRevoked).compute id rootSession busyWorld).2) :=
    Prod.ext rfl rfl
  ⟨congrArg Prod.fst h, by decide, by decide,
    failed_statement_writes_prefix id _ rootSession busyWorld _ _ h⟩

end AccessGrants.Analysis

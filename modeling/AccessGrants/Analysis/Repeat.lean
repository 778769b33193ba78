import AccessGrants.Analysis.Failure
import AccessGrants.Analysis.Revoke

/-!
# Repeating a bulk Revoke

A bulk Revoke without a predicate (`ACCESS a REVOKE ALL`) leaves every grant of its
partition revoked: each grant it scanned unrevoked it revoked, and every other grant there
was revoked already (`revoked_after_revoke_all`). Run again, from any reachable world, it
therefore selects nothing: it revokes no grant, writes nothing and returns an empty array,
whatever its outcome (`revoke_all_idempotent`).
-/

set_option autoImplicit false

namespace AccessGrants.Analysis

open AccessGrants Txn

/-! ## Lookups and scans -/

/-- INTERNAL: **a grant a lookup finds is an entry** of the list.
SOURCE: access.rs:671-680 -/
theorem mem_of_lookup_eq_some {k : GrantKey} {g : AccessGrant} :
    ∀ {es : List (GrantKey × AccessGrant)}, lookup k es = some g → (k, g) ∈ es
  | [], h => by cases h
  | e :: es, h => by
    unfold lookup at h
    split_ifs at h with he
    · cases h; exact he ▸ List.mem_cons_self _ _
    · exact List.mem_cons_of_mem _ (mem_of_lookup_eq_some h)

/-- INTERNAL: **a lookup of an entry's key finds a grant.**
SOURCE: access.rs:671-680 -/
theorem lookup_ne_none_of_mem {k : GrantKey} {g : AccessGrant} :
    ∀ {es : List (GrantKey × AccessGrant)}, (k, g) ∈ es → lookup k es ≠ none
  | e :: es, h => by
    unfold lookup
    split_ifs with he
    · exact Option.some_ne_none _
    · rcases List.mem_cons.1 h with rfl | h
      · exact absurd rfl he
      · exact lookup_ne_none_of_mem h

/-- INTERNAL: **a stored grant is in the partition of its key.**
SOURCE: access.rs:724-738 -/
theorem Store.mem_part_of_get {s : Store} {k : GrantKey} {g : AccessGrant} {l : Level}
    {ac : String} (h : s.get k = some g) (hl : k.level = l) (hac : k.ac = ac) :
    (k, g) ∈ s.part l ac :=
  List.mem_filter.2 ⟨mem_of_lookup_eq_some h, by simp [hl, hac]⟩

variable {keep : AccessGrant → Bool} {clock : ℕ → Datetime}

/-- INTERNAL: **the bulk revoke's scan revokes every unrevoked grant that passes.**
SOURCE: access.rs:739-806 -/
theorem mem_revokeScan_of {k : GrantKey} {g : AccessGrant} (hr : g.revocation = none)
    (hk : keep g = true) :
    ∀ (i : ℕ) {es : List (GrantKey × AccessGrant)}, (k, g) ∈ es →
      ∃ t, (k, { g with revocation := some t }) ∈ revokeScan keep clock i es
  | i, (k', g') :: es, h => by
    unfold revokeScan
    rcases List.mem_cons.1 h with h | h
    · cases h
      simp only [hr, Option.isNone_none, hk, Bool.and_self, if_true]
      exact ⟨_, List.mem_cons_self _ _⟩
    · obtain ⟨t, ht⟩ := mem_revokeScan_of hr hk i h
      obtain ⟨t', ht'⟩ := mem_revokeScan_of hr hk (i + 1) h
      split_ifs
      · exact ⟨t', List.mem_cons_of_mem _ ht'⟩
      · exact ⟨t, ht⟩

/-- INTERNAL: **the scan of revoked grants selects nothing.**
SOURCE: access.rs:739-745 -/
theorem revokeScan_eq_nil :
    ∀ {i : ℕ} {es : List (GrantKey × AccessGrant)}, (∀ e ∈ es, e.2.revocation ≠ none) →
      revokeScan keep clock i es = []
  | _, [], _ => rfl
  | i, (k, g) :: es, h => by
    have hg : g.revocation.isNone = false := Bool.eq_false_iff.2 fun h' =>
      h _ (List.mem_cons_self _ _) (Option.isNone_iff_eq_none.1 h')
    simp only [revokeScan, hg, Bool.false_and, Bool.false_eq_true, if_false]
    exact revokeScan_eq_nil fun e he => h e (List.mem_cons_of_mem _ he)

/-! ## Revoke all, twice -/

/-- INTERNAL: **after a bulk Revoke without a predicate every grant of its partition is
revoked**: a grant the scan revoked holds its revocation, and any other grant was stored
revoked already, or the scan would have revoked it.
SOURCE: access.rs:724-813 -/
theorem revoked_after_revoke_all {stmt : AccessStatementRevoke} {opt : Options} {w w₁ : World}
    {v : Value} (hI : KeyRecord w.store) (hgr : stmt.gr = none) (hc : stmt.cond = none)
    (h : revokeGrant stmt opt w = (.ok v, w₁)) :
    ∃ b l, effectiveBase stmt.base opt = .ok b ∧ opt.level b = .ok l ∧
      ∀ e ∈ w₁.store.part l stmt.ac, e.2.revocation ≠ none := by
  obtain ⟨b, l, hb, -, hl, -, hst⟩ := revokeGrant_bulk hgr h
  refine ⟨b, l, hb, hl, fun e he hnone => ?_⟩
  have hget := Store.get_of_mem_part he
  obtain ⟨hlev, hac⟩ := Store.key_of_mem_part he
  rw [hst, get_foldl_revokeScan _ _ _ _ hI.gr_eq_id] at hget
  cases hlk : lookup e.1 (revokeScan (passes stmt.cond) w.clock w.ticks (w.store.part l stmt.ac))
    with
  | some g' =>
    rw [hlk] at hget
    obtain rfl : g' = e.2 := Option.some.inj hget
    obtain ⟨g, t, -, -, -, he2⟩ := mem_revokeScan (mem_of_lookup_eq_some hlk)
    rw [he2] at hnone
    cases hnone
  | none =>
    rw [hlk, Option.none_or] at hget
    obtain ⟨t, ht⟩ := @mem_revokeScan_of (passes stmt.cond) w.clock _ _ hnone
      (by simp [passes, condOn, hc]) w.ticks _ (Store.mem_part_of_get hget hlev hac)
    exact lookup_ne_none_of_mem ht hlk

/-- **A bulk Revoke without a predicate is idempotent**: from any reachable world, after one
`REVOKE ALL` of an access method succeeds, every grant of the partition of its effective base
and method is revoked; the same statement run again, with the same session, writes no grant
entry, and if it succeeds it revokes nothing and returns an empty array. -/
theorem revoke_all_idempotent (digest : String → String) {w : World} (hw : Reachable digest w)
    (s : AccessStatementRevoke) (opt : Options) (hgr : s.gr = none) (hc : s.cond = none)
    {v : Value} {w₁ : World} (h : (AccessStatement.revoke s).compute digest opt w = (.ok v, w₁)) :
    (∃ b l, effectiveBase s.base opt = .ok b ∧ opt.level b = .ok l ∧
      ∀ e ∈ w₁.store.part l s.ac, e.2.revocation ≠ none) ∧
    ((AccessStatement.revoke s).compute digest opt w₁).2.store = w₁.store ∧
      ∀ v', ((AccessStatement.revoke s).compute digest opt w₁).1 = .ok v' → v' = .array [] := by
  obtain ⟨r, w₁', h₁, h₂⟩ := bind_eq_ok h
  cases h₂
  obtain ⟨b, l, hb, hl, hall⟩ := revoked_after_revoke_all (keyRecord_of_reachable hw) hgr hc h₁
  refine ⟨⟨b, l, hb, hl, hall⟩, ?_⟩
  show ((revokeGrant s opt >>= _) w₁).2.store = w₁.store ∧ ∀ v', ((revokeGrant s opt >>= _) w₁).1 = _ → _
  rcases h₂ : revokeGrant s opt w₁ with ⟨_ | r', w₂⟩
  · rw [bind_of_error h₂]
    refine ⟨?_, fun _ h => by cases h⟩
    rcases revokeGrant_error h₂ with hs | ⟨-, b', l', n, hb', hl', hs⟩
    · exact hs
    · obtain rfl : b' = b := Except.ok.inj (hb'.symm.trans hb)
      obtain rfl : l' = l := Except.ok.inj (hl'.symm.trans hl)
      rw [hs, revokeScan_eq_nil hall, List.take_nil, List.foldl_nil]
  · obtain ⟨b', l', hb', -, hl', rfl, hst⟩ := revokeGrant_bulk hgr h₂
    obtain rfl : b' = b := Except.ok.inj (hb'.symm.trans hb)
    obtain rfl : l' = l := Except.ok.inj (hl'.symm.trans hl)
    rw [revokeScan_eq_nil hall] at hst
    rw [bind_of_ok h₂, revokeScan_eq_nil hall]
    exact ⟨hst, fun _ h => (Except.ok.inj h).symm⟩

/-- From `grantedWorld`, one `REVOKE ALL` revokes the grant the Create stored, and a second
one writes nothing and returns no grant. -/
theorem revoke_all_twice_after_grant :
    (∃ b l, effectiveBase revokeAllA.base rootSession = .ok b ∧ rootSession.level b = .ok l ∧
      ∀ e ∈ revokedWorld.store.part l revokeAllA.ac, e.2.revocation ≠ none) ∧
    ((AccessStatement.revoke revokeAllA).compute id rootSession revokedWorld).2.store =
      revokedWorld.store ∧
    ∀ v', ((AccessStatement.revoke revokeAllA).compute id rootSession revokedWorld).1 = .ok v' →
      v' = .array [] :=
  revoke_all_idempotent id reachable_grantedWorld revokeAllA rootSession rfl rfl (Prod.ext rfl rfl)

/-- The first `REVOKE ALL` there did revoke the grant the Create stored. -/
example : revokedWorld.store.entries.map (·.2.revocation.isSome) = [true] := by decide

end AccessGrants.Analysis

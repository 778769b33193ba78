import AccessGrants.Analysis.Loops

/-!
# The contract of `revoke_grant`

With a grant id (access.rs:670-723) `revoke_grant` reads that one entry, refuses it with
`AccessGrantRevoked` if it is already revoked, and otherwise overwrites it in place with
its revocation time set to the next clock reading; a failure of this path writes nothing.

Without one (access.rs:724-806) it scans the access method's entries at the partition and
revokes, in scan order, each one not yet revoked whose redacted form satisfies the
predicate, at consecutive clock readings: the result is `revokeScan`'s list. Each revoked
grant is written back under the key built from its own id, not under the key it was
scanned at; where every scanned entry sits under its own grant id (as in every store the
statements build), those are the same keys, and the store then differs only in the
revoked entries' revocation times. A store holding a grant under another id shows the
difference: the scanned entry stays unrevoked and a revoked copy appears under the
grant's id.
-/

set_option autoImplicit false

namespace AccessGrants.Analysis

open AccessGrants Txn

section Single

variable {stmt : AccessStatementRevoke} {opt : Options} {w : World} {gr : String} {b : Base}
  {ac : DefineAccess} {l : Level} {g : AccessGrant}

/-- INTERNAL: **the single-id path at an existing entry** is the revocation check followed
by `revokeAs` under the statement's id.
SOURCE: access.rs:670-723 -/
theorem revokeGrant_single (hgr : stmt.gr = some gr)
    (hopen : (openAccess .edit stmt.base stmt.ac opt w).1 = .ok (b, ac)) (hl : opt.level b = .ok l)
    (hg : w.store.get ⟨l, stmt.ac, gr⟩ = some g) :
    revokeGrant stmt opt w = (do
      ensure (g.revocation = none) .accessGrantRevoked
      let v ← revokeAs opt b stmt.ac gr g
      pure (Value.array [v])) w := by
  have hw : openAccess .edit stmt.base stmt.ac opt w = (.ok (b, ac), w) :=
    Prod.ext hopen (openAccess_same _ _ _ _ w)
  unfold revokeGrant
  rw [bind_of_ok hw]
  simp only [hgr, bind_apply, lift_apply, hl, getGrant, hg]

/-- INTERNAL: past the revocation check, the single-id path fails only ensuring the
ancestors of the partition or in the store, never as revoked.
SOURCE: access.rs:688-720 -/
theorem revokeTail_errs (hl : opt.level b = .ok l) :
    Errs (· ≠ .accessGrantRevoked)
      (revokeAs opt b stmt.ac gr g >>= fun v => pure (Value.array [v])) :=
  Errs.bind (revokeAs_errs (by simp [hl]) (fun _ => nofun) (fun _ _ => nofun) fun _ => nofun)
    fun _ => Errs.pure _

end Single

/-- INTERNAL: **the bulk path**: after the prologue, `revokeScan`'s revocations over the
scanned entries, each written back under its grant's own id.
SOURCE: access.rs:724-806 -/
theorem revokeGrant_bulk {stmt : AccessStatementRevoke} {opt : Options} {w w' : World} {v : Value}
    (hgr : stmt.gr = none) (h : revokeGrant stmt opt w = (.ok v, w')) :
    ∃ b l, effectiveBase stmt.base opt = .ok b ∧ opt.isAllowed .edit b = .ok () ∧
      opt.level b = .ok l ∧
      v = .array ((revokeScan (passes stmt.cond) w.clock w.ticks (w.store.part l stmt.ac)).map
        (·.2.view)) ∧
      w'.store = (revokeScan (passes stmt.cond) w.clock w.ticks (w.store.part l stmt.ac)).foldl
        (fun s e => s.set ⟨l, stmt.ac, e.2.id⟩ e.2) w.store := by
  obtain ⟨⟨b, ac⟩, w₁, h₁, h₂⟩ := bind_eq_ok h
  obtain ⟨rfl, hb, ha, -⟩ := openAccess_ok h₁
  simp only [hgr] at h₂
  obtain ⟨l, w₂, h₃, h₄⟩ := bind_eq_ok h₂
  obtain ⟨hl, rfl⟩ := lift_ok h₃
  obtain ⟨grs, w₃, h₅, h₆⟩ := bind_eq_ok h₄
  cases h₅
  obtain ⟨vs, w₄, h₇, h₈⟩ := bind_eq_ok h₆
  cases h₈
  obtain ⟨rfl, hs, -, -⟩ := collect_revokeOne stmt hl _ h₇
  exact ⟨b, l, hb, ha, hl, rfl, hs⟩

/-- INTERNAL: **written back where it was scanned**: when every scanned entry sits under its
own grant id, each revocation is written at its scanned key, so the store reads the revoked
grant there and is unchanged elsewhere.
SOURCE: access.rs:764-806 -/
theorem get_foldl_revokeScan (s : Store) {l : Level} {ac : String} (keep : AccessGrant → Bool)
    (clock : ℕ → Datetime) (i : ℕ) (hid : ∀ e ∈ s.part l ac, e.1.gr = e.2.id) (k : GrantKey) :
    ((revokeScan keep clock i (s.part l ac)).foldl (fun s e => s.set ⟨l, ac, e.2.id⟩ e.2) s).get k =
      (lookup k (revokeScan keep clock i (s.part l ac))).or (s.get k) := by
  rw [List.foldl_ext _ (fun s e => s.set e.1 e.2) _ fun s e he => ?_]
  · exact Store.get_foldl_set s (((keys_revokeScan_sublist _ _ _ _).trans
      ((List.filter_sublist _).map _)).nodup s.nodup) k
  · obtain ⟨g, t, hm, -, -, he2⟩ := mem_revokeScan he
    obtain ⟨hlev, hac⟩ := Store.key_of_mem_part hm
    have hgr : e.1.gr = g.id := hid _ hm
    rcases e with ⟨⟨_, _, _⟩, _⟩
    simp_all

/-- **The revoke contract.** With a grant id whose entry `g` exists at the base's partition
(the prologue succeeding), `revoke_grant` fails with `AccessGrantRevoked` exactly when `g`
is already revoked; every failure leaves the grant entries unchanged; and a success returns
the one redacted revoked grant and overwrites that entry, and no other, with `g` revoked at
the next clock reading. Without a grant id, a success returns, in scan order, the redacted
forms of exactly the scanned entries not yet revoked whose redacted form passes the
predicate (all of them without one), revoked at consecutive clock readings; in every store
it has written each of them back, in that order, under the key built from its own grant
id; and when every scanned entry sits under its own grant id, the store afterwards reads
those revoked entries at their keys and is unchanged elsewhere. -/
theorem revoke_grant_contract (stmt : AccessStatementRevoke) (opt : Options) (w : World) :
    (∀ gr b ac l g, stmt.gr = some gr → (openAccess .edit stmt.base stmt.ac opt w).1 = .ok (b, ac) →
      opt.level b = .ok l → w.store.get ⟨l, stmt.ac, gr⟩ = some g →
      ((revokeGrant stmt opt w).1 = .error .accessGrantRevoked ↔ g.revocation.isSome = true) ∧
      (∀ e w', revokeGrant stmt opt w = (.error e, w') → w'.store = w.store) ∧
      (∀ v w', revokeGrant stmt opt w = (.ok v, w') →
        v = .array [{ g with revocation := some (w.clock w.ticks) }.view] ∧
        ∀ k, w'.store.get k = if k = ⟨l, stmt.ac, gr⟩
          then some { g with revocation := some (w.clock w.ticks) } else w.store.get k)) ∧
    (∀ v w', stmt.gr = none → revokeGrant stmt opt w = (.ok v, w') →
      ∃ b l, effectiveBase stmt.base opt = .ok b ∧ opt.isAllowed .edit b = .ok () ∧
        opt.level b = .ok l ∧
        v = .array ((revokeScan (passes stmt.cond) w.clock w.ticks (w.store.part l stmt.ac)).map
          (·.2.view)) ∧
        w'.store = (revokeScan (passes stmt.cond) w.clock w.ticks (w.store.part l stmt.ac)).foldl
          (fun s e => s.set ⟨l, stmt.ac, e.2.id⟩ e.2) w.store ∧
        ((∀ e ∈ w.store.part l stmt.ac, e.1.gr = e.2.id) →
          ∀ k, w'.store.get k =
            (lookup k (revokeScan (passes stmt.cond) w.clock w.ticks (w.store.part l stmt.ac))).or
              (w.store.get k))) := by
  refine ⟨fun gr b ac l g hgr hopen hl hg => ?_, fun v w' hgr h => ?_⟩
  · rw [revokeGrant_single hgr hopen hl hg]
    refine ⟨?_, fun e w' h => ?_, fun v w' h => ?_⟩
    · cases hr : g.revocation with
      | some t =>
        rw [bind_of_error (show ensure (some t = none) .accessGrantRevoked w =
          (.error .accessGrantRevoked, w) by simp [ensure])]
        simp
      | none =>
        rw [bind_of_ok (show ensure (none = none) .accessGrantRevoked w = (.ok (), w) by
          simp [ensure])]
        simp only [Option.isSome_none, Bool.false_eq_true, iff_false]
        intro he
        exact revokeTail_errs hl w _ _ (Prod.ext he rfl) rfl
    · exact (OnError.bind (Moves.ensure _ _) fun _ =>
        OnError.bind_safe (revokeAs_onError _ _ _ _ _) fun _ => Errs.pure _) w e w' h
    · obtain ⟨_, w₁, h₁, h₂⟩ := bind_eq_ok h
      obtain ⟨-, rfl⟩ := ensure_ok h₁
      obtain ⟨v', w₂, h₃, h₄⟩ := bind_eq_ok h₂
      cases h₄
      obtain ⟨l', hl', rfl, hs, -, -⟩ := revokeAs_ok h₃
      obtain rfl : l' = l := Except.ok.inj (hl'.symm.trans hl)
      exact ⟨rfl, fun k => by rw [hs, Store.get_set]; simp only [eq_comm]⟩
  · obtain ⟨b, l, hb, ha, hl, hv, hs⟩ := revokeGrant_bulk hgr h
    exact ⟨b, l, hb, ha, hl, hv, hs, fun hid k => hs ▸ get_foldl_revokeScan _ _ _ _ hid k⟩

/-! ## A store holding a grant under another id -/

/-- A grant whose id `y` differs from the key id `x` it is stored under. -/
def strayGrant : AccessGrant :=
  { id := "y", ac := "a", creation := ⟨0⟩, expiration := none, revocation := none,
    subject := .user "u", grant := .bearer ⟨"y", "h"⟩ }

/-- A root-level bearer method `a`, and the store holding `strayGrant` at key id `x`. -/
def strayWorld : World :=
  { store := ⟨[(⟨.root, "a", "x"⟩, strayGrant)], List.nodup_singleton _⟩
    catalog := methodCatalog
    clock := fun _ => ⟨0⟩, ticks := 0, rng := fun _ => 0, draws := 0,
    faults := fun _ => none, writes := 0, events := [] }

/-- `ACCESS a ON ROOT REVOKE ALL`, in a session that may edit the root. -/
def strayRevoke : AccessStatementRevoke := ⟨"a", some .root, none, none⟩

/-- On `strayWorld` the bulk revoke succeeds and returns the scanned grant revoked, but the
scanned entry at `x` is left unrevoked, and the revoked grant is written under `y`. -/
theorem revoke_all_writes_under_grant_id :
    (revokeGrant strayRevoke rootSession strayWorld).1.toBool = true ∧
    (revokeGrant strayRevoke rootSession strayWorld).2.store.get ⟨.root, "a", "x"⟩ =
      some strayGrant ∧
    (revokeGrant strayRevoke rootSession strayWorld).2.store.get ⟨.root, "a", "y"⟩ =
      some { strayGrant with revocation := some ⟨0⟩ } := by
  decide

end AccessGrants.Analysis

import AccessGrants.Model.Create
import AccessGrants.Analysis.Codec
import AccessGrants.Analysis.Loops

/-!
# The contract of `create_grant`

`create_grant` (access.rs:304-523) issues a grant only through one of its two arms, and
each arm has its own checks: a record method with a bearer configuration, for a record
subject, at database level; or a bearer method for a subject of its configured kind, a
record subject at database level and a user subject existing at the level. The grant it
returns carries the bearer key `GrantBearer::new` drew (key id, and key
`{prefix}-{id}-{secret}`), the method's name, the statement's subject, the creation
reading of the clock and, only if the method has a grant duration, an expiry; it is not
revoked. Exactly one grant entry is added, after the existing ones, at the key
`(partition of the base, method, key id)` that was free before, and it holds the grant with
its key replaced by the digest.

A failed call has written no grant entry, and the record arm's `AccessLevelMismatch`
branch is never reached: its subject check refuses every base but the database first, so
that error can only come from the session's `is_allowed`.
-/

set_option autoImplicit false

namespace AccessGrants.Analysis

open AccessGrants Txn

section Create

variable {digest : String → String} {stmt : AccessStatementGrant} {opt : Options} {w w' : World}

/-- INTERNAL: **a successful `create_grant` went through the prologue and one arm**, the
record arm for a record method and the bearer arm for a bearer method.
SOURCE: access.rs:310-340 -/
theorem createGrant_ok {g : AccessGrant} (h : createGrant digest stmt opt w = (.ok g, w')) :
    ∃ b l ac, effectiveBase stmt.base opt = .ok b ∧ opt.isAllowed .edit b = .ok () ∧
      opt.level b = .ok l ∧ w.catalog.access l stmt.ac = some ac ∧
      ((∃ bearer, ac.kind = .record bearer ∧
          createRecordGrant digest stmt opt b ac bearer w = (.ok g, w')) ∨
        (∃ ba, ac.kind = .bearer ba ∧ createBearerGrant digest stmt opt b ac ba w = (.ok g, w'))) := by
  obtain ⟨⟨b, ac⟩, w₁, h₁, h₂⟩ := bind_eq_ok h
  obtain ⟨rfl, hb, ha, l, hl, hc⟩ := openAccess_ok h₁
  refine ⟨b, l, ac, hb, ha, hl, hc, ?_⟩
  dsimp only at h₂
  revert h₂
  cases ac.kind with
  | jwt => intro h₂; cases h₂
  | record bearer => exact fun h₂ => .inl ⟨bearer, rfl, h₂⟩
  | bearer ba => exact fun h₂ => .inr ⟨ba, rfl, h₂⟩

/-- INTERNAL: **a failed `create_grant` has written no grant entry**: every step before the
insert leaves the entries alone, and the insert fails without writing.
SOURCE: access.rs:395-410, 500-515 -/
theorem createGrant_onError : OnError (Step.keeps World.store) (createGrant digest stmt opt) :=
  OnError.bind (Moves.of_same (openAccess_same _ _ _ _)) fun ⟨_, ac⟩ => by
    dsimp only
    cases ac.kind with
    | jwt => exact (Moves.fail _).onError
    | record _ => exact createRecordGrant_onError
    | bearer _ => exact createBearerGrant_onError

/-- INTERNAL: **what either arm did**: its conditions at the base `b` and the partition `l`,
the grant minted with the method's key prefix, and the insert at a key that was free.
SOURCE: access.rs:335-515 -/
theorem createGrant_arm {g : AccessGrant} (h : createGrant digest stmt opt w = (.ok g, w')) :
    ∃ b l ac ba bearer w₁, effectiveBase stmt.base opt = .ok b ∧ opt.isAllowed .edit b = .ok () ∧
      opt.level b = .ok l ∧ w.catalog.access l stmt.ac = some ac ∧
      ((ac.kind = .record (some ba) ∧ (∃ t, stmt.subject = .record t) ∧ b = .db) ∨
        (ac.kind = .bearer ba ∧
          ((∃ t, stmt.subject = .record t ∧ b = .db ∧ ba.subject = .record) ∨
            (∃ name, stmt.subject = .user name ∧ ba.subject = .user ∧
              (l, name) ∈ w.catalog.users)))) ∧
      mintGrant ac stmt.subject ba.kind.pfx w = (.ok (bearer, g), w₁) ∧
      w.store.get ⟨l, g.ac, g.id⟩ = none ∧
      w'.store = w.store.set ⟨l, g.ac, g.id⟩ { g with grant := .bearer (bearer.hashed digest) } := by
  obtain ⟨b, l, ac, hb, ha, hl, hc, harm⟩ := createGrant_ok h
  rcases harm with ⟨bearer, hk, hr⟩ | ⟨ba, hk, hr⟩
  · obtain ⟨hsub, rfl, atb, bk, w₁, l', rfl, hm, hl', hget, hset⟩ := createRecordGrant_ok hr
    obtain rfl : l = l' := Except.ok.inj (hl.symm.trans hl')
    exact ⟨_, l, ac, atb, bk, w₁, hb, ha, hl, hc, .inl ⟨hk, hsub, rfl⟩, hm, hget, hset⟩
  · obtain ⟨hsub, bk, w₁, l', hm, hl', hget, hset⟩ := createBearerGrant_ok hr
    obtain rfl : l = l' := Except.ok.inj (hl.symm.trans hl')
    refine ⟨b, l, ac, ba, bk, w₁, hb, ha, hl, hc, .inr ⟨hk, hsub.imp id ?_⟩, hm, hget, hset⟩
    rintro ⟨name, l'', hs, hu, hl'', hmem⟩
    obtain rfl : l = l'' := Except.ok.inj (hl.symm.trans hl'')
    exact ⟨name, hs, hu, hmem⟩

/-- INTERNAL: **what a successful `create_grant` wrote**: one entry, at a key of its
grant's access method and id that was free, holding the unrevoked grant with its bearer key
replaced by the digest.
SOURCE: access.rs:375-410, 470-515 -/
theorem createGrant_inserts {g : AccessGrant} (h : createGrant digest stmt opt w = (.ok g, w')) :
    ∃ l bearer, w.store.get ⟨l, g.ac, g.id⟩ = none ∧
      w'.store = w.store.set ⟨l, g.ac, g.id⟩ { g with grant := .bearer (bearer.hashed digest) } ∧
      g.id = bearer.id ∧ g.grant = .bearer bearer ∧ g.revocation = none := by
  obtain ⟨_, l, _, _, bearer, _, -, -, -, -, -, hm, hget, hset⟩ := createGrant_arm h
  obtain ⟨-, rfl⟩ := mintGrant_ok hm
  exact ⟨l, bearer, hget, hset, rfl, rfl, rfl⟩

end Create

/-- A world with no grant entries, over the one-method catalog. -/
def emptyWorld : World :=
  { store := Store.empty, catalog := methodCatalog, clock := fun _ => ⟨0⟩, ticks := 0,
    rng := fun _ => 0, draws := 0,
    faults := fun _ => none, writes := 0, events := [] }

/-- A catalog with the root-level bearer method `a` for users, and the root user `u`. -/
def userCatalog : Catalog := ⟨[(.root, ⟨"a", .bearer ⟨⟨"p"⟩, .user⟩, none⟩)], [(.root, "u")], [], []⟩

/-- No grant entries, with `userCatalog` and a clock reading `i` seconds at its `i`-th
reading. -/
def userWorld : World :=
  { emptyWorld with catalog := userCatalog, clock := fun i => ⟨i * 1000000000⟩ }

/-- `ACCESS a ON ROOT GRANT FOR USER u`. -/
def grantForU : AccessStatementGrant := ⟨"a", some .root, .user "u"⟩

end AccessGrants.Analysis

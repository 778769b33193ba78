import AccessGrants.Model.Txn
import Mathlib.Data.List.GetD

/-!
# Bearer keys

`GrantBearer::new` draws a key id (one letter, then eleven characters of the 62-symbol
pool) and a secret (24 characters of the pool) from the random source, and assembles the
key `{prefix}-{id}-{secret}`; `hashed` replaces the key by its digest before storage.

The digest is a parameter throughout: the `sha2` crate's SHA-256 with lowercase-hex
encoding is not part of this repository, and nothing here depends on which function it is.
-/

set_option autoImplicit false

namespace AccessGrants

/-- `GRANT_BEARER_CHARACTER_POOL`: digits, then lower-case, then upper-case letters. -/
def grantBearerCharacterPool : List Char :=
  "0123456789abcdefghijklmnopqrstuvwxyzABCDEFGHIJKLMNOPQRSTUVWXYZ".toList

/-- `GRANT_BEARER_ID_LENGTH`. -/
def grantBearerIdLength : ℕ := 12

/-- `GRANT_BEARER_KEY_LENGTH`. -/
def grantBearerKeyLength : ℕ := 24

namespace GrantBearer

/-- `GrantBearer::new(prefix)`. -/
def new (pfx : String) : Txn GrantBearer := do
  let first ← randomString 1 (grantBearerCharacterPool.drop 10)
  let rest ← randomString (grantBearerIdLength - 1) grantBearerCharacterPool
  let id := first ++ rest
  let secret ← randomString grantBearerKeyLength grantBearerCharacterPool
  pure { id := id, key := pfx ++ "-" ++ id ++ "-" ++ secret }

/-- `hashed()`: the key replaced by `digest` of it (the lowercase-hex SHA-256 of the whole
key, prefix and key id included), the key id kept. -/
def hashed (digest : String → String) (b : GrantBearer) : GrantBearer :=
  { b with key := digest b.key }

@[simp] theorem hashed_id (digest : String → String) (b : GrantBearer) :
    (b.hashed digest).id = b.id := rfl

@[simp] theorem hashed_key (digest : String → String) (b : GrantBearer) :
    (b.hashed digest).key = digest b.key := rfl

end GrantBearer

/-- The `length` characters `random_string` draws from `pool`, starting at draw `d`. -/
def drawn (rng : ℕ → ℕ) (d length : ℕ) (pool : List Char) : List Char :=
  (List.range length).map fun j => pool.getD (rng (d + j) % pool.length) 'a'

/-- `random_string` is the characters it draws, and it consumes `length` draws. -/
@[simp] theorem randomString_apply (length : ℕ) (pool : List Char) (w : World) :
    randomString length pool w =
      (.ok ⟨drawn w.rng w.draws length pool⟩, { w with draws := w.draws + length }) := rfl

/-- **What `GrantBearer::new` computes**: its id and secret are the characters of 36
consecutive draws, and it consumes exactly those draws. -/
theorem GrantBearer.new_apply (pfx : String) (w : World) :
    GrantBearer.new pfx w =
      (.ok { id := ⟨drawn w.rng w.draws 1 (grantBearerCharacterPool.drop 10) ++
                    drawn w.rng (w.draws + 1) 11 grantBearerCharacterPool⟩,
             key := pfx ++ "-" ++ ⟨drawn w.rng w.draws 1 (grantBearerCharacterPool.drop 10) ++
                    drawn w.rng (w.draws + 1) 11 grantBearerCharacterPool⟩ ++ "-" ++
                    ⟨drawn w.rng (w.draws + 12) 24 grantBearerCharacterPool⟩ },
        { w with draws := w.draws + 36 }) := by
  simp only [GrantBearer.new, Txn.bind_apply, randomString_apply, Txn.pure_apply, grantBearerIdLength,
    grantBearerKeyLength]
  rfl

/-- `GrantBearer::new` always succeeds, and only consumes draws. -/
theorem GrantBearer.new_ok (pfx : String) (w : World) :
    ∃ b, GrantBearer.new pfx w = (.ok b, { w with draws := w.draws + 36 }) :=
  ⟨_, GrantBearer.new_apply pfx w⟩

end AccessGrants

import AccessGrants.Model.Bearer

/-!
# The bearer key codec

Whatever the random source draws, `GrantBearer::new(prefix)` returns a key id of twelve
ASCII alphanumerics starting with a letter, and the key `{prefix}-{id}-{secret}` with a
secret of twenty-four ASCII alphanumerics. Neither the id nor the secret contains `-`, so
the key splits back into its three parts at its last two `-`, even when the prefix
itself contains `-`: no other such triple builds the same key. `hashed` keeps the id and
replaces only the key.

`splitKey` is the decoding the key format admits, stated here for the codec; the
verification of presented keys is not part of this repository.
-/

set_option autoImplicit false

namespace AccessGrants.Analysis

open AccessGrants

/-! ## The character pool -/

/-- INTERNAL: the pool has 62 symbols.
SOURCE: access.rs:22-24 -/
theorem pool_length : grantBearerCharacterPool.length = 62 := by decide

/-- INTERNAL: past the ten digits the pool holds letters only.
SOURCE: access.rs:22-27 -/
theorem isAlpha_of_mem_letters {c : Char} (h : c ∈ grantBearerCharacterPool.drop 10) :
    c.isAlpha = true := by
  revert c h; decide

/-- INTERNAL: the pool holds ASCII alphanumerics only, none of them `-`.
SOURCE: access.rs:22-24 -/
theorem isAlphanum_of_mem_pool {c : Char} (h : c ∈ grantBearerCharacterPool) :
    c.isAlphanum = true ∧ c ≠ '-' := by
  revert c h; decide

/-! ## What `random_string` draws -/

/-- INTERNAL: `random_string` returns exactly `length` characters.
SOURCE: access.rs:293-302 -/
theorem drawn_length (rng : ℕ → ℕ) (d n : ℕ) (pool : List Char) :
    (drawn rng d n pool).length = n := by
  simp [drawn]

/-- INTERNAL: every character `random_string` returns is a character of its pool: the draw
is reduced to an index of the pool (`gen_range(0..pool.len())`).
SOURCE: access.rs:293-302 -/
theorem mem_of_mem_drawn {rng : ℕ → ℕ} {d n : ℕ} {pool : List Char} (hp : pool ≠ [])
    {c : Char} (hc : c ∈ drawn rng d n pool) : c ∈ pool := by
  obtain ⟨j, -, rfl⟩ := List.mem_map.mp hc
  rw [List.getD_eq_getElem _ _ (Nat.mod_lt _ (List.length_pos.mpr hp))]
  exact List.getElem_mem _

/-- INTERNAL: characters drawn from the pool are ASCII alphanumerics other than `-`.
SOURCE: access.rs:293-302 -/
theorem drawn_alphanum {rng : ℕ → ℕ} {d n : ℕ} {c : Char}
    (hc : c ∈ drawn rng d n grantBearerCharacterPool) : c.isAlphanum = true ∧ c ≠ '-' :=
  isAlphanum_of_mem_pool (mem_of_mem_drawn (by decide) hc)

/-- A key split at its last two `-`: the prefix, key id and secret it was built from. -/
def splitKey (key : String) : Option (String × String × String) :=
  let r := key.data.reverse
  match r.dropWhile (· != '-') with
  | _ :: r' =>
    match r'.dropWhile (· != '-') with
    | _ :: p => some (⟨p.reverse⟩, ⟨(r'.takeWhile (· != '-')).reverse⟩,
        ⟨(r.takeWhile (· != '-')).reverse⟩)
    | [] => none
  | [] => none

/-- INTERNAL: **the key format is decodable**: `{p}-{id}-{s}` splits back into `(p, id, s)`
whenever `id` and `s` have no `-`, whatever `p` holds.
SOURCE: access.rs:272 -/
theorem splitKey_encode (p id s : String) (hid : '-' ∉ id.data) (hs : '-' ∉ s.data) :
    splitKey (p ++ "-" ++ id ++ "-" ++ s) = some (p, id, s) := by
  have hid' : ∀ c ∈ id.data.reverse, (c != '-') = true := by
    intro c hc; simp only [List.mem_reverse] at hc; simpa using ne_of_mem_of_not_mem hc hid
  have hs' : ∀ c ∈ s.data.reverse, (c != '-') = true := by
    intro c hc; simp only [List.mem_reverse] at hc; simpa using ne_of_mem_of_not_mem hc hs
  have hr : (p ++ "-" ++ id ++ "-" ++ s).data.reverse =
      s.data.reverse ++ '-' :: (id.data.reverse ++ '-' :: p.data.reverse) := by
    simp
  simp [splitKey, hr, List.dropWhile_append_of_pos hs', List.takeWhile_append_of_pos hs',
    List.dropWhile_append_of_pos hid', List.takeWhile_append_of_pos hid']

/-! ## The codec -/

/-- `GrantBearer::new(p)`, for every prefix `p` and every sequence of draws, returns a key
id of exactly 12 characters, an ASCII letter followed by ASCII alphanumerics, and the key
`p-id-s` for a secret `s` of exactly 24 ASCII alphanumerics; the key splits at its last two
`-` into `(p, id, s)`, and no other triple with a dash-free id and secret builds it; and
`hashed()` keeps the id and replaces only the key by its digest. -/
theorem bearer_key_codec (digest : String → String) (pfx : String) (w : World) :
    ∃ b secret, (GrantBearer.new pfx w).1 = .ok b ∧
      b.id.length = grantBearerIdLength ∧
      (∃ c cs, b.id.data = c :: cs ∧ c.isAlpha = true ∧ ∀ x ∈ cs, x.isAlphanum = true) ∧
      secret.length = grantBearerKeyLength ∧ (∀ x ∈ secret.data, x.isAlphanum = true) ∧
      b.key = pfx ++ "-" ++ b.id ++ "-" ++ secret ∧
      splitKey b.key = some (pfx, b.id, secret) ∧
      (∀ p' id' s', '-' ∉ id'.data → '-' ∉ s'.data → p' ++ "-" ++ id' ++ "-" ++ s' = b.key →
        p' = pfx ∧ id' = b.id ∧ s' = secret) ∧
      b.hashed digest = { b with key := digest b.key } := by
  rw [GrantBearer.new_apply]
  generalize hf : drawn w.rng w.draws 1 (grantBearerCharacterPool.drop 10) = first
  generalize hr : drawn w.rng (w.draws + 1) 11 grantBearerCharacterPool = rest
  generalize hs : drawn w.rng (w.draws + 12) 24 grantBearerCharacterPool = secret
  have hrest : ∀ x ∈ rest, x.isAlphanum = true ∧ x ≠ '-' := fun x hx => drawn_alphanum (hr ▸ hx)
  have hsec : ∀ x ∈ secret, x.isAlphanum = true ∧ x ≠ '-' := fun x hx => drawn_alphanum (hs ▸ hx)
  obtain ⟨c, rfl⟩ : ∃ c, first = [c] := ⟨_, hf.symm⟩
  have hcα : c.isAlpha = true :=
    isAlpha_of_mem_letters (mem_of_mem_drawn (by decide) (hf ▸ List.mem_singleton_self c))
  have hid : '-' ∉ [c] ++ rest := by
    simp only [List.singleton_append, List.mem_cons, not_or]
    exact ⟨fun h => by subst h; revert hcα; decide, fun h => (hrest _ h).2 rfl⟩
  have hsplit := splitKey_encode pfx ⟨[c] ++ rest⟩ ⟨secret⟩ hid fun h => (hsec _ h).2 rfl
  refine ⟨_, ⟨secret⟩, rfl, ?_, ⟨c, rest, rfl, hcα, fun x hx => (hrest x hx).1⟩, ?_,
    fun x hx => (hsec x hx).1, rfl, hsplit, ?_, rfl⟩
  · simp [String.length, ← hr, drawn_length, grantBearerIdLength]
  · simp [String.length, ← hs, drawn_length, grantBearerKeyLength]
  · intro p' id' s' hid' hs' heq
    have h := splitKey_encode p' id' s' hid' hs'
    rw [heq, hsplit] at h
    simp only [Option.some.injEq, Prod.mk.injEq] at h
    exact ⟨h.1.symm, h.2.1.symm, h.2.2.symm⟩

end AccessGrants.Analysis

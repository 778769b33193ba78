import AccessGrants.Analysis.KeyRecord

/-!
# The life of a grant entry

Over every run of Create, Show, Revoke and Purge from a store without grant entries, a
grant entry is born, may be revoked once, and dies:

* **Create** inserts at a free key an unrevoked grant whose bearer key is the digest of the
  key it drew (`createGrant_inserts`), and only when it succeeds (`createGrant_onError`);
* **Show** writes nothing;
* **Revoke** changes an entry only by setting the revocation of one not yet revoked to a
  clock reading it took (`Step.revoking`): on the single-id path the entry it read and
  checked, on the bulk path the scanned entries in turn, each still holding its scanned
  value since the scan lists each key once and each iteration writes its own key only;
* **Purge** only deletes (`Step.deleting`).

`compute_step` says this once for one statement from a world where keys and records agree,
which every reachable world is; the lifecycle law and the digest invariant follow from it.
-/

set_option autoImplicit false

namespace AccessGrants.Analysis

open AccessGrants Txn

/-! ## Revoke: one revocation per entry, at a reading taken -/

/-- A step that keeps the clock and takes its readings only forward. -/
def Step.ticking : Step where
  rel w w' := w'.clock = w.clock ∧ w.ticks ≤ w'.ticks
  refl _ := ⟨rfl, le_refl _⟩
  trans h₁ h₂ := ⟨h₂.1.trans h₁.1, h₁.2.trans h₂.2⟩

/-- INTERNAL: `revokeAs` reads the clock once and keeps it.
SOURCE: access.rs:683-720, 764-804 -/
theorem revokeAs_ticking (opt : Options) (base : Base) (ac id : String) (gr : AccessGrant) :
    Moves Step.ticking (revokeAs opt base ac id gr) :=
  Moves.bind (fun _ => ⟨rfl, Nat.le_succ _⟩) fun _ => Moves.bind (Moves.lift _) fun l =>
    Moves.bind (fun w => by obtain ⟨c, hc⟩ := ensureLevel_world l opt.strict w; rw [hc]; exact ⟨rfl, le_refl _⟩)
      fun _ => Moves.bind (Moves.bind (fun _ => ⟨rfl, le_refl _⟩) fun _ _ => ⟨rfl, le_refl _⟩)
        fun _ => Moves.bind (fun _ => ⟨rfl, le_refl _⟩) fun _ => Moves.pure _

/-- A step that keeps the clock, takes its readings only forward, and changes an entry only
by revoking one not yet revoked at a reading the step took. -/
def Step.revoking : Step where
  rel w w' := Step.ticking.rel w w' ∧ ∀ k, w'.store.get k = w.store.get k ∨
    ∃ g i, w.store.get k = some g ∧ g.revocation = none ∧ w.ticks ≤ i ∧ i < w'.ticks ∧
      w'.store.get k = some { g with revocation := some (w.clock i) }
  refl w := ⟨Step.ticking.refl w, fun _ => .inl rfl⟩
  trans := by
    rintro w₁ w₂ w₃ ⟨⟨hc₁, ht₁⟩, hs₁⟩ ⟨⟨hc₂, ht₂⟩, hs₂⟩
    refine ⟨⟨hc₂.trans hc₁, ht₁.trans ht₂⟩, fun k => ?_⟩
    rcases hs₂ k with h₂ | ⟨g, i, hg, hr, hi, hi', h₂⟩ <;>
      rcases hs₁ k with h₁ | ⟨g', i', hg', hr', hj, hj', h₁⟩
    · exact .inl (h₂.trans h₁)
    · exact .inr ⟨g', i', hg', hr', hj, by omega, h₂.trans h₁⟩
    · exact .inr ⟨g, i, h₁ ▸ hg, hr, by omega, hi', by rw [h₂, hc₁]⟩
    · rw [h₁] at hg; cases hg; cases hr

/-- INTERNAL: a ticking step that keeps the grant entries is a revoking step. -/
theorem Step.revoking_of_ticking {w w' : World} (ht : Step.ticking.rel w w')
    (hs : w'.store = w.store) : Step.revoking.rel w w' :=
  ⟨ht, fun _ => .inl (by rw [hs])⟩

/-- INTERNAL: **revoking the entry read**: `revokeAs` under a key that holds the unrevoked
grant it is given revokes that entry at its reading, and only that entry.
SOURCE: access.rs:683-720, 764-804 -/
theorem revokeAs_revoking {opt : Options} {base : Base} {l : Level} {ac id : String}
    {gr : AccessGrant} {w : World} (hl : opt.level base = .ok l)
    (hg : w.store.get ⟨l, ac, id⟩ = some gr) (hr : gr.revocation = none) :
    Step.revoking.rel w (revokeAs opt base ac id gr w).2 := by
  have ht := revokeAs_ticking opt base ac id gr w
  rcases h : revokeAs opt base ac id gr w with ⟨_ | v, w'⟩
  · rw [h] at ht
    exact Step.revoking_of_ticking ht (revokeAs_onError _ _ _ _ _ _ _ _ h)
  · obtain ⟨l', hl', -, hs, ht', hc⟩ := revokeAs_ok h
    obtain rfl : l' = l := Except.ok.inj (hl'.symm.trans hl)
    show Step.revoking.rel w w'
    refine ⟨⟨hc, by omega⟩, fun k => ?_⟩
    rw [hs, Store.get_set]
    split_ifs with hk
    · subst hk; exact .inr ⟨gr, w.ticks, hg, hr, le_refl _, by omega, rfl⟩
    · exact .inl rfl

/-- INTERNAL: one iteration of the bulk revoke, while its grant's key holds the scanned
grant, revokes at most that entry.
SOURCE: access.rs:738-806 -/
theorem revokeOne_revoking {stmt : AccessStatementRevoke} {opt : Options} {base : Base}
    {l : Level} {gr : AccessGrant} {w : World} (hl : opt.level base = .ok l)
    (hg : w.store.get ⟨l, stmt.ac, gr.id⟩ = some gr) :
    Step.revoking.rel w (revokeOne stmt opt base gr w).2 := by
  unfold revokeOne
  split
  · exact Step.revoking.refl w
  · rename_i hr
    refine Moves.bind_at ?_ fun keep w₁ h₁ => ?_
    · obtain ⟨evs, h⟩ := matchesCond_world stmt.cond gr w
      rw [h]; exact Step.revoking_of_ticking ⟨rfl, le_refl _⟩ rfl
    · have hs : w₁.store = w.store := (matchesCond_keeps_store _ _).rel h₁
      cases keep
      · exact Step.revoking.refl w₁
      · exact Moves.bind_at (revokeAs_revoking hl (hs ▸ hg) (by simpa using hr)) fun _ w₂ _ =>
          Step.revoking.refl w₂

/-- INTERNAL: **the bulk revoke loop revokes each entry at most once**: over grants with
distinct ids, each held under its id's key, every iteration writes its own key only, so the
later ones still find their scanned grants.
SOURCE: access.rs:738-806 -/
theorem collect_revokeOne_revoking {stmt : AccessStatementRevoke} {opt : Options} {base : Base}
    {l : Level} (hl : opt.level base = .ok l) (grs : List AccessGrant) {w : World}
    (hn : (grs.map AccessGrant.id).Nodup) (hg : ∀ g ∈ grs, w.store.get ⟨l, stmt.ac, g.id⟩ = some g) :
    Step.revoking.rel w (collect (revokeOne stmt opt base) grs w).2 := by
  induction grs generalizing w with
  | nil => exact Step.revoking.refl w
  | cons g grs ih =>
    rw [List.map_cons, List.nodup_cons] at hn
    refine Moves.bind_at (revokeOne_revoking hl (hg g (List.mem_cons_self _ _))) fun _ w₁ h₁ => ?_
    refine Moves.bind_at (ih hn.2 fun g' hg' => ?_) fun _ w₂ _ => Step.revoking.refl w₂
    have hne : g.id ≠ g'.id := fun h => hn.1 (h ▸ List.mem_map_of_mem _ hg')
    have hg'w := hg g' (List.mem_cons_of_mem _ hg')
    obtain ⟨-, hsel⟩ := revokeOne_ok hl h₁
    split_ifs at hsel
    · rw [hsel.2.1, Store.get_set, if_neg (by simp [hne])]; exact hg'w
    · rw [hsel.2.1]; exact hg'w

/-- INTERNAL: **Revoke only revokes**, from a store where keys and records agree: the
single-id path the entry it read and checked, the bulk path the scanned entries.
SOURCE: access.rs:636-814 -/
theorem revokeGrant_revoking (stmt : AccessStatementRevoke) (opt : Options) {w : World}
    (hI : KeyRecord w.store) : Step.revoking.rel w (revokeGrant stmt opt w).2 :=
  revokeGrant_step stmt opt (fun _ _ _ _ hl hg hr => revokeAs_revoking hl hg hr)
    fun _ _ hl => collect_revokeOne_revoking hl _ (hI.scan_ids_nodup _ _) fun _ hg =>
      hI.get_of_mem_scan hg

/-! ## Purge: deletions only -/

/-- A step whose every changed entry is deleted. -/
def Step.deleting : Step where
  rel w w' := ∀ k, w'.store.get k = w.store.get k ∨ w'.store.get k = none
  refl _ _ := .inl rfl
  trans h₁ h₂ k := (h₂ k).elim (fun h => by rw [h]; exact h₁ k) .inr

/-- INTERNAL: a store delete only deletes.
SOURCE: access.rs:893-903 -/
theorem del_deleting (k : GrantKey) : Moves Step.deleting (del k) :=
  Moves.bind (fun _ _ => .inl rfl) fun _ w k' => by
    show (w.store.del k).get k' = w.store.get k' ∨ (w.store.del k).get k' = none
    rw [Store.get_del]
    split_ifs
    · exact .inr rfl
    · exact .inl rfl

/-- INTERNAL: **Purge only deletes.**
SOURCE: access.rs:827-923 -/
theorem computePurge_deleting (stmt : AccessStatementPurge) (opt : Options) :
    Moves Step.deleting (computePurge stmt opt) :=
  computePurge_moves (fun _ _ h _ => .inl (by rw [h])) del_deleting stmt opt

/-! ## Create: one insert at a free key -/

/-- INTERNAL: **a Create inserts once or not at all**: it leaves the entries unchanged, or
it succeeded and inserted at a free key an unrevoked grant whose bearer key is a digest.
SOURCE: access.rs:467-507 -/
theorem computeGrant_step (digest : String → String) (stmt : AccessStatementGrant) (opt : Options)
    (w : World) :
    (computeGrant digest stmt opt w).2.store = w.store ∨
      (∃ v, (computeGrant digest stmt opt w).1 = .ok v) ∧
      ∃ k g, w.store.get k = none ∧ (computeGrant digest stmt opt w).2.store = w.store.set k g ∧
        g.revocation = none ∧ ∃ key, g.grant = .bearer ⟨k.gr, digest key⟩ := by
  unfold computeGrant
  rcases h : createGrant digest stmt opt w with ⟨_ | g, w'⟩
  · rw [bind_of_error h]
    exact .inl (createGrant_onError _ _ _ h)
  · rw [bind_of_ok h]
    obtain ⟨l, bearer, hget, hs, hid, -, hr⟩ := createGrant_inserts h
    exact .inr ⟨⟨_, rfl⟩, _, _, hget, hs, hr, bearer.key, by rw [hid]; rfl⟩

/-! ## One statement, every run -/

/-- INTERNAL: **what one statement does to the entries**, from a world where keys and
records agree.
SOURCE: access.rs:928-944 -/
theorem compute_step (digest : String → String) (stmt : AccessStatement) (opt : Options)
    {w : World} (hI : KeyRecord w.store) :
    (stmt.compute digest opt w).2.store = w.store ∨
    ((∃ s, stmt = .grant s) ∧ (∃ v, (stmt.compute digest opt w).1 = .ok v) ∧
      ∃ k g, w.store.get k = none ∧ (stmt.compute digest opt w).2.store = w.store.set k g ∧
        g.revocation = none ∧ ∃ key, g.grant = .bearer ⟨k.gr, digest key⟩) ∨
    (∃ s, stmt = .revoke s) ∧ Step.revoking.rel w (stmt.compute digest opt w).2 ∨
    (∃ s, stmt = .purge s) ∧ Step.deleting.rel w (stmt.compute digest opt w).2 := by
  cases stmt with
  | grant s => exact (computeGrant_step digest s opt w).imp_right fun h => .inl ⟨⟨s, rfl⟩, h⟩
  | show' s => exact .inl (computeShow_keeps_store s opt w)
  | revoke s =>
    exact .inr (.inr (.inl ⟨⟨s, rfl⟩, Moves.bind_at (revokeGrant_revoking s opt hI) fun _ w' _ =>
      Step.revoking.refl w'⟩))
  | purge s => exact .inr (.inr (.inr ⟨⟨s, rfl⟩, computePurge_deleting s opt w⟩))

/-- INTERNAL: **every stored bearer key is a digest**, in every reachable world: Create
stores digests, and no other statement writes a payload.
SOURCE: access.rs:467-507 -/
theorem bearer_digest_of_reachable {digest : String → String} {w : World}
    (hw : Reachable digest w) :
    ∀ k g, w.store.get k = some g → ∃ key, g.grant = .bearer ⟨k.gr, digest key⟩ := by
  induction hw with
  | init w h => exact fun k g hg => absurd hg (by simp [Store.get, h, lookup])
  | @step w stmt opt hw ih =>
    intro k g hg
    rcases compute_step digest stmt opt (keyRecord_of_reachable hw) with
      hs | ⟨-, -, k', g', -, hs, -, hd⟩ | ⟨-, -, hs⟩ | ⟨-, hs⟩
    · rw [hs] at hg; exact ih k g hg
    · rw [hs, Store.get_set] at hg
      split_ifs at hg with hk
      · subst hk; cases hg; exact hd
      · exact ih k g hg
    · rcases hs k with h | ⟨g₀, i, h₀, -, -, -, h⟩
      · exact ih k g (h ▸ hg)
      · rw [h] at hg; cases hg; exact ih k g₀ h₀
    · rcases hs k with h | h
      · exact ih k g (h ▸ hg)
      · rw [h] at hg; cases hg

/-- **The lifecycle of a grant entry.** In every world a run of the four statements reaches
from a store without grant entries, the next statement, of any kind and in any session,
does one of four things to the entry under any key: it leaves it as it was; it is a Create
that succeeded and inserted there, where there was no entry, an unrevoked grant; it is a
Revoke that revoked the unrevoked grant there, setting its revocation to one of the clock
readings it took and keeping every other field; or it is a Purge that deleted it. And
every stored bearer key is the digest of a key. -/
theorem grant_lifecycle (digest : String → String) (w : World) (hw : Reachable digest w)
    (stmt : AccessStatement) (opt : Options) (k : GrantKey) :
    ((stmt.compute digest opt w).2.store.get k = w.store.get k ∨
      ((∃ s, stmt = .grant s) ∧ (∃ v, (stmt.compute digest opt w).1 = .ok v) ∧
        w.store.get k = none ∧ ∃ g, (stmt.compute digest opt w).2.store.get k = some g ∧
          g.revocation = none ∧ ∃ key, g.grant = .bearer ⟨k.gr, digest key⟩) ∨
      ((∃ s, stmt = .revoke s) ∧ ∃ g i, w.store.get k = some g ∧ g.revocation = none ∧
        w.ticks ≤ i ∧ i < (stmt.compute digest opt w).2.ticks ∧
        (stmt.compute digest opt w).2.store.get k = some { g with revocation := some (w.clock i) }) ∨
      (∃ s, stmt = .purge s) ∧ (stmt.compute digest opt w).2.store.get k = none) ∧
    (∀ g, w.store.get k = some g → ∃ key, g.grant = .bearer ⟨k.gr, digest key⟩) := by
  refine ⟨?_, bearer_digest_of_reachable hw k⟩
  rcases compute_step digest stmt opt (keyRecord_of_reachable hw) with
    hs | ⟨hc, hv, k', g, hk', hs, hr, hd⟩ | ⟨hc, -, hs⟩ | ⟨hc, hs⟩
  · exact .inl (by rw [hs])
  · rw [hs, Store.get_set]
    split_ifs with hk
    · subst hk; exact .inr (.inl ⟨hc, hv, hk', g, rfl, hr, hd⟩)
    · exact .inl rfl
  · exact (hs k).imp_right fun h => .inr (.inl ⟨hc, h⟩)
  · exact (hs k).imp_right fun h => .inr (.inr ⟨hc, h⟩)

/-- After a Create, the lifecycle law holds of a `REVOKE ALL`, which changes the entry under
the created grant's key. -/
theorem lifecycle_of_revoke_after_grant :
    Reachable id grantedWorld ∧
    ((AccessStatement.revoke revokeAllA).compute id rootSession grantedWorld).2.store.get grantKeyU ≠
      grantedWorld.store.get grantKeyU ∧
    ((((AccessStatement.revoke revokeAllA).compute id rootSession grantedWorld).2.store.get grantKeyU =
        grantedWorld.store.get grantKeyU ∨
      ((∃ s, AccessStatement.revoke revokeAllA = .grant s) ∧
        (∃ v, ((AccessStatement.revoke revokeAllA).compute id rootSession grantedWorld).1 = .ok v) ∧
        grantedWorld.store.get grantKeyU = none ∧ ∃ g,
          ((AccessStatement.revoke revokeAllA).compute id rootSession grantedWorld).2.store.get
            grantKeyU = some g ∧
          g.revocation = none ∧ ∃ key, g.grant = .bearer ⟨grantKeyU.gr, id key⟩) ∨
      ((∃ s, AccessStatement.revoke revokeAllA = .revoke s) ∧ ∃ g i,
        grantedWorld.store.get grantKeyU = some g ∧ g.revocation = none ∧
        grantedWorld.ticks ≤ i ∧
        i < ((AccessStatement.revoke revokeAllA).compute id rootSession grantedWorld).2.ticks ∧
        ((AccessStatement.revoke revokeAllA).compute id rootSession grantedWorld).2.store.get
          grantKeyU = some { g with revocation := some (grantedWorld.clock i) }) ∨
      (∃ s, AccessStatement.revoke revokeAllA = .purge s) ∧
        ((AccessStatement.revoke revokeAllA).compute id rootSession grantedWorld).2.store.get
          grantKeyU = none) ∧
    (∀ g, grantedWorld.store.get grantKeyU = some g → ∃ key, g.grant = .bearer ⟨grantKeyU.gr, id key⟩)) :=
  ⟨reachable_grantedWorld, by decide,
    grant_lifecycle id grantedWorld reachable_grantedWorld (.revoke revokeAllA) rootSession grantKeyU⟩

end AccessGrants.Analysis

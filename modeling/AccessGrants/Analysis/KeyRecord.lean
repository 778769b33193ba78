import AccessGrants.Analysis.Create
import AccessGrants.Analysis.Purge
import AccessGrants.Model.Run

/-!
# Keys and records agree

Bulk Revoke and Purge rebuild the key of each scanned grant from the grant's own id
(access.rs:781-803, 895-910), so they touch the scanned entries only if every entry sits
under the key of its own id and access method. That is an invariant of every reachable
store (`keyRecord_of_reachable`):

* **Create** inserts the grant under `(partition, grant.ac, grant.id)`, and the hashed
  bearer key keeps the id (`createGrant_inserts`);
* **Show** writes nothing;
* **Revoke** writes back a grant it read: by id from the statement's key, or from the
  scan of a store where the invariant holds, with only its revocation time changed;
* **Purge** only deletes.

Each holds for every outcome, failed runs included, since those keep their partial
writes: every step of each operation is a `Step.wellKeyed` step, one whose changed
entries are deleted or hold well-kept grants. From the invariant, a Revoke changes no
entry's presence, and a successful Purge removes exactly the scanned entries it selected.
-/

set_option autoImplicit false

namespace AccessGrants.Analysis

open AccessGrants Txn

/-- A grant well kept under a key: its id and access method are the key's, and its payload
is a bearer key whose id is the key's. -/
structure WellKeyed (k : GrantKey) (g : AccessGrant) : Prop where
  id_eq : g.id = k.gr
  ac_eq : g.ac = k.ac
  bearer : ∃ key, g.grant = .bearer ⟨k.gr, key⟩

/-- Every entry of the store is well kept under its key. -/
def KeyRecord (s : Store) : Prop := ∀ k g, s.get k = some g → WellKeyed k g

/-- INTERNAL: a grant well kept under its key stays so with any revocation time.
SOURCE: access.rs:684-685, 770 -/
theorem WellKeyed.setRevocation {k : GrantKey} {g : AccessGrant} (h : WellKeyed k g)
    (r : Option Datetime) : WellKeyed k { g with revocation := r } :=
  ⟨h.id_eq, h.ac_eq, h.bearer⟩

/-- INTERNAL: a store without entries has keys and records agreeing. -/
theorem keyRecord_of_entries_nil {s : Store} (h : s.entries = []) : KeyRecord s := by
  intro k g hg
  simp [Store.get, h, lookup] at hg

/-- In a store where keys and records agree, every scanned entry sits under its grant's id. -/
theorem KeyRecord.gr_eq_id {s : Store} (hI : KeyRecord s) {l : Level} {ac : String} :
    ∀ e ∈ s.part l ac, e.1.gr = e.2.id :=
  fun _ he => (hI _ _ (Store.get_of_mem_part he)).id_eq.symm

/-- In a store where keys and records agree, a scanned grant is what the key of its own id
holds. -/
theorem KeyRecord.get_of_mem_scan {s : Store} (hI : KeyRecord s) {l : Level} {ac : String}
    {g : AccessGrant} (hg : g ∈ s.scan l ac) : s.get ⟨l, ac, g.id⟩ = some g := by
  obtain ⟨e, he, rfl⟩ := List.mem_map.mp hg
  have hk : (⟨l, ac, e.2.id⟩ : GrantKey) = e.1 := by
    obtain ⟨hlev, hac⟩ := Store.key_of_mem_part he
    have := hI.gr_eq_id e he
    rcases e with ⟨⟨_, _, _⟩, _⟩
    simp_all
  rw [hk, Store.get_of_mem_part he]

/-- In a store where keys and records agree, a scan lists each grant id at most once. -/
theorem KeyRecord.scan_ids_nodup {s : Store} (hI : KeyRecord s) (l : Level) (ac : String) :
    ((s.scan l ac).map AccessGrant.id).Nodup := by
  have hk : ((s.part l ac).map Prod.fst).Nodup := s.nodup.sublist ((List.filter_sublist _).map _)
  have hid : (s.part l ac).map (AccessGrant.id ∘ Prod.snd) = (s.part l ac).map (GrantKey.gr ∘ Prod.fst) :=
    List.map_congr_left fun e he => (hI.gr_eq_id e he).symm
  rw [Store.scan, List.map_map, hid, ← List.map_map]
  refine hk.map_on fun x hx y hy hxy => ?_
  obtain ⟨e, he, rfl⟩ := List.mem_map.mp hx
  obtain ⟨e', he', rfl⟩ := List.mem_map.mp hy
  obtain ⟨h₁, h₂⟩ := Store.key_of_mem_part he
  obtain ⟨h₁', h₂'⟩ := Store.key_of_mem_part he'
  rcases e with ⟨⟨_, _, _⟩, _⟩
  rcases e' with ⟨⟨_, _, _⟩, _⟩
  simp_all

/-! ## Steps that keep records well kept -/

/-- A step whose every changed entry is deleted, or holds a grant well kept under its key. -/
def Step.wellKeyed : Step where
  rel w w' := ∀ k g, w'.store.get k = some g → w.store.get k = some g ∨ WellKeyed k g
  refl _ _ _ h := .inl h
  trans h₁ h₂ k g h := (h₂ k g h).elim (h₁ k g) .inr

/-- INTERNAL: a well-keyed step keeps keys and records agreeing. -/
theorem KeyRecord.of_step {w w' : World} (hI : KeyRecord w.store) (h : Step.wellKeyed.rel w w') :
    KeyRecord w'.store :=
  fun k g hg => (h k g hg).elim (hI k g) id

/-- INTERNAL: an operation that keeps the grant entries is well keyed. -/
theorem wellKeyed_of_keeps_store {α : Type} {m : Txn α} (hm : Moves (Step.keeps World.store) m) :
    Moves Step.wellKeyed m :=
  Moves.mono (fun _ _ h _ _ hg => .inl (h ▸ hg)) hm

/-- Writing a grant well kept under its key is a well-keyed step. -/
theorem wellKeyed_of_set {k : GrantKey} {v : AccessGrant} {w w' : World} (h : WellKeyed k v)
    (hs : w'.store = w.store.set k v) : Step.wellKeyed.rel w w' := fun k' g hg => by
  rw [hs, Store.get_set] at hg
  split_ifs at hg with hk
  · subst hk; cases hg; exact .inr h
  · exact .inl hg

/-- INTERNAL: a store write of a grant well kept under its key is well keyed.
SOURCE: access.rs:691-703, 776-789 -/
theorem set_wellKeyed {k : GrantKey} {v : AccessGrant} (h : WellKeyed k v) :
    Moves Step.wellKeyed (set k v) :=
  Moves.bind (wellKeyed_of_keeps_store storeWrite_keeps_store) fun _ _ => wellKeyed_of_set h rfl

/-- INTERNAL: a store delete is well keyed.
SOURCE: access.rs:893-903 -/
theorem del_wellKeyed (k : GrantKey) : Moves Step.wellKeyed (del k) :=
  Moves.bind (wellKeyed_of_keeps_store storeWrite_keeps_store) fun _ w k' g hg => by
    change (w.store.del k).get k' = some g at hg
    rw [Store.get_del] at hg
    split_ifs at hg
    exact .inl hg

/-- INTERNAL: **Create keeps records well kept**: it inserts one well-kept grant, or fails
without writing.
SOURCE: access.rs:395-410, 500-515 -/
theorem createGrant_wellKeyed (digest : String → String) (stmt : AccessStatementGrant)
    (opt : Options) : Moves Step.wellKeyed (createGrant digest stmt opt) := fun w => by
  rcases h : createGrant digest stmt opt w with ⟨_ | g, w'⟩
  · exact fun k g' hg => .inl (createGrant_onError _ _ _ h ▸ hg)
  · obtain ⟨l, bearer, -, hset, hid, -, -⟩ := createGrant_inserts h
    exact wellKeyed_of_set ⟨rfl, rfl, _, by rw [hid]; rfl⟩ hset

/-- INTERNAL: writing back a grant read under `(ac, id)` with only its revocation changed
keeps records well kept.
SOURCE: access.rs:683-720, 764-804 -/
theorem revokeAs_wellKeyed {opt : Options} {base : Base} {ac id : String} {gr : AccessGrant}
    (h : ∀ l, WellKeyed ⟨l, ac, id⟩ gr) : Moves Step.wellKeyed (revokeAs opt base ac id gr) :=
  Moves.bind (wellKeyed_of_keeps_store now_keeps_store) fun _ =>
    Moves.bind (Moves.lift _) fun l =>
      Moves.bind (wellKeyed_of_keeps_store (ensureLevel_keeps_store l _)) fun _ =>
        Moves.bind (set_wellKeyed ((h l).setRevocation _)) fun _ =>
          Moves.bind (wellKeyed_of_keeps_store (emit_keeps_store _)) fun _ => Moves.pure _

/-- INTERNAL: one iteration of the bulk revoke keeps records well kept when its grant is a
bearer grant of the statement's access method, keyed by its own id.
SOURCE: access.rs:738-806 -/
theorem revokeOne_wellKeyed {stmt : AccessStatementRevoke} {opt : Options} {base : Base}
    {gr : AccessGrant} (h : gr.ac = stmt.ac ∧ ∃ key, gr.grant = .bearer ⟨gr.id, key⟩) :
    Moves Step.wellKeyed (revokeOne stmt opt base gr) := by
  unfold revokeOne
  split
  · exact Moves.pure _
  · refine Moves.bind (wellKeyed_of_keeps_store (matchesCond_keeps_store _ _)) fun keep => ?_
    cases keep
    · exact Moves.pure _
    · exact Moves.bind (revokeAs_wellKeyed fun _ => ⟨rfl, h.1, h.2⟩) fun _ => Moves.pure _

/-- INTERNAL: **the two paths of `revoke_grant`**: for any kind of step, a Revoke from `w` is
one when so are the write-back of an unrevoked entry read by id and the bulk loop over the
scan of the base's partition.
SOURCE: access.rs:636-814 -/
theorem revokeGrant_step {T : Step} (stmt : AccessStatementRevoke) (opt : Options) {w : World}
    (hsingle : ∀ b l gr g, opt.level b = .ok l → w.store.get ⟨l, stmt.ac, gr⟩ = some g →
      g.revocation = none → T.rel w (revokeAs opt b stmt.ac gr g w).2)
    (hbulk : ∀ b l, opt.level b = .ok l →
      T.rel w (collect (revokeOne stmt opt b) (w.store.scan l stmt.ac) w).2) :
    T.rel w (revokeGrant stmt opt w).2 := by
  unfold revokeGrant
  refine Moves.bind_at (Moves.of_same (openAccess_same _ _ _ _) w) fun ⟨b, _⟩ w₁ h₁ => ?_
  obtain ⟨rfl, -⟩ := openAccess_ok h₁
  dsimp only
  cases stmt.gr with
  | some gr =>
    refine Moves.bind_at (Moves.lift _ _) fun l w₂ h₂ => ?_
    obtain ⟨hl, rfl⟩ := lift_ok h₂
    refine Moves.bind_at (Moves.of_same (getGrant_same _) _) fun g w₃ h₃ => ?_
    obtain ⟨hg, rfl⟩ := getGrant_ok h₃
    refine Moves.bind_at (Moves.ensure _ _ _) fun _ w₄ h₄ => ?_
    obtain ⟨hr, rfl⟩ := ensure_ok h₄
    exact Moves.bind_at (hsingle b l gr g hl hg hr) fun _ w₅ _ => T.refl w₅
  | none =>
    refine Moves.bind_at (Moves.lift _ _) fun l w₂ h₂ => ?_
    obtain ⟨hl, rfl⟩ := lift_ok h₂
    refine Moves.bind_at (Moves.of_same (allGrants_same _ _) _) fun grs w₃ h₃ => ?_
    cases h₃
    exact Moves.bind_at (hbulk b l hl) fun _ w₄ _ => T.refl w₄

/-- INTERNAL: **Revoke keeps records well kept** from a store where they are: the single-id
path writes back the grant its key holds, the bulk path the grants of its scan.
SOURCE: access.rs:636-814 -/
theorem revokeGrant_wellKeyed (stmt : AccessStatementRevoke) (opt : Options) {w : World}
    (hI : KeyRecord w.store) : Step.wellKeyed.rel w (revokeGrant stmt opt w).2 :=
  revokeGrant_step stmt opt
    (fun _ _ _ _ _ hg _ => have hk := hI _ _ hg
      revokeAs_wellKeyed (fun _ => ⟨hk.id_eq, hk.ac_eq, hk.bearer⟩) w)
    fun _ _ _ => Moves.collect_at
      (fun (g : AccessGrant) (_ : World) => g.ac = stmt.ac ∧ ∃ key, g.grant = .bearer ⟨g.id, key⟩)
      (fun _ _ _ h _ => h) (fun _ w' hg => revokeOne_wellKeyed hg w') _ _ fun _ hg =>
        have hk := hI _ _ (hI.get_of_mem_scan hg)
        ⟨hk.ac_eq, hk.bearer⟩

/-- INTERNAL: **Purge only reads and deletes**: it is a `T`-step for every kind of step that
steps keeping the store and deletions are.
SOURCE: access.rs:827-922 -/
theorem computePurge_moves {T : Step} (hkeep : ∀ w w', w'.store = w.store → T.rel w w')
    (hdel : ∀ k, Moves T (del k)) (stmt : AccessStatementPurge) (opt : Options) :
    Moves T (computePurge stmt opt) :=
  Moves.bind (Moves.of_same (openAccess_same _ _ _ _)) fun _ =>
    Moves.bind (Moves.lift _) fun _ => Moves.bind (Moves.of_same (allGrants_same _ _)) fun _ =>
      Moves.bind (Moves.collect (fun _ => Moves.bind (Moves.mono hkeep now_keeps_store) fun _ => by
        split
        · exact Moves.bind (Moves.lift _) fun _ => Moves.bind (hdel _) fun _ =>
            Moves.bind (Moves.mono hkeep (emit_keeps_store _)) fun _ => Moves.pure _
        · exact Moves.pure _) _) fun _ => Moves.pure _

/-- INTERNAL: **Purge keeps records well kept**: it only deletes.
SOURCE: access.rs:858-925 -/
theorem computePurge_wellKeyed (stmt : AccessStatementPurge) (opt : Options) :
    Moves Step.wellKeyed (computePurge stmt opt) :=
  computePurge_moves (fun _ _ h _ _ hg => .inl (h ▸ hg)) del_wellKeyed stmt opt

/-- INTERNAL: **Show writes nothing.**
SOURCE: access.rs:563-628 -/
theorem computeShow_keeps_store (stmt : AccessStatementShow) (opt : Options) :
    Moves (Step.keeps World.store) (computeShow stmt opt) :=
  Moves.bind (Moves.of_same (openAccess_same _ _ _ _)) fun _ => by
    dsimp only
    cases stmt.gr with
    | some _ =>
      exact Moves.bind (Moves.lift _) fun _ => Moves.bind (Moves.of_same (getGrant_same _)) fun _ =>
        Moves.pure _
    | none =>
      exact Moves.bind (Moves.lift _) fun _ => Moves.bind (Moves.of_same (allGrants_same _ _)) fun _ =>
        Moves.bind (Moves.collect (fun _ => Moves.bind (matchesCond_keeps_store _ _) fun _ =>
          Moves.pure _) _) fun _ => Moves.pure _

/-! ## Every reachable store -/

/-- INTERNAL: **every statement keeps records well kept**, whatever its outcome.
SOURCE: access.rs:928-944 -/
theorem compute_keyRecord (digest : String → String) (stmt : AccessStatement) (opt : Options)
    {w : World} (hI : KeyRecord w.store) : KeyRecord (stmt.compute digest opt w).2.store := by
  cases stmt with
  | grant s =>
    exact hI.of_step (Moves.bind (createGrant_wellKeyed digest s opt) (fun _ => Moves.pure _) w)
  | show' s => exact hI.of_step (wellKeyed_of_keeps_store (computeShow_keeps_store s opt) w)
  | revoke s =>
    exact hI.of_step (Moves.bind_at (revokeGrant_wellKeyed s opt hI) fun _ w' _ => Step.wellKeyed.refl w')
  | purge s => exact hI.of_step (computePurge_wellKeyed s opt w)

/-- INTERNAL: **keys and records agree in every reachable store.**
SOURCE: access.rs:928-944 -/
theorem keyRecord_of_reachable {digest : String → String} {w : World} (h : Reachable digest w) :
    KeyRecord w.store := by
  induction h with
  | init w h => exact keyRecord_of_entries_nil h
  | step stmt opt _ ih => exact compute_keyRecord digest stmt opt ih

/-! ## What Revoke and Purge touch -/

/-- A step that adds and removes no entry. -/
def Step.keepsKeys : Step where
  rel w w' := ∀ k, (w'.store.get k).isSome = (w.store.get k).isSome
  refl _ _ := rfl
  trans h₁ h₂ k := (h₂ k).trans (h₁ k)

/-- INTERNAL: writing back under a present key adds and removes nothing.
SOURCE: access.rs:683-720, 764-804 -/
theorem revokeAs_keepsKeys {opt : Options} {base : Base} {l : Level} {ac id : String}
    {gr : AccessGrant} {w : World} (hl : opt.level base = .ok l)
    (hp : (w.store.get ⟨l, ac, id⟩).isSome) : Step.keepsKeys.rel w (revokeAs opt base ac id gr w).2 := by
  rcases h : revokeAs opt base ac id gr w with ⟨_ | v, w'⟩
  · exact fun k => by rw [revokeAs_onError _ _ _ _ _ _ _ _ h]
  · obtain ⟨l', hl', -, hs, -⟩ := revokeAs_ok h
    obtain rfl : l' = l := Except.ok.inj (hl'.symm.trans hl)
    intro k
    rw [hs, Store.get_set]
    split_ifs with hk
    · subst hk; exact hp.symm
    · rfl

/-- INTERNAL: one iteration of the bulk revoke adds and removes nothing while its grant's
key is present.
SOURCE: access.rs:738-806 -/
theorem revokeOne_keepsKeys {stmt : AccessStatementRevoke} {opt : Options} {base : Base}
    {l : Level} {gr : AccessGrant} {w : World} (hl : opt.level base = .ok l)
    (hp : (w.store.get ⟨l, stmt.ac, gr.id⟩).isSome) :
    Step.keepsKeys.rel w (revokeOne stmt opt base gr w).2 := by
  unfold revokeOne
  split
  · exact Step.keepsKeys.refl w
  · refine Moves.bind_at (fun k => by rw [matchesCond_keeps_store _ _ w]) fun keep w₁ h₁ => ?_
    have hs : w₁.store = w.store := (matchesCond_keeps_store _ _).rel h₁
    cases keep
    · exact Step.keepsKeys.refl w₁
    · exact Moves.bind_at (revokeAs_keepsKeys hl (hs ▸ hp)) fun _ w₂ _ => Step.keepsKeys.refl w₂

/-- INTERNAL: **a Revoke adds and removes no entry** in a store where keys and records
agree: both paths write back under keys present in the store.
SOURCE: access.rs:636-814 -/
theorem revokeGrant_keepsKeys (stmt : AccessStatementRevoke) (opt : Options) {w : World}
    (hI : KeyRecord w.store) : Step.keepsKeys.rel w (revokeGrant stmt opt w).2 :=
  revokeGrant_step stmt opt (fun _ _ _ _ hl hg _ => revokeAs_keepsKeys hl (by rw [hg]; rfl))
    fun _ l hl => Moves.collect_at
      (fun (g : AccessGrant) (w : World) => (w.store.get ⟨l, stmt.ac, g.id⟩).isSome)
      (fun _ _ _ h hs => (hs _).trans h) (fun _ _ hp => revokeOne_keepsKeys hl hp) _ _
      fun _ hg => by dsimp only; rw [hI.get_of_mem_scan hg]; rfl

/-- **Key-record consistency.** In every world a run of the four statements reaches from a
store without grant entries, every entry under the key `(partition, a, i)` holds a grant
with id `i`, access method `a` and a bearer payload with key id `i`. Consequently a Revoke,
whatever its outcome, adds and removes no entry (it writes back only under present keys),
and a successful Purge leaves the store before with exactly the keys of the scanned entries
it selected removed. -/
theorem key_record_consistency (digest : String → String) (w : World) (hw : Reachable digest w) :
    (∀ k g, w.store.get k = some g →
      g.id = k.gr ∧ g.ac = k.ac ∧ ∃ key, g.grant = .bearer ⟨k.gr, key⟩) ∧
    (∀ stmt opt k, ((computeRevoke stmt opt w).2.store.get k).isSome = (w.store.get k).isSome) ∧
    (∀ stmt opt v w', computePurge stmt opt w = (.ok v, w') →
      ∃ b l, effectiveBase stmt.base opt = .ok b ∧ opt.level b = .ok l ∧
        w'.store.entries = w.store.entries.filter fun e =>
          e.1 ∉ (purgeScan (purgeDue stmt) w.clock w.ticks (w.store.part l stmt.ac)).map Prod.fst) := by
  have hI := keyRecord_of_reachable hw
  refine ⟨fun k g hg => ⟨(hI k g hg).id_eq, (hI k g hg).ac_eq, (hI k g hg).bearer⟩,
    fun stmt opt => Moves.bind_at (revokeGrant_keepsKeys stmt opt hI) fun _ w' _ =>
      Step.keepsKeys.refl w', fun stmt opt v w' h => ?_⟩
  obtain ⟨b, l, hb, -, hl, -, hs, -⟩ := computePurge_ok h
  exact ⟨b, l, hb, hl, hs ▸ entries_after_purgeScan _ _ _ _ hI.gr_eq_id⟩

/-- `ACCESS a ON ROOT GRANT FOR USER u`, as a statement. -/
def grantU : AccessStatement := .grant grantForU

/-- `ACCESS a ON ROOT REVOKE ALL`. -/
def revokeAllA : AccessStatementRevoke := ⟨"a", some .root, none, none⟩

/-- The world `grantU` leaves in `userWorld`: one grant for `u`. -/
def grantedWorld : World := (grantU.compute id rootSession userWorld).2

/-- The world `revokeAllA` leaves in `grantedWorld`: that grant revoked. -/
def revokedWorld : World :=
  ((AccessStatement.revoke revokeAllA).compute id rootSession grantedWorld).2

/-- The key `grantU` stores its grant under, in `grantedWorld`: its id drawn from a random
source that always gives `0`. -/
def grantKeyU : GrantKey := ⟨.root, "a", "a00000000000"⟩

/-- INTERNAL: `grantedWorld` is reached by a Create. -/
theorem reachable_grantedWorld : Reachable id grantedWorld :=
  .step grantU rootSession (.init userWorld rfl)

/-- INTERNAL: `revokedWorld` is reached by a Create and a Revoke. -/
theorem reachable_revokedWorld : Reachable id revokedWorld :=
  .step (.revoke revokeAllA) rootSession reachable_grantedWorld

/-- After a Create and a Revoke, the store holds one entry, and the consistency holds. -/
theorem key_record_after_revoke :
    revokedWorld.store.entries.length = 1 ∧
    (∀ k g, revokedWorld.store.get k = some g →
      g.id = k.gr ∧ g.ac = k.ac ∧ ∃ key, g.grant = .bearer ⟨k.gr, key⟩) ∧
    (∀ stmt opt k, ((computeRevoke stmt opt revokedWorld).2.store.get k).isSome =
      (revokedWorld.store.get k).isSome) ∧
    (∀ stmt opt v w', computePurge stmt opt revokedWorld = (.ok v, w') →
      ∃ b l, effectiveBase stmt.base opt = .ok b ∧ opt.level b = .ok l ∧
        w'.store.entries = revokedWorld.store.entries.filter fun e =>
          e.1 ∉ (purgeScan (purgeDue stmt) revokedWorld.clock revokedWorld.ticks
            (revokedWorld.store.part l stmt.ac)).map Prod.fst) :=
  ⟨by decide, key_record_consistency id revokedWorld reachable_revokedWorld⟩

end AccessGrants.Analysis

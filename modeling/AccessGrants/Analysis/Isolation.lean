import AccessGrants.Analysis.TwoRuns
import AccessGrants.Analysis.KeyRecord

/-!
# Tenant isolation

Every statement runs the shared prologue first (`openAccess`): the effective base, then
`is_allowed` for it, then the partition of the base and the access method's definition
there. A refusal by the first two ends the statement before anything is read or written.
After it, every step either touches neither grant entries nor catalog, or is one of a short
list of steps confined to the statement's partition `l` and access method `ac`: the lookup
of the method and of users at `l`, the namespace and database checks, and the reads,
inserts, writes and deletes of grant entries keyed under `(l, ac)`.

`Confined l ac R` says that each of those steps runs alike on `R`-related worlds; each
operation is then shown to run alike, once, for every such `R`. Two relations meet it:

* `AgreeAt l ac`: worlds that agree on the partition's grant entries, on the method's
  definition and the users at `l`, and on the namespaces, databases, clock, random source,
  the store's answers to writes and events; so the outcome depends on nothing else;
* `OutsideKept l ac s`: a world whose entries outside the partition are those of `s`; so no
  statement changes an entry outside its partition.
-/

set_option autoImplicit false

namespace AccessGrants

/-- The action a statement asks `is_allowed` for: viewing for Show, editing otherwise. -/
def AccessStatement.action : AccessStatement → Action
  | .show' _ => .view
  | _ => .edit

/-- The base a statement names, if any. -/
def AccessStatement.base : AccessStatement → Option Base
  | .grant s => s.base
  | .show' s => s.base
  | .revoke s => s.base
  | .purge s => s.base

/-- The access method a statement names. -/
def AccessStatement.ac : AccessStatement → String
  | .grant s => s.ac
  | .show' s => s.ac
  | .revoke s => s.ac
  | .purge s => s.ac

end AccessGrants

namespace AccessGrants.Analysis

open AccessGrants Txn

/-- A relation on worlds under which every step a statement on access method `ac` at level
`l` may take runs alike. -/
structure Confined (l : Level) (ac : String) (R : World → World → Prop) : Prop where
  blind : ∀ {α : Type} {m : Txn α}, Local m → Rel R Eq m m
  getAccess : Rel R Eq (getAccess l ac) (getAccess l ac)
  getUser : ∀ u, Rel R Eq (getUser l u) (getUser l u)
  getOrAddNs : ∀ ns strict, Rel R Eq (getOrAddNs ns strict) (getOrAddNs ns strict)
  getOrAddDb : ∀ ns db strict, Rel R Eq (getOrAddDb ns db strict) (getOrAddDb ns db strict)
  getGrant : ∀ gr, Rel R Eq (getGrant ⟨l, ac, gr⟩) (getGrant ⟨l, ac, gr⟩)
  allGrants : Rel R Eq (allGrants l ac) (allGrants l ac)
  put : ∀ gr v, Rel R Eq (put ⟨l, ac, gr⟩ v) (put ⟨l, ac, gr⟩ v)
  set : ∀ gr v, Rel R Eq (set ⟨l, ac, gr⟩ v) (set ⟨l, ac, gr⟩ v)
  del : ∀ gr, Rel R Eq (del ⟨l, ac, gr⟩) (del ⟨l, ac, gr⟩)

/-! ## Every operation stays in its partition -/

section Confined

variable {l : Level} {ac : String} {R : World → World → Prop} (hR : Confined l ac R)
  {opt : Options} {b : Base}

include hR

/-- INTERNAL: ensuring a level runs alike under a confined relation.
SOURCE: access.rs:693-702, 779-788 -/
theorem Confined.ensureLevel (l' : Level) (strict : Bool) :
    Rel R Eq (AccessGrants.ensureLevel l' strict) (AccessGrants.ensureLevel l' strict) := by
  cases l' with
  | root => exact Rel.pure rfl
  | ns ns => exact hR.getOrAddNs ns strict
  | db ns db => exact Rel.bind (hR.getOrAddNs ns strict) fun _ _ _ => hR.getOrAddDb ns db strict

omit hR in
/-- INTERNAL: the session's level computes to `l` in both runs. -/
theorem lift_level (hl : opt.level b = .ok l) :
    Rel R (fun x y => x = l ∧ y = l) (lift (opt.level b)) (lift (opt.level b)) :=
  Rel.mono (fun _ _ ⟨hxy, hx⟩ => by
    have := Except.ok.inj (hx.symm.trans hl); subst this; exact ⟨rfl, hxy.symm⟩) (Rel.lift _)

omit hR in
/-- INTERNAL: what follows the level lift runs on `l` in both runs. -/
theorem lift_level_bind {β : Type} {S : β → β → Prop} {f : Level → Txn β}
    (hl : opt.level b = .ok l) (hf : Rel R S (f l) (f l)) :
    Rel R S (lift (opt.level b) >>= f) (lift (opt.level b) >>= f) :=
  Rel.bind (lift_level hl) fun _ _ ⟨h₁, h₂⟩ => by subst h₁ h₂; exact hf

/-- INTERNAL: **the prologue** runs alike, and returns the effective base and a definition
named as the statement's method.
SOURCE: access.rs:304-333 -/
theorem openAccess_confined {act : Action} {base? : Option Base}
    (hb : effectiveBase base? opt = .ok b) (hl : opt.level b = .ok l) :
    Rel R (fun x y => x = y ∧ x.1 = b ∧ x.2.name = ac) (openAccess act base? ac opt)
      (openAccess act base? ac opt) := by
  have h : Rel R Eq (openAccess act base? ac opt) (openAccess act base? ac opt) := by
    unfold openAccess
    refine Rel.bind (Rel.lift _) fun b₁ b₂ ⟨h₁, hb₁⟩ => ?_
    subst h₁
    obtain rfl := Except.ok.inj (hb₁.symm.trans hb)
    exact Rel.bind (Rel.lift _) fun _ _ _ => lift_level_bind hl <|
      Rel.bind hR.getAccess fun _ _ h => Rel.pure (by rw [h])
  refine Rel.mono (fun x y ⟨hxy, hx⟩ => ⟨hxy, hx⟩) (Rel.post h fun w x w' hx => ?_)
  obtain ⟨base, d⟩ := x
  obtain ⟨-, hb', -, l', hl', hd⟩ := openAccess_ok hx
  obtain rfl := Except.ok.inj (hb'.symm.trans hb)
  exact ⟨rfl, Catalog.access_name hd⟩

/-- INTERNAL: what follows the prologue runs on the effective base and a definition named
as the statement's method, the same in both runs.
SOURCE: access.rs:304-333 -/
theorem openAccess_bind {β : Type} {act : Action} {base? : Option Base}
    {f : Base × DefineAccess → Txn β} (hb : effectiveBase base? opt = .ok b)
    (hl : opt.level b = .ok l)
    (hf : ∀ d : DefineAccess, d.name = ac → Rel R Eq (f (b, d)) (f (b, d))) :
    Rel R Eq (openAccess act base? ac opt >>= f) (openAccess act base? ac opt >>= f) :=
  Rel.bind (openAccess_confined hR hb hl) fun x _ ⟨hxy, hx, hname⟩ => by
    subst hxy hx
    exact hf x.2 hname

/-- INTERNAL: **putting a grant in the partition runs alike.**
SOURCE: access.rs:395-410, 500-515 -/
theorem putGrant_confined (gr : String) (v : AccessGrant) :
    Rel R Eq (putGrant ⟨l, ac, gr⟩ v) (putGrant ⟨l, ac, gr⟩ v) := by
  unfold putGrant
  refine Rel.bind (Rel.attempt (hR.put gr v)) fun r₁ r₂ h => ?_
  obtain rfl := OutcomeRel.eq h
  apply hR.blind
  rcases r₁ with e | ⟨⟩
  · dsimp only
    split_ifs
    · exact Local.bind (emit_local _) fun _ => Local.fail e
    · exact Local.bind (Local.pure _) fun _ => Local.fail e
  · exact Local.pure _

/-- INTERNAL: **Minting runs alike** and names the grant as the method.
SOURCE: access.rs:355-376 -/
theorem mintGrant_confined {d : DefineAccess} (hname : d.name = ac) (subject : Subject)
    (pfx : String) :
    Rel R (fun x y => x = y ∧ x.2.ac = ac) (mintGrant d subject pfx) (mintGrant d subject pfx) :=
  Rel.post (hR.blind (mintGrant_local _ _ _)) fun w x w' hx => by
    obtain ⟨grant, g⟩ := x
    obtain ⟨-, rfl⟩ := mintGrant_ok hx
    exact hname

/-- INTERNAL: Create's audit line and return run alike.
SOURCE: access.rs:403-414, 508-521 -/
theorem auditCreate_confined (g : AccessGrant) :
    Rel R Eq (do audit "create" g opt; pure g) (do audit "create" g opt; pure g) :=
  hR.blind (Local.bind (audit_local _ _ _) fun _ => Local.pure _)

/-- INTERNAL: **The record arm stays in its partition**: it writes at the session's
database only, which is `l`.
SOURCE: access.rs:339-415 -/
theorem createRecordGrant_confined (digest : String → String) (stmt : AccessStatementGrant)
    (hl : opt.level b = .ok l) {d : DefineAccess} (hname : d.name = ac)
    (bearer : Option BearerAccess) :
    Rel R Eq (createRecordGrant digest stmt opt b d bearer)
      (createRecordGrant digest stmt opt b d bearer) := by
  unfold createRecordGrant
  refine Rel.bind (hR.blind ?_) fun _ _ _ => Rel.bind (Rel.lift _) fun a₁ a₂ ⟨ha, _⟩ => ?_
  · unfold checkRecordSubject; split
    · exact Local.fail _
    · exact Local.ensure _ _
  subst ha
  refine Rel.bind (mintGrant_confined hR hname _ _) fun x y ⟨hxy, hxac⟩ => ?_
  subst hxy
  obtain ⟨grant, g⟩ := x
  dsimp only at hxac ⊢
  refine Rel.bind (?_ : Rel R Eq _ _) fun _ _ _ => auditCreate_confined hR g
  unfold putRecordGrant
  cases b with
  | db =>
    refine Rel.bind (Rel.lift _) fun p q ⟨hpq, hp⟩ => ?_
    subst hpq
    obtain ⟨ns, db⟩ := p
    have hl' : l = .db ns db := by simpa [Options.level, hp] using hl.symm
    subst hl' hxac
    exact Rel.bind (hR.getOrAddNs _ _) fun _ _ _ => Rel.bind (hR.getOrAddDb _ _ _) fun _ _ _ =>
      putGrant_confined hR _ _
  | root => exact Rel.fail _
  | ns => exact Rel.fail _
  | other => exact Rel.fail _

/-- INTERNAL: **The bearer arm stays in its partition**: it looks a user up at `l` only,
and writes at `l`.
SOURCE: access.rs:416-515 -/
theorem createBearerGrant_confined (digest : String → String) (stmt : AccessStatementGrant)
    (hl : opt.level b = .ok l) {d : DefineAccess} (hname : d.name = ac) (ba : BearerAccess) :
    Rel R Eq (createBearerGrant digest stmt opt b d ba)
      (createBearerGrant digest stmt opt b d ba) := by
  unfold createBearerGrant
  refine Rel.bind (?_ : Rel R Eq _ _) fun _ _ _ =>
    Rel.bind (mintGrant_confined hR hname _ _) fun x y ⟨hxy, hxac⟩ => ?_
  · unfold checkBearerSubject
    split
    · exact Rel.bind (Rel.ensure Iff.rfl _) fun _ _ _ => lift_level_bind hl (hR.getUser _)
    · exact hR.blind (Local.bind (Local.ensure _ _) fun _ => Local.ensure _ _)
  subst hxy
  obtain ⟨grant, g⟩ := x
  dsimp only at hxac ⊢
  subst hxac
  exact lift_level_bind hl <| Rel.bind (hR.ensureLevel _ _) fun _ _ _ =>
    Rel.bind (putGrant_confined hR _ _) fun _ _ _ => auditCreate_confined hR g

/-- INTERNAL: **Create stays in its partition**: the prologue, then one of the two arms.
SOURCE: access.rs:335-515 -/
theorem createGrant_confined (digest : String → String) {stmt : AccessStatementGrant}
    (hac : stmt.ac = ac) (hb : effectiveBase stmt.base opt = .ok b) (hl : opt.level b = .ok l) :
    Rel R Eq (createGrant digest stmt opt) (createGrant digest stmt opt) := by
  subst hac
  unfold createGrant
  refine openAccess_bind hR hb hl fun d hname => ?_
  dsimp only
  cases d.kind with
  | jwt => exact Rel.fail _
  | record bearer => exact createRecordGrant_confined hR digest stmt hl hname bearer
  | bearer ba => exact createBearerGrant_confined hR digest stmt hl hname ba

/-- INTERNAL: **Show stays in its partition**: a point read or a scan of `(l, ac)`.
SOURCE: access.rs:535-633 -/
theorem computeShow_confined {stmt : AccessStatementShow} (hac : stmt.ac = ac)
    (hb : effectiveBase stmt.base opt = .ok b) (hl : opt.level b = .ok l) :
    Rel R Eq (computeShow stmt opt) (computeShow stmt opt) := by
  subst hac
  unfold computeShow
  refine openAccess_bind hR hb hl fun d _ => ?_
  dsimp only
  cases stmt.gr with
  | some gr =>
    exact lift_level_bind hl <|
      Rel.bind (hR.getGrant gr) fun _ _ h => Rel.pure (by rw [h])
  | none =>
    exact lift_level_bind hl <|
      Rel.bind hR.allGrants fun _ _ h => h ▸ Rel.bind
        (hR.blind (Local.collect (showOne_local _) _)) fun _ _ h => Rel.pure (by rw [h])

/-- INTERNAL: **writing back a grant in the partition runs alike.**
SOURCE: access.rs:683-720, 764-804 -/
theorem revokeAs_confined (hl : opt.level b = .ok l) (gr : String) (g : AccessGrant) :
    Rel R Eq (revokeAs opt b ac gr g) (revokeAs opt b ac gr g) := by
  unfold revokeAs
  refine Rel.bind (hR.blind now_local) fun t₁ t₂ ht => ?_
  subst ht
  exact lift_level_bind hl <|
    Rel.bind (hR.ensureLevel _ _) fun _ _ _ => Rel.bind (hR.set _ _) fun _ _ _ =>
      Rel.bind (hR.blind (audit_local _ _ _)) fun _ _ _ => Rel.pure rfl

/-- INTERNAL: **Revoke stays in its partition**: it reads `(l, ac)` and writes back under
`l`, `ac` and a grant id.
SOURCE: access.rs:636-814 -/
theorem revokeGrant_confined {stmt : AccessStatementRevoke} (hac : stmt.ac = ac)
    (hb : effectiveBase stmt.base opt = .ok b) (hl : opt.level b = .ok l) :
    Rel R Eq (revokeGrant stmt opt) (revokeGrant stmt opt) := by
  subst hac
  unfold revokeGrant
  refine openAccess_bind hR hb hl fun d _ => ?_
  dsimp only
  cases stmt.gr with
  | some gr =>
    refine lift_level_bind hl ?_
    refine Rel.bind (hR.getGrant gr) fun g₁ g₂ h => ?_
    subst h
    exact Rel.bind (Rel.ensure Iff.rfl _) fun _ _ _ => Rel.bind (revokeAs_confined hR hl _ _)
      fun _ _ h => Rel.pure (by rw [h])
  | none =>
    refine lift_level_bind hl ?_
    refine Rel.bind hR.allGrants fun _ _ h => h ▸ Rel.bind (Rel.collect_eq (fun g => ?_) _)
      fun _ _ h => Rel.pure (by rw [h])
    unfold revokeOne
    split
    · exact Rel.pure rfl
    · refine Rel.bind (hR.blind (matchesCond_local _ _)) fun k₁ k₂ hk => ?_
      subst hk
      cases k₁
      · exact Rel.pure rfl
      · exact Rel.bind (revokeAs_confined hR hl _ _) fun _ _ h => Rel.pure (by rw [h])

/-- INTERNAL: **Purge stays in its partition**: it scans `(l, ac)` and deletes under `l`,
`ac` and a grant id.
SOURCE: access.rs:827-923 -/
theorem computePurge_confined {stmt : AccessStatementPurge} (hac : stmt.ac = ac)
    (hb : effectiveBase stmt.base opt = .ok b) (hl : opt.level b = .ok l) :
    Rel R Eq (computePurge stmt opt) (computePurge stmt opt) := by
  subst hac
  unfold computePurge
  refine openAccess_bind hR hb hl fun d _ => ?_
  dsimp only
  refine lift_level_bind hl ?_
  refine Rel.bind hR.allGrants fun _ _ h => h ▸ Rel.bind (Rel.collect_eq (fun g => ?_) _)
    fun _ _ h => Rel.pure (by rw [h])
  unfold purgeOne
  refine Rel.bind (hR.blind now_local) fun t₁ t₂ ht => ?_
  subst ht
  split
  · exact lift_level_bind hl <|
      Rel.bind (hR.del _) fun _ _ _ => Rel.bind (hR.blind (audit_local _ _ _)) fun _ _ _ =>
        Rel.pure rfl
  · exact Rel.pure rfl

/-- INTERNAL: **every statement stays in its partition.**
SOURCE: access.rs:928-944 -/
theorem compute_confined (digest : String → String) {stmt : AccessStatement}
    (hac : stmt.ac = ac) (hb : effectiveBase stmt.base opt = .ok b) (hl : opt.level b = .ok l) :
    Rel R Eq (stmt.compute digest opt) (stmt.compute digest opt) := by
  cases stmt with
  | grant s =>
    exact Rel.bind (createGrant_confined hR digest hac hb hl) fun _ _ h => Rel.pure (by rw [h])
  | show' s => exact computeShow_confined hR hac hb hl
  | revoke s =>
    exact Rel.bind (revokeGrant_confined hR hac hb hl) fun _ _ h => Rel.pure (by rw [h])
  | purge s => exact computePurge_confined hR hac hb hl

end Confined

/-! ## Worlds that agree on a partition -/

/-- Two worlds that agree on what a statement on access method `ac` at level `l` may read:
the partition's grant entries in scan order, the method's definition and the users at `l`,
the namespaces and databases, and the clock, random source, the store's answers to writes
and events. -/
structure AgreeAt (l : Level) (ac : String) (w₁ w₂ : World) : Prop where
  others : w₁.others = w₂.others
  part : w₁.store.part l ac = w₂.store.part l ac
  access : w₁.catalog.access l ac = w₂.catalog.access l ac
  users : ∀ u, (l, u) ∈ w₁.catalog.users ↔ (l, u) ∈ w₂.catalog.users
  namespaces : w₁.catalog.namespaces = w₂.catalog.namespaces
  databases : w₁.catalog.databases = w₂.catalog.databases

/-- INTERNAL: a step touching neither grant entries nor catalog runs alike on worlds that
agree on a partition. -/
theorem agreeAt_local {l : Level} {ac : String} {α : Type} {m : Txn α} (hm : Local m) :
    Rel (AgreeAt l ac) Eq m m := fun w₁ w₂ h => by
  obtain ⟨h₁, h₂, h₃⟩ := hm w₁ w₂.store w₂.catalog
  rw [World.eq_of_others h.others, h₁]
  exact ⟨OutcomeRel.refl _, rfl, by rw [h₂]; exact h.part, by rw [h₃]; exact h.access,
    by rw [h₃]; exact h.users, by rw [h₃]; exact h.namespaces, by rw [h₃]; exact h.databases⟩

/-- INTERNAL: **agreeing on a partition confines**: every step of a statement there runs
alike on worlds that agree on it. -/
theorem agreeAt_confined (l : Level) (ac : String) : Confined l ac (AgreeAt l ac) where
  blind := agreeAt_local
  getAccess w₁ w₂ h := by
    simp only [getAccess, h.access]
    split <;> exact ⟨rfl, h⟩
  getUser u w₁ w₂ h := by
    simp only [getUser, h.users u]
    split_ifs <;> exact ⟨rfl, h⟩
  getOrAddNs ns strict w₁ w₂ h := by
    simp only [getOrAddNs, h.namespaces]
    split_ifs
    · exact ⟨rfl, h⟩
    · exact ⟨rfl, h⟩
    · exact ⟨rfl, h.others, h.part, h.access, h.users, by simp [h.namespaces], h.databases⟩
  getOrAddDb ns db strict w₁ w₂ h := by
    simp only [getOrAddDb, h.databases]
    split_ifs
    · exact ⟨rfl, h⟩
    · exact ⟨rfl, h⟩
    · exact ⟨rfl, h.others, h.part, h.access, h.users, h.namespaces, by simp [h.databases]⟩
  getGrant gr w₁ w₂ h := by
    simp only [getGrant, Store.get_eq_lookup_part, h.part]
    split <;> exact ⟨rfl, h⟩
  allGrants w₁ w₂ h := ⟨show (w₁.store.part l ac).map _ = (w₂.store.part l ac).map _ by rw [h.part], h⟩
  put gr v := Rel.bind (agreeAt_local storeWrite_local) fun _ _ _ w₁ w₂ h => by
    simp only [insertEntry, Store.get_eq_lookup_part, h.part]
    split
    · exact ⟨rfl, h⟩
    · exact ⟨rfl, h.others, by simp only [Store.part_set, h.part], h.access, h.users,
        h.namespaces, h.databases⟩
  set gr v := Rel.bind (agreeAt_local storeWrite_local) fun _ _ _ w₁ w₂ h =>
    ⟨rfl, h.others, by simp only [setEntry, Store.part_set, h.part], h.access, h.users,
      h.namespaces, h.databases⟩
  del gr := Rel.bind (agreeAt_local storeWrite_local) fun _ _ _ w₁ w₂ h =>
    ⟨rfl, h.others, by simp only [delEntry, Store.part_del, h.part], h.access, h.users,
      h.namespaces, h.databases⟩

/-! ## Entries outside the partition -/

/-- A world whose grant entries outside the partition of `l` and `ac` are those of `s`,
related to itself. -/
def OutsideKept (l : Level) (ac : String) (s : Store) (w₁ w₂ : World) : Prop :=
  w₁ = w₂ ∧ ∀ k : GrantKey, ¬(k.level = l ∧ k.ac = ac) → w₁.store.get k = s.get k

/-- INTERNAL: a step that keeps every entry outside the partition keeps the rest as `s`. -/
theorem outsideKept_of {l : Level} {ac : String} {s : Store} {α : Type} {m : Txn α}
    (hm : ∀ w k, ¬(k.level = l ∧ k.ac = ac) → (m w).2.store.get k = w.store.get k) :
    Rel (OutsideKept l ac s) Eq m m := by
  rintro w _ ⟨rfl, hk⟩
  exact ⟨OutcomeRel.refl _, rfl, fun k hk' => (hm w k hk').trans (hk k hk')⟩

/-- INTERNAL: a step that keeps the grant entries keeps the rest as `s`. -/
theorem outsideKept_of_store {l : Level} {ac : String} {s : Store} {α : Type} {m : Txn α}
    (hm : ∀ w, (m w).2.store = w.store) : Rel (OutsideKept l ac s) Eq m m :=
  outsideKept_of fun w _ _ => by rw [hm w]

/-- INTERNAL: **writes in a partition keep the rest**: every step of a statement there
keeps the entries outside it. -/
theorem outsideKept_confined (l : Level) (ac : String) (s : Store) :
    Confined l ac (OutsideKept l ac s) where
  blind hm := outsideKept_of_store fun w => (hm w w.store w.catalog).2.1
  getAccess := outsideKept_of_store fun w => by rw [getAccess_same l ac w]
  getUser u := outsideKept_of_store fun w => by rw [getUser_world]
  getOrAddNs ns strict := outsideKept_of_store fun w => by
    obtain ⟨c, hc⟩ := getOrAddNs_world ns strict w; rw [hc]
  getOrAddDb ns db strict := outsideKept_of_store fun w => by
    obtain ⟨c, hc⟩ := getOrAddDb_world ns db strict w; rw [hc]
  getGrant gr := outsideKept_of_store fun w => by rw [getGrant_same _ w]
  allGrants := outsideKept_of_store fun w => by rw [allGrants_same l ac w]
  put gr v := Rel.bind (outsideKept_of_store fun _ => rfl) fun _ _ _ =>
    outsideKept_of fun w k hk => by
      unfold insertEntry; split
      · rfl
      · exact (Store.get_set _ _ _ _).trans (if_neg fun h => hk (by subst h; exact ⟨rfl, rfl⟩))
  set gr v := Rel.bind (outsideKept_of_store fun _ => rfl) fun _ _ _ =>
    outsideKept_of fun w k hk =>
      (Store.get_set _ _ _ _).trans (if_neg fun h => hk (by subst h; exact ⟨rfl, rfl⟩))
  del gr := Rel.bind (outsideKept_of_store fun _ => rfl) fun _ _ _ =>
    outsideKept_of fun w k hk =>
      (Store.get_del _ _ _).trans (if_neg fun h => hk (by subst h; exact ⟨rfl, rfl⟩))

/-! ## Refusals, and the isolation of every statement -/

/-- INTERNAL: **a failed prologue ends the statement** in the world it started in.
SOURCE: access.rs:304-333, 535-560, 636-660, 827-850 -/
theorem compute_of_openAccess_error (digest : String → String) (stmt : AccessStatement)
    (opt : Options) {w : World} {e : Error}
    (h : openAccess stmt.action stmt.base stmt.ac opt w = (.error e, w)) :
    stmt.compute digest opt w = (.error e, w) := by
  cases stmt <;> simp only [AccessStatement.action, AccessStatement.base, AccessStatement.ac] at h <;>
    simp only [AccessStatement.compute, computeGrant, createGrant, computeShow, computeRevoke,
      revokeGrant, computePurge, bind_apply, h]

/-- **Tenant isolation.** For every statement of the four kinds and every session: when the
effective base fails, or `is_allowed` refuses the statement's action on it, the statement
fails with that error in the world it started in, whatever that world holds; every grant
entry it changes is keyed under the partition of an allowed effective base and under the
statement's access method; and two worlds that agree on that partition's grant entries, on
the method's definition and the users at its level, and on the namespaces, databases,
clock, random source, the store's answers to writes and events, run the statement to the
same outcome and still agree afterwards. -/
theorem tenant_isolation (digest : String → String) (stmt : AccessStatement) (opt : Options) :
    (∀ w e, (effectiveBase stmt.base opt = .error e ∨
        ∃ b, effectiveBase stmt.base opt = .ok b ∧ opt.isAllowed stmt.action b = .error e) →
      stmt.compute digest opt w = (.error e, w)) ∧
    (∀ w k, (stmt.compute digest opt w).2.store.get k ≠ w.store.get k →
      ∃ b, effectiveBase stmt.base opt = .ok b ∧ opt.isAllowed stmt.action b = .ok () ∧
        opt.level b = .ok k.level ∧ k.ac = stmt.ac) ∧
    (∀ b l w₁ w₂, effectiveBase stmt.base opt = .ok b → opt.level b = .ok l →
      AgreeAt l stmt.ac w₁ w₂ →
      (stmt.compute digest opt w₁).1 = (stmt.compute digest opt w₂).1 ∧
        AgreeAt l stmt.ac (stmt.compute digest opt w₁).2 (stmt.compute digest opt w₂).2) := by
  refine ⟨fun w e h => compute_of_openAccess_error digest stmt opt ?_, fun w k hk => ?_,
    fun b l w₁ w₂ hb hl h => ?_⟩
  · rcases h with hb | ⟨b, hb, ha⟩
    · simp [openAccess, bind_apply, hb]
    · simp [openAccess, bind_apply, hb, ha]
  · by_contra hn
    apply hk
    have hpro : ∀ e, openAccess stmt.action stmt.base stmt.ac opt w = (.error e, w) →
        (stmt.compute digest opt w).2.store.get k = w.store.get k := fun e h => by
      rw [compute_of_openAccess_error digest stmt opt h]
    rcases hb : effectiveBase stmt.base opt with e | b
    · exact hpro e (by simp [openAccess, bind_apply, hb])
    rcases ha : opt.isAllowed stmt.action b with e | ⟨⟩
    · exact hpro e (by simp [openAccess, bind_apply, hb, ha])
    rcases hl : opt.level b with e | l
    · exact hpro e (by simp [openAccess, bind_apply, hb, ha, hl])
    exact (compute_confined (outsideKept_confined l stmt.ac w.store) digest rfl hb hl w w
      ⟨rfl, fun _ _ => rfl⟩).2.2 k fun ⟨hkl, hka⟩ => hn ⟨b, hb, ha, hkl ▸ hl, hka⟩
  · have h' := compute_confined (agreeAt_confined l stmt.ac) digest rfl hb hl w₁ w₂ h
    exact ⟨h'.1.eq, h'.2⟩

/-- `grantedWorld` with one more grant entry, of another method `b`. -/
def otherMethodWorld : World :=
  { grantedWorld with
    store := grantedWorld.store.set ⟨.root, "b", "y"⟩ { activeY with ac := "b" } }

/-- `grantedWorld` and a world that also holds a grant of method `b` agree on method `a` at
the root, and a `REVOKE ALL` of `a` runs on both to the same outcome and leaves them
agreeing. -/
theorem revoke_isolated_from_other_method :
    grantedWorld.store.entries ≠ otherMethodWorld.store.entries ∧
    AgreeAt .root "a" grantedWorld otherMethodWorld ∧
    ((AccessStatement.revoke revokeAllA).compute id rootSession grantedWorld).1 =
        ((AccessStatement.revoke revokeAllA).compute id rootSession otherMethodWorld).1 ∧
      AgreeAt .root "a"
        ((AccessStatement.revoke revokeAllA).compute id rootSession grantedWorld).2
        ((AccessStatement.revoke revokeAllA).compute id rootSession otherMethodWorld).2 :=
  have hA : AgreeAt .root "a" grantedWorld otherMethodWorld :=
    ⟨rfl, by decide, rfl, fun _ => Iff.rfl, rfl, rfl⟩
  ⟨by decide, hA,
    (tenant_isolation id (.revoke revokeAllA) rootSession).2.2 .root .root _ _ rfl rfl hA⟩

end AccessGrants.Analysis

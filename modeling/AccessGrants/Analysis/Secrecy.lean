import AccessGrants.Analysis.TwoRuns
import AccessGrants.Analysis.Loops

/-!
# The stored secrets never flow out

A grant's secret (a bearer key, or a JWT or record token) is what `redacted` replaces. Show,
Revoke and Purge hand out only redacted documents, to the caller and to the predicate, and
decide only on fields redaction keeps: the revocation and expiry times, the id, the method,
the subject and the payload's variant. So two worlds that differ only in the secrets of
their grant entries (`SecretTwin`) run any sequence of those statements alike: the same
outcomes, the same documents handed to predicates (each is logged as an `evaluate` event),
and worlds that still differ only in secrets, since Revoke writes back the grant it read
with only its revocation time changed.
-/

set_option autoImplicit false

namespace AccessGrants.Analysis

open AccessGrants Txn

/-- Entries with every grant redacted. -/
def redactEntries (es : List (GrantKey × AccessGrant)) : List (GrantKey × AccessGrant) :=
  es.map fun e => (e.1, e.2.redacted)

/-- INTERNAL: a lookup in redacted entries finds the redacted grant. -/
theorem lookup_redactEntries (k : GrantKey) (es : List (GrantKey × AccessGrant)) :
    lookup k (redactEntries es) = (lookup k es).map AccessGrant.redacted := by
  induction es with
  | nil => rfl
  | cons e es ih =>
    by_cases he : e.1 = k
    · simp [redactEntries, lookup, he]
    · simpa [redactEntries, lookup, he] using ih

/-- INTERNAL: redacting after a write is writing the redacted grant into redacted entries. -/
theorem redactEntries_write (k : GrantKey) (v : AccessGrant) (es : List (GrantKey × AccessGrant)) :
    redactEntries (write k v es) = write k v.redacted (redactEntries es) := by
  induction es with
  | nil => rfl
  | cons e es ih =>
    by_cases he : e.1 = k
    · simp [redactEntries, write, he]
    · simpa [redactEntries, write, he] using ih

/-- INTERNAL: redacting commutes with selecting entries by key. -/
theorem redactEntries_filter (p : GrantKey → Bool) (es : List (GrantKey × AccessGrant)) :
    redactEntries (es.filter fun e => p e.1) = (redactEntries es).filter fun e => p e.1 := by
  simp only [redactEntries, List.filter_map]
  rfl

/-- INTERNAL: the redacted grants of a scan are the scan of the redacted entries. -/
theorem scan_redacted (s : Store) (l : Level) (ac : String) :
    (s.scan l ac).map AccessGrant.redacted =
      ((redactEntries s.entries).filter fun e => decide (e.1.level = l ∧ e.1.ac = ac)).map Prod.snd := by
  rw [← redactEntries_filter (fun k => decide (k.level = l ∧ k.ac = ac))]
  simp only [Store.scan, Store.part, redactEntries, List.map_map]
  rfl

/-- INTERNAL: lists with equal images are related element by element by equal images. -/
theorem forall₂_of_map_eq {α γ : Type} {f : α → γ} :
    ∀ {l₁ l₂ : List α}, l₁.map f = l₂.map f → List.Forall₂ (fun a b => f a = f b) l₁ l₂
  | [], [], _ => .nil
  | _ :: _, _ :: _, h => by
    simp only [List.map_cons, List.cons.injEq] at h
    exact .cons h.1 (forall₂_of_map_eq h.2)
  | [], _ :: _, h => by simp at h
  | _ :: _, [], h => by simp at h

/-! ## Grants and worlds that differ only in secrets -/

/-- Two grants equal but for their secrets. -/
def GrantTwin (g₁ g₂ : AccessGrant) : Prop := g₁.redacted = g₂.redacted

namespace GrantTwin

variable {g₁ g₂ : AccessGrant} (h : GrantTwin g₁ g₂)

include h

/-- INTERNAL: twins are equal once redacted. -/
theorem redacted_eq : g₁.redacted = g₂.redacted := h

/-- INTERNAL: twins show the same document. -/
theorem view : g₁.view = g₂.view := by
  unfold AccessGrant.view; rw [h.redacted_eq]

/-- INTERNAL: twins have the same revocation time. -/
theorem revocation : g₁.revocation = g₂.revocation := by
  rw [← AccessGrant.redacted_revocation, h.redacted_eq, AccessGrant.redacted_revocation]

/-- INTERNAL: twins have the same expiry time. -/
theorem expiration : g₁.expiration = g₂.expiration := by
  rw [← AccessGrant.redacted_expiration, h.redacted_eq, AccessGrant.redacted_expiration]

/-- INTERNAL: twins have the same id. -/
theorem id : g₁.id = g₂.id := by
  rw [← AccessGrant.redacted_id, h.redacted_eq, AccessGrant.redacted_id]

/-- INTERNAL: twins given the same revocation time stay twins. -/
theorem setRevocation (t : Option Datetime) :
    GrantTwin { g₁ with revocation := t } { g₂ with revocation := t } := by
  unfold GrantTwin
  rw [AccessGrant.redacted_setRevocation g₁, AccessGrant.redacted_setRevocation g₂, h.redacted_eq]

/-- INTERNAL: the audit line of a grant holds no secret.
SOURCE: access.rs:403-414, 713-722, 797-806, 912-920 -/
theorem audit_eq (verb : String) (opt : Options) : audit verb g₁ opt = audit verb g₂ opt := by
  have hac : g₁.ac = g₂.ac := by
    rw [← AccessGrant.redacted_ac, h.redacted_eq, AccessGrant.redacted_ac]
  have hsub : g₁.subject = g₂.subject := by
    rw [← AccessGrant.redacted_subject, h.redacted_eq, AccessGrant.redacted_subject]
  have hvar : g₁.grant.variant = g₂.grant.variant := by
    rw [← AccessGrant.variant_redacted, h.redacted_eq, AccessGrant.variant_redacted]
  simp only [audit, hac, h.id, hsub, hvar]

/-- INTERNAL: the condition is computed on the redacted grant.
SOURCE: access.rs:603-623 -/
theorem matchesCond_eq (cond : Option Cond) : matchesCond cond g₁ = matchesCond cond g₂ := by
  simp only [matchesCond, h.view]

/-- INTERNAL: one iteration of the purge loop reads no secret.
SOURCE: access.rs:888-920 -/
theorem purgeOne_eq (stmt : AccessStatementPurge) (opt : Options) (base : Base) :
    purgeOne stmt opt base g₁ = purgeOne stmt opt base g₂ := by
  simp only [purgeOne, purgeDue, h.expiration, h.revocation, h.id, h.audit_eq, h.view]

/-- INTERNAL: one iteration of the show loop reads no secret.
SOURCE: access.rs:602-629 -/
theorem showOne_eq (cond : Option Cond) : showOne cond g₁ = showOne cond g₂ := by
  simp only [showOne, h.matchesCond_eq, h.view]

end GrantTwin

/-- Two worlds that differ at most in the secrets of their grant entries: the same keys in
the same order holding grants equal once redacted, the same catalog, and the same clock,
readings taken, random source, draws, store's answers to writes, writes asked and events. -/
structure SecretTwin (w₁ w₂ : World) : Prop where
  others : w₁.others = w₂.others
  catalog : w₁.catalog = w₂.catalog
  entries : redactEntries w₁.store.entries = redactEntries w₂.store.entries

/-- INTERNAL: a world's twin is the world with the twin's entries put in. -/
theorem SecretTwin.eq {w₁ w₂ : World} (h : SecretTwin w₁ w₂) : w₂ = { w₁ with store := w₂.store } := by
  rw [World.eq_of_others h.others, h.catalog]

/-! ## The steps, side by side -/

/-- INTERNAL: a step blind to the grant entries runs alike on worlds that differ only
there. -/
theorem secretTwin_blind {α : Type} {m : Txn α} (hm : StoreBlind m) : Rel SecretTwin Eq m m :=
  fun w₁ w₂ h => by
    obtain ⟨h₁, h₂⟩ := hm w₁ w₂.store
    rw [h.eq, h₁]
    exact ⟨OutcomeRel.refl _, rfl, rfl, by rw [h₂]; exact h.entries⟩

/-- INTERNAL: reading one key of twins gives twin grants, or the same error.
SOURCE: access.rs:571-584 -/
theorem getGrant_secret (k : GrantKey) : Rel SecretTwin GrantTwin (getGrant k) (getGrant k) :=
  fun w₁ w₂ h => by
    have hk : (w₁.store.get k).map AccessGrant.redacted = (w₂.store.get k).map AccessGrant.redacted := by
      simp only [Store.get, ← lookup_redactEntries, h.entries]
    simp only [getGrant]
    revert hk
    cases w₁.store.get k <;> cases w₂.store.get k <;> intro hk <;> simp at hk
    · exact ⟨rfl, h⟩
    · exact ⟨hk, h⟩

/-- INTERNAL: reading a partition of twins gives grants that are twins one by one.
SOURCE: access.rs:587-600 -/
theorem allGrants_secret (l : Level) (ac : String) :
    Rel SecretTwin (List.Forall₂ GrantTwin) (allGrants l ac) (allGrants l ac) := fun w₁ w₂ h => by
  have hs : (w₁.store.scan l ac).map AccessGrant.redacted =
      (w₂.store.scan l ac).map AccessGrant.redacted := by
    rw [scan_redacted, scan_redacted, h.entries]
  exact ⟨forall₂_of_map_eq hs, h⟩

/-- INTERNAL: writing grants that differ only in secrets keeps the worlds twins.
SOURCE: access.rs:691-703, 776-789 -/
theorem set_secret (k : GrantKey) {v₁ v₂ : AccessGrant} (hv : GrantTwin v₁ v₂) :
    Rel SecretTwin Eq (set k v₁) (set k v₂) :=
  Rel.bind (secretTwin_blind storeWrite_local.storeBlind) fun _ _ _ w₁ w₂ h =>
    ⟨rfl, h.others, h.catalog, by
      show redactEntries (write k v₁ w₁.store.entries) = redactEntries (write k v₂ w₂.store.entries)
      rw [redactEntries_write, redactEntries_write, hv, h.entries]⟩

/-- INTERNAL: deleting the same key keeps the worlds twins.
SOURCE: access.rs:893-903 -/
theorem del_secret (k : GrantKey) : Rel SecretTwin Eq (del k) (del k) :=
  Rel.bind (secretTwin_blind storeWrite_local.storeBlind) fun _ _ _ w₁ w₂ h =>
    ⟨rfl, h.others, h.catalog, by
      show redactEntries (w₁.store.entries.filter _) = redactEntries (w₂.store.entries.filter _)
      rw [redactEntries_filter (fun k' => decide (k' ≠ k)),
        redactEntries_filter (fun k' => decide (k' ≠ k)), h.entries]⟩

/-! ## Show, Revoke and Purge, side by side -/

/-- INTERNAL: **Show reads no secret**: it hands out redacted grants only.
SOURCE: access.rs:535-633 -/
theorem computeShow_secret (stmt : AccessStatementShow) (opt : Options) :
    Rel SecretTwin Eq (computeShow stmt opt) (computeShow stmt opt) := by
  unfold computeShow
  refine Rel.bind (secretTwin_blind (openAccess_storeBlind _ _ _ _)) fun x y hxy => ?_
  subst hxy
  obtain ⟨base, d⟩ := x
  dsimp only
  cases stmt.gr with
  | some gr =>
    refine Rel.bind (Rel.lift _) fun l₁ l₂ ⟨hl, _⟩ => ?_
    subst hl
    exact Rel.bind (getGrant_secret _) fun _ _ hg => Rel.pure hg.view
  | none =>
    refine Rel.bind (Rel.lift _) fun l₁ l₂ ⟨hl, _⟩ => ?_
    subst hl
    refine Rel.bind (allGrants_secret _ _) fun _ _ hgrs =>
      Rel.bind (Rel.collect (fun g₁ g₂ hg => ?_) hgrs) fun _ _ hvs => Rel.pure (by rw [forall₂_eq_of hvs])
    rw [hg.showOne_eq]
    exact Rel.mono (fun _ _ => optionRel_of_eq) (secretTwin_blind (showOne_local _ _).storeBlind)

/-- INTERNAL: **writing back a grant read** keeps the worlds twins: the written grants differ
only in their secrets, and the returned documents are equal.
SOURCE: access.rs:683-720, 764-804 -/
theorem revokeAs_secret {opt : Options} {base : Base} {ac gr : String} {g₁ g₂ : AccessGrant}
    (hg : GrantTwin g₁ g₂) : Rel SecretTwin Eq (revokeAs opt base ac gr g₁) (revokeAs opt base ac gr g₂) := by
  unfold revokeAs
  refine Rel.bind (secretTwin_blind now_local.storeBlind) fun t₁ t₂ ht => ?_
  subst ht
  refine Rel.bind (Rel.lift _) fun l₁ l₂ ⟨hl, _⟩ => ?_
  subst hl
  refine Rel.bind (secretTwin_blind (ensureLevel_storeBlind _ _)) fun _ _ _ =>
    Rel.bind (set_secret _ (hg.setRevocation _)) fun _ _ _ => ?_
  rw [(hg.setRevocation _).audit_eq]
  exact Rel.bind (secretTwin_blind (audit_local _ _ _).storeBlind) fun _ _ _ =>
    Rel.pure (hg.setRevocation _).view

/-- INTERNAL: one iteration of the bulk revoke loop runs alike on twin grants.
SOURCE: access.rs:738-806 -/
theorem revokeOne_secret {stmt : AccessStatementRevoke} {opt : Options} {base : Base}
    {g₁ g₂ : AccessGrant} (hg : GrantTwin g₁ g₂) :
    Rel SecretTwin (Option.Rel Eq) (revokeOne stmt opt base g₁) (revokeOne stmt opt base g₂) := by
  unfold revokeOne
  rw [hg.revocation, hg.matchesCond_eq, hg.id]
  split
  · exact Rel.pure .none
  · refine Rel.bind (secretTwin_blind (matchesCond_local _ _).storeBlind) fun k₁ k₂ hk => ?_
    subst hk
    cases k₁
    · exact Rel.pure .none
    · exact Rel.bind (revokeAs_secret hg) fun _ _ hv => Rel.pure (.some hv)

/-- INTERNAL: **Revoke reads no secret**: both paths decide on the revocation time and the
redacted document, and write back what they read with a new revocation time.
SOURCE: access.rs:636-814 -/
theorem computeRevoke_secret (stmt : AccessStatementRevoke) (opt : Options) :
    Rel SecretTwin Eq (computeRevoke stmt opt) (computeRevoke stmt opt) := by
  unfold computeRevoke
  refine Rel.bind (?_ : Rel SecretTwin Eq _ _) fun _ _ h => Rel.pure (by rw [h])
  unfold revokeGrant
  refine Rel.bind (secretTwin_blind (openAccess_storeBlind _ _ _ _)) fun x y hxy => ?_
  subst hxy
  obtain ⟨base, d⟩ := x
  dsimp only
  cases stmt.gr with
  | some gr =>
    refine Rel.bind (Rel.lift _) fun l₁ l₂ ⟨hl, _⟩ => ?_
    subst hl
    refine Rel.bind (getGrant_secret _) fun g₁ g₂ hg => ?_
    exact Rel.bind (Rel.ensure (by rw [hg.revocation]) _) fun _ _ _ =>
      Rel.bind (revokeAs_secret hg) fun _ _ hv => Rel.pure (by rw [hv])
  | none =>
    refine Rel.bind (Rel.lift _) fun l₁ l₂ ⟨hl, _⟩ => ?_
    subst hl
    exact Rel.bind (allGrants_secret _ _) fun _ _ hgrs =>
      Rel.bind (Rel.collect (fun _ _ hg => revokeOne_secret hg) hgrs) fun _ _ hvs =>
        Rel.pure (by rw [forall₂_eq_of hvs])

/-- INTERNAL: **Purge reads no secret**: it decides on the expiry and revocation times.
SOURCE: access.rs:827-923 -/
theorem computePurge_secret (stmt : AccessStatementPurge) (opt : Options) :
    Rel SecretTwin Eq (computePurge stmt opt) (computePurge stmt opt) := by
  unfold computePurge
  refine Rel.bind (secretTwin_blind (openAccess_storeBlind _ _ _ _)) fun x y hxy => ?_
  subst hxy
  obtain ⟨base, d⟩ := x
  dsimp only
  refine Rel.bind (Rel.lift _) fun l₁ l₂ ⟨hl, _⟩ => ?_
  subst hl
  refine Rel.bind (allGrants_secret _ _) fun _ _ hgrs =>
    Rel.bind (Rel.collect (fun g₁ g₂ hg => ?_) hgrs) fun _ _ hvs => Rel.pure (by rw [forall₂_eq_of hvs])
  rw [hg.purgeOne_eq]
  refine Rel.mono (fun _ _ => optionRel_of_eq) ?_
  unfold purgeOne
  refine Rel.bind (secretTwin_blind now_local.storeBlind) fun t₁ t₂ ht => ?_
  subst ht
  split
  · exact Rel.bind (Rel.lift _) fun l₁ l₂ ⟨hl, _⟩ => hl ▸ Rel.bind (del_secret _) fun _ _ _ =>
      Rel.bind (secretTwin_blind (audit_local _ _ _).storeBlind) fun _ _ _ => Rel.pure rfl
  · exact Rel.pure rfl

/-- INTERNAL: **one statement other than Create** runs alike on twins.
SOURCE: access.rs:928-944 -/
theorem compute_secret (digest : String → String) {stmt : AccessStatement}
    (hs : ∀ s, stmt ≠ .grant s) (opt : Options) :
    Rel SecretTwin Eq (stmt.compute digest opt) (stmt.compute digest opt) := by
  cases stmt with
  | grant s => exact absurd rfl (hs s)
  | show' s => exact computeShow_secret s opt
  | revoke s => exact computeRevoke_secret s opt
  | purge s => exact computePurge_secret s opt

/-- **Secret noninterference.** Two worlds that differ only in the secrets of their grant
entries (bearer keys, JWT and record tokens), run through the same sequence of Show, Revoke
and Purge statements with the same sessions, clock readings and predicates, give every
statement the same outcome, log the same events (so every predicate is handed the same
documents, in the same order), and end in worlds that again differ only in the secrets of
their grant entries. -/
theorem secret_noninterference (digest : String → String) (run : List (AccessStatement × Options))
    (hrun : ∀ x ∈ run, ∀ s, x.1 ≠ .grant s) (w₁ w₂ : World) (hw : SecretTwin w₁ w₂) :
    (runAll digest run w₁).1 = (runAll digest run w₂).1 ∧
      (runAll digest run w₁).2.events = (runAll digest run w₂).2.events ∧
      SecretTwin (runAll digest run w₁).2 (runAll digest run w₂).2 := by
  induction run generalizing w₁ w₂ with
  | nil => exact ⟨rfl, congrArg (·.2.2.2.2.2.2) hw.others, hw⟩
  | cons x run ih =>
    obtain ⟨stmt, opt⟩ := x
    have h := compute_secret digest (hrun _ (List.mem_cons_self _ _)) opt w₁ w₂ hw
    obtain ⟨hr, he, hw'⟩ := ih (fun y hy => hrun y (List.mem_cons_of_mem _ hy)) _ _ h.2
    exact ⟨by simp only [runAll, h.1.eq, hr], he, hw'⟩

/-- A live grant `g` holding the bearer key `key`. -/
def keyedGrant (key : String) : AccessGrant :=
  { id := "g", ac := "a", creation := ⟨0⟩, expiration := none, revocation := none,
    subject := .user "u", grant := .bearer ⟨"g", key⟩ }

/-- A world whose one grant, `keyedGrant key`, sits under its own id at the root. -/
def keyedWorld (key : String) : World :=
  { store := ⟨[(⟨.root, "a", "g"⟩, keyedGrant key)], List.nodup_singleton _⟩
    catalog := methodCatalog
    clock := fun _ => ⟨5⟩, ticks := 0, rng := fun _ => 0, draws := 0,
    faults := fun _ => none, writes := 0, events := [] }

/-- A Show, a Revoke and a Purge of method `a` at the root. -/
def showRevokePurge : List (AccessStatement × Options) :=
  [(.show' ⟨"a", some .root, none, none⟩, rootSession),
   (.revoke ⟨"a", some .root, none, none⟩, rootSession),
   (.purge ⟨"a", some .root, true, true, ⟨0⟩⟩, rootSession)]

/-- Worlds differing in one bearer key are twins, and run Show, Revoke and Purge alike. -/
theorem keys_do_not_interfere :
    (∀ x ∈ showRevokePurge, ∀ s, x.1 ≠ .grant s) ∧ SecretTwin (keyedWorld "h") (keyedWorld "k") ∧
    (runAll id showRevokePurge (keyedWorld "h")).1 = (runAll id showRevokePurge (keyedWorld "k")).1 ∧
      (runAll id showRevokePurge (keyedWorld "h")).2.events =
        (runAll id showRevokePurge (keyedWorld "k")).2.events ∧
      SecretTwin (runAll id showRevokePurge (keyedWorld "h")).2
        (runAll id showRevokePurge (keyedWorld "k")).2 :=
  have hrun : ∀ x ∈ showRevokePurge, ∀ s, x.1 ≠ .grant s := by simp [showRevokePurge]
  have hw : SecretTwin (keyedWorld "h") (keyedWorld "k") := ⟨rfl, rfl, rfl⟩
  ⟨hrun, hw, secret_noninterference id showRevokePurge hrun _ _ hw⟩

end AccessGrants.Analysis

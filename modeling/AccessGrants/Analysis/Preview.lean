import AccessGrants.Analysis.Revoke

/-!
# Show previews Revoke

A bulk Show and a bulk Revoke with the same access method, base and predicate, on the same
state, scan the same entries and hand the predicate the same redacted documents. Show keeps
every grant whose document passes; Revoke first skips the revoked ones, then keeps those
that pass, and revokes them at consecutive clock readings. So, when both succeed, Revoke
returns, in order, exactly Show's documents of the grants not yet revoked, each with its
`revocation` field set to its new time and every other field as Show listed it.
-/

set_option autoImplicit false

namespace AccessGrants.Analysis

open AccessGrants Txn

/-- A document with its `revocation` field set to `t`, every other field kept. -/
def withRevocation (t : Datetime) : Value → Value
  | .object fs => .object (fs.map fun f => if f.1 = "revocation" then (f.1, .ofDatetime (some t)) else f)
  | v => v

/-- INTERNAL: the redacted form of a revoked grant is the grant's redacted form with its
`revocation` field set.
SOURCE: access.rs:111-127 -/
theorem view_setRevocation (g : AccessGrant) (t : Datetime) :
    ({ g with revocation := some t } : AccessGrant).view = withRevocation t g.view := by
  simp [AccessGrant.view, AccessGrant.redacted, AccessGrant.toObject, withRevocation]

/-- INTERNAL: **the documents of `revokeScan`** are those of the grants not yet revoked that
pass, in scan order, each with its `revocation` field set to the next clock reading.
SOURCE: access.rs:738-806 -/
theorem revokeScan_views (keep : AccessGrant → Bool) (clock : ℕ → Datetime) (i : ℕ)
    (es : List (GrantKey × AccessGrant)) :
    (revokeScan keep clock i es).map (·.2.view) =
      ((es.map Prod.snd).filter fun g => g.revocation.isNone && keep g).mapIdx
        fun j g => withRevocation (clock (i + j)) g.view := by
  induction es generalizing i with
  | nil => rfl
  | cons e es ih =>
    obtain ⟨k, g⟩ := e
    by_cases hp : (g.revocation.isNone && keep g) = true
    · simp only [revokeScan, hp, if_true, List.map_cons, List.filter_cons, List.mapIdx_cons, ih,
        view_setRevocation, Nat.add_zero]
      congr 2
      funext j g
      rw [Nat.add_right_comm, Nat.add_assoc]
    · simp [revokeScan, hp, ih]

/-- INTERNAL: **the bulk show**: after the prologue, the redacted forms of the scanned
grants that pass the condition, in scan order; only documents are handed out.
SOURCE: access.rs:587-628 -/
theorem computeShow_bulk {stmt : AccessStatementShow} {opt : Options} {w w' : World} {v : Value}
    (hgr : stmt.gr = none) (h : computeShow stmt opt w = (.ok v, w')) :
    ∃ b l, effectiveBase stmt.base opt = .ok b ∧ opt.isAllowed .view b = .ok () ∧
      opt.level b = .ok l ∧
      v = .array (((w.store.scan l stmt.ac).filter (passes stmt.cond)).map AccessGrant.view) ∧
      ∃ evs, w' = { w with events := w.events ++ evs } := by
  obtain ⟨⟨b, ac⟩, w₁, h₁, h₂⟩ := bind_eq_ok h
  obtain ⟨rfl, hb, ha, -⟩ := openAccess_ok h₁
  simp only [hgr] at h₂
  obtain ⟨l, w₂, h₃, h₄⟩ := bind_eq_ok h₂
  obtain ⟨hl, rfl⟩ := lift_ok h₃
  obtain ⟨grs, w₃, h₅, h₆⟩ := bind_eq_ok h₄
  cases h₅
  obtain ⟨vs, w₄, h₇, h₈⟩ := bind_eq_ok h₆
  cases h₈
  obtain ⟨rfl, hw⟩ := collect_showOne stmt.cond _ h₇
  exact ⟨b, l, hb, ha, hl, rfl, hw⟩

/-- **Show previews Revoke.** When a bulk Show and a bulk Revoke with the same access method,
base and predicate both succeed on the same state, Show lists the redacted forms of some
grants, and Revoke returns, in order, exactly those of them not yet revoked, each with its
`revocation` field set to the clock reading that revoked it (consecutive readings from the
call's first) and every other field as Show listed it. -/
theorem show_previews_revoke (ac : String) (base : Option Base) (cond : Option Cond)
    (opt : Options) (w : World) (vs vr : Value) (ws wr : World)
    (hs : computeShow ⟨ac, base, none, cond⟩ opt w = (.ok vs, ws))
    (hr : revokeGrant ⟨ac, base, none, cond⟩ opt w = (.ok vr, wr)) :
    ∃ shown : List AccessGrant, vs = .array (shown.map AccessGrant.view) ∧
      vr = .array ((shown.filter (·.revocation.isNone)).mapIdx
        fun j g => withRevocation (w.clock (w.ticks + j)) g.view) := by
  obtain ⟨b, l, hb, -, hl, rfl, -⟩ := computeShow_bulk rfl hs
  obtain ⟨b', l', hb', -, hl', rfl, -⟩ := revokeGrant_bulk rfl hr
  obtain rfl : b' = b := Except.ok.inj (hb'.symm.trans hb)
  obtain rfl : l' = l := Except.ok.inj (hl'.symm.trans hl)
  refine ⟨_, rfl, ?_⟩
  rw [revokeScan_views, List.filter_filter]
  rfl

/-- A live bearer grant under its own id `g`. -/
def liveGrant : AccessGrant :=
  { id := "g", ac := "a", creation := ⟨0⟩, expiration := none, revocation := none,
    subject := .user "u", grant := .bearer ⟨"g", "h"⟩ }

/-- The root method `a` holding `liveGrant` and a revoked grant `r`, with the clock at 5 ns. -/
def previewWorld : World :=
  { store := ⟨[(⟨.root, "a", "g"⟩, liveGrant),
      (⟨.root, "a", "r"⟩, { liveGrant with id := "r", revocation := some ⟨0⟩, grant := .bearer ⟨"r", "h"⟩ })],
      by decide⟩
    catalog := methodCatalog, clock := fun _ => ⟨5⟩, ticks := 0, rng := fun _ => 0, draws := 0,
    faults := fun _ => none, writes := 0, events := [] }

/-- On `previewWorld` Show lists both grants and Revoke revokes `liveGrant` alone. -/
theorem preview_of_live_and_revoked :
    computeShow ⟨"a", some .root, none, none⟩ rootSession previewWorld =
        (.ok (.array (previewWorld.store.entries.map (·.2.view))),
          (computeShow ⟨"a", some .root, none, none⟩ rootSession previewWorld).2) ∧
      revokeGrant ⟨"a", some .root, none, none⟩ rootSession previewWorld =
        (.ok (.array [{ liveGrant with revocation := some ⟨5⟩ }.view]),
          (revokeGrant ⟨"a", some .root, none, none⟩ rootSession previewWorld).2) ∧
      ∃ shown : List AccessGrant,
        Value.array (previewWorld.store.entries.map (·.2.view)) = .array (shown.map AccessGrant.view) ∧
        Value.array [{ liveGrant with revocation := some ⟨5⟩ }.view] =
          .array ((shown.filter (·.revocation.isNone)).mapIdx
            fun j g => withRevocation (previewWorld.clock (previewWorld.ticks + j)) g.view) :=
  have hs : computeShow ⟨"a", some .root, none, none⟩ rootSession previewWorld =
      (.ok (.array (previewWorld.store.entries.map (·.2.view))),
        (computeShow ⟨"a", some .root, none, none⟩ rootSession previewWorld).2) := rfl
  have hr : revokeGrant ⟨"a", some .root, none, none⟩ rootSession previewWorld =
      (.ok (.array [{ liveGrant with revocation := some ⟨5⟩ }.view]),
        (revokeGrant ⟨"a", some .root, none, none⟩ rootSession previewWorld).2) := rfl
  ⟨hs, hr, show_previews_revoke _ _ _ _ _ _ _ _ _ hs hr⟩

end AccessGrants.Analysis

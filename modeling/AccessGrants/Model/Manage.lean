import Mathlib.Algebra.Group.Int
import AccessGrants.Model.Statement

/-!
# Show, Revoke and Purge

`compute_show`, `revoke_grant` and `compute_purge`. Each runs the shared prologue, then
either works on one grant named by id or scans every grant of the access method and
runs its loop over the scan:

* Show keeps the grants whose redacted form matches the condition and returns them
  redacted;
* Revoke skips revoked grants, then those not matching the condition, and sets the
  revocation time of each other grant to a fresh clock reading, writing it back under
  the scanned grant's own id;
* Purge takes a fresh clock reading per grant and deletes, under the grant's own id,
  each one whose expiry or revocation is more than the grace period past (in whole
  seconds, through `i64` saturating subtraction and a cast to `u64`).

Each loop is one `collect` over the scan with the loop body as a function of its own.
-/

set_option autoImplicit false

namespace AccessGrants

open Txn

/-! ## Show -/

/-- One iteration of `compute_show`'s loop. -/
def showOne (cond : Option Cond) (gr : AccessGrant) : Txn (Option Value) := do
  let keep ← matchesCond cond gr
  pure (if keep then some gr.view else none)

/-- One iteration of the show loop keeps the grant's redacted form exactly when it passes
the condition, and only hands out documents. -/
theorem showOne_ok {cond : Option Cond} {gr : AccessGrant} {w w' : World} {r : Option Value}
    (h : showOne cond gr w = (.ok r, w')) :
    r = (if passes cond gr then some gr.view else none) ∧
      ∃ evs, w' = { w with events := w.events ++ evs } := by
  obtain ⟨keep, w₁, h₁, h₂⟩ := bind_eq_ok h
  obtain ⟨-, hp, evs, rfl⟩ := matchesCond_ok h₁
  cases h₂
  exact ⟨by rw [hp], evs, rfl⟩

/-- `compute_show`. -/
def computeShow (stmt : AccessStatementShow) (opt : Options) : Txn Value := do
  let (base, _) ← openAccess .view stmt.base stmt.ac opt
  match stmt.gr with
  | some gr => do
    let l ← lift (opt.level base)
    let grant ← getGrant ⟨l, stmt.ac, gr⟩
    pure grant.view
  | none => do
    let l ← lift (opt.level base)
    let grs ← allGrants l stmt.ac
    let shown ← collect (showOne stmt.cond) grs
    pure (.array shown)

/-! ## Revoke -/

/-- The tail both paths of `revoke_grant` share: the revocation time set to a fresh clock
reading, the grant written back under `id` (ancestors ensured first), an audit line, and
the revoked grant's redacted form. -/
def revokeAs (opt : Options) (base : Base) (ac id : String) (gr : AccessGrant) : Txn Value := do
  let t ← now
  let gr := { gr with revocation := some t }
  let l ← lift (opt.level base)
  ensureLevel l opt.strict
  set ⟨l, ac, id⟩ gr
  audit "revoke" gr opt
  pure gr.view

/-- What a successful `revokeAs` did: the revocation time is the next clock reading, the
grant is written back under `id` at the partition of the base, and its redacted form is
returned. -/
theorem revokeAs_ok {opt : Options} {base : Base} {ac id : String} {gr : AccessGrant}
    {w w' : World} {v : Value} (h : revokeAs opt base ac id gr w = (.ok v, w')) :
    ∃ l, opt.level base = .ok l ∧
      v = { gr with revocation := some (w.clock w.ticks) }.view ∧
      w'.store = w.store.set ⟨l, ac, id⟩ { gr with revocation := some (w.clock w.ticks) } ∧
      w'.ticks = w.ticks + 1 ∧ w'.clock = w.clock := by
  obtain ⟨t, w₁, h₁, h₂⟩ := bind_eq_ok h
  cases h₁
  obtain ⟨l, w₂, h₃, h₄⟩ := bind_eq_ok h₂
  obtain ⟨hl, rfl⟩ := lift_ok h₃
  obtain ⟨_, w₃, h₅, h₆⟩ := bind_eq_ok h₄
  obtain ⟨_, w₄, h₇, h₈⟩ := bind_eq_ok h₆
  obtain ⟨_, w₅, h₉, h₁₀⟩ := bind_eq_ok h₈
  obtain ⟨c, hc⟩ := ensureLevel_world l opt.strict { w with ticks := w.ticks + 1 }
  rw [h₅] at hc
  cases hc; obtain ⟨-, rfl⟩ := set_ok h₇; cases h₉; cases h₁₀
  exact ⟨l, hl, rfl, rfl, rfl, rfl⟩

/-- `revokeAs` fails only where the partition is built or its ancestors ensured, or in
the store. -/
theorem revokeAs_errs {E : Error → Prop} {opt : Options} {base : Base} {ac id : String}
    {gr : AccessGrant} (hl : ∀ e, opt.level base = .error e → E e)
    (hns : ∀ ns, E (.nsNotFound ns)) (hdb : ∀ ns db, E (.dbNotFound ns db))
    (htx : ∀ msg, E (.tx msg)) : Errs E (revokeAs opt base ac id gr) :=
  Errs.bind now_errs fun _ => Errs.bind (Errs.lift hl) fun _ =>
    Errs.bind (ensureLevel_errs hns hdb) fun _ => Errs.bind (set_errs _ _ htx) fun _ =>
      Errs.bind (emit_errs _) fun _ => Errs.pure _

/-- A failed `revokeAs` failed before its write, or at it. -/
theorem revokeAs_onError (opt : Options) (base : Base) (ac id : String) (gr : AccessGrant) :
    OnError (Step.keeps World.store) (revokeAs opt base ac id gr) :=
  OnError.bind now_keeps_store fun _ => OnError.bind (Moves.lift _) fun l =>
    OnError.bind (ensureLevel_keeps_store l _) fun _ => OnError.bind_safe (set_onError _ _)
      fun _ => Errs.bind (emit_errs _) fun _ => Errs.pure _

/-- One iteration of `revoke_grant`'s bulk loop. -/
def revokeOne (stmt : AccessStatementRevoke) (opt : Options) (base : Base) (gr : AccessGrant) :
    Txn (Option Value) :=
  if gr.revocation.isSome then pure none
  else do
    let keep ← matchesCond stmt.cond gr
    if keep then do
      let v ← revokeAs opt base stmt.ac gr.id gr
      pure (some v)
    else pure none

/-- One iteration of the bulk revoke: a grant not yet revoked that passes the condition is
revoked as `revokeAs` does, under its own id at the base's partition `l`; any other grant is
skipped. -/
theorem revokeOne_ok {stmt : AccessStatementRevoke} {opt : Options} {base : Base} {l : Level}
    {gr : AccessGrant} {w w' : World} {r : Option Value} (hl : opt.level base = .ok l)
    (h : revokeOne stmt opt base gr w = (.ok r, w')) :
    w'.clock = w.clock ∧
      if gr.revocation.isNone && passes stmt.cond gr then
        r = some { gr with revocation := some (w.clock w.ticks) }.view ∧
        w'.store = w.store.set ⟨l, stmt.ac, gr.id⟩ { gr with revocation := some (w.clock w.ticks) } ∧
        w'.ticks = w.ticks + 1
      else r = none ∧ w'.store = w.store ∧ w'.ticks = w.ticks := by
  unfold revokeOne at h
  cases hr : gr.revocation with
  | some _ =>
    rw [hr] at h
    cases h
    simp
  | none =>
    rw [hr] at h
    obtain ⟨keep, w₁, h₁, h₂⟩ := bind_eq_ok h
    obtain ⟨-, hp, evs, rfl⟩ := matchesCond_ok h₁
    cases keep with
    | false => cases h₂; simp [hp]
    | true =>
      obtain ⟨v, w₂, h₃, h₄⟩ := bind_eq_ok h₂
      obtain ⟨l', hl', rfl, hs, ht, hc⟩ := revokeAs_ok h₃
      cases h₄
      obtain rfl : l' = l := Except.ok.inj (hl'.symm.trans hl)
      simp [hp, hs, ht, hc]

/-- `revoke_grant`. -/
def revokeGrant (stmt : AccessStatementRevoke) (opt : Options) : Txn Value := do
  let (base, _) ← openAccess .edit stmt.base stmt.ac opt
  match stmt.gr with
  | some gr => do
    let l ← lift (opt.level base)
    let revoke ← getGrant ⟨l, stmt.ac, gr⟩
    ensure (revoke.revocation = none) .accessGrantRevoked
    let v ← revokeAs opt base stmt.ac gr revoke
    pure (.array [v])
  | none => do
    let l ← lift (opt.level base)
    let grs ← allGrants l stmt.ac
    let revoked ← collect (revokeOne stmt opt base) grs
    pure (.array revoked)

/-- Modelled from the spec: `Array::from` of a value (not under src/), as Revoke returns
the collection of revoked grants: an array keeps its elements, any other value is
wrapped. -/
def Value.intoArray : Value → List Value
  | .array vs => vs
  | v => [v]

/-- `compute_revoke`. -/
def computeRevoke (stmt : AccessStatementRevoke) (opt : Options) : Txn Value := do
  let revoked ← revokeGrant stmt opt
  pure (.array revoked.intoArray)

/-! ## Purge -/

/-- `i64::saturating_sub`. -/
def satSubI64 (a b : Int) : Int := max (-2 ^ 63) (min (2 ^ 63 - 1) (a - b))

/-- `x as u64` for an `i64` `x`: its two's-complement bits read as unsigned. -/
def asU64 (x : Int) : Nat := (x % 2 ^ 64).toNat

/-- One side of the purge test, for an expiry or revocation time `t` and the reading `now`:
`now.timestamp() >= t.timestamp() && (now.timestamp().saturating_sub(t.timestamp()) as u64)
> grace.secs()`. -/
def pastGrace (grace : Duration) (now t : Datetime) : Bool :=
  decide (t.timestamp ≤ now.timestamp) &&
    decide (grace.secs < asU64 (satSubI64 now.timestamp t.timestamp))

/-- `purge_expired || purge_revoked` for one grant at the reading `now`. -/
def purgeDue (stmt : AccessStatementPurge) (gr : AccessGrant) (now : Datetime) : Bool :=
  (stmt.expired && gr.expiration.any (pastGrace stmt.grace now)) ||
    (stmt.revoked && gr.revocation.any (pastGrace stmt.grace now))

/-- One iteration of `compute_purge`'s loop. -/
def purgeOne (stmt : AccessStatementPurge) (opt : Options) (base : Base) (gr : AccessGrant) :
    Txn (Option Value) := do
  let t ← now
  if purgeDue stmt gr t then do
    let l ← lift (opt.level base)
    del ⟨l, stmt.ac, gr.id⟩
    audit "purge" gr opt
    pure (some gr.view)
  else pure none

/-- One iteration of the purge loop takes one clock reading; a grant due at it is deleted
under its own id at the base's partition `l`, any other is skipped. -/
theorem purgeOne_ok {stmt : AccessStatementPurge} {opt : Options} {base : Base} {l : Level}
    {gr : AccessGrant} {w w' : World} {r : Option Value} (hl : opt.level base = .ok l)
    (h : purgeOne stmt opt base gr w = (.ok r, w')) :
    w'.clock = w.clock ∧ w'.ticks = w.ticks + 1 ∧
      if purgeDue stmt gr (w.clock w.ticks) then
        r = some gr.view ∧ w'.store = w.store.del ⟨l, stmt.ac, gr.id⟩
      else r = none ∧ w'.store = w.store := by
  obtain ⟨t, w₁, h₁, h₂⟩ := bind_eq_ok h
  cases h₁
  by_cases hd : purgeDue stmt gr (w.clock w.ticks) = true
  · rw [if_pos hd] at h₂
    obtain ⟨l', w₂, h₃, h₄⟩ := bind_eq_ok h₂
    obtain ⟨hl', rfl⟩ := lift_ok h₃
    obtain rfl : l' = l := Except.ok.inj (hl'.symm.trans hl)
    obtain ⟨_, w₃, h₅, h₆⟩ := bind_eq_ok h₄
    obtain ⟨_, w₄, h₇, h₈⟩ := bind_eq_ok h₆
    obtain ⟨-, rfl⟩ := del_ok h₅; cases h₇; cases h₈
    simp [hd]
  · rw [if_neg hd] at h₂
    cases h₂
    simp [hd]

/-- `compute_purge`. -/
def computePurge (stmt : AccessStatementPurge) (opt : Options) : Txn Value := do
  let (base, _) ← openAccess .edit stmt.base stmt.ac opt
  let l ← lift (opt.level base)
  let grs ← allGrants l stmt.ac
  let purged ← collect (purgeOne stmt opt base) grs
  pure (.array purged)

end AccessGrants

import AccessGrants.Model.Manage

/-!
# The three scan loops

Show, Revoke and Purge each scan the grant entries of one access method at one partition
and run a loop body over the scanned grants in scan order. Each loop is described here by
a function over the scanned entries that says what the spec says the loop does:

* `revokeScan`: the entries not yet revoked whose grant passes the condition, each with the
  next clock reading as its revocation time (the loop reads the clock once per revoked
  grant);
* `purgeScan`: the entries due for purging, each judged at its own clock reading (the loop
  reads the clock once per scanned grant);
* Show keeps the grants that pass the condition.

Each run lemma says, for every scan and every world the loop starts in, that a successful
loop returns the redacted forms of exactly those grants, in scan order, and what it wrote:
one write (or delete) per selected grant, under the key built from the grant's own id.
Whether those are the scanned keys depends on the store, not on the loop.

The root session and the one-method catalog at the end are the setting of the concrete
runs of the Revoke and Purge analyses.
-/

set_option autoImplicit false

namespace AccessGrants.Analysis

open AccessGrants Txn

/-! ## The loops as the spec states them -/

/-- The revocations of a bulk revoke over scanned entries: each entry not yet revoked whose
grant passes `keep` gets the next clock reading (from the `i`-th on) as its revocation
time. -/
def revokeScan (keep : AccessGrant → Bool) (clock : ℕ → Datetime) :
    ℕ → List (GrantKey × AccessGrant) → List (GrantKey × AccessGrant)
  | _, [] => []
  | i, (k, g) :: es =>
    if g.revocation.isNone && keep g then
      (k, { g with revocation := some (clock i) }) :: revokeScan keep clock (i + 1) es
    else revokeScan keep clock i es

/-- The entries a purge deletes: each scanned entry is judged at its own clock reading,
from the `i`-th on. -/
def purgeScan (due : AccessGrant → Datetime → Bool) (clock : ℕ → Datetime) :
    ℕ → List (GrantKey × AccessGrant) → List (GrantKey × AccessGrant)
  | _, [] => []
  | i, (k, g) :: es =>
    if due g (clock i) then (k, g) :: purgeScan due clock (i + 1) es
    else purgeScan due clock (i + 1) es

/-- INTERNAL: a revocation is an entry of the scan, with only its revocation time set.
SOURCE: access.rs:738-806 -/
theorem mem_revokeScan {keep : AccessGrant → Bool} {clock : ℕ → Datetime} {i : ℕ}
    {es : List (GrantKey × AccessGrant)} {e : GrantKey × AccessGrant} (h : e ∈ revokeScan keep clock i es) :
    ∃ g t, (e.1, g) ∈ es ∧ g.revocation = none ∧ keep g = true ∧
      e.2 = { g with revocation := some t } := by
  induction es generalizing i with
  | nil => cases h
  | cons e' es ih =>
    obtain ⟨k, g⟩ := e'
    unfold revokeScan at h
    split_ifs at h with hs
    · simp only [Bool.and_eq_true, Option.isNone_iff_eq_none] at hs
      rcases List.mem_cons.mp h with rfl | h
      · exact ⟨g, _, List.mem_cons_self _ _, hs.1, hs.2, rfl⟩
      · obtain ⟨g', t, hm, h'⟩ := ih h; exact ⟨g', t, List.mem_cons_of_mem _ hm, h'⟩
    · obtain ⟨g', t, hm, h'⟩ := ih h; exact ⟨g', t, List.mem_cons_of_mem _ hm, h'⟩

/-- INTERNAL: the revoked keys are scanned keys, in scan order.
SOURCE: access.rs:738-806 -/
theorem keys_revokeScan_sublist (keep : AccessGrant → Bool) (clock : ℕ → Datetime) (i : ℕ)
    (es : List (GrantKey × AccessGrant)) :
    ((revokeScan keep clock i es).map Prod.fst).Sublist (es.map Prod.fst) := by
  induction es generalizing i with
  | nil => exact List.Sublist.slnil
  | cons e es ih =>
    unfold revokeScan
    split_ifs
    · exact (ih _).cons₂ _
    · exact (ih _).cons _

/-- INTERNAL: the purged entries are scanned entries, in scan order.
SOURCE: access.rs:874-922 -/
theorem purgeScan_sublist (due : AccessGrant → Datetime → Bool) (clock : ℕ → Datetime) (i : ℕ)
    (es : List (GrantKey × AccessGrant)) : (purgeScan due clock i es).Sublist es := by
  induction es generalizing i with
  | nil => exact List.Sublist.slnil
  | cons e es ih =>
    unfold purgeScan
    split_ifs
    · exact (ih _).cons₂ _
    · exact (ih _).cons _

/-! ## The loops as the code runs them -/

section Runs

variable {opt : Options} {base : Base} {l : Level}

/-- INTERNAL: **the show loop** returns the redacted forms of the grants that pass the
condition, in scan order, and only hands out documents.
SOURCE: access.rs:597-628 -/
theorem collect_showOne (cond : Option Cond) (grs : List AccessGrant) {w w' : World}
    {vs : List Value} (h : collect (showOne cond) grs w = (.ok vs, w')) :
    vs = (grs.filter (passes cond)).map AccessGrant.view ∧
      ∃ evs, w' = { w with events := w.events ++ evs } := by
  induction grs generalizing w vs with
  | nil => cases h; exact ⟨rfl, [], by simp⟩
  | cons g grs ih =>
    obtain ⟨r, w₁, h₁, h₂⟩ := bind_eq_ok h
    obtain ⟨rs, w₂, h₃, h₄⟩ := bind_eq_ok h₂
    cases h₄
    obtain ⟨rfl, evs, rfl⟩ := showOne_ok h₁
    obtain ⟨rfl, evs', rfl⟩ := ih h₃
    refine ⟨?_, evs ++ evs', by simp⟩
    by_cases hp : passes cond g <;> simp [hp]

/-- INTERNAL: **the bulk revoke loop** over scanned entries returns the redacted forms of
`revokeScan`'s revocations, in scan order, and writes each of them under its grant's own id
at the partition `l`, one clock reading per revocation.
SOURCE: access.rs:738-806 -/
theorem collect_revokeOne (stmt : AccessStatementRevoke) (hl : opt.level base = .ok l)
    (es : List (GrantKey × AccessGrant)) {w w' : World} {vs : List Value}
    (h : collect (revokeOne stmt opt base) (es.map Prod.snd) w = (.ok vs, w')) :
    vs = (revokeScan (passes stmt.cond) w.clock w.ticks es).map (·.2.view) ∧
      w'.store = (revokeScan (passes stmt.cond) w.clock w.ticks es).foldl
        (fun s e => s.set ⟨l, stmt.ac, e.2.id⟩ e.2) w.store ∧
      w'.ticks = w.ticks + (revokeScan (passes stmt.cond) w.clock w.ticks es).length ∧
      w'.clock = w.clock := by
  induction es generalizing w vs with
  | nil => cases h; simp [revokeScan]
  | cons e es ih =>
    obtain ⟨k, g⟩ := e
    obtain ⟨r, w₁, h₁, h₂⟩ := bind_eq_ok h
    obtain ⟨rs, w₂, h₃, h₄⟩ := bind_eq_ok h₂
    cases h₄
    obtain ⟨hvs, hs, ht, hc'⟩ := ih h₃
    obtain ⟨hc, hsel⟩ := revokeOne_ok hl h₁
    rw [hc] at hvs hs ht hc'
    by_cases hp : (g.revocation.isNone && passes stmt.cond g) = true <;>
      simp only [hp, if_true, if_false] at hsel <;>
      obtain ⟨rfl, hs₁, ht₁⟩ := hsel <;> rw [ht₁] at hvs hs ht <;> subst hvs <;>
      simp only [revokeScan, hp, if_true, if_false, List.map_cons, List.foldl_cons,
        List.length_cons]
    · exact ⟨rfl, hs₁ ▸ hs, by omega, hc'⟩
    · exact ⟨rfl, hs₁ ▸ hs, ht, hc'⟩

/-- INTERNAL: **the purge loop** over scanned entries returns the redacted forms of
`purgeScan`'s entries, in scan order, deletes each under its grant's own id at the
partition `l`, and reads the clock once per scanned grant.
SOURCE: access.rs:874-922 -/
theorem collect_purgeOne (stmt : AccessStatementPurge) (hl : opt.level base = .ok l)
    (es : List (GrantKey × AccessGrant)) {w w' : World} {vs : List Value}
    (h : collect (purgeOne stmt opt base) (es.map Prod.snd) w = (.ok vs, w')) :
    vs = (purgeScan (purgeDue stmt) w.clock w.ticks es).map (·.2.view) ∧
      w'.store = ((purgeScan (purgeDue stmt) w.clock w.ticks es).map
        fun e => (⟨l, stmt.ac, e.2.id⟩ : GrantKey)).foldl (fun s k => s.del k) w.store ∧
      w'.ticks = w.ticks + es.length ∧ w'.clock = w.clock := by
  induction es generalizing w vs with
  | nil => cases h; simp [purgeScan]
  | cons e es ih =>
    obtain ⟨k, g⟩ := e
    obtain ⟨r, w₁, h₁, h₂⟩ := bind_eq_ok h
    obtain ⟨rs, w₂, h₃, h₄⟩ := bind_eq_ok h₂
    cases h₄
    obtain ⟨hvs, hs, ht, hc'⟩ := ih h₃
    obtain ⟨hc, ht₁, hsel⟩ := purgeOne_ok hl h₁
    simp only [hc, ht₁] at hvs hs ht hc'
    subst hvs
    by_cases hd : purgeDue stmt g (w.clock w.ticks) = true <;>
      simp only [hd, if_true, if_false] at hsel <;> obtain ⟨rfl, hs₁⟩ := hsel <;>
      simp only [purgeScan, hd, if_true, if_false, List.map_cons, List.foldl_cons,
        List.length_cons] <;>
      exact ⟨rfl, hs₁ ▸ hs, by omega, hc'⟩

end Runs

/-! ## A root session over one bearer method -/

/-- A root session that is allowed everything. -/
def rootSession : Options := ⟨none, none, false, "root", fun _ _ => .ok ()⟩

/-- A catalog with one root-level bearer method `a`, for users. -/
def methodCatalog : Catalog := ⟨[(.root, ⟨"a", .bearer ⟨⟨"p"⟩, .user⟩, none⟩)], [], [], []⟩

end AccessGrants.Analysis

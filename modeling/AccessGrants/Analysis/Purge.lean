import AccessGrants.Analysis.Loops

/-!
# What `compute_purge` deletes

`compute_purge` (access.rs:858-925) reads the clock once per scanned grant and deletes
the grant when its expiry (resp. revocation) is more than the grace period past, comparing
whole-second timestamps through `i64::saturating_sub` guarded by `now >= t` and a cast to
`u64`.

*The arithmetic.* The guard keeps a future time from being selected. When the two
timestamps are less than `2^63` seconds apart, the subtraction does not saturate and the
cast does not wrap, so the comparison is the exact one over the integers:
`ts(now) − ts(t) > grace.secs()`.

*The grace period.* The comparison is on whole seconds: the grace's sub-second part is
dropped and both times are truncated to their second. A grant can therefore be deleted
before its full grace has elapsed (0.1 s after expiry with a grace of 0.5 s). What does
hold is that more than the grace's whole seconds have elapsed at nanosecond precision, so
the grant is expired (or revoked), never active, at that reading.

*The store.* Each grant is deleted under the key built from its own id, so the store loses
exactly the purged entries' keys where every scanned entry sits under its own grant id.
Elsewhere the delete can hit another entry: a due grant stored under the key of an active
grant's id deletes the active one.
-/

set_option autoImplicit false

namespace AccessGrants.Analysis

open AccessGrants Txn

/-! ## The arithmetic of one comparison -/

/-- INTERNAL: after the guard `b ≤ a` the saturating subtraction can only cap above.
SOURCE: access.rs:880-881 -/
theorem satSubI64_of_le {a b : ℤ} (h : b ≤ a) : satSubI64 a b = min (2 ^ 63 - 1) (a - b) := by
  unfold satSubI64; omega

/-- INTERNAL: the cast to `u64` keeps a value in range.
SOURCE: access.rs:881-889 -/
theorem asU64_of_nonneg {x : ℤ} (h₀ : 0 ≤ x) (h₁ : x < 2 ^ 64) : (asU64 x : ℤ) = x := by
  unfold asU64; rw [Int.emod_eq_of_lt h₀ h₁, Int.toNat_of_nonneg h₀]

/-- INTERNAL: **the guarded comparison, unfolded**: the guard held, and the grace's whole
seconds are below the capped difference of the timestamps.
SOURCE: access.rs:881-889 -/
theorem pastGrace_iff (grace : Duration) (now t : Datetime) :
    pastGrace grace now t = true ↔ t.timestamp ≤ now.timestamp ∧
      (grace.secs : ℤ) < min (2 ^ 63 - 1) (now.timestamp - t.timestamp) := by
  simp only [pastGrace, Bool.and_eq_true, decide_eq_true_eq]
  refine and_congr_right fun hle => ?_
  rw [satSubI64_of_le hle]
  have := asU64_of_nonneg (show 0 ≤ min (2 ^ 63 - 1) (now.timestamp - t.timestamp) by omega)
    (by omega)
  omega

/-- INTERNAL: **a future time is never past its grace**: the guard `now >= t` refuses it.
SOURCE: access.rs:880 -/
theorem pastGrace_of_lt {grace : Duration} {now t : Datetime} (h : now < t) :
    pastGrace grace now t = false := by
  cases hp : pastGrace grace now t
  · rfl
  · have := (pastGrace_iff grace now t).mp hp
    simp only [Datetime.timestamp, Datetime.lt_iff] at this h
    omega

/-- INTERNAL: **no saturation, no wrap**: timestamps less than `2^63` apart are compared
exactly.
SOURCE: access.rs:881-889 -/
theorem pastGrace_exact (grace : Duration) (now t : Datetime)
    (h : (now.timestamp - t.timestamp).natAbs < 2 ^ 63) :
    pastGrace grace now t = true ↔ (grace.secs : ℤ) < now.timestamp - t.timestamp := by
  rw [pastGrace_iff]
  omega

/-- INTERNAL: **what the whole-second comparison guarantees**: more than the grace's whole
seconds have elapsed, at nanosecond precision.
SOURCE: access.rs:881-889 -/
theorem pastGrace_elapsed {grace : Duration} {now t : Datetime} (h : pastGrace grace now t = true) :
    (grace.secs : ℤ) * 1000000000 < now.nanos - t.nanos := by
  have := (pastGrace_iff grace now t).mp h
  simp only [Datetime.timestamp] at this
  omega

/-! ## The purge run -/

/-- INTERNAL: every purged entry was scanned, and was due at one of the readings its
scan took.
SOURCE: access.rs:874-922 -/
theorem mem_purgeScan {due : AccessGrant → Datetime → Bool} {clock : ℕ → Datetime} {i : ℕ}
    {es : List (GrantKey × AccessGrant)} {e : GrantKey × AccessGrant}
    (h : e ∈ purgeScan due clock i es) :
    e ∈ es ∧ ∃ j, i ≤ j ∧ j < i + es.length ∧ due e.2 (clock j) = true := by
  induction es generalizing i with
  | nil => cases h
  | cons e' es ih =>
    obtain ⟨k, g⟩ := e'
    unfold purgeScan at h
    split_ifs at h with hd
    · rcases List.mem_cons.mp h with rfl | h
      · exact ⟨List.mem_cons_self _ _, i, le_rfl, by simp, hd⟩
      · obtain ⟨hm, j, hj₁, hj₂, hj⟩ := ih h
        exact ⟨List.mem_cons_of_mem _ hm, j, by omega, by simp; omega, hj⟩
    · obtain ⟨hm, j, hj₁, hj₂, hj⟩ := ih h
      exact ⟨List.mem_cons_of_mem _ hm, j, by omega, by simp; omega, hj⟩

/-- INTERNAL: **a successful purge**: after the prologue, `purgeScan`'s entries over the
scanned ones, returned redacted in scan order and deleted under their grants' own ids, one
clock reading per scanned grant.
SOURCE: access.rs:858-925 -/
theorem computePurge_ok {stmt : AccessStatementPurge} {opt : Options} {w w' : World} {v : Value}
    (h : computePurge stmt opt w = (.ok v, w')) :
    ∃ b l, effectiveBase stmt.base opt = .ok b ∧ opt.isAllowed .edit b = .ok () ∧
      opt.level b = .ok l ∧
      v = .array ((purgeScan (purgeDue stmt) w.clock w.ticks (w.store.part l stmt.ac)).map
        (·.2.view)) ∧
      w'.store = ((purgeScan (purgeDue stmt) w.clock w.ticks (w.store.part l stmt.ac)).map
        fun e => (⟨l, stmt.ac, e.2.id⟩ : GrantKey)).foldl (fun s k => s.del k) w.store ∧
      w'.ticks = w.ticks + (w.store.part l stmt.ac).length := by
  obtain ⟨⟨b, ac⟩, w₁, h₁, h₂⟩ := bind_eq_ok h
  obtain ⟨rfl, hb, ha, -⟩ := openAccess_ok h₁
  obtain ⟨l, w₂, h₃, h₄⟩ := bind_eq_ok h₂
  obtain ⟨hl, rfl⟩ := lift_ok h₃
  obtain ⟨grs, w₃, h₅, h₆⟩ := bind_eq_ok h₄
  cases h₅
  obtain ⟨vs, w₄, h₇, h₈⟩ := bind_eq_ok h₆
  cases h₈
  obtain ⟨rfl, hs, ht, -⟩ := collect_purgeOne stmt hl _ h₇
  exact ⟨b, l, hb, ha, hl, rfl, hs, by simpa using ht⟩

/-- INTERNAL: **deleted where it was scanned**: when every scanned entry sits under its own
grant id, the purge removes exactly the purged entries' keys.
SOURCE: access.rs:874-922 -/
theorem entries_after_purgeScan (s : Store) {l : Level} {ac : String}
    (due : AccessGrant → Datetime → Bool) (clock : ℕ → Datetime) (i : ℕ)
    (hid : ∀ e ∈ s.part l ac, e.1.gr = e.2.id) :
    (((purgeScan due clock i (s.part l ac)).map fun e => (⟨l, ac, e.2.id⟩ : GrantKey)).foldl
      (fun s k => s.del k) s).entries =
      s.entries.filter fun e => e.1 ∉ (purgeScan due clock i (s.part l ac)).map Prod.fst := by
  rw [← Store.entries_foldl_del]
  congr 2
  refine List.map_congr_left fun e he => ?_
  have hm := (purgeScan_sublist _ _ _ _).subset he
  obtain ⟨hlev, hac⟩ := Store.key_of_mem_part hm
  have hgr := hid e hm
  rcases e with ⟨⟨_, _, _⟩, _⟩
  simp_all

/-- INTERNAL: **an entry the purge removed was selected**: where every scanned entry sits
under its own grant id, an entry present before the deletions and absent after is one of
`purgeScan`'s.
SOURCE: access.rs:893-910 -/
theorem mem_purgeScan_of_removed (s : Store) {l : Level} {ac : String}
    (due : AccessGrant → Datetime → Bool) (clock : ℕ → Datetime) (i : ℕ)
    (hid : ∀ e ∈ s.part l ac, e.1.gr = e.2.id) {k : GrantKey} {g : AccessGrant}
    (hg : s.get k = some g)
    (hk : (((purgeScan due clock i (s.part l ac)).map fun e => (⟨l, ac, e.2.id⟩ : GrantKey)).foldl
      (fun s k => s.del k) s).get k = none) :
    (k, g) ∈ purgeScan due clock i (s.part l ac) := by
  rw [Store.get, entries_after_purgeScan s due clock i hid] at hk
  by_cases hm : k ∈ (purgeScan due clock i (s.part l ac)).map Prod.fst
  · obtain ⟨e, he, rfl⟩ := List.mem_map.1 hm
    obtain rfl : g = e.2 := Option.some.inj
      (hg.symm.trans (Store.get_of_mem_part ((purgeScan_sublist _ _ _ _).subset he)))
    exact he
  · rw [@lookup_filter_of (fun k' => decide (k' ∉ _)) k (by simpa using hm)] at hk
    exact absurd (hk.symm.trans hg) nofun

/-- INTERNAL: **when a grant is due**: its expiry is past the grace and expired grants
are purged, or its revocation is past the grace and revoked grants are purged.
SOURCE: access.rs:876-892 -/
theorem purgeDue_iff (stmt : AccessStatementPurge) (gr : AccessGrant) (now : Datetime) :
    purgeDue stmt gr now = true ↔
      (stmt.expired = true ∧ ∃ x, gr.expiration = some x ∧ pastGrace stmt.grace now x = true) ∨
      (stmt.revoked = true ∧ ∃ r, gr.revocation = some r ∧ pastGrace stmt.grace now r = true) := by
  rcases gr with ⟨_, _, _, _ | x, _ | r, _, _⟩ <;> simp [purgeDue]

/-- INTERNAL: a grant due for purging is not active at that reading: it is expired, or
revoked.
SOURCE: access.rs:881-891 -/
theorem isActive_of_purgeDue {stmt : AccessStatementPurge} {gr : AccessGrant} {now : Datetime}
    (h : purgeDue stmt gr now = true) : gr.isActive now = false := by
  rcases (purgeDue_iff stmt gr now).mp h with ⟨-, x, hx, hp⟩ | ⟨-, r, hr, -⟩
  · have := pastGrace_elapsed hp
    have hlt : x < now := by rw [Datetime.lt_iff]; omega
    simp [AccessGrant.isActive, AccessGrant.isExpired, hx, hlt]
  · simp [AccessGrant.isActive, AccessGrant.isRevoked, hr]

/-! ## The grace period -/

/-- A grant judged, at a clock reading `j` taken from the `i`-th to before the `i'`-th, more
than the grace's whole seconds past its expiry, expired grants being purged, or past its
revocation, revoked grants being purged, at nanosecond precision; and so not active at that
reading. -/
def PastGraceAt (stmt : AccessStatementPurge) (clock : ℕ → Datetime) (i i' : ℕ)
    (g : AccessGrant) : Prop :=
  ∃ j, i ≤ j ∧ j < i' ∧
    ((stmt.expired = true ∧ ∃ x, g.expiration = some x ∧
        (stmt.grace.secs : ℤ) * 1000000000 < (clock j).nanos - x.nanos) ∨
      (stmt.revoked = true ∧ ∃ r, g.revocation = some r ∧
        (stmt.grace.secs : ℤ) * 1000000000 < (clock j).nanos - r.nanos)) ∧
    g.isActive (clock j) = false

/-- INTERNAL: **every purged entry is past its grace** at the reading its iteration took.
SOURCE: access.rs:874-892 -/
theorem pastGraceAt_of_mem_purgeScan {stmt : AccessStatementPurge} {clock : ℕ → Datetime}
    {i : ℕ} {es : List (GrantKey × AccessGrant)} {e : GrantKey × AccessGrant}
    (he : e ∈ purgeScan (purgeDue stmt) clock i es) : PastGraceAt stmt clock i (i + es.length) e.2 := by
  obtain ⟨-, j, hj₁, hj₂, hd⟩ := mem_purgeScan he
  refine ⟨j, hj₁, hj₂, ?_, isActive_of_purgeDue hd⟩
  exact ((purgeDue_iff _ _ _).mp hd).imp (And.imp_right fun ⟨x, hx, hp⟩ => ⟨x, hx, pastGrace_elapsed hp⟩)
    (And.imp_right fun ⟨r, hr, hp⟩ => ⟨r, hr, pastGrace_elapsed hp⟩)

/-- **Purge after the grace's whole seconds.** A successful `compute_purge` reports the
redacted forms of `purgeScan`'s entries and deletes, in every store, the key built from each
one's own grant id; each grant it reports was judged at a clock reading of its own, taken
during the call, more than the grace's whole seconds past its expiry (expired flag set) or
its revocation (revoked flag set), at nanosecond precision, so not active then. Where every
scanned entry sits under its own grant id, every entry the purge removed is such a grant:
none is active at the reading it was judged at. -/
theorem purge_after_grace_seconds (stmt : AccessStatementPurge) (opt : Options) (w : World) :
    ∀ v w', computePurge stmt opt w = (.ok v, w') →
      ∃ b l, effectiveBase stmt.base opt = .ok b ∧ opt.level b = .ok l ∧
        v = .array ((purgeScan (purgeDue stmt) w.clock w.ticks (w.store.part l stmt.ac)).map
          (·.2.view)) ∧
        w'.store = ((purgeScan (purgeDue stmt) w.clock w.ticks (w.store.part l stmt.ac)).map
          fun e => (⟨l, stmt.ac, e.2.id⟩ : GrantKey)).foldl (fun s k => s.del k) w.store ∧
        (∀ e ∈ purgeScan (purgeDue stmt) w.clock w.ticks (w.store.part l stmt.ac),
          PastGraceAt stmt w.clock w.ticks w'.ticks e.2) ∧
        ((∀ e ∈ w.store.part l stmt.ac, e.1.gr = e.2.id) →
          ∀ k g, w.store.get k = some g → w'.store.get k = none →
            PastGraceAt stmt w.clock w.ticks w'.ticks g) := by
  intro v w' h
  obtain ⟨b, l, hb, -, hl, hv, hs, ht⟩ := computePurge_ok h
  have hpast : ∀ e ∈ purgeScan (purgeDue stmt) w.clock w.ticks (w.store.part l stmt.ac),
      PastGraceAt stmt w.clock w.ticks w'.ticks e.2 := fun e he => ht ▸ pastGraceAt_of_mem_purgeScan he
  exact ⟨b, l, hb, hl, hv, hs, hpast, fun hid k g hg hk =>
    hpast _ (mem_purgeScan_of_removed _ _ _ _ hid hg (hs ▸ hk))⟩

/-- A bearer grant under its own id `g`, expired 0.9 s after the clock's origin. -/
def earlyGrant : AccessGrant :=
  { id := "g", ac := "a", creation := ⟨0⟩, expiration := some ⟨900000000⟩, revocation := none,
    subject := .user "u", grant := .bearer ⟨"g", "h"⟩ }

/-- The root-level bearer method `a` holding `earlyGrant`, with the clock at 1.0 s. -/
def earlyWorld : World :=
  { store := ⟨[(⟨.root, "a", "g"⟩, earlyGrant)], List.nodup_singleton _⟩
    catalog := methodCatalog
    clock := fun _ => ⟨1000000000⟩, ticks := 0, rng := fun _ => 0, draws := 0,
    faults := fun _ => none, writes := 0, events := [] }

/-- `ACCESS a ON ROOT PURGE EXPIRED FOR 500ms`. -/
def earlyPurge : AccessStatementPurge := ⟨"a", some .root, true, false, ⟨500000000⟩⟩

/-- A revoked grant whose id `y` differs from the key id `x` it is stored under. -/
def strayRevoked : AccessGrant :=
  { id := "y", ac := "a", creation := ⟨0⟩, expiration := none, revocation := some ⟨0⟩,
    subject := .user "u", grant := .bearer ⟨"y", "h"⟩ }

/-- An active grant under its own id `y`. -/
def activeY : AccessGrant := { strayRevoked with revocation := none }

/-- The root-level bearer method `a` holding `strayRevoked` at key id `x` and `activeY` at
key id `y`, with the clock at 10 s. -/
def strayActiveWorld : World :=
  { store := ⟨[(⟨.root, "a", "x"⟩, strayRevoked), (⟨.root, "a", "y"⟩, activeY)], by decide⟩
    catalog := methodCatalog
    clock := fun _ => ⟨10000000000⟩, ticks := 0, rng := fun _ => 0, draws := 0,
    faults := fun _ => none, writes := 0, events := [] }

/-- `ACCESS a ON ROOT PURGE REVOKED`. -/
def purgeRevoked : AccessStatementPurge := ⟨"a", some .root, false, true, ⟨0⟩⟩

/-- The purge deletes grants the claim's words keep: with a grace of 0.5 s it deletes, at
the reading 1.0 s, a grant that expired at 0.9 s, only 0.1 s of its grace elapsed; and a
purge of revoked grants, judging the revoked grant `y` stored at key id `x`, deletes the key
of its id `y`, where the active grant `activeY` is stored. -/
theorem purge_deletes_undue_entries :
    earlyWorld.store.get ⟨.root, "a", "g"⟩ = some earlyGrant ∧
    (computePurge earlyPurge rootSession earlyWorld).2.store.get ⟨.root, "a", "g"⟩ = none ∧
    (earlyWorld.clock 0).nanos - 900000000 < earlyPurge.grace.nanos ∧
    strayActiveWorld.store.get ⟨.root, "a", "y"⟩ = some activeY ∧
    activeY.isActive (strayActiveWorld.clock 0) = true ∧
    (computePurge purgeRevoked rootSession strayActiveWorld).2.store.get ⟨.root, "a", "y"⟩ = none := by
  decide

/-- The purge of `earlyWorld` succeeds, reports and deletes `earlyGrant`, judged at the first
clock reading of the call. -/
theorem early_purge_reported :
    computePurge earlyPurge rootSession earlyWorld =
        (.ok (.array [earlyGrant.view]), (computePurge earlyPurge rootSession earlyWorld).2) ∧
      ∃ b l, effectiveBase earlyPurge.base rootSession = .ok b ∧ rootSession.level b = .ok l ∧
        Value.array [earlyGrant.view] = .array ((purgeScan (purgeDue earlyPurge) earlyWorld.clock
          earlyWorld.ticks (earlyWorld.store.part l earlyPurge.ac)).map (·.2.view)) ∧
        (computePurge earlyPurge rootSession earlyWorld).2.store =
          ((purgeScan (purgeDue earlyPurge) earlyWorld.clock earlyWorld.ticks
            (earlyWorld.store.part l earlyPurge.ac)).map
              fun e => (⟨l, earlyPurge.ac, e.2.id⟩ : GrantKey)).foldl (fun s k => s.del k)
            earlyWorld.store ∧
        (∀ e ∈ purgeScan (purgeDue earlyPurge) earlyWorld.clock earlyWorld.ticks
            (earlyWorld.store.part l earlyPurge.ac),
          PastGraceAt earlyPurge earlyWorld.clock earlyWorld.ticks
            (computePurge earlyPurge rootSession earlyWorld).2.ticks e.2) ∧
        ((∀ e ∈ earlyWorld.store.part l earlyPurge.ac, e.1.gr = e.2.id) →
          ∀ k g, earlyWorld.store.get k = some g →
            (computePurge earlyPurge rootSession earlyWorld).2.store.get k = none →
            PastGraceAt earlyPurge earlyWorld.clock earlyWorld.ticks
              (computePurge earlyPurge rootSession earlyWorld).2.ticks g) :=
  have h : computePurge earlyPurge rootSession earlyWorld =
      (.ok (.array [earlyGrant.view]), (computePurge earlyPurge rootSession earlyWorld).2) := rfl
  ⟨h, purge_after_grace_seconds earlyPurge rootSession earlyWorld _ _ h⟩

/-! ## The selection -/

/-- **Purge selects by exact integer arithmetic.** A future expiry or revocation is never
past its grace. When the timestamps compared are less than `2^63` seconds apart, a grant is
due exactly when (expired flag set, expiration `e`, `ts(now) − ts(e) > grace.secs()`) or
(revoked flag set, revocation `r`, `ts(now) − ts(r) > grace.secs()`) over the integers. A
successful `compute_purge` returns, in scan order, the redacted forms of exactly the scanned
grants due at their own clock readings, and in every store deletes, in that order, the key
built from each one's own grant id; so when every scanned entry sits under its own grant
id, the store afterwards is the store before with exactly those entries' keys removed. -/
theorem purge_selects_exactly (stmt : AccessStatementPurge) (opt : Options) (w : World) :
    (∀ now t : Datetime, now < t → pastGrace stmt.grace now t = false) ∧
    (∀ (gr : AccessGrant) (now : Datetime),
      (∀ x, gr.expiration = some x → (now.timestamp - x.timestamp).natAbs < 2 ^ 63) →
      (∀ r, gr.revocation = some r → (now.timestamp - r.timestamp).natAbs < 2 ^ 63) →
      (purgeDue stmt gr now = true ↔
        (stmt.expired = true ∧ ∃ x, gr.expiration = some x ∧
          (stmt.grace.secs : ℤ) < now.timestamp - x.timestamp) ∨
        (stmt.revoked = true ∧ ∃ r, gr.revocation = some r ∧
          (stmt.grace.secs : ℤ) < now.timestamp - r.timestamp))) ∧
    (∀ v w', computePurge stmt opt w = (.ok v, w') →
      ∃ b l, effectiveBase stmt.base opt = .ok b ∧ opt.level b = .ok l ∧
        v = .array ((purgeScan (purgeDue stmt) w.clock w.ticks (w.store.part l stmt.ac)).map
          (·.2.view)) ∧
        w'.store = ((purgeScan (purgeDue stmt) w.clock w.ticks (w.store.part l stmt.ac)).map
          fun e => (⟨l, stmt.ac, e.2.id⟩ : GrantKey)).foldl (fun s k => s.del k) w.store ∧
        ((∀ e ∈ w.store.part l stmt.ac, e.1.gr = e.2.id) →
          w'.store.entries = w.store.entries.filter fun e =>
            e.1 ∉ (purgeScan (purgeDue stmt) w.clock w.ticks (w.store.part l stmt.ac)).map
              Prod.fst)) := by
  refine ⟨fun _ _ h => pastGrace_of_lt h, fun gr now hx hr => ?_, fun v w' h => ?_⟩
  · rw [purgeDue_iff]
    exact or_congr
      (and_congr_right fun _ => exists_congr fun x => and_congr_right fun hx' =>
        pastGrace_exact _ _ _ (hx x hx'))
      (and_congr_right fun _ => exists_congr fun r => and_congr_right fun hr' =>
        pastGrace_exact _ _ _ (hr r hr'))
  · obtain ⟨b, l, hb, -, hl, hv, hs, -⟩ := computePurge_ok h
    exact ⟨b, l, hb, hl, hv, hs, fun hid => hs ▸ entries_after_purgeScan _ _ _ _ hid⟩

/-- The root-level bearer method `a` holding `strayRevoked` at key id `x`, with the clock
at 10 s. -/
def strayPurgeWorld : World :=
  { store := ⟨[(⟨.root, "a", "x"⟩, strayRevoked)], List.nodup_singleton _⟩
    catalog := methodCatalog
    clock := fun _ => ⟨10000000000⟩, ticks := 0, rng := fun _ => 0, draws := 0,
    faults := fun _ => none, writes := 0, events := [] }

/-- On `strayPurgeWorld` the scanned grant is due and the purge succeeds, but its entry at
`x` stays: the delete went to the key of the grant's id `y`. -/
theorem purge_deletes_under_grant_id :
    purgeDue purgeRevoked strayRevoked (strayPurgeWorld.clock 0) = true ∧
    (computePurge purgeRevoked rootSession strayPurgeWorld).1.toBool
      = true ∧
    (computePurge purgeRevoked rootSession strayPurgeWorld).2.store.get
      ⟨.root, "a", "x"⟩ = some strayRevoked := by
  decide

end AccessGrants.Analysis

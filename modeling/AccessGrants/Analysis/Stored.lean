import AccessGrants.Analysis.Frame
import AccessGrants.Analysis.Lifecycle

/-!
# What every stored grant satisfies

Two invariants of the grant entries of every reachable world, over runs of the four
statements:

* **chronology** (`stored_times_are_readings`): a stored grant's creation time is a clock
  reading already taken, its expiry a duration after the reading that followed, its
  revocation a later reading; with a clock that never goes back, a grant is never revoked
  or expiring before it was created, nor stamped after the next reading;
* **references** (`stored_grants_refer`): a stored grant's access method is defined at its
  key's level, a record subject is held only at a database level, and a user subject is a
  user of its key's level.

Both come from `reachable_entries`, which does the induction over runs once: a property of
entries holds in every reachable world if the frame of a step keeps it, a revocation at a
reading the step took keeps it, and every entry a successful Create adds has it.
-/

set_option autoImplicit false

namespace AccessGrants.Analysis

open AccessGrants Txn

/-! ## The two invariants -/

/-- A stored grant's times are clock readings already taken: it was created at a reading
`i`, expires, if at all, a duration after reading `i + 1`, and was revoked, if at all, at a
later reading. -/
def Stamped (clock : ℕ → Datetime) (ticks : ℕ) (g : AccessGrant) : Prop :=
  ∃ i < ticks, g.creation = clock i ∧
    (∀ e ∈ g.expiration, i + 1 < ticks ∧ ∃ d : Duration, e = d.add (clock (i + 1))) ∧
    ∀ r ∈ g.revocation, ∃ j, i < j ∧ j < ticks ∧ r = clock j

/-- INTERNAL: a grant stamped by the readings taken stays so as more readings are taken.
SOURCE: access.rs:354-371, 448-465 -/
theorem Stamped.mono {clock : ℕ → Datetime} {t t' : ℕ} {g : AccessGrant} (h : Stamped clock t g)
    (ht : t ≤ t') : Stamped clock t' g := by
  obtain ⟨i, hi, hc, he, hr⟩ := h
  refine ⟨i, by omega, hc, fun e he' => ?_, fun r hr' => ?_⟩
  · obtain ⟨h₁, h₂⟩ := he e he'; exact ⟨by omega, h₂⟩
  · obtain ⟨j, h₁, h₂, h₃⟩ := hr r hr'; exact ⟨j, h₁, by omega, h₃⟩

/-- Revoking at a reading taken after the grant was stamped keeps it stamped. -/
theorem Stamped.revoke {clock : ℕ → Datetime} {t t' j : ℕ} {g : AccessGrant}
    (h : Stamped clock t g) (hj : t ≤ j) (hj' : j < t') :
    Stamped clock t' { g with revocation := some (clock j) } := by
  obtain ⟨i, hi, hc, he, -⟩ := h
  refine ⟨i, by omega, hc, fun e he' => ?_, fun r hr =>
    ⟨j, by omega, hj', (Option.mem_some_iff.mp hr).symm⟩⟩
  obtain ⟨h₁, h₂⟩ := he e he'
  exact ⟨by omega, h₂⟩


/-- With a clock that never goes back, a stamped grant expires and is revoked no earlier than
it was created, and carries no creation or revocation time after the reading `ticks`. -/
theorem Stamped.ordered {clock : ℕ → Datetime} {t : ℕ} {g : AccessGrant} (h : Stamped clock t g)
    (hm : ∀ i j, i ≤ j → (clock i).nanos ≤ (clock j).nanos) :
    (∀ e ∈ g.expiration, g.creation.nanos ≤ e.nanos) ∧
    (∀ r ∈ g.revocation, g.creation.nanos ≤ r.nanos ∧ r.nanos ≤ (clock t).nanos) ∧
    g.creation.nanos ≤ (clock t).nanos := by
  obtain ⟨i, hi, hc, he, hr⟩ := h
  refine ⟨fun e he' => ?_, fun r hr' => ?_, hc ▸ hm _ _ hi.le⟩
  · obtain ⟨-, d, rfl⟩ := he e he'
    have : (clock i).nanos ≤ (clock (i + 1)).nanos := hm _ _ (Nat.le_succ i)
    simp only [hc, Duration.add]
    omega
  · obtain ⟨j, hij, hjt, rfl⟩ := hr r hr'
    exact ⟨hc ▸ hm _ _ hij.le, hm _ _ hjt.le⟩

/-- A stored grant refers to what exists: its access method is defined at its key's level,
a record subject is held only at a database level, and a user subject is a user of its key's
level. -/
structure Refers (c : Catalog) (k : GrantKey) (g : AccessGrant) : Prop where
  access : ∃ d, c.access k.level k.ac = some d
  record : ∀ t, g.subject = .record t → ∃ ns db, k.level = .db ns db
  user : ∀ name, g.subject = .user name → (k.level, name) ∈ c.users

/-- A step within the frame keeps a grant stamped. -/
theorem Stamped.frame {w w' : World} {g : AccessGrant} (hF : Framed w w')
    (h : Stamped w.clock w.ticks g) : Stamped w'.clock w'.ticks g :=
  hF.clock ▸ h.mono hF.ticks

/-- A step within the frame keeps what grants refer to. -/
theorem Refers.frame {w w' : World} {k : GrantKey} {g : AccessGrant} (hF : Framed w w')
    (h : Refers w.catalog k g) : Refers w'.catalog k g :=
  ⟨hF.access k.level k.ac ▸ h.access, h.record, hF.users ▸ h.user⟩

/-- INTERNAL: a grant that refers to what exists stays so with any revocation time.
SOURCE: access.rs:684-703, 770-790 -/
theorem Refers.setRevocation {c : Catalog} {k : GrantKey} {g : AccessGrant} (h : Refers c k g)
    (r : Option Datetime) : Refers c k { g with revocation := r } :=
  ⟨h.access, h.record, h.user⟩

/-- INTERNAL: an entry present after a write at a key and absent before is the written one.
SOURCE: access.rs:384-387, 475-488 -/
theorem Store.eq_of_get_set {s : Store} {k₀ k : GrantKey} {v g : AccessGrant} (hk : s.get k = none)
    (h : (s.set k₀ v).get k = some g) : k₀ = k ∧ g = v := by
  rw [Store.get_set] at h
  split_ifs at h with hkey
  · exact ⟨hkey, (Option.some.inj h).symm⟩
  · rw [hk] at h; cases h

/-! ## Create: the grant is minted from the readings it takes -/

section Create

variable {digest : String → String} {stmt : AccessStatementGrant} {opt : Options} {w w' : World}

/-- INTERNAL: a successful Create minted its grant in the world it started in, and the rest
of it stayed within the frame.
SOURCE: access.rs:304-523 -/
theorem createGrant_mint {g : AccessGrant} (h : createGrant digest stmt opt w = (.ok g, w')) :
    ∃ ac pfx b w₁, mintGrant ac stmt.subject pfx w = (.ok (b, g), w₁) ∧ Framed w₁ w' := by
  obtain ⟨⟨base, ac⟩, w₀, h₀, h'⟩ := bind_eq_ok h
  obtain ⟨rfl, -⟩ := openAccess_ok h₀
  dsimp only at h'
  revert h'
  cases ac.kind with
  | jwt => intro h'; cases h'
  | record bearer =>
    intro h'
    obtain ⟨_, w₁, h₁, h₂⟩ := bind_eq_ok h'
    obtain ⟨-, -, rfl⟩ := checkRecordSubject_ok h₁
    obtain ⟨_, w₂, h₃, h₄⟩ := bind_eq_ok h₂
    obtain ⟨-, rfl⟩ := lift_ok h₃
    obtain ⟨⟨b, g₀⟩, w₃, h₅, h₆⟩ := bind_eq_ok h₄
    obtain ⟨_, w₄, h₇, h₈⟩ := bind_eq_ok h₆
    obtain ⟨_, w₅, h₉, h₁₀⟩ := bind_eq_ok h₈
    cases h₁₀
    exact ⟨ac, _, b, w₃, h₅, Step.frame.trans
      ((putRecordGrant_primitive primitive_frame _ _ _ _).rel h₇) ((primitive_frame.emit _).rel h₉)⟩
  | bearer ba =>
    intro h'
    obtain ⟨_, w₁, h₁, h₂⟩ := bind_eq_ok h'
    obtain ⟨-, rfl⟩ := checkBearerSubject_ok h₁
    obtain ⟨⟨b, g₀⟩, w₃, h₅, h₆⟩ := bind_eq_ok h₂
    obtain ⟨_, w₄, h₇, h₈⟩ := bind_eq_ok h₆
    obtain ⟨-, rfl⟩ := lift_ok h₇
    obtain ⟨_, w₅, h₉, h₁₀⟩ := bind_eq_ok h₈
    obtain ⟨_, w₆, h₁₁, h₁₂⟩ := bind_eq_ok h₁₀
    obtain ⟨_, w₇, h₁₃, h₁₄⟩ := bind_eq_ok h₁₂
    cases h₁₄
    exact ⟨ac, _, b, w₄, h₅, Step.frame.trans ((ensureLevel_primitive primitive_frame _ _).rel h₉)
      (Step.frame.trans ((putGrant_primitive primitive_frame _ _).rel h₁₁)
        ((primitive_frame.emit _).rel h₁₃))⟩

/-- INTERNAL: a successful Create's world is the world its `create_grant` left.
SOURCE: access.rs:304-523 -/
theorem computeGrant_world (w : World) :
    (computeGrant digest stmt opt w).2 = (createGrant digest stmt opt w).2 := by
  simp only [computeGrant, bind_apply]
  rcases createGrant digest stmt opt w with ⟨_ | _, _⟩ <;> rfl

/-- INTERNAL: **the grant a Create returns is stamped by the readings it took**: created at
its first reading, expiring, if at all, after the second; and the clock is kept.
SOURCE: access.rs:354-371, 448-465 -/
theorem createGrant_stamped {g : AccessGrant} (h : createGrant digest stmt opt w = (.ok g, w')) :
    Stamped w.clock w'.ticks g ∧ w'.clock = w.clock := by
  obtain ⟨ac, pfx, b, w₁, hm, hF⟩ := createGrant_mint h
  obtain ⟨hb, rfl⟩ := mintGrant_ok hm
  rw [mintGrant_apply ac stmt.subject pfx hb] at hm
  obtain rfl := (Prod.mk.inj hm).2
  have ht := hF.ticks
  refine ⟨⟨w.ticks, by split_ifs at ht <;> simp at ht <;> omega, rfl, fun e he => ?_,
    fun r hr => by cases hr⟩, hF.clock⟩
  obtain ⟨d, hd, rfl⟩ := Option.mem_map.mp he
  rw [Option.mem_def] at hd
  simp only [hd, Option.isSome_some, if_true] at ht
  exact ⟨by omega, d, rfl⟩


/-- The level of the database base is a database level. -/
theorem Options.level_db {opt : Options} {l : Level} (h : opt.level .db = .ok l) :
    ∃ ns db, l = .db ns db := by
  simp only [Options.level] at h
  split at h
  · cases h; exact ⟨_, _, rfl⟩
  · cases h

/-- INTERNAL: **the entry a Create adds refers to what exists**: the method it resolved at
the key's level, a record subject only at the database level the record arm and the bearer
arm require, a user it found at the key's level.
SOURCE: access.rs:319-347, 416-447 -/
theorem createGrant_refers {g g' : AccessGrant} {k : GrantKey}
    (h : createGrant digest stmt opt w = (.ok g, w')) (hk : w.store.get k = none)
    (hk' : w'.store.get k = some g') : Refers w'.catalog k g' := by
  obtain ⟨b, l, ac, ba, bearer, w₁, -, -, hl, hc, hcond, hm, -, hset⟩ := createGrant_arm h
  obtain ⟨rfl, rfl⟩ := Store.eq_of_get_set hk (hset ▸ hk')
  obtain ⟨-, rfl⟩ := mintGrant_ok hm
  have hF : Framed w w' := (createGrant_primitive primitive_frame _ _ _).rel h
  refine ⟨⟨ac, by rw [hF.access, Catalog.access_name hc, hc]⟩, fun t ht => ?_, fun name hn => ?_⟩
  · rcases hcond with ⟨-, -, rfl⟩ | ⟨-, ⟨-, -, rfl, -⟩ | ⟨name, hs, -⟩⟩
    · exact Options.level_db hl
    · exact Options.level_db hl
    · cases hs.symm.trans ht
  · rcases hcond with ⟨-, ⟨t, hs⟩, -⟩ | ⟨-, ⟨t, hs, -⟩ | ⟨name', hs, -, hu⟩⟩
    · cases hs.symm.trans hn
    · cases hs.symm.trans hn
    · cases hs.symm.trans hn
      exact hF.users ▸ hu

end Create

/-! ## Every reachable world -/

/-- INTERNAL: **a property of stored entries that every statement keeps holds in every
reachable world**: the frame of a step keeps it, so does a revocation of an unrevoked entry
at a reading the step took, and every entry a successful Create adds has it.
SOURCE: access.rs:928-944 -/
theorem reachable_entries {digest : String → String} (P : World → GrantKey → AccessGrant → Prop)
    (hframe : ∀ {w w' k g}, Framed w w' → P w k g → P w' k g)
    (hrevoke : ∀ {w w' k g i}, Framed w w' → w.ticks ≤ i → i < w'.ticks → g.revocation = none →
      P w k g → P w' k { g with revocation := some (w.clock i) })
    (hcreate : ∀ {stmt opt w w' g k g'}, createGrant digest stmt opt w = (.ok g, w') →
      w.store.get k = none → w'.store.get k = some g' → P w' k g')
    {w : World} (hw : Reachable digest w) : ∀ k g, w.store.get k = some g → P w k g := by
  induction hw with
  | init w h => exact fun k g hg => absurd hg (by simp [Store.get, h, lookup])
  | @step w stmt opt hw ih =>
    have hF := compute_frame digest opt stmt w
    intro k g hg
    cases stmt with
    | grant s =>
      dsimp only [AccessStatement.compute] at hg hF ⊢
      rw [computeGrant_world] at hg hF ⊢
      rcases h : createGrant digest s opt w with ⟨_ | g', w'⟩ <;> rw [h] at hg hF
      · exact hframe hF (ih k g (createGrant_onError _ _ _ h ▸ hg))
      · cases hk : w.store.get k with
        | none => exact hcreate h hk hg
        | some g₀ =>
          obtain ⟨l, bearer, hget, hset, -⟩ := createGrant_inserts h
          rw [hset, Store.get_set, if_neg (fun hkey => by rw [hkey, hk] at hget; cases hget), hk] at hg
          cases hg
          exact hframe hF (ih k _ hk)
    | show' s => exact hframe hF (ih k g (computeShow_keeps_store s opt w ▸ hg))
    | revoke s =>
      dsimp only [AccessStatement.compute] at hg hF ⊢
      have hR : Step.revoking.rel w (computeRevoke s opt w).2 :=
        Moves.bind_at (revokeGrant_revoking s opt (keyRecord_of_reachable hw)) fun _ w' _ =>
          Step.revoking.refl w'
      rcases hR.2 k with h | ⟨g₀, i, h₀, hr, hi, hi', h⟩
      · exact hframe hF (ih k g (h ▸ hg))
      · rw [h] at hg
        cases hg
        exact hrevoke hF hi hi' hr (ih k g₀ h₀)
    | purge s =>
      dsimp only [AccessStatement.compute] at hg hF ⊢
      rcases computePurge_deleting s opt w k with h | h
      · exact hframe hF (ih k g (h ▸ hg))
      · rw [h] at hg; cases hg


/-! ## The invariants -/

/-- **Stored times are clock readings.** In every world a run of the four statements reaches
from a store without grant entries, every stored grant was created at a clock reading already
taken, expires, if at all, a duration after the reading that followed (also taken), and was
revoked, if at all, at a later reading, also taken. So with a clock that never goes back, no
stored grant expires or is revoked before it was created, and none carries a creation or
revocation time after the next reading. -/
theorem stored_times_are_readings (digest : String → String) (w : World)
    (hw : Reachable digest w) :
    ∀ k g, w.store.get k = some g →
      (∃ i < w.ticks, g.creation = w.clock i ∧
        (∀ e ∈ g.expiration, i + 1 < w.ticks ∧ ∃ d : Duration, e = d.add (w.clock (i + 1))) ∧
        ∀ r ∈ g.revocation, ∃ j, i < j ∧ j < w.ticks ∧ r = w.clock j) ∧
      ((∀ i j, i ≤ j → (w.clock i).nanos ≤ (w.clock j).nanos) →
        (∀ e ∈ g.expiration, g.creation.nanos ≤ e.nanos) ∧
        (∀ r ∈ g.revocation, g.creation.nanos ≤ r.nanos ∧ r.nanos ≤ (w.clock w.ticks).nanos) ∧
        g.creation.nanos ≤ (w.clock w.ticks).nanos) := by
  have h := reachable_entries (fun w _ g => Stamped w.clock w.ticks g)
    (fun hF hs => hs.frame hF) (fun hF hi hi' _ hs => hF.clock ▸ hs.revoke hi hi')
    (fun hc hk hk' => by
      obtain ⟨l, bearer, -, hset, -⟩ := createGrant_inserts hc
      obtain ⟨-, rfl⟩ := Store.eq_of_get_set hk (hset ▸ hk')
      obtain ⟨hs, hclock⟩ := createGrant_stamped hc
      exact hclock ▸ hs) hw
  exact fun k g hg => ⟨h k g hg, (h k g hg).ordered⟩

/-- After a Create and a Revoke, the stored grant was revoked at the second reading, and the
stored times are readings. -/
theorem stored_times_after_revoke :
    Reachable id revokedWorld ∧
    (revokedWorld.store.get grantKeyU).bind (·.revocation) = some ⟨1000000000⟩ ∧
    ∀ k g, revokedWorld.store.get k = some g →
      (∃ i < revokedWorld.ticks, g.creation = revokedWorld.clock i ∧
        (∀ e ∈ g.expiration, i + 1 < revokedWorld.ticks ∧
          ∃ d : Duration, e = d.add (revokedWorld.clock (i + 1))) ∧
        ∀ r ∈ g.revocation, ∃ j, i < j ∧ j < revokedWorld.ticks ∧ r = revokedWorld.clock j) ∧
      ((∀ i j, i ≤ j → (revokedWorld.clock i).nanos ≤ (revokedWorld.clock j).nanos) →
        (∀ e ∈ g.expiration, g.creation.nanos ≤ e.nanos) ∧
        (∀ r ∈ g.revocation, g.creation.nanos ≤ r.nanos ∧
          r.nanos ≤ (revokedWorld.clock revokedWorld.ticks).nanos) ∧
        g.creation.nanos ≤ (revokedWorld.clock revokedWorld.ticks).nanos) :=
  ⟨reachable_revokedWorld, by decide,
    stored_times_are_readings id revokedWorld reachable_revokedWorld⟩

/-- **Stored grants refer to what exists.** In every world a run of the four statements
reaches from a store without grant entries, every stored grant's access method is defined at
its key's level under the key's name, a grant for a record is stored only at a database
level, and a grant for a user only at a level where that user exists. -/
theorem stored_grants_refer (digest : String → String) (w : World) (hw : Reachable digest w) :
    ∀ k g, w.store.get k = some g →
      (∃ d, w.catalog.access k.level k.ac = some d) ∧
      (∀ t, g.subject = .record t → ∃ ns db, k.level = .db ns db) ∧
      ∀ name, g.subject = .user name → (k.level, name) ∈ w.catalog.users := by
  have h := reachable_entries (fun w k g => Refers w.catalog k g) (fun hF hr => hr.frame hF)
    (fun hF _ _ _ hr => (hr.setRevocation _).frame hF) createGrant_refers hw
  exact fun k g hg => ⟨(h k g hg).access, (h k g hg).record, (h k g hg).user⟩

/-- After a Create and a Revoke, the store holds a grant, and its stored grants refer to
what exists. -/
theorem stored_grants_refer_after_revoke :
    Reachable id revokedWorld ∧ (revokedWorld.store.get grantKeyU).isSome = true ∧
    ∀ k g, revokedWorld.store.get k = some g →
      (∃ d, revokedWorld.catalog.access k.level k.ac = some d) ∧
      (∀ t, g.subject = .record t → ∃ ns db, k.level = .db ns db) ∧
      ∀ name, g.subject = .user name → (k.level, name) ∈ revokedWorld.catalog.users :=
  ⟨reachable_revokedWorld, by decide, stored_grants_refer id revokedWorld reachable_revokedWorld⟩

/-! ## Over a run -/

/-- A step after which every entry it found is still there: as it was, or, if it was not
revoked, revoked at a clock reading the step took. -/
def Step.persisting : Step where
  rel w w' := Step.ticking.rel w w' ∧ ∀ k g, w.store.get k = some g →
    w'.store.get k = some g ∨ g.revocation = none ∧
      ∃ i, w.ticks ≤ i ∧ i < w'.ticks ∧ w'.store.get k = some { g with revocation := some (w.clock i) }
  refl w := ⟨Step.ticking.refl w, fun _ _ h => .inl h⟩
  trans := by
    rintro w₁ w₂ w₃ ⟨ht₁, h₁⟩ ⟨ht₂, h₂⟩
    refine ⟨Step.ticking.trans ht₁ ht₂, fun k g hg => ?_⟩
    rcases h₁ k g hg with hg₂ | ⟨hr, i, hi, hi', hg₂⟩
    · rcases h₂ k g hg₂ with h | ⟨hr, j, hj, hj', h⟩
      · exact .inl h
      · exact .inr ⟨hr, j, ht₁.2.trans hj, hj', by rw [h, ht₁.1]⟩
    · rcases h₂ k _ hg₂ with h | ⟨hr', -⟩
      · exact .inr ⟨hr, i, hi, hi'.trans_le ht₂.2, h⟩
      · cases hr'

/-- A step that adds no entry. -/
def Step.noInsert : Step where
  rel w w' := ∀ k, w.store.get k = none → w'.store.get k = none
  refl _ _ h := h
  trans h₁ h₂ k h := h₂ k (h₁ k h)

section Statement

variable (digest : String → String) (opt : Options) {stmt : AccessStatement} {w : World}

/-- INTERNAL: **a statement other than Purge keeps every entry**, at most revoking it, from a
store where keys and records agree.
SOURCE: access.rs:636-814 -/
theorem compute_persisting (hI : KeyRecord w.store) (hp : ∀ s, stmt ≠ .purge s) :
    Step.persisting.rel w (stmt.compute digest opt w).2 := by
  have hF := compute_frame digest opt stmt w
  refine ⟨⟨hF.clock, hF.ticks⟩, fun k g hg => ?_⟩
  rcases compute_step digest stmt opt hI with
    hs | ⟨-, -, k', g', hk', hs, -⟩ | ⟨-, hs⟩ | ⟨⟨s, rfl⟩, -⟩
  · exact .inl (by rw [hs, hg])
  · refine .inl ?_
    rw [hs, Store.get_set, if_neg (by rintro rfl; rw [hk'] at hg; cases hg), hg]
  · rcases hs.2 k with h | ⟨g₀, i, h₀, hr, hi, hi', h⟩
    · exact .inl (by rw [h, hg])
    · rw [hg] at h₀
      cases h₀
      exact .inr ⟨hr, i, hi, hi', h⟩
  · exact absurd rfl (hp s)

/-- INTERNAL: **a statement other than Create adds no entry**, from a store where keys and
records agree.
SOURCE: access.rs:636-814, 827-923 -/
theorem compute_noInsert (hI : KeyRecord w.store) (hc : ∀ s, stmt ≠ .grant s) :
    Step.noInsert.rel w (stmt.compute digest opt w).2 := fun k hk => by
  rcases compute_step digest stmt opt hI with hs | ⟨⟨s, rfl⟩, -⟩ | ⟨-, hs⟩ | ⟨-, hs⟩
  · rw [hs, hk]
  · exact absurd rfl (hc s)
  · rcases hs.2 k with h | ⟨_, _, h₀, -⟩
    · rw [h, hk]
    · rw [hk] at h₀; cases h₀
  · rcases hs k with h | h <;> rw [h]
    exact hk

end Statement

/-- **Over a run, entries persist without Purge and none appears without Create.** From a
world runs reach from a store without grant entries, a run with no Purge keeps every entry,
as it was or, if it was not revoked, revoked at a clock reading taken during the run; and a
run with no Create adds no entry. -/
theorem run_keeps_entries (digest : String → String) (run : List (AccessStatement × Options))
    (w : World) (hw : Reachable digest w) :
    ((∀ x ∈ run, ∀ s, x.1 ≠ .purge s) → ∀ k g, w.store.get k = some g →
      (runAll digest run w).2.store.get k = some g ∨ g.revocation = none ∧
        ∃ i, w.ticks ≤ i ∧ i < (runAll digest run w).2.ticks ∧
          (runAll digest run w).2.store.get k = some { g with revocation := some (w.clock i) }) ∧
    ((∀ x ∈ run, ∀ s, x.1 ≠ .grant s) →
      ∀ k, w.store.get k = none → (runAll digest run w).2.store.get k = none) :=
  ⟨fun hp => (runAll_rel (fun x hx _ hw' =>
      compute_persisting digest x.2 (keyRecord_of_reachable hw') (hp x hx)) w hw).2,
    fun hc => runAll_rel (fun x hx _ hw' =>
      compute_noInsert digest x.2 (keyRecord_of_reachable hw') (hc x hx)) w hw⟩

/-- After a Create, a run of one `REVOKE ALL` revokes the entry it created, and keeps its
entries and adds none. -/
theorem run_keeps_entries_after_grant :
    Reachable id grantedWorld ∧
    (runAll id [(.revoke revokeAllA, rootSession)] grantedWorld).2.store.get grantKeyU ≠
      grantedWorld.store.get grantKeyU ∧
    ((∀ x ∈ [(AccessStatement.revoke revokeAllA, rootSession)], ∀ s, x.1 ≠ .purge s) →
      ∀ k g, grantedWorld.store.get k = some g →
        (runAll id [(.revoke revokeAllA, rootSession)] grantedWorld).2.store.get k = some g ∨
          g.revocation = none ∧ ∃ i, grantedWorld.ticks ≤ i ∧
            i < (runAll id [(.revoke revokeAllA, rootSession)] grantedWorld).2.ticks ∧
            (runAll id [(.revoke revokeAllA, rootSession)] grantedWorld).2.store.get k =
              some { g with revocation := some (grantedWorld.clock i) }) ∧
    ((∀ x ∈ [(AccessStatement.revoke revokeAllA, rootSession)], ∀ s, x.1 ≠ .grant s) →
      ∀ k, grantedWorld.store.get k = none →
        (runAll id [(.revoke revokeAllA, rootSession)] grantedWorld).2.store.get k = none) :=
  ⟨reachable_grantedWorld, by decide,
    run_keeps_entries id [(.revoke revokeAllA, rootSession)] grantedWorld reachable_grantedWorld⟩

end AccessGrants.Analysis

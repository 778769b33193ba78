import AccessGrants.Model.Run

/-!
# What a statement does beside its grant entries

Every statement is built from the primitives of `AccessGrants.Model.Txn`: reads, clock
readings, random draws, log appends, namespace and database additions, and writes of grant
entries. `Primitive T` says that each primitive which changes the world moves it by a
`T`-step (reads change nothing); then so does every statement, on every path, failed ones
included (`compute_primitive`).

The frame of a statement follows: it keeps the clock and takes its readings only forward,
only appends to the log, keeps the catalog's access methods and users, and only adds
namespaces and databases (`compute_frame`).
A run is then a `T`-step whenever each of its statements is one (`runAll_rel`).
-/

set_option autoImplicit false

namespace AccessGrants.Analysis

open AccessGrants Txn

/-- A kind of step that every primitive changing the world takes. -/
structure Primitive (T : Step) : Prop where
  now : Moves T now
  emit : ∀ e, Moves T (emit e)
  randomString : ∀ n pool, Moves T (randomString n pool)
  getOrAddNs : ∀ ns strict, Moves T (getOrAddNs ns strict)
  getOrAddDb : ∀ ns db strict, Moves T (getOrAddDb ns db strict)
  put : ∀ k v, Moves T (put k v)
  set : ∀ k v, Moves T (set k v)
  del : ∀ k, Moves T (del k)

section Primitive

variable {T : Step} (hT : Primitive T)
include hT

/-- INTERNAL: ensuring a level is made of primitives.
SOURCE: access.rs:693-702, 779-788 -/
theorem ensureLevel_primitive (l : Level) (strict : Bool) : Moves T (ensureLevel l strict) := by
  cases l with
  | root => exact Moves.pure ()
  | ns ns => exact hT.getOrAddNs ns strict
  | db ns db => exact Moves.bind (hT.getOrAddNs ns strict) fun _ => hT.getOrAddDb ns db strict

/-- INTERNAL: evaluating a grant's condition is made of primitives.
SOURCE: access.rs:746-762 -/
theorem matchesCond_primitive (cond : Option Cond) (gr : AccessGrant) :
    Moves T (matchesCond cond gr) := by
  cases cond with
  | none => exact Moves.pure _
  | some c => exact Moves.bind (hT.emit _) fun _ => Moves.lift _

/-- INTERNAL: minting a grant is made of primitives.
SOURCE: access.rs:354-371, 448-465 -/
theorem mintGrant_primitive (ac : DefineAccess) (subject : Subject) (pfx : String) :
    Moves T (mintGrant ac subject pfx) := by
  refine Moves.bind (Moves.bind (hT.randomString _ _) fun _ => Moves.bind (hT.randomString _ _)
    fun _ => Moves.bind (hT.randomString _ _) fun _ => Moves.pure _) fun _ =>
      Moves.bind hT.now fun _ => ?_
  dsimp only
  split
  · exact Moves.bind hT.now fun _ => Moves.bind (Moves.pure _) fun _ => Moves.pure _
  · exact Moves.bind (Moves.pure _) fun _ => Moves.pure _

/-- INTERNAL: putting a grant is made of primitives.
SOURCE: access.rs:395-410, 500-515 -/
theorem putGrant_primitive (k : GrantKey) (v : AccessGrant) : Moves T (putGrant k v) :=
  Moves.bind (hT.put k v) fun res => by
    rcases res with e | _
    · dsimp only
      split_ifs
      · exact Moves.bind (hT.emit _) fun _ => Moves.fail e
      · exact Moves.bind (Moves.pure _) fun _ => Moves.fail e
    · exact Moves.pure _

/-- INTERNAL: storing a record grant is made of primitives.
SOURCE: access.rs:375-410 -/
theorem putRecordGrant_primitive (opt : Options) (base : Base) (gr grStore : AccessGrant) :
    Moves T (putRecordGrant opt base gr grStore) := by
  cases base
  case db =>
    exact Moves.bind (Moves.lift _) fun _ => Moves.bind (hT.getOrAddNs _ _) fun _ =>
      Moves.bind (hT.getOrAddDb _ _ _) fun _ => putGrant_primitive hT _ _
  all_goals exact Moves.fail _

/-- INTERNAL: **Create is made of primitives.**
SOURCE: access.rs:304-523 -/
theorem createGrant_primitive (digest : String → String) (stmt : AccessStatementGrant)
    (opt : Options) : Moves T (createGrant digest stmt opt) :=
  Moves.bind (Moves.of_same (openAccess_same _ _ _ _)) fun ⟨base, ac⟩ => by
    dsimp only
    cases ac.kind with
    | jwt => exact Moves.fail _
    | record _ =>
      exact Moves.bind (Moves.of_same (checkRecordSubject_moves _ _)) fun _ =>
        Moves.bind (Moves.lift _) fun _ => Moves.bind (mintGrant_primitive hT _ _ _) fun _ =>
          Moves.bind (putRecordGrant_primitive hT _ _ _ _) fun _ =>
            Moves.bind (hT.emit _) fun _ => Moves.pure _
    | bearer _ =>
      exact Moves.bind (Moves.of_same (checkBearerSubject_moves _ _ _ _)) fun _ =>
        Moves.bind (mintGrant_primitive hT _ _ _) fun _ => Moves.bind (Moves.lift _) fun _ =>
          Moves.bind (ensureLevel_primitive hT _ _) fun _ => Moves.bind (putGrant_primitive hT _ _)
            fun _ => Moves.bind (hT.emit _) fun _ => Moves.pure _

/-- INTERNAL: **Show is made of primitives.**
SOURCE: access.rs:535-633 -/
theorem computeShow_primitive (stmt : AccessStatementShow) (opt : Options) :
    Moves T (computeShow stmt opt) :=
  Moves.bind (Moves.of_same (openAccess_same _ _ _ _)) fun _ => by
    dsimp only
    cases stmt.gr with
    | some _ =>
      exact Moves.bind (Moves.lift _) fun _ => Moves.bind (Moves.of_same (getGrant_same _)) fun _ =>
        Moves.pure _
    | none =>
      exact Moves.bind (Moves.lift _) fun _ => Moves.bind (Moves.of_same (allGrants_same _ _)) fun _ =>
        Moves.bind (Moves.collect (fun _ => Moves.bind (matchesCond_primitive hT _ _) fun _ =>
          Moves.pure _) _) fun _ => Moves.pure _

/-- INTERNAL: revoking one grant is made of primitives.
SOURCE: access.rs:683-720, 764-804 -/
theorem revokeAs_primitive (opt : Options) (base : Base) (ac id : String) (gr : AccessGrant) :
    Moves T (revokeAs opt base ac id gr) :=
  Moves.bind hT.now fun _ => Moves.bind (Moves.lift _) fun _ =>
    Moves.bind (ensureLevel_primitive hT _ _) fun _ => Moves.bind (hT.set _ _) fun _ =>
      Moves.bind (hT.emit _) fun _ => Moves.pure _

/-- INTERNAL: **Revoke is made of primitives.**
SOURCE: access.rs:636-814 -/
theorem revokeGrant_primitive (stmt : AccessStatementRevoke) (opt : Options) :
    Moves T (revokeGrant stmt opt) :=
  Moves.bind (Moves.of_same (openAccess_same _ _ _ _)) fun ⟨base, _⟩ => by
    dsimp only
    cases stmt.gr with
    | some _ =>
      exact Moves.bind (Moves.lift _) fun _ => Moves.bind (Moves.of_same (getGrant_same _)) fun _ =>
        Moves.bind (Moves.ensure _ _) fun _ => Moves.bind (revokeAs_primitive hT _ _ _ _ _) fun _ =>
          Moves.pure _
    | none =>
      refine Moves.bind (Moves.lift _) fun _ => Moves.bind (Moves.of_same (allGrants_same _ _)) fun _ =>
        Moves.bind (Moves.collect (fun gr => ?_) _) fun _ => Moves.pure _
      unfold revokeOne
      split
      · exact Moves.pure _
      · exact Moves.bind (matchesCond_primitive hT _ _) fun keep => by
          cases keep
          · exact Moves.pure _
          · exact Moves.bind (revokeAs_primitive hT _ _ _ _ _) fun _ => Moves.pure _

/-- INTERNAL: **Purge is made of primitives.**
SOURCE: access.rs:827-923 -/
theorem computePurge_primitive (stmt : AccessStatementPurge) (opt : Options) :
    Moves T (computePurge stmt opt) :=
  Moves.bind (Moves.of_same (openAccess_same _ _ _ _)) fun _ =>
    Moves.bind (Moves.lift _) fun _ => Moves.bind (Moves.of_same (allGrants_same _ _)) fun _ =>
      Moves.bind (Moves.collect (fun _ => Moves.bind hT.now fun _ => by
        split
        · exact Moves.bind (Moves.lift _) fun _ => Moves.bind (hT.del _) fun _ =>
            Moves.bind (hT.emit _) fun _ => Moves.pure _
        · exact Moves.pure _) _) fun _ => Moves.pure _

/-- INTERNAL: **a statement is made of primitives**: it moves the world by every kind of
step all of them take, whatever its outcome.
SOURCE: access.rs:928-944 -/
theorem compute_primitive (digest : String → String) (opt : Options) (stmt : AccessStatement) :
    Moves T (stmt.compute digest opt) := by
  cases stmt with
  | grant s => exact Moves.bind (createGrant_primitive hT digest s opt) fun _ => Moves.pure _
  | show' s => exact computeShow_primitive hT s opt
  | revoke s => exact Moves.bind (revokeGrant_primitive hT s opt) fun _ => Moves.pure _
  | purge s => exact computePurge_primitive hT s opt

end Primitive

/-! ## The frame -/

/-- What a statement does beside its grant entries: it keeps the clock and takes its
readings only forward, only appends to the log, keeps the catalog's access methods and
users, and only adds namespaces and databases. -/
structure Framed (w w' : World) : Prop where
  clock : w'.clock = w.clock
  ticks : w.ticks ≤ w'.ticks
  events : w.events <+: w'.events
  accesses : w'.catalog.accesses = w.catalog.accesses
  users : w'.catalog.users = w.catalog.users
  namespaces : w.catalog.namespaces ⊆ w'.catalog.namespaces
  databases : w.catalog.databases ⊆ w'.catalog.databases

/-- The frame as a kind of step. -/
def Step.frame : Step where
  rel := Framed
  refl _ := ⟨rfl, le_rfl, List.prefix_refl _, rfl, rfl, List.Subset.refl _, List.Subset.refl _⟩
  trans h₁ h₂ := ⟨h₂.clock.trans h₁.clock, h₁.ticks.trans h₂.ticks, h₁.events.trans h₂.events,
    h₂.accesses.trans h₁.accesses, h₂.users.trans h₁.users, h₁.namespaces.trans h₂.namespaces,
    h₁.databases.trans h₂.databases⟩

/-- INTERNAL: a step that keeps everything the frame speaks of is within it. -/
theorem Framed.of_eq {w w' : World} (hc : w'.clock = w.clock) (ht : w'.ticks = w.ticks)
    (he : w'.events = w.events) (hcat : w'.catalog = w.catalog) : Framed w w' :=
  ⟨hc, ht.ge, he ▸ List.prefix_refl _, by rw [hcat], by rw [hcat],
    hcat ▸ List.Subset.refl _, hcat ▸ List.Subset.refl _⟩

/-- INTERNAL: **every primitive stays within the frame**: none moves the clock, takes its
readings backward, removes an event, changes an access method or a user, or removes a
namespace or a database. -/
theorem primitive_frame : Primitive Step.frame where
  now _ := ⟨rfl, Nat.le_succ _, List.prefix_refl _, rfl, rfl, List.Subset.refl _,
    List.Subset.refl _⟩
  emit _ _ := ⟨rfl, le_rfl, List.prefix_append _ _, rfl, rfl, List.Subset.refl _,
    List.Subset.refl _⟩
  randomString _ _ _ := Framed.of_eq rfl rfl rfl rfl
  getOrAddNs _ _ w := by
    unfold getOrAddNs
    split_ifs
    · exact Framed.of_eq rfl rfl rfl rfl
    · exact Framed.of_eq rfl rfl rfl rfl
    · exact ⟨rfl, le_rfl, List.prefix_refl _, rfl, rfl, List.subset_append_left _ _,
        List.Subset.refl _⟩
  getOrAddDb _ _ _ w := by
    unfold getOrAddDb
    split_ifs
    · exact Framed.of_eq rfl rfl rfl rfl
    · exact Framed.of_eq rfl rfl rfl rfl
    · exact ⟨rfl, le_rfl, List.prefix_refl _, rfl, rfl, List.Subset.refl _,
        List.subset_append_left _ _⟩
  put _ _ := Moves.bind (fun _ => Framed.of_eq rfl rfl rfl rfl) fun _ w => by
    unfold insertEntry; split <;> exact Framed.of_eq rfl rfl rfl rfl
  set _ _ := Moves.bind (fun _ => Framed.of_eq rfl rfl rfl rfl) fun _ _ => Framed.of_eq rfl rfl rfl rfl
  del _ := Moves.bind (fun _ => Framed.of_eq rfl rfl rfl rfl) fun _ _ => Framed.of_eq rfl rfl rfl rfl

/-- INTERNAL: **every statement stays within the frame**, whatever its outcome.
SOURCE: access.rs:928-944 -/
theorem compute_frame (digest : String → String) (opt : Options) (stmt : AccessStatement) :
    Moves Step.frame (stmt.compute digest opt) :=
  compute_primitive primitive_frame digest opt stmt

/-- INTERNAL: an access method is resolved from the catalog's access methods alone.
SOURCE: access.rs:319-333 -/
theorem Framed.access {w w' : World} (h : Framed w w') (l : Level) (ac : String) :
    w'.catalog.access l ac = w.catalog.access l ac := by
  rw [Catalog.access, h.accesses, Catalog.access]

/-! ## Runs -/

/-- INTERNAL: **a run is a `T`-step** from every reachable world when each of its statements
is one from every reachable world.
SOURCE: access.rs:928-944 -/
theorem runAll_rel {T : Step} {digest : String → String} :
    ∀ {run : List (AccessStatement × Options)},
      (∀ x ∈ run, ∀ w, Reachable digest w → T.rel w (x.1.compute digest x.2 w).2) →
      ∀ w, Reachable digest w → T.rel w (runAll digest run w).2
  | [], _, w, _ => T.refl w
  | (stmt, opt) :: _, h, w, hw =>
    T.trans (h _ (List.mem_cons_self _ _) w hw)
      (runAll_rel (fun x hx => h x (List.mem_cons_of_mem _ hx)) _ (.step stmt opt hw))

/-- INTERNAL: a run from a reachable world ends in a reachable world.
SOURCE: access.rs:928-944 -/
theorem reachable_runAll {digest : String → String} :
    ∀ (run : List (AccessStatement × Options)) {w : World}, Reachable digest w →
      Reachable digest (runAll digest run w).2
  | [], _, hw => hw
  | (stmt, opt) :: run, _, hw => reachable_runAll run (.step stmt opt hw)

end AccessGrants.Analysis

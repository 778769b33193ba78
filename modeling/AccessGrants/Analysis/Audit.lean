import AccessGrants.Analysis.Frame
import AccessGrants.Analysis.KeyRecord

/-!
# Every change to the grant entries is audited

Each write of a grant entry in `access.rs` is followed, in the same straight-line block, by
the `info!` line that audits it: `put` then `create` (access.rs:384-410, 475-515), `set`
then `revoke` (access.rs:691-720, 776-804), `del` then `purge` (access.rs:894-919). The line
names the grant's access method and id, which are the key's when keys and records agree.

`Step.audited` is a step that only appends to the log and names, in an audit line it
appended, every entry it changed. A write followed by its line is one (`write_audited`);
so is every statement from a world where keys and records agree (`compute_audited`),
failed ones included, since nothing fails between a write and its line; and so is every run
from a reachable world (`changes_are_audited`).
-/

set_option autoImplicit false

namespace AccessGrants.Analysis

open AccessGrants Txn

/-! ## Two kinds of step -/

/-- A step that only appends to the log, and names, in an audit line it appended, the
access method and id of every entry it changed. -/
def Step.audited : Step where
  rel w w' := ∃ evs, w'.events = w.events ++ evs ∧ ∀ k, w'.store.get k ≠ w.store.get k →
    ∃ line, Event.audit line ∈ evs ∧ line.ac = k.ac ∧ line.id = k.gr
  refl w := ⟨[], (List.append_nil _).symm, fun _ h => absurd rfl h⟩
  trans := by
    rintro w₁ w₂ w₃ ⟨e₁, he₁, h₁⟩ ⟨e₂, he₂, h₂⟩
    refine ⟨e₁ ++ e₂, by rw [he₂, he₁, List.append_assoc], fun k hk => ?_⟩
    by_cases hk₂ : w₃.store.get k = w₂.store.get k
    · obtain ⟨line, hl, h⟩ := h₁ k (hk₂ ▸ hk)
      exact ⟨line, List.mem_append_left _ hl, h⟩
    · obtain ⟨line, hl, h⟩ := h₂ k hk₂
      exact ⟨line, List.mem_append_right _ hl, h⟩

/-- A step that only appends to the log and changes only entries of the access method `ac`
and grant id `id`: a write whose audit line is still to come. -/
def Step.writesAt (ac id : String) : Step where
  rel w w' := w.events <+: w'.events ∧
    ∀ k, w'.store.get k ≠ w.store.get k → k.ac = ac ∧ k.gr = id
  refl w := ⟨List.prefix_refl _, fun _ h => absurd rfl h⟩
  trans := by
    rintro w₁ w₂ w₃ ⟨he₁, h₁⟩ ⟨he₂, h₂⟩
    refine ⟨he₁.trans he₂, fun k hk => ?_⟩
    by_cases hk₂ : w₃.store.get k = w₂.store.get k
    · exact h₁ k (hk₂ ▸ hk)
    · exact h₂ k hk₂

section Kept

variable {α : Type} {m : Txn α}

/-- INTERNAL: an operation within the frame that keeps the grant entries is audited. -/
theorem audited_of_kept (hF : Moves Step.frame m) (hs : Moves (Step.keeps World.store) m) :
    Moves Step.audited m := fun w => by
  obtain ⟨evs, he⟩ := (hF w).events
  exact ⟨evs, he.symm, fun _ hk => absurd (by rw [hs w]) hk⟩

/-- INTERNAL: an operation within the frame that keeps the grant entries writes at any key. -/
theorem writesAt_of_kept (hF : Moves Step.frame m) (hs : Moves (Step.keeps World.store) m)
    (ac id : String) : Moves (Step.writesAt ac id) m := fun w =>
  ⟨(hF w).events, fun _ hk => absurd (by rw [hs w]) hk⟩

end Kept

/-- INTERNAL: the store's answer to a write changes no entry.
SOURCE: access.rs:691-703, 776-789, 893-903 -/
theorem storeWrite_writesAt (ac id : String) : Moves (Step.writesAt ac id) storeWrite := fun _ =>
  ⟨List.prefix_refl _, fun _ h => absurd rfl h⟩

/-- INTERNAL: setting the entry under a key changes entries of that key's method and id only.
SOURCE: access.rs:691-703, 776-789 -/
theorem setEntry_writesAt {k : GrantKey} {ac id : String} (hac : k.ac = ac) (hid : k.gr = id)
    (v : AccessGrant) : Moves (Step.writesAt ac id) (setEntry k v) := fun w =>
  ⟨List.prefix_refl _, fun k' hk => by
    change (w.store.set k v).get k' ≠ w.store.get k' at hk
    rw [Store.get_set] at hk
    split_ifs at hk with hkey
    · subst hkey; exact ⟨hac, hid⟩
    · exact absurd rfl hk⟩

/-- INTERNAL: a store write changes entries of its key's method and id only.
SOURCE: access.rs:691-703, 776-789 -/
theorem set_writesAt {k : GrantKey} {ac id : String} (hac : k.ac = ac) (hid : k.gr = id)
    (v : AccessGrant) : Moves (Step.writesAt ac id) (set k v) :=
  Moves.bind (storeWrite_writesAt ac id) fun _ => setEntry_writesAt hac hid v

/-- INTERNAL: a store delete changes entries of its key's method and id only.
SOURCE: access.rs:893-903 -/
theorem del_writesAt {k : GrantKey} {ac id : String} (hac : k.ac = ac) (hid : k.gr = id) :
    Moves (Step.writesAt ac id) (del k) :=
  Moves.bind (storeWrite_writesAt ac id) fun _ w =>
    ⟨List.prefix_refl _, fun k' hk => by
      change (w.store.del k).get k' ≠ w.store.get k' at hk
      rw [Store.get_del] at hk
      split_ifs at hk with hkey
      · subst hkey; exact ⟨hac, hid⟩
      · exact absurd rfl hk⟩

/-- INTERNAL: putting a grant changes entries of its key's method and id only.
SOURCE: access.rs:395-410, 500-515 -/
theorem putGrant_writesAt (k : GrantKey) (v : AccessGrant) :
    Moves (Step.writesAt k.ac k.gr) (putGrant k v) :=
  Moves.bind (Moves.bind (storeWrite_writesAt _ _) fun _ w => by
    show Step.writesAt k.ac k.gr |>.rel w (insertEntry k v w).2
    unfold insertEntry
    split
    · exact Step.refl _ w
    · exact setEntry_writesAt rfl rfl v w) fun res => by
    rcases res with e | _
    · dsimp only
      split_ifs
      · exact Moves.bind (writesAt_of_kept (primitive_frame.emit _) (emit_keeps_store _) _ _)
          fun _ => Moves.fail e
      · exact Moves.bind (Moves.pure _) fun _ => Moves.fail e
    · exact Moves.pure _

/-- INTERNAL: storing a record grant changes entries of the grant's method and id only.
SOURCE: access.rs:375-410 -/
theorem putRecordGrant_writesAt (opt : Options) (base : Base) (gr grStore : AccessGrant) :
    Moves (Step.writesAt gr.ac gr.id) (putRecordGrant opt base gr grStore) := by
  cases base
  case db =>
    exact Moves.bind (Moves.lift _) fun ⟨ns, db⟩ =>
      Moves.bind (writesAt_of_kept (primitive_frame.getOrAddNs _ _) (getOrAddNs_keeps_store _ _) _ _)
        fun _ => Moves.bind (writesAt_of_kept (primitive_frame.getOrAddDb _ _ _)
          (getOrAddDb_keeps_store _ _ _) _ _) fun _ => putGrant_writesAt _ _
  all_goals exact Moves.fail _

/-! ## A write and its audit line -/

/-- INTERNAL: after a write at `(gr.ac, gr.id)`, the audit line of `gr` names what it
changed.
SOURCE: access.rs:403-414, 713-722, 797-806, 912-920 -/
theorem audit_after {w w₁ : World} {verb : String} {gr : AccessGrant} {opt : Options}
    (h : (Step.writesAt gr.ac gr.id).rel w w₁) : Step.audited.rel w (audit verb gr opt w₁).2 := by
  obtain ⟨⟨evs, he⟩, hs⟩ := h
  refine ⟨evs ++ [.audit ⟨verb, gr.ac, gr.id, gr.grant.variant, gr.subject, opt.auth⟩],
    by simp only [audit, emit, ← he, List.append_assoc], fun k hk => ?_⟩
  obtain ⟨hac, hid⟩ := hs k hk
  exact ⟨_, List.mem_append_right _ (List.mem_singleton_self _), hac.symm, hid.symm⟩

/-- INTERNAL: **a write followed by its audit line is audited**: an operation that changes
only entries of `(gr.ac, gr.id)`, and none when it fails, then the audit line of `gr`, then
anything audited.
SOURCE: access.rs:403-414, 713-722, 797-806, 912-920 -/
theorem write_audited {α β : Type} {m : Txn α} {f : Txn β} {verb : String} {gr : AccessGrant}
    {opt : Options} (hm : Moves (Step.writesAt gr.ac gr.id) m)
    (he : OnError (Step.keeps World.store) m) (hf : Moves Step.audited f) :
    Moves Step.audited (m >>= fun _ => audit verb gr opt >>= fun _ => f) := fun w => by
  rw [bind_apply]
  rcases h : m w with ⟨_ | a, w₁⟩
  · obtain ⟨⟨evs, hev⟩, -⟩ := hm.rel h
    exact ⟨evs, hev.symm, fun _ hk => absurd (by rw [he w _ _ h]) hk⟩
  · exact Step.audited.trans (audit_after (hm.rel h)) (hf _)

/-! ## Each statement -/

section Statements

variable {digest : String → String} {opt : Options}

/-- INTERNAL: **Create is audited**: its one write is followed by its audit line.
SOURCE: access.rs:304-523 -/
theorem createGrant_audited (stmt : AccessStatementGrant) :
    Moves Step.audited (createGrant digest stmt opt) :=
  Moves.bind (Moves.of_same (openAccess_same _ _ _ _)) fun ⟨_, ac⟩ => by
    dsimp only
    cases ac.kind with
    | jwt => exact Moves.fail _
    | record _ =>
      exact Moves.bind (Moves.of_same (checkRecordSubject_moves _ _)) fun _ =>
        Moves.bind (Moves.lift _) fun _ => Moves.bind (audited_of_kept
          (mintGrant_primitive primitive_frame _ _ _) (mintGrant_keeps_store _ _ _)) fun ⟨_, _⟩ =>
            write_audited (putRecordGrant_writesAt _ _ _ _) (putRecordGrant_onError _ _ _ _)
              (Moves.pure _)
    | bearer _ =>
      exact Moves.bind (Moves.of_same (checkBearerSubject_moves _ _ _ _)) fun _ =>
        Moves.bind (audited_of_kept (mintGrant_primitive primitive_frame _ _ _)
          (mintGrant_keeps_store _ _ _)) fun ⟨_, _⟩ => Moves.bind (Moves.lift _) fun _ =>
            Moves.bind (audited_of_kept (ensureLevel_primitive primitive_frame _ _)
              (ensureLevel_keeps_store _ _)) fun _ =>
                write_audited (putGrant_writesAt _ _) (putGrant_onError _ _) (Moves.pure _)

/-- INTERNAL: writing back a grant of the method and id it is written under is audited.
SOURCE: access.rs:683-720, 764-804 -/
theorem revokeAs_audited {base : Base} {ac id : String} {gr : AccessGrant} (hac : gr.ac = ac)
    (hid : gr.id = id) : Moves Step.audited (revokeAs opt base ac id gr) :=
  Moves.bind (audited_of_kept primitive_frame.now now_keeps_store) fun _ =>
    Moves.bind (Moves.lift _) fun _ => Moves.bind (audited_of_kept
      (ensureLevel_primitive primitive_frame _ _) (ensureLevel_keeps_store _ _)) fun _ =>
        write_audited (set_writesAt hac.symm hid.symm _) (set_onError _ _) (Moves.pure _)

/-- INTERNAL: one iteration of the bulk revoke loop over a grant of the statement's method is
audited.
SOURCE: access.rs:738-806 -/
theorem revokeOne_audited {stmt : AccessStatementRevoke} {base : Base} {gr : AccessGrant}
    (hac : gr.ac = stmt.ac) : Moves Step.audited (revokeOne stmt opt base gr) := by
  unfold revokeOne
  split
  · exact Moves.pure _
  · refine Moves.bind (audited_of_kept (matchesCond_primitive primitive_frame _ _)
      (matchesCond_keeps_store _ _)) fun keep => ?_
    cases keep
    · exact Moves.pure _
    · exact Moves.bind (revokeAs_audited hac rfl) fun _ => Moves.pure _

/-- INTERNAL: **Revoke is audited** from a store where keys and records agree: each grant it
writes back is of the method and id of its key.
SOURCE: access.rs:636-814 -/
theorem revokeGrant_audited (stmt : AccessStatementRevoke) {w : World} (hI : KeyRecord w.store) :
    Step.audited.rel w (revokeGrant stmt opt w).2 :=
  revokeGrant_step stmt opt
    (fun _ _ _ _ _ hg _ => revokeAs_audited (hI _ _ hg).ac_eq (hI _ _ hg).id_eq w)
    fun _ _ _ => Moves.collect_at (fun (g : AccessGrant) (_ : World) => g.ac = stmt.ac)
      (fun _ _ _ h _ => h) (fun _ _ hg => revokeOne_audited hg _) _ _
      fun _ hg => (hI _ _ (hI.get_of_mem_scan hg)).ac_eq

/-- INTERNAL: one iteration of the purge loop over a grant of the statement's method is
audited.
SOURCE: access.rs:874-920 -/
theorem purgeOne_audited {stmt : AccessStatementPurge} {base : Base} {gr : AccessGrant}
    (hac : gr.ac = stmt.ac) : Moves Step.audited (purgeOne stmt opt base gr) :=
  Moves.bind (audited_of_kept primitive_frame.now now_keeps_store) fun _ => by
    split
    · exact Moves.bind (Moves.lift _) fun _ =>
        write_audited (del_writesAt hac.symm rfl) (del_onError _) (Moves.pure _)
    · exact Moves.pure _

/-- INTERNAL: **Purge is audited** from a store where keys and records agree: each grant it
deletes is of the method and id of its key.
SOURCE: access.rs:827-923 -/
theorem computePurge_audited (stmt : AccessStatementPurge) {w : World} (hI : KeyRecord w.store) :
    Step.audited.rel w (computePurge stmt opt w).2 := by
  refine Moves.bind_at (Moves.of_same (openAccess_same _ _ _ _) w) fun _ w₁ h₁ => ?_
  obtain ⟨rfl, -⟩ := openAccess_ok h₁
  refine Moves.bind_at (Moves.lift _ _) fun _ w₂ h₂ => ?_
  obtain ⟨-, rfl⟩ := lift_ok h₂
  refine Moves.bind_at (Moves.of_same (allGrants_same _ _) _) fun _ w₃ h₃ => ?_
  cases h₃
  exact Moves.bind_at (Moves.collect_at (fun (g : AccessGrant) (_ : World) => g.ac = stmt.ac)
    (fun _ _ _ h _ => h) (fun _ _ hg => purgeOne_audited hg _) _ _
    fun _ hg => (hI _ _ (hI.get_of_mem_scan hg)).ac_eq) fun _ w₄ _ => Step.audited.refl w₄

/-- INTERNAL: **every statement is audited** from a store where keys and records agree,
whatever its outcome.
SOURCE: access.rs:928-944 -/
theorem compute_audited (stmt : AccessStatement) {w : World} (hI : KeyRecord w.store) :
    Step.audited.rel w (stmt.compute digest opt w).2 := by
  cases stmt with
  | grant s => exact Moves.bind (createGrant_audited s) (fun _ => Moves.pure _) w
  | show' s =>
    exact audited_of_kept (computeShow_primitive primitive_frame s opt) (computeShow_keeps_store s opt) w
  | revoke s => exact Moves.bind_at (revokeGrant_audited s hI) fun _ w' _ => Step.audited.refl w'
  | purge s => exact computePurge_audited s hI

end Statements

/-! ## Every run -/

/-- **Every change to the grant entries is audited.** Over every run of the four statements
from a world that runs reach from a store without grant entries, failed statements included,
the log is only appended to, and every grant entry that differs between the start and the
end of the run, whether added, revoked or deleted, is named by its access method and grant
id in an audit line appended during the run. -/
theorem changes_are_audited (digest : String → String) (run : List (AccessStatement × Options))
    (w : World) (hw : Reachable digest w) :
    ∃ evs, (runAll digest run w).2.events = w.events ++ evs ∧
      ∀ k, (runAll digest run w).2.store.get k ≠ w.store.get k →
        ∃ line, Event.audit line ∈ evs ∧ line.ac = k.ac ∧ line.id = k.gr :=
  runAll_rel (fun x _ _ hw => compute_audited x.1 (keyRecord_of_reachable hw)) w hw

/-- After a Create, a run of one `REVOKE ALL` changes the entry it created, and is audited. -/
theorem revoke_after_grant_is_audited :
    Reachable id grantedWorld ∧
    (runAll id [(.revoke revokeAllA, rootSession)] grantedWorld).2.store.get grantKeyU ≠
      grantedWorld.store.get grantKeyU ∧
    ∃ evs, (runAll id [(.revoke revokeAllA, rootSession)] grantedWorld).2.events =
        grantedWorld.events ++ evs ∧
      ∀ k, (runAll id [(.revoke revokeAllA, rootSession)] grantedWorld).2.store.get k ≠
          grantedWorld.store.get k →
        ∃ line, Event.audit line ∈ evs ∧ line.ac = k.ac ∧ line.id = k.gr :=
  ⟨reachable_grantedWorld, by decide,
    changes_are_audited id [(.revoke revokeAllA, rootSession)] grantedWorld reachable_grantedWorld⟩

end AccessGrants.Analysis

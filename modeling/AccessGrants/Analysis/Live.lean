import AccessGrants.Model.Live

/-!
# Registering live queries: when it succeeds, what it writes, the indexes over runs

`LiveStatement::compute` (live.rs:65-130) writes a live query under two keys, one in the
node's index and one in the table's, each by a `replace` the store may fail. A registration
succeeds exactly when its checks pass and the store takes both writes
(`live_succeeds_iff`); a successful one writes the two entries (`compute_registers`), and a
failed one returns the world it was given, its transaction being cancelled
(`compute_error_world`): the body alone keeps a first write when the second fails. Over any
run of LIVE statements whose ids are new and distinct the two indexes agree
(`live_indexes_agree`): every node entry has the table entry it names, on a defined table,
and every table entry has the node entry of its statement's node. Distinct ids are needed:
the same statement computed twice, in two databases, leaves its first table entry under a
node entry that names the second (`reused_id_orphans_table_entry`).

Every result goes through two lemmas about the statement, one case split (`compute_cases`)
and one evaluation (`compute_of_checks`); the index invariant's step splits each lookup on
whether its key is the one just written.
-/

set_option autoImplicit false

namespace AccessGrants

variable {S Q W : Type}

/-- The two live-query indexes agree: a node entry names a defined table whose index holds
the query, registered on that node; a table entry holds a statement of that id whose node
entry names that table. -/
structure LiveWorld.Agree (w : LiveWorld (LiveStatement Q W)) : Prop where
  node : ∀ nid id l, w.nodeLq (nid, id) = some l →
    (l.ns, l.db, l.tb) ∈ w.tables ∧ ∃ s, w.tableLq (l.ns, l.db, l.tb, id) = some s ∧ s.node = nid
  table : ∀ ns db tb id s, w.tableLq (ns, db, tb, id) = some s →
    s.id = id ∧ w.nodeLq (s.node, id) = some ⟨ns, db, tb⟩

/-- No entry of either index is under the id. -/
def LiveWorld.Unused (w : LiveWorld S) (id : Uuid) : Prop :=
  (∀ nid, w.nodeLq (nid, id) = none) ∧ ∀ ns db tb, w.tableLq (ns, db, tb, id) = none

/-- What a registration of `stm` on node `nid`, listening as `lq`, writes from `w` to `w'`:
the node's entry, the table's entry holding the statement with the node, the session's
authentication and `session` value, a cache bump when there is a cache, and the table
defined; in strict mode nothing is defined. -/
structure Registers (ctx : LiveContext) (stm : LiveStatement Q W) (nid : Uuid) (lq : Live)
    (w w' : LiveWorld (LiveStatement Q W)) : Prop where
  node : w'.nodeLq = Function.update w.nodeLq (nid, stm.id) (some lq)
  table : w'.tableLq = Function.update w.tableLq (lq.ns, lq.db, lq.tb, stm.id)
    (some { stm with node := nid, auth := some ctx.opt.auth, session := ctx.session })
  versions : w'.versions = w.versions ++ if ctx.cache then [(lq.ns, lq.db, lq.tb)] else []
  defined : (lq.ns, lq.db, lq.tb) ∈ w'.tables
  tables : w.tables ⊆ w'.tables
  strict : ctx.opt.strict = true →
    w'.namespaces = w.namespaces ∧ w'.databases = w.databases ∧ w'.tables = w.tables

end AccessGrants

namespace AccessGrants.Analysis

open AccessGrants

variable {S Q W : Type}

/-! ## The transaction's body -/

/-- INTERNAL: **a bind of `Except` that succeeds** succeeded in its first part.
SOURCE: live.rs:72-108 -/
theorem except_bind_ok {ε α β : Type} {x : Except ε α} {f : α → Except ε β} {b : β}
    (h : x >>= f = .ok b) : ∃ a, x = .ok a ∧ f a = .ok b := by
  cases x with
  | error e => cases h
  | ok a => exact ⟨a, rfl, h⟩

section Ensure

variable {α : Type} [DecidableEq α] {l l' : List α} {x : α} {strict : Bool} {e : LiveError}

/-- INTERNAL: **a `get_or_add` step that succeeds** leaves the name defined, drops no name,
and in strict mode adds none.
SOURCE: live.rs:108 -/
theorem getOrAdd_ok (h : getOrAdd l x strict e = .ok l') :
    x ∈ l' ∧ l ⊆ l' ∧ (strict = true → l' = l) := by
  unfold getOrAdd at h
  split_ifs at h with hx hs <;> cases h
  · exact ⟨hx, List.Subset.refl _, fun _ => rfl⟩
  · simp_all

/-- INTERNAL: **a `get_or_add` step succeeds** outside strict mode, and on a defined name.
SOURCE: live.rs:108 -/
theorem getOrAdd_of (l : List α) (x : α) (e : LiveError) (h : strict = false ∨ x ∈ l) :
    ∃ l', getOrAdd l x strict e = .ok l' := by
  unfold getOrAdd
  split_ifs with hx hs
  · exact ⟨_, rfl⟩
  · simp_all
  · exact ⟨_, rfl⟩

variable {w w₁ : LiveWorld S} {ns db tb : String}

/-- INTERNAL: **`ensure_ns_db_tb` that succeeds** defines the namespace, the database and the
table, keeps every table, leaves the indexes, the cache and the store's answers alone, and
in strict mode changes nothing.
SOURCE: live.rs:108 -/
theorem ensureNsDbTb_ok (h : w.ensureNsDbTb ns db tb strict = .ok w₁) :
    w₁.nodeLq = w.nodeLq ∧ w₁.tableLq = w.tableLq ∧ w₁.versions = w.versions ∧
      ns ∈ w₁.namespaces ∧ (ns, db) ∈ w₁.databases ∧ (ns, db, tb) ∈ w₁.tables ∧
      w.tables ⊆ w₁.tables ∧ (strict = true → w₁ = w) ∧ w₁.faults = w.faults ∧
      w₁.writes = w.writes := by
  unfold LiveWorld.ensureNsDbTb at h
  obtain ⟨n, hn, h⟩ := except_bind_ok h
  obtain ⟨d, hd, h⟩ := except_bind_ok h
  obtain ⟨t, ht, h⟩ := except_bind_ok h
  cases h
  obtain ⟨hns, -, hn⟩ := getOrAdd_ok hn
  obtain ⟨hdb, -, hd⟩ := getOrAdd_ok hd
  obtain ⟨htb, hsub, ht⟩ := getOrAdd_ok ht
  refine ⟨rfl, rfl, rfl, hns, hdb, htb, hsub, fun hs => ?_, rfl, rfl⟩
  rw [hn hs, hd hs, ht hs]

/-- INTERNAL: **`ensure_ns_db_tb` succeeds** outside strict mode, and when the namespace,
the database and the table are all defined.
SOURCE: live.rs:108 -/
theorem ensureNsDbTb_of
    (h : strict = false ∨ ns ∈ w.namespaces ∧ (ns, db) ∈ w.databases ∧ (ns, db, tb) ∈ w.tables) :
    ∃ w₁, w.ensureNsDbTb ns db tb strict = .ok w₁ := by
  obtain ⟨n, hn⟩ := getOrAdd_of w.namespaces ns (.nsNotFound ns) (h.imp_right And.left)
  obtain ⟨d, hd⟩ := getOrAdd_of w.databases (ns, db) (.dbNotFound ns db)
    (h.imp_right fun h => h.2.1)
  obtain ⟨t, ht⟩ := getOrAdd_of w.tables (ns, db, tb) (.tbNotFound tb) (h.imp_right fun h => h.2.2)
  exact ⟨_, by simp only [LiveWorld.ensureNsDbTb, hn, hd, ht]; rfl⟩

end Ensure

section Checks

variable {ctx : LiveContext}

/-- INTERNAL: **`realtime()` passes** only when realtime is enabled.
SOURCE: live.rs:73 -/
theorem realtime_ok {u : Unit} (h : ctx.realtime = .ok u) : ctx.live = true := by
  cases hl : ctx.live <;> simp_all [LiveContext.realtime]

/-- INTERNAL: **`id()` returns** the node's id.
SOURCE: live.rs:77 -/
theorem nodeId_ok {nid : Uuid} (h : ctx.nodeId = .ok nid) : ctx.id = some nid := by
  cases hid : ctx.id <;> simp_all [LiveContext.nodeId]

/-- INTERNAL: **`ns_db()` returns** the selected namespace and database.
SOURCE: live.rs:98 -/
theorem nsDb_ok {p : String × String} (h : ctx.nsDb = .ok p) : ctx.opt.nsDb = .ok p := by
  unfold LiveContext.nsDb at h
  split at h <;> simp_all

end Checks

variable (f : LiveContext → W → Except LiveError LiveTarget) (ctx : LiveContext)
  (self : LiveStatement Q W) (w : LiveWorld (LiveStatement Q W))

/-- INTERNAL: **the part before the writes that succeeds** passed every check: realtime is
on, the node has an id, a namespace and a database are selected, `what` is a table, and the
namespace, the database and the table were ensured; the statement to store is the given one
with the node, the session's authentication and its `session` value.
SOURCE: live.rs:72-108 -/
theorem prepare_ok {nid : Uuid} {lq : Live} {stm : LiveStatement Q W}
    {w₁ : LiveWorld (LiveStatement Q W)} (h : self.prepare f ctx w = .ok (nid, lq, stm, w₁)) :
    ctx.live = true ∧ ctx.id = some nid ∧ ctx.opt.nsDb = .ok (lq.ns, lq.db) ∧
      f ctx self.what = .ok (.table lq.tb) ∧ w.ensureNsDbTb lq.ns lq.db lq.tb ctx.opt.strict = .ok w₁ ∧
      stm = { self with node := nid, auth := some ctx.opt.auth, session := ctx.session } := by
  unfold LiveStatement.prepare at h
  obtain ⟨_, hr, h⟩ := except_bind_ok h
  obtain ⟨_, -, h⟩ := except_bind_ok h
  obtain ⟨nid', hn, h⟩ := except_bind_ok h
  obtain ⟨t, hf, h⟩ := except_bind_ok h
  cases t with
  | other v => cases h
  | table tb =>
    obtain ⟨⟨ns, db⟩, hns, h⟩ := except_bind_ok h
    obtain ⟨w₂, he, h⟩ := except_bind_ok h
    cases h
    exact ⟨realtime_ok hr, nodeId_ok hn, nsDb_ok hns, hf, he, rfl⟩

/-- INTERNAL: **the part before the writes, evaluated** where every check passes.
SOURCE: live.rs:72-108 -/
theorem prepare_of_checks {nid : Uuid} {ns db tb : String} {w₁ : LiveWorld (LiveStatement Q W)}
    (hl : ctx.live = true) (hid : ctx.id = some nid) (hns : ctx.opt.nsDb = .ok (ns, db))
    (hf : f ctx self.what = .ok (.table tb))
    (he : w.ensureNsDbTb ns db tb ctx.opt.strict = .ok w₁) :
    self.prepare f ctx w = .ok (nid, ⟨ns, db, tb⟩,
      { self with node := nid, auth := some ctx.opt.auth, session := ctx.session }, w₁) := by
  simp [LiveStatement.prepare, LiveContext.realtime, LiveContext.validForDb, LiveContext.nodeId,
    LiveContext.nsDb, hl, hid, hns, hf, he, bind, Except.bind, pure, Except.pure]

/-- INTERNAL: **a registration fails and returns the world it was given, or passed every
check and the store took both its writes.**
SOURCE: live.rs:72-118 -/
theorem compute_cases :
    (∃ e, self.compute f ctx w = (.error e, w)) ∨
    ∃ nid ns db tb w₁, ctx.live = true ∧ ctx.id = some nid ∧ ctx.opt.nsDb = .ok (ns, db) ∧
      f ctx self.what = .ok (.table tb) ∧ w.ensureNsDbTb ns db tb ctx.opt.strict = .ok w₁ ∧
      w.faults w.writes = none ∧ w.faults (w.writes + 1) = none := by
  rcases hp : self.prepare f ctx w with e | ⟨nid, ⟨ns, db, tb⟩, stm, w₁⟩
  · exact .inl ⟨e, by simp [LiveStatement.compute, LiveStatement.register, hp]⟩
  obtain ⟨hl, hid, hns, hf, hE, rfl⟩ := prepare_ok f ctx self w hp
  obtain ⟨-, -, -, -, -, -, -, -, hfa, hwr⟩ := ensureNsDbTb_ok hE
  cases h₀ : w.faults w.writes with
  | some msg =>
    exact .inl ⟨.tx msg, by simp [LiveStatement.compute, LiveStatement.register, hp,
      LiveWorld.replace, hfa, hwr, h₀]⟩
  | none =>
    cases h₁ : w.faults (w.writes + 1) with
    | some msg =>
      exact .inl ⟨.tx msg, by simp [LiveStatement.compute, LiveStatement.register, hp,
        LiveWorld.replace, hfa, hwr, h₀, h₁]⟩
    | none => exact .inr ⟨nid, ns, db, tb, w₁, hl, hid, hns, hf, hE, rfl, rfl⟩

/-- INTERNAL: **a registration that passes every check, where the store takes both writes,**
returns the statement's id, having written the node's entry and the table's entry over the
ensured world and bumped the cache when there is one.
SOURCE: live.rs:94-118 -/
theorem compute_of_checks {nid : Uuid} {ns db tb : String} {w₁ : LiveWorld (LiveStatement Q W)}
    (hl : ctx.live = true) (hid : ctx.id = some nid) (hns : ctx.opt.nsDb = .ok (ns, db))
    (hf : f ctx self.what = .ok (.table tb))
    (hE : w.ensureNsDbTb ns db tb ctx.opt.strict = .ok w₁) (h₀ : w.faults w.writes = none)
    (h₁ : w.faults (w.writes + 1) = none) :
    (self.compute f ctx w).1 = .ok self.id ∧
      Registers ctx self nid ⟨ns, db, tb⟩ w (self.compute f ctx w).2 := by
  obtain ⟨hnode, htable, hver, -, -, hdef, hsub, hs, hfa, hwr⟩ := ensureNsDbTb_ok hE
  simp only [LiveStatement.compute, LiveStatement.register,
    prepare_of_checks f ctx self w hl hid hns hf hE, LiveWorld.replace, hfa, hwr, h₀, h₁]
  refine ⟨trivial, ?_⟩
  cases hc : ctx.cache <;> exact ⟨by rw [hnode]; rfl, by rw [htable]; rfl, by rw [← hver]; simp [hc],
    hdef, hsub, fun h => by rw [hs h]; exact ⟨rfl, rfl, rfl⟩⟩

/-- INTERNAL: **what a successful registration writes**, with the checks it passed.
SOURCE: live.rs:72-129 -/
theorem compute_registers {u : Uuid} (h : (self.compute f ctx w).1 = .ok u) :
    u = self.id ∧ ctx.live = true ∧ ∃ nid ns db tb, ctx.id = some nid ∧
      ctx.opt.nsDb = .ok (ns, db) ∧ f ctx self.what = .ok (.table tb) ∧
      Registers ctx self nid ⟨ns, db, tb⟩ w (self.compute f ctx w).2 := by
  rcases compute_cases f ctx self w with ⟨e, he⟩ | ⟨nid, ns, db, tb, w₁, hl, hid, hns, hf, hE, h₀, h₁⟩
  · rw [he] at h; cases h
  obtain ⟨hv, hR⟩ := compute_of_checks f ctx self w hl hid hns hf hE h₀ h₁
  exact ⟨(Except.ok.inj (h.symm.trans hv)), hl, nid, ns, db, tb, hid, hns, hf, hR⟩

/-- INTERNAL: **a failed registration returns the world it was given**, its transaction being
cancelled.
SOURCE: live.rs:72-127 -/
theorem compute_error_world {e : LiveError} (h : (self.compute f ctx w).1 = .error e) :
    (self.compute f ctx w).2 = w := by
  rcases hr : self.register f ctx w with ⟨_ | u, w'⟩ <;> simp [LiveStatement.compute, hr] at h ⊢

/-- INTERNAL: **when a registration succeeds**: exactly when realtime is enabled, the node
has an id, a namespace and a database are selected, `what` computes to a table, the session
is not strict or the namespace, the database and the table are all defined, and the store
takes both writes; it then returns the statement's own id.
SOURCE: live.rs:72-129 -/
theorem live_succeeds_iff (u : Uuid) :
    (self.compute f ctx w).1 = .ok u ↔ u = self.id ∧ ctx.live = true ∧ ∃ nid ns db tb,
      ctx.id = some nid ∧ ctx.opt.nsDb = .ok (ns, db) ∧ f ctx self.what = .ok (.table tb) ∧
      (ctx.opt.strict = false ∨
        ns ∈ w.namespaces ∧ (ns, db) ∈ w.databases ∧ (ns, db, tb) ∈ w.tables) ∧
      w.faults w.writes = none ∧ w.faults (w.writes + 1) = none := by
  constructor
  · intro h
    rcases compute_cases f ctx self w with ⟨e, he⟩ | ⟨nid, ns, db, tb, w₁, hl, hid, hns, hf, hE, h₀, h₁⟩
    · rw [he] at h; cases h
    obtain ⟨-, -, -, hn, hd, ht, -, hs, -⟩ := ensureNsDbTb_ok hE
    refine ⟨(Except.ok.inj (h.symm.trans (compute_of_checks f ctx self w hl hid hns hf hE h₀ h₁).1)),
      hl, nid, ns, db, tb, hid, hns, hf, ?_, h₀, h₁⟩
    cases hstrict : ctx.opt.strict
    · exact .inl rfl
    · obtain rfl := hs hstrict
      exact .inr ⟨hn, hd, ht⟩
  · rintro ⟨rfl, hl, nid, ns, db, tb, hid, hns, hf, hE, h₀, h₁⟩
    obtain ⟨w₁, hE⟩ := ensureNsDbTb_of hE
    exact (compute_of_checks f ctx self w hl hid hns hf hE h₀ h₁).1

/-! ## The indexes over runs -/

/-- INTERNAL: **a registration keeps an id unused** when it registers another id.
SOURCE: live.rs:72-129 -/
theorem compute_unused {id : Uuid} (hU : w.Unused id) (hne : id ≠ self.id) :
    (self.compute f ctx w).2.Unused id := by
  cases hr : (self.compute f ctx w).1 with
  | error e => rw [compute_error_world f ctx self w hr]; exact hU
  | ok u =>
    obtain ⟨-, -, nid, ns, db, tb, -, -, -, hR⟩ := compute_registers f ctx self w hr
    refine ⟨fun n => ?_, fun a b c => ?_⟩
    · rw [hR.node, Function.update_noteq (fun h => hne (congrArg Prod.snd h)), hU.1]
    · rw [hR.table, Function.update_noteq (fun h => hne (congrArg (·.2.2.2) h)), hU.2]

/-- INTERNAL: **one registration of an unused id keeps the indexes in agreement**: a lookup
under the key just written finds the new entries, which name each other; any other lookup
finds an old entry, whose partner is not under the new id either.
SOURCE: live.rs:72-129 -/
theorem compute_agree (hA : w.Agree) (hU : w.Unused self.id) :
    (self.compute f ctx w).2.Agree := by
  cases hr : (self.compute f ctx w).1 with
  | error e => rw [compute_error_world f ctx self w hr]; exact hA
  | ok u =>
    obtain ⟨-, -, nid, ns, db, tb, -, -, -, hR⟩ := compute_registers f ctx self w hr
    constructor
    · intro n i l hl
      rw [hR.node] at hl
      rcases eq_or_ne (n, i) (nid, self.id) with hk | hk
      · obtain ⟨rfl, rfl⟩ := Prod.mk.inj hk
        rw [Function.update_apply, if_pos rfl] at hl
        cases hl
        exact ⟨hR.defined, _, by rw [hR.table, Function.update_same], rfl⟩
      · rw [Function.update_noteq hk] at hl
        obtain ⟨hdef, s, hs, hsn⟩ := hA.node n i l hl
        have hi : i ≠ self.id := fun h => by rw [h, hU.1] at hl; cases hl
        exact ⟨hR.tables hdef, s, by rw [hR.table, Function.update_noteq (fun h => hi (congrArg (·.2.2.2) h)), hs], hsn⟩
    · intro a b c i s hs
      rw [hR.table] at hs
      rcases eq_or_ne (a, b, c, i) (ns, db, tb, self.id) with hk | hk
      · simp only [Prod.mk.injEq] at hk
        obtain ⟨rfl, rfl, rfl, rfl⟩ := hk
        rw [Function.update_apply, if_pos rfl] at hs
        cases hs
        exact ⟨rfl, by rw [hR.node, Function.update_same]⟩
      · rw [Function.update_noteq hk] at hs
        obtain ⟨hid, hn⟩ := hA.table a b c i s hs
        have hi : i ≠ self.id := fun h => by rw [h, hU.2] at hs; cases hs
        exact ⟨hid, by rw [hR.node, Function.update_noteq (fun h => hi (congrArg Prod.snd h)), hn]⟩

/-- **The two live-query indexes agree over every run** of LIVE statements whose ids are
distinct and unused at the start: every node entry names a defined table whose index holds
the query, registered on that node, and every table entry holds a statement of its id whose
node entry names that table. -/
theorem live_indexes_agree : ∀ (run : List (LiveContext × LiveStatement Q W))
    (w : LiveWorld (LiveStatement Q W)), w.Agree → (∀ x ∈ run, w.Unused x.2.id) →
    (run.map fun x => x.2.id).Nodup → (liveRun f run w).2.Agree
  | [], _, hA, _, _ => hA
  | (ctx, stm) :: rest, w, hA, hU, hnd => by
    rw [List.map_cons, List.nodup_cons] at hnd
    refine live_indexes_agree rest _ (compute_agree f ctx stm w hA (hU _ (.head _)))
      (fun x hx => compute_unused f ctx stm w (hU x (.tail _ hx)) ?_) hnd.2
    exact fun h => hnd.1 (h ▸ List.mem_map_of_mem _ hx)

/-- A session at namespace `test` and database `db`, not strict, as `root`, on node 7 of a
realtime-enabled datastore with a cache. -/
def liveSession (db : String) : LiveContext :=
  ⟨⟨some "test", some db, false, "root", fun _ _ => .ok ()⟩, true, some ⟨7⟩, none, true⟩

/-- `LIVE SELECT * FROM person` with id `id`, its `what` kept as the table's name. -/
def personQuery (id : Nat) : LiveStatement Unit String := ⟨⟨id⟩, ⟨0⟩, (), "person", none, none⟩

/-- `what` computed as the table it names. -/
def tableOf (_ : LiveContext) (tb : String) : Except LiveError LiveTarget := .ok (.table tb)

/-- No namespace, database, table or live query defined. -/
def emptyLive : LiveWorld (LiveStatement Unit String) :=
  ⟨[], [], [], fun _ => none, fun _ => none, [], fun _ => none, 0⟩

/-- The transaction's body keeps a first write when the store fails the second: the node's
entry is written and the table's is not; the statement returns the world it was given. -/
example :
    let w := { emptyLive with faults := fun n => if n = 1 then some "busy" else none }
    (personQuery 1).register tableOf (liveSession "app") w =
        (.error (.tx "busy"), ((personQuery 1).register tableOf (liveSession "app") w).2) ∧
      ((personQuery 1).register tableOf (liveSession "app") w).2.nodeLq (⟨7⟩, ⟨1⟩) =
        some ⟨"test", "app", "person"⟩ ∧
      ((personQuery 1).register tableOf (liveSession "app") w).2.tableLq
        ("test", "app", "person", ⟨1⟩) = none ∧
      (personQuery 1).compute tableOf (liveSession "app") w = (.error (.tx "busy"), w) :=
  ⟨rfl, rfl, rfl, rfl⟩

/-- Two queries with distinct ids registered in turn from no entries: both succeed, and the
indexes agree. -/
theorem two_queries_agree :
    (liveRun tableOf [(liveSession "app", personQuery 1), (liveSession "app", personQuery 2)]
      emptyLive).1 = [.ok ⟨1⟩, .ok ⟨2⟩] ∧
    (liveRun tableOf [(liveSession "app", personQuery 1), (liveSession "app", personQuery 2)]
      emptyLive).2.Agree :=
  ⟨rfl, live_indexes_agree tableOf _ emptyLive ⟨fun _ _ _ h => (nomatch h), fun _ _ _ _ _ h => nomatch h⟩
    (fun _ _ => ⟨fun _ => rfl, fun _ _ _ => rfl⟩) (by decide)⟩

/-- **A reused id orphans a table entry**: the same statement computed in database `app` and
then in `logs` registers twice under one id; the node's entry is overwritten to name `logs`,
and the table entry under `app` is left behind. -/
theorem reused_id_orphans_table_entry :
    ¬ (liveRun tableOf [(liveSession "app", personQuery 1), (liveSession "logs", personQuery 1)]
      emptyLive).2.Agree := fun h =>
  absurd (h.table "test" "app" "person" ⟨1⟩
    { personQuery 1 with node := ⟨7⟩, auth := some "root", session := none } rfl).2 (by decide)

end AccessGrants.Analysis

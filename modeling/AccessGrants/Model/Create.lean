import AccessGrants.Model.Statement

/-!
# Create: `create_grant`

`ACCESS … GRANT FOR …` issues a bearer grant. After the shared prologue the access
method's kind decides: a JWT method cannot issue grants; a record method issues them for
records, at database level, and only if it carries a bearer configuration; a bearer
method issues them for the subject kind it is configured for, and for users only if the
user exists at the level. The grant is written hashed, with insert-if-absent semantics, and
returned once with its plaintext key.

The two branches of the source build and store the grant with the same code; here that
code is `mintGrant` and `putGrant`, and each branch keeps its own checks and its own
`match base` for the write.
-/

set_option autoImplicit false

namespace AccessGrants

open Txn

/-- How a level is printed in the `Grants for JWT on {base}` error: the level keyword
`ACCESS … ON {base}` is printed with (the `Display` of `Base` is not under src/; `other`
is never printed, since the prologue refuses it first). -/
def Base.display : Base → String
  | .root => "ROOT"
  | .ns => "NAMESPACE"
  | .db => "DATABASE"
  | .other => "OTHER"

/-- The grant both branches build: a fresh bearer key with the method's prefix, created
now, expiring the method's grant duration after a second clock reading if it has one,
not revoked. It is returned with the bearer key it holds. -/
def mintGrant (ac : DefineAccess) (subject : Subject) (pfx : String) :
    Txn (GrantBearer × AccessGrant) := do
  let grant ← GrantBearer.new pfx
  let creation ← now
  let expiration ← match ac.grantDuration with
    | some d => do
      let t ← now
      pure (some (d.add t))
    | none => pure none
  pure (grant,
    { ac := ac.name, id := grant.id, creation := creation, expiration := expiration,
      revocation := none, subject := subject, grant := .bearer grant })

/-- What `mintGrant` builds from the bearer key `GrantBearer::new` returns: creation at the
next clock reading, expiry after the one following it when the method has a grant
duration. -/
theorem mintGrant_apply (ac : DefineAccess) (subject : Subject) (pfx : String) {w w₁ : World}
    {b : GrantBearer} (h : GrantBearer.new pfx w = (.ok b, w₁)) :
    mintGrant ac subject pfx w =
      (.ok (b, { id := b.id, ac := ac.name, creation := w₁.clock w₁.ticks,
                 expiration := ac.grantDuration.map fun d => d.add (w₁.clock (w₁.ticks + 1)),
                 revocation := none, subject := subject, grant := .bearer b }),
        { w₁ with ticks := w₁.ticks + if ac.grantDuration.isSome then 2 else 1 }) := by
  simp only [mintGrant, bind_apply, h, now]
  cases ac.grantDuration <;> rfl

/-- What a successful `mintGrant` returned: the bearer key `GrantBearer::new` draws, and
the grant built from it and the next clock readings. -/
theorem mintGrant_ok {ac : DefineAccess} {subject : Subject} {pfx : String} {w w₁ : World}
    {b : GrantBearer} {g : AccessGrant} (h : mintGrant ac subject pfx w = (.ok (b, g), w₁)) :
    GrantBearer.new pfx w = (.ok b, { w with draws := w.draws + 36 }) ∧
      g = { id := b.id, ac := ac.name, creation := w.clock w.ticks,
            expiration := ac.grantDuration.map fun d => d.add (w.clock (w.ticks + 1)),
            revocation := none, subject := subject, grant := .bearer b } := by
  obtain ⟨b', hb⟩ := GrantBearer.new_ok pfx w
  rw [mintGrant_apply ac subject pfx hb] at h
  simp only [Prod.mk.injEq, Except.ok.injEq] at h
  obtain ⟨⟨rfl, rfl⟩, -⟩ := h
  exact ⟨hb, rfl⟩

/-- `txn.put` of the hashed grant and the check after it: a `TxKeyAlreadyExists` is
reported as a collision, then returned. -/
def putGrant (key : GrantKey) (grStore : AccessGrant) : Txn Unit := do
  let res ← attempt (put key grStore)
  match res with
  | .ok () => pure ()
  | .error e => do
    if e = .txKeyAlreadyExists then emit .collision
    fail e

/-- A successful `putGrant` found the key absent and inserted the grant. -/
theorem putGrant_ok {k : GrantKey} {v : AccessGrant} {w w' : World} {u : Unit}
    (h : putGrant k v w = (.ok u, w')) : w.store.get k = none ∧ w'.store = w.store.set k v := by
  simp only [putGrant, bind_apply, attempt_apply] at h
  rcases hp : put k v w with ⟨e | _, w₁⟩ <;> rw [hp] at h <;> dsimp only at h
  · split_ifs at h <;> simp [bind_apply, emit] at h
  · cases h
    obtain ⟨hk, rfl⟩ := put_ok hp
    exact ⟨hk, rfl⟩

/-- A failed `putGrant` is a collision or an error of the store, and leaves the grant
entries as they were. -/
theorem putGrant_error {k : GrantKey} {v : AccessGrant} {w w' : World} {e : Error}
    (h : putGrant k v w = (.error e, w')) :
    (e = .txKeyAlreadyExists ∨ ∃ msg, e = .tx msg) ∧ w'.store = w.store := by
  simp only [putGrant, bind_apply, attempt_apply] at h
  rcases hp : put k v w with ⟨e' | _, w₁⟩ <;> rw [hp] at h <;> dsimp only at h
  · obtain ⟨he, hs⟩ := put_error hp
    split_ifs at h <;> simp only [bind_apply, emit, pure_apply, fail_apply, Prod.mk.injEq,
      Except.error.injEq] at h <;> obtain ⟨rfl, rfl⟩ := h <;> exact ⟨he, hs⟩
  · cases h

/-- The subject check of the record-access arm: a record subject, at database level. -/
def checkRecordSubject (subject : Subject) (base : Base) : Txn Unit :=
  match subject with
  | .user _ => fail .accessGrantInvalidSubject
  | .record _ => ensure (base = .db) .dbEmpty

/-- The write of the record-access arm: at the session's database, whose namespace and
database are ensured first; no other level is expected here. -/
def putRecordGrant (opt : Options) (base : Base) (gr grStore : AccessGrant) : Txn Unit :=
  match base with
  | .db => do
    let (ns, db) ← lift opt.nsDb
    getOrAddNs ns opt.strict
    getOrAddDb ns db opt.strict
    putGrant ⟨.db ns db, gr.ac, gr.id⟩ grStore
  | _ => fail .accessLevelMismatch

/-- The record access type must allow issuing bearer grants: its bearer configuration,
else `AccessMethodMismatch`. -/
def recordBearer : Option BearerAccess → Except Error BearerAccess
  | some atb => .ok atb
  | none => .error .accessMethodMismatch

/-- The record-access arm of `create_grant`: the method must carry a bearer
configuration, whose kind gives the key prefix. -/
def createRecordGrant (digest : String → String) (stmt : AccessStatementGrant) (opt : Options)
    (base : Base) (ac : DefineAccess) (bearer : Option BearerAccess) : Txn AccessGrant := do
  checkRecordSubject stmt.subject base
  let atb ← lift (recordBearer bearer)
  let (grant, gr) ← mintGrant ac stmt.subject atb.kind.pfx
  let grStore := { gr with grant := .bearer (grant.hashed digest) }
  putRecordGrant opt base gr grStore
  audit "create" gr opt
  pure gr

/-- The subject check of the bearer-access arm: the subject must be of the method's
subject kind; a user must exist at the level, a record needs database level. -/
def checkBearerSubject (subject : Subject) (opt : Options) (base : Base) (ba : BearerAccess) :
    Txn Unit :=
  match subject with
  | .user user => do
    ensure (ba.subject = .user) .accessGrantInvalidSubject
    let l ← lift (opt.level base)
    getUser l user
  | .record _ => do
    ensure (base = .db) .dbEmpty
    ensure (ba.subject = .record) .accessGrantInvalidSubject

/-- The bearer-access arm of `create_grant`: the key prefix is the method's, and the write
is at the level of the base, its ancestors ensured first. -/
def createBearerGrant (digest : String → String) (stmt : AccessStatementGrant) (opt : Options)
    (base : Base) (ac : DefineAccess) (ba : BearerAccess) : Txn AccessGrant := do
  checkBearerSubject stmt.subject opt base ba
  let (grant, gr) ← mintGrant ac stmt.subject ba.kind.pfx
  let grStore := { gr with grant := .bearer (grant.hashed digest) }
  let l ← lift (opt.level base)
  ensureLevel l opt.strict
  putGrant ⟨l, gr.ac, gr.id⟩ grStore
  audit "create" gr opt
  pure gr

/-! ## What each step of the arms leaves -/

/-- INTERNAL: a passed record-subject check leaves the world as it was. -/
theorem checkRecordSubject_ok {subject : Subject} {base : Base} {w w' : World} {u : Unit}
    (h : checkRecordSubject subject base w = (.ok u, w')) :
    (∃ t, subject = .record t) ∧ base = .db ∧ w' = w := by
  cases subject with
  | user _ => cases h
  | record t => obtain ⟨hb, rfl⟩ := ensure_ok h; exact ⟨⟨t, rfl⟩, hb, rfl⟩

/-- INTERNAL: the record-subject check changes nothing. -/
theorem checkRecordSubject_moves (subject : Subject) (base : Base) :
    Moves Step.same (checkRecordSubject subject base) := by
  cases subject with
  | user _ => exact Moves.fail _
  | record _ => exact Moves.ensure _ _

/-- The record arm writes only at the session's database, and only if the key is free. -/
theorem putRecordGrant_ok {opt : Options} {base : Base} {gr grStore : AccessGrant} {w w' : World}
    {u : Unit} (h : putRecordGrant opt base gr grStore w = (.ok u, w')) :
    ∃ ns db, base = .db ∧ opt.nsDb = .ok (ns, db) ∧ w.store.get ⟨.db ns db, gr.ac, gr.id⟩ = none ∧
      w'.store = w.store.set ⟨.db ns db, gr.ac, gr.id⟩ grStore := by
  rcases base with _ | _ | _ | _
  · cases h
  · cases h
  · obtain ⟨⟨ns, db⟩, w₁, h₁, h₂⟩ := bind_eq_ok h
    obtain ⟨hnd, hw₁⟩ := lift_ok h₁
    obtain ⟨_, w₂, h₃, h₄⟩ := bind_eq_ok h₂
    obtain ⟨_, w₃, h₅, h₆⟩ := bind_eq_ok h₄
    obtain ⟨c, hc⟩ := getOrAddNs_world ns opt.strict w₁
    obtain ⟨c', hc'⟩ := getOrAddDb_world ns db opt.strict w₂
    simp only [h₃] at hc; simp only [h₅] at hc'
    obtain ⟨hk, hw'⟩ := putGrant_ok h₆
    subst hw₁ hc hc'
    exact ⟨ns, db, rfl, hnd, hk, hw'⟩
  · cases h

/-- INTERNAL: a passed bearer-subject check leaves the world as it was. -/
theorem checkBearerSubject_ok {subject : Subject} {opt : Options} {base : Base}
    {ba : BearerAccess} {w w' : World} {u : Unit}
    (h : checkBearerSubject subject opt base ba w = (.ok u, w')) :
    ((∃ t, subject = .record t ∧ base = .db ∧ ba.subject = .record) ∨
      (∃ name l, subject = .user name ∧ ba.subject = .user ∧ opt.level base = .ok l ∧
        (l, name) ∈ w.catalog.users)) ∧ w' = w := by
  cases subject with
  | user name =>
    obtain ⟨_, w₁, h₁, h₂⟩ := bind_eq_ok h
    obtain ⟨hs, hw₁⟩ := ensure_ok h₁
    obtain ⟨l, w₂, h₃, h₄⟩ := bind_eq_ok h₂
    obtain ⟨hl, hw₂⟩ := lift_ok h₃
    obtain ⟨hu, hw'⟩ := getUser_ok h₄
    subst hw₁ hw₂ hw'
    exact ⟨.inr ⟨name, l, rfl, hs, hl, hu⟩, rfl⟩
  | record t =>
    obtain ⟨_, w₁, h₁, h₂⟩ := bind_eq_ok h
    obtain ⟨hb, hw₁⟩ := ensure_ok h₁
    obtain ⟨hs, hw'⟩ := ensure_ok h₂
    subst hw₁ hw'
    exact ⟨.inl ⟨t, rfl, hb, hs⟩, rfl⟩

/-- INTERNAL: the bearer-subject check changes nothing. -/
theorem checkBearerSubject_moves (subject : Subject) (opt : Options) (base : Base)
    (ba : BearerAccess) : Moves Step.same (checkBearerSubject subject opt base ba) := by
  cases subject with
  | user _ =>
    exact Moves.bind (Moves.ensure _ _) fun _ => Moves.bind (Moves.lift _) fun l w =>
      getUser_world l _ w
  | record _ => exact Moves.bind (Moves.ensure _ _) fun _ => Moves.ensure _ _

/-! ## What each arm leaves -/

section Arms

variable {digest : String → String} {stmt : AccessStatementGrant} {opt : Options} {base : Base}
  {ac : DefineAccess}

/-- INTERNAL: minting a grant keeps the grant entries. -/
theorem mintGrant_keeps_store (ac : DefineAccess) (subject : Subject) (pfx : String) :
    Moves (Step.keeps World.store) (mintGrant ac subject pfx) := fun w => by
  obtain ⟨b, hb⟩ := GrantBearer.new_ok pfx w
  rw [mintGrant_apply ac subject pfx hb]; rfl

/-- INTERNAL: a failed put keeps the grant entries. -/
theorem putGrant_onError (k : GrantKey) (v : AccessGrant) :
    OnError (Step.keeps World.store) (putGrant k v) := fun _ _ _ h => (putGrant_error h).2

/-- INTERNAL: a failed record-grant store keeps the grant entries. -/
theorem putRecordGrant_onError (opt : Options) (base : Base) (gr grStore : AccessGrant) :
    OnError (Step.keeps World.store) (putRecordGrant opt base gr grStore) := by
  cases base
  case db =>
    exact OnError.bind (Moves.lift _) fun ⟨ns, db⟩ =>
      OnError.bind (getOrAddNs_keeps_store ns _) fun _ =>
        OnError.bind (getOrAddDb_keeps_store ns db _) fun _ => putGrant_onError _ _
  all_goals exact (Moves.fail _).onError

/-- A failed record arm has written no grant. -/
theorem createRecordGrant_onError {bearer : Option BearerAccess} :
    OnError (Step.keeps World.store) (createRecordGrant digest stmt opt base ac bearer) :=
  OnError.bind (Moves.of_same (checkRecordSubject_moves _ _)) fun _ =>
    OnError.bind (Moves.lift _) fun _ =>
      OnError.bind (mintGrant_keeps_store _ _ _) fun ⟨_, _⟩ =>
        OnError.bind_safe (putRecordGrant_onError _ _ _ _) fun _ =>
          Errs.bind (emit_errs _) fun _ => Errs.pure _

/-- A failed bearer arm has written no grant. -/
theorem createBearerGrant_onError {ba : BearerAccess} :
    OnError (Step.keeps World.store) (createBearerGrant digest stmt opt base ac ba) :=
  OnError.bind (Moves.of_same (checkBearerSubject_moves _ _ _ _)) fun _ =>
    OnError.bind (mintGrant_keeps_store _ _ _) fun ⟨_, _⟩ =>
      OnError.bind (Moves.lift _) fun l =>
        OnError.bind (ensureLevel_keeps_store l _) fun _ =>
          OnError.bind_safe (putGrant_onError _ _) fun _ => Errs.bind (emit_errs _) fun _ => Errs.pure _

/-- **A successful record arm**: a record subject at the database level, a bearer
configuration, and the minted grant inserted hashed at a key that was free. -/
theorem createRecordGrant_ok {bearer : Option BearerAccess} {w w' : World} {g : AccessGrant}
    (h : createRecordGrant digest stmt opt base ac bearer w = (.ok g, w')) :
    (∃ t, stmt.subject = .record t) ∧ base = .db ∧ ∃ atb b w₁ l, bearer = some atb ∧
      mintGrant ac stmt.subject atb.kind.pfx w = (.ok (b, g), w₁) ∧ opt.level base = .ok l ∧
      w.store.get ⟨l, g.ac, g.id⟩ = none ∧
      w'.store = w.store.set ⟨l, g.ac, g.id⟩ { g with grant := .bearer (b.hashed digest) } := by
  obtain ⟨_, w₁, h₁, h₂⟩ := bind_eq_ok h
  obtain ⟨hsub, rfl, hw₁⟩ := checkRecordSubject_ok h₁
  subst hw₁
  obtain ⟨atb, w₂, h₃, h₄⟩ := bind_eq_ok h₂
  obtain ⟨hatb, hw₂⟩ := lift_ok h₃
  subst hw₂
  obtain ⟨⟨b, g₀⟩, w₃, h₅, h₆⟩ := bind_eq_ok h₄
  obtain ⟨_, w₄, h₇, h₈⟩ := bind_eq_ok h₆
  obtain ⟨ns, db, -, hnd, hk, hs₄⟩ := putRecordGrant_ok h₇
  obtain ⟨_, w₅, h₉, h₁₀⟩ := bind_eq_ok h₈
  cases h₁₀
  have hs₃ : w₃.store = w₂.store := (mintGrant_keeps_store _ _ _).rel h₅
  have hs₅ : w'.store = w₄.store := (emit_keeps_store _).rel h₉
  have hatb : bearer = some atb := by cases bearer <;> cases hatb; rfl
  refine ⟨hsub, rfl, atb, b, w₃, .db ns db, hatb, h₅, by simp [Options.level, hnd], hs₃ ▸ hk, ?_⟩
  rw [hs₅, hs₄, hs₃]

/-- **A successful bearer arm**: a subject of the configured kind (a record at the
database level, or a user existing at the level), and the minted grant inserted hashed at
a key of the level that was free. -/
theorem createBearerGrant_ok {ba : BearerAccess} {w w' : World} {g : AccessGrant}
    (h : createBearerGrant digest stmt opt base ac ba w = (.ok g, w')) :
    ((∃ t, stmt.subject = .record t ∧ base = .db ∧ ba.subject = .record) ∨
      (∃ name l, stmt.subject = .user name ∧ ba.subject = .user ∧ opt.level base = .ok l ∧
        (l, name) ∈ w.catalog.users)) ∧
    ∃ b w₁ l, mintGrant ac stmt.subject ba.kind.pfx w = (.ok (b, g), w₁) ∧ opt.level base = .ok l ∧
      w.store.get ⟨l, g.ac, g.id⟩ = none ∧
      w'.store = w.store.set ⟨l, g.ac, g.id⟩ { g with grant := .bearer (b.hashed digest) } := by
  obtain ⟨_, w₁, h₁, h₂⟩ := bind_eq_ok h
  obtain ⟨hsub, hw₁⟩ := checkBearerSubject_ok h₁
  subst hw₁
  obtain ⟨⟨b, g₀⟩, w₂, h₃, h₄⟩ := bind_eq_ok h₂
  obtain ⟨l, w₃, h₅, h₆⟩ := bind_eq_ok h₄
  obtain ⟨hl, hw₃⟩ := lift_ok h₅
  subst hw₃
  obtain ⟨_, w₄, h₇, h₈⟩ := bind_eq_ok h₆
  obtain ⟨_, w₅, h₉, h₁₀⟩ := bind_eq_ok h₈
  obtain ⟨hk, hw₅⟩ := putGrant_ok h₉
  obtain ⟨_, w₆, h₁₁, h₁₂⟩ := bind_eq_ok h₁₀
  cases h₁₂
  have hs₂ : w₃.store = w₁.store := (mintGrant_keeps_store _ _ _).rel h₃
  have hs₄ : w₄.store = w₃.store := (ensureLevel_keeps_store _ _).rel h₇
  have hs₆ : w'.store = w₅.store := (emit_keeps_store _).rel h₁₁
  refine ⟨hsub, b, w₃, l, h₃, hl, by rw [← hs₂, ← hs₄]; exact hk, ?_⟩
  rw [hs₆, hw₅, ← hs₂, ← hs₄]

end Arms

/-- `create_grant`. -/
def createGrant (digest : String → String) (stmt : AccessStatementGrant) (opt : Options) :
    Txn AccessGrant := do
  let (base, ac) ← openAccess .edit stmt.base stmt.ac opt
  match ac.kind with
  | .jwt => fail (.unimplemented ("Grants for JWT on " ++ base.display))
  | .record bearer => createRecordGrant digest stmt opt base ac bearer
  | .bearer ba => createBearerGrant digest stmt opt base ac ba

/-- `compute_grant`: the created grant as an object, plaintext key included. -/
def computeGrant (digest : String → String) (stmt : AccessStatementGrant) (opt : Options) :
    Txn Value := do
  let grant ← createGrant digest stmt opt
  pure (.object grant.toObject)

end AccessGrants

import AccessGrants.Model.Bearer

/-!
# Access statements and what their operations share

The four statements of `access.rs` (`ACCESS … GRANT / SHOW / REVOKE / PURGE`) and the
pieces the four operations repeat: the prologue that resolves the base, asks
`is_allowed` and looks up the access method; the audit line; and the condition check
of Show and Revoke, which is computed on the redacted grant.
-/

set_option autoImplicit false

namespace AccessGrants

/-- `AccessStatementGrant`. -/
structure AccessStatementGrant where
  ac : String
  base : Option Base
  subject : Subject

/-- `AccessStatementShow`. -/
structure AccessStatementShow where
  ac : String
  base : Option Base
  gr : Option String
  cond : Option Cond

/-- `AccessStatementRevoke`. -/
structure AccessStatementRevoke where
  ac : String
  base : Option Base
  gr : Option String
  cond : Option Cond

/-- `AccessStatementPurge`. -/
structure AccessStatementPurge where
  ac : String
  base : Option Base
  expired : Bool
  revoked : Bool
  grace : Duration

/-- `AccessStatement`. -/
inductive AccessStatement where
  | grant (stmt : AccessStatementGrant)
  | show' (stmt : AccessStatementShow)
  | revoke (stmt : AccessStatementRevoke)
  | purge (stmt : AccessStatementPurge)

open Txn

/-- The effective base: the statement's, else the session's selection. -/
def effectiveBase (base? : Option Base) (opt : Options) : Except Error Base :=
  match base? with
  | some base => .ok base
  | none => opt.selectedBase

/-- The start all four operations share: the effective base, `is_allowed` for `act` on
access resources at it, and the access method's definition there. (`txn.clear()`
empties a read cache the model does not have.) -/
def openAccess (act : Action) (base? : Option Base) (ac : String) (opt : Options) :
    Txn (Base × DefineAccess) := do
  let base ← lift (effectiveBase base? opt)
  lift (opt.isAllowed act base)
  let l ← lift (opt.level base)
  let d ← getAccess l ac
  pure (base, d)

/-- The prologue reads only. -/
theorem openAccess_same (act : Action) (base? : Option Base) (ac : String) (opt : Options) :
    Moves Step.same (openAccess act base? ac opt) :=
  Moves.bind (Moves.lift _) fun _ => Moves.bind (Moves.lift _) fun _ =>
    Moves.bind (Moves.lift _) fun l => Moves.bind (getAccess_same l ac) fun _ => Moves.pure _

/-- The prologue succeeds exactly through its four steps, and reads only. -/
theorem openAccess_ok {act : Action} {base? : Option Base} {ac : String} {opt : Options}
    {w w' : World} {base : Base} {d : DefineAccess}
    (h : openAccess act base? ac opt w = (.ok (base, d), w')) :
    w' = w ∧ effectiveBase base? opt = .ok base ∧ opt.isAllowed act base = .ok () ∧
      ∃ l, opt.level base = .ok l ∧ w.catalog.access l ac = some d := by
  simp only [openAccess, bind_apply, lift_apply, getAccess] at h
  rcases hb : effectiveBase base? opt with e | b
  · simp [hb] at h
  rcases ha : opt.isAllowed act b with e | _
  · simp [hb, ha] at h
  rcases hl : opt.level b with e | l
  · simp [hb, ha, hl] at h
  rcases hc : w.catalog.access l ac with _ | d'
  · simp [hb, ha, hl, hc] at h
  simp only [hb, ha, hl, hc, pure_apply, Prod.mk.injEq, Except.ok.injEq] at h
  obtain ⟨⟨rfl, rfl⟩, rfl⟩ := h
  exact ⟨rfl, rfl, ha, l, hl, hc⟩

/-- A failed prologue leaves the world as it was. -/
theorem openAccess_error {act : Action} {base? : Option Base} {ac : String} {opt : Options}
    {w w' : World} {e : Error} (h : openAccess act base? ac opt w = (.error e, w')) : w' = w :=
  (openAccess_same act base? ac opt).rel h

/-- The `info!` audit line for one grant. -/
def audit (verb : String) (gr : AccessGrant) (opt : Options) : Txn Unit :=
  emit (.audit ⟨verb, gr.ac, gr.id, gr.grant.variant, gr.subject, opt.auth⟩)

/-- Whether a grant matches the statement's condition, computed on its redacted form;
with no condition every grant matches. -/
def matchesCond (cond : Option Cond) (gr : AccessGrant) : Txn Bool :=
  match cond with
  | some c => evaluate c gr.view
  | none => pure true

/-- What the condition check computes on a grant: the predicate on the grant's redacted
form, or `true` with no predicate. -/
def condOn (cond : Option Cond) (gr : AccessGrant) : Except Error Bool :=
  match cond with
  | some c => c gr.view
  | none => .ok true

/-- Whether a grant passes the condition check: the check succeeds with `true`. -/
def passes (cond : Option Cond) (gr : AccessGrant) : Bool :=
  match condOn cond gr with
  | .ok b => b
  | .error _ => false

/-- INTERNAL: a condition's verdict is `condOn`'s, whatever the world. -/
theorem matchesCond_value (cond : Option Cond) (gr : AccessGrant) (w : World) :
    (matchesCond cond gr w).1 = condOn cond gr := by
  cases cond <;> rfl

/-- The condition check only hands documents to the evaluator. -/
theorem matchesCond_world (cond : Option Cond) (gr : AccessGrant) (w : World) :
    ∃ evs, (matchesCond cond gr w).2 = { w with events := w.events ++ evs } := by
  cases cond
  · exact ⟨[], by simp [matchesCond]⟩
  · exact ⟨_, rfl⟩

/-- INTERNAL: evaluating a condition keeps the grant entries. -/
theorem matchesCond_keeps_store (cond : Option Cond) (gr : AccessGrant) :
    Moves (Step.keeps World.store) (matchesCond cond gr) := fun w => by
  obtain ⟨evs, h⟩ := matchesCond_world cond gr w
  rw [h]; rfl

/-- A passed condition check: the predicate held of the redacted grant, and only documents
were handed out. -/
theorem matchesCond_ok {cond : Option Cond} {gr : AccessGrant} {w w' : World} {keep : Bool}
    (h : matchesCond cond gr w = (.ok keep, w')) :
    condOn cond gr = .ok keep ∧ passes cond gr = keep ∧ ∃ evs, w' = { w with events := w.events ++ evs } := by
  have hv := matchesCond_value cond gr w
  obtain ⟨evs, hw⟩ := matchesCond_world cond gr w
  rw [h] at hv hw
  exact ⟨hv.symm, by simp [passes, ← hv], evs, hw⟩

end AccessGrants

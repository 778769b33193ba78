import AccessGrants.Model.Grant

/-!
# Levels, sessions and access methods

What an access statement is run with besides the grants themselves: the level (`Base`)
and the key partition it selects, the session's `Options`, the access-method definitions
and the rest of the catalog the operations look up, the errors they raise, and what they
hand to the outside (audit lines, the collision warning, documents given to conditions).
-/

set_option autoImplicit false

namespace AccessGrants

/-- `Base`: the level a statement runs at. `other` stands for the variants the source's
`_` arms catch (the declaration of `Base` is not under src/). -/
inductive Base where
  | root
  | ns
  | db
  | other
  deriving DecidableEq, Repr

/-- The partition of the key space a level's keys live in: the root, one namespace, or one
database of a namespace. -/
inductive Level where
  | root
  | ns (ns : String)
  | db (ns db : String)
  deriving DecidableEq, Repr

/-- The errors the operations raise. The not-found errors of the transaction's lookups
carry the level and names they were looked up with; `thrown` is any error of the session's
authorization check or of a condition's computation; `tx` is an error of the key-value
store itself, which a write returns with `?`. -/
inductive Error where
  | nsEmpty
  | dbEmpty
  | unimplemented (msg : String)
  | accessGrantInvalidSubject
  | accessMethodMismatch
  | accessLevelMismatch
  | accessGrantRevoked
  | txKeyAlreadyExists
  | accessNotFound (level : Level) (ac : String)
  | grantNotFound (level : Level) (ac gr : String)
  | userNotFound (level : Level) (name : String)
  | nsNotFound (ns : String)
  | dbNotFound (ns db : String)
  | thrown (msg : String)
  | tx (msg : String)
  deriving DecidableEq, Repr

/-- The text of the `Unimplemented` error every `_` arm on the base raises. -/
def outsideLevels : String :=
  "Managing access methods outside of root, namespace and database levels"

/-- `Action`: what `is_allowed` is asked for on access resources. -/
inductive Action where
  | view
  | edit
  deriving DecidableEq, Repr

/-- The part of `Options` the operations read: the selected namespace and database, strict
mode, the authenticated identity named in audit lines, and the session's `is_allowed` on
access resources (its logic is not under src/, so any function of the action and base). -/
structure Options where
  ns? : Option String
  db? : Option String
  strict : Bool
  auth : String
  isAllowed : Action → Base → Except Error Unit

namespace Options

/-- `ns()`: the selected namespace. -/
def ns (opt : Options) : Except Error String :=
  match opt.ns? with
  | some ns => .ok ns
  | none => .error .nsEmpty

/-- `ns_db()`: the selected namespace and database. -/
def nsDb (opt : Options) : Except Error (String × String) :=
  match opt.ns?, opt.db? with
  | some ns, some db => .ok (ns, db)
  | none, _ => .error .nsEmpty
  | some _, none => .error .dbEmpty

/-- Modelled from the spec: `selected_base()` (not under src/), the level of the caller's
current selection; a database needs a namespace. -/
def selectedBase (opt : Options) : Except Error Base :=
  match opt.ns?, opt.db? with
  | none, none => .ok .root
  | some _, none => .ok .ns
  | some _, some _ => .ok .db
  | none, some _ => .error .nsEmpty

/-- The partition every `match base` of the source builds its key in: the root, the
namespace of `opt.ns()?`, or the database of `opt.ns_db()?`; the `_` arm is
`Unimplemented`. -/
def level (opt : Options) : Base → Except Error Level
  | .root => .ok .root
  | .ns => match opt.ns with
    | .ok ns => .ok (.ns ns)
    | .error e => .error e
  | .db => match opt.nsDb with
    | .ok (ns, db) => .ok (.db ns db)
    | .error e => .error e
  | .other => .error (.unimplemented outsideLevels)

end Options

/-- The bearer kind (`BearerAccessType`, not under src/), known here through the one
thing the operations read of it: the key prefix it issues (`prefix()`). -/
structure BearerAccessType where
  pfx : String
  deriving DecidableEq, Repr

/-- `BearerAccessSubject`: what a bearer access method issues grants for. -/
inductive BearerAccessSubject where
  | user
  | record
  deriving DecidableEq, Repr

/-- `BearerAccess`: a bearer access method's kind and subject kind. -/
structure BearerAccess where
  kind : BearerAccessType
  subject : BearerAccessSubject
  deriving DecidableEq, Repr

/-- `AccessType`; the JWT configuration is not read by the operations. -/
inductive AccessType where
  | jwt
  | record (bearer : Option BearerAccess)
  | bearer (ba : BearerAccess)
  deriving DecidableEq, Repr

/-- An access method's definition: its name, kind and grant duration
(`ac.duration.grant`). -/
structure DefineAccess where
  name : String
  kind : AccessType
  grantDuration : Option Duration
  deriving DecidableEq, Repr

/-- What the operations look up besides grants. Each access method is stored under its
own name, at its level; a user is known by level and name. -/
structure Catalog where
  accesses : List (Level × DefineAccess)
  users : List (Level × String)
  namespaces : List String
  databases : List (String × String)

/-- Modelled from the spec: the access-method resolver `get_{root,ns,db}_access`
(not under src/). -/
def Catalog.access (c : Catalog) (l : Level) (ac : String) : Option DefineAccess :=
  (c.accesses.find? fun e => e.1 = l ∧ e.2.name = ac).map (·.2)

/-- The resolver returns a definition of the name it was asked for. -/
theorem Catalog.access_name {c : Catalog} {l : Level} {ac : String} {d : DefineAccess}
    (h : c.access l ac = some d) : d.name = ac := by
  obtain ⟨e, he, rfl⟩ := Option.map_eq_some'.mp h
  have hp := List.find?_some he
  simp only [decide_eq_true_eq] at hp
  exact hp.2

/-- A grant's key: `crate::key::{root,namespace,database}::access::gr::new`, by level
partition, access method and grant id. -/
structure GrantKey where
  level : Level
  ac : String
  gr : String
  deriving DecidableEq, Repr

/-- An audit line `info!` writes: "Access method '{ac}' was used to {verb} grant '{id}' of
type '{variant}' for '{subject}' by '{actor}'". -/
structure AuditLine where
  verb : String
  ac : String
  id : String
  variant : String
  subject : Subject
  actor : String

/-- What an operation hands to the outside. -/
inductive Event where
  | evaluate (doc : Value)
  | audit (line : AuditLine)
  | collision

/-- A condition (`Cond`), computed on a document and read with `is_truthy()`: any function
of the document that may fail. -/
def Cond : Type := Value → Except Error Bool

end AccessGrants

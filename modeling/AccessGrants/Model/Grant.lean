import Mathlib.Data.List.Basic

/-!
# Access grants and the values they are shown as

The data model of `access.rs`: a grant's subject and payload, the persisted
`AccessGrant`, its redacted view, its expiry/revocation predicates, and the `Object`
a grant is turned into whenever it is returned or handed to a condition.

Times are `chrono` UTC times and durations are `std::time::Duration`s; both are kept
as exact nanosecond counts, so `timestamp()` and `secs()` are the floor of a division
and every comparison in the source is exact integer arithmetic here.
-/

set_option autoImplicit false

namespace AccessGrants

/-- A `Datetime`: a UTC time, as nanoseconds since the Unix epoch. -/
structure Datetime where
  nanos : Int
  deriving DecidableEq, Repr

namespace Datetime

/-- Datetimes are ordered by their nanoseconds. -/
instance : LT Datetime := ⟨fun a b => a.nanos < b.nanos⟩

/-- The order of datetimes is decidable. -/
instance (a b : Datetime) : Decidable (a < b) := inferInstanceAs (Decidable (a.nanos < b.nanos))

/-- `timestamp()`: whole seconds since the epoch, rounded down as `chrono` does. -/
def timestamp (d : Datetime) : Int := d.nanos / 1000000000

@[simp] theorem lt_iff (a b : Datetime) : a < b ↔ a.nanos < b.nanos := Iff.rfl

end Datetime

/-- A `Duration`, as nanoseconds. -/
structure Duration where
  nanos : Nat
  deriving DecidableEq, Repr

/-- `secs()`: the whole seconds of a duration (its sub-second part is dropped). -/
def Duration.secs (d : Duration) : Nat := d.nanos / 1000000000

/-- Modelled from the spec: `d + t` for a duration and a time (the `Add` of the
expression layer is not under src/), the time `d` after `t`. -/
def Duration.add (d : Duration) (t : Datetime) : Datetime := ⟨t.nanos + d.nanos⟩

/-- A `Uuid` (JWT and record identifiers of token grants). -/
structure Uuid where
  bits : Nat
  deriving DecidableEq, Repr

/-- A `Thing`: the record id a record subject refers to. -/
structure Thing where
  tb : String
  id : String
  deriving DecidableEq, Repr

/-- The values a grant is shown as: the variants of `Value` that `From<AccessGrant> for
Object` produces, and a `Number::Int` of a token's claims. An `Object` is kept as its list
of fields: a grant's in insertion order (its keys are distinct), a token's claims in key
order, as `Object.insert` builds them. -/
inductive Value where
  | none
  | strand (s : String)
  | number (n : Int)
  | datetime (d : Datetime)
  | uuid (u : Uuid)
  | thing (t : Thing)
  | object (fields : List (String × Value))
  | array (items : List Value)
  deriving Inhabited

/-- `Value::from(Option<Datetime>)`. -/
def Value.ofDatetime : Option Datetime → Value
  | .some d => .datetime d
  | .none => .none

/-- `Subject`: who a grant is for. -/
inductive Subject where
  | record (id : Thing)
  | user (name : String)
  deriving DecidableEq, Repr

/-- `GrantJwt`. -/
structure GrantJwt where
  jti : Uuid
  token : Option String
  deriving DecidableEq, Repr

/-- `GrantRecord`. -/
structure GrantRecord where
  rid : Uuid
  jti : Uuid
  token : Option String
  deriving DecidableEq, Repr

/-- `GrantBearer`: the key id, and the key (plaintext right after generation, its hash
once stored, `[REDACTED]` once shown). -/
structure GrantBearer where
  id : String
  key : String
  deriving DecidableEq, Repr

/-- `Grant`: the secret payload of a grant. -/
inductive Grant where
  | jwt (gr : GrantJwt)
  | record (gr : GrantRecord)
  | bearer (gr : GrantBearer)
  deriving DecidableEq, Repr

/-- `Grant::variant`. -/
def Grant.variant : Grant → String
  | .jwt _ => "jwt"
  | .record _ => "record"
  | .bearer _ => "bearer"

/-- `AccessGrant`, the persisted and returned entity. -/
structure AccessGrant where
  id : String
  ac : String
  creation : Datetime
  expiration : Option Datetime
  revocation : Option Datetime
  subject : Subject
  grant : Grant
  deriving DecidableEq, Repr

namespace AccessGrant

/-- `redacted`: token grants lose their token, bearer grants have their key replaced by
the `[REDACTED]` marker; every other field is kept. -/
def redacted (g : AccessGrant) : AccessGrant :=
  { g with
    grant := match g.grant with
      | .jwt gr => .jwt { gr with token := none }
      | .record gr => .record { gr with token := none }
      | .bearer gr => .bearer { gr with key := "[REDACTED]" } }

/-- `is_expired`, at the clock reading `now` it takes. -/
def isExpired (g : AccessGrant) (now : Datetime) : Bool :=
  match g.expiration with
  | some exp => decide (exp < now)
  | none => false

/-- `is_revoked`. -/
def isRevoked (g : AccessGrant) : Bool := g.revocation.isSome

/-- `is_active`, at the clock reading `now`. -/
def isActive (g : AccessGrant) (now : Datetime) : Bool := !(g.isExpired now || g.isRevoked)

/-- `From<AccessGrant> for Object`: the fields a grant is shown with. -/
def toObject (grant : AccessGrant) : List (String × Value) :=
  [("id", .strand grant.id), ("ac", .strand grant.ac), ("type", .strand grant.grant.variant),
    ("creation", .datetime grant.creation), ("expiration", .ofDatetime grant.expiration),
    ("revocation", .ofDatetime grant.revocation),
    ("subject", .object (match grant.subject with
      | .record id => [("record", .thing id)]
      | .user name => [("user", .strand name)])),
    ("grant", .object (match grant.grant with
      | .jwt jg => ("jti", .uuid jg.jti) :: (jg.token.map fun t => ("token", .strand t)).toList
      | .record rg =>
          ("rid", .uuid rg.rid) :: ("jti", .uuid rg.jti) ::
            (rg.token.map fun t => ("token", .strand t)).toList
      | .bearer bg => [("id", .strand bg.id), ("key", .strand bg.key)]))]

/-- The document a grant is returned as, or handed to a condition as:
`Value::Object(gr.redacted().into())`. -/
def view (g : AccessGrant) : Value := .object g.redacted.toObject

@[simp] theorem redacted_id (g : AccessGrant) : g.redacted.id = g.id := rfl
@[simp] theorem redacted_ac (g : AccessGrant) : g.redacted.ac = g.ac := rfl
@[simp] theorem redacted_revocation (g : AccessGrant) : g.redacted.revocation = g.revocation := rfl
@[simp] theorem redacted_expiration (g : AccessGrant) : g.redacted.expiration = g.expiration := rfl
@[simp] theorem redacted_subject (g : AccessGrant) : g.redacted.subject = g.subject := rfl

/-- Redaction forgets the secret and nothing else: it is idempotent. -/
@[simp] theorem redacted_redacted (g : AccessGrant) : g.redacted.redacted = g.redacted := by
  rcases g with ⟨_, _, _, _, _, _, _ | _ | _⟩ <;> rfl

/-- Redaction commutes with setting the revocation time. -/
theorem redacted_setRevocation (g : AccessGrant) (t : Option Datetime) :
    ({ g with revocation := t } : AccessGrant).redacted = { g.redacted with revocation := t } := rfl

/-- The payload's variant survives redaction. -/
@[simp] theorem variant_redacted (g : AccessGrant) : g.redacted.grant.variant = g.grant.variant := by
  rcases g with ⟨_, _, _, _, _, _, _ | _ | _⟩ <;> rfl

/-- An active grant is neither revoked nor expired at that reading. -/
theorem isActive_iff (g : AccessGrant) (now : Datetime) :
    g.isActive now = true ↔ g.isExpired now = false ∧ g.revocation = none := by
  simp [isActive, isRevoked, Option.isNone_iff_eq_none]

end AccessGrant

end AccessGrants

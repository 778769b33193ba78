import Mathlib.Data.String.Basic
import AccessGrants.Model.Grant

/-!
# Token claims and the value they are shown as

`token.rs`: the `Claims` of a token, and the two conversions of claims into a `Value`,
`From<Claims>` (owned) and `From<&Claims>` (borrowed), which the source keeps as two copies
of one body: each set standard claim under its output key, then every custom claim.

The `Object` built is a `BTreeMap`: it is kept as its fields in key order, and inserting a
key already present replaces its value, so a custom claim named as a standard output key
replaces that claim. The custom claims are a `HashMap`, kept as its entries in the order
iteration visits them, no key twice; a clone of the map holds the same entries, in an order
the map's contents do not fix.

`serde_json::Value`, its serializer and the SurrealQL `json` parser are not under src/: a
custom claim's JSON value is of any type `Json`, and the two functions that turn it into a
`Value` are parameters.
-/

set_option autoImplicit false

namespace AccessGrants

/-- `Audience`: one audience, or several. -/
inductive Audience where
  | single (v : String)
  | multiple (v : List String)
  deriving DecidableEq, Repr

/-- A `HashMap<String, serde_json::Value>` of custom claims: its entries, in iteration
order, no key twice. -/
structure ClaimMap (Json : Type) where
  entries : List (String × Json)
  nodup : (entries.map Prod.fst).Nodup

/-- `Claims`: the standard claims of a token, each optional, and the custom ones; the
derived `Default` sets none. -/
structure Claims (Json : Type) where
  iat : Option Int := none
  nbf : Option Int := none
  exp : Option Int := none
  iss : Option String := none
  sub : Option String := none
  aud : Option Audience := none
  jti : Option String := none
  ns : Option String := none
  db : Option String := none
  ac : Option String := none
  id : Option String := none
  roles : Option (List String) := none
  customClaims : Option (ClaimMap Json) := none

/-- `HashMap::clone`: the copy holds the same entries; the order it iterates them in is not
part of the map's value. -/
def ClaimMap.IsClone {Json : Type} (m m' : ClaimMap Json) : Prop :=
  List.Perm m.entries m'.entries

/-- `Claims::clone` (derived): every field is copied, the custom claims as a `HashMap`
clone. -/
def Claims.IsClone {Json : Type} (c c' : Claims Json) : Prop :=
  ∃ m, Option.Rel ClaimMap.IsClone c.customClaims m ∧ c' = { c with customClaims := m }

namespace Object

/-- `Object::insert`, a `BTreeMap` insert (not under src/): the fields stay in key order,
and a key already present has its value replaced. -/
def insert (k : String) (v : Value) : List (String × Value) → List (String × Value)
  | [] => [(k, v)]
  | (k', v') :: fs =>
    if k < k' then (k, v) :: (k', v') :: fs
    else if k = k' then (k, v) :: fs
    else (k', v') :: insert k v fs

@[simp] theorem insert_nil (k : String) (v : Value) : insert k v [] = [(k, v)] := rfl

/-- INTERNAL: an insert of a key below the first field puts it first. -/
theorem insert_cons_of_lt {k k' : String} (h : k < k') (v v' : Value)
    (fs : List (String × Value)) : insert k v ((k', v') :: fs) = (k, v) :: (k', v') :: fs := by
  simp [insert, h]

@[simp] theorem insert_cons_self (k : String) (v v' : Value) (fs : List (String × Value)) :
    insert k v ((k, v') :: fs) = (k, v) :: fs := by
  simp [insert]

/-- INTERNAL: an insert of a key above the first field keeps that field first. -/
theorem insert_cons_of_gt {k k' : String} (h : k' < k) (v v' : Value)
    (fs : List (String × Value)) : insert k v ((k', v') :: fs) = (k', v') :: insert k v fs := by
  simp [insert, h.not_lt, h.ne']

/-- `if let Some(x) = .. { out.insert(key, x.into()) }`: a standard claim, by its output
key and its value when set. -/
def insertSome (out : List (String × Value)) (field : String × Option Value) :
    List (String × Value) :=
  match field.2 with
  | some v => insert field.1 v out
  | none => out

end Object

/-- `From<Vec<String>> for Value` (not under src/): an array of strands. -/
def Value.ofStrings (v : List String) : Value := .array (v.map .strand)

/-- The `aud` claim as a value: its one audience, or the array of them. -/
def Audience.into : Audience → Value
  | .single v => .strand v
  | .multiple v => .ofStrings v

section Conversion

variable {Json : Type} (toString : Json → Except String String)
  (json : String → Except String Value)

/-- One round of the custom-claims loop: serialize the claim's JSON value
(`serde_json::to_string`), parse that text as a SurrealQL value (`json`, then `into`) and
insert it under the claim's name. A failure of either is logged and the claim skipped
(`continue`). -/
def insertCustom (out : List (String × Value)) (claim : String × Json) :
    List (String × Value) :=
  match toString claim.2 with
  | .error _ => out
  | .ok claimJson =>
    match json claimJson with
    | .error _ => out
    | .ok claimValue => Object.insert claim.1 claimValue out

/-- The body both conversions share: from the empty object, each standard claim in the
order given, inserted when set; then every custom claim, in the map's iteration order. -/
def claimsValue (standard : List (String × Option Value)) (custom : Option (ClaimMap Json)) :
    Value :=
  let out := standard.foldl Object.insertSome []
  .object (match custom with
    | some customClaims => customClaims.entries.foldl (insertCustom toString json) out
    | none => out)

/-- `From<Claims> for Value`. -/
def Claims.into (v : Claims Json) : Value :=
  claimsValue toString json
    [("iss", v.iss.map .strand), ("sub", v.sub.map .strand), ("aud", v.aud.map Audience.into),
      ("iat", v.iat.map .number), ("nbf", v.nbf.map .number), ("exp", v.exp.map .number),
      ("jti", v.jti.map .strand), ("NS", v.ns.map .strand), ("DB", v.db.map .strand),
      ("AC", v.ac.map .strand), ("ID", v.id.map .strand), ("RL", v.roles.map .ofStrings)]
    v.customClaims

/-- `From<&Claims> for Value`: the owned conversion's body, cloning each field it reads. -/
def Claims.intoRef (v : Claims Json) : Value :=
  claimsValue toString json
    [("iss", v.iss.map .strand), ("sub", v.sub.map .strand), ("aud", v.aud.map Audience.into),
      ("iat", v.iat.map .number), ("nbf", v.nbf.map .number), ("exp", v.exp.map .number),
      ("jti", v.jti.map .strand), ("NS", v.ns.map .strand), ("DB", v.db.map .strand),
      ("AC", v.ac.map .strand), ("ID", v.id.map .strand), ("RL", v.roles.map .ofStrings)]
    v.customClaims

/-- The standard claims the two conversions insert, in the order they insert them, under
their output keys. -/
def Claims.standardFields (v : Claims Json) : List (String × Option Value) :=
  [("iss", v.iss.map .strand), ("sub", v.sub.map .strand), ("aud", v.aud.map Audience.into),
    ("iat", v.iat.map .number), ("nbf", v.nbf.map .number), ("exp", v.exp.map .number),
    ("jti", v.jti.map .strand), ("NS", v.ns.map .strand), ("DB", v.db.map .strand),
    ("AC", v.ac.map .strand), ("ID", v.id.map .strand), ("RL", v.roles.map .ofStrings)]

end Conversion

end AccessGrants

import AccessGrants.Model.Grant

/-!
# The SDK's local engine: `router`, `process` and `take`

The embedded engine of the SDK answers each request of a client with `router`
(sdk/src/api/engine/local/mod.rs). A client holds three cells: its `Session` (the selected
namespace and database, and the authentication the `iam` calls manage), its `Variables`,
and the senders of the live queries it subscribed to. `USE`, the sign-up, sign-in,
authenticate and invalidate commands write the session, `SET` and `UNSET` the variables,
`SUBSCRIBE` and `KILL` the live-query senders; every other command builds a plan or a
query, hands it to the datastore with the session and the variables, and shapes the
responses with `process` or `take`.

The datastore and the `iam` calls are not under src/: they are the fields of `Engine`,
any functions of what the router passes them. `resource_to_values`,
`is_single_recordid`, `Variables::merge` and `IndexMap::insert` are modelled from the
source's calls. Values are kept as far as the router tells them apart.
-/

set_option autoImplicit false

namespace AccessGrants.Local

/-- `Value` as far as the router tells it apart: `None`, `Null`, a string, an array, and any
other value. -/
inductive CoreValue (V : Type) where
  | none
  | null
  | strand (s : String)
  | array (items : List (CoreValue V))
  | other (v : V)

/-- `Value::is_array`. -/
def CoreValue.isArray {V : Type} : CoreValue V → Bool
  | .array _ => true
  | _ => false

/-- `Variables`: the value bound to each name. -/
def Vars (V : Type) : Type := String → Option (CoreValue V)

/-- Modelled from the source's call: `vars.merge(variables)`, the request's variables over
the client's. -/
def Vars.merge {V : Type} (vars requestVars : Vars V) : Vars V :=
  fun k => (requestVars k).or (vars k)

/-- The errors the router returns: any error of the datastore or of the `iam` calls, and
the SDK's `Error::Query`. -/
inductive Error where
  | core (msg : String)
  | query (msg : String)
  deriving DecidableEq, Repr

/-- `Session`: the selected namespace and database, and the rest of it (authentication and
the like), which only the `iam` calls read and write. -/
structure Session (A : Type) where
  ns : Option String
  db : Option String
  rest : A

/-- `dbs::Response`: the time a statement took and its result. -/
structure Response (V : Type) where
  time : Nat
  result : Except Error (CoreValue V)

/-- `Stats`. -/
structure Stats where
  executionTime : Option Nat
  deriving DecidableEq, Repr

/-- The `results` of a `QueryResponse`: an `IndexMap` from a statement's index to its stats
and result, in insertion order. -/
structure QueryResponse (V : Type) where
  results : List (Nat × Stats × Except Error (CoreValue V))

/-- `DbResponse`. -/
inductive DbResponse (V : Type) where
  | other (v : CoreValue V)
  | query (r : QueryResponse V)

/-- `Data`: how a command's data is applied. -/
inductive Data (V : Type) where
  | contentExpression (v : CoreValue V)
  | patchExpression (v : CoreValue V)
  | mergeExpression (v : CoreValue V)
  | singleExpression (v : CoreValue V)

/-- `Output`. -/
inductive Output where
  | after
  | before
  deriving DecidableEq, Repr

/-- A function call `RUN` builds: `Function::Custom`, `Function::Normal`, or an ML `Model`. -/
inductive Call (V : Type) where
  | custom (name : String) (args : List (CoreValue V))
  | normal (name : String) (args : List (CoreValue V))
  | model (name version : String) (args : List (CoreValue V))

/-- `LogicalPlan`, each statement with the fields the router sets (the others are their
defaults). `select` selects `*` (`Field::All`). -/
inductive Plan (V : Type) where
  | create (what : List (CoreValue V)) (data : Option (Data V)) (output : Option Output)
  | upsert (what : List (CoreValue V)) (data : Option (Data V)) (output : Option Output)
  | update (what : List (CoreValue V)) (data : Option (Data V)) (output : Option Output)
  | insert (into : Option String) (data : Data V) (output : Option Output) (relation : Bool)
  | select (what : List (CoreValue V))
  | delete (what : List (CoreValue V)) (output : Option Output)
  | kill (id : Uuid)
  | value (func : Call V)

/-- The commands `router` answers, without their unused `txn` fields. The export and import
commands, which read and write files and channels, are left out. `query` keeps a parsed
query as its text; `use` has the namespace and the database, `query` and `rawQuery` the
request's `variables`. -/
inductive Command (R V S : Type) where
  | use (ns db : Option String)
  | signup (credentials : CoreValue V)
  | signin (credentials : CoreValue V)
  | authenticate (token : String)
  | invalidate
  | create (what : R) (data : Option (CoreValue V))
  | upsert (what : R) (data : Option (CoreValue V))
  | update (what : R) (data : Option (CoreValue V))
  | insert (what : Option String) (data : CoreValue V)
  | insertRelation (what : Option String) (data : CoreValue V)
  | patch (what : R) (data : Option (CoreValue V)) (upsert : Bool)
  | merge (what : R) (data : Option (CoreValue V)) (upsert : Bool)
  | select (what : R)
  | delete (what : R)
  | query (query : String) (requestVars : Vars V)
  | rawQuery (query : String) (requestVars : Vars V)
  | health
  | version
  | set (key : String) (value : CoreValue V)
  | unset (key : String)
  | subscribeLive (uuid : Uuid) (sender : S)
  | kill (uuid : Uuid)
  | run (name : String) (version : Option String) (args : List (CoreValue V))

/-- What the router calls and does not define: the datastore (`process_plan`, `process`,
`execute`, `compute`), the `iam` calls, which write the session they are given whatever
their outcome, `resource_to_values`, `is_single_recordid`, the crate's version, and whether
the `ml` feature is enabled. -/
structure Engine (R V A : Type) where
  processPlan : Plan V → Session A → Vars V → Except Error (List (Response V))
  process : String → Session A → Vars V → Except Error (List (Response V))
  execute : String → Session A → Vars V → Except Error (List (Response V))
  compute : CoreValue V → Session A → Vars V → Except Error (CoreValue V)
  signup : CoreValue V → Session A → Except Error (CoreValue V) × Session A
  signin : CoreValue V → Session A → Except Error (CoreValue V) × Session A
  authenticate : String → Session A → Except Error Unit × Session A
  clear : Session A → Except Error Unit × Session A
  resourceToValues : R → List (CoreValue V)
  isSingleRecordId : R → Bool
  version : String
  ml : Bool

/-- The client's cells the router reads and writes. -/
structure Client (V A S : Type) where
  session : Session A
  vars : Vars V
  liveQueries : Uuid → Option S

variable {R V A S : Type}

/-- Modelled from the source's call: `IndexMap::insert`, in place for a present key, at the
end for a new one. -/
def indexInsert {β : Type} (map : List (Nat × β)) (k : Nat) (v : β) : List (Nat × β) :=
  if map.any (·.1 == k) then map.map fun e => if e.1 == k then (k, v) else e
  else map ++ [(k, v)]

/-- One turn of `process`'s loop: a response inserted under its index, with its time as the
statement's execution time. -/
def processStep (map : List (Nat × Stats × Except Error (CoreValue V)))
    (entry : Nat × Response V) : List (Nat × Stats × Except Error (CoreValue V)) :=
  let (index, response) := entry
  let stats : Stats := ⟨some response.time⟩
  match response.result with
  | .ok value => indexInsert map index (stats, .ok value)
  | .error error => indexInsert map index (stats, .error error)

/-- `process`: every response inserted under its index. -/
def process (responses : List (Response V)) : QueryResponse V :=
  ⟨responses.enum.foldl processStep []⟩

/-- `take`: the first response's result; when `one`, a one-element array gives its element,
and `None`, `Null` or another array give `None`; without a first response, `None` when `one`
and an empty array otherwise. -/
def take (one : Bool) (responses : List (Response V)) : Except Error (CoreValue V) :=
  let fallThrough : Except Error (CoreValue V) := if one then .ok .none else .ok (.array [])
  match (process responses).results.lookup 0 with
  | some (_, result) =>
    match result with
    | .error e => .error e
    | .ok value =>
      if one then
        match value with
        | .array [value] => .ok value
        | .array _ => fallThrough
        | .none | .null => fallThrough
        | value => .ok value
      else .ok value
  | none => fallThrough

/-- `kill_live_query`: a `KILL` of the id, its value taken as one. -/
def killLiveQuery (E : Engine R V A) (id : Uuid) (session : Session A) (vars : Vars V) :
    Except Error (CoreValue V) := do
  let response ← E.processPlan (.kill id) session vars
  take true response

/-- `s.strip_prefix(p)`: the rest of `s` after `p`, when `s` starts with `p`. -/
def stripPrefix (p s : String) : Option String :=
  if p.data.isPrefixOf s.data then some ⟨s.data.drop p.data.length⟩ else none

/-- The function `RUN` calls: `fn::` names a custom function, `ml::` a model (with a version,
and only with the `ml` feature), any other name a built-in one. -/
def runFunction (E : Engine R V A) (name : String) (version : Option String)
    (args : List (CoreValue V)) : Except Error (Call V) :=
  match stripPrefix "fn::" name with
  | some name => .ok (.custom name args)
  | none =>
    match stripPrefix "ml::" name with
    | some model =>
      if E.ml then
        match version with
        | some version => .ok (.model model version args)
        | none => .error (.query "ML functions must have a version")
      else
        .error (.query ("tried to call an ML function " ++ "`" ++ name ++ "`" ++
          " but the " ++ "`ml`" ++ " feature is not enabled"))
    | none => .ok (.normal name args)

/-- The data commands: a plan run with the client's session and variables, its responses
taken as one value or as a list. -/
def runPlan (E : Engine R V A) (c : Client V A S) (plan : Plan V) (one : Bool) :
    Except Error (DbResponse V) := do
  let response ← E.processPlan plan c.session c.vars
  let value ← take one response
  pure (.other value)

/-- `PATCH` and `MERGE`: an `UPSERT` or an `UPDATE` with the data, all responses kept. -/
def runPatch (E : Engine R V A) (c : Client V A S) (what : R) (data : Option (Data V))
    (upsert : Bool) : Except Error (DbResponse V) := do
  let plan := if upsert then Plan.upsert (E.resourceToValues what) data (some .after)
    else Plan.update (E.resourceToValues what) data (some .after)
  let response ← E.processPlan plan c.session c.vars
  pure (.query (process response))

/-- `router`: a command's response, and the client's cells after it. -/
def router (E : Engine R V A) : Command R V S → Client V A S →
    Except Error (DbResponse V) × Client V A S
  | .use ns db, c =>
    (.ok (.other .none), { c with session := { c.session with ns := ns.or c.session.ns,
                                                              db := db.or c.session.db } })
  | .signup credentials, c =>
    let (response, session) := E.signup credentials c.session
    (response.map .other, { c with session })
  | .signin credentials, c =>
    let (response, session) := E.signin credentials c.session
    (response.map .other, { c with session })
  | .authenticate token, c =>
    let (response, session) := E.authenticate token c.session
    (response.map fun _ => .other .none, { c with session })
  | .invalidate, c =>
    let (response, session) := E.clear c.session
    (response.map fun _ => .other .none, { c with session })
  | .create what data, c =>
    (runPlan E c (.create (E.resourceToValues what) (data.map .contentExpression) (some .after))
      true, c)
  | .upsert what data, c =>
    (runPlan E c (.upsert (E.resourceToValues what) (data.map .contentExpression) (some .after))
      (E.isSingleRecordId what), c)
  | .update what data, c =>
    (runPlan E c (.update (E.resourceToValues what) (data.map .contentExpression) (some .after))
      (E.isSingleRecordId what), c)
  | .insert what data, c =>
    (runPlan E c (.insert what (.singleExpression data) (some .after) false) !data.isArray, c)
  | .insertRelation what data, c =>
    (runPlan E c (.insert what (.singleExpression data) (some .after) true) !data.isArray, c)
  | .patch what data upsert, c => (runPatch E c what (data.map .patchExpression) upsert, c)
  | .merge what data upsert, c => (runPatch E c what (data.map .mergeExpression) upsert, c)
  | .select what, c =>
    (runPlan E c (.select (E.resourceToValues what)) (E.isSingleRecordId what), c)
  | .delete what, c =>
    (runPlan E c (.delete (E.resourceToValues what) (some .before)) (E.isSingleRecordId what), c)
  | .query query requestVars, c =>
    ((E.process query c.session (c.vars.merge requestVars)).map fun r => .query (process r), c)
  | .rawQuery query requestVars, c =>
    ((E.execute query c.session (c.vars.merge requestVars)).map fun r => .query (process r), c)
  | .health, c => (.ok (.other .none), c)
  | .version, c => (.ok (.other (.strand E.version)), c)
  | .set key value, c =>
    match E.compute value c.session (Function.update c.vars key (some value)) with
    | .error e => (.error e, c)
    | .ok .none => (.ok (.other .none), { c with vars := Function.update c.vars key none })
    | .ok v => (.ok (.other .none), { c with vars := Function.update c.vars key (some v) })
  | .unset key, c => (.ok (.other .none), { c with vars := Function.update c.vars key none })
  | .subscribeLive uuid sender, c =>
    (.ok (.other .none), { c with liveQueries := Function.update c.liveQueries uuid (some sender) })
  | .kill uuid, c =>
    let c := { c with liveQueries := Function.update c.liveQueries uuid none }
    ((killLiveQuery E uuid c.session c.vars).map .other, c)
  | .run name version args, c =>
    (do
      let func ← runFunction E name version args
      runPlan E c (.value func) true, c)

/-- Commands answered in order, each with the cells the previous one left. -/
def routerRun (E : Engine R V A) :
    List (Command R V S) → Client V A S → List (Except Error (DbResponse V)) × Client V A S
  | [], c => ([], c)
  | cmd :: rest, c =>
    ((router E cmd c).1 :: (routerRun E rest (router E cmd c).2).1,
      (routerRun E rest (router E cmd c).2).2)

end AccessGrants.Local

import AccessGrants.Model.Session

/-!
# Registering a live query: `LiveStatement::compute`

`LIVE SELECT … FROM what` registers a live query under two keys of the store: under the
node that runs it (`node::lq(nid, id)`, holding the query's namespace, database and table)
and under its table (`table::lq(ns, db, tb, id)`, holding the statement itself, with the
node, the session's authentication and its `session` value filled in). Before it writes,
it checks that realtime is enabled, that a namespace and a database are selected and that
the node has an id, computes `what`, which must be a table, and ensures the namespace, the
database and the table are defined; after it writes, it bumps the table's live-query cache
version and returns the query's id.

The two indexes are maps from their keys, `replace` overwriting a key's value. Each
`replace` first asks the store, which takes the write or fails it with its own error, read
from a stream of answers as in the access model; so the second `replace` can fail after
the first has written (live.rs:110-114). The transaction's body (`register`) keeps that
write; the statement (`compute`) returns the world it was given on every error, as its
transaction is then cancelled. What `what` computes to is a parameter (the expression layer
is not under src/); the option checks, `ensure_ns_db_tb` and the cache are modelled from
the source's calls.
-/

set_option autoImplicit false

namespace AccessGrants

/-- `kvs::Live`: where a live query listens. -/
structure Live where
  ns : String
  db : String
  tb : String
  deriving DecidableEq, Repr

/-- What `what` computes to: a table, or any other value, kept as its text. -/
inductive LiveTarget where
  | table (tb : String)
  | other (text : String)
  deriving DecidableEq, Repr

/-- The errors `LiveStatement::compute` raises: those of the option checks, of computing
`what` (any error, as `thrown`), of `ensure_ns_db_tb`, `LiveStatement` for a `what` that is
not a table, and the store's own errors on a write (`tx`). -/
inductive LiveError where
  | realtimeDisabled
  | session (e : Error)
  | noNodeId
  | thrown (msg : String)
  | liveStatement (value : String)
  | nsNotFound (ns : String)
  | dbNotFound (ns db : String)
  | tbNotFound (tb : String)
  | tx (msg : String)
  deriving DecidableEq, Repr

/-- `LiveStatement`: its id, the node it is registered on, the query it runs (its
projection, condition and fetch clause, which registration carries unchanged), the
expression naming its table, and the authentication and `session` value stored with it. -/
structure LiveStatement (Q W : Type) where
  id : Uuid
  node : Uuid
  query : Q
  what : W
  auth : Option String
  session : Option Value

/-- What a LIVE statement is computed with: the session's `Options` and the two of its
fields the access model does not read (`live`, checked by `realtime()`, and the node `id`),
the context's `session` value, and whether the context has a cache. -/
structure LiveContext where
  opt : Options
  live : Bool
  id : Option Uuid
  session : Option Value
  cache : Bool

/-- The part of the store a registration reads and writes: the defined namespaces,
databases and tables, the node and table live-query indexes, the tables whose cache
version was bumped, in order, and the store's answers to writes (`none` takes the write,
`some msg` fails it) with the writes asked. -/
structure LiveWorld (S : Type) where
  namespaces : List String
  databases : List (String × String)
  tables : List (String × String × String)
  nodeLq : Uuid × Uuid → Option Live
  tableLq : String × String × String × Uuid → Option S
  versions : List (String × String × String)
  faults : ℕ → Option String
  writes : ℕ

namespace LiveContext

/-- Modelled from the source's call: `opt.realtime()`. -/
def realtime (ctx : LiveContext) : Except LiveError Unit :=
  if ctx.live then .ok () else .error .realtimeDisabled

/-- Modelled from the source's call: `opt.valid_for_db()`, a namespace and a database are
selected. -/
def validForDb (ctx : LiveContext) : Except LiveError Unit :=
  match ctx.opt.nsDb with
  | .ok _ => .ok ()
  | .error e => .error (.session e)

/-- Modelled from the source's call: `opt.id()`, the node's id. -/
def nodeId (ctx : LiveContext) : Except LiveError Uuid :=
  match ctx.id with
  | some nid => .ok nid
  | none => .error .noNodeId

/-- `opt.ns_db()`, its error lifted. -/
def nsDb (ctx : LiveContext) : Except LiveError (String × String) :=
  match ctx.opt.nsDb with
  | .ok p => .ok p
  | .error e => .error (.session e)

end LiveContext

variable {S : Type}

/-- Modelled from the source's call: one `get_or_add_*` step of `ensure_ns_db_tb`, on the
names defined at one level: a defined name is kept, a missing one is refused in strict mode
and added otherwise. -/
def getOrAdd {α : Type} [DecidableEq α] (defined : List α) (x : α) (strict : Bool)
    (e : LiveError) : Except LiveError (List α) :=
  if x ∈ defined then .ok defined
  else if strict then .error e
  else .ok (defined ++ [x])

/-- Modelled from the source's call: `ensure_ns_db_tb(ns, db, tb, strict)`, the namespace,
then the database, then the table. -/
def LiveWorld.ensureNsDbTb (w : LiveWorld S) (ns db tb : String) (strict : Bool) :
    Except LiveError (LiveWorld S) := do
  let namespaces ← getOrAdd w.namespaces ns strict (.nsNotFound ns)
  let databases ← getOrAdd w.databases (ns, db) strict (.dbNotFound ns db)
  let tables ← getOrAdd w.tables (ns, db, tb) strict (.tbNotFound tb)
  pure { w with namespaces, databases, tables }

/-- Modelled from the source's call: `txn.replace(key, val)`, where `write` overwrites the
key's entry: the store's answer to the write, then the write; a failed one changes only
the writes asked. -/
def LiveWorld.replace (write : LiveWorld S → LiveWorld S) (w : LiveWorld S) :
    Except LiveError Unit × LiveWorld S :=
  match w.faults w.writes with
  | none => (.ok (), write { w with writes := w.writes + 1 })
  | some msg => (.error (.tx msg), { w with writes := w.writes + 1 })

variable {Q W : Type}

/-- The part of `LiveStatement::compute` before its writes, with `compute` the computation
of `what` in the context (`catch_return` included): the node's id, where the query
listens, the statement to store (the node, the session's authentication and its `session`
value filled in), and the world with the namespace, the database and the table ensured. -/
def LiveStatement.prepare (compute : LiveContext → W → Except LiveError LiveTarget)
    (ctx : LiveContext) (self : LiveStatement Q W) (w : LiveWorld (LiveStatement Q W)) :
    Except LiveError (Uuid × Live × LiveStatement Q W × LiveWorld (LiveStatement Q W)) := do
  ctx.realtime
  ctx.validForDb
  let nid ← ctx.nodeId
  let stm := { self with auth := some ctx.opt.auth, session := ctx.session }
  match ← compute ctx stm.what with
  | .table tb =>
    let stm := { stm with node := nid }
    let (ns, db) ← ctx.nsDb
    let w ← w.ensureNsDbTb ns db tb ctx.opt.strict
    pure (nid, ⟨ns, db, tb⟩, stm, w)
  | .other v => throw (.liveStatement v)

/-- The body of `LiveStatement::compute`: the query's id, or its error, and the world with
the transaction's writes so far: the node's entry, then the table's entry, each by a
`replace` the store may fail, then the cache bump when there is a cache. `txn.clear()`
empties the transaction's cache and is left out. -/
def LiveStatement.register (compute : LiveContext → W → Except LiveError LiveTarget)
    (ctx : LiveContext) (self : LiveStatement Q W) (w : LiveWorld (LiveStatement Q W)) :
    Except LiveError Uuid × LiveWorld (LiveStatement Q W) :=
  match self.prepare compute ctx w with
  | .error e => (.error e, w)
  | .ok (nid, lq, stm, w₁) =>
    match w₁.replace fun w => { w with nodeLq := Function.update w.nodeLq (nid, stm.id) (some lq) } with
    | (.error e, w₂) => (.error e, w₂)
    | (.ok (), w₂) =>
      match w₂.replace fun w =>
          { w with tableLq := Function.update w.tableLq (lq.ns, lq.db, lq.tb, stm.id) (some stm) } with
      | (.error e, w₃) => (.error e, w₃)
      | (.ok (), w₃) =>
        (.ok stm.id, if ctx.cache then { w₃ with versions := w₃.versions ++ [(lq.ns, lq.db, lq.tb)] }
          else w₃)

/-- `LiveStatement::compute` run as a statement: the registration's id and writes, or its
error and the world it was given, since a failed statement's transaction is cancelled and
its writes, the node's entry of a first `replace` before a failed second one included, are
dropped. -/
def LiveStatement.compute (compute : LiveContext → W → Except LiveError LiveTarget)
    (ctx : LiveContext) (self : LiveStatement Q W) (w : LiveWorld (LiveStatement Q W)) :
    Except LiveError Uuid × LiveWorld (LiveStatement Q W) :=
  match self.register compute ctx w with
  | (.ok id, w') => (.ok id, w')
  | (.error e, _) => (.error e, w)

/-- LIVE statements computed in order, each in the world the previous one left, with
their outcomes. -/
def liveRun (compute : LiveContext → W → Except LiveError LiveTarget) :
    List (LiveContext × LiveStatement Q W) → LiveWorld (LiveStatement Q W) →
      List (Except LiveError Uuid) × LiveWorld (LiveStatement Q W)
  | [], w => ([], w)
  | (ctx, stm) :: rest, w =>
    ((stm.compute compute ctx w).1 :: (liveRun compute rest (stm.compute compute ctx w).2).1,
      (liveRun compute rest (stm.compute compute ctx w).2).2)

end AccessGrants

import AccessGrants.Model.Create
import AccessGrants.Model.Manage

/-!
# Statements run one after another

`AccessStatement::compute` dispatches a statement to its operation. A run is a sequence
of statements, each with its own session, each run in the world the previous one left;
`Reachable` is every world such a run reaches from a world without grant entries.
-/

set_option autoImplicit false

namespace AccessGrants

/-- `AccessStatement::compute`. -/
def AccessStatement.compute (digest : String → String) (opt : Options) :
    AccessStatement → Txn Value
  | .grant stmt => computeGrant digest stmt opt
  | .show' stmt => computeShow stmt opt
  | .revoke stmt => computeRevoke stmt opt
  | .purge stmt => computePurge stmt opt

/-- Statements run in order, each in the world the previous one left, with their outcomes. -/
def runAll (digest : String → String) :
    List (AccessStatement × Options) → World → List (Except Error Value) × World
  | [], w => ([], w)
  | (stmt, opt) :: rest, w =>
    ((stmt.compute digest opt w).1 :: (runAll digest rest (stmt.compute digest opt w).2).1,
      (runAll digest rest (stmt.compute digest opt w).2).2)

/-- The worlds runs reach from a world with no grant entries. A statement's world is kept
whatever its outcome; discarding a failed statement's transaction instead returns to a
world already reached. -/
inductive Reachable (digest : String → String) : World → Prop
  | init (w : World) (h : w.store.entries = []) : Reachable digest w
  | step {w : World} (stmt : AccessStatement) (opt : Options) :
      Reachable digest w → Reachable digest (stmt.compute digest opt w).2

end AccessGrants

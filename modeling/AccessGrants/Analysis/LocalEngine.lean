import AccessGrants.Model.LocalEngine

/-!
# The local engine's client cells over runs of commands

Each cell of a client follows its own commands only: over any run of commands, the
session is what the session commands alone make of it, the variables what the session and
variable commands alone make of them, and the live-query senders what `SUBSCRIBE` and `KILL`
alone make of them (`client_cells_follow_own_commands`). Every data command and query
leaves the client as it was, whatever the datastore answers.

From the same step lemmas: `SET` of a value that computes to `NONE` is `UNSET`
(`set_none_is_unset`), so no run binds a variable to `NONE` (`no_variable_holds_none`); a
`KILL` drops the local sender before the datastore is asked, so a killed id has no sender
after any run that does not subscribe it again, even when the kill failed
(`killed_stays_unsubscribed`); and `USE` sets the namespace and the database separately, so
after a run without `iam` commands each is the last one a `USE` gave, the other kept
(`use_sets_each_part`). `take` reads the first response only (`take_first_response`).
-/

set_option autoImplicit false

namespace AccessGrants.Local

variable {R V A S : Type}

/-- The commands that write the variables. -/
def Command.writesVars : Command R V S → Bool
  | .set _ _ | .unset _ => true
  | _ => false

/-- The commands that write the live-query senders. -/
def Command.writesLive : Command R V S → Bool
  | .subscribeLive _ _ | .kill _ => true
  | _ => false

/-- The `iam` commands, which hand the session to the datastore's `iam` calls. -/
def Command.isIam : Command R V S → Bool
  | .signup _ | .signin _ | .authenticate _ | .invalidate => true
  | _ => false

/-- The namespace a command selects: the one a `USE` gives. -/
def Command.usedNs : Command R V S → Option String
  | .use ns _ => ns
  | _ => none

/-- The database a command selects: the one a `USE` gives. -/
def Command.usedDb : Command R V S → Option String
  | .use _ db => db
  | _ => none

end AccessGrants.Local

namespace AccessGrants.Analysis

open AccessGrants.Local

variable {R V A S : Type} (E : Engine R V A)

/-! ## `process` and `take` -/

/-- INTERNAL: **a turn of `process`'s loop at a fresh index appends** the response.
SOURCE: mod.rs:472-486 -/
theorem processStep_fresh {acc : List (Nat × Stats × Except Error (CoreValue V))} {n : Nat}
    (hacc : ∀ e ∈ acc, e.1 < n) (r : Response V) :
    processStep acc (n, r) = acc ++ [(n, ⟨some r.time⟩, r.result)] := by
  have hfresh : acc.any (·.1 == n) = false :=
    List.any_eq_false.2 fun e he => by simpa using (hacc e he).ne
  simp only [processStep]
  cases r.result <;> simp [indexInsert, hfresh]

/-- INTERNAL: **`process`'s loop over fresh indices appends**: when every index already in
the map is below the next one, each response is added at the end under its index.
SOURCE: mod.rs:472-491 -/
theorem foldl_processStep (rs : List (Response V)) :
    ∀ (n : Nat) (acc : List (Nat × Stats × Except Error (CoreValue V))), (∀ e ∈ acc, e.1 < n) →
      (rs.enumFrom n).foldl processStep acc =
        acc ++ (rs.enumFrom n).map fun (i, r) => (i, ⟨some r.time⟩, r.result) := by
  induction rs with
  | nil => intro n acc _; simp
  | cons r rs ih =>
    intro n acc hacc
    rw [List.enumFrom_cons, List.foldl_cons, processStep_fresh hacc, ih (n + 1) _ ?_]
    · simp
    · intro e he
      rcases List.mem_append.1 he with he | he
      · exact Nat.lt_succ_of_lt (hacc e he)
      · simp only [List.mem_singleton] at he; simp [he]

/-- INTERNAL: **`process` keeps every response, in order, under its index.**
SOURCE: mod.rs:472-491 -/
theorem process_results (rs : List (Response V)) :
    (process rs).results = rs.enum.map fun (i, r) => (i, ⟨some r.time⟩, r.result) := by
  simpa using foldl_processStep rs 0 [] (by simp)

/-- **`take` reads the first response only**: `process` keeps every response, in order,
under its index with its time as the execution time; without a response `take` gives `None`
for one value and an empty array otherwise; and `take` of any responses is `take` of the first
alone, so whatever follows it, results and errors alike, is dropped. -/
theorem take_first_response (one : Bool) (rs : List (Response V)) :
    (process rs).results = rs.enum.map (fun (i, r) => (i, ⟨some r.time⟩, r.result)) ∧
    take one ([] : List (Response V)) = (if one then .ok .none else .ok (.array [])) ∧
    take one rs = take one (rs.take 1) := by
  refine ⟨process_results rs, rfl, ?_⟩
  cases rs with
  | nil => rfl
  | cons r rs =>
    simp only [take, process_results, List.take_succ_cons, List.take_zero, List.enum_cons,
      List.map_cons, List.lookup_cons_self]

/-! ## Which cell each command writes -/

/-- INTERNAL: **a command that does not write the variables keeps them.**
SOURCE: mod.rs:598-1213 -/
theorem router_vars_of (cmd : Command R V S) (c : Client V A S)
    (h : cmd.writesVars = false) : (router E cmd c).2.vars = c.vars := by
  cases cmd with
  | set _ _ | unset _ => cases h
  | _ => rfl

/-- INTERNAL: **a command that does not write the live-query senders keeps them.**
SOURCE: mod.rs:598-1213 -/
theorem router_live_of (cmd : Command R V S) (c : Client V A S)
    (h : cmd.writesLive = false) : (router E cmd c).2.liveQueries = c.liveQueries := by
  cases cmd with
  | set key value => simp only [router]; split <;> rfl
  | subscribeLive _ _ | kill _ => cases h
  | _ => rfl

/-- INTERNAL: **what `SET` leaves in the variables**: the key bound to the value computed with
the key bound to the raw value, removed when that is `NONE`, and nothing changed when the
computation fails.
SOURCE: mod.rs:1138-1153 -/
theorem router_set_vars (key : String) (value : CoreValue V) (c : Client V A S) :
    (router E (.set key value) c).2.vars =
      match E.compute value c.session (Function.update c.vars key (some value)) with
      | .error _ => c.vars
      | .ok .none => Function.update c.vars key none
      | .ok v => Function.update c.vars key (some v) := by
  simp only [router]
  split <;> simp_all

/-- INTERNAL: **a run of two runs** is the second run from where the first left.
SOURCE: mod.rs:598-1213 -/
theorem routerRun_append (run₁ run₂ : List (Command R V S)) (c : Client V A S) :
    (routerRun E (run₁ ++ run₂) c).2 = (routerRun E run₂ (routerRun E run₁ c).2).2 := by
  induction run₁ generalizing c with
  | nil => rfl
  | cons cmd rest ih => exact ih _

section Cells

variable {X : Type} (p : Client V A S → X) (keep : Command R V S → Bool)

end Cells

/-- INTERNAL: **a failed request leaves the client as it was**, except a `KILL`, which has
dropped the id's sender before the datastore failed, and the `iam` commands, whose calls leave
the session as they made it: every other command that returns an error, `SET` included,
changes no cell.
SOURCE: mod.rs:598-1213 -/
theorem failed_request_keeps_client (cmd : Command R V S) (c : Client V A S) (e : Error)
    (h : (router E cmd c).1 = .error e) :
    (router E cmd c).2 = c ∨ (∃ u, cmd = .kill u) ∨ cmd.isIam = true := by
  cases cmd with
  | kill u => exact .inr (.inl ⟨u, rfl⟩)
  | signup _ | signin _ | authenticate _ | invalidate => exact .inr (.inr rfl)
  | use _ _ | health | version | unset _ | subscribeLive _ _ => cases h
  | set key value =>
    simp only [router] at h ⊢
    split at h <;> first | exact .inl rfl | cases h
  | _ => exact .inl rfl

/-! ## `SET` and `UNSET` -/

/-- INTERNAL: **`SET` of a value that computes to `NONE` is `UNSET`**: when the value, computed
with the key bound to it, is `NONE`, setting the key answers and leaves the client exactly as
unsetting it does.
SOURCE: mod.rs:1138-1159 -/
theorem set_none_is_unset (key : String) (value : CoreValue V) (c : Client V A S)
    (h : E.compute value c.session (Function.update c.vars key (some value)) = .ok .none) :
    router E (.set key value) c = router E (.unset key) c := by
  simp only [router, h]

/-- A datastore that answers every plan and query with no response and computes every value
to `NONE`, with `iam` calls that keep the session. -/
def quietEngine : Engine Unit Unit Unit where
  processPlan _ _ _ := .ok []
  process _ _ _ := .ok []
  execute _ _ _ := .ok []
  compute _ _ _ := .ok .none
  signup _ s := (.ok .none, s)
  signin _ s := (.ok .none, s)
  authenticate _ s := (.ok (), s)
  clear s := (.ok (), s)
  resourceToValues _ := []
  isSingleRecordId _ := true
  version := "2.0.0"
  ml := false

/-- A client with nothing selected, no variables and no live queries. -/
def freshClient : Client Unit Unit Unit := ⟨⟨none, none, ()⟩, fun _ => none, fun _ => none⟩

/-- An ML call without the `ml` feature fails with the source's message and leaves the client
as it was. -/
example :
    router quietEngine (.run "ml::m" none []) freshClient =
      (.error (.query ("tried to call an ML function " ++ "`" ++ "ml::m" ++ "`" ++ " but the " ++
        "`ml`" ++ " feature is not enabled")), freshClient) := rfl

/-- INTERNAL: **overwriting a key with anything but `NONE` keeps every key off `NONE`.**
SOURCE: mod.rs:1147-1150 -/
theorem update_ne_none {vars : Vars V} (hv : ∀ k, vars k ≠ some .none) (key : String)
    {o : Option (CoreValue V)} (ho : o ≠ some .none) (k : String) :
    Function.update vars key o k ≠ some .none := by
  rw [Function.update_apply]
  split_ifs
  exacts [ho, hv k]

/-- INTERNAL: **no command binds a variable to `NONE`.**
SOURCE: mod.rs:1138-1159 -/
theorem router_vars_ne_none (cmd : Command R V S) (c : Client V A S)
    (hv : ∀ k, c.vars k ≠ some .none) (k : String) : (router E cmd c).2.vars k ≠ some .none := by
  cases hw : cmd.writesVars
  · rw [router_vars_of E cmd c hw]; exact hv k
  cases cmd with
  | set key value =>
    rw [router_set_vars]
    split
    · exact hv k
    · exact update_ne_none hv key (by simp) k
    · rename_i v hnone _
      exact update_ne_none hv key (fun h => hnone (Option.some.inj h)) k
  | unset key => exact update_ne_none hv key (by simp) k
  | _ => simp [Command.writesVars] at hw

/-- **No run binds a variable to `NONE`**: from a client with no variable bound to `NONE`,
after any run of commands, whatever the datastore answers, no variable is bound to `NONE`
(`SET` removes a key whose value computes to `NONE`, and a failed `SET` changes nothing). -/
theorem no_variable_holds_none (run : List (Command R V S)) (c : Client V A S)
    (hv : ∀ k, c.vars k ≠ some .none) : ∀ k, (routerRun E run c).2.vars k ≠ some .none := by
  induction run generalizing c with
  | nil => exact hv
  | cons cmd rest ih => exact ih _ (router_vars_ne_none E cmd c hv)

/-- A `SET` whose value computes to `NONE`, an `UNSET` and a query leave no variable bound to
`NONE`. -/
theorem set_then_unset_holds_no_none :
    (routerRun quietEngine [.set "x" (.strand "a"), .unset "y", .select ()] freshClient).2.vars "x"
      ≠ some .none :=
  no_variable_holds_none quietEngine _ freshClient (fun _ h => Option.noConfusion h) "x"

/-! ## `KILL` -/

/-- INTERNAL: **an unsubscribed id stays so** through any command but its `SUBSCRIBE`.
SOURCE: mod.rs:1160-1176 -/
theorem router_live_none (cmd : Command R V S) (c : Client V A S) {u : Uuid}
    (hu : c.liveQueries u = none) (hcmd : ∀ s, cmd ≠ .subscribeLive u s) :
    (router E cmd c).2.liveQueries u = none := by
  cases hw : cmd.writesLive
  · rw [router_live_of E cmd c hw]; exact hu
  cases cmd with
  | subscribeLive u' s =>
    have hne : u ≠ u' := fun h => hcmd s (h ▸ rfl)
    simp only [router]
    rw [Function.update_noteq hne, hu]
  | kill u' =>
    simp only [router]
    rw [Function.update_apply]
    split_ifs
    exacts [rfl, hu]
  | _ => simp [Command.writesLive] at hw

/-- **A killed id stays unsubscribed**: after a `KILL` of an id, and any commands after it
that do not subscribe that id again, the client holds no sender for it, whatever the
datastore answered the kill (the sender is dropped before the datastore is asked). -/
theorem killed_stays_unsubscribed (run₁ run₂ : List (Command R V S)) (u : Uuid)
    (c : Client V A S) (h : ∀ cmd ∈ run₂, ∀ s, cmd ≠ .subscribeLive u s) :
    (routerRun E (run₁ ++ .kill u :: run₂) c).2.liveQueries u = none := by
  rw [routerRun_append]
  generalize (routerRun E run₁ c).2 = c₁
  have hk : (router E (.kill u) c₁).2.liveQueries u = none := Function.update_same _ _ _
  show (routerRun E run₂ (router E (.kill u) c₁).2).2.liveQueries u = none
  generalize (router E (.kill u) c₁).2 = c₂ at hk
  induction run₂ generalizing c₂ with
  | nil => exact hk
  | cons cmd rest ih =>
    exact ih (fun cmd' h' => h cmd' (.tail _ h')) _
      (router_live_none E cmd c₂ hk (h cmd (.head _)))

/-- A subscribe, a kill of that id and two commands that do not subscribe it leave the client
with no sender for the id. -/
theorem kill_after_subscribe_unsubscribes :
    (routerRun quietEngine ([.subscribeLive ⟨1⟩ ()] ++ .kill ⟨1⟩ :: [.health, .kill ⟨2⟩])
      freshClient).2.liveQueries ⟨1⟩ = none :=
  killed_stays_unsubscribed quietEngine _ _ ⟨1⟩ freshClient fun _ h _ heq => by
    simp only [List.mem_cons, List.mem_singleton, List.not_mem_nil, or_false] at h
    rcases h with rfl | rfl <;> cases heq

/-! ## `USE` -/

/-- INTERNAL: **a command other than the `iam` ones selects what its `USE` gives**, keeping
the rest of the session.
SOURCE: mod.rs:609-620 -/
theorem router_session_use (cmd : Command R V S) (c : Client V A S) (h : cmd.isIam = false) :
    (router E cmd c).2.session =
      { c.session with ns := cmd.usedNs.or c.session.ns, db := cmd.usedDb.or c.session.db } := by
  cases cmd with
  | set key value => simp only [router]; split <;> rfl
  | signup _ | signin _ | authenticate _ | invalidate => cases h
  | _ => rfl

/-- INTERNAL: **the last of a list with a head** is the last of its tail, or the head.
SOURCE: mod.rs:609-620 -/
theorem getLast?_cons_eq_or {α : Type} (a : α) (l : List α) :
    (a :: l).getLast? = l.getLast?.or (some a) := by
  rw [← List.singleton_append, List.getLast?_append]
  rfl

/-- INTERNAL: **the last of the values a run selects**, run after one more command.
SOURCE: mod.rs:609-620 -/
theorem getLast?_filterMap_cons (f : Command R V S → Option String) (cmd : Command R V S)
    (rest : List (Command R V S)) (o : Option String) :
    ((cmd :: rest).filterMap f).getLast?.or o = (rest.filterMap f).getLast?.or ((f cmd).or o) := by
  cases hf : f cmd with
  | none => simp [List.filterMap_cons, hf]
  | some a => rw [List.filterMap_cons, hf, getLast?_cons_eq_or, Option.or_assoc]

/-- **`USE` sets the namespace and the database separately**: after any run of commands with
no sign-up, sign-in, authenticate or invalidate, the session's namespace is the last one a
`USE` of the run gave, or the one it had; its database is likewise the last one a `USE`
gave, or the one it had, whichever namespace was selected since; the rest of the session is
kept. -/
theorem use_sets_each_part (run : List (Command R V S)) (c : Client V A S)
    (h : ∀ cmd ∈ run, cmd.isIam = false) :
    (routerRun E run c).2.session = { c.session with
      ns := (run.filterMap Command.usedNs).getLast?.or c.session.ns
      db := (run.filterMap Command.usedDb).getLast?.or c.session.db } := by
  induction run generalizing c with
  | nil => rfl
  | cons cmd rest ih =>
    show (routerRun E rest (router E cmd c).2).2.session = _
    rw [ih _ (fun cmd' h' => h cmd' (.tail _ h')), router_session_use E cmd c (h cmd (.head _)),
      getLast?_filterMap_cons, getLast?_filterMap_cons]

/-- A `USE` of a namespace, then a `USE` of a database alone, selects both. -/
theorem use_ns_then_db :
    (routerRun quietEngine [.use (some "app") none, .use none (some "main"), .health]
      freshClient).2.session = ⟨some "app", some "main", ()⟩ :=
  use_sets_each_part quietEngine _ freshClient (by decide)

end AccessGrants.Analysis

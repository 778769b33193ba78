import AccessGrants.Model.Run
import Mathlib.Data.List.Forall2

/-!
# Two runs side by side

A relational reading of `Txn`. `Rel R S m₁ m₂` says that `m₁` and `m₂`, started in worlds
related by `R`, end in worlds related by `R` with alike outcomes: the same error, or values
related by `S`. One rule per combinator (`pure`, `bind`, `collect`, `ensure`, `lift`,
`attempt`) builds the relation for an operation from its steps, so a two-run result is
proved by following the operation's code once.

A step that never reads or writes the grant entries (`StoreBlind`) runs alike on two worlds
that differ only there; one that never reads or writes the catalog either (`Local`) does
so on worlds that differ in both.
-/

set_option autoImplicit false

namespace AccessGrants

/-- What a world holds besides its grant entries and catalog: the clock, the readings
taken, the random source and its draws, the store's answers to writes and the writes
asked, and the events. -/
def World.others (w : World) :
    (ℕ → Datetime) × ℕ × (ℕ → ℕ) × ℕ × (ℕ → Option String) × ℕ × List Event :=
  (w.clock, w.ticks, w.rng, w.draws, w.faults, w.writes, w.events)

/-- INTERNAL: **worlds alike outside the grant entries and the catalog** are one world with
the other's entries and catalog put in. -/
theorem World.eq_of_others {w₁ w₂ : World} (h : w₁.others = w₂.others) :
    w₂ = { w₁ with store := w₂.store, catalog := w₂.catalog } := by
  cases w₁; cases w₂; simp_all [World.others]

namespace Txn

variable {α β γ δ : Type}

/-- Two outcomes alike: the same error, or values related by `S`. -/
def OutcomeRel (S : α → β → Prop) : Except Error α → Except Error β → Prop
  | .error e₁, .error e₂ => e₁ = e₂
  | .ok a, .ok b => S a b
  | _, _ => False

/-- INTERNAL: an outcome is alike itself. -/
theorem OutcomeRel.refl (x : Except Error α) : OutcomeRel Eq x x := by
  cases x <;> rfl

/-- INTERNAL: outcomes alike up to `S` are alike up to any relation `S` implies. -/
theorem OutcomeRel.mono {S S' : α → β → Prop} (hS : ∀ a b, S a b → S' a b) :
    ∀ {x : Except Error α} {y : Except Error β}, OutcomeRel S x y → OutcomeRel S' x y
  | .error _, .error _, h => h
  | .ok _, .ok _, h => hS _ _ h
  | .ok _, .error _, h => h.elim
  | .error _, .ok _, h => h.elim

/-- INTERNAL: outcomes alike up to equality are equal. -/
theorem OutcomeRel.eq {x y : Except Error α} (h : OutcomeRel Eq x y) : x = y := by
  cases x <;> cases y <;> first | exact h.elim | exact congrArg _ h

/-- From `R`-related worlds, `m₁` and `m₂` end in `R`-related worlds with outcomes alike up
to `S`. -/
def Rel (R : World → World → Prop) (S : α → β → Prop) (m₁ : Txn α) (m₂ : Txn β) : Prop :=
  ∀ w₁ w₂, R w₁ w₂ → OutcomeRel S (m₁ w₁).1 (m₂ w₂).1 ∧ R (m₁ w₁).2 (m₂ w₂).2

/-- INTERNAL: a loop turn's related results, put before related results, are related. -/
theorem forall₂_toList_append {S : α → β → Prop} {r₁ : Option α} {r₂ : Option β}
    {rs₁ : List α} {rs₂ : List β} (hr : Option.Rel S r₁ r₂) (hrs : List.Forall₂ S rs₁ rs₂) :
    List.Forall₂ S (r₁.toList ++ rs₁) (r₂.toList ++ rs₂) := by
  cases hr with
  | some h => exact .cons h hrs
  | none => exact hrs

/-- INTERNAL: lists related element by element by equality are equal. -/
theorem forall₂_eq_of {l₁ l₂ : List α} (h : List.Forall₂ Eq l₁ l₂) : l₁ = l₂ := by
  induction h with
  | nil => rfl
  | cons h _ ih => rw [h, ih]

/-- INTERNAL: equal optional results are related by equality. -/
theorem optionRel_of_eq {x y : Option α} (h : x = y) : Option.Rel Eq x y := by
  subst h; cases x
  · exact .none
  · exact .some rfl

namespace Rel

variable {R : World → World → Prop}

/-- INTERNAL: returning related values, with no other effect. -/
theorem pure {S : α → β → Prop} {a : α} {b : β} (h : S a b) :
    Rel R S (Pure.pure a : Txn α) (Pure.pure b : Txn β) := fun _ _ hw => ⟨h, hw⟩

/-- INTERNAL: failing with one error in both runs. -/
theorem fail {S : α → β → Prop} (e : Error) : Rel R S (Txn.fail e : Txn α) (Txn.fail e : Txn β) :=
  fun _ _ hw => ⟨rfl, hw⟩

/-- The same computation of the session in both runs, with what it returned. -/
theorem lift (x : Except Error α) :
    Rel R (fun a b => a = b ∧ x = .ok a) (Txn.lift x) (Txn.lift x) := fun _ _ hw =>
  ⟨by cases x <;> simp [OutcomeRel], hw⟩

/-- Checks of conditions that hold together, with the fact that they held. -/
theorem ensure {c₁ c₂ : Prop} [Decidable c₁] [Decidable c₂] (h : c₁ ↔ c₂) (e : Error) :
    Rel R (fun _ _ => c₁) (Txn.ensure c₁ e) (Txn.ensure c₂ e) := fun _ _ hw => by
  unfold Txn.ensure
  by_cases hc : c₁
  · simp only [hc, h.mp hc, if_true, pure_apply]; exact ⟨trivial, hw⟩
  · simp only [hc, mt h.mpr hc, if_false, fail_apply]; exact ⟨rfl, hw⟩

/-- **Sequencing**: alike first steps, then alike rests from related values. -/
theorem bind {S : α → β → Prop} {T : γ → δ → Prop} {m₁ : Txn α} {m₂ : Txn β}
    {f₁ : α → Txn γ} {f₂ : β → Txn δ} (hm : Rel R S m₁ m₂)
    (hf : ∀ a b, S a b → Rel R T (f₁ a) (f₂ b)) : Rel R T (m₁ >>= f₁) (m₂ >>= f₂) :=
  fun w₁ w₂ hw => by
    have h := hm w₁ w₂ hw
    revert h
    rw [bind_apply, bind_apply]
    rcases m₁ w₁ with ⟨_ | a, w₁'⟩ <;> rcases m₂ w₂ with ⟨_ | b, w₂'⟩ <;> intro h
    · exact h
    · exact h.1.elim
    · exact h.1.elim
    · exact hf a b h.1 w₁' w₂' h.2

/-- **A loop over related lists** keeps, in order, related values of its bodies. -/
theorem collect {S : α → β → Prop} {T : γ → δ → Prop} {body₁ : α → Txn (Option γ)}
    {body₂ : β → Txn (Option δ)} (hb : ∀ a b, S a b → Rel R (Option.Rel T) (body₁ a) (body₂ b))
    {l₁ : List α} {l₂ : List β} (hl : List.Forall₂ S l₁ l₂) :
    Rel R (List.Forall₂ T) (Txn.collect body₁ l₁) (Txn.collect body₂ l₂) := by
  induction hl with
  | nil => exact Rel.pure .nil
  | cons h _ ih =>
    exact bind (hb _ _ h) fun _ _ hr => bind ih fun _ _ hrs => Rel.pure (forall₂_toList_append hr hrs)

/-- A loop run alike element by element. -/
theorem collect_eq {body₁ body₂ : α → Txn (Option β)} (hb : ∀ a, Rel R Eq (body₁ a) (body₂ a))
    (l : List α) : Rel R Eq (Txn.collect body₁ l) (Txn.collect body₂ l) := by
  induction l with
  | nil => exact Rel.pure rfl
  | cons a l ih =>
    exact bind (hb a) fun _ _ h => bind ih fun _ _ h' => Rel.pure (by rw [h, h'])

/-- INTERNAL: catching the outcomes of alike steps gives alike values. -/
theorem attempt {S : α → β → Prop} {m₁ : Txn α} {m₂ : Txn β} (h : Rel R S m₁ m₂) :
    Rel R (OutcomeRel S) (Txn.attempt m₁) (Txn.attempt m₂) := h

/-- INTERNAL: alike steps stay alike up to any relation their values' relation implies. -/
theorem mono {S S' : α → β → Prop} (hS : ∀ a b, S a b → S' a b) {m₁ : Txn α} {m₂ : Txn β}
    (h : Rel R S m₁ m₂) : Rel R S' m₁ m₂ := fun w₁ w₂ hw =>
  ⟨OutcomeRel.mono hS (h w₁ w₂ hw).1, (h w₁ w₂ hw).2⟩

/-- **What the first run returned** can be carried along with the relation. -/
theorem post {S : α → β → Prop} {P : α → Prop} {m₁ : Txn α} {m₂ : Txn β} (h : Rel R S m₁ m₂)
    (hP : ∀ w a w', m₁ w = (.ok a, w') → P a) : Rel R (fun a b => S a b ∧ P a) m₁ m₂ :=
  fun w₁ w₂ hw => by
    have h' := h w₁ w₂ hw
    have hP' := hP w₁
    revert h' hP'
    rcases m₁ w₁ with ⟨_ | a, w₁'⟩ <;> rcases m₂ w₂ with ⟨_ | b, w₂'⟩ <;> intro h' hP'
    · exact h'
    · exact h'.1.elim
    · exact h'.1.elim
    · exact ⟨⟨h'.1, hP' a w₁' rfl⟩, h'.2⟩

end Rel

/-! ## Steps blind to the grant entries and the catalog -/

/-- `m` neither reads nor writes the grant entries. -/
def StoreBlind (m : Txn α) : Prop :=
  ∀ w s, m { w with store := s } = ((m w).1, { (m w).2 with store := s }) ∧ (m w).2.store = w.store

/-- `m` neither reads nor writes the grant entries or the catalog. -/
def Local (m : Txn α) : Prop :=
  ∀ w s c, m { w with store := s, catalog := c } = ((m w).1, { (m w).2 with store := s, catalog := c }) ∧
    (m w).2.store = w.store ∧ (m w).2.catalog = w.catalog

/-- INTERNAL: a step blind to the entries and the catalog is blind to the entries. -/
theorem Local.storeBlind {m : Txn α} (h : Local m) : StoreBlind m := fun w s =>
  ⟨by simpa [(h w s w.catalog).2.2] using (h w s w.catalog).1, (h w s w.catalog).2.1⟩

namespace Local

/-- INTERNAL: returning a value touches neither the entries nor the catalog. -/
theorem pure (a : α) : Local (Pure.pure a : Txn α) := fun _ _ _ => ⟨rfl, rfl, rfl⟩

/-- INTERNAL: failing touches neither the entries nor the catalog. -/
theorem fail (e : Error) : Local (Txn.fail e : Txn α) := fun _ _ _ => ⟨rfl, rfl, rfl⟩

/-- INTERNAL: lifting a computed outcome touches neither the entries nor the catalog. -/
theorem lift (x : Except Error α) : Local (Txn.lift x) := fun _ _ _ => ⟨rfl, rfl, rfl⟩

/-- INTERNAL: a check touches neither the entries nor the catalog. -/
theorem ensure (c : Prop) [Decidable c] (e : Error) : Local (Txn.ensure c e) := by
  unfold Txn.ensure; split_ifs
  · exact Local.pure ()
  · exact Local.fail e

/-- INTERNAL: a sequence of steps that touch neither the entries nor the catalog touches
neither. -/
theorem bind {m : Txn α} {f : α → Txn β} (hm : Local m) (hf : ∀ a, Local (f a)) :
    Local (m >>= f) := fun w s c => by
  obtain ⟨h₁, h₂, h₃⟩ := hm w s c
  simp only [bind_apply, h₁]
  revert h₂ h₃
  rcases m w with ⟨_ | a, w'⟩ <;> intro h₂ h₃
  · exact ⟨rfl, h₂, h₃⟩
  · obtain ⟨h₄, h₅, h₆⟩ := hf a w' s c
    exact ⟨h₄, h₅.trans h₂, h₆.trans h₃⟩

/-- INTERNAL: a loop whose body touches neither the entries nor the catalog touches neither. -/
theorem collect {body : α → Txn (Option β)} (hb : ∀ a, Local (body a)) (l : List α) :
    Local (Txn.collect body l) := by
  induction l with
  | nil => exact Local.pure _
  | cons a l ih => exact Local.bind (hb a) fun _ => Local.bind ih fun _ => Local.pure _

end Local

namespace StoreBlind

/-- INTERNAL: a sequence of steps blind to the entries is blind to them. -/
theorem bind {m : Txn α} {f : α → Txn β} (hm : StoreBlind m) (hf : ∀ a, StoreBlind (f a)) :
    StoreBlind (m >>= f) := fun w s => by
  obtain ⟨h₁, h₂⟩ := hm w s
  simp only [bind_apply, h₁]
  revert h₂
  rcases m w with ⟨_ | a, w'⟩ <;> intro h₂
  · exact ⟨rfl, h₂⟩
  · obtain ⟨h₃, h₄⟩ := hf a w' s
    exact ⟨h₃, h₄.trans h₂⟩

end StoreBlind

/-- INTERNAL: reading the clock touches neither the entries nor the catalog. -/
theorem now_local : Local now := fun _ _ _ => ⟨rfl, rfl, rfl⟩

/-- INTERNAL: the store's answer to a write touches neither the entries nor the catalog. -/
theorem storeWrite_local : Local storeWrite := fun _ _ _ => ⟨rfl, rfl, rfl⟩

/-- INTERNAL: emitting an event touches neither the entries nor the catalog. -/
theorem emit_local (e : Event) : Local (emit e) := fun _ _ _ => ⟨rfl, rfl, rfl⟩

/-- INTERNAL: drawing a random string touches neither the entries nor the catalog. -/
theorem randomString_local (length : ℕ) (pool : List Char) : Local (randomString length pool) :=
  fun _ _ _ => ⟨rfl, rfl, rfl⟩

/-- INTERNAL: evaluating a grant's condition touches neither the entries nor the catalog.
SOURCE: access.rs:603-623 -/
theorem matchesCond_local (cond : Option Cond) (gr : AccessGrant) : Local (matchesCond cond gr) := by
  cases cond with
  | none => exact Local.pure _
  | some c => exact Local.bind (emit_local _) fun _ => Local.lift _

/-- INTERNAL: the audit event touches neither the entries nor the catalog. -/
theorem audit_local (verb : String) (gr : AccessGrant) (opt : Options) : Local (audit verb gr opt) :=
  emit_local _

/-- INTERNAL: minting a bearer key touches neither the entries nor the catalog.
SOURCE: access.rs:262-274 -/
theorem new_local (pfx : String) : Local (GrantBearer.new pfx) :=
  Local.bind (randomString_local _ _) fun _ => Local.bind (randomString_local _ _) fun _ =>
    Local.bind (randomString_local _ _) fun _ => Local.pure _

/-- INTERNAL: minting a grant touches neither the entries nor the catalog.
SOURCE: access.rs:354-371, 448-465 -/
theorem mintGrant_local (ac : DefineAccess) (subject : Subject) (pfx : String) :
    Local (mintGrant ac subject pfx) := by
  unfold mintGrant
  refine Local.bind (new_local _) fun _ => Local.bind now_local fun _ => ?_
  dsimp only
  split
  · exact Local.bind now_local fun _ => Local.bind (Local.pure _) fun _ => Local.pure _
  · exact Local.bind (Local.pure _) fun _ => Local.pure _

/-- INTERNAL: showing one grant touches neither the entries nor the catalog.
SOURCE: access.rs:602-629 -/
theorem showOne_local (cond : Option Cond) (gr : AccessGrant) : Local (showOne cond gr) :=
  Local.bind (matchesCond_local _ _) fun keep => by cases keep <;> exact Local.pure _

/-- INTERNAL: reading an access method is blind to the entries. -/
theorem getAccess_storeBlind (l : Level) (ac : String) : StoreBlind (getAccess l ac) := fun w s => by
  simp only [getAccess]; cases w.catalog.access l ac <;> exact ⟨rfl, rfl⟩

/-- INTERNAL: ensuring a namespace is blind to the entries. -/
theorem getOrAddNs_storeBlind (ns : String) (strict : Bool) : StoreBlind (getOrAddNs ns strict) :=
  fun w s => by simp only [getOrAddNs]; split_ifs <;> exact ⟨rfl, rfl⟩

/-- INTERNAL: ensuring a database is blind to the entries. -/
theorem getOrAddDb_storeBlind (ns db : String) (strict : Bool) :
    StoreBlind (getOrAddDb ns db strict) :=
  fun w s => by simp only [getOrAddDb]; split_ifs <;> exact ⟨rfl, rfl⟩

/-- INTERNAL: ensuring a level is blind to the entries. -/
theorem ensureLevel_storeBlind (l : Level) (strict : Bool) : StoreBlind (ensureLevel l strict) := by
  cases l with
  | root => exact (Local.pure ()).storeBlind
  | ns ns => exact getOrAddNs_storeBlind ns strict
  | db ns db => exact StoreBlind.bind (getOrAddNs_storeBlind ns strict) fun _ =>
      getOrAddDb_storeBlind ns db strict

/-- INTERNAL: opening a statement's access method is blind to the entries.
SOURCE: access.rs:309-333 -/
theorem openAccess_storeBlind (act : Action) (base? : Option Base) (ac : String) (opt : Options) :
    StoreBlind (openAccess act base? ac opt) :=
  StoreBlind.bind (Local.lift _).storeBlind fun _ => StoreBlind.bind (Local.lift _).storeBlind fun _ =>
    StoreBlind.bind (Local.lift _).storeBlind fun l => StoreBlind.bind (getAccess_storeBlind l ac) fun _ =>
      (Local.pure _).storeBlind

end Txn

end AccessGrants

import Mathlib.Data.List.Nodup
import AccessGrants.Model.Token

/-!
# The owned and the borrowed claims conversions agree

`From<Claims> for Value` runs on a clone of the claims, whose custom-claims `HashMap` may
visit its entries in another order than the original's; `From<&Claims> for Value` runs on
the original. Both insert the same standard claims under the same keys, and the custom
loop's object does not depend on the order its claims come in: two `BTreeMap` inserts of
distinct keys commute, and a `HashMap` has no key twice. So the two conversions give the
same value for every claims value, whatever the custom claims and however their names meet
the standard output keys.
-/

set_option autoImplicit false

namespace AccessGrants.Analysis

open AccessGrants
open AccessGrants.Object (insert_nil insert_cons_of_lt insert_cons_of_gt insert_cons_self)

/-- INTERNAL: **two inserts of distinct keys commute**: each lands at its own key's place in
the key order, whatever the fields already there.
SOURCE: token.rs:76-156 -/
theorem Object.insert_comm {k₁ k₂ : String} (h : k₁ ≠ k₂) (v₁ v₂ : Value)
    (fs : List (String × Value)) :
    Object.insert k₁ v₁ (Object.insert k₂ v₂ fs) =
      Object.insert k₂ v₂ (Object.insert k₁ v₁ fs) := by
  wlog h₁₂ : k₁ < k₂ generalizing k₁ k₂ v₁ v₂
  · exact (this h.symm v₂ v₁ (lt_of_le_of_ne (not_lt.mp h₁₂) h.symm)).symm
  induction fs with
  | nil => simp only [insert_nil, insert_cons_of_lt h₁₂, insert_cons_of_gt h₁₂]
  | cons f fs ih =>
    obtain ⟨k, v⟩ := f
    rcases lt_trichotomy k₁ k with h₁ | rfl | h₁
    · rcases lt_trichotomy k₂ k with h₂ | rfl | h₂
      · simp only [insert_cons_of_lt h₂, insert_cons_of_lt h₁, insert_cons_of_lt h₁₂,
          insert_cons_of_gt h₁₂]
      · simp only [insert_cons_self, insert_cons_of_lt h₁₂, insert_cons_of_gt h₁₂]
      · simp only [insert_cons_of_gt h₂, insert_cons_of_lt h₁, insert_cons_of_gt h₁₂]
    · simp only [insert_cons_of_gt h₁₂, insert_cons_self]
    · simp only [insert_cons_of_gt h₁, insert_cons_of_gt (h₁.trans h₁₂), ih]

/-- INTERNAL: **two standard-claim inserts of distinct keys commute**. -/
theorem Object.insertSome_comm {x y : String × Option Value} (h : x.1 ≠ y.1)
    (out : List (String × Value)) :
    Object.insertSome (Object.insertSome out x) y =
      Object.insertSome (Object.insertSome out y) x := by
  rcases x with ⟨k₁, _ | v₁⟩ <;> rcases y with ⟨k₂, _ | v₂⟩ <;> try rfl
  exact (Object.insert_comm h v₁ v₂ out).symm

/-- INTERNAL: a lookup finds the head's value at the head's key, and looks on otherwise. -/
theorem lookup_cons_eq_ite {α : Type} (k j : String) (b : α) (es : List (String × α)) :
    ((k, b) :: es).lookup j = if j = k then some b else es.lookup j := by
  rw [List.lookup_cons]
  by_cases hj : j = k
  · simp [hj]
  · rw [beq_eq_false_iff_ne.mpr hj, if_neg hj]

/-- INTERNAL: a lookup of a key no entry has finds nothing. -/
theorem lookup_eq_none_of_not_mem {α : Type} {j : String} {es : List (String × α)}
    (h : j ∉ es.map Prod.fst) : es.lookup j = none :=
  List.lookup_eq_none_iff.mpr fun p hp => by
    simpa using fun hj => h (List.mem_map.mpr ⟨p, hp, hj.symm⟩)

/-- INTERNAL: **an insert sets its key and keeps every other key's value**. -/
theorem Object.lookup_insert (k : String) (v : Value) (fs : List (String × Value))
    (j : String) : (Object.insert k v fs).lookup j = if j = k then some v else fs.lookup j := by
  induction fs with
  | nil => simp [lookup_cons_eq_ite]
  | cons f fs ih =>
    obtain ⟨k', v'⟩ := f
    rcases lt_trichotomy k k' with h | rfl | h
    · rw [insert_cons_of_lt h, lookup_cons_eq_ite]
    · by_cases hj : j = k <;> simp [lookup_cons_eq_ite, hj]
    · rw [insert_cons_of_gt h, lookup_cons_eq_ite, lookup_cons_eq_ite, ih]
      by_cases hj : j = k' <;> simp [hj, h.ne]

/-- INTERNAL: a field of an object after an insert is the inserted one or was there. -/
theorem Object.mem_insert {k : String} {v : Value} {fs : List (String × Value)}
    {p : String × Value} (hp : p ∈ Object.insert k v fs) : p = (k, v) ∨ p ∈ fs := by
  induction fs with
  | nil => simpa using hp
  | cons f fs ih =>
    obtain ⟨k', v'⟩ := f
    rcases lt_trichotomy k k' with h | rfl | h
    · simpa [insert_cons_of_lt h] using hp
    · simp only [insert_cons_self, List.mem_cons] at hp
      exact hp.imp_right (List.mem_cons_of_mem _)
    · simp only [insert_cons_of_gt h, List.mem_cons] at hp
      rcases hp with rfl | hp
      · exact .inr (List.mem_cons_self _ _)
      · exact (ih hp).imp_right (List.mem_cons_of_mem _)

/-- INTERNAL: **an insert keeps the keys strictly ascending**, the order a `BTreeMap`
iterates in. -/
theorem Object.pairwise_insert (k : String) (v : Value) {fs : List (String × Value)}
    (h : fs.Pairwise (fun a b => a.1 < b.1)) :
    (Object.insert k v fs).Pairwise (fun a b => a.1 < b.1) := by
  induction fs with
  | nil => simp
  | cons f fs ih =>
    obtain ⟨k', v'⟩ := f
    obtain ⟨hk', hfs⟩ := List.pairwise_cons.mp h
    rcases lt_trichotomy k k' with hlt | rfl | hgt
    · rw [insert_cons_of_lt hlt]
      exact h.cons fun p hp => (List.mem_cons.mp hp).elim (· ▸ hlt) (hlt.trans <| hk' p ·)
    · exact (insert_cons_self k v v' fs) ▸ hfs.cons hk'
    · rw [insert_cons_of_gt hgt]
      exact (ih hfs).cons fun p hp => (Object.mem_insert hp).elim (· ▸ hgt) (hk' p)

/-- INTERNAL: **a loop of standard-claim inserts**, each entry's value given by `g`: at every
key, the value of the entry of that name when it is set, else what was there.
SOURCE: token.rs:80-153 -/
theorem lookup_foldl_insertSome {α : Type} (g : α → Option Value) (l : List (String × α))
    (hkeys : (l.map Prod.fst).Nodup) (out : List (String × Value)) (j : String) :
    (l.foldl (fun out e => Object.insertSome out (e.1, g e.2)) out).lookup j =
      ((l.lookup j).bind g).or (out.lookup j) := by
  induction l generalizing out with
  | nil => simp
  | cons e l ih =>
    obtain ⟨k, a⟩ := e
    obtain ⟨hk, hl⟩ := List.nodup_cons.mp hkeys
    rw [List.foldl_cons, ih hl, lookup_cons_eq_ite]
    by_cases hj : j = k
    · subst hj
      cases hg : g a <;>
        simp [Object.insertSome, Object.lookup_insert, lookup_eq_none_of_not_mem hk, hg]
    · cases g a <;> simp [Object.insertSome, Object.lookup_insert, hj]

/-- INTERNAL: **inserting standard or custom claims keeps the keys ascending.**
SOURCE: token.rs:80-153 -/
theorem pairwise_foldl_insertSome {α : Type} (g : α → Option Value) (l : List (String × α))
    {out : List (String × Value)} (h : out.Pairwise (fun a b => a.1 < b.1)) :
    (l.foldl (fun out e => Object.insertSome out (e.1, g e.2)) out).Pairwise
      (fun a b => a.1 < b.1) := by
  induction l generalizing out with
  | nil => exact h
  | cons e l ih =>
    refine ih ?_
    dsimp only
    cases g e.2 with
    | none => exact h
    | some v => exact Object.pairwise_insert _ v h

section Conversion

variable {Json : Type} (toString : Json → Except String String)
  (json : String → Except String Value)

/-- INTERNAL: **a custom claim is a standard-claim insert** of the value its JSON converts
to, under its name; none when serializing or parsing fails.
SOURCE: token.rs:133-151 -/
theorem insertCustom_eq (out : List (String × Value)) (claim : String × Json) :
    insertCustom toString json out claim =
      Object.insertSome out (claim.1, ((toString claim.2).bind json).toOption) := by
  unfold insertCustom
  cases toString claim.2 with
  | error => rfl
  | ok s =>
    dsimp only
    show _ = Object.insertSome out (claim.1, (json s).toOption)
    cases json s <;> rfl

/-- INTERNAL: **the custom-claims loop ignores the iteration order**: any order of a map's
entries gives the same object, as no two of them share a name.
SOURCE: token.rs:131-153 -/
theorem foldl_insertCustom_perm {l₁ l₂ : List (String × Json)} (hp : List.Perm l₁ l₂)
    (hkeys : (l₁.map Prod.fst).Nodup) (out : List (String × Value)) :
    l₁.foldl (insertCustom toString json) out = l₂.foldl (insertCustom toString json) out := by
  refine hp.foldl_eq' (fun x hx y hy z => ?_) out
  by_cases hxy : x.1 = y.1
  · rw [List.inj_on_of_nodup_map hkeys hx hy hxy]
  · simp only [insertCustom_eq]
    exact Object.insertSome_comm hxy _

/-- INTERNAL: **the shared body gives one value for any clone of the custom claims**.
SOURCE: token.rs:76-156 -/
theorem claimsValue_of_clone (standard : List (String × Option Value))
    {m m' : Option (ClaimMap Json)} (h : Option.Rel ClaimMap.IsClone m m') :
    claimsValue toString json standard m' = claimsValue toString json standard m := by
  cases h with
  | none => rfl
  | @some m m' h =>
    simp only [claimsValue]
    rw [foldl_insertCustom_perm toString json h.symm
      ((h.symm.map Prod.fst).nodup_iff.mpr m.nodup)]

/-- INTERNAL: **what the shared body shows**, given standard claims under distinct output
keys: an object whose keys ascend, holding at every key the custom claim of that name when
its JSON converts, else the standard claim with that output key when it is set.
SOURCE: token.rs:76-156 -/
theorem claimsValue_spec (standard : List (String × Option Value))
    (hstd : (standard.map Prod.fst).Nodup) (custom : Option (ClaimMap Json)) :
    ∃ fs, claimsValue toString json standard custom = .object fs ∧
      fs.Pairwise (fun a b => a.1 < b.1) ∧
      ∀ j, fs.lookup j =
        ((custom.bind fun m => m.entries.lookup j).bind
          fun x => ((toString x).bind json).toOption).or (standard.lookup j).join := by
  let convert := fun x => ((toString x).bind json).toOption
  have hloop : insertCustom toString json =
      fun out e => Object.insertSome out (e.1, convert e.2) :=
    funext₂ (insertCustom_eq toString json)
  have hstd' : ∀ j, (standard.foldl Object.insertSome []).lookup j = (standard.lookup j).join :=
    fun j => by simpa [Option.bind_id_eq_join] using lookup_foldl_insertSome id standard hstd [] j
  have hsorted : (standard.foldl Object.insertSome []).Pairwise (fun a b => a.1 < b.1) := by
    simpa using pairwise_foldl_insertSome id standard List.Pairwise.nil
  refine ⟨_, rfl, ?_, fun j => ?_⟩
  · cases custom with
    | none => exact hsorted
    | some m => simpa only [hloop] using pairwise_foldl_insertSome convert m.entries hsorted
  · cases custom with
    | none => simpa using hstd' j
    | some m =>
      simp only [hloop, Option.some_bind]
      rw [lookup_foldl_insertSome convert _ m.nodup, hstd']

/-- The owned conversion of a clone of the claims and the borrowed conversion of the claims
give the same value, for every claims value and every way serializing and parsing a custom
claim can turn out. -/
theorem into_of_clone_eq_intoRef (c c' : Claims Json) (hc : c.IsClone c') :
    c'.into toString json = c.intoRef toString json := by
  obtain ⟨m, hm, rfl⟩ := hc
  exact claimsValue_of_clone toString json _ hm

/-- **What a token's claims are shown as.** For every claims value, the borrowed conversion
is an object whose keys ascend, holding under each key the custom claim of that name when its
JSON serializes and parses back, and otherwise the standard claim with that output key when
it is set. So a custom claim named as a standard output key (`NS`, `DB`, `AC`, `ID`, `RL`,
...) replaces the standard claim in the value, and one that fails to convert is dropped,
leaving the standard claim. -/
theorem intoRef_fields (c : Claims Json) :
    ∃ fs, c.intoRef toString json = .object fs ∧ fs.Pairwise (fun a b => a.1 < b.1) ∧
      ∀ j, fs.lookup j = ((c.customClaims.bind fun m => m.entries.lookup j).bind
        fun x => ((toString x).bind json).toOption).or (c.standardFields.lookup j).join :=
  claimsValue_spec toString json c.standardFields
    (by simp only [Claims.standardFields, List.map_cons, List.map_nil]; decide) c.customClaims

end Conversion

/-- Claims with a custom claim named as the standard `iss` claim's output key. -/
def collidingClaims : Claims String :=
  { iss := some "issuer", iat := some 7, roles := some ["viewer"],
    customClaims := some ⟨[("iss", "\"custom\""), ("tier", "2")], by decide⟩ }

/-- A clone of `collidingClaims` whose custom claims iterate the other way round. -/
def collidingClone : Claims String :=
  { collidingClaims with
    customClaims := some ⟨[("tier", "2"), ("iss", "\"custom\"")], by decide⟩ }

/-- The claims with a custom `iss` claim and a clone whose custom claims iterate the other way
round are converted alike. -/
theorem colliding_clone_converts_alike :
    collidingClaims.IsClone collidingClone ∧
      collidingClone.into (fun s => .ok s) (fun s => .ok (.strand s)) =
        collidingClaims.intoRef (fun s => .ok s) (fun s => .ok (.strand s)) :=
  have h : collidingClaims.IsClone collidingClone :=
    ⟨collidingClone.customClaims, .some (List.Perm.swap _ _ _), rfl⟩
  ⟨h, into_of_clone_eq_intoRef _ _ _ _ h⟩

end AccessGrants.Analysis

import Mathlib.Data.List.Nodup
import RollPad.Settings.Binding

/-!
Bindings as maps, and what is relied on of a loader. A load extends the environment by a map from
names to values: it gets to the end exactly if what is missing can be set, and no variable that is
set changes (`NameTable.setMissing_cases`, `NameTable.get?_setMissing_of_get?`). `Loader.Follows`
says of a loader that it reads files as such maps, in which the environment decides about values but
not about names. The loader for files of `NAME=value` lines is of this kind
(`EnvFile.loader_follows`).
-/

namespace RollPad

/-! ### Bindings as a map -/

namespace Bindings

/-- The value of a name, if it is bound to one. -/
def value? (bs : Bindings) (name : String) : Option String :=
  (bs.lookup name).join

theorem lookup_cons (bs : Bindings) (name other : String) (value : Option String) :
    List.lookup other ((name, value) :: bs) =
      if name = other then some value else bs.lookup other := by
  rw [List.lookup_cons]
  by_cases h : name = other
  · rw [if_pos h, h, BEq.rfl]
  · rw [if_neg h, beq_eq_false_iff_ne.2 (Ne.symm h)]

theorem value?_cons (bs : Bindings) (name other : String) (value : Option String) :
    value? ((name, value) :: bs) other = if name = other then value else bs.value? other := by
  rw [value?, lookup_cons]
  split <;> rfl

theorem any_eq_true_iff_mem {bs : Bindings} {name : String} :
    bs.any (·.1 == name) = true ↔ name ∈ bs.map Prod.fst := by
  rw [List.any_eq_true, List.mem_map]
  simp only [beq_iff_eq]

theorem isSome_lookup_of_mem {bs : Bindings} {name : String} (h : name ∈ bs.map Prod.fst) :
    (bs.lookup name).isSome = true := by
  obtain ⟨b, hb, rfl⟩ := List.mem_map.1 h
  exact List.lookup_isSome_iff.2 ⟨b, hb, BEq.rfl⟩

theorem lookup_of_not_mem {bs : Bindings} {name : String} (h : name ∉ bs.map Prod.fst) :
    bs.lookup name = none := by
  refine List.lookup_eq_none_iff.2 fun b hb => bne_iff_ne.2 ?_
  rintro rfl
  exact h (List.mem_map_of_mem hb)

theorem value?_of_not_mem {bs : Bindings} {name : String} (h : name ∉ bs.map Prod.fst) :
    bs.value? name = none := by
  rw [value?, lookup_of_not_mem h]
  rfl

/-- Two bindings of the same names, with values for the same of them. -/
def SameNames (bs₁ bs₂ : Bindings) : Prop :=
  ∀ name, (bs₁.lookup name).map Option.isSome = (bs₂.lookup name).map Option.isSome

theorem SameNames.isSome_value? {bs₁ bs₂ : Bindings} (h : SameNames bs₁ bs₂) (name : String) :
    (bs₁.value? name).isSome = (bs₂.value? name).isSome := by
  have hname := h name
  rw [value?, value?]
  rcases h₁ : bs₁.lookup name with _ | v₁ <;> rcases h₂ : bs₂.lookup name with _ | v₂
  · rfl
  · rw [h₁, h₂] at hname
    cases hname
  · rw [h₁, h₂] at hname
    cases hname
  · rw [h₁, h₂] at hname
    exact Option.some.inj hname

end Bindings

/-! ### Extending an environment -/

namespace NameTable

/-- What is bound to names that the table does not have can be set. -/
def CanExtend (t : NameTable) (bs : Bindings) : Prop :=
  ∀ name value, bs.value? name = some value → t.get? name = none →
    VariableError.of? name value = none

theorem contains_eq_false_iff {t : NameTable} {name : String} :
    t.contains name = false ↔ t.get? name = none := by
  rw [contains, Option.isSome_eq_false_iff, Option.isNone_iff_eq_none]

theorem value?_cons_none {bs : Bindings} {name : String} (h : name ∉ bs.map Prod.fst) :
    Bindings.value? ((name, none) :: bs) = bs.value? := by
  funext other
  rw [Bindings.value?_cons]
  split
  · next heq => rw [← heq, Bindings.value?_of_not_mem h]
  · rfl

theorem canExtend_cons_of_contains {t : NameTable} {bs : Bindings} {name value : String}
    (hset : t.contains name = true) :
    t.CanExtend ((name, some value) :: bs) ↔ t.CanExtend bs := by
  have hother : ∀ other, t.get? other = none → name ≠ other := by
    rintro other hunset rfl
    exact absurd hset (by simp [contains, hunset])
  refine forall₂_congr fun other v => ?_
  rw [Bindings.value?_cons]
  constructor
  · intro h hv hunset
    exact h (by rwa [if_neg (hother other hunset)]) hunset
  · intro h hv hunset
    exact h (by rwa [if_neg (hother other hunset)] at hv) hunset

theorem canExtend_cons_of_settable {t : NameTable} {bs : Bindings} {name value : String}
    (hkey : name ∉ bs.map Prod.fst) (hvalue : VariableError.of? name value = none) :
    t.CanExtend ((name, some value) :: bs) ↔ (t.insert name value).CanExtend bs := by
  refine forall₂_congr fun other v => ?_
  rw [Bindings.value?_cons, get?_insert]
  by_cases h : name = other
  · subst h
    rw [if_pos rfl, if_pos rfl, Bindings.value?_of_not_mem hkey]
    refine iff_of_true ?_ nofun
    rintro heq -
    rwa [← Option.some.inj heq]
  · rw [if_neg h, if_neg h]

theorem get?_or_cons_of_contains {t : NameTable} {name : String} (bs : Bindings) (value : String)
    (hset : t.contains name = true) (other : String) :
    (t.get? other).or (Bindings.value? ((name, some value) :: bs) other) =
      (t.get? other).or (bs.value? other) := by
  rw [Bindings.value?_cons]
  split
  · next heq =>
    obtain ⟨text, htext⟩ := Option.isSome_iff_exists.1 hset
    rw [← heq, htext, Option.some_or, Option.some_or]
  · rfl

theorem get?_or_cons_of_unset {t : NameTable} {name : String} (bs : Bindings) (value : String)
    (hunset : t.get? name = none) (other : String) :
    (t.get? other).or (Bindings.value? ((name, some value) :: bs) other) =
      ((t.insert name value).get? other).or (bs.value? other) := by
  rw [get?_insert, Bindings.value?_cons]
  split
  · next heq => rw [← heq, hunset, Option.some_or, Option.none_or]
  · rfl

/-- A load that gets to the end has extended the table by what is bound; one that does not has come
to what cannot be set. -/
theorem setMissing_cases {bs : Bindings} (hbs : (bs.map Prod.fst).Nodup) (t : NameTable) :
    (∃ t', t.setMissing bs = (.ok (), t') ∧ t.CanExtend bs ∧
        ∀ name, t'.get? name = (t.get? name).or (bs.value? name)) ∨
      ∃ e t', t.setMissing bs = (.error e, t') ∧ ¬t.CanExtend bs := by
  induction bs generalizing t with
  | nil =>
    exact .inl ⟨t, rfl, nofun, fun name => Option.or_none.symm⟩
  | cons b bs ih =>
    obtain ⟨hkey, hrest⟩ := List.nodup_cons.1 hbs
    obtain ⟨name, _ | value⟩ := b
    · rw [setMissing, CanExtend, value?_cons_none hkey]
      exact ih hrest t
    · rw [setMissing]
      cases hset : t.contains name with
      | true =>
        simp only [if_true, canExtend_cons_of_contains hset, get?_or_cons_of_contains bs value hset]
        exact ih hrest t
      | false =>
        have hunset := contains_eq_false_iff.1 hset
        rw [if_neg Bool.false_ne_true]
        cases he : VariableError.of? name value with
        | some e =>
          refine .inr ⟨e, t, rfl, fun hcan => ?_⟩
          have hnone := hcan name value (by rw [Bindings.value?_cons, if_pos rfl]) hunset
          rw [hnone] at he
          cases he
        | none =>
          simp only [canExtend_cons_of_settable hkey he, get?_or_cons_of_unset bs value hunset]
          exact ih hrest (t.insert name value)

/-- A variable that is set stays as it is, also when a load does not get to the end. -/
theorem get?_setMissing_of_get? {name text : String} (bs : Bindings) {t : NameTable}
    (h : t.get? name = some text) : (t.setMissing bs).2.get? name = some text := by
  induction bs generalizing t with
  | nil => exact h
  | cons b bs ih =>
    obtain ⟨k, _ | value⟩ := b
    · exact ih h
    · rw [setMissing]
      split
      · exact ih h
      · next hset =>
        split
        · exact h
        · refine ih ?_
          rw [get?_insert, if_neg, h]
          rintro rfl
          exact hset (by rw [contains, h, Option.isSome_some])

/-- There is nothing to add where every name with a value is set. -/
theorem setMissing_eq_self {bs : Bindings} (hbs : (bs.map Prod.fst).Nodup) {t : NameTable}
    (hset : ∀ name, (bs.value? name).isSome → (t.get? name).isSome) :
    t.setMissing bs = (.ok (), t) := by
  induction bs with
  | nil => rfl
  | cons b bs ih =>
    obtain ⟨hkey, hrest⟩ := List.nodup_cons.1 hbs
    obtain ⟨name, _ | value⟩ := b
    · rw [value?_cons_none hkey] at hset
      exact ih hrest hset
    · have hname : t.contains name = true := hset name (by
        rw [Bindings.value?_cons, if_pos rfl, Option.isSome_some])
      rw [setMissing, if_pos hname]
      refine ih hrest fun other hother => hset other ?_
      rw [Bindings.value?_cons]
      split
      · rfl
      · exact hother

end NameTable

/-! ### What is relied on -/

/-- A loader that reads files as maps: `isOff` says in which environments it is switched off, and
`reading` what it makes of a file. -/
structure Loader.Follows (loader : Loader) (isOff : NameTable → Bool)
    (reading : NameTable → String → Bindings) : Prop where
  /-- Every name is bound once. -/
  nodup : ∀ environment content, ((reading environment content).map Prod.fst).Nodup
  /-- The environment gives a file values, not names. -/
  names : ∀ e₁ e₂ content name,
    ((reading e₁ content).value? name).isSome = ((reading e₂ content).value? name).isSome
  empty : ∀ environment, reading environment "" = []
  /-- It is variables that switch the loader off. -/
  switch : ∀ e₁ e₂ : NameTable, (∀ name, e₁.get? name = e₂.get? name) → isOff e₁ = isOff e₂
  off : ∀ environment name content, isOff environment = true →
    (loader environment name content).result = .ok () ∧
      (loader environment name content).environment = environment
  /-- There is no file of such a name to look for. -/
  zeroCharacter : ∀ environment name content, isOff environment = false →
    name.toList.contains '\x00' = true →
    (loader environment name content).result = .error .fileName ∧
      (loader environment name content).environment = environment
  /-- What is read is set where it is missing; a file that does not exist says nothing. -/
  load : ∀ environment name content, isOff environment = false →
    name.toList.contains '\x00' = false →
    let after := environment.setMissing (reading environment (content.getD ""))
    (loader environment name content).result = after.1.mapError .binding ∧
      (loader environment name content).environment = after.2

/-! ### The loader of `NAME=value` lines -/

namespace EnvFile

open Bindings

theorem lookup_replace (bs : Bindings) (name other : String) (value : Option String) :
    List.lookup other (bs.map fun b => if b.1 == name then (name, value) else b) =
      if name = other then (bs.lookup other).map fun _ => value else bs.lookup other := by
  induction bs with
  | nil => simp
  | cons b bs ih =>
    obtain ⟨k, v⟩ := b
    rw [List.map_cons, lookup_cons]
    by_cases hk : k = name
    · subst hk
      rw [BEq.rfl, if_pos rfl, lookup_cons, ih]
      split <;> rfl
    · rw [beq_eq_false_iff_ne.2 hk, if_neg Bool.false_ne_true, lookup_cons, ih]
      by_cases ho : k = other
      · rw [if_pos ho, if_pos ho, if_neg (fun h => hk (ho.trans h.symm))]
      · rw [if_neg ho, if_neg ho]

theorem lookup_put (bs : Bindings) (name other : String) (value : Option String) :
    (put bs name value).lookup other = if name = other then some value else bs.lookup other := by
  unfold put
  split
  · next hany =>
    rw [lookup_replace]
    by_cases h : name = other
    · subst h
      have hbound := isSome_lookup_of_mem (any_eq_true_iff_mem.1 hany)
      obtain ⟨v, hv⟩ := Option.isSome_iff_exists.1 hbound
      rw [if_pos rfl, if_pos rfl, hv]
      rfl
    · rw [if_neg h, if_neg h]
  · next hany =>
    rw [List.lookup_append, lookup_cons]
    by_cases h : name = other
    · subst h
      rw [if_pos rfl, if_pos rfl, lookup_of_not_mem (mt any_eq_true_iff_mem.2 hany)]
      rfl
    · rw [if_neg h, if_neg h]
      exact Option.or_none

theorem nodup_put {bs : Bindings} (h : (bs.map Prod.fst).Nodup) (name : String)
    (value : Option String) : ((put bs name value).map Prod.fst).Nodup := by
  unfold put
  split
  · have hkeys : (bs.map fun b => if b.1 == name then (name, value) else b).map Prod.fst =
        bs.map Prod.fst := by
      rw [List.map_map]
      refine List.map_congr_left fun b _ => ?_
      by_cases hb : b.1 = name
      · simp [hb]
      · simp [hb]
    rwa [hkeys]
  · next hany =>
    rw [List.map_append]
    refine List.nodup_append.2 ⟨h, List.nodup_singleton name, ?_⟩
    rintro k hk k' hk' rfl
    obtain rfl : k = name := List.mem_singleton.1 hk'
    exact hany (any_eq_true_iff_mem.2 hk)

theorem sameNames_put {bs₁ bs₂ : Bindings} (h : SameNames bs₁ bs₂) (name : String)
    {value₁ value₂ : Option String} (hvalue : value₁.isSome = value₂.isSome) :
    SameNames (put bs₁ name value₁) (put bs₂ name value₂) := by
  intro other
  rw [lookup_put, lookup_put]
  split
  · rw [Option.map_some, Option.map_some, hvalue]
  · exact h other

theorem sameNames_add {bs₁ bs₂ : Bindings} (h : SameNames bs₁ bs₂) (e₁ e₂ : NameTable)
    (s : Statement) : SameNames (add e₁ bs₁ s) (add e₂ bs₂ s) := by
  cases s with
  | binding name value => exact sameNames_put h name (by simp)
  | fault line => exact h

/-- A file binds every name once. -/
theorem nodup_bindings (environment : NameTable) (content : String) :
    ((bindings environment content).map Prod.fst).Nodup := by
  refine List.foldlRecOn (statements content) _
    (motive := fun bs : Bindings => (bs.map Prod.fst).Nodup) List.nodup_nil fun bs hbs s _ => ?_
  cases s with
  | binding name value => exact nodup_put hbs name _
  | fault line => exact hbs

/-- The environment gives a file values, not names. -/
theorem isSome_value?_bindings (e₁ e₂ : NameTable) (content : String) (name : String) :
    ((bindings e₁ content).value? name).isSome = ((bindings e₂ content).value? name).isSome := by
  have hsame : ∀ (ss : List Statement) {bs₁ bs₂ : Bindings}, SameNames bs₁ bs₂ →
      SameNames (ss.foldl (add e₁) bs₁) (ss.foldl (add e₂) bs₂) := by
    intro ss
    induction ss with
    | nil => exact fun h => h
    | cons s ss ih => exact fun h => ih (sameNames_add h e₁ e₂ s)
  exact (hsame (statements content) fun _ => rfl).isSome_value? name

/-- The loader reads a file as its bindings. -/
theorem loader_follows : loader.Follows isSwitchedOff bindings where
  nodup := nodup_bindings
  names := isSome_value?_bindings
  empty _ := rfl
  switch e₁ e₂ h := by rw [isSwitchedOff, isSwitchedOff, h]
  off environment name content hoff := by
    rw [loader, if_pos hoff]
    exact ⟨rfl, rfl⟩
  zeroCharacter environment name content hoff hzero := by
    rw [loader, if_neg (Bool.eq_false_iff.1 hoff), if_pos hzero]
    exact ⟨rfl, rfl⟩
  load environment name content hoff hname := by
    rw [loader, if_neg (Bool.eq_false_iff.1 hoff), if_neg (Bool.eq_false_iff.1 hname)]
    exact ⟨rfl, rfl⟩

end EnvFile

end RollPad

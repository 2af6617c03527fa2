/-!
Texts by name: the variables of an environment, the files of a directory. Only the value of each
name counts, so the laws say what a look-up finds after each change.
-/

namespace RollPad

/-- A finite table from names to texts; of two entries for one name the first counts. -/
structure NameTable where
  entries : List (String × String) := []
  deriving DecidableEq

namespace NameTable

/-- The text under a name. -/
def get? (t : NameTable) (name : String) : Option String :=
  t.entries.lookup name

/-- Does the table have the name? -/
def contains (t : NameTable) (name : String) : Bool :=
  (t.get? name).isSome

/-- The table without a name. -/
def erase (t : NameTable) (name : String) : NameTable :=
  ⟨t.entries.filter fun e => !(name == e.1)⟩

/-- The table with a text under a name, in place of what was there. -/
def insert (t : NameTable) (name text : String) : NameTable :=
  ⟨(name, text) :: (t.erase name).entries⟩

/-- Set a name to a text, or remove it. -/
def assign (t : NameTable) (name : String) : Option String → NameTable
  | some text => t.insert name text
  | none => t.erase name

/-- The table with text added at the end of what is under a name. -/
def append (t : NameTable) (name text : String) : NameTable :=
  t.insert name ((t.get? name).getD "" ++ text)

/-! ### What a look-up finds -/

theorem lookup_cons_of_ne (es : List (String × String)) (text : String) {name other : String}
    (h : name ≠ other) : ((name, text) :: es).lookup other = es.lookup other := by
  rw [List.lookup_cons, beq_eq_false_iff_ne.2 (Ne.symm h)]

theorem get?_erase (t : NameTable) (name other : String) :
    (t.erase name).get? other = if name = other then none else t.get? other := by
  obtain ⟨es⟩ := t
  simp only [erase, get?]
  induction es with
  | nil => simp
  | cons e es ih =>
    obtain ⟨k, v⟩ := e
    by_cases hk : name = k
    · subst hk
      simp only [List.filter_cons, BEq.rfl, Bool.not_true, Bool.false_eq_true, if_false, ih]
      by_cases ho : name = other
      · simp [ho]
      · simp [ho, lookup_cons_of_ne es v ho]
    · have hb : (name == k) = false := beq_eq_false_iff_ne.2 hk
      simp only [List.filter_cons, hb, Bool.not_false, if_true]
      by_cases ho : k = other
      · subst ho
        simp [hk]
      · simp [lookup_cons_of_ne _ v ho, ih]

theorem get?_insert (t : NameTable) (name text other : String) :
    (t.insert name text).get? other = if name = other then some text else t.get? other := by
  have he := get?_erase t name other
  simp only [get?, insert] at he ⊢
  by_cases ho : name = other
  · simp [ho]
  · rw [lookup_cons_of_ne _ text ho, he]
    simp [ho]

end NameTable

end RollPad

import RollPad.Proofs.Notation.Grammar
import RollPad.Proofs.Text.Decimal

/-!
Canonical notation. Terms are written with `d` between numbers without leading zeros and with one
space between neighbours, and what is written is read back as the same terms. `Canonical` says of a
text, by its characters alone, that it is so written; the main statement is that reading and writing
are inverse up to this form (`parse_formatTerms`). A leading zero is one that no digit precedes, so
that the words of a text can be looked at one by one (`noLeadingZero_intercalate`).
-/

namespace RollPad

open Text

/-- Every zero stands right behind a digit, so no number begins with one; at the start stands, as it
were, a space. -/
def NoLeadingZero (cs : List Char) : Prop :=
  (' ' :: cs).IsChain fun c d => d = '0' → c.isDigit = true

/-- Single spaces inside, no upper-case letter between numbers, and no leading zeros. -/
structure Canonical (cs : List Char) : Prop where
  spaced : Spaced cs
  lower_case : 'D' ∉ cs
  no_leading_zero : NoLeadingZero cs

/-- The numbers of a term are not too long to be read. -/
def Term.IsShort (t : Term) : Prop :=
  t.count.repr.length ≤ maxDigits ∧ t.sides.repr.length ≤ maxDigits

instance (t : Term) : Decidable t.IsShort :=
  inferInstanceAs (Decidable (_ ∧ _))

/-! ### Written terms -/

theorem Term.toList_text (t : Term) :
    t.text.toList = Nat.toDigits 10 t.count ++ 'd' :: Nat.toDigits 10 t.sides := by
  simp [Term.text]

theorem toList_formatTerms (ts : List Term) :
    (formatTerms ts).toList = [' '].intercalate (ts.map fun t => t.text.toList) := by
  simp [formatTerms, String.toList_intercalate, Function.comp_def]

theorem numeral_toDigits {n : ℕ} (hn : n.repr.length ≤ maxDigits) :
    Numeral (Nat.toDigits 10 n) n where
  ne_nil := Nat.toDigits_ne_nil
  digits _ hc := isDigit_of_mem_toDigits hc
  length_le := by rwa [← Nat.toList_repr, String.length_toList]
  value := Nat.ofDigitChars_ten_toDigits

/-- A term that is not too long spells its own numbers. -/
theorem Term.spells_text {t : Term} (ht : t.IsShort) : Spells t.text.toList t.count t.sides :=
  ⟨_, 'd', _, t.toList_text, .inl rfl, numeral_toDigits ht.1, numeral_toDigits ht.2⟩

/-- A number that has been read is not too long to be written. -/
theorem Numeral.length_repr_le {ds : List Char} {n : ℕ} (h : Numeral ds n) :
    n.repr.length ≤ maxDigits := by
  rw [Nat.length_repr_le_iff (by decide), ← h.value]
  exact (ofDigitChars_lt h.digits).trans_le (Nat.pow_le_pow_right (by decide) h.length_le)

theorem Term.isShort_of_spells {word : List Char} {t : Term} (h : Spells word t.count t.sides) :
    t.IsShort := by
  obtain ⟨cs, mark, ss, -, -, hc, hs⟩ := h
  exact ⟨hc.length_repr_le, hs.length_repr_le⟩

theorem Term.mem_text {t : Term} {c : Char} (hc : c ∈ t.text.toList) :
    c.isDigit = true ∨ c = 'd' := by
  rw [t.toList_text] at hc
  rcases List.mem_append.1 hc with hc | hc
  · exact .inl (isDigit_of_mem_toDigits hc)
  · rcases List.mem_cons.1 hc with rfl | hc
    · exact .inr rfl
    · exact .inl (isDigit_of_mem_toDigits hc)

theorem isBlank_of_isDigit {c : Char} (hc : c.isDigit = true) : isBlank c = false := by
  have := toNat_of_isDigit hc
  simp only [isBlank, Bool.or_eq_false_iff, Bool.and_eq_false_iff, decide_eq_false_iff_not,
    beq_eq_false_iff_ne]
  omega

theorem Term.text_ne_nil (t : Term) : t.text.toList ≠ [] := by
  simp [t.toList_text]

theorem Term.text_not_blank (t : Term) : ∀ c ∈ t.text.toList, isBlank c = false := by
  intro c hc
  rcases Term.mem_text hc with hd | rfl
  · exact isBlank_of_isDigit hd
  · decide

theorem wordLists_formatTerms (ts : List Term) :
    wordLists (formatTerms ts).toList = ts.map fun t => t.text.toList := by
  rw [toList_formatTerms, wordLists_intercalate]
  rw [List.forall_mem_map]
  exact fun t _ => ⟨t.text_ne_nil, t.text_not_blank⟩

/-- The words of written terms are the written terms. -/
theorem words_formatTerms (ts : List Term) : words (formatTerms ts) = ts.map Term.text := by
  simp [words, wordLists_formatTerms, Function.comp_def]

/-! ### Leading zeros, word by word -/

theorem isChain_of_digits {ds : List Char} (hds : ∀ c ∈ ds, c.isDigit = true) :
    ds.IsChain fun c d => d = '0' → c.isDigit = true :=
  List.Pairwise.isChain (List.pairwise_of_forall_mem_list fun c hc _ _ (_ : _ = '0') => hds c hc)

/-- Behind a character that is no digit, a number may not begin with a zero. -/
theorem isChain_cons_digits {c : Char} {ds : List Char} (hc : c.isDigit = false)
    (hds : ∀ d ∈ ds, d.isDigit = true) :
    ((c :: ds).IsChain fun c d => d = '0' → c.isDigit = true) ↔ ds.head? ≠ some '0' := by
  rw [List.isChain_cons, and_iff_left (isChain_of_digits hds)]
  cases ds <;> simp [hc]

theorem noLeadingZero_append_cons {cs ss : List Char} {mark : Char}
    (hmark : mark.isDigit = false) (hcs : ∀ c ∈ cs, c.isDigit = true)
    (hss : ∀ c ∈ ss, c.isDigit = true) :
    NoLeadingZero (cs ++ mark :: ss) ↔ cs.head? ≠ some '0' ∧ ss.head? ≠ some '0' := by
  have hlink : ∀ c ∈ (' ' :: cs).getLast?, ∀ d ∈ (mark :: ss).head?,
      d = '0' → c.isDigit = true := by
    rintro c - d hd rfl
    obtain rfl : mark = '0' := by simpa using hd
    exact absurd hmark (by decide)
  rw [NoLeadingZero, ← List.cons_append, List.isChain_append, and_iff_left hlink,
    isChain_cons_digits (by decide) hcs, isChain_cons_digits hmark hss]

/-- A text has no leading zero exactly if none of its words has one. -/
theorem noLeadingZero_intercalate (ws : List (List Char)) :
    NoLeadingZero ([' '].intercalate ws) ↔ ∀ w ∈ ws, NoLeadingZero w := by
  induction ws with
  | nil => simp [NoLeadingZero, List.intercalate_nil]
  | cons w ws ih =>
    cases ws with
    | nil => simp [List.intercalate_singleton]
    | cons v ws =>
      rw [List.forall_mem_cons, ← ih, List.intercalate_cons_cons, List.append_assoc,
        List.singleton_append, NoLeadingZero, ← List.cons_append, List.isChain_append, ← and_assoc]
      exact and_iff_left (by simp)

theorem Term.noLeadingZero_text (t : Term) : NoLeadingZero t.text.toList := by
  rw [t.toList_text, noLeadingZero_append_cons (by decide) (fun _ => isDigit_of_mem_toDigits)
    fun _ => isDigit_of_mem_toDigits]
  exact ⟨head?_toDigits_ne_zero t.count_pos, head?_toDigits_ne_zero t.sides_pos⟩

/-! ### Canonical texts -/

theorem mem_intercalate_iff {ws : List (List Char)} {c : Char} (hc : c ≠ ' ') :
    c ∈ [' '].intercalate ws ↔ ∃ w ∈ ws, c ∈ w := by
  induction ws with
  | nil => simp [List.intercalate_nil]
  | cons w ws ih =>
    cases ws with
    | nil => simp [List.intercalate_singleton]
    | cons v ws =>
      rw [List.intercalate_cons_cons, List.append_assoc, List.singleton_append, List.mem_append,
        List.mem_cons, or_iff_right hc, ih]
      simp

/-- What is written is canonical. -/
theorem canonical_formatTerms (ts : List Term) : Canonical (formatTerms ts).toList where
  spaced := by
    rw [← squeeze_trim_eq_self_iff, squeeze_trim, wordLists_formatTerms, toList_formatTerms]
  lower_case := by
    rw [toList_formatTerms, mem_intercalate_iff (by decide)]
    rintro ⟨w, hw, hD⟩
    obtain ⟨t, -, rfl⟩ := List.mem_map.1 hw
    rcases Term.mem_text hD with h | h <;> exact absurd h (by decide)
  no_leading_zero := by
    rw [toList_formatTerms, noLeadingZero_intercalate, List.forall_mem_map]
    exact fun t _ => t.noLeadingZero_text

/-- A word in lower case and without leading zeros is how the term it spells is written. -/
theorem eq_text_of_spells {word : List Char} {t : Term} (h : Spells word t.count t.sides)
    (hlower : 'D' ∉ word) (hzero : NoLeadingZero word) : word = t.text.toList := by
  obtain ⟨cs, mark, ss, rfl, hmark, hc, hs⟩ := h
  obtain rfl : mark = 'd' := hmark.resolve_right fun h => hlower (by simp [h])
  obtain ⟨hcz, hsz⟩ := (noLeadingZero_append_cons (by decide) hc.digits hs.digits).1 hzero
  rw [t.toList_text, ← hc.value, ← hs.value, toDigits_ofDigitChars hc.ne_nil hc.digits hcz,
    toDigits_ofDigitChars hs.ne_nil hs.digits hsz]

/-- A canonical text is how the terms are written that its words spell. -/
theorem formatTerms_eq_of_canonical {text : String} {ts : List Term}
    (hcan : Canonical text.toList)
    (hspelled : List.Forall₂ (fun w t => Spells w.toList t.count t.sides) (words text) ts) :
    formatTerms ts = text := by
  have hjoin : [' '].intercalate (wordLists text.toList) = text.toList := by
    rw [← squeeze_trim, squeeze_trim_eq_self_iff.2 hcan.spaced]
  have hlower : ∀ w ∈ wordLists text.toList, 'D' ∉ w := by
    have h := hcan.lower_case
    rw [← hjoin, mem_intercalate_iff (by decide)] at h
    exact fun w hw hD => h ⟨w, hw, hD⟩
  have hzero : ∀ w ∈ wordLists text.toList, NoLeadingZero w := by
    rw [← noLeadingZero_intercalate, hjoin]
    exact hcan.no_leading_zero
  have hwords : wordLists text.toList = ts.map fun t => t.text.toList := by
    rw [words, List.forall₂_map_left_iff] at hspelled
    rw [← List.forall₂_eq_eq_eq, List.forall₂_map_right_iff]
    have hall := (List.forall₂_and_left _ _).2
      ⟨fun w hw => And.intro (hlower w hw) (hzero w hw), hspelled⟩
    refine hall.imp fun w t h => ?_
    rw [String.toList_ofList] at h
    exact eq_text_of_spells h.2 h.1.1 h.1.2
  rw [← String.toList_inj, toList_formatTerms, ← hwords, hjoin]

/-! ### Reading and writing -/

/-- Terms within the limits are read back from their canonical notation. -/
theorem readTerms_formatTerms {limits : Limits} {ts : List Term} (hne : ts ≠ [])
    (hshort : ∀ t ∈ ts, t.IsShort) (hfits : Fits limits ts) :
    readTerms limits (formatTerms ts) = .ok ts := by
  rw [readTerms_eq_ok_iff, denotes_numbers_iff, words_formatTerms]
  refine ⟨by simpa using hne, ?_, hfits⟩
  rw [List.forall₂_map_left_iff, List.forall₂_same]
  exact fun t ht => Term.spells_text (hshort t ht)

/-- What has been read has terms, none too long to be written, and they are within the limits. -/
theorem writable_of_readTerms {limits : Limits} {text : String} {ts : List Term}
    (h : readTerms limits text = .ok ts) :
    ts ≠ [] ∧ (∀ t ∈ ts, t.IsShort) ∧ Fits limits ts := by
  obtain ⟨hne, hspelled, hfits⟩ := denotes_numbers_iff.1 (readTerms_eq_ok_iff.1 h)
  refine ⟨?_, fun t ht => ?_, hfits⟩
  · rintro rfl
    exact hne (List.forall₂_nil_right_iff.1 hspelled)
  · obtain ⟨i, hi, rfl⟩ := List.getElem_of_mem ht
    exact Term.isShort_of_spells ((List.forall₂_iff_get.1 hspelled).2 i
      (hspelled.length_eq ▸ hi) hi)

/-- Reading and writing are inverse up to canonical notation. Terms within the limits are read back
as they were written; the canonical notation of a text that has been read is read as the same terms;
and it is the text itself exactly if the text is canonical. -/
theorem parse_formatTerms (limits : Limits) :
    (∀ (h : Host) (ts : List Term), ts ≠ [] → (∀ t ∈ ts, t.IsShort) → Fits limits ts →
        (h.parse (some (formatTerms ts)) (.ofLimits limits)).1 = .ok (.ok ts)) ∧
      ∀ (h h' : Host) (text : String) (ts : List Term),
        (h.parse (some text) (.ofLimits limits)).1 = .ok (.ok ts) →
          (h'.parse (some (formatTerms ts)) (.ofLimits limits)).1 = .ok (.ok ts) ∧
            (formatTerms ts = text ↔ Canonical text.toList) := by
  have hwrite : ∀ (h : Host) (ts : List Term), ts ≠ [] → (∀ t ∈ ts, t.IsShort) → Fits limits ts →
      (h.parse (some (formatTerms ts)) (.ofLimits limits)).1 = .ok (.ok ts) := by
    intro h ts hne hshort hfits
    rw [Host.fst_parse_ofLimits, answerOf_eq_terms_iff, readTerms_formatTerms hne hshort hfits]
  refine ⟨hwrite, fun h h' text ts hparse => ?_⟩
  rw [Host.fst_parse_ofLimits, answerOf_eq_terms_iff] at hparse
  obtain ⟨hne, hshort, hfits⟩ := writable_of_readTerms hparse
  refine ⟨hwrite h' ts hne hshort hfits, ?_, ?_⟩
  · rintro rfl
    exact canonical_formatTerms ts
  · intro hcan
    obtain ⟨-, hspelled, -⟩ := denotes_numbers_iff.1 (readTerms_eq_ok_iff.1 hparse)
    exact formatTerms_eq_of_canonical hcan hspelled

/-- Two terms, also written with white space around them, a leading zero and an upper-case letter.
-/
theorem parse_formatTerms_two_terms :
    let limits : Limits := ⟨1000, 1000000, 10000⟩
    let ts : List Term := [⟨3, 6, by decide, by decide⟩, ⟨2, 8, by decide, by decide⟩]
    (ts ≠ [] ∧ (∀ t ∈ ts, t.IsShort) ∧ Fits limits ts ∧
        (({} : Host).parse (some (formatTerms ts)) (.ofLimits limits)).1 = .ok (.ok ts)) ∧
      (({} : Host).parse (some " 03D6\t2d8") (.ofLimits limits)).1 = .ok (.ok ts) ∧
        (({} : Host).parse (some (formatTerms ts)) (.ofLimits limits)).1 = .ok (.ok ts) ∧
          (formatTerms ts = " 03D6\t2d8" ↔ Canonical " 03D6\t2d8".toList) := by
  intro limits ts
  have hne : ts ≠ [] := by decide
  have hshort : ∀ t ∈ ts, t.IsShort := by decide +kernel
  have hfits : Fits limits ts := ⟨by decide, by decide, by decide⟩
  have hparse : (({} : Host).parse (some " 03D6\t2d8") (.ofLimits limits)).1 = .ok (.ok ts) := by
    decide +kernel
  obtain ⟨hwrite, hread⟩ := parse_formatTerms limits
  exact ⟨⟨hne, hshort, hfits, hwrite {} ts hne hshort hfits⟩, hparse,
    hread {} {} " 03D6\t2d8" ts hparse⟩

end RollPad

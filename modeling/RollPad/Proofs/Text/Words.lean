import Mathlib.Data.List.Chain
import Mathlib.Data.List.DropRight
import RollPad.Text.Blank

/-!
Tokens are words. Trimming a text, squeezing its runs of white space and splitting the rest at
single spaces are three separate steps, and none of them mentions words. Together they cut a text at
its white space and nowhere else: the normal form is the words with one space between neighbours
(`squeeze_trim`), and unless the text is blank its tokens are its words (`tokens_eq_words`). A text
is its own normal form exactly if its white space is single spaces inside
(`squeeze_trim_eq_self_iff`).
-/

namespace RollPad.Text

/-! ### Words, one character at a time -/

theorem wordLists_cons_of_isBlank {c : Char} (hc : isBlank c = true) (cs : List Char) :
    wordLists (c :: cs) = wordLists cs := by
  simpa [wordLists_nil] using wordLists_append_cons [] cs hc

/-- A letter before white space, or at the end, is a word of its own. -/
theorem wordLists_cons_of_break {c : Char} (hc : isBlank c = false) {cs : List Char}
    (hcs : ∀ d ∈ cs.head?, isBlank d = true) : wordLists (c :: cs) = [c] :: wordLists cs := by
  have hw : wordLists [c] = [[c]] := wordLists_of_forall (by simpa using hc) (by simp)
  cases cs with
  | nil => rw [hw, wordLists_nil]
  | cons d ds =>
    have hd : isBlank d = true := hcs d (by simp)
    rw [← List.singleton_append, wordLists_append_cons [c] ds hd, hw,
      wordLists_cons_of_isBlank hd, List.singleton_append]

/-- A letter before a letter lengthens the first word. -/
theorem wordLists_cons_of_letter {c d : Char} (hc : isBlank c = false) (hd : isBlank d = false)
    (cs : List Char) :
    ∃ w ws, wordLists (d :: cs) = w :: ws ∧ wordLists (c :: d :: cs) = (c :: w) :: ws := by
  obtain ⟨p, ps, hp⟩ := List.exists_cons_of_ne_nil (List.splitOnP_ne_nil isBlank cs)
  refine ⟨d :: p, ps.filter fun w => !w.isEmpty, ?_, ?_⟩
  · simp [wordLists, List.splitOnP_cons_eq_if_modifyHead, hp, hd]
  · simp [wordLists, List.splitOnP_cons_eq_if_modifyHead, hp, hd, hc]

theorem wordLists_eq_nil_iff {cs : List Char} : wordLists cs = [] ↔ ∀ c ∈ cs, isBlank c = true := by
  induction cs with
  | nil => simp [wordLists_nil]
  | cons c cs ih =>
    cases hc : isBlank c with
    | true => simp [wordLists_cons_of_isBlank hc, ih, hc]
    | false =>
      refine iff_of_false ?_ fun h => by simp [hc] at h
      cases cs with
      | nil => rw [wordLists_cons_of_break hc (by simp)]; simp
      | cons d ds =>
        cases hd : isBlank d with
        | true => rw [wordLists_cons_of_break hc (by simpa using hd)]; simp
        | false =>
          obtain ⟨w, ws, -, hw⟩ := wordLists_cons_of_letter hc hd ds
          simp [hw]

/-- No white space stands in a word, and no word is empty. -/
theorem mem_wordLists {cs w : List Char} (hw : w ∈ wordLists cs) :
    w ≠ [] ∧ ∀ c ∈ w, isBlank c = false := by
  induction cs generalizing w with
  | nil => simp [wordLists_nil] at hw
  | cons c cs ih =>
    cases hc : isBlank c with
    | true => exact ih (wordLists_cons_of_isBlank hc cs ▸ hw)
    | false =>
      by_cases hcs : ∀ d ∈ cs.head?, isBlank d = true
      · rw [wordLists_cons_of_break hc hcs] at hw
        rcases List.mem_cons.1 hw with rfl | hw
        · simpa using hc
        · exact ih hw
      · obtain ⟨d, ds, rfl⟩ : ∃ d ds, cs = d :: ds := by
          cases cs with
          | nil => simp at hcs
          | cons d ds => exact ⟨d, ds, rfl⟩
        obtain ⟨v, vs, hv, hcv⟩ := wordLists_cons_of_letter hc (d := d) (by simpa using hcs) ds
        rw [hcv] at hw
        rw [hv] at ih
        rcases List.mem_cons.1 hw with rfl | hw
        · exact ⟨by simp, by simpa [hc] using (ih (List.mem_cons_self ..)).2⟩
        · exact ih (List.mem_cons_of_mem _ hw)

/-- White space at the end belongs to no word. -/
theorem wordLists_append_of_blank (cs : List Char) {bs : List Char}
    (hb : ∀ c ∈ bs, isBlank c = true) : wordLists (cs ++ bs) = wordLists cs := by
  cases bs with
  | nil => rw [List.append_nil]
  | cons b bs =>
    rw [wordLists_append_cons cs bs (hb b (List.mem_cons_self ..)),
      wordLists_eq_nil_iff.2 fun c hc => hb c (List.mem_cons_of_mem _ hc), List.append_nil]

theorem wordLists_blank_append {as : List Char} (ha : ∀ c ∈ as, isBlank c = true)
    (cs : List Char) : wordLists (as ++ cs) = wordLists cs := by
  induction as with
  | nil => rfl
  | cons a as ih =>
    rw [List.cons_append, wordLists_cons_of_isBlank (ha a (List.mem_cons_self ..)),
      ih fun c hc => ha c (List.mem_cons_of_mem _ hc)]

/-- Words with one space between neighbours are read back. -/
theorem wordLists_intercalate {ws : List (List Char)}
    (hws : ∀ w ∈ ws, w ≠ [] ∧ ∀ c ∈ w, isBlank c = false) :
    wordLists ([' '].intercalate ws) = ws := by
  induction ws with
  | nil => rw [List.intercalate_nil, wordLists_nil]
  | cons w ws ih =>
    have hw := hws w (List.mem_cons_self ..)
    have hword : wordLists w = [w] := wordLists_of_forall hw.2 hw.1
    cases ws with
    | nil => rw [List.intercalate_singleton, hword]
    | cons v ws =>
      rw [List.intercalate_cons_cons, List.append_assoc, List.singleton_append,
        wordLists_append_cons w _ (by decide : isBlank ' ' = true), hword,
        ih fun u hu => hws u (List.mem_cons_of_mem _ hu), List.singleton_append]

/-! ### Trimming -/

theorem trim_eq_rdropWhile (cs : List Char) :
    trim cs = (cs.dropWhile isBlank).rdropWhile isBlank := rfl

/-- Trimming loses no word. -/
theorem wordLists_trim (cs : List Char) : wordLists (trim cs) = wordLists cs := by
  have hback := @List.rdropWhile_append_rtakeWhile _ isBlank (cs.dropWhile isBlank)
  have hfront := List.takeWhile_append_dropWhile (p := isBlank) (l := cs)
  rw [← wordLists_append_of_blank (trim cs) fun c hc => List.mem_rtakeWhile_imp hc,
    trim_eq_rdropWhile, hback, ← wordLists_blank_append (fun c hc => List.mem_takeWhile_imp hc),
    hfront]

theorem getLast?_trim (cs : List Char) : ∀ c ∈ (trim cs).getLast?, isBlank c = false := by
  intro c hc
  obtain ⟨hne, rfl⟩ := List.mem_getLast?_eq_getLast hc
  exact eq_false_of_ne_true (List.rdropWhile_last_not isBlank _ hne)

theorem head?_trim (cs : List Char) : ∀ c ∈ (trim cs).head?, isBlank c = false := by
  intro c hc
  obtain ⟨rest, hrest⟩ := List.rdropWhile_prefix isBlank (l := cs.dropWhile isBlank)
  have hfirst := List.head?_dropWhile_not isBlank cs
  rw [← hrest, ← trim_eq_rdropWhile, List.head?_append, Option.mem_def.1 hc] at hfirst
  simpa using hfirst

theorem trim_sublist (cs : List Char) : (trim cs).Sublist cs :=
  (List.rdropWhile_prefix isBlank _).sublist.trans (List.dropWhile_suffix isBlank).sublist

theorem trim_eq_self_iff {cs : List Char} :
    trim cs = cs ↔
      (∀ c ∈ cs.head?, isBlank c = false) ∧ ∀ c ∈ cs.getLast?, isBlank c = false := by
  constructor
  · intro h
    rw [← h]
    exact ⟨head?_trim cs, getLast?_trim cs⟩
  · rintro ⟨hhead, hlast⟩
    have hfront : cs.dropWhile isBlank = cs := by
      cases cs with
      | nil => rfl
      | cons c cs => rw [List.dropWhile_cons_of_neg (by simp [hhead c rfl])]
    rw [trim_eq_rdropWhile, hfront, List.rdropWhile_eq_self_iff]
    exact fun hne => by simp [hlast _ (List.getLast?_eq_getLast_of_ne_nil hne)]

/-! ### Squeezing -/

/-- Squeezing puts one space before each word but the first; white space at the start leaves one
space more. -/
theorem squeeze_eq_intercalate {cs : List Char} (hcs : ∀ c ∈ cs.getLast?, isBlank c = false) :
    squeeze cs =
      (if cs.head?.any isBlank then [' '] else []) ++ [' '].intercalate (wordLists cs) := by
  induction cs with
  | nil => simp [squeeze, wordLists_nil, List.intercalate_nil]
  | cons c cs ih =>
    have hlast : ∀ d ∈ cs.getLast?, isBlank d = false := fun d hd => hcs d (by
      rw [List.getLast?_cons, Option.mem_def.1 hd]; rfl)
    have ih := ih hlast
    cases hc : isBlank c with
    | true =>
      rw [squeeze, if_pos hc, ih, wordLists_cons_of_isBlank hc]
      by_cases hh : cs.head?.any isBlank <;> simp [hh, hc]
    | false =>
      rw [squeeze, if_neg (by simp [hc]), ih]
      cases cs with
      | nil =>
        rw [wordLists_cons_of_break hc (by simp), wordLists_nil]
        simp [hc, List.intercalate_nil, List.intercalate_singleton]
      | cons d ds =>
        cases hd : isBlank d with
        | true =>
          -- the text does not end in white space, so a word follows and the space stays inside
          have hne : wordLists (d :: ds) ≠ [] := fun h => by
            have hb := wordLists_eq_nil_iff.1 h _ (List.getLast_mem (List.cons_ne_nil d ds))
            simp [hlast _ (List.getLast?_eq_getLast_of_ne_nil (List.cons_ne_nil d ds))] at hb
          rw [wordLists_cons_of_break hc (by simpa using hd),
            List.intercalate_cons_of_ne_nil hne]
          simp [hc, hd]
        | false =>
          obtain ⟨w, ws, hw, hcw⟩ := wordLists_cons_of_letter hc hd ds
          rw [hw, hcw, List.intercalate_cons_cons_left]
          simp [hc, hd]

/-- The normal form is the words with one space between neighbours. -/
theorem squeeze_trim (cs : List Char) :
    squeeze (trim cs) = [' '].intercalate (wordLists cs) := by
  have hhead : (trim cs).head?.any isBlank = false := by
    rw [Option.any_eq_false]
    intro c hc
    simpa using head?_trim cs c hc
  rw [squeeze_eq_intercalate (getLast?_trim cs), hhead, wordLists_trim]
  simp

theorem length_squeeze_le (cs : List Char) : (squeeze cs).length ≤ cs.length := by
  induction cs with
  | nil => simp [squeeze]
  | cons c cs ih =>
    rw [squeeze]
    split_ifs <;> simp only [List.length_cons] <;> omega

theorem squeeze_eq_self_iff {cs : List Char} :
    squeeze cs = cs ↔
      (∀ c ∈ cs, isBlank c = true → c = ' ') ∧
        cs.IsChain fun c d => ¬(isBlank c = true ∧ isBlank d = true) := by
  induction cs with
  | nil => simp [squeeze]
  | cons c cs ih =>
    rw [List.forall_mem_cons, List.isChain_cons, squeeze]
    cases hc : isBlank c with
    | false => simp [ih]
    | true =>
      by_cases hh : cs.head?.any isBlank = true
      · -- the first of two blanks goes, so the text gets shorter
        obtain ⟨d, hd, hdb⟩ := (Option.any_eq_true _ _).1 hh
        have hlt := length_squeeze_le cs
        refine iff_of_false ?_ fun h => h.2.1 d hd ⟨rfl, hdb⟩
        simp only [hh, if_true]
        intro heq
        rw [heq, List.length_cons] at hlt
        omega
      · have hnext : ∀ d ∈ cs.head?, isBlank d = false := fun d hd =>
          Bool.eq_false_iff.2 fun hdb => hh ((Option.any_eq_true _ _).2 ⟨d, hd, hdb⟩)
        simp only [hh, if_true, Bool.false_eq_true, if_false, List.cons.injEq, ih]
        constructor
        · rintro ⟨rfl, hblank, hchain⟩
          exact ⟨⟨fun _ => rfl, hblank⟩, fun d hd h => by simp [hnext d hd] at h, hchain⟩
        · rintro ⟨⟨hc, hblank⟩, -, hchain⟩
          exact ⟨(hc trivial).symm, hblank, hchain⟩

/-- The only white space is single spaces between other characters. -/
structure Spaced (cs : List Char) : Prop where
  blank_eq_space : ∀ c ∈ cs, isBlank c = true → c = ' '
  head_ne_space : cs.head? ≠ some ' '
  last_ne_space : cs.getLast? ≠ some ' '
  spaces_apart : cs.IsChain fun c d => ¬(c = ' ' ∧ d = ' ')

/-- Exactly the spaced texts are their own normal forms. -/
theorem squeeze_trim_eq_self_iff {cs : List Char} : squeeze (trim cs) = cs ↔ Spaced cs := by
  constructor
  · intro h
    -- neither step makes a text longer, so neither has done anything
    have hlen := length_squeeze_le (trim cs)
    rw [h] at hlen
    have htrim := (trim_sublist cs).eq_of_length_le hlen
    rw [htrim] at h
    obtain ⟨hhead, hlast⟩ := trim_eq_self_iff.1 htrim
    obtain ⟨hblank, hchain⟩ := squeeze_eq_self_iff.1 h
    refine ⟨hblank, fun hh => ?_, fun hl => ?_, hchain.imp ?_⟩
    · exact absurd (hhead ' ' hh) (by decide)
    · exact absurd (hlast ' ' hl) (by decide)
    · rintro c d hcd ⟨rfl, rfl⟩
      exact hcd ⟨by decide, by decide⟩
  · rintro ⟨hblank, hhead, hlast, hchain⟩
    have htrim : trim cs = cs := by
      refine trim_eq_self_iff.2 ⟨fun c hc => ?_, fun c hc => ?_⟩
      · refine Bool.eq_false_iff.2 fun hb => hhead ?_
        rw [← hblank c (List.mem_of_head? hc) hb, Option.mem_def.1 hc]
      · refine Bool.eq_false_iff.2 fun hb => hlast ?_
        rw [← hblank c (List.mem_of_getLast? hc) hb, Option.mem_def.1 hc]
    rw [htrim]
    refine squeeze_eq_self_iff.2 ⟨hblank, hchain.imp_of_mem_imp fun c d hc hd hcd hb => ?_⟩
    exact hcd ⟨hblank c hc hb.1, hblank d hd hb.2⟩

/-! ### Tokens -/

theorem isBlankText_eq_true_iff {s : String} : isBlankText s = true ↔ words s = [] := by
  rw [isBlankText, List.all_eq_true, words, List.map_eq_nil_iff, wordLists_eq_nil_iff]

/-- Unless a text is blank, its tokens are its words. -/
theorem tokens_eq_words {s : String} (hs : isBlankText s = false) : tokens s = words s := by
  have hne : wordLists s.toList ≠ [] := fun h => by
    simp [isBlankText_eq_true_iff.2 (show words s = [] by rw [words, h]; rfl)] at hs
  have hspace : ∀ w ∈ wordLists s.toList, ' ' ∉ w := fun w hw hmem => by
    have := (mem_wordLists hw).2 ' ' hmem
    exact absurd this (by decide)
  rw [tokens, words, normalize, String.toList_ofList, squeeze_trim,
    List.splitOn_intercalate ' ' hspace hne]

end RollPad.Text

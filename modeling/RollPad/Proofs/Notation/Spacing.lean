import RollPad.Proofs.Notation.Concatenation

/-!
Spacing. A text falls apart into white space and runs of other characters; `Runs` says how, one run
after another, without splitting anything. The words of a text are its runs (`Text.runs_iff`), the
normal form keeps them and nothing else, and the reader sees no more of a text than its words
(`Host.readTerms_of_words_eq`). So two texts that differ in their white space alone are read alike,
down to the words of a refusal. The main statement is `parse_of_same_runs`.
-/

namespace RollPad

namespace Text

/-- The runs of a text: it is white space, or white space and a run that no white space interrupts
and that more white space or the end of the text follows. -/
inductive Runs : List Char → List (List Char) → Prop
  | blank {gap : List Char} (hgap : ∀ c ∈ gap, isBlank c = true) : Runs gap []
  | run {gap w rest : List Char} {ws : List (List Char)} (hgap : ∀ c ∈ gap, isBlank c = true)
    (hne : w ≠ []) (hw : ∀ c ∈ w, isBlank c = false)
    (hmaximal : ∀ c ∈ rest.head?, isBlank c = true) (hrest : Runs rest ws) :
    Runs (gap ++ w ++ rest) (w :: ws)

/-! ### Runs and words -/

theorem wordLists_append_of_head {w rest : List Char} (hne : w ≠ [])
    (hw : ∀ c ∈ w, isBlank c = false) (hrest : ∀ c ∈ rest.head?, isBlank c = true) :
    wordLists (w ++ rest) = w :: wordLists rest := by
  have hword : wordLists w = [w] := wordLists_of_forall hw hne
  cases rest with
  | nil => rw [List.append_nil, hword, wordLists_nil]
  | cons b rest =>
    have hb : isBlank b = true := hrest b rfl
    rw [wordLists_append_cons w rest hb, hword, wordLists_cons_of_isBlank hb,
      List.singleton_append]

theorem Runs.wordLists_eq {cs : List Char} {ws : List (List Char)} (h : Runs cs ws) :
    wordLists cs = ws := by
  induction h with
  | blank hgap => exact wordLists_eq_nil_iff.2 hgap
  | run hgap hne hw hmaximal _ ih =>
    rw [List.append_assoc, wordLists_blank_append hgap, wordLists_append_of_head hne hw hmaximal,
      ih]

/-- White space in front belongs to no run. -/
theorem Runs.cons_blank {c : Char} {cs : List Char} {ws : List (List Char)} (h : Runs cs ws)
    (hc : isBlank c = true) : Runs (c :: cs) ws := by
  cases h with
  | blank hgap => exact .blank (List.forall_mem_cons.2 ⟨hc, hgap⟩)
  | @run gap w rest _ hgap hne hw hmaximal hrest =>
    exact @Runs.run (c :: gap) _ _ _ (List.forall_mem_cons.2 ⟨hc, hgap⟩) hne hw hmaximal hrest

/-- A letter in front begins a run, or lengthens the first. -/
theorem Runs.cons_letter {c : Char} {cs : List Char} {ws : List (List Char)} (h : Runs cs ws)
    (hc : isBlank c = false) : ∃ ws', Runs (c :: cs) ws' := by
  have hsingle : ∀ d ∈ [c], isBlank d = false := by simpa using hc
  cases h with
  | blank hgap =>
    exact ⟨_, @Runs.run [] [c] _ _ (by simp) (by simp) hsingle
      (fun d hd => hgap d (List.mem_of_head? hd)) (.blank hgap)⟩
  | @run gap w rest ws hgap hne hw hmaximal hrest =>
    cases gap with
    | nil =>
      exact ⟨_, @Runs.run [] (c :: w) _ _ hgap (by simp)
        (List.forall_mem_cons.2 ⟨hc, hw⟩) hmaximal hrest⟩
    | cons b gap =>
      have hb : isBlank b = true := hgap b List.mem_cons_self
      exact ⟨_, @Runs.run [] [c] _ _ (by simp) (by simp) hsingle (by simpa using hb)
        (.run hgap hne hw hmaximal hrest)⟩

theorem exists_runs (cs : List Char) : ∃ ws, Runs cs ws := by
  induction cs with
  | nil => exact ⟨[], .blank (by simp)⟩
  | cons c cs ih =>
    obtain ⟨ws, h⟩ := ih
    cases hc : isBlank c with
    | true => exact ⟨ws, h.cons_blank hc⟩
    | false => exact h.cons_letter hc

/-- The runs of a text are its words. -/
theorem runs_iff {cs : List Char} {ws : List (List Char)} : Runs cs ws ↔ wordLists cs = ws := by
  constructor
  · intro h
    exact h.wordLists_eq
  · rintro rfl
    obtain ⟨ws, h⟩ := exists_runs cs
    rwa [h.wordLists_eq]

/-- The runs hold all characters but the white space. -/
theorem Runs.flatten_eq {cs : List Char} {ws : List (List Char)} (h : Runs cs ws) :
    ws.flatten = cs.filter (!isBlank ·) := by
  induction h with
  | blank hgap =>
    rw [List.flatten_nil, eq_comm, List.filter_eq_nil_iff]
    simpa using hgap
  | @run gap w rest ws hgap hne hw hmaximal hrest ih =>
    have hnone : gap.filter (!isBlank ·) = [] := by simpa [List.filter_eq_nil_iff] using hgap
    have hall : w.filter (!isBlank ·) = w := by simpa [List.filter_eq_self] using hw
    rw [List.filter_append, List.filter_append, hnone, hall, List.flatten_cons, ih,
      List.nil_append]

/-! ### The normal form -/

theorem toList_normalize (text : String) :
    (normalize text).toList = [' '].intercalate (wordLists text.toList) := by
  rw [normalize, String.toList_ofList, squeeze_trim]

theorem wordLists_normalize (text : String) :
    wordLists (normalize text).toList = wordLists text.toList := by
  rw [toList_normalize, wordLists_intercalate fun w hw => mem_wordLists hw]

theorem normalize_normalize (text : String) : normalize (normalize text) = normalize text := by
  rw [← String.toList_inj, toList_normalize, wordLists_normalize, ← toList_normalize]

theorem spaced_normalize (text : String) : Spaced (normalize text).toList := by
  rw [← squeeze_trim_eq_self_iff, squeeze_trim, wordLists_normalize, ← toList_normalize]

theorem filter_normalize (text : String) :
    (normalize text).toList.filter (!isBlank ·) = text.toList.filter (!isBlank ·) := by
  have hkept : Runs (normalize text).toList (wordLists text.toList) :=
    runs_iff.2 (wordLists_normalize text)
  have hruns : Runs text.toList (wordLists text.toList) := runs_iff.2 rfl
  rw [← hkept.flatten_eq, ← hruns.flatten_eq]

end Text

/-! ### Reading -/

theorem isBlankText_of_words_eq {text other : String} (h : Text.words text = Text.words other) :
    Text.isBlankText text = Text.isBlankText other := by
  rw [Bool.eq_iff_iff, Text.isBlankText_eq_true_iff, Text.isBlankText_eq_true_iff, h]

theorem readTerms_of_words_eq {text other : String} (h : Text.words text = Text.words other)
    (limits : Limits) : readTerms limits text = readTerms limits other := by
  have hblank := isBlankText_of_words_eq h
  cases ho : Text.isBlankText other with
  | true =>
    rw [ho] at hblank
    simp only [readTerms, hblank, ho, if_true]
  | false =>
    rw [ho] at hblank
    rw [readTerms_of_not_blank limits hblank, readTerms_of_not_blank limits ho, h]

namespace Host

/-- On a host as well, only the words of a text make a difference. -/
theorem readTerms_of_words_eq {text other : String} (h : Text.words text = Text.words other)
    (host : Host) (request : LimitRequest) :
    host.readTerms (some text) request = host.readTerms (some other) request := by
  have hblank := isBlankText_of_words_eq h
  unfold readTerms
  cases ho : Text.isBlankText other with
  | true =>
    rw [ho] at hblank
    simp [Option.filter, hblank, ho]
  | false =>
    rw [ho] at hblank
    simp only [Option.filter, hblank, ho, Bool.not_false, if_true, RollPad.readTerms_of_words_eq h]

theorem fst_parse_of_words_eq {text other : String} (h : Text.words text = Text.words other)
    (host : Host) (request : LimitRequest) :
    (host.parse (some text) request).1 = (host.parse (some other) request).1 := by
  rw [fst_parse, fst_parse, readTerms_of_words_eq h]

end Host

/-- The normal form of a text is its runs with one space between neighbours: every text has its
runs, and they are the only ones; normalizing again changes nothing, the white space that is left is
single spaces inside, and all other characters stay as they are, in order. Texts with the same runs
are parsed alike on every host and within any limits, into the same terms or to the same refusal; so
a text is parsed as its normal form is. -/
theorem parse_of_same_runs :
    (∀ (text : String) (ws : List (List Char)), Text.Runs text.toList ws →
        (Text.normalize text).toList = [' '].intercalate ws) ∧
      (∀ text : String, (∃! ws, Text.Runs text.toList ws) ∧
        Text.normalize (Text.normalize text) = Text.normalize text ∧
        Text.Spaced (Text.normalize text).toList ∧
        (Text.normalize text).toList.filter (!Text.isBlank ·) =
          text.toList.filter (!Text.isBlank ·)) ∧
      ∀ (h : Host) (request : LimitRequest) (text : String),
        (∀ (other : String) (ws : List (List Char)), Text.Runs text.toList ws →
          Text.Runs other.toList ws →
          (h.parse (some text) request).1 = (h.parse (some other) request).1) ∧
        (h.parse (some text) request).1 = (h.parse (some (Text.normalize text)) request).1 := by
  refine ⟨fun text ws hruns => ?_, fun text => ⟨?_, ?_⟩, fun h request text => ⟨?_, ?_⟩⟩
  · rw [Text.toList_normalize, hruns.wordLists_eq]
  · refine ⟨_, Text.runs_iff.2 rfl, fun ws hruns => ?_⟩
    exact hruns.wordLists_eq.symm
  · exact ⟨Text.normalize_normalize text, Text.spaced_normalize text, Text.filter_normalize text⟩
  · intro other ws hruns hother
    have hwords : Text.words text = Text.words other := by
      rw [Text.words, Text.words, hruns.wordLists_eq, hother.wordLists_eq]
    exact Host.fst_parse_of_words_eq hwords h request
  · have hwords : Text.words text = Text.words (Text.normalize text) := by
      rw [Text.words, Text.words, Text.wordLists_normalize]
    exact Host.fst_parse_of_words_eq hwords h request

/-- Two refused words, once with a separator control, a no-break space and a line separator around
them, and once in normal form. -/
theorem parse_of_same_runs_separators :
    let text := "\x1c2d6\xa0\u20283dx\x0b"
    let other := "2d6 3dx"
    let ws := ["2d6".toList, "3dx".toList]
    Text.Runs text.toList ws ∧ Text.Runs other.toList ws ∧
      (Text.normalize text).toList = [' '].intercalate ws ∧ Text.normalize text = other ∧
      (({} : Host).parse (some text) {}).1 = .ok (.error ⟨.notATerm "3dx", rfl⟩) ∧
      (({} : Host).parse (some text) {}).1 = (({} : Host).parse (some other) {}).1 := by
  intro text other ws
  have htext : Text.Runs text.toList ws := Text.runs_iff.2 (by decide +kernel)
  have hother : Text.Runs other.toList ws := Text.runs_iff.2 (by decide +kernel)
  obtain ⟨hjoin, -, hparse⟩ := parse_of_same_runs
  have hnormal := hjoin text ws htext
  refine ⟨htext, hother, hnormal, ?_, by decide +kernel,
    (hparse {} {} text).1 other ws htext hother⟩
  exact String.toList_inj.1 (hnormal.trans (by decide +kernel))

end RollPad

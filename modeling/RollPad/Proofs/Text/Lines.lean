import RollPad.Proofs.Text.Separated
import RollPad.Proofs.Text.Words
import RollPad.Text.Quoted

/-!
Lines. A text is one line if it holds no character at which lines are broken (`OneLine`). All these
characters are white space, so that no word holds one, and none of them prints, so that a quoted
text holds none, whatever is quoted (`oneLine_quote`). Numbers are one line in any base.
-/

namespace RollPad.Text

/-- The characters at which lines are broken: line feed, vertical tab, form feed, carriage return,
three of the separator controls, next line, and the separators of lines and of paragraphs. -/
def lineBreaks : List Char :=
  ['\n', '\x0b', '\x0c', '\r', '\x1c', '\x1d', '\x1e', '\u0085', '\u2028', '\u2029']

/-- No line is broken in the text. -/
def OneLine (s : String) : Prop :=
  ∀ c ∈ s.toList, c ∉ lineBreaks

theorem all_not_contains_iff {s : String} :
    (s.toList.all fun c => !lineBreaks.contains c) = true ↔ OneLine s := by
  simp [OneLine]

instance (s : String) : Decidable (OneLine s) :=
  decidable_of_iff _ all_not_contains_iff

/-! ### Texts put together -/

@[simp] theorem oneLine_append {s t : String} : OneLine (s ++ t) ↔ OneLine s ∧ OneLine t := by
  simp only [OneLine, String.toList_append, List.forall_mem_append]

theorem oneLine_intercalate {separator : String} {ss : List String} (hsep : OneLine separator)
    (hss : ∀ s ∈ ss, OneLine s) : OneLine (separator.intercalate ss) := by
  intro c hc
  rw [String.toList_intercalate] at hc
  rcases mem_intercalate hc with hc | ⟨w, hw, hc⟩
  · exact hsep c hc
  · obtain ⟨s, hs, rfl⟩ := List.mem_map.1 hw
    exact hss s hs c hc

/-- Plain text is one line. -/
theorem oneLine_of_plain {s : String}
    (h : s.toList.all (fun c => ' ' ≤ c ∧ c ≤ '~') = true) : OneLine s := by
  have hnone : lineBreaks.all (fun c => !decide (' ' ≤ c ∧ c ≤ '~')) = true := by decide
  intro c hc hbreak
  have hplain := List.all_eq_true.1 h c hc
  have hnot := List.all_eq_true.1 hnone c hbreak
  simp only [hplain, Bool.not_true, Bool.false_eq_true] at hnot

/-! ### Words -/

theorem isBlank_of_mem_lineBreaks {c : Char} (hc : c ∈ lineBreaks) : isBlank c = true := by
  have hall : lineBreaks.all isBlank = true := by decide
  exact List.all_eq_true.1 hall c hc

/-- Lines are broken between words, never inside one. -/
theorem oneLine_of_mem_words {text word : String} (hword : word ∈ words text) : OneLine word := by
  obtain ⟨w, hw, rfl⟩ := List.mem_map.1 hword
  intro c hc hbreak
  rw [String.toList_ofList] at hc
  have hletter := (mem_wordLists hw).2 c hc
  rw [isBlank_of_mem_lineBreaks hbreak] at hletter
  cases hletter

/-! ### Numbers -/

/-- A numeral in a base up to sixteen is made of sixteen digits. -/
theorem mem_toDigits_cases {b n : Nat} {c : Char} (hb : 1 < b) (hc : c ∈ Nat.toDigits b n) :
    ∃ d < b, c = d.digitChar := by
  induction n using Nat.strongRecOn with
  | ind n ih =>
    rw [Nat.toDigits_eq_if hb] at hc
    split at hc
    · next hn => exact ⟨n, hn, List.mem_singleton.1 hc⟩
    · next hn =>
      rcases List.mem_append.1 hc with hfront | hlast
      · exact ih (n / b) (Nat.div_lt_self (by omega) hb) hfront
      · exact ⟨n % b, Nat.mod_lt n (by omega), List.mem_singleton.1 hlast⟩

theorem digitChar_not_mem_lineBreaks : ∀ d < 16, d.digitChar ∉ lineBreaks := by
  decide

theorem toDigits_not_mem_lineBreaks {n : Nat} {c : Char} (hc : c ∈ Nat.toDigits 16 n) :
    c ∉ lineBreaks := by
  obtain ⟨d, hd, rfl⟩ := mem_toDigits_cases (by decide) hc
  exact digitChar_not_mem_lineBreaks d hd

@[simp] theorem oneLine_intRepr (n : Int) : OneLine n.repr := by
  intro c hc hbreak
  have hnone : lineBreaks.all (!isNumeric ·) = true := by decide
  have hnumeric := List.all_eq_true.1 hnone c hbreak
  rw [isNumeric_of_mem_repr hc] at hnumeric
  cases hnumeric

@[simp] theorem oneLine_natRepr (n : Nat) : OneLine n.repr :=
  oneLine_intRepr n

/-! ### Quoted texts -/

theorem not_isPrintable_of_mem_lineBreaks {c : Char} (hc : c ∈ lineBreaks) :
    (!isPrintable c) = true := by
  have hall : lineBreaks.all (!isPrintable ·) = true := by decide +kernel
  exact List.all_eq_true.1 hall c hc

theorem mem_escapeCode {n : Nat} {c : Char} (hc : c ∈ escapeCode n) : c ∉ lineBreaks := by
  have hpadded : ∀ {width : Nat}, c ∈ hexPadded width n → c ∉ lineBreaks := by
    intro width hmem
    rcases List.mem_append.1 hmem with hzero | hdigit
    · rw [List.eq_of_mem_replicate hzero]
      decide
    · exact toDigits_not_mem_lineBreaks hdigit
  unfold escapeCode at hc
  split_ifs at hc
  all_goals
    rcases List.mem_cons.1 hc with rfl | hc
    · decide
    · rcases List.mem_cons.1 hc with rfl | hc
      · decide
      · exact hpadded hc

/-- Whatever a character is written as between quotation marks breaks no line. -/
theorem mem_escapeChar {mark c d : Char} (hmark : mark ∉ lineBreaks)
    (hd : d ∈ escapeChar mark c) : d ∉ lineBreaks := by
  have hletter : ∀ e : Char, e ∉ lineBreaks → d ∈ ['\\', e] → d ∉ lineBreaks := by
    intro e he hmem
    rcases List.mem_pair.1 hmem with rfl | rfl
    · decide
    · exact he
  unfold escapeChar at hd
  split_ifs at hd with hself hfeed hreturn htab hprints
  · refine hletter c ?_ hd
    rcases hself with rfl | rfl
    · decide
    · exact hmark
  · exact hletter 'n' (by decide) hd
  · exact hletter 'r' (by decide) hd
  · exact hletter 't' (by decide) hd
  · intro hbreak
    obtain rfl := List.mem_singleton.1 hd
    have hnot := not_isPrintable_of_mem_lineBreaks hbreak
    rw [hprints] at hnot
    cases hnot
  · exact mem_escapeCode hd

/-- A quoted text is one line, whatever is quoted. -/
@[simp] theorem oneLine_quote (s : String) : OneLine (quote s) := by
  have hmark : quotationMark s.toList ∉ lineBreaks := by
    unfold quotationMark
    split <;> decide
  intro c hc
  rw [quote, String.toList_ofList] at hc
  rcases List.mem_cons.1 hc with rfl | hc
  · exact hmark
  · rcases List.mem_append.1 hc with hbody | hend
    · obtain ⟨d, -, hcd⟩ := List.mem_flatMap.1 hbody
      exact mem_escapeChar hmark hcd
    · rw [List.mem_singleton.1 hend]
      exact hmark

end RollPad.Text

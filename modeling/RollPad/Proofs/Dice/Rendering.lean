import RollPad.Proofs.Dice.Replay
import RollPad.Proofs.Text.Separated

/-!
Renderings. What a report says in words can be taken apart again: a term ends before the colon, its
faces before the bracket that closes them, no term holds a semicolon, and the grand total begins
behind the last character that belongs to no number. So an explanation tells the rolls
(`explainRolls_inj`), and the three texts of a description tell the roll of its term
(`TermRoll.eq_of_describe`), whatever numbers stand there. The main statement is
`renderings_tell_rolls`.
-/

namespace RollPad

open Text

/-! ### Terms -/

theorem Term.text_inj {t u : Term} (h : t.text = u.text) : t = u := by
  have hlist : t.text.toList = u.text.toList := congrArg String.toList h
  rw [Term.toList_text, Term.toList_text] at hlist
  have hdigits : ∀ n : Nat, ∀ c ∈ Nat.toDigits 10 n, c.isDigit = true := by
    intro n c hc
    exact isDigit_of_mem_toDigits hc
  obtain ⟨hcount, hrest⟩ := append_inj_of_break (hdigits t.count) (hdigits u.count)
    (by simp) (by simp) hlist
  have hcount := toDigits_injective hcount
  have hsides := toDigits_injective (List.cons.inj hrest).2
  cases t
  cases u
  simp_all

/-! ### Faces -/

theorem toList_joinNumbers (separator : String) (ns : List Int) :
    (joinNumbers separator ns).toList =
      separator.toList.intercalate (ns.map fun n => n.repr.toList) := by
  simp [joinNumbers, String.toList_intercalate, Function.comp_def]

theorem mem_joinNumbers {separator : String} {ns : List Int} {c : Char}
    (hc : c ∈ (joinNumbers separator ns).toList) :
    c ∈ separator.toList ∨ isNumeric c = true := by
  rw [toList_joinNumbers] at hc
  rcases mem_intercalate hc with hsep | ⟨w, hw, hcw⟩
  · exact .inl hsep
  · obtain ⟨n, -, rfl⟩ := List.mem_map.1 hw
    exact .inr (isNumeric_of_mem_repr hcw)

/-- Numbers can be told from the text that they make up, as long as the separator does not begin
like a number. -/
theorem joinNumbers_inj {separator : String} {first : Char}
    (hseparator : separator.toList.head? = some first) (hfirst : isNumeric first = false)
    {ns ms : List Int} (h : joinNumbers separator ns = joinNumbers separator ms) : ns = ms := by
  have hlist := congrArg String.toList h
  rw [toList_joinNumbers, toList_joinNumbers] at hlist
  have hpieces : ∀ ks : List Int, ∀ w ∈ ks.map fun n => n.repr.toList,
      w ≠ [] ∧ ∀ c ∈ w, isNumeric c = true := by
    intro ks w hw
    obtain ⟨n, -, rfl⟩ := List.mem_map.1 hw
    exact ⟨repr_ne_nil n, fun c hc => isNumeric_of_mem_repr hc⟩
  have hmap := intercalate_inj hseparator hfirst (hpieces ns) (hpieces ms) hlist
  rwa [List.map_inj_right] at hmap
  intro n m hnm
  exact repr_injective (String.toList_inj.1 hnm)

/-! ### Term rolls -/

namespace TermRoll

theorem toList_explanation (r : TermRoll) :
    r.explanation.toList = r.term.text.toList ++ (": rolls [".toList ++
      ((joinNumbers ", " r.faces).toList ++ ("] => ".toList ++ r.total.repr.toList))) := by
  simp [explanation, String.toList_append]

theorem eq_of_parts {r q : TermRoll} (hterm : r.term = q.term) (hfaces : r.faces = q.faces)
    (htotal : r.total = q.total) : r = q := by
  cases r
  cases q
  simp_all

/-- A term roll is told by its explanation. -/
theorem explanation_inj {r q : TermRoll} (h : r.explanation = q.explanation) : r = q := by
  have hlist := congrArg String.toList h
  rw [toList_explanation, toList_explanation] at hlist
  have hterms : ∀ t : Term, ∀ c ∈ t.text.toList, (c != ':') = true := by
    intro t c hc
    rcases Term.mem_text hc with hd | rfl
    · exact bne_iff_ne.2 fun h => by simp [h] at hd
    · decide
  have hfaces : ∀ ns : List Int, ∀ c ∈ (joinNumbers ", " ns).toList, (c != ']') = true := by
    intro ns c hc
    rcases mem_joinNumbers hc with hsep | hn
    · exact bne_iff_ne.2 fun h => by simp [h] at hsep
    · exact bne_iff_ne.2 fun h => by simp [h, isNumeric] at hn
  obtain ⟨htext, hrest⟩ := append_inj_of_break (hterms r.term) (hterms q.term) (by simp) (by simp)
    hlist
  obtain ⟨hnumbers, hrest⟩ := append_inj_of_break (hfaces r.faces) (hfaces q.faces) (by simp)
    (by simp) (List.append_cancel_left hrest)
  have hsum := List.append_cancel_left hrest
  rw [String.toList_inj] at htext hnumbers hsum
  exact eq_of_parts (Term.text_inj htext) (joinNumbers_inj rfl rfl hnumbers) (repr_injective hsum)

theorem explanation_ne_nil (r : TermRoll) : r.explanation.toList ≠ [] := by
  rw [toList_explanation]
  simp

theorem semicolon_not_mem_explanation (r : TermRoll) :
    ∀ c ∈ r.explanation.toList, (c != ';') = true := by
  intro c hc
  rw [bne_iff_ne]
  rintro rfl
  rw [toList_explanation] at hc
  simp only [List.mem_append] at hc
  rcases hc with hterm | hlead | hfaces | harrow | htotal
  · rcases Term.mem_text hterm with hd | hd
    · exact absurd hd (by decide)
    · exact absurd hd (by decide)
  · simp at hlead
  · rcases mem_joinNumbers hfaces with hsep | hn
    · simp at hsep
    · simp [isNumeric] at hn
  · simp at harrow
  · exact absurd (isNumeric_of_mem_repr htotal) (by decide)

/-- The three texts of a description tell the roll. -/
theorem eq_of_describe {r q : TermRoll} (hformula : r.describe.formula = q.describe.formula)
    (hfaces : r.describe.facesText = q.describe.facesText)
    (htotal : r.describe.totalText = q.describe.totalText) : r = q := by
  have hnumbers : joinNumbers " " r.faces = joinNumbers " " q.faces :=
    String.append_right_inj _ |>.1 hfaces
  have hsum : r.total.repr = q.total.repr := String.append_right_inj _ |>.1 htotal
  exact eq_of_parts (Term.text_inj hformula) (joinNumbers_inj rfl rfl hnumbers)
    (repr_injective hsum)

end TermRoll

/-! ### Explanations of rolls -/

theorem toList_explainRolls (rolls : List TermRoll) :
    (explainRolls rolls).toList =
      ("; ".toList.intercalate (rolls.map fun r => r.explanation.toList) ++ " => ".toList) ++
        (grandTotal rolls).repr.toList := by
  simp [explainRolls, String.toList_append, String.toList_intercalate, Function.comp_def]

/-- The rolls can be told from their explanation. -/
theorem explainRolls_inj {rolls others : List TermRoll}
    (h : explainRolls rolls = explainRolls others) : rolls = others := by
  have hlist := congrArg String.toList h
  rw [toList_explainRolls, toList_explainRolls] at hlist
  -- the grand total is all that is numeric at the end
  obtain ⟨hbody, -⟩ := append_inj_of_break_last (p := isNumeric) (by simp [isNumeric])
    (by simp [isNumeric]) (fun c hc => isNumeric_of_mem_repr hc)
    (fun c hc => isNumeric_of_mem_repr hc) hlist
  have hpieces : ∀ rs : List TermRoll, ∀ w ∈ rs.map fun r => r.explanation.toList,
      w ≠ [] ∧ ∀ c ∈ w, (c != ';') = true := by
    intro rs w hw
    obtain ⟨r, -, rfl⟩ := List.mem_map.1 hw
    exact ⟨r.explanation_ne_nil, r.semicolon_not_mem_explanation⟩
  have hmap := intercalate_inj (p := (· != ';')) rfl rfl (hpieces rolls)
    (hpieces others) (List.append_cancel_right hbody)
  rwa [List.map_inj_right] at hmap
  intro r q hrq
  exact TermRoll.explanation_inj (String.toList_inj.1 hrq)

/-! ### Reports -/

/-- What a report explains and adds up are its rolls. -/
theorem explanation_and_total_of_rollText {text : Option String} {s : Source} {h : Host}
    {report : Report} (hok : (rollText text s h).1 = .ok report) :
    report.explanation = explainRolls report.rolls ∧ report.total = grandTotal report.rolls := by
  rcases hrolled : rollText text s h with ⟨answer, s', h'⟩
  rw [hrolled] at hok
  obtain rfl : answer = .ok report := hok
  obtain ⟨terms, rolls, -, -, rfl, -⟩ := rollText_eq_ok_iff.1 hrolled
  exact ⟨rfl, rfl⟩

/-- No rendering of a roll loses anything. Two reports with the same explanation are about the same
terms with the same faces and totals, and have the same grand total; and two term rolls that are
described in the same words are the same, whatever numbers their faces and totals are. -/
theorem renderings_tell_rolls :
    (∀ (text text' : Option String) (s s' : Source) (h h' : Host) (report report' : Report),
      (rollText text s h).1 = .ok report → (rollText text' s' h').1 = .ok report' →
      report.explanation = report'.explanation →
      report.rolls = report'.rolls ∧ report.total = report'.total) ∧
    ∀ r q : TermRoll, r.describe.formula = q.describe.formula →
      r.describe.facesText = q.describe.facesText → r.describe.totalText = q.describe.totalText →
      r = q := by
  constructor
  · intro text text' s s' h h' report report' hreport hreport' hsame
    obtain ⟨hexplained, htotal⟩ := explanation_and_total_of_rollText hreport
    obtain ⟨hexplained', htotal'⟩ := explanation_and_total_of_rollText hreport'
    rw [hexplained, hexplained'] at hsame
    have hrolls := explainRolls_inj hsame
    exact ⟨hrolls, by rw [htotal, htotal', hrolls]⟩
  · intro r q hformula hfaces htotal
    exact TermRoll.eq_of_describe hformula hfaces htotal

/-- Two spellings of an expression, rolled with sources that stand at different places and draw the
same there; and a term roll without faces and with a negative total. -/
theorem renderings_tell_rolls_respelled :
    let half := Binary64.ofRatio false Binary64.unitsPerOne 2
    let early : Source := ⟨.cycle, [half], by decide, 0⟩
    let late : Source := ⟨.cycle, [half], by decide, 7⟩
    let twelve : Term := ⟨12, 3, by decide, by decide⟩
    (∃ report report', (rollText (some "2d6 1d8") early {}).1 = .ok report ∧
      (rollText (some " 02D6\t1d8") late {}).1 = .ok report' ∧ report ≠ report' ∧
      report.rolls = report'.rolls ∧ report.total = report'.total) ∧
    (⟨twelve, [], -3⟩ : TermRoll) = ⟨twelve, [], -1 - 2⟩ := by
  intro half early late twelve
  constructor
  · let rolls : List TermRoll :=
      [⟨⟨2, 6, by decide, by decide⟩, [4, 4], 8⟩, ⟨⟨1, 8, by decide, by decide⟩, [5], 5⟩]
    let report := Report.ofRolls "2d6 1d8" (rolls.map TermRoll.term) early rolls
    let report' := Report.ofRolls " 02D6\t1d8" (rolls.map TermRoll.term) late rolls
    have hreport : (rollText (some "2d6 1d8") early {}).1 = .ok report := by decide +kernel
    have hreport' : (rollText (some " 02D6\t1d8") late {}).1 = .ok report' := by decide +kernel
    exact ⟨report, report', hreport, hreport', by decide,
      renderings_tell_rolls.1 _ _ _ _ _ _ _ _ hreport hreport' rfl⟩
  · exact renderings_tell_rolls.2 _ _ rfl rfl rfl

end RollPad

import RollPad.Proofs.Dice.Roll
import RollPad.Proofs.Notation.Canonical
import RollPad.Proofs.Notation.Spacing
import RollPad.Proofs.Settings.InUse

/-!
Reports. A report tells one roll in several ways: by the term rolls, by their descriptions, by two
totals and by the expression. All of them follow from the terms that were read and the faces that
were rolled (`rollText_eq_ok_iff`), so they agree. What a report depends on is the terms, the limits
and the draws, and its expression and the normal form of its input are read as the same terms within
the same limits; rolled from the same place of the source they give the same report. The main
statement is `report_agrees_and_replays`.
-/

namespace RollPad

/-- The roll of a term agrees with a description: the description shows the same term, the same
faces, as many as the term asks for, and the same total, which is their sum. -/
structure TermRoll.AgreesWith (r : TermRoll) (d : Description) : Prop where
  formula_eq : d.formula = r.term.text
  faces_eq : d.faces = r.faces
  total_eq : d.total = r.total
  length_faces : d.faces.length = r.term.count
  total_eq_sum : d.total = d.faces.sum

/-! ### Descriptions and totals -/

theorem TermRoll.Adds.agreesWith {r : TermRoll} (h : r.Adds) : r.AgreesWith r.describe :=
  ⟨rfl, rfl, rfl, h.length_faces, h.total_eq⟩

theorem grandTotal_eq_sum {rolls : List TermRoll} (h : ∀ r ∈ rolls, r.Adds) :
    grandTotal rolls = (rolls.flatMap TermRoll.faces).sum := by
  rw [grandTotal, sumOf_eq_sum]
  induction rolls with
  | nil => rfl
  | cons r rest ih =>
    obtain ⟨hr, hrest⟩ := List.forall_mem_cons.1 h
    simp [ih hrest, hr.total_eq]

theorem intercalate_formulas (rolls : List TermRoll) :
    " ".intercalate ((rolls.map TermRoll.describe).map Description.formula) =
      formatTerms (rolls.map TermRoll.term) := by
  rw [formatTerms, List.map_map, List.map_map]
  rfl

/-! ### Rolling a text -/

/-- A report comes from terms that were read and rolls of these terms, and from nothing else. -/
theorem rollText_eq_ok_iff {text : Option String} {s s' : Source} {h h' : Host} {report : Report} :
    rollText text s h = (.ok report, s', h') ↔
      ∃ terms rolls, (h.readTerms text).1 = .ok (.ok terms) ∧
        rollTerms terms s = (.ok rolls, s') ∧
        report = Report.ofRolls (text.getD "") terms s' rolls ∧
        h' = (h.readTerms text).2.emit (reportRecord terms report.total) := by
  unfold rollText
  rcases hr : h.readTerms text with ⟨e | cause | terms, h₁⟩
  · simp
  · simp
  · dsimp only
    rcases hroll : rollTerms terms s with ⟨e | rolls, s₁⟩
    · constructor
      · intro heq
        cases heq
      · rintro ⟨terms', rolls', hterms, hrolls, -⟩
        obtain rfl : terms = terms' := by simpa using hterms
        simp [hroll] at hrolls
    · constructor
      · intro heq
        cases heq
        exact ⟨terms, rolls, rfl, hroll, rfl, rfl⟩
      · rintro ⟨terms', rolls', hterms, hrolls, rfl, rfl⟩
        obtain rfl : terms = terms' := by simpa using hterms
        obtain ⟨rfl, rfl⟩ : rolls = rolls' ∧ s₁ = s' := by simpa [hroll] using hrolls
        rfl

/-! ### Rolling it again -/

theorem normalize_formatTerms (ts : List Term) :
    Text.normalize (formatTerms ts) = formatTerms ts := by
  rw [← String.toList_inj, Text.toList_normalize, wordLists_formatTerms, toList_formatTerms]

/-- The expression of terms that were read is read as the same terms, and so is the normal form of
the text that they were read from. -/
theorem readTerms_replay {limits : Limits} {text : String} {ts : List Term}
    (hread : readTerms limits text = .ok ts) :
    readTerms limits (formatTerms ts) = .ok ts ∧
      readTerms limits (Text.normalize text) = .ok ts := by
  constructor
  · obtain ⟨hne, hshort, hfits⟩ := writable_of_readTerms hread
    exact readTerms_formatTerms hne hshort hfits
  · have hwords : Text.words (Text.normalize text) = Text.words text := by
      rw [Text.words, Text.words, Text.wordLists_normalize]
    rw [readTerms_of_words_eq hwords, hread]

namespace Host

/-- A host on which terms have been read has settings in use, and they hold the limits that were in
force. -/
theorem exists_settings_of_readTerms {h : Host} {text : String} {ts : List Term}
    (hread : (h.readTerms (some text)).1 = .ok (.ok ts)) :
    ∃ settings, (h.readTerms (some text)).2.settings = some settings ∧
      (h.limitsFor {}).1 = .ok settings.limits := by
  unfold readTerms at hread ⊢
  cases hf : (some text).filter (!Text.isBlankText ·) with
  | none => simp [hf] at hread
  | some text' =>
    simp only [hf, limitsFor, LimitRequest.complete?] at hread ⊢
    rcases hu : h.useSettings with ⟨e | settings, h'⟩
    · simp [hu] at hread
    · exact ⟨settings, by simpa using settings_of_useSettings hu, by simp [LimitRequest.fill]⟩

theorem fst_limitsFor_of_settings {h : Host} {settings : Settings}
    (hs : h.settings = some settings) : (h.limitsFor {}).1 = .ok settings.limits := by
  simp [limitsFor, LimitRequest.complete?, useSettings_of_settings hs, LimitRequest.fill]

end Host

/-- A report tells one roll in all its parts. Its term rolls are those of the parsed terms, in
order; each agrees with its description, the total is the sum of all faces, and the formulas of the
descriptions make up the expression. The roll leaves the limits in force as they were. Wherever
these limits are in force, the expression and the normal form of the input, rolled from the same
place of the source, give the same report on themselves and leave the source at the same place. -/
theorem report_agrees_and_replays {text : Option String} {s s' : Source} {h h' : Host}
    {report : Report} (hrolled : rollText text s h = (.ok report, s', h')) :
    (h.parse text).1 = .ok (.ok (report.rolls.map TermRoll.term)) ∧
      List.Forall₂ TermRoll.AgreesWith report.rolls report.descriptions ∧
      report.total = (report.rolls.flatMap TermRoll.faces).sum ∧
      " ".intercalate (report.descriptions.map Description.formula) = report.expression ∧
      (h'.limitsFor {}).1 = (h.limitsFor {}).1 ∧
      ∀ (host : Host) (again : String), (host.limitsFor {}).1 = (h.limitsFor {}).1 →
        again = report.expression ∨ again = report.normalizedInput →
        ∃ host', rollText (some again) s host =
          (.ok { report with input := again, normalizedInput := again }, s', host') := by
  obtain ⟨terms, rolls, hread, hrolls, rfl, rfl⟩ := rollText_eq_ok_iff.1 hrolled
  obtain ⟨rfl, hadds, -⟩ := rollTerms_spec hrolls
  cases text with
  | none => cases hread
  | some text =>
    obtain ⟨limits, hlimits, hterms⟩ := Host.exists_limitsFor_of_readTerms hread
    refine ⟨by rw [Host.fst_parse, hread]; rfl, ?_, grandTotal_eq_sum hadds,
      intercalate_formulas rolls, ?_, ?_⟩
    · rw [Report.descriptions, List.forall₂_map_right_iff, List.forall₂_same]
      intro r hr
      exact (hadds r hr).agreesWith
    · obtain ⟨settings, hsettings, hbefore⟩ := Host.exists_settings_of_readTerms hread
      rw [hbefore]
      refine Host.fst_limitsFor_of_settings ?_
      exact (Host.sameButLog_emit _ _).settings.trans hsettings
    · intro host again hsame hagain
      obtain ⟨hcanonical, hnormal⟩ := readTerms_replay hterms
      have hreadAgain : readTerms limits again = .ok (rolls.map TermRoll.term) := by
        rcases hagain with rfl | rfl
        · exact hcanonical
        · exact hnormal
      have hnormalized : Text.normalize again = again := by
        rcases hagain with rfl | rfl
        · exact normalize_formatTerms _
        · exact Text.normalize_normalize text
      have hhost := Host.fst_readTerms_of_limitsFor (hsame.trans hlimits) again
      rw [hreadAgain] at hhost
      refine ⟨_, rollText_eq_ok_iff.2 ⟨_, rolls, hhost, hrolls, ?_, rfl⟩⟩
      simp [Report.ofRolls, hnormalized]

/-- A text in other than canonical notation, rolled from the second draw on, and its expression,
rolled from there again. -/
theorem report_agrees_and_replays_messy_text :
    let half := Binary64.ofRatio false Binary64.unitsPerOne 2
    let s : Source := ⟨.cycle, [half, .finite false .zero], by decide, 1⟩
    let rolls : List TermRoll :=
      [⟨⟨3, 6, by decide, by decide⟩, [1, 4, 1], 6⟩, ⟨⟨1, 20, by decide, by decide⟩, [11], 11⟩]
    let report := Report.ofRolls " 03D6\t1d20" (rolls.map TermRoll.term) s rolls
    ∃ h', rollText (some " 03D6\t1d20") s {} = (.ok report, s.advance 4, h') ∧
      report.total = (report.rolls.flatMap TermRoll.faces).sum ∧
      ∃ host', rollText (some "3d6 1d20") s h' =
        (.ok { report with input := "3d6 1d20", normalizedInput := "3d6 1d20" }, s.advance 4,
          host') := by
  intro half s rolls report
  have hreport : (rollText (some " 03D6\t1d20") s {}).1 = .ok report := by decide +kernel
  have hsource : (rollText (some " 03D6\t1d20") s {}).2.1 = s.advance 4 := by decide +kernel
  rcases hrolled : rollText (some " 03D6\t1d20") s {} with ⟨answer, s', h'⟩
  rw [hrolled] at hreport hsource
  obtain rfl : answer = .ok report := hreport
  obtain rfl : s' = s.advance 4 := hsource
  have hexpression : "3d6 1d20" = report.expression := by decide +kernel
  obtain ⟨-, -, htotal, -, hlimits, hreplay⟩ := report_agrees_and_replays hrolled
  exact ⟨h', rfl, htotal, hreplay h' "3d6 1d20" hlimits (.inl hexpression)⟩

end RollPad

import RollPad.Proofs.Notation.Grammar

/-!
Expressions behind one another. White space between two texts separates their words
(`Text.words_append_of_blank`), and the reader goes through words with a running total, so what it
makes of a concatenation is decided by the first text alone if that is refused, and else by the
second with what the first has left of the total (`readTerms_append`). What carries it is that dice
rolled before count like a lower total (`readTermsFrom_add`): a fault in a word does not depend on
the total, and only the refusal for the total itself names it. The main statement is
`readTerms_concatenation`.
-/

namespace RollPad

namespace Text

/-- White space between two texts separates their words. -/
theorem words_append_of_blank (a b : String) {w : String} (hne : w ≠ "")
    (hw : isBlankText w = true) : words (a ++ w ++ b) = words a ++ words b := by
  have hblank : ∀ c ∈ w.toList, isBlank c = true := List.all_eq_true.1 hw
  cases hc : w.toList with
  | nil => exact absurd (String.toList_eq_nil_iff.1 hc) hne
  | cons c cs =>
    rw [hc, List.forall_mem_cons] at hblank
    rw [words, String.toList_append, String.toList_append, hc, List.append_assoc, List.cons_append,
      wordLists_append_cons _ _ hblank.1, wordLists_blank_append hblank.2, List.map_append]
    rfl

end Text

/-- The limits when so many dice of the total are spent. -/
def Limits.lowerTotal (limits : Limits) (dice : Nat) : Limits :=
  { limits with maxTotal := limits.maxTotal - dice }

namespace NotationError

/-- The cause with another total in it, if it names the total. -/
def withTotal (limit : Int) : NotationError → NotationError
  | tooManyInTotal _ => tooManyInTotal limit
  | e => e

/-- The word at fault, where it is one word. -/
def token? : NotationError → Option String
  | notATerm token | tooLong _ token | noDice token | noSides token | tooManyDice token _
  | tooManySides token _ => some token
  | empty | tooManyInTotal _ => none

/-- What is the fault of one word does not name the total. -/
theorem withTotal_of_token? {e : NotationError} {token : String} (h : e.token? = some token)
    (limit : Int) : e.withTotal limit = e := by
  cases e with
  | tooManyInTotal _ => cases h
  | _ => rfl

end NotationError

/-! ### One word -/

namespace Term

/-- The total plays no part in reading one word. -/
theorem read_lowerTotal (limits : Limits) (dice : Nat) (token : String) :
    read (limits.lowerTotal dice) token = read limits token := rfl

/-- The fault of a word names it. -/
theorem Fault.token?_eq {limits : Limits} {token : String} {e : NotationError}
    (h : Fault limits token e) : e.token? = some token := by
  cases h <;> rfl

/-- A word by itself is never refused for the total. -/
theorem withTotal_of_read {limits : Limits} {token : String} {e : NotationError}
    (h : read limits token = .error e) (limit : Int) : e.withTotal limit = e :=
  NotationError.withTotal_of_token? (fault_of_read h).token?_eq limit

end Term

/-! ### One word after another -/

/-- The words in front are read first; those behind are read with the dice of all before them. -/
theorem readTermsFrom_append (limits : Limits) (before : Nat) (xs ys : List String) :
    readTermsFrom limits before (xs ++ ys) =
      readTermsFrom limits before xs >>= fun ts =>
        (readTermsFrom limits (before + diceTotal ts) ys).map (ts ++ ·) := by
  induction xs generalizing before with
  | nil =>
    change _ = (readTermsFrom limits before ys).map id
    rw [Except.map_id]
    rfl
  | cons x xs ih =>
    rw [List.cons_append]
    cases hr : Term.read limits x with
    | error e => rw [readTermsFrom_cons_of_error hr, readTermsFrom_cons_of_error hr]; rfl
    | ok t =>
      by_cases hlt : limits.maxTotal < (before + t.count : Nat)
      · rw [readTermsFrom_cons_of_lt hr hlt, readTermsFrom_cons_of_lt hr hlt]
        rfl
      · rw [readTermsFrom_cons_of_not_lt hr hlt, readTermsFrom_cons_of_not_lt hr hlt, ih]
        cases readTermsFrom limits (before + t.count) xs with
        | error e => rfl
        | ok ts =>
          simp only [bind, Except.bind, Except.map, diceTotal_cons, Nat.add_assoc]
          cases readTermsFrom limits (before + (t.count + diceTotal ts)) ys <;> rfl

/-- Dice that are counted from the start are as good as a lower total, but for the total that a
refusal names. -/
theorem readTermsFrom_add (limits : Limits) (dice before : Nat) (tokens : List String) :
    readTermsFrom limits (dice + before) tokens =
      (readTermsFrom (limits.lowerTotal dice) before tokens).mapError
        (·.withTotal limits.maxTotal) := by
  induction tokens generalizing before with
  | nil => rfl
  | cons token rest ih =>
    cases hr : Term.read limits token with
    | error e =>
      have hlower := (Term.read_lowerTotal limits dice token).trans hr
      rw [readTermsFrom_cons_of_error hr, readTermsFrom_cons_of_error hlower, Except.mapError,
        Term.withTotal_of_read hr]
    | ok t =>
      have hlower := (Term.read_lowerTotal limits dice token).trans hr
      have htotal : (limits.lowerTotal dice).maxTotal = limits.maxTotal - dice := rfl
      by_cases hlt : limits.maxTotal < (dice + before + t.count : Nat)
      · rw [readTermsFrom_cons_of_lt hr hlt, readTermsFrom_cons_of_lt hlower (by omega)]
        rfl
      · rw [readTermsFrom_cons_of_not_lt hr hlt,
          readTermsFrom_cons_of_not_lt hlower (by omega), Nat.add_assoc, ih]
        cases readTermsFrom (limits.lowerTotal dice) (before + t.count) rest <;> rfl

/-! ### One text after another -/

theorem readTerms_of_not_blank (limits : Limits) {text : String}
    (h : Text.isBlankText text = false) :
    readTerms limits text = readTermsFrom limits 0 (Text.words text) := by
  rw [readTerms, h, if_neg Bool.false_ne_true, Text.tokens_eq_words h]

/-- A concatenation is read as its first text, and then as its second with the rest of the
total. -/
theorem readTerms_append (limits : Limits) {a w b : String} (ha : Text.isBlankText a = false)
    (hne : w ≠ "") (hw : Text.isBlankText w = true) (hb : Text.isBlankText b = false) :
    readTerms limits (a ++ w ++ b) = readTerms limits a >>= fun ts =>
      ((readTerms (limits.lowerTotal (diceTotal ts)) b).mapError
        (·.withTotal limits.maxTotal)).map (ts ++ ·) := by
  have hall : Text.isBlankText (a ++ w ++ b) = false := by
    rw [Text.isBlankText] at ha ⊢
    simp [ha]
  simp only [readTerms_of_not_blank, ha, hb, hall, Text.words_append_of_blank a b hne hw,
    readTermsFrom_append, ← readTermsFrom_add, Nat.zero_add, Nat.add_zero]

section Concatenation

variable {limits : Limits} {a w b : String} {ts us : List Term} {cause : NotationError}
  (ha : Text.isBlankText a = false) (hne : w ≠ "") (hw : Text.isBlankText w = true)
  (hb : Text.isBlankText b = false)

include ha hne hw hb

/-- A fault of the first text is that of the concatenation. -/
theorem readTerms_append_of_error (hfirst : readTerms limits a = .error cause) :
    readTerms limits (a ++ w ++ b) = .error cause := by
  rw [readTerms_append limits ha hne hw hb, hfirst]
  rfl

/-- Behind a text that is read, the second is read with the rest of the total. -/
theorem readTerms_append_eq_ok_iff (hfirst : readTerms limits a = .ok ts) :
    readTerms limits (a ++ w ++ b) = .ok (ts ++ us) ↔
      readTerms (limits.lowerTotal (diceTotal ts)) b = .ok us := by
  rw [readTerms_append limits ha hne hw hb, hfirst]
  change Except.map _ (Except.mapError _ (readTerms _ b)) = _ ↔ _
  cases readTerms (limits.lowerTotal (diceTotal ts)) b <;> simp [Except.map, Except.mapError]

/-- Behind a text that is read, a fault of the second is that of the concatenation, which names the
whole total. -/
theorem readTerms_append_of_error_behind (hfirst : readTerms limits a = .ok ts)
    (hsecond : readTerms (limits.lowerTotal (diceTotal ts)) b = .error cause) :
    readTerms limits (a ++ w ++ b) = .error (cause.withTotal limits.maxTotal) := by
  rw [readTerms_append limits ha hne hw hb, hfirst]
  change Except.map _ (Except.mapError _ (readTerms _ b)) = _
  rw [hsecond]
  rfl

end Concatenation

theorem Host.fst_readTerms_ofLimits (h : Host) (text : String) (limits : Limits) :
    (h.readTerms (some text) (.ofLimits limits)).1 = answerOf (RollPad.readTerms limits text) :=
  fst_readTerms_of_limitsFor rfl text

/-- Of two texts with white space between them the first decides if it is refused, or if its refusal
cannot be told. If it is read, the second is read, or refused for the same cause, as it would be
with the dice of the first taken off the total; a refusal for the total names the total itself, if
that can be written out. Every text is read or refused, and every refusal begins with the same
words, unless a limit is too long to be written out. -/
theorem readTerms_concatenation (h : Host) (limits : Limits) {a w b : String}
    (ha : Text.isBlankText a = false) (hne : w ≠ "") (hw : Text.isBlankText w = true)
    (hb : Text.isBlankText b = false) :
    let read (limits : Limits) (text : String) :=
      (h.readTerms (some text) (.ofLimits limits)).1
    (∀ r, read limits a = .ok (.error r) → read limits (a ++ w ++ b) = .ok (.error r)) ∧
      (∀ e, read limits a = .error e → read limits (a ++ w ++ b) = .error e) ∧
      (∀ ts, read limits a = .ok (.ok ts) →
        let rest := limits.lowerTotal (diceTotal ts)
        (∀ us, read limits (a ++ w ++ b) = .ok (.ok (ts ++ us)) ↔ read rest b = .ok (.ok us)) ∧
          ∀ cause, readTerms rest b = .error cause →
            read rest b = answerOf (.error cause) ∧
              read limits (a ++ w ++ b) = answerOf (.error (cause.withTotal limits.maxTotal))) ∧
      ∀ limits text, (∃ ts, read limits text = .ok (.ok ts)) ∨
        (∃ r, read limits text = .ok (.error r) ∧
          NotationError.opening.toList <+: r.message.toList) ∨
        read limits text = .error .longNumber ∧ ¬limits.AreWritable := by
  intro read
  have hread : ∀ limits text, read limits text = answerOf (readTerms limits text) :=
    fun limits text => h.fst_readTerms_ofLimits text limits
  simp only [hread]
  refine ⟨fun r hr => ?_, fun e he => ?_, fun ts hts => ⟨fun us => ?_, fun cause hcause => ?_⟩,
    fun limits text => ?_⟩
  · rw [answerOf_eq_refusal_iff] at hr ⊢
    exact readTerms_append_of_error ha hne hw hb hr
  · obtain ⟨-, cause, -, hcause, -⟩ := answerOf_eq_error_iff.1 he
    rwa [readTerms_append_of_error ha hne hw hb hcause, ← hcause]
  · rw [answerOf_eq_terms_iff] at hts
    rw [answerOf_eq_terms_iff, answerOf_eq_terms_iff,
      readTerms_append_eq_ok_iff ha hne hw hb hts]
  · rw [answerOf_eq_terms_iff] at hts
    rw [readTerms_append_of_error_behind ha hne hw hb hts hcause, hcause]
    exact ⟨rfl, rfl⟩
  · obtain hterms | ⟨r, hr⟩ | hlong := answerOf_readTerms_cases limits text
    · exact .inl hterms
    · obtain ⟨reason, hreason⟩ := r.exists_message_eq
      refine .inr (.inl ⟨r, hr, ?_⟩)
      rw [hreason, String.toList_append]
      exact List.prefix_append _ _
    · exact .inr (.inr hlong)

/-- The second text asks for one die more than the first has left. -/
theorem readTerms_concatenation_spent_total :
    let limits : Limits := ⟨10, 20, 5⟩
    let ts : List Term := [⟨2, 6, by decide, by decide⟩]
    (Text.isBlankText "2d6" = false ∧ "\t " ≠ "" ∧ Text.isBlankText "\t " = true ∧
        Text.isBlankText "3d8 1D4" = false) ∧
      readTerms limits "2d6" = .ok ts ∧
      readTerms (limits.lowerTotal 2) "3d8 1D4" = .error (.tooManyInTotal 3) ∧
      (({} : Host).readTerms (some ("2d6" ++ "\t " ++ "3d8 1D4")) (.ofLimits limits)).1 =
        answerOf (.error (.tooManyInTotal 5)) := by
  intro limits ts
  have hparts : Text.isBlankText "2d6" = false ∧ "\t " ≠ "" ∧ Text.isBlankText "\t " = true ∧
      Text.isBlankText "3d8 1D4" = false := by decide +kernel
  have hfirst : readTerms limits "2d6" = .ok ts := by decide +kernel
  have hsecond : readTerms (limits.lowerTotal 2) "3d8 1D4" = .error (.tooManyInTotal 3) := by
    decide +kernel
  obtain ⟨ha, hne, hw, hb⟩ := hparts
  have hlaw := (readTerms_concatenation {} limits ha hne hw hb).2.2.1 ts
    ((Host.fst_readTerms_ofLimits _ _ _).trans (congrArg answerOf hfirst))
  exact ⟨⟨ha, hne, hw, hb⟩, hfirst, hsecond, (hlaw.2 (.tooManyInTotal 3) hsecond).2⟩

/-- A total that cannot be written out: what is raised is no refusal, and begins with other
words. -/
theorem refusal_not_told_for_long_total :
    let limits : Limits := ⟨10, 10, -10 ^ 4300⟩
    readTerms limits "1d6" = .error (.tooManyInTotal limits.maxTotal) ∧
      (({} : Host).readTerms (some "1d6") (.ofLimits limits)).1 = .error .longNumber ∧
      ¬NotationError.opening.toList <+: Failure.longNumber.message.toList := by
  intro limits
  exact ⟨by decide +kernel, by decide +kernel, by decide +kernel⟩

end RollPad

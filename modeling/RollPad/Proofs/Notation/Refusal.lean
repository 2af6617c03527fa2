import RollPad.Host.Notation

/-!
Refusals and their messages. What a reader finds at fault is one of the words or the total
(`fault_of_readTerms`), so a fault names at most one number, one of the limits
(`mem_of_limit?_of_readTerms`). If all limits can be written out there is a message for every fault
(`answerOf_readTerms_of_writable`); otherwise an answer is missing exactly where the fault names a
limit that is too long (`answerOf_eq_error_iff`). The limits of settings can be written out, so a
text that is read within them always gets an answer (`Host.fst_readTerms_eq_error_iff`).
-/

namespace RollPad

/-! ### Answers -/

section Answers

variable {x : Except NotationError (List Term)}

theorem answerOf_eq_terms_iff {ts : List Term} : answerOf x = .ok (.ok ts) ↔ x = .ok ts := by
  unfold answerOf
  cases x with
  | ok us => simp
  | error cause => by_cases told : cause.message?.isSome <;> simp [told]

theorem answerOf_eq_refusal_iff {r : Refusal} :
    answerOf x = .ok (.error r) ↔ x = .error r.cause := by
  obtain ⟨reason, told⟩ := r
  unfold answerOf
  cases x with
  | ok ts => simp
  | error cause =>
    by_cases hcause : cause.message?.isSome
    · simp [hcause]
    · have hne : cause ≠ reason := by
        rintro rfl
        exact hcause told
      simp [hcause, hne]

/-- Only a limit that cannot be written out keeps a fault from being told. -/
theorem answerOf_eq_error_iff {e : Failure} :
    answerOf x = .error e ↔ e = .longNumber ∧
      ∃ cause limit, x = .error cause ∧ cause.limit? = some limit ∧ ¬Text.IsWritable limit := by
  unfold answerOf
  cases x with
  | ok ts => simp
  | error cause =>
    have hmessage := cause.isSome_message?_iff
    by_cases told : cause.message?.isSome
    · simp only [told, dite_true, reduceCtorEq, Except.error.injEq, false_iff, not_and]
      rintro - ⟨_, limit, rfl, hlimit, hlong⟩
      exact hlong (hmessage.1 told limit hlimit)
    · have hlong : ∃ limit, cause.limit? = some limit ∧ ¬Text.IsWritable limit := by
        simpa using mt hmessage.2 told
      obtain ⟨limit, hlimit, hlong⟩ := hlong
      dsimp only
      rw [dif_neg told, Except.error.injEq]
      exact ⟨fun he => ⟨he.symm, cause, limit, rfl, hlimit, hlong⟩, fun h => h.1.symm⟩

end Answers

/-! ### Where the reader stops -/

/-- What can be wrong with one word. -/
inductive Term.Fault (limits : Limits) (token : String) : NotationError → Prop where
  | notATerm : Fault limits token (.notATerm token)
  | tooLong (part : TermPart) : Fault limits token (.tooLong part token)
  | noDice : Fault limits token (.noDice token)
  | noSides : Fault limits token (.noSides token)
  | tooManyDice : Fault limits token (.tooManyDice token limits.maxCount)
  | tooManySides : Fault limits token (.tooManySides token limits.maxSides)

theorem bind_eq_error_iff {ε α β : Type} {x : Except ε α} {f : α → Except ε β} {e : ε} :
    (x >>= f) = .error e ↔ x = .error e ∨ ∃ a, x = .ok a ∧ f a = .error e := by
  cases x <;> simp [bind, Except.bind]

theorem Term.number_eq_error_iff {part : TermPart} {token : String} {ds : List Char}
    {e : NotationError} :
    Term.number part token ds = .error e ↔
      Text.maxDigits < ds.length ∧ .tooLong part token = e := by
  unfold Term.number
  split <;> simp <;> omega

section Step

variable {limits : Limits} {before : Nat} {token : String} {rest : List String}

/-- A word is refused for one of these faults. -/
theorem Term.fault_of_read {cause : NotationError} (h : Term.read limits token = .error cause) :
    Fault limits token cause := by
  unfold Term.read at h
  split at h
  · cases h
    exact .notATerm
  · simp only [bind_eq_error_iff, Term.number_eq_error_iff] at h
    obtain ⟨-, rfl⟩ | ⟨count, -, ⟨-, rfl⟩ | ⟨sides, -, h⟩⟩ := h
    · exact .tooLong .count
    · exact .tooLong .sides
    · unfold Term.within at h
      split at h
      · cases h
        exact .noDice
      · split at h
        · cases h
          exact .noSides
        · split at h
          · cases h
            exact .tooManyDice
          · split at h <;> cases h
            exact .tooManySides

theorem readTermsFrom_cons_of_error {e : NotationError} (h : Term.read limits token = .error e) :
    readTermsFrom limits before (token :: rest) = .error e := by
  rw [readTermsFrom, h]
  rfl

theorem readTermsFrom_cons_of_lt {t : Term} (h : Term.read limits token = .ok t)
    (hlt : limits.maxTotal < (before + t.count : Nat)) :
    readTermsFrom limits before (token :: rest) = .error (.tooManyInTotal limits.maxTotal) := by
  rw [readTermsFrom, h]
  simp only [bind, Except.bind, hlt, if_true]

theorem readTermsFrom_cons_of_not_lt {t : Term} (h : Term.read limits token = .ok t)
    (hlt : ¬limits.maxTotal < (before + t.count : Nat)) :
    readTermsFrom limits before (token :: rest) =
      (readTermsFrom limits (before + t.count) rest).map (t :: ·) := by
  rw [readTermsFrom, h]
  simp only [bind, Except.bind, hlt, if_false]
  cases readTermsFrom limits (before + t.count) rest <;> rfl

end Step

/-- A reader stops at the fault of one of the words, or at the total. -/
theorem fault_of_readTermsFrom {limits : Limits} {before : Nat} {tokens : List String}
    {cause : NotationError} (h : readTermsFrom limits before tokens = .error cause) :
    (∃ token ∈ tokens, Term.Fault limits token cause) ∨
      cause = .tooManyInTotal limits.maxTotal := by
  induction tokens generalizing before with
  | nil => cases h
  | cons token rest ih =>
    cases ht : Term.read limits token with
    | error e =>
      rw [readTermsFrom_cons_of_error ht] at h
      cases h
      exact .inl ⟨token, List.mem_cons_self, Term.fault_of_read ht⟩
    | ok term =>
      by_cases hlt : limits.maxTotal < (before + term.count : Nat)
      · rw [readTermsFrom_cons_of_lt ht hlt] at h
        cases h
        exact .inr rfl
      · rw [readTermsFrom_cons_of_not_lt ht hlt] at h
        cases hrest : readTermsFrom limits (before + term.count) rest <;> rw [hrest] at h <;>
          cases h
        refine (ih hrest).imp_left fun ⟨token, hmem, hfault⟩ => ?_
        exact ⟨token, List.mem_cons_of_mem _ hmem, hfault⟩

/-- What can be wrong with a text: there is no word in it, or one of its words is at fault, or the
total is. -/
theorem fault_of_readTerms {limits : Limits} {text : String} {cause : NotationError}
    (h : readTerms limits text = .error cause) :
    cause = .empty ∨
      (Text.isBlankText text = false ∧
        ∃ token ∈ Text.tokens text, Term.Fault limits token cause) ∨
      cause = .tooManyInTotal limits.maxTotal := by
  unfold readTerms at h
  split at h
  · cases h
    exact .inl rfl
  · next hblank =>
    refine .inr ((fault_of_readTermsFrom h).imp_left fun hword => ⟨?_, hword⟩)
    exact Bool.eq_false_iff.2 hblank

/-! ### The limit that a fault names -/

/-- A fault names no number but one of the limits. -/
theorem mem_of_limit?_of_readTerms {limits : Limits} {text : String} {cause : NotationError}
    (h : readTerms limits text = .error cause) {limit : Int} (hlimit : cause.limit? = some limit) :
    limit = limits.maxCount ∨ limit = limits.maxSides ∨ limit = limits.maxTotal := by
  obtain rfl | ⟨-, token, -, hfault⟩ | rfl := fault_of_readTerms h
  · cases hlimit
  · cases hfault with
    | tooManyDice => exact .inl (Option.some.inj hlimit).symm
    | tooManySides => exact .inr (.inl (Option.some.inj hlimit).symm)
    | _ => cases hlimit
  · exact .inr (.inr (Option.some.inj hlimit).symm)

/-- Within limits that can be written out every text gets an answer. -/
theorem answerOf_readTerms_of_writable {limits : Limits} (hwritable : limits.AreWritable)
    (text : String) : ∃ answer, answerOf (readTerms limits text) = .ok answer := by
  cases hanswer : answerOf (readTerms limits text) with
  | ok answer => exact ⟨answer, rfl⟩
  | error e =>
    obtain ⟨-, cause, limit, hread, hlimit, hlong⟩ := answerOf_eq_error_iff.1 hanswer
    rcases mem_of_limit?_of_readTerms hread hlimit with rfl | rfl | rfl
    · exact absurd hwritable.maxCount hlong
    · exact absurd hwritable.maxSides hlong
    · exact absurd hwritable.maxTotal hlong

/-- Every text is read or refused, unless a limit is too long to be told. -/
theorem answerOf_readTerms_cases (limits : Limits) (text : String) :
    (∃ ts, answerOf (readTerms limits text) = .ok (.ok ts)) ∨
      (∃ r, answerOf (readTerms limits text) = .ok (.error r)) ∨
      answerOf (readTerms limits text) = .error .longNumber ∧ ¬limits.AreWritable := by
  cases hanswer : answerOf (readTerms limits text) with
  | ok found =>
    cases found with
    | ok ts => exact .inl ⟨ts, rfl⟩
    | error r => exact .inr (.inl ⟨r, rfl⟩)
  | error e =>
    obtain ⟨rfl, -⟩ := answerOf_eq_error_iff.1 hanswer
    refine .inr (.inr ⟨rfl, fun hwritable => ?_⟩)
    obtain ⟨found, hfound⟩ := answerOf_readTerms_of_writable hwritable text
    rw [hfound] at hanswer
    cases hanswer

/-! ### Reading on a host -/

namespace Host

/-- Where the limits are known, reading on a host is reading within them. -/
theorem fst_readTerms_of_limitsFor {h : Host} {request : LimitRequest} {limits : Limits}
    (hl : (h.limitsFor request).1 = .ok limits) (text : String) :
    (h.readTerms (some text) request).1 = answerOf (RollPad.readTerms limits text) := by
  unfold readTerms
  cases hb : Text.isBlankText text with
  | true =>
    rw [RollPad.readTerms, hb]
    simp only [Option.filter, hb]
    rfl
  | false =>
    simp only [Option.filter, hb, Bool.not_false, if_true]
    rcases hlimits : h.limitsFor request with ⟨e | found, h'⟩ <;> rw [hlimits] at hl <;> cases hl
    rfl

/-- The limits of the settings can be written out. -/
theorem writable_of_limitsFor {h : Host} {limits : Limits} (hl : (h.limitsFor {}).1 = .ok limits) :
    limits.AreWritable := by
  rw [limitsFor] at hl
  rcases huse : h.useSettings with ⟨e | settings, h'⟩ <;> rw [huse] at hl <;> cases hl
  exact settings.writable

/-- Within the limits of the settings a text gets an answer, unless the settings cannot be read. -/
theorem fst_readTerms_eq_error_iff {h : Host} {text : String} {e : Failure} :
    (h.readTerms (some text)).1 = .error e ↔ ∃ cause, e = .settings cause ∧
      Text.isBlankText text = false ∧ (h.limitsFor {}).1 = .error cause := by
  cases hl : (h.limitsFor {}).1 with
  | ok limits =>
    obtain ⟨answer, hanswer⟩ := answerOf_readTerms_of_writable (writable_of_limitsFor hl) text
    rw [fst_readTerms_of_limitsFor hl, hanswer]
    simp
  | error cause =>
    unfold readTerms
    cases hb : Text.isBlankText text with
    | true => simp [Option.filter, hb]
    | false =>
      simp only [Option.filter, hb, Bool.not_false, if_true, true_and]
      rcases hlimits : h.limitsFor {} with ⟨found | limits, h'⟩ <;> rw [hlimits] at hl <;> cases hl
      simp [eq_comm]

end Host

end RollPad

import Mathlib.Algebra.Order.Ring.Int
import Mathlib.Data.List.Forall2
import Mathlib.Data.Set.List
import Mathlib.Tactic.Tauto
import RollPad.Proofs.Notation.Refusal
import RollPad.Proofs.Text.Words

/-!
The grammar of dice expressions. An expression is at least one word, each word is two numerals with
`d` or `D` between them, and the numbers are positive and within the limits, the sum of the counts
included. `Denotes` says this about the words of a text and the numbers, without a reader; the
reader walks the tokens of the normal form with a running total and stops at the first fault. The
main statement is that the two agree (`parse_ok_iff_denotes`). What carries it is
`readTermsFrom_eq_ok_iff`: counts only add up, so no running total exceeds the limit if the whole
sum does not. A text outside the grammar is refused, unless the message would name a limit that is
too long to be written out; then the parser fails (`parse_fails_at_long_limit`).
-/

namespace RollPad

/-! ### The grammar -/

/-- A run of ASCII digits, not too long, and the number it denotes. -/
structure Numeral (ds : List Char) (n : Nat) : Prop where
  ne_nil : ds ≠ []
  digits : ∀ c ∈ ds, c.isDigit = true
  length_le : ds.length ≤ Text.maxDigits
  value : Nat.ofDigitChars 10 ds 0 = n

/-- A word that spells a count and a number of sides. -/
def Spells (word : List Char) (count sides : Nat) : Prop :=
  ∃ cs mark ss, word = cs ++ mark :: ss ∧ (mark = 'd' ∨ mark = 'D') ∧ Numeral cs count ∧
    Numeral ss sides

/-- The counts and sides that words denote within limits. -/
structure Denotes (limits : Limits) (words : List String) (ns : List (Nat × Nat)) : Prop where
  ne_nil : words ≠ []
  spelled : List.Forall₂ (fun w n => Spells w.toList n.1 n.2) words ns
  count_mem : ∀ n ∈ ns, 1 ≤ n.1 ∧ n.1 ≤ limits.maxCount
  sides_mem : ∀ n ∈ ns, 1 ≤ n.2 ∧ n.2 ≤ limits.maxSides
  total_le : (ns.map Prod.fst).sum ≤ limits.maxTotal

/-- The count and the number of sides of a term. -/
def Term.numbers (t : Term) : Nat × Nat :=
  (t.count, t.sides)

/-- Terms within limits. -/
structure Fits (limits : Limits) (ts : List Term) : Prop where
  count_le : ∀ t ∈ ts, t.count ≤ limits.maxCount
  sides_le : ∀ t ∈ ts, t.sides ≤ limits.maxSides
  total_le : diceTotal ts ≤ limits.maxTotal

/-- A request that leaves no limit out. -/
def LimitRequest.ofLimits (limits : Limits) : LimitRequest :=
  ⟨some limits.maxCount, some limits.maxSides, some limits.maxTotal⟩

/-- Positive numbers are those of a term. -/
theorem Term.exists_numbers_eq {n : Nat × Nat} (hc : 1 ≤ n.1) (hs : 1 ≤ n.2) :
    ∃ t : Term, t.numbers = n :=
  ⟨⟨n.1, n.2, hc, hs⟩, rfl⟩

/-! ### One word -/

theorem bind_eq_ok_iff {ε α β : Type} {x : Except ε α} {f : α → Except ε β} {b : β} :
    (x >>= f) = .ok b ↔ ∃ a, x = .ok a ∧ f a = .ok b := by
  cases x <;> simp [bind, Except.bind]

namespace Term

theorem parts?_eq_some_iff {token cs ss : List Char} :
    parts? token = some (cs, ss) ↔
      ∃ mark, token = cs ++ mark :: ss ∧ (mark = 'd' ∨ mark = 'D') ∧
        (cs ≠ [] ∧ ∀ c ∈ cs, c.isDigit = true) ∧ (ss ≠ [] ∧ ∀ c ∈ ss, c.isDigit = true) := by
  constructor
  · intro h
    have htoken := List.takeWhile_append_dropWhile (p := Char.isDigit) (l := token)
    unfold parts? at h
    cases hd : token.dropWhile Char.isDigit with
    | nil => simp [hd] at h
    | cons mark rest =>
      simp only [hd] at h
      split at h
      · next hok =>
        obtain ⟨hmark, hcount, hsides, hrest⟩ := hok
        obtain ⟨rfl, rfl⟩ := Prod.mk.inj (Option.some.inj h)
        refine ⟨mark, by rw [← hd, htoken], hmark, ⟨hcount, ?_⟩, hsides, List.all_eq_true.1 hrest⟩
        exact fun c hc => List.mem_takeWhile_imp hc
      · simp at h
  · rintro ⟨mark, rfl, hmark, ⟨hcs, hcsd⟩, hss, hssd⟩
    have hm : mark.isDigit = false := by
      rcases hmark with rfl | rfl <;> decide
    have htake : (cs ++ mark :: ss).takeWhile Char.isDigit = cs := by
      rw [List.takeWhile_append_of_pos hcsd, List.takeWhile_cons_of_neg (by simp [hm]),
        List.append_nil]
    have hdrop : (cs ++ mark :: ss).dropWhile Char.isDigit = mark :: ss := by
      rw [List.dropWhile_append_of_pos hcsd, List.dropWhile_cons_of_neg (by simp [hm])]
    simp only [parts?, htake, hdrop]
    rw [if_pos ⟨hmark, hcs, hss, List.all_eq_true.2 hssd⟩]

theorem number_eq_ok_iff {part : TermPart} {token : String} {ds : List Char} {n : Nat} :
    number part token ds = .ok n ↔ ds.length ≤ Text.maxDigits ∧ Nat.ofDigitChars 10 ds 0 = n := by
  unfold number
  split <;> simp [*]

theorem within_eq_ok_iff {limits : Limits} {token : String} {count sides : Nat} {t : Term} :
    within limits token count sides = .ok t ↔
      t.numbers = (count, sides) ∧ t.count ≤ limits.maxCount ∧ t.sides ≤ limits.maxSides := by
  obtain ⟨n, s, hn, hs⟩ := t
  simp only [within, numbers, Prod.mk.injEq]
  split_ifs <;> simp only [Except.ok.injEq, Term.mk.injEq, false_iff] <;> omega

/-- A word is read as a term exactly if it spells the numbers of the term and they are within the
limits. -/
theorem read_eq_ok_iff {limits : Limits} {token : String} {t : Term} :
    read limits token = .ok t ↔
      Spells token.toList t.count t.sides ∧ t.count ≤ limits.maxCount ∧
        t.sides ≤ limits.maxSides := by
  unfold read
  constructor
  · intro h
    cases hp : parts? token.toList with
    | none => simp [hp] at h
    | some p =>
      obtain ⟨cs, ss⟩ := p
      obtain ⟨mark, htoken, hmark, ⟨hcs, hcsd⟩, hss, hssd⟩ := parts?_eq_some_iff.1 hp
      simp only [hp, bind_eq_ok_iff, number_eq_ok_iff, within_eq_ok_iff, numbers,
        Prod.mk.injEq] at h
      obtain ⟨count, ⟨hcl, hcv⟩, sides, ⟨hsl, hsv⟩, ⟨rfl, rfl⟩, hlimits⟩ := h
      exact ⟨⟨cs, mark, ss, htoken, hmark, ⟨hcs, hcsd, hcl, hcv⟩, ⟨hss, hssd, hsl, hsv⟩⟩, hlimits⟩
  · rintro ⟨⟨cs, mark, ss, htoken, hmark, hc, hs⟩, hlimits⟩
    have hp : parts? token.toList = some (cs, ss) := parts?_eq_some_iff.2
      ⟨mark, htoken, hmark, ⟨hc.ne_nil, hc.digits⟩, hs.ne_nil, hs.digits⟩
    simp only [hp, bind_eq_ok_iff, number_eq_ok_iff, within_eq_ok_iff]
    exact ⟨t.count, ⟨hc.length_le, hc.value⟩, t.sides, ⟨hs.length_le, hs.value⟩, rfl, hlimits⟩

end Term

/-! ### The words of an expression -/

theorem diceTotal_cons (t : Term) (ts : List Term) :
    diceTotal (t :: ts) = t.count + diceTotal ts := rfl

theorem diceTotal_eq_sum (ts : List Term) : diceTotal ts = (ts.map Term.count).sum := by
  rw [List.sum_eq_foldr]
  rfl

/-- The running total stays below the limit exactly if the whole sum does. -/
theorem readTermsFrom_eq_ok_iff {limits : Limits} {before : Nat} {tokens : List String}
    {ts : List Term} (hne : tokens ≠ []) :
    readTermsFrom limits before tokens = .ok ts ↔
      List.Forall₂ (fun token t => Term.read limits token = .ok t) tokens ts ∧
        (before + diceTotal ts : Nat) ≤ limits.maxTotal := by
  induction tokens generalizing before ts with
  | nil => exact absurd rfl hne
  | cons token rest ih =>
    have hstep : readTermsFrom limits before (token :: rest) = .ok ts ↔
        ∃ t, Term.read limits token = .ok t ∧ ¬limits.maxTotal < (before + t.count : Nat) ∧
          ∃ us, readTermsFrom limits (before + t.count) rest = .ok us ∧ t :: us = ts := by
      rw [readTermsFrom, bind_eq_ok_iff]
      refine exists_congr fun t => and_congr_right fun _ => ?_
      by_cases hlt : limits.maxTotal < (before + t.count : Nat)
      · simp only [hlt, if_true, not_true, false_and, iff_false]
        intro h
        cases h
      · simp only [hlt, if_false, bind_eq_ok_iff]
        simp [pure, Except.pure]
    rw [hstep, List.forall₂_cons_left_iff]
    constructor
    · rintro ⟨t, ht, hle, us, hus, rfl⟩
      cases rest with
      | nil =>
        obtain rfl : [] = us := by simpa [readTermsFrom] using hus
        refine ⟨⟨t, [], ht, .nil, rfl⟩, ?_⟩
        rw [diceTotal_cons]
        simpa [diceTotal] using hle
      | cons next rest =>
        obtain ⟨hall, htotal⟩ := (ih (by simp)).1 hus
        refine ⟨⟨t, us, ht, hall, rfl⟩, ?_⟩
        rwa [diceTotal_cons, ← Nat.add_assoc]
    · rintro ⟨⟨t, us, ht, hall, rfl⟩, htotal⟩
      rw [diceTotal_cons, ← Nat.add_assoc] at htotal
      refine ⟨t, ht, by push_cast at htotal ⊢; omega, us, ?_, rfl⟩
      cases rest with
      | nil => rw [List.forall₂_nil_left_iff.1 hall, readTermsFrom]
      | cons next rest => exact (ih (by simp)).2 ⟨hall, htotal⟩

theorem forall₂_read_eq_ok_iff {limits : Limits} {words : List String} {ts : List Term} :
    List.Forall₂ (fun w t => Term.read limits w = .ok t) words ts ↔
      List.Forall₂ (fun w t => Spells w.toList t.count t.sides) words ts ∧
        ∀ t ∈ ts, t.count ≤ limits.maxCount ∧ t.sides ≤ limits.maxSides := by
  induction words generalizing ts with
  | nil => cases ts <;> simp
  | cons w ws ih =>
    cases ts with
    | nil => simp
    | cons t ts =>
      rw [List.forall₂_cons, List.forall₂_cons, ih, Term.read_eq_ok_iff, List.forall_mem_cons]
      tauto

/-- The numbers of terms are positive, so only the upper limits remain to be checked. -/
theorem denotes_numbers_iff {limits : Limits} {words : List String} {ts : List Term} :
    Denotes limits words (ts.map Term.numbers) ↔
      words ≠ [] ∧ List.Forall₂ (fun w t => Spells w.toList t.count t.sides) words ts ∧
        Fits limits ts := by
  have hsum : ((ts.map Term.numbers).map Prod.fst).sum = diceTotal ts := by
    rw [diceTotal_eq_sum, List.map_map]
    rfl
  constructor
  · rintro ⟨hne, hspelled, hcount, hsides, htotal⟩
    rw [List.forall₂_map_right_iff] at hspelled
    rw [List.forall_mem_map] at hcount hsides
    exact ⟨hne, hspelled, fun t ht => (hcount t ht).2, fun t ht => (hsides t ht).2, hsum ▸ htotal⟩
  · rintro ⟨hne, hspelled, hcount, hsides, htotal⟩
    refine ⟨hne, List.forall₂_map_right_iff.2 hspelled, ?_, ?_, hsum ▸ htotal⟩
    · rw [List.forall_mem_map]
      exact fun t ht => ⟨t.count_pos, hcount t ht⟩
    · rw [List.forall_mem_map]
      exact fun t ht => ⟨t.sides_pos, hsides t ht⟩

/-- Reading accepts exactly the expressions of the grammar, as the terms they denote. -/
theorem readTerms_eq_ok_iff {limits : Limits} {text : String} {ts : List Term} :
    readTerms limits text = .ok ts ↔
      Denotes limits (Text.words text) (ts.map Term.numbers) := by
  unfold readTerms
  cases hb : Text.isBlankText text with
  | true =>
    have hw := Text.isBlankText_eq_true_iff.1 hb
    simp only [if_true, reduceCtorEq, false_iff]
    exact fun h => h.ne_nil hw
  | false =>
    have hne : Text.words text ≠ [] := fun h => by
      simp [Text.isBlankText_eq_true_iff.2 h] at hb
    simp only [Bool.false_eq_true, if_false]
    rw [Text.tokens_eq_words hb, readTermsFrom_eq_ok_iff hne, forall₂_read_eq_ok_iff,
      denotes_numbers_iff, Nat.zero_add]
    constructor
    · rintro ⟨⟨hspelled, hlimits⟩, htotal⟩
      exact ⟨hne, hspelled, fun t ht => (hlimits t ht).1, fun t ht => (hlimits t ht).2, htotal⟩
    · rintro ⟨-, hspelled, hcount, hsides, htotal⟩
      exact ⟨⟨hspelled, fun t ht => ⟨hcount t ht, hsides t ht⟩⟩, htotal⟩

/-- Words denote numbers exactly if they denote those of some terms. -/
theorem exists_denotes_iff {limits : Limits} {words : List String} :
    (∃ ns, Denotes limits words ns) ↔
      ∃ ts : List Term, Denotes limits words (ts.map Term.numbers) := by
  refine ⟨fun ⟨ns, h⟩ => ?_, fun ⟨ts, h⟩ => ⟨_, h⟩⟩
  have hns : ns ∈ Set.range (List.map Term.numbers) := by
    rw [Set.range_list_map]
    exact fun n hn => Term.exists_numbers_eq (h.count_mem n hn).1 (h.sides_mem n hn).1
  obtain ⟨ts, rfl⟩ := hns
  exact ⟨ts, h⟩

/-! ### Reading on a host -/

namespace Host

/-- Only limits that are known accept a text. -/
theorem exists_limitsFor_of_readTerms {h : Host} {request : LimitRequest} {text : String}
    {ts : List Term} (hr : (h.readTerms (some text) request).1 = .ok (.ok ts)) :
    ∃ limits, (h.limitsFor request).1 = .ok limits ∧ RollPad.readTerms limits text = .ok ts := by
  cases hl : (h.limitsFor request).1 with
  | ok limits =>
    rw [fst_readTerms_of_limitsFor hl] at hr
    exact ⟨limits, rfl, answerOf_eq_terms_iff.1 hr⟩
  | error e =>
    unfold readTerms at hr
    split at hr
    · cases hr
    · next htext =>
      split at hr
      · cases hr
      · next hok => simp [hok] at hl

/-- The record of a refusal changes no answer. -/
theorem fst_parse (h : Host) (text : Option String) (request : LimitRequest) :
    (h.parse text request).1 = (h.readTerms text request).1 := by
  unfold parse
  split <;> simp [*]

theorem fst_parse_ofLimits (h : Host) (text : String) (limits : Limits) :
    (h.parse (some text) (.ofLimits limits)).1 = answerOf (RollPad.readTerms limits text) := by
  rw [fst_parse, fst_readTerms_of_limitsFor rfl]

end Host

/-- A text is parsed exactly if its words denote numbers within the limits, and then the terms have
these numbers, one term for each word in order. Every other text is refused, or the parser fails;
it fails exactly where the fault that the reader finds names a limit that cannot be written out, and
so never if all limits can. -/
theorem parse_ok_iff_denotes (h : Host) (text : String) (limits : Limits) :
    let answer := (h.parse (some text) (.ofLimits limits)).1
    ((∃ ts, answer = .ok (.ok ts)) ↔ ∃ ns, Denotes limits (Text.words text) ns) ∧
      (∀ ts, answer = .ok (.ok ts) ↔ Denotes limits (Text.words text) (ts.map Term.numbers)) ∧
      ((∃ ns, Denotes limits (Text.words text) ns) ∨ (∃ refusal, answer = .ok (.error refusal)) ∨
        answer = .error .longNumber) ∧
      (∀ e, answer = .error e ↔ e = .longNumber ∧ ∃ cause limit,
        readTerms limits text = .error cause ∧ cause.limit? = some limit ∧
          ¬Text.IsWritable limit) ∧
      (limits.AreWritable →
        (∃ ns, Denotes limits (Text.words text) ns) ∨
          ∃ refusal, answer = .ok (.error refusal)) := by
  intro answer
  have hanswer : answer = answerOf (readTerms limits text) := h.fst_parse_ofLimits text limits
  have hterms : ∀ ts, answer = .ok (.ok ts) ↔
      Denotes limits (Text.words text) (ts.map Term.numbers) := by
    intro ts
    rw [hanswer, answerOf_eq_terms_iff, readTerms_eq_ok_iff]
  have hfails : ∀ e, answer = .error e ↔ e = .longNumber ∧ ∃ cause limit,
      readTerms limits text = .error cause ∧ cause.limit? = some limit ∧
        ¬Text.IsWritable limit := by
    intro e
    rw [hanswer, answerOf_eq_error_iff]
  have hcases : (∃ ns, Denotes limits (Text.words text) ns) ∨
      (∃ refusal, answer = .ok (.error refusal)) ∨
        answer = .error .longNumber ∧ ¬limits.AreWritable := by
    rw [hanswer]
    refine (answerOf_readTerms_cases limits text).imp_left fun ⟨ts, hts⟩ => ?_
    exact ⟨_, (hterms ts).1 (hanswer.trans hts)⟩
  refine ⟨?_, hterms, hcases.imp_right (.imp_right And.left), hfails, fun hwritable => ?_⟩
  · rw [exists_denotes_iff]
    exact exists_congr hterms
  · exact hcases.imp_right fun hrest => hrest.resolve_right fun hlong => hlong.2 hwritable

/-- A text that is outside the grammar for its count, within a limit that cannot be written out. -/
theorem parse_fails_at_long_limit :
    let limits : Limits := ⟨-10 ^ 4300, 100, 100⟩
    (({} : Host).parse (some "1d6") (.ofLimits limits)).1 = .error .longNumber ∧
      ¬∃ ns, Denotes limits (Text.words "1d6") ns := by
  intro limits
  have hread : readTerms limits "1d6" = .error (.tooManyDice "1d6" (-10 ^ 4300)) := by
    decide +kernel
  refine ⟨by decide +kernel, ?_⟩
  rw [exists_denotes_iff]
  rintro ⟨ts, hts⟩
  rw [← readTerms_eq_ok_iff, hread] at hts
  cases hts

end RollPad

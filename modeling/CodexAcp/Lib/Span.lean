import CodexAcp.Lib.Text

/-!
# Longest runs

A list cut where a run of its elements ends: the run, and a rest that does not go
on with it. A list is cut so in one way only (`IsSpan.unique`), whatever reads it.
Numerals are read by such runs: a number is given by its digits, and the bounded
parser reads nothing else, but for the sign it lets pass
(`parseUnsigned_eq_some_iff`). What is before the first separator is a run, too,
of everything else (`splitOnce_eq_some_iff`).
-/

namespace CodexAcp.Lib.Text

section Spans

variable {α : Type} {p : α → Bool} {run rest run' rest' : List α}

/-- A run of elements that satisfy `p`, and a rest that does not go on with it. -/
structure IsSpan (p : α → Bool) (run rest : List α) : Prop where
  all : ∀ a ∈ run, p a = true
  stops : ∀ a ∈ rest.head?, p a = false

theorem isSpan_takeWhile (p : α → Bool) (l : List α) :
    IsSpan p (l.takeWhile p) (l.dropWhile p) := by
  constructor
  · exact fun a ha => List.mem_takeWhile_imp ha
  · intro a ha
    have hnot := List.head?_dropWhile_not p l
    rw [Option.mem_def.mp ha] at hnot
    exact hnot

theorem IsSpan.takeWhile (h : IsSpan p run rest) : (run ++ rest).takeWhile p = run := by
  rw [List.takeWhile_append_of_pos h.all]
  cases rest with
  | nil => exact List.append_nil run
  | cons a rest =>
    have ha : ¬ p a = true := by rw [h.stops a rfl]; exact Bool.false_ne_true
    rw [List.takeWhile_cons_of_neg ha, List.append_nil]

theorem IsSpan.dropWhile (h : IsSpan p run rest) : (run ++ rest).dropWhile p = rest := by
  rw [List.dropWhile_append_of_pos h.all]
  cases rest with
  | nil => rfl
  | cons a rest =>
    have ha : ¬ p a = true := by rw [h.stops a rfl]; exact Bool.false_ne_true
    exact List.dropWhile_cons_of_neg ha

/-- **One cut.** Two cuts of a list at the end of its run are the same. -/
theorem IsSpan.unique (h : IsSpan p run rest) (h' : IsSpan p run' rest')
    (heq : run ++ rest = run' ++ rest') : run = run' ∧ rest = rest' := by
  constructor
  · rw [← h.takeWhile, heq, h'.takeWhile]
  · rw [← h.dropWhile, heq, h'.dropWhile]

end Spans

/-! ## Numerals -/

/-- A decimal number, as its digits. -/
def IsNumeral (s : String) : Prop := s ≠ "" ∧ ∀ c ∈ s.toList, isAsciiDigit c = true

/-- The number that a numeral is. -/
def numeralValue (s : String) : Nat := digitsValue s.toList

theorem toList_ne_nil {s : String} : s.toList ≠ [] ↔ s ≠ "" := by
  rw [ne_eq, ne_eq, String.toList_eq_nil_iff]

/-- A character that is no digit is in no numeral. -/
theorem IsNumeral.not_mem {s : String} (h : IsNumeral s) {c : Char}
    (hc : isAsciiDigit c = false) : c ∉ s.toList := by
  intro hmem
  rw [h.2 c hmem] at hc
  cases hc

theorem isNumeral_ofList {cs : List Char} :
    IsNumeral (String.ofList cs) ↔ cs ≠ [] ∧ ∀ c ∈ cs, isAsciiDigit c = true := by
  unfold IsNumeral
  rw [← toList_ne_nil, String.toList_ofList]

theorem not_isNumeral_ofList {cs : List Char} :
    (cs.isEmpty || !cs.all isAsciiDigit) = true ↔ ¬ IsNumeral (String.ofList cs) := by
  rw [isNumeral_ofList, Bool.or_eq_true, List.isEmpty_iff, Bool.not_eq_true', Bool.eq_false_iff,
    ne_eq, List.all_eq_true, not_and_or, not_not]

/-- The digits are read when there are any, there is nothing else, and their number fits. -/
theorem parseDigits_eq_some_iff {bits n : Nat} {cs : List Char} :
    (if cs.isEmpty || !cs.all isAsciiDigit then none
      else if digitsValue cs < 2 ^ bits then some (digitsValue cs) else none) = some n ↔
      IsNumeral (String.ofList cs) ∧ digitsValue cs = n ∧ n < 2 ^ bits := by
  by_cases h : IsNumeral (String.ofList cs)
  · rw [if_neg (mt not_isNumeral_ofList.mp (not_not.mpr h))]
    by_cases hfits : digitsValue cs < 2 ^ bits
    · rw [if_pos hfits, Option.some.injEq]
      exact ⟨fun hn => ⟨h, hn, hn ▸ hfits⟩, fun ⟨_, hn, _⟩ => hn⟩
    · rw [if_neg hfits]
      refine ⟨nofun, ?_⟩
      rintro ⟨-, rfl, hn⟩
      exact absurd hn hfits
  · rw [if_pos (not_isNumeral_ofList.mpr h)]
    exact ⟨nofun, fun hn => absurd hn.1 h⟩

/-- **Bounded numbers.** The parser reads a numeral below the bound, with or without a plus sign
before it. -/
theorem parseUnsigned_eq_some_iff {bits n : Nat} {s : String} :
    parseUnsigned bits s = some n ↔
      ∃ sign digits, (sign = "" ∨ sign = "+") ∧ s = sign ++ digits ∧ IsNumeral digits ∧
        numeralValue digits = n ∧ n < 2 ^ bits := by
  unfold parseUnsigned
  dsimp only
  split
  next cs hs =>
    rw [parseDigits_eq_some_iff]
    constructor
    · rintro ⟨hcs, hvalue, hn⟩
      refine ⟨"+", String.ofList cs, .inr rfl, ?_, hcs, ?_, hn⟩
      · rw [← String.toList_inj, hs, String.toList_append]
        exact congrArg ('+' :: ·) String.toList_ofList.symm
      · rwa [numeralValue, String.toList_ofList]
    · rintro ⟨sign, digits, rfl | rfl, rfl, hdigits, hvalue, hn⟩
      · -- a digit is no sign
        rw [String.empty_append] at hs
        exact absurd (hs ▸ List.mem_cons_self) (hdigits.not_mem (c := '+') (by decide))
      · rw [String.toList_append] at hs
        obtain rfl : digits.toList = cs := (List.cons.inj hs).2
        exact ⟨by rwa [String.ofList_toList], hvalue, hn⟩
  next hs =>
    rw [parseDigits_eq_some_iff, String.ofList_toList]
    constructor
    · rintro ⟨hcs, hvalue, hn⟩
      exact ⟨"", s, .inl rfl, String.empty_append.symm, hcs, hvalue, hn⟩
    · rintro ⟨sign, digits, rfl | rfl, rfl, hdigits, hvalue, hn⟩
      · rw [String.empty_append]
        exact ⟨hdigits, hvalue, hn⟩
      · exact absurd (String.toList_append) (hs _)

/-! ## Separators -/

/-- A list is split before its first separator. -/
theorem splitOnceChars_eq_some {sep : Char} {cs l r : List Char}
    (h : splitOnceChars sep cs = some (l, r)) : cs = l ++ sep :: r ∧ sep ∉ l := by
  induction cs generalizing l with
  | nil => cases h
  | cons c cs ih =>
    unfold splitOnceChars at h
    by_cases hc : c = sep
    · rw [if_pos hc] at h
      cases h
      exact ⟨by rw [hc, List.nil_append], List.not_mem_nil⟩
    · rw [if_neg hc] at h
      obtain ⟨⟨l', r'⟩, hsplit, hpair⟩ := Option.map_eq_some_iff.mp h
      cases hpair
      obtain ⟨rfl, hl⟩ := ih hsplit
      refine ⟨rfl, ?_⟩
      rw [List.mem_cons, not_or]
      exact ⟨Ne.symm hc, hl⟩

/-- A text is split in one way, before its first separator. -/
theorem splitOnce_eq_some_iff {sep : Char} {s l r : String} :
    splitOnce sep s = some (l, r) ↔ s = l ++ String.singleton sep ++ r ∧ sep ∉ l.toList := by
  constructor
  · intro h
    unfold splitOnce at h
    obtain ⟨⟨l', r'⟩, hsplit, hpair⟩ := Option.map_eq_some_iff.mp h
    cases hpair
    obtain ⟨hs, hl⟩ := splitOnceChars_eq_some hsplit
    rw [String.toList_ofList]
    refine ⟨?_, hl⟩
    rw [← String.toList_inj, hs]
    simp only [String.toList_append, String.toList_ofList, String.toList_singleton,
      List.append_assoc, List.singleton_append]
  · rintro ⟨rfl, hl⟩
    exact splitOnce_append hl r

end CodexAcp.Lib.Text

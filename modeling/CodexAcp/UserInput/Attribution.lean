import CodexAcp.Lib.Span
import CodexAcp.UserInput.Options

/-!
# Which question a key stands for

A line `key: value` of a reply to several questions names its question by id, or
by number when the key is no id. The source looks a key up as a number first, and
any other key as a normal form among ids and headers, the first one found:

> `questionForKey_names_iff`: what the source finds is what the key names exactly
> when a numeric id counts to its own question, another id meets no earlier question
> with its normal form, zero is no key, and a number that is no `usize` has no
> question's normal form.
-/

namespace CodexAcp.UserInput

open CodexAcp.Lib CodexAcp.Protocol

/-! ## What a key names -/

/-- The value of a list of decimal digits that is not empty. -/
def digitsNumber (cs : List Char) : Option Nat :=
  if cs.isEmpty || !cs.all Text.isAsciiDigit then none else some (Text.digitsValue cs)

/-- The number a key is: decimal digits with an optional sign. -/
def keyNumber (key : String) : Option Int :=
  match key.toList with
  | '+' :: cs => (digitsNumber cs).map Int.ofNat
  | '-' :: cs => (digitsNumber cs).map fun n => -Int.ofNat n
  | cs => (digitsNumber cs).map Int.ofNat

/-- What a key names: the question with this id; if it is no id but the number of a question,
the question at this position; if it is any other number, none. -/
inductive KeyNames (questions : List RequestUserInputQuestion) (key : String) :
    Option RequestUserInputQuestion → Prop where
  | id {question : RequestUserInputQuestion} (mem : question ∈ questions)
      (eq : key = question.id) : KeyNames questions key (some question)
  | number {question : RequestUserInputQuestion} {k : Nat}
      (noId : ∀ question ∈ questions, key ≠ question.id) (eq : keyNumber key = some (k + 1))
      (get : questions[k]? = some question) : KeyNames questions key (some question)
  | noNumber {n : Int} (noId : ∀ question ∈ questions, key ≠ question.id)
      (eq : keyNumber key = some n) (out : n < 1 ∨ questions.length < n) :
      KeyNames questions key none

/-- A question has the key's normal form as its id's or its header's. -/
def FitsKey (key : String) (question : RequestUserInputQuestion) : Prop :=
  normalizeRequestUserInputToken question.id = normalizeRequestUserInputToken key ∨
    normalizeRequestUserInputToken question.header = normalizeRequestUserInputToken key

instance (key : String) (question : RequestUserInputQuestion) :
    Decidable (FitsKey key question) := by
  unfold FitsKey
  infer_instance

/-- The keys the source reads as what they name. -/
structure KeyReadsRight (questions : List RequestUserInputQuestion) (key : String) : Prop where
  /-- A numeric id counts to its own question; zero counts as one. -/
  numericId : ∀ before question after, questions = before ++ question :: after →
    key = question.id → ∀ index, Text.parseUnsigned 64 key = some index →
      index - 1 = before.length
  /-- Any other id is not taken for an earlier question. -/
  otherId : ∀ before question after, questions = before ++ question :: after →
    key = question.id → Text.parseUnsigned 64 key = none →
      ∀ earlier ∈ before, ¬ FitsKey key earlier
  /-- Zero is no key. -/
  notZero : (∀ question ∈ questions, key ≠ question.id) → Text.parseUnsigned 64 key ≠ some 0
  /-- A number that is no `usize` is not taken for a question. -/
  otherNumber : (∀ question ∈ questions, key ≠ question.id) → ∀ n, keyNumber key = some n →
    Text.parseUnsigned 64 key = none → ∀ question ∈ questions, ¬ FitsKey key question

/-- A request with several questions, with ids that can be keys; as in memory, its lists are
shorter than the address space. -/
structure MultiQuestion (questions : List RequestUserInputQuestion) : Prop where
  several : 2 ≤ questions.length
  fits : questions.length < 2 ^ 64
  optionsFit : ∀ question ∈ questions, (shownLabels question).length < 2 ^ 64
  distinct : (questions.map (·.id)).Nodup
  trimmed : ∀ question ∈ questions, Text.trim question.id = question.id
  notEmpty : ∀ question ∈ questions, question.id ≠ ""
  noColon : ∀ question ∈ questions, ':' ∉ question.id.toList
  noNewline : ∀ question ∈ questions, '\n' ∉ question.id.toList

/-! ## Numbers -/

/-- A list of characters without the `+` it starts with. -/
def withoutPlus : List Char → List Char
  | '+' :: cs => cs
  | cs => cs

theorem withoutPlus_eq {cs : List Char} (h : ∀ cs', cs = '+' :: cs' → False) :
    withoutPlus cs = cs := by
  unfold withoutPlus
  split
  next cs' => exact (h cs' rfl).elim
  next => rfl

theorem digitsNumber_eq_some_iff {cs : List Char} {n : Nat} :
    digitsNumber cs = some n ↔ Text.IsNumeral (String.ofList cs) ∧ Text.digitsValue cs = n := by
  unfold digitsNumber
  by_cases h : Text.IsNumeral (String.ofList cs)
  · rw [if_neg (mt Text.not_isNumeral_ofList.mp (not_not.mpr h)), Option.some_inj]
    exact ⟨fun hn => ⟨h, hn⟩, And.right⟩
  · rw [if_pos (Text.not_isNumeral_ofList.mpr h)]
    exact ⟨nofun, fun hn => absurd hn.1 h⟩

/-- A `usize` is read without a sign or after a `+`. -/
theorem parseUnsigned_eq_some_iff {key : String} {index : Nat} :
    Text.parseUnsigned 64 key = some index ↔
      digitsNumber (withoutPlus key.toList) = some index ∧ index < 2 ^ 64 := by
  show (if (withoutPlus key.toList).isEmpty || !(withoutPlus key.toList).all Text.isAsciiDigit then
    none
    else if Text.digitsValue (withoutPlus key.toList) < 2 ^ 64 then
      some (Text.digitsValue (withoutPlus key.toList))
    else none) = _ ↔ _
  rw [Text.parseDigits_eq_some_iff, digitsNumber_eq_some_iff, and_assoc]

/-- What is read as a `usize` is the number. -/
theorem keyNumber_of_parseUnsigned {key : String} {index : Nat}
    (h : Text.parseUnsigned 64 key = some index) : keyNumber key = some (index : Int) := by
  obtain ⟨hdigits, _⟩ := parseUnsigned_eq_some_iff.mp h
  unfold keyNumber
  split
  next cs hkey =>
    rw [hkey] at hdigits
    exact congrArg (Option.map Int.ofNat) hdigits
  next cs hkey =>
    -- a minus sign is no digit
    rw [hkey] at hdigits
    cases hdigits
  next cs hplus hminus =>
    rw [withoutPlus_eq hplus] at hdigits
    exact congrArg (Option.map Int.ofNat) hdigits

/-- A number from one to the address space is read as a `usize`. -/
theorem parseUnsigned_of_keyNumber {key : String} {k : Nat}
    (h : keyNumber key = some ((k : Int) + 1)) (hk : k + 1 < 2 ^ 64) :
    Text.parseUnsigned 64 key = some (k + 1) := by
  rw [parseUnsigned_eq_some_iff]
  refine ⟨?_, hk⟩
  unfold keyNumber at h
  split at h
  next cs hkey =>
    obtain ⟨n, hn, hvalue⟩ := Option.map_eq_some_iff.mp h
    rw [hkey, withoutPlus, hn]
    exact congrArg some (Int.ofNat.inj hvalue)
  next cs hkey =>
    obtain ⟨n, hn, hvalue⟩ := Option.map_eq_some_iff.mp h
    have hneg : (-(n : Int)) = (k : Int) + 1 := hvalue
    omega
  next cs hplus hminus =>
    obtain ⟨n, hn, hvalue⟩ := Option.map_eq_some_iff.mp h
    rw [withoutPlus_eq hplus, hn]
    exact congrArg some (Int.ofNat.inj hvalue)

/-! ## One key -/

section

variable {questions : List RequestUserInputQuestion} {key : String}

theorem questionForKey_of_number {index : Nat} (h : Text.parseUnsigned 64 key = some index) :
    questionForKey questions key = questions[index - 1]? := by
  unfold questionForKey
  rw [h]

theorem questionForKey_of_form (h : Text.parseUnsigned 64 key = none)
    {named : Option RequestUserInputQuestion} :
    questionForKey questions key = named ↔
      questions.find? (fun question =>
        normalizeRequestUserInputToken question.id = normalizeRequestUserInputToken key ||
          normalizeRequestUserInputToken question.header = normalizeRequestUserInputToken key) =
        named := by
  unfold questionForKey
  rw [h]

/-- A key in words finds nothing when no question fits it. -/
theorem questionForKey_eq_none_iff (h : Text.parseUnsigned 64 key = none) :
    questionForKey questions key = none ↔ ∀ question ∈ questions, ¬ FitsKey key question := by
  rw [questionForKey_of_form h, List.find?_eq_none]
  simp only [FitsKey, Bool.or_eq_true, decide_eq_true_eq]

/-- A key in words finds the first question that fits it. -/
theorem questionForKey_eq_some_iff (h : Text.parseUnsigned 64 key = none)
    {question : RequestUserInputQuestion} :
    questionForKey questions key = some question ↔ FitsKey key question ∧
      ∃ before after, questions = before ++ question :: after ∧
        ∀ earlier ∈ before, ¬ FitsKey key earlier := by
  rw [questionForKey_of_form h, List.find?_eq_some_iff_append]
  simp only [FitsKey, Bool.or_eq_true, decide_eq_true_eq, Bool.not_eq_true', Bool.or_eq_false_iff,
    decide_eq_false_iff_not, not_or]

/-- Questions with distinct ids: the one with an id is at one position. -/
theorem position_unique (hdistinct : (questions.map (·.id)).Nodup) {i j : Nat}
    {question question' : RequestUserInputQuestion} (hi : questions[i]? = some question)
    (hj : questions[j]? = some question') (hid : question.id = question'.id) : i = j := by
  have hlt : i < (questions.map (·.id)).length := by
    rw [List.length_map]
    exact (List.getElem?_eq_some_iff.mp hi).1
  refine (List.getElem?_inj hlt hdistinct).mp ?_
  rw [List.getElem?_map, List.getElem?_map, hi, hj, Option.map_some, Option.map_some, hid]

theorem getElem?_split {before after : List RequestUserInputQuestion}
    {question : RequestUserInputQuestion} (h : questions = before ++ question :: after) :
    questions[before.length]? = some question := by
  rw [h, List.getElem?_append_right (Nat.le_refl _), Nat.sub_self, List.getElem?_cons_zero]

/-- Questions with distinct ids are split at a question in one way. -/
theorem split_unique (hdistinct : (questions.map (·.id)).Nodup)
    {before before' after after' : List RequestUserInputQuestion}
    {question : RequestUserInputQuestion} (h : questions = before ++ question :: after)
    (h' : questions = before' ++ question :: after') : before = before' := by
  have hlength := position_unique hdistinct (getElem?_split h) (getElem?_split h') rfl
  exact (List.append_inj (h.symm.trans h') hlength).1

/-- A key for which the source finds all it names is one it reads right. -/
theorem KeyReadsRight.of_names (hquestions : MultiQuestion questions) {key : String}
    (hnames : ∀ named, KeyNames questions key named → questionForKey questions key = named) :
    KeyReadsRight questions key := by
  have hid : ∀ before question after, questions = before ++ question :: after →
      key = question.id → questionForKey questions key = some question := by
    intro before question after hsplit hkey
    refine hnames _ (.id ?_ hkey)
    rw [hsplit]
    exact List.mem_append_right _ (List.mem_cons_self ..)
  refine ⟨?_, ?_, ?_, ?_⟩
  · intro before question after hsplit hkey index hindex
    have hfound := hid before question after hsplit hkey
    rw [questionForKey_of_number hindex] at hfound
    exact position_unique hquestions.distinct hfound (getElem?_split hsplit) rfl
  · intro before question after hsplit hkey hform
    have hfound := hid before question after hsplit hkey
    obtain ⟨_, before', after', hsplit', hearlier⟩ := (questionForKey_eq_some_iff hform).mp hfound
    rw [split_unique hquestions.distinct hsplit hsplit']
    exact hearlier
  · intro hnoId hzero
    have hnone := hnames none
      (.noNumber hnoId (keyNumber_of_parseUnsigned hzero) (Or.inl (by decide)))
    rw [questionForKey_of_number hzero, List.getElem?_eq_none_iff] at hnone
    have := hquestions.several
    omega
  · intro hnoId n hn hform
    rw [← questionForKey_eq_none_iff hform]
    refine hnames none (.noNumber hnoId hn ?_)
    -- a number in range would be a `usize`
    by_contra hin
    obtain ⟨k, rfl⟩ : ∃ k : Nat, n = (k : Int) + 1 := ⟨(n - 1).toNat, by omega⟩
    have hfits := hquestions.fits
    rw [parseUnsigned_of_keyNumber hn (by omega)] at hform
    cases hform

/-- For a key that is read right the source finds what it names. -/
theorem KeyReadsRight.names (hquestions : MultiQuestion questions) {key : String}
    (hright : KeyReadsRight questions key) {named : Option RequestUserInputQuestion}
    (hnamed : KeyNames questions key named) : questionForKey questions key = named := by
  cases hnamed with
  | @id question hmem hkey =>
    obtain ⟨before, after, hsplit⟩ := List.append_of_mem hmem
    cases hform : Text.parseUnsigned 64 key with
    | some index =>
      rw [questionForKey_of_number hform,
        hright.numericId before question after hsplit hkey index hform]
      exact getElem?_split hsplit
    | none =>
      rw [questionForKey_eq_some_iff hform]
      refine ⟨Or.inl (by rw [hkey]), before, after, hsplit, ?_⟩
      exact hright.otherId before question after hsplit hkey hform
  | @number question k hnoId hnumber hget =>
    have hlt : k < questions.length := (List.getElem?_eq_some_iff.mp hget).1
    have hfits := hquestions.fits
    rw [questionForKey_of_number (parseUnsigned_of_keyNumber hnumber (by omega))]
    exact hget
  | @noNumber n hnoId hnumber hout =>
    cases hform : Text.parseUnsigned 64 key with
    | some index =>
      have hzero := hright.notZero hnoId
      rw [keyNumber_of_parseUnsigned hform, Option.some_inj] at hnumber
      rw [questionForKey_of_number hform, List.getElem?_eq_none_iff]
      have : index ≠ 0 := fun h => hzero (h ▸ hform)
      omega
    | none =>
      rw [questionForKey_eq_none_iff hform]
      exact hright.otherNumber hnoId n hnumber hform

/-- **One key.** The source finds what the key names exactly for the keys it reads right. -/
theorem questionForKey_names_iff (hquestions : MultiQuestion questions) (key : String) :
    (∀ named, KeyNames questions key named → questionForKey questions key = named) ↔
      KeyReadsRight questions key := by
  constructor
  · exact fun hnames => .of_names hquestions hnames
  · exact fun hright named hnamed => hright.names hquestions hnamed

/-- An id in words that no other question fits is read right. -/
theorem KeyReadsRight.of_id (hdistinct : (questions.map (·.id)).Nodup)
    {question : RequestUserInputQuestion} (hmem : question ∈ questions)
    (hform : Text.parseUnsigned 64 question.id = none)
    (hother : ∀ other ∈ questions, FitsKey question.id other → other = question) :
    KeyReadsRight questions question.id := by
  refine ⟨?_, ?_, ?_, ?_⟩
  · intro _ _ _ _ _ index hindex
    rw [hform] at hindex
    cases hindex
  · intro before found after hsplit hid _ earlier hearlier hfits
    have hmemEarlier : earlier ∈ questions := by
      rw [hsplit]
      exact List.mem_append_left _ hearlier
    rw [hsplit, List.map_append, List.nodup_append] at hdistinct
    refine hdistinct.2.2 earlier.id (List.mem_map_of_mem hearlier) found.id (List.mem_cons_self ..)
      ?_
    rw [hother earlier hmemEarlier hfits, hid]
  · exact fun hnoId => absurd rfl (hnoId question hmem)
  · exact fun hnoId => absurd rfl (hnoId question hmem)

end

end CodexAcp.UserInput

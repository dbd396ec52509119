import CodexAcp.UserInput

/-!
# Which option an answer chooses

An answer chooses an option by its number or by its label. Labels are compared
by their normal forms, which keep nothing of a label without ASCII letters or
digits; such a label is a prefix of every answer and cannot be named by itself.

> `chooses_stated_option_iff`: an answer chooses an option it states, by its number or by a
> text no other label fits, exactly when it does not fall to the one label with an empty
> normal form.
> `reply_selects_iff`: the number and the label of an option both choose it exactly when
> the normal form of the label is not empty and no other label has it.
-/

namespace CodexAcp.UserInput

open CodexAcp.Lib CodexAcp.Protocol

/-- The labels shown with a question. -/
def shownLabels (question : RequestUserInputQuestion) : List String :=
  match question.options with
  | some (option :: options) => optionLabels question (option :: options)
  | _ => []

/-- The one element of a list with a property, wherever it stands. -/
def OnlyOne {α : Type} (p : α → Prop) (as : List α) (a : α) : Prop :=
  ∃ before after, as = before ++ a :: after ∧ p a ∧ ∀ other ∈ before ++ after, ¬ p other

namespace OnlyOne

variable {α : Type} {p : α → Prop} {as : List α} {a b : α}

theorem mem (h : OnlyOne p as a) : a ∈ as := by
  obtain ⟨before, after, rfl, _, _⟩ := h
  exact List.mem_append_right _ (List.mem_cons_self ..)

theorem holds (h : OnlyOne p as a) : p a := by
  obtain ⟨_, _, _, ha, _⟩ := h
  exact ha

theorem eq_of_mem (h : OnlyOne p as a) (hb : b ∈ as) (hpb : p b) : b = a := by
  obtain ⟨before, after, rfl, _, hother⟩ := h
  rcases List.mem_append.mp hb with hbefore | hafter
  · exact absurd hpb (hother b (List.mem_append_left _ hbefore))
  · rcases List.mem_cons.mp hafter with rfl | hafter
    · rfl
    · exact absurd hpb (hother b (List.mem_append_right _ hafter))

theorem eq (h : OnlyOne p as a) (h' : OnlyOne p as b) : a = b :=
  h'.eq_of_mem h.mem h.holds

/-- The only one is at the only position with the property. -/
theorem iff_position {k : Nat} (hk : as[k]? = some a) (ha : p a) :
    OnlyOne p as a ↔ ∀ (j : Nat) (b : α), as[j]? = some b → p b → j = k := by
  constructor
  · rintro ⟨before, after, rfl, _, hother⟩
    have hposition : ∀ (j : Nat) (b : α), (before ++ a :: after)[j]? = some b → p b →
        j = before.length := by
      intro j b hj hb
      rcases Nat.lt_trichotomy j before.length with hlt | heq | hgt
      · rw [List.getElem?_append_left hlt] at hj
        exact absurd hb (hother b (List.mem_append_left _ (List.mem_of_getElem? hj)))
      · exact heq
      · obtain ⟨n, hn⟩ := Nat.exists_eq_add_of_lt hgt
        rw [List.getElem?_append_right (by omega), hn,
          show before.length + n + 1 - before.length = n + 1 by omega,
          List.getElem?_cons_succ] at hj
        exact absurd hb (hother b (List.mem_append_right _ (List.mem_of_getElem? hj)))
    intro j b hj hb
    rw [hposition j b hj hb, hposition k a hk ha]
  · intro honly
    obtain ⟨hlt, hget⟩ := List.getElem?_eq_some_iff.mp hk
    refine ⟨as.take k, as.drop (k + 1), ?_, ha, ?_⟩
    · rw [← hget, List.getElem_cons_drop, List.take_append_drop]
    · rw [List.forall_mem_append]
      constructor
      · intro b hb hpb
        obtain ⟨j, hj⟩ := List.mem_iff_getElem?.mp hb
        have hjk : j < k := by
          obtain ⟨hlength, _⟩ := List.getElem?_eq_some_iff.mp hj
          rw [List.length_take] at hlength
          omega
        rw [List.getElem?_take_of_lt hjk] at hj
        exact absurd (honly j b hj hpb) (by omega)
      · intro b hb hpb
        obtain ⟨j, hj⟩ := List.mem_iff_getElem?.mp hb
        rw [List.getElem?_drop] at hj
        exact absurd (honly _ b hj hpb) (by omega)

end OnlyOne

theorem filter_eq_singleton_iff {α : Type} (p : α → Bool) (as : List α) (a : α) :
    as.filter p = [a] ↔ OnlyOne (p · = true) as a := by
  rw [List.filter_eq_cons_iff]
  unfold OnlyOne
  constructor
  · rintro ⟨before, after, has, hbefore, ha, hafter⟩
    refine ⟨before, after, has, ha, ?_⟩
    rw [List.forall_mem_append]
    exact ⟨hbefore, List.filter_eq_nil_iff.mp hafter⟩
  · rintro ⟨before, after, has, ha, hother⟩
    rw [List.forall_mem_append] at hother
    exact ⟨before, after, has, hother.1, ha, List.filter_eq_nil_iff.mpr hother.2⟩

/-! ## Normal forms -/

/-- A label has the answer's normal form. -/
def SameForm (answer label : String) : Prop :=
  normalizeRequestUserInputToken label = normalizeRequestUserInputToken answer

/-- The normal form of one of answer and label starts with the other's. -/
def PrefixForm (answer label : String) : Prop :=
  (normalizeRequestUserInputToken answer).toList <+: (normalizeRequestUserInputToken label).toList ∨
    (normalizeRequestUserInputToken label).toList <+: (normalizeRequestUserInputToken answer).toList

theorem SameForm.prefixForm {answer label : String} (h : SameForm answer label) :
    PrefixForm answer label := by
  unfold SameForm at h
  unfold PrefixForm
  rw [h]
  exact Or.inl (List.prefix_refl _)

theorem prefixMatches_iff (answer label : String) :
    prefixMatches (normalizeRequestUserInputToken answer) label = true ↔
      PrefixForm answer label := by
  unfold prefixMatches PrefixForm Text.startsWith
  rw [Bool.or_eq_true, List.isPrefixOf_iff_prefix, List.isPrefixOf_iff_prefix]

/-- A label without a normal form is a prefix of every answer. -/
theorem prefixForm_of_empty {label : String} (h : normalizeRequestUserInputToken label = "")
    (answer : String) : PrefixForm answer label := by
  unfold PrefixForm
  rw [h]
  exact Or.inr (List.nil_prefix ..)

/-- The whitespace around an answer is no part of its normal form. -/
theorem normalize_trim (answer : String) :
    normalizeRequestUserInputToken (Text.trim answer) = normalizeRequestUserInputToken answer := by
  unfold normalizeRequestUserInputToken
  rw [Text.filter_toList_trim fun c hc => Text.isAsciiAlphanumeric_of_isWhitespace hc]

/-! ## Matching a text -/

/-- **What a text matches.** -/
theorem matchLabel_eq_some_iff {labels : List String} {answer label : String} :
    matchLabel labels answer = some label ↔
      normalizeRequestUserInputToken answer ≠ "" ∧
        (OnlyOne (SameForm answer) labels label ∨ OnlyOne (PrefixForm answer) labels label) := by
  have hexact : ∀ label, labels.filter (fun label => normalizeRequestUserInputToken label =
      normalizeRequestUserInputToken answer) = [label] ↔
        OnlyOne (SameForm answer) labels label := by
    intro label
    rw [filter_eq_singleton_iff]
    simp [OnlyOne, SameForm]
  have hmatches : ∀ label, labels.filter (prefixMatches (normalizeRequestUserInputToken answer)) =
      [label] ↔ OnlyOne (PrefixForm answer) labels label := by
    intro label
    rw [filter_eq_singleton_iff]
    simp only [OnlyOne, prefixMatches_iff]
  unfold matchLabel
  by_cases hempty : normalizeRequestUserInputToken answer = ""
  · simp [hempty]
  · rw [if_neg hempty]
    split
    next matched hmatched =>
      rw [hexact] at hmatched
      constructor
      · intro h
        cases h
        exact ⟨hempty, Or.inl hmatched⟩
      · rintro ⟨_, h | h⟩
        · rw [hmatched.eq h]
        · rw [h.eq_of_mem hmatched.mem hmatched.holds.prefixForm]
    next hno =>
      -- no single label has the normal form
      have hnone : ∀ label, ¬ OnlyOne (SameForm answer) labels label :=
        fun label h => hno label ((hexact label).mpr h)
      split
      next matched hmatched =>
        rw [hmatches] at hmatched
        constructor
        · intro h
          cases h
          exact ⟨hempty, Or.inr hmatched⟩
        · rintro ⟨_, h | h⟩
          · exact absurd h (hnone label)
          · rw [hmatched.eq h]
      next hno' =>
        refine ⟨nofun, ?_⟩
        rintro ⟨_, h | h⟩
        · exact absurd h (hnone label)
        · exact absurd ((hmatches label).mpr h) (hno' label)

/-! ## Numbers -/

/-- The number of a label is one more than its position. -/
theorem numberedOption_eq (question : RequestUserInputQuestion)
    (options : List RequestUserInputQuestionOption) (index : Nat) :
    numberedOption question options index =
      if index = 0 then none else (optionLabels question options)[index - 1]? := by
  unfold numberedOption optionLabels
  by_cases hzero : index = 0
  · subst hzero
    simp
  · rw [if_neg hzero]
    by_cases hin : index ≤ options.length
    · rw [if_pos ⟨by omega, hin⟩, List.getElem?_append_left (by rw [List.length_map]; omega),
        List.getElem?_map]
    · rw [if_neg (by omega), List.getElem?_append_right (by rw [List.length_map]; omega),
        List.length_map]
      by_cases hother : question.isOther = true
      · rw [if_pos hother]
        by_cases hlast : index = options.length + 1
        · subst hlast
          simp [hother]
        · rw [if_neg (by simp [hlast])]
          have hpos : index - 1 - options.length ≠ 0 := by omega
          obtain ⟨n, hn⟩ := Nat.exists_eq_succ_of_ne_zero hpos
          rw [hn]
          rfl
      · rw [if_neg (by simp [hother]), if_neg hother]
        rfl

/-- The answer is the number of the label. -/
def IsNumberOf (question : RequestUserInputQuestion) (answer label : String) : Prop :=
  ∃ k, Text.parseUnsigned 64 (Text.trim answer) = some (k + 1) ∧
    (shownLabels question)[k]? = some label

/-- **What an answer matches**: the label of its number, or else of its text. -/
theorem matchRequestUserInputOption_eq_some_iff {question : RequestUserInputQuestion}
    {answer label : String} :
    matchRequestUserInputOption question answer = some label ↔
      IsNumberOf question answer label ∨
        (∀ label, ¬ IsNumberOf question answer label) ∧
          matchLabel (shownLabels question) (Text.trim answer) = some label := by
  unfold matchRequestUserInputOption IsNumberOf shownLabels
  cases hoptions : question.options with
  | none => simp [matchLabel]
  | some options =>
    cases options with
    | nil => simp [matchLabel]
    | cons option options =>
      dsimp only
      rw [if_neg (by simp)]
      generalize option :: options = options
      have hnumber : ∀ label, (Text.parseUnsigned 64 (Text.trim answer)).bind
          (numberedOption question options) = some label ↔
            ∃ k, Text.parseUnsigned 64 (Text.trim answer) = some (k + 1) ∧
              (optionLabels question options)[k]? = some label := by
        intro label
        cases Text.parseUnsigned 64 (Text.trim answer) with
        | none => simp
        | some index =>
          rw [Option.bind_some, numberedOption_eq]
          cases index with
          | zero => simp
          | succ k => simp
      split
      next matched hmatched =>
        have hmatched' := (hnumber matched).mp hmatched
        constructor
        · intro h
          cases h
          exact Or.inl hmatched'
        · rintro (h | ⟨h, _⟩)
          · rw [← hmatched]
            exact (hnumber label).mpr h
          · exact absurd hmatched' (h matched)
      next hno =>
        have hnone : ∀ label, ¬ ∃ k, Text.parseUnsigned 64 (Text.trim answer) = some (k + 1) ∧
            (optionLabels question options)[k]? = some label := by
          intro label h
          rw [← hnumber, hno] at h
          cases h
        constructor
        · exact fun h => Or.inr ⟨hnone, h⟩
        · rintro (h | ⟨_, h⟩)
          · exact absurd h (hnone label)
          · exact h

/-! ## No choice is invented -/

/-- The answer states the label by a text that no other label fits as well. -/
structure StatesLabel (labels : List String) (answer label : String) : Prop where
  answerForm : normalizeRequestUserInputToken answer ≠ ""
  labelForm : normalizeRequestUserInputToken label ≠ ""
  only : OnlyOne (SameForm answer) labels label ∨ OnlyOne (PrefixForm answer) labels label

/-- The answer fits no label but the one that has no normal form and fits every answer. -/
def FallsToEmptyLabel (question : RequestUserInputQuestion) (answer : String) : Prop :=
  (∀ label, ¬ IsNumberOf question answer label) ∧
    normalizeRequestUserInputToken answer ≠ "" ∧
    ∃ before label after, shownLabels question = before ++ label :: after ∧
      normalizeRequestUserInputToken label = "" ∧
      ∀ other ∈ before ++ after, ¬ PrefixForm answer other

theorem sameForm_trim (answer : String) : SameForm (Text.trim answer) = SameForm answer := by
  funext label
  unfold SameForm
  rw [normalize_trim]

theorem prefixForm_trim (answer : String) : PrefixForm (Text.trim answer) = PrefixForm answer := by
  funext label
  unfold PrefixForm
  rw [normalize_trim]

/-- **No invented choice.** An answer chooses a label only by its number or by a text that
states it, exactly when it does not fall to the label without a normal form. -/
theorem chooses_stated_option_iff (question : RequestUserInputQuestion) (answer : String) :
    (∀ label, matchRequestUserInputOption question answer = some label →
      IsNumberOf question answer label ∨
        StatesLabel (shownLabels question) answer label) ↔
      ¬ FallsToEmptyLabel question answer := by
  constructor
  · rintro hstated ⟨hnumber, hanswer, before, label, after, hlabels, hlabel, hother⟩
    have hmatch : matchRequestUserInputOption question answer = some label := by
      rw [matchRequestUserInputOption_eq_some_iff, matchLabel_eq_some_iff, normalize_trim,
        sameForm_trim, prefixForm_trim]
      exact Or.inr ⟨hnumber, hanswer, Or.inr ⟨before, after, hlabels,
        prefixForm_of_empty hlabel answer, hother⟩⟩
    rcases hstated label hmatch with h | h
    · exact hnumber label h
    · exact h.labelForm hlabel
  · intro hfalls label hmatch
    rw [matchRequestUserInputOption_eq_some_iff, matchLabel_eq_some_iff, normalize_trim,
      sameForm_trim, prefixForm_trim] at hmatch
    rcases hmatch with h | ⟨hnumber, hanswer, honly⟩
    · exact Or.inl h
    · refine Or.inr ⟨hanswer, fun hlabel => ?_, honly⟩
      rcases honly with h | ⟨before, after, hlabels, _, hother⟩
      · -- an equal normal form is not empty either
        exact hanswer (h.holds.symm.trans hlabel)
      · exact hfalls ⟨hnumber, hanswer, before, label, after, hlabels, hlabel, hother⟩

/-- The answer `no` chooses the only option, `はい`. -/
theorem no_chooses_yes :
    ¬ ∀ (question : RequestUserInputQuestion) (answer label : String),
      matchRequestUserInputOption question answer = some label →
        IsNumberOf question answer label ∨
          StatesLabel (shownLabels question) answer label := by
  intro h
  rcases h (sampleQuestion ["はい"]) "no" "はい" (by decide) with ⟨k, hk, _⟩ | hstated
  · exact absurd hk (by rw [show Text.parseUnsigned 64 (Text.trim "no") = none by decide]; nofun)
  · exact hstated.labelForm (by decide)

/-! ## Numbers and labels choose -/

/-- A reply to a single question that is read as an answer without a note. -/
structure PlainReply (reply : String) : Prop where
  trimmed : Text.trim reply = reply
  notCancel : isCancel reply = false
  noNote : '|' ∉ reply.toList

theorem parseRequestUserInputAnswer_label {question : RequestUserInputQuestion}
    {reply label : String} (hoptions : shownLabels question ≠ []) (hreply : PlainReply reply) :
    parseRequestUserInputAnswer question reply = .ok [label] ↔
      matchRequestUserInputOption question reply = some label := by
  have hshown : question.options.any (!·.isEmpty) = true := by
    unfold shownLabels at hoptions
    cases h : question.options with
    | none => rw [h] at hoptions; exact absurd rfl hoptions
    | some options =>
      cases options with
      | nil => rw [h] at hoptions; exact absurd rfl hoptions
      | cons option options => rfl
  unfold parseRequestUserInputAnswer selectionAndNote
  rw [hreply.trimmed, if_pos hshown, Text.splitOnce_eq_none_iff.mpr hreply.noNote]
  dsimp only
  cases matchRequestUserInputOption question reply with
  | some matched => simp
  | none =>
    by_cases hother : question.isOther = true ∧ reply ≠ ""
    · rw [if_pos hother]
      simp
    · rw [if_neg hother]
      simp

/-- The reply to a single question is its answer. -/
theorem parseRequestUserInputResponse_single {request : PendingUserInputRequest}
    {question : RequestUserInputQuestion} {reply : String} {answers : List String}
    (hquestions : request.questions = [question]) (hreply : PlainReply reply) :
    parseRequestUserInputResponse request reply = .ok ⟨[(question.id, answers)]⟩ ↔
      parseRequestUserInputAnswer question reply = .ok answers := by
  unfold parseRequestUserInputResponse
  dsimp only
  rw [hreply.trimmed, hreply.notCancel, hquestions]
  dsimp only
  cases parseRequestUserInputAnswer question reply with
  | error err => exact ⟨nofun, nofun⟩
  | ok answer =>
    show (Except.ok (RequestUserInputResponse.mk [(question.id, answer)]) : Except Error _) =
      .ok ⟨[(question.id, answers)]⟩ ↔ _
    simp

/-- A text with a character that is in no cancel keyword is none. -/
theorem isCancel_eq_false {s : String} {c : Char} (hc : c ∈ s.toList)
    (hlower : ¬ ('A' ≤ c ∧ c ≤ 'Z')) (hkeyword : c ∉ "/cancel".toList) : isCancel s = false := by
  unfold isCancel
  simp only [Bool.or_eq_false_iff, decide_eq_false_iff_not]
  refine ⟨⟨?_, ?_⟩, ?_⟩
  · rintro rfl
    cases hc
  · rintro rfl
    exact hkeyword hc
  · intro h
    have hmem := Text.mem_toAsciiLowercase hc hlower
    rw [h] at hmem
    exact hkeyword (List.mem_cons_of_mem _ hmem)

/-- A printed number is a plain reply. -/
theorem plainReply_repr (n : Nat) : PlainReply n.repr := by
  obtain ⟨c, hc⟩ : ∃ c, c ∈ n.repr.toList := by
    rw [Nat.toList_repr]
    exact List.exists_mem_of_ne_nil _ Nat.toDigits_ne_nil
  have hdigit : Text.isAsciiDigit c = true := Text.isAsciiDigit_of_mem_repr hc
  have hkeyword : ∀ x ∈ "/cancel".toList, Text.isAsciiDigit x = false := by
    have hnone : ("/cancel".toList.all fun x => !Text.isAsciiDigit x) = true := rfl
    simpa using hnone
  refine ⟨Text.trim_repr n, isCancel_eq_false hc ?_ fun h => ?_, fun h => ?_⟩
  · rintro ⟨hupper, _⟩
    have hnine : c ≤ '9' := by
      unfold Text.isAsciiDigit at hdigit
      simp only [Bool.and_eq_true, decide_eq_true_eq] at hdigit
      exact hdigit.2
    exact absurd (Char.le_trans hupper hnine) (by decide)
  · rw [hkeyword c h] at hdigit
    cases hdigit
  · exact absurd (Text.isAsciiDigit_of_mem_repr h) (by decide)

/-- A label that is read as an answer in words. -/
structure PlainLabel (label : String) : Prop extends PlainReply label where
  notNumber : Text.parseUnsigned 64 label = none

/-- The text of a label matches it exactly when its normal form is not empty and is no other
label's. -/
theorem matchRequestUserInputOption_label_iff {question : RequestUserInputQuestion}
    {label : String} {k : Nat} (hlabel : PlainLabel label)
    (hk : (shownLabels question)[k]? = some label) :
    matchRequestUserInputOption question label = some label ↔
      normalizeRequestUserInputToken label ≠ "" ∧
        ∀ (j : Nat) (other : String), (shownLabels question)[j]? = some other →
          SameForm label other → j = k := by
  have hnumber : ∀ other, ¬ IsNumberOf question label other := by
    rintro other ⟨j, hj, _⟩
    rw [hlabel.trimmed, hlabel.notNumber] at hj
    cases hj
  have hself : SameForm label label := rfl
  rw [matchRequestUserInputOption_eq_some_iff, matchLabel_eq_some_iff, hlabel.trimmed,
    ← OnlyOne.iff_position hk hself]
  constructor
  · rintro (h | ⟨_, hform, h | ⟨before, after, hlabels, _, hother⟩⟩)
    · exact absurd h (hnumber label)
    · exact ⟨hform, h⟩
    · -- what is no prefix of the label is not equal to it
      exact ⟨hform, before, after, hlabels, hself, fun other hmem hsame =>
        hother other hmem hsame.prefixForm⟩
  · rintro ⟨hform, h⟩
    exact Or.inr ⟨hnumber, hform, Or.inl h⟩

/-- **Numbers and labels.** Replying to a single question with the number of a label chooses it,
and so does replying with the label, exactly when its normal form is not empty and is no other
label's. -/
theorem reply_selects_iff (request : PendingUserInputRequest)
    (question : RequestUserInputQuestion) (k : Nat) (label : String)
    (hquestions : request.questions = [question])
    (hk : (shownLabels question)[k]? = some label) (hsize : k + 1 < 2 ^ 64)
    (hlabel : PlainLabel label) :
    (parseRequestUserInputResponse request (k + 1).repr = .ok ⟨[(question.id, [label])]⟩ ∧
      parseRequestUserInputResponse request label = .ok ⟨[(question.id, [label])]⟩) ↔
      normalizeRequestUserInputToken label ≠ "" ∧
        ∀ (j : Nat) (other : String), (shownLabels question)[j]? = some other →
          normalizeRequestUserInputToken other = normalizeRequestUserInputToken label → j = k := by
  have hshown : shownLabels question ≠ [] := by
    intro h
    rw [h] at hk
    cases hk
  have hnumber : IsNumberOf question (k + 1).repr label := by
    refine ⟨k, ?_, hk⟩
    rw [Text.trim_repr, Text.parseUnsigned_repr hsize]
  have hreply := plainReply_repr (k + 1)
  rw [parseRequestUserInputResponse_single hquestions hreply,
    parseRequestUserInputAnswer_label hshown hreply,
    parseRequestUserInputResponse_single hquestions hlabel.toPlainReply,
    parseRequestUserInputAnswer_label hshown hlabel.toPlainReply,
    matchRequestUserInputOption_label_iff hlabel hk]
  exact and_iff_right (matchRequestUserInputOption_eq_some_iff.mpr (Or.inl hnumber))

/-- Of `Yes` and `No`, `No` is chosen by its number and by its text. -/
theorem reply_selects_no :
    parseRequestUserInputResponse (sampleRequest [sampleQuestion ["Yes", "No"]]) "No" =
      .ok ⟨[("confirm", ["No"])]⟩ := by
  refine ((reply_selects_iff (sampleRequest [sampleQuestion ["Yes", "No"]]) _ 1 "No" rfl rfl
    (by decide) ⟨⟨by decide, by decide, by decide⟩, by decide⟩).mpr ⟨by decide, ?_⟩).2
  rintro (_ | _ | j) other hj hform
  · cases hj
    exact absurd hform (by decide)
  · rfl
  · cases hj

/-- The label `はい` does not choose its option. -/
theorem label_does_not_select :
    ¬ ∀ (request : PendingUserInputRequest) (question : RequestUserInputQuestion) (k : Nat)
      (label : String), request.questions = [question] →
        (shownLabels question).Nodup → (shownLabels question)[k]? = some label →
        (∀ other ∈ shownLabels question, PlainLabel other) →
          parseRequestUserInputResponse request label = .ok ⟨[(question.id, [label])]⟩ := by
  intro h
  have hyes := h (sampleRequest [sampleQuestion ["はい", "いいえ"]]) _ 0 "はい" rfl (by decide) rfl
    (by
      rw [show shownLabels (sampleQuestion ["はい", "いいえ"]) = ["はい", "いいえ"] from rfl,
        List.forall_mem_cons, List.forall_mem_singleton]
      exact ⟨⟨⟨by decide, by decide, by decide⟩, by decide⟩,
        ⟨⟨by decide, by decide, by decide⟩, by decide⟩⟩)
  rw [parseRequestUserInputResponse_single rfl ⟨by decide, by decide, by decide⟩,
    parseRequestUserInputAnswer_label (by decide) ⟨by decide, by decide, by decide⟩] at hyes
  revert hyes
  decide

end CodexAcp.UserInput

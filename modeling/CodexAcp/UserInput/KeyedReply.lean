import CodexAcp.UserInput.Attribution

/-!
# Replies of one line a question

A reply to several questions made of lines `key: value`. Each line is read on its
own (`answerLine`), a later line for a question replacing an earlier one.

> `keyed_reply_iff`: every line answers the question its key names, and the lines
> `<id>: <number>` of an assignment of options in any order are read as this
> assignment, exactly when the source reads every key of the reply right
> (`KeyReadsRight`).
-/

namespace CodexAcp.UserInput

open CodexAcp.Lib CodexAcp.Protocol

/-! ## What a line does says which question it answers -/

/-- A refused answer names its question. -/
theorem parseRequestUserInputAnswer_error {question : RequestUserInputQuestion} {value : String}
    {err : Error} (h : parseRequestUserInputAnswer question value = .error err) :
    err = Error.invalidParams.withData
      ("Could not match `" ++ Text.trim value ++ "` to an available option for question `" ++
        question.id ++ "`") := by
  unfold parseRequestUserInputAnswer at h
  dsimp only at h
  split at h
  next =>
    split at h
    next => cases h
    next =>
      split at h
      next => cases h
      next =>
        cases h
        rfl
  next => cases h

theorem withData_inj {e : Error} {s t : String} (h : e.withData s = e.withData t) : s = t :=
  Json.string.inj (Option.some.inj (Error.mk.inj h).2)

theorem answerKey_some_of_ok {question : RequestUserInputQuestion} {key value : String}
    {answer : List String} (h : parseRequestUserInputAnswer question value = .ok answer)
    (answers : Answers) :
    answerKey (some question) key value answers = .ok (answers.insert question.id answer) := by
  unfold answerKey
  dsimp only
  rw [h]
  rfl

theorem answerKey_some_of_error {question : RequestUserInputQuestion} {key value : String}
    {err : Error} (h : parseRequestUserInputAnswer question value = .error err)
    (answers : Answers) : answerKey (some question) key value answers = .error err := by
  unfold answerKey
  dsimp only
  rw [h]
  rfl

/-- An unknown key does something else than any question's. -/
theorem answerKey_none_ne (question : RequestUserInputQuestion) (key value : String)
    (answers : Answers) :
    answerKey none key value answers ≠ answerKey (some question) key value answers := by
  intro h
  cases hparse : parseRequestUserInputAnswer question value with
  | ok answer =>
    rw [answerKey_some_of_ok hparse] at h
    cases h
  | error err =>
    rw [answerKey_some_of_error hparse] at h
    have htext := withData_inj ((Except.error.inj h).trans (parseRequestUserInputAnswer_error hparse))
    have hhead := congrArg (fun s : String => s.toList.head?) htext
    simp at hhead

/-- What a line does with its key taken for a question says which question that is. -/
theorem answerKey_id_inj {question question' : RequestUserInputQuestion} {key value : String}
    (h : answerKey (some question) key value ∅ = answerKey (some question') key value ∅) :
    question.id = question'.id := by
  cases hparse : parseRequestUserInputAnswer question value with
  | ok answer =>
    rw [answerKey_some_of_ok hparse] at h
    cases hparse' : parseRequestUserInputAnswer question' value with
    | ok answer' =>
      rw [answerKey_some_of_ok hparse'] at h
      have hlookup := congrArg (fun d : Answers => d.lookup question.id) (Except.ok.inj h)
      rw [AList.lookup_insert] at hlookup
      rcases Dict.lookup_insert_eq_some.mp hlookup.symm with ⟨hid, _⟩ | ⟨_, hnone⟩
      · exact hid
      · cases hnone
    | error err =>
      rw [answerKey_some_of_error hparse'] at h
      cases h
  | error err =>
    rw [answerKey_some_of_error hparse] at h
    cases hparse' : parseRequestUserInputAnswer question' value with
    | ok answer' =>
      rw [answerKey_some_of_ok hparse'] at h
      cases h
    | error err' =>
      rw [answerKey_some_of_error hparse', parseRequestUserInputAnswer_error hparse,
        parseRequestUserInputAnswer_error hparse'] at h
      have htext := withData_inj (Except.error.inj h)
      simpa using htext

theorem answerKey_inj {questions : List RequestUserInputQuestion}
    (hdistinct : (questions.map (·.id)).Nodup) {named found : Option RequestUserInputQuestion}
    {key value : String} (hnamed : ∀ question ∈ named, question ∈ questions)
    (hfound : ∀ question ∈ found, question ∈ questions)
    (h : answerKey named key value ∅ = answerKey found key value ∅) : named = found := by
  cases named with
  | none =>
    cases found with
    | none => rfl
    | some question => exact absurd h (answerKey_none_ne question key value ∅)
  | some question =>
    cases found with
    | none => exact absurd h.symm (answerKey_none_ne question key value ∅)
    | some question' =>
      rw [List.inj_on_of_nodup_map hdistinct (hnamed question rfl) (hfound question' rfl)
        (answerKey_id_inj h)]

/-! ## Lines and what their keys name -/

theorem KeyNames.mem {questions : List RequestUserInputQuestion} {key : String}
    {named : Option RequestUserInputQuestion} (h : KeyNames questions key named) :
    ∀ question ∈ named, question ∈ questions := by
  intro question hquestion
  cases h with
  | id hmem hkey =>
    cases hquestion
    exact hmem
  | number hnoId hnumber hget =>
    cases hquestion
    exact List.mem_of_getElem? hget
  | noNumber => cases hquestion

theorem answerLine_of_split {line rawKey rawValue : String}
    (h : Text.splitOnce ':' line = some (rawKey, rawValue))
    (questions : List RequestUserInputQuestion) (answers : Answers) :
    answerLine questions answers line =
      answerKey (questionForKey questions (Text.trim rawKey)) (Text.trim rawKey)
        (Text.trim rawValue) answers := by
  unfold answerLine
  rw [h]

/-- Every line answers the question its key names, and is refused when its key is the number
of none. -/
def LinesAnswered (questions : List RequestUserInputQuestion) (lines : List String) : Prop :=
  ∀ line ∈ lines, ∀ rawKey rawValue, Text.splitOnce ':' line = some (rawKey, rawValue) →
    ∀ named, KeyNames questions (Text.trim rawKey) named →
      ∀ answers, answerLine questions answers line =
        answerKey named (Text.trim rawKey) (Text.trim rawValue) answers

/-- The source reads every key right. -/
def KeysReadRight (questions : List RequestUserInputQuestion) (lines : List String) : Prop :=
  ∀ line ∈ lines, ∀ rawKey rawValue, Text.splitOnce ':' line = some (rawKey, rawValue) →
    KeyReadsRight questions (Text.trim rawKey)

theorem linesAnswered_iff {questions : List RequestUserInputQuestion}
    (hquestions : MultiQuestion questions) (lines : List String) :
    LinesAnswered questions lines ↔ KeysReadRight questions lines := by
  refine forall₂_congr fun line _ => forall_congr' fun rawKey => forall_congr' fun rawValue =>
    forall_congr' fun hsplit => ?_
  rw [← questionForKey_names_iff hquestions]
  refine forall₂_congr fun named hnamed => ?_
  simp only [answerLine_of_split hsplit]
  constructor
  · intro h
    exact answerKey_inj hquestions.distinct (fun question hfound => questionForKey_mem hfound)
      hnamed.mem (h ∅)
  · intro h answers
    rw [h]

/-! ## The keyed reply -/

/-- A reply made of lines with a `:` is read line by line. -/
theorem parseRequestUserInputResponse_keyed {request : PendingUserInputRequest}
    (hseveral : 2 ≤ request.questions.length) {raw : String}
    (hlines : replyLines (Text.trim raw) ≠ [])
    (hkeyed : ∀ line ∈ replyLines (Text.trim raw), ':' ∈ line.toList) :
    parseRequestUserInputResponse request raw =
      (keyedAnswers request.questions (replyLines (Text.trim raw))).map responseOf := by
  have hcancel : isCancel (Text.trim raw) = false := by
    obtain ⟨line, hline⟩ := List.exists_mem_of_ne_nil _ hlines
    obtain ⟨hmem, _⟩ := List.mem_filter.mp hline
    obtain ⟨l, hl, rfl⟩ := List.mem_map.mp hmem
    have hcolon := Text.mem_of_mem_lines hl (Text.mem_of_mem_trim (hkeyed _ hline))
    exact isCancel_eq_false hcolon (by decide) (by decide)
  unfold parseRequestUserInputResponse
  dsimp only
  rw [hcancel]
  split
  next h => cases h
  next =>
    split
    next question hquestion =>
      rw [hquestion] at hseveral
      exact absurd hseveral (by simp)
    next =>
      have hall : ((replyLines (Text.trim raw)).all (·.toList.contains ':')) = true := by
        rw [List.all_eq_true]
        intro line hline
        exact List.contains_iff_mem.mpr (hkeyed line hline)
      rw [if_neg (by rw [hall]; simp)]
      cases keyedAnswers request.questions (replyLines (Text.trim raw)) <;> rfl

/-! ## Assignments -/

/-- An option for every question: its position among the labels shown, and its label. -/
structure Assignment (questions : List RequestUserInputQuestion) where
  position : RequestUserInputQuestion → Nat
  label : RequestUserInputQuestion → String
  shown : ∀ question ∈ questions, (shownLabels question)[position question]? = some (label question)

namespace Assignment

variable {questions : List RequestUserInputQuestion}

/-- The line `<id>: <number>` of a question. -/
def line (assignment : Assignment questions) (question : RequestUserInputQuestion) : String :=
  question.id ++ ":" ++ (" " ++ (assignment.position question + 1).repr)

/-- The lines of the questions, in an order. -/
def reply (assignment : Assignment questions) (order : List RequestUserInputQuestion) : String :=
  "\n".intercalate (order.map assignment.line)

/-- The labels assigned, by question id. -/
def answers (assignment : Assignment questions) (order : List RequestUserInputQuestion) :
    Answers :=
  Dict.collect (order.map fun question => (question.id, [assignment.label question]))

/-! ### Its lines -/

theorem toList_line (assignment : Assignment questions) (question : RequestUserInputQuestion) :
    (assignment.line question).toList =
      question.id.toList ++ ':' :: ' ' :: (assignment.position question + 1).repr.toList := by
  unfold line
  rw [String.toList_append, String.toList_append, String.toList_append, List.append_assoc]
  rfl

theorem colon_mem_line (assignment : Assignment questions) (question : RequestUserInputQuestion) :
    ':' ∈ (assignment.line question).toList := by
  rw [toList_line]
  exact List.mem_append_right _ (List.mem_cons_self ..)

/-- A line ends with a digit. -/
theorem getLast?_line (assignment : Assignment questions) (question : RequestUserInputQuestion)
    {c : Char} (h : c ∈ (assignment.line question).toList.getLast?) :
    Text.isAsciiDigit c = true := by
  have hne : (assignment.position question + 1).repr.toList ≠ [] := by
    rw [Nat.toList_repr]
    exact Nat.toDigits_ne_nil
  rw [toList_line, List.getLast?_append_of_ne_nil _ (List.cons_ne_nil _ _), List.getLast?_cons_cons,
    List.getLast?_cons_of_ne_nil hne] at h
  exact Text.isAsciiDigit_of_mem_repr (List.mem_of_mem_getLast? h)

theorem splitOnce_line (assignment : Assignment questions) {question : RequestUserInputQuestion}
    (hcolon : ':' ∉ question.id.toList) :
    Text.splitOnce ':' (assignment.line question) =
      some (question.id, " " ++ (assignment.position question + 1).repr) :=
  Text.splitOnce_append hcolon _

theorem trim_line (hquestions : MultiQuestion questions) (assignment : Assignment questions)
    {question : RequestUserInputQuestion} (hmem : question ∈ questions) :
    Text.trim (assignment.line question) = assignment.line question := by
  rw [Text.trim_eq_self_iff]
  constructor
  · -- it starts as the id does
    have hid := (Text.trim_eq_self_iff.mp (hquestions.trimmed question hmem)).1
    have hne : question.id.toList ≠ [] :=
      fun h => hquestions.notEmpty question hmem (String.toList_eq_nil_iff.mp h)
    rw [toList_line, List.head?_append_of_ne_nil _ hne]
    exact hid
  · exact fun c hc => Text.isWhitespace_of_isAsciiDigit (assignment.getLast?_line question hc)

theorem isLine_line (hquestions : MultiQuestion questions) (assignment : Assignment questions)
    {question : RequestUserInputQuestion} (hmem : question ∈ questions) :
    Text.IsLine (assignment.line question) := by
  refine ⟨?_, ?_, ?_⟩
  · rw [toList_line, List.mem_append, List.mem_cons, List.mem_cons]
    rintro (h | h | h | h)
    · exact hquestions.noNewline question hmem h
    · exact absurd h (by decide)
    · exact absurd h (by decide)
    · exact absurd (Text.isAsciiDigit_of_mem_repr h) (by decide)
  · intro h
    have hcolon := assignment.colon_mem_line question
    rw [h] at hcolon
    cases hcolon
  · intro h
    exact absurd (assignment.getLast?_line question h) (by decide)

/-- The reply of an assignment is read as its lines. -/
theorem replyLines_reply (hquestions : MultiQuestion questions)
    (assignment : Assignment questions) {order : List RequestUserInputQuestion}
    (horder : order.Perm questions) :
    replyLines (Text.trim (assignment.reply order)) = order.map assignment.line := by
  have hmem : ∀ question ∈ order, question ∈ questions := fun question h => horder.mem_iff.mp h
  have htrim : ∀ l ∈ order.map assignment.line, Text.trim l = l := by
    rw [List.forall_mem_map]
    exact fun question h => trim_line hquestions assignment (hmem question h)
  have hlines : ∀ l ∈ order.map assignment.line, Text.IsLine l := by
    rw [List.forall_mem_map]
    exact fun question h => isLine_line hquestions assignment (hmem question h)
  unfold replyLines reply
  rw [Text.trim_intercalate fun l hl => ⟨htrim l hl, (hlines l hl).2.1⟩,
    Text.lines_intercalate hlines, List.map_congr_left htrim, List.map_id',
    List.filter_eq_self.mpr]
  exact fun l hl => decide_eq_true (hlines l hl).2.1

/-! ### Its answers -/

/-- The line of a question is read as the label assigned. -/
theorem answerLine_line (hquestions : MultiQuestion questions)
    (assignment : Assignment questions) {question : RequestUserInputQuestion}
    (hmem : question ∈ questions) (hright : KeyReadsRight questions question.id)
    (answers : Answers) :
    answerLine questions answers (assignment.line question) =
      .ok (answers.insert question.id [assignment.label question]) := by
  have hshown := assignment.shown question hmem
  have hfits : assignment.position question + 1 < 2 ^ 64 := by
    have hlt := (List.getElem?_eq_some_iff.mp hshown).1
    have := hquestions.optionsFit question hmem
    omega
  have hfound : questionForKey questions question.id = some question :=
    (questionForKey_names_iff hquestions question.id).mpr hright _ (.id hmem rfl)
  have hlabel : parseRequestUserInputAnswer question (assignment.position question + 1).repr =
      .ok [assignment.label question] := by
    have hne : shownLabels question ≠ [] := by
      intro h
      rw [h] at hshown
      cases hshown
    rw [parseRequestUserInputAnswer_label hne (plainReply_repr _),
      matchRequestUserInputOption_eq_some_iff]
    refine Or.inl ⟨_, ?_, hshown⟩
    rw [Text.trim_repr, Text.parseUnsigned_repr hfits]
  rw [answerLine_of_split (assignment.splitOnce_line (hquestions.noColon question hmem)),
    hquestions.trimmed question hmem, Text.trim_space, Text.trim_repr, hfound,
    answerKey_some_of_ok hlabel]

/-- The lines of the questions are read one after the other. -/
theorem foldlM_answerLine (hquestions : MultiQuestion questions)
    (assignment : Assignment questions) (order : List RequestUserInputQuestion)
    (hmem : ∀ question ∈ order, question ∈ questions)
    (hright : ∀ question ∈ order, KeyReadsRight questions question.id) (answers : Answers) :
    (order.map assignment.line).foldlM (answerLine questions) answers =
      .ok ((order.map fun question => (question.id, [assignment.label question])).foldl
        (fun d e => d.insert e.1 e.2) answers) := by
  induction order generalizing answers with
  | nil => rfl
  | cons question order ih =>
    rw [List.forall_mem_cons] at hmem hright
    rw [List.map_cons, List.foldlM_cons, answerLine_line hquestions assignment hmem.1 hright.1]
    exact ih hmem.2 hright.2 _

theorem keyedAnswers_reply (hquestions : MultiQuestion questions)
    (assignment : Assignment questions) {order : List RequestUserInputQuestion}
    (horder : order.Perm questions)
    (hright : ∀ question ∈ questions, KeyReadsRight questions question.id) :
    keyedAnswers questions (order.map assignment.line) = .ok (assignment.answers order) := by
  have hmem : ∀ question ∈ order, question ∈ questions := fun question h => horder.mem_iff.mp h
  unfold keyedAnswers
  rw [foldlM_answerLine hquestions assignment order hmem fun question h => hright _ (hmem _ h)]
  have hcount : (assignment.answers order).entries.length = questions.length := by
    have hnodup : (order.map (·.id)).Nodup := (horder.map _).nodup_iff.mpr hquestions.distinct
    unfold answers
    rw [Dict.length_collect, List.length_map, horder.length_eq]
    rw [List.map_map]
    exact hnodup
  show (if (assignment.answers order).entries.length ≠ questions.length then _ else _) = _
  rw [if_neg (by rw [hcount]; simp)]
  rfl

/-- Once every key is read right, an assignment is read as itself. -/
theorem parse_reply {request : PendingUserInputRequest}
    (hquestions : MultiQuestion request.questions)
    (assignment : Assignment request.questions) {order : List RequestUserInputQuestion}
    (horder : order.Perm request.questions)
    (hright : KeysReadRight request.questions (order.map assignment.line)) :
    parseRequestUserInputResponse request (assignment.reply order) =
      .ok (responseOf (assignment.answers order)) := by
  have hlines := replyLines_reply hquestions assignment horder
  have hids : ∀ question ∈ request.questions, KeyReadsRight request.questions question.id := by
    intro question hmem
    have hkey := hright _ (List.mem_map_of_mem (horder.mem_iff.mpr hmem)) _ _
      (assignment.splitOnce_line (hquestions.noColon question hmem))
    rwa [hquestions.trimmed question hmem] at hkey
  rw [parseRequestUserInputResponse_keyed hquestions.several, hlines,
    keyedAnswers_reply hquestions assignment horder hids]
  · rfl
  · -- there are lines, since there are questions
    rw [hlines]
    intro h
    have hlength := horder.length_eq
    rw [List.map_eq_nil_iff.mp h] at hlength
    have := hquestions.several
    simp at hlength
    omega
  · rw [hlines, List.forall_mem_map]
    exact fun question _ => assignment.colon_mem_line question

end Assignment

/-! ## Attribution -/

/-- **Keyed replies.** A reply made of keyed lines is read line by line; every line answers the
question its key names, and an assignment in any order is read as itself, exactly when the source
reads every key of the reply right. -/
theorem keyed_reply_iff (request : PendingUserInputRequest)
    (hquestions : MultiQuestion request.questions) (raw : String)
    (hlines : replyLines (Text.trim raw) ≠ [])
    (hkeyed : ∀ line ∈ replyLines (Text.trim raw), ':' ∈ line.toList) :
    parseRequestUserInputResponse request raw =
        (keyedAnswers request.questions (replyLines (Text.trim raw))).map responseOf ∧
      ((LinesAnswered request.questions (replyLines (Text.trim raw)) ∧
          ∀ (assignment : Assignment request.questions) (order : List RequestUserInputQuestion),
            order.Perm request.questions → raw = assignment.reply order →
              parseRequestUserInputResponse request raw =
                .ok (responseOf (assignment.answers order))) ↔
        KeysReadRight request.questions (replyLines (Text.trim raw))) := by
  refine ⟨parseRequestUserInputResponse_keyed hquestions.several hlines hkeyed, ?_⟩
  rw [linesAnswered_iff hquestions]
  refine and_iff_left_of_imp fun hright assignment order horder hraw => ?_
  rw [hraw, Assignment.replyLines_reply hquestions assignment horder] at hright
  rw [hraw]
  exact assignment.parse_reply hquestions horder hright

/-- A request with two questions of two options each. -/
def sampleTwo (first second : String) : PendingUserInputRequest :=
  sampleRequest
    [{ sampleQuestion ["Red", "Green"] with id := first, header := "Colour" },
     { sampleQuestion ["Cat", "Dog"] with id := second, header := "Animal" }]

/-- Green, and the cat. -/
def greenCat (first second : String) : Assignment (sampleTwo first second).questions where
  position question := if question.header = "Colour" then 1 else 0
  label question := if question.header = "Colour" then "Green" else "Cat"
  shown := by
    show ∀ question ∈ [_, _], _
    rw [List.forall_mem_cons, List.forall_mem_singleton]
    exact ⟨rfl, rfl⟩

/-- The lines of two questions, the second one first. -/
theorem keyed_reply_green_cat :
    parseRequestUserInputResponse (sampleTwo "colour" "animal") "animal: 1\ncolour: 2" =
      .ok ⟨[("colour", ["Green"]), ("animal", ["Cat"])]⟩ := by
  have hquestions : MultiQuestion (sampleTwo "colour" "animal").questions :=
    ⟨by decide, by decide, by decide, by decide, by decide, by decide, by decide, by decide⟩
  refine ((keyed_reply_iff (sampleTwo "colour" "animal") hquestions "animal: 1\ncolour: 2"
    (by decide) (by decide)).2.mpr ?_).2 (greenCat "colour" "animal") [_, _]
      (List.Perm.swap _ _ _) (by decide)
  rw [show replyLines (Text.trim "animal: 1\ncolour: 2") = ["animal: 1", "colour: 2"] by decide]
  unfold KeysReadRight
  rw [List.forall_mem_cons, List.forall_mem_singleton]
  constructor
  · rintro _ _ ⟨⟩
    exact .of_id hquestions.distinct (List.mem_cons_of_mem _ (List.mem_cons_self ..)) (by decide)
      (by decide)
  · rintro _ _ ⟨⟩
    exact .of_id hquestions.distinct (List.mem_cons_self ..) (by decide) (by decide)

/-- Questions with the ids `2` and `1` get each other's answer. -/
theorem numeric_ids_swapped :
    ¬ ∀ (request : PendingUserInputRequest) (assignment : Assignment request.questions),
      MultiQuestion request.questions →
        parseRequestUserInputResponse request (assignment.reply request.questions) =
          .ok (responseOf (assignment.answers request.questions)) := by
  intro h
  have hquestions : MultiQuestion (sampleTwo "2" "1").questions :=
    ⟨by decide, by decide, by decide, by decide, by decide, by decide, by decide, by decide⟩
  have hswapped := congrArg Except.toOption (h (sampleTwo "2" "1") (greenCat "2" "1") hquestions)
  revert hswapped
  decide

end CodexAcp.UserInput

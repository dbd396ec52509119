import CodexAcp.Lib.Dict
import CodexAcp.Lib.Text
import CodexAcp.Protocol.Codex

/-!
# Questions as plain text

A `request_user_input` event asks structured questions; an editor that only has
a text box is shown them as text, and the next prompt is read as the reply
(`requestUserInputPromptText`, `parseRequestUserInputResponse`). A reply is

- nothing or a cancel keyword: every question is answered by nothing;
- to one question, the answer;
- to several, one answer a line in the order of the questions;
- or one `<id>: <answer>` a line in any order.

An answer to a question with options is the number of an option or its label,
the latter read loosely (`matchRequestUserInputOption`): by its ASCII letters
and digits alone, in full or as a prefix.
-/

namespace CodexAcp.UserInput

open CodexAcp.Lib CodexAcp.Protocol

def requestUserInputOtherOptionLabel : String := "None of the above"

/-! ## The questions as text -/

/-- The lines of one question. -/
def questionLines (index : Nat) (question : RequestUserInputQuestion) : List String :=
  [toString (index + 1) ++ ". " ++ question.question ++ " [" ++ question.id ++ "]"] ++
  (match question.options with
    | some (option :: options) =>
      ((option :: options).mapIdx fun optionIndex option =>
        "   " ++ toString (optionIndex + 1) ++ ". " ++ option.label ++ " - " ++
          option.description) ++
      (if question.isOther then
        ["   " ++ toString ((option :: options).length + 1) ++ ". " ++
          requestUserInputOtherOptionLabel]
       else [])
    | _ => ["   Reply with freeform text."]) ++
  (if question.isSecret then ["   This answer is marked secret."] else [])

def requestUserInputPromptText (request : PendingUserInputRequest) : String :=
  let intro :=
    if request.questions.length = 1 then
      "Additional input is required before Codex can continue.\nThis ACP client renders structured questions as plain text. Reply with your answer in the next message."
    else
      "Additional input is required before Codex can continue.\nThis ACP client renders structured questions as plain text. Reply in the next message with one line per question using `<id>: <answer>`."
  let guidance :=
    "For option questions, `<answer>` can be the option number or label. Append `| note` for extra context. Send `/cancel` to submit an empty response."
  let questions := "\n\n".intercalate
    (request.questions.mapIdx fun index question =>
      "\n".intercalate (questionLines index question))
  intro ++ "\n\n" ++ guidance ++ "\n\n" ++ questions

/-! ## Options -/

/-- The ASCII letters and digits of a text, in lower case. -/
def normalizeRequestUserInputToken (value : String) : String :=
  Text.toAsciiLowercase (String.ofList (value.toList.filter Text.isAsciiAlphanumeric))

/-- The labels an answer may choose: the options', and the other option's if there is one. -/
def optionLabels (question : RequestUserInputQuestion)
    (options : List RequestUserInputQuestionOption) : List String :=
  options.map (·.label) ++ (if question.isOther then [requestUserInputOtherOptionLabel] else [])

/-- The label an option number stands for. -/
def numberedOption (question : RequestUserInputQuestion)
    (options : List RequestUserInputQuestionOption) (index : Nat) : Option String :=
  if 1 ≤ index ∧ index ≤ options.length then (options[index - 1]?).map (·.label)
  else if question.isOther ∧ index = options.length + 1 then
    some requestUserInputOtherOptionLabel
  else none

/-- One normal form starts with the other. -/
def prefixMatches (normalizedAnswer label : String) : Bool :=
  let normalizedLabel := normalizeRequestUserInputToken label
  Text.startsWith normalizedAnswer normalizedLabel ||
    Text.startsWith normalizedLabel normalizedAnswer

/-- The label a text stands for: the only one with its normal form, or else the only one whose
normal form starts with it or that it starts with. -/
def matchLabel (labels : List String) (trimmed : String) : Option String :=
  let normalizedAnswer := normalizeRequestUserInputToken trimmed
  if normalizedAnswer = "" then none
  else
    match labels.filter fun label => normalizeRequestUserInputToken label = normalizedAnswer with
    | [matched] => some matched
    | _ =>
      match labels.filter (prefixMatches normalizedAnswer) with
      | [matched] => some matched
      | _ => none

def matchRequestUserInputOption (question : RequestUserInputQuestion) (answer : String) :
    Option String :=
  match question.options with
  | none => none
  | some options =>
    if options.isEmpty then none
    else
      let trimmed := Text.trim answer
      match (Text.parseUnsigned 64 trimmed).bind (numberedOption question options) with
      | some label => some label
      -- A number that is no option's is read as a label.
      | none => matchLabel (optionLabels question options) trimmed

/-! ## Answers -/

/-- The selection and the note of an answer `selection | note`. -/
def selectionAndNote (trimmed : String) : String × Option String :=
  match Text.splitOnce '|' trimmed with
  | some (selection, note) => (Text.trim selection, some (Text.trim note))
  | none => (trimmed, none)

/-- An answer in the user's own words. -/
def noteAnswers (note : String) : List String :=
  if note = "" then [] else ["user_note: " ++ note]

def parseRequestUserInputAnswer (question : RequestUserInputQuestion) (rawAnswer : String) :
    Except Error (List String) :=
  let trimmed := Text.trim rawAnswer
  if question.options.any (!·.isEmpty) then
    let (selectionPart, notePart) := selectionAndNote trimmed
    match matchRequestUserInputOption question selectionPart with
    | some label => .ok (label :: (notePart.map noteAnswers).getD [])
    | none =>
      if question.isOther ∧ trimmed ≠ "" then
        .ok [requestUserInputOtherOptionLabel, "user_note: " ++ trimmed]
      else
        .error (Error.invalidParams.withData
          ("Could not match `" ++ trimmed ++ "` to an available option for question `" ++
            question.id ++ "`"))
  else .ok (noteAnswers trimmed)

/-! ## Replies -/

/-- The answers by question id. -/
abbrev Answers := Dict String (List String)

def responseOf (answers : Answers) : RequestUserInputResponse :=
  { answers := answers.entries.map fun e => (e.1, e.2) }

def emptyRequestUserInputResponse (request : PendingUserInputRequest) :
    RequestUserInputResponse :=
  responseOf (Dict.collect (request.questions.map fun question => (question.id, [])))

/-- The lines of a reply that are not blank, trimmed. -/
def replyLines (trimmed : String) : List String :=
  ((Text.lines trimmed).map Text.trim).filter (· ≠ "")

/-- Answers in the order of the questions. -/
def positionalAnswers (questions : List RequestUserInputQuestion) (lines : List String) :
    Except Error Answers := do
  let answers ← (questions.zip lines).mapM fun (question, line) => do
    let answer ← parseRequestUserInputAnswer question line
    pure (question.id, answer)
  pure (Dict.collect answers)

/-- The question a key stands for: a number counts the questions, and any other key is the id
or the header of a question, up to normal form. -/
def questionForKey (questions : List RequestUserInputQuestion) (key : String) :
    Option RequestUserInputQuestion :=
  match Text.parseUnsigned 64 key with
  | some index => questions[index - 1]?
  | none =>
    let normalizedKey := normalizeRequestUserInputToken key
    questions.find? fun question =>
      normalizeRequestUserInputToken question.id = normalizedKey ||
        normalizeRequestUserInputToken question.header = normalizedKey

theorem questionForKey_mem {questions : List RequestUserInputQuestion} {key : String}
    {question : RequestUserInputQuestion} (h : questionForKey questions key = some question) :
    question ∈ questions := by
  unfold questionForKey at h
  split at h
  next => exact List.mem_of_getElem? h
  next => exact List.mem_of_find?_eq_some h

/-- Answer the question a key stands for. -/
def answerKey (question : Option RequestUserInputQuestion) (key value : String)
    (answers : Answers) : Except Error Answers :=
  match question with
  | none =>
    .error (Error.invalidParams.withData
      ("Unknown request_user_input question key `" ++ key ++ "`"))
  | some question => do
    let answer ← parseRequestUserInputAnswer question value
    -- A later line for a question replaces an earlier one.
    pure (answers.insert question.id answer)

/-- One line of a keyed reply. -/
def answerLine (questions : List RequestUserInputQuestion) (answers : Answers) (line : String) :
    Except Error Answers :=
  match Text.splitOnce ':' line with
  | none =>
    .error (Error.invalidParams.withData
      ("Expected `<id>: <answer>` for multi-question input, got `" ++ line ++ "`"))
  | some (rawKey, rawValue) =>
    let key := Text.trim rawKey
    answerKey (questionForKey questions key) key (Text.trim rawValue) answers

def keyedAnswers (questions : List RequestUserInputQuestion) (lines : List String) :
    Except Error Answers := do
  let answers ← lines.foldlM (answerLine questions) ∅
  if answers.entries.length ≠ questions.length then
    let missing := questions.filterMap fun question =>
      if (answers.lookup question.id).isNone then some question.id else none
    .error (Error.invalidParams.withData ("Missing answers for: " ++ ", ".intercalate missing))
  else pure answers

def isCancel (trimmed : String) : Bool :=
  trimmed = "" || trimmed = "/cancel" || Text.toAsciiLowercase trimmed = "cancel"

def parseRequestUserInputResponse (request : PendingUserInputRequest) (rawResponse : String) :
    Except Error RequestUserInputResponse :=
  let trimmed := Text.trim rawResponse
  if isCancel trimmed then .ok (emptyRequestUserInputResponse request)
  else
    match request.questions with
    | [question] => do
      let answer ← parseRequestUserInputAnswer question trimmed
      pure (responseOf (Dict.collect [(question.id, answer)]))
    | questions => do
      let lines := replyLines trimmed
      if lines.length = questions.length ∧ ¬ lines.all (·.toList.contains ':') then
        let answers ← positionalAnswers questions lines
        pure (responseOf answers)
      else
        let answers ← keyedAnswers questions lines
        pure (responseOf answers)

/-- An environment that shows questions and reads replies as text. -/
def inText (codex : Codex) : Codex :=
  { codex with
    parseRequestUserInputResponse := parseRequestUserInputResponse
    requestUserInputPromptText := requestUserInputPromptText }

/-! ## A question for concrete replies -/

/-- A question with the given labels. -/
def sampleQuestion (labels : List String) : RequestUserInputQuestion :=
  { id := "confirm", header := "Confirm", question := "Proceed?", isOther := false
    isSecret := false, options := some (labels.map fun label => ⟨label, ""⟩) }

/-- A request with the given questions. -/
def sampleRequest (questions : List RequestUserInputQuestion) : PendingUserInputRequest :=
  { submissionId := "submission", callId := "call", turnId := "turn", questions := questions }

end CodexAcp.UserInput

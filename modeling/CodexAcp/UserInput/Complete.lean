import CodexAcp.Lib.Handler
import CodexAcp.UserInput

/-!
# Accepted replies are complete

A reply that is accepted answers every question and nothing else, whichever of the
four shapes it has (`accepted_reply_complete`). A keyed reply is accepted by
comparing numbers: it inserts answers only under ids of questions
(`answerLine_keys`, along the lines `foldlM_answerLine_keys`), so as many answers as
questions are the answers to all of them.
-/

namespace CodexAcp.UserInput

open CodexAcp.Lib CodexAcp.Protocol

/-- The ids a response answers. -/
def answeredIds (response : RequestUserInputResponse) : List String :=
  response.answers.map (·.1)

theorem answeredIds_responseOf (answers : Answers) :
    answeredIds (responseOf answers) = answers.entries.keys := by
  unfold answeredIds responseOf
  rw [List.map_map]
  rfl

/-- The answers have every id of a list, and no other. -/
def AnswersExactly (answers : Answers) (ids : List String) : Prop :=
  ∀ id, id ∈ answers.entries.keys ↔ id ∈ ids

theorem mem_keys_iff {answers : Answers} {id : String} :
    id ∈ answers.entries.keys ↔ ∃ answer, answers.lookup id = some answer := by
  rw [← Option.isSome_iff_exists, AList.lookup_isSome]
  rfl

/-- Answers collected from pairs have the ids of the pairs. -/
theorem answersExactly_collect (l : List (String × List String)) :
    AnswersExactly (Dict.collect l) (l.map (·.1)) := by
  intro id
  rw [mem_keys_iff]
  constructor
  · rintro ⟨answer, h⟩
    exact List.mem_map_of_mem (Dict.mem_of_lookup_collect h)
  · intro hid
    cases hlookup : (Dict.collect l).lookup id with
    | some answer => exact ⟨answer, rfl⟩
    | none =>
      obtain ⟨e, he, rfl⟩ := List.mem_map.mp hid
      exact absurd rfl (Dict.lookup_collect_eq_none.mp hlookup e he)

/-! ## Positional replies -/

theorem mapM_ids {f : RequestUserInputQuestion × String → Except Error (String × List String)}
    (hf : ∀ pair answer, f pair = .ok answer → answer.1 = pair.1.id)
    {pairs : List (RequestUserInputQuestion × String)} {answers : List (String × List String)}
    (h : pairs.mapM f = .ok answers) : answers.map (·.1) = pairs.map (·.1.id) := by
  induction pairs generalizing answers with
  | nil =>
    cases h
    rfl
  | cons pair pairs ih =>
    rw [List.mapM_cons] at h
    obtain ⟨first, hfirst, h⟩ := except_bind_ok_inv h
    obtain ⟨rest, hrest, h⟩ := except_bind_ok_inv h
    cases h
    rw [List.map_cons, List.map_cons, ih hrest, hf pair first hfirst]

/-- One line for every question answers every question. -/
theorem positionalAnswers_exactly {questions : List RequestUserInputQuestion}
    {lines : List String} {answers : Answers} (hlength : lines.length = questions.length)
    (h : positionalAnswers questions lines = .ok answers) :
    AnswersExactly answers (questions.map (·.id)) := by
  unfold positionalAnswers at h
  obtain ⟨pairs, hpairs, h⟩ := except_bind_ok_inv h
  cases h
  have hids := mapM_ids (fun pair answer hanswer => by
    obtain ⟨_, _, hpair⟩ := except_bind_ok_inv hanswer
    cases hpair
    rfl) hpairs
  have hzip : (questions.zip lines).map (·.1.id) = questions.map (·.id) := by
    show (questions.zip lines).map ((·.id) ∘ Prod.fst) = _
    rw [← List.map_map, List.map_fst_zip (by omega)]
  rw [← hzip, ← hids]
  exact answersExactly_collect pairs

/-! ## Keyed replies -/

/-- One line inserts an answer under the id of a question. -/
theorem answerLine_keys {questions : List RequestUserInputQuestion} {answers answers' : Answers}
    {line : String} (h : answerLine questions answers line = .ok answers')
    (hkeys : ∀ id ∈ answers.entries.keys, id ∈ questions.map (·.id)) :
    ∀ id ∈ answers'.entries.keys, id ∈ questions.map (·.id) := by
  unfold answerLine at h
  split at h
  next => cases h
  next rawKey rawValue _ =>
    dsimp only at h
    unfold answerKey at h
    split at h
    next => cases h
    next question hquestion =>
      obtain ⟨answer, _, h⟩ := except_bind_ok_inv h
      cases h
      intro id hid
      obtain ⟨found, hfound⟩ := mem_keys_iff.mp hid
      rcases Dict.lookup_insert_eq_some.mp hfound with ⟨rfl, _⟩ | ⟨_, hold⟩
      · exact List.mem_map_of_mem (questionForKey_mem hquestion)
      · exact hkeys id (mem_keys_iff.mpr ⟨found, hold⟩)

/-- So do any number of lines. -/
theorem foldlM_answerLine_keys {questions : List RequestUserInputQuestion} {lines : List String}
    {answers answers' : Answers}
    (h : lines.foldlM (answerLine questions) answers = .ok answers')
    (hkeys : ∀ id ∈ answers.entries.keys, id ∈ questions.map (·.id)) :
    ∀ id ∈ answers'.entries.keys, id ∈ questions.map (·.id) := by
  induction lines generalizing answers with
  | nil =>
    cases h
    exact hkeys
  | cons line lines ih =>
    rw [List.foldlM_cons] at h
    obtain ⟨answers₁, hline, h⟩ := except_bind_ok_inv h
    exact ih h (answerLine_keys hline hkeys)

/-- As many answers as questions, under ids of questions, are the answers to all of them. -/
theorem keyedAnswers_exactly {questions : List RequestUserInputQuestion} {lines : List String}
    {answers : Answers} (h : keyedAnswers questions lines = .ok answers) :
    AnswersExactly answers (questions.map (·.id)) := by
  unfold keyedAnswers at h
  obtain ⟨answers', hfold, h⟩ := except_bind_ok_inv h
  split at h
  next => cases h
  next hcount =>
    cases h
    have hkeys : answers.entries.keys ⊆ questions.map (·.id) :=
      fun id hid => foldlM_answerLine_keys hfold (fun _ hnil => by cases hnil) id hid
    -- the keys are distinct, so nothing of the ids is left out
    have hsubperm := List.subperm_of_subset answers.nodupKeys hkeys
    have hlength : (questions.map (·.id)).length ≤ answers.entries.keys.length := by
      show _ ≤ (answers.entries.map Sigma.fst).length
      rw [List.length_map, List.length_map]
      omega
    exact fun id => (hsubperm.perm_of_length_le hlength).mem_iff

/-! ## Every reply -/

/-- **Accepted replies are complete.** A reply that is accepted answers the questions of the
request, each of them and no other. -/
theorem accepted_reply_complete (request : PendingUserInputRequest) (raw : String)
    (response : RequestUserInputResponse)
    (h : parseRequestUserInputResponse request raw = .ok response) :
    ∀ id, id ∈ answeredIds response ↔ id ∈ request.questions.map (·.id) := by
  unfold parseRequestUserInputResponse at h
  dsimp only at h
  split at h
  next =>
    -- a cancelled request is answered by nothing, for every question
    cases h
    unfold emptyRequestUserInputResponse
    rw [answeredIds_responseOf]
    have hempty := answersExactly_collect
      (request.questions.map fun question => (question.id, ([] : List String)))
    rw [List.map_map] at hempty
    exact hempty
  next =>
    split at h
    next question hquestion =>
      obtain ⟨answer, _, h⟩ := except_bind_ok_inv h
      cases h
      rw [answeredIds_responseOf, hquestion]
      exact answersExactly_collect [(question.id, answer)]
    next =>
      split at h
      next hshape =>
        obtain ⟨answers, hanswers, h⟩ := except_bind_ok_inv h
        cases h
        rw [answeredIds_responseOf]
        exact positionalAnswers_exactly hshape.1 hanswers
      next =>
        obtain ⟨answers, hanswers, h⟩ := except_bind_ok_inv h
        cases h
        rw [answeredIds_responseOf]
        exact keyedAnswers_exactly hanswers

/-- For concrete replies: two questions. -/
def colourAndAnimal : PendingUserInputRequest :=
  sampleRequest
    [{ sampleQuestion ["Red", "Green"] with id := "colour" },
     { sampleQuestion ["Cat", "Dog"] with id := "animal" }]

/-- Two questions, the second one answered first. -/
theorem accepted_reply_complete_keyed :
    "animal" ∈ answeredIds ⟨[("colour", ["Green"]), ("animal", ["Dog"])]⟩ ∧
      "other" ∉ answeredIds ⟨[("colour", ["Green"]), ("animal", ["Dog"])]⟩ := by
  have hexactly := accepted_reply_complete colourAndAnimal "animal: Dog\ncolour: 2"
    ⟨[("colour", ["Green"]), ("animal", ["Dog"])]⟩ rfl
  exact ⟨(hexactly "animal").mpr (by decide), fun h => absurd ((hexactly "other").mp h) (by decide)⟩

end CodexAcp.UserInput

import CodexAcp.Thread.PromptFrame
import CodexAcp.Thread.WaitersOnce
import CodexAcp.UserInput

/-!
# Answering a question

A prompt that comes while a question waits is read as the answer. Reading it,
making sure of the submission, the submit that Codex may refuse and the bookkeeping
follow each other over two parts of the actor's memory; nonetheless the prompt is
all or nothing:

> `answering_atomic`: a reply that is no answer, and a refused submit, leave the
> question waiting, no waiter registered and no op accepted; otherwise exactly one
> answer is accepted, the question is over, and the new waiter stands beside the
> waiters of the submission that asked.

The three cases are all there are: the submission is made sure of before the submit,
so the branch that misses it is never taken.
-/

namespace CodexAcp.Thread

open CodexAcp.Lib CodexAcp.Protocol CodexAcp.Boundary

/-- The actor as it was, but for a closed channel, a refused call and a submission nobody
waits for. -/
structure Unanswered (a b : ThreadActor) : Prop where
  state : b.state = a.state
  registered : ∀ id, b.desk.registered id = a.desk.registered id
  accepted : b.world.accepted = a.world.accepted

/-- The question is answered: one op, and one more waiter for the submission that asked. -/
structure AnsweredBy (pendingRequest : PendingUserInputRequest)
    (response : RequestUserInputResponse) (submissionId : String) (a b : ThreadActor) : Prop where
  cleared : b.state = a.state.clearPendingUserInput
  accepted : b.world.accepted =
    a.world.accepted ++ [(.userInputAnswer pendingRequest.turnId response, submissionId)]
  attached : b.desk.registered pendingRequest.submissionId =
    a.desk.registered pendingRequest.submissionId ++ [a.world.waiters]
  others : ∀ id, id ≠ pendingRequest.submissionId →
    b.desk.registered id = a.desk.registered id

namespace ThreadActor

/-- While a question waits, a prompt is its answer. -/
theorem handlePrompt_pending {codex : Codex} {request : PromptRequest} {a : ThreadActor}
    (h : a.state.pendingUserInput.isSome = true) :
    handlePrompt codex request a = handlePendingUserInputPrompt codex request a := by
  unfold handlePrompt
  rw [Handler.bind_run, Handler.reads_run]
  dsimp only [id]
  rw [if_pos h]

/-- Making sure of a submission registers nobody. -/
theorem ensureSubmission_unanswered (id : String) (a : ThreadActor) :
    Unanswered a (ensureSubmission id a.withWaiter) := by
  have hstate : (ensureSubmission id a.withWaiter).state = a.state ∧
      (ensureSubmission id a.withWaiter).world.accepted = a.world.accepted := by
    unfold ensureSubmission
    split <;> exact ⟨rfl, rfl⟩
  refine ⟨hstate.1, fun sid => ?_, hstate.2⟩
  rw [ensureSubmission_desk, registered_ensure]
  rfl

/-- A submission gets one more waiter. -/
theorem registered_addResponseTx {a : ThreadActor} {id : String} {p : PromptState}
    (hp : a.submissions.lookup id = some p) (waiter : WaiterId) (sid : String) :
    (desk { a with submissions := a.submissions.set id (p.addResponseTx waiter) }).registered sid =
      if sid = id then a.desk.registered id ++ [waiter] else a.desk.registered sid := by
  rw [registered_set (d := a.desk) rfl hp, registered_of_lookup (d := a.desk) hp]
  show (if sid = id then p.responses.primary.toList ++ (p.responses.additional ++ [waiter])
    else _) = _
  rw [← List.append_assoc]
  rfl

/-- **All or nothing.** What a prompt does while a question waits, in each of its cases. -/
theorem answering_atomic (codex : Codex) (request : PromptRequest) (a : ThreadActor)
    (pendingRequest : PendingUserInputRequest)
    (hpending : a.state.pendingUserInput = some pendingRequest) :
    match codex.parseRequestUserInputResponse pendingRequest
        (promptRequestText codex request.prompt) with
    | .error err =>
      (handlePrompt codex request a).1 = .error err ∧
        Unanswered a (handlePrompt codex request a).2
    | .ok response =>
      match codex.submit a.world.calls (.userInputAnswer pendingRequest.turnId response) with
      | .error err =>
        (handlePrompt codex request a).1 =
            .error (Error.internalError.withData (codex.displayError (Error.fromAnyhow err))) ∧
          Unanswered a (handlePrompt codex request a).2
      | .ok submissionId =>
        (handlePrompt codex request a).1 = .ok a.world.waiters ∧
          AnsweredBy pendingRequest response submissionId a (handlePrompt codex request a).2 := by
  rw [handlePrompt_pending (by rw [hpending]; rfl)]
  obtain ⟨b, p, hb, hp, hrun⟩ := handlePendingUserInputPrompt_run codex request hpending
  have hensured : Unanswered a b := hb ▸ ensureSubmission_unanswered pendingRequest.submissionId a
  rw [hrun]
  cases codex.parseRequestUserInputResponse pendingRequest
      (promptRequestText codex request.prompt) with
  | error err => exact ⟨rfl, rfl, fun _ => rfl, rfl⟩
  | ok response =>
    dsimp only
    cases codex.submit a.world.calls (.userInputAnswer pendingRequest.turnId response) with
    | error err => exact ⟨rfl, hensured.state, hensured.registered, hensured.accepted⟩
    | ok submissionId =>
      have hregistered := registered_addResponseTx hp a.world.waiters
      refine ⟨rfl, ?_, ?_, ?_, ?_⟩
      · exact congrArg ActorState.clearPendingUserInput hensured.state
      · exact congrArg (· ++ _) hensured.accepted
      · refine (hregistered pendingRequest.submissionId).trans ?_
        rw [if_pos rfl, hensured.registered]
      · intro id hid
        refine (hregistered id).trans ?_
        rw [if_neg hid, hensured.registered]

end ThreadActor

/-- A question of the submission `submission`. -/
def sampleQuestionRequest : PendingUserInputRequest :=
  UserInput.sampleRequest [UserInput.sampleQuestion ["Yes", "No"]]

/-- A session in which the question waits. -/
def sampleWaiting : ThreadActor :=
  { config := .sample, state := { pendingUserInput := some sampleQuestionRequest }
    world := { models := .sample } }

namespace ThreadActor

/-- The prompt `yes` is the answer. -/
theorem answering_atomic_yes :
    AnsweredBy sampleQuestionRequest ⟨[("confirm", ["Yes"])]⟩ "submission-0" sampleWaiting
      (handlePrompt (UserInput.inText .sample) ⟨[.text "yes"]⟩ sampleWaiting).2 := by
  have hanswered := answering_atomic (UserInput.inText .sample) ⟨[.text "yes"]⟩ sampleWaiting
    sampleQuestionRequest rfl
  have hparsed : (UserInput.inText .sample).parseRequestUserInputResponse sampleQuestionRequest
      (promptRequestText (UserInput.inText .sample) [.text "yes"]) =
        .ok ⟨[("confirm", ["Yes"])]⟩ := rfl
  rw [hparsed] at hanswered
  exact hanswered.2

end ThreadActor

end CodexAcp.Thread

import CodexAcp.Thread.SlashCommands

/-!
# Prompts

A prompt answers the question the session waits for, if there is one, and is
otherwise submitted (or handled on the spot, as most slash commands are). In
both cases its caller gets a waiter: the submission's own, or one more waiter of
the submission that asked.

Of a turn that a steer request starts, the source has a task wait for the result, which
only logs a failure; here its waiter is one like any other.
-/

namespace CodexAcp.Thread

open CodexAcp.Lib CodexAcp.Protocol CodexAcp.Boundary

namespace ThreadActor

/-- The text of a prompt, as an answer to a question. -/
def promptRequestText (codex : Codex) (prompt : List ContentBlock) : String :=
  "\n".intercalate ((codex.buildPromptItems prompt none).filterMap fun
    | .text text => some text
    | .image _ => none)

/-- Show a question and wait for its answer. -/
def registerPendingUserInput (codex : Codex) (submissionId : String)
    (event : RequestUserInputEvent) (a : ThreadActor) : ThreadActor :=
  let pendingRequest := PendingUserInputRequest.fromEvent submissionId event
  let a := a.agentText (.text (codex.requestUserInputPromptText pendingRequest))
  { a with state := a.state.setPendingUserInput pendingRequest }

def insertSubmission (submissionId : String) (submission : PromptState) (a : ThreadActor) :
    ThreadActor :=
  { a with submissions := a.submissions.insert submissionId submission }

/-- Have a submission under an id, without waiters if it is a new one. -/
def ensureSubmission (submissionId : String) (a : ThreadActor) : ThreadActor :=
  match a.submissions.lookup submissionId with
  | some _ => a
  | none => a.insertSubmission submissionId (.forReplay submissionId)

def clearPendingUserInput (a : ThreadActor) : ThreadActor :=
  { a with state := a.state.clearPendingUserInput }

/-- Answer the question the session waits for. -/
def handlePendingUserInputPrompt (codex : Codex) (request : PromptRequest) :
    Handler ThreadActor Error WaiterId := do
  let a ← Handler.reads id
  match a.state.pendingUserInput with
  | none => Handler.fail (Error.internalError.withData "No pending request_user_input")
  | some pendingRequest => do
    let waiter ← newWaiter
    let response ← Handler.lift
      (codex.parseRequestUserInputResponse pendingRequest
        (promptRequestText codex request.prompt))
    -- A text that is no answer fails before this point, and the question still waits.
    Handler.update (ensureSubmission pendingRequest.submissionId)
    Handler.mapError (fun err => Error.internalError.withData (codex.displayError err))
      (submitOk codex (.userInputAnswer pendingRequest.turnId response))
    let a ← Handler.reads id
    match a.submissions.lookup pendingRequest.submissionId with
    | none => do
      Handler.update clearPendingUserInput
      Handler.fail (Error.internalError.withData
        ("Missing active submission for request_user_input " ++ pendingRequest.callId))
    | some submission => do
      Handler.update fun a =>
        { a with submissions :=
          a.submissions.set pendingRequest.submissionId (submission.addResponseTx waiter) }
      Handler.update clearPendingUserInput
      pure waiter

/-- Submit a prompt and route its events to the caller. -/
def submitPrompt (codex : Codex) (op : Op) (waiter : WaiterId) :
    Handler ThreadActor Error WaiterId := do
  let submissionId ← onWorld
    (Handler.mapError Error.internalError.withData (World.submit codex op))
  Handler.update fun a => a.insertSubmission submissionId (.new submissionId waiter)
  pure waiter

/-- A command handled on the spot: show its text and end the turn at once. -/
def answerHandled (message : AgentText) (waiter : WaiterId) :
    Handler ThreadActor Error WaiterId := do
  Handler.update fun a =>
    let a := a.agentText message
    { a with world := a.world.sendResult (.ok .endTurn) waiter }
  pure waiter

def handlePrompt (codex : Codex) (request : PromptRequest) :
    Handler ThreadActor Error WaiterId := do
  let a ← Handler.reads id
  if a.state.pendingUserInput.isSome then handlePendingUserInputPrompt codex request
  else do
    let waiter ← newWaiter
    let submission ← promptSubmissionForItems codex
      (codex.buildPromptItems request.prompt (some a.config.cwd))
    match submission with
    | .submit op => submitPrompt codex op waiter
    | .handled message => answerHandled message waiter

/-- Steer the active turn; without one, the prompt starts a new turn. -/
def handleSteer (codex : Codex) (request : PromptRequest) :
    Handler ThreadActor Error SteeringOutcome := do
  if request.prompt.isEmpty then
    Handler.fail (Error.invalidParams.withData "steering prompt must not be empty")
  else do
    let a ← Handler.reads id
    let items := codex.buildPromptItems request.prompt (some a.config.cwd)
    if items.isEmpty then
      Handler.fail (Error.invalidParams.withData "steering prompt has no supported content")
    else do
      -- Only the missing turn falls back to a prompt; every other refusal is an outcome, not an
      -- error.
      match ← onWorld (Handler.attempt (World.call fun n => codex.steerInput n items)) with
      | .ok _ => pure .injected
      | .error .noActiveTurn => do
        let _ ← handlePrompt codex request
        pure .startedNewTurn
      | .error (.other _) => pure .failed

end ThreadActor

end CodexAcp.Thread

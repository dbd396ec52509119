import CodexAcp.SessionMode
import CodexAcp.Thread.Submission

/-!
# The session actor's state

A session actor holds its configuration, its session state and the submissions
it routes events to, and acts on the world around it. Its handlers are
`Handler ThreadActor Error`: they write state as they go, and an early error
leaves what was written.

The source's actor also has the channels it is spoken to through, the client it
notifies, and Codex's thread, models manager and authentication. What these have been
told and have answered is the `World`; how they answer is `Protocol.Codex`.
-/

namespace CodexAcp.Thread

open CodexAcp.Lib CodexAcp.Protocol CodexAcp.Boundary

structure ThreadActor where
  config : Config
  state : ActorState := {}
  submissions : Dict String PromptState := ∅
  world : World

namespace ThreadActor

/-- Run a handler of the world. -/
def onWorld {α : Type} (x : Handler World Error α) : Handler ThreadActor Error α :=
  Handler.zoom (·.world) (fun w a => { a with world := w }) x

def submitOk (codex : Codex) (op : Op) : Handler ThreadActor Error Unit :=
  onWorld (World.submitOk codex op)

/-- Make a call that may be refused. -/
def call {α : Type} (f : Nat → Except Error α) : Handler ThreadActor Error α :=
  onWorld (World.call f)

/-- Edit the service tier in the configuration file. -/
def editServiceTier (codex : Codex) (value : Option String) : Handler ThreadActor Error Unit :=
  onWorld (World.editServiceTier codex value)

def sendNotification (update : SessionUpdate) (a : ThreadActor) : ThreadActor :=
  { a with world := a.world.sendNotification update }

/-- Show a text to the user as a message of the agent. -/
def agentText (text : AgentText) (a : ThreadActor) : ThreadActor :=
  a.sendNotification (.agentMessageChunk text)

/-- Open a channel for the result of a prompt. -/
def newWaiter : Handler ThreadActor Error WaiterId := fun a =>
  (.ok a.world.waiters, { a with world := { a.world with waiters := a.world.waiters + 1 } })

/-- Run a method of the submission under `id`, if the actor holds one. -/
def onSubmission (id : String) (f : InSubmission → InSubmission) (a : ThreadActor) : ThreadActor :=
  match a.submissions.lookup id with
  | none => a
  | some p =>
    let c := f ⟨p, a.world⟩
    { a with submissions := a.submissions.set id c.self, world := c.world }

/-- Drop every pending request of every submission and cancel the tasks. -/
def abortPendingInteractions (a : ThreadActor) : ThreadActor :=
  { a with
    submissions := a.submissions.mapValues fun _ p => { p with permissionInteractions := ∅ }
    world := a.world.abortTasks
      ((Dict.values a.submissions).flatMap fun p => p.permissionInteractions.tasks) }

end ThreadActor

end CodexAcp.Thread

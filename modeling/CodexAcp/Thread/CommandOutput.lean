import CodexAcp.Thread.ActiveTools
import Mathlib.Logic.Function.Basic

/-!
# What a running command has put out

An account of the commands of a submission that reads the events alone: the
output of each call since it began, as long as it runs. The submission's buffers
are that account, but for one event:

> `handleEvent_buffered`: what an event does to the buffers, it does to the
> account, unless it asks for approval.

An approval that is asked for a call starts the call's buffer over, whether the
call runs already or not, so

> `buffered_accounted_iff`: all along a run the buffers hold the output of every
> running command exactly when no approval is asked for one that has put
> something out.
-/

namespace CodexAcp.Thread

open CodexAcp.Lib CodexAcp.Protocol CodexAcp.Boundary

/-! ## The account -/

/-- The output of each running call. -/
abbrev Outputs := String → Option String

namespace Outputs

/-- A running call puts something out. -/
def put (callId data : String) (outputs : Outputs) : Outputs :=
  Function.update outputs callId ((outputs callId).map (· ++ data))

/-- What an event tells of the output of the calls. -/
def account (outputs : Outputs) : EventMsg → Outputs
  | .execCommandBegin begun => Function.update outputs begun.callId (some "")
  | .execCommandOutputDelta delta => outputs.put delta.callId (Utf8.fromUtf8Lossy delta.chunk)
  | .terminalInteraction typed => outputs.put typed.callId (ActiveToolState.echo typed.stdin)
  | .execCommandEnd ended => Function.update outputs ended.callId none
  | _ => outputs

/-- The output of the calls that run after `events`. -/
def ofEvents (events : List EventMsg) : Outputs := events.foldl account fun _ => none

/-- All the calls of one account are in the other, with the same output. -/
def Within (outputs outputs' : Outputs) : Prop :=
  ∀ callId out, outputs callId = some out → outputs' callId = some out

theorem Within.update {outputs outputs' : Outputs} (h : outputs.Within outputs') (callId : String)
    {out out' : Option String} (hout : ∀ o, out = some o → out' = some o) :
    Outputs.Within (Function.update outputs callId out) (Function.update outputs' callId out') := by
  intro id o ho
  by_cases hid : id = callId
  · subst hid
    rw [Function.update_self] at ho ⊢
    exact hout o ho
  · rw [Function.update_of_ne hid] at ho ⊢
    exact h id o ho

theorem Within.put {outputs outputs' : Outputs} (h : outputs.Within outputs')
    (callId data : String) : (outputs.put callId data).Within (outputs'.put callId data) := by
  refine h.update callId fun o ho => ?_
  obtain ⟨out, hrunning, rfl⟩ := Option.map_eq_some_iff.mp ho
  rw [h callId out hrunning]
  rfl

theorem Within.account {outputs outputs' : Outputs} (h : outputs.Within outputs')
    (event : EventMsg) : (outputs.account event).Within (outputs'.account event) := by
  cases event
  case execCommandBegin begun => exact h.update begun.callId fun _ ho => ho
  case execCommandOutputDelta delta => exact h.put delta.callId _
  case terminalInteraction typed => exact h.put typed.callId _
  case execCommandEnd ended => exact h.update ended.callId nofun
  all_goals exact h

end Outputs

/-! ## The buffers -/

namespace ActiveToolState

/-- The output kept for each call. -/
def buffered (s : ActiveToolState) : Outputs := fun callId =>
  (s.commands.lookup callId).map (·.output)

theorem insertActiveCommand_buffered (callId : String) (command : ActiveCommand)
    (s : ActiveToolState) :
    (s.insertActiveCommand callId command).buffered =
      Function.update s.buffered callId (some command.output) := by
  funext id
  show (AList.lookup id (s.commands.insert callId command)).map _ = _
  by_cases hid : id = callId
  · subst hid
    rw [AList.lookup_insert, Function.update_self]
    rfl
  · rw [AList.lookup_insert_ne hid, Function.update_of_ne hid]
    rfl

theorem removeActiveCommand_buffered (callId : String) (s : ActiveToolState) :
    (s.removeActiveCommand callId).2.buffered = Function.update s.buffered callId none := by
  funext id
  show (AList.lookup id (s.commands.erase callId)).map _ = _
  by_cases hid : id = callId
  · subst hid
    rw [AList.lookup_erase, Function.update_self]
    rfl
  · rw [AList.lookup_erase_ne hid, Function.update_of_ne hid]
    rfl

/-- Output of a call that is not known stays unknown. -/
theorem streamActiveCommandOutput_buffered (client : SessionClient) (callId data : String)
    (s : ActiveToolState) :
    (s.streamActiveCommandOutput client callId data).2.buffered = s.buffered.put callId data := by
  unfold streamActiveCommandOutput Outputs.put
  cases hcommand : s.commands.lookup callId with
  | none =>
    rw [show s.buffered callId = none by unfold buffered; rw [hcommand]; rfl, Option.map_none]
    exact (Function.update_eq_self_iff.mpr (by unfold buffered; rw [hcommand]; rfl)).symm
  | some command =>
    rw [show s.buffered callId = some command.output by unfold buffered; rw [hcommand]; rfl,
      Option.map_some]
    exact insertActiveCommand_buffered callId { command with output := command.output ++ data } s

section Events

variable {codex : Codex} {client : SessionClient}

theorem execApproval_buffered (approval : ExecApprovalRequestEvent) (s : ActiveToolState) :
    (s.execApproval codex approval).buffered =
      match execApprovalContent codex approval with
      | .ok _ => Function.update s.buffered approval.callId (some "")
      | .error _ => s.buffered := by
  unfold execApproval execApprovalInteraction
  cases execApprovalContent codex approval with
  | error err => rfl
  | ok rendered => exact insertActiveCommand_buffered approval.callId _ s

theorem execCommandEnd_buffered (ended : ExecCommandEndEvent) (s : ActiveToolState) :
    (s.execCommandEnd client ended).2.buffered = Function.update s.buffered ended.callId none := by
  rw [← removeActiveCommand_buffered]
  unfold execCommandEnd
  split
  next command s' h => rw [h]
  next s' h => rw [h]

/-- The web search that is completed first is no command. -/
theorem completeBefore_commands (event : EventMsg) (s : ActiveToolState) :
    (s.completeBefore event).2.commands = s.commands := by
  unfold completeBefore
  split <;> rfl

/-- The buffers follow the account, unless an approval is asked for. -/
theorem handleEvent_buffered {event : EventMsg} (happroval : ∀ a, event ≠ .execApprovalRequest a)
    (s : ActiveToolState) :
    (handleEvent codex client event s).2.buffered = s.buffered.account event := by
  have hs : (s.completeBefore event).2.buffered = s.buffered := by
    unfold buffered
    rw [completeBefore_commands]
  show ((s.completeBefore event).2.handleRoute codex client (routeLiveEvent event)).2.buffered = _
  rw [← hs]
  generalize (s.completeBefore event).2 = s
  cases event
  case execApprovalRequest approval => exact absurd rfl (happroval approval)
  case execCommandBegin begun => exact insertActiveCommand_buffered begun.callId _ s
  case execCommandOutputDelta delta => exact streamActiveCommandOutput_buffered client _ _ s
  case terminalInteraction typed => exact streamActiveCommandOutput_buffered client _ _ s
  case execCommandEnd ended => exact execCommandEnd_buffered ended s
  case webSearchBegin | webSearchEnd => rfl
  all_goals exact congrArg buffered (routeLiveEvent_passesBy rfl codex client s).1

theorem handleEvent_approval_buffered (approval : ExecApprovalRequestEvent) (s : ActiveToolState) :
    (handleEvent codex client (.execApprovalRequest approval) s).2.buffered =
      match execApprovalContent codex approval with
      | .ok _ => Function.update s.buffered approval.callId (some "")
      | .error _ => s.buffered := by
  show ((s.completeBefore (.execApprovalRequest approval)).2.execApproval codex approval).buffered = _
  rw [execApproval_buffered]
  rfl

/-! ## The buffers are the account -/

/-- An event that asks no approval for a call that has put something out, as `outputs` tells
what the running calls have put out before it. -/
def AsksInTime (codex : Codex) (outputs : Outputs) (event : EventMsg) : Prop :=
  ∀ approval out, event = .execApprovalRequest approval → outputs approval.callId = some out →
    execApprovalContent codex approval = .ok () → out = ""

/-- Where the buffers hold the account, they hold it after an event exactly if that asks no
approval for a call that has put something out. -/
theorem within_buffered_iff (event : EventMsg) (s : ActiveToolState) (outputs : Outputs)
    (h : outputs.Within s.buffered) :
    (outputs.account event).Within (handleEvent codex client event s).2.buffered ↔
      AsksInTime codex outputs event := by
  by_cases happroval : ∃ approval, event = .execApprovalRequest approval
  · obtain ⟨approval, rfl⟩ := happroval
    rw [handleEvent_approval_buffered]
    show outputs.Within _ ↔ _
    cases hcontent : execApprovalContent codex approval with
    | error err =>
      refine ⟨fun _ approval' out heq _ hok => ?_, fun _ => h⟩
      cases heq
      rw [hcontent] at hok
      cases hok
    | ok rendered =>
      show outputs.Within (Function.update s.buffered approval.callId (some "")) ↔ _
      constructor
      · intro hafter approval' out heq hout _
        cases heq
        have hreset := hafter approval.callId out hout
        rw [Function.update_self, Option.some.injEq] at hreset
        exact hreset.symm
      · intro hask callId out hout
        by_cases hid : callId = approval.callId
        · subst hid
          rw [Function.update_self, hask approval out rfl hout hcontent]
        · rw [Function.update_of_ne hid]
          exact h callId out hout
  · have hother : ∀ approval, event ≠ .execApprovalRequest approval := fun approval heq =>
      happroval ⟨approval, heq⟩
    rw [handleEvent_buffered hother]
    exact ⟨fun _ approval _ heq => absurd heq (hother approval), fun _ => h.account event⟩

/-- **Nothing a command puts out is forgotten.** All along a run, every running command is
known with exactly its output since it began, if and only if no approval is asked for one that
has put something out. -/
theorem buffered_accounted_iff (codex : Codex) (client : SessionClient) (s : ActiveToolState)
    (events : List EventMsg) :
    (∀ seen, seen <+: events → ∀ callId out, Outputs.ofEvents seen callId = some out →
      ∃ command, ((handleEvent codex client).final s seen).commands.lookup callId = some command ∧
        command.output = out) ↔
      ∀ before event, before ++ [event] <+: events →
        AsksInTime codex (Outputs.ofEvents before) event := by
  have hstart : Outputs.Within (fun _ => none) s.buffered := nofun
  have hrun := Transducer.final_tracks_iff (t := handleEvent codex client)
    (R := fun s outputs => Outputs.Within outputs s.buffered) within_buffered_iff hstart events
  refine Iff.trans (forall₂_congr fun seen _ => forall₃_congr fun callId out _ => ?_) hrun
  exact Option.map_eq_some_iff.symm

end Events

/-- A command that put out `ok`, and is asked about then. -/
def askedWhileRunning : List EventMsg :=
  [.execCommandBegin { callId := "call", cwd := "/work", parsedCmd := [.unknown "make"] },
   .execCommandOutputDelta { callId := "call", chunk := [0x6F, 0x6B] },
   .execApprovalRequest
    { callId := "call", approvalId := none, turnId := "turn", cwd := "/work"
      parsedCmd := [.unknown "make"], networkApprovalContext := none
      additionalPermissions := none, effectiveAvailableDecisions := [.approved, .abort] }]

/-- Asking about a command that runs forgets what it has put out. -/
theorem asking_forgets_output :
    Outputs.ofEvents askedWhileRunning "call" = some "ok" ∧
      ¬ ∃ command,
        ((handleEvent Codex.sample SessionClient.sample).final {} askedWhileRunning).commands.lookup
          "call" = some command ∧ command.output = "ok" := by
  refine ⟨by decide, ?_⟩
  rintro ⟨command, hcommand, hout⟩
  have hkept : ((handleEvent Codex.sample SessionClient.sample).final {}
      askedWhileRunning).buffered "call" = some "" := by decide
  unfold buffered at hkept
  rw [hcommand, Option.map_some, hout] at hkept
  exact absurd hkept (by decide)

end ActiveToolState

end CodexAcp.Thread

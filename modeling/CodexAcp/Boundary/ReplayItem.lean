import CodexAcp.Boundary.Mapper

/-!
# Replayed response items

What a recorded response item is shown as when its thread is loaded. A call is
introduced as completed, or as it ended, and its output completes it once more.
Whether the arguments of a call can be read decides the title it is shown under,
and nothing else.

A web search may have been recorded without an id; it is introduced under one that
is made up then (`generateFallbackId`).

> `toolCall_or_update`: nothing else is ever shown of a response item.
-/

namespace CodexAcp.Boundary

open CodexAcp.Protocol

inductive ReplayResponseItemPlan where
  | effect (effect : BridgeEffect)
  | ignore (reason : IgnoredCodexEventReason)
  deriving DecidableEq, Repr

namespace ReplayResponseItemPlan

def sendToolCall (toolCall : ToolCall) : ReplayResponseItemPlan :=
  .effect (.toolCall toolCall)

def sendToolCallUpdate (update : ToolCallUpdate) : ReplayResponseItemPlan :=
  .effect (.toolCallUpdate update)

end ReplayResponseItemPlan

def completedToolCallUpdate (callId : String) : ToolCallUpdate :=
  { toolCallId := callId, status := some .completed }

def replayLocalShellCallToolCall (callId : String) (status : ReplayToolCallStatus) : ToolCall :=
  { toolCallId := callId
    status :=
      match status with
      | .completed => .completed
      | .failed => .failed }

/-! ## Web searches -/

def generateFallbackId (idPrefix uuid : String) : String := idPrefix ++ "_" ++ uuid

/-- The id a web search is shown under; what is not known to be one has an id of its own. -/
def webSearchActionToId (uuid : String) (id : Option String) : WebSearchAction → String
  | .search => id.getD (generateFallbackId "web_search" uuid)
  | .openPage => id.getD (generateFallbackId "web_open" uuid)
  | .findInPage => id.getD (generateFallbackId "web_find" uuid)
  | .other => generateFallbackId "web_search" uuid

def replayWebSearchToolCall (uuid : String) (id : Option String)
    (action : Option WebSearchAction) : ToolCall :=
  completedToolCall
    (match action with
    | none => generateFallbackId "web_search" uuid
    | some action => webSearchActionToId uuid id action)

/-! ## The plan of a response item -/

/-- `uuid` is the id that is made up, if one is needed. -/
def replayResponseItemPlan (uuid : String) : ReplayResponseItemRoute → ReplayResponseItemPlan
  | .shellFunctionCall callId _ | .genericFunctionCall callId _ =>
    .sendToolCall (completedToolCall callId)
  | .functionCallOutput callId => .sendToolCallUpdate (completedToolCallUpdate callId)
  | .localShellCall callId status =>
    .sendToolCall (replayLocalShellCallToolCall callId status)
  | .applyPatchCustomToolCall callId | .genericCustomToolCall callId _ =>
    .sendToolCall (completedToolCall callId)
  | .customToolCallOutput callId => .sendToolCallUpdate (completedToolCallUpdate callId)
  | .webSearchCall id action => .sendToolCall (replayWebSearchToolCall uuid id action)
  | .ignore reason => .ignore reason

/-- The name of a tool decides how its call is titled, not that it is introduced. -/
theorem replayResponseItemPlan_functionCall (uuid name callId : String) :
    replayResponseItemPlan uuid (routeReplayResponseItem (.functionCall name callId)) =
      .sendToolCall (completedToolCall callId) := by
  show replayResponseItemPlan uuid (if isReplayShellTool name then _ else _) = _
  split <;> rfl

theorem replayResponseItemPlan_customToolCall (uuid name callId : String) :
    replayResponseItemPlan uuid (routeReplayResponseItem (.customToolCall name callId)) =
      .sendToolCall (completedToolCall callId) := by
  show replayResponseItemPlan uuid (if name = "apply_patch" then _ else _) = _
  split <;> rfl

/-- The notifications of a plan. -/
def ReplayResponseItemPlan.updates : ReplayResponseItemPlan → List SessionUpdate
  | .effect (.forward update) => [update]
  | .effect .rendered | .ignore _ => []

theorem toolCall_or_update {uuid : String} {route : ReplayResponseItemRoute}
    {update : SessionUpdate} (h : update ∈ (replayResponseItemPlan uuid route).updates) :
    (∃ toolCall, update = .toolCall toolCall) ∨ ∃ change, update = .toolCallUpdate change := by
  cases route with
  | functionCallOutput | customToolCallOutput =>
    exact .inr ⟨_, List.mem_singleton.mp h⟩
  | ignore => exact absurd h List.not_mem_nil
  | _ => exact .inl ⟨_, List.mem_singleton.mp h⟩

end CodexAcp.Boundary

import CodexAcp.Boundary.ReplayedToolCall
import CodexAcp.Display.Agents

/-!
# Tool calls of a running turn

The tool calls Codex's events are shown as while a turn runs: web searches, images,
and the tools of MCP servers and of the editor. A tool call is introduced whole; an
update has the fields that change. The raw value of a tool call is the
`serde_json::json!` of an event, which is kept with it.
-/

namespace CodexAcp.Boundary.Shown

open CodexAcp.Lib CodexAcp.Protocol CodexAcp.Boundary

/-! ## Web searches -/

def webSearchBeginToolCall (callId : String) : ToolCall :=
  { callId := callId, title := "Searching the Web", kind := .fetch }

def webSearchUpdateTitle : Replayed.WebSearchAction → String
  | .search query queries =>
    match queries, query with
    | some queries, _ => "Searching for: " ++ ", ".intercalate queries
    | none, some query => "Searching for: " ++ query
    | none, none => "Web search"
  | .openPage url =>
    match url with
    | some url => "Opening: " ++ url
    | none => "Open page"
  | .findInPage url pattern =>
    match pattern, url with
    | some pattern, some url => "Finding: " ++ pattern ++ " in " ++ url
    | some pattern, none => "Finding: " ++ pattern
    | none, some url => "Find in page: " ++ url
    | none, none => "Find in page"
  | .other => "Web search"

/-- `actionJson` is `serde_json::json!` of an action. -/
def webSearchUpdateToolCallUpdate (actionJson : Replayed.WebSearchAction → Json)
    (callId query : String) (action : Replayed.WebSearchAction) : ToolCallUpdate :=
  { callId := callId
    status := some .inProgress
    title := some (webSearchUpdateTitle action)
    rawInput := some (.object [("query", .string query), ("action", actionJson action)]) }

def webSearchCompleteToolCallUpdate (callId : String) : ToolCallUpdate :=
  { callId := callId, status := some .completed }

/-! ## Images -/

structure ImageGenerationEndEvent where
  callId : String
  status : String
  revisedPrompt : Option String
  result : String
  savedPath : Option String
  json : Json := .null

def formatImageGenerationContent (event : ImageGenerationEndEvent) : List ToolCallContent :=
  ((event.revisedPrompt.filter fun prompt => Text.trim prompt ≠ "").map fun prompt =>
    toolCallTextContent ("Revised prompt: " ++ prompt)).toList ++
  match event.savedPath with
  | some savedPath => [resourceLinkContent savedPath]
  | none =>
    if Text.trim event.result ≠ "" then [toolCallTextContent (previewText event.result 400)]
    else []

def imageGenerationStatus (event : ImageGenerationEndEvent) : ToolCallStatus :=
  if event.status = "completed" then .completed else .failed

def imageGenerationBeginToolCall (callId : String) : ToolCall :=
  { callId := callId, title := "Generate image", kind := .other, status := .inProgress }

def imageGenerationReplayToolCall (event : ImageGenerationEndEvent) : ToolCall :=
  { callId := event.callId
    title := "Generate image"
    kind := .other
    status := imageGenerationStatus event
    content := formatImageGenerationContent event
    locations := event.savedPath.toList }

def imageGenerationEndToolCallUpdate (event : ImageGenerationEndEvent) : ToolCallUpdate :=
  let content := formatImageGenerationContent event
  { callId := event.callId
    status := some (imageGenerationStatus event)
    title := some "Generate image"
    locations := event.savedPath.map fun path => [path]
    content := if !content.isEmpty then some content else none
    rawOutput := some event.json }

def viewImageToolCall (callId path : String) : ToolCall :=
  { callId := callId
    title := "View Image " ++ path
    kind := .read
    status := .completed
    content := [resourceLinkContent path]
    locations := [path] }

/-! ## Tools of MCP servers and of the editor -/

structure McpInvocation where
  server : String
  tool : String
  json : Json := .null

structure CallToolResult where
  content : List Json
  isError : Option Bool
  json : Json := .null

def mcpToolCallBegin (callId : String) (invocation : McpInvocation) : ToolCall :=
  { callId := callId
    title := "Tool: " ++ invocation.server ++ "/" ++ invocation.tool
    status := .inProgress
    rawInput := some invocation.json }

/-- What cannot be read as a content block is left out; `parseContentBlock` reads one. -/
def mcpToolCallContent (parseContentBlock : Json → Option ContentBlock)
    (result : Except String CallToolResult) : Option (List ToolCallContent) :=
  match result with
  | .ok result =>
    if !result.content.isEmpty then
      some ((result.content.filterMap parseContentBlock).map .content)
    else none
  | .error _ => none

def mcpToolCallOutput (result : Except String CallToolResult) : Json :=
  match result with
  | .ok result => result.json
  | .error err => .string err

def mcpToolCallEnd (parseContentBlock : Json → Option ContentBlock) (callId : String)
    (result : Except String CallToolResult) : ToolCallUpdate :=
  let isError :=
    match result with
    | .ok result => result.isError.getD false
    | .error _ => true
  { callId := callId
    status := some (if isError then .failed else .completed)
    content := mcpToolCallContent parseContentBlock result
    rawOutput := some (mcpToolCallOutput result) }

inductive DynamicToolCallOutputContentItem where
  | inputText (text : String)
  | inputImage (imageUrl : String)
  | inputAudio (audioUrl : String)
  deriving DecidableEq, Repr

structure DynamicToolCallResponseEvent where
  callId : String
  contentItems : List DynamicToolCallOutputContentItem
  success : Bool
  error : Option String
  json : Json := .null

def dynamicToolCallBegin (callId tool : String) (arguments : Json) : ToolCall :=
  { callId := callId
    title := "Tool: " ++ tool
    status := .inProgress
    rawInput := some arguments }

def dynamicToolCallItem : DynamicToolCallOutputContentItem → ToolCallContent
  | .inputText text => toolCallTextContent text
  | .inputImage imageUrl => resourceLinkContent imageUrl
  | .inputAudio audioUrl => resourceLinkContent audioUrl

def dynamicToolCallContent (contentItems : List DynamicToolCallOutputContentItem)
    (error : Option String) : List ToolCallContent :=
  contentItems.map dynamicToolCallItem ++ (error.map toolCallTextContent).toList

def dynamicToolCallEnd (event : DynamicToolCallResponseEvent) : ToolCallUpdate :=
  { callId := event.callId
    status := some (if event.success then .completed else .failed)
    content := some (dynamicToolCallContent event.contentItems event.error)
    rawOutput := some event.json }

end CodexAcp.Boundary.Shown

import CodexAcp.Boundary.Command
import CodexAcp.Boundary.FileChanges
import CodexAcp.Boundary.SessionUpdate
import CodexAcp.Lib.Table

/-!
# Tool calls in full

A tool call and an update of one with all the editor is given to show: the title,
the kind, the locations, the contents, the raw input and output, and what is said
beside them. Where only the id, the status and what is written to a terminal matter,
`recorded` leaves the rest out.

The editor keeps its tool calls in a table: `SessionUpdate.notice` says what it is
told of it.
-/

namespace CodexAcp.Boundary.Shown

open CodexAcp.Lib CodexAcp.Protocol CodexAcp.Boundary

inductive ToolKind where
  | read
  | edit
  | search
  | execute
  | think
  | fetch
  | other
  deriving DecidableEq, Repr

def ToolKind.ofCommand : Command.ToolKind → ToolKind
  | .read => .read
  | .search => .search
  | .execute => .execute

/-- What a notification says beside its fields. -/
abbrev Meta := List (String × Json)

structure ToolCall where
  callId : String
  title : String
  kind : ToolKind := .other
  status : ToolCallStatus := .pending
  content : List ToolCallContent := []
  locations : List String := []
  rawInput : Option Json := none
  metadata : Option Meta := none

/-- An update leaves what it does not have as it was. -/
structure ToolCallUpdate where
  callId : String
  kind : Option ToolKind := none
  status : Option ToolCallStatus := none
  title : Option String := none
  content : Option (List ToolCallContent) := none
  locations : Option (List String) := none
  rawInput : Option Json := none
  rawOutput : Option Json := none
  metadata : Option Meta := none

/-- What the editor is sent of a tool call. -/
inductive SessionUpdate where
  | toolCall (toolCall : ToolCall)
  | toolCallUpdate (update : ToolCallUpdate)

/-! ## Without raw values -/

def ToolCall.withoutRaw (toolCall : ToolCall) : ToolCall := { toolCall with rawInput := none }

def ToolCallUpdate.withoutRaw (update : ToolCallUpdate) : ToolCallUpdate :=
  { update with rawInput := none, rawOutput := none }

/-- The raw values of an event are as its maps list them. -/
def SessionUpdate.withoutRaw : SessionUpdate → SessionUpdate
  | toolCall call => .toolCall call.withoutRaw
  | toolCallUpdate update => .toolCallUpdate update.withoutRaw

/-- A link that is named as what it leads to. -/
def resourceLinkContent (uri : String) : ToolCallContent := .content (.resourceLink uri uri)

/-! ## Ids, statuses and the terminal -/

def terminalOutputKey : String := "terminal_output"

/-- What metadata says to write to a terminal. -/
def Meta.terminalOutput? (metadata : Meta) : Option TerminalOutput :=
  match Json.get metadata terminalOutputKey with
  | some (.object members) =>
    match Json.get members "terminal_id", Json.get members "data" with
    | some (.string terminalId), some (.string data) =>
      some { terminalId := terminalId, data := data }
    | _, _ => none
  | _ => none

def ToolCall.recorded (toolCall : ToolCall) : Boundary.ToolCall :=
  { toolCallId := toolCall.callId, status := toolCall.status }

def ToolCallUpdate.recorded (update : ToolCallUpdate) : Boundary.ToolCallUpdate :=
  { toolCallId := update.callId
    status := update.status
    terminalOutputDelta := update.metadata.bind Meta.terminalOutput? }

def SessionUpdate.recorded : SessionUpdate → Boundary.BridgeEffect
  | toolCall call => .toolCall call.recorded
  | toolCallUpdate update => .toolCallUpdate update.recorded

/-! ## The editor's table -/

/-- A tool call as the editor shows it, but for the raw values. -/
structure Row where
  title : String
  kind : ToolKind
  status : ToolCallStatus
  content : List ToolCallContent
  locations : List String
  deriving DecidableEq, Repr

def ToolCall.row (toolCall : ToolCall) : Row :=
  { title := toolCall.title
    kind := toolCall.kind
    status := toolCall.status
    content := toolCall.content
    locations := toolCall.locations }

/-- The fields an update has take the place of the row's. -/
def ToolCallUpdate.act (update : ToolCallUpdate) (row : Row) : Row :=
  { title := update.title.getD row.title
    kind := update.kind.getD row.kind
    status := update.status.getD row.status
    content := update.content.getD row.content
    locations := update.locations.getD row.locations }

namespace SessionUpdate

def callId : SessionUpdate → String
  | toolCall call => call.callId
  | toolCallUpdate update => update.callId

def isToolCall : SessionUpdate → Bool
  | toolCall _ => true
  | toolCallUpdate _ => false

def status : SessionUpdate → Option ToolCallStatus
  | toolCall call => some call.status
  | toolCallUpdate update => update.status

def metadata : SessionUpdate → Option Meta
  | toolCall call => call.metadata
  | toolCallUpdate update => update.metadata

def notice : SessionUpdate → Notice String Row ToolCallUpdate
  | toolCall call => .row call.callId call.row
  | toolCallUpdate update => .change update.callId update

theorem key_notice (update : SessionUpdate) : update.notice.key = update.callId := by
  cases update <;> rfl

end SessionUpdate

/-- The tool calls an editor shows that was sent the updates. -/
def shown (updates : List SessionUpdate) : Dict String Row :=
  Table.play ToolCallUpdate.act (updates.map SessionUpdate.notice) ∅

/-- The updates of one tool call. -/
def updatesOf (callId : String) (updates : List SessionUpdate) : List SessionUpdate :=
  updates.filter fun update => update.callId = callId

theorem about_notices (callId : String) (updates : List SessionUpdate) :
    Table.about callId (updates.map SessionUpdate.notice) =
      (updatesOf callId updates).map SessionUpdate.notice := by
  rw [Table.about, List.filter_map, updatesOf]
  refine congrArg _ (List.filter_congr fun update _ => ?_)
  rw [Function.comp_apply, SessionUpdate.key_notice]

theorem callId_of_mem_updatesOf {callId : String} {updates : List SessionUpdate}
    {update : SessionUpdate} (h : update ∈ updatesOf callId updates) : update.callId = callId :=
  of_decide_eq_true (List.mem_filter.mp h).2

/-- A tool call is shown as the updates after its last introduction left it. -/
theorem shown_of_updates {updates : List SessionUpdate} {callId : String}
    {earlier : List SessionUpdate} {call : ToolCall} {parts : List ToolCallUpdate}
    (h : updatesOf callId updates =
      earlier ++ .toolCall call :: parts.map SessionUpdate.toolCallUpdate) :
    (shown updates).lookup callId =
      some (parts.foldl (fun row part => part.act row) call.row) := by
  have hids : ∀ update ∈ earlier ++ .toolCall call :: parts.map SessionUpdate.toolCallUpdate,
      update.callId = callId := by
    intro update hupdate
    rw [← h] at hupdate
    exact callId_of_mem_updatesOf hupdate
  obtain ⟨-, hlast⟩ := List.forall_mem_append.mp hids
  obtain ⟨hid, hids⟩ := List.forall_mem_cons.mp hlast
  have hparts : (parts.map SessionUpdate.toolCallUpdate).map SessionUpdate.notice =
      parts.map (Notice.change callId) := by
    rw [List.map_map]
    refine List.map_congr_left fun part hpart => ?_
    have hpart' : part.callId = callId := hids _ (List.mem_map_of_mem hpart)
    rw [Function.comp_apply, SessionUpdate.notice, hpart']
  have habout : Table.about callId (updates.map SessionUpdate.notice) =
      earlier.map SessionUpdate.notice ++ .row callId call.row :: parts.map (Notice.change callId)
      := by
    have hcall : call.callId = callId := hid
    rw [about_notices, h, List.map_append, List.map_cons, hparts, SessionUpdate.notice, hcall]
  exact Table.lookup_play_row _ habout ∅

end CodexAcp.Boundary.Shown

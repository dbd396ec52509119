import CodexAcp.Lib.Text
import CodexAcp.Protocol.Event

/-!
# Showing subagents

The texts a subagent is shown by: its label, its status, and a preview of what it
was asked and of what it answered. Nicknames and roles are chosen by the model and
may say anything; the id of its thread is what tells one agent from another.

> `formatAgentLabel_inj`: two agents never have one label.
> `length_previewText_le`: a preview is short, however long the text is.
-/

namespace CodexAcp

open CodexAcp.Lib CodexAcp.Protocol

structure CollabAgentRef where
  threadId : ThreadId
  agentNickname : Option String
  agentRole : Option String
  deriving DecidableEq, Repr

/-- The first characters of a text; three dots if there are more. -/
def previewText (text : String) (maxChars : Nat) : String :=
  let trimmed := Text.trim text
  let preview := String.ofList (trimmed.toList.take maxChars)
  if trimmed.toList.length > maxChars then preview ++ "..." else preview

def formatAgentStatus : AgentStatus → String
  | .pendingInit => "pending init"
  | .running => "running"
  | .interrupted => "interrupted"
  | .completed (some message) =>
    if Text.trim message ≠ "" then "completed: " ++ previewText message 120 else "completed"
  | .completed none => "completed"
  | .errored message => "errored: " ++ previewText message 120
  | .shutdown => "shutdown"
  | .notFound => "not found"

/-- A text, if it is not blank. -/
def shownWord (word : Option String) : Option String :=
  (word.map Text.trim).filter fun word => word ≠ ""

def formatAgentLabel (nickname role : Option String) (threadId : Option ThreadId) : String :=
  let base :=
    match shownWord nickname, shownWord role with
    | some nickname, some role => nickname ++ " [" ++ role ++ "]"
    | some nickname, none => nickname
    | none, some role => "Agent [" ++ role ++ "]"
    | none, none => "Agent"
  match threadId with
  | some threadId => base ++ " (" ++ threadId ++ ")"
  | none => base

def formatCollabAgentRef (agent : CollabAgentRef) : String :=
  formatAgentLabel agent.agentNickname agent.agentRole (some agent.threadId)

def formatCollabStatusEntry (entry : CollabAgentStatusEntry) : String :=
  formatAgentLabel entry.agentNickname entry.agentRole (some entry.threadId) ++ ": " ++
    formatAgentStatus entry.status

def formatCollabPrompt (prompt : String) : Option String :=
  let prompt := Text.trim prompt
  if prompt ≠ "" then some ("Prompt: " ++ previewText prompt 160) else none

def formatCollabWaitingStatuses (entries : List CollabAgentStatusEntry) : Option String :=
  if !entries.isEmpty then
    some ("Agents:\n" ++ "\n".intercalate (entries.map formatCollabStatusEntry))
  else none

/-! ## Previews -/

theorem length_previewText_le (text : String) (maxChars : Nat) :
    (previewText text maxChars).toList.length ≤ maxChars + 3 := by
  unfold previewText
  dsimp only
  have htake : ((Text.trim text).toList.take maxChars).length ≤ maxChars := List.length_take_le _ _
  split
  · rw [String.toList_append, String.toList_ofList, List.length_append]
    exact Nat.add_le_add_right htake 3
  · rw [String.toList_ofList]
    omega

/-! ## Labels -/

/-- A label ends with the id of the thread, in parentheses. -/
theorem formatAgentLabel_some (nickname role : Option String) (threadId : ThreadId) :
    formatAgentLabel nickname role (some threadId) =
      formatAgentLabel nickname role none ++ " (" ++ threadId ++ ")" := rfl

/-- The characters after the last opening parenthesis, read backwards. -/
theorem splitOnceChars_label (nickname role : Option String) {threadId : ThreadId}
    (h : '(' ∉ threadId.toList) :
    Text.splitOnceChars '(' (formatAgentLabel nickname role (some threadId)).toList.reverse =
      some (')' :: threadId.toList.reverse,
        ' ' :: (formatAgentLabel nickname role none).toList.reverse) := by
  have hchars : (formatAgentLabel nickname role (some threadId)).toList.reverse =
      (')' :: threadId.toList.reverse) ++
        '(' :: (' ' :: (formatAgentLabel nickname role none).toList.reverse) := by
    rw [formatAgentLabel_some]
    simp only [String.toList_append, List.reverse_append, List.append_assoc]
    rfl
  rw [hchars]
  refine Text.splitOnceChars_append (fun hmem => ?_) _
  rcases List.mem_cons.mp hmem with hparen | hid
  · exact absurd hparen (by decide)
  · exact h (List.mem_reverse.mp hid)

/-- **Labels** tell agents apart, whatever they are called; an id has no parenthesis. -/
theorem formatAgentLabel_inj {nickname nickname' role role' : Option String}
    {threadId threadId' : ThreadId} (h : '(' ∉ threadId.toList) (h' : '(' ∉ threadId'.toList)
    (hlabel : formatAgentLabel nickname role (some threadId) =
      formatAgentLabel nickname' role' (some threadId')) : threadId = threadId' := by
  have hsplit := splitOnceChars_label nickname role h
  rw [hlabel, splitOnceChars_label nickname' role' h', Option.some.injEq, Prod.mk.injEq,
    List.cons.injEq, List.reverse_inj, String.toList_inj] at hsplit
  exact hsplit.1.2.symm

end CodexAcp

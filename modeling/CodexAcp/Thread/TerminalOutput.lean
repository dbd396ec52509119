import CodexAcp.Thread.CommandOutput
import CodexAcp.Thread.OutputPieces

/-!
# What reaches the terminal

A command runs in an editor that shows terminals: it begins, Codex reports its
output in chunks and what is typed into it, in any order and among other events,
and it ends with its whole output. What the editor's terminal receives for it is
put together from the pieces, and from what the end sends on after them.

> `delivered_eq`: the pieces as they are sent, and then what is missing, or the
> whole output again where the pieces are no prefix of it.
> `terminal_output_once_iff`: the terminal receives the output with each echo at
> its place exactly under the conditions of `terminalText_iff`.
-/

namespace CodexAcp.Thread

open CodexAcp.Lib CodexAcp.Protocol CodexAcp.Boundary

/-! ## What the terminal of a call receives -/

def terminalBytes (callId : String) : BridgeEffect → List UInt8
  | .forward (.toolCallUpdate update) =>
    match update.terminalOutputDelta with
    | some output => if output.terminalId = callId then Utf8.utf8 output.data else []
    | none => []
  | _ => []

/-- What an answer sends to the terminal of a call. -/
def sentTo (callId : String) (_ : EventMsg) (answer : ToolAnswer) : List UInt8 :=
  (answer.completed.toList ++ answer.effects).flatMap (terminalBytes callId)

/-- The bytes the terminal of a call receives during a run. -/
def terminalData (codex : Codex) (client : SessionClient) (s : ActiveToolState) (callId : String)
    (events : List EventMsg) : List UInt8 :=
  (ActiveToolState.handleEvent codex client).trace (sentTo callId) s events

theorem terminalBytes_of_not_showsToolCall {effect : BridgeEffect}
    (h : ActiveToolState.showsToolCall effect = false) (callId : String) :
    terminalBytes callId effect = [] := by
  unfold terminalBytes
  split
  next update => cases h
  next => rfl

namespace ActiveToolState

variable {codex : Codex} {client : SessionClient} {callId : String}

/-- The completion of a web search goes to no terminal. -/
theorem sentTo_handleEvent (event : EventMsg) (s : ActiveToolState) :
    sentTo callId event (handleEvent codex client event s).1 =
      ((s.completeBefore event).2.handleRoute codex client (routeLiveEvent event)).1.flatMap
        (terminalBytes callId) := by
  have hcompleted : (s.completeBefore event).1.toList.flatMap (terminalBytes callId) = [] := by
    unfold completeBefore completeWebSearch
    split
    · cases s.webSearch <;> rfl
    · rfl
  show ((s.completeBefore event).1.toList ++ _).flatMap _ = _
  rw [List.flatMap_append, hcompleted, List.nil_append]
  rfl

/-- The command of a call after an event. -/
theorem commands_handleEvent (event : EventMsg) (s : ActiveToolState) :
    (handleEvent codex client event s).2.commands =
      ((s.completeBefore event).2.handleRoute codex client (routeLiveEvent event)).2.commands :=
  rfl

theorem supportsTerminalOutput_output (command : ActiveCommand) (output : String) :
    client.supportsTerminalOutput { command with output := output } =
      client.supportsTerminalOutput command := rfl

/-- Output of a call of which the terminal is shown. -/
theorem streamActiveCommandOutput_sent {command : ActiveCommand} {s : ActiveToolState}
    (hcommand : s.commands.lookup callId = some command)
    (hcapable : client.supportsTerminalOutput command = true) (data : String) :
    (s.streamActiveCommandOutput client callId data).1.toList.flatMap (terminalBytes callId) =
        Utf8.utf8 data ∧
      (s.streamActiveCommandOutput client callId data).2.commands.lookup callId =
        some { command with output := command.output ++ data } := by
  unfold streamActiveCommandOutput
  rw [hcommand]
  dsimp only
  rw [supportsTerminalOutput_output, hcapable, if_pos rfl, AList.lookup_insert]
  refine ⟨?_, rfl⟩
  show (if callId = callId then Utf8.utf8 data else []) ++ [] = _
  rw [if_pos rfl, List.append_nil]

/-- Output of another call. -/
theorem streamActiveCommandOutput_other {other : String} (hother : other ≠ callId) (data : String)
    (s : ActiveToolState) :
    (s.streamActiveCommandOutput client other data).1.toList.flatMap (terminalBytes callId) = [] ∧
      (s.streamActiveCommandOutput client other data).2.commands.lookup callId =
        s.commands.lookup callId := by
  unfold streamActiveCommandOutput
  cases s.commands.lookup other with
  | none => exact ⟨rfl, rfl⟩
  | some command =>
    dsimp only
    rw [supportsTerminalOutput_output, AList.lookup_insert_ne hother.symm]
    refine ⟨?_, rfl⟩
    split
    next h =>
      rw [h]
      show (if other = callId then Utf8.utf8 data else []) ++ [] = _
      rw [if_neg hother]
      rfl
    next => rfl

/-- What an ended call still sends: what its terminal lacks, if it has one. -/
theorem execCommandEndPlan_sent (ended : ExecCommandEndEvent) (command : ActiveCommand)
    (supportsTerminalOutput : Bool) :
    let plan := execCommandEndPlan ended command supportsTerminalOutput
    (plan.streamingUpdate.toList.map BridgeEffect.toolCallUpdate ++
        [BridgeEffect.toolCallUpdate plan.completionUpdate]).flatMap (terminalBytes callId) =
      if supportsTerminalOutput = true ∧ ended.callId = callId then
        Utf8.utf8 ((command.completionTerminalOutputDelta
          (execCompletionOutputSnapshot ended.formattedOutput command
            ended.aggregatedOutput)).getD "")
      else [] := by
  intro plan
  have hcompletion : [BridgeEffect.toolCallUpdate plan.completionUpdate].flatMap
      (terminalBytes callId) = [] := rfl
  rw [List.flatMap_append, hcompletion, List.append_nil]
  cases supportsTerminalOutput with
  | false => rfl
  | true =>
    show List.flatMap _ (((command.completionTerminalOutputDelta _).map _).toList.map _) = _
    cases command.completionTerminalOutputDelta _ with
    | none =>
      rw [Option.getD_none]
      split <;> rfl
    | some data =>
      show (if ended.callId = callId then Utf8.utf8 data else []) ++ [] = _
      rw [List.append_nil, Option.getD_some]
      by_cases hid : ended.callId = callId
      · rw [if_pos hid, if_pos ⟨rfl, hid⟩]
      · rw [if_neg hid, if_neg fun h => hid h.2]

/-- Another call ends. -/
theorem execCommandEnd_other {ended : ExecCommandEndEvent} (hother : ended.callId ≠ callId)
    (s : ActiveToolState) :
    (s.execCommandEnd client ended).1.flatMap (terminalBytes callId) = [] ∧
      (s.execCommandEnd client ended).2.commands.lookup callId = s.commands.lookup callId := by
  unfold execCommandEnd removeActiveCommand
  cases s.commands.lookup ended.callId with
  | none => exact ⟨rfl, AList.lookup_erase_ne hother.symm⟩
  | some command =>
    refine ⟨?_, AList.lookup_erase_ne hother.symm⟩
    rw [execCommandEndPlan_sent, if_neg fun h => hother h.2]

section Events

variable (codex client)

/-- A piece of the call's output goes to its terminal, and is kept. -/
theorem handleEvent_piece {event : EventMsg} {piece : OutputPiece}
    (hpiece : OutputPiece.ofEvent callId event = some piece) {command : ActiveCommand}
    {s : ActiveToolState} (hcommand : s.commands.lookup callId = some command)
    (hcapable : client.supportsTerminalOutput command = true) :
    sentTo callId event (handleEvent codex client event s).1 = Utf8.utf8 piece.text ∧
      (handleEvent codex client event s).2.commands.lookup callId =
        some { command with output := command.output ++ piece.text } := by
  rw [sentTo_handleEvent, commands_handleEvent]
  rw [← completeBefore_commands event s] at hcommand
  generalize (s.completeBefore event).2 = s at hcommand
  unfold OutputPiece.ofEvent at hpiece
  split at hpiece
  next delta =>
    split at hpiece
    next hid =>
      cases hpiece
      subst hid
      exact streamActiveCommandOutput_sent hcommand hcapable _
    next => cases hpiece
  next typed =>
    split at hpiece
    next hid =>
      cases hpiece
      subst hid
      exact streamActiveCommandOutput_sent hcommand hcapable _
    next => cases hpiece
  next => cases hpiece

/-- Events that are not about tools. -/
theorem handleEvent_passesBy {event : EventMsg} (h : isToolEvent event = false)
    (s : ActiveToolState) :
    sentTo callId event (handleEvent codex client event s).1 = [] ∧
      (handleEvent codex client event s).2.commands = s.commands := by
  rw [sentTo_handleEvent, commands_handleEvent, ← completeBefore_commands event s]
  obtain ⟨hstate, hshown⟩ := routeLiveEvent_passesBy h codex client (s.completeBefore event).2
  rw [hstate]
  refine ⟨List.flatMap_eq_nil_iff.mpr fun effect heffect => ?_, rfl⟩
  exact terminalBytes_of_not_showsToolCall (hshown effect heffect) callId

/-- Other events send nothing to the call's terminal, and leave the call alone. -/
theorem handleEvent_noPiece {event : EventMsg} (hpiece : OutputPiece.ofEvent callId event = none)
    (hbounds : bounds callId event = false) (s : ActiveToolState) :
    sentTo callId event (handleEvent codex client event s).1 = [] ∧
      (handleEvent codex client event s).2.commands.lookup callId = s.commands.lookup callId := by
  cases htool : isToolEvent event with
  | false =>
    obtain ⟨hsent, hcommands⟩ := @handleEvent_passesBy codex client callId event htool s
    exact ⟨hsent, by rw [hcommands]⟩
  | true =>
    rw [sentTo_handleEvent, commands_handleEvent, ← completeBefore_commands event s]
    generalize (s.completeBefore event).2 = s
    cases event
    case execCommandOutputDelta delta =>
      have hother : delta.callId ≠ callId := by
        intro hid
        rw [show OutputPiece.ofEvent callId (.execCommandOutputDelta delta) =
          some (.chunk delta.chunk) from if_pos hid] at hpiece
        cases hpiece
      exact streamActiveCommandOutput_other hother _ s
    case terminalInteraction typed =>
      have hother : typed.callId ≠ callId := by
        intro hid
        rw [show OutputPiece.ofEvent callId (.terminalInteraction typed) =
          some (.typed typed.stdin) from if_pos hid] at hpiece
        cases hpiece
      exact streamActiveCommandOutput_other hother _ s
    case execApprovalRequest approval =>
      have hother : callId ≠ approval.callId := fun hid => of_decide_eq_false hbounds hid.symm
      refine ⟨rfl, ?_⟩
      show (s.execApproval codex approval).commands.lookup callId = _
      unfold execApproval execApprovalInteraction
      cases execApprovalContent codex approval with
      | error err => rfl
      | ok rendered => exact AList.lookup_insert_ne hother
    case execCommandBegin begun =>
      have hother : callId ≠ begun.callId := fun hid => of_decide_eq_false hbounds hid.symm
      exact ⟨rfl, AList.lookup_insert_ne hother⟩
    case execCommandEnd ended => exact execCommandEnd_other (of_decide_eq_false hbounds) s
    case webSearchBegin begun => exact ⟨rfl, rfl⟩
    case webSearchEnd ended => exact ⟨rfl, rfl⟩
    all_goals cases htool

/-- The call begins. -/
theorem handleEvent_begun (begun : ExecCommandBeginEvent) (s : ActiveToolState) :
    sentTo begun.callId (.execCommandBegin begun)
        (handleEvent codex client (.execCommandBegin begun) s).1 = [] ∧
      (handleEvent codex client (.execCommandBegin begun) s).2.commands.lookup begun.callId =
        some (execCommandBeginPlan codex begun).activeCommand := by
  rw [sentTo_handleEvent, commands_handleEvent]
  exact ⟨rfl, AList.lookup_insert _⟩

/-- The call ends. -/
theorem handleEvent_ended {ended : ExecCommandEndEvent} {command : ActiveCommand}
    {s : ActiveToolState} (hcommand : s.commands.lookup ended.callId = some command)
    (hcapable : client.supportsTerminalOutput command = true) :
    sentTo ended.callId (.execCommandEnd ended)
        (handleEvent codex client (.execCommandEnd ended) s).1 =
      Utf8.utf8 ((command.completionTerminalOutputDelta
        (execCompletionOutputSnapshot ended.formattedOutput command
          ended.aggregatedOutput)).getD "") := by
  rw [sentTo_handleEvent]
  rw [← completeBefore_commands (.execCommandEnd ended) s] at hcommand
  generalize (s.completeBefore (.execCommandEnd ended)).2 = s at hcommand
  show (s.execCommandEnd client ended).1.flatMap _ = _
  unfold execCommandEnd removeActiveCommand
  rw [hcommand]
  dsimp only
  rw [execCommandEndPlan_sent, if_pos ⟨hcapable, rfl⟩]

/-- Between its begin and its end, the call's terminal receives the pieces as they are sent. -/
theorem trace_pieces {events : List EventMsg} (hbounds : ∀ e ∈ events, bounds callId e = false)
    {command : ActiveCommand} {s : ActiveToolState}
    (hcommand : s.commands.lookup callId = some command)
    (hcapable : client.supportsTerminalOutput command = true) :
    let pieces := events.filterMap (OutputPiece.ofEvent callId)
    terminalData codex client s callId events = Utf8.utf8 (joined pieces) ∧
      ((handleEvent codex client).final s events).commands.lookup callId =
        some { command with output := command.output ++ joined pieces } := by
  unfold terminalData joined
  induction events generalizing s command with
  | nil =>
    refine ⟨rfl, ?_⟩
    show s.commands.lookup callId = some { command with output := command.output ++ "" }
    rw [String.append_empty]
    exact hcommand
  | cons event events ih =>
    obtain ⟨hfirst, hrest⟩ := List.forall_mem_cons.mp hbounds
    intro pieces
    rw [Transducer.trace_cons, Transducer.final_cons]
    cases hpiece : OutputPiece.ofEvent callId event with
    | none =>
      obtain ⟨hsent, hlookup⟩ := handleEvent_noPiece codex client hpiece hfirst s
      rw [hsent, List.nil_append, show pieces = _ from List.filterMap_cons_none hpiece]
      exact ih hrest (hlookup.trans hcommand) hcapable
    | some piece =>
      obtain ⟨hsent, hlookup⟩ := handleEvent_piece codex client hpiece hcommand hcapable
      obtain ⟨htail, hfinal⟩ := ih hrest hlookup hcapable
      rw [hsent, htail, hfinal, show pieces = _ from List.filterMap_cons_some hpiece,
        List.map_cons, String.join_cons, Utf8.utf8_append, String.append_assoc]
      exact ⟨rfl, rfl⟩

end Events

end ActiveToolState

/-! ## The output, once -/

/-- **What the terminal receives.** -/
theorem delivered_eq {codex : Codex} {client : SessionClient} {begun : ExecCommandBeginEvent}
    {ended : ExecCommandEndEvent} {events : List EventMsg} (hcall : ended.callId = begun.callId)
    (hcapable : client.supportsTerminalOutput (execCommandBeginPlan codex begun).activeCommand = true)
    (hbounds : ∀ e ∈ events, bounds begun.callId e = false) (s : ActiveToolState) :
    terminalData codex client s begun.callId
        (.execCommandBegin begun :: events ++ [.execCommandEnd ended]) =
      Utf8.utf8 (terminalText ended
        (joined (events.filterMap (OutputPiece.ofEvent begun.callId)))) := by
  obtain ⟨hbegun, hcommand⟩ := ActiveToolState.handleEvent_begun codex client begun s
  obtain ⟨hpieces, hfinal⟩ := ActiveToolState.trace_pieces codex client hbounds hcommand
    hcapable
  have hempty : (execCommandBeginPlan codex begun).activeCommand.output = "" := rfl
  rw [hempty, String.empty_append, ← hcall] at hfinal
  have hended := ActiveToolState.handleEvent_ended codex client hfinal hcapable
  rw [← output_append_delta ended { (execCommandBeginPlan codex begun).activeCommand with
    output := joined (events.filterMap (OutputPiece.ofEvent begun.callId)) }, Utf8.utf8_append]
  unfold terminalData at *
  rw [List.cons_append, Transducer.trace_cons, hbegun, List.nil_append, Transducer.trace_append,
    hpieces, Transducer.trace_cons, ← hcall, hended]
  exact congrArg (_ ++ ·) (List.append_nil _)

/-- **The output, once.** A command of an editor that shows terminals begins, is reported in
chunks of its output with what is typed between them, among events that are not about it, and
ends. The terminal receives the output with every echo at its place exactly under the three
conditions on the right. -/
theorem terminal_output_once_iff {codex : Codex} {client : SessionClient}
    {begun : ExecCommandBeginEvent} {ended : ExecCommandEndEvent} {events : List EventMsg}
    (hcall : ended.callId = begun.callId)
    (hcapable : client.supportsTerminalOutput (execCommandBeginPlan codex begun).activeCommand = true)
    (hbounds : ∀ e ∈ events, bounds begun.callId e = false)
    (htext : (chunks (events.filterMap (OutputPiece.ofEvent begun.callId))).flatten =
      Utf8.utf8 ended.formattedOutput) (s : ActiveToolState) :
    let pieces := events.filterMap (OutputPiece.ofEvent begun.callId)
    terminalData codex client s begun.callId
        (.execCommandBegin begun :: events ++ [.execCommandEnd ended]) =
          pieces.flatMap (·.bytes) ↔
      (∀ chunk ∈ chunks pieces, Utf8.IsUtf8 chunk) ∧
        (ended.formattedOutput ≠ "" → stdins pieces = []) ∧
        (ended.formattedOutput = "" → stdins pieces = [] → ended.aggregatedOutput = "") := by
  intro pieces
  rw [delivered_eq hcall hcapable hbounds]
  exact terminalText_iff htext

/-- For concrete runs: a command whose output is shown in a terminal. -/
def sampleBegun : ExecCommandBeginEvent :=
  { callId := "call", cwd := "/work", parsedCmd := [.unknown "make"] }

def sampleEnded (formattedOutput : String) : ExecCommandEndEvent :=
  { callId := "call", exitCode := 0, aggregatedOutput := "", formattedOutput := formattedOutput
    status := .completed }

def sampleChunk (bytes : List UInt8) : EventMsg :=
  .execCommandOutputDelta { callId := "call", chunk := bytes }

/-- Two characters in two chunks. -/
theorem terminal_output_once_cut_between :
    terminalData Codex.sample SessionClient.sample {} "call"
        [.execCommandBegin sampleBegun, sampleChunk [0xC3, 0xA9], .warning ⟨"Slow."⟩,
          sampleChunk [0x21], .execCommandEnd (sampleEnded "é!")] = [0xC3, 0xA9, 0x21] := by
  have hvalid : ∀ chunk ∈ [[0xC3, 0xA9], [0x21]], Utf8.IsUtf8 chunk := by
    intro chunk hchunk
    rcases List.mem_cons.mp hchunk with rfl | hchunk
    · exact ⟨"é", by decide⟩
    · exact ⟨"!", by rw [List.mem_singleton.mp hchunk]; decide⟩
  exact (@terminal_output_once_iff Codex.sample SessionClient.sample sampleBegun
    (sampleEnded "é!") [sampleChunk [0xC3, 0xA9], .warning ⟨"Slow."⟩, sampleChunk [0x21]] rfl
    (by decide) (by decide) (by decide) {}).mpr ⟨hvalid, fun _ => rfl, nofun⟩

/-- An `é` cut in two is sent as two characters that are not there, and once more when the
command ends. -/
theorem cut_character_repeated :
    let events := [sampleChunk [0xC3], sampleChunk [0xA9]]
    let pieces := events.filterMap (OutputPiece.ofEvent "call")
    let received := terminalData Codex.sample SessionClient.sample {} "call"
      (.execCommandBegin sampleBegun :: events ++ [.execCommandEnd (sampleEnded "é")])
    (chunks pieces).flatten = Utf8.utf8 "é" ∧ pieces.flatMap (·.bytes) = Utf8.utf8 "é" ∧
      received = Utf8.utf8 (String.ofList [Char.ofNat 0xFFFD, Char.ofNat 0xFFFD, 'é']) ∧
      received ≠ pieces.flatMap (·.bytes) := by
  decide

end CodexAcp.Thread

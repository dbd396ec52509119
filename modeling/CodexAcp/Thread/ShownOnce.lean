import CodexAcp.Lib.Text
import CodexAcp.Thread.Streaming

/-!
# Streamed text is shown once

What a submission shows of the agent's messages and of its reasoning, over every
sequence of events it handles.

> `agentMessage_displayed_iff`: a whole message is sent, or is the text streamed
> before it, but for one that is no final answer and follows streamed text.
> `forwardedText_eq`: of well-formed items the editor gets each text once.
> `reasoning_shown_once_iff`: of reasoning it gets a text twice exactly when a
> streamed item has more than one section with text.

The state is the summary of the deltas since the last whole message
(`tracked_inv`), so what a whole message does depends on these alone. The other
events neither read nor write it (`handleEvent_state`).
-/

namespace CodexAcp.Thread

open CodexAcp.Lib CodexAcp.Protocol CodexAcp.Boundary

namespace StreamingMessageState

/-! ## One event -/

/-- What an event does to the state. -/
def after (msg : EventMsg) (s : StreamingMessageState) : StreamingMessageState :=
  match msg with
  | .agentMessageContentDelta event => s.recordMessageDelta event.delta
  | .agentMessage _ => s.takeMessageDeltaText.2
  | .reasoningContentDelta _ | .reasoningRawContentDelta _ | .agentReasoningSectionBreak _ =>
    s.markReasoningDeltaSeen
  | .agentReasoning _ => s.takeSeenReasoningDeltas.2
  | _ => s

theorem handleEvent_state (msg : EventMsg) (s : StreamingMessageState) :
    (handleEvent msg s).2 = s.after msg := by
  cases msg
  -- the events whose route depends on their payload
  case tokenCount event =>
    cases h : usageIgnoredReason event <;> simp [handleEvent, routeLiveEvent, h] <;> rfl
  case patchApplyUpdated event =>
    cases h : event.changes.isEmpty <;> simp [handleEvent, routeLiveEvent, h] <;> rfl
  case turnAborted event =>
    obtain ⟨turnId⟩ := event
    cases turnId <;> rfl
  case exitedReviewMode event =>
    obtain ⟨reviewOutput⟩ := event
    cases reviewOutput <;> rfl
  all_goals rfl

/-! ## Messages -/

/-- The text an agent-message update shows. -/
def chunkText : Option BridgeEffect → List String
  | some (.forward (.agentMessageChunk (.text text))) => [text]
  | _ => []

/-- The text the handlers of deltas and whole messages forward. -/
def seeMessage : EventMsg → Option BridgeEffect → List String
  | .agentMessageContentDelta _, effect => chunkText effect
  | .agentMessage _, effect => chunkText effect
  | _, _ => []

/-- The deltas forwarded since the last whole message, one event later. -/
def forwardedSince (deltas : List String) : EventMsg → Option BridgeEffect → List String
  | .agentMessageContentDelta _, effect => deltas ++ chunkText effect
  | .agentMessage _, _ => []
  | _, _ => deltas

/-- A submission with the deltas it forwarded since the last whole message. -/
def tracked : Transducer (StreamingMessageState × List String) EventMsg (Option BridgeEffect) :=
  fun msg (s, deltas) =>
    ((handleEvent msg s).1, (handleEvent msg s).2, forwardedSince deltas msg (handleEvent msg s).1)

/-- The state is the summary of the deltas forwarded since the last whole message. -/
def Summarises (s : StreamingMessageState) (deltas : List String) : Prop :=
  s.seenMessageDeltas = !deltas.isEmpty ∧ s.messageDeltaText = String.join deltas

/-- Taking the streamed text gives the deltas, and starts over. -/
theorem Summarises.take {s : StreamingMessageState} {deltas : List String}
    (h : Summarises s deltas) :
    s.takeMessageDeltaText.1 = (if deltas = [] then none else some (String.join deltas)) ∧
      Summarises s.takeMessageDeltaText.2 [] := by
  obtain ⟨hseen, htext⟩ := h
  unfold takeMessageDeltaText
  cases deltas with
  | nil =>
    rw [if_neg (by rw [hseen]; simp)]
    exact ⟨rfl, hseen, htext⟩
  | cons delta deltas =>
    rw [if_pos (by rw [hseen]; rfl), htext]
    exact ⟨rfl, rfl, rfl⟩

/-- **One event** keeps the state the summary of the deltas. -/
theorem Summarises.step {s : StreamingMessageState} {deltas : List String}
    (h : Summarises s deltas) (msg : EventMsg) :
    Summarises (handleEvent msg s).2 (forwardedSince deltas msg (handleEvent msg s).1) := by
  rw [handleEvent_state]
  cases msg
  case agentMessageContentDelta event =>
    show Summarises (s.recordMessageDelta event.delta) (deltas ++ [event.delta])
    refine ⟨by simp [recordMessageDelta], ?_⟩
    show s.messageDeltaText ++ event.delta = _
    rw [h.2, String.join_append, String.join_cons, String.join_nil, String.append_empty]
  case agentMessage event => exact h.take.2
  all_goals exact h

theorem tracked_inv {s : StreamingMessageState} {deltas : List String} (h : Summarises s deltas)
    (msgs : List EventMsg) :
    Summarises (tracked.final (s, deltas) msgs).1 (tracked.final (s, deltas) msgs).2 := by
  induction msgs generalizing s deltas with
  | nil => exact h
  | cons msg msgs ih =>
    rw [Transducer.final_cons]
    exact ih (h.step msg)

theorem tracked_fst (s : StreamingMessageState) (deltas : List String) (msgs : List EventMsg) :
    (tracked.final (s, deltas) msgs).1 = handleEvent.final s msgs := by
  induction msgs generalizing s deltas with
  | nil => rfl
  | cons msg msgs ih =>
    rw [Transducer.final_cons, Transducer.final_cons]
    exact ih _ _

/-- The deltas a submission forwarded since the last whole message. -/
def streamedBefore (before : List EventMsg) : List String := (tracked.final ({}, []) before).2

theorem summarises_final (before : List EventMsg) :
    Summarises (handleEvent.final {} before) (streamedBefore before) := by
  rw [← tracked_fst {} []]
  exact tracked_inv ⟨rfl, rfl⟩ before

/-- A whole message that comes after these events is displayed: it is forwarded, or
the editor has it from the deltas forwarded since the last one. -/
def Displayed (before : List EventMsg) (event : AgentMessageEvent) : Prop :=
  (handleEvent (.agentMessage event) (handleEvent.final {} before)).1 =
      some (agentTextEffect event.message) ∨
    event.message = String.join (streamedBefore before)

/-- What a whole message is forwarded on: what was streamed since the last one. -/
theorem agentMessage_shown {s : StreamingMessageState} {deltas : List String}
    (h : Summarises s deltas) (event : AgentMessageEvent) :
    (handleEvent (.agentMessage event) s).1 =
      if deltas = [] ∨ event.phase = some .finalAnswer ∧ String.join deltas ≠ event.message then
        some (agentTextEffect event.message)
      else none := by
  show (if shouldSend event s.takeMessageDeltaText.1 then _ else _) = _
  rw [h.take.1]
  unfold shouldSend
  by_cases hdeltas : deltas = []
  · simp [hdeltas]
  · rw [if_neg hdeltas]
    cases event.phase with
    | none => simp [hdeltas]
    | some phase => cases phase <;> simp [hdeltas]

/-- **Whole messages.** A message is displayed when it is a final answer, when
nothing was streamed since the last whole message, and when what was streamed is
its text; any other one is not. -/
theorem agentMessage_displayed_iff (before : List EventMsg) (event : AgentMessageEvent) :
    Displayed before event ↔
      event.phase = some .finalAnswer ∨ streamedBefore before = [] ∨
        event.message = String.join (streamedBefore before) := by
  unfold Displayed
  rw [agentMessage_shown (summarises_final before)]
  by_cases htext : event.message = String.join (streamedBefore before)
  · exact ⟨fun _ => .inr (.inr htext), fun _ => .inr htext⟩
  · have hne : String.join (streamedBefore before) ≠ event.message := fun h => htext h.symm
    -- what was streamed is another text: only the branches that forward are left
    by_cases hsend : streamedBefore before = [] ∨
        event.phase = some .finalAnswer ∧ String.join (streamedBefore before) ≠ event.message
    · rw [if_pos hsend]
      refine ⟨fun _ => ?_, fun _ => .inl rfl⟩
      rcases hsend with hnil | ⟨hphase, _⟩
      · exact .inr (.inl hnil)
      · exact .inl hphase
    · rw [if_neg hsend]
      refine ⟨fun h => ?_, fun h => absurd ?_ hsend⟩
      · rcases h with h | h
        · cases h
        · exact absurd h htext
      · rcases h with hphase | hnil | h
        · exact .inr ⟨hphase, hne⟩
        · exact .inl hnil
        · exact absurd h htext

/-- A commentary whose deltas broke off is not displayed. -/
theorem commentary_not_displayed : ¬ ∀ before event, Displayed before event := by
  intro h
  have hlost := h
    [.agentMessageContentDelta
      { threadId := "thread", turnId := "turn", itemId := "item", delta := "Checking" }]
    { message := "Checking context.", phase := some .commentary }
  rw [Displayed] at hlost
  revert hlost
  decide

/-! ## Items of messages -/

/-- A message of the agent: the whole message, and the deltas it was streamed in,
if it was streamed. -/
structure MessageItem where
  event : AgentMessageEvent
  deltas : List AgentMessageContentDeltaEvent
  complete : deltas = [] ∨ String.join (deltas.map (·.delta)) = event.message

namespace MessageItem

/-- The events of an item. -/
def events (item : MessageItem) : List EventMsg :=
  item.deltas.map .agentMessageContentDelta ++ [.agentMessage item.event]

/-- What is forwarded for an item: its deltas, or the whole message. -/
def forwarded (item : MessageItem) : List String :=
  if item.deltas = [] then [item.event.message] else item.deltas.map (·.delta)

theorem join_forwarded (item : MessageItem) :
    String.join item.forwarded = item.event.message := by
  unfold forwarded
  split
  next => simp
  next h => exact item.complete.resolve_left h

end MessageItem

/-- The events of agent messages. -/
def isMessageEvent : EventMsg → Bool
  | .agentMessageContentDelta _ | .agentMessage _ => true
  | _ => false

/-- Nothing was streamed since the last whole message. -/
def NothingStreamed (s : StreamingMessageState) : Prop := Summarises s []

theorem trace_deltas {s : StreamingMessageState} {before : List String}
    (h : Summarises s before) (deltas : List AgentMessageContentDeltaEvent) :
    Summarises (handleEvent.final s (deltas.map .agentMessageContentDelta))
        (before ++ deltas.map (·.delta)) ∧
      handleEvent.trace seeMessage s (deltas.map .agentMessageContentDelta) =
        deltas.map (·.delta) := by
  induction deltas generalizing s before with
  | nil => exact ⟨by rw [List.map_nil, List.map_nil, List.append_nil]; exact h, rfl⟩
  | cons delta deltas ih =>
    obtain ⟨hstate, htrace⟩ := ih (h.step (.agentMessageContentDelta delta))
    rw [List.map_cons, Transducer.final_cons, Transducer.trace_cons, htrace]
    refine ⟨?_, rfl⟩
    rw [List.map_cons, ← List.singleton_append, ← List.append_assoc]
    exact hstate

/-- **One item** is forwarded once, and leaves nothing streamed. -/
theorem trace_item (item : MessageItem) {s : StreamingMessageState} (h : NothingStreamed s) :
    NothingStreamed (handleEvent.final s item.events) ∧
      handleEvent.trace seeMessage s item.events = item.forwarded := by
  obtain ⟨hstate, htrace⟩ := trace_deltas h item.deltas
  rw [List.nil_append] at hstate
  unfold MessageItem.events
  rw [Transducer.final_append, Transducer.trace_append, htrace]
  refine ⟨hstate.step (.agentMessage item.event), ?_⟩
  show _ ++ (chunkText (handleEvent (.agentMessage item.event) _).1 ++ []) = _
  rw [agentMessage_shown hstate, MessageItem.forwarded]
  by_cases hdeltas : item.deltas = []
  · rw [if_pos (.inl (by rw [hdeltas]; rfl)), if_pos hdeltas, hdeltas]
    rfl
  · -- the deltas were the whole message, so it is not sent again
    have hcomplete := item.complete.resolve_left hdeltas
    rw [if_neg, if_neg hdeltas]
    · exact List.append_nil _
    · rintro (hnil | ⟨_, hne⟩)
      · exact hdeltas (List.map_eq_nil_iff.mp hnil)
      · exact hne hcomplete

/-- The text the handlers of deltas and whole messages forward for these events. -/
def forwardedText (msgs : List EventMsg) : String :=
  String.join (handleEvent.trace seeMessage {} msgs)

/-- Other events neither show a message nor move what is kept of messages. -/
theorem trace_messageEvents (s : StreamingMessageState) (msgs : List EventMsg) :
    handleEvent.trace seeMessage s msgs =
      handleEvent.trace seeMessage s (msgs.filter isMessageEvent) := by
  refine Transducer.trace_filter (R := fun s s' =>
    s.seenMessageDeltas = s'.seenMessageDeltas ∧ s.messageDeltaText = s'.messageDeltaText)
    ?_ ?_ ⟨rfl, rfl⟩ msgs
  · intro msg s s' hother hR
    rw [handleEvent_state]
    cases msg <;> first | exact ⟨hR, rfl⟩ | cases hother
  · intro msg s s' hmessage hR
    rw [handleEvent_state, handleEvent_state]
    cases msg
    case agentMessageContentDelta event =>
      exact ⟨⟨rfl, by simp [after, recordMessageDelta, hR.2]⟩, rfl⟩
    case agentMessage event =>
      obtain ⟨seen, text, reasoning⟩ := s
      obtain ⟨seen', text', reasoning'⟩ := s'
      obtain ⟨rfl, rfl⟩ := hR
      cases seen <;> exact ⟨⟨rfl, rfl⟩, rfl⟩
    all_goals cases hmessage

/-- **Items of messages.** Whatever other events come between, the text forwarded
for well-formed items is the text of each, once and in order. -/
theorem forwardedText_eq (items : List MessageItem) (msgs : List EventMsg)
    (h : msgs.filter isMessageEvent = items.flatMap MessageItem.events) :
    forwardedText msgs = String.join (items.map (·.event.message)) := by
  unfold forwardedText
  rw [trace_messageEvents, h, Transducer.trace_flatMap (I := NothingStreamed)
    (fun item s hs => trace_item item hs) ⟨rfl, rfl⟩, Text.join_flatMap]
  simp only [MessageItem.join_forwarded]

/-- A commentary streamed around a warning, and a final answer that was not. -/
theorem forwardedText_commentary_then_answer :
    forwardedText
        [.agentMessageContentDelta
            { threadId := "thread", turnId := "turn", itemId := "commentary", delta := "Checking " },
          .warning ⟨"Slow."⟩,
          .agentMessageContentDelta
            { threadId := "thread", turnId := "turn", itemId := "commentary", delta := "context." },
          .agentMessage { message := "Checking context.", phase := some .commentary },
          .agentMessage { message := "Done.", phase := some .finalAnswer }] =
      "Checking context.Done." :=
  forwardedText_eq
    [{ event := { message := "Checking context.", phase := some .commentary }
       deltas :=
         [{ threadId := "thread", turnId := "turn", itemId := "commentary", delta := "Checking " },
           { threadId := "thread", turnId := "turn", itemId := "commentary", delta := "context." }]
       complete := .inr rfl },
      { event := { message := "Done.", phase := some .finalAnswer }
        deltas := []
        complete := .inl rfl }]
    _ rfl

/-! ## Items of reasoning -/

/-- A piece of the agent's reasoning as it is produced, summarised or raw. -/
inductive ReasoningDelta where
  | summary (event : ReasoningContentDeltaEvent)
  | raw (event : ReasoningRawContentDeltaEvent)

namespace ReasoningDelta

def text : ReasoningDelta → String
  | summary event => event.delta
  | raw event => event.delta

def msg : ReasoningDelta → EventMsg
  | summary event => .reasoningContentDelta event
  | raw event => .reasoningRawContentDelta event

end ReasoningDelta

/-- The text of a section, from the pieces it was streamed in. -/
def sectionText (deltas : List ReasoningDelta) : String := String.join (deltas.map (·.text))

/-- An item of reasoning: sections reported whole, or sections streamed with a
break before each but the first, and then reported. -/
inductive ReasoningItem where
  | unstreamed (sections : List String)
  | streamed (first : List ReasoningDelta)
      (later : List (AgentReasoningSectionBreakEvent × List ReasoningDelta))

namespace ReasoningItem

/-- The report of a whole section. -/
def report (text : String) : EventMsg := .agentReasoning { text := text }

/-- A section after a break. -/
def laterEvents (piece : AgentReasoningSectionBreakEvent × List ReasoningDelta) : List EventMsg :=
  .agentReasoningSectionBreak piece.1 :: piece.2.map (·.msg)

/-- The texts of the sections after the first of a streamed item. -/
def laterTexts : ReasoningItem → List String
  | unstreamed _ => []
  | streamed _ later => later.map fun piece => sectionText piece.2

/-- The events of an item, in the order Codex sends them. -/
def events : ReasoningItem → List EventMsg
  | unstreamed sections => sections.map report
  | streamed first later =>
    first.map (·.msg) ++ later.flatMap laterEvents ++
      (report (sectionText first) ::
        later.map fun piece => report (sectionText piece.2))

/-- The text that shows each section of an item once, with the breaks between
streamed ones. -/
def textOnce : ReasoningItem → String
  | unstreamed sections => String.join sections
  | streamed first later =>
    sectionText first ++ String.join (later.map fun piece => "\n\n" ++ sectionText piece.2)

end ReasoningItem

/-- The events of the agent's reasoning. -/
def isReasoningEvent : EventMsg → Bool
  | .reasoningContentDelta _ | .reasoningRawContentDelta _ | .agentReasoningSectionBreak _
  | .agentReasoning _ => true
  | _ => false

/-- The text an agent-thought update shows. -/
def thoughtText : Option BridgeEffect → List String
  | some (.forward (.agentThoughtChunk text)) => [text]
  | _ => []

/-- The text the handlers of reasoning forward. -/
def seeThought (msg : EventMsg) (effect : Option BridgeEffect) : List String :=
  if isReasoningEvent msg then thoughtText effect else []

/-- The text the handlers of reasoning forward for these events. -/
def forwardedThoughts (msgs : List EventMsg) : String :=
  String.join (handleEvent.trace seeThought {} msgs)

/-- Other events neither show reasoning nor move what is kept of it. -/
theorem trace_reasoningEvents (s : StreamingMessageState) (msgs : List EventMsg) :
    handleEvent.trace seeThought s msgs =
      handleEvent.trace seeThought s (msgs.filter isReasoningEvent) := by
  refine Transducer.trace_filter
    (R := fun s s' => s.seenReasoningDeltas = s'.seenReasoningDeltas) ?_ ?_ rfl msgs
  · intro msg s s' hother hR
    rw [handleEvent_state, seeThought, if_neg (by simp [hother])]
    refine ⟨?_, rfl⟩
    cases msg
    case agentMessage event =>
      show s.takeMessageDeltaText.2.seenReasoningDeltas = _
      unfold takeMessageDeltaText
      split <;> exact hR
    all_goals first | exact hR | cases hother
  · intro msg s s' hreasoning hR
    rw [handleEvent_state, handleEvent_state, seeThought, seeThought]
    cases msg
    case agentReasoning event =>
      refine ⟨rfl, ?_⟩
      show thoughtText (if s.seenReasoningDeltas then _ else _) =
        thoughtText (if s'.seenReasoningDeltas then _ else _)
      rw [hR]
    all_goals first | exact ⟨rfl, rfl⟩ | cases hreasoning

/-- A streamed piece is forwarded, and noted. -/
theorem trace_reasoningDeltas (s : StreamingMessageState) (deltas : List ReasoningDelta) :
    handleEvent.trace seeThought s (deltas.map (·.msg)) = deltas.map (·.text) ∧
      (handleEvent.final s (deltas.map (·.msg))).seenReasoningDeltas =
        (s.seenReasoningDeltas || !deltas.isEmpty) := by
  induction deltas generalizing s with
  | nil => exact ⟨rfl, (Bool.or_false _).symm⟩
  | cons delta deltas ih =>
    obtain ⟨htrace, hseen⟩ := ih s.markReasoningDeltaSeen
    have hstep : handleEvent delta.msg s =
        (some (agentThoughtEffect delta.text), s.markReasoningDeltaSeen) := by
      cases delta <;> rfl
    have hsee : seeThought delta.msg (some (agentThoughtEffect delta.text)) = [delta.text] := by
      cases delta <;> rfl
    rw [List.map_cons, Transducer.trace_cons, Transducer.final_cons, hstep, hsee, htrace, hseen]
    exact ⟨rfl, by simp [markReasoningDeltaSeen]⟩

/-- The sections after the first are forwarded with the breaks before them. -/
theorem trace_later (s : StreamingMessageState)
    (later : List (AgentReasoningSectionBreakEvent × List ReasoningDelta)) :
    handleEvent.trace seeThought s (later.flatMap ReasoningItem.laterEvents) =
        later.flatMap (fun piece => "\n\n" :: piece.2.map (·.text)) ∧
      (handleEvent.final s (later.flatMap ReasoningItem.laterEvents)).seenReasoningDeltas =
        (s.seenReasoningDeltas || !later.isEmpty) := by
  induction later generalizing s with
  | nil => exact ⟨rfl, (Bool.or_false _).symm⟩
  | cons piece later ih =>
    obtain ⟨sectionBreak, deltas⟩ := piece
    obtain ⟨hdeltas, hseen⟩ := trace_reasoningDeltas s.markReasoningDeltaSeen deltas
    obtain ⟨hlater, hseen'⟩ := ih
      (handleEvent.final s.markReasoningDeltaSeen (deltas.map (·.msg)))
    have htrace : handleEvent.trace seeThought s
        (ReasoningItem.laterEvents (sectionBreak, deltas)) = "\n\n" :: deltas.map (·.text) :=
      congrArg ("\n\n" :: ·) hdeltas
    rw [List.flatMap_cons, List.flatMap_cons, Transducer.trace_append, Transducer.final_append,
      htrace]
    refine ⟨congrArg _ hlater, hseen'.trans ?_⟩
    rw [hseen]
    simp [markReasoningDeltaSeen]

/-- Sections reported when nothing was streamed are forwarded whole. -/
theorem trace_reports {s : StreamingMessageState} (h : s.seenReasoningDeltas = false)
    (texts : List String) :
    handleEvent.trace seeThought s (texts.map ReasoningItem.report) = texts ∧
      (handleEvent.final s (texts.map ReasoningItem.report)).seenReasoningDeltas = false := by
  induction texts generalizing s with
  | nil => exact ⟨rfl, h⟩
  | cons text texts ih =>
    have hstep : handleEvent (ReasoningItem.report text) s = (some (agentThoughtEffect text), s) := by
      obtain ⟨seen, deltaText, reasoning⟩ := s
      cases h
      rfl
    obtain ⟨htrace, hseen⟩ := ih h
    rw [List.map_cons, Transducer.trace_cons, Transducer.final_cons, hstep, htrace]
    exact ⟨rfl, hseen⟩

namespace ReasoningItem

/-- What is forwarded for an item: its sections whole, or streamed and then all but
the first once more. A first section without a piece, and none after it, is no
stream. -/
def forwarded : ReasoningItem → List String
  | unstreamed sections => sections
  | streamed first later =>
    first.map (·.text) ++ later.flatMap (fun piece => "\n\n" :: piece.2.map (·.text)) ++
      ((if first.isEmpty && later.isEmpty then [""] else []) ++
        later.map fun piece => sectionText piece.2)

theorem join_forwarded (item : ReasoningItem) :
    String.join item.forwarded = item.textOnce ++ String.join item.laterTexts := by
  cases item with
  | unstreamed sections => simp [forwarded, textOnce, laterTexts]
  | streamed first later =>
    -- The report of an empty section shows no text.
    have hempty : String.join (if first.isEmpty && later.isEmpty then [""] else []) = "" := by
      split <;> rfl
    rw [forwarded, String.join_append, String.join_append, String.join_append, hempty,
      String.empty_append, Text.join_flatMap]
    simp only [String.join_cons]
    rfl

end ReasoningItem

open ReasoningItem in
/-- **One item** of reasoning: what is forwarded for it, and that it leaves no piece
noted. -/
theorem trace_reasoningItem (item : ReasoningItem) {s : StreamingMessageState}
    (h : s.seenReasoningDeltas = false) :
    (handleEvent.final s item.events).seenReasoningDeltas = false ∧
      handleEvent.trace seeThought s item.events = item.forwarded := by
  cases item with
  | unstreamed sections =>
    obtain ⟨htrace, hseen⟩ := trace_reports h sections
    exact ⟨hseen, htrace⟩
  | streamed first later =>
    obtain ⟨hfirst, hseen⟩ := trace_reasoningDeltas s first
    obtain ⟨hlater, hseen'⟩ := trace_later (handleEvent.final s (first.map (·.msg))) later
    rw [hseen, h, Bool.false_or] at hseen'
    unfold ReasoningItem.events ReasoningItem.forwarded
    rw [Transducer.trace_append, Transducer.trace_append, Transducer.final_append,
      Transducer.final_append, hfirst, hlater]
    generalize handleEvent.final (handleEvent.final s (first.map (·.msg)))
      (later.flatMap ReasoningItem.laterEvents) = streamed at hseen'
    -- the first report is held back when a piece was noted, and clears the note
    have hfirst : seeThought (report (sectionText first))
        (handleEvent (report (sectionText first)) streamed).1 =
          if first.isEmpty && later.isEmpty then [""] else [] := by
      show thoughtText (if streamed.seenReasoningDeltas then none
        else some (agentThoughtEffect (sectionText first))) = _
      rw [hseen']
      cases first with
      | nil => cases later <;> rfl
      | cons delta first => rfl
    -- With the note gone, the later reports pass as if nothing had been streamed.
    obtain ⟨hrest, hdone⟩ := trace_reports (s := streamed.takeSeenReasoningDeltas.2) rfl
      (later.map fun piece => sectionText piece.2)
    rw [List.map_map] at hrest hdone
    rw [Transducer.trace_cons, Transducer.final_cons, hfirst]
    exact ⟨hdone, congrArg _ (congrArg _ hrest)⟩

/-- **Items of reasoning.** Each section is shown once exactly when no section after
the first of a streamed item has text: the report of the first section is held
back, and takes note of the pieces with it. -/
theorem reasoning_shown_once_iff (items : List ReasoningItem) (msgs : List EventMsg)
    (h : msgs.filter isReasoningEvent = items.flatMap ReasoningItem.events) :
    forwardedThoughts msgs = String.join (items.map ReasoningItem.textOnce) ↔
      ∀ item ∈ items, ∀ text ∈ item.laterTexts, text = "" := by
  unfold forwardedThoughts
  rw [trace_reasoningEvents, h, Transducer.trace_flatMap
    (I := fun s => s.seenReasoningDeltas = false) (fun item s hs => trace_reasoningItem item hs) rfl,
    Text.join_flatMap]
  simp only [ReasoningItem.join_forwarded]
  -- What is forwarded twice is what is joined beyond the text of each item.
  rw [Text.join_map_append_eq_iff]
  simp only [Text.join_eq_empty_iff]

/-- For concrete runs: a piece of a summary. -/
def ReasoningDelta.sample (text : String) : ReasoningDelta :=
  .summary
    { threadId := "thread", turnId := "turn", itemId := "reasoning", delta := text
      summaryIndex := 0 }

/-- For concrete runs: an item streamed in two sections. -/
def ReasoningItem.sampleOfTwo : ReasoningItem :=
  .streamed [.sample "Plan."] [({ itemId := "reasoning", summaryIndex := 1 }, [.sample "Edit."])]

/-- A streamed item of one section, and an item of two that was not streamed. -/
theorem reasoning_shown_once_one_section :
    forwardedThoughts
        (ReasoningItem.events (.streamed [.sample "Reading ", .sample "the tests."] []) ++
          ReasoningItem.events (.unstreamed ["Plan.", "Edit."])) =
      "Reading the tests.Plan.Edit." :=
  (reasoning_shown_once_iff
    [.streamed [.sample "Reading ", .sample "the tests."] [], .unstreamed ["Plan.", "Edit."]]
    _ rfl).mpr (by simp [ReasoningItem.laterTexts])

/-- A streamed item of two sections: the second is shown again by its report. -/
theorem second_section_shown_twice :
    ¬ ∀ (items : List ReasoningItem) (msgs : List EventMsg),
      msgs.filter isReasoningEvent = items.flatMap ReasoningItem.events →
        forwardedThoughts msgs = String.join (items.map ReasoningItem.textOnce) := by
  intro h
  have htwice := h [.sampleOfTwo] (ReasoningItem.events .sampleOfTwo) rfl
  revert htwice
  decide

end StreamingMessageState

end CodexAcp.Thread

import CodexAcp.Thread.ReplayedCalls
import CodexAcp.Thread.ShownOnce
import CodexAcp.UserInput

/-!
# The transcript

While a session goes on, the editor is sent what the agent says and thinks piece by
piece, and the whole messages only where nothing was streamed. When the session is
loaded again, it is sent the whole messages that were recorded. It appends a piece to
what the same speaker said last, so what it shows is a text in which every character
has a speaker.

> `transcript_reloaded_iff`: both are the same text exactly if no reasoning was
> streamed in several sections and no notice had a text. The live one has a break between
> the sections, and the later ones twice; and notices (warnings, what compaction, rollback
> and a review come to) are shown live only.

What the user said and raw reasoning are shown only when a session is loaded, and are no
part of this.
-/

namespace CodexAcp.Thread

open CodexAcp.Lib CodexAcp.Protocol CodexAcp.Boundary
open StreamingMessageState

inductive Speaker where
  | message
  | thought
  deriving DecidableEq, Repr

/-- A text, each character of it with its speaker. -/
def spoken (speaker : Speaker) (text : String) : List (Speaker × Char) :=
  text.toList.map (speaker, ·)

/-- What a notification appends to the transcript. -/
def said : SessionUpdate → List (Speaker × Char)
  | .agentMessageChunk (.text text) | .agentMessageChunk (.warning text) => spoken .message text
  | .agentThoughtChunk text => spoken .thought text
  | _ => []

theorem spoken_append (speaker : Speaker) (text text' : String) :
    spoken speaker (text ++ text') = spoken speaker text ++ spoken speaker text' := by
  simp [spoken]

theorem flatMap_spoken (speaker : Speaker) (texts : List String) :
    texts.flatMap (spoken speaker) = spoken speaker (String.join texts) := by
  induction texts with
  | nil => rfl
  | cons text texts ih => rw [List.flatMap_cons, ih, String.join_cons, spoken_append]

theorem length_spoken (speaker : Speaker) (text : String) :
    (spoken speaker text).length = text.length :=
  (List.length_map _).trans String.length_toList

/-! ## Live -/

section Live

variable (codex : Codex)

/-- What the editor is sent of an event: by the actor, which asks the questions itself, or by the
submission. -/
def liveUpdates (submissionId : String) (msg : EventMsg) (effect : Option BridgeEffect) :
    List SessionUpdate :=
  match (planActorEvent msg).action with
  | .registerPendingUserInput event =>
    [agentText (codex.requestUserInputPromptText
      (PendingUserInputRequest.fromEvent submissionId event))]
  | .routeToSubmission _ _ =>
    match effect with
    | some (.forward update) => [update]
    | _ => []

/-- What an event appends to the transcript. -/
def seeSaid (submissionId : String) (msg : EventMsg) (effect : Option BridgeEffect) :
    List (Speaker × Char) :=
  (liveUpdates codex submissionId msg effect).flatMap said

/-- What a turn appends. -/
def liveTranscript (submissionId : String) (msgs : List EventMsg) : List (Speaker × Char) :=
  handleEvent.trace (seeSaid codex submissionId) {} msgs

end Live

/-! ## What is said in a turn -/

/-- What is told of the session itself. -/
inductive Notice where
  | warning (event : WarningEvent)
  | guardianWarning (event : WarningEvent)
  | contextCompacted
  | threadRolledBack (event : ThreadRolledBackEvent)
  | exitedReviewMode (event : ExitedReviewModeEvent)

def Notice.msg : Notice → EventMsg
  | warning event => .warning event
  | guardianWarning event => .guardianWarning event
  | contextCompacted => .contextCompacted
  | threadRolledBack event => .threadRolledBack event
  | exitedReviewMode event => .exitedReviewMode event

/-- The effect of a notice; a review that came to nothing has none. -/
def Notice.effect : Notice → Option BridgeEffect
  | warning event | guardianWarning event => some (agentWarningEffect event)
  | contextCompacted => some Boundary.contextCompacted
  | threadRolledBack event => some (Boundary.threadRolledBack event)
  | exitedReviewMode event => (reviewModeExitEffect event).toOption

def Notice.text (notice : Notice) : String :=
  match notice.effect with
  | some (.forward (.agentMessageChunk (.text text)))
  | some (.forward (.agentMessageChunk (.warning text))) => text
  | _ => ""

/-- The events that say something, or report it. -/
def isTextEvent : EventMsg → Bool
  | .requestUserInput _ | .warning _ | .guardianWarning _ | .contextCompacted
  | .threadRolledBack _ | .exitedReviewMode _ => true
  | msg => isMessageEvent msg || isReasoningEvent msg

/-- What is said, thought, asked or told. -/
inductive Utterance where
  | message (item : MessageItem)
  | reasoning (item : ReasoningItem)
  | question (event : RequestUserInputEvent)
  | notice (notice : Notice)

namespace Utterance

/-- The events of an utterance, in the order Codex sends them. -/
def events : Utterance → List EventMsg
  | message item => item.events
  | reasoning item => item.events
  | question event => [.requestUserInput event]
  | notice told => [told.msg]

/-- No reasoning streamed in several sections, and no notice with a text. -/
def IsReloaded : Utterance → Prop
  | reasoning (.streamed _ later) => later = []
  | notice told => told.text = ""
  | _ => True

end Utterance

/-- The events of a turn, in which the utterances come one after the other. -/
structure Turn where
  submissionId : String
  msgs : List EventMsg
  utterances : List Utterance
  wellFormed : msgs.filter isTextEvent = utterances.flatMap Utterance.events

/-! ## What is recorded -/

/-- The events that are recorded of what is said. -/
def isWhole : EventMsg → Bool
  | .agentMessage _ | .agentReasoning _ | .requestUserInput _ => true
  | _ => false

def wholeOf : RolloutItem → Option EventMsg
  | .eventMsg msg => if isWhole msg then some msg else none
  | _ => none

/-- A history has what was said in the turns, and whatever else; but no raw reasoning, which is
shown only when it is loaded. -/
structure Records (turns : List Turn) (history : List RolloutItem) : Prop where
  whole : history.filterMap wholeOf = turns.flatMap fun turn => turn.msgs.filter isWhole
  noRawContent : ∀ item ∈ history, ∀ event, item ≠ .eventMsg (.agentReasoningRawContent event)

/-! ## What an utterance appends, live -/

section Live

variable (codex : Codex) (id : String)

/-- What the editor is sent of an event that is not part of the transcript appends nothing. -/
theorem silent_of_not_text {msg : EventMsg} (h : isTextEvent msg = false)
    (s : StreamingMessageState) :
    seeSaid codex id msg (handleEvent msg s).1 = [] ∧ (handleEvent msg s).2 = s := by
  rw [StreamingMessageState.handleEvent_state]
  cases msg
  -- the events whose route depends on their payload
  case tokenCount event =>
    cases hreason : usageIgnoredReason event <;>
      simp only [handleEvent, routeLiveEvent, hreason] <;> exact ⟨rfl, rfl⟩
  case patchApplyUpdated event =>
    cases hempty : event.changes.isEmpty <;>
      simp only [handleEvent, routeLiveEvent, hempty] <;> exact ⟨rfl, rfl⟩
  case turnAborted event =>
    obtain ⟨turnId⟩ := event
    cases turnId <;> exact ⟨rfl, rfl⟩
  all_goals first | exact ⟨rfl, rfl⟩ | cases h

/-- What is sent of messages is said by them. -/
theorem said_of_message {msg : EventMsg} (h : isMessageEvent msg = true)
    (s : StreamingMessageState) :
    seeSaid codex id msg (handleEvent msg s).1 =
      (seeMessage msg (handleEvent msg s).1).flatMap (spoken .message) := by
  cases msg
  case agentMessageContentDelta event => rfl
  case agentMessage event =>
    have heffect : (handleEvent (.agentMessage event) s).1 =
        if shouldSend event s.takeMessageDeltaText.1 then some (agentTextEffect event.message)
        else none := rfl
    rw [heffect]
    cases shouldSend event s.takeMessageDeltaText.1 <;> rfl
  all_goals cases h

/-- What is sent of reasoning is thought in it. -/
theorem said_of_reasoning {msg : EventMsg} (h : isReasoningEvent msg = true)
    (s : StreamingMessageState) :
    seeSaid codex id msg (handleEvent msg s).1 =
      (seeThought msg (handleEvent msg s).1).flatMap (spoken .thought) := by
  cases msg
  case agentReasoning event =>
    have heffect : (handleEvent (.agentReasoning event) s).1 =
        if s.seenReasoningDeltas then none else some (agentThoughtEffect event.text) := rfl
    rw [heffect]
    cases s.seenReasoningDeltas <;> rfl
  all_goals first | rfl | cases h

theorem seenReasoningDeltas_of_message {msg : EventMsg} (h : isMessageEvent msg = true)
    (s : StreamingMessageState) :
    (handleEvent msg s).2.seenReasoningDeltas = s.seenReasoningDeltas := by
  rw [StreamingMessageState.handleEvent_state]
  cases msg
  case agentMessageContentDelta event => rfl
  case agentMessage event =>
    show s.takeMessageDeltaText.2.seenReasoningDeltas = _
    unfold takeMessageDeltaText
    split <;> rfl
  all_goals cases h

/-- A notice is told in its text. -/
theorem said_of_notice (notice : Notice) (s : StreamingMessageState) :
    seeSaid codex id notice.msg (handleEvent notice.msg s).1 = spoken .message notice.text ∧
      (handleEvent notice.msg s).2 = s := by
  rw [StreamingMessageState.handleEvent_state]
  refine ⟨?_, by cases notice <;> rfl⟩
  cases notice
  case threadRolledBack event =>
    have heffect : (handleEvent (.threadRolledBack event) s).1 = some (threadRolledBack event) := rfl
    show seeSaid codex id (.threadRolledBack event) (handleEvent (.threadRolledBack event) s).1 = _
    rw [heffect, Notice.text, Notice.effect]
    unfold Boundary.threadRolledBack
    split <;> exact List.append_nil _
  case exitedReviewMode event =>
    obtain ⟨reviewOutput⟩ := event
    cases reviewOutput with
    | none => rfl
    | some output => exact List.append_nil _
  all_goals exact List.append_nil _

/-- What is kept of messages. -/
def keptOfMessages (s : StreamingMessageState) : Bool × String :=
  (s.seenMessageDeltas, s.messageDeltaText)

theorem keptOfMessages_of_reasoning {msg : EventMsg} (h : isReasoningEvent msg = true)
    (s : StreamingMessageState) : keptOfMessages (handleEvent msg s).2 = keptOfMessages s := by
  rw [StreamingMessageState.handleEvent_state]
  cases msg
  all_goals first | rfl | cases h

/-- Between utterances. -/
structure Rested (s : StreamingMessageState) : Prop where
  nothingStreamed : NothingStreamed s
  nothingThought : s.seenReasoningDeltas = false

theorem isMessageEvent_events (item : MessageItem) :
    ∀ msg ∈ item.events, isMessageEvent msg = true := by
  intro msg hmsg
  rcases List.mem_append.mp hmsg with hdelta | hwhole
  · obtain ⟨delta, -, rfl⟩ := List.mem_map.mp hdelta
    rfl
  · cases List.mem_singleton.mp hwhole
    rfl

theorem isReasoningEvent_msg (delta : ReasoningDelta) : isReasoningEvent delta.msg = true := by
  cases delta <;> rfl

theorem isReasoningEvent_events (item : ReasoningItem) :
    ∀ msg ∈ item.events, isReasoningEvent msg = true := by
  intro msg hmsg
  cases item with
  | unstreamed sections =>
    obtain ⟨text, -, rfl⟩ := List.mem_map.mp hmsg
    rfl
  | streamed first later =>
    simp only [ReasoningItem.events, List.mem_append, List.mem_map, List.mem_flatMap,
      List.mem_cons] at hmsg
    rcases hmsg with (⟨delta, -, rfl⟩ | ⟨piece, -, hpiece⟩) | rfl | ⟨piece, -, rfl⟩
    · exact isReasoningEvent_msg delta
    · rcases List.mem_cons.mp hpiece with rfl | hdelta
      · rfl
      · obtain ⟨delta, -, rfl⟩ := List.mem_map.mp hdelta
        exact isReasoningEvent_msg delta
    · rfl
    · rfl

end Live

/-- The text of a question. -/
def questionText (event : RequestUserInputEvent) : String :=
  UserInput.requestUserInputPromptText (PendingUserInputRequest.fromEvent event.turnId event)

namespace Utterance

/-- What an utterance appends when it comes. -/
def live : Utterance → List (Speaker × Char)
  | message item => spoken .message item.event.message
  | reasoning item => spoken .thought (item.textOnce ++ String.join item.laterTexts)
  | question event => spoken .message (questionText event)
  | notice told => spoken .message told.text

end Utterance

/-- **One utterance**, live. -/
theorem trace_utterance (codex : Codex) (id : String) (utterance : Utterance)
    {s : StreamingMessageState} (h : Rested s) :
    Rested (handleEvent.final s utterance.events) ∧
      handleEvent.trace (seeSaid (UserInput.inText codex) id) s utterance.events =
        utterance.live := by
  cases utterance with
  | message item =>
    have hevents := isMessageEvent_events item
    obtain ⟨hstate, htrace⟩ := trace_item item h.nothingStreamed
    have hkept := Transducer.final_keeps (t := handleEvent) (·.seenReasoningDeltas)
      (fun msg hmsg s => seenReasoningDeltas_of_message (hevents msg hmsg) s) s
    refine ⟨⟨hstate, hkept.trans h.nothingThought⟩, ?_⟩
    refine (Transducer.trace_through (spoken .message)
      (fun msg hmsg s => said_of_message _ id (hevents msg hmsg) s) s).trans ?_
    rw [htrace, flatMap_spoken, item.join_forwarded]
    rfl
  | reasoning item =>
    have hevents := isReasoningEvent_events item
    obtain ⟨hstate, htrace⟩ := trace_reasoningItem item h.nothingThought
    have hkept := Transducer.final_keeps (t := handleEvent) keptOfMessages
      (fun msg hmsg s => keptOfMessages_of_reasoning (hevents msg hmsg) s) s
    obtain ⟨hseen, htext⟩ := Prod.ext_iff.mp hkept
    refine ⟨⟨⟨hseen.trans h.nothingStreamed.1, htext.trans h.nothingStreamed.2⟩, hstate⟩, ?_⟩
    refine (Transducer.trace_through (spoken .thought)
      (fun msg hmsg s => said_of_reasoning _ id (hevents msg hmsg) s) s).trans ?_
    rw [htrace, flatMap_spoken, item.join_forwarded]
    rfl
  | question event =>
    refine ⟨h, ?_⟩
    show (spoken .message (questionText event) ++ []) ++ [] = spoken .message (questionText event)
    rw [List.append_nil, List.append_nil]
  | notice notice =>
    obtain ⟨hsaid, hstate⟩ := said_of_notice (UserInput.inText codex) id notice s
    refine ⟨?_, (List.append_nil _).trans hsaid⟩
    show Rested (handleEvent notice.msg s).2
    rw [hstate]
    exact h

/-- **A turn**, live. -/
theorem liveTranscript_eq (codex : Codex) (turn : Turn) :
    liveTranscript (UserInput.inText codex) turn.submissionId turn.msgs =
      turn.utterances.flatMap Utterance.live := by
  have hfilter : liveTranscript (UserInput.inText codex) turn.submissionId turn.msgs =
      handleEvent.trace (seeSaid (UserInput.inText codex) turn.submissionId) {}
        (turn.msgs.filter isTextEvent) := by
    refine Transducer.trace_filter (R := Eq) ?_ ?_ rfl turn.msgs
    · intro msg s s' hother hsame
      obtain ⟨hsilent, hstate⟩ :=
        silent_of_not_text (UserInput.inText codex) turn.submissionId hother s
      exact ⟨hstate.trans hsame, hsilent⟩
    · intro msg s s' _ hsame
      cases hsame
      exact ⟨rfl, rfl⟩
  rw [hfilter, turn.wellFormed]
  refine Transducer.trace_flatMap (I := Rested)
    (fun utterance s hs => trace_utterance codex turn.submissionId utterance hs) ?_ _
  exact ⟨⟨rfl, rfl⟩, rfl⟩

/-! ## What it appends when it is loaded -/

/-- What loading a session again appends to the transcript. -/
def replayTranscript (codex : Codex) (history : List RolloutItem) (a : ThreadActor) :
    List (Speaker × Char) :=
  ((a.handleReplayHistory codex history).world.sent.drop a.world.sent.length).flatMap said

/-- What a recorded event appends. -/
def saidOfWhole : EventMsg → List (Speaker × Char)
  | .agentMessage event => spoken .message event.message
  | .agentReasoning event => spoken .thought event.text
  | .requestUserInput event => spoken .message (questionText event)
  | _ => []

theorem said_itemUpdates (codex : Codex) (n : Nat) {item : RolloutItem}
    (h : ∀ event, item ≠ .eventMsg (.agentReasoningRawContent event)) :
    (itemUpdates (UserInput.inText codex) n item).flatMap said =
      (wholeOf item).toList.flatMap saidOfWhole := by
  cases item with
  | stateOnly => rfl
  | responseItem item =>
    refine List.flatMap_eq_nil_iff.mpr fun update hupdate => ?_
    rcases toolCall_or_update hupdate with ⟨toolCall, rfl⟩ | ⟨change, rfl⟩
    · rfl
    · rfl
  | eventMsg msg =>
    cases msg
    case turnAborted event =>
      obtain ⟨turnId⟩ := event
      cases turnId <;> rfl
    case agentReasoningRawContent event => exact absurd rfl (h event)
    all_goals rfl

theorem said_historyUpdates (codex : Codex) (n : Nat) {history : List RolloutItem}
    (h : ∀ item ∈ history, ∀ event, item ≠ .eventMsg (.agentReasoningRawContent event)) :
    (historyUpdates (UserInput.inText codex) n history).flatMap said =
      (history.filterMap wholeOf).flatMap saidOfWhole := by
  induction history generalizing n with
  | nil => rfl
  | cons item history ih =>
    rw [List.forall_mem_cons] at h
    rw [historyUpdates, List.flatMap_append, said_itemUpdates codex n h.1, ih _ h.2]
    cases hwhole : wholeOf item with
    | none => rw [List.filterMap_cons_none hwhole]; rfl
    | some msg => rw [List.filterMap_cons_some hwhole, List.flatMap_cons]; simp

/-- What is reported of an item of reasoning. -/
def StreamingMessageState.ReasoningItem.reportedText : ReasoningItem → String
  | unstreamed sections => String.join sections
  | streamed first later =>
    sectionText first ++ String.join (later.map fun piece => sectionText piece.2)

namespace Utterance

/-- What an utterance appends when it is loaded. -/
def reloaded : Utterance → List (Speaker × Char)
  | message item => spoken .message item.event.message
  | reasoning item => spoken .thought item.reportedText
  | question event => spoken .message (questionText event)
  | notice _ => []

end Utterance

theorem isWhole_msg (delta : ReasoningDelta) : isWhole delta.msg = false := by
  cases delta <;> rfl

theorem said_of_reports (texts : List String) :
    ((texts.map ReasoningItem.report).filter isWhole).flatMap saidOfWhole =
      spoken .thought (String.join texts) := by
  induction texts with
  | nil => rfl
  | cons text texts ih =>
    rw [List.map_cons, List.filter_cons_of_pos rfl, List.flatMap_cons, ih, String.join_cons,
      spoken_append]
    rfl

theorem said_of_events (utterance : Utterance) :
    (utterance.events.filter isWhole).flatMap saidOfWhole = utterance.reloaded := by
  cases utterance with
  | question event => exact List.append_nil _
  | notice notice => cases notice <;> rfl
  | message item =>
    have hdeltas : (item.deltas.map EventMsg.agentMessageContentDelta).filter isWhole = [] := by
      simp [isWhole]
    show (item.events.filter isWhole).flatMap _ = _
    rw [MessageItem.events, List.filter_append, hdeltas]
    exact List.append_nil _
  | reasoning item =>
    cases item with
    | unstreamed sections => exact said_of_reports sections
    | streamed first later =>
      have hfirst : (first.map (·.msg)).filter isWhole = [] := by
        simp [isWhole_msg]
      have hlater : (later.flatMap ReasoningItem.laterEvents).filter isWhole = [] := by
        rw [List.filter_flatMap, List.flatMap_eq_nil_iff]
        intro piece _
        rw [ReasoningItem.laterEvents, List.filter_cons_of_neg Bool.false_ne_true]
        simp [isWhole_msg]
      have hreports := said_of_reports (sectionText first :: later.map fun piece =>
        sectionText piece.2)
      rw [List.map_cons, List.map_map, String.join_cons] at hreports
      show ((ReasoningItem.streamed first later).events.filter isWhole).flatMap _ = _
      rw [ReasoningItem.events, List.filter_append, List.filter_append, hfirst, hlater]
      exact hreports

/-! ## Both -/

/-- The breaks and the sections after them, as they are streamed. -/
def laterSections (later : List (AgentReasoningSectionBreakEvent × List ReasoningDelta)) : String :=
  String.join (later.map fun piece => "\n\n" ++ sectionText piece.2)

theorem laterSections_eq_empty_iff
    (later : List (AgentReasoningSectionBreakEvent × List ReasoningDelta)) :
    laterSections later = "" ↔ later = [] := by
  rw [laterSections, Text.join_eq_empty_iff]
  cases later with
  | nil => simp
  | cons piece later =>
    refine iff_of_false (fun h => ?_) (List.cons_ne_nil _ _)
    have hbreak := (String.append_eq_empty_iff.mp (h _ List.mem_cons_self)).1
    exact absurd hbreak (by decide)

theorem live_unstreamed (sections : List String) :
    (Utterance.reasoning (.unstreamed sections)).live =
      (Utterance.reasoning (.unstreamed sections)).reloaded :=
  congrArg (spoken .thought) (String.append_empty)

/-- What an item that is streamed appends more when it comes. -/
theorem length_live_streamed (first : List ReasoningDelta)
    (later : List (AgentReasoningSectionBreakEvent × List ReasoningDelta)) :
    (Utterance.reasoning (.streamed first later)).live.length =
      (Utterance.reasoning (.streamed first later)).reloaded.length +
        (laterSections later).length := by
  simp only [Utterance.live, Utterance.reloaded, length_spoken, ReasoningItem.textOnce,
    ReasoningItem.laterTexts, ReasoningItem.reportedText, laterSections, String.length_append]
  omega

theorem spoken_eq_nil_iff (speaker : Speaker) (text : String) :
    [] = spoken speaker text ↔ text = "" := by
  rw [eq_comm, spoken, List.map_eq_nil_iff, String.toList_eq_nil_iff]

/-- **One utterance** appends when it comes what it does when it is loaded, if it is in one
section and no notice, -/
theorem reloaded_eq_live_iff (utterance : Utterance) :
    utterance.reloaded = utterance.live ↔ utterance.IsReloaded := by
  cases utterance with
  | message item => exact iff_of_true rfl trivial
  | question event => exact iff_of_true rfl trivial
  | notice notice => exact spoken_eq_nil_iff .message notice.text
  | reasoning item =>
    cases item with
    | unstreamed sections => exact iff_of_true (live_unstreamed sections).symm trivial
    | streamed first later =>
      have hlength := length_live_streamed first later
      constructor
      · intro h
        rw [h] at hlength
        exact (laterSections_eq_empty_iff later).mp (String.length_eq_zero_iff.mp (by omega))
      · intro h
        cases h
        exact (congrArg (spoken .thought) String.append_empty).symm

/-- and never less. -/
theorem length_reloaded_le (utterance : Utterance) :
    utterance.reloaded.length ≤ utterance.live.length := by
  cases utterance with
  | message item => exact Nat.le_refl _
  | question event => exact Nat.le_refl _
  | notice notice => exact Nat.zero_le _
  | reasoning item =>
    cases item with
    | unstreamed sections => rw [live_unstreamed]
    | streamed first later =>
      have hlength := length_live_streamed first later
      omega

/-- **A conversation**, loaded again. -/
theorem replayTranscript_eq (codex : Codex) {turns : List Turn} {history : List RolloutItem}
    (h : Records turns history) (a : ThreadActor) :
    replayTranscript (UserInput.inText codex) history a =
      turns.flatMap fun turn => turn.utterances.flatMap Utterance.reloaded := by
  unfold replayTranscript
  rw [handleReplayHistory_sent, List.drop_left, said_historyUpdates _ _ h.noRawContent, h.whole,
    List.flatMap_assoc]
  refine List.flatMap_congr fun turn _ => ?_
  have hwhole : turn.msgs.filter isWhole = (turn.msgs.filter isTextEvent).filter isWhole := by
    rw [List.filter_filter]
    refine List.filter_congr fun msg _ => ?_
    cases msg <;> rfl
  rw [hwhole, turn.wellFormed, List.filter_flatMap, List.flatMap_assoc]
  exact List.flatMap_congr fun utterance _ => said_of_events utterance

/-- **The transcript.** -/
theorem transcript_reloaded_iff (codex : Codex) {turns : List Turn} {history : List RolloutItem}
    (h : Records turns history) (a : ThreadActor) :
    replayTranscript (UserInput.inText codex) history a =
        turns.flatMap (fun turn =>
          liveTranscript (UserInput.inText codex) turn.submissionId turn.msgs) ↔
      ∀ turn ∈ turns, ∀ utterance ∈ turn.utterances, utterance.IsReloaded := by
  rw [replayTranscript_eq codex h a]
  simp only [liveTranscript_eq]
  rw [← List.flatMap_assoc, ← List.flatMap_assoc, Text.flatMap_eq_flatMap_iff length_reloaded_le]
  simp only [reloaded_eq_live_iff, List.mem_flatMap]
  constructor
  · intro hall turn hturn utterance hutterance
    exact hall utterance ⟨turn, hturn, hutterance⟩
  · rintro hall utterance ⟨turn, hturn, hutterance⟩
    exact hall turn hturn utterance hutterance

/-- For concrete runs: a thought that is streamed, an error of the stream, which is not shown,
and a message that is not streamed. -/
def sampleTurn : Turn where
  submissionId := "submission"
  msgs :=
    ReasoningItem.events (.streamed [.sample "Reading ", .sample "the tests."] []) ++
      [.streamError, .agentMessage { message := "Done.", phase := some .finalAnswer }]
  utterances :=
    [.reasoning (.streamed [.sample "Reading ", .sample "the tests."] []),
      .message
        { event := { message := "Done.", phase := some .finalAnswer }
          deltas := []
          complete := .inl rfl }]
  wellFormed := rfl

def sampleHistory : List RolloutItem :=
  [.stateOnly, .eventMsg (ReasoningItem.report "Reading the tests."),
    .eventMsg (.agentMessage { message := "Done.", phase := some .finalAnswer })]

/-- It is loaded as it was. -/
theorem transcript_reloaded_sample :
    replayTranscript (UserInput.inText Codex.sample) sampleHistory sampleActor =
      spoken .thought "Reading the tests." ++ spoken .message "Done." := by
  have hrecords : Records [sampleTurn] sampleHistory :=
    ⟨rfl, by simp [sampleHistory, ReasoningItem.report]⟩
  refine ((transcript_reloaded_iff Codex.sample hrecords sampleActor).mpr ?_).trans rfl
  intro turn hturn utterance hutterance
  cases List.mem_singleton.mp hturn
  rcases List.mem_cons.mp hutterance with rfl | hmessage
  · rfl
  · cases List.mem_singleton.mp hmessage
    trivial

end CodexAcp.Thread

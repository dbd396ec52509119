import CodexAcp.Lib.Segments
import CodexAcp.Thread.ShownCommands

/-!
# The terminal of a command

An editor that has terminals is told of one when a command begins, of what to write to
it while the command runs, and of its exit when the command ends. What it is told is in
the metadata of the tool call's updates.

> `terminal_segmented`: the terminal of a call is given, written to and closed, and only
> then given again, in any run in which the events of the call come in order.
-/

namespace CodexAcp.Thread

open CodexAcp.Lib CodexAcp.Protocol CodexAcp.Boundary CodexAcp.Boundary.Shown

open LiveTools

/-! ## What is said of terminals -/

/-- What the metadata of an update says under a key. -/
def terminalMember (key : String) (update : Shown.SessionUpdate) : Option Json :=
  update.metadata.bind fun metadata => Json.get metadata key

/-- It gives its tool call a terminal. -/
def opensTerminal (update : Shown.SessionUpdate) : Bool :=
  (terminalMember terminalInfoKey update).isSome

def writesTerminal (update : Shown.SessionUpdate) : Bool :=
  (terminalMember terminalOutputKey update).isSome

/-- It says that the program in the terminal has exited. -/
def closesTerminal (update : Shown.SessionUpdate) : Bool :=
  (terminalMember terminalExitKey update).isSome

def isTerminalNote (update : Shown.SessionUpdate) : Bool :=
  opensTerminal update || writesTerminal update || closesTerminal update

/-- The terminal an update names. -/
def terminalId (update : Shown.SessionUpdate) : Option String :=
  let member := (terminalMember terminalInfoKey update).or
    ((terminalMember terminalOutputKey update).or (terminalMember terminalExitKey update))
  member.bind fun value => value.asObject.bind fun members =>
    (Json.get members "terminal_id").bind Json.asStr

/-- What is said of the terminal of a call. -/
def terminalNotes (callId : String) (updates : List Shown.SessionUpdate) :
    List Shown.SessionUpdate :=
  (updatesOf callId updates).filter isTerminalNote

/-- How far a call has come. -/
inductive Phase where
  | idle
  | asked
  | running
  deriving DecidableEq, Repr

/-- How far an event brings a call, if it comes in order: a call is asked about before it begins,
and its output and its end come after that. What comes for a call that has ended is late. -/
def phase (callId : String) (p : Phase) : LiveEvent → Option Phase
  | .execApprovalRequest event _ =>
    if event.callId = callId then if p = .running then none else some .asked else some p
  | .execCommandBegin event _ =>
    if event.callId = callId then if p = .running then none else some .running else some p
  | .execCommandOutputDelta event _ =>
    if event.callId = callId then if p = .asked then none else some p else some p
  | .terminalInteraction event _ =>
    if event.callId = callId then if p = .asked then none else some p else some p
  | .execCommandEnd event _ =>
    if event.callId = callId then if p = .asked then none else some .idle else some p
  | _ => some p

/-- How far the events bring a call, if they come in order. -/
def phaseAfter (callId : String) (events : List LiveEvent) : Option Phase :=
  events.foldlM (phase callId) .idle

namespace LiveTools

variable {setting : Setting} {disk : FileSystem} {callId : String}

/-- A run with the notes of a call so far. -/
def TerminalAt (setting : Setting) (callId : String) (s : LiveTools)
    (notes : List Shown.SessionUpdate) : Phase → Prop
  | .idle => s.commands.lookup callId = none ∧ Segmented opensTerminal closesTerminal notes false
  | .asked => Segmented opensTerminal closesTerminal notes false
  | .running => ∃ command, s.commands.lookup callId = some command ∧
      Segmented opensTerminal closesTerminal notes (supportsTerminalOutput setting command)

theorem isTerminalNote_of_metadata_none {update : Shown.SessionUpdate}
    (h : update.metadata = none) : isTerminalNote update = false := by
  unfold isTerminalNote opensTerminal writesTerminal closesTerminal terminalMember
  rw [h]
  rfl

theorem isTerminalNote_statelessUpdates (display : Display) (event : LiveEvent) :
    ∀ update ∈ statelessUpdates display event, isTerminalNote update = false := by
  intro update hupdate
  cases event
  case patchApplyUpdated event disk =>
    obtain ⟨change, hchange, rfl⟩ := List.mem_map.mp hupdate
    rw [Option.mem_toList] at hchange
    unfold patchApplyUpdatedToolCallUpdate at hchange
    split at hchange
    · cases hchange
    · cases hchange
      rfl
  case patchApplyEnd event disk =>
    cases List.mem_singleton.mp hupdate
    unfold patchApplyEndToolCallUpdate
    dsimp only
    split <;> rfl
  case collab event =>
    cases List.mem_singleton.mp hupdate
    cases event <;> rfl
  case execApprovalRequest | execCommandBegin | execCommandOutputDelta | terminalInteraction
      | execCommandEnd | webSearchBegin | webSearchEnd | guardianAssessment | other =>
    exact absurd hupdate List.not_mem_nil
  all_goals
    cases List.mem_singleton.mp hupdate
    rfl

theorem metadata_guardianAssessment (shlexTryJoin : List String → Option String)
    (event : Guardian.GuardianAssessmentEvent) (active : Finset String) :
    (guardianAssessment shlexTryJoin event active).1.metadata = none := by
  obtain ⟨id, status, riskLevel, rationale, action, json⟩ := event
  unfold guardianAssessment Guardian.guardianAssessmentEffectPlan
  cases status
  all_goals
    dsimp only
    split <;> rfl

/-- The event begins a command, adds to its output or ends it. -/
def isCommandEvent : LiveEvent → Bool
  | .execCommandBegin _ _ | .execCommandOutputDelta _ _ | .terminalInteraction _ _
  | .execCommandEnd _ _ => true
  | _ => false

/-- Only commands have terminals. -/
theorem isTerminalNote_handleRouted {event : LiveEvent} (hcommand : isCommandEvent event = false)
    (s : LiveTools) : ∀ update ∈ (s.handleRouted setting event).1, isTerminalNote update = false := by
  intro update hupdate
  have hstateless := isTerminalNote_statelessUpdates setting.display event update
  cases event
  case guardianAssessment event =>
    cases List.mem_singleton.mp hupdate
    exact isTerminalNote_of_metadata_none (metadata_guardianAssessment ..)
  case webSearchBegin | webSearchEnd =>
    cases List.mem_singleton.mp hupdate
    rfl
  case execApprovalRequest => exact absurd hupdate List.not_mem_nil
  case execCommandBegin | execCommandOutputDelta | terminalInteraction | execCommandEnd =>
    cases hcommand
  all_goals exact hstateless hupdate

theorem terminalNotes_of_silent {updates : List Shown.SessionUpdate}
    (h : ∀ update ∈ updates, isTerminalNote update = false) :
    terminalNotes callId updates = [] := by
  refine List.filter_eq_nil_iff.mpr fun update hupdate hnote => ?_
  rw [h update (List.mem_of_mem_filter hupdate)] at hnote
  cases hnote

theorem terminalNotes_append (updates updates' : List Shown.SessionUpdate) :
    terminalNotes callId (updates ++ updates') =
      terminalNotes callId updates ++ terminalNotes callId updates' := by
  rw [terminalNotes, updatesOf_append, List.filter_append]
  rfl

/-- A command that begins is given a terminal, if it can have one. -/
theorem notes_beginPlan (setting : Setting) (disk : FileSystem) (event : ExecCommandBeginEvent) :
    let call : Shown.SessionUpdate := .toolCall (beginPlan setting disk event).toolCall
    let supports := supportsTerminalOutput setting (beginPlan setting disk event).activeCommand
    opensTerminal call = supports ∧ writesTerminal call = false ∧ closesTerminal call = false := by
  unfold beginPlan Shown.execCommandBeginPlan Shown.ActiveCommand.renderInitialContent
  dsimp only
  split
  next hsupports =>
    rw [hsupports]
    exact ⟨rfl, rfl, rfl⟩
  next hsupports =>
    rw [Bool.eq_false_of_not_eq_true hsupports]
    exact ⟨rfl, rfl, rfl⟩

/-- And it is closed when the command ends. -/
theorem notes_completionUpdate (setting : Setting) (disk : FileSystem)
    (event : ExecCommandEndEvent) (command : Shown.ActiveCommand) (supports : Bool) :
    let update : Shown.SessionUpdate := .toolCallUpdate
      (Shown.execCommandEndPlan setting.display.reader disk event command supports).completionUpdate
    opensTerminal update = false ∧ writesTerminal update = false ∧
      closesTerminal update = supports := by
  cases supports <;> exact ⟨rfl, rfl, rfl⟩

/-- What is written while a command runs, or when it ends, goes on with its terminal. -/
theorem segmented_written {notes : List Shown.SessionUpdate} {command : Shown.ActiveCommand}
    (h : Segmented opensTerminal closesTerminal notes (supportsTerminalOutput setting command))
    (pieces : List String) :
    Segmented opensTerminal closesTerminal
      (notes ++ ((written setting callId command pieces).map .toolCallUpdate).filter isTerminalNote)
      (supportsTerminalOutput setting command) := by
  unfold written
  split
  next hsupports =>
    rw [hsupports] at h ⊢
    refine h.append fun note hnote => ?_
    obtain ⟨update, hupdate, rfl⟩ := List.mem_map.mp (List.mem_of_mem_filter hnote)
    obtain ⟨data, -, rfl⟩ := List.mem_map.mp hupdate
    exact ⟨rfl, rfl⟩
  next =>
    rw [List.map_nil, List.filter_nil, List.append_nil]
    exact h

/-- The end of a command closes its terminal. -/
theorem segmented_ended {notes : List Shown.SessionUpdate} {command : Shown.ActiveCommand}
    (h : Segmented opensTerminal closesTerminal notes (supportsTerminalOutput setting command))
    {event : ExecCommandEndEvent} (hkey : command.toolCallId = event.callId) :
    Segmented opensTerminal closesTerminal
      (notes ++ ((ended setting disk event command).map .toolCallUpdate).filter isTerminalNote)
      false := by
  obtain ⟨hopens, hwrites, hcloses⟩ := notes_completionUpdate setting disk event command
    (supportsTerminalOutput setting command)
  have hdelta := @segmented_written setting event.callId _ _ h
    (command.recorded.completionTerminalOutputDelta (Shown.execCompletionOutputSnapshot
      event.formattedOutput command event.aggregatedOutput)).toList
  rw [ended_eq hkey, List.map_append, List.filter_append, ← List.append_assoc, List.map_singleton]
  cases hsupports : supportsTerminalOutput setting command with
  | true =>
    rw [hsupports] at hopens hwrites hcloses hdelta
    rw [List.filter_cons_of_pos (by unfold isTerminalNote; rw [hcloses, Bool.or_true]),
      List.filter_nil]
    have hclosed := hdelta.concat hopens
    rwa [hcloses] at hclosed
  | false =>
    rw [hsupports] at hopens hwrites hcloses hdelta
    rw [List.filter_cons_of_neg (by
      unfold isTerminalNote
      rw [hopens, hwrites, hcloses]
      exact Bool.false_ne_true), List.filter_nil, List.append_nil]
    exact hdelta

/-- The beginning of a command opens one. -/
theorem segmented_begun {notes : List Shown.SessionUpdate}
    (h : Segmented opensTerminal closesTerminal notes false) (event : ExecCommandBeginEvent) :
    Segmented opensTerminal closesTerminal
      (notes ++ [.toolCall (beginPlan setting disk event).toolCall].filter isTerminalNote)
      (supportsTerminalOutput setting (beginPlan setting disk event).activeCommand) := by
  obtain ⟨hopens, hwrites, hcloses⟩ := notes_beginPlan setting disk event
  cases hsupports : supportsTerminalOutput setting (beginPlan setting disk event).activeCommand with
  | true =>
    rw [hsupports] at hopens
    rw [List.filter_cons_of_pos (by unfold isTerminalNote; rw [hopens]; rfl), List.filter_nil]
    have hopen := h.concat hopens
    rwa [hcloses] at hopen
  | false =>
    rw [hsupports] at hopens
    rw [List.filter_cons_of_neg (by
      unfold isTerminalNote
      rw [hopens, hwrites, hcloses]
      exact Bool.false_ne_true), List.filter_nil, List.append_nil]
    exact h

/-! ## In order -/

theorem TerminalAt.segmented {s : LiveTools} {notes : List Shown.SessionUpdate} {p : Phase}
    (h : TerminalAt setting callId s notes p) (hp : p ≠ .running) :
    Segmented opensTerminal closesTerminal notes false := by
  cases p with
  | idle => exact h.2
  | asked => exact h
  | running => exact absurd rfl hp

theorem TerminalAt.of_lookup {s s' : LiveTools} {notes : List Shown.SessionUpdate} {p : Phase}
    (h : TerminalAt setting callId s notes p)
    (hlookup : s'.commands.lookup callId = s.commands.lookup callId) :
    TerminalAt setting callId s' notes p := by
  cases p with
  | idle => exact ⟨hlookup.trans h.1, h.2⟩
  | asked => exact h
  | running =>
    obtain ⟨command, hcommand, hnotes⟩ := h
    exact ⟨command, hlookup.trans hcommand, hnotes⟩

/-- A call stays where it is while the events are about other calls. -/
theorem phase_of_ne {event : LiveEvent} (h : eventCallId event ≠ some callId) (p : Phase) :
    phase callId p event = some p := by
  have hne : ∀ id, eventCallId event = some id → id ≠ callId := fun id hid heq => h (heq ▸ hid)
  cases event
  case execApprovalRequest | execCommandBegin | execCommandOutputDelta | terminalInteraction
      | execCommandEnd => exact if_neg (hne _ rfl)
  all_goals rfl

/-- Output comes for a command that runs, or for none. -/
theorem terminalAt_stream {s : LiveTools} (hs : s.Keyed) {notes : List Shown.SessionUpdate}
    {p p' : Phase} (h : TerminalAt setting callId s notes p)
    (hphase : (if p = .asked then none else some p) = some p') (data : String) :
    TerminalAt setting callId (s.streamActiveCommandOutput setting disk callId data).2
      (notes ++ terminalNotes callId (s.streamActiveCommandOutput setting disk callId data).1) p' := by
  obtain ⟨hp, hsame⟩ := Option.ite_none_left_eq_some.mp hphase
  cases hsame
  cases p with
  | idle =>
    have hnone : s.streamActiveCommandOutput setting disk callId data = ([], s) := by
      unfold streamActiveCommandOutput
      rw [h.1]
    rw [hnone, show terminalNotes callId [] = [] from rfl, List.append_nil]
    exact h
  | asked => exact absurd rfl hp
  | running =>
    obtain ⟨command, hcommand, hnotes⟩ := h
    obtain ⟨hupdates, hkept⟩ := @streamActiveCommandOutput_known setting disk callId s hs command
      hcommand data
    unfold terminalNotes
    rw [hupdates]
    exact ⟨_, hkept, segmented_written hnotes [data]⟩

/-- **One event** in order, by itself. -/
theorem terminalAt_handleRouted {s : LiveTools} (hs : s.Keyed) {notes : List Shown.SessionUpdate}
    {p p' : Phase} (h : TerminalAt setting callId s notes p) {event : LiveEvent}
    (hphase : phase callId p event = some p') :
    TerminalAt setting callId (s.handleRouted setting event).2
      (notes ++ terminalNotes callId (s.handleRouted setting event).1) p' := by
  by_cases hid : eventCallId event = some callId
  case neg =>
    cases (phase_of_ne hid p).symm.trans hphase
    have hnone : terminalNotes callId (s.handleRouted setting event).1 = [] := by
      rw [terminalNotes, updatesOf_handleRouted_of_ne hs hid, List.filter_nil]
    rw [hnone, List.append_nil]
    exact h.of_lookup (lookup_handleRouted hid s)
  have hsilent := @isTerminalNote_handleRouted setting event
  cases event
  case execApprovalRequest event disk =>
    cases hid
    rw [phase, if_pos rfl] at hphase
    obtain ⟨hp, hsame⟩ := Option.ite_none_left_eq_some.mp hphase
    cases hsame
    rw [terminalNotes_of_silent (hsilent rfl s), List.append_nil]
    exact h.segmented hp
  case execCommandBegin event disk =>
    cases hid
    rw [phase, if_pos rfl] at hphase
    obtain ⟨hp, hsame⟩ := Option.ite_none_left_eq_some.mp hphase
    cases hsame
    refine ⟨(beginPlan setting disk event).activeCommand, AList.lookup_insert _, ?_⟩
    have hnotes : terminalNotes event.callId [.toolCall (beginPlan setting disk event).toolCall] =
        [.toolCall (beginPlan setting disk event).toolCall].filter isTerminalNote :=
      congrArg (List.filter isTerminalNote) (updatesOf_toolCall rfl)
    show Segmented _ _ (notes ++ terminalNotes event.callId
      [.toolCall (beginPlan setting disk event).toolCall]) _
    rw [hnotes]
    exact segmented_begun (h.segmented hp) event
  case execCommandOutputDelta event disk =>
    cases hid
    rw [phase, if_pos rfl] at hphase
    exact terminalAt_stream hs h hphase _
  case terminalInteraction event disk =>
    cases hid
    rw [phase, if_pos rfl] at hphase
    exact terminalAt_stream hs h hphase _
  case execCommandEnd event disk =>
    cases hid
    rw [phase, if_pos rfl] at hphase
    obtain ⟨hp, hsame⟩ := Option.ite_none_left_eq_some.mp hphase
    cases hsame
    cases p with
    | idle =>
      have hnone : s.execCommandEnd setting event disk =
          ([], { s with commands := s.commands.erase event.callId }) := by
        unfold execCommandEnd removeActiveCommand
        rw [h.1]
      show TerminalAt _ _ (s.execCommandEnd setting event disk).2
        (notes ++ terminalNotes _ (s.execCommandEnd setting event disk).1) _
      rw [hnone]
      refine ⟨AList.lookup_erase _ _, ?_⟩
      rw [show terminalNotes event.callId [] = [] from rfl, List.append_nil]
      exact h.2
    | asked => exact absurd rfl hp
    | running =>
      obtain ⟨command, hcommand, hnotes⟩ := h
      obtain ⟨hupdates, hforgotten⟩ := @execCommandEnd_known setting disk s hs event command hcommand
      refine ⟨hforgotten, ?_⟩
      show Segmented _ _ (notes ++ terminalNotes _ (s.execCommandEnd setting event disk).1) _
      unfold terminalNotes
      rw [hupdates]
      exact segmented_ended hnotes (hs _ _ hcommand)
  all_goals
    cases hphase
    rw [terminalNotes_of_silent (hsilent rfl s), List.append_nil]
    exact h.of_lookup rfl

theorem isTerminalNote_completeBefore (event : EventMsg) (s : LiveTools) :
    ∀ update ∈ (s.completeBefore event).1, isTerminalNote update = false := by
  intro update hupdate
  unfold completeBefore at hupdate
  split at hupdate
  · obtain ⟨searchId, -, rfl⟩ := List.mem_map.mp hupdate
    rfl
  · exact absurd hupdate List.not_mem_nil

theorem terminalAt_handleLive {s : LiveTools} (hs : s.Keyed) {notes : List Shown.SessionUpdate}
    {p p' : Phase} (h : TerminalAt setting callId s notes p) {event : LiveEvent}
    (hphase : phase callId p event = some p') :
    TerminalAt setting callId (handleLive setting event s).2
      (notes ++ terminalNotes callId (handleLive setting event s).1) p' := by
  have hcompleted := isTerminalNote_completeBefore event.recorded s
  show TerminalAt _ _ _ (notes ++ terminalNotes callId ((s.completeBefore event.recorded).1 ++
    ((s.completeBefore event.recorded).2.handleRouted setting event).1)) _
  rw [terminalNotes_append, terminalNotes_of_silent hcompleted, List.nil_append]
  exact terminalAt_handleRouted (hs.completeBefore _)
    (h.of_lookup (congrArg (AList.lookup callId) (commands_completeBefore _ s))) hphase

/-- **A run** in order. -/
theorem terminalAt_final {s : LiveTools} (hs : s.Keyed) {notes : List Shown.SessionUpdate}
    {p p' : Phase} (h : TerminalAt setting callId s notes p) {events : List LiveEvent}
    (hphase : events.foldlM (phase callId) p = some p') :
    TerminalAt setting callId ((handleLive setting).final s events)
      (notes ++ terminalNotes callId (sent setting events s)) p' := by
  induction events generalizing s notes p with
  | nil =>
    cases hphase
    rw [show terminalNotes callId (sent setting [] s) = [] from rfl, List.append_nil]
    exact h
  | cons event events ih =>
    rw [List.foldlM_cons] at hphase
    obtain ⟨next, hnext, hphase⟩ := Option.bind_eq_some_iff.mp hphase
    rw [sent_cons, terminalNotes_append, ← List.append_assoc]
    exact ih (hs.handleLive event) (terminalAt_handleLive hs h hnext) hphase

/-! ## Whose terminal -/

/-- The notes name the terminal of their own call. -/
def NamesItself (update : Shown.SessionUpdate) : Prop :=
  isTerminalNote update = true → terminalId update = some update.callId

theorem namesItself_written (command : Shown.ActiveCommand) (pieces : List String) :
    ∀ update ∈ (written setting callId command pieces).map .toolCallUpdate,
      NamesItself update := by
  unfold written
  split
  · intro update hupdate
    obtain ⟨part, hpart, rfl⟩ := List.mem_map.mp hupdate
    obtain ⟨data, -, rfl⟩ := List.mem_map.mp hpart
    exact fun _ => rfl
  · exact List.forall_mem_nil _

theorem namesItself_beginPlan (event : ExecCommandBeginEvent) :
    NamesItself (.toolCall (beginPlan setting disk event).toolCall) := by
  intro hnote
  obtain ⟨hopens, hwrites, hcloses⟩ := notes_beginPlan setting disk event
  unfold isTerminalNote at hnote
  rw [hopens, hwrites, hcloses, Bool.or_false, Bool.or_false] at hnote
  unfold beginPlan Shown.execCommandBeginPlan Shown.ActiveCommand.renderInitialContent at hnote ⊢
  dsimp only at hnote ⊢
  rw [hnote]
  rfl

theorem namesItself_completionUpdate {event : ExecCommandEndEvent} {command : Shown.ActiveCommand}
    (hkey : command.toolCallId = event.callId) (supports : Bool) :
    NamesItself (.toolCallUpdate (Shown.execCommandEndPlan setting.display.reader disk event command
      supports).completionUpdate) := by
  cases supports with
  | true => exact fun _ => congrArg some hkey.symm
  | false =>
    intro hnote
    cases hnote

theorem namesItself_streamActiveCommandOutput {s : LiveTools} (hs : s.Keyed)
    (callId data : String) :
    ∀ update ∈ (s.streamActiveCommandOutput setting disk callId data).1, NamesItself update := by
  intro update hupdate
  have hid := callId_streamActiveCommandOutput hs callId data update hupdate
  cases hcommand : s.commands.lookup callId with
  | none =>
    unfold streamActiveCommandOutput at hupdate
    rw [hcommand] at hupdate
    exact absurd hupdate List.not_mem_nil
  | some command =>
    have hmine : update ∈ updatesOf callId (s.streamActiveCommandOutput setting disk callId data).1 :=
      List.mem_filter.mpr ⟨hupdate, decide_eq_true hid⟩
    rw [(streamActiveCommandOutput_known hs hcommand data).1] at hmine
    exact namesItself_written command [data] update hmine

theorem namesItself_execCommandEnd {s : LiveTools} (hs : s.Keyed) (event : ExecCommandEndEvent) :
    ∀ update ∈ (s.execCommandEnd setting event disk).1, NamesItself update := by
  intro update hupdate
  have hid := callId_execCommandEnd hs event update hupdate
  cases hcommand : s.commands.lookup event.callId with
  | none =>
    unfold execCommandEnd removeActiveCommand at hupdate
    rw [hcommand] at hupdate
    exact absurd hupdate List.not_mem_nil
  | some command =>
    have hkey := hs _ _ hcommand
    have hmine : update ∈ updatesOf event.callId (s.execCommandEnd setting event disk).1 :=
      List.mem_filter.mpr ⟨hupdate, decide_eq_true hid⟩
    rw [(execCommandEnd_known hs event hcommand).1, ended_eq hkey, List.map_append,
      List.mem_append] at hmine
    rcases hmine with hwritten | hcompletion
    · exact namesItself_written command _ update hwritten
    · rw [List.mem_singleton.mp hcompletion]
      exact namesItself_completionUpdate hkey _

theorem namesItself_handleRouted {s : LiveTools} (hs : s.Keyed) (event : LiveEvent) :
    ∀ update ∈ (s.handleRouted setting event).1, NamesItself update := by
  have hsilent : isCommandEvent event = false →
      ∀ update ∈ (s.handleRouted setting event).1, NamesItself update := by
    intro hcommand update hupdate hnote
    rw [isTerminalNote_handleRouted hcommand s update hupdate] at hnote
    cases hnote
  cases event
  case execCommandBegin event disk =>
    exact List.forall_mem_singleton.mpr (namesItself_beginPlan event)
  case execCommandOutputDelta event disk => exact namesItself_streamActiveCommandOutput hs _ _
  case terminalInteraction event disk => exact namesItself_streamActiveCommandOutput hs _ _
  case execCommandEnd event disk => exact namesItself_execCommandEnd hs event
  all_goals exact hsilent rfl

theorem namesItself_sent {s : LiveTools} (hs : s.Keyed) (events : List LiveEvent) :
    ∀ update ∈ sent setting events s, NamesItself update := by
  induction events generalizing s with
  | nil => exact List.forall_mem_nil _
  | cons event events ih =>
    rw [sent_cons]
    refine List.forall_mem_append.mpr ⟨?_, ih (hs.handleLive event)⟩
    refine List.forall_mem_append.mpr ⟨?_, namesItself_handleRouted (hs.completeBefore _) event⟩
    intro update hupdate hnote
    rw [isTerminalNote_completeBefore event.recorded s update hupdate] at hnote
    cases hnote

end LiveTools

end CodexAcp.Thread

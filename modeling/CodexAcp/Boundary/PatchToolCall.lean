import CodexAcp.Boundary.LiveToolCall
import CodexAcp.Lib.Sorted

/-!
# Tool calls of patches

A patch is a map from files to what changes in them. It is shown file by file, in
the order of the paths, whatever order the map lists its entries in; while it is
applied it may be reported again with other changes, and at the end once more.

The changes are a list of entries here, one for each path, in the order the source's map
happens to list them. What a file holds is asked of the disk as it is when the event comes.

> `extractToolCallContentFromChanges_perm`: the order of the map does not show.
> `changes_aligned`: each file has one location and one content, in one order.
-/

namespace CodexAcp.Boundary.Shown

open CodexAcp.Lib CodexAcp.Protocol CodexAcp.Boundary

/-- The changes of a patch, by file; no file is there twice. -/
structure FileChanges where
  entries : List (String × FileChange)
  distinct : (entries.map fun entry => Path.sortKey entry.1).Nodup

namespace FileChanges

def isEmpty (changes : FileChanges) : Bool := changes.entries.isEmpty

/-- The maps are equal, in whatever order they list their entries. -/
def Same (changes changes' : FileChanges) : Prop := changes.entries.Perm changes'.entries

/-- The entries in the order of the paths. -/
def sorted (changes : FileChanges) : List (String × FileChange) :=
  sortOn (fun entry => Path.sortKey entry.1) changes.entries

end FileChanges

/-- A moved file is where it is moved to. -/
def toolCallLocationForChange (path : String) (change : FileChange) : String :=
  match change with
  | .update _ (some movePath) => movePath
  | _ => path

/-- A few files are shown unfolded. -/
def maxDefaultOpenEditFiles : Nat := 3

/-! ## What an output says about itself -/

def codexAcpKey : String := "codex_acp"

def toolCallOutputDisplay (defaultOpen : Bool) (reason : String) : Json :=
  .object [("toolCallOutput", .object
    [("defaultOpen", .bool defaultOpen), ("initiallyFolded", .bool !defaultOpen),
      ("reason", .string reason)])]

def toolCallOutputDisplayMeta (defaultOpen : Bool) (reason : String) : Meta :=
  [(codexAcpKey, toolCallOutputDisplay defaultOpen reason)]

def patchEditOutputDisplayMeta (fileCount : Nat) : Meta :=
  let defaultOpen := decide (fileCount ≤ maxDefaultOpenEditFiles)
  toolCallOutputDisplayMeta defaultOpen (if defaultOpen then "smallFileEdit" else "manyFileEdits")

/-! ## Events

The raw value of a tool call is the `serde_json::json!` of an event, which is kept with it. -/

structure PatchApplyBeginEvent where
  callId : String
  changes : FileChanges
  json : Json := .null

structure PatchApplyUpdatedEvent where
  callId : String
  changes : FileChanges
  json : Json := .null

inductive PatchApplyStatus where
  | completed
  | failed
  | declined
  deriving DecidableEq, Repr

structure PatchApplyEndEvent where
  callId : String
  success : Bool
  changes : FileChanges
  status : PatchApplyStatus
  json : Json := .null

def patchApplyToolCallStatus (status : PatchApplyStatus) (success : Bool) : ToolCallStatus :=
  match status with
  | .completed => .completed
  | .failed | .declined => if success then .completed else .failed

section Files

variable (diffy : Diffy) (fs : FileSystem)

/-- The title, the locations and the contents. -/
def extractToolCallContentFromChanges (changes : FileChanges)
    (context : FileChangeRenderContext) : String × List String × List ToolCallContent :=
  let changes := changes.sorted
  let locations := changes.map fun (path, change) => toolCallLocationForChange path change
  let title := if changes.isEmpty then "Edit" else "Edit " ++ ", ".intercalate locations
  let content := changes.flatMap fun (path, change) =>
    extractToolCallContentFromChange diffy fs path change context
  (title, locations, content)

def patchApplyBeginToolCall (event : PatchApplyBeginEvent) : ToolCall :=
  let (title, locations, content) :=
    extractToolCallContentFromChanges diffy fs event.changes .beforeApply
  { callId := event.callId
    title := title
    kind := .edit
    status := .inProgress
    locations := locations
    content := content
    rawInput := some event.json
    metadata := some (patchEditOutputDisplayMeta locations.length) }

/-- A report of no changes shows nothing. -/
def patchApplyUpdatedToolCallUpdate (event : PatchApplyUpdatedEvent) : Option ToolCallUpdate :=
  if event.changes.isEmpty then none
  else
    let (title, locations, content) :=
      extractToolCallContentFromChanges diffy fs event.changes .beforeApply
    some
      { callId := event.callId
        kind := some .edit
        status := some .inProgress
        title := some title
        locations := some locations
        content := some content
        rawInput := some event.json
        metadata := some (patchEditOutputDisplayMeta locations.length) }

/-- What a patch that was applied reads from the disk is the new text. -/
def patchEndContext (status : ToolCallStatus) : FileChangeRenderContext :=
  if status = .completed then .afterApply else .beforeApply

def patchApplyEndToolCallUpdate (event : PatchApplyEndEvent) : ToolCallUpdate :=
  let status := patchApplyToolCallStatus event.status event.success
  if event.changes.isEmpty then
    { callId := event.callId, status := some status, rawOutput := some event.json }
  else
    let (title, locations, content) :=
      extractToolCallContentFromChanges diffy fs event.changes (patchEndContext status)
    { callId := event.callId
      status := some status
      title := some title
      locations := some locations
      content := some content
      rawOutput := some event.json
      metadata := some (patchEditOutputDisplayMeta locations.length) }

end Files

/-! ## File by file -/

section Files

variable {diffy : Diffy} {fs : FileSystem}

theorem FileChanges.Same.sorted_eq {changes changes' : FileChanges} (h : changes.Same changes') :
    changes.sorted = changes'.sorted :=
  sortOn_eq_of_perm _ h changes.distinct

theorem FileChanges.Same.isEmpty_eq {changes changes' : FileChanges} (h : changes.Same changes') :
    changes.isEmpty = changes'.isEmpty := by
  rw [Bool.eq_iff_iff, FileChanges.isEmpty, FileChanges.isEmpty, List.isEmpty_iff,
    List.isEmpty_iff]
  exact ⟨fun hnil => List.perm_nil.mp (hnil ▸ h.symm), fun hnil => List.perm_nil.mp (hnil ▸ h)⟩

/-- **The order of the map** does not show. -/
theorem extractToolCallContentFromChanges_perm {changes changes' : FileChanges}
    (h : changes.Same changes') (context : FileChangeRenderContext) :
    extractToolCallContentFromChanges diffy fs changes context =
      extractToolCallContentFromChanges diffy fs changes' context := by
  unfold extractToolCallContentFromChanges
  rw [h.sorted_eq]

/-- Nor does it in the tool calls, but for the raw values. -/
theorem FileChanges.Same.patchApplyBegin_eq {changes changes' : FileChanges}
    (h : changes.Same changes') (callId : String) (json json' : Json) :
    (patchApplyBeginToolCall diffy fs ⟨callId, changes, json⟩).withoutRaw =
      (patchApplyBeginToolCall diffy fs ⟨callId, changes', json'⟩).withoutRaw := by
  unfold patchApplyBeginToolCall
  dsimp only
  rw [extractToolCallContentFromChanges_perm h]
  rfl

theorem FileChanges.Same.patchApplyUpdated_eq {changes changes' : FileChanges}
    (h : changes.Same changes') (callId : String) (json json' : Json) :
    (patchApplyUpdatedToolCallUpdate diffy fs ⟨callId, changes, json⟩).map
        ToolCallUpdate.withoutRaw =
      (patchApplyUpdatedToolCallUpdate diffy fs ⟨callId, changes', json'⟩).map
        ToolCallUpdate.withoutRaw := by
  unfold patchApplyUpdatedToolCallUpdate
  dsimp only
  rw [extractToolCallContentFromChanges_perm h, h.isEmpty_eq]
  split <;> rfl

theorem FileChanges.Same.patchApplyEnd_eq {changes changes' : FileChanges}
    (h : changes.Same changes') (callId : String) (success : Bool) (status : PatchApplyStatus)
    (json json' : Json) :
    (patchApplyEndToolCallUpdate diffy fs ⟨callId, success, changes, status, json⟩).withoutRaw =
      (patchApplyEndToolCallUpdate diffy fs
        ⟨callId, success, changes', status, json'⟩).withoutRaw := by
  unfold patchApplyEndToolCallUpdate
  dsimp only
  rw [extractToolCallContentFromChanges_perm h, h.isEmpty_eq]
  split <;> rfl

/-- The content of one file: a diff at its location, or the patch as text. -/
def ShowsChange (path : String) (change : FileChange) (content : ToolCallContent) : Prop :=
  (∃ diff : Diff, content = .diff diff ∧ diff.path = toolCallLocationForChange path change) ∨
    ∃ unifiedDiff movePath, change = .update unifiedDiff movePath ∧
      content = toolCallTextContent unifiedDiff

theorem extractToolCallContentFromUnifiedDiff_shows (sourcePath displayPath unifiedDiff : String)
    (context : FileChangeRenderContext) :
    ∃ content, extractToolCallContentFromUnifiedDiff diffy fs sourcePath displayPath unifiedDiff
        context = [content] ∧
      ((∃ diff : Diff, content = .diff diff ∧ diff.path = displayPath) ∨
        content = toolCallTextContent unifiedDiff) := by
  unfold extractToolCallContentFromUnifiedDiff
  split
  next => exact ⟨_, rfl, .inr rfl⟩
  next patch =>
    split
    next diff hdiff =>
      refine ⟨_, rfl, .inl ⟨diff, rfl, ?_⟩⟩
      -- either way, the one text is read and the other one computed
      cases context
      all_goals
        obtain ⟨_, -, hdiff⟩ := Option.bind_eq_some_iff.mp hdiff
        obtain ⟨_, -, hdiff⟩ := Option.bind_eq_some_iff.mp hdiff
        cases hdiff
        rfl
    next => exact ⟨_, rfl, .inr rfl⟩

/-- One change has one content. -/
theorem extractToolCallContentFromChange_shows (path : String) (change : FileChange)
    (context : FileChangeRenderContext) :
    ∃ content, extractToolCallContentFromChange diffy fs path change context = [content] ∧
      ShowsChange path change content := by
  cases change with
  | add text => exact ⟨_, rfl, .inl ⟨_, rfl, rfl⟩⟩
  | delete text => exact ⟨_, rfl, .inl ⟨_, rfl, rfl⟩⟩
  | update unifiedDiff movePath =>
    obtain ⟨content, hcontent, hshows⟩ := @extractToolCallContentFromUnifiedDiff_shows
      diffy fs path (movePath.getD path) unifiedDiff context
    refine ⟨content, hcontent, ?_⟩
    rcases hshows with ⟨diff, rfl, hpath⟩ | rfl
    · refine .inl ⟨diff, rfl, hpath.trans ?_⟩
      cases movePath <;> rfl
    · exact .inr ⟨unifiedDiff, movePath, rfl, rfl⟩

/-- **Aligned.** The files, the locations and the contents correspond one to one. -/
theorem changes_aligned (changes : FileChanges) (context : FileChangeRenderContext) :
    let (_, locations, content) := extractToolCallContentFromChanges diffy fs changes context
    locations = changes.sorted.map (fun entry => toolCallLocationForChange entry.1 entry.2) ∧
      List.Forall₂ (fun entry content => ShowsChange entry.1 entry.2 content) changes.sorted
        content := by
  refine ⟨rfl, ?_⟩
  show List.Forall₂ _ changes.sorted (changes.sorted.flatMap fun entry =>
    extractToolCallContentFromChange diffy fs entry.1 entry.2 context)
  generalize changes.sorted = entries
  induction entries with
  | nil => exact .nil
  | cons entry entries ih =>
    obtain ⟨content, hcontent, hshows⟩ := @extractToolCallContentFromChange_shows
      diffy fs entry.1 entry.2 context
    rw [List.flatMap_cons, hcontent]
    exact .cons hshows ih

end Files

end CodexAcp.Boundary.Shown

import CodexAcp.Protocol.FileSystem
import CodexAcp.Protocol.Types
import Mathlib.Data.List.Forall2

/-!
# Diffs of files

The editor shows a change of a file as its text before and its text after. What
the adapter has is a patch, in the output of a command or in an update of Codex,
and the file on the disk, which is one of the two texts; the other one is computed
from it by applying the patch or its reverse.

> `snapshots_sound_iff`: the patch leads from the one text to the other, exactly
> if no deleted file is still on the disk with another text than the patch deletes.
-/

namespace CodexAcp.Boundary

open CodexAcp.Lib CodexAcp.Protocol

/-! ## Patches -/

/-- What a patch does to a file, with the paths as they are without their first component. -/
inductive FileOperation where
  | create (path : String)
  | delete (path : String)
  | modify (original modified : String)
  | rename (source target : String)
  | copy (source target : String)
  deriving DecidableEq, Repr

inductive PatchKind (Patch : Type) where
  | text (patch : Patch)
  | binary

structure FilePatch (Patch : Type) where
  patch : PatchKind Patch
  operation : FileOperation

/-- The library for patches. -/
structure Diffy where
  Patch : Type
  /-- `diffy::apply`. -/
  apply : String → Patch → Option String
  /-- `Patch::reverse`. -/
  reverse : Patch → Patch
  /-- `Patch::from_str`. -/
  fromStr : String → Option Patch
  /-- `PatchSet::parse` of the output of `git diff`. -/
  parseGitDiff : String → List (Option (FilePatch Patch))

/-- Applying a reversed patch is undone by the patch. -/
def Diffy.ReverseInverts (diffy : Diffy) : Prop :=
  ∀ patch text reversed, diffy.apply text (diffy.reverse patch) = some reversed →
    diffy.apply reversed patch = some text

/-! ## Contents -/

structure Diff where
  path : String
  oldText : Option String := none
  newText : String
  deriving DecidableEq, Repr

inductive ToolCallContent where
  | content (block : ContentBlock)
  | diff (diff : Diff)
  | terminal (terminalId : String)
  deriving DecidableEq, Repr

def ToolCallContent.isDiff : ToolCallContent → Bool
  | diff _ => true
  | _ => false

def toolCallTextContent (text : String) : ToolCallContent := .content (.text text)

inductive FileChange where
  | add (content : String)
  | delete (content : String)
  | update (unifiedDiff : String) (movePath : Option String)
  deriving DecidableEq, Repr

inductive FileChangeRenderContext where
  | beforeApply
  | afterApply
  deriving DecidableEq, Repr

def resolveCommandDiffPath (cwd path : String) : String :=
  if Path.isAbsolute path then path else Path.join cwd path

/-! ## Sections of a `rustfmt` diff -/

def rustfmtDiffPathFromHeader (line : String) : Option String := do
  let rest ← (Text.stripPrefix "Diff in " line).bind (Text.stripSuffix ":")
  let (path, lineNumber) ← Text.rsplitOnce ':' rest
  let _ ← Text.parseUnsigned 64 lineNumber
  some path

/-- A section that is not blank. -/
def closeSection (current : Option (String × String)) : List (String × String) :=
  (current.filter fun (_, patchText) => Text.trim patchText ≠ "").toList

def rustfmtDiffSectionsFrom (sections : List (String × String))
    (current : Option (String × String)) : List String → List (String × String)
  | [] => sections ++ closeSection current
  | line :: lines =>
    match rustfmtDiffPathFromHeader line with
    | some path =>
      rustfmtDiffSectionsFrom (sections ++ closeSection current) (some (path, "")) lines
    | none =>
      rustfmtDiffSectionsFrom sections
        (current.map fun (path, patchText) => (path, patchText ++ line ++ "\n")) lines

def rustfmtDiffSections (output : String) : List (String × String) :=
  rustfmtDiffSectionsFrom [] none (Text.lines output)

section Diffy

variable (diffy : Diffy) (fs : FileSystem)

/-! ## Diffs in the output of a command -/

def diffContentFromFilePatch (cwd : String) (filePatch : FilePatch diffy.Patch) : Option Diff :=
  match filePatch.patch with
  | .binary => none
  | .text patch =>
    match filePatch.operation with
    | .create path => do
      let newText ← diffy.apply "" patch
      some { path := resolveCommandDiffPath cwd path, newText }
    | .delete path => do
      let path := resolveCommandDiffPath cwd path
      let oldText ← (fs.readToString path).or (diffy.apply "" (diffy.reverse patch))
      some { path, oldText := some oldText, newText := "" }
    | .modify _ modified | .rename _ modified => do
      let path := resolveCommandDiffPath cwd modified
      let newText ← fs.readToString path
      let oldText ← diffy.apply newText (diffy.reverse patch)
      some { path, oldText := some oldText, newText }
    | .copy _ _ => none

/-- The patches of the output of `git diff`, if it is one and all of it can be read. -/
def gitDiffPatches (output : String) : Option (List (FilePatch diffy.Patch)) :=
  if (Text.lines output).any (Text.startsWith "diff --git ") then
    (diffy.parseGitDiff output).mapM id
  else none

def extractToolCallContentFromGitDiff (cwd output : String) : Option (List Diff) := do
  let patches ← gitDiffPatches diffy output
  let content ← patches.mapM (diffContentFromFilePatch diffy fs cwd)
  if content.isEmpty then none else some content

def rustfmtSectionDiff (cwd : String) (section' : String × String) : Option Diff := do
  let path := resolveCommandDiffPath cwd section'.1
  let oldText ← fs.readToString path
  let patch ← diffy.fromStr section'.2
  let newText ← diffy.apply oldText patch
  some { path, oldText := some oldText, newText }

def extractToolCallContentFromRustfmtDiff (cwd output : String) : Option (List Diff) :=
  let sections := rustfmtDiffSections output
  if sections.isEmpty then none
  else do
    let content ← sections.mapM (rustfmtSectionDiff diffy fs cwd)
    if content.isEmpty then none else some content

def extractToolCallContentFromCommandOutputDiff (cwd output : String) :
    Option (List ToolCallContent) :=
  ((extractToolCallContentFromGitDiff diffy fs cwd output).or
    (extractToolCallContentFromRustfmtDiff diffy fs cwd output)).map fun content =>
      content.map .diff

/-! ## Changes -/

def fullFileDiffFromPatch (sourcePath displayPath : String) (patch : diffy.Patch) :
    FileChangeRenderContext → Option Diff
  | .beforeApply => do
    let oldText ← fs.readToString sourcePath
    let newText ← diffy.apply oldText patch
    some { path := displayPath, oldText := some oldText, newText }
  | .afterApply => do
    let newText ← fs.readToString displayPath
    let oldText ← diffy.apply newText (diffy.reverse patch)
    some { path := displayPath, oldText := some oldText, newText }

/-- Without both texts, the patch is shown as it is. -/
def extractToolCallContentFromUnifiedDiff (sourcePath displayPath unifiedDiff : String)
    (context : FileChangeRenderContext) : List ToolCallContent :=
  match diffy.fromStr unifiedDiff with
  | none => [toolCallTextContent unifiedDiff]
  | some patch =>
    match fullFileDiffFromPatch diffy fs sourcePath displayPath patch context with
    | some diff => [.diff diff]
    | none => [toolCallTextContent unifiedDiff]

def extractToolCallContentFromChange (path : String) (change : FileChange)
    (context : FileChangeRenderContext) : List ToolCallContent :=
  match change with
  | .add content => [.diff { path, newText := content }]
  | .delete content =>
    let oldText := if content = "" then (fs.readToString path).getD content else content
    [.diff { path, oldText := some oldText, newText := "" }]
  | .update unifiedDiff movePath =>
    extractToolCallContentFromUnifiedDiff diffy fs path (movePath.getD path) unifiedDiff context

/-! ## Sound snapshots -/

/-- The patch leads from the old text to the new one; a created file has no old text. -/
def Connects (patch : diffy.Patch) (diff : Diff) : Prop :=
  diffy.apply (diff.oldText.getD "") patch = some diff.newText

/-- The diff of a file: its patch connects the two texts, of which a created or a deleted file
has one. -/
def FilePatchSound (filePatch : FilePatch diffy.Patch) (diff : Diff) : Prop :=
  ∃ patch, filePatch.patch = .text patch ∧ Connects diffy patch diff ∧
    match filePatch.operation with
    | .create _ => diff.oldText.getD "" = ""
    | .delete _ => diff.newText = ""
    | _ => True

/-- The diffs of a `git diff`, of a `rustfmt` diff and of an update are sound. -/
structure SnapshotsSound (cwd output path unifiedDiff : String) (movePath : Option String)
    (context : FileChangeRenderContext) : Prop where
  gitDiff : ∀ diffs, extractToolCallContentFromGitDiff diffy fs cwd output = some diffs →
    ∃ patches, gitDiffPatches diffy output = some patches ∧
      List.Forall₂ (FilePatchSound diffy) patches diffs
  rustfmt : ∀ diffs, extractToolCallContentFromRustfmtDiff diffy fs cwd output = some diffs →
    List.Forall₂ (fun section' diff => ∃ patch, diffy.fromStr section'.2 = some patch ∧
      Connects diffy patch diff) (rustfmtDiffSections output) diffs
  update : ∀ diff, ToolCallContent.diff diff ∈
      extractToolCallContentFromChange diffy fs path (.update unifiedDiff movePath) context →
    ∃ patch, diffy.fromStr unifiedDiff = some patch ∧ Connects diffy patch diff

/-- Both texts of the file can be had. -/
def HasSnapshot (cwd : String) (filePatch : FilePatch diffy.Patch) : Prop :=
  ∃ patch, filePatch.patch = .text patch ∧
    match filePatch.operation with
    | .create _ => (diffy.apply "" patch).isSome = true
    | .delete path =>
      (fs.readToString (resolveCommandDiffPath cwd path)).isSome = true ∨
        (diffy.apply "" (diffy.reverse patch)).isSome = true
    | .modify _ modified | .rename _ modified =>
      ∃ newText, fs.readToString (resolveCommandDiffPath cwd modified) = some newText ∧
        (diffy.apply newText (diffy.reverse patch)).isSome = true
    | .copy _ _ => False

/-- Where the patch deletes a file, what is on the disk in its place is the text it deletes. -/
def DeletesDisk (cwd : String) (filePatch : FilePatch diffy.Patch) : Prop :=
  ∀ path patch text, filePatch.operation = .delete path → filePatch.patch = .text patch →
    fs.readToString (resolveCommandDiffPath cwd path) = some text → diffy.apply text patch = some ""

variable {diffy fs}

/-! ## One patch -/

theorem hasSnapshot_iff {cwd : String} {filePatch : FilePatch diffy.Patch} :
    HasSnapshot diffy fs cwd filePatch ↔
      ∃ diff, diffContentFromFilePatch diffy fs cwd filePatch = some diff := by
  obtain ⟨kind, operation⟩ := filePatch
  unfold HasSnapshot diffContentFromFilePatch
  cases kind with
  | binary => simp
  | text patch =>
    cases operation with
    | create path => cases hnew : diffy.apply "" patch <;> simp [hnew]
    | delete path =>
      cases hold : fs.readToString (resolveCommandDiffPath cwd path) <;>
        cases hreversed : diffy.apply "" (diffy.reverse patch) <;> simp [hold, hreversed]
    | modify _ modified | rename _ modified =>
      cases hnew : fs.readToString (resolveCommandDiffPath cwd modified) with
      | none => simp [hnew]
      | some newText =>
        cases hold : diffy.apply newText (diffy.reverse patch) <;> simp [hnew, hold]
    | copy source target => simp

/-- A computed text is connected with the one on the disk; only of a deleted file both texts
are given. -/
theorem filePatchSound_iff (hinverts : diffy.ReverseInverts) {cwd : String}
    {filePatch : FilePatch diffy.Patch} {diff : Diff}
    (h : diffContentFromFilePatch diffy fs cwd filePatch = some diff) :
    FilePatchSound diffy filePatch diff ↔ DeletesDisk diffy fs cwd filePatch := by
  obtain ⟨kind, operation⟩ := filePatch
  unfold diffContentFromFilePatch at h
  cases kind with
  | binary => exact absurd h nofun
  | text patch =>
    dsimp only at h
    cases operation with
    | create path =>
      obtain ⟨newText, hnew, hdiff⟩ := Option.bind_eq_some_iff.mp h
      cases hdiff
      exact ⟨fun _ => nofun, fun _ => ⟨patch, rfl, hnew, rfl⟩⟩
    | delete path =>
      obtain ⟨oldText, hold, hdiff⟩ := Option.bind_eq_some_iff.mp h
      cases hdiff
      cases hdisk : fs.readToString (resolveCommandDiffPath cwd path) with
      | none =>
        -- the old text was computed, and the patch deletes it
        rw [hdisk, Option.none_or] at hold
        refine ⟨fun _ path' patch' text hpath _ htext => ?_,
          fun _ => ⟨patch, rfl, hinverts _ _ _ hold, rfl⟩⟩
        cases hpath
        exact absurd (hdisk.symm.trans htext) nofun
      | some text =>
        rw [hdisk, Option.some_or] at hold
        cases hold
        constructor
        · rintro ⟨patch', hpatch, hconnects, -⟩ path' patch'' text' hpath hpatch' htext
          cases hpath
          cases hpatch
          cases hpatch'
          cases hdisk.symm.trans htext
          exact hconnects
        · intro h
          exact ⟨patch, rfl, h path patch oldText rfl rfl hdisk, rfl⟩
    | modify _ modified | rename _ modified =>
      obtain ⟨newText, -, hrest⟩ := Option.bind_eq_some_iff.mp h
      obtain ⟨oldText, hold, hdiff⟩ := Option.bind_eq_some_iff.mp hrest
      cases hdiff
      exact ⟨fun _ => nofun, fun _ => ⟨patch, rfl, hinverts _ _ _ hold, trivial⟩⟩
    | copy source target => exact absurd h nofun

/-! ## Outputs and updates -/

/-- The results of a list that all are there. -/
theorem mapM_eq_some_iff {α β : Type} {f : α → Option β} {items : List α} {results : List β} :
    items.mapM f = some results ↔ List.Forall₂ (fun item r => f item = some r) items results := by
  induction items generalizing results with
  | nil =>
    rw [List.mapM_nil, List.forall₂_nil_left_iff]
    exact ⟨fun h => (Option.some.inj h).symm, fun h => h ▸ rfl⟩
  | cons item items ih =>
    rw [List.mapM_cons, List.forall₂_cons_left_iff]
    simp only [Option.bind_eq_bind, Option.bind_eq_some_iff, ih]
    constructor
    · rintro ⟨r, hr, rs, hrs, hresults⟩
      exact ⟨r, rs, hr, hrs, (Option.some.inj hresults).symm⟩
    · rintro ⟨r, rs, hr, hrs, rfl⟩
      exact ⟨r, hr, rs, hrs, rfl⟩

theorem exists_forall₂_iff {α β : Type} {r : α → β → Prop} {items : List α} :
    (∃ results, List.Forall₂ r items results) ↔ ∀ item ∈ items, ∃ result, r item result := by
  induction items with
  | nil => exact ⟨fun _ => nofun, fun _ => ⟨[], .nil⟩⟩
  | cons item items ih =>
    simp only [List.forall_mem_cons, ← ih, List.forall₂_cons_left_iff]
    constructor
    · rintro ⟨_, result, results, hresult, hresults, -⟩
      exact ⟨⟨result, hresult⟩, results, hresults⟩
    · rintro ⟨⟨result, hresult⟩, results, hresults⟩
      exact ⟨_, result, results, hresult, hresults, rfl⟩

/-- Diffs are sound patch by patch. -/
theorem forall₂_sound_iff (hinverts : diffy.ReverseInverts) {cwd : String}
    {patches : List (FilePatch diffy.Patch)} {diffs : List Diff}
    (h : List.Forall₂ (fun filePatch diff =>
      diffContentFromFilePatch diffy fs cwd filePatch = some diff) patches diffs) :
    List.Forall₂ (FilePatchSound diffy) patches diffs ↔
      ∀ filePatch ∈ patches, DeletesDisk diffy fs cwd filePatch := by
  induction h with
  | nil => exact ⟨fun _ => nofun, fun _ => .nil⟩
  | cons hdiff _ ih =>
    rw [List.forall₂_cons, List.forall_mem_cons, filePatchSound_iff hinverts hdiff, ih]

/-- A `git diff` is shown with the diffs of its patches. -/
theorem extractToolCallContentFromGitDiff_eq_some_iff {cwd output : String} {diffs : List Diff} :
    extractToolCallContentFromGitDiff diffy fs cwd output = some diffs ↔
      diffs ≠ [] ∧ ∃ patches, gitDiffPatches diffy output = some patches ∧
        List.Forall₂ (fun filePatch diff =>
          diffContentFromFilePatch diffy fs cwd filePatch = some diff) patches diffs := by
  unfold extractToolCallContentFromGitDiff
  simp only [Option.bind_eq_bind, Option.bind_eq_some_iff, mapM_eq_some_iff,
    List.isEmpty_iff, Option.ite_none_left_eq_some, Option.some.injEq]
  constructor
  · rintro ⟨patches, hpatches, content, hcontent, hne, rfl⟩
    exact ⟨hne, patches, hpatches, hcontent⟩
  · rintro ⟨hne, patches, hpatches, hcontent⟩
    exact ⟨patches, hpatches, diffs, hcontent, hne, rfl⟩

theorem gitDiff_sound_iff (hinverts : diffy.ReverseInverts) (cwd output : String) :
    (∀ diffs, extractToolCallContentFromGitDiff diffy fs cwd output = some diffs →
      ∃ patches, gitDiffPatches diffy output = some patches ∧
        List.Forall₂ (FilePatchSound diffy) patches diffs) ↔
      ∀ patches, gitDiffPatches diffy output = some patches →
        (∀ filePatch ∈ patches, HasSnapshot diffy fs cwd filePatch) →
        ∀ filePatch ∈ patches, DeletesDisk diffy fs cwd filePatch := by
  constructor
  · intro h patches hpatches hsnapshots filePatch hmem
    obtain ⟨diffs, hcontent⟩ := exists_forall₂_iff.mpr fun filePatch hmem =>
      hasSnapshot_iff.mp (hsnapshots filePatch hmem)
    have hne : diffs ≠ [] := by
      rintro rfl
      cases hcontent
      exact absurd hmem List.not_mem_nil
    obtain ⟨patches', hpatches', hsound⟩ :=
      h diffs (extractToolCallContentFromGitDiff_eq_some_iff.mpr ⟨hne, patches, hpatches, hcontent⟩)
    cases hpatches.symm.trans hpatches'
    exact (forall₂_sound_iff hinverts hcontent).mp hsound filePatch hmem
  · intro h diffs hdiffs
    obtain ⟨-, patches, hpatches, hcontent⟩ :=
      extractToolCallContentFromGitDiff_eq_some_iff.mp hdiffs
    refine ⟨patches, hpatches, (forall₂_sound_iff hinverts hcontent).mpr (h patches hpatches ?_)⟩
    intro filePatch hmem
    exact hasSnapshot_iff.mpr (exists_forall₂_iff.mp ⟨diffs, hcontent⟩ filePatch hmem)

/-- The text before and the text after of a section of a `rustfmt` diff. -/
theorem rustfmtSectionDiff_connects {cwd : String} {section' : String × String} {diff : Diff}
    (h : rustfmtSectionDiff diffy fs cwd section' = some diff) :
    ∃ patch, diffy.fromStr section'.2 = some patch ∧ Connects diffy patch diff := by
  obtain ⟨oldText, -, h⟩ := Option.bind_eq_some_iff.mp h
  obtain ⟨patch, hpatch, h⟩ := Option.bind_eq_some_iff.mp h
  obtain ⟨newText, hnew, h⟩ := Option.bind_eq_some_iff.mp h
  cases h
  exact ⟨patch, hpatch, hnew⟩

theorem rustfmt_sound {cwd output : String} {diffs : List Diff}
    (h : extractToolCallContentFromRustfmtDiff diffy fs cwd output = some diffs) :
    List.Forall₂ (fun section' diff => ∃ patch, diffy.fromStr section'.2 = some patch ∧
      Connects diffy patch diff) (rustfmtDiffSections output) diffs := by
  unfold extractToolCallContentFromRustfmtDiff at h
  simp only [Option.ite_none_left_eq_some, Option.bind_eq_bind, Option.bind_eq_some_iff,
    mapM_eq_some_iff, Option.some.injEq] at h
  obtain ⟨-, content, hcontent, -, rfl⟩ := h
  exact hcontent.imp fun _ _ => rustfmtSectionDiff_connects

theorem fullFileDiffFromPatch_connects (hinverts : diffy.ReverseInverts)
    {sourcePath displayPath : String} {patch : diffy.Patch} {context : FileChangeRenderContext}
    {diff : Diff}
    (h : fullFileDiffFromPatch diffy fs sourcePath displayPath patch context = some diff) :
    Connects diffy patch diff := by
  cases context with
  | beforeApply =>
    obtain ⟨oldText, -, h⟩ := Option.bind_eq_some_iff.mp h
    obtain ⟨newText, hnew, h⟩ := Option.bind_eq_some_iff.mp h
    cases h
    exact hnew
  | afterApply =>
    obtain ⟨newText, -, h⟩ := Option.bind_eq_some_iff.mp h
    obtain ⟨oldText, hold, h⟩ := Option.bind_eq_some_iff.mp h
    cases h
    exact hinverts _ _ _ hold

theorem update_sound (hinverts : diffy.ReverseInverts) {path unifiedDiff : String}
    {movePath : Option String} {context : FileChangeRenderContext} {diff : Diff}
    (h : ToolCallContent.diff diff ∈
      extractToolCallContentFromChange diffy fs path (.update unifiedDiff movePath) context) :
    ∃ patch, diffy.fromStr unifiedDiff = some patch ∧ Connects diffy patch diff := by
  unfold extractToolCallContentFromChange extractToolCallContentFromUnifiedDiff at h
  dsimp only at h
  cases hpatch : diffy.fromStr unifiedDiff with
  | none => simp [hpatch, toolCallTextContent] at h
  | some patch =>
    rw [hpatch] at h
    dsimp only at h
    refine ⟨patch, rfl, ?_⟩
    cases hdiff : fullFileDiffFromPatch diffy fs path (movePath.getD path) patch context with
    | none => simp [hdiff, toolCallTextContent] at h
    | some shown =>
      rw [hdiff, List.mem_singleton] at h
      cases h
      exact fullFileDiffFromPatch_connects hinverts hdiff

end Diffy

/-- **Snapshots.** The texts of a diff are connected by its patch, exactly if in a `git diff`
that is shown no deleted file is still on the disk with another text. -/
theorem snapshots_sound_iff (diffy : Diffy) (hinverts : diffy.ReverseInverts) (fs : FileSystem)
    (cwd output path unifiedDiff : String) (movePath : Option String)
    (context : FileChangeRenderContext) :
    SnapshotsSound diffy fs cwd output path unifiedDiff movePath context ↔
      ∀ patches, gitDiffPatches diffy output = some patches →
        (∀ filePatch ∈ patches, HasSnapshot diffy fs cwd filePatch) →
        ∀ filePatch ∈ patches, DeletesDisk diffy fs cwd filePatch := by
  rw [← gitDiff_sound_iff hinverts]
  exact ⟨fun h => h.gitDiff,
    fun h => ⟨h, fun _ => rustfmt_sound, fun _ => update_sound hinverts⟩⟩

/-- `git diff` after `notes.txt` was deleted. -/
def deletedNotes : String :=
  "diff --git a/notes.txt b/notes.txt\ndeleted file mode 100644\n--- a/notes.txt\n" ++
    "+++ /dev/null\n@@ -1 +0,0 @@\n-old\n"

/-- Patches of whole files, and what is read of that output. -/
def wholeFiles : Diffy where
  Patch := String × String
  apply text patch := if text = patch.1 then some patch.2 else none
  reverse patch := (patch.2, patch.1)
  fromStr _ := none
  parseGitDiff output :=
    if output = deletedNotes then [some ⟨.text ("old\n", ""), .delete "notes.txt"⟩] else []

theorem wholeFiles_reverseInverts : wholeFiles.ReverseInverts := by
  rintro ⟨old, new⟩ text reversed h
  change (if text = new then some old else none) = some reversed at h
  split at h
  next htext =>
    cases h
    exact (if_pos rfl).trans (congrArg some htext.symm)
  next => exact absurd h nofun

theorem gitDiffPatches_deletedNotes :
    gitDiffPatches wholeFiles deletedNotes =
      some [⟨.text ("old\n", ""), .delete "notes.txt"⟩] := by
  rfl

theorem snapshots_sound_deletedNotes :
    SnapshotsSound wholeFiles (.ofFiles []) "/work" deletedNotes "" "" none .beforeApply := by
  refine (snapshots_sound_iff wholeFiles wholeFiles_reverseInverts _ _ _ _ _ _ _).mpr ?_
  intro patches hpatches _ filePatch hmem path patch text _ _ htext
  rw [FileSystem.readToString_ofFiles] at htext
  exact absurd htext nofun

/-- The file was deleted, and is there again with another text. -/
theorem deleted_file_on_disk :
    ¬ SnapshotsSound wholeFiles (.ofFiles [("/work/notes.txt", "new\n")]) "/work" deletedNotes "" ""
      none .beforeApply := by
  intro h
  have hread : (FileSystem.ofFiles [("/work/notes.txt", "new\n")]).readToString
      (resolveCommandDiffPath "/work" "notes.txt") = some "new\n" := by
    rw [FileSystem.readToString_ofFiles]
    decide
  have hshown : extractToolCallContentFromGitDiff wholeFiles
      (.ofFiles [("/work/notes.txt", "new\n")]) "/work" deletedNotes =
      some [{ path := "/work/notes.txt", oldText := some "new\n", newText := "" }] := by
    refine extractToolCallContentFromGitDiff_eq_some_iff.mpr
      ⟨List.cons_ne_nil _ _, _, gitDiffPatches_deletedNotes, .cons ?_ .nil⟩
    unfold diffContentFromFilePatch
    dsimp only
    rw [hread]
    rfl
  obtain ⟨patches, hpatches, hsound⟩ := h.gitDiff _ hshown
  cases gitDiffPatches_deletedNotes.symm.trans hpatches
  cases hsound with
  | cons hfirst _ =>
    obtain ⟨patch, hpatch, hconnects, -⟩ := hfirst
    cases hpatch
    exact absurd hconnects (by unfold Connects wholeFiles; decide)

end CodexAcp.Boundary

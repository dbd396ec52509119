import CodexAcp.Protocol.FileSystem
import CodexAcp.Thread.SlashCommands

/-!
# The items of a prompt

The blocks of a prompt become items, texts and images. What the user typed is an
item as it is; a resource is named by a link, with its text after it, or with a
note in place of what is binary. An image that is referred to by a `file` URI is
read from the disk, if it is below the session root.

> `promptItems_confined`: no file outside the root changes an item.
> `promptSubmissionForItems_untyped`: what names no command goes to Codex as it is.
> `typedCommands_iff`: a slash command comes from typed text only, unless the
> first resource is named by its bare URI and the URI looks like a command.
-/

namespace CodexAcp.Thread

open CodexAcp.Lib CodexAcp.Protocol

/-! ## Resources -/

def isImageMimeType (mimeType : String) : Bool :=
  Text.startsWith "image/" (Text.toAsciiLowercase mimeType)

/-- The Unicode category of control characters. -/
def isControl (c : Char) : Bool := c.toNat ≤ 0x1F || (0x7F ≤ c.toNat && c.toNat ≤ 0x9F)

def isSuspicious (c : Char) : Bool :=
  c = '\x00' || c = Char.ofNat 0xFFFD || (isControl c && !(c = '\n' || c = '\r' || c = '\t'))

/-- More than one in twenty of the first characters belongs in no text. -/
def textLooksBinary (text : String) : Bool :=
  let sample := text.toList.take 4096
  sample.length > 0 && (sample.countP isSuspicious) * 20 > sample.length

/-- What follows the last slash. -/
def lastSegment (text : String) : String := (Text.split '/' text).getLast?.getD text

def formatUriAsLink (name : Option String) (uri : String) : String :=
  match name.filter (· ≠ "") with
  | some name => "[@" ++ name ++ "](" ++ uri ++ ")"
  | none =>
    match Text.stripPrefix "file://" uri with
    | some path => "[@" ++ lastSegment path ++ "](" ++ uri ++ ")"
    | none =>
      if Text.startsWith "zed://" uri then "[@" ++ lastSegment uri ++ "](" ++ uri ++ ")"
      -- Any other URI stands for itself, with nothing before it.
      else uri

def describedMimeType (mimeType : Option String) : String :=
  (mimeType.filter (Text.trim · ≠ "")).getD "unknown MIME type"

def omittedResourceMarker (uri : String) (mimeType : Option String) (reason : String) : UserInput :=
  .text (formatUriAsLink none uri ++ "\n[" ++ reason ++ ": " ++ describedMimeType mimeType ++ "]")

section FileSystem

variable (fs : FileSystem) (encodeBase64 : List UInt8 → String)

/-- The image a `file` URI refers to, if it is below the root. -/
def fileUriToImageDataUrl (uri mimeType : String) (fileResourceRoot : Option String) :
    Option String := do
  let fileResourceRoot ← fileResourceRoot
  let path ← Text.stripPrefix "file://" uri
  let path ← fs.canonicalize path
  if Path.startsWith fileResourceRoot path then
    let bytes ← fs.read path
    some ("data:" ++ mimeType ++ ";base64," ++ encodeBase64 bytes)
  else none

def textResourceToUserInput (text : String) (mimeType : Option String) (uri : String)
    (fileResourceRoot : Option String) : UserInput :=
  match mimeType.filter isImageMimeType with
  | some imageType =>
    match fileUriToImageDataUrl fs encodeBase64 uri imageType fileResourceRoot with
    | some imageUrl => .image imageUrl
    | none => omittedResourceMarker uri (some imageType) "Image resource omitted"
  | none =>
    if textLooksBinary text then
      omittedResourceMarker uri mimeType "Binary-looking text resource omitted"
    else
      .text (formatUriAsLink none uri ++ "\n<context ref=\"" ++ uri ++ "\">\n" ++ text ++
        "\n</context>")

def blobResourceToUserInput (blob : String) (mimeType : Option String) (uri : String) : UserInput :=
  match mimeType.filter isImageMimeType with
  | some imageType => .image ("data:" ++ imageType ++ ";base64," ++ blob)
  | none => omittedResourceMarker uri mimeType "Binary resource omitted"

/-- The item of a block, with the root in its canonical form. -/
def blockItem (fileResourceRoot : Option String) : ContentBlock → Option UserInput
  | .text text => some (.text text)
  | .image mimeType data => some (.image ("data:" ++ mimeType ++ ";base64," ++ data))
  | .resourceLink name uri => some (.text (formatUriAsLink (some name) uri))
  | .textResource text mimeType uri =>
    some (textResourceToUserInput fs encodeBase64 text mimeType uri fileResourceRoot)
  | .blobResource blob mimeType uri => some (blobResourceToUserInput blob mimeType uri)
  | .other => none

def buildPromptItems (prompt : List ContentBlock) (fileResourceRoot : Option String) :
    List UserInput :=
  prompt.filterMap (blockItem fs encodeBase64 (fileResourceRoot.bind fs.canonicalize))

end FileSystem

/-! ## Files outside the root -/

/-- Two file systems with the same paths and, below the root, the same files. -/
structure AgreeBelow (root : Option String) (fs fs' : FileSystem) : Prop where
  paths : ∀ path, fs.canonicalize path = fs'.canonicalize path
  files : ∀ base, root.bind fs.canonicalize = some base →
    ∀ path, Path.startsWith base path = true → fs.read path = fs'.read path

section Confined

variable {fs fs' : FileSystem} {root : Option String}

/-- An image that is read is below the root, so it is the same one. -/
theorem fileUriToImageDataUrl_confined (encodeBase64 : List UInt8 → String)
    (h : AgreeBelow root fs fs') (uri mimeType : String) :
    fileUriToImageDataUrl fs encodeBase64 uri mimeType (root.bind fs.canonicalize) =
      fileUriToImageDataUrl fs' encodeBase64 uri mimeType (root.bind fs.canonicalize) := by
  unfold fileUriToImageDataUrl
  cases hroot : root.bind fs.canonicalize with
  | none => rfl
  | some base =>
    dsimp only [Option.bind_eq_bind, Option.bind_some]
    cases Text.stripPrefix "file://" uri with
    | none => rfl
    | some path =>
      dsimp only [Option.bind_some]
      rw [← h.paths path]
      cases fs.canonicalize path with
      | none => rfl
      | some path =>
        dsimp only [Option.bind_some]
        by_cases hbelow : Path.startsWith base path = true
        · rw [if_pos hbelow, if_pos hbelow, h.files base hroot path hbelow]
        · rw [if_neg hbelow, if_neg hbelow]

theorem blockItem_confined (encodeBase64 : List UInt8 → String) (h : AgreeBelow root fs fs')
    (block : ContentBlock) :
    blockItem fs encodeBase64 (root.bind fs.canonicalize) block =
      blockItem fs' encodeBase64 (root.bind fs.canonicalize) block := by
  cases block with
  | textResource text mimeType uri =>
    unfold blockItem textResourceToUserInput
    simp only [fileUriToImageDataUrl_confined encodeBase64 h]
  | _ => rfl

/-- **Confinement.** Two file systems that agree on the paths and on the files below the
root give the same items; without a root no file is read. -/
theorem promptItems_confined (encodeBase64 : List UInt8 → String) (prompt : List ContentBlock)
    (root : Option String) (fs fs' : FileSystem) (h : AgreeBelow root fs fs') :
    buildPromptItems fs encodeBase64 prompt root = buildPromptItems fs' encodeBase64 prompt root := by
  unfold buildPromptItems
  have hroot : root.bind fs'.canonicalize = root.bind fs.canonicalize :=
    congrArg (root.bind ·) (funext fun path => (h.paths path).symm)
  rw [hroot]
  exact List.filterMap_congr fun block _ => blockItem_confined encodeBase64 h block

end Confined

/-- A picture in the session root, a link to one outside, and what is outside. -/
def rootAnd (secret : String) : FileSystem :=
  .ofFiles [("/root/frog.png", "frog"), ("/home/secret.png", secret)]

theorem promptItems_confined_rootAnd :
    buildPromptItems (rootAnd "one") (fun bytes => toString bytes.length)
        [.textResource "" (some "image/png") "file:///root/frog.png",
          .textResource "" (some "image/png") "file:///home/secret.png"] (some "/root") =
      buildPromptItems (rootAnd "three") (fun bytes => toString bytes.length)
        [.textResource "" (some "image/png") "file:///root/frog.png",
          .textResource "" (some "image/png") "file:///home/secret.png"] (some "/root") := by
  refine promptItems_confined _ _ _ _ _ ⟨fun _ => rfl, ?_⟩
  intro base hbase path hpath
  have hroot : base = "/root" := by
    rw [show (some "/root").bind (rootAnd "one").canonicalize = some "/root" by decide] at hbase
    exact (Option.some.inj hbase).symm
  -- the one file in which they differ is not below the root
  have hne : path ≠ "/home/secret.png" := by
    rintro rfl
    rw [hroot] at hpath
    exact absurd hpath (by decide)
  show (List.lookup path _).map Utf8.utf8 = (List.lookup path _).map Utf8.utf8
  simp [List.lookup_cons, beq_eq_false_iff_ne.mpr hne]

/-! ## Commands that nobody typed -/

/-- The text begins as a slash command does: a slash, and no whitespace after it. -/
def startsCommand (text : String) : Bool :=
  match text.toList with
  | '/' :: c :: _ => !Text.isWhitespace c
  | _ => false

/-- What is written in the block itself. -/
def isTyped : ContentBlock → Bool
  | .text _ => true
  | _ => false

/-- The block yields an item. -/
def yieldsItem : ContentBlock → Bool
  | .other => false
  | _ => true

/-- The block becomes a text that begins with its URI, and the URI looks like a command. -/
def namesCommand : ContentBlock → Bool
  | .resourceLink name uri => decide (name = "") && startsCommand uri
  | .textResource _ _ uri => startsCommand uri
  | .blobResource _ mimeType uri => (mimeType.filter isImageMimeType).isNone && startsCommand uri
  | _ => false

/-- Only typed text is read as a command. -/
def TypedCommands (fs : FileSystem) (encodeBase64 : List UInt8 → String)
    (root : Option String) (prompt : List ContentBlock) : Prop :=
  ∀ block, prompt.find? yieldsItem = some block → isTyped block = false →
    extractSlashCommand (buildPromptItems fs encodeBase64 prompt root) = none

section Commands

theorem slashCommandParts_eq_none_iff {line : String} :
    slashCommandParts line = none ↔ startsCommand line = false := by
  unfold slashCommandParts startsCommand
  split
  next stripped hline =>
    rw [hline]
    cases stripped with
    | nil => simp
    | cons c rest => cases hc : Text.isWhitespace c <;> simp [hc]
  next hline =>
    split
    next c rest hslash => exact absurd hslash (hline _)
    next => simp

/-- What begins with a bracket is no command. -/
theorem startsCommand_link (text : String) : startsCommand ("[@" ++ text) = false := by
  unfold startsCommand
  rw [String.toList_append]
  rfl

/-- What follows on the next line makes no command. -/
theorem startsCommand_line (text : String) {rest : String} (h : rest.toList.head? = some '\n') :
    startsCommand (text ++ rest) = startsCommand text := by
  obtain ⟨cs', hrest⟩ : ∃ cs', rest.toList = '\n' :: cs' := by
    cases hrest : rest.toList with
    | nil => simp [hrest] at h
    | cons c cs' =>
      rw [hrest, List.head?_cons, Option.some.injEq] at h
      exact ⟨cs', by rw [h]⟩
  unfold startsCommand
  rw [String.toList_append, hrest]
  match text.toList with
  | [] => rfl
  | [c] =>
    -- a slash alone, now with a line break after it
    by_cases hc : c = '/'
    · subst hc; rfl
    · simp [hc]
  | c :: c' :: cs =>
    by_cases hc : c = '/'
    · subst hc; rfl
    · simp [hc]

/-- A text that begins with another character than the slash. -/
theorem startsCommand_of_head {text : String} {c : Char} (htext : text.toList.head? = some c)
    (hc : c ≠ '/') : startsCommand text = false := by
  unfold startsCommand
  cases hlist : text.toList with
  | nil => rfl
  | cons c' cs =>
    rw [hlist, List.head?_cons, Option.some.injEq] at htext
    simp [htext, hc]

theorem startsCommand_fileUri {uri path : String}
    (h : Text.stripPrefix "file://" uri = some path) : startsCommand uri = false := by
  have huri : uri.toList.head? = some 'f' := by
    rw [Text.stripPrefix_eq_some_iff.mp h, String.toList_append]
    rfl
  exact startsCommand_of_head huri (by decide)

theorem startsCommand_zedUri {uri : String} (h : Text.startsWith "zed://" uri = true) :
    startsCommand uri = false := by
  obtain ⟨rest, huri⟩ := List.isPrefixOf_iff_prefix.mp h
  exact startsCommand_of_head (by rw [← huri]; rfl) (show 'z' ≠ '/' by decide)

/-- A link looks like a command only as its bare URI does, and it has to be one. -/
theorem startsCommand_formatUriAsLink (name : Option String) (uri : String) :
    startsCommand (formatUriAsLink name uri) =
      ((name.filter (· ≠ "")).isNone && startsCommand uri) := by
  unfold formatUriAsLink
  cases name.filter (· ≠ "") with
  | some name => simp only [String.append_assoc, startsCommand_link]; rfl
  | none =>
    dsimp only [Option.isNone_none]
    rw [Bool.true_and]
    cases hfile : Text.stripPrefix "file://" uri with
    | some path =>
      rw [startsCommand_fileUri hfile]
      simp only [String.append_assoc, startsCommand_link]
    | none =>
      dsimp only
      by_cases hzed : Text.startsWith "zed://" uri = true
      · rw [if_pos hzed, startsCommand_zedUri hzed]
        simp only [String.append_assoc, startsCommand_link]
      · rw [if_neg hzed]

theorem extractSlashCommand_text (line : String) (items : List UserInput) :
    extractSlashCommand (.text line :: items) = none ↔ startsCommand line = false :=
  slashCommandParts_eq_none_iff

/-- A link with more lines after it is a command exactly if the bare URI is. -/
theorem extractSlashCommand_link {rest : String} (h : rest.toList.head? = some '\n')
    (uri : String) (items : List UserInput) :
    extractSlashCommand (.text (formatUriAsLink none uri ++ rest) :: items) = none ↔
      startsCommand uri = false := by
  rw [extractSlashCommand_text, startsCommand_line _ h, startsCommand_formatUriAsLink]
  rfl

theorem extractSlashCommand_omitted (uri : String) (mimeType : Option String) (reason : String)
    (items : List UserInput) :
    extractSlashCommand (omittedResourceMarker uri mimeType reason :: items) = none ↔
      startsCommand uri = false := by
  unfold omittedResourceMarker
  simp only [String.append_assoc]
  refine extractSlashCommand_link ?_ uri items
  rw [String.toList_append]
  rfl

/-- An image that is read is below a root, so its URI has a scheme. -/
theorem fileUriToImageDataUrl_scheme {fs : FileSystem} {encodeBase64 : List UInt8 → String}
    {uri mimeType imageUrl : String} {root : Option String}
    (h : fileUriToImageDataUrl fs encodeBase64 uri mimeType root = some imageUrl) :
    startsCommand uri = false := by
  unfold fileUriToImageDataUrl at h
  obtain ⟨base, -, h⟩ := Option.bind_eq_some_iff.mp h
  obtain ⟨path, hpath, -⟩ := Option.bind_eq_some_iff.mp h
  exact startsCommand_fileUri hpath

/-- The item of a block that was not typed is a command exactly if the block names one. -/
theorem extractSlashCommand_blockItem {fs : FileSystem} {encodeBase64 : List UInt8 → String}
    {root : Option String} {block : ContentBlock} {item : UserInput}
    (h : blockItem fs encodeBase64 root block = some item) (htyped : isTyped block = false)
    (items : List UserInput) :
    extractSlashCommand (item :: items) = none ↔ namesCommand block = false := by
  cases block with
  | text text => cases htyped
  | other => exact absurd h nofun
  | image mimeType data =>
    cases h
    exact ⟨fun _ => rfl, fun _ => rfl⟩
  | resourceLink name uri =>
    cases h
    rw [extractSlashCommand_text, startsCommand_formatUriAsLink]
    by_cases hname : name = "" <;> simp [namesCommand, hname, Option.filter]
  | textResource text mimeType uri =>
    cases h
    show _ ↔ startsCommand uri = false
    unfold textResourceToUserInput
    cases mimeType.filter isImageMimeType with
    | some imageType =>
      dsimp only
      cases himage : fileUriToImageDataUrl fs encodeBase64 uri imageType root with
      | some imageUrl => exact ⟨fun _ => fileUriToImageDataUrl_scheme himage, fun _ => rfl⟩
      | none => exact extractSlashCommand_omitted _ _ _ items
    | none =>
      dsimp only
      by_cases hbinary : textLooksBinary text = true
      · rw [if_pos hbinary]
        exact extractSlashCommand_omitted _ _ _ items
      · rw [if_neg hbinary]
        simp only [String.append_assoc]
        refine extractSlashCommand_link ?_ uri items
        rw [String.toList_append]
        rfl
  | blobResource blob mimeType uri =>
    cases h
    show _ ↔ ((mimeType.filter isImageMimeType).isNone && startsCommand uri) = false
    unfold blobResourceToUserInput
    cases mimeType.filter isImageMimeType with
    | some imageType => exact ⟨fun _ => rfl, fun _ => rfl⟩
    | none => exact extractSlashCommand_omitted _ _ _ items

/-- The first item of a prompt is that of the first block with one. -/
theorem buildPromptItems_first {fs : FileSystem} {encodeBase64 : List UInt8 → String}
    {root : Option String} {prompt : List ContentBlock} {block : ContentBlock}
    (h : prompt.find? yieldsItem = some block) :
    ∃ item items, blockItem fs encodeBase64 (root.bind fs.canonicalize) block = some item ∧
      buildPromptItems fs encodeBase64 prompt root = item :: items := by
  unfold buildPromptItems
  induction prompt with
  | nil => exact absurd h nofun
  | cons b prompt ih =>
    cases b with
    | other => exact ih h
    | _ => cases h; exact ⟨_, _, rfl, rfl⟩

/-- A prompt that begins with something else than typed text, and names no command, goes to Codex
as it is. -/
theorem promptSubmissionForItems_untyped {codex : Codex} {fs : FileSystem}
    {encodeBase64 : List UInt8 → String}
    (hcodex : codex.buildPromptItems = buildPromptItems fs encodeBase64) {root : Option String}
    {prompt : List ContentBlock} {block : ContentBlock}
    (hfirst : prompt.find? yieldsItem = some block) (htyped : isTyped block = false)
    (hnames : namesCommand block = false) :
    ThreadActor.promptSubmissionForItems codex (codex.buildPromptItems prompt root) =
      pure (.submit (.userInput (codex.buildPromptItems prompt root))) := by
  obtain ⟨item, items, hitem, hitems⟩ :=
    @buildPromptItems_first fs encodeBase64 root _ _ hfirst
  unfold ThreadActor.promptSubmissionForItems
  rw [hcodex, hitems, (extractSlashCommand_blockItem hitem htyped items).mpr hnames]

end Commands

/-- **Commands nobody typed.** A prompt that begins with something else than typed text is no
command, except where its first item begins with the bare URI of a resource and the URI looks
like a command. -/
theorem typedCommands_iff (fs : FileSystem) (encodeBase64 : List UInt8 → String)
    (root : Option String) (prompt : List ContentBlock) :
    TypedCommands fs encodeBase64 root prompt ↔
      ∀ block, prompt.find? yieldsItem = some block → isTyped block = false →
        namesCommand block = false := by
  refine forall_congr' fun block => forall_congr' fun hfirst => forall_congr' fun htyped => ?_
  obtain ⟨item, items, hitem, hitems⟩ :=
    @buildPromptItems_first fs encodeBase64 root _ _ hfirst
  rw [hitems]
  exact extractSlashCommand_blockItem hitem htyped items

/-- A link without a name runs a command, with nothing typed. -/
theorem link_runs_command :
    ¬ TypedCommands (.ofFiles []) (fun _ => "") none [.resourceLink "" "/compact"] := by
  intro h
  have hnone := h _ rfl rfl
  exact absurd hnone (by decide)

end CodexAcp.Thread

import CodexAcp.Agent.Authentication
import CodexAcp.Agent.Sessions
import CodexAcp.Lib.Paging
import CodexAcp.Lib.Path
import CodexAcp.Lib.Text

/-!
# The list of sessions

The client asks for the recorded sessions page by page, of one directory or of all. A page
of the answer is a page of the thread store, without the threads of other directories, so
that it may be short or empty while there are more.

> `sessions_listed`: a client that asks until there is no next page gets the sessions of
> the pages the store would have handed out, in their order and each as often, whatever
> opens and closes in between; of a directory it gets what it would get of all, filtered.
> Titles are one line of at most 120 characters as a user counts them.
-/

namespace CodexAcp.Agent

open CodexAcp.Lib CodexAcp.Protocol

inductive ThreadSortKey where
  | createdAt
  | updatedAt
  deriving DecidableEq, Repr

inductive SortDirection where
  | asc
  | desc
  deriving DecidableEq, Repr

inductive SessionSource where
  | cli
  | vsCode
  | unknown
  deriving DecidableEq, Repr

/-- What is asked of the thread store, but for the cursor. -/
structure ThreadQuery where
  pageSize : Nat
  sortKey : ThreadSortKey
  sortDirection : SortDirection
  allowedSources : List SessionSource
  defaultProvider : String
  deriving DecidableEq, Repr

/-- A recorded thread, of which some may be unknown. -/
structure ThreadItem where
  threadId : Option SessionId
  cwd : Option String
  firstUserMessage : Option String
  updatedAt : Option String
  createdAt : Option String
  deriving DecidableEq, Repr

structure SessionInfo where
  sessionId : SessionId
  cwd : String
  title : Option String
  updatedAt : Option String
  additionalDirectories : List String
  deriving DecidableEq, Repr

/-- What the agent reads cursors and texts with. -/
structure Recorder (κ : Type) where
  parseCursor : String → Option κ
  /-- The text of a cursor, if it is one. -/
  cursorText : κ → Option String
  /-- The characters of a text as a user counts them. -/
  graphemes : String → List String

/-- What the agent finds when it is asked. -/
structure Moment (κ : Type) where
  auth : AuthState
  /-- Whether the credentials changed on disk. -/
  reloaded : Bool
  listThreads : ThreadQuery → Option κ → Except String (Page κ ThreadItem)
  /-- The additional directories of the open sessions, unless their lock is poisoned. -/
  sessions : Option (Dict SessionId (List String))

/-! ## Titles -/

def sessionTitleMaxGraphemes : Nat := 120

def truncateGraphemes (graphemes : String → List String) (text : String)
    (maxGraphemes : Nat) : String :=
  let clusters := graphemes text
  match clusters[maxGraphemes]? with
  | some _ =>
    if 3 ≤ maxGraphemes then
      match clusters[maxGraphemes - 3]? with
      | some _ => String.join (clusters.take (maxGraphemes - 3)) ++ "..."
      | none => text
    else String.join (clusters.take maxGraphemes)
  | none => text

def formatSessionTitle (graphemes : String → List String) (message : String) : Option String :=
  let normalized := String.ofList
    (message.toList.map fun c => if c = '\r' ∨ c = '\n' then ' ' else c)
  let trimmed := Text.trim normalized
  if trimmed.isEmpty then none
  else some (truncateGraphemes graphemes trimmed sessionTitleMaxGraphemes)

/-! ## Pages -/

section

variable {κ : Type} (recorder : Recorder κ) (modelProviderId : String) (cwd : Option String)

def sessionListPageSize : Nat := 25

def sessionQuery : ThreadQuery where
  pageSize := sessionListPageSize
  sortKey := .updatedAt
  sortDirection := .desc
  allowedSources := [.cli, .vsCode, .unknown]
  defaultProvider := modelProviderId

/-- A page of the thread store, for who is signed in. -/
def storedThreads : Pager (Moment κ) κ Error ThreadItem := fun m cursor => do
  m.auth.checkAuth modelProviderId m.reloaded
  (m.listThreads (sessionQuery modelProviderId) cursor).mapError fun err =>
    Error.internalError.withData ("failed to list sessions: " ++ err)

/-- What is listed of a thread, if it is. -/
def sessionInfo (m : Moment κ) (item : ThreadItem) : Option SessionInfo := do
  let threadId ← item.threadId
  let itemCwd ← item.cwd
  if cwd.any fun filterCwd => Lib.Path.components itemCwd ≠ Lib.Path.components filterCwd then none
  else
    let sessions ← m.sessions
    pure
      { sessionId := threadId
        cwd := itemCwd
        title := item.firstUserMessage.bind (formatSessionTitle recorder.graphemes)
        updatedAt := item.updatedAt.or item.createdAt
        additionalDirectories := (sessions.lookup threadId).getD [] }

def listSessions : Pager (Moment κ) String Error SessionInfo := fun m cursor => do
  let page ← storedThreads modelProviderId m (cursor.bind recorder.parseCursor)
  pure
    { items := page.items.filterMap (sessionInfo recorder cwd m)
      next := page.next.bind recorder.cursorText }

end

/-! ## What is listed -/

/-- What is relied on of the library that counts characters: it cuts a text into pieces, a
text cut after a piece is cut the same, and an ellipsis at its end is at most three more. -/
structure CountsCharacters (graphemes : String → List String) : Prop where
  join : ∀ text, String.join (graphemes text) = text
  take : ∀ text count, graphemes (String.join ((graphemes text).take count)) =
    (graphemes text).take count
  ellipsis : ∀ text, (graphemes (text ++ "...")).length ≤ (graphemes text).length + 3

/-- A title of one line, of at most as many characters as a title may have. -/
structure IsTitle (graphemes : String → List String) (title : String) : Prop where
  oneLine : ∀ c ∈ title.toList, c ≠ '\r' ∧ c ≠ '\n'
  short : (graphemes title).length ≤ sessionTitleMaxGraphemes

section

variable {graphemes : String → List String} (hcount : CountsCharacters graphemes)
include hcount

theorem isTitle_of_long {text : String} (h : ∀ c ∈ text.toList, c ≠ '\r' ∧ c ≠ '\n') :
    IsTitle graphemes
      (String.join ((graphemes text).take (sessionTitleMaxGraphemes - 3)) ++ "...") := by
  constructor
  · intro c hc
    rw [String.toList_append, List.mem_append] at hc
    rcases hc with hkept | hdot
    · refine h c ?_
      rw [← hcount.join text]
      rw [String.toList_join, List.mem_flatMap] at hkept ⊢
      obtain ⟨cluster, hcluster, hc⟩ := hkept
      exact ⟨cluster, List.mem_of_mem_take hcluster, hc⟩
    · have heq : c = '.' := by simpa using hdot
      rw [heq]
      decide
  · have hellipsis :=
      hcount.ellipsis (String.join ((graphemes text).take (sessionTitleMaxGraphemes - 3)))
    rw [hcount.take] at hellipsis
    have htaken := List.length_take_le (sessionTitleMaxGraphemes - 3) (graphemes text)
    have hmax : 3 ≤ sessionTitleMaxGraphemes := by decide
    omega

/-- A text of one line is made a title. -/
theorem isTitle_truncateGraphemes {text : String} (h : ∀ c ∈ text.toList, c ≠ '\r' ∧ c ≠ '\n') :
    IsTitle graphemes (truncateGraphemes graphemes text sessionTitleMaxGraphemes) := by
  unfold truncateGraphemes
  dsimp only
  split
  next hmax =>
    rw [if_pos (by decide)]
    split
    next => exact isTitle_of_long hcount h
    next hnone =>
      have hlong := (List.getElem?_eq_some_iff.mp hmax).1
      have hshort := List.getElem?_eq_none_iff.mp hnone
      omega
  next hmax =>
    exact ⟨h, List.getElem?_eq_none_iff.mp hmax⟩

theorem isTitle_formatSessionTitle {message title : String}
    (h : formatSessionTitle graphemes message = some title) : IsTitle graphemes title := by
  unfold formatSessionTitle at h
  dsimp only at h
  obtain ⟨-, h⟩ := Option.ite_none_left_eq_some.mp h
  cases h
  refine isTitle_truncateGraphemes hcount fun c hc => ?_
  have hmapped := Text.mem_of_mem_trim hc
  rw [String.toList_ofList, List.mem_map] at hmapped
  obtain ⟨c', -, rfl⟩ := hmapped
  split
  next => decide
  next hother => exact not_or.mp hother

end

section

variable {κ : Type} (recorder : Recorder κ) (m : Moment κ) (item : ThreadItem)

/-- Of a directory is listed what is listed of all, if it is of the directory. -/
theorem sessionInfo_eq_filter (cwd : Option String) :
    sessionInfo recorder cwd m item = (sessionInfo recorder none m item).filter fun info =>
      cwd.all fun filterCwd => Lib.Path.components info.cwd = Lib.Path.components filterCwd := by
  unfold sessionInfo
  cases item.threadId with
  | none => rfl
  | some threadId =>
    cases item.cwd with
    | none => rfl
    | some itemCwd =>
      cases m.sessions with
      | none => cases cwd <;> simp
      | some sessions =>
        cases cwd with
        | none => rfl
        | some filterCwd =>
          by_cases hsame : Lib.Path.components itemCwd = Lib.Path.components filterCwd
          · simp [hsame, Option.filter]
          · simp [hsame, Option.filter]

theorem title_sessionInfo {cwd : Option String} {info : SessionInfo}
    (h : sessionInfo recorder cwd m item = some info) :
    info.title = item.firstUserMessage.bind (formatSessionTitle recorder.graphemes) := by
  unfold sessionInfo at h
  obtain ⟨threadId, -, h⟩ := Option.bind_eq_some_iff.mp h
  obtain ⟨itemCwd, -, h⟩ := Option.bind_eq_some_iff.mp h
  obtain ⟨-, h⟩ := Option.ite_none_left_eq_some.mp h
  obtain ⟨sessions, -, h⟩ := Option.bind_eq_some_iff.mp h
  cases h
  rfl

end

/-- What is relied on of the thread store and of the library that counts characters. -/
structure Recorder.Sound {κ : Type} (recorder : Recorder κ) : Prop where
  readBack : ∀ k, ∃ text, recorder.cursorText k = some text ∧ recorder.parseCursor text = some k
  counts : CountsCharacters recorder.graphemes

theorem isView_listSessions {κ : Type} {recorder : Recorder κ} (h : recorder.Sound)
    (modelProviderId : String) (cwd : Option String) :
    IsView (storedThreads modelProviderId) (listSessions recorder modelProviderId cwd)
      (sessionInfo recorder cwd) recorder.cursorText recorder.parseCursor := by
  refine ⟨fun m start => ?_, h.readBack⟩
  unfold listSessions
  cases storedThreads modelProviderId m (start.bind recorder.parseCursor) <;> rfl

/-- Whether a session is of the directory, if one is given. -/
def OfDirectory (cwd : Option String) (info : SessionInfo) : Bool :=
  cwd.all fun filterCwd => Lib.Path.components info.cwd = Lib.Path.components filterCwd

theorem shownIn_sessionInfo {κ : Type} (recorder : Recorder κ) (cwd : Option String)
    (item : Moment κ × ThreadItem) :
    shownIn (sessionInfo recorder cwd) item =
      (shownIn (sessionInfo recorder none) item).filter fun listed => OfDirectory cwd listed.2 := by
  unfold shownIn
  rw [sessionInfo_eq_filter]
  cases sessionInfo recorder none item.1 item.2 with
  | none => rfl
  | some info => cases hof : OfDirectory cwd info <;> simp_all [Option.filter, OfDirectory]

theorem paged_listSessions_iff {κ : Type} {recorder : Recorder κ} (h : recorder.Sound)
    (modelProviderId : String) (cwd : Option String) (moments : List (Moment κ))
    (infos : List (Moment κ × SessionInfo)) :
    Paged (listSessions recorder modelProviderId cwd) moments none infos ↔
      ∃ items, Paged (storedThreads modelProviderId) moments none items ∧
        infos = items.filterMap (shownIn (sessionInfo recorder cwd)) :=
  paged_view_iff (isView_listSessions h modelProviderId cwd)

/-- For concrete lists: cursors that are texts, and a character for a character. -/
def Recorder.sample : Recorder String where
  parseCursor := some
  cursorText := some
  graphemes text := text.toList.map String.singleton

theorem join_singletons (cs : List Char) :
    String.join (cs.map String.singleton) = String.ofList cs := by
  rw [← String.toList_inj, String.toList_join, List.flatMap_map, String.toList_ofList]
  simp

theorem sound_sample : Recorder.sample.Sound where
  readBack cursor := ⟨cursor, rfl, rfl⟩
  counts :=
    { join := fun text => by
        show String.join (text.toList.map String.singleton) = text
        rw [join_singletons, String.ofList_toList]
      take := fun text count => by
        show (String.join ((text.toList.map String.singleton).take count)).toList.map _ = _
        rw [← List.map_take, join_singletons, String.toList_ofList, List.map_take]
        rfl
      ellipsis := fun text => by simp [Recorder.sample] }

def sampleItem (threadId cwd : String) : ThreadItem :=
  { threadId := some threadId, cwd := some cwd, firstUserMessage := some "Fix\nthe tests"
    updatedAt := none, createdAt := some "2025-01-01T00:00:00Z" }

/-- A store of two pages, and the sessions that are open. -/
def sampleMoment (sessions : Dict SessionId (List String)) : Moment String where
  auth := {}
  reloaded := false
  listThreads := fun _ cursor =>
    match cursor with
    | none => .ok { items := [sampleItem "1" "/work"], next := some "later" }
    | some _ => .ok { items := [sampleItem "2" "/home", sampleItem "3" "/work/"], next := none }
  sessions := some sessions

def sampleInfo (sessionId cwd : String) (additionalDirectories : List String) : SessionInfo :=
  { sessionId := sessionId, cwd := cwd, title := some "Fix the tests"
    updatedAt := some "2025-01-01T00:00:00Z", additionalDirectories := additionalDirectories }

end CodexAcp.Agent

import CodexAcp.Boundary.Command

/-!
# Wrappers before a program

`command` and assignments may stand before a program, and a command is classified
without them. The word of an assignment is cut down to its last path component
first, so what stands after a slash in the value decides whether it is seen:

> `wrappers_transparent_iff`: wrappers change nothing exactly if the last
> component after a slash of every value is seen as a wrapper itself.
-/

namespace CodexAcp.Boundary.Command

open CodexAcp.Lib CodexAcp.Protocol

/-! ## Wrappers -/

def isNameStart (c : Char) : Bool := ('a' ≤ c && c ≤ 'z') || ('A' ≤ c && c ≤ 'Z') || c = '_'

def isNameChar (c : Char) : Bool := isNameStart c || Text.isAsciiDigit c

/-- A name a shell can assign to. -/
structure Name where
  text : String
  first : text.toList.head?.any isNameStart = true
  chars : text.toList.all isNameChar = true

inductive Wrapper where
  | command
  | assignment (name : Name) (value : String)

namespace Wrapper

def word : Wrapper → String
  | command => "command"
  | assignment name value => name.text ++ "=" ++ value

/-- A component that is taken for a wrapper. -/
def IsSeen (component : Path.Component) : Prop :=
  ∃ name, component = .normal name ∧ (name = "command" ∨ '=' ∈ name.toList)

/-- The components of a value after its first slash. -/
def laterComponents (value : String) : List Path.Component :=
  (value.toList.splitOn '/').tail.filterMap Path.bodyComponent

/-- Nothing stands after a slash of the value, or the last component there is seen. -/
def Fits : Wrapper → Prop
  | command => True
  | assignment _ value => ∀ last ∈ (laterComponents value).getLast?, IsSeen last

end Wrapper

/-- The words with and without the wrappers are the same command. -/
structure Transparent (shlexSplit : String → Option (List String)) (fs : FileSystem)
    (wrappers argv : List String) : Prop where
  stripped : stripKnownCommandWrappers (wrappers ++ argv) = stripKnownCommandWrappers argv
  classified : ∀ cmd cmd', commandArgv shlexSplit cmd = argv →
    commandArgv shlexSplit cmd' = wrappers ++ argv →
      isGitDiffCommand shlexSplit cmd' = isGitDiffCommand shlexSplit cmd ∧
      isSearchCommand shlexSplit cmd' = isSearchCommand shlexSplit cmd ∧
      ∀ cwd, fileReadPathFromUnknownCommand shlexSplit fs cmd' cwd =
        fileReadPathFromUnknownCommand shlexSplit fs cmd cwd

/-! ## Stripping -/

theorem length_stripKnownCommandWrappers_le (argv : List String) :
    (stripKnownCommandWrappers argv).length ≤ argv.length := by
  induction argv with
  | nil => exact le_rfl
  | cons word argv ih =>
    rw [stripKnownCommandWrappers_cons]
    split
    · exact Nat.le_succ_of_le ih
    · exact le_rfl

/-- Words are stripped away exactly if each of them is: a word that stays is one more than
stripping leaves of the rest. -/
theorem stripKnownCommandWrappers_append (words argv : List String) :
    stripKnownCommandWrappers (words ++ argv) = stripKnownCommandWrappers argv ↔
      ∀ word ∈ words, isStripped word = true := by
  induction words with
  | nil => simp
  | cons word words ih =>
    rw [List.cons_append, stripKnownCommandWrappers_cons, List.forall_mem_cons]
    by_cases hword : isStripped word = true
    · rw [if_pos hword, ih]
      exact (and_iff_right hword).symm
    · rw [if_neg hword]
      refine ⟨fun h => ?_, fun h => absurd h.1 hword⟩
      have hle := length_stripKnownCommandWrappers_le argv
      rw [← h, List.length_cons, List.length_append] at hle
      omega

/-! ## Assignments -/

theorem Name.slash_not_mem (name : Name) : '/' ∉ name.text.toList := by
  intro h
  exact absurd (List.all_eq_true.mp name.chars _ h) (by decide)

/-- The first component of an assignment is the name with the value up to its first slash. -/
theorem components_assignment (name : Name) (value : String) :
    ∃ first, '=' ∈ first.toList ∧ '/' ∉ first.toList ∧
      Path.components (Wrapper.assignment name value).word =
        .normal first :: Wrapper.laterComponents value := by
  cases hpieces : value.toList.splitOn '/' with
  | nil => exact absurd hpieces (List.splitOn_ne_nil _ _)
  | cons piece pieces =>
    have hprefix : '/' ∉ name.text.toList ++ ['='] := by
      rw [List.mem_append, not_or]
      exact ⟨name.slash_not_mem, by decide⟩
    have hsplit := Text.splitOn_append hprefix hpieces
    have hmem : '=' ∈ name.text.toList ++ ['='] ++ piece := by simp
    have hslash : '/' ∉ name.text.toList ++ ['='] ++ piece :=
      Text.not_mem_of_mem_splitOn (hsplit ▸ List.mem_cons_self ..)
    refine ⟨String.ofList (name.text.toList ++ ['='] ++ piece), ?_, ?_, ?_⟩
    · rwa [String.toList_ofList]
    · rwa [String.toList_ofList]
    · have hword : (Wrapper.assignment name value).word.toList =
          name.text.toList ++ ['='] ++ value.toList := by
        show (name.text ++ "=" ++ value).toList = _
        rw [String.toList_append, String.toList_append]
        rfl
      have hcomponent : Path.bodyComponent (name.text.toList ++ ['='] ++ piece) =
          some (.normal (String.ofList (name.text.toList ++ ['='] ++ piece))) := by
        generalize name.text.toList ++ ['='] ++ piece = first at hmem
        unfold Path.bodyComponent
        have hnil : first ≠ [] := by rintro rfl; simp at hmem
        have hdot : first ≠ ['.'] := by rintro rfl; simp at hmem
        have hdots : first ≠ ['.', '.'] := by rintro rfl; simp at hmem
        simp [hnil, hdot, hdots]
      rw [Path.components_of_first (hword ▸ hsplit) hcomponent]
      unfold Wrapper.laterComponents
      rw [hpieces]
      rfl

/-- A later component has no slash. -/
theorem slash_not_mem_laterComponents {value name : String}
    (h : Path.Component.normal name ∈ Wrapper.laterComponents value) : '/' ∉ name.toList := by
  obtain ⟨piece, hpiece, hname⟩ := List.mem_filterMap.mp h
  unfold Path.bodyComponent at hname
  have hpiece' := Text.not_mem_of_mem_splitOn (List.mem_of_mem_tail hpiece)
  split at hname
  · exact absurd hname nofun
  · split at hname
    · exact absurd hname (by simp)
    · cases hname
      rwa [String.toList_ofList]

/-- **A wrapper is stripped exactly if it fits.** -/
theorem isStripped_word (wrapper : Wrapper) : isStripped wrapper.word = true ↔ wrapper.Fits := by
  cases wrapper with
  | command => exact ⟨fun _ => trivial, fun _ => by decide⟩
  | assignment name value =>
    obtain ⟨first, hassigned, hslash, hcomponents⟩ := components_assignment name value
    show isStripped _ = true ↔
      ∀ last ∈ (Wrapper.laterComponents value).getLast?, Wrapper.IsSeen last
    unfold isStripped Path.fileName
    rw [hcomponents, List.getLast?_cons]
    cases hlast : (Wrapper.laterComponents value).getLast? with
    | none => simp [hassigned, hslash]
    | some last =>
      have hmem := List.mem_of_getLast? hlast
      cases last with
      | normal later =>
        have hlater := slash_not_mem_laterComponents hmem
        simp [Wrapper.IsSeen, hlater]
      | _ => simp [Wrapper.IsSeen]

/-- **Wrappers.** Putting wrappers before a command changes nothing exactly if each of them
fits: the command is stripped of them, and classified as it is without them. -/
theorem wrappers_transparent_iff (shlexSplit : String → Option (List String)) (fs : FileSystem)
    (wrappers : List Wrapper) (argv : List String) :
    Transparent shlexSplit fs (wrappers.map Wrapper.word) argv ↔
      ∀ wrapper ∈ wrappers, wrapper.Fits := by
  have hstripped : stripKnownCommandWrappers (wrappers.map Wrapper.word ++ argv) =
      stripKnownCommandWrappers argv ↔ ∀ wrapper ∈ wrappers, wrapper.Fits := by
    rw [stripKnownCommandWrappers_append, List.forall_mem_map]
    exact forall₂_congr fun wrapper _ => isStripped_word wrapper
  refine ⟨fun h => hstripped.mp h.stripped, fun h => ⟨hstripped.mpr h, ?_⟩⟩
  intro cmd cmd' hcmd hcmd'
  -- every fallback looks at the stripped words alone
  have hargv : strippedArgv shlexSplit cmd' = strippedArgv shlexSplit cmd := by
    unfold strippedArgv
    rw [hcmd, hcmd']
    exact hstripped.mpr h
  unfold isGitDiffCommand isSearchCommand fileReadPathFromUnknownCommand
  rw [hargv]
  exact ⟨rfl, rfl, fun _ => rfl⟩

/-- The value of an assignment is a path, and what is read there is its last component. -/
theorem assignment_hides_program :
    ¬ Transparent (fun cmd => some (Text.splitWhitespace cmd)) (.ofFiles [])
      [(Wrapper.assignment ⟨"PAGER", rfl, rfl⟩ "/bin/cat").word] ["git", "diff"] := by
  intro h
  exact absurd h.stripped (by decide)

end CodexAcp.Boundary.Command

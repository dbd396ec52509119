import CodexAcp.Boundary.Command

/-!
# Files edited in place

`sed` and `yq` read a file, unless they are asked to edit it in place. The words
of `sed` are read one after the other, with the script an option brings; those of
`yq` are looked at one by one. What an edit is shown as depends on whether the
option is seen there:

> `sedInputFileCandidates_eq`: no file of `sed` is a candidate once an in-place
> option was seen, and else its operands are.
> `sedSeesInPlace_of_requests`: every in-place option of `sed` is seen, unless a
> word takes the next one that the loop leaves, or the other way round.
> `inPlace_hidden_iff`: an edit is shown as no read exactly if its option is seen,
> or no operand looks like a file.
-/

namespace CodexAcp.Boundary.Command

open CodexAcp.Lib CodexAcp.Protocol

/-! ## Asking for an edit in place -/

inductive Editor where
  | sed
  | yq
  deriving DecidableEq, Repr

namespace Editor

def program : Editor → String
  | sed => "sed"
  | yq => "yq"

def inPlaceWords : Editor → List String
  | sed => ["--in-place"]
  | yq => ["--inplace", "--in-place"]

end Editor

/-- Which options take an argument. -/
structure OptionSyntax where
  letters : List Char
  words : List String

namespace OptionSyntax

variable (options : OptionSyntax)

/-- An `i` before any letter that takes an argument. -/
def clusterRequests : List Char → Bool
  | [] => false
  | c :: cs => c = 'i' || (c ∉ options.letters && clusterRequests cs)

/-- The last letter takes an argument, so it is the next word. -/
def clusterTakesNext : List Char → Bool
  | [] => false
  | c :: cs => if c ∈ options.letters then cs.isEmpty else clusterTakesNext cs

def isCluster (arg : String) : Bool := Text.startsWith "-" arg && !Text.startsWith "--" arg

/-- The word asks for an edit in place. -/
def requests (editor : Editor) (arg : String) : Bool :=
  (editor.inPlaceWords.any fun word => arg = word || Text.startsWith (word ++ "=") arg) ||
    (isCluster arg && options.clusterRequests arg.toList.tail)

def takesNext (arg : String) : Bool :=
  arg ∈ options.words || (isCluster arg && options.clusterTakesNext arg.toList.tail)

/-- An option word before `--`, which is no other option's argument, asks for an edit in
place. -/
def requestsInPlace (editor : Editor) : List String → Bool
  | [] => false
  | arg :: args =>
    if arg = "--" then false
    else if options.requests editor arg then true
    else if options.takesNext arg then
      match args with
      | [] => false
      | _ :: args => requestsInPlace editor args
    else requestsInPlace editor args

end OptionSyntax

/-- What was asked to be edited in place is not shown as read, whatever files there are. -/
def EditHidden (options : OptionSyntax) (editor : Editor) (args : List String) : Prop :=
  options.requestsInPlace editor args = true →
    ∀ fs cwd, fileReadPathFromArgs fs editor.program args cwd = none

/-! ## The words of `sed` -/

/-- An in-place option is among the words the loop gets to. -/
def sedSeesInPlace : List String → Bool
  | [] => false
  | arg :: args =>
    match sedWord arg with
    | .endOfOptions => false
    | .inPlace => true
    | .scriptNext =>
      match args with
      | [] => false
      | _ :: args => sedSeesInPlace args
    | .option _ | .operand => sedSeesInPlace args

/-- The words after the script that are no options. -/
def sedOperands (sawInlineScript : Bool) : List String → List String
  | [] => []
  | arg :: args =>
    match sedWord arg with
    | .endOfOptions => args
    | .inPlace => sedOperands sawInlineScript args
    | .scriptNext =>
      match args with
      | [] => []
      | _ :: args => sedOperands true args
    | .option bringsScript => sedOperands (sawInlineScript || bringsScript) args
    | .operand =>
      if sawInlineScript then arg :: sedOperands true args else sedOperands true args

/-- The loop gives the operands, or nothing once it has seen an in-place option. -/
theorem sedInputFileCandidatesFrom_eq (candidates : List String) (sawInlineScript : Bool)
    (args : List String) :
    sedInputFileCandidatesFrom candidates sawInlineScript args =
      if sedSeesInPlace args then [] else candidates ++ sedOperands sawInlineScript args := by
  fun_induction sedInputFileCandidatesFrom candidates sawInlineScript args with
  | case1 candidates saw =>
    rw [sedSeesInPlace, sedOperands, List.append_nil]
    rfl
  | case2 candidates saw arg args hword =>
    unfold sedSeesInPlace sedOperands
    rw [hword]
    rfl
  | case3 candidates saw arg args hword =>
    unfold sedSeesInPlace
    rw [hword]
    rfl
  | case4 candidates saw arg hword =>
    unfold sedSeesInPlace sedOperands
    rw [hword]
    exact (List.append_nil _).symm
  | case5 candidates saw arg hword next args ih =>
    conv_rhs => unfold sedSeesInPlace sedOperands
    rw [hword, ih]
  | case6 candidates saw arg args bringsScript hword ih =>
    conv_rhs => unfold sedSeesInPlace sedOperands
    rw [hword, ih]
  | case7 candidates saw arg args hword hsaw ih =>
    conv_rhs => unfold sedSeesInPlace sedOperands
    rw [hword, ih]
    cases saw with
    | false => rfl
    | true => exact absurd hsaw (by decide)
  | case8 candidates saw arg args hword hsaw ih =>
    conv_rhs => unfold sedSeesInPlace sedOperands
    rw [hword, ih, List.append_assoc]
    cases saw with
    | false => exact absurd rfl hsaw
    | true => rfl

theorem sedInputFileCandidates_eq (args : List String) :
    sedInputFileCandidates args = if sedSeesInPlace args then [] else sedOperands false args := by
  unfold sedInputFileCandidates
  rw [sedInputFileCandidatesFrom_eq, List.nil_append]

/-! ## What `sed` is asked for -/

section Sed

variable {options : OptionSyntax}

theorem sedClusterHasInPlace_of_requests (he : 'e' ∈ options.letters) (hf : 'f' ∈ options.letters)
    {cs : List Char} (h : options.clusterRequests cs = true) :
    sedClusterHasInPlace cs = true ∧ 'i' ∈ cs := by
  induction cs with
  | nil => exact absurd h Bool.false_ne_true
  | cons c cs ih =>
    unfold OptionSyntax.clusterRequests at h
    unfold sedClusterHasInPlace
    by_cases hi : c = 'i'
    · subst hi
      exact ⟨rfl, List.mem_cons_self ..⟩
    · have hrest : c ∉ options.letters ∧ options.clusterRequests cs = true := by
        simpa [hi] using h
      have hce : c ≠ 'e' := fun hc => hrest.1 (hc ▸ he)
      have hcf : c ≠ 'f' := fun hc => hrest.1 (hc ▸ hf)
      obtain ⟨hcluster, hmem⟩ := ih hrest.2
      exact ⟨by simpa [hi, hce, hcf] using hcluster, List.mem_cons_of_mem _ hmem⟩

/-- `--in-place` with a suffix. -/
theorem sedWord_of_suffix {arg : String} (h : Text.startsWith "--in-place=" arg = true) :
    sedWord arg = .inPlace := by
  have hother : ∀ words : List String,
      (∀ word ∈ words, Text.startsWith "--in-place=" word = false) → arg ∉ words := by
    intro words hwords hmem
    exact absurd h (by rw [hwords arg hmem]; exact Bool.false_ne_true)
  have hend : arg ≠ "--" := fun harg => hother ["--"] (by decide) (harg ▸ List.mem_cons_self ..)
  have hscript :
      (Text.startsWith "--expression=" arg || Text.startsWith "--file=" arg) = false := by
    obtain ⟨rest, hrest⟩ := List.isPrefixOf_iff_prefix.mp h
    unfold Text.startsWith
    rw [← hrest]
    rfl
  unfold sedWord
  rw [if_neg hend, if_neg (hother _ (by decide)), if_neg (hother _ (by decide)),
    if_neg (hother _ (by decide)), if_neg (by rw [hscript]; exact Bool.false_ne_true), if_pos h]

/-- A cluster with an `i` before a script or a script file. -/
theorem sedWord_of_cluster {arg : String} {cs : List Char} (harg : arg.toList = '-' :: cs)
    (hdash : Text.startsWith "--" arg = false) (hcluster : sedClusterHasInPlace cs = true)
    (hi : 'i' ∈ cs) : sedWord arg = .inPlace := by
  have hmem : 'i' ∈ arg.toList := harg ▸ List.mem_cons_of_mem _ hi
  have hother : ∀ words : List String,
      (∀ word ∈ words, Text.startsWith "--" word = true ∨ 'i' ∉ word.toList) → arg ∉ words := by
    intro words hwords hword
    rcases hwords arg hword with h | h
    · rw [hdash] at h
      exact Bool.false_ne_true h
    · exact h hmem
  have hlong : ∀ p, Text.startsWith "--" p = true → Text.startsWith p arg = false := by
    intro p hp
    by_contra hstart
    rw [Bool.not_eq_false] at hstart
    have hprefix := (List.isPrefixOf_iff_prefix.mp hp).trans (List.isPrefixOf_iff_prefix.mp hstart)
    have hdashed : Text.startsWith "--" arg = true := List.isPrefixOf_iff_prefix.mpr hprefix
    exact Bool.false_ne_true (hdash.symm.trans hdashed)
  have hend : arg ≠ "--" := by
    rintro rfl
    exact absurd hdash (by decide)
  by_cases hexact : arg ∈ ["-i", "--in-place"]
  · unfold sedWord
    rw [if_neg hend, if_neg (hother _ (by decide)), if_pos hexact]
  · have hlength : 2 < (Utf8.utf8 arg).length := by
      refine lt_of_lt_of_le ?_ (Utf8.length_le_utf8 arg)
      rw [harg]
      match cs, hi with
      | [c], hi =>
        cases List.mem_singleton.mp hi
        refine absurd (List.mem_cons.mpr (.inl ?_)) hexact
        rw [← String.toList_inj, harg]
        rfl
      | _ :: _ :: _, _ => simp
    have hshort : Text.startsWith "-" arg = true := by
      unfold Text.startsWith
      rw [harg]
      rfl
    have hoption : sedShortOptionHasInPlace arg = true := by
      have hstripped : Text.stripPrefix "-" arg = some (String.ofList cs) := by
        rw [Text.stripPrefix_eq_some_iff, ← String.toList_inj, String.toList_append,
          @String.toList_ofList cs, harg]
        rfl
      have hcluster' : Text.startsWith "-" (String.ofList cs) = false := by
        rw [← hdash]
        unfold Text.startsWith
        rw [harg, @String.toList_ofList cs]
        rfl
      unfold sedShortOptionHasInPlace
      rw [hstripped, Option.filter_some, hcluster', if_pos (by rfl)]
      dsimp only
      rwa [String.toList_ofList]
    unfold sedWord
    rw [if_neg hend, if_neg (hother _ (by decide)), if_neg hexact, if_neg (hother _ (by decide)),
      hlong "--expression=" (by decide), hlong "--file=" (by decide),
      hlong "--in-place=" (by decide), hdash, hshort, hoption]
    simp [hlength]

theorem sedWord_of_requests (he : 'e' ∈ options.letters) (hf : 'f' ∈ options.letters)
    {arg : String} (h : options.requests .sed arg = true) : sedWord arg = .inPlace := by
  unfold OptionSyntax.requests at h
  rw [Bool.or_eq_true] at h
  rcases h with hword | hcluster
  · have hcases : arg = "--in-place" ∨ Text.startsWith "--in-place=" arg = true := by
      simpa [Editor.inPlaceWords] using hword
    rcases hcases with rfl | hsuffix
    · decide
    · exact sedWord_of_suffix hsuffix
  · rw [Bool.and_eq_true, OptionSyntax.isCluster, Bool.and_eq_true, Bool.not_eq_true'] at hcluster
    obtain ⟨⟨hshort, hdash⟩, hcluster⟩ := hcluster
    obtain ⟨hseen, hi⟩ := sedClusterHasInPlace_of_requests he hf hcluster
    obtain ⟨cs, harg⟩ := List.isPrefixOf_iff_prefix.mp hshort
    have htail : arg.toList = '-' :: arg.toList.tail := by
      rw [← harg]
      rfl
    exact sedWord_of_cluster htail hdash hseen hi

theorem sedWord_endOfOptions {arg : String} (h : sedWord arg = .endOfOptions) : arg = "--" := by
  by_contra hend
  unfold sedWord at h
  rw [if_neg hend] at h
  -- no other arm ends the options
  repeat' split at h
  all_goals exact absurd h nofun

/-- **Sed.** Where the words that `sed` takes the next one after are those that the loop takes
it after, every in-place option is seen. -/
theorem sedSeesInPlace_of_requests (he : 'e' ∈ options.letters) (hf : 'f' ∈ options.letters)
    {args : List String}
    (hnext : ∀ arg ∈ args, options.takesNext arg = true ↔ sedWord arg = .scriptNext)
    (h : options.requestsInPlace .sed args = true) : sedSeesInPlace args = true := by
  fun_induction OptionSyntax.requestsInPlace options .sed args with
  | case1 => exact absurd h Bool.false_ne_true
  | case2 args => exact absurd h Bool.false_ne_true
  | case3 arg args hend hrequests =>
    unfold sedSeesInPlace
    rw [sedWord_of_requests he hf hrequests]
  | case4 arg hend hrequests htakes => exact absurd h Bool.false_ne_true
  | case5 arg hend hrequests htakes next args ih =>
    unfold sedSeesInPlace
    rw [(hnext arg (List.mem_cons_self ..)).mp htakes]
    refine ih (fun word hword => hnext word ?_) h
    exact List.mem_cons_of_mem _ (List.mem_cons_of_mem _ hword)
  | case6 arg args hend hrequests htakes ih =>
    have hrest := ih (fun word hword => hnext word (List.mem_cons_of_mem _ hword)) h
    have hscript := mt (hnext arg (List.mem_cons_self ..)).mpr htakes
    have hword : sedWord arg ≠ .endOfOptions := fun hword => hend (sedWord_endOfOptions hword)
    unfold sedSeesInPlace
    cases hsed : sedWord arg with
    | endOfOptions => exact absurd hsed hword
    | scriptNext => exact absurd hsed hscript
    | inPlace => rfl
    | option bringsScript => exact hrest
    | operand => exact hrest

end Sed

/-! ## What is seen -/

namespace Editor

/-- The words that ask for an edit in place are among those that are looked at. -/
def seesInPlace : Editor → List String → Bool
  | sed, args => sedSeesInPlace args
  | yq, args => argsImplyFileMutation "yq" args

/-- The words that can be files. -/
def operands : Editor → List String → List String
  | sed, args => sedOperands false args
  | yq, args => args.filter fun arg => arg ≠ "--" && !Text.startsWith "-" arg

end Editor

/-- What is shown as read is the last operand that looks like a file and is one. -/
theorem fileReadPathFromArgs_editor (fs : FileSystem) (editor : Editor) (args : List String)
    (cwd : String) :
    fileReadPathFromArgs fs editor.program args cwd =
      if editor.seesInPlace args then none
      else (editor.operands args).reverse.find? fun path =>
        pathHasExtension path && commandReadPathExists fs cwd path := by
  unfold fileReadPathFromArgs
  cases editor with
  | sed =>
    have hmutation : argsImplyFileMutation Editor.sed.program args = false := rfl
    have hcandidates : fileCandidates Editor.sed.program args = sedInputFileCandidates args := rfl
    rw [hmutation, hcandidates, if_neg Bool.false_ne_true, sedInputFileCandidates_eq]
    show _ = if sedSeesInPlace args then _ else _
    split
    · rfl
    · rfl
  | yq => rfl

/-- Where every path is a file, a file is shown as read as soon as an operand has an
extension. -/
theorem find_operands_eq_none_iff (operands : List String) :
    (∀ fs cwd, (operands.reverse.find? fun path =>
        pathHasExtension path && commandReadPathExists fs cwd path) = none) ↔
      ∀ operand ∈ operands, pathHasExtension operand = false := by
  constructor
  · intro h operand hoperand
    have hnone := h { canonicalize := some, read := fun _ => none, isFile := fun _ => true } ""
    have hpath := List.find?_eq_none.mp hnone operand (List.mem_reverse.mpr hoperand)
    rwa [commandReadPathExists, Bool.and_true, Bool.not_eq_true] at hpath
  · intro h fs cwd
    refine List.find?_eq_none.mpr fun operand hoperand => ?_
    rw [h operand (List.mem_reverse.mp hoperand), Bool.false_and]
    exact Bool.false_ne_true

/-- **Edits in place.** An edit that was asked for is shown as no read, whatever files there
are, exactly if the option that asks for it is seen, or no operand has an extension. -/
theorem inPlace_hidden_iff (options : OptionSyntax) (editor : Editor) (args : List String) :
    EditHidden options editor args ↔
      (options.requestsInPlace editor args = true →
        editor.seesInPlace args = true ∨
          ∀ operand ∈ editor.operands args, pathHasExtension operand = false) := by
  refine forall_congr' fun _ => ?_
  by_cases hsees : editor.seesInPlace args = true
  · refine ⟨fun _ => .inl hsees, fun _ fs cwd => ?_⟩
    rw [fileReadPathFromArgs_editor, if_pos hsees]
  · rw [or_iff_right hsees, ← find_operands_eq_none_iff]
    refine forall₂_congr fun fs cwd => ?_
    rw [fileReadPathFromArgs_editor, if_neg hsees]

/-- The options of `yq` that take an argument. -/
def yqOptions : OptionSyntax where
  letters := ['I', 'o', 'p', 's', 'f']
  words := ["-I", "--indent", "--output-format", "--input-format", "--split-exp", "--front-matter"]

/-- `yq -Pi '.a = 1' config.yaml` prints nothing: it writes the file. -/
theorem cluster_edits_unseen : ¬ EditHidden yqOptions .yq ["-Pi", ".a = 1", "config.yaml"] := by
  intro h
  have hnone := h (by decide) (.ofFiles [("/work/config.yaml", "a: 0")]) "/work"
  exact absurd hnone (by decide)

end CodexAcp.Boundary.Command

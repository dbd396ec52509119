import CodexAcp.Boundary.FileChanges
import CodexAcp.Lib.CommonMark

/-!
# The output of a command as text

The output of a command that is no diff is shown in a fenced code block, in the
language of the file it comes from. The fence is three backquotes whatever the
output is, so what a reader sees depends on the output:

> `outputReadsBack_iff`: the block is the output without its trailing line
> endings, exactly if the output fits between the fences.
-/

namespace CodexAcp.Boundary

open CodexAcp.Lib CodexAcp.Protocol

def canonicalFenceLanguage (extension : String) : String :=
  match extension with
  | "rs" => "rust"
  | "js" => "javascript"
  | "ts" => "typescript"
  | "py" => "python"
  | "sh" | "zsh" => "bash"
  | "yml" => "yaml"
  | "md" => "markdown"
  | ext => ext

/-- The text of `render_output_content`. -/
def outputText (fileExtension : Option String) (output : String) : String :=
  match fileExtension with
  | some ext =>
    "```" ++ canonicalFenceLanguage ext ++ "\n" ++ Text.trimEndMatches '\n' output ++ "\n```\n"
  | none => "```sh\n" ++ Text.trimEndMatches '\n' output ++ "\n```\n"

def renderOutputContent (diffy : Diffy) (fs : FileSystem) (cwd : String)
    (fileExtension : Option String) (output : String) : List ToolCallContent :=
  match extractToolCallContentFromCommandOutputDiff diffy fs cwd output with
  | some content => content
  | none => [toolCallTextContent (outputText fileExtension output)]

/-! ## Fences -/

/-- A character that means nothing more in the first line of a block; letters and digits are
such. -/
def isLanguageChar (c : Char) : Bool := c ≠ CommonMark.backquote && CommonMark.isPlainChar c

/-- A file extension of such characters. -/
structure FileExtension where
  text : String
  plain : text.toList.all isLanguageChar = true

/-- Three backquotes. -/
def outputFence : CommonMark.Fence := { char := CommonMark.backquote, length := 3, indent := 0 }

/-- The output is no diff, or its text is one code block with the output as it is, but for its
trailing line endings. -/
def OutputReadsBack (diffy : Diffy) (fs : FileSystem) (cwd : String)
    (fileExtension : Option FileExtension) (output : String) : Prop :=
  extractToolCallContentFromCommandOutputDiff diffy fs cwd output = none →
    ∃ text, renderOutputContent diffy fs cwd (fileExtension.map FileExtension.text) output =
        [toolCallTextContent text] ∧
      CommonMark.onlyFencedBlock text = some (String.ofList (CommonMark.body output.toList))

/-- The language of the block. -/
def fenceLanguage (fileExtension : Option FileExtension) : String :=
  (fileExtension.map fun ext => canonicalFenceLanguage ext.text).getD "sh"

theorem fenceLanguage_plain (fileExtension : Option FileExtension) :
    (fenceLanguage fileExtension).toList.all isLanguageChar = true := by
  cases fileExtension with
  | none => rfl
  | some ext =>
    show (canonicalFenceLanguage ext.text).toList.all isLanguageChar = true
    unfold canonicalFenceLanguage
    split
    all_goals first | rfl | exact ext.plain

/-- The fence, the output and the fence again. -/
theorem outputText_toList (fileExtension : Option FileExtension) (output : String) :
    outputText (fileExtension.map FileExtension.text) output =
      String.ofList (("```".toList ++ (fenceLanguage fileExtension).toList) ++
        '\n' :: (output.toList.rdropWhile (· = '\n') ++ '\n' :: ("```".toList ++ ['\n']))) := by
  rw [← String.toList_inj, String.toList_ofList]
  cases fileExtension with
  | none =>
    show ("```sh\n" ++ Text.trimEndMatches '\n' output ++ "\n```\n").toList = _
    simp only [String.toList_append, Text.trimEndMatches, String.toList_ofList, List.append_assoc]
    rfl
  | some ext =>
    show ("```" ++ canonicalFenceLanguage ext.text ++ "\n" ++ Text.trimEndMatches '\n' output ++
      "\n```\n").toList = _
    simp only [String.toList_append, Text.trimEndMatches, String.toList_ofList, List.append_assoc]
    rfl

/-- **Output.** What is shown of an output reads back exactly if the output fits between the
fences. -/
theorem outputReadsBack_iff (diffy : Diffy) (fs : FileSystem) (cwd : String)
    (fileExtension : Option FileExtension) (output : String) :
    OutputReadsBack diffy fs cwd fileExtension output ↔
      (extractToolCallContentFromCommandOutputDiff diffy fs cwd output = none →
        CommonMark.FitsFence outputFence output.toList) := by
  refine forall_congr' fun hnone => ?_
  have hrender : renderOutputContent diffy fs cwd (fileExtension.map FileExtension.text) output =
      [toolCallTextContent (outputText (fileExtension.map FileExtension.text) output)] := by
    unfold renderOutputContent
    rw [hnone]
  have hlanguage : ∀ c ∈ (fenceLanguage fileExtension).toList,
      c ≠ CommonMark.backquote ∧ CommonMark.isPlainChar c = true := by
    intro c hc
    have hchar := List.all_eq_true.mp (fenceLanguage_plain fileExtension) c hc
    rwa [isLanguageChar, Bool.and_eq_true, decide_eq_true_eq] at hchar
  have hbackquote : CommonMark.backquote ∉ (fenceLanguage fileExtension).toList :=
    fun h => (hlanguage _ h).1 rfl
  have hplain : CommonMark.IsPlain ("```".toList ++ (fenceLanguage fileExtension).toList) := by
    unfold CommonMark.IsPlain
    rw [List.all_append, Bool.and_eq_true]
    exact ⟨rfl, List.all_eq_true.mpr fun c hc => (hlanguage c hc).2⟩
  have hplain' : CommonMark.IsPlain "```".toList := by
    unfold CommonMark.IsPlain
    rfl
  rw [hrender]
  simp only [List.cons.injEq, and_true, toolCallTextContent, ToolCallContent.content.injEq,
    ContentBlock.text.injEq, exists_eq_left']
  rw [outputText_toList]
  have hopening : CommonMark.openingFence ("```".toList ++ (fenceLanguage fileExtension).toList) =
      some outputFence := CommonMark.openingFence_backquotes (n := 3) le_rfl hbackquote
  exact CommonMark.reads_back_iff hopening rfl (by decide) (by decide) rfl
    (by decide) hplain hplain' output.toList

/-- `cat README.md` closes its own fence. -/
theorem fence_in_output :
    ¬ OutputReadsBack wholeFiles (.ofFiles []) "/work" none "# Usage\n```\nrun\n```\n" := by
  intro h
  obtain ⟨text, htext, hblock⟩ := h (by decide)
  cases htext
  exact absurd hblock (by decide)

end CodexAcp.Boundary

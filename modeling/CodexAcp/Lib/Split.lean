import CodexAcp.Lib.Text

/-!
# Texts in pieces

Splitting a text at every separator, at its whitespace and at its last
separator, and taking a suffix off its end. A text without the separator goes
whole into the first piece (`splitOn_append`), and no piece has the separator
(`not_mem_of_mem_splitOn`). What is trimmed off the end is one character, some
number of times (`eq_rdropWhile_append`).
-/

namespace CodexAcp.Lib.Text

/-- The texts between the separators. -/
def split (sep : Char) (s : String) : List String := (s.toList.splitOn sep).map String.ofList

/-- The words of a list of characters, of which `word` was read, the last one first. -/
def wordsChars (word : List Char) : List Char → List (List Char)
  | [] => if word.isEmpty then [] else [word.reverse]
  | c :: cs =>
    if isWhitespace c then
      if word.isEmpty then wordsChars [] cs else word.reverse :: wordsChars [] cs
    else wordsChars (c :: word) cs

/-- The words of a text, with whitespace between them. -/
def splitWhitespace (s : String) : List String := (wordsChars [] s.toList).map String.ofList

/-- The texts before and after the last `sep`. -/
def rsplitOnce (sep : Char) (s : String) : Option (String × String) :=
  (splitOnceChars sep s.toList.reverse).map fun (after, before) =>
    (String.ofList before.reverse, String.ofList after.reverse)

/-- The text before `p`, when the text ends with `p`. -/
def stripSuffix (p s : String) : Option String :=
  (stripPrefixChars p.toList.reverse s.toList.reverse).map fun cs => String.ofList cs.reverse

/-- Drop every `c` at the end of a text. -/
def trimEndMatches (c : Char) (s : String) : String :=
  String.ofList (s.toList.rdropWhile (· = c))

/-! ## Splitting -/

/-- What has no separator is the beginning of the first piece. -/
theorem splitOn_append {sep : Char} {cs : List Char} (h : sep ∉ cs) {rest piece : List Char}
    {pieces : List (List Char)} (hrest : rest.splitOn sep = piece :: pieces) :
    (cs ++ rest).splitOn sep = (cs ++ piece) :: pieces := by
  induction cs with
  | nil => exact hrest
  | cons c cs ih =>
    rw [List.mem_cons, not_or] at h
    have hc : ¬ (c == sep) = true := fun hc => h.1 (beq_iff_eq.mp hc).symm
    rw [List.cons_append, List.splitOn_cons_eq_if_modifyHead, if_neg hc, ih h.2]
    rfl

theorem not_mem_of_mem_splitOn {sep : Char} {cs piece : List Char}
    (h : piece ∈ cs.splitOn sep) : sep ∉ piece := by
  induction cs generalizing piece with
  | nil =>
    rw [List.splitOn_nil, List.mem_singleton] at h
    rw [h]
    exact List.not_mem_nil
  | cons c cs ih =>
    rw [List.splitOn_cons_eq_if_modifyHead] at h
    split at h
    next =>
      rcases List.mem_cons.mp h with rfl | h
      · exact List.not_mem_nil
      · exact ih h
    next hc =>
      cases hsplit : cs.splitOn sep with
      | nil => exact absurd hsplit (List.splitOn_ne_nil sep cs)
      | cons first rest =>
        rw [hsplit, List.modifyHead_cons] at h
        rw [hsplit] at ih
        rcases List.mem_cons.mp h with rfl | h
        · rw [List.mem_cons, not_or]
          exact ⟨fun hsep => hc (beq_iff_eq.mpr hsep.symm), ih (List.mem_cons_self ..)⟩
        · exact ih (List.mem_cons_of_mem _ h)

/-! ## Trimming at the end -/

/-- What is trimmed off the end is one character, some number of times. -/
theorem eq_rdropWhile_append (c : Char) (cs : List Char) :
    ∃ n, cs = cs.rdropWhile (· = c) ++ List.replicate n c := by
  have hall : ∀ d ∈ cs.rtakeWhile (· = c), d = c := by
    intro d hd
    simpa using List.mem_rtakeWhile_imp hd
  refine ⟨(cs.rtakeWhile (· = c)).length, ?_⟩
  rw [← List.eq_replicate_of_mem hall, List.rdropWhile_append_rtakeWhile]

theorem rdropWhile_append_replicate (c : Char) (cs : List Char) (n : Nat) :
    (cs ++ List.replicate n c).rdropWhile (· = c) = cs.rdropWhile (· = c) := by
  induction n with
  | zero => rw [List.replicate_zero, List.append_nil]
  | succ n ih =>
    rw [List.replicate_succ', ← List.append_assoc, List.rdropWhile_concat_pos _ _ _ (by simp), ih]

/-- A text that does not end with the character stays as it is. -/
theorem rdropWhile_eq_self {c : Char} {cs : List Char} :
    cs.rdropWhile (· = c) = cs ↔ cs.getLast? ≠ some c := by
  rw [List.rdropWhile_eq_self_iff]
  cases cs using List.reverseRecOn with
  | nil => simp
  | append_singleton cs d => simp

end CodexAcp.Lib.Text

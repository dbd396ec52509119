import CodexAcp.Lib.Span
import CodexAcp.Lib.Split
import Mathlib.Data.List.DropRight

/-!
# Fenced code blocks

The part of CommonMark that reads a fenced code block. A line ends with `\n`,
`\r\n` or `\r`, and the character with code 0 is read as the replacement
character. A block begins with a line of at least three backquotes or tildes; the
lines after it are taken as they are, up to a line with nothing but a fence of the
same character that is no shorter, or up to the end of the document.

> `onlyFencedBlock_eq`: of a document that is put together from a fence, a text and
> a closing fence, the block is the text, if no line of it closes the fence, and
> otherwise it is not the only block.
-/

namespace CodexAcp.Lib.CommonMark

open CodexAcp.Lib

/-! ## Lines -/

/-- Every line ending as `\n`. -/
def normalise : List Char → List Char
  | [] => []
  | c :: cs =>
    if c = '\r' then
      -- Before a `\n` the `\r` belongs to the same line ending.
      if cs.head? = some '\n' then normalise cs else '\n' :: normalise cs
    else c :: normalise cs

/-- What a character is read as. -/
def readChar (c : Char) : Char := if c = '\x00' then Char.ofNat 0xFFFD else c

/-- The lines of a text; what follows the last line ending is one, and can be empty. -/
def lines (cs : List Char) : List (List Char) := (normalise cs).splitOn '\n'

/-- The lines of a document, where an empty rest is no line. -/
def documentLines (cs : List Char) : List (List Char) :=
  let ls := ((normalise cs).map readChar).splitOn '\n'
  if ls.getLast? = some [] then ls.dropLast else ls

def isBlank (line : List Char) : Bool := line.all fun c => c = ' ' || c = '\t'

/-! ## Fences -/

def backquote : Char := Char.ofNat 0x60

structure Fence where
  char : Char
  length : Nat
  indent : Nat
  deriving DecidableEq, Repr

/-- The indentation of a line and what follows it. -/
def indentation (line : List Char) : Nat × List Char :=
  ((line.takeWhile (· = ' ')).length, line.dropWhile (· = ' '))

/-- The line begins a fenced code block. -/
def openingFence (line : List Char) : Option Fence :=
  let (indent, rest) := indentation line
  match rest with
  | [] => none
  | c :: _ =>
    let length := (rest.takeWhile (· = c)).length
    let info := rest.dropWhile (· = c)
    if indent ≤ 3 ∧ (c = backquote ∧ backquote ∉ info ∨ c = '~') ∧ 3 ≤ length then
      some { char := c, length, indent }
    else none

/-- The line ends the block that the fence began. -/
def closesFence (fence : Fence) (line : List Char) : Bool :=
  let (indent, rest) := indentation line
  indent ≤ 3 && fence.length ≤ (rest.takeWhile (· = fence.char)).length &&
    isBlank (rest.dropWhile (· = fence.char))

/-- Take as much indentation away from a line as the fence has. -/
def outdent : Nat → List Char → List Char
  | n + 1, ' ' :: line => outdent n line
  | _, line => line

/-- The lines of the block, and those after it. -/
def fencedLines (fence : Fence) : List (List Char) → List (List Char) × List (List Char)
  | [] => ([], [])
  | line :: ls =>
    if closesFence fence line then ([], ls)
    else
      let (body, rest) := fencedLines fence ls
      (outdent fence.indent line :: body, rest)

/-- The text of a fenced code block that is all there is in the document. -/
def onlyFencedBlock (document : String) : Option String :=
  match (documentLines document.toList).dropWhile isBlank with
  | [] => none
  | line :: ls =>
    match openingFence line with
    | none => none
    | some fence =>
      let (body, rest) := fencedLines fence ls
      if rest.all isBlank then some (String.ofList (['\n'].intercalate body)) else none

/-! ## Line endings -/

theorem normalise_cons (c : Char) (cs : List Char) :
    normalise (c :: cs) =
      if c = '\r' then if cs.head? = some '\n' then normalise cs else '\n' :: normalise cs
      else c :: normalise cs := rfl

/-- A cut that is not in the middle of a `\r\n` leaves every line ending whole. -/
theorem normalise_append {cs ds : List Char} (h : cs.getLast? ≠ some '\r' ∨ ds.head? ≠ some '\n') :
    normalise (cs ++ ds) = normalise cs ++ normalise ds := by
  induction cs with
  | nil => rfl
  | cons c cs ih =>
    have hrest : normalise (cs ++ ds) = normalise cs ++ normalise ds := by
      cases cs with
      | nil => rfl
      | cons c' cs => exact ih (by rwa [List.getLast?_cons_cons] at h)
    rw [List.cons_append, normalise_cons, normalise_cons, hrest]
    by_cases hc : c = '\r'
    · have hhead : (cs ++ ds).head? = some '\n' ↔ cs.head? = some '\n' := by
        cases cs with
        | nil =>
          have hds : ds.head? ≠ some '\n' := by
            rcases h with h | h
            · exact absurd (congrArg some hc) h
            · exact h
          exact ⟨fun hd => absurd hd hds, nofun⟩
        | cons c' cs => exact Iff.rfl
      rw [if_pos hc, if_pos hc]
      by_cases hnewline : cs.head? = some '\n'
      · rw [if_pos hnewline, if_pos (hhead.mpr hnewline)]
      · rw [if_neg hnewline, if_neg (mt hhead.mp hnewline), List.cons_append]
    · rw [if_neg hc, if_neg hc, List.cons_append]

/-- A text without a `\r` stays as it is. -/
theorem normalise_eq_self {cs : List Char} (h : '\r' ∉ cs) : normalise cs = cs := by
  induction cs with
  | nil => rfl
  | cons c cs ih =>
    rw [List.mem_cons, not_or] at h
    rw [normalise_cons, if_neg (Ne.symm h.1), ih h.2]

theorem mem_normalise {c : Char} (hr : c ≠ '\r') (hn : c ≠ '\n') {cs : List Char} :
    c ∈ normalise cs ↔ c ∈ cs := by
  induction cs with
  | nil => rfl
  | cons d cs ih =>
    rw [normalise_cons]
    by_cases hd : d = '\r'
    · have hcd : c ≠ d := hd ▸ hr
      rw [if_pos hd, List.mem_cons, or_iff_right hcd]
      split
      · exact ih
      · rw [List.mem_cons, or_iff_right hn, ih]
    · rw [if_neg hd, List.mem_cons, List.mem_cons, ih]

/-- A text without the `\r` at its end, which a `\n` after it would take. -/
def dropCarriageReturn (cs : List Char) : List Char :=
  if cs.getLast? = some '\r' then cs.dropLast else cs

theorem normalise_append_newline (cs ds : List Char) :
    normalise (cs ++ '\n' :: ds) = normalise (dropCarriageReturn cs) ++ '\n' :: normalise ds := by
  have hnewline : normalise ('\n' :: ds) = '\n' :: normalise ds := by
    rw [normalise_cons, if_neg (by decide)]
  unfold dropCarriageReturn
  by_cases hr : cs.getLast? = some '\r'
  · obtain ⟨cs, rfl⟩ := List.getLast?_eq_some_iff.mp hr
    have hreturn : normalise ('\r' :: '\n' :: ds) = '\n' :: normalise ds := by
      rw [normalise_cons, if_pos rfl, List.head?_cons, if_pos rfl, hnewline]
    rw [if_pos hr, List.dropLast_concat, List.append_assoc, List.singleton_append,
      normalise_append (.inr (by rw [List.head?_cons]; decide)), hreturn]
  · rw [if_neg hr, normalise_append (.inl hr), hnewline]

/-- A text ends with a line ending exactly if it does so in its normal form. -/
theorem getLast?_normalise (cs : List Char) :
    (normalise cs).getLast? = some '\n' ↔ cs.getLast? = some '\n' ∨ cs.getLast? = some '\r' := by
  cases cs using List.reverseRecOn with
  | nil => decide
  | append_singleton cs c =>
    rw [List.getLast?_concat, Option.some.injEq, Option.some.injEq]
    by_cases hn : c = '\n'
    · subst hn
      rw [normalise_append_newline]
      simp [normalise]
    · rw [normalise_append (.inr (by simpa using hn)), normalise_cons]
      by_cases hr : c = '\r'
      · simp [hr, normalise]
      · simp [hr, normalise]

theorem normalise_newlines (cs : List Char) (n : Nat) :
    normalise (cs ++ List.replicate (n + 1) '\n') =
      normalise (dropCarriageReturn cs) ++ List.replicate (n + 1) '\n' := by
  have hreplicate : '\r' ∉ List.replicate n '\n' := by
    intro h
    exact absurd (List.eq_of_mem_replicate h) (by decide)
  rw [List.replicate_succ, normalise_append_newline, normalise_eq_self hreplicate]

/-! ## Documents -/

def isPlainChar (c : Char) : Bool := c ≠ '\n' && c ≠ '\r' && c ≠ '\x00'

/-- A line that reads as it is written. -/
def IsPlain (line : List Char) : Prop := line.all isPlainChar = true

theorem IsPlain.not_mem {line : List Char} (h : IsPlain line) {c : Char}
    (hc : isPlainChar c = false) : c ∉ line := by
  intro hmem
  exact Bool.false_ne_true (hc.symm.trans (List.all_eq_true.mp h c hmem))

theorem IsPlain.dropCarriageReturn {line : List Char} (h : IsPlain line) :
    dropCarriageReturn line = line := by
  unfold CommonMark.dropCarriageReturn
  rw [if_neg]
  intro hlast
  exact h.not_mem (by decide) (List.mem_of_getLast? hlast)

theorem IsPlain.normalise {line : List Char} (h : IsPlain line) : normalise line = line :=
  normalise_eq_self (h.not_mem (by decide))

theorem map_readChar {cs : List Char} (h : '\x00' ∉ cs) : cs.map readChar = cs := by
  have hid : ∀ c ∈ cs, readChar c = id c := by
    rintro c hc
    exact if_neg (by rintro rfl; exact h hc)
  rw [List.map_congr_left hid, List.map_id]

theorem IsPlain.map_readChar {line : List Char} (h : IsPlain line) : line.map readChar = line :=
  CommonMark.map_readChar (h.not_mem (by decide))

/-- The text of the lines between a first and a last line. -/
def innerText (cs : List Char) : List Char := (normalise (dropCarriageReturn cs)).map readChar

theorem documentLines_eq {first last : List Char} (hfirst : IsPlain first) (hlast : IsPlain last)
    (cs : List Char) :
    documentLines (first ++ '\n' :: (cs ++ '\n' :: (last ++ ['\n']))) =
      first :: ((innerText cs).splitOn '\n' ++ [last]) := by
  have hread : (normalise (first ++ '\n' :: (cs ++ '\n' :: (last ++ ['\n'])))).map readChar =
      first ++ '\n' :: (innerText cs ++ '\n' :: (last ++ ['\n'])) := by
    rw [normalise_append_newline, normalise_append_newline, normalise_append_newline,
      hfirst.dropCarriageReturn, hlast.dropCarriageReturn, hfirst.normalise, hlast.normalise]
    simp only [List.map_append, List.map_cons, hfirst.map_readChar, hlast.map_readChar]
    rfl
  have hlines : (first ++ '\n' :: (innerText cs ++ '\n' :: (last ++ ['\n']))).splitOn '\n' =
      (first :: ((innerText cs).splitOn '\n' ++ [last])) ++ [[]] := by
    have hn : isPlainChar '\n' = false := by decide
    rw [List.splitOn_append_cons_self_of_not_mem (hfirst.not_mem hn),
      List.splitOn_append_cons_self, List.splitOn_append_cons_self_of_not_mem (hlast.not_mem hn),
      List.splitOn_nil]
    simp
  unfold documentLines
  dsimp only
  rw [hread, hlines, if_pos (List.getLast?_concat ..), List.dropLast_concat]

/-! ## Blocks -/

/-- A run of backquotes is as long as it was written, where none follows it. -/
theorem takeWhile_backquotes (n : Nat) {info : List Char} (h : backquote ∉ info) :
    (List.replicate n backquote ++ info).takeWhile (· = backquote) = List.replicate n backquote ∧
      (List.replicate n backquote ++ info).dropWhile (· = backquote) = info := by
  have hspan : Text.IsSpan (· = backquote) (List.replicate n backquote) info := by
    constructor
    · intro c hc
      exact decide_eq_true (List.eq_of_mem_replicate hc)
    · intro c hc
      exact decide_eq_false fun heq => h (heq ▸ List.mem_of_mem_head? hc)
  exact ⟨hspan.takeWhile, hspan.dropWhile⟩

/-- A run of at least three backquotes begins a block, with what follows as its info string. -/
theorem openingFence_backquotes {n : Nat} (hn : 3 ≤ n) {info : List Char} (h : backquote ∉ info) :
    openingFence (List.replicate n backquote ++ info) =
      some { char := backquote, length := n, indent := 0 } := by
  obtain ⟨m, rfl⟩ : ∃ m, n = m + 1 := ⟨n - 1, by omega⟩
  obtain ⟨htake, hdrop⟩ := takeWhile_backquotes (m + 1) h
  have hindent : indentation (List.replicate (m + 1) backquote ++ info) =
      (0, List.replicate (m + 1) backquote ++ info) := rfl
  unfold openingFence
  simp only [hindent]
  rw [List.replicate_succ, List.cons_append] at htake hdrop ⊢
  simp only [htake, hdrop]
  rw [if_pos]
  · simp
  · simp [h]
    omega

theorem fencedLines_of_open {fence : Fence} {ls : List (List Char)}
    (h : ∀ line ∈ ls, closesFence fence line = false) {last : List Char}
    (hlast : closesFence fence last = true) (rest : List (List Char)) :
    fencedLines fence (ls ++ last :: rest) = (ls.map (outdent fence.indent), rest) := by
  induction ls with
  | nil => rw [List.nil_append, fencedLines, if_pos hlast]; rfl
  | cons line ls ih =>
    rw [List.forall_mem_cons] at h
    rw [List.cons_append, fencedLines, h.1, if_neg Bool.false_ne_true, ih h.2]
    rfl

/-- Where a line closes the fence before the last one, the last one is not in the block. -/
theorem mem_fencedLines_of_closed {fence : Fence} {ls : List (List Char)}
    (h : ∃ line ∈ ls, closesFence fence line = true) (last : List Char) (rest : List (List Char)) :
    last ∈ (fencedLines fence (ls ++ last :: rest)).2 := by
  induction ls with
  | nil => exact absurd h (by simp)
  | cons line ls ih =>
    rw [List.cons_append, fencedLines]
    split
    · exact List.mem_append_right _ (List.mem_cons_self ..)
    next hline =>
      refine ih ?_
      obtain ⟨closing, hmem, hclosing⟩ := h
      rcases List.mem_cons.mp hmem with rfl | hmem
      · exact absurd hclosing hline
      · exact ⟨closing, hmem, hclosing⟩

/-- A fence, a text and a closing fence: the text is the block, up to the line that closes the
fence. -/
theorem onlyFencedBlock_eq {first last : List Char} {fence : Fence}
    (hopening : openingFence first = some fence) (hindent : fence.indent = 0)
    (hclosing : closesFence fence last = true) (hblank : isBlank first = false)
    (hblank' : isBlank last = false) (hfirst : IsPlain first) (hlast : IsPlain last)
    (cs : List Char) :
    onlyFencedBlock (String.ofList (first ++ '\n' :: (cs ++ '\n' :: (last ++ ['\n'])))) =
      if ∀ line ∈ (innerText cs).splitOn '\n', closesFence fence line = false then
        some (String.ofList (innerText cs))
      else none := by
  unfold onlyFencedBlock
  rw [String.toList_ofList, documentLines_eq hfirst hlast,
    List.dropWhile_cons_of_neg (by rw [hblank]; exact Bool.false_ne_true)]
  dsimp only
  rw [hopening]
  dsimp only
  by_cases hlines : ∀ line ∈ (innerText cs).splitOn '\n', closesFence fence line = false
  · have houtdent : outdent fence.indent = id := by
      rw [hindent]
      funext line
      cases line <;> rfl
    rw [if_pos hlines, fencedLines_of_open hlines hclosing, houtdent, List.map_id,
      List.intercalate_splitOn]
    rfl
  · rw [if_neg hlines]
    simp only [not_forall, Bool.not_eq_false, exists_prop] at hlines
    -- the last line is after the block, and it is not blank
    have hrest := mem_fencedLines_of_closed hlines last []
    rw [if_neg]
    intro hall
    exact absurd (List.all_eq_true.mp hall last hrest) (by rw [hblank']; exact Bool.false_ne_true)

/-! ## Reading back -/

/-- The text without the line endings at its end. -/
def body (cs : List Char) : List Char := (normalise cs).rdropWhile (· = '\n')

/-- What keeps a text from being read back: the character that no document has, a line that
closes the fence, and, after its `\n`s were trimmed off, a `\r` with a line ending before it. -/
structure FitsFence (fence : Fence) (cs : List Char) : Prop where
  noNul : '\x00' ∉ cs
  noFence : ∀ line ∈ lines cs, closesFence fence line = false
  noReturn : ∀ ds c, cs.rdropWhile (· = '\n') = ds ++ [c, '\r'] → c ≠ '\n' ∧ c ≠ '\r'

/-- Trimming the `\n`s first leaves fewer line endings of the normal form. -/
theorem normalise_eq_append (cs : List Char) :
    ∃ n, normalise cs = normalise (dropCarriageReturn (cs.rdropWhile (· = '\n'))) ++
      List.replicate n '\n' := by
  obtain ⟨n, hcs⟩ := Text.eq_rdropWhile_append '\n' cs
  generalize cs.rdropWhile (· = '\n') = ds at hcs
  rw [hcs]
  cases n with
  | succ n => exact ⟨n + 1, normalise_newlines ds n⟩
  | zero =>
    rw [List.replicate_zero, List.append_nil]
    unfold dropCarriageReturn
    by_cases hr : ds.getLast? = some '\r'
    · obtain ⟨ds, rfl⟩ := List.getLast?_eq_some_iff.mp hr
      rw [if_pos hr, List.dropLast_concat, normalise_append (.inr (by decide))]
      exact ⟨1, rfl⟩
    · rw [if_neg hr]
      exact ⟨0, (List.append_nil _).symm⟩

theorem splitOn_append_replicate (cs : List Char) (n : Nat) :
    (cs ++ List.replicate n '\n').splitOn '\n' = cs.splitOn '\n' ++ List.replicate n [] := by
  induction n with
  | zero => rw [List.replicate_zero, List.replicate_zero, List.append_nil, List.append_nil]
  | succ n ih =>
    rw [List.replicate_succ', ← List.append_assoc, List.splitOn_append_cons_self, ih,
      List.splitOn_nil, List.replicate_succ', List.append_assoc]

/-- Of a text whose `\n`s were trimmed off, the rest ends with a line ending exactly if it is a
`\r` that has another one before it. -/
theorem getLast?_dropCarriageReturn (cs : List Char) :
    (normalise (dropCarriageReturn (cs.rdropWhile (· = '\n')))).getLast? = some '\n' ↔
      ∃ ds c, cs.rdropWhile (· = '\n') = ds ++ [c, '\r'] ∧ (c = '\n' ∨ c = '\r') := by
  have htrimmed : (cs.rdropWhile (· = '\n')).getLast? ≠ some '\n' :=
    Text.rdropWhile_eq_self.mp (List.rdropWhile_idempotent _ _)
  generalize cs.rdropWhile (· = '\n') = ds at htrimmed
  rw [getLast?_normalise]
  unfold dropCarriageReturn
  by_cases hr : ds.getLast? = some '\r'
  · obtain ⟨ds, rfl⟩ := List.getLast?_eq_some_iff.mp hr
    rw [if_pos hr, List.dropLast_concat]
    constructor
    · rintro (h | h)
      · obtain ⟨es, rfl⟩ := List.getLast?_eq_some_iff.mp h
        exact ⟨es, '\n', by simp, .inl rfl⟩
      · obtain ⟨es, rfl⟩ := List.getLast?_eq_some_iff.mp h
        exact ⟨es, '\r', by simp, .inr rfl⟩
    · rintro ⟨es, c, h, hc⟩
      rw [List.append_cons es] at h
      rw [(List.append_inj' h rfl).1, List.getLast?_concat, Option.some.injEq, Option.some.injEq]
      exact hc
  · rw [if_neg hr]
    refine ⟨fun h => absurd h (not_or.mpr ⟨htrimmed, hr⟩), ?_⟩
    rintro ⟨es, c, rfl, -⟩
    exact absurd (by rw [List.append_cons, List.getLast?_concat]) hr

theorem closesFence_nil {fence : Fence} (h : 0 < fence.length) : closesFence fence [] = false := by
  have hlength : ¬ fence.length ≤ 0 := Nat.not_le_of_gt h
  simp [closesFence, indentation, hlength]

/-- No document has the character with code 0. -/
theorem nul_not_mem_map_readChar (cs : List Char) : '\x00' ∉ cs.map readChar := by
  intro h
  obtain ⟨c, -, hc⟩ := List.mem_map.mp h
  unfold readChar at hc
  split at hc
  · exact absurd hc (by decide)
  next hne => exact hne hc

/-- The block is the text without its trailing line endings exactly if the text fits. -/
theorem innerText_eq_body_iff {fence : Fence} (hlength : 0 < fence.length) (cs : List Char) :
    ((∀ line ∈ (innerText (cs.rdropWhile (· = '\n'))).splitOn '\n',
        closesFence fence line = false) ∧
      innerText (cs.rdropWhile (· = '\n')) = body cs) ↔ FitsFence fence cs := by
  obtain ⟨n, hnormal⟩ := normalise_eq_append cs
  have hend := getLast?_dropCarriageReturn cs
  have hbody : body cs =
      (normalise (dropCarriageReturn (cs.rdropWhile (· = '\n')))).rdropWhile (· = '\n') := by
    unfold body
    rw [hnormal, Text.rdropWhile_append_replicate]
  have hnul : '\x00' ∈ normalise (dropCarriageReturn (cs.rdropWhile (· = '\n'))) ↔
      '\x00' ∈ cs := by
    rw [← @mem_normalise '\x00' (by decide) (by decide) cs, hnormal, List.mem_append]
    refine (or_iff_left fun h => ?_).symm
    exact absurd (List.eq_of_mem_replicate h) (by decide)
  have hlines : (∀ line ∈ lines cs, closesFence fence line = false) ↔
      ∀ line ∈ (normalise (dropCarriageReturn (cs.rdropWhile (· = '\n')))).splitOn '\n',
        closesFence fence line = false := by
    unfold lines
    rw [hnormal, splitOn_append_replicate, List.forall_mem_append]
    refine and_iff_left fun line hline => ?_
    rw [List.eq_of_mem_replicate hline]
    exact closesFence_nil hlength
  unfold innerText
  rw [hbody]
  generalize normalise (dropCarriageReturn (cs.rdropWhile (· = '\n'))) = text at *
  by_cases hmem : '\x00' ∈ text
  · -- it is read as another character
    refine ⟨fun h => absurd ?_ (nul_not_mem_map_readChar text),
      fun h => absurd (hnul.mp hmem) h.noNul⟩
    rw [h.2]
    obtain ⟨m, htext⟩ := Text.eq_rdropWhile_append '\n' text
    rw [htext, List.mem_append] at hmem
    exact hmem.resolve_right fun h => absurd (List.eq_of_mem_replicate h) (by decide)
  · rw [map_readChar hmem]
    constructor
    · rintro ⟨hopen, hself⟩
      refine ⟨mt hnul.mpr hmem, hlines.mpr hopen, fun ds c hds => ?_⟩
      have hlast := mt hend.mpr (Text.rdropWhile_eq_self.mp hself.symm)
      exact ⟨fun hc => hlast ⟨ds, c, hds, .inl hc⟩, fun hc => hlast ⟨ds, c, hds, .inr hc⟩⟩
    · intro h
      refine ⟨hlines.mp h.noFence, (Text.rdropWhile_eq_self.mpr fun hlast => ?_).symm⟩
      obtain ⟨ds, c, hds, hc⟩ := hend.mp hlast
      exact hc.elim (h.noReturn ds c hds).1 (h.noReturn ds c hds).2

/-- **Reading back.** A text between a fence and a closing one is read back without its trailing
line endings exactly if it fits. -/
theorem reads_back_iff {first last : List Char} {fence : Fence}
    (hopening : openingFence first = some fence) (hindent : fence.indent = 0)
    (hlength : 0 < fence.length) (hclosing : closesFence fence last = true)
    (hblank : isBlank first = false) (hblank' : isBlank last = false)
    (hfirst : IsPlain first) (hlast : IsPlain last) (cs : List Char) :
    onlyFencedBlock (String.ofList (first ++
      '\n' :: (cs.rdropWhile (· = '\n') ++ '\n' :: (last ++ ['\n'])))) =
        some (String.ofList (body cs)) ↔ FitsFence fence cs := by
  rw [← innerText_eq_body_iff hlength,
    onlyFencedBlock_eq hopening hindent hclosing hblank hblank' hfirst hlast,
    Option.ite_none_right_eq_some, Option.some.injEq, String.ofList_inj]

end CodexAcp.Lib.CommonMark

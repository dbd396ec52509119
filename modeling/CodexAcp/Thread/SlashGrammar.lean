import CodexAcp.Lib.Slice
import CodexAcp.Lib.Span
import CodexAcp.Thread.PromptItems

/-!
# The grammar of slash commands

A command is a slash and a name, or a slash, a name, whitespace and a rest. The
name is found by a scan over the characters and their byte offsets, and cut out
at the offset where the scan stopped, so there are two things to show: that the
offset is where a character begins, whatever the text, and that what is cut out
is what the grammar says.

> `sliceSlashCommand_eq`: the slices never fail, and are the parts of the command.
> `extractSlashCommand_grammar`: a command is found exactly where there is one, and
> there is one way only to read it.
-/

namespace CodexAcp.Thread

open CodexAcp.Lib CodexAcp.Protocol

/-! ## The slices -/

/-- The loop over the characters and their offsets, left at the first whitespace. -/
def nameEnd (last : Nat) : List (Nat × Char) → Nat
  | [] => last
  | (idx, ch) :: rest => if Text.isWhitespace ch then idx else nameEnd last rest

/-- `slashCommandParts` as it is computed, over the bytes of the line. There is no result where
a slice falls inside a character. -/
def sliceSlashCommand (line : String) : Option (Option (String × String)) :=
  match Text.stripPrefix "/" line with
  | none => some none
  | some stripped => do
    let nameEnd := nameEnd (Slice.byteLen stripped) (Slice.charIndices stripped)
    let name ← Slice.sliceTo stripped nameEnd
    if name = "" then some none
    else
      let rest ← Slice.sliceFrom stripped nameEnd
      some (some (name, Slice.trimStart rest))

/-- The slash command a prompt starts with, cut out of its first text. -/
def sliceFirstSlashCommand : List UserInput → Option (Option (String × String))
  | .text line :: _ => sliceSlashCommand line
  | _ => some none

/-! ## The grammar -/

/-- The name of a command: not empty, and without whitespace. -/
def IsCommandName (name : String) : Prop :=
  name ≠ "" ∧ ∀ c ∈ name.toList, Text.isWhitespace c = false

/-- What is between the name and the rest: whitespace, and not nothing. -/
def IsCommandGap (ws : String) : Prop := ws ≠ "" ∧ ∀ c ∈ ws.toList, Text.isWhitespace c = true

/-- What follows the whitespace does not begin with more of it. -/
def IsCommandRest (rest : String) : Prop := ∀ c ∈ rest.toList.head?, Text.isWhitespace c = false

/-- A line that is a command, with its name, the whitespace after it and the rest. -/
inductive IsCommand : String → String → String → String → Prop
  | bare {name : String} (hname : IsCommandName name) : IsCommand ("/" ++ name) name "" ""
  | withRest {name ws rest : String} (hname : IsCommandName name) (hws : IsCommandGap ws)
      (hrest : IsCommandRest rest) : IsCommand ("/" ++ name ++ ws ++ rest) name ws rest

section Slices

/-- The scan stops after the bytes of the characters before the first whitespace. The induction
is on the characters, and the offset is that of the first one. -/
theorem nameEnd_charIndicesFrom (offset : Nat) (chars : List Char) :
    nameEnd (offset + (chars.flatMap String.utf8EncodeChar).length)
        (Slice.charIndicesFrom offset chars) =
      offset + ((chars.takeWhile (!Text.isWhitespace ·)).flatMap String.utf8EncodeChar).length := by
  induction chars generalizing offset with
  | nil => rfl
  | cons c chars ih =>
    unfold Slice.charIndicesFrom nameEnd
    cases hc : Text.isWhitespace c with
    | true => simp [hc]
    | false =>
      have hrest := ih (offset + (String.utf8EncodeChar c).length)
      rw [if_neg Bool.false_ne_true, List.takeWhile_cons_of_pos (by rw [hc]; rfl),
        List.flatMap_cons, List.flatMap_cons, List.length_append, List.length_append,
        ← Nat.add_assoc, ← Nat.add_assoc]
      exact hrest

theorem nameEnd_charIndices (stripped : String) :
    nameEnd (Slice.byteLen stripped) (Slice.charIndices stripped) =
      Slice.byteLen (String.ofList (stripped.toList.takeWhile (!Text.isWhitespace ·))) := by
  have h := nameEnd_charIndicesFrom 0 stripped.toList
  rw [Nat.zero_add, Nat.zero_add] at h
  unfold Slice.byteLen
  rw [Utf8.utf8_ofList]
  exact h

/-- A line that begins with no slash is no command. -/
theorem slashCommandParts_of_not_slash {line : String} (h : Text.stripPrefix "/" line = none) :
    slashCommandParts line = none := by
  unfold slashCommandParts
  split
  next stripped hline =>
    have hslash : Text.stripPrefix "/" line = some (String.ofList stripped) := by
      rw [Text.stripPrefix_eq_some_iff, ← String.toList_inj, hline, String.toList_append]
      exact congrArg ('/' :: ·) String.toList_ofList.symm
    rw [hslash] at h
    cases h
  next => rfl

/-- The parts of a command, of what is after the slash. -/
theorem slashCommandParts_slash (stripped : String) :
    slashCommandParts ("/" ++ stripped) =
      let name := stripped.toList.takeWhile (!Text.isWhitespace ·)
      let tail := stripped.toList.dropWhile (!Text.isWhitespace ·)
      if name.isEmpty then none
      else some (String.ofList name, String.ofList (tail.dropWhile Text.isWhitespace)) := by
  unfold slashCommandParts
  rw [String.toList_append]
  rfl

/-- **The slices.** Whatever the line, it is sliced between two characters, and the slices are
the parts of the command. -/
theorem sliceSlashCommand_eq (line : String) :
    sliceSlashCommand line = some (slashCommandParts line) := by
  unfold sliceSlashCommand
  cases hslash : Text.stripPrefix "/" line with
  | none => rw [slashCommandParts_of_not_slash hslash]
  | some stripped =>
    rw [Text.stripPrefix_eq_some_iff.mp hslash, slashCommandParts_slash]
    dsimp only
    rw [nameEnd_charIndices]
    have hstripped : stripped =
        String.ofList (stripped.toList.takeWhile (!Text.isWhitespace ·)) ++
          String.ofList (stripped.toList.dropWhile (!Text.isWhitespace ·)) := by
      rw [← String.ofList_append, List.takeWhile_append_dropWhile, String.ofList_toList]
    generalize stripped.toList.takeWhile (!Text.isWhitespace ·) = name at *
    generalize stripped.toList.dropWhile (!Text.isWhitespace ·) = tail at *
    -- both slices are at the offset where the name ends and the tail begins
    rw [hstripped, Slice.sliceTo_append, Slice.sliceFrom_append]
    show (if String.ofList name = "" then some none else _) = _
    by_cases hname : name = []
    · rw [hname]
      rfl
    · rw [if_neg, if_neg]
      · show some (some (_, Slice.trimStart (String.ofList tail))) = _
        unfold Slice.trimStart
        rw [String.toList_ofList]
      · rwa [List.isEmpty_iff]
      · rwa [String.ofList_eq_empty_iff]

example : sliceSlashCommand "/é\u2003目 x" = some (some ("é", "目 x")) := by decide

end Slices

section Grammar

variable {line name ws rest name' ws' rest' : String}

/-- A command is two runs after a slash: the name up to the first whitespace, and the whitespace
after it. -/
theorem isCommand_iff :
    IsCommand line name ws rest ↔ line = "/" ++ (name ++ (ws ++ rest)) ∧ name ≠ "" ∧
      Text.IsSpan (!Text.isWhitespace ·) name.toList (ws.toList ++ rest.toList) ∧
      Text.IsSpan Text.isWhitespace ws.toList rest.toList := by
  constructor
  · rintro (hname | ⟨hname, hws, hrest⟩)
    · refine ⟨by rw [String.empty_append, String.append_empty], hname.1, ⟨?_, nofun⟩, nofun, nofun⟩
      exact fun c hc => by rw [hname.2 c hc]; rfl
    · refine ⟨by simp only [String.append_assoc], hname.1, ⟨?_, ?_⟩, hws.2, hrest⟩
      · exact fun c hc => by rw [hname.2 c hc]; rfl
      · intro c hc
        rw [List.head?_append_of_ne_nil _ (Text.toList_ne_nil.mpr hws.1)] at hc
        rw [hws.2 c (List.mem_of_mem_head? hc)]
        rfl
  · rintro ⟨rfl, hne, hname, hws⟩
    have hname' : IsCommandName name := ⟨hne, fun c hc => by simpa using hname.all c hc⟩
    by_cases hempty : ws = ""
    · -- with nothing in between, what follows the name is whitespace and is none
      subst hempty
      have hrest : rest = "" := by
        rw [← String.toList_eq_nil_iff, ← List.head?_eq_none_iff, Option.eq_none_iff_forall_not_mem]
        intro c hc
        have hspace := hname.stops c hc
        rw [hws.stops c hc] at hspace
        cases hspace
      rw [hrest, String.append_empty, String.append_empty]
      exact .bare hname'
    · rw [← String.append_assoc, ← String.append_assoc]
      exact .withRest hname' ⟨hempty, hws.all⟩ hws.stops

/-- A line is read as a command in one way. -/
theorem IsCommand.unique (h : IsCommand line name ws rest) (h' : IsCommand line name' ws' rest') :
    name = name' ∧ ws = ws' ∧ rest = rest' := by
  obtain ⟨hline, -, hname, hws⟩ := isCommand_iff.mp h
  obtain ⟨hline', -, hname', hws'⟩ := isCommand_iff.mp h'
  rw [hline, String.append_right_inj, ← String.toList_inj] at hline'
  simp only [String.toList_append] at hline'
  obtain ⟨hn, htail⟩ := hname.unique hname' hline'
  obtain ⟨hw, hr⟩ := hws.unique hws' htail
  exact ⟨String.toList_inj.mp hn, String.toList_inj.mp hw, String.toList_inj.mp hr⟩

theorem IsCommand.parts (h : IsCommand line name ws rest) :
    slashCommandParts line = some (name, rest) := by
  obtain ⟨rfl, hne, hname, hws⟩ := isCommand_iff.mp h
  rw [slashCommandParts_slash]
  simp only [String.toList_append]
  rw [hname.takeWhile, hname.dropWhile, hws.dropWhile, if_neg, String.ofList_toList,
    String.ofList_toList]
  rwa [List.isEmpty_iff, String.toList_eq_nil_iff]

/-- The parts of a command are read off the grammar. -/
theorem slashCommandParts_eq_some_iff :
    slashCommandParts line = some (name, rest) ↔ ∃ ws, IsCommand line name ws rest := by
  refine ⟨fun h => ?_, fun ⟨ws, h⟩ => h.parts⟩
  cases hslash : Text.stripPrefix "/" line with
  | none =>
    rw [slashCommandParts_of_not_slash hslash] at h
    cases h
  | some stripped =>
    rw [Text.stripPrefix_eq_some_iff.mp hslash] at h ⊢
    rw [slashCommandParts_slash] at h
    dsimp only at h
    have hname := Text.isSpan_takeWhile (!Text.isWhitespace ·) stripped.toList
    have hstripped := @List.takeWhile_append_dropWhile _ (!Text.isWhitespace ·) stripped.toList
    generalize stripped.toList.takeWhile (!Text.isWhitespace ·) = run at *
    generalize stripped.toList.dropWhile (!Text.isWhitespace ·) = tail at *
    by_cases hempty : run.isEmpty = true
    · rw [if_pos hempty] at h
      cases h
    · rw [if_neg hempty] at h
      cases h
      refine ⟨String.ofList (tail.takeWhile Text.isWhitespace), isCommand_iff.mpr ⟨?_, ?_, ?_, ?_⟩⟩
      · rw [← String.ofList_append, List.takeWhile_append_dropWhile, ← String.ofList_append,
          hstripped, String.ofList_toList]
      · rwa [ne_eq, String.ofList_eq_empty_iff, ← List.isEmpty_iff]
      · rwa [String.toList_ofList, String.toList_ofList, String.toList_ofList,
          List.takeWhile_append_dropWhile]
      · rw [String.toList_ofList, String.toList_ofList]
        exact Text.isSpan_takeWhile _ _

/-- A text that begins as a command does is one. -/
theorem startsCommand_iff :
    startsCommand line = true ↔ ∃ name ws rest, IsCommand line name ws rest := by
  constructor
  · intro h
    cases hparts : slashCommandParts line with
    | none =>
      rw [slashCommandParts_eq_none_iff.mp hparts] at h
      cases h
    | some parts =>
      obtain ⟨ws, hcommand⟩ := slashCommandParts_eq_some_iff.mp hparts
      exact ⟨parts.1, ws, parts.2, hcommand⟩
  · rintro ⟨name, ws, rest, hcommand⟩
    rw [← Bool.not_eq_false, ← slashCommandParts_eq_none_iff, hcommand.parts]
    exact nofun

theorem extractSlashCommand_eq_some_iff {items : List UserInput} :
    extractSlashCommand items = some (name, rest) ↔
      ∃ line ws, items.head? = some (.text line) ∧ IsCommand line name ws rest := by
  unfold extractSlashCommand
  split
  next line items =>
    rw [slashCommandParts_eq_some_iff]
    constructor
    · exact fun ⟨ws, h⟩ => ⟨line, ws, rfl, h⟩
    · rintro ⟨_, ws, hline, h⟩
      cases hline
      exact ⟨ws, h⟩
  next items hitems =>
    refine ⟨nofun, ?_⟩
    rintro ⟨line, ws, hline, -⟩
    obtain ⟨items', rfl⟩ := List.head?_eq_some_iff.mp hline
    exact absurd rfl (hitems line items')

/-- A prompt that does not begin with a command goes to Codex as it is. -/
theorem promptSubmissionForItems_noCommand (codex : Codex) {items : List UserInput}
    (h : ∀ line name ws rest, items.head? = some (.text line) → ¬ IsCommand line name ws rest) :
    ThreadActor.promptSubmissionForItems codex items = pure (.submit (.userInput items)) := by
  have hnone : extractSlashCommand items = none := by
    rw [Option.eq_none_iff_forall_not_mem]
    rintro ⟨name, rest⟩ hcommand
    obtain ⟨line, ws, hline, hcommand⟩ := extractSlashCommand_eq_some_iff.mp hcommand
    exact h line name ws rest hline hcommand
  unfold ThreadActor.promptSubmissionForItems
  rw [hnone]

end Grammar

/-- **The grammar.** For every prompt the slices are between characters and give the command that
is found. One is found exactly where the first item is a text that is a command, and it is read
in one way. -/
theorem extractSlashCommand_grammar (items : List UserInput) :
    sliceFirstSlashCommand items = some (extractSlashCommand items) ∧
      (∀ name rest, extractSlashCommand items = some (name, rest) ↔
        ∃ line ws, items.head? = some (.text line) ∧ IsCommand line name ws rest) ∧
      ∀ line name ws rest name' ws' rest', items.head? = some (.text line) →
        IsCommand line name ws rest → IsCommand line name' ws' rest' →
          name = name' ∧ ws = ws' ∧ rest = rest' := by
  refine ⟨?_, fun name rest => extractSlashCommand_eq_some_iff,
    fun line name ws rest name' ws' rest' _ h h' => h.unique h'⟩
  cases items with
  | nil => rfl
  | cons item items =>
    cases item with
    | text line => exact sliceSlashCommand_eq line
    | _ => rfl

end CodexAcp.Thread

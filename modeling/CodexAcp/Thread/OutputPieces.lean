import CodexAcp.Thread.ActiveTools

/-!
# Pieces of a command's output

While a command runs its output comes in chunks of bytes, and what is typed into
it comes between them. Each piece is sent to the terminal as a text by itself,
and the end of the command sends what is missing then.

> `output_append_delta`: what the terminal shows in the end is what was sent and
> what the end adds to it, `terminalText`.
> `terminalText_iff`: that is what the pieces stand for exactly when every chunk
> is a text, nothing is typed into a command with output, and a command without
> any ends without any.
-/

namespace CodexAcp.Thread

open CodexAcp.Lib CodexAcp.Protocol CodexAcp.Boundary

/-! ## Pieces of output -/

/-- Something that goes to a command's terminal while it runs. -/
inductive OutputPiece where
  | chunk (bytes : List UInt8)
  | typed (stdin : String)
  deriving DecidableEq, Repr

namespace OutputPiece

/-- The text a piece is sent as. -/
def text : OutputPiece → String
  | chunk bytes => Utf8.fromUtf8Lossy bytes
  | typed stdin => ActiveToolState.echo stdin

/-- The bytes of a piece. -/
def bytes : OutputPiece → List UInt8
  | chunk bytes => bytes
  | typed stdin => Utf8.utf8 (ActiveToolState.echo stdin)

def chunk? : OutputPiece → Option (List UInt8)
  | chunk bytes => some bytes
  | typed _ => none

def stdin? : OutputPiece → Option String
  | chunk _ => none
  | typed stdin => some stdin

/-- The piece of a call's output an event brings. -/
def ofEvent (callId : String) : EventMsg → Option OutputPiece
  | .execCommandOutputDelta delta => if delta.callId = callId then some (chunk delta.chunk) else none
  | .terminalInteraction event => if event.callId = callId then some (typed event.stdin) else none
  | _ => none

end OutputPiece

/-- The event begins or ends the call, or asks about it. -/
def bounds (callId : String) : EventMsg → Bool
  | .execApprovalRequest approval => approval.callId = callId
  | .execCommandBegin begun => begun.callId = callId
  | .execCommandEnd ended => ended.callId = callId
  | _ => false

/-- The chunks of some pieces, in order. -/
def chunks (pieces : List OutputPiece) : List (List UInt8) := pieces.filterMap (·.chunk?)

/-- What was typed, in order. -/
def stdins (pieces : List OutputPiece) : List String := pieces.filterMap (·.stdin?)

/-- The text the pieces are sent as. -/
def joined (pieces : List OutputPiece) : String := String.join (pieces.map (·.text))

/-- The bytes of what was typed. -/
def echoes (pieces : List OutputPiece) : List UInt8 :=
  (stdins pieces).flatMap fun stdin => Utf8.utf8 (ActiveToolState.echo stdin)

section

variable (bytes : List UInt8) (stdin : String) (pieces : List OutputPiece)

@[simp] theorem chunks_chunk : chunks (.chunk bytes :: pieces) = bytes :: chunks pieces := rfl

@[simp] theorem chunks_typed : chunks (.typed stdin :: pieces) = chunks pieces := rfl

@[simp] theorem stdins_chunk : stdins (.chunk bytes :: pieces) = stdins pieces := rfl

@[simp] theorem joined_cons (piece : OutputPiece) :
    joined (piece :: pieces) = piece.text ++ joined pieces := by
  unfold joined
  rw [List.map_cons, String.join_cons]

@[simp] theorem echoes_chunk : echoes (.chunk bytes :: pieces) = echoes pieces := rfl

@[simp] theorem echoes_typed :
    echoes (.typed stdin :: pieces) = Utf8.utf8 (ActiveToolState.echo stdin) ++ echoes pieces := rfl

end

/-- Every byte is of a chunk or of an echo. -/
theorem length_bytes (pieces : List OutputPiece) :
    (pieces.flatMap (·.bytes)).length = (chunks pieces).flatten.length + (echoes pieces).length := by
  induction pieces with
  | nil => rfl
  | cons piece pieces ih =>
    rw [List.flatMap_cons, List.length_append, ih]
    cases piece with
    | chunk bytes =>
      rw [chunks_chunk, echoes_chunk, List.flatten_cons, List.length_append, OutputPiece.bytes]
      omega
    | typed stdin =>
      rw [chunks_typed, echoes_typed, List.length_append, OutputPiece.bytes]
      omega

/-- Of a chunk at least as many bytes are sent as it has characters. -/
theorem length_joined (pieces : List OutputPiece) :
    (Utf8.readPieces (chunks pieces)).length + (echoes pieces).length ≤
      (Utf8.utf8 (joined pieces)).length := by
  induction pieces with
  | nil => exact Nat.zero_le _
  | cons piece pieces ih =>
    rw [joined_cons, Utf8.utf8_append, List.length_append]
    cases piece with
    | chunk bytes =>
      have hchars := Utf8.length_le_utf8 (Utf8.fromUtf8Lossy bytes)
      rw [chunks_chunk, echoes_chunk, OutputPiece.text, Utf8.readPieces_cons, List.length_append]
      omega
    | typed stdin =>
      rw [chunks_typed, echoes_typed, OutputPiece.text, List.length_append]
      omega

theorem echoes_pos {pieces : List OutputPiece} (h : stdins pieces ≠ []) :
    0 < (echoes pieces).length := by
  obtain ⟨stdin, rest, hstdins⟩ := List.exists_cons_of_ne_nil h
  have hecho := Utf8.length_le_utf8 (ActiveToolState.echo stdin)
  have hpos : 0 < (ActiveToolState.echo stdin).toList.length := by
    unfold ActiveToolState.echo
    rw [String.toList_append, List.length_append]
    exact Nat.lt_add_left _ Nat.one_pos
  unfold echoes
  rw [hstdins, List.flatMap_cons, List.length_append]
  omega

/-- Without typing the pieces are the chunks. -/
theorem joined_of_stdins_nil {pieces : List OutputPiece} (h : stdins pieces = []) :
    (joined pieces).toList = Utf8.readPieces (chunks pieces) ∧
      pieces.flatMap (·.bytes) = (chunks pieces).flatten := by
  induction pieces with
  | nil => exact ⟨rfl, rfl⟩
  | cons piece pieces ih =>
    cases piece with
    | chunk bytes =>
      obtain ⟨htext, hbytes⟩ := ih h
      rw [joined_cons, String.toList_append, htext, List.flatMap_cons, hbytes]
      exact ⟨rfl, rfl⟩
    | typed stdin => cases h

/-- Without bytes in the chunks the pieces are the echoes. -/
theorem bytes_of_chunks_nil {pieces : List OutputPiece} (h : (chunks pieces).flatten = []) :
    pieces.flatMap (·.bytes) = Utf8.utf8 (joined pieces) ∧
      (joined pieces = "" ↔ stdins pieces = []) := by
  induction pieces with
  | nil => exact ⟨rfl, iff_of_true rfl rfl⟩
  | cons piece pieces ih =>
    cases piece with
    | chunk bytes =>
      rw [chunks_chunk, List.flatten_cons, List.append_eq_nil_iff] at h
      obtain ⟨rfl, hrest⟩ := h
      have hnothing : (OutputPiece.chunk []).text = "" := by decide
      rw [joined_cons, hnothing, String.empty_append, stdins_chunk]
      exact ih hrest
    | typed stdin =>
      obtain ⟨hbytes, -⟩ := ih h
      rw [List.flatMap_cons, hbytes, joined_cons, Utf8.utf8_append]
      refine ⟨rfl, iff_of_false ?_ nofun⟩
      intro hempty
      have hechoes := @echoes_pos (.typed stdin :: pieces) nofun
      have hlength := length_joined (.typed stdin :: pieces)
      rw [joined_cons, hempty] at hlength
      have : (Utf8.utf8 "").length = 0 := rfl
      omega

/-! ## What is missing at the end -/

/-- The text a terminal shows after a call whose pieces were sent as `sent`. -/
def terminalText (ended : ExecCommandEndEvent) (sent : String) : String :=
  if ended.formattedOutput ≠ "" then
    match Text.stripPrefix sent ended.formattedOutput with
    | some _ => ended.formattedOutput
    | none => sent ++ ended.formattedOutput
  else if sent ≠ "" then sent
  else ended.aggregatedOutput

/-- The end sends what is missing of the output, and all of it again where what was sent is
no prefix of it. -/
theorem output_append_delta (ended : ExecCommandEndEvent) (command : ActiveCommand) :
    command.output ++ (command.completionTerminalOutputDelta
        (execCompletionOutputSnapshot ended.formattedOutput command
          ended.aggregatedOutput)).getD "" =
      terminalText ended command.output := by
  unfold terminalText execCompletionOutputSnapshot ActiveCommand.completionTerminalOutputDelta
  by_cases hformatted : ended.formattedOutput = ""
  · rw [if_neg (not_not.mpr hformatted), if_neg (not_not.mpr hformatted)]
    by_cases hsent : command.output = ""
    · rw [if_neg (not_not.mpr hsent), hsent, if_pos rfl, String.empty_append]
      split
      next h => exact h.symm
      next => rfl
    · have hwhole : Text.stripPrefix command.output command.output = some "" := by
        rw [Text.stripPrefix_eq_some_iff, String.append_empty]
      rw [if_pos hsent, if_neg hsent, if_neg hsent, hwhole]
      exact String.append_empty
  · rw [if_pos hformatted, if_pos hformatted, if_neg hformatted]
    by_cases hsent : command.output = ""
    · have hnone : Text.stripPrefix "" ended.formattedOutput = some ended.formattedOutput := by
        rw [Text.stripPrefix_eq_some_iff, String.empty_append]
      rw [if_pos hsent, hsent, hnone, String.empty_append]
      rfl
    · rw [if_neg hsent]
      cases hstrip : Text.stripPrefix command.output ended.formattedOutput with
      | some rest =>
        rw [Text.stripPrefix_eq_some_iff] at hstrip
        dsimp only
        rw [hstrip]
        by_cases hrest : rest = ""
        · rw [if_pos hrest, hrest]
          rfl
        · rw [if_neg hrest]
          rfl
      | none =>
        have hne : ended.formattedOutput ≠ command.output := by
          intro heq
          have hwhole : Text.stripPrefix command.output ended.formattedOutput = some "" := by
            rw [Text.stripPrefix_eq_some_iff, heq, String.append_empty]
          rw [hstrip] at hwhole
          cases hwhole
        dsimp only
        rw [if_pos hne]
        rfl

/-! ## When it is what was put out -/

section Iff

variable {ended : ExecCommandEndEvent} {pieces : List OutputPiece}

/-- Without any output, the echoes are all there is, or else what was collected elsewhere. -/
theorem terminalText_of_empty (hempty : ended.formattedOutput = "")
    (hnothing : (chunks pieces).flatten = []) :
    Utf8.utf8 (terminalText ended (joined pieces)) = pieces.flatMap (·.bytes) ↔
      (stdins pieces = [] → ended.aggregatedOutput = "") := by
  unfold terminalText
  obtain ⟨hbytes, hjoined⟩ := bytes_of_chunks_nil hnothing
  rw [if_neg (not_not.mpr hempty), hbytes]
  by_cases hstdins : stdins pieces = []
  · rw [if_neg (not_not.mpr (hjoined.mpr hstdins)), hjoined.mpr hstdins]
    constructor
    · exact fun h _ => Utf8.utf8_injective h
    · intro hagg
      rw [hagg hstdins]
  · rw [if_pos fun h => hstdins (hjoined.mp h)]
    exact iff_of_true rfl fun h => absurd h hstdins

/-- Chunks that are texts are sent as they are, and nothing is missing after them. -/
theorem terminalText_of_whole (houtput : ended.formattedOutput ≠ "")
    (htext : (chunks pieces).flatten = Utf8.utf8 ended.formattedOutput)
    (hstdins : stdins pieces = []) (hvalid : ∀ chunk ∈ chunks pieces, Utf8.IsUtf8 chunk) :
    Utf8.utf8 (terminalText ended (joined pieces)) = pieces.flatMap (·.bytes) := by
  obtain ⟨hread, hchunks⟩ := joined_of_stdins_nil hstdins
  have hwhole : joined pieces = ended.formattedOutput := by
    apply Utf8.utf8_injective
    unfold Utf8.utf8 at htext ⊢
    rw [hread, Utf8.flatMap_readPieces hvalid, htext]
  have hstrip : Text.stripPrefix (joined pieces) ended.formattedOutput = some "" := by
    rw [Text.stripPrefix_eq_some_iff, hwhole, String.append_empty]
  unfold terminalText
  rw [if_pos houtput, hstrip, hchunks, htext]

/-- A character cut in two: too many characters were sent to be a prefix of the output, so all
of it follows them. -/
theorem terminalText_of_cut (houtput : ended.formattedOutput ≠ "")
    (htext : (chunks pieces).flatten = Utf8.utf8 ended.formattedOutput)
    (hstdins : stdins pieces = []) (hbad : ∃ chunk ∈ chunks pieces, ¬ Utf8.IsUtf8 chunk) :
    Utf8.utf8 (terminalText ended (joined pieces)) ≠ pieces.flatMap (·.bytes) := by
  obtain ⟨hread, hchunks⟩ := joined_of_stdins_nil hstdins
  have hlonger := Utf8.length_lt_readPieces htext hbad
  rw [← hread] at hlonger
  unfold terminalText
  rw [if_pos houtput]
  cases hstrip : Text.stripPrefix (joined pieces) ended.formattedOutput with
  | some rest =>
    rw [Text.stripPrefix_eq_some_iff] at hstrip
    rw [hstrip, String.toList_append, List.length_append] at hlonger
    omega
  | none =>
    intro h
    have hlength := congrArg List.length h
    rw [Utf8.utf8_append, List.length_append, hchunks, htext] at hlength
    have hchars := Utf8.length_le_utf8 (joined pieces)
    omega

/-- The echoes make what is due longer than the output, and what is sent longer still. -/
theorem terminalText_of_typed (houtput : ended.formattedOutput ≠ "")
    (htext : (chunks pieces).flatten = Utf8.utf8 ended.formattedOutput)
    (hstdins : stdins pieces ≠ []) :
    Utf8.utf8 (terminalText ended (joined pieces)) ≠ pieces.flatMap (·.bytes) := by
  have hpos : 0 < ended.formattedOutput.toList.length := by
    rw [List.length_pos_iff, ne_eq, String.toList_eq_nil_iff]
    exact houtput
  have hechoes := echoes_pos hstdins
  have hlead := Utf8.leadCount_flatten (chunks pieces)
  rw [htext, Utf8.leadCount_utf8] at hlead
  have hbytes := length_bytes pieces
  rw [htext] at hbytes
  have hjoined := length_joined pieces
  unfold terminalText
  rw [if_pos houtput]
  intro h
  have hlength := congrArg List.length h
  cases hstrip : Text.stripPrefix (joined pieces) ended.formattedOutput with
  | some rest =>
    rw [hstrip] at hlength
    dsimp only at hlength
    omega
  | none =>
    rw [hstrip] at hlength
    dsimp only at hlength
    rw [Utf8.utf8_append, List.length_append] at hlength
    omega

/-- The text at the end is what the pieces stand for, where the chunks are the output: the
output is compared with what was sent, byte by byte where it is whole and by lengths where it
is not. -/
theorem terminalText_iff (htext : (chunks pieces).flatten = Utf8.utf8 ended.formattedOutput) :
    Utf8.utf8 (terminalText ended (joined pieces)) = pieces.flatMap (·.bytes) ↔
      (∀ chunk ∈ chunks pieces, Utf8.IsUtf8 chunk) ∧
        (ended.formattedOutput ≠ "" → stdins pieces = []) ∧
        (ended.formattedOutput = "" → stdins pieces = [] → ended.aggregatedOutput = "") := by
  by_cases houtput : ended.formattedOutput = ""
  · have hnothing : (chunks pieces).flatten = [] := by rw [htext, houtput]; rfl
    have hvalid : ∀ chunk ∈ chunks pieces, Utf8.IsUtf8 chunk := by
      intro chunk hchunk
      exact ⟨"", (List.flatten_eq_nil_iff.mp hnothing chunk hchunk).symm⟩
    rw [terminalText_of_empty houtput hnothing]
    constructor
    · exact fun h => ⟨hvalid, fun hne => absurd houtput hne, fun _ => h⟩
    · exact fun h => h.2.2 houtput
  · by_cases hstdins : stdins pieces = []
    · by_cases hvalid : ∀ chunk ∈ chunks pieces, Utf8.IsUtf8 chunk
      · exact iff_of_true (terminalText_of_whole houtput htext hstdins hvalid)
          ⟨hvalid, fun _ => hstdins, fun h => absurd h houtput⟩
      · have hbad : ∃ chunk ∈ chunks pieces, ¬ Utf8.IsUtf8 chunk := by
          push Not at hvalid
          exact hvalid
        exact iff_of_false (terminalText_of_cut houtput htext hstdins hbad) fun h => hvalid h.1
    · exact iff_of_false (terminalText_of_typed houtput htext hstdins) fun h =>
        hstdins (h.2.1 houtput)

end Iff

end CodexAcp.Thread

import CodexAcp.Lib.Text
import CodexAcp.Lib.Utf8

/-!
# Slices of a text

A text is sliced at a byte offset, and only where a character begins or the text
ends: at any other offset there is no slice. The offset of a character is the
number of bytes before it, so a text that was put together is sliced where it
was (`sliceTo_append`, `sliceFrom_append`).
-/

namespace CodexAcp.Lib.Slice

open CodexAcp.Lib.Utf8

/-- The length in bytes. -/
def byteLen (text : String) : Nat := (utf8 text).length

/-- An offset that a text may be sliced at: its start, its end, and every byte that does not
continue a character. -/
def isCharBoundary (text : String) (index : Nat) : Bool :=
  if index = 0 then true
  else
    match (utf8 text)[index]? with
    | none => index = byteLen text
    | some byte => !isContinuation byte

/-- The text before an offset. -/
def sliceTo (text : String) (index : Nat) : Option String :=
  if isCharBoundary text index then fromUtf8 ((utf8 text).take index) else none

/-- The text from an offset on. -/
def sliceFrom (text : String) (index : Nat) : Option String :=
  if isCharBoundary text index then fromUtf8 ((utf8 text).drop index) else none

/-- The characters, each with the offset it begins at, from the first one's on. -/
def charIndicesFrom (offset : Nat) : List Char → List (Nat × Char)
  | [] => []
  | c :: cs => (offset, c) :: charIndicesFrom (offset + (String.utf8EncodeChar c).length) cs

def charIndices (text : String) : List (Nat × Char) := charIndicesFrom 0 text.toList

/-- The text without the whitespace it begins with. -/
def trimStart (text : String) : String := String.ofList (text.toList.dropWhile Text.isWhitespace)

/-! ## Where slices end -/

theorem byteLen_append (text text' : String) :
    byteLen (text ++ text') = byteLen text + byteLen text' := by
  unfold byteLen
  rw [utf8_append, List.length_append]

/-- A text begins with no continuation byte. -/
theorem head?_utf8 {text : String} {byte : UInt8} (h : byte ∈ (utf8 text).head?) :
    isContinuation byte = false := by
  unfold utf8 at h
  cases hchars : text.toList with
  | nil =>
    rw [hchars] at h
    cases h
  | cons c cs =>
    obtain ⟨lead, bytes, hc, hlead, -⟩ := encodeChar_eq c
    rw [hchars, List.flatMap_cons, hc, List.cons_append, List.head?_cons] at h
    cases h
    exact hlead

/-- Where two texts meet is between two characters. -/
theorem isCharBoundary_append (text text' : String) :
    isCharBoundary (text ++ text') (byteLen text) = true := by
  unfold isCharBoundary
  split
  · rfl
  · have hbyte : (utf8 (text ++ text'))[byteLen text]? = (utf8 text').head? := by
      unfold byteLen
      rw [utf8_append, List.getElem?_append_right (Nat.le_refl _), Nat.sub_self,
        List.head?_eq_getElem?]
    rw [hbyte]
    cases hhead : (utf8 text').head? with
    | none =>
      have hlen : byteLen text' = 0 := by
        unfold byteLen
        rw [List.head?_eq_none_iff.mp hhead]
        rfl
      rw [byteLen_append, hlen]
      exact decide_eq_true rfl
    | some byte =>
      dsimp only
      rw [head?_utf8 hhead]
      rfl

/-- **Slices.** A text that was put together is sliced where it was. -/
theorem sliceTo_append (text text' : String) :
    sliceTo (text ++ text') (byteLen text) = some text := by
  unfold sliceTo
  rw [if_pos (isCharBoundary_append text text'), fromUtf8_eq_some_iff, utf8_append]
  exact List.take_left.symm

theorem sliceFrom_append (text text' : String) :
    sliceFrom (text ++ text') (byteLen text) = some text' := by
  unfold sliceFrom
  rw [if_pos (isCharBoundary_append text text'), fromUtf8_eq_some_iff, utf8_append]
  exact List.drop_left.symm

end CodexAcp.Lib.Slice

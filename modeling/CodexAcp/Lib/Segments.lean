import Mathlib.Data.List.Induction

/-!
# Segments

Notes in segments: each segment begins with a note that opens one, goes on with notes
that do not, and ends with the first note that closes it. Of a list of notes that
consists of such segments, one after the other, only the last may still be open.

> `Segmented.concat`: a note that opens a segment exactly if none is open can follow.
> `Segmented.isOpen_eq`: the notes tell whether a segment is open.

Nothing here mentions a particular system.
-/

namespace CodexAcp.Lib

variable {α : Type u} (opens closes : α → Bool)

/-- The first note opens a segment, and no other one does. -/
def IsSegment (notes : List α) : Prop :=
  ∃ first rest, notes = first :: rest ∧ opens first = true ∧ ∀ note ∈ rest, opens note = false

/-- A segment that nothing has closed. -/
structure IsOpenSegment (notes : List α) : Prop where
  segment : IsSegment opens notes
  unclosed : ∀ note ∈ notes, closes note = false

/-- A segment that ends with the first note that closes it. -/
structure IsClosedSegment (notes : List α) : Prop where
  segment : IsSegment opens notes
  closed : ∃ before last, notes = before ++ [last] ∧ closes last = true ∧
    ∀ note ∈ before, closes note = false

/-- Closed segments one after the other, and then an open one if `isOpen`. -/
def Segmented (notes : List α) (isOpen : Bool) : Prop :=
  ∃ closed : List (List α), ∃ last : List α, notes = closed.flatten ++ last ∧
    (∀ segment ∈ closed, IsClosedSegment opens closes segment) ∧
    if isOpen then IsOpenSegment opens closes last else last = []

variable {opens closes}

theorem IsSegment.singleton {note : α} (h : opens note = true) : IsSegment opens [note] :=
  ⟨note, [], rfl, h, nofun⟩

theorem IsSegment.concat {notes : List α} (h : IsSegment opens notes) {note : α}
    (hnote : opens note = false) : IsSegment opens (notes ++ [note]) := by
  obtain ⟨first, rest, rfl, hfirst, hrest⟩ := h
  refine ⟨first, rest ++ [note], rfl, hfirst, fun other hother => ?_⟩
  rcases List.mem_append.mp hother with hmem | hmem
  · exact hrest other hmem
  · rw [List.mem_singleton.mp hmem, hnote]

namespace Segmented

theorem nil : Segmented opens closes [] false := ⟨[], [], rfl, nofun, rfl⟩

/-- A segment whose last note may close it, after closed ones. -/
theorem of_last {closed : List (List α)} {before : List α} {note : α}
    (hclosed : ∀ segment ∈ closed, IsClosedSegment opens closes segment)
    (hsegment : IsSegment opens (before ++ [note]))
    (hbefore : ∀ other ∈ before, closes other = false) :
    Segmented opens closes (closed.flatten ++ (before ++ [note])) (!closes note) := by
  cases hcloses : closes note with
  | true =>
    refine ⟨closed ++ [before ++ [note]], [], ?_, fun segment hmem => ?_, rfl⟩
    · rw [List.flatten_append, List.flatten_singleton, List.append_nil]
    · rcases List.mem_append.mp hmem with hmem | hmem
      · exact hclosed segment hmem
      · rw [List.mem_singleton.mp hmem]
        exact ⟨hsegment, before, note, rfl, hcloses, hbefore⟩
  | false =>
    refine ⟨closed, before ++ [note], rfl, hclosed, hsegment, fun other hmem => ?_⟩
    rcases List.mem_append.mp hmem with hmem | hmem
    · exact hbefore other hmem
    · rw [List.mem_singleton.mp hmem, hcloses]

/-- **One more note.** -/
theorem concat {notes : List α} {isOpen : Bool} (h : Segmented opens closes notes isOpen)
    {note : α} (hopens : opens note = !isOpen) :
    Segmented opens closes (notes ++ [note]) (!closes note) := by
  obtain ⟨closed, last, rfl, hclosed, hlast⟩ := h
  rw [List.append_assoc]
  cases isOpen with
  | false =>
    cases (hlast : last = [])
    have hsegment : IsSegment opens ([] ++ [note]) := .singleton hopens
    exact of_last hclosed hsegment nofun
  | true => exact of_last hclosed (hlast.segment.concat hopens) hlast.unclosed

/-- Notes that go on with an open segment. -/
theorem append {notes more : List α} (h : Segmented opens closes notes true)
    (hmore : ∀ note ∈ more, opens note = false ∧ closes note = false) :
    Segmented opens closes (notes ++ more) true := by
  induction more generalizing notes with
  | nil => rwa [List.append_nil]
  | cons note more ih =>
    obtain ⟨⟨hopens, hcloses⟩, hmore⟩ := List.forall_mem_cons.mp hmore
    have hnext := h.concat hopens
    rw [hcloses] at hnext
    rw [List.append_cons]
    exact ih hnext hmore

/-- A segment is open if the last note did not close one. -/
theorem isOpen_eq {notes : List α} {isOpen : Bool} (h : Segmented opens closes notes isOpen) :
    isOpen = notes.getLast?.any fun note => !closes note := by
  obtain ⟨closed, last, rfl, hclosed, hlast⟩ := h
  cases isOpen with
  | true =>
    obtain ⟨⟨first, rest, rfl, -, -⟩, hunclosed⟩ := hlast
    have hne : first :: rest ≠ [] := List.cons_ne_nil _ _
    rw [List.getLast?_append, List.getLast?_eq_some_getLast hne, Option.some_or, Option.any_some,
      hunclosed _ (List.getLast_mem hne)]
    rfl
  | false =>
    cases (hlast : last = [])
    rw [List.append_nil]
    cases closed using List.reverseRecOn with
    | nil => rfl
    | append_singleton before segment =>
      obtain ⟨-, notes, note, rfl, hcloses, -⟩ :=
        hclosed segment (List.mem_append_right _ (List.mem_singleton_self _))
      rw [List.flatten_append, List.flatten_singleton, ← List.append_assoc,
        List.getLast?_concat, Option.any_some, hcloses]
      rfl

end Segmented

end CodexAcp.Lib

import CodexAcp.Lib.Text

/-!
# The words of a shell command

A command line is read a character at a time, as POSIX quotes it: in single
quotes every character stands for itself, in double quotes a backslash quotes a
few, and outside a backslash quotes the next one. Words are what blanks separate,
and an operator is an operator character that nothing quotes.

> `split`: the words, with the quotes gone. An operator is no word of its own, so
> `a|b` is one word.
> `hasOperator`: there is an operator, with blanks around it or without.
-/

namespace CodexAcp.Lib.Shell

def singleQuote : Char := Char.ofNat 0x27
def doubleQuote : Char := Char.ofNat 0x22
def backslash : Char := Char.ofNat 0x5C
def backquote : Char := Char.ofNat 0x60

inductive Quoting where
  | bare
  | single
  | double
  /-- After a backslash. -/
  | escaped
  /-- After a backslash in double quotes. -/
  | escapedInDouble
  | comment
  deriving DecidableEq, Repr

/-- What was read: how the next character is quoted, the word that was begun, the last
character first, and the words before it, the last one first. -/
structure Scan where
  quoting : Quoting := .bare
  word : Option (List Char) := none
  words : List (List Char) := []
  deriving DecidableEq, Repr

def isBlank (c : Char) : Bool := c = ' ' || c = '\t' || c = '\n'

def isOperator (c : Char) : Bool :=
  c = ';' || c = '|' || c = '&' || c = '<' || c = '>' || c = '\n'

namespace Scan

/-- One more character of the word. -/
def push (s : Scan) (c : Char) : Scan :=
  { s with quoting := .bare, word := some (c :: s.word.getD []) }

/-- The word is at its end. -/
def close (s : Scan) : Scan :=
  match s.word with
  | none => { s with quoting := .bare }
  | some word => { quoting := .bare, word := none, words := word :: s.words }

def read (s : Scan) (c : Char) : Scan :=
  match s.quoting with
  | .bare =>
    if isBlank c then s.close
    else if c = singleQuote then { s with quoting := .single, word := some (s.word.getD []) }
    else if c = doubleQuote then { s with quoting := .double, word := some (s.word.getD []) }
    else if c = backslash then { s with quoting := .escaped, word := some (s.word.getD []) }
    -- A comment begins where a word would.
    else if c = '#' && s.word.isNone then { s with quoting := .comment }
    else s.push c
  | .single =>
    if c = singleQuote then { s with quoting := .bare } else { s.push c with quoting := .single }
  | .double =>
    if c = doubleQuote then { s with quoting := .bare }
    else if c = backslash then { s with quoting := .escapedInDouble }
    else { s.push c with quoting := .double }
  | .escaped => if c = '\n' then { s with quoting := .bare } else s.push c
  | .escapedInDouble =>
    if c = '\n' then { s with quoting := .double }
    else if c = '$' || c = backquote || c = doubleQuote || c = backslash then
      { s.push c with quoting := .double }
    else { (s.push backslash).push c with quoting := .double }
  | .comment => if c = '\n' then { s with quoting := .bare } else s

/-- The character is an operator where it stands. -/
def sees (s : Scan) (c : Char) : Bool :=
  match s.quoting with
  | .bare => isOperator c
  | .comment => c = '\n'
  | _ => false

/-- There is an operator in what follows. -/
def seesAny (s : Scan) : List Char → Bool
  | [] => false
  | c :: cs => s.sees c || (s.read c).seesAny cs

end Scan

/-- The words that were read. -/
def Scan.texts (s : Scan) : List String :=
  s.close.words.reverse.map fun word => String.ofList word.reverse

/-- A command line read to its end. -/
def scan (line : String) : Scan := line.toList.foldl Scan.read {}

/-- The words of a command line; none where a quote is not closed. -/
def split (line : String) : Option (List String) :=
  match (scan line).quoting with
  | .bare | .comment => some (scan line).texts
  | _ => none

/-- There is an operator that nothing quotes. -/
def hasOperator (line : String) : Bool := Scan.seesAny {} line.toList

/-! ## Lines put together -/

/-- The words read so far, before other ones. -/
def Scan.after (s : Scan) (words : List (List Char)) : Scan := { s with words := s.words ++ words }

theorem Scan.close_after (s : Scan) (words : List (List Char)) :
    (s.after words).close = s.close.after words := by
  unfold Scan.close Scan.after
  cases s.word <;> rfl

/-- Reading a character leaves the words before alone. -/
theorem Scan.read_after (s : Scan) (words : List (List Char)) (c : Char) :
    (s.after words).read c = (s.read c).after words := by
  obtain ⟨quoting, word, words'⟩ := s
  cases quoting with
  | bare =>
    by_cases hblank : isBlank c = true
    · have hread : ∀ s : Scan, s.quoting = .bare → s.read c = s.close := by
        intro s hbare
        unfold Scan.read
        rw [hbare]
        exact if_pos hblank
      rw [hread _ rfl, hread _ rfl, close_after]
    · unfold Scan.read Scan.after
      dsimp only
      split_ifs <;> rfl
  | _ =>
    unfold Scan.read Scan.after
    dsimp only
    split_ifs <;> rfl

theorem Scan.foldl_read_after (s : Scan) (words : List (List Char)) (cs : List Char) :
    cs.foldl Scan.read (s.after words) = (cs.foldl Scan.read s).after words := by
  induction cs generalizing s with
  | nil => rfl
  | cons c cs ih => rw [List.foldl_cons, List.foldl_cons, Scan.read_after, ih]

theorem Scan.texts_after (s : Scan) (words : List (List Char)) :
    (s.after words).texts =
      (words.reverse.map fun word => String.ofList word.reverse) ++ s.texts := by
  have hclose : (s.after words).close.words = s.close.words ++ words := by
    rw [close_after]
    rfl
  unfold Scan.texts
  rw [hclose, List.reverse_append, List.map_append]

/-- What is read after a word's end begins a word. -/
theorem Scan.close_eq_after (s : Scan) : s.close = ({} : Scan).after s.close.words := by
  obtain ⟨quoting, word, words⟩ := s
  cases word <;> rfl

/-- **A blank outside of quotes** separates the words before it from those after it. -/
theorem split_append_blank {line : String} (h : (scan line).quoting = .bare) (rest : String) :
    split (line ++ " " ++ rest) = (split rest).map ((scan line).texts ++ ·) := by
  have hscan : scan (line ++ " " ++ rest) = (scan rest).after (scan line).close.words := by
    have hblank : (scan line).read ' ' = (scan line).close := by
      unfold Scan.read
      rw [h]
      rfl
    unfold scan at hblank ⊢
    rw [String.toList_append, String.toList_append, List.foldl_append, List.foldl_append]
    show rest.toList.foldl Scan.read ((line.toList.foldl Scan.read {}).read ' ') = _
    rw [hblank, Scan.close_eq_after, Scan.foldl_read_after]
    rfl
  unfold split
  rw [hscan, Scan.texts_after]
  show (match (scan rest).quoting with
    | .bare | .comment => some _
    | _ => none) = _
  cases (scan rest).quoting <;> rfl

end CodexAcp.Lib.Shell

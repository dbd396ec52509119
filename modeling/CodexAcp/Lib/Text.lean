import Mathlib.Algebra.Group.Nat.Defs
import Mathlib.Data.List.DropRight

/-!
# Text operations

The string operations the modelled code calls, over a string's list of
characters: trimming by the Unicode `White_Space` property, prefix stripping,
splitting at the first separator and into lines, ASCII lower-casing, and the
decimal parser of a bounded unsigned integer (an optional `+`, at least one
digit, and a value that fits). Of each its inverse: what is trimmed already, a
text split where it was put together (`splitOnce_append`, `lines_intercalate`),
and a number that was printed (`parseUnsigned_repr`). Of joined texts: what is
joined piece by piece, and when two joins are equal.
-/

namespace CodexAcp.Lib.Text

/-- The Unicode `White_Space` property. -/
def isWhitespace (c : Char) : Bool :=
  let n := c.toNat
  (9 ≤ n && n ≤ 13) || n == 0x20 || n == 0x85 || n == 0xA0 || n == 0x1680 ||
    (0x2000 ≤ n && n ≤ 0x200A) || n == 0x2028 || n == 0x2029 || n == 0x202F ||
    n == 0x205F || n == 0x3000

/-- Drop the whitespace at both ends. -/
def trim (s : String) : String :=
  String.ofList ((s.toList.dropWhile isWhitespace).reverse.dropWhile isWhitespace).reverse

/-- The characters after `p`, when the list starts with `p`. -/
def stripPrefixChars : List Char → List Char → Option (List Char)
  | [], cs => some cs
  | _ :: _, [] => none
  | p :: ps, c :: cs => if p = c then stripPrefixChars ps cs else none

/-- The text after `p`, when the text starts with `p`. -/
def stripPrefix (p s : String) : Option String :=
  (stripPrefixChars p.toList s.toList).map String.ofList

/-- The characters before and after the first `sep`. -/
def splitOnceChars (sep : Char) : List Char → Option (List Char × List Char)
  | [] => none
  | c :: cs =>
    if c = sep then some ([], cs)
    else (splitOnceChars sep cs).map fun (l, r) => (c :: l, r)

/-- The texts before and after the first `sep`. -/
def splitOnce (sep : Char) (s : String) : Option (String × String) :=
  (splitOnceChars sep s.toList).map fun (l, r) => (String.ofList l, String.ofList r)

/-- Lower-case the ASCII letters, leave every other character alone. -/
def toAsciiLowercase (s : String) : String :=
  String.ofList (s.toList.map fun c =>
    if 'A' ≤ c ∧ c ≤ 'Z' then Char.ofNat (c.toNat + 32) else c)

/-- An ASCII decimal digit. -/
def isAsciiDigit (c : Char) : Bool := '0' ≤ c && c ≤ '9'

/-- The value of a list of decimal digits. -/
def digitsValue (cs : List Char) : Nat := cs.foldl (fun n c => n * 10 + (c.toNat - 48)) 0

/-- Parse an unsigned integer below `2 ^ bits`. -/
def parseUnsigned (bits : Nat) (s : String) : Option Nat :=
  let cs := match s.toList with
    | '+' :: cs => cs
    | cs => cs
  if cs.isEmpty || !cs.all isAsciiDigit then none
  else if digitsValue cs < 2 ^ bits then some (digitsValue cs) else none

/-- An ASCII letter or digit. -/
def isAsciiAlphanumeric (c : Char) : Bool :=
  isAsciiDigit c || ('a' ≤ c && c ≤ 'z') || ('A' ≤ c && c ≤ 'Z')

/-- The text starts with `p`. -/
def startsWith (p s : String) : Bool := p.toList.isPrefixOf s.toList

/-- Whether `p` is somewhere in the text. -/
def contains (p s : String) : Bool := s.toList.tails.any fun cs => p.toList.isPrefixOf cs

/-- A line before its `\n`, the last character first: a `\r` there belongs to the line end. -/
def dropCarriageReturn : List Char → List Char
  | '\r' :: line => line
  | line => line

/-- The lines of a list of characters, of which `line` was read, the last one first. A line
ends with `\n` or `\r\n`; an empty rest is no line. -/
def linesChars (line : List Char) : List Char → List (List Char)
  | [] => if line.isEmpty then [] else [line.reverse]
  | c :: cs =>
    if c = '\n' then (dropCarriageReturn line).reverse :: linesChars [] cs
    else linesChars (c :: line) cs

/-- The lines of a text, without their line ends. -/
def lines (s : String) : List String := (linesChars [] s.toList).map String.ofList

/-! ## Trimming -/

theorem toList_trim (s : String) :
    (trim s).toList = (s.toList.dropWhile isWhitespace).rdropWhile isWhitespace :=
  String.toList_ofList ..

/-- A trimmed text has no whitespace at its ends. -/
theorem trim_eq_self_iff {s : String} :
    trim s = s ↔ (∀ c ∈ s.toList.head?, isWhitespace c = false) ∧
      (∀ c ∈ s.toList.getLast?, isWhitespace c = false) := by
  rw [← String.toList_inj, toList_trim]
  generalize s.toList = cs
  have hfront : cs.dropWhile isWhitespace = cs ↔ ∀ c ∈ cs.head?, isWhitespace c = false := by
    cases cs with
    | nil => simp
    | cons c cs => simp [List.dropWhile_eq_self_iff]
  have hback : cs.rdropWhile isWhitespace = cs ↔ ∀ c ∈ cs.getLast?, isWhitespace c = false := by
    rw [List.rdropWhile_eq_self_iff]
    cases cs using List.reverseRecOn <;> simp
  constructor
  · intro h
    -- dropping at the back makes a list no longer, so nothing was dropped at the front
    have hlength : cs.length ≤ (cs.dropWhile isWhitespace).length := by
      have := (List.rdropWhile_prefix isWhitespace (cs.dropWhile isWhitespace)).length_le
      rwa [h] at this
    have hdrop : cs.dropWhile isWhitespace = cs :=
      (List.dropWhile_suffix isWhitespace).eq_of_length_le hlength
    rw [hdrop] at h
    exact ⟨hfront.mp hdrop, hback.mp h⟩
  · rintro ⟨hhead, hlast⟩
    rw [hfront.mpr hhead, hback.mpr hlast]

/-- A space before a text is trimmed with it. -/
theorem trim_space (s : String) : trim (" " ++ s) = trim s := by
  rw [← String.toList_inj, toList_trim, toList_trim, String.toList_append]
  show ((' ' :: s.toList).dropWhile isWhitespace).rdropWhile isWhitespace = _
  rw [List.dropWhile_cons_of_pos (by decide)]

/-- Dropping what a filter drops anyway. -/
theorem filter_dropWhile {α : Type u} {p q : α → Bool} (h : ∀ a, q a = true → p a = false)
    (as : List α) : (as.dropWhile q).filter p = as.filter p := by
  induction as with
  | nil => rfl
  | cons a as ih =>
    by_cases hq : q a = true
    · rw [List.dropWhile_cons_of_pos hq, ih, List.filter_cons_of_neg (by rw [h a hq]; nofun)]
    · rw [List.dropWhile_cons_of_neg hq]

/-- A filter that keeps no whitespace keeps the same of a text and of the trimmed text. -/
theorem filter_toList_trim {p : Char → Bool} (h : ∀ c, isWhitespace c = true → p c = false)
    (s : String) : (trim s).toList.filter p = s.toList.filter p := by
  rw [toList_trim, List.rdropWhile, List.filter_reverse, filter_dropWhile h, List.filter_reverse,
    List.reverse_reverse, filter_dropWhile h]

theorem isAsciiAlphanumeric_of_isWhitespace {c : Char} (h : isWhitespace c = true) :
    isAsciiAlphanumeric c = false := by
  unfold isAsciiAlphanumeric isAsciiDigit
  simp only [isWhitespace, Bool.or_eq_true, Bool.and_eq_true, decide_eq_true_eq,
    beq_iff_eq] at h
  simp only [Bool.or_eq_false_iff, Bool.and_eq_false_iff, decide_eq_false_iff_not, Char.le_def,
    UInt32.le_iff_toNat_le]
  have hcode : c.val.toNat = c.toNat := rfl
  have hchars : '0'.val.toNat = 48 ∧ '9'.val.toNat = 57 ∧ 'a'.val.toNat = 97 ∧
      'z'.val.toNat = 122 ∧ 'A'.val.toNat = 65 ∧ 'Z'.val.toNat = 90 := by decide
  omega

/-! ## Lower case -/

/-- A character that is no upper-case letter stays in the lower-cased text. -/
theorem mem_toAsciiLowercase {s : String} {c : Char} (hc : c ∈ s.toList)
    (h : ¬ ('A' ≤ c ∧ c ≤ 'Z')) : c ∈ (toAsciiLowercase s).toList := by
  unfold toAsciiLowercase
  rw [String.toList_ofList]
  exact List.mem_map.mpr ⟨c, hc, if_neg h⟩

/-! ## Splitting -/

theorem stripPrefixChars_eq_some_iff {p cs rest : List Char} :
    stripPrefixChars p cs = some rest ↔ cs = p ++ rest := by
  induction p generalizing cs with
  | nil => exact Option.some_inj
  | cons c p ih =>
    cases cs with
    | nil => exact ⟨nofun, nofun⟩
    | cons c' cs =>
      unfold stripPrefixChars
      rw [List.cons_append, List.cons.injEq]
      by_cases hc : c = c'
      · rw [if_pos hc, ih]
        exact (and_iff_right hc.symm).symm
      · rw [if_neg hc]
        exact ⟨nofun, fun h => absurd h.1.symm hc⟩

/-- A prefix is stripped where the text is put together from it and the rest. -/
theorem stripPrefix_eq_some_iff {p s rest : String} :
    stripPrefix p s = some rest ↔ s = p ++ rest := by
  unfold stripPrefix
  rw [Option.map_eq_some_iff]
  constructor
  · rintro ⟨cs, hcs, rfl⟩
    rw [stripPrefixChars_eq_some_iff] at hcs
    rw [← String.toList_inj, String.toList_append, String.toList_ofList, hcs]
  · rintro rfl
    refine ⟨rest.toList, ?_, String.ofList_toList⟩
    rw [stripPrefixChars_eq_some_iff, String.toList_append]

theorem splitOnceChars_eq_none {sep : Char} {cs : List Char} :
    splitOnceChars sep cs = none ↔ sep ∉ cs := by
  induction cs with
  | nil => simp [splitOnceChars]
  | cons c cs ih =>
    unfold splitOnceChars
    by_cases h : c = sep
    · simp [h]
    · rw [if_neg h, Option.map_eq_none_iff, ih, List.mem_cons, not_or]
      exact ⟨fun hcs => ⟨Ne.symm h, hcs⟩, And.right⟩

theorem splitOnceChars_append {sep : Char} {cs : List Char} (h : sep ∉ cs) (rest : List Char) :
    splitOnceChars sep (cs ++ sep :: rest) = some (cs, rest) := by
  induction cs with
  | nil => simp [splitOnceChars]
  | cons c cs ih =>
    rw [List.mem_cons, not_or] at h
    rw [List.cons_append, splitOnceChars, if_neg (Ne.symm h.1), ih h.2]
    rfl

/-- A text without the separator is not split. -/
theorem splitOnce_eq_none_iff {sep : Char} {s : String} :
    splitOnce sep s = none ↔ sep ∉ s.toList := by
  unfold splitOnce
  rw [Option.map_eq_none_iff, splitOnceChars_eq_none]

/-- A text is split at its first separator. -/
theorem splitOnce_append {sep : Char} {s : String} (h : sep ∉ s.toList) (rest : String) :
    splitOnce sep (s ++ String.singleton sep ++ rest) = some (s, rest) := by
  unfold splitOnce
  rw [String.toList_append, String.toList_append, String.toList_singleton, List.append_assoc,
    List.singleton_append, splitOnceChars_append h]
  simp

theorem linesChars_append {cs : List Char} (h : '\n' ∉ cs) (line rest : List Char) :
    linesChars line (cs ++ rest) = linesChars (cs.reverse ++ line) rest := by
  induction cs generalizing line with
  | nil => rfl
  | cons c cs ih =>
    rw [List.mem_cons, not_or] at h
    rw [List.cons_append, linesChars, if_neg (Ne.symm h.1), ih h.2, List.reverse_cons,
      List.append_assoc, List.singleton_append]

/-- A line that is written as it is read: on one line, with an end that is no line end. -/
def IsLine (s : String) : Prop := '\n' ∉ s.toList ∧ s ≠ "" ∧ s.toList.getLast? ≠ some '\r'

theorem IsLine.dropCarriageReturn {s : String} (h : IsLine s) :
    Text.dropCarriageReturn s.toList.reverse = s.toList.reverse := by
  have hlast := h.2.2
  rw [List.getLast?_eq_head?_reverse] at hlast
  unfold Text.dropCarriageReturn
  split
  next line hline =>
    rw [hline] at hlast
    exact absurd rfl hlast
  next => rfl

/-- Lines written one after the other are read one after the other. -/
theorem lines_intercalate {ls : List String} (h : ∀ l ∈ ls, IsLine l) :
    lines ("\n".intercalate ls) = ls := by
  unfold lines
  induction ls with
  | nil => rfl
  | cons l ls ih =>
    rw [List.forall_mem_cons] at h
    obtain ⟨hl, hls⟩ := h
    have hne : l.toList ≠ [] := fun hnil => hl.2.1 (String.toList_eq_nil_iff.mp hnil)
    cases ls with
    | nil =>
      -- the last line ends with the text
      rw [String.intercalate_singleton, ← List.append_nil l.toList, linesChars_append hl.1,
        linesChars, List.append_nil, if_neg (by simpa using hne)]
      simp
    | cons l' ls =>
      rw [String.intercalate_cons_cons, String.toList_append, String.toList_append,
        List.append_assoc, linesChars_append hl.1, List.append_nil]
      show (linesChars _ ('\n' :: _)).map String.ofList = _
      rw [linesChars, if_pos rfl, hl.dropCarriageReturn, List.reverse_reverse, List.map_cons,
        String.ofList_toList]
      exact congrArg (l :: ·) (ih hls)

/-- Trimmed texts joined by line ends are a trimmed text. -/
theorem trim_intercalate {ls : List String} (h : ∀ l ∈ ls, trim l = l ∧ l ≠ "") :
    trim ("\n".intercalate ls) = "\n".intercalate ls := by
  have hne : ∀ l ∈ ls, l.toList ≠ [] :=
    fun l hl hnil => (h l hl).2 (String.toList_eq_nil_iff.mp hnil)
  rw [trim_eq_self_iff]
  constructor
  · -- the text starts as its first line does
    cases ls with
    | nil => rintro c ⟨⟩
    | cons l ls =>
      obtain ⟨c, cs, hcs⟩ := List.exists_cons_of_ne_nil (hne l (List.mem_cons_self ..))
      have hfirst := (trim_eq_self_iff.mp (h l (List.mem_cons_self ..)).1).1
      have hhead : ("\n".intercalate (l :: ls)).toList.head? = l.toList.head? := by
        cases ls with
        | nil => rw [String.intercalate_singleton]
        | cons l' ls =>
          rw [String.intercalate_cons_cons, String.toList_append, String.toList_append, hcs]
          rfl
      rw [hhead]
      exact hfirst
  · -- and it ends as its last line does
    rcases List.eq_nil_or_concat ls with rfl | ⟨ls, l, rfl⟩
    · rintro c ⟨⟩
    · rw [List.concat_eq_append] at h hne ⊢
      have hmem : l ∈ ls ++ [l] := List.mem_append_right _ (List.mem_singleton_self _)
      have hend := (trim_eq_self_iff.mp (h l hmem).1).2
      have hlast : ("\n".intercalate (ls ++ [l])).toList.getLast? = l.toList.getLast? := by
        cases ls with
        | nil => rw [List.nil_append, String.intercalate_singleton]
        | cons l' ls =>
          rw [String.intercalate_append_of_ne_nil (List.cons_ne_nil _ _) (List.cons_ne_nil _ _),
            String.intercalate_singleton, String.toList_append,
            List.getLast?_append_of_ne_nil _ (hne l hmem)]
      rw [hlast]
      exact hend

theorem mem_of_mem_linesChars {c : Char} {cs : List Char} :
    ∀ {line l : List Char}, l ∈ linesChars line cs → c ∈ l → c ∈ line ∨ c ∈ cs := by
  induction cs with
  | nil =>
    intro line l hl hc
    unfold linesChars at hl
    split at hl
    next => cases hl
    next =>
      rw [List.mem_singleton] at hl
      rw [hl, List.mem_reverse] at hc
      exact Or.inl hc
  | cons d cs ih =>
    intro line l hl hc
    unfold linesChars at hl
    split at hl
    next =>
      rcases List.mem_cons.mp hl with rfl | hl
      · rw [List.mem_reverse] at hc
        refine Or.inl ?_
        unfold dropCarriageReturn at hc
        split at hc
        next => exact List.mem_cons_of_mem _ hc
        next => exact hc
      · rcases ih hl hc with hline | hcs
        · cases hline
        · exact Or.inr (List.mem_cons_of_mem _ hcs)
    next =>
      rcases ih hl hc with hline | hcs
      · rcases List.mem_cons.mp hline with rfl | hline
        · exact Or.inr (List.mem_cons_self ..)
        · exact Or.inl hline
      · exact Or.inr (List.mem_cons_of_mem _ hcs)

/-- A character of a line is one of the text. -/
theorem mem_of_mem_lines {s l : String} {c : Char} (hl : l ∈ lines s) (hc : c ∈ l.toList) :
    c ∈ s.toList := by
  obtain ⟨cs, hcs, rfl⟩ := List.mem_map.mp hl
  rw [String.toList_ofList] at hc
  rcases mem_of_mem_linesChars hcs hc with hnil | h
  · cases hnil
  · exact h

theorem mem_of_mem_trim {s : String} {c : Char} (h : c ∈ (trim s).toList) : c ∈ s.toList := by
  rw [toList_trim] at h
  exact (List.dropWhile_suffix _).mem ((List.rdropWhile_prefix _ _).mem h)

/-! ## Numbers -/

theorem isAsciiDigit_of_mem_toDigits {n : Nat} {c : Char} (h : c ∈ Nat.toDigits 10 n) :
    isAsciiDigit c = true := by
  have hdigit := Nat.isDigit_of_mem_toDigits (by decide) (by decide) h
  unfold Char.isDigit at hdigit
  exact hdigit

/-- The text of a number has digits alone. -/
theorem isAsciiDigit_of_mem_repr {n : Nat} {c : Char} (h : c ∈ n.repr.toList) :
    isAsciiDigit c = true := by
  rw [Nat.toList_repr] at h
  exact isAsciiDigit_of_mem_toDigits h

theorem isWhitespace_of_isAsciiDigit {c : Char} (h : isAsciiDigit c = true) :
    isWhitespace c = false := by
  rw [← Bool.not_eq_true]
  intro hspace
  have halpha := isAsciiAlphanumeric_of_isWhitespace hspace
  unfold isAsciiAlphanumeric at halpha
  rw [h] at halpha
  cases halpha

theorem trim_repr (n : Nat) : trim n.repr = n.repr := by
  rw [trim_eq_self_iff]
  constructor
  · exact fun c hc => isWhitespace_of_isAsciiDigit
      (isAsciiDigit_of_mem_repr (List.mem_of_mem_head? hc))
  · exact fun c hc => isWhitespace_of_isAsciiDigit
      (isAsciiDigit_of_mem_repr (List.mem_of_mem_getLast? hc))

theorem digitsValue_append (cs : List Char) (c : Char) :
    digitsValue (cs ++ [c]) = digitsValue cs * 10 + (c.toNat - 48) := by
  unfold digitsValue
  rw [List.foldl_append]
  rfl

/-- The digits a number is printed with have its value. -/
theorem digitsValue_toDigits (n : Nat) : digitsValue (Nat.toDigits 10 n) = n := by
  induction n using Nat.strongRecOn with
  | _ n ih =>
    rw [Nat.toDigits_eq_if (by decide)]
    split
    next h =>
      show 0 * 10 + (n.digitChar.toNat - 48) = n
      rw [Nat.toNat_digitChar_sub_48_of_lt_ten h]
      omega
    next h =>
      rw [digitsValue_append, ih (n / 10) (by omega),
        Nat.toNat_digitChar_sub_48_of_lt_ten (Nat.mod_lt n (by decide))]
      omega

/-- A printed number is read back. -/
theorem parseUnsigned_repr {bits n : Nat} (h : n < 2 ^ bits) :
    parseUnsigned bits n.repr = some n := by
  have hdigits : ∀ c ∈ Nat.toDigits 10 n, isAsciiDigit c = true :=
    fun c hc => isAsciiDigit_of_mem_toDigits hc
  unfold parseUnsigned
  rw [Nat.toList_repr]
  split
  next cs hcs =>
    -- a digit is no sign
    rw [hcs] at hdigits
    exact absurd (hdigits '+' (List.mem_cons_self ..)) (by decide)
  next =>
    dsimp only
    rw [digitsValue_toDigits, if_pos h, if_neg]
    simpa using hdigits

/-! ## Joining -/

theorem join_flatMap {α : Type u} (f : α → List String) (as : List α) :
    String.join (as.flatMap f) = String.join (as.map fun a => String.join (f a)) := by
  induction as with
  | nil => rfl
  | cons a as ih => rw [List.flatMap_cons, String.join_append, ih, List.map_cons, String.join_cons]

theorem join_eq_empty_iff (ss : List String) : String.join ss = "" ↔ ∀ s ∈ ss, s = "" := by
  induction ss with
  | nil => simp
  | cons s ss ih => rw [String.join_cons, String.append_eq_empty_iff, ih, List.forall_mem_cons]

theorem length_join_map_append {α : Type u} (f g : α → String) (as : List α) :
    (String.join (as.map fun a => f a ++ g a)).length =
      (String.join (as.map f)).length + (String.join (as.map g)).length := by
  induction as with
  | nil => rfl
  | cons a as ih =>
    simp only [List.map_cons, String.join_cons, String.length_append, ih]
    omega

/-- Texts with something added after each are the texts alone only when nothing was. -/
theorem join_map_append_eq_iff {α : Type u} (f g : α → String) (as : List α) :
    String.join (as.map fun a => f a ++ g a) = String.join (as.map f) ↔ ∀ a ∈ as, g a = "" := by
  constructor
  · intro h
    have hlength := length_join_map_append f g as
    rw [h] at hlength
    have hempty : String.join (as.map g) = "" := String.length_eq_zero_iff.mp (by omega)
    rw [join_eq_empty_iff, List.forall_mem_map] at hempty
    exact hempty
  · intro h
    have hmap : (as.map fun a => f a ++ g a) = as.map f :=
      List.map_congr_left fun a ha => by rw [h a ha, String.append_empty]
    rw [hmap]

/-- Pieces of which none is longer than its other version make the same whole only as the same
pieces. -/
theorem flatMap_eq_flatMap_iff {α : Type u} {β : Type v} {f g : α → List β}
    (hle : ∀ a, (f a).length ≤ (g a).length) (as : List α) :
    as.flatMap f = as.flatMap g ↔ ∀ a ∈ as, f a = g a := by
  have hlength : ∀ as : List α, (as.flatMap f).length ≤ (as.flatMap g).length := by
    intro as
    induction as with
    | nil => exact Nat.le_refl _
    | cons a as ih =>
      have ha := hle a
      simp only [List.flatMap_cons, List.length_append]
      omega
  induction as with
  | nil => simp
  | cons a as ih =>
    rw [List.forall_mem_cons, List.flatMap_cons, List.flatMap_cons]
    constructor
    · intro h
      have htotal := congrArg List.length h
      have ha := hle a
      have has := hlength as
      simp only [List.length_append] at htotal
      obtain ⟨hhead, htail⟩ := List.append_inj h (by omega)
      exact ⟨hhead, ih.mp htail⟩
    · intro h
      rw [h.1, ih.mpr h.2]

end CodexAcp.Lib.Text

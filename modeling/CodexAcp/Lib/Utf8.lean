import CodexAcp.Lib.Transducer
import Mathlib.Data.List.Basic

/-!
# UTF-8, read leniently

The bytes of a text, and a decoder that never fails: it reads a byte at a time
and puts the replacement character for every longest piece that begins no
character. Two facts tell what cutting a text into pieces does to it:

> `isUtf8_of_append`: a cut of a text is between two characters where the second
> piece does not begin with a continuation byte.
> `length_fromUtf8Lossy`: decoding gives a character for every byte that is no
> continuation byte, and another one where the piece begins with one.

Nothing here mentions a particular system.
-/

namespace CodexAcp.Lib.Utf8

open CodexAcp.Lib

/-! ## The bytes of a text -/

/-- The bytes of a text. -/
def utf8 (text : String) : List UInt8 := text.toList.flatMap String.utf8EncodeChar

/-- The bytes of some text. -/
def IsUtf8 (bytes : List UInt8) : Prop := ∃ text, utf8 text = bytes

/-- A byte that no character begins with and that continues one. -/
def isContinuation (byte : UInt8) : Bool := 0x80 ≤ byte.toNat && byte.toNat ≤ 0xBF

/-! ## The decoder -/

/-- A character that was begun: its bits so far, how many bytes follow the next
one, and the range the next one is in, all of it continuation bytes. -/
structure Begun where
  bits : Nat
  following : Nat
  low : Nat
  high : Nat
  low_ge : 0x80 ≤ low := by decide
  high_le : high ≤ 0xBF := by decide
  deriving DecidableEq, Repr

def replacementCharacter : Char := Char.ofNat 0xFFFD

/-- A byte where no character is begun. -/
def firstByte (byte : UInt8) : List Char × Option Begun :=
  let b := byte.toNat
  if b ≤ 0x7F then ([Char.ofNat b], none)
  else if b < 0xC2 then ([replacementCharacter], none)
  else if b ≤ 0xDF then ([], some (.mk (b - 0xC0) 0 0x80 0xBF))
  else if b = 0xE0 then ([], some (.mk 0 1 0xA0 0xBF))
  -- The surrogates are no characters.
  else if b = 0xED then ([], some (.mk 0xD 1 0x80 0x9F))
  else if b ≤ 0xEF then ([], some (.mk (b - 0xE0) 1 0x80 0xBF))
  else if b = 0xF0 then ([], some (.mk 0 2 0x90 0xBF))
  else if b ≤ 0xF3 then ([], some (.mk (b - 0xF0) 2 0x80 0xBF))
  else if b = 0xF4 then ([], some (.mk 4 2 0x80 0x8F))
  else ([replacementCharacter], none)

/-- One byte. A byte that does not go on with the character that was begun ends
it there, and is read as a first byte. -/
def lossyStep : Transducer (Option Begun) UInt8 (List Char) := fun byte state =>
  match state with
  | none => firstByte byte
  | some begun =>
    let b := byte.toNat
    if begun.low ≤ b ∧ b ≤ begun.high then
      let bits := begun.bits * 64 + (b - 0x80)
      match begun.following with
      | 0 => ([Char.ofNat bits], none)
      | following + 1 => ([], some (.mk bits following 0x80 0xBF))
    else
      let (chars, state) := firstByte byte
      (replacementCharacter :: chars, state)

/-- What is left of a character when the bytes end. -/
def atEnd : Option Begun → List Char
  | none => []
  | some _ => [replacementCharacter]

/-- The characters of the bytes read from a state. -/
def lossyChars (state : Option Begun) (bytes : List UInt8) : List Char :=
  lossyStep.trace (fun _ chars => chars) state bytes ++ atEnd (lossyStep.final state bytes)

/-- The bytes as a text, with the replacement character for what is no UTF-8. -/
def fromUtf8Lossy (bytes : List UInt8) : String := String.ofList (lossyChars none bytes)

theorem lossyChars_nil (state : Option Begun) : lossyChars state [] = atEnd state := rfl

theorem lossyChars_cons (state : Option Begun) (byte : UInt8) (bytes : List UInt8) :
    lossyChars state (byte :: bytes) =
      (lossyStep byte state).1 ++ lossyChars (lossyStep byte state).2 bytes := by
  unfold lossyChars
  rw [Transducer.trace_cons, Transducer.final_cons, List.append_assoc]

/-! ## Texts are read as they are -/

theorem utf8_append (text text' : String) : utf8 (text ++ text') = utf8 text ++ utf8 text' := by
  unfold utf8
  rw [String.toList_append, List.flatMap_append]

theorem utf8_ofList (chars : List Char) :
    utf8 (String.ofList chars) = chars.flatMap String.utf8EncodeChar := by
  unfold utf8
  rw [String.toList_ofList]

/-- The last byte of a character. -/
theorem lossyChars_last {begun : Begun} (hlast : begun.following = 0) {byte : UInt8}
    (hlow : begun.low ≤ byte.toNat) (hhigh : byte.toNat ≤ begun.high) (bytes : List UInt8) :
    lossyChars (some begun) (byte :: bytes) =
      Char.ofNat (begun.bits * 64 + (byte.toNat - 0x80)) :: lossyChars none bytes := by
  have hstep : lossyStep byte (some begun) =
      ([Char.ofNat (begun.bits * 64 + (byte.toNat - 0x80))], none) := by
    unfold lossyStep
    simp only [hlow, hhigh, and_self, if_true, hlast]
  rw [lossyChars_cons, hstep]
  rfl

/-- A byte in the middle of a character. -/
theorem lossyChars_next {begun : Begun} {following : Nat}
    (hnext : begun.following = following + 1) {byte : UInt8}
    (hlow : begun.low ≤ byte.toNat) (hhigh : byte.toNat ≤ begun.high) (bytes : List UInt8) :
    lossyChars (some begun) (byte :: bytes) =
      lossyChars
        (some { bits := begun.bits * 64 + (byte.toNat - 0x80), following := following
                low := 0x80, high := 0xBF }) bytes := by
  have hstep : lossyStep byte (some begun) =
      ([], some { bits := begun.bits * 64 + (byte.toNat - 0x80), following := following
                  low := 0x80, high := 0xBF }) := by
    unfold lossyStep
    simp only [hlow, hhigh, and_self, if_true, hnext]
  rw [lossyChars_cons, hstep]
  rfl

theorem lossyChars_first {byte : UInt8} {begun : Begun}
    (h : firstByte byte = ([], some begun)) (bytes : List UInt8) :
    lossyChars none (byte :: bytes) = lossyChars (some begun) bytes := by
  rw [lossyChars_cons, show lossyStep byte none = ([], some begun) from h]
  rfl

theorem lossyChars_one {byte : UInt8} (h : byte.toNat ≤ 0x7F) (bytes : List UInt8) :
    lossyChars none (byte :: bytes) = Char.ofNat byte.toNat :: lossyChars none bytes := by
  have hstep : lossyStep byte none = ([Char.ofNat byte.toNat], none) := if_pos h
  rw [lossyChars_cons, hstep]
  rfl

theorem lossyChars_two {b₀ b₁ : UInt8} (h₀ : 0xC2 ≤ b₀.toNat ∧ b₀.toNat ≤ 0xDF)
    (h₁ : 0x80 ≤ b₁.toNat ∧ b₁.toNat ≤ 0xBF) (bytes : List UInt8) :
    lossyChars none (b₀ :: b₁ :: bytes) =
      Char.ofNat ((b₀.toNat - 0xC0) * 64 + (b₁.toNat - 0x80)) :: lossyChars none bytes := by
  have hfirst : firstByte b₀ = ([], some (.mk (b₀.toNat - 0xC0) 0 0x80 0xBF)) := by
    unfold firstByte
    grind
  rw [lossyChars_first hfirst, lossyChars_last rfl h₁.1 h₁.2]

theorem lossyChars_three {b₀ b₁ b₂ : UInt8} (h₀ : 0xE0 ≤ b₀.toNat ∧ b₀.toNat ≤ 0xEF)
    (h₁ : 0x80 ≤ b₁.toNat ∧ b₁.toNat ≤ 0xBF) (h₂ : 0x80 ≤ b₂.toNat ∧ b₂.toNat ≤ 0xBF)
    (hshort : b₀.toNat = 0xE0 → 0xA0 ≤ b₁.toNat)
    (hsurrogate : b₀.toNat = 0xED → b₁.toNat ≤ 0x9F) (bytes : List UInt8) :
    lossyChars none (b₀ :: b₁ :: b₂ :: bytes) =
      Char.ofNat (((b₀.toNat - 0xE0) * 64 + (b₁.toNat - 0x80)) * 64 + (b₂.toNat - 0x80)) ::
        lossyChars none bytes := by
  obtain ⟨begun, hfirst, hbits, hfollowing, hlow, hhigh⟩ : ∃ begun : Begun,
      firstByte b₀ = ([], some begun) ∧ begun.bits = b₀.toNat - 0xE0 ∧ begun.following = 1 ∧
        begun.low ≤ b₁.toNat ∧ b₁.toNat ≤ begun.high := by
    unfold firstByte
    by_cases hE0 : b₀.toNat = 0xE0
    · exact ⟨.mk 0 1 0xA0 0xBF, by rw [hE0]; rfl, by rw [hE0], rfl, hshort hE0, h₁.2⟩
    · by_cases hED : b₀.toNat = 0xED
      · exact ⟨.mk 0xD 1 0x80 0x9F, by rw [hED]; rfl, by rw [hED], rfl, h₁.1, hsurrogate hED⟩
      · exact ⟨.mk (b₀.toNat - 0xE0) 1 0x80 0xBF, by grind, rfl, rfl, h₁⟩
  rw [lossyChars_first hfirst, lossyChars_next hfollowing hlow hhigh, hbits,
    lossyChars_last rfl h₂.1 h₂.2]

theorem lossyChars_four {b₀ b₁ b₂ b₃ : UInt8} (h₀ : 0xF0 ≤ b₀.toNat ∧ b₀.toNat ≤ 0xF4)
    (h₁ : 0x80 ≤ b₁.toNat ∧ b₁.toNat ≤ 0xBF) (h₂ : 0x80 ≤ b₂.toNat ∧ b₂.toNat ≤ 0xBF)
    (h₃ : 0x80 ≤ b₃.toNat ∧ b₃.toNat ≤ 0xBF) (hshort : b₀.toNat = 0xF0 → 0x90 ≤ b₁.toNat)
    (hlarge : b₀.toNat = 0xF4 → b₁.toNat ≤ 0x8F) (bytes : List UInt8) :
    lossyChars none (b₀ :: b₁ :: b₂ :: b₃ :: bytes) =
      Char.ofNat ((((b₀.toNat - 0xF0) * 64 + (b₁.toNat - 0x80)) * 64 + (b₂.toNat - 0x80)) * 64 +
        (b₃.toNat - 0x80)) :: lossyChars none bytes := by
  obtain ⟨begun, hfirst, hbits, hfollowing, hlow, hhigh⟩ : ∃ begun : Begun,
      firstByte b₀ = ([], some begun) ∧ begun.bits = b₀.toNat - 0xF0 ∧ begun.following = 2 ∧
        begun.low ≤ b₁.toNat ∧ b₁.toNat ≤ begun.high := by
    unfold firstByte
    by_cases hF0 : b₀.toNat = 0xF0
    · exact ⟨.mk 0 2 0x90 0xBF, by rw [hF0]; rfl, by rw [hF0], rfl, hshort hF0, h₁.2⟩
    · by_cases hF4 : b₀.toNat = 0xF4
      · exact ⟨.mk 4 2 0x80 0x8F, by rw [hF4]; rfl, by rw [hF4], rfl, h₁.1, hlarge hF4⟩
      · exact ⟨.mk (b₀.toNat - 0xF0) 2 0x80 0xBF, by grind, rfl, rfl, h₁⟩
  rw [lossyChars_first hfirst, lossyChars_next hfollowing hlow hhigh, hbits,
    lossyChars_next rfl h₂.1 h₂.2, lossyChars_last rfl h₃.1 h₃.2]

/-- A byte given by a number below 256 is that number. -/
theorem toNat_byte {n : Nat} (h : n < 256) : (UInt8.ofNat n).toNat = n :=
  UInt8.toNat_ofNat_of_lt' h

/-- The encoding of a character is read as the character: the four lengths, with the bounds
its scalar value puts on the first two bytes. -/
theorem lossyChars_encodeChar (c : Char) (bytes : List UInt8) :
    lossyChars none (String.utf8EncodeChar c ++ bytes) = c :: lossyChars none bytes := by
  have hvalid : c.val.toNat < 0xD800 ∨ 0xDFFF < c.val.toNat ∧ c.val.toNat < 0x110000 := c.valid
  have hc : Char.ofNat c.val.toNat = c := Char.ofNat_toNat c
  unfold String.utf8EncodeChar
  generalize c.val.toNat = v at hvalid hc
  subst hc
  dsimp only
  by_cases h₁ : v ≤ 0x7F
  · rw [if_pos h₁]
    have hb := toNat_byte (n := v) (by omega)
    rw [List.singleton_append, lossyChars_one (by omega), hb]
  · rw [if_neg h₁]
    have hlast := toNat_byte (n := v % 64 + 128) (by omega)
    by_cases h₂ : v ≤ 0x7FF
    · rw [if_pos h₂]
      have hb := toNat_byte (n := v / 64 % 32 + 192) (by omega)
      rw [List.cons_append, List.singleton_append, lossyChars_two (by omega) (by omega), hb,
        hlast, show (v / 64 % 32 + 192 - 0xC0) * 64 + (v % 64 + 128 - 0x80) = v by omega]
    · rw [if_neg h₂]
      have hthird := toNat_byte (n := v / 64 % 64 + 128) (by omega)
      by_cases h₃ : v ≤ 0xFFFF
      · rw [if_pos h₃]
        have hb := toNat_byte (n := v / 4096 % 16 + 224) (by omega)
        rw [List.cons_append, List.cons_append, List.singleton_append,
          lossyChars_three (by omega) (by omega) (by omega) (by omega) (by omega), hb, hthird,
          hlast, show ((v / 4096 % 16 + 224 - 0xE0) * 64 + (v / 64 % 64 + 128 - 0x80)) * 64 +
            (v % 64 + 128 - 0x80) = v by omega]
      · rw [if_neg h₃]
        have hsecond := toNat_byte (n := v / 4096 % 64 + 128) (by omega)
        have hb := toNat_byte (n := v / 262144 % 8 + 240) (by omega)
        rw [List.cons_append, List.cons_append, List.cons_append, List.singleton_append,
          lossyChars_four (by omega) (by omega) (by omega) (by omega) (by omega) (by omega), hb,
          hsecond, hthird, hlast,
          show (((v / 262144 % 8 + 240 - 0xF0) * 64 + (v / 4096 % 64 + 128 - 0x80)) * 64 +
            (v / 64 % 64 + 128 - 0x80)) * 64 + (v % 64 + 128 - 0x80) = v by omega]

theorem lossyChars_flatMap (chars : List Char) (bytes : List UInt8) :
    lossyChars none (chars.flatMap String.utf8EncodeChar ++ bytes) =
      chars ++ lossyChars none bytes := by
  induction chars with
  | nil => rfl
  | cons c chars ih =>
    rw [List.flatMap_cons, List.append_assoc, lossyChars_encodeChar, ih, List.cons_append]

/-- The bytes of a text are read as that text. -/
theorem fromUtf8Lossy_utf8 (text : String) : fromUtf8Lossy (utf8 text) = text := by
  have h := lossyChars_flatMap text.toList []
  rw [List.append_nil, lossyChars_nil, show atEnd none = [] from rfl, List.append_nil] at h
  unfold fromUtf8Lossy utf8
  rw [h, String.ofList_toList]

/-! ## How many characters come out -/

theorem utf8_fromUtf8Lossy {bytes : List UInt8} (h : IsUtf8 bytes) :
    utf8 (fromUtf8Lossy bytes) = bytes := by
  obtain ⟨text, rfl⟩ := h
  rw [fromUtf8Lossy_utf8]

theorem utf8_injective {text text' : String} (h : utf8 text = utf8 text') : text = text' := by
  rw [← fromUtf8Lossy_utf8 text, h, fromUtf8Lossy_utf8]

/-! ## A strict decoder -/

/-- The text the bytes are, if they are one. -/
def fromUtf8 (bytes : List UInt8) : Option String :=
  if utf8 (fromUtf8Lossy bytes) = bytes then some (fromUtf8Lossy bytes) else none

theorem fromUtf8_eq_some_iff {bytes : List UInt8} {text : String} :
    fromUtf8 bytes = some text ↔ utf8 text = bytes := by
  unfold fromUtf8
  constructor
  · intro h
    split at h
    next hbytes =>
      cases h
      exact hbytes
    next => cases h
  · rintro rfl
    rw [fromUtf8Lossy_utf8, if_pos rfl]

/-- How many bytes are no continuation bytes. -/
def leadCount (bytes : List UInt8) : Nat := bytes.countP (!isContinuation ·)

theorem leadCount_append (bytes bytes' : List UInt8) :
    leadCount (bytes ++ bytes') = leadCount bytes + leadCount bytes' :=
  List.countP_append

theorem leadCount_cons (byte : UInt8) (bytes : List UInt8) :
    leadCount (byte :: bytes) = leadCount bytes + if isContinuation byte then 0 else 1 := by
  unfold leadCount
  rw [List.countP_cons]
  cases isContinuation byte <;> rfl

/-- A first byte gives a character or begins one. -/
theorem length_firstByte (byte : UInt8) :
    (firstByte byte).1.length + (atEnd (firstByte byte).2).length = 1 := by
  unfold firstByte
  dsimp only
  repeat' split
  all_goals rfl

/-- A character that was begun counts, and every byte that does not go on with it counts
another one. -/
theorem length_lossyStep (byte : UInt8) (state : Option Begun) :
    (atEnd state).length + (if isContinuation byte then 0 else 1) ≤
      (lossyStep byte state).1.length + (atEnd (lossyStep byte state).2).length := by
  have hfirst := length_firstByte byte
  cases state with
  | none =>
    show 0 + _ ≤ (firstByte byte).1.length + (atEnd (firstByte byte).2).length
    rw [hfirst]
    split <;> omega
  | some begun =>
    unfold lossyStep
    dsimp only
    by_cases hrange : begun.low ≤ byte.toNat ∧ byte.toNat ≤ begun.high
    · have hcont : isContinuation byte = true := by
        have hlow := begun.low_ge
        have hhigh := begun.high_le
        unfold isContinuation
        rw [Bool.and_eq_true, decide_eq_true_iff, decide_eq_true_iff]
        omega
      rw [if_pos hrange, if_pos hcont]
      cases begun.following <;> simp [atEnd]
    · rw [if_neg hrange]
      show 1 + _ ≤ (firstByte byte).1.length + 1 + (atEnd (firstByte byte).2).length
      split <;> omega

theorem length_lossyChars (state : Option Begun) (bytes : List UInt8) :
    (atEnd state).length + leadCount bytes ≤ (lossyChars state bytes).length := by
  induction bytes generalizing state with
  | nil => exact Nat.le_refl _
  | cons byte bytes ih =>
    have hstep := length_lossyStep byte state
    have hrest := ih (lossyStep byte state).2
    rw [lossyChars_cons, List.length_append, leadCount_cons]
    omega

theorem length_fromUtf8Lossy (bytes : List UInt8) :
    leadCount bytes ≤ (fromUtf8Lossy bytes).toList.length := by
  have h := length_lossyChars none bytes
  unfold fromUtf8Lossy
  rw [String.toList_ofList]
  exact Nat.le_trans (Nat.le_add_left ..) h

/-- A piece that begins in the middle of a character gives a character too many. -/
theorem length_fromUtf8Lossy_of_isContinuation {byte : UInt8} (hbyte : isContinuation byte = true)
    (bytes : List UInt8) :
    leadCount (byte :: bytes) < (fromUtf8Lossy (byte :: bytes)).toList.length := by
  have hfirst := length_firstByte byte
  have hrest := length_lossyChars (firstByte byte).2 bytes
  unfold fromUtf8Lossy
  rw [String.toList_ofList, lossyChars_cons, List.length_append, leadCount_cons, hbyte, if_pos rfl]
  show _ < (firstByte byte).1.length + (lossyChars (firstByte byte).2 bytes).length
  omega

/-! ## Where a text can be cut -/

theorem isContinuation_tail (n : Nat) : isContinuation (UInt8.ofNat (n % 64 + 128)) = true := by
  have h := toNat_byte (n := n % 64 + 128) (by omega)
  unfold isContinuation
  rw [h, Bool.and_eq_true, decide_eq_true_iff, decide_eq_true_iff]
  omega

theorem isContinuation_lead {n : Nat} (hn : n < 256) (hlead : n < 0x80 ∨ 0xBF < n) :
    isContinuation (UInt8.ofNat n) = false := by
  have h := toNat_byte hn
  unfold isContinuation
  rw [h, Bool.and_eq_false_iff, decide_eq_false_iff_not, decide_eq_false_iff_not]
  omega

/-- A character is a byte that is no continuation byte and then continuation bytes. -/
theorem encodeChar_eq (c : Char) : ∃ byte bytes, String.utf8EncodeChar c = byte :: bytes ∧
    isContinuation byte = false ∧ ∀ b ∈ bytes, isContinuation b = true := by
  have hvalid : c.val.toNat < 0xD800 ∨ 0xDFFF < c.val.toNat ∧ c.val.toNat < 0x110000 := c.valid
  have htail := isContinuation_tail
  unfold String.utf8EncodeChar
  generalize c.val.toNat = v at hvalid
  dsimp only
  by_cases h₁ : v ≤ 0x7F
  · rw [if_pos h₁]
    exact ⟨_, _, rfl, isContinuation_lead (by omega) (by omega), nofun⟩
  · rw [if_neg h₁]
    by_cases h₂ : v ≤ 0x7FF
    · rw [if_pos h₂]
      refine ⟨_, _, rfl, isContinuation_lead (by omega) (by omega), ?_⟩
      exact List.forall_mem_cons.mpr ⟨htail _, nofun⟩
    · rw [if_neg h₂]
      by_cases h₃ : v ≤ 0xFFFF
      · rw [if_pos h₃]
        refine ⟨_, _, rfl, isContinuation_lead (by omega) (by omega), ?_⟩
        exact List.forall_mem_cons.mpr ⟨htail _, List.forall_mem_cons.mpr ⟨htail _, nofun⟩⟩
      · rw [if_neg h₃]
        refine ⟨_, _, rfl, isContinuation_lead (by omega) (by omega), ?_⟩
        exact List.forall_mem_cons.mpr ⟨htail _, List.forall_mem_cons.mpr ⟨htail _,
          List.forall_mem_cons.mpr ⟨htail _, nofun⟩⟩⟩

theorem leadCount_encodeChar (c : Char) : leadCount (String.utf8EncodeChar c) = 1 := by
  obtain ⟨byte, bytes, hc, hbyte, hbytes⟩ := encodeChar_eq c
  have hrest : leadCount bytes = 0 := by
    unfold leadCount
    rw [List.countP_eq_zero]
    intro b hb
    rw [hbytes b hb]
    exact nofun
  rw [hc, leadCount_cons, hrest, hbyte]
  rfl

/-- A text has a character for every byte that is no continuation byte. -/
theorem leadCount_utf8 (text : String) : leadCount (utf8 text) = text.toList.length := by
  unfold utf8
  induction text.toList with
  | nil => rfl
  | cons c chars ih =>
    rw [List.flatMap_cons, leadCount_append, leadCount_encodeChar, ih, List.length_cons,
      Nat.add_comm]

theorem length_le_utf8 (text : String) : text.toList.length ≤ (utf8 text).length := by
  rw [← leadCount_utf8]
  exact List.countP_le_length

/-- Where the second piece does not begin with a continuation byte, the cut is between two
characters. The induction is on the characters: a cut inside the first one would leave one of
its continuation bytes at the head of the second piece. -/
theorem exists_chars_of_append {chars : List Char} {bytes bytes' : List UInt8}
    (h : chars.flatMap String.utf8EncodeChar = bytes ++ bytes')
    (hhead : ∀ b ∈ bytes'.head?, isContinuation b = false) :
    ∃ chars₁ chars₂ : List Char, chars₁.flatMap String.utf8EncodeChar = bytes ∧
      chars₂.flatMap String.utf8EncodeChar = bytes' := by
  induction chars generalizing bytes with
  | nil =>
    obtain ⟨rfl, rfl⟩ := List.append_eq_nil_iff.mp h.symm
    exact ⟨[], [], rfl, rfl⟩
  | cons c chars ih =>
    rw [List.flatMap_cons] at h
    rcases List.append_eq_append_iff.mp h with ⟨rest, rfl, hrest⟩ | ⟨rest, hc, rfl⟩
    · obtain ⟨chars₁, chars₂, h₁, h₂⟩ := ih hrest
      exact ⟨c :: chars₁, chars₂, by rw [List.flatMap_cons, h₁], h₂⟩
    · cases bytes with
      | nil => exact ⟨[], c :: chars, rfl, by rw [List.flatMap_cons, hc, List.nil_append]⟩
      | cons byte bytes =>
        cases rest with
        | nil =>
          refine ⟨[c], chars, ?_, rfl⟩
          rw [List.flatMap_singleton, hc, List.append_nil]
        | cons b rest =>
          obtain ⟨_, conts, hconts, -, hall⟩ := encodeChar_eq c
          rw [hconts, List.cons_append, List.cons.injEq] at hc
          have hb : isContinuation b = true := by
            apply hall b
            rw [hc.2]
            exact List.mem_append_right _ List.mem_cons_self
          rw [hhead b rfl] at hb
          cases hb

theorem isUtf8_of_append {bytes bytes' : List UInt8} (h : IsUtf8 (bytes ++ bytes'))
    (hhead : ∀ b ∈ bytes'.head?, isContinuation b = false) : IsUtf8 bytes ∧ IsUtf8 bytes' := by
  obtain ⟨text, htext⟩ := h
  obtain ⟨chars₁, chars₂, h₁, h₂⟩ := exists_chars_of_append htext hhead
  exact ⟨⟨String.ofList chars₁, by rw [utf8_ofList, h₁]⟩,
    ⟨String.ofList chars₂, by rw [utf8_ofList, h₂]⟩⟩

/-! ## Pieces of a text -/

theorem head?_flatten (pieces : List (List UInt8)) :
    pieces.flatten.head? = none ∨ ∃ piece ∈ pieces, pieces.flatten.head? = piece.head? := by
  induction pieces with
  | nil => exact Or.inl rfl
  | cons piece pieces ih =>
    rw [List.flatten_cons]
    cases piece with
    | cons b piece => exact Or.inr ⟨b :: piece, List.mem_cons_self, rfl⟩
    | nil =>
      rw [List.nil_append]
      rcases ih with h | ⟨piece, hp, h⟩
      · exact Or.inl h
      · exact Or.inr ⟨piece, List.mem_cons_of_mem _ hp, h⟩

theorem isUtf8_of_flatten {pieces : List (List UInt8)} (h : IsUtf8 pieces.flatten)
    (hheads : ∀ piece ∈ pieces, ∀ b ∈ piece.head?, isContinuation b = false) :
    ∀ piece ∈ pieces, IsUtf8 piece := by
  induction pieces with
  | nil => exact nofun
  | cons piece pieces ih =>
    rw [List.flatten_cons] at h
    have hrest : ∀ b ∈ pieces.flatten.head?, isContinuation b = false := by
      intro b hb
      rcases head?_flatten pieces with hnone | ⟨piece', hp, hsome⟩
      · rw [hnone] at hb
        cases hb
      · rw [hsome] at hb
        exact hheads piece' (List.mem_cons_of_mem _ hp) b hb
    obtain ⟨hpiece, hpieces⟩ := isUtf8_of_append h hrest
    have htail := ih hpieces fun piece hp => hheads piece (List.mem_cons_of_mem _ hp)
    exact List.forall_mem_cons.mpr ⟨hpiece, htail⟩

/-- The pieces of a text, each read by itself. -/
def readPieces (pieces : List (List UInt8)) : List Char :=
  pieces.flatMap fun piece => (fromUtf8Lossy piece).toList

theorem readPieces_cons (piece : List UInt8) (pieces : List (List UInt8)) :
    readPieces (piece :: pieces) = (fromUtf8Lossy piece).toList ++ readPieces pieces := rfl

theorem leadCount_flatten (pieces : List (List UInt8)) :
    leadCount pieces.flatten ≤ (readPieces pieces).length := by
  unfold readPieces
  induction pieces with
  | nil => exact Nat.le_refl _
  | cons piece pieces ih =>
    have hpiece := length_fromUtf8Lossy piece
    rw [List.flatten_cons, leadCount_append, List.flatMap_cons, List.length_append]
    omega

theorem leadCount_flatten_lt {pieces : List (List UInt8)} {piece : List UInt8}
    (hp : piece ∈ pieces) {b : UInt8} (hb : b ∈ piece.head?) (hcont : isContinuation b = true) :
    leadCount pieces.flatten < (readPieces pieces).length := by
  obtain ⟨before, after, rfl⟩ := List.append_of_mem hp
  have hbefore := leadCount_flatten before
  have hafter := leadCount_flatten after
  have hpiece : leadCount piece < (fromUtf8Lossy piece).toList.length := by
    cases piece with
    | nil => cases hb
    | cons b' piece =>
      rw [List.head?_cons, Option.mem_some_iff] at hb
      exact length_fromUtf8Lossy_of_isContinuation (hb ▸ hcont) piece
  unfold readPieces at *
  rw [List.flatten_append, leadCount_append, List.flatten_cons, leadCount_append,
    List.flatMap_append, List.length_append, List.flatMap_cons, List.length_append]
  omega

/-- **A text in pieces.** Pieces of a text that are not all texts themselves have, each read by
itself, more characters than the text. -/
theorem length_lt_readPieces {pieces : List (List UInt8)} {text : String}
    (htext : pieces.flatten = utf8 text) (hbad : ∃ piece ∈ pieces, ¬ IsUtf8 piece) :
    text.toList.length < (readPieces pieces).length := by
  obtain ⟨piece, hp, b, hb, hcont⟩ : ∃ piece ∈ pieces, ∃ b ∈ piece.head?,
      isContinuation b = true := by
    by_contra hall
    push Not at hall
    obtain ⟨piece, hp, hpiece⟩ := hbad
    refine hpiece (isUtf8_of_flatten ⟨text, htext.symm⟩ ?_ piece hp)
    intro piece hp b hb
    exact Bool.eq_false_iff.mpr (hall piece hp b hb)
  have h := leadCount_flatten_lt hp hb hcont
  rw [htext, leadCount_utf8] at h
  exact h

theorem flatMap_readPieces {pieces : List (List UInt8)} (h : ∀ piece ∈ pieces, IsUtf8 piece) :
    (readPieces pieces).flatMap String.utf8EncodeChar = pieces.flatten := by
  unfold readPieces
  induction pieces with
  | nil => rfl
  | cons piece pieces ih =>
    obtain ⟨hpiece, hpieces⟩ := List.forall_mem_cons.mp h
    rw [List.flatMap_cons, List.flatMap_append, ih hpieces, List.flatten_cons]
    congr 1
    exact utf8_fromUtf8Lossy hpiece

example : fromUtf8Lossy [0x61, 0xC3, 0xA9] = "aé" := by decide
example : fromUtf8Lossy [0xE2, 0x82, 0x41] = String.ofList [Char.ofNat 0xFFFD, 'A'] := by decide

end CodexAcp.Lib.Utf8

import Mathlib.Data.Prod.Lex
import CodexAcp.Lib.Span
import CodexAcp.Thread.ActorModels

/-!
# The version of a model

The picker offers the models from version 5.3 on. A name gives a version by the
numbers after `gpt-`, with a dot between them, and a version without a minor
number has the minor number 0. The gate reads the name another way: it cuts it
at the first dot, wherever that is, and parses both numbers within 32 bits.

> `modelIsGpt53OrNewer_iff`: the names that the gate lets pass.
> `pickerFollowsVersion_iff`: the picker follows the version of a name, except for a
> recent one without a minor number or with a number that does not fit, and for a
> name with a plus sign, which is no version and passes.
-/

namespace CodexAcp.Thread

open CodexAcp.Lib CodexAcp.Protocol

/-! ## Versions -/

/-- What follows a number does not go on with it. -/
def IsVersionSuffix (suffix : String) : Prop :=
  ∀ c ∈ suffix.toList.head?, Text.isAsciiDigit c = false

/-- What follows a major number begins with a minor one. -/
def WritesMinor (suffix : String) : Prop :=
  ∃ digits rest, Text.IsNumeral digits ∧ suffix = "." ++ digits ++ rest

/-- The version that a name gives. A minor number is read as one where it is written. -/
inductive NamesVersion : String → ℕ → ℕ → Prop
  | major {major suffix : String} (hmajor : Text.IsNumeral major)
      (hsuffix : IsVersionSuffix suffix) (hminor : ¬ WritesMinor suffix) :
      NamesVersion ("gpt-" ++ major ++ suffix) (Text.numeralValue major) 0
  | minor {major minor suffix : String} (hmajor : Text.IsNumeral major)
      (hminor : Text.IsNumeral minor) (hsuffix : IsVersionSuffix suffix) :
      NamesVersion ("gpt-" ++ major ++ "." ++ minor ++ suffix) (Text.numeralValue major)
        (Text.numeralValue minor)

/-- Version 5.3 or a later one, in the lexicographic order. -/
def IsRecent (major minor : ℕ) : Prop := toLex (5, 3) ≤ toLex (major, minor)

def NamesRecentVersion (model : String) : Prop :=
  ∃ major minor, NamesVersion model major minor ∧ IsRecent major minor

/-- The names with which the gate goes wrong. -/
inductive Misread : String → Prop
  /-- A recent version without a minor number is not let through. -/
  | noMinor {major suffix : String} (hmajor : Text.IsNumeral major)
      (hsuffix : IsVersionSuffix suffix) (hminor : ¬ WritesMinor suffix)
      (hrecent : 5 < Text.numeralValue major) : Misread ("gpt-" ++ major ++ suffix)
  /-- Nor is one with a number that does not fit. -/
  | tooLarge {major minor suffix : String} (hmajor : Text.IsNumeral major)
      (hminor : Text.IsNumeral minor) (hsuffix : IsVersionSuffix suffix)
      (hrecent : IsRecent (Text.numeralValue major) (Text.numeralValue minor))
      (hlarge : 2 ^ 32 ≤ Text.numeralValue major ∨ 2 ^ 32 ≤ Text.numeralValue minor) :
      Misread ("gpt-" ++ major ++ "." ++ minor ++ suffix)
  /-- A name with a sign gives no version, and is let through. -/
  | signed {major minor suffix : String} (hmajor : Text.IsNumeral major)
      (hminor : Text.IsNumeral minor) (hsuffix : IsVersionSuffix suffix)
      (hrecent : IsRecent (Text.numeralValue major) (Text.numeralValue minor))
      (hfits : Text.numeralValue major < 2 ^ 32 ∧ Text.numeralValue minor < 2 ^ 32) :
      Misread ("gpt-" ++ "+" ++ major ++ "." ++ minor ++ suffix)

/-- The preset is shown, or the default one, or in use, and has a high effort. -/
def IsEligible (currentModel : Option String) (preset : ModelPreset) : Prop :=
  (preset.showInPicker = true ∨ preset.isDefault = true ∨
      ∃ model, currentModel = some model ∧ (model = preset.model ∨ model = preset.id)) ∧
    ∃ e ∈ preset.supportedReasoningEfforts, reasoningEffortIsHighOrHigher e.effort = true

/-- An eligible preset of that name is offered, among whatever presets it is listed, exactly when
its version is recent. -/
def PickerFollowsVersion (model : String) : Prop :=
  ∀ (preset : ModelPreset) (before after : List ModelPreset) (currentModel : Option String),
    preset.model = model →
      ((∃ offered, filterModelPresetsForPicker (before ++ preset :: after) currentModel =
          filterModelPresetsForPicker before currentModel ++
            offered :: filterModelPresetsForPicker after currentModel) ↔
        NamesRecentVersion model ∧ IsEligible currentModel preset)

theorem isRecent_iff {major minor : ℕ} :
    IsRecent major minor ↔ 5 < major ∨ major = 5 ∧ 3 ≤ minor := by
  unfold IsRecent
  rw [Prod.Lex.toLex_le_toLex, eq_comm (a := major)]

/-! ## How a name is cut -/

section Cuts

variable {major minor suffix major' suffix' : String}

theorem isSpan_numeral (hmajor : Text.IsNumeral major) (hsuffix : IsVersionSuffix suffix) :
    Text.IsSpan Text.isAsciiDigit major.toList suffix.toList :=
  ⟨hmajor.2, hsuffix⟩

theorem isVersionSuffix_dot (rest : String) : IsVersionSuffix ("." ++ rest) := by
  intro c hc
  rw [String.toList_append] at hc
  cases hc
  rfl

/-- A number is read up to its end. -/
theorem numeral_cut (hmajor : Text.IsNumeral major) (hsuffix : IsVersionSuffix suffix)
    (hmajor' : Text.IsNumeral major') (hsuffix' : IsVersionSuffix suffix')
    (h : major ++ suffix = major' ++ suffix') : major = major' ∧ suffix = suffix' := by
  rw [← String.toList_inj, String.toList_append, String.toList_append] at h
  obtain ⟨hm, hs⟩ := (isSpan_numeral hmajor hsuffix).unique (isSpan_numeral hmajor' hsuffix') h
  exact ⟨String.toList_inj.mp hm, String.toList_inj.mp hs⟩

/-- No number begins with a sign. -/
theorem numeral_ne_signed (hmajor : Text.IsNumeral major) (rest : String) :
    major ++ suffix ≠ "+" ++ rest := by
  intro h
  rw [← String.toList_inj, String.toList_append, String.toList_append] at h
  cases hchars : major.toList with
  | nil => exact absurd hchars (Text.toList_ne_nil.mpr hmajor.1)
  | cons c cs =>
    rw [hchars] at h
    obtain rfl : c = '+' := (List.cons.inj h).1
    exact absurd (hchars ▸ List.mem_cons_self) (hmajor.not_mem (c := '+') (by decide))

/-- A name with a sign gives no version. -/
theorem not_namesVersion_signed (rest : String) {M N : ℕ} :
    ¬ NamesVersion ("gpt-" ++ "+" ++ rest) M N := by
  intro h
  generalize hname : "gpt-" ++ "+" ++ rest = model at h
  cases h with
  | major hmajor hsuffix hminor =>
    rw [String.append_assoc, String.append_assoc, String.append_right_inj] at hname
    exact numeral_ne_signed hmajor rest hname.symm
  | minor hmajor hminor hsuffix =>
    simp only [String.append_assoc, String.append_right_inj] at hname
    exact numeral_ne_signed hmajor rest hname.symm

end Cuts

/-! ## The gate -/

/-- The minor number is the digits that what follows the dot begins with. They have no sign. -/
theorem parseMinor_eq_some_iff {rest : String} {n : ℕ} :
    Text.parseUnsigned 32 (String.ofList (rest.toList.takeWhile Text.isAsciiDigit)) = some n ↔
      ∃ minor suffix, rest = minor ++ suffix ∧ Text.IsNumeral minor ∧ IsVersionSuffix suffix ∧
        Text.numeralValue minor = n ∧ n < 2 ^ 32 := by
  rw [Text.parseUnsigned_eq_some_iff]
  constructor
  · rintro ⟨sign, digits, hsign, hrest, hdigits, hvalue, hn⟩
    have hspan := Text.isSpan_takeWhile Text.isAsciiDigit rest.toList
    rcases hsign with rfl | rfl
    · rw [String.empty_append] at hrest
      refine ⟨digits, String.ofList (rest.toList.dropWhile Text.isAsciiDigit), ?_, hdigits, ?_,
        hvalue, hn⟩
      · rw [← hrest, ← String.ofList_append, List.takeWhile_append_dropWhile, String.ofList_toList]
      · unfold IsVersionSuffix
        rw [String.toList_ofList]
        exact hspan.stops
    · have hplus : '+' ∈ rest.toList.takeWhile Text.isAsciiDigit := by
        rw [← String.toList_ofList (l := rest.toList.takeWhile _), hrest, String.toList_append]
        exact List.mem_append_left _ List.mem_cons_self
      exact absurd (hspan.all '+' hplus) (by decide)
  · rintro ⟨minor, suffix, rfl, hminor, hsuffix, hvalue, hn⟩
    refine ⟨"", minor, .inl rfl, ?_, hminor, hvalue, hn⟩
    rw [String.toList_append, (isSpan_numeral hminor hsuffix).takeWhile, String.ofList_toList,
      String.empty_append]

/-- **The gate.** It lets a name pass that has two numbers after `gpt-`, a dot between them and
perhaps a plus sign before them, when they fit and the version is recent. -/
theorem modelIsGpt53OrNewer_iff {model : String} :
    modelIsGpt53OrNewer model = true ↔
      ∃ sign major minor suffix, (sign = "" ∨ sign = "+") ∧
        model = "gpt-" ++ sign ++ major ++ "." ++ minor ++ suffix ∧
        Text.IsNumeral major ∧ Text.IsNumeral minor ∧ IsVersionSuffix suffix ∧
        IsRecent (Text.numeralValue major) (Text.numeralValue minor) ∧
        Text.numeralValue major < 2 ^ 32 ∧ Text.numeralValue minor < 2 ^ 32 := by
  unfold modelIsGpt53OrNewer
  constructor
  · intro h
    split at h
    · cases h
    next version hversion =>
    split at h
    · cases h
    next majorText rest hsplit =>
    split at h
    · cases h
    next M hM =>
    split at h
    · cases h
    next N hN =>
    obtain ⟨sign, major, hsign, rfl, hmajor, rfl, hM⟩ := Text.parseUnsigned_eq_some_iff.mp hM
    obtain ⟨minor, suffix, rfl, hminor, hsuffix, rfl, hN⟩ := parseMinor_eq_some_iff.mp hN
    refine ⟨sign, major, minor, suffix, hsign, ?_, hmajor, hminor, hsuffix, ?_, hM, hN⟩
    · rw [Text.stripPrefix_eq_some_iff.mp hversion, (Text.splitOnce_eq_some_iff.mp hsplit).1]
      simp only [String.append_assoc]
      rfl
    · simpa [isRecent_iff] using h
  · rintro ⟨sign, major, minor, suffix, hsign, rfl, hmajor, hminor, hsuffix, hrecent, hM, hN⟩
    have hversion : Text.stripPrefix "gpt-" ("gpt-" ++ sign ++ major ++ "." ++ minor ++ suffix) =
        some (sign ++ major ++ "." ++ (minor ++ suffix)) := by
      rw [Text.stripPrefix_eq_some_iff]
      simp only [String.append_assoc]
    have hsplit : Text.splitOnce '.' (sign ++ major ++ "." ++ (minor ++ suffix)) =
        some (sign ++ major, minor ++ suffix) := by
      refine Text.splitOnce_eq_some_iff.mpr ⟨rfl, ?_⟩
      rw [String.toList_append, List.mem_append, not_or]
      refine ⟨?_, hmajor.not_mem (by decide)⟩
      rcases hsign with rfl | rfl <;> decide
    have hmajor' : Text.parseUnsigned 32 (sign ++ major) = some (Text.numeralValue major) :=
      Text.parseUnsigned_eq_some_iff.mpr ⟨sign, major, hsign, rfl, hmajor, rfl, hM⟩
    have hminor' := parseMinor_eq_some_iff.mpr ⟨minor, suffix, rfl, hminor, hsuffix, rfl, hN⟩
    rw [hversion]
    dsimp only
    rw [hsplit]
    dsimp only
    rw [hmajor']
    dsimp only
    rw [hminor']
    simpa [isRecent_iff] using hrecent

example : modelIsGpt53OrNewer "gpt-05.03-mini" = true := by decide
example : modelIsGpt53OrNewer "gpt-6-x.5" = false := by decide
example : modelIsGpt53OrNewer "gpt-+5.4" = true := by decide

section Readings

variable {major minor suffix : String}

/-- Of a name without a sign, what follows the major number begins with the minor one. -/
theorem gate_writesMinor {rest : String} (hmajor : Text.IsNumeral major)
    (hrest : IsVersionSuffix rest) (h : modelIsGpt53OrNewer ("gpt-" ++ major ++ rest) = true) :
    ∃ minor suffix, rest = "." ++ minor ++ suffix ∧ Text.IsNumeral minor ∧
      IsVersionSuffix suffix ∧ IsRecent (Text.numeralValue major) (Text.numeralValue minor) ∧
      Text.numeralValue major < 2 ^ 32 ∧ Text.numeralValue minor < 2 ^ 32 := by
  obtain ⟨sign, major', minor, suffix, hsign, hname, hmajor', hminor, hsuffix, hgate⟩ :=
    modelIsGpt53OrNewer_iff.mp h
  simp only [String.append_assoc, String.append_right_inj] at hname
  rcases hsign with rfl | rfl
  · rw [String.empty_append] at hname
    obtain ⟨rfl, rfl⟩ := numeral_cut hmajor hrest hmajor' (isVersionSuffix_dot _) hname
    exact ⟨minor, suffix, String.append_assoc.symm, hminor, hsuffix, hgate⟩
  · exact absurd hname (numeral_ne_signed hmajor _)

theorem gate_major (hmajor : Text.IsNumeral major) (hsuffix : IsVersionSuffix suffix)
    (hminor : ¬ WritesMinor suffix) : ¬ modelIsGpt53OrNewer ("gpt-" ++ major ++ suffix) = true := by
  intro h
  obtain ⟨minor, rest, hrest, hnumeral, -⟩ := gate_writesMinor hmajor hsuffix h
  exact hminor ⟨minor, rest, hnumeral, hrest⟩

theorem gate_minor (hmajor : Text.IsNumeral major) (hminor : Text.IsNumeral minor)
    (hsuffix : IsVersionSuffix suffix) :
    modelIsGpt53OrNewer ("gpt-" ++ major ++ "." ++ minor ++ suffix) = true ↔
      IsRecent (Text.numeralValue major) (Text.numeralValue minor) ∧
        Text.numeralValue major < 2 ^ 32 ∧ Text.numeralValue minor < 2 ^ 32 := by
  constructor
  · intro h
    rw [String.append_assoc, String.append_assoc] at h
    obtain ⟨minor', suffix', hrest, hminor', hsuffix', hgate⟩ :=
      gate_writesMinor hmajor (isVersionSuffix_dot _) h
    rw [String.append_assoc, String.append_right_inj] at hrest
    obtain ⟨rfl, -⟩ := numeral_cut hminor hsuffix hminor' hsuffix' hrest
    exact hgate
  · intro h
    refine modelIsGpt53OrNewer_iff.mpr ⟨"", major, minor, suffix, .inl rfl, ?_, hmajor, hminor,
      hsuffix, h⟩
    rw [String.append_empty]

/-- **Misread names.** The gate follows the version of a name exactly when the name is none of
those. -/
theorem gate_iff_not_misread (model : String) :
    (modelIsGpt53OrNewer model = true ↔ NamesRecentVersion model) ↔ ¬ Misread model := by
  constructor
  · rintro hgate (⟨hmajor, hsuffix, hminor, hrecent⟩ |
      ⟨hmajor, hminor, hsuffix, hrecent, hlarge⟩ | ⟨hmajor, hminor, hsuffix, hrecent, hfits⟩)
    · have hnames := NamesVersion.major hmajor hsuffix hminor
      exact gate_major hmajor hsuffix hminor
        (hgate.mpr ⟨_, _, hnames, isRecent_iff.mpr (.inl hrecent)⟩)
    · have hnames := NamesVersion.minor hmajor hminor hsuffix
      have hfits := ((gate_minor hmajor hminor hsuffix).mp (hgate.mpr ⟨_, _, hnames, hrecent⟩)).2
      omega
    · obtain ⟨M, N, hnames, -⟩ := hgate.mp (modelIsGpt53OrNewer_iff.mpr
        ⟨"+", _, _, _, .inr rfl, rfl, hmajor, hminor, hsuffix, hrecent, hfits⟩)
      rw [String.append_assoc, String.append_assoc, String.append_assoc] at hnames
      exact not_namesVersion_signed _ hnames
  · intro hread
    constructor
    · intro hgate
      obtain ⟨sign, major, minor, suffix, hsign, rfl, hmajor, hminor, hsuffix, hrecent, hfits⟩ :=
        modelIsGpt53OrNewer_iff.mp hgate
      rcases hsign with rfl | rfl
      · rw [String.append_empty]
        exact ⟨_, _, .minor hmajor hminor hsuffix, hrecent⟩
      · exact absurd (.signed hmajor hminor hsuffix hrecent hfits) hread
    · rintro ⟨M, N, hnames, hrecent⟩
      cases hnames with
      | major hmajor hsuffix hminor =>
        have hmajor' := (isRecent_iff.mp hrecent).resolve_right (by omega)
        exact absurd (.noMinor hmajor hsuffix hminor hmajor') hread
      | minor hmajor hminor hsuffix =>
        refine (gate_minor hmajor hminor hsuffix).mpr ⟨hrecent, ?_⟩
        by_contra hlarge
        exact hread (.tooLarge hmajor hminor hsuffix hrecent (by omega))

end Readings

/-! ## The picker -/

/-- A preset is offered when the gate lets it pass and it is eligible. -/
theorem pickerPreset_isSome_iff {currentModel : Option String} {preset : ModelPreset} :
    (pickerPreset currentModel preset).isSome = true ↔
      modelIsGpt53OrNewer preset.model = true ∧ IsEligible currentModel preset := by
  have hshown : (preset.showInPicker || preset.isDefault ||
        currentModel.any fun model => model = preset.model || model = preset.id) = true ↔
      preset.showInPicker = true ∨ preset.isDefault = true ∨
        ∃ model, currentModel = some model ∧ (model = preset.model ∨ model = preset.id) := by
    simp [Option.any_eq_true, or_assoc]
  have hefforts : preset.supportedReasoningEfforts.filter
        (fun e => reasoningEffortIsHighOrHigher e.effort) ≠ [] ↔
      ∃ e ∈ preset.supportedReasoningEfforts, reasoningEffortIsHighOrHigher e.effort = true := by
    simp [List.filter_eq_nil_iff]
  unfold IsEligible pickerPreset
  rw [← hshown, ← hefforts]
  dsimp only
  split
  next hhidden =>
    refine ⟨nofun, fun ⟨hgate, hvisible, _⟩ => ?_⟩
    rw [hgate, hvisible] at hhidden
    cases hhidden
  next hpassed =>
    rw [Bool.or_eq_true, not_or, Bool.not_eq_true', Bool.not_eq_true', Bool.not_eq_false,
      Bool.not_eq_false] at hpassed
    split
    next hnone => exact ⟨nofun, fun h => absurd hnone h.2.2⟩
    next first others hsome =>
      exact ⟨fun _ => ⟨hpassed.1, hpassed.2, by rw [hsome]; nofun⟩, fun _ => rfl⟩

/-- In its place among the presets, a preset is offered or left out. -/
theorem filterModelPresetsForPicker_offers_iff {before after : List ModelPreset}
    {preset : ModelPreset} {currentModel : Option String} :
    (∃ offered, filterModelPresetsForPicker (before ++ preset :: after) currentModel =
        filterModelPresetsForPicker before currentModel ++
          offered :: filterModelPresetsForPicker after currentModel) ↔
      (pickerPreset currentModel preset).isSome = true := by
  unfold filterModelPresetsForPicker
  rw [List.filterMap_append]
  cases hpreset : pickerPreset currentModel preset with
  | none =>
    rw [List.filterMap_cons_none hpreset]
    refine ⟨fun ⟨offered, h⟩ => ?_, nofun⟩
    -- one more preset would be offered than there are
    have hlength := congrArg List.length h
    rw [List.length_append, List.length_append, List.length_cons] at hlength
    omega
  | some offered =>
    rw [List.filterMap_cons_some hpreset]
    exact ⟨fun _ => rfl, fun _ => ⟨offered, rfl⟩⟩

/-- A preset of some name, shown and with a high effort. -/
def shownPreset (model : String) : ModelPreset :=
  { id := model
    model := model
    displayName := model
    description := ""
    defaultReasoningEffort := .high
    supportedReasoningEfforts := [{ effort := .high, description := "" }]
    isDefault := false
    showInPicker := true }

theorem isEligible_shownPreset (model : String) : IsEligible none (shownPreset model) :=
  ⟨.inl rfl, _, List.mem_singleton_self _, rfl⟩

/-- The picker follows a version as the gate does. -/
theorem pickerFollowsVersion_iff_gate {model : String} :
    PickerFollowsVersion model ↔
      (modelIsGpt53OrNewer model = true ↔ NamesRecentVersion model) := by
  constructor
  · intro h
    have hshown := h (shownPreset model) [] [] none rfl
    rw [filterModelPresetsForPicker_offers_iff, pickerPreset_isSome_iff] at hshown
    have heligible := isEligible_shownPreset model
    exact ⟨fun hgate => (hshown.mp ⟨hgate, heligible⟩).1,
      fun hrecent => (hshown.mpr ⟨hrecent, heligible⟩).1⟩
  · rintro h preset before after currentModel rfl
    rw [filterModelPresetsForPicker_offers_iff, pickerPreset_isSome_iff, h]

/-- **The version gate.** The picker follows the version of a name exactly when the name is none
of those that are misread. -/
theorem pickerFollowsVersion_iff (model : String) :
    PickerFollowsVersion model ↔ ¬ Misread model :=
  pickerFollowsVersion_iff_gate.trans (gate_iff_not_misread model)

/-- **A new major version disappears.** It is shown and recent, and it is not offered. -/
theorem newMajor_disappears :
    NamesVersion "gpt-6" 6 0 ∧ IsRecent 6 0 ∧
      filterModelPresetsForPicker [shownPreset "gpt-6"] none = [] ∧
      ¬ PickerFollowsVersion "gpt-6" := by
  have hnumeral : Text.IsNumeral "6" := ⟨by decide, List.forall_mem_singleton.mpr rfl⟩
  have hsuffix : IsVersionSuffix "" := nofun
  have hminor : ¬ WritesMinor "" := by
    rintro ⟨digits, rest, -, h⟩
    have hlist := congrArg String.toList h
    simp at hlist
  have hversion : NamesVersion "gpt-6" 6 0 := .major hnumeral hsuffix hminor
  have hrecent : IsRecent 6 0 := isRecent_iff.mpr (.inl (by decide))
  refine ⟨hversion, hrecent, by decide, fun h => ?_⟩
  have hoffered := (h (shownPreset "gpt-6") [] [] none rfl).mpr
    ⟨⟨6, 0, hversion, hrecent⟩, isEligible_shownPreset "gpt-6"⟩
  rw [filterModelPresetsForPicker_offers_iff] at hoffered
  exact absurd hoffered (by decide)

end CodexAcp.Thread

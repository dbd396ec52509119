import CodexAcp.Agent.SessionConfig

/-!
# The directories of a session

Beside its working directory a session may use others, which the client lists in the
request or in its metadata. Two paths are the same directory if they have the same
components.

> `directories_read`: they are read if all of them can be used, and then each is kept once,
> as it is first written, and the working directory not at all; reading these again changes
> nothing. If one cannot be used, then the error is about the first of these.
-/

namespace CodexAcp.Agent

open CodexAcp.Lib CodexAcp.Protocol

/-- The directories a request lists, or its metadata if the request lists none. -/
def requestedDirectories (additionalDirectories : List String) (metadata : Option Meta) :
    List String :=
  if additionalDirectories.isEmpty then additionalDirectoriesFromMeta metadata
  else additionalDirectories

/-- Why a directory cannot be used. -/
inductive Unusable (lib : McpLibrary) (directory : String) : Error → Prop where
  | relative (h : Path.isAbsolute directory = false) :
    Unusable lib directory (Error.invalidParams.withData
      ("additionalDirectories entries must be absolute: " ++ directory))
  | rejected {err : String} (habsolute : Path.isAbsolute directory = true)
      (h : lib.absolutePath directory = .error err) :
    Unusable lib directory (Error.invalidParams.withData
      ("invalid additionalDirectories entry " ++ directory ++ ": " ++ err))

def Usable (lib : McpLibrary) (directory : String) : Prop := ∀ err, ¬ Unusable lib directory err

/-- The directories kept of some, beside those that were seen. -/
structure Normalised (seen : List (List Path.Component)) (directories kept : List String) :
    Prop where
  sublist : kept.Sublist directories
  distinct : (kept.map Path.components).Nodup
  unseen : ∀ directory ∈ kept, Path.components directory ∉ seen
  /-- As it is first written. -/
  first : ∀ before directory after, directories = before ++ directory :: after →
    Path.components directory ∉ seen → Path.components directory ∉ before.map Path.components →
    directory ∈ kept

section

variable {lib : McpLibrary} {directory : String} {seen : List (List Path.Component)}

theorem usable_iff : Usable lib directory ↔
    Path.isAbsolute directory = true ∧ ∃ path, lib.absolutePath directory = .ok path := by
  constructor
  · intro h
    have habsolute : Path.isAbsolute directory = true := by
      cases habsolute : Path.isAbsolute directory with
      | true => rfl
      | false => exact absurd (.relative habsolute) (h _)
    refine ⟨habsolute, ?_⟩
    cases hpath : lib.absolutePath directory with
    | ok path => exact ⟨path, rfl⟩
    | error err => exact absurd (.rejected habsolute hpath) (h _)
  · rintro ⟨habsolute, path, hpath⟩ err hunusable
    cases hunusable with
    | relative h => rw [habsolute] at h; cases h
    | rejected _ h => rw [hpath] at h; cases h

theorem newDirectories_seen {rest : List String} (h : Usable lib directory)
    (hseen : Path.components directory ∈ seen) :
    newDirectories lib seen (directory :: rest) = newDirectories lib seen rest := by
  obtain ⟨habsolute, path, hpath⟩ := usable_iff.mp h
  simp only [newDirectories, habsolute, hpath, hseen]
  rfl

theorem newDirectories_new {rest : List String} (h : Usable lib directory)
    (hseen : Path.components directory ∉ seen) :
    newDirectories lib seen (directory :: rest) =
      (newDirectories lib (Path.components directory :: seen) rest).map (directory :: ·) := by
  obtain ⟨habsolute, path, hpath⟩ := usable_iff.mp h
  simp only [newDirectories, habsolute, hpath, hseen]
  rfl

theorem newDirectories_unusable {rest : List String} {err : Error}
    (h : Unusable lib directory err) : newDirectories lib seen (directory :: rest) = .error err := by
  cases h with
  | relative h =>
    simp only [newDirectories, h]
    rfl
  | rejected habsolute h =>
    simp only [newDirectories, habsolute, h]
    rfl

theorem normalised_seen {rest kept : List String} (h : Normalised seen rest kept)
    (hseen : Path.components directory ∈ seen) : Normalised seen (directory :: rest) kept where
  sublist := h.sublist.cons directory
  distinct := h.distinct
  unseen := h.unseen
  first := by
    rintro (_ | ⟨d, before⟩) d' after hsplit hnew hbefore
    · cases hsplit
      exact absurd hseen hnew
    · obtain ⟨rfl, hrest⟩ := List.cons.inj hsplit
      rw [List.map_cons, List.mem_cons, not_or] at hbefore
      exact h.first before d' after hrest hnew hbefore.2

theorem normalised_new {rest kept : List String}
    (h : Normalised (Path.components directory :: seen) rest kept)
    (hseen : Path.components directory ∉ seen) :
    Normalised seen (directory :: rest) (directory :: kept) where
  sublist := h.sublist.cons_cons directory
  distinct := by
    rw [List.map_cons, List.nodup_cons]
    refine ⟨fun hmem => ?_, h.distinct⟩
    obtain ⟨d, hd, heq⟩ := List.mem_map.mp hmem
    exact h.unseen d hd (heq ▸ List.mem_cons_self ..)
  unseen := by
    rw [List.forall_mem_cons]
    exact ⟨hseen, fun d hd hmem => h.unseen d hd (List.mem_cons_of_mem _ hmem)⟩
  first := by
    rintro (_ | ⟨d, before⟩) d' after hsplit hnew hbefore
    · cases hsplit
      exact List.mem_cons_self ..
    · obtain ⟨rfl, hrest⟩ := List.cons.inj hsplit
      rw [List.map_cons, List.mem_cons, not_or] at hbefore
      refine List.mem_cons_of_mem _ (h.first before d' after hrest ?_ hbefore.2)
      rw [List.mem_cons, not_or]
      exact ⟨hbefore.1, hnew⟩

/-- **Reading** some directories beside those that were seen. -/
theorem newDirectories_spec (directories : List String) (seen : List (List Path.Component)) :
    match newDirectories lib seen directories with
    | .ok kept => (∀ directory ∈ directories, Usable lib directory) ∧
        Normalised seen directories kept
    | .error err => ∃ before directory after, directories = before ++ directory :: after ∧
        (∀ d ∈ before, Usable lib d) ∧ Unusable lib directory err := by
  induction directories generalizing seen with
  | nil =>
    exact ⟨List.forall_mem_nil _, .refl _, List.nodup_nil, List.forall_mem_nil _,
      fun before d after h => absurd h (by simp)⟩
  | cons directory rest ih =>
    by_cases husable : Usable lib directory
    · by_cases hseen : Path.components directory ∈ seen
      · rw [newDirectories_seen husable hseen]
        have hrest := ih seen
        split at hrest
        · exact ⟨List.forall_mem_cons.mpr ⟨husable, hrest.1⟩, normalised_seen hrest.2 hseen⟩
        · obtain ⟨before, d, after, rfl, hbefore, hd⟩ := hrest
          exact ⟨directory :: before, d, after, rfl, List.forall_mem_cons.mpr ⟨husable, hbefore⟩, hd⟩
      · rw [newDirectories_new husable hseen]
        have hrest := ih (Path.components directory :: seen)
        cases hkept : newDirectories lib (Path.components directory :: seen) rest with
        | ok kept =>
          rw [hkept] at hrest
          exact ⟨List.forall_mem_cons.mpr ⟨husable, hrest.1⟩, normalised_new hrest.2 hseen⟩
        | error err =>
          rw [hkept] at hrest
          obtain ⟨before, d, after, rfl, hbefore, hd⟩ := hrest
          exact ⟨directory :: before, d, after, rfl, List.forall_mem_cons.mpr ⟨husable, hbefore⟩, hd⟩
    · obtain ⟨err, herr⟩ := not_forall_not.mp husable
      rw [newDirectories_unusable herr]
      exact ⟨[], directory, rest, rfl, List.forall_mem_nil _, herr⟩

/-- What was kept is kept again. -/
theorem newDirectories_kept {kept : List String} (husable : ∀ d ∈ kept, Usable lib d)
    (hdistinct : (kept.map Path.components).Nodup)
    (hunseen : ∀ d ∈ kept, Path.components d ∉ seen) : newDirectories lib seen kept = .ok kept := by
  induction kept generalizing seen with
  | nil => rfl
  | cons directory kept ih =>
    rw [List.forall_mem_cons] at husable hunseen
    rw [List.map_cons, List.nodup_cons] at hdistinct
    rw [newDirectories_new husable.1 hunseen.1, ih husable.2 hdistinct.2]
    · rfl
    · intro d hd hmem
      rcases List.mem_cons.mp hmem with heq | hmem
      · exact hdistinct.1 (heq ▸ List.mem_map_of_mem hd)
      · exact hunseen.2 d hd hmem

end

end CodexAcp.Agent

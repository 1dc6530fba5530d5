import GeneratedContent.File.System
import GeneratedContent.Proofs.File.Encoding
import GeneratedContent.Proofs.OrderedMap
import Mathlib.Logic.Relation

/-!
# Files that are kept

Making a folder leaves every file as it was, and writing a file leaves the files at other places.
What a path leads to stays the same, however many folders are made.
-/

namespace GeneratedContent

namespace FileSystem

variable {fs fs' fs'' : FileSystem} {p q : FilePath} {content other : List UInt8}
  {location : List Text}

/-! ## Where paths lead -/

/-- Whether the folders of one file system are there in another, with the same current one. -/
structure Keeps (fs fs' : FileSystem) : Prop where
  /-- A folder stays a folder. -/
  isFolder : ∀ location, fs.isFolder location = true → fs'.isFolder location = true
  /-- The current folder stays the same one. -/
  current : fs'.current = fs.current

theorem Keeps.walk (h : Keeps fs fs') {start : List Text} {parts : List Text}
    (hw : fs.walk start parts = .ok location) : fs'.walk start parts = .ok location := by
  induction parts generalizing start with
  | nil => exact hw
  | cons part parts ih =>
    simp only [FileSystem.walk] at hw ⊢
    split at hw
    case isTrue hfolder =>
      rw [if_pos (h.isFolder _ hfolder)]
      exact ih hw
    case isFalse => split at hw <;> cases hw

theorem Keeps.locate (h : Keeps fs fs') (hl : fs.locate p = .ok location) :
    fs'.locate p = .ok location := by
  rw [FileSystem.locate] at hl ⊢
  rw [h.current]
  exact h.walk hl

/-! ## One request -/

theorem read_eq_ok_iff : fs.read p = .ok content ↔
    ∃ location, fs.locate p = .ok location ∧ fs.isFolder location = false ∧
      fs.files.get? location = some content := by
  rw [read]
  cases fs.locate p with
  | error e => simp
  | ok location =>
    cases hfolder : fs.isFolder location
    · cases hfile : fs.files.get? location <;> simp [hfolder, hfile]
    · simp [hfolder]

theorem exists_of_write (h : fs.write p content = .ok fs') :
    ∃ location, fs.locate p = .ok location ∧ fs.isFolder location = false ∧
      fs' = { fs with files := fs.files.insert location content } := by
  unfold write at h
  split at h
  · cases h
  case _ location hl =>
    split at h
    · cases h
    case isFalse hfolder =>
      cases h
      exact ⟨location, hl, Bool.eq_false_iff.mpr hfolder, rfl⟩

theorem exists_of_makeFolder (h : fs.makeFolder p = .ok fs') :
    ∃ location, fs.locate p = .ok location ∧ fs.isFolder location = false ∧
      fs.files.contains location = false ∧
      fs' = { fs with folders := location :: fs.folders } := by
  unfold makeFolder at h
  split at h
  · cases h
  case _ location hl =>
    split at h
    · cases h
    case isFalse hfree =>
      cases h
      simp only [Bool.or_eq_true, not_or, Bool.not_eq_true] at hfree
      exact ⟨location, hl, hfree.1, hfree.2, rfl⟩

theorem keeps_write (h : fs.write p content = .ok fs') : Keeps fs fs' := by
  obtain ⟨location, -, -, rfl⟩ := exists_of_write h
  exact ⟨fun _ hfolder => hfolder, rfl⟩

theorem keeps_makeFolder (h : fs.makeFolder p = .ok fs') : Keeps fs fs' := by
  obtain ⟨location, -, -, -, rfl⟩ := exists_of_makeFolder h
  refine ⟨fun other hfolder => ?_, rfl⟩
  simp only [isFolder, List.contains_cons, Bool.or_eq_true] at hfolder ⊢
  exact hfolder.imp id .inr

/-- A file that has been written holds what was written. -/
theorem read_write (h : fs.write p content = .ok fs') : fs'.read p = .ok content := by
  have hkeeps := keeps_write h
  obtain ⟨location, hl, hfolder, rfl⟩ := exists_of_write h
  exact read_eq_ok_iff.mpr ⟨location, hkeeps.locate hl, hfolder, by simp⟩

/-- What another path leads to is overwritten only if it leads to the same place. -/
theorem read_write_of_read (h : fs.write q content = .ok fs') (hr : fs.read p = .ok other) :
    fs'.read p = .ok (if fs'.locate q = fs'.locate p then content else other) := by
  have hkeeps := keeps_write h
  obtain ⟨at_q, hq, hfolderq, hfs'⟩ := exists_of_write h
  obtain ⟨at_p, hp, hfolderp, hother⟩ := read_eq_ok_iff.mp hr
  rw [hkeeps.locate hp, hkeeps.locate hq]
  refine read_eq_ok_iff.mpr ⟨at_p, hkeeps.locate hp, by rw [hfs']; exact hfolderp, ?_⟩
  by_cases hsame : at_q = at_p
  · rw [hfs', if_pos (congrArg _ hsame), hsame, OrderedMap.get?_insert_self]
  · rw [hfs', if_neg (fun h => hsame (Except.ok.inj h)),
      OrderedMap.get?_insert_of_ne _ _ _ (Ne.symm hsame), hother]

/-- A folder takes the place of no file. -/
theorem read_makeFolder (h : fs.makeFolder q = .ok fs') (hr : fs.read p = .ok content) :
    fs'.read p = .ok content := by
  have hkeeps := keeps_makeFolder h
  obtain ⟨folder, -, -, hfile, rfl⟩ := exists_of_makeFolder h
  obtain ⟨location, hl, hfolder, hcontent⟩ := read_eq_ok_iff.mp hr
  refine read_eq_ok_iff.mpr ⟨location, hkeeps.locate hl, ?_, hcontent⟩
  have hne : location ≠ folder := by
    rintro rfl
    rw [OrderedMap.contains, hcontent] at hfile
    cases hfile
  simp only [isFolder, List.contains_cons, Bool.or_eq_false_iff] at hfolder ⊢
  exact ⟨hfolder.1, beq_eq_false_iff_ne.mpr hne, hfolder.2⟩

/-! ## Many folders -/

/-- Whether one file system becomes another by making folders. -/
def Furnished : FileSystem → FileSystem → Prop :=
  Relation.ReflTransGen fun fs fs' => ∃ q, fs.makeFolder q = .ok fs'

theorem Furnished.read (h : Furnished fs fs') (hr : fs.read p = .ok content) :
    fs'.read p = .ok content := by
  induction h with
  | refl => exact hr
  | tail _ hmade ih =>
    obtain ⟨q, hq⟩ := hmade
    exact read_makeFolder hq ih

/-! ## Texts in files -/

/-- Whether a file holds a text. -/
def Holds (fs : FileSystem) (p : FilePath) (s : Text) : Prop := fs.read p = .ok (Text.encode s)

instance (fs : FileSystem) (p : FilePath) (s : Text) : Decidable (fs.Holds p s) :=
  inferInstanceAs (Decidable (_ = _))

end FileSystem

end GeneratedContent

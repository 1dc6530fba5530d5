import GeneratedContent.Proofs.File.Passing
import GeneratedContent.Proofs.File.System

/-!
# Where a text can go

A text is written to a path after the folders on the way have been made. If it is written, the folders and
the file are there, and nothing else has changed; if it is refused, all other files hold what they held,
and this one too unless the writing is broken off (`Script.passes_writeText`). Without mishaps the file
system tells beforehand what will come of it (`FileSystem.reception`).
-/

namespace GeneratedContent

namespace FileSystem

variable {fs : FileSystem} {location : List Text} {part : Text} {parts : List Text}

/-! ## Ways -/

/-- Where one name leads from a location. -/
def onward (location : List Text) (part : Text) : List Text :=
  if part = "..".toList then location.dropLast else location ++ [part]

/-- The locations that names lead through, with the first and the last one. -/
def way (location : List Text) : List Text → List (List Text)
  | [] => [location]
  | part :: parts => location :: way (onward location part) parts

theorem way_concat (location : List Text) (parts : List Text) (part : Text) :
    way location (parts ++ [part]) =
      way location parts ++ [onward (parts.foldl onward location) part] := by
  induction parts generalizing location with
  | nil => rfl
  | cons p parts ih => rw [List.cons_append, way, way, ih]; rfl

theorem mem_way_self (location : List Text) (parts : List Text) : location ∈ way location parts := by
  cases parts <;> exact List.mem_cons_self

/-- Through folders a walk comes to its end. -/
theorem walk_of_folders (h : ∀ l ∈ way location parts, fs.isFolder l = true) :
    fs.walk location (parts ++ [part]) = .ok (onward (parts.foldl onward location) part) := by
  induction parts generalizing location with
  | nil => rw [List.nil_append, walk, if_pos (h _ (mem_way_self _ _))]; rfl
  | cons p parts ih =>
    rw [List.cons_append, walk, if_pos (h _ (mem_way_self _ _))]
    exact ih fun l hl => h l (List.mem_cons_of_mem _ hl)

/-- What keeps a walk from its end is a folder that is missing, or a file in the place of one. -/
theorem walk_of_not_folders (h : ¬ ∀ l ∈ way location parts, fs.isFolder l = true) :
    fs.walk location (parts ++ [part]) = .error .notFound ∨
      fs.walk location (parts ++ [part]) = .error .notFolder ∧
        ∃ l ∈ way location parts, fs.isFolder l = false ∧ fs.files.contains l = true := by
  induction parts generalizing location with
  | nil =>
    have hfolder : fs.isFolder location = false := by simpa [way] using h
    rw [List.nil_append, walk, if_neg (by simp [hfolder])]
    cases hfile : fs.files.contains location
    · exact .inl rfl
    · exact .inr ⟨rfl, location, mem_way_self _ _, hfolder, hfile⟩
  | cons p parts ih =>
    rw [List.cons_append, walk]
    cases hfolder : fs.isFolder location
    · cases hfile : fs.files.contains location
      · exact .inl rfl
      · exact .inr ⟨rfl, location, mem_way_self _ _, hfolder, hfile⟩
    · have hrest : ¬ ∀ l ∈ way (onward location p) parts, fs.isFolder l = true := by
        intro hall
        exact h (by simpa [way, hfolder] using hall)
      obtain hwalk | ⟨hwalk, l, hl, hblocked⟩ := ih hrest
      · exact .inl hwalk
      · exact .inr ⟨hwalk, l, List.mem_cons_of_mem _ hl, hblocked⟩

/-- Where a path begins. -/
def start (fs : FileSystem) (root : Text) : List Text := if root = [] then fs.current else []

theorem locate_of_folders {root : Text} (h : ∀ l ∈ way (fs.start root) parts, fs.isFolder l = true)
    (part : Text) :
    fs.locate ⟨root, parts ++ [part]⟩ = .ok (onward (parts.foldl onward (fs.start root)) part) :=
  walk_of_folders h

theorem locate_of_not_folders {root : Text}
    (h : ¬ ∀ l ∈ way (fs.start root) parts, fs.isFolder l = true) (part : Text) :
    fs.locate ⟨root, parts ++ [part]⟩ = .error .notFound ∨
      fs.locate ⟨root, parts ++ [part]⟩ = .error .notFolder ∧
        ∃ l ∈ way (fs.start root) parts, fs.isFolder l = false ∧ fs.files.contains l = true :=
  walk_of_not_folders h

/-! ## Folders on a way -/

/-- The file system with folders at locations. -/
def furnish (fs : FileSystem) (ls : List (List Text)) : FileSystem :=
  { fs with folders := ls ++ fs.folders }

theorem isFolder_furnish (fs : FileSystem) (ls : List (List Text)) (m : List Text) :
    (fs.furnish ls).isFolder m = true ↔ fs.isFolder m = true ∨ m ∈ ls := by
  simp only [isFolder, furnish, List.contains_eq_mem, List.mem_append, Bool.or_eq_true,
    decide_eq_true_eq]
  tauto

/-- Whether folders can be at locations: no files stand there. -/
def Clear (fs : FileSystem) (ls : List (List Text)) : Prop :=
  ∀ l ∈ ls, fs.isFolder l = true ∨ fs.files.contains l = false

instance (fs : FileSystem) (ls : List (List Text)) : Decidable (fs.Clear ls) :=
  inferInstanceAs (Decidable (∀ _ ∈ _, _))

theorem not_clear_of_mem {ls : List (List Text)} {l : List Text} (hl : l ∈ ls)
    (hfolder : fs.isFolder l = false) (hfile : fs.files.contains l = true) : ¬ fs.Clear ls := by
  intro h
  have := h l hl
  simp [hfolder, hfile] at this

/-- Making folders keeps the folders that there are, and the files. -/
theorem Furnished.keeps {fs' : FileSystem} (h : Furnished fs fs') : Keeps fs fs' := by
  induction h with
  | refl => exact ⟨fun _ hl => hl, rfl⟩
  | tail _ hmade ih =>
    obtain ⟨q, hq⟩ := hmade
    have hone := keeps_makeFolder hq
    exact ⟨fun l hl => hone.isFolder l (ih.isFolder l hl), hone.current.trans ih.current⟩

theorem Furnished.files_eq {fs' : FileSystem} (h : Furnished fs fs') : fs'.files = fs.files := by
  induction h with
  | refl => rfl
  | tail _ hmade ih =>
    obtain ⟨q, hq⟩ := hmade
    obtain ⟨l, -, -, -, rfl⟩ := exists_of_makeFolder hq
    exact ih

theorem isFolder_cons (fs : FileSystem) (l m : List Text) :
    ({ fs with folders := l :: fs.folders } : FileSystem).isFolder m = true ↔
      fs.isFolder m = true ∨ m = l := by
  simp only [isFolder, List.contains_cons, Bool.or_eq_true, beq_iff_eq]
  tauto

/-- A folder that is made takes the place of no file. -/
theorem Furnished.isFolder {fs' : FileSystem} (h : Furnished fs fs')
    (hl : fs'.isFolder location = true) :
    fs.isFolder location = true ∨ fs.files.contains location = false := by
  induction h with
  | refl => exact .inl hl
  | @tail fs₁ fs₂ hmade hone ih =>
    obtain ⟨q, hq⟩ := hone
    obtain ⟨made, -, -, hfile, rfl⟩ := exists_of_makeFolder hq
    obtain hold | rfl := (isFolder_cons _ _ _).mp hl
    · exact ih hold
    · rw [Furnished.files_eq hmade] at hfile
      exact .inr hfile

/-- What is clear once folders have been made was so before. -/
theorem Furnished.clear {fs' : FileSystem} (h : Furnished fs fs') {ls : List (List Text)}
    (hclear : fs.Clear ls) : fs'.Clear ls := by
  intro l hl
  rw [h.files_eq]
  exact (hclear l hl).imp_left (h.keeps.isFolder l)

/-- Whether one file system becomes another by making folders, which are there then at the given
locations and at no others. -/
structure FurnishedAt (fs : FileSystem) (ls : List (List Text)) (fs' : FileSystem) : Prop where
  /-- Folders have been made. -/
  made : Furnished fs fs'
  /-- They are at the locations. -/
  isFolder : ∀ m, fs'.isFolder m = true ↔ fs.isFolder m = true ∨ m ∈ ls

theorem FurnishedAt.refl {ls : List (List Text)} (h : ∀ l ∈ ls, fs.isFolder l = true) :
    FurnishedAt fs ls fs := by
  refine ⟨.refl, fun m => ⟨.inl, ?_⟩⟩
  rintro (hm | hm)
  · exact hm
  · exact h m hm

theorem FurnishedAt.append {fs₁ fs₂ : FileSystem} {ls ls' : List (List Text)}
    (h : FurnishedAt fs ls fs₁) (h' : FurnishedAt fs₁ ls' fs₂) : FurnishedAt fs (ls ++ ls') fs₂ := by
  refine ⟨h.made.trans h'.made, fun m => ?_⟩
  rw [h'.isFolder, h.isFolder, List.mem_append, or_assoc]

theorem FurnishedAt.clear {fs' : FileSystem} {ls : List (List Text)} (h : FurnishedAt fs ls fs') :
    fs.Clear ls := fun l hl => h.made.isFolder ((h.isFolder l).mpr (.inr hl))

theorem FurnishedAt.folders {fs' : FileSystem} {ls : List (List Text)} (h : FurnishedAt fs ls fs') :
    ∀ l ∈ ls, fs'.isFolder l = true := fun l hl => (h.isFolder l).mpr (.inr hl)

/-- A folder that has been made is the one more that there is. -/
theorem furnishedAt_makeFolder {path : FilePath} {fs' : FileSystem} (h : fs.makeFolder path = .ok fs') :
    ∃ l, fs.locate path = .ok l ∧ FurnishedAt fs [l] fs' := by
  obtain ⟨l, hl, -, -, hfs'⟩ := exists_of_makeFolder h
  refine ⟨l, hl, .single ⟨path, h⟩, fun m => ?_⟩
  rw [hfs', List.mem_singleton]
  exact isFolder_cons fs l m

/-- A folder that is there already is none more. -/
theorem furnishedAt_hasFolder {path : FilePath} (h : fs.hasFolder path = true) :
    ∃ l, fs.locate path = .ok l ∧ FurnishedAt fs [l] fs := by
  unfold hasFolder at h
  split at h
  · cases h
  case _ l hl => exact ⟨l, hl, .refl (List.forall_mem_singleton.mpr h)⟩

/-- Where a path leads to a location, there are folders all the way before it. -/
theorem FurnishedAt.way {root : Text} {fs' : FileSystem} (h : FurnishedAt fs [location] fs')
    (hl : fs.locate ⟨root, parts ++ [part]⟩ = .ok location) :
    FurnishedAt fs (way (fs.start root) (parts ++ [part])) fs' := by
  have hall : ∀ l ∈ FileSystem.way (fs.start root) parts, fs.isFolder l = true := by
    by_contra hnot
    obtain hmissing | ⟨hmissing, -⟩ := locate_of_not_folders hnot part
    · cases hl.symm.trans hmissing
    · cases hl.symm.trans hmissing
  cases hl.symm.trans (locate_of_folders hall part)
  rw [way_concat]
  exact (FurnishedAt.refl hall).append h

theorem FurnishedAt.start_eq {root : Text} {fs' : FileSystem} {ls : List (List Text)}
    (h : FurnishedAt fs ls fs') : fs'.start root = fs.start root := by
  rw [start, start, h.made.keeps.current]

/-- Where there are folders all the way, a path with one name more leads to a location. -/
theorem FurnishedAt.locate_concat {root : Text} {fs' : FileSystem}
    (h : FurnishedAt fs (FileSystem.way (fs.start root) parts) fs') (part : Text) :
    fs'.locate ⟨root, parts ++ [part]⟩ = .ok (onward (parts.foldl onward (fs.start root)) part) := by
  have hfolders := h.folders
  rw [← h.start_eq] at hfolders ⊢
  exact locate_of_folders hfolders part

/-- Whether a folder cannot be made and is not there. -/
structure Lacks (fs : FileSystem) (path : FilePath) : Prop where
  /-- It cannot be made. -/
  refused : ∃ p, fs.makeFolder path = .error p
  /-- It is not there. -/
  missing : fs.hasFolder path = false

/-- Where a folder is lacking although the way to it is there, a file stands in its place. -/
theorem Lacks.blocked {path : FilePath} (h : fs.Lacks path) (hl : fs.locate path = .ok location) :
    fs.isFolder location = false ∧ fs.files.contains location = true := by
  obtain ⟨p, hrefused⟩ := h.refused
  have hfolder : fs.isFolder location = false := by simpa [hasFolder, hl] using h.missing
  simp only [makeFolder, hl, hfolder, Bool.false_or] at hrefused
  split at hrefused
  case isTrue hfile => exact ⟨hfolder, hfile⟩
  case isFalse => cases hrefused

theorem makeFolder_ne_notFound {path : FilePath} (hl : fs.locate path = .ok location) :
    fs.makeFolder path ≠ .error .notFound := by
  simp only [makeFolder, hl]
  split <;> simp

/-- Where the way to a folder is there, only a file in its place keeps it from being there. -/
theorem not_clear_of_refused {path : FilePath}
    (h : fs.Lacks path ∨ fs.makeFolder path = .error .notFound) (hl : fs.locate path = .ok location)
    {ls : List (List Text)} (hmem : location ∈ ls) : ¬ fs.Clear ls := by
  obtain hlacks | hmissing := h
  · obtain ⟨hfolder, hfile⟩ := hlacks.blocked hl
    exact not_clear_of_mem hmem hfolder hfile
  · exact absurd hmissing (makeFolder_ne_notFound hl)

/-- A folder that is lacking for another reason than that the one above it is missing has a file in its
place or on the way to it. -/
theorem not_clear_of_lacks {root : Text} {parts : List Text} {part : Text}
    (h : fs.Lacks ⟨root, parts ++ [part]⟩)
    (hfound : fs.makeFolder ⟨root, parts ++ [part]⟩ ≠ .error .notFound) :
    ¬ fs.Clear (way (fs.start root) (parts ++ [part])) := by
  rw [way_concat]
  by_cases hall : ∀ l ∈ way (fs.start root) parts, fs.isFolder l = true
  · obtain ⟨hfolder, hfile⟩ := h.blocked (locate_of_folders hall part)
    exact not_clear_of_mem (List.mem_append_right _ List.mem_cons_self) hfolder hfile
  · obtain hmissing | ⟨-, l, hl, hfolder, hfile⟩ := locate_of_not_folders hall part
    · rw [makeFolder, hmissing] at hfound
      exact absurd rfl hfound
    · exact not_clear_of_mem (List.mem_append_left _ hl) hfolder hfile

/-! ## Places for texts -/

/-- The locations on the way to the folder of a path. -/
def wayTo (fs : FileSystem) (path : FilePath) : List (List Text) :=
  way (fs.start path.root) path.parts.dropLast

/-- The location that a path leads to once the folders on the way are there. -/
def goal (fs : FileSystem) (path : FilePath) : List Text :=
  path.parts.foldl onward (fs.start path.root)

/-- Once the folders on the way are there, a path leads to its goal. -/
theorem FurnishedAt.locate {path : FilePath} {fs' : FileSystem}
    (h : FurnishedAt fs (fs.wayTo path) fs') : fs'.locate path = .ok (fs.goal path) := by
  obtain ⟨root, parts⟩ := path
  rcases List.eq_nil_or_concat parts with rfl | ⟨before, last, rfl⟩
  · exact congrArg Except.ok h.start_eq
  · rw [List.concat_eq_append] at h ⊢
    rw [wayTo, List.dropLast_concat] at h
    rw [h.locate_concat, goal, List.foldl_append]
    rfl

/-- Whether one file system becomes another when the folders on the way to a path are made and a content
is written there. -/
def Placed (fs : FileSystem) (path : FilePath) (content : List UInt8) (fs' : FileSystem) : Prop :=
  ∃ made, FurnishedAt fs (fs.wayTo path) made ∧ made.write path content = .ok fs'

/-- What may come of a text that is to be written to a path. -/
inductive Reception where
  /-- It is written. -/
  | taken
  /-- The system refuses to make a folder or to write the file. -/
  | refused
  /-- It is malformed, or the path is. -/
  | malformed (m : Malformed)
deriving DecidableEq

/-- What comes of a text that is to be written to a path, if there are no mishaps. -/
def reception (fs : FileSystem) (path : FilePath) : Reception :=
  if path.parent.holdsNull then .malformed .path
  else if ¬ fs.Clear (fs.wayTo path) then .refused
  else if path.holdsNull then .malformed .path
  else if fs.isFolder (fs.goal path) ∨ fs.goal path ∈ fs.wayTo path then .refused
  else .taken

/-- Where the folders on the way can be made and the file cannot be written, there is a folder at the end
of the path. -/
theorem FurnishedAt.reception_eq_refused {path : FilePath} {fs' : FileSystem} {content : List UInt8}
    {p : FileProblem} (h : FurnishedAt fs (fs.wayTo path) fs') (hparent : path.parent.holdsNull = false)
    (hpath : path.holdsNull = false) (hwrite : fs'.write path content = .error p) :
    fs.reception path = .refused := by
  have hfolder : fs'.isFolder (fs.goal path) = true := by
    simp only [write, h.locate] at hwrite
    split at hwrite
    case isTrue hfolder => exact hfolder
    case isFalse => cases hwrite
  have hclear := h.clear
  have hgoal := (h.isFolder _).mp hfolder
  simp [reception, hparent, hpath, hclear, hgoal]

/-- The file system with a file at the end of a path and the folders on the way. -/
def place (fs : FileSystem) (path : FilePath) (content : List UInt8) : FileSystem :=
  { fs.furnish (fs.wayTo path) with files := fs.files.insert (fs.goal path) content }

/-- Whether two file systems are the same but for the order in which folders have been made. -/
structure Alike (fs fs' : FileSystem) : Prop where
  /-- The files are the same. -/
  files : fs'.files = fs.files
  /-- The current folder is the same. -/
  current : fs'.current = fs.current
  /-- The folders are the same. -/
  isFolder : ∀ l, fs'.isFolder l = fs.isFolder l

section Alike

variable {fs' : FileSystem}

theorem Alike.start_eq (h : Alike fs fs') (root : Text) : fs'.start root = fs.start root := by
  rw [start, start, h.current]

theorem Alike.goal_eq (h : Alike fs fs') (path : FilePath) : fs'.goal path = fs.goal path := by
  rw [goal, goal, h.start_eq]

theorem Alike.reception_eq (h : Alike fs fs') (path : FilePath) :
    fs'.reception path = fs.reception path := by
  have hclear : ∀ ls, fs'.Clear ls ↔ fs.Clear ls := by
    intro ls
    simp only [Clear, h.files, h.isFolder]
  simp only [reception, wayTo, h.start_eq, h.goal_eq, hclear, h.isFolder]
  congr!

end Alike

namespace Placed

variable {path : FilePath} {content : List UInt8} {fs' : FileSystem}

/-- Nothing but the folders and the one file has changed. -/
theorem alike (h : Placed fs path content fs') : Alike (fs.place path content) fs' := by
  obtain ⟨made, hmade, hwrite⟩ := h
  obtain ⟨l, hl, -, rfl⟩ := exists_of_write hwrite
  obtain rfl : fs.goal path = l := Except.ok.inj (hmade.locate.symm.trans hl)
  refine ⟨?_, hmade.made.keeps.current, fun m => ?_⟩
  · exact congrArg (OrderedMap.insert · _ _) hmade.made.files_eq
  · exact Bool.eq_iff_iff.mpr ((hmade.isFolder m).trans (isFolder_furnish fs _ m).symm)

theorem files_eq (h : Placed fs path content fs') :
    fs'.files = fs.files.insert (fs.goal path) content := h.alike.files

theorem reception_eq (h : Placed fs path content fs') (hpath : path.holdsNull = false)
    (hparent : path.parent.holdsNull = false) : fs.reception path = .taken := by
  obtain ⟨made, hmade, hwrite⟩ := h
  obtain ⟨l, hl, hfolder, -⟩ := exists_of_write hwrite
  obtain rfl : fs.goal path = l := Except.ok.inj (hmade.locate.symm.trans hl)
  have hgoal : ¬ (fs.isFolder (fs.goal path) = true ∨ fs.goal path ∈ fs.wayTo path) := by
    rw [← hmade.isFolder, hfolder]
    exact Bool.false_ne_true
  simp [reception, hpath, hparent, hmade.clear, hgoal]

end Placed

end FileSystem

namespace World

/-- Whether one file system becomes another when a content cannot be written as a whole: at most folders
have been made, or a front of the content is at the end of the path. -/
def LeavesPart (w : World) (fs : FileSystem) (path : FilePath) (content : List UInt8)
    (fs' : FileSystem) : Prop :=
  fs.Furnished fs' ∨ ∃ n, w.Tears n ∧ fs.Placed path (content.take n) fs'

section LeavesPart

variable {w w' : World} {fs fs' : FileSystem} {path : FilePath} {content : List UInt8}

theorem LeavesPart.of_later (hlater : w.Later w') (h : w'.LeavesPart fs path content fs') :
    w.LeavesPart fs path content fs' := by
  refine h.imp_right ?_
  rintro ⟨n, htears, hplaced⟩
  exact ⟨n, hlater.tears htears, hplaced⟩

theorem LeavesPart.files (h : w.LeavesPart fs path content fs') : fs'.files = fs.files ∨
    ∃ n, w.Tears n ∧ fs'.files = fs.files.insert (fs.goal path) (content.take n) := by
  obtain hmade | ⟨n, htears, hplaced⟩ := h
  · exact .inl hmade.files_eq
  · exact .inr ⟨n, htears, hplaced.files_eq⟩

end LeavesPart

/-! ## Requests for folders -/

/-- A folder is made, or the world is as it was; without mishaps the file system says which. -/
theorem answer_makeFolder (w : World) (path : FilePath) :
    (∃ fs, w.files.makeFolder path = .ok fs ∧
        w.answer (.makeFolder path) = (.ok (), { w.onward with files := fs })) ∨
      ∃ r, w.answer (.makeFolder path) = (.error r, w.onward) ∧
        (w.Calm → w.files.makeFolder path = .error r.problem) := by
  have hanswers := w.answers (.makeFolder path)
  generalize w.answer (.makeFolder path) = result at hanswers
  cases hanswers with
  | granted h =>
    obtain ⟨fs, hmade, rfl⟩ := exists_of_after_ok h
    exact .inl ⟨fs, hmade, rfl⟩
  | denied h =>
    obtain ⟨hrefused, rfl⟩ := eq_of_after_error h
    exact .inr ⟨_, rfl, fun _ => hrefused⟩
  | refused h => exact .inr ⟨_, rfl, fun hcalm => absurd hcalm (not_calm_of_mem h)⟩
  | broken h => exact .inr ⟨_, rfl, fun hcalm => absurd hcalm (not_calm_of_mem h)⟩

/-- Asking for a folder changes nothing; without mishaps the file system answers. -/
theorem answer_askFolder (w : World) (path : FilePath) :
    w.answer (.askFolder path) = (.ok (w.files.hasFolder path), w.onward) ∨
      ¬ w.Calm ∧ ∃ r, w.answer (.askFolder path) = (.error r, w.onward) := by
  have hanswers := w.answers (.askFolder path)
  generalize w.answer (.askFolder path) = result at hanswers
  cases hanswers with
  | granted h =>
    cases h
    exact .inl rfl
  | denied h => cases h
  | refused h => exact .inr ⟨not_calm_of_mem h, _, rfl⟩
  | broken h => exact .inr ⟨not_calm_of_mem h, _, rfl⟩

end World

namespace Script

variable {w w' : World} {root : Text} {path : FilePath} {next : Unit → Script}

/-! ## Making folders -/

/-- The ends of a part that asks for a folder: it is there then, or without mishaps it is lacking. -/
def Ends.folder (w : World) (path : FilePath) : Ends Unit where
  on _ fs output := (∃ l, w.files.locate path = .ok l ∧ w.files.FurnishedAt [l] fs) ∧ output = w.output
  refused fs output := w.Shows fs output ∧
    (w.Calm → w.files.Lacks path ∨ w.files.makeFolder path = .error .notFound)
  broken _ _ _ := False

/-- A folder that has been refused may be there. -/
theorem passes_withFolder {r : Refusal} (hlater : w.Later w') (hshows : w.Shows w'.files w'.output)
    (h : w.Calm → w.files.makeFolder path = .error r.problem) :
    Passes (withFolder path (.error r) (next ())) w' next (.folder w path) := by
  obtain ⟨hfiles, houtput⟩ := hshows
  unfold withFolder
  dsimp only
  split
  case isTrue hmissing =>
    exact .refused _ r w' rfl ⟨⟨hfiles, houtput⟩, fun hcalm => .inr (hmissing ▸ h hcalm)⟩
  case isFalse hfound =>
    obtain hanswer | ⟨hcalm, r', hanswer⟩ := w'.answer_askFolder path
    · cases hfolder : w'.files.hasFolder path
      · refine .refused (.makeFolder path) r w'.onward ?_
          ⟨⟨hfiles, houtput⟩, fun hcalm => .inl ⟨⟨_, h hcalm⟩, ?_⟩⟩
        · rw [run, hanswer, hfolder]
          rfl
        · rwa [← hfiles]
      · refine .on () w'.onward ?_ w'.later_onward ⟨?_, houtput⟩
        · rw [run, hanswer, hfolder]
          rfl
        · rw [← hfiles]
          exact FileSystem.furnishedAt_hasFolder hfolder
    · have hrefused : (Ends.folder w path).refused w'.files w'.output :=
        ⟨⟨hfiles, houtput⟩, fun h => absurd (hlater.calm h) hcalm⟩
      cases hnothing : r'.problem.meansNothing
      · refine .refused (.askFolder path) r' w'.onward ?_ hrefused
        rw [run, hanswer]
        simp [hnothing]
      · refine .refused (.makeFolder path) r w'.onward ?_ hrefused
        rw [run, hanswer]
        simp [hnothing]

/-- A folder is made, unless it is there or lacking. -/
theorem passes_makeFolder (path : FilePath) (next : Unit → Script) (w : World) :
    Passes (.ask (.makeFolder path) fun answer => withFolder path answer (next ())) w next
      (.folder w path) := by
  obtain ⟨fs, hmade, hanswer⟩ | ⟨r, hanswer, h⟩ := w.answer_makeFolder path
  · refine .on () { w.onward with files := fs } ?_ w.later_onward ⟨?_, rfl⟩
    · rw [run, hanswer]
      rfl
    · exact FileSystem.furnishedAt_makeFolder hmade
  · refine (passes_withFolder w.later_onward ⟨rfl, rfl⟩ h).of_run_eq ?_ w.later_onward
    rw [run, hanswer]

/-- The ends of a part that asks for all the folders at locations. -/
def Ends.folders (w : World) (ls : List (List Text)) : Ends Unit where
  on _ fs output := w.files.FurnishedAt ls fs ∧ output = w.output
  refused fs output := w.files.Furnished fs ∧ output = w.output ∧ (w.Calm → ¬ w.files.Clear ls)
  broken _ _ _ := False

section LastFolder

variable {parts : List Text} {part : Text}

/-- A folder that has been refused although the one above it is there. -/
theorem passes_refusedFolder {r : Refusal}
    (h : w.Calm → w.files.makeFolder ⟨root, parts ++ [part]⟩ = .error r.problem)
    (hfound : r.problem ≠ .notFound) :
    Passes (withFolder ⟨root, parts ++ [part]⟩ (.error r) (next ())) w.onward next
      (.folders w (FileSystem.way (w.files.start root) (parts ++ [part]))) := by
  refine (passes_withFolder w.later_onward ⟨rfl, rfl⟩ h).imp ?_ ?_ nofun
  · rintro _ fs output ⟨⟨l, hl, hmade⟩, houtput⟩
    exact ⟨hmade.way hl, houtput⟩
  · rintro fs output ⟨⟨rfl, houtput⟩, hlacks⟩
    refine ⟨.refl, houtput, fun hcalm => ?_⟩
    have hpossible : w.files.makeFolder ⟨root, parts ++ [part]⟩ ≠ .error .notFound := by
      rw [h hcalm]
      exact fun heq => hfound (Except.error.inj heq)
    exact FileSystem.not_clear_of_lacks ((hlacks hcalm).resolve_right hpossible) hpossible

/-- A folder that is made after those above it. -/
theorem passes_laterFolder {s : Script} (hlater : w.Later w') (hshows : w.Shows w'.files w'.output)
    (h : Passes s w' (fun _ : Unit => .ask (.makeFolder ⟨root, parts ++ [part]⟩) fun answer =>
        withFolder ⟨root, parts ++ [part]⟩ answer (next ()))
      (.folders w' (FileSystem.way (w.files.start root) parts))) :
    Passes s w' next (.folders w (FileSystem.way (w.files.start root) (parts ++ [part]))) := by
  obtain ⟨hfiles, houtput⟩ := hshows
  have hway := FileSystem.way_concat (w.files.start root) parts part
  refine h.andThen ?_ ?_ nofun
  · rintro _ w'' hlater' ⟨habove, houtput'⟩
    rw [hfiles] at habove
    have hl := habove.locate_concat part
    refine (passes_makeFolder _ next w'').imp ?_ ?_ nofun
    · rintro _ fs output ⟨⟨l, hl', hmade⟩, houtput''⟩
      cases hl.symm.trans hl'
      rw [hway]
      exact ⟨habove.append hmade, houtput''.trans (houtput'.trans houtput)⟩
    · rintro fs output ⟨⟨rfl, houtput''⟩, hlacks⟩
      refine ⟨habove.made, houtput''.trans (houtput'.trans houtput), fun hcalm hclear => ?_⟩
      refine FileSystem.not_clear_of_refused (hlacks (hlater'.calm (hlater.calm hcalm))) hl ?_
        (habove.made.clear hclear)
      rw [hway]
      exact List.mem_append_right _ List.mem_cons_self
  · rintro fs output ⟨hmade, houtput', hblocked⟩
    rw [hfiles] at hmade hblocked
    refine ⟨hmade, houtput'.trans houtput, fun hcalm hclear => hblocked (hlater.calm hcalm) ?_⟩
    intro l hl
    rw [hway] at hclear
    exact hclear l (List.mem_append_left _ hl)

end LastFolder

/-- All folders of a path are there then, or without mishaps a file is in the way. -/
theorem passes_makeFolders (root : Text) (reversed : List Text) (next : Unit → Script) (w : World) :
    Passes (makeFolders root reversed (next ())) w next
      (.folders w (FileSystem.way (w.files.start root) reversed.reverse)) := by
  induction reversed generalizing next w with
  | nil =>
    have hl : w.files.locate ⟨root, []⟩ = .ok (w.files.start root) := rfl
    refine (passes_makeFolder ⟨root, []⟩ next w).imp ?_ ?_ nofun
    · rintro _ fs output ⟨⟨l, hl', hmade⟩, houtput⟩
      cases hl.symm.trans hl'
      exact ⟨hmade, houtput⟩
    · rintro fs output ⟨⟨rfl, houtput⟩, hlacks⟩
      refine ⟨.refl, houtput, fun hcalm => ?_⟩
      exact FileSystem.not_clear_of_refused (hlacks hcalm) hl List.mem_cons_self
  | cons part parts ih =>
    rw [makeFolders, List.reverse_cons]
    obtain ⟨fs, hmade, hanswer⟩ | ⟨r, hanswer, h⟩ := w.answer_makeFolder ⟨root, parts.reverse ++ [part]⟩
    · obtain ⟨l, hl, hmade⟩ := FileSystem.furnishedAt_makeFolder hmade
      refine .on () { w.onward with files := fs } ?_ w.later_onward
        ⟨hmade.way hl, rfl⟩
      rw [run, hanswer]
      rfl
    by_cases hmissing : r.problem = .notFound
    · refine (passes_laterFolder w.later_onward ⟨rfl, rfl⟩ (ih _ w.onward)).of_run_eq ?_ w.later_onward
      rw [run, hanswer]
      exact congrArg (run · w.onward) (if_pos (by simp [lacksParent, hmissing]))
    · refine (passes_refusedFolder h hmissing).of_run_eq ?_ w.later_onward
      rw [run, hanswer]
      exact congrArg (run · w.onward) (if_neg (by simp [lacksParent, hmissing]))

/-! ## Writing a text -/

/-- The ends of a part that writes a content to a path, with the folders on the way. -/
def Ends.placing (w : World) (path : FilePath) (content : List UInt8) : Ends Unit where
  on _ fs output :=
    w.files.Placed path content fs ∧ w.files.reception path = .taken ∧ output = w.output
  refused fs output := w.LeavesPart w.files path content fs ∧ output = w.output ∧
    (w.Calm → w.files.reception path = .refused)
  broken f fs output := f = .malformed .path ∧ w.files.reception path = .malformed .path ∧
    w.files.Furnished fs ∧ output = w.output

theorem passes_writeText (path : FilePath) (s : Text) (next : Unit → Script) (w : World) :
    Passes (writeText path s (next ())) w next (.placing w path (Text.encode s)) := by
  refine passes_withPath (fun hparent => ?_) fun hnull => ?_
  swap
  · exact ⟨rfl, by simp [FileSystem.reception, hnull], .refl, rfl⟩
  have hfolders := passes_makeFolders path.root path.parent.parts.reverse
    (fun _ => withPath path <| demand (.writeFile path (Text.encode s)) next) w
  rw [List.reverse_reverse] at hfolders
  refine hfolders.andThen ?_ ?_ nofun
  · rintro _ w' hlater ⟨hmade, houtput⟩
    refine passes_withPath (fun hpath => ?_) fun hnull => ?_
    swap
    · have hclear : w.files.Clear (w.files.wayTo path) := hmade.clear
      exact ⟨rfl, by simp [FileSystem.reception, hparent, hnull, hclear], hmade.made, houtput⟩
    refine (passes_writeFile path _ next w').imp ?_ ?_ nofun
    · rintro _ fs output ⟨hwrite, houtput'⟩
      have hplaced : w.files.Placed path (Text.encode s) fs := ⟨w'.files, hmade, hwrite⟩
      exact ⟨hplaced, hplaced.reception_eq hpath hparent, houtput'.trans houtput⟩
    · rintro fs output ⟨houtput', hleft, hrefused⟩
      refine ⟨?_, houtput'.trans houtput, fun hcalm => ?_⟩
      · obtain rfl | ⟨n, htears, hwrite⟩ := hleft
        · exact .inl hmade.made
        · exact .inr ⟨n, hlater.tears htears, w'.files, hmade, hwrite⟩
      · obtain ⟨p, hp⟩ := hrefused (hlater.calm hcalm)
        exact hmade.reception_eq_refused hparent hpath hp
  · rintro fs output ⟨hmade, houtput, hblocked⟩
    refine ⟨.inl hmade, houtput, fun hcalm => ?_⟩
    have hblocked : ¬ w.files.Clear (w.files.wayTo path) := hblocked hcalm
    simp [FileSystem.reception, hparent, hblocked]

end Script

end GeneratedContent

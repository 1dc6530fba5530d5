import GeneratedContent.Proofs.Text.Letter
import GeneratedContent.Proofs.Text.Words
import GeneratedContent.Rule.Owner

/-!
# Container compounds in a selector

A container compound is looked for where a compound can begin, and what is looked at ends with the name
of its class. So a character that is no part of a name, and in no class name, parts a selector: container
compounds are taken out on its two sides as by themselves (`dropContainers_append`).
-/

namespace GeneratedContent.Owner

/-- Whether a container compound never has a character in it, and can begin behind it. -/
structure IsParting (classes : List Text) (x : Char) : Prop where
  /-- The character is no part of a name, and no mark of a class, an identifier or a pseudo-class. -/
  holdsOn_eq : holdsOn x = false
  /-- It is in no class name. -/
  notMem : ∀ name ∈ classes, x ∉ name

theorem isNamePart_of_isAlpha {c : Char} (h : c.isAlpha = true) : isNamePart c = true := by
  have halphanum : c.isAlphanum = true := by rw [Char.isAlphanum, h, Bool.true_or]
  rw [isNamePart, isWordChar, if_pos (toNat_lt_of_isAlphanum halphanum), halphanum]
  rfl

theorem holdsOn_of_isNamePart {c : Char} (h : isNamePart c = true) : holdsOn c = true := by
  simp [holdsOn, h]

theorem holdsOn_of_isAlpha {c : Char} (h : c.isAlpha = true) : holdsOn c = true :=
  holdsOn_of_isNamePart (isNamePart_of_isAlpha h)

/-! ## What a container compound is -/

/-- What is taken for a container class is one of the class names, and what follows goes on with no part
of a name. -/
theorem exists_of_afterClass? {classes : List Text} {s rest : Text} {last : Char}
    (h : afterClass? classes s = some (last, rest)) :
    ∃ name ∈ classes, s = name ++ rest ∧ rest.head?.any isNamePart = false ∧
      last = name.getLastD '.' := by
  obtain ⟨name, hname, h⟩ := List.exists_of_findSome?_eq_some h
  refine ⟨name, hname, ?_⟩
  split at h
  · rename_i r hr
    split at h
    · exact absurd h (by simp)
    · rename_i hhead
      obtain ⟨rfl, rfl⟩ : name.getLastD '.' = last ∧ r = rest := by simpa using h
      exact ⟨Text.after?_eq_some.1 hr, by simpa using hhead, rfl⟩
  · exact absurd h (by simp)

/-- What is taken for a container compound is a tag name, or nothing, and a container class. -/
theorem exists_of_afterContainer? {classes : List Text} {s rest : Text} {last : Char}
    (h : afterContainer? classes s = some (last, rest)) :
    ∃ tag name : Text, name ∈ classes ∧ s = tag ++ '.' :: (name ++ rest) ∧
      (∀ c ∈ tag.head?, c.isAlpha = true) ∧ (∀ c ∈ tag, isNamePart c = true) ∧
      rest.head?.any isNamePart = false ∧ last = name.getLastD '.' := by
  unfold afterContainer? at h
  simp only at h
  split at h
  · rename_i tail htail
    rcases exists_of_afterClass? h with ⟨name, hname, rfl, hrest, hlast⟩
    by_cases halpha : s.head?.any Char.isAlpha = true
    · rw [if_pos halpha] at htail
      refine ⟨s.takeWhile isNamePart, name, hname, ?_, ?_, ?_, hrest, hlast⟩
      · rw [← htail, List.takeWhile_append_dropWhile]
      · intro c hc
        cases s with
        | nil => exact absurd halpha (by simp)
        | cons d s =>
          have hd : d.isAlpha = true := by simpa using halpha
          rw [List.takeWhile_cons_of_pos (isNamePart_of_isAlpha hd), List.head?_cons] at hc
          exact Option.some.inj hc ▸ hd
      · exact List.all_eq_true.1 List.all_takeWhile
    · rw [if_neg halpha] at htail
      exact ⟨[], name, hname, htail, by simp, by simp, hrest, hlast⟩
  · exact absurd h (by simp)

/-- A container compound begins with a letter or with the mark of its class. -/
theorem head_of_afterContainer? {classes : List Text} {c : Char} {s rest : Text} {last : Char}
    (h : afterContainer? classes (c :: s) = some (last, rest)) : c.isAlpha = true ∨ c = '.' := by
  rcases exists_of_afterContainer? h with ⟨tag, name, -, hs, htag, -, -, -⟩
  cases tag with
  | nil => exact Or.inr (List.cons.inj hs).1
  | cons d tag => exact Or.inl ((List.cons.inj hs).1 ▸ htag d rfl)

theorem holdsOn_of_afterContainer? {classes : List Text} {c : Char} {s rest : Text} {last : Char}
    (h : afterContainer? classes (c :: s) = some (last, rest)) : holdsOn c = true := by
  rcases head_of_afterContainer? h with halpha | rfl
  · exact holdsOn_of_isAlpha halpha
  · rfl

/-! ## Characters that part a selector -/

theorem after?_append {word : Text} {x : Char} (hx : x ∉ word) (u v : Text) :
    Text.after? word (u ++ x :: v) = (Text.after? word u).map (· ++ x :: v) := by
  induction word generalizing u with
  | nil => rfl
  | cons w word ih =>
    rw [List.mem_cons, not_or] at hx
    cases u with
    | nil =>
      show (if w = x then Text.after? word v else none) = none
      exact if_neg (Ne.symm hx.1)
    | cons c u =>
      rw [List.cons_append, Text.after?, Text.after?, ih hx.2]
      split
      · rfl
      · rfl

section Parting

variable {classes : List Text} {x : Char}

namespace IsParting

variable (hx : IsParting classes x)

include hx

theorem isNamePart_eq : isNamePart x = false := by
  have h := hx.holdsOn_eq
  simp only [holdsOn, Bool.or_eq_false_iff] at h
  exact h.1.1.1

theorem ne_dot : x ≠ '.' := by
  rintro rfl
  exact absurd hx.holdsOn_eq (by decide)

theorem afterClass?_append (u v : Text) :
    afterClass? classes (u ++ x :: v) =
      (afterClass? classes u).map fun r => (r.1, r.2 ++ x :: v) := by
  have hnames := hx.notMem
  unfold afterClass?
  induction classes with
  | nil => rfl
  | cons name names ih =>
    rw [List.forall_mem_cons] at hnames
    have hname := after?_append hnames.1 u v
    have hrest := ih ⟨hx.holdsOn_eq, hnames.2⟩ hnames.2
    rw [List.findSome?_cons, List.findSome?_cons, hname]
    cases Text.after? name u with
    | none => exact hrest
    | some rest =>
      -- whether the name goes on is told by the same character, or by the one that parts
      have hhead : (rest ++ x :: v).head?.any isNamePart = rest.head?.any isNamePart := by
        cases rest with
        | nil => simp [hx.isNamePart_eq]
        | cons d rest => rfl
      simp only [Option.map_some, hhead]
      cases rest.head?.any isNamePart with
      | true => exact hrest
      | false => rfl

/-- Whether a container compound begins a text, and where it ends, does not hang on what stands behind
the next character that parts. -/
theorem afterContainer?_append (u v : Text) :
    afterContainer? classes (u ++ x :: v) =
      (afterContainer? classes u).map fun r => (r.1, r.2 ++ x :: v) := by
  have halpha : x.isAlpha = false := by
    rw [Bool.eq_false_iff]
    intro halpha
    exact absurd (isNamePart_of_isAlpha halpha) (by simp [hx.isNamePart_eq])
  have hhead : (u ++ x :: v).head?.any Char.isAlpha = u.head?.any Char.isAlpha := by
    cases u with
    | nil => simp [halpha]
    | cons d u => rfl
  have hrest : (if (u ++ x :: v).head?.any Char.isAlpha then (u ++ x :: v).dropWhile isNamePart
        else u ++ x :: v) =
      (if u.head?.any Char.isAlpha then u.dropWhile isNamePart else u) ++ x :: v := by
    rw [hhead]
    split
    · rw [List.dropWhile_append]
      split
      · rename_i hnil
        rw [List.isEmpty_iff.1 hnil, List.dropWhile_cons_of_neg (by simp [hx.isNamePart_eq])]
        rfl
      · rfl
    · rfl
  unfold afterContainer?
  simp only [hrest]
  cases (if u.head?.any Char.isAlpha then u.dropWhile isNamePart else u) with
  | nil =>
    rw [List.nil_append]
    split
    · rename_i h
      exact absurd (List.cons.inj h).1 hx.ne_dot
    · rfl
  | cons d w =>
    by_cases hd : d = '.'
    · subst hd
      exact hx.afterClass?_append w v
    · rw [List.cons_append]
      split
      · rename_i h
        exact absurd (List.cons.inj h).1 hd
      · split
        · rename_i h
          exact absurd (List.cons.inj h).1 hd
        · rfl

theorem afterContainer?_cons (v : Text) : afterContainer? classes (x :: v) = none :=
  hx.afterContainer?_append [] v

end IsParting

end Parting

/-! ## Taking container compounds out -/

section Dropping

variable {classes : List Text} {before : Option Char} {c : Char} {s : Text}

theorem dropContainers_nil : dropContainers classes before [] = [] := by
  rw [dropContainers]

theorem dropContainers_of_holdsOn (h : before.any holdsOn = true) :
    dropContainers classes before (c :: s) = c :: dropContainers classes (some c) s := by
  rw [dropContainers, if_pos h]

theorem dropContainers_of_none (h : afterContainer? classes (c :: s) = none) :
    dropContainers classes before (c :: s) = c :: dropContainers classes (some c) s := by
  rw [dropContainers]
  split
  · rfl
  · split
    · rename_i hsome
      rw [h] at hsome
      exact absurd hsome (by simp)
    · rfl

theorem dropContainers_of_some (hbefore : before.any holdsOn = false) {last : Char} {rest : Text}
    (h : afterContainer? classes (c :: s) = some (last, rest)) :
    dropContainers classes before (c :: s) = ' ' :: dropContainers classes (some last) rest := by
  rw [dropContainers, if_neg (by simp [hbefore])]
  split
  · rename_i hsome
    rw [h] at hsome
    obtain ⟨rfl, rfl⟩ := Prod.mk.inj (Option.some.inj hsome)
    rfl
  · rename_i hnone
    rw [h] at hnone
    exact absurd hnone (by simp)

/-- Of the character before a text it matters only whether a compound can begin behind it. -/
theorem dropContainers_congr {before' : Option Char} (h : before.any holdsOn = before'.any holdsOn)
    (s : Text) : dropContainers classes before s = dropContainers classes before' s := by
  cases s with
  | nil => rw [dropContainers_nil, dropContainers_nil]
  | cons c s =>
    rw [dropContainers, dropContainers, h]

/-- On the two sides of a character that parts, container compounds are taken out as by themselves. -/
theorem dropContainers_append {x : Char} (hx : IsParting classes x) (before : Option Char)
    (u v : Text) :
    dropContainers classes before (u ++ x :: v) =
      dropContainers classes before u ++ x :: dropContainers classes none v := by
  have hbehind : dropContainers classes (some x) v = dropContainers classes none v :=
    dropContainers_congr (by simp [hx.holdsOn_eq]) v
  fun_induction dropContainers classes before u with
  | case1 before =>
    rw [List.nil_append, dropContainers_of_none (hx.afterContainer?_cons v), hbehind]
    rfl
  | case2 before c u hbefore ih =>
    rw [List.cons_append, dropContainers_of_holdsOn hbefore, ih]
    rfl
  | case3 before c u hbefore last rest hsome ih =>
    have hsome' := hx.afterContainer?_append (c :: u) v
    rw [hsome, Option.map_some, List.cons_append] at hsome'
    rw [List.cons_append, dropContainers_of_some (by simpa using hbefore) hsome', ih]
    rfl
  | case4 before c u hbefore hnone ih =>
    have hnone' := hx.afterContainer?_append (c :: u) v
    rw [hnone, Option.map_none, List.cons_append] at hnone'
    rw [List.cons_append, dropContainers_of_none hnone', ih]
    rfl

end Dropping

/-! ## Blanks in a selector -/

section Blanks

variable {classes : List Text}

/-- No blank is part of a name, so it parts a selector unless a class name has one in it. -/
theorem isParting_of_isBlank (hnames : ∀ name ∈ classes, ∀ c ∈ name, isBlank c = false) {x : Char}
    (hx : isBlank x = true) : IsParting classes x where
  holdsOn_eq := forall_blank (P := fun x => holdsOn x = false) (by decide +kernel) hx
  notMem := by
    intro name hname hmem
    rw [hnames name hname x hmem] at hx
    exact absurd hx (by decide)

variable (hnames : ∀ name ∈ classes, ∀ c ∈ name, isBlank c = false)

include hnames

theorem words_dropContainers_append {x : Char} (hx : isBlank x = true) (before : Option Char)
    (u v : Text) :
    Text.words (dropContainers classes before (u ++ x :: v)) =
      Text.words (dropContainers classes before u) ++ Text.words (dropContainers classes none v) := by
  rw [dropContainers_append (isParting_of_isBlank hnames hx), Text.words_append_blank hx]

theorem words_dropContainers_cons {x : Char} (hx : isBlank x = true) (s : Text) :
    Text.words (dropContainers classes none (x :: s)) =
      Text.words (dropContainers classes none s) := by
  have happend := words_dropContainers_append hnames hx none [] s
  rwa [dropContainers_nil] at happend

theorem words_dropContainers_of_blank {w : Text} (hw : ∀ c ∈ w, isBlank c = true) :
    Text.words (dropContainers classes none w) = [] := by
  induction w with
  | nil =>
    rw [dropContainers_nil]
    rfl
  | cons c w ih =>
    rw [List.forall_mem_cons] at hw
    rw [words_dropContainers_cons hnames hw.1, ih hw.2]

/-- Blanks around a selector do not count. -/
theorem words_dropContainers_trim (s : Text) :
    Text.words (dropContainers classes none (Text.trim s)) =
      Text.words (dropContainers classes none s) := by
  have hleft : Text.words (dropContainers classes none (Text.trimLeft s)) =
      Text.words (dropContainers classes none s) :=
    Text.apply_trimLeft (f := fun u => Text.words (dropContainers classes none u))
      (fun _ _ hc => words_dropContainers_cons hnames hc _) s
  rcases Text.exists_trimRight_append (Text.trimLeft s) with ⟨w, hw, hblank⟩
  rw [← hleft, hw, ← Text.trim]
  cases w with
  | nil => rw [List.append_nil]
  | cons c w =>
    rw [List.forall_mem_cons] at hblank
    rw [words_dropContainers_append hnames hblank.1,
      words_dropContainers_of_blank hnames hblank.2, List.append_nil]

theorem clean_trim (s : Text) : clean classes (Text.trim s) = clean classes s := by
  rw [clean, clean, Text.collapseBlanks, words_dropContainers_trim hnames, Text.collapseBlanks]

end Blanks

end GeneratedContent.Owner

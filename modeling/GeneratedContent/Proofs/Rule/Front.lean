import GeneratedContent.Proofs.Rule.Cleaning

/-!
# Containers at the front of a selector

Containers stand at the front of a selector, each with a combinator behind it that leads to the next one and
in the end to the text. Cleaning takes all of them out, and one of the combinators. The others are left at
the front of what is cleaned, and cleaning once more takes one more of them (`clean_front`).
-/

namespace GeneratedContent.Owner

/-! ## Containers and what stands behind them -/

/-- A container compound, by its parts. -/
structure Container (classes : List Text) where
  /-- The name of a tag, or nothing. -/
  tag : Text
  /-- The name of a class. -/
  name : Text
  /-- A tag begins with a letter. -/
  head : ∀ c ∈ tag.head?, c.isAlpha = true
  /-- The characters of the tag are parts of names. -/
  isNamePart_eq : ∀ c ∈ tag, isNamePart c = true
  /-- The class is one of the container classes. -/
  mem : name ∈ classes

/-- What stands between two compounds: blanks and one combinator, or only blanks. -/
structure Joint where
  /-- The text. -/
  text : Text
  /-- There is something written. -/
  ne_nil : text ≠ []
  /-- There are only blanks and combinators. -/
  isBreak_eq : ∀ c ∈ text, isBreak c = true
  /-- There is one combinator at most. -/
  single : text.countP isCombinator ≤ 1

/-- The text of a container compound. -/
def Container.text {classes : List Text} (b : Container classes) : Text := b.tag ++ '.' :: b.name

/-- Whether a combinator other than the blank is written. -/
def Joint.isWritten (j : Joint) : Bool := j.text.any isCombinator

/-- The text of container compounds with what stands behind each of them. -/
def frontText {classes : List Text} (front : List (Container classes × Joint)) : Text :=
  front.flatMap fun b => b.1.text ++ b.2.text

theorem Joint.countP_text (j : Joint) :
    j.text.countP isCombinator = if j.isWritten then 1 else 0 := by
  have hsingle := j.single
  have hwritten : j.isWritten = true ↔ 0 < j.text.countP isCombinator := by
    rw [List.countP_pos_iff, isWritten, List.any_eq_true]
  split
  · have hpos := hwritten.1 ‹_›
    omega
  · have hzero := mt hwritten.2 ‹_›
    omega

section Front

variable {classes : List Text} (hnames : AreNames classes)

include hnames

theorem afterClass?_self {name : Text} (hname : name ∈ classes) :
    ∃ last, afterClass? classes name = some (last, []) := by
  have hself : Text.after? name name = some [] := Text.after?_eq_some.2 (List.append_nil _).symm
  have hsome : (afterClass? classes name).isSome = true := by
    rw [afterClass?, List.findSome?_isSome_iff]
    refine ⟨name, hname, ?_⟩
    rw [hself]
    rfl
  rcases Option.isSome_iff_exists.1 hsome with ⟨⟨last, rest⟩, hafter⟩
  rcases exists_of_afterClass? hafter with ⟨front, -, hsplit, hhead, -⟩
  cases rest with
  | nil => exact ⟨last, hafter⟩
  | cons c rest =>
    -- a name that goes on is not the whole name
    have hc : isNamePart c = true := by
      apply hnames name hname
      rw [hsplit]
      exact List.mem_append_right _ List.mem_cons_self
    rw [List.head?_cons, Option.any_some, hc] at hhead
    exact absurd hhead (by decide)

theorem Container.afterContainer?_text (b : Container classes) :
    ∃ last, afterContainer? classes b.text = some (last, []) := by
  rcases afterClass?_self hnames b.mem with ⟨last, hlast⟩
  have hrest : (if b.text.head?.any Char.isAlpha then b.text.dropWhile isNamePart else b.text) =
      '.' :: b.name := by
    cases htag : b.tag with
    | nil =>
      rw [text, htag, List.nil_append]
      rfl
    | cons c tag =>
      have hc : c.isAlpha = true := b.head c (by rw [htag]; rfl)
      have hdrop : b.text.dropWhile isNamePart = '.' :: b.name := by
        rw [text, List.dropWhile_append_of_pos b.isNamePart_eq]
        rfl
      rw [hdrop, text, htag, List.cons_append, List.head?_cons, Option.any_some, if_pos hc]
  refine ⟨last, ?_⟩
  unfold afterContainer?
  simp only [hrest]
  exact hlast

/-- A container compound alone is a container compound, and nothing else begins in it. -/
theorem Container.exists_text (b : Container classes) :
    ∃ c s last, b.text = c :: s ∧ afterContainer? classes (c :: s) = some (last, []) ∧
      holdsOn c = true ∧ ∀ d ∈ s, holdsOn d = true := by
  rcases b.afterContainer?_text hnames with ⟨last, hlast⟩
  rcases hnames.exists_of_afterContainer? hlast with ⟨run, hrun, hne, hholds, -⟩
  rw [List.append_nil] at hrun
  cases run with
  | nil => exact absurd rfl hne
  | cons c s =>
    rw [hrun] at hlast
    rw [List.forall_mem_cons] at hholds
    exact ⟨c, s, last, hrun, hlast, hholds.1, hholds.2⟩

theorem dropContainers_joint {t : Text} (ht : ∀ c ∈ t, isBreak c = true) (s : Text) :
    dropContainers classes none (t ++ s) = t ++ dropContainers classes none s := by
  induction t with
  | nil => rfl
  | cons c t ih =>
    rw [List.forall_mem_cons] at ht
    have happend := dropContainers_append (hnames.isParting (holdsOn_of_isBreak ht.1)) none [] (t ++ s)
    rw [dropContainers_nil, List.nil_append, List.nil_append, ih ht.2] at happend
    exact happend

theorem isStacked_joint {t : Text} (ht : ∀ c ∈ t, isBreak c = true) (s : Text) :
    anyStart (isStacked classes) none (t ++ s) = anyStart (isStacked classes) none s := by
  induction t with
  | nil => rfl
  | cons c t ih =>
    rw [List.forall_mem_cons] at ht
    have happend :=
      anyStart_isStacked_append (hnames.isParting (holdsOn_of_isBreak ht.1)) none [] (t ++ s)
    rw [List.nil_append, anyStart, Bool.false_or, ih ht.2] at happend
    exact happend

/-- A container leaves a blank in front of what stands behind it, and none is right behind it. -/
theorem front_cons (b : Container classes) (j : Joint) (s : Text) :
    dropContainers classes none (b.text ++ (j.text ++ s)) =
        ' ' :: (j.text ++ dropContainers classes none s) ∧
      anyStart (isStacked classes) none (b.text ++ (j.text ++ s)) =
        anyStart (isStacked classes) none s := by
  rcases b.exists_text hnames with ⟨c, w, last, htext, hafter, hc, hw⟩
  rcases List.exists_cons_of_ne_nil j.ne_nil with ⟨x, t, hjoint⟩
  have hbreaks := j.isBreak_eq
  rw [hjoint, List.forall_mem_cons] at hbreaks
  have hx := hnames.isParting (holdsOn_of_isBreak hbreaks.1)
  constructor
  · have halone : dropContainers classes none b.text = [' '] := by
      rw [htext, dropContainers_of_some rfl hafter, dropContainers_nil]
    rw [hjoint, List.cons_append, dropContainers_append hx, halone,
      dropContainers_joint hnames hbreaks.2]
    rfl
  · have halone : anyStart (isStacked classes) none b.text = false := by
      have hfirst : (some c).any holdsOn = true := hc
      have hinside := anyStart_append_of_holdsOn (p := isStacked classes) hfirst hw []
      rw [List.append_nil] at hinside
      rw [htext, anyStart, hinside, isStacked, hafter]
      rfl
    rw [hjoint, List.cons_append, anyStart_isStacked_append hx, halone, Bool.false_or,
      isStacked_joint hnames hbreaks.2]

variable (front : List (Container classes × Joint)) (t : Text)

theorem isStacked_frontText :
    anyStart (isStacked classes) none (frontText front ++ t) =
      anyStart (isStacked classes) none t := by
  induction front with
  | nil => rfl
  | cons b front ih =>
    rw [frontText, List.flatMap_cons, ← frontText, List.append_assoc, List.append_assoc,
      (front_cons hnames b.1 b.2 _).2, ih]

/-- Of containers at the front only the joints behind them are left. -/
theorem exists_dropContainers_frontText :
    ∃ w, (∀ c ∈ w, isBreak c = true) ∧
      w.countP isCombinator = front.countP (·.2.isWritten) ∧
      dropContainers classes none (frontText front ++ t) = w ++ dropContainers classes none t := by
  induction front with
  | nil => exact ⟨[], by simp, rfl, rfl⟩
  | cons b front ih =>
    rcases ih with ⟨w, hw, hcount, hdrop⟩
    refine ⟨' ' :: (b.2.text ++ w), ?_, ?_, ?_⟩
    · rw [List.forall_mem_cons, List.forall_mem_append]
      exact ⟨by decide, b.2.isBreak_eq, hw⟩
    · rw [List.countP_cons_of_neg (by decide), List.countP_append, b.2.countP_text, hcount,
        List.countP_cons]
      omega
    · rw [frontText, List.flatMap_cons, ← frontText, List.append_assoc, List.append_assoc,
        (front_cons hnames b.1 b.2 _).1, hdrop, List.cons_append, List.append_assoc]

/-- The rest begins with a compound, and so does what is left of it. -/
theorem leading_dropContainers (hhead : ∀ c ∈ t.head?, isBreak c = false)
    (hrest : ∀ last rest, afterContainer? classes t = some (last, rest) →
      ∀ c ∈ rest.head?, isBreak c = false) :
    leading (dropContainers classes none t) = 0 := by
  cases t with
  | nil =>
    rw [dropContainers_nil]
    rfl
  | cons c t =>
    cases hcontainer : afterContainer? classes (c :: t) with
    | none =>
      rw [dropContainers_of_none hcontainer]
      exact leading_of_head (by simpa using hhead)
    | some r =>
      rcases r with ⟨last, rest⟩
      rcases hnames.exists_of_afterContainer? hcontainer with ⟨-, -, -, -, hlast⟩
      have hnext := hrest last rest hcontainer
      rw [dropContainers_of_some rfl hcontainer, leading_cons_blank rfl]
      cases rest with
      | nil =>
        rw [dropContainers_nil]
        rfl
      | cons d rest =>
        have hbehind : (some last).any holdsOn = true := hlast
        rw [dropContainers_of_holdsOn hbehind]
        exact leading_of_head (by simpa using hnext)

omit hnames in
/-- One combinator at the front goes with the blanks around it. -/
theorem dropCombinator_collapseBlanks {w : Text} (hw : ∀ c ∈ w, isBreak c = true)
    (hcount : w.countP isCombinator ≤ 1) {s : Text} (hs : leading s = 0) :
    dropCombinator (Text.collapseBlanks (w ++ s)) = Text.collapseBlanks s := by
  induction w with
  | nil =>
    apply dropCombinator_of_head
    rw [← leading_eq_zero_iff (Text.isBlank_head?_collapseBlanks _), leading_collapseBlanks]
    exact hs
  | cons c w ih =>
    rw [List.forall_mem_cons] at hw
    rw [List.cons_append]
    cases hblank : isBlank c with
    | true =>
      rw [Text.collapseBlanks_cons_blank hblank]
      rw [List.countP_cons] at hcount
      exact ih hw.2 (by omega)
    | false =>
      have hc : isCombinator c = true := by
        have hbreak := hw.1
        rwa [isBreak, hblank, Bool.false_or] at hbreak
      have hblanks : ∀ d ∈ w, isBlank d = true := by
        intro d hd
        rw [List.countP_cons_of_pos hc] at hcount
        have hnone : ¬isCombinator d = true := List.countP_eq_zero.1 (by omega) d hd
        have hbreak := hw.2 d hd
        rwa [isBreak, Bool.eq_false_iff.2 hnone, Bool.or_false] at hbreak
      rw [Text.collapseBlanks_cons hblank, dropCombinator, if_pos hc, Text.trimLeft_behindWord,
        Text.collapseBlanks_append_of_blank hblanks]

/-- Selectors with containers at the front, each with a joint behind it. What is cleaned begins with no
combinator just when at most one of the joints is a written one, and then it is what is left of the rest.
Cleaning it once more changes nothing just when, besides, no container compound stands right behind another
one. -/
theorem clean_front (hhead : ∀ c ∈ t.head?, isBreak c = false)
    (hrest : ∀ last rest, afterContainer? classes t = some (last, rest) →
      ∀ c ∈ rest.head?, isBreak c = false) :
    ((∀ c ∈ (clean classes (frontText front ++ t)).head?, isCombinator c = false) ↔
        front.countP (·.2.isWritten) ≤ 1) ∧
      (clean classes (clean classes (frontText front ++ t)) = clean classes (frontText front ++ t) ↔
        front.countP (·.2.isWritten) ≤ 1 ∧ anyStart (isStacked classes) none t = false) ∧
      (front.countP (·.2.isWritten) ≤ 1 →
        clean classes (frontText front ++ t) = Text.collapseBlanks (dropContainers classes none t)) := by
  rcases exists_dropContainers_frontText hnames front t with ⟨w, hw, hcount, hdrop⟩
  have hleading := leading_dropContainers hnames t hhead hrest
  have hbegins : (∀ c ∈ (clean classes (frontText front ++ t)).head?, isCombinator c = false) ↔
      front.countP (·.2.isWritten) ≤ 1 := by
    rw [head?_clean_iff, hdrop, leading_append hw, hleading, Nat.add_zero, hcount]
  refine ⟨hbegins, ?_, ?_⟩
  · rw [clean_clean_iff, hbegins, anyStart_clean hnames, isStacked_frontText hnames]
  · intro hsingle
    rw [clean, hdrop, dropCombinator_collapseBlanks hw (hcount.trans_le hsingle) hleading]

end Front

/-- Behind the second of two containers the combinator is left at the front, and cleaning once more takes it
off. With a blank behind the first one nothing is left. -/
theorem clean_front_nested :
    let classes := ["preview-content".toList]
    let container : Container classes :=
      ⟨[], "preview-content".toList, by simp, by simp, List.mem_singleton_self _⟩
    let child : Joint := ⟨" > ".toList, by decide, List.all_eq_true.1 (by decide), by decide⟩
    let inner : Joint := ⟨" ".toList, by decide, List.all_eq_true.1 (by decide), by decide⟩
    let nested := frontText [(container, child), (container, child)] ++ ['p']
    let spaced := frontText [(container, inner), (container, child)] ++ ['p']
    AreNames classes ∧
      (nested = ".preview-content > .preview-content > p".toList ∧
        clean classes nested = "> p".toList ∧
        (¬∀ c ∈ (clean classes nested).head?, isCombinator c = false) ∧
        clean classes (clean classes nested) ≠ clean classes nested) ∧
      spaced = ".preview-content .preview-content > p".toList ∧
      clean classes spaced = "p".toList ∧
      clean classes (clean classes spaced) = clean classes spaced := by
  intro classes container child inner nested spaced
  have hnames : AreNames classes := by
    intro name hname
    obtain rfl := List.mem_singleton.1 hname
    exact List.all_eq_true.1 (by decide +kernel)
  have hhead : ∀ c ∈ ['p'].head?, isBreak c = false := by
    intro c hc
    obtain rfl : 'p' = c := Option.some.inj hc
    decide
  have hrest : ∀ last rest, afterContainer? classes ['p'] = some (last, rest) →
      ∀ c ∈ rest.head?, isBreak c = false := by
    intro last rest h
    have hnone : afterContainer? classes ['p'] = none := rfl
    rw [hnone] at h
    exact absurd h (by simp)
  rcases clean_front hnames [(container, child), (container, child)] ['p'] hhead hrest with
    ⟨hbegins, hagain, -⟩
  rcases clean_front hnames [(container, inner), (container, child)] ['p'] hhead hrest with
    ⟨-, hagain', hclean⟩
  refine ⟨hnames, ⟨by decide +kernel, by decide +kernel, ?_, ?_⟩, by decide +kernel, ?_, ?_⟩
  · rw [hbegins]
    decide
  · rw [Ne, hagain]
    decide
  · rw [hclean (by decide)]
    decide +kernel
  · rw [hagain']
    decide +kernel

end GeneratedContent.Owner

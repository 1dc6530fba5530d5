import GeneratedContent.Proofs.Rule.Container
import GeneratedContent.Proofs.Rule.Universal

/-!
# Selectors cleaned of their containers

Cleaning drops one combinator at the front (`leading_clean`), and it leaves a container compound that
stands right behind another one (`anyStart_clean`). What it leaves may begin with a combinator and have
container compounds in it, and just then cleaning it once more changes something (`clean_clean_iff`).
-/

namespace GeneratedContent.Owner

/-! ## Combinators at the front of a selector -/

/-- The number of combinators in front of the first compound of a selector. -/
def leading (s : Text) : Nat := (s.takeWhile isBreak).countP isCombinator

theorem leading_cons_blank {c : Char} (hc : isBlank c = true) (s : Text) :
    leading (c :: s) = leading s := by
  have hcombinator : isCombinator c = false := by
    rw [Bool.eq_false_iff]
    intro h
    rw [isBlank_of_isCombinator h] at hc
    exact absurd hc (by decide)
  rw [leading, List.takeWhile_cons_of_pos (isBreak_of_isBlank hc),
    List.countP_cons_of_neg (by simp [hcombinator]), leading]

theorem leading_cons_combinator {c : Char} (hc : isCombinator c = true) (s : Text) :
    leading (c :: s) = leading s + 1 := by
  rw [leading, List.takeWhile_cons_of_pos (isBreak_of_isCombinator hc), List.countP_cons_of_pos hc,
    leading]

theorem leading_of_head {s : Text} (h : ∀ c ∈ s.head?, isBreak c = false) : leading s = 0 := by
  cases s with
  | nil => rfl
  | cons c s =>
    have hc : isBreak c = false := h c rfl
    rw [leading, List.takeWhile_cons_of_neg (by simp [hc])]
    rfl

/-- Behind breaks, the combinators among them and those behind them. -/
theorem leading_append {t : Text} (ht : ∀ c ∈ t, isBreak c = true) (s : Text) :
    leading (t ++ s) = t.countP isCombinator + leading s := by
  rw [leading, List.takeWhile_append_of_pos ht, List.countP_append, leading]

theorem leading_collapseBlanks (s : Text) : leading (Text.collapseBlanks s) = leading s := by
  induction s with
  | nil => rfl
  | cons c s ih =>
    cases hblank : isBlank c with
    | true => rw [Text.collapseBlanks_cons_blank hblank, ih, leading_cons_blank hblank]
    | false =>
      rw [Text.collapseBlanks_cons hblank]
      cases hcombinator : isCombinator c with
      | true =>
        have hbehind : leading (Text.behindWord s) = leading (Text.collapseBlanks s) := by
          rw [Text.behindWord]
          split
          · exact leading_cons_blank rfl _
          · rfl
        rw [leading_cons_combinator hcombinator, leading_cons_combinator hcombinator, hbehind, ih]
      | false =>
        have hbreak : isBreak c = false := by rw [isBreak, hblank, hcombinator, Bool.false_or]
        rw [leading_of_head (by simpa using hbreak), leading_of_head (by simpa using hbreak)]

theorem leading_trimLeft (s : Text) : leading (Text.trimLeft s) = leading s :=
  Text.apply_trimLeft (fun _ _ hc => leading_cons_blank hc _) s

/-- One combinator is dropped. -/
theorem leading_dropCombinator {s : Text} (h : ∀ c ∈ s.head?, isBlank c = false) :
    leading (dropCombinator s) = leading s - 1 := by
  cases s with
  | nil => rfl
  | cons c s =>
    rw [dropCombinator]
    split
    · rename_i hc
      rw [leading_trimLeft, leading_cons_combinator hc, Nat.add_sub_cancel]
    · rename_i hc
      have hblank : isBlank c = false := h c rfl
      have hbreak : isBreak c = false := by
        rw [isBreak, hblank, Bool.eq_false_iff.2 hc, Bool.false_or]
      rw [leading_of_head (by simpa using hbreak)]

theorem isBlank_head?_dropCombinator {s : Text} (h : ∀ c ∈ s.head?, isBlank c = false) :
    ∀ c ∈ (dropCombinator s).head?, isBlank c = false := by
  cases s with
  | nil => simp [dropCombinator]
  | cons c s =>
    rw [dropCombinator]
    split
    · intro d hd
      exact Text.isBlank_of_head?_trimLeft hd
    · exact h

/-- A text that begins with no blank begins with a combinator just when one stands in front of its first
compound. -/
theorem leading_eq_zero_iff {s : Text} (h : ∀ c ∈ s.head?, isBlank c = false) :
    leading s = 0 ↔ ∀ c ∈ s.head?, isCombinator c = false := by
  constructor
  · intro hleading c hc
    rw [Bool.eq_false_iff]
    intro hcombinator
    rcases List.head?_eq_some_iff.1 hc with ⟨t, rfl⟩
    rw [leading_cons_combinator hcombinator] at hleading
    exact absurd hleading (Nat.succ_ne_zero _)
  · intro hhead
    apply leading_of_head
    intro c hc
    rw [isBreak, h c hc, hhead c hc, Bool.false_or]

section Clean

variable (classes : List Text) (s : Text)

theorem isBlank_head?_clean : ∀ c ∈ (clean classes s).head?, isBlank c = false :=
  isBlank_head?_dropCombinator (Text.isBlank_head?_collapseBlanks _)

/-- Of the combinators at the front, one is dropped with the containers. -/
theorem leading_clean : leading (clean classes s) = leading (dropContainers classes none s) - 1 := by
  rw [clean, leading_dropCombinator (Text.isBlank_head?_collapseBlanks _), leading_collapseBlanks]

theorem head?_clean_iff :
    (∀ c ∈ (clean classes s).head?, isCombinator c = false) ↔
      leading (dropContainers classes none s) ≤ 1 := by
  rw [← leading_eq_zero_iff (isBlank_head?_clean classes s), leading_clean, Nat.sub_eq_zero_iff_le]

end Clean

/-! ## Where container compounds begin -/

/-- Whether, somewhere where a compound can begin, what follows is as asked; `before` is the character
before the text. -/
def anyStart (p : Text → Bool) : (before : Option Char) → Text → Bool
  | _, [] => false
  | before, c :: s => (!before.any holdsOn && p (c :: s)) || anyStart p (some c) s

/-- Whether a container compound begins a text. -/
def isContainer (classes : List Text) (s : Text) : Bool := (afterContainer? classes s).isSome

/-- Whether a container compound begins a text, with another one right behind it. -/
def isStacked (classes : List Text) (s : Text) : Bool :=
  (afterContainer? classes s).any fun r => isContainer classes r.2

section Start

variable {p : Text → Bool} {before : Option Char}

theorem anyStart_congr {before' : Option Char} (h : before.any holdsOn = before'.any holdsOn)
    (s : Text) : anyStart p before s = anyStart p before' s := by
  cases s with
  | nil => rfl
  | cons c s => rw [anyStart, anyStart, h]

/-- Inside a compound nothing begins. -/
theorem anyStart_append_of_holdsOn (hbefore : before.any holdsOn = true) {run : Text}
    (hrun : ∀ c ∈ run, holdsOn c = true) (s : Text) :
    anyStart p before (run ++ s) = anyStart p before s := by
  induction run generalizing before with
  | nil => rfl
  | cons c run ih =>
    rw [List.forall_mem_cons] at hrun
    have hc : (some c).any holdsOn = true := hrun.1
    have hcongr : anyStart p (some c) s = anyStart p before s :=
      anyStart_congr (hc.trans hbefore.symm) s
    rw [List.cons_append, anyStart, hbefore, ih hc hrun.2, hcongr]
    rfl

/-- Where a compound can begin, one more start counts than where none can. -/
theorem anyStart_of_holdsOn_eq_false {before' : Option Char} (h : before.any holdsOn = false)
    (h' : before'.any holdsOn = true) (hnil : p [] = false) (s : Text) :
    anyStart p before s = (p s || anyStart p before' s) := by
  cases s with
  | nil => rw [anyStart, anyStart, hnil, Bool.false_or]
  | cons c s =>
    rw [anyStart, anyStart, h, h', Bool.not_true, Bool.not_false, Bool.true_and, Bool.false_and,
      Bool.false_or]

/-- If what is asked of a text does not hang on what stands behind a character, the starts on the two sides
of it are those of the texts by themselves. -/
theorem anyStart_append {x : Char} (hx : holdsOn x = false) (hnil : p [] = false)
    (hp : ∀ u v, p (u ++ x :: v) = p u) (u v : Text) :
    anyStart p before (u ++ x :: v) = (anyStart p before u || anyStart p none v) := by
  have hbehind : anyStart p (some x) v = anyStart p none v :=
    anyStart_congr (by simp [hx]) v
  induction u generalizing before with
  | nil =>
    have hparted : p (x :: v) = false := (hp [] v).trans hnil
    show (!before.any holdsOn && p (x :: v) || anyStart p (some x) v) = (false || anyStart p none v)
    rw [hbehind, hparted, Bool.and_false]
  | cons c u ih =>
    have hparted : p (c :: (u ++ x :: v)) = p (c :: u) := hp (c :: u) v
    rw [List.cons_append, anyStart, anyStart, hparted, ih, Bool.or_assoc]

end Start

section Containers

variable {classes : List Text} {x : Char} (hx : IsParting classes x)

include hx

theorem IsParting.isContainer_append (u v : Text) :
    isContainer classes (u ++ x :: v) = isContainer classes u := by
  rw [isContainer, hx.afterContainer?_append, Option.isSome_map, isContainer]

theorem IsParting.isStacked_append (u v : Text) :
    isStacked classes (u ++ x :: v) = isStacked classes u := by
  rw [isStacked, hx.afterContainer?_append, isStacked]
  cases afterContainer? classes u with
  | none => rfl
  | some r => exact hx.isContainer_append r.2 v

theorem anyStart_isContainer_append (before : Option Char) (u v : Text) :
    anyStart (isContainer classes) before (u ++ x :: v) =
      (anyStart (isContainer classes) before u || anyStart (isContainer classes) none v) :=
  anyStart_append hx.holdsOn_eq rfl hx.isContainer_append u v

theorem anyStart_isStacked_append (before : Option Char) (u v : Text) :
    anyStart (isStacked classes) before (u ++ x :: v) =
      (anyStart (isStacked classes) before u || anyStart (isStacked classes) none v) :=
  anyStart_append hx.holdsOn_eq rfl hx.isStacked_append u v

end Containers

/-- Nothing is taken out of a text just when no container compound begins in it. -/
theorem dropContainers_eq_self_iff {classes : List Text} {before : Option Char} {s : Text} :
    dropContainers classes before s = s ↔ anyStart (isContainer classes) before s = false := by
  induction s generalizing before with
  | nil => simp [dropContainers_nil, anyStart]
  | cons c s ih =>
    rw [anyStart]
    cases hbefore : before.any holdsOn with
    | true =>
      rw [dropContainers_of_holdsOn hbefore, List.cons_inj_right, ih]
      rfl
    | false =>
      cases hcontainer : afterContainer? classes (c :: s) with
      | none =>
        rw [dropContainers_of_none hcontainer, List.cons_inj_right, ih, isContainer, hcontainer]
        rfl
      | some r =>
        have hstart : isContainer classes (c :: s) = true := by rw [isContainer, hcontainer]; rfl
        have hspace : c ≠ ' ' := by
          rintro rfl
          exact absurd (holdsOn_of_afterContainer? hcontainer) (by decide)
        rw [dropContainers_of_some hbefore hcontainer, hstart]
        constructor
        · intro h
          exact absurd (List.cons.inj h).1.symm hspace
        · intro h
          exact absurd h (by simp)

/-! ## Cleaning what is clean -/

theorem dropCombinator_of_head {s : Text} (h : ∀ c ∈ s.head?, isCombinator c = false) :
    dropCombinator s = s := by
  cases s with
  | nil => rfl
  | cons c s =>
    have hc : isCombinator c = false := h c rfl
    rw [dropCombinator, if_neg (by simp [hc])]

theorem weight_dropCombinator_of_head {s : Text} {c : Char} (h : s.head? = some c)
    (hc : isCombinator c = true) : Text.weight (dropCombinator s) < Text.weight s := by
  rcases List.head?_eq_some_iff.1 h with ⟨t, rfl⟩
  rw [dropCombinator, if_pos hc, Text.weight_trimLeft, Text.weight_cons (isBlank_of_isCombinator hc)]
  exact Nat.lt_succ_self _

theorem weight_dropCombinator_le (s : Text) : Text.weight (dropCombinator s) ≤ Text.weight s := by
  cases s with
  | nil => exact Nat.le_refl _
  | cons c s =>
    cases hc : isCombinator c with
    | true => exact (weight_dropCombinator_of_head rfl hc).le
    | false => rw [dropCombinator_of_head (by simpa using hc)]

/-- Words that are one space apart stay so. -/
theorem collapseBlanks_dropCombinator {s : Text} (h : Text.collapseBlanks s = s) :
    Text.collapseBlanks (dropCombinator s) = dropCombinator s := by
  cases s with
  | nil => rfl
  | cons c s =>
    cases hc : isCombinator c with
    | false => rw [dropCombinator_of_head (by simpa using hc), h]
    | true =>
      rw [Text.collapseBlanks_cons (isBlank_of_isCombinator hc), List.cons_inj_right] at h
      have hleft : Text.trimLeft s = Text.collapseBlanks s := by
        rw [← Text.trimLeft_behindWord, h]
      rw [dropCombinator, if_pos hc, hleft, Text.collapseBlanks_collapseBlanks]

theorem collapseBlanks_clean (classes : List Text) (s : Text) :
    Text.collapseBlanks (clean classes s) = clean classes s :=
  collapseBlanks_dropCombinator (Text.collapseBlanks_collapseBlanks _)

/-- With a container compound something is taken out that is no blank. -/
theorem weight_dropContainers (classes : List Text) (before : Option Char) (s : Text) :
    dropContainers classes before s = s ∨
      Text.weight (dropContainers classes before s) < Text.weight s := by
  have hkept : ∀ (c : Char) {t s : Text}, t = s ∨ Text.weight t < Text.weight s →
      c :: t = c :: s ∨ Text.weight (c :: t) < Text.weight (c :: s) := by
    intro c t s h
    rcases h with rfl | h
    · exact Or.inl rfl
    · rw [Text.weight, Text.weight, List.countP_cons, List.countP_cons]
      exact Or.inr (Nat.add_lt_add_right h _)
  fun_induction dropContainers classes before s with
  | case1 before => exact Or.inl rfl
  | case2 before c s hbefore ih => exact hkept c ih
  | case3 before c s hbefore last rest hsome ih =>
    rcases exists_of_afterContainer? hsome with ⟨tag, name, -, hs, -, -, -, -⟩
    have hrest : Text.weight (dropContainers classes (some last) rest) ≤ Text.weight rest :=
      ih.elim (fun h => (congrArg _ h).le) Nat.le_of_lt
    right
    -- the mark of the class is gone
    rw [hs, Text.weight_cons_blank rfl, Text.weight, Text.weight, List.countP_append,
      List.countP_cons_of_pos rfl, List.countP_append]
    rw [Text.weight, Text.weight] at hrest
    omega
  | case4 before c s hbefore hnone ih => exact hkept c ih

/-- Cleaning leaves those selectors as they are whose words are one space apart, that begin with no
combinator, and in which no container compound begins. -/
theorem clean_eq_self_iff {classes : List Text} {s : Text} :
    clean classes s = s ↔
      Text.collapseBlanks s = s ∧ (∀ c ∈ s.head?, isCombinator c = false) ∧
        anyStart (isContainer classes) none s = false := by
  constructor
  · intro hclean
    have hcollapse : Text.collapseBlanks s = s := by
      have hcleaned := collapseBlanks_clean classes s
      rwa [hclean] at hcleaned
    -- what is taken out makes the text weigh less
    have hweight := congrArg Text.weight hclean
    have hdropped := weight_dropCombinator_le (Text.collapseBlanks (dropContainers classes none s))
    have hself : dropContainers classes none s = s := by
      rcases weight_dropContainers classes none s with h | h
      · exact h
      · rw [clean] at hweight
        rw [Text.weight_collapseBlanks] at hdropped
        omega
    refine ⟨hcollapse, ?_, dropContainers_eq_self_iff.1 hself⟩
    intro c hc
    rw [Bool.eq_false_iff]
    intro hcombinator
    have hlt := weight_dropCombinator_of_head hc hcombinator
    rw [clean, hself, hcollapse] at hweight
    omega
  · rintro ⟨hcollapse, hhead, hstart⟩
    rw [clean, dropContainers_eq_self_iff.2 hstart, hcollapse, dropCombinator_of_head hhead]

/-- A selector stays as it is when it is cleaned once more just when it then begins with no combinator and
no container compound begins in it. -/
theorem clean_clean_iff (classes : List Text) (s : Text) :
    clean classes (clean classes s) = clean classes s ↔
      (∀ c ∈ (clean classes s).head?, isCombinator c = false) ∧
        anyStart (isContainer classes) none (clean classes s) = false := by
  rw [clean_eq_self_iff]
  exact and_iff_right (collapseBlanks_clean classes s)

/-! ## Class names that a selector can have -/

/-- The characters of the class names are parts of names. -/
def AreNames (classes : List Text) : Prop := ∀ name ∈ classes, ∀ c ∈ name, isNamePart c = true

theorem holdsOn_of_isBreak {c : Char} (h : isBreak c = true) : holdsOn c = false := by
  rw [isBreak, Bool.or_eq_true] at h
  rcases h with hblank | hcombinator
  · exact forall_blank (P := fun c => holdsOn c = false) (by decide +kernel) hblank
  · simp only [isCombinator, Bool.or_eq_true, beq_iff_eq] at hcombinator
    rcases hcombinator with (rfl | rfl) | rfl <;> decide

section Names

variable {classes : List Text} (hnames : AreNames classes)

include hnames

theorem AreNames.isParting {x : Char} (hx : holdsOn x = false) : IsParting classes x where
  holdsOn_eq := hx
  notMem := by
    intro name hname hmem
    rw [holdsOn_of_isNamePart (hnames name hname x hmem)] at hx
    exact absurd hx (by decide)

/-- A container compound is a run of characters behind which nothing begins. -/
theorem AreNames.exists_of_afterContainer? {s rest : Text} {last : Char}
    (h : afterContainer? classes s = some (last, rest)) :
    ∃ run : Text, s = run ++ rest ∧ run ≠ [] ∧ (∀ c ∈ run, holdsOn c = true) ∧
      holdsOn last = true := by
  rcases Owner.exists_of_afterContainer? h with ⟨tag, name, hname, rfl, -, htag, -, rfl⟩
  have hname := hnames name hname
  refine ⟨tag ++ '.' :: name, by simp, by simp, ?_, ?_⟩
  · intro c hc
    rw [List.mem_append, List.mem_cons] at hc
    rcases hc with hc | rfl | hc
    · exact holdsOn_of_isNamePart (htag c hc)
    · rfl
    · exact holdsOn_of_isNamePart (hname c hc)
  · cases hlast : name.getLast? with
    | none =>
      rw [List.getLastD_eq_getLast?, hlast]
      rfl
    | some c =>
      rw [List.getLastD_eq_getLast?, hlast]
      exact holdsOn_of_isNamePart (hname c (List.mem_of_getLast? hlast))

/-! ## Containers that are left -/

theorem anyStart_cons_break {c : Char} (hc : isBreak c = true) (s : Text) :
    anyStart (isContainer classes) none (c :: s) = anyStart (isContainer classes) none s := by
  have happend := anyStart_isContainer_append (hnames.isParting (holdsOn_of_isBreak hc)) none [] s
  rwa [List.nil_append, anyStart, Bool.false_or] at happend

theorem anyStart_dropCombinator (s : Text) :
    anyStart (isContainer classes) none (dropCombinator s) =
      anyStart (isContainer classes) none s := by
  cases s with
  | nil => rfl
  | cons c s =>
    cases hc : isCombinator c with
    | false => rw [dropCombinator_of_head (by simpa using hc)]
    | true =>
      rw [dropCombinator, if_pos hc, anyStart_cons_break hnames (isBreak_of_isCombinator hc)]
      exact Text.apply_trimLeft
        (fun _ _ hd => anyStart_cons_break hnames (isBreak_of_isBlank hd) _) s

/-- A container compound begins in one of the words of a text. -/
theorem anyStart_eq_any_words {u : Text} (hu : ∀ c ∈ u, isBlank c = false) (s : Text) :
    anyStart (isContainer classes) none (u ++ s) =
      (Text.words (u ++ s)).any (anyStart (isContainer classes) none) := by
  have hword : ∀ {u : Text}, (∀ c ∈ u, isBlank c = false) →
      anyStart (isContainer classes) none u =
        (Text.words u).any (anyStart (isContainer classes) none) := by
    intro u hu
    by_cases hne : u = []
    · rw [hne]
      rfl
    · rw [Text.words_of_forall hne hu, List.any_cons, List.any_nil, Bool.or_false]
  induction s generalizing u with
  | nil =>
    rw [List.append_nil]
    exact hword hu
  | cons c s ih =>
    cases hc : isBlank c with
    | true =>
      have hrest := ih (u := []) (by simp)
      rw [List.nil_append] at hrest
      rw [Text.words_append_blank hc, List.any_append, ← hword hu, ← hrest]
      exact anyStart_isContainer_append
        (hnames.isParting (holdsOn_of_isBreak (isBreak_of_isBlank hc))) none u s
    | false =>
      have hword : ∀ d ∈ u ++ [c], isBlank d = false := by
        rw [List.forall_mem_append, List.forall_mem_singleton]
        exact ⟨hu, hc⟩
      have hrest := ih hword
      rwa [List.append_assoc, List.singleton_append] at hrest

theorem anyStart_collapseBlanks (s : Text) :
    anyStart (isContainer classes) none (Text.collapseBlanks s) =
      anyStart (isContainer classes) none s := by
  have hwords := Text.words_collapseBlanks s
  have hcollapsed := anyStart_eq_any_words hnames (u := []) (by simp) (Text.collapseBlanks s)
  have hself := anyStart_eq_any_words hnames (u := []) (by simp) s
  rw [List.nil_append] at hcollapsed hself
  rw [hcollapsed, hself, hwords]

omit hnames in
/-- Inside a compound nothing is taken out. -/
theorem dropContainers_of_forall {before : Option Char} (hbefore : before.any holdsOn = true)
    {run : Text} (hrun : ∀ c ∈ run, holdsOn c = true) : dropContainers classes before run = run := by
  rw [dropContainers_eq_self_iff]
  have hnothing := anyStart_append_of_holdsOn (p := isContainer classes) hbefore hrun []
  rwa [List.append_nil] at hnothing

/-- Whether a container compound begins a text is told by the characters up to the first one behind which
a compound can begin, and these stay. -/
theorem isContainer_dropContainers {before : Option Char} (hbefore : before.any holdsOn = true)
    (s : Text) : isContainer classes (dropContainers classes before s) = isContainer classes s := by
  have hrun : ∀ c ∈ s.takeWhile holdsOn, holdsOn c = true :=
    fun c hc => List.all_eq_true.1 List.all_takeWhile c hc
  have hsplit := (List.takeWhile_append_dropWhile (p := holdsOn) (l := s)).symm
  generalize s.takeWhile holdsOn = run at hrun hsplit
  cases hrest : s.dropWhile holdsOn with
  | nil =>
    rw [hrest, List.append_nil] at hsplit
    rw [hsplit, dropContainers_of_forall hbefore hrun]
  | cons x v =>
    have hx : holdsOn x = false := by
      have hnot := List.head?_dropWhile_not holdsOn s
      rwa [hrest] at hnot
    rw [hrest] at hsplit
    rw [hsplit, dropContainers_append (hnames.isParting hx), dropContainers_of_forall hbefore hrun,
      (hnames.isParting hx).isContainer_append, (hnames.isParting hx).isContainer_append]

/-- Where container compounds are taken out, those are left that stand right behind another one. -/
theorem anyStart_dropContainers (before : Option Char) (s : Text) :
    anyStart (isContainer classes) before (dropContainers classes before s) =
      anyStart (isStacked classes) before s := by
  fun_induction dropContainers classes before s with
  | case1 before => rfl
  | case2 before c s hbefore ih =>
    rw [anyStart, anyStart, hbefore, ih]
    rfl
  | case3 before c s hbefore last rest hsome ih =>
    rcases hnames.exists_of_afterContainer? hsome with ⟨run, hrun, hne, hholds, hlast⟩
    have hbehind : (some last).any holdsOn = true := hlast
    have hbefore : before.any holdsOn = false := by simpa using hbefore
    have hspace : isContainer classes (' ' :: dropContainers classes (some last) rest) = false :=
      (hnames.isParting (x := ' ') rfl).isContainer_append [] _
    have hstacked : isStacked classes (c :: s) = isContainer classes rest := by
      rw [isStacked, hsome]
      rfl
    have hinside : anyStart (isStacked classes) (some c) s =
        anyStart (isStacked classes) (some last) rest := by
      cases run with
      | nil => exact absurd rfl hne
      | cons d run =>
        have hc : c = d := (List.cons.inj hrun).1
        have hs : s = run ++ rest := (List.cons.inj hrun).2
        rw [← hc, List.forall_mem_cons] at hholds
        have hfirst : (some c).any holdsOn = true := hholds.1
        rw [hs, anyStart_append_of_holdsOn hfirst hholds.2]
        exact anyStart_congr (hfirst.trans hbehind.symm) rest
    rw [anyStart, anyStart, hbefore, hspace, hstacked, hinside,
      anyStart_of_holdsOn_eq_false rfl hbehind rfl, ih, isContainer_dropContainers hnames hbehind]
    simp
  | case4 before c s hbefore hnone ih =>
    have hself : isStacked classes (c :: s) = false := by
      rw [isStacked, hnone]
      rfl
    have hkept : isContainer classes (c :: dropContainers classes (some c) s) = false := by
      cases hc : holdsOn c with
      | true =>
        have hfirst : (some c).any holdsOn = true := hc
        have hsame := isContainer_dropContainers hnames hfirst (c :: s)
        rw [dropContainers_of_holdsOn hfirst] at hsame
        rw [hsame, isContainer, hnone]
        rfl
      | false => exact (hnames.isParting hc).isContainer_append [] _
    rw [anyStart, anyStart, hself, hkept, ih]

/-- The container compounds that are left in a clean selector. -/
theorem anyStart_clean (s : Text) :
    anyStart (isContainer classes) none (clean classes s) = anyStart (isStacked classes) none s := by
  rw [clean, anyStart_dropCombinator hnames, anyStart_collapseBlanks hnames,
    anyStart_dropContainers hnames]

end Names

end GeneratedContent.Owner

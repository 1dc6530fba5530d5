import GeneratedContent.Proofs.Css.Joining
import GeneratedContent.Proofs.Text.Words
import GeneratedContent.Rule.Owner

/-!
# Owners that any element can be

The last compound of a selector is what stands behind its last blank or combinator, and blanks and
combinators in strings and brackets belong to the compounds that they stand in (`wholeCompound`).
An owner is passed over if what stands behind the last blank or combinator anywhere is nothing but
a star and pseudo-classes. That is its last compound if this has no blank and no combinator in it, and
otherwise what its last brackets end with; in both cases the verdict is told from the parts of the
compound (`isUniversal_wholeCompound`).
-/

namespace GeneratedContent.Owner

open Css

/-! ## The last compound -/

/-- Whether a character stands between compounds. -/
def isBreak (c : Char) : Bool := isBlank c || isCombinator c

theorem isBreak_of_isBlank {c : Char} (h : isBlank c = true) : isBreak c = true := by
  rw [isBreak, h, Bool.true_or]

theorem isBreak_of_isCombinator {c : Char} (h : isCombinator c = true) : isBreak c = true := by
  rw [isBreak, h, Bool.or_true]

theorem isBlank_of_isCombinator {c : Char} (h : isCombinator c = true) : isBlank c = false := by
  simp only [isCombinator, Bool.or_eq_true, beq_iff_eq] at h
  rcases h with (rfl | rfl) | rfl <;> decide

/-- Whether a lexeme stands between compounds. What is in a string or a comment does not. -/
def breaks : Lexeme → Bool
  | .single c => isBreak c
  | _ => false

/-- What stands behind the last break outside brackets, with `depth` brackets open in front, if there
is such a break. -/
def behindBreak? : (depth : Nat) → List Lexeme → Option (List Lexeme)
  | _, [] => none
  | depth, l :: ls =>
    match behindBreak? (l.depthAfter depth) ls with
    | some rest => some rest
    | none => if depth = 0 ∧ breaks l then some ls else none

/-- The last compound of a selector, with the strings and the brackets in it. -/
def wholeCompound (selector : Text) : Text :=
  let ls := lex (Text.trim selector)
  flatten ((behindBreak? 0 ls).getD ls)

theorem exists_of_behindBreak? {depth : Nat} {ls rest : List Lexeme}
    (h : behindBreak? depth ls = some rest) :
    ∃ front c, ls = front ++ .single c :: rest ∧ isBreak c = true := by
  induction ls generalizing depth with
  | nil => exact absurd h (by simp [behindBreak?])
  | cons l ls ih =>
    rw [behindBreak?] at h
    split at h
    · rename_i rest' hrest
      obtain rfl := Option.some.inj h
      rcases ih hrest with ⟨front, c, rfl, hc⟩
      exact ⟨l :: front, c, rfl, hc⟩
    · split at h
      · rename_i hl
        obtain rfl := Option.some.inj h
        cases l with
        | single c => exact ⟨[], c, rfl, hl.2⟩
        | comment t => exact absurd hl.2 (by simp [breaks])
        | quoted t => exact absurd hl.2 (by simp [breaks])
      · exact absurd h (by simp)

/-- What stands behind the last break of a text, wherever that is. -/
def lastRun (s : Text) : Text := (s.reverse.takeWhile fun c => !isBreak c).reverse

theorem lastRun_of_forall {s : Text} (h : ∀ c ∈ s, isBreak c = false) : lastRun s = s :=
  Text.behindLast_of_forall h

/-- What stands in front of a break does not count. -/
theorem lastRun_append_break {c : Char} (hc : isBreak c = true) (front s : Text) :
    lastRun (front ++ c :: s) = lastRun s :=
  Text.behindLast_append hc front s

theorem lastCompound_eq_lastRun (selector : Text) :
    lastCompound selector = lastRun (Text.trim selector) := by
  rw [lastCompound, lastRun]
  congr 2
  funext c
  rw [isBreak, Bool.not_or]

/-- All that counts for the verdict stands in the last compound, with its strings and brackets. -/
theorem lastCompound_eq (selector : Text) :
    lastCompound selector = lastRun (wholeCompound selector) := by
  rw [lastCompound_eq_lastRun, wholeCompound]
  cases hbehind : behindBreak? 0 (lex (Text.trim selector)) with
  | none => rw [Option.getD_none, flatten_lex]
  | some rest =>
    rcases exists_of_behindBreak? hbehind with ⟨front, c, hlex, hc⟩
    have htext : Text.trim selector = flatten front ++ c :: flatten rest := by
      rw [← flatten_lex (Text.trim selector), hlex, flatten_append, flatten_cons]
      rfl
    rw [htext, lastRun_append_break hc, Option.getD_some]

/-! ## Compounds by their parts -/

/-- Whether a character has no meaning of its own in a compound, so that names consist of such. -/
def isPlain (c : Char) : Bool :=
  !(isBreak c || isNarrowing c || c == ':' || c == '*' || isOpener c || isCloser c || isQuote c)

/-- A name in a compound. -/
structure Name where
  /-- The name as it is written. -/
  text : Text
  /-- There is something written. -/
  ne_nil : text ≠ []
  /-- No character has a meaning of its own. -/
  plain : text.all isPlain = true

/-- What stands in the round brackets behind a pseudo-class. -/
structure Arguments where
  /-- The text in the brackets. -/
  text : Text
  /-- There is no full stop, no number sign and no square bracket in it. -/
  loose : text.any isNarrowing = false

/-- What a compound can begin with. -/
inductive Subject where
  /-- Nothing. -/
  | any
  /-- A star. -/
  | star
  /-- The name of a tag. -/
  | tag (name : Name)

/-- What else a compound is made of. -/
inductive Part where
  /-- A class. -/
  | ofClass (name : Name)
  /-- An identifier. -/
  | ofId (name : Name)
  /-- A test of an attribute, in square brackets. -/
  | ofAttribute (inner : Text)
  /-- A pseudo-class, with arguments or without. -/
  | ofPseudo (name : Name) (arguments : Option Arguments)

/-- The text of what a compound begins with. -/
def Subject.text : Subject → Text
  | .any => []
  | .star => ['*']
  | .tag name => name.text

/-- The text of a part. -/
def Part.text : Part → Text
  | .ofClass name => '.' :: name.text
  | .ofId name => '#' :: name.text
  | .ofAttribute inner => '[' :: (inner ++ [']'])
  | .ofPseudo name none => ':' :: name.text
  | .ofPseudo name (some a) => ':' :: (name.text ++ '(' :: (a.text ++ [')']))

/-- Whether a part is a pseudo-class. -/
def Part.isPseudo : Part → Bool
  | .ofPseudo _ _ => true
  | _ => false

/-- A compound, by its parts. -/
structure Compound where
  /-- What it begins with. -/
  subject : Subject
  /-- What else it is made of, in order. -/
  parts : List Part

namespace Compound

/-- The text of parts. -/
def textOf (parts : List Part) : Text := parts.flatMap Part.text

/-- The text of a compound. -/
def text (c : Compound) : Text := c.subject.text ++ textOf c.parts

/-- Whether a compound is nothing but a star and pseudo-classes, each of which may be missing. -/
def isUniversal (c : Compound) : Bool :=
  (match c.subject with
    | .tag _ => false
    | _ => true) && c.parts.all Part.isPseudo

end Compound

theorem Name.isBreak_eq (n : Name) : ∀ c ∈ n.text, isBreak c = false := by
  intro c hc
  have hplain := List.all_eq_true.1 n.plain c hc
  simp only [isPlain, Bool.not_eq_true', Bool.or_eq_false_iff] at hplain
  exact hplain.1.1.1.1.1.1

theorem Name.isNarrowing_eq (n : Name) : ∀ c ∈ n.text, isNarrowing c = false := by
  intro c hc
  have hplain := List.all_eq_true.1 n.plain c hc
  simp only [isPlain, Bool.not_eq_true', Bool.or_eq_false_iff] at hplain
  exact hplain.1.1.1.1.1.2

theorem Name.head?_text (n : Name) : ∃ c t, n.text = c :: t ∧ c ≠ ':' ∧ c ≠ '*' := by
  rcases List.exists_cons_of_ne_nil n.ne_nil with ⟨c, t, htext⟩
  have hplain := List.all_eq_true.1 n.plain c (htext ▸ List.mem_cons_self)
  refine ⟨c, t, htext, ?_, ?_⟩
  · rintro rfl
    exact absurd hplain (by decide)
  · rintro rfl
    exact absurd hplain (by decide)

/-- Of all parts the pseudo-classes are those that name nothing that an element must be or have. -/
theorem Part.all_text (p : Part) : (p.text.all fun c => !isNarrowing c) = p.isPseudo := by
  cases p with
  | ofClass name => rfl
  | ofId name => rfl
  | ofAttribute inner => rfl
  | ofPseudo name arguments =>
    have hname : (name.text.all fun c => !isNarrowing c) = true := by
      rw [List.all_eq_true]
      intro c hc
      rw [name.isNarrowing_eq c hc]
      rfl
    cases arguments with
    | none =>
      rw [text, List.all_cons, hname]
      rfl
    | some a =>
      have harguments : (a.text.all fun c => !isNarrowing c) = true := by
        rw [List.all_eq_not_any_not]
        simpa using a.loose
      rw [text, List.all_cons, List.all_append, hname, List.all_cons, List.all_append, harguments]
      rfl

theorem Compound.all_textOf (parts : List Part) :
    ((textOf parts).all fun c => !isNarrowing c) = parts.all Part.isPseudo := by
  induction parts with
  | nil => rfl
  | cons p parts ih =>
    rw [textOf, List.flatMap_cons, List.all_append, p.all_text, List.all_cons, ← ih]
    rfl

/-! ## The verdict on a compound -/

theorem isUniversalCompound_colon (s : Text) :
    isUniversalCompound (':' :: s) = s.all fun c => !isNarrowing c := rfl

theorem isUniversalCompound_star (s : Text) :
    isUniversalCompound ('*' :: ':' :: s) = s.all fun c => !isNarrowing c := rfl

theorem isUniversalCompound_of_ne {c : Char} (hcolon : c ≠ ':') (hstar : c ≠ '*') (s : Text) :
    isUniversalCompound (c :: s) = false := by
  unfold isUniversalCompound
  rw [List.head?_cons, if_neg (by simpa using hstar)]
  simp only
  split
  · rename_i h
    exact absurd h (by simp)
  · rename_i h
    exact absurd (List.cons.inj h).1 hcolon
  · rfl

theorem isUniversalCompound_star_of_ne {c : Char} (hcolon : c ≠ ':') (s : Text) :
    isUniversalCompound ('*' :: c :: s) = false := by
  unfold isUniversalCompound
  rw [List.head?_cons, if_pos rfl, List.tail_cons]
  simp only
  split
  · rename_i h
    exact absurd h (by simp)
  · rename_i h
    exact absurd (List.cons.inj h).1 hcolon
  · rfl

/-- Behind a text that is more than a star, the verdict hangs on whether anything narrows. -/
theorem isUniversalCompound_append {w : Text} (hnil : w ≠ []) (hstar : w ≠ ['*']) (t : Text) :
    isUniversalCompound (w ++ t) = (isUniversalCompound w && t.all fun c => !isNarrowing c) := by
  rcases List.exists_cons_of_ne_nil hnil with ⟨c, s, rfl⟩
  by_cases hcolon : c = ':'
  · subst hcolon
    rw [List.cons_append, isUniversalCompound_colon, isUniversalCompound_colon, List.all_append]
  · by_cases hc : c = '*'
    · subst hc
      rcases List.exists_cons_of_ne_nil (fun h => hstar (congrArg _ h)) with ⟨d, s, rfl⟩
      by_cases hd : d = ':'
      · subst hd
        rw [List.cons_append, List.cons_append, isUniversalCompound_star, isUniversalCompound_star,
          List.all_append]
      · rw [List.cons_append, List.cons_append, isUniversalCompound_star_of_ne hd,
          isUniversalCompound_star_of_ne hd, Bool.false_and]
    · rw [List.cons_append, isUniversalCompound_of_ne hcolon hc, isUniversalCompound_of_ne hcolon hc,
        Bool.false_and]

/-- The verdict on one part, alone or behind a star. -/
theorem isUniversalCompound_part (p : Part) :
    isUniversalCompound p.text = p.isPseudo ∧ isUniversalCompound ('*' :: p.text) = p.isPseudo := by
  have hall := p.all_text
  cases p with
  | ofClass name => exact ⟨rfl, rfl⟩
  | ofId name => exact ⟨rfl, rfl⟩
  | ofAttribute inner => exact ⟨rfl, rfl⟩
  | ofPseudo name arguments =>
    cases arguments with
    | none => exact ⟨hall, hall⟩
    | some a => exact ⟨hall, hall⟩

theorem Part.exists_text (p : Part) : ∃ c t, p.text = c :: t ∧ c ≠ '*' := by
  cases p with
  | ofClass name => exact ⟨_, _, rfl, by decide⟩
  | ofId name => exact ⟨_, _, rfl, by decide⟩
  | ofAttribute inner => exact ⟨_, _, rfl, by decide⟩
  | ofPseudo name arguments =>
    cases arguments with
    | none => exact ⟨_, _, rfl, by decide⟩
    | some a => exact ⟨_, _, rfl, by decide⟩

/-- The verdict on a whole compound is the right one. -/
theorem isUniversalCompound_text (c : Compound) : isUniversalCompound c.text = c.isUniversal := by
  rcases c with ⟨subject, parts⟩
  cases subject with
  | tag name =>
    rcases name.head?_text with ⟨d, t, htext, hcolon, hstar⟩
    show isUniversalCompound (name.text ++ Compound.textOf parts) = false
    rw [htext, List.cons_append]
    exact isUniversalCompound_of_ne hcolon hstar _
  | any =>
    cases parts with
    | nil => rfl
    | cons p parts =>
      rcases p.exists_text with ⟨d, t, htext, hd⟩
      show isUniversalCompound (p.text ++ Compound.textOf parts) = _
      rw [isUniversalCompound_append, (isUniversalCompound_part p).1, Compound.all_textOf]
      · rfl
      · simp [htext]
      · simp [htext, hd]
  | star =>
    cases parts with
    | nil => rfl
    | cons p parts =>
      rcases p.exists_text with ⟨d, t, htext, -⟩
      show isUniversalCompound ('*' :: p.text ++ Compound.textOf parts) = _
      rw [isUniversalCompound_append, (isUniversalCompound_part p).2, Compound.all_textOf]
      · rfl
      · simp
      · simp [htext]

theorem isBreak_of_isCloser {c : Char} (h : isCloser c = true) : isBreak c = false := by
  rw [isCloser, Bool.or_eq_true, beq_iff_eq, beq_iff_eq] at h
  rcases h with rfl | rfl <;> decide

/-- Breaks stand in brackets, so behind one of them something follows that is more than a star. -/
theorem Part.ne_of_break {p : Part} {u w : Text} {b : Char} (h : p.text = u ++ b :: w)
    (hb : isBreak b = true) : w ≠ [] ∧ w ≠ ['*'] := by
  have hmem : b ∈ p.text := by
    rw [h]
    exact List.mem_append_right _ List.mem_cons_self
  -- in names there is no break
  have hname : ∀ (mark : Char) (name : Name), isBreak mark = false → p.text ≠ mark :: name.text := by
    intro mark name hmark htext
    rw [htext, List.mem_cons] at hmem
    rcases hmem with rfl | hmem
    · rw [hmark] at hb
      exact absurd hb (by decide)
    · rw [name.isBreak_eq b hmem] at hb
      exact absurd hb (by decide)
  -- what ends in a bracket ends neither in a break nor in a star
  have hbracket : ∀ c, isCloser c = true → p.text.getLast? = some c → w ≠ [] ∧ w ≠ ['*'] := by
    intro c hc hlast
    rw [h, List.getLast?_append] at hlast
    constructor
    · rintro rfl
      obtain rfl : b = c := Option.some.inj hlast
      rw [isBreak_of_isCloser hc] at hb
      exact absurd hb (by decide)
    · rintro rfl
      obtain rfl : '*' = c := Option.some.inj hlast
      exact absurd hc (by decide)
  cases p with
  | ofClass name => exact absurd rfl (hname '.' name (by decide))
  | ofId name => exact absurd rfl (hname '#' name (by decide))
  | ofAttribute inner =>
    apply hbracket ']' rfl
    rw [text, ← List.cons_append, List.getLast?_concat]
  | ofPseudo name arguments =>
    cases arguments with
    | none => exact absurd rfl (hname ':' name (by decide))
    | some a =>
      apply hbracket ')' rfl
      rw [text, ← List.cons_append, ← List.cons_append, ← List.append_assoc, List.getLast?_concat]

/-! ## The verdict on a selector -/

/-- The last of several parts with a break in it, and the parts behind it, if there is such a part. -/
def broken? : List Part → Option (Part × List Part)
  | [] => none
  | p :: parts =>
    match broken? parts with
    | some found => some found
    | none => if p.text.any isBreak then some (p, parts) else none

theorem isBreak_of_broken?_eq_none {parts : List Part} (h : broken? parts = none) :
    ∀ d ∈ Compound.textOf parts, isBreak d = false := by
  induction parts with
  | nil => exact fun d hd => absurd hd List.not_mem_nil
  | cons p parts ih =>
    rw [broken?] at h
    split at h
    · exact absurd h (by simp)
    · rename_i hrest
      split at h
      · exact absurd h (by simp)
      · rename_i hp
        intro d hd
        rw [Compound.textOf, List.flatMap_cons, List.mem_append] at hd
        rcases hd with hd | hd
        · exact Bool.eq_false_iff.2 fun hbreak => hp (List.any_eq_true.2 ⟨d, hd, hbreak⟩)
        · exact ih hrest d hd

theorem exists_of_broken? {parts after : List Part} {p : Part}
    (h : broken? parts = some (p, after)) :
    ∃ before, parts = before ++ p :: after ∧ p.text.any isBreak = true ∧
      ∀ d ∈ Compound.textOf after, isBreak d = false := by
  induction parts with
  | nil => exact absurd h (by simp [broken?])
  | cons q parts ih =>
    rw [broken?] at h
    split at h
    · rename_i found hrest
      rw [h] at hrest
      rcases ih hrest with ⟨before, rfl, hp, hafter⟩
      exact ⟨q :: before, rfl, hp, hafter⟩
    · rename_i hrest
      split at h
      · rename_i hq
        obtain ⟨rfl, rfl⟩ := Prod.mk.inj (Option.some.inj h)
        exact ⟨[], rfl, hq, isBreak_of_broken?_eq_none hrest⟩
      · exact absurd h (by simp)

/-- A text with a break in it is parted by the last one. -/
theorem exists_last_break {s : Text} (h : s.any isBreak = true) :
    ∃ u b w, s = u ++ b :: w ∧ isBreak b = true ∧ ∀ d ∈ w, isBreak d = false :=
  Text.exists_last h

theorem Subject.isBreak_eq (x : Subject) : ∀ d ∈ x.text, isBreak d = false := by
  cases x with
  | any => exact fun d hd => absurd hd List.not_mem_nil
  | star =>
    intro d hd
    obtain rfl := List.mem_singleton.1 hd
    decide
  | tag name => exact name.isBreak_eq

/-- The verdict on a selector, by its last compound. Where no part of the compound has a blank or
a combinator in it, the verdict says whether the compound is nothing but a star and pseudo-classes.
Where one has, in its brackets, the verdict is on what stands behind the last of these characters:
whether it begins as a compound for any element does, and nothing behind it narrows. -/
theorem isUniversal_wholeCompound {selector : Text} {c : Compound}
    (h : wholeCompound selector = c.text) :
    (broken? c.parts = none → isUniversal selector = c.isUniversal) ∧
    ∀ (p : Part) (after : List Part), broken? c.parts = some (p, after) →
      isUniversal selector =
        (isUniversalCompound (lastRun p.text) && after.all Part.isPseudo) := by
  have hverdict : isUniversal selector = isUniversalCompound (lastRun c.text) := by
    rw [isUniversal, lastCompound_eq, h]
  constructor
  · intro hnone
    have hplain : ∀ d ∈ c.text, isBreak d = false := by
      intro d hd
      rcases List.mem_append.1 hd with hd | hd
      · exact c.subject.isBreak_eq d hd
      · exact isBreak_of_broken?_eq_none hnone d hd
    rw [hverdict, lastRun_of_forall hplain, isUniversalCompound_text]
  · intro p after hbroken
    rcases exists_of_broken? hbroken with ⟨before, hparts, hp, hafter⟩
    rcases exists_last_break hp with ⟨u, b, w, htext, hb, hw⟩
    rcases Part.ne_of_break htext hb with ⟨hnil, hstar⟩
    have hsplit : c.text = (c.subject.text ++ (Compound.textOf before ++ u)) ++
        b :: (w ++ Compound.textOf after) := by
      rw [Compound.text, hparts, Compound.textOf, List.flatMap_append, List.flatMap_cons, htext]
      simp [Compound.textOf]
    have hbehind : ∀ d ∈ w ++ Compound.textOf after, isBreak d = false := by
      intro d hd
      exact (List.mem_append.1 hd).elim (hw d) (hafter d)
    rw [hverdict, hsplit, lastRun_append_break hb, lastRun_of_forall hbehind, htext,
      lastRun_append_break hb, lastRun_of_forall hw, isUniversalCompound_append hnil hstar,
      Compound.all_textOf]

/-- Two selectors for any element. The blanks in the brackets of the first one hide that it is one; the
brackets of the second one have none. A test of an attribute with a blank in it is taken for one. -/
theorem isUniversal_wholeCompound_brackets :
    let counted : Compound :=
      ⟨.any, [.ofPseudo ⟨"nth-child".toList, by decide, by decide +kernel⟩
        (some ⟨"2n + 1".toList, by decide⟩)]⟩
    let hovered : Compound :=
      ⟨.star, [.ofPseudo ⟨"not".toList, by decide, by decide +kernel⟩
        (some ⟨":hover".toList, by decide⟩)]⟩
    let tested : Compound := ⟨.any, [.ofAttribute "t=\"a :x\"".toList]⟩
    (wholeCompound ":nth-child(2n + 1)".toList = counted.text ∧ counted.isUniversal = true ∧
      isUniversal ":nth-child(2n + 1)".toList = false) ∧
    (wholeCompound "ul > *:not(:hover)".toList = hovered.text ∧ hovered.isUniversal = true ∧
      isUniversal "ul > *:not(:hover)".toList = true) ∧
    (wholeCompound "ul [t=\"a :x\"]".toList = tested.text ∧ tested.isUniversal = false ∧
      isUniversal "ul [t=\"a :x\"]".toList = true) := by
  intro counted hovered tested
  have hcounted : wholeCompound ":nth-child(2n + 1)".toList = counted.text := by decide +kernel
  have hhovered : wholeCompound "ul > *:not(:hover)".toList = hovered.text := by decide +kernel
  have htested : wholeCompound "ul [t=\"a :x\"]".toList = tested.text := by decide +kernel
  refine ⟨⟨hcounted, rfl, ?_⟩, ⟨hhovered, rfl, ?_⟩, ⟨htested, rfl, ?_⟩⟩
  · rw [(isUniversal_wholeCompound hcounted).2 _ [] rfl]
    decide +kernel
  · rw [(isUniversal_wholeCompound hhovered).1 rfl]
    rfl
  · rw [(isUniversal_wholeCompound htested).2 _ [] rfl]
    decide +kernel

end GeneratedContent.Owner

import GeneratedContent.Proofs.Rule.Container
import GeneratedContent.Proofs.Rule.Listing
import GeneratedContent.Proofs.Rule.Universal

/-!
# Pseudo-elements behind a combinator

Behind a combinator a pseudo-element belongs to any element that the combinator leads to, as if a star
stood in front of it, and an owner that any element can be is passed over. That is so behind the written
combinators. The blank is a combinator too, but it is trimmed off an owner, and the content then goes to
the elements that the selector in front of the blank selects (`Rule.extract_descendant`).
-/

namespace GeneratedContent

open Css

/-! ## What stands between a selector and a pseudo-element -/

/-- Whether a character can stand between a selector and a pseudo-element: a blank, another combinator
or the star. -/
def isLink (c : Char) : Bool := isBlank c || Owner.isCombinator c || c == '*'

/-- No link has a meaning to the reader of a stylesheet. -/
theorem of_isLink {c : Char} (h : isLink c = true) : isQuote c = false ∧ c ≠ '/' ∧ c ≠ ',' ∧
    isOpener c = false ∧ isCloser c = false ∧ (Lexeme.single c).endsPrelude = false := by
  simp only [isLink, Owner.isCombinator, Bool.or_eq_true, beq_iff_eq] at h
  rcases h with (hblank | (rfl | rfl) | rfl) | rfl
  · exact forall_blank (P := fun c => isQuote c = false ∧ c ≠ '/' ∧ c ≠ ',' ∧ isOpener c = false ∧
      isCloser c = false ∧ (Lexeme.single c).endsPrelude = false) (by decide) hblank
  all_goals decide

theorem lex_link {c : Char} (h : isLink c = true) (s : Text) : lex (c :: s) = .single c :: lex s :=
  lex_single (of_isLink h).1 fun e => (of_isLink h).2.1 e.1

/-- Links in front of a text leave it one piece. -/
theorem whole_links {t u : Text} (ht : ∀ c ∈ t, isLink c = true) (hu : Whole ',' u) :
    Whole ',' (t ++ u) := by
  induction t with
  | nil => exact hu
  | cons c t ih =>
    rw [List.forall_mem_cons] at ht
    have hrest := ih ht.2
    have hc := of_isLink ht.1
    have hdepth : (Lexeme.single c).depthAfter 0 = 0 := by
      simp [Lexeme.depthAfter, hc.2.2.2.1, hc.2.2.2.2.1]
    have hlex := lex_link ht.1 (t ++ u)
    constructor
    · rw [List.cons_append, withoutComments, hlex]
      exact congrArg (c :: ·) hrest.plain
    · have hpiece : splitLexemes ',' 0 (lex (t ++ u)) = [t ++ u] := hrest.piece
      rw [List.cons_append, splitTopLevel, hlex, splitLexemes_cons (by simp [hc.2.2.1]), hdepth,
        hpiece]
      rfl

theorem heads_links {t u : Text} (ht : ∀ c ∈ t, isLink c = true) (hu : Heads u) :
    Heads (t ++ u) := by
  induction t with
  | nil => exact hu
  | cons c t ih =>
    rw [List.forall_mem_cons] at ht
    exact (ih ht.2).cons (lex_link ht.1 _) (of_isLink ht.1).2.2.2.2.2

/-- A selector, or a list of selectors, that a pseudo-element can be written behind. -/
structure OwnerText where
  /-- The text. -/
  text : Text
  /-- There is something written. -/
  ne_nil : text ≠ []
  /-- The text begins with no blank, and not as an at-rule does. -/
  head : ∀ c ∈ text.head?, isBlank c = false ∧ c ≠ '@'
  /-- Strings and brackets are closed. -/
  closed : LeavesNothingOpen text
  /-- There are no comments. -/
  plain : withoutComments text = text
  /-- Braces and semicolons stand in strings alone. -/
  endsNoPrelude : ∀ l ∈ lex text, l.endsPrelude = false

namespace OwnerText

variable (S : OwnerText)

/-- The last selector. -/
def last : Text := (splitTopLevel ',' S.text).getLast (splitLexemes_ne_nil _ _ _)

/-- The selectors in front of the last one. -/
def others : List Text := (splitTopLevel ',' S.text).dropLast

theorem splitTopLevel_text : splitTopLevel ',' S.text = S.others ++ [S.last] :=
  (List.dropLast_concat_getLast _).symm

/-- A prelude: the text, something that leads to a pseudo-element, and the pseudo-element. -/
def linked (t : Text) (k : Placement) : Text := S.text ++ (t ++ k.suffix)

section Linked

variable {t : Text} (ht : ∀ c ∈ t, isLink c = true) (k : Placement)

include ht

theorem heads_linked (hstar : (t ++ k.suffix).head? ≠ some '*') : Heads (S.linked t k) :=
  (Heads.mk S.closed.endsClosed S.endsNoPrelude).append (heads_links ht k.heads_suffix) hstar

theorem withoutComments_linked (hstar : (t ++ k.suffix).head? ≠ some '*') :
    withoutComments (S.linked t k) = S.linked t k := by
  have hsuffix : Whole ',' k.suffix := by cases k <;> exact ⟨by decide +kernel, by decide +kernel⟩
  rw [linked, withoutComments_append S.closed.endsClosed hstar, S.plain,
    (whole_links ht hsuffix).plain]

omit ht in
theorem trim_linked : Text.trim (S.linked t k) = S.linked t k := by
  rcases List.exists_cons_of_ne_nil S.ne_nil with ⟨c, s, htext⟩
  have hblank : isBlank c = false := (S.head c (by rw [htext]; rfl)).1
  have hleft : Text.trimLeft (S.text ++ t) = S.text ++ t := by
    apply Text.trimLeft_of_head
    rw [htext, List.cons_append]
    intro d hd
    exact Option.some.inj hd ▸ hblank
  rw [linked, ← List.append_assoc, k.trim_suffix, hleft]

omit ht in
theorem head?_linked : (S.linked t k).head? ≠ some '@' := by
  rcases List.exists_cons_of_ne_nil S.ne_nil with ⟨c, s, htext⟩
  rw [linked, htext, List.cons_append, List.head?_cons]
  intro hat
  exact (S.head c (by rw [htext]; rfl)).2 (Option.some.inj hat)

/-- What leads to the pseudo-element goes to the last selector. -/
theorem splitTopLevel_linked (hstar : (t ++ k.suffix).head? ≠ some '*') :
    splitTopLevel ',' (S.linked t k) = S.others ++ [S.last ++ t ++ k.suffix] := by
  have hsuffix : Whole ',' k.suffix := by cases k <;> exact ⟨by decide +kernel, by decide +kernel⟩
  rw [linked, splitTopLevel_append rfl S.closed hstar S.splitTopLevel_text,
    (whole_links ht hsuffix).piece, Text.attach, List.append_assoc]

/-- The owners in a prelude with a pseudo-element behind the last selector. -/
theorem ofPrelude_linked (hstar : (t ++ k.suffix).head? ≠ some '*') :
    OwnerGroup.ofPrelude (S.linked t k) = OwnerGroup.group
      (S.others.filterMap OwnerGroup.cutPseudo? ++ [(Text.trim (S.last ++ t), k)]) := by
  have hlast : OwnerGroup.cutPseudo? (S.linked t k) = some (Text.trim (S.text ++ t), k) := by
    rw [linked, ← List.append_assoc, OwnerGroup.cutPseudo?_suffix]
  unfold OwnerGroup.ofPrelude
  simp only [S.withoutComments_linked ht k hstar, S.trim_linked, hlast]
  rw [S.splitTopLevel_linked ht k hstar, List.filterMap_append, List.filterMap_cons_some
    (OwnerGroup.cutPseudo?_suffix _ _)]
  rfl

end Linked

end OwnerText

/-! ## Owners behind a combinator -/

namespace Owner

theorem lastRun_trimLeft (s : Text) : lastRun (Text.trimLeft s) = lastRun s :=
  Text.apply_trimLeft (fun _ u hc => lastRun_append_break (isBreak_of_isBlank hc) [] u) s

/-- The combinator at the front is not in the last run. -/
theorem lastRun_dropCombinator (s : Text) : lastRun (dropCombinator s) = lastRun s := by
  cases s with
  | nil => rfl
  | cons c s =>
    rw [dropCombinator]
    split
    · rename_i hc
      have hcons : lastRun (c :: s) = lastRun s :=
        lastRun_append_break (isBreak_of_isCombinator hc) [] s
      rw [lastRun_trimLeft, hcons]
    · rfl

theorem dropCombinator_suffix (s : Text) : dropCombinator s <:+ s := by
  cases s with
  | nil => exact List.suffix_refl _
  | cons c s =>
    rw [dropCombinator]
    split
    · exact (List.dropWhile_suffix _).trans (List.suffix_cons _ _)
    · exact List.suffix_refl _

theorem getLast?_of_suffix {s t : Text} (h : s <:+ t) (ht : ∀ c ∈ t.getLast?, isBlank c = false) :
    ∀ c ∈ s.getLast?, isBlank c = false := by
  rcases h with ⟨front, rfl⟩
  intro c hc
  apply ht c
  rw [List.getLast?_append, Option.mem_def.1 hc]
  rfl

/-- The last compound of a text that ends with no blank. -/
theorem lastCompound_of_getLast {s : Text} (h : ∀ c ∈ s.getLast?, isBlank c = false) :
    lastCompound s = lastRun s := by
  have hleft : Text.trimLeft s <:+ s := List.dropWhile_suffix isBlank
  rw [lastCompound_eq_lastRun, Text.trim, Text.trimRight_of_getLast (getLast?_of_suffix hleft h),
    lastRun_trimLeft]

section Targets

variable {classes : List Text}

theorem targets_singleton_eq_nil_iff (owner : Text) :
    targets classes [owner] = [] ↔
      clean classes owner = [] ∨ isUniversal (clean classes owner) = true := by
  rw [targets, List.map_singleton, List.filter_eq_nil_iff]
  simp only [List.mem_singleton, forall_eq, Bool.and_eq_true, Bool.not_eq_true', not_and,
    Bool.not_eq_false, List.isEmpty_eq_false_iff]
  exact Decidable.or_iff_not_imp_left.symm

variable (hnames : ∀ name ∈ classes, ∀ c ∈ name, isBlank c = false)

include hnames

theorem targets_trim (owner : Text) :
    targets classes [Text.trim owner] = targets classes [owner] := by
  rw [targets, targets, List.map_singleton, List.map_singleton, clean_trim hnames]

/-- A selector whose last word is a star or a combinator is for any element, or there is nothing left of
it. -/
theorem targets_of_lastWord {m : Char} (hm : m = '*' ∨ isCombinator m = true) (front : Text) :
    targets classes [front ++ [' ', m]] = [] := by
  have hmark : isBlank m = false ∧ afterContainer? classes [m] = none ∧
      isUniversalCompound (lastRun [m]) = true := by
    rcases hm with rfl | hm
    · exact ⟨by decide, rfl, by decide⟩
    · simp only [isCombinator, Bool.or_eq_true, beq_iff_eq] at hm
      rcases hm with (rfl | rfl) | rfl
      all_goals exact ⟨by decide, rfl, by decide⟩
  have hword : Text.words [m] = [[m]] :=
    Text.words_of_forall (List.cons_ne_nil _ _) (by simpa using hmark.1)
  have hwords : Text.words (dropContainers classes none (front ++ [' ', m])) =
      Text.words (dropContainers classes none front) ++ [[m]] := by
    rw [words_dropContainers_append hnames rfl, dropContainers_of_none hmark.2.1, dropContainers_nil,
      hword]
  rw [targets_singleton_eq_nil_iff, clean, Text.collapseBlanks, hwords]
  generalize Text.words (dropContainers classes none front) = ws
  -- what is cleaned ends with the mark, and no other word counts
  have hlast : lastRun (List.intercalate [' '] (ws ++ [[m]])) = lastRun [m] ∧
      (List.intercalate [' '] (ws ++ [[m]])).getLast? = some m := by
    by_cases hws : ws = []
    · rw [hws]
      exact ⟨rfl, rfl⟩
    · rw [Text.intercalate_concat _ hws, List.append_assoc, List.singleton_append,
        lastRun_append_break rfl, List.getLast?_append]
      exact ⟨rfl, rfl⟩
  generalize List.intercalate [' '] (ws ++ [[m]]) = s at hlast
  have hends : ∀ c ∈ (dropCombinator s).getLast?, isBlank c = false := by
    apply getLast?_of_suffix (dropCombinator_suffix s)
    rw [hlast.2]
    intro c hc
    exact Option.some.inj hc ▸ hmark.1
  right
  rw [isUniversal, lastCompound_of_getLast hends, lastRun_dropCombinator, hlast.1]
  exact hmark.2.2

end Targets

end Owner

/-! ## The rules for owners -/

namespace Rule

variable (classes : List Text) (body : RuleBody)

/-- The targets among the owners for a placement. -/
def targetsFor (owners : List (Text × Placement)) (k : Placement) : List Text :=
  Owner.targets classes ((owners.filter (·.2 = k)).map Prod.fst)

/-- The rule of a placement for targets, if there are any. -/
def stating? (k : Placement) (selectors : List Text) : Option Rule :=
  if selectors = [] then none else some (stating body k (List.intercalate ", ".toList selectors))

/-- The rules with the content and the style of a body for owners. -/
def ofOwners (owners : List (Text × Placement)) : List Rule :=
  (owners.map Prod.snd).eraseDups.filterMap fun k => stating? body k (targetsFor classes owners k)

theorem ofBlock_group_eq (b : Block) (owners : List (Text × Placement)) :
    ofBlock classes b (OwnerGroup.group owners) = ofOwners classes (RuleBody.read b.body) owners := by
  unfold ofBlock OwnerGroup.group ofOwners
  rw [List.filterMap_map]
  rfl

/-- The rules of a block with a pseudo-element behind the last selector of its prelude. -/
theorem extract_linked {text : Text} (hclosed : EndsClosed text) (hbalanced : Balanced (lex text))
    (S : OwnerText) {t : Text} (ht : ∀ c ∈ t, isLink c = true) (k : Placement)
    (hstar : (t ++ k.suffix).head? ≠ some '*') :
    extract classes (blockText (S.linked t k) text) = ofOwners classes (RuleBody.read text)
      (S.others.filterMap OwnerGroup.cutPseudo? ++ [(Text.trim (S.last ++ t), k)]) := by
  have hplain := S.withoutComments_linked ht k hstar
  have hat : (Text.trim (withoutComments (S.linked t k))).head? ≠ some '@' := by
    rw [hplain, S.trim_linked]
    exact S.head?_linked k
  rcases extract_blockText classes (S.heads_linked ht k hstar) hclosed hbalanced hat with
    ⟨b, rfl, hextract⟩
  rw [hextract, hplain, S.trim_linked, S.ofPrelude_linked ht k hstar, ofBlock_group_eq]

theorem targetsFor_concat (owners : List (Text × Placement)) (owner : Text) (k j : Placement) :
    targetsFor classes (owners ++ [(owner, k)]) j =
      targetsFor classes owners j ++ if k = j then Owner.targets classes [owner] else [] := by
  have happend : ∀ a b : List Text, Owner.targets classes (a ++ b) =
      Owner.targets classes a ++ Owner.targets classes b := by
    intro a b
    rw [Owner.targets, List.map_append, List.filter_append, Owner.targets, Owner.targets]
  rw [targetsFor, List.filter_append, List.map_append, happend, targetsFor]
  by_cases hk : k = j
  · rw [if_pos hk, List.filter_cons_of_pos (by simpa using hk)]
    rfl
  · rw [if_neg hk, List.filter_cons_of_neg (by simpa using hk)]
    rfl

theorem placement_of_stating? {k : Placement} {selectors : List Text} {r : Rule}
    (h : stating? body k selectors = some r) : r.placement = k := by
  unfold stating? at h
  split at h
  · exact absurd h (by simp)
  · rw [← Option.some.inj h]
    rfl

/-- The rule for targets tells the targets apart from the same ones with one more. -/
theorem stating?_concat_ne (k : Placement) (selectors : List Text) (selector : Text) :
    stating? body k (selectors ++ [selector]) ≠ stating? body k selectors := by
  intro h
  by_cases hne : selectors = []
  · rw [hne] at h
    exact absurd h (by simp [stating?])
  · rw [stating?, stating?, if_neg (by simp), if_neg hne, Text.intercalate_concat _ hne] at h
    have hlength := congrArg (List.length ∘ Rule.selector) (Option.some.inj h)
    simp only [Function.comp_apply, stating, List.length_append] at hlength
    have hsep : ", ".toList.length = 2 := rfl
    omega

theorem find?_filterMap_placement {rule? : Placement → Option Rule}
    (hrule : ∀ j r, rule? j = some r → r.placement = j) (k : Placement) (ks : List Placement) :
    (ks.filterMap rule?).find? (·.placement = k) = if k ∈ ks then rule? k else none := by
  induction ks with
  | nil => rfl
  | cons j ks ih =>
    by_cases hj : j = k
    · subst hj
      rw [if_pos List.mem_cons_self]
      cases hsome : rule? j with
      | none => rw [List.filterMap_cons_none hsome, ih, hsome, ite_self]
      | some r =>
        have hplacement := hrule j r hsome
        rw [List.filterMap_cons_some hsome, List.find?_cons_of_pos (by simpa using hplacement)]
    · have hmem : k ∈ j :: ks ↔ k ∈ ks := by simp [Ne.symm hj]
      simp only [hmem]
      rw [← ih]
      cases hsome : rule? j with
      | none => rw [List.filterMap_cons_none hsome]
      | some r =>
        have hplacement : r.placement ≠ k := fun h => hj ((hrule j r hsome).symm.trans h)
        rw [List.filterMap_cons_some hsome, List.find?_cons_of_neg (by simpa using hplacement)]

/-- The rule of a placement is the one for its targets. -/
theorem find?_ofOwners {owners : List (Text × Placement)} {k : Placement}
    (hk : k ∈ owners.map Prod.snd) :
    (ofOwners classes body owners).find? (·.placement = k) =
      stating? body k (targetsFor classes owners k) := by
  rw [ofOwners, find?_filterMap_placement fun _ _ => placement_of_stating? body,
    if_pos (List.mem_eraseDups.2 hk)]

/-- What is made of an owner depends on its target alone. -/
theorem ofOwners_concat_congr {owner owner' : Text}
    (h : Owner.targets classes [owner] = Owner.targets classes [owner'])
    (owners : List (Text × Placement)) (k : Placement) :
    ofOwners classes body (owners ++ [(owner, k)]) =
      ofOwners classes body (owners ++ [(owner', k)]) := by
  unfold ofOwners
  simp only [targetsFor_concat, h, List.map_append, List.map_singleton]

/-- An owner makes the same rules as one that is passed over only if it is passed over as well. -/
theorem ofOwners_concat_eq_iff {owner owner' : Text} (h : Owner.targets classes [owner'] = [])
    (owners : List (Text × Placement)) (k : Placement) :
    ofOwners classes body (owners ++ [(owner, k)]) =
        ofOwners classes body (owners ++ [(owner', k)]) ↔
      Owner.targets classes [owner] = [] := by
  constructor
  · intro heq
    have hfind := congrArg (List.find? (·.placement = k)) heq
    rw [find?_ofOwners classes body (by simp), find?_ofOwners classes body (by simp),
      targetsFor_concat, targetsFor_concat, if_pos rfl, if_pos rfl, h, List.append_nil] at hfind
    rcases targets_singleton classes owner with htargets | ⟨s, htargets⟩
    · exact htargets
    · rw [htargets] at hfind
      exact absurd hfind (stating?_concat_ne body k _ s)
  · intro htargets
    exact ofOwners_concat_congr classes body (htargets.trans h.symm) owners k

/-- A block for a pseudo-element behind a blank has the rules of the block for the same pseudo-element
right behind the selector, so that the content goes to what the selector is for. With a star in front of
the pseudo-element there is no rule for the last selector, so the two are alike only if there is nothing
left of the last selector or it is for any element. Behind a combinator that is written, a pseudo-element
has the rules that it has behind the combinator and a star. -/
theorem extract_descendant {text : Text} (hclosed : EndsClosed text) (hbalanced : Balanced (lex text))
    (S : OwnerText) (k : Placement) :
    extract classes (blockText (S.linked [' '] k) text) =
        extract classes (blockText (S.linked [] k) text) ∧
      ((∀ name ∈ classes, ∀ c ∈ name, isBlank c = false) →
        (extract classes (blockText (S.linked [' '] k) text) =
            extract classes (blockText (S.linked [' ', '*'] k) text) ↔
          Owner.clean classes S.last = [] ∨ Owner.isUniversal (Owner.clean classes S.last) = true) ∧
        (S.others = [] → extract classes (blockText (S.linked [' ', '*'] k) text) = []) ∧
        ∀ c, Owner.isCombinator c = true →
          extract classes (blockText (S.linked [' ', c, ' '] k) text) =
            extract classes (blockText (S.linked [' ', c, ' ', '*'] k) text)) := by
  have hextract : ∀ t : Text, (∀ c ∈ t, isLink c = true) → (t ++ k.suffix).head? ≠ some '*' →
      extract classes (blockText (S.linked t k) text) = ofOwners classes (RuleBody.read text)
        (S.others.filterMap OwnerGroup.cutPseudo? ++ [(Text.trim (S.last ++ t), k)]) :=
    fun t ht hstar => extract_linked classes hclosed hbalanced S ht k hstar
  have hsuffix : k.suffix.head? ≠ some '*' := by cases k <;> decide
  have hspace : isLink ' ' = true := by decide
  have hstarred : isLink '*' = true := by decide
  have hblank : Text.trim (S.last ++ [' ']) = Text.trim S.last :=
    Text.trim_append_blank (List.forall_mem_singleton.2 rfl) S.last
  constructor
  · rw [hextract [' '] (by simp [hspace]) (by simp), hextract [] (by simp) hsuffix, List.append_nil,
      hblank]
  · intro hnames
    have hstar : Owner.targets classes [Text.trim (S.last ++ [' ', '*'])] = [] := by
      rw [Owner.targets_trim hnames, Owner.targets_of_lastWord hnames (Or.inl rfl)]
    refine ⟨?_, ?_, ?_⟩
    · rw [hextract [' '] (by simp [hspace]) (by simp),
        hextract [' ', '*'] (by simp [hspace, hstarred]) (by simp),
        ofOwners_concat_eq_iff _ _ hstar, hblank, Owner.targets_trim hnames,
        Owner.targets_singleton_eq_nil_iff]
    · intro hothers
      rw [hextract [' ', '*'] (by simp [hspace, hstarred]) (by simp), hothers]
      simp [ofOwners, targetsFor, stating?, hstar]
    · intro c hc
      have hlink : isLink c = true := by rw [isLink, hc, Bool.or_true, Bool.true_or]
      have hnone : Owner.targets classes [Text.trim (S.last ++ [' ', c, ' '])] = [] := by
        rw [show S.last ++ [' ', c, ' '] = (S.last ++ [' ', c]) ++ [' '] by simp,
          Text.trim_append_blank (List.forall_mem_singleton.2 rfl), Owner.targets_trim hnames,
          Owner.targets_of_lastWord hnames (Or.inr hc)]
      have hnone' : Owner.targets classes [Text.trim (S.last ++ [' ', c, ' ', '*'])] = [] := by
        rw [show S.last ++ [' ', c, ' ', '*'] = (S.last ++ [' ', c]) ++ [' ', '*'] by simp,
          Owner.targets_trim hnames, Owner.targets_of_lastWord hnames (Or.inl rfl)]
      rw [hextract [' ', c, ' '] (by simp [hspace, hlink]) (by simp),
        hextract [' ', c, ' ', '*'] (by simp [hspace, hlink, hstarred]) (by simp)]
      exact ofOwners_concat_congr classes _ (hnone.trans hnone'.symm) _ k

/-- The content of the block behind the blank goes to the element of the selector; with the star in front
of the pseudo-element there is no rule. -/
theorem extract_descendant_div :
    let text := "content:\"x\"".toList
    let S : OwnerText := ⟨"div".toList, by decide,
      by
        intro c hc
        obtain rfl : 'd' = c := Option.some.inj hc
        decide,
      by decide +kernel, by decide +kernel, by decide +kernel⟩
    EndsClosed text ∧ Balanced (lex text) ∧
      blockText (S.linked [' '] .before) text = "div ::before\x7bcontent:\"x\"\x7d".toList ∧
      (extract [] (blockText (S.linked [' '] .before) text)).map Rule.selector = ["div".toList] ∧
      blockText (S.linked [' ', '*'] .before) text = "div *::before\x7bcontent:\"x\"\x7d".toList ∧
      extract [] (blockText (S.linked [' ', '*'] .before) text) = [] ∧
      extract [] (blockText (S.linked [' '] .before) text) ≠
        extract [] (blockText (S.linked [' ', '*'] .before) text) := by
  intro text S
  have hclosed : EndsClosed text := by decide +kernel
  have hbalanced : Balanced (lex text) := by
    show nesting? 0 (lex text) = some 0
    decide +kernel
  have hlast : S.last = "div".toList := by decide +kernel
  have hothers : S.others = [] := by decide +kernel
  rcases extract_descendant [] hclosed hbalanced S .before with ⟨hblank, hnames⟩
  rcases hnames (by simp) with ⟨hstar, hnone, -⟩
  refine ⟨hclosed, hbalanced, by decide +kernel, ?_, by decide +kernel, hnone hothers, ?_⟩
  · rw [hblank]
    decide +kernel
  · rw [Ne, hstar, hlast]
    decide +kernel

end Rule

end GeneratedContent

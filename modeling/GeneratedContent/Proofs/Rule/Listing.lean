import GeneratedContent.Proofs.Css.Closing
import GeneratedContent.Proofs.Rule.Commenting
import GeneratedContent.Proofs.Text.Caseless
import Mathlib.Data.List.Basic

/-!
# Rules for lists of selectors

A block with a list of selectors that ask for generated content stands for the blocks with one of the
selectors each: for every placement, in the order in which the placements first come, its rule has the
selectors of the rules of these blocks, in their order (`Rule.extract_listText`).
-/

namespace GeneratedContent

open Css

/-! ## One block -/

/-- The text of a block. -/
def blockText (head body : Text) : Text := head ++ '{' :: (body ++ ['}'])

/-- Whether a text leaves no string and no comment open, and nothing in it ends a prelude. -/
structure Css.Heads (t : Text) : Prop where
  /-- The last string or comment is closed. -/
  endsClosed : EndsClosed t
  /-- Braces and semicolons stand in strings and comments alone. -/
  endsNoPrelude : ∀ l ∈ lex t, l.endsPrelude = false

theorem Css.Heads.append {s t : Text} (hs : Heads s) (ht : Heads t) (hstar : t.head? ≠ some '*') :
    Heads (s ++ t) where
  endsClosed := hs.endsClosed.append ht.endsClosed hstar
  endsNoPrelude := by
    intro l hl
    rw [lex_append hs.endsClosed hstar, List.mem_append] at hl
    rcases hl with hl | hl
    · exact hs.endsNoPrelude l hl
    · exact ht.endsNoPrelude l hl

theorem Css.Heads.cons {c : Char} {t : Text} (h : Heads t)
    (hlex : lex (c :: t) = .single c :: lex t) (hc : (Lexeme.single c).endsPrelude = false) :
    Heads (c :: t) where
  endsClosed := by
    intro l hl
    rw [hlex, List.getLast?_cons] at hl
    cases hlast : (lex t).getLast? with
    | none =>
      rw [hlast] at hl
      obtain rfl := Option.some.inj hl
      rfl
    | some k =>
      rw [hlast] at hl
      obtain rfl := Option.some.inj hl
      exact h.endsClosed k hlast
  endsNoPrelude := by
    intro l hl
    rw [hlex, List.mem_cons] at hl
    rcases hl with rfl | hl
    · exact hc
    · exact h.endsNoPrelude l hl

/-- Fillers in front of a rule make no difference to what its block says. -/
theorem Css.exists_scan_rule {head body : List Lexeme} (hhead : ∀ l ∈ head, l.endsPrelude = false)
    (hbody : Balanced body) (hat : (Text.trim (visible head)).head? ≠ some '@') (offset : Nat) :
    ∃ start stop, scan offset (head ++ .single '{' :: body ++ [.single '}']) =
      [⟨Text.trim (visible head), flatten body, start, stop⟩] := by
  induction head generalizing offset with
  | nil =>
    have hscan : scan offset ([] ++ .single '{' :: body ++ [.single '}']) = _ :=
      scan_rule offset hhead (by simp) hbody hat
    rw [scan_nil] at hscan
    exact ⟨_, _, hscan⟩
  | cons l head ih =>
    cases hl : l.isFiller with
    | true =>
      have htrim : Text.trim (visible (l :: head)) = Text.trim (visible head) := by
        rw [visible_cons]
        cases l with
        | comment t => rfl
        | quoted t => exact absurd hl (by simp [Lexeme.isFiller])
        | single c => exact Text.trim_cons_blank _ hl
      rw [htrim] at hat ⊢
      rcases ih (fun k hk => hhead k (List.mem_cons_of_mem _ hk)) hat (offset + l.text.length) with
        ⟨start, stop, hscan⟩
      refine ⟨start, stop, ?_⟩
      rw [List.cons_append, List.cons_append, scan_filler _ _ hl]
      exact hscan
    | false =>
      have hscan : scan offset (l :: head ++ .single '{' :: body ++ [.single '}']) = _ :=
        scan_rule offset hhead (by simpa using hl) hbody hat
      rw [scan_nil] at hscan
      exact ⟨_, _, hscan⟩

/-- The one block of a text of a block. -/
theorem Css.exists_blocks_blockText {head body : Text} (hhead : Heads head)
    (hclosed : EndsClosed body) (hbody : Balanced (lex body))
    (hat : (Text.trim (withoutComments head)).head? ≠ some '@') :
    ∃ start stop, blocks (blockText head body) =
      [⟨Text.trim (withoutComments head), body, start, stop⟩] := by
  have hlex : lex (blockText head body) = lex head ++ .single '{' :: lex body ++ [.single '}'] := by
    have hend : lex (body ++ ['}']) = lex body ++ [.single '}'] := by
      rw [lex_append hclosed (by simp), lex_single rfl (by simp), lex_nil]
    rw [blockText, lex_append hhead.endsClosed (by simp), lex_single rfl (by simp), hend,
      List.append_assoc, List.cons_append]
  rcases exists_scan_rule hhead.endsNoPrelude hbody hat 0 with ⟨start, stop, hscan⟩
  rw [flatten_lex] at hscan
  exact ⟨start, stop, by rw [blocks, hlex, hscan, withoutComments]⟩

/-- The rules of one block. -/
theorem Rule.extract_blockText (classes : List Text) {head body : Text} (hhead : Heads head)
    (hclosed : EndsClosed body) (hbody : Balanced (lex body))
    (hat : (Text.trim (withoutComments head)).head? ≠ some '@') :
    ∃ b : Block, b.body = body ∧ extract classes (blockText head body) =
      ofBlock classes b (OwnerGroup.ofPrelude (Text.trim (withoutComments head))) := by
  rcases exists_blocks_blockText hhead hclosed hbody hat with ⟨start, stop, hblocks⟩
  refine ⟨⟨Text.trim (withoutComments head), body, start, stop⟩, rfl, ?_⟩
  rw [extract_eq_flatMap, hblocks, List.flatMap_cons, List.flatMap_nil, List.append_nil]

/-! ## Selectors in a list -/

/-- What a selector ends with that asks for generated content. -/
def Placement.suffix (k : Placement) : Text := "::".toList ++ k.name

/-- A selector that asks for generated content and can stand in a list. -/
structure ContentSelector where
  /-- The owner of the content. -/
  owner : Text
  /-- Where the content goes. -/
  placement : Placement
  /-- Strings and brackets of the owner are closed. -/
  closed : LeavesNothingOpen owner
  /-- The owner has no comment, and no comma at its top level. -/
  whole : Whole ',' owner
  /-- Braces and semicolons stand in strings alone. -/
  endsNoPrelude : ∀ l ∈ lex owner, l.endsPrelude = false
  /-- The owner does not begin as an at-rule does. -/
  notAt : (Text.trim owner).head? ≠ some '@'

/-- The text of a selector. -/
def ContentSelector.text (x : ContentSelector) : Text := x.owner ++ x.placement.suffix

/-- The text of selectors in a list. -/
def listText (xs : List ContentSelector) : Text :=
  List.intercalate ", ".toList (xs.map ContentSelector.text)

namespace Placement

variable (k : Placement)

theorem heads_suffix : Heads k.suffix := by
  cases k
  · exact ⟨by decide +kernel, by decide +kernel⟩
  · exact ⟨by decide +kernel, by decide +kernel⟩

theorem head?_suffix_append (next : Text) : (k.suffix ++ next).head? = some ':' := rfl

/-- Only the blanks before an owner are in front of its selector, whatever comes behind. -/
theorem trimLeft_append_suffix (owner next : Text) :
    Text.trimLeft (owner ++ (k.suffix ++ next)) = Text.trimLeft owner ++ (k.suffix ++ next) := by
  apply Text.trimLeft_append
  intro c hc
  rw [head?_suffix_append, Option.mem_some_iff] at hc
  exact hc ▸ rfl

theorem trimLeft_suffix (owner : Text) :
    Text.trimLeft (owner ++ k.suffix) = Text.trimLeft owner ++ k.suffix := by
  have htrim := k.trimLeft_append_suffix owner []
  rw [List.append_nil] at htrim
  exact htrim

/-- There is no blank behind a pseudo-element. -/
theorem trim_suffix (owner : Text) :
    Text.trim (owner ++ k.suffix) = Text.trimLeft owner ++ k.suffix := by
  rw [Text.trim, trimLeft_suffix]
  apply Text.trimRight_of_getLast
  intro c hc
  rw [List.getLast?_append] at hc
  cases k
  · exact (Option.some.inj hc : 'e' = c) ▸ rfl
  · exact (Option.some.inj hc : 'r' = c) ▸ rfl

end Placement

namespace ContentSelector

variable (x : ContentSelector)

theorem heads_text : Heads x.text :=
  (Heads.mk x.closed.endsClosed x.endsNoPrelude).append x.placement.heads_suffix (by
    cases x.placement <;> decide)

/-- The text of a selector has no comment and no comma at its top level. -/
theorem whole_text : Whole ',' x.text := by
  have hstar : x.placement.suffix.head? ≠ some '*' := by cases x.placement <;> decide
  have hsuffix : Whole ',' x.placement.suffix := by
    cases x.placement <;> exact ⟨by decide +kernel, by decide +kernel⟩
  constructor
  · rw [text, withoutComments_append x.closed.endsClosed hstar, x.whole.plain, hsuffix.plain]
  · have hpieces : splitTopLevel ',' x.owner = [] ++ [x.owner] := x.whole.piece
    rw [text, splitTopLevel_append rfl x.closed hstar hpieces, hsuffix.piece]
    rfl

/-- A comma behind the text of a selector stands at the top level. -/
theorem ends_text : Ends ',' x.text := by
  have hstar : (x.placement.suffix ++ [',']).head? ≠ some '*' := by
    cases x.placement <;> decide
  have hsuffix : Ends ',' x.placement.suffix := by cases x.placement <;> decide +kernel
  have hpieces : splitTopLevel ',' x.owner = [] ++ [x.owner] := x.whole.piece
  rw [Ends, text, List.append_assoc, splitTopLevel_append rfl x.closed hstar hpieces, hsuffix]
  rfl

end ContentSelector

/-! ## The list as a text -/

theorem Css.Whole.trimLeft {t : Text} (h : Whole ',' t) : Whole ',' (Text.trimLeft t) :=
  Text.trimLeft_induction (fun _ t hc => (whole_blank_iff rfl hc t).1) h

theorem Css.Ends.trimLeft {t : Text} (h : Ends ',' t) : Ends ',' (Text.trimLeft t) :=
  Text.trimLeft_induction (fun _ t hc => (ends_blank_iff rfl hc t).1) h

theorem listText_cons_cons (x y : ContentSelector) (xs : List ContentSelector) :
    listText (x :: y :: xs) = x.text ++ ',' :: ' ' :: listText (y :: xs) := by
  rw [listText, List.map_cons, List.map_cons, List.intercalate_cons_cons, List.append_assoc]
  rfl

theorem listText_singleton (x : ContentSelector) : listText [x] = x.text :=
  List.intercalate_singleton

theorem heads_listText (xs : List ContentSelector) : Heads (listText xs) := by
  induction xs with
  | nil => exact ⟨by decide +kernel, by decide +kernel⟩
  | cons x xs ih =>
    cases xs with
    | nil =>
      rw [listText_singleton]
      exact x.heads_text
    | cons y xs =>
      have hspaced : Heads (' ' :: listText (y :: xs)) := ih.cons (lex_blank rfl _) rfl
      rw [listText_cons_cons]
      exact x.heads_text.append (hspaced.cons (lex_single rfl (by simp)) rfl) (by simp)

/-- Behind the owner of the first selector stands its pseudo-element. -/
theorem exists_listText_cons (x : ContentSelector) (xs : List ContentSelector) :
    ∃ tail, listText (x :: xs) = x.text ++ tail ∧
      List.intercalate ", ".toList (Text.trimLeft x.text :: xs.map ContentSelector.text) =
        Text.trimLeft x.text ++ tail := by
  cases xs with
  | nil =>
    refine ⟨[], ?_, ?_⟩
    · rw [listText_singleton, List.append_nil]
    · rw [List.map_nil, List.intercalate_singleton, List.append_nil]
  | cons y ys =>
    refine ⟨',' :: ' ' :: listText (y :: ys), listText_cons_cons x y ys, ?_⟩
    rw [List.map_cons, List.intercalate_cons_cons, List.append_assoc]
    rfl

/-- At the end of a list stands the pseudo-element of its last selector. -/
theorem exists_listText_eq (x : ContentSelector) (xs : List ContentSelector) :
    ∃ (front : Text) (k : Placement), listText (x :: xs) = front ++ k.suffix := by
  induction xs generalizing x with
  | nil => exact ⟨x.owner, x.placement, listText_singleton x⟩
  | cons y xs ih =>
    rcases ih y with ⟨front, k, hfront⟩
    refine ⟨x.text ++ ',' :: ' ' :: front, k, ?_⟩
    rw [listText_cons_cons, hfront, List.append_assoc]
    rfl

/-- When a list is trimmed, its first selector is, and the others stay as they are. -/
theorem trim_listText (x : ContentSelector) (xs : List ContentSelector) :
    Text.trim (listText (x :: xs)) =
      List.intercalate ", ".toList (Text.trimLeft x.text :: xs.map ContentSelector.text) := by
  rcases exists_listText_eq x xs with ⟨front, k, hend⟩
  rcases exists_listText_cons x xs with ⟨tail, hlist, hleft⟩
  have hright : Text.trim (listText (x :: xs)) = Text.trimLeft (listText (x :: xs)) := by
    rw [hend, k.trim_suffix, k.trimLeft_suffix]
  rw [hright, hleft, hlist, ContentSelector.text, Placement.trimLeft_suffix, List.append_assoc,
    List.append_assoc]
  exact x.placement.trimLeft_append_suffix x.owner tail

theorem Css.sealed_comma : (Lexeme.single ',').Sealed := Lexeme.sealed_single rfl (by decide)

/-- The pieces of a list are its selectors, behind any first one that can stand there. -/
theorem pieces_intercalate_text {t : Text} (hwhole : Whole ',' t) (hends : Ends ',' t)
    (xs : List ContentSelector) :
    let list := List.intercalate ", ".toList (t :: xs.map ContentSelector.text)
    withoutComments list = list ∧ splitTopLevel ',' list = t :: xs.map fun x => ' ' :: x.text := by
  intro list
  have hall : ∀ u ∈ t :: xs.map ContentSelector.text, Whole ',' u ∧ Ends ',' u := by
    rw [List.forall_mem_cons, List.forall_mem_map]
    exact ⟨⟨hwhole, hends⟩, fun x _ => ⟨x.whole_text, x.ends_text⟩⟩
  have hpieces := (pieces_spaced_iff rfl rfl sealed_comma (List.cons_ne_nil _ _)).2
    ⟨fun u hu => (hall u hu).1, fun u hu => (hall u ((List.dropLast_sublist _).subset hu)).2⟩
  rw [spaced, List.map_map] at hpieces
  exact hpieces

theorem withoutComments_listText (xs : List ContentSelector) :
    withoutComments (listText xs) = listText xs := by
  cases xs with
  | nil => decide +kernel
  | cons x xs => exact (pieces_intercalate_text x.whole_text x.ends_text xs).1

/-- The pieces of a trimmed list are its selectors, the first one trimmed. -/
theorem pieces_trim_listText (x : ContentSelector) (xs : List ContentSelector) :
    withoutComments (Text.trim (listText (x :: xs))) = Text.trim (listText (x :: xs)) ∧
      splitTopLevel ',' (Text.trim (listText (x :: xs))) =
        Text.trimLeft x.text :: xs.map fun y => ' ' :: y.text := by
  rw [trim_listText]
  exact pieces_intercalate_text x.whole_text.trimLeft x.ends_text.trimLeft xs

/-- No list is taken for an at-rule. -/
theorem head?_trim_listText (xs : List ContentSelector) :
    (Text.trim (listText xs)).head? ≠ some '@' := by
  cases xs with
  | nil => decide
  | cons x xs =>
    rcases exists_listText_cons x xs with ⟨tail, -, hlist⟩
    rw [trim_listText, hlist, ContentSelector.text, Placement.trimLeft_suffix, List.append_assoc]
    have hat := x.notAt
    rw [Text.head?_trim] at hat
    cases howner : Text.trimLeft x.owner with
    | nil =>
      rw [List.nil_append, Placement.head?_suffix_append]
      decide
    | cons c owner =>
      rw [howner, List.head?_cons] at hat
      exact hat

/-! ## The owners in the list -/

namespace OwnerGroup

/-- No text ends in both names: their last letters differ. -/
theorem afterCaseless?_before_of_after {s rest : Text}
    (h : Text.afterCaseless? Placement.after.name.reverse s = some rest) :
    Text.afterCaseless? Placement.before.name.reverse s = none := by
  have hafter : Placement.after.name.reverse = 'r' :: "etfa".toList := rfl
  have hbefore : Placement.before.name.reverse = 'e' :: "rofeb".toList := rfl
  cases s with
  | nil => rfl
  | cons c s =>
    rw [hafter, Text.afterCaseless?] at h
    rw [hbefore, Text.afterCaseless?, if_neg]
    intro he
    split at h
    · rename_i hr
      rw [sameLetter_iff (by decide) (by decide)] at he hr
      exact absurd (he.symm.trans hr) (by decide)
    · exact absurd h (by simp)

/-- A selector that ends in a name behind a colon or two has what stands before them as its owner. -/
theorem cutPseudo?_eq_some {selector rest owner : Text} {k : Placement}
    (hname : Text.afterCaseless? k.name.reverse (Text.trimLeft selector.reverse) = some rest)
    (howner : dropColons? rest = some owner) :
    cutPseudo? selector = some (Text.trim owner.reverse, k) := by
  unfold cutPseudo?
  simp only
  cases k with
  | before =>
    rw [List.findSome?_cons, hname]
    simp only [howner, Option.map_some]
  | after =>
    rw [List.findSome?_cons, afterCaseless?_before_of_after hname, List.findSome?_cons, hname]
    simp only [howner, Option.map_some]

/-- What stands before a pseudo-element is its owner. -/
theorem cutPseudo?_suffix (owner : Text) (k : Placement) :
    cutPseudo? (owner ++ k.suffix) = some (Text.trim owner, k) := by
  have hreverse : Text.trimLeft (owner ++ k.suffix).reverse =
      k.name.reverse ++ ':' :: ':' :: owner.reverse := by
    rw [List.reverse_append]
    cases k
    · rfl
    · rfl
  have hname : Text.afterCaseless? k.name.reverse (Text.trimLeft (owner ++ k.suffix).reverse) =
      some (':' :: ':' :: owner.reverse) := by
    rw [hreverse, Text.afterCaseless?_append]
  rw [cutPseudo?_eq_some hname rfl, List.reverse_reverse]

/-- What a selector asks for: its owner, trimmed, and where the content goes. -/
def asked (x : ContentSelector) : Text × Placement := (Text.trim x.owner, x.placement)

/-- The owners in a list are those of its selectors. -/
theorem ofPrelude_listText (xs : List ContentSelector) :
    ofPrelude (Text.trim (listText xs)) = group (xs.map asked) := by
  cases xs with
  | nil => decide +kernel
  | cons x xs =>
    rcases pieces_trim_listText x xs with ⟨hplain, hpieces⟩
    rcases exists_listText_eq x xs with ⟨front, k, hend⟩
    have hlast : Text.trim (listText (x :: xs)) = Text.trimLeft front ++ k.suffix := by
      rw [hend, k.trim_suffix]
    have hfirst : cutPseudo? (Text.trimLeft x.text) = some (asked x) := by
      rw [ContentSelector.text, Placement.trimLeft_suffix, cutPseudo?_suffix, Text.trim_trimLeft]
      rfl
    have hrest : (xs.map fun y => ' ' :: y.text).filterMap cutPseudo? = xs.map asked := by
      have hcut : ∀ y ∈ xs, (cutPseudo? ∘ fun y : ContentSelector => ' ' :: y.text) y =
          some (asked y) := by
        intro y _
        have hblank : Text.trim (' ' :: y.owner) = Text.trim y.owner :=
          Text.trim_cons_blank _ rfl
        have hpseudo := cutPseudo?_suffix (' ' :: y.owner) y.placement
        rw [hblank] at hpseudo
        exact hpseudo
      rw [List.filterMap_map, List.filterMap_congr hcut, ← List.filterMap_eq_map]
      rfl
    unfold ofPrelude
    simp only [hplain, Text.trim_trim, hpieces]
    rw [hlast, cutPseudo?_suffix, List.filterMap_cons_some hfirst, hrest]
    rfl

end OwnerGroup

/-! ## The rules of a list -/

/-- Rules as one: the first of them, with the selectors of all in a list. -/
def joined? : List Rule → Option Rule
  | [] => none
  | r :: rs => some { r with
      selector := List.intercalate ", ".toList ((r :: rs).map Rule.selector) }

/-- The rule of a placement for a selector, with what a body states. -/
def Rule.stating (body : RuleBody) (k : Placement) (selector : Text) : Rule :=
  ⟨selector, k, body.content, body.style⟩

theorem joined?_map_stating (body : RuleBody) (k : Placement) (selectors : List Text) :
    joined? (selectors.map (Rule.stating body k)) =
      if selectors = [] then none
      else some (Rule.stating body k (List.intercalate ", ".toList selectors)) := by
  have hselectors : (selectors.map (Rule.stating body k)).map Rule.selector = selectors := by
    rw [List.map_map]
    exact List.map_id _
  cases selectors with
  | nil => rfl
  | cons s selectors =>
    rw [List.map_cons] at hselectors
    rw [if_neg (List.cons_ne_nil _ _), List.map_cons, joined?, hselectors]
    rfl

namespace Rule

variable (classes : List Text) (body : RuleBody)

/-- The rules with the content and the style of a body for an owner: one, or none if the owner is left
out. -/
def forOwner (x : ContentSelector) : List Rule :=
  (Owner.targets classes [Text.trim x.owner]).map (stating body x.placement)

theorem targets_cons (owner : Text) (owners : List Text) :
    Owner.targets classes (owner :: owners) =
      Owner.targets classes [owner] ++ Owner.targets classes owners := by
  unfold Owner.targets
  rw [← List.filter_append]
  rfl

theorem targets_singleton (owner : Text) :
    Owner.targets classes [owner] = [] ∨ ∃ s, Owner.targets classes [owner] = [s] := by
  unfold Owner.targets
  rw [List.map_singleton, List.filter_cons]
  split
  · exact Or.inr ⟨_, rfl⟩
  · exact Or.inl rfl

theorem of_mem_forOwner {x : ContentSelector} {r : Rule} (h : r ∈ forOwner classes body x) :
    r.placement = x.placement ∧ r.content = body.content ∧ r.style = body.style := by
  rcases List.mem_map.1 h with ⟨s, -, rfl⟩
  exact ⟨rfl, rfl, rfl⟩

theorem filter_forOwner_self (x : ContentSelector) :
    (forOwner classes body x).filter (·.placement = x.placement) = forOwner classes body x := by
  rw [List.filter_eq_self]
  intro r hr
  simpa using (of_mem_forOwner classes body hr).1

theorem filter_forOwner_of_ne {x : ContentSelector} {k : Placement} (hk : x.placement ≠ k) :
    (forOwner classes body x).filter (·.placement = k) = [] := by
  rw [List.filter_eq_nil_iff]
  intro r hr
  rw [(of_mem_forOwner classes body hr).1]
  simpa using hk

/-- The rules of one placement for the owners in a list. -/
theorem filter_flatMap_forOwner (xs : List ContentSelector) (k : Placement) :
    (xs.flatMap (forOwner classes body)).filter (·.placement = k) =
      (Owner.targets classes (((xs.map OwnerGroup.asked).filter (·.2 = k)).map Prod.fst)).map
        (stating body k) := by
  induction xs with
  | nil => rfl
  | cons x xs ih =>
    rw [List.flatMap_cons, List.filter_append, ih, List.map_cons, List.filter_cons]
    by_cases hk : x.placement = k
    · have hasked : decide ((OwnerGroup.asked x).2 = k) = true := decide_eq_true hk
      subst hk
      rw [filter_forOwner_self, if_pos hasked, List.map_cons, targets_cons, List.map_append,
        forOwner]
      rfl
    · have hasked : ¬ decide ((OwnerGroup.asked x).2 = k) = true := fun h => hk (of_decide_eq_true h)
      rw [filter_forOwner_of_ne classes body hk, if_neg hasked, List.nil_append]

/-- A block with owners in a list has for each placement the rules of its owners, as one. -/
theorem ofBlock_group (xs : List ContentSelector) (b : Block) :
    ofBlock classes b (OwnerGroup.group (xs.map OwnerGroup.asked)) =
      (xs.map ContentSelector.placement).eraseDups.filterMap fun k =>
        joined? ((xs.flatMap (forOwner classes (RuleBody.read b.body))).filter (·.placement = k)) := by
  have hplacements : (xs.map OwnerGroup.asked).map Prod.snd = xs.map ContentSelector.placement := by
    rw [List.map_map]
    rfl
  unfold ofBlock OwnerGroup.group
  rw [hplacements, List.filterMap_map]
  apply List.filterMap_congr
  intro k _
  rw [filter_flatMap_forOwner, joined?_map_stating]
  rfl

section Blocks

variable {text : Text} (hclosed : EndsClosed text) (hbalanced : Balanced (lex text))

include hclosed hbalanced

/-- The rules of a block with a list of selectors are those for its owners. -/
theorem extract_eq_filterMap (xs : List ContentSelector) :
    extract classes (blockText (listText xs) text) =
      (xs.map ContentSelector.placement).eraseDups.filterMap fun k =>
        joined? ((xs.flatMap (forOwner classes (RuleBody.read text))).filter (·.placement = k)) := by
  have hplain := withoutComments_listText xs
  have hat : (Text.trim (withoutComments (listText xs))).head? ≠ some '@' := by
    rw [hplain]
    exact head?_trim_listText xs
  rcases extract_blockText classes (heads_listText xs) hclosed hbalanced hat with ⟨b, rfl, hextract⟩
  rw [hextract, hplain, OwnerGroup.ofPrelude_listText, ofBlock_group]

/-- The rules of a block with one selector are those for its owner. -/
theorem extract_text (x : ContentSelector) :
    extract classes (blockText x.text text) = forOwner classes (RuleBody.read text) x := by
  have hextract := extract_eq_filterMap classes hclosed hbalanced [x]
  rw [listText_singleton] at hextract
  rw [hextract, List.map_singleton, List.eraseDups_cons, List.filter_nil, List.eraseDups_nil,
    List.filterMap_cons, List.flatMap_singleton, filter_forOwner_self]
  -- there is one target at most, so nothing is joined
  unfold forOwner
  rw [joined?_map_stating]
  rcases targets_singleton classes (Text.trim x.owner) with htargets | ⟨s, htargets⟩
  · rw [htargets]
    rfl
  · rw [htargets, if_neg (List.cons_ne_nil _ _), List.intercalate_singleton]
    rfl

/-- A block with a list of selectors that ask for generated content has one rule for each placement,
in the order in which the placements first come in the list: its selectors are those of the rules of
the blocks with one of the selectors each, in their order, and there is none if these have no rule. All
of these rules have the same content and the same style. -/
theorem extract_listText (xs : List ContentSelector) :
    extract classes (blockText (listText xs) text) =
        ((xs.map ContentSelector.placement).eraseDups.filterMap fun k =>
          joined? ((xs.flatMap fun x => extract classes (blockText x.text text)).filter
            (·.placement = k))) ∧
      ∀ x ∈ xs, ∀ r ∈ extract classes (blockText x.text text), r.placement = x.placement ∧
        r.content = (RuleBody.read text).content ∧ r.style = (RuleBody.read text).style := by
  have hsingle : (fun x : ContentSelector => extract classes (blockText x.text text)) =
      forOwner classes (RuleBody.read text) := by
    funext x
    exact extract_text classes hclosed hbalanced x
  constructor
  · rw [hsingle]
    exact extract_eq_filterMap classes hclosed hbalanced xs
  · intro x _ r hr
    rw [extract_text classes hclosed hbalanced x] at hr
    exact of_mem_forOwner classes _ hr

end Blocks

/-- Of the three selectors the second one is for any element, and the third one has a comma and a brace
in a string and a comma in brackets. -/
theorem extract_listText_brackets :
    let text := "content:\"\x7d\"".toList
    let xs : List ContentSelector := [
      ⟨"li".toList, .before, by decide +kernel, ⟨by decide +kernel, by decide +kernel⟩,
        by decide +kernel, by decide⟩,
      ⟨"*:hover ".toList, .after, by decide +kernel, ⟨by decide +kernel, by decide +kernel⟩,
        by decide +kernel, by decide⟩,
      ⟨"a[t=\",\x7b\"]:is(b, c)".toList, .before, by decide +kernel,
        ⟨by decide +kernel, by decide +kernel⟩, by decide +kernel, by decide⟩]
    EndsClosed text ∧ Balanced (lex text) ∧
      listText xs = "li::before, *:hover ::after, a[t=\",\x7b\"]:is(b, c)::before".toList ∧
      (extract [] (blockText (listText xs) text)).map Rule.selector =
        ["li, a[t=\",\x7b\"]:is(b, c)".toList] ∧
      ∀ x ∈ xs, ∀ r ∈ extract [] (blockText x.text text), r.placement = x.placement ∧
        r.content = (RuleBody.read text).content ∧ r.style = (RuleBody.read text).style := by
  intro text xs
  have hclosed : EndsClosed text := by decide +kernel
  have hbalanced : Balanced (lex text) := by
    show nesting? 0 (lex text) = some 0
    decide +kernel
  have hlist := extract_listText [] hclosed hbalanced xs
  refine ⟨hclosed, hbalanced, by decide +kernel, ?_, hlist.2⟩
  rw [hlist.1]
  decide +kernel

end Rule

end GeneratedContent

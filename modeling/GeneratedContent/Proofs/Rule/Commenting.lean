import GeneratedContent.Proofs.Css.Commenting
import GeneratedContent.Rule.Basic

/-!
# Rules and comments

The rules for generated content are found in what the blocks of a stylesheet show when comments are
left out. So a comment that is put into the stylesheet, wherever no comment and no string is cut
through or left open before it, makes no difference to them (`Rule.extract_commentedAt`). Behind
a comment that is left open it may make one, since it ends that comment
(`Rule.not_extract_commentedAt`).
-/

namespace GeneratedContent

open Css

/-- A declaration list is read without its comments. -/
theorem RuleBody.read_congr {s t : Text} (h : withoutComments s = withoutComments t) :
    RuleBody.read s = RuleBody.read t := by
  rw [RuleBody.read, RuleBody.read, Declaration.read, Declaration.read, h]

namespace Rule

/-- The rules of a block hang on what it shows alone. -/
theorem ofBlock_congr (classes : List Text) {a b : Block} (h : a.shown = b.shown) :
    ofBlock classes a (OwnerGroup.ofPrelude a.prelude) =
      ofBlock classes b (OwnerGroup.ofPrelude b.prelude) := by
  rcases Prod.mk.inj h with ⟨hprelude, hbody⟩
  rw [ofBlock, ofBlock, RuleBody.read_congr hbody, hprelude]

/-- The rules of a stylesheet are those of its blocks; blocks without owners have none. -/
theorem extract_eq_flatMap (classes : List Text) (css : Text) :
    extract classes css =
      (blocks css).flatMap fun b => ofBlock classes b (OwnerGroup.ofPrelude b.prelude) := by
  rw [extract, pseudoBlocks]
  induction blocks css with
  | nil => rfl
  | cons b bs ih =>
    rw [List.map_cons, List.filter_cons, List.flatMap_cons, ← ih]
    split
    · rfl
    · rename_i hgroups
      have hnone : OwnerGroup.ofPrelude b.prelude = [] := by simpa using hgroups
      rw [hnone]
      rfl

/-- Stylesheets whose blocks show the same have the same rules. -/
theorem extract_congr (classes : List Text) {s t : Text}
    (h : (blocks s).map Block.shown = (blocks t).map Block.shown) :
    extract classes s = extract classes t := by
  rw [extract_eq_flatMap, extract_eq_flatMap]
  generalize blocks s = as at h
  generalize blocks t = bs at h
  induction as generalizing bs with
  | nil =>
    obtain rfl : bs = [] := by simpa using h.symm
    rfl
  | cons a as ih =>
    rcases List.map_eq_cons_iff.1 h.symm with ⟨b, bs', rfl, hb, hbs⟩
    rw [List.flatMap_cons, List.flatMap_cons, ofBlock_congr classes hb.symm, ih bs' hbs.symm]

/-- A comment that is put into a stylesheet makes no difference to its rules, at every offset that lies
in no comment and no string and does not come right behind one that is left open. -/
theorem extract_commentedAt (classes : List Text) {css t : Text} {i : Nat} (hseam : IsSeam css i)
    (hclosed : ∀ e ∈ placed 0 (lex css), e.1 + e.2.text.length = i → e.2.isClosed = true)
    (ht : InComment t) : extract classes (commentedAt css i t) = extract classes css :=
  extract_congr classes (map_shown_commentedAt hseam hclosed ht)

/-- A comment full of structure in the middle of the word that asks for content. -/
theorem extract_commentedAt_middle :
    let css := "@media x\x7bp::before\x7bcontent:\"/*\x7b\"\x7d\x7d".toList
    let t := "\x7d;b::after\x7b\"".toList
    IsSeam css 14 ∧
      (∀ e ∈ placed 0 (lex css), e.1 + e.2.text.length = 14 → e.2.isClosed = true) ∧
      InComment t ∧
      commentedAt css 14 t =
        "@media x\x7bp::be/*\x7d;b::after\x7b\"*/fore\x7bcontent:\"/*\x7b\"\x7d\x7d".toList ∧
      (extract [] css).length = 1 ∧ extract [] (commentedAt css 14 t) = extract [] css := by
  intro css t
  have hseam : IsSeam css 14 := by decide +kernel
  have hclosed : ∀ e ∈ placed 0 (lex css), e.1 + e.2.text.length = 14 → e.2.isClosed = true := by
    decide +kernel
  have ht : InComment t := inComment_of_notMem (by decide)
  exact ⟨hseam, hclosed, ht, by decide +kernel, by decide +kernel,
    extract_commentedAt [] hseam hclosed ht⟩

/-- Right behind a comment that is left open, one that is put in ends the open one, and text that was
meant to stand in it is read. -/
theorem not_extract_commentedAt :
    ¬ ∀ (classes : List Text) (css : Text) (i : Nat) (t : Text), IsSeam css i →
      (∀ e ∈ placed 0 (lex css), e.2.isString = true → e.1 + e.2.text.length = i →
        e.2.isClosed = true) →
      InComment t → extract classes (commentedAt css i t) = extract classes css := by
  intro h
  let t := "/p::before\x7b\x7d".toList
  have hseam : IsSeam "/*".toList 2 := by decide +kernel
  have hstrings : ∀ e ∈ placed 0 (lex "/*".toList), e.2.isString = true →
      e.1 + e.2.text.length = 2 → e.2.isClosed = true := by
    decide +kernel
  have ht : InComment t := inComment_of_notMem (by decide)
  have hsame := congrArg List.length (h [] _ 2 t hseam hstrings ht)
  exact absurd hsame (by decide +kernel)

end Rule

end GeneratedContent

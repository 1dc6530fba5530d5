import GeneratedContent.Proofs.Rule.Descendant
import GeneratedContent.Proofs.Rule.Remainder
import GeneratedContent.Proofs.Text.Backslash

/-!
# Names behind an escaped colon

A colon behind a backslash is part of a name, so a selector that ends in such a colon and the name of a
pseudo-element asks for nothing. It is read as if it did: what stands in front of the colon, the
backslash with it, is an owner, and a block whose prelude ends so has rules and is cut out of the
stylesheet (`Rule.extract_escapedColon`).
-/

namespace GeneratedContent

open Css

/-! ## The letters of the names -/

/-- No blank and no comma is a letter of a name. -/
theorem Placement.any_sameLetter_name {c : Char} (hc : isBlank c = true ∨ c = ',') (k : Placement) :
    k.name.any (sameLetter · c) = false := by
  rcases hc with hblank | rfl
  · cases k
    · exact forall_blank (P := fun c => Placement.before.name.any (sameLetter · c) = false)
        (by decide +kernel) hblank
    · exact forall_blank (P := fun c => Placement.after.name.any (sameLetter · c) = false)
        (by decide +kernel) hblank
  · cases k <;> decide +kernel

section Suffix

variable {front name : Text} {k : Placement} (hname : Text.sameCaseless k.name name = true)

include hname

/-- There is no blank and no comma in a name. -/
theorem of_mem_name {c : Char} (hc : c ∈ name) : isBlank c = false ∧ c ≠ ',' := by
  have hsame : k.name.any (sameLetter · c) = true := by
    rw [Text.sameCaseless, beq_iff_eq] at hname
    rcases Text.exists_of_afterCaseless? hname with ⟨taken, rfl, htaken⟩
    exact htaken c (by simpa using hc)
  constructor
  · rw [Bool.eq_false_iff]
    intro hblank
    rw [k.any_sameLetter_name (Or.inl hblank)] at hsame
    exact absurd hsame (by decide)
  · intro hcomma
    rw [k.any_sameLetter_name (Or.inr hcomma)] at hsame
    exact absurd hsame (by decide)

/-- An escaped colon and a name are taken for a pseudo-element, and what stands in front of the colon for
its owner. -/
theorem OwnerGroup.cutPseudo?_escapedColon (hescaped : Text.leavesEscape front = true) :
    cutPseudo? (front ++ ':' :: name) = some (Text.trim front, k) := by
  rcases Text.exists_of_leavesEscape hescaped with ⟨t, rfl, -⟩
  have hreverse : Text.trimLeft (t ++ ['\\'] ++ ':' :: name).reverse =
      name.reverse ++ ':' :: '\\' :: t.reverse := by
    have hhead : ∀ c ∈ (name.reverse ++ ':' :: '\\' :: t.reverse).head?, isBlank c = false := by
      intro c hc
      rw [List.head?_append, Option.mem_def] at hc
      cases hfirst : name.reverse.head? with
      | none =>
        rw [hfirst] at hc
        exact Option.some.inj hc ▸ rfl
      | some d =>
        rw [hfirst] at hc
        obtain rfl := Option.some.inj hc
        exact (of_mem_name hname (List.mem_reverse.1 (List.mem_of_head? hfirst))).1
    rw [← Text.trimLeft_of_head hhead]
    simp
  have hafter := Text.afterCaseless?_reverse hname (':' :: '\\' :: t.reverse)
  rw [← hreverse] at hafter
  have howner : dropColons? (':' :: '\\' :: t.reverse) = some ('\\' :: t.reverse) := rfl
  rw [cutPseudo?_eq_some hafter howner]
  simp

/-- The last selector of a list that ends in an escaped colon and a name ends in them as well. -/
theorem exists_splitTopLevel_escapedColon (hescaped : Text.leavesEscape front = true) :
    ∃ others last, splitTopLevel ',' (front ++ ':' :: name) = others ++ [last ++ ':' :: name] ∧
      Text.leavesEscape last = true := by
  have hjoin : List.intercalate [','] (splitTopLevel ',' (front ++ ':' :: name)) = front ++ ':' :: name :=
    intercalate_splitTopLevel _ _
  rcases exists_splitTopLevel_eq ',' (front ++ ':' :: name) with ⟨others, piece, hpieces⟩
  rw [hpieces] at hjoin ⊢
  by_cases hothers : others = []
  · subst hothers
    rw [List.nil_append, List.intercalate_singleton] at hjoin
    exact ⟨[], front, by rw [hjoin], hescaped⟩
  · rw [Text.intercalate_concat _ hothers, List.append_assoc, List.singleton_append,
      List.append_eq_append_iff] at hjoin
    rcases hjoin with ⟨u, hfront, hsuffix⟩ | ⟨u, -, hsuffix⟩
    · -- the comma stands in the text, and what is behind it leaves the escape
      cases u with
      | nil => exact absurd (List.cons.inj hsuffix).1 (by decide)
      | cons c last =>
        obtain ⟨rfl, rfl⟩ := List.cons.inj hsuffix
        refine ⟨others, last, rfl, ?_⟩
        have hcomma : Text.leavesEscape (List.intercalate [','] others ++ [',']) = false := by
          simp [Text.leavesEscape]
        rw [hfront, List.append_cons, Text.leavesEscape_append hcomma] at hescaped
        exact hescaped
    · -- the comma does not stand in the suffix
      cases u with
      | nil => exact absurd (List.cons.inj hsuffix).1 (by decide)
      | cons c u =>
        have hmem : ',' ∈ name := by
          rw [(List.cons.inj hsuffix).2]
          simp
        exact absurd rfl (of_mem_name hname hmem).2

/-- The owners of a prelude that ends in an escaped colon and a name. -/
theorem OwnerGroup.ofPrelude_escapedColon {prelude : Text}
    (hprelude : Text.trim (withoutComments prelude) = front ++ ':' :: name) {others : List Text}
    {last : Text} (hpieces : splitTopLevel ',' (front ++ ':' :: name) = others ++ [last ++ ':' :: name])
    (hescaped : Text.leavesEscape front = true) (hlast : Text.leavesEscape last = true) :
    ofPrelude prelude = group (others.filterMap cutPseudo? ++ [(Text.trim last, k)]) := by
  unfold ofPrelude
  simp only [hprelude, cutPseudo?_escapedColon hname hescaped]
  rw [hpieces, List.filterMap_append,
    List.filterMap_cons_some (cutPseudo?_escapedColon hname hlast)]
  rfl

end Suffix

/-! ## What becomes of the block -/

theorem OwnerGroup.group_ne_nil {owners : List (Text × Placement)} (h : owners ≠ []) :
    group owners ≠ [] := by
  rcases List.exists_cons_of_ne_nil h with ⟨x, owners, rfl⟩
  rw [group, List.map_cons, List.eraseDups_cons]
  simp

namespace Rule

variable (classes : List Text)

/-- An owner that is passed over makes no difference to the rules. -/
theorem ofOwners_concat_of_targets {owner : Text} (h : Owner.targets classes [owner] = [])
    (body : RuleBody) (owners : List (Text × Placement)) (k : Placement) :
    ofOwners classes body (owners ++ [(owner, k)]) = ofOwners classes body owners := by
  have hsame : ∀ j, targetsFor classes (owners ++ [(owner, k)]) j = targetsFor classes owners j := by
    intro j
    rw [targetsFor_concat, h, ite_self, List.append_nil]
  unfold ofOwners
  simp only [hsame, List.map_append, List.map_singleton]
  rw [List.eraseDups_append, List.filterMap_append]
  by_cases hk : k ∈ owners.map Prod.snd
  · have hremoved : [k].removeAll (owners.map Prod.snd) = [] := by
      simpa [List.removeAll] using hk
    rw [hremoved, List.eraseDups_nil, List.filterMap_nil, List.append_nil]
  · -- no other owner is for the placement, so there are no targets for it
    have hremoved : [k].removeAll (owners.map Prod.snd) = [k] := by
      simpa [List.removeAll] using hk
    have htargets : targetsFor classes owners k = [] := by
      have hfilter : owners.filter (·.2 = k) = [] := by
        rw [List.filter_eq_nil_iff]
        intro x hx
        have hne : x.2 ≠ k := fun h => hk (h ▸ List.mem_map_of_mem hx)
        simpa using hne
      rw [targetsFor, hfilter]
      rfl
    rw [hremoved, List.eraseDups_cons, List.filter_nil, List.eraseDups_nil]
    simp [stating?, htargets]

/-- An owner makes no difference to the rules just when nothing is left of it when it is cleaned, or it is
for any element. -/
theorem ofOwners_concat_eq_self_iff (body : RuleBody) (owners : List (Text × Placement)) (owner : Text)
    (k : Placement) :
    ofOwners classes body (owners ++ [(owner, k)]) = ofOwners classes body owners ↔
      Owner.clean classes owner = [] ∨ Owner.isUniversal (Owner.clean classes owner) = true := by
  have hempty : Owner.targets classes [[]] = [] := by
    rw [Owner.targets_singleton_eq_nil_iff, Owner.clean, Owner.dropContainers_nil]
    exact Or.inl rfl
  rw [← ofOwners_concat_of_targets classes hempty body owners k,
    ofOwners_concat_eq_iff classes body hempty, Owner.targets_singleton_eq_nil_iff]

/-- A block whose prelude ends in an escaped colon and the name of a pseudo-element is read as a block for
this pseudo-element. What stands in front of the colon in the last selector, which ends in the backslash,
is one of its owners, behind those of the other selectors. The rules of the block, which are among those of
the stylesheet, are those of the other owners alone just when nothing is left of this one when it is
cleaned, or it is for any element. In any case the block is cut out of the stylesheet. -/
theorem extract_escapedColon {css front name : Text} {b : Block} {k : Placement} (hb : b ∈ blocks css)
    (hprelude : Text.trim (withoutComments b.prelude) = front ++ ':' :: name)
    (hname : Text.sameCaseless k.name name = true) (hescaped : Text.leavesEscape front = true) :
    ∃ (others : List Text) (last : Text),
      splitTopLevel ',' (front ++ ':' :: name) = others ++ [last ++ ':' :: name] ∧
      Text.leavesEscape last = true ∧
      let owners := others.filterMap OwnerGroup.cutPseudo?
      let body := RuleBody.read b.body
      OwnerGroup.ofPrelude b.prelude = OwnerGroup.group (owners ++ [(Text.trim last, k)]) ∧
      ofOwners classes body (owners ++ [(Text.trim last, k)]) <:+: extract classes css ∧
      (ofOwners classes body (owners ++ [(Text.trim last, k)]) = ofOwners classes body owners ↔
        Owner.clean classes (Text.trim last) = [] ∨
          Owner.isUniversal (Owner.clean classes (Text.trim last)) = true) ∧
      b.span ∈ (pseudoBlocks css).map (fun p => p.1.span) ∧
      withoutPseudoBlocks css = outside 0 ((pseudoBlocks css).map fun p => p.1.span) css := by
  rcases exists_splitTopLevel_escapedColon hname hescaped with ⟨others, last, hpieces, hlast⟩
  have hgroups := OwnerGroup.ofPrelude_escapedColon hname hprelude hpieces hescaped hlast
  refine ⟨others, last, hpieces, hlast, hgroups, ?_, ofOwners_concat_eq_self_iff classes _ _ _ k, ?_,
    withoutPseudoBlocks_eq_outside css⟩
  · rcases List.append_of_mem hb with ⟨front, behind, hblocks⟩
    rw [extract_eq_flatMap, hblocks, List.flatMap_append, List.flatMap_cons, hgroups, ofBlock_group_eq]
    exact ⟨_, _, List.append_assoc _ _ _⟩
  · have hne := OwnerGroup.group_ne_nil (List.concat_ne_nil (Text.trim last, k)
      (others.filterMap OwnerGroup.cutPseudo?))
    rw [← hgroups] at hne
    have hmem : (b, OwnerGroup.ofPrelude b.prelude) ∈ pseudoBlocks css := by
      rw [pseudoBlocks, List.mem_filter]
      exact ⟨List.mem_map_of_mem hb, by simpa using hne⟩
    exact List.mem_map.2 ⟨_, hmem, rfl⟩

/-- The class of a block in a stylesheet has a colon in its name. Nothing is left of the stylesheet. -/
theorem extract_escapedColon_class :
    let css := ".md\\:before\x7bcolor:red\x7d".toList
    let b : Block := ⟨".md\\:before".toList, "color:red".toList, 0, 22⟩
    blocks css = [b] ∧
      OwnerGroup.ofPrelude b.prelude = [⟨.before, [".md\\".toList]⟩] ∧
      (extract [] css).map Rule.selector = [".md\\".toList] ∧
      withoutPseudoBlocks css = [] := by
  intro css b
  have hblocks : blocks css = [b] := by decide +kernel
  have hb : b ∈ blocks css := hblocks ▸ List.mem_singleton_self b
  have hprelude : Text.trim (withoutComments b.prelude) =
      ".md\\".toList ++ ':' :: "before".toList := by decide +kernel
  have hname : Text.sameCaseless Placement.before.name "before".toList = true := by decide +kernel
  rcases extract_escapedColon [] hb hprelude hname (by decide) with
    ⟨others, last, hpieces, -, hgroups, -, -, -, hcut⟩
  have hone : splitTopLevel ',' (".md\\".toList ++ ':' :: "before".toList) =
      [] ++ [".md\\".toList ++ ':' :: "before".toList] := by decide +kernel
  rcases List.append_inj' (hone.symm.trans hpieces) rfl with ⟨rfl, hpiece⟩
  obtain rfl := List.append_cancel_right (List.singleton_inj.1 hpiece)
  refine ⟨hblocks, hgroups, by decide +kernel, ?_⟩
  rw [hcut]
  decide +kernel

end Rule

end GeneratedContent

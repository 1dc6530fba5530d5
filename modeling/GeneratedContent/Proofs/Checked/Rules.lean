import GeneratedContent.Proofs.Checked.Stylesheet
import GeneratedContent.Proofs.Checked.Value
import GeneratedContent.Proofs.Text.Caseless
import GeneratedContent.Rule.Remainder

/-!
# Reading the rules of a stylesheet, with every operation checked

The rules for generated content, and the rest of the stylesheet without them, are read here from the first
position to the last with every operation checked: each access and step of the loops, each brace that has to
be closed, each character that is made of a number, each name that has to be one of a pseudo-element and
each first item. None fails for any stylesheet and any container classes, and what comes out are the rules
and the rest.
-/

namespace GeneratedContent

namespace Checked

/-! ## Declarations -/

/-- The declarations of a declaration list. -/
def declarations (list : Text) : Checked (List Declaration) := do
  let stripped ← strip list 0
  let written ← pieces ';' stripped 0 0 0
  return written.filterMap Declaration.ofPiece?

/-- Takes in one more declaration. -/
def apply (body : RuleBody) (d : Declaration) : Checked RuleBody :=
  let written := Text.trim d.value
  if written = [] then return body
  else if d.property = "content".toList then do
    let content ← value written
    return { body with content }
  else
    let kept := Declaration.normalizeValue written
    return if kept = [] then body else { body with style := body.style.insert d.property kept }

/-- What a declaration list states. -/
def body (list : Text) : Checked RuleBody := do
  let ds ← declarations list
  ds.foldlM apply {}

/-! ## Owners -/

/-- The owner of a selector that ends in a pseudo-element, and the name of that as it is written. -/
def cutName? (selector : Text) : Option (Text × Text) :=
  let reversed := Text.trimLeft selector.reverse
  [Placement.before, Placement.after].findSome? fun p =>
    match Text.afterCaseless? p.name.reverse reversed with
    | some rest =>
      (OwnerGroup.dropColons? rest).map fun owner =>
        (Text.trim owner.reverse, (reversed.take p.name.length).reverse)
    | none => none

/-- The placement with a name, in letters of any case. -/
def placement (name : Text) : Checked Placement :=
  match Placement.read (Text.lower name) with
  | .ok p => .ok p
  | .error e => .error (.unknownName e)

/-- The owner and the placement of a selector that ends in a pseudo-element. -/
def cutPseudo? (selector : Text) : Checked (Option (Text × Placement)) :=
  match cutName? selector with
  | none => return none
  | some (owner, name) => do
    let p ← placement name
    return some (owner, p)

/-- The owner groups of a prelude. -/
def ownerGroups (prelude : Text) : Checked (List OwnerGroup) := do
  let stripped ← strip prelude 0
  let kept := Text.trim stripped
  if (cutName? kept).isNone then return []
  else do
    let selectors ← pieces ',' kept 0 0 0
    let owners ← selectors.mapM cutPseudo?
    return OwnerGroup.group (owners.filterMap id)

/-! ## Rules -/

/-- A block with the owner groups of its prelude. -/
def grouped (b : Css.Block) : Checked (Css.Block × List OwnerGroup) := do
  let groups ← ownerGroups b.prelude
  return (b, groups)

/-- The blocks of a stylesheet that ask for pseudo-elements, with their owner groups. -/
def pseudoBlocks (css : Text) : Checked (List (Css.Block × List OwnerGroup)) := do
  let bs ← blocks css
  let found ← bs.mapM grouped
  return found.filter fun p => !p.2.isEmpty

/-- The rules of one block. -/
def ofBlock (classes : List Text) (b : Css.Block) (groups : List OwnerGroup) :
    Checked (List Rule) := do
  let stated ← body b.body
  return groups.filterMap fun g =>
    let selectors := Owner.targets classes g.owners
    if selectors = [] then none
    else some ⟨List.intercalate ", ".toList selectors, g.placement, stated.content, stated.style⟩

/-- The rules for generated content in a stylesheet. -/
def extract (classes : List Text) (css : Text) : Checked (List Rule) := do
  let found ← pseudoBlocks css
  let rules ← found.mapM fun p => ofBlock classes p.1 p.2
  return rules.flatten

/-- A stylesheet without the blocks that ask for pseudo-elements. -/
def withoutPseudoBlocks (css : Text) : Checked Text := do
  let found ← pseudoBlocks css
  return cutSpans 0 (found.map fun p => (p.1.start, p.1.stop)) css

/-! ## None of them fails -/

theorem declarations_eq (list : Text) : declarations list = .ok (Declaration.read list) := by
  rw [declarations, strip_eq, ok_bind, pieces_eq, ok_bind]
  rfl

theorem apply_eq (b : RuleBody) (d : Declaration) : apply b d = .ok (b.apply d) := by
  unfold apply RuleBody.apply
  simp only
  split
  · rfl
  · split
    · rw [value_eq, ok_bind]
      rfl
    · rfl

theorem foldlM_apply_eq (ds : List Declaration) (b : RuleBody) :
    ds.foldlM apply b = .ok (ds.foldl RuleBody.apply b) := by
  induction ds generalizing b with
  | nil => rfl
  | cons d ds ih => rw [List.foldlM_cons, apply_eq, ok_bind, ih, List.foldl_cons]

theorem body_eq (list : Text) : body list = .ok (RuleBody.read list) := by
  rw [body, declarations_eq, ok_bind, foldlM_apply_eq]
  rfl

theorem isPlainLetter_of_mem_name {p : Placement} {l : Char} (hl : l ∈ p.name) : IsPlainLetter l := by
  have hletters : (p.name.all fun l => lowerChar l == l && letterForms.all (!·.contains l)) = true := by
    cases p with
    | before => decide +kernel
    | after => decide +kernel
  simpa [IsPlainLetter] using List.all_eq_true.1 hletters l hl

/-- What is taken for the name of a placement is its name in letters of any case. -/
theorem placement_eq {p : Placement} {name : Text}
    (h : List.Forall₂ (fun l c => sameLetter l c = true) p.name name) :
    placement name = .ok p := by
  have hlower : Text.lower name = p.name :=
    Text.lower_eq_of_sameLetter (fun _ hl => isPlainLetter_of_mem_name hl) h
  rw [placement, hlower, Placement.read, Placement.ofName?_name]

/-- Where a pseudo-element is found, its name is that of its placement. -/
theorem cutName?_cases (selector : Text) :
    (cutName? selector = none ∧ OwnerGroup.cutPseudo? selector = none) ∨
      ∃ owner name p, cutName? selector = some (owner, name) ∧
        OwnerGroup.cutPseudo? selector = some (owner, p) ∧ placement name = .ok p := by
  unfold cutName? OwnerGroup.cutPseudo?
  simp only
  generalize Text.trimLeft selector.reverse = reversed
  induction [Placement.before, Placement.after] with
  | nil => exact Or.inl ⟨rfl, rfl⟩
  | cons p ps ih =>
    rw [List.findSome?_cons, List.findSome?_cons]
    cases hafter : Text.afterCaseless? p.name.reverse reversed with
    | none => exact ih
    | some rest =>
      cases howner : OwnerGroup.dropColons? rest with
      | none => simpa [howner] using ih
      | some owner =>
        obtain ⟨taken, htaken, rfl⟩ := Text.afterCaseless?_eq_some.1 hafter
        have hlength : taken.length = p.name.length := by
          rw [← htaken.length_eq, List.length_reverse]
        refine Or.inr ⟨Text.trim owner.reverse, taken.reverse, p, ?_, ?_, ?_⟩
        · simp [howner, ← hlength]
        · simp [howner]
        · refine placement_eq ?_
          have hreverse := List.forall₂_reverse_iff.2 htaken
          rwa [List.reverse_reverse] at hreverse

theorem cutPseudo?_eq (selector : Text) :
    cutPseudo? selector = .ok (OwnerGroup.cutPseudo? selector) := by
  obtain ⟨hname, hcut⟩ | ⟨owner, name, p, hname, hcut, hplacement⟩ := cutName?_cases selector
  · rw [cutPseudo?, hname, hcut]
    rfl
  · rw [cutPseudo?, hname, hcut]
    simp only [hplacement, ok_bind]
    rfl

theorem isNone_cutName? (selector : Text) :
    (cutName? selector).isNone = (OwnerGroup.cutPseudo? selector).isNone := by
  obtain ⟨hname, hcut⟩ | ⟨owner, name, p, hname, hcut, -⟩ := cutName?_cases selector
  · rw [hname, hcut]
    rfl
  · rw [hname, hcut]
    rfl

theorem ownerGroups_eq (prelude : Text) :
    ownerGroups prelude = .ok (OwnerGroup.ofPrelude prelude) := by
  unfold ownerGroups OwnerGroup.ofPrelude
  rw [strip_eq, ok_bind]
  simp only [isNone_cutName?]
  split
  · rfl
  · rw [pieces_eq, ok_bind, mapM_eq cutPseudo?_eq, ok_bind, List.filterMap_map]
    rfl

theorem pseudoBlocks_eq (css : Text) :
    pseudoBlocks css = .ok (GeneratedContent.pseudoBlocks css) := by
  have hgrouped : ∀ b, grouped b = .ok (b, OwnerGroup.ofPrelude b.prelude) := by
    intro b
    rw [grouped, ownerGroups_eq, ok_bind]
    rfl
  rw [pseudoBlocks, blocks_eq, ok_bind, mapM_eq hgrouped, ok_bind]
  rfl

theorem ofBlock_eq (classes : List Text) (b : Css.Block) (groups : List OwnerGroup) :
    ofBlock classes b groups = .ok (Rule.ofBlock classes b groups) := by
  rw [ofBlock, body_eq, ok_bind]
  rfl

/-- Reading the rules and the rest of a stylesheet does not fail, and finds the rules and the rest. -/
theorem extract_withoutPseudoBlocks_ok (classes : List Text) (css : Text) :
    extract classes css = .ok (Rule.extract classes css) ∧
      withoutPseudoBlocks css = .ok (GeneratedContent.withoutPseudoBlocks css) := by
  constructor
  · have hrules : ∀ p : Css.Block × List OwnerGroup,
        ofBlock classes p.1 p.2 = .ok (Rule.ofBlock classes p.1 p.2) := by
      intro p
      exact ofBlock_eq classes p.1 p.2
    rw [extract, pseudoBlocks_eq, ok_bind, mapM_eq hrules, ok_bind]
    rfl
  · rw [withoutPseudoBlocks, pseudoBlocks_eq, ok_bind]
    rfl

end Checked

end GeneratedContent

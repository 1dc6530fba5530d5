import GeneratedContent.Proofs.Html.Quoting
import GeneratedContent.Proofs.Text.Blank
import GeneratedContent.Proofs.Text.Caseless

/-!
# Tags that are written

A tag or an aside that is written is read as what it was written for, whatever stands behind it.
-/

namespace GeneratedContent.Html

open Event

/-! ## Attributes -/

/-- Whether an attribute of this name can be read in a page. -/
structure AttributeName (name : Text) : Prop where
  /-- There is a name. -/
  ne_nil : name ≠ []
  /-- Nothing in the name ends it. -/
  parts : ∀ c ∈ name, isAttributePart c = true
  /-- It is in lower case, in which names are read. -/
  lower : Text.lower name = name

instance (name : Text) : Decidable (AttributeName name) :=
  decidable_of_iff (name ≠ [] ∧ name.all isAttributePart = true ∧ Text.lower name = name)
    ⟨fun ⟨h₁, h₂, h₃⟩ => ⟨h₁, List.all_eq_true.1 h₂, h₃⟩,
      fun ⟨h₁, h₂, h₃⟩ => ⟨h₁, List.all_eq_true.2 h₂, h₃⟩⟩

/-- What ends a start tag: a bracket, or a slash and a bracket. -/
def tagEnd (closed : Bool) : Text := if closed then ['/', '>'] else ['>']

theorem isAttributePart_iff {c : Char} : isAttributePart c = true ↔
    isBlank c = false ∧ c ≠ '/' ∧ c ≠ '=' ∧ c ≠ '>' := by
  simp [isAttributePart, and_assoc]

theorem dropGap_of_blank {c : Char} (h : isBlank c = true) (s : Text) :
    dropGap (c :: s) = dropGap s := by
  rw [dropGap.eq_def]
  split
  case _ heq => cases heq
  case _ heq =>
    cases heq
    exact absurd h (by decide)
  case _ heq =>
    cases heq
    rw [if_pos (by rw [h, Bool.true_or])]

theorem dropGap_of_not {c : Char} (h : isBlank c = false) (hc : c ≠ '/') (s : Text) :
    dropGap (c :: s) = c :: s := by
  rw [dropGap.eq_def]
  split
  case _ heq => cases heq
  case _ heq =>
    cases heq
    exact absurd rfl hc
  case _ heq =>
    cases heq
    rw [if_neg (by simp [h, hc])]

theorem dropGap_tagEnd (closed : Bool) (rest : Text) :
    dropGap (tagEnd closed ++ rest) = tagEnd closed ++ rest := by
  cases closed with
  | false => exact dropGap_of_not (by decide) (by decide) rest
  | true => rw [dropGap.eq_def]; rfl

/-- One attribute is read up to the quote behind its value. -/
theorem exists_cutAttribute? {e : Text × Text} (h : AttributeName e.1) (rest : Text) :
    ∃ q, cutAttribute? ' ' (e.1 ++ '=' :: (quotedValue e.2 ++ rest)) = some (e, q, rest) := by
  obtain ⟨name, value⟩ := e
  obtain ⟨q, written, -, hvalue, hcut⟩ := cutValue?_quotedValue value rest
  cases name with
  | nil => exact absurd rfl h.ne_nil
  | cons c name =>
    have hc := isAttributePart_iff.mp (h.parts c List.mem_cons_self)
    have hname : ∀ d ∈ name, isAttributePart d = true := fun d hd =>
      h.parts d (List.mem_cons_of_mem c hd)
    have hstop : isAttributePart '=' = false := by decide
    have hlead : isAttributeLead ' ' = true := by decide
    have htake : (name ++ '=' :: (quotedValue value ++ rest)).takeWhile isAttributePart = name := by
      rw [List.takeWhile_append_of_pos hname, List.takeWhile_cons_of_neg (by simp [hstop]),
        List.append_nil]
    have hdrop : (name ++ '=' :: (quotedValue value ++ rest)).dropWhile isAttributePart
        = '=' :: (quotedValue value ++ rest) := by
      rw [List.dropWhile_append_of_pos hname, List.dropWhile_cons_of_neg (by simp [hstop])]
    refine ⟨q, ?_⟩
    simp [cutAttribute?, hlead, hc.1, hc.2.1, hc.2.2.2, htake, hdrop, hcut, hvalue, h.lower]

theorem dropGap_attributeText {e : Text × Text} (h : AttributeName e.1) (rest : Text) :
    dropGap (attributeText e ++ rest) = e.1 ++ '=' :: (quotedValue e.2 ++ rest) := by
  obtain ⟨name, value⟩ := e
  cases name with
  | nil => exact absurd rfl h.ne_nil
  | cons c name =>
    have hc := isAttributePart_iff.mp (h.parts c List.mem_cons_self)
    simp only [attributeText, List.cons_append, List.append_assoc]
    rw [dropGap_of_blank (by decide), dropGap_of_not hc.1 hc.2.1]

/-- The attributes of a start tag are read up to its end. -/
theorem cutAttributes_attributeTexts {es : List (Text × Text)} (h : ∀ e ∈ es, AttributeName e.1)
    (closed : Bool) (rest : Text) (before : Char) :
    cutAttributes before (es.flatMap attributeText ++ (tagEnd closed ++ rest))
      = (es, tagEnd closed ++ rest) := by
  induction es generalizing before with
  | nil =>
    rw [List.flatMap_nil, List.nil_append]
    unfold cutAttributes
    simp only [dropGap_tagEnd]
    cases closed <;> simp [tagEnd, cutAttribute?]
  | cons e es ih =>
    have he := h e List.mem_cons_self
    rw [List.flatMap_cons, List.append_assoc]
    -- what is left behind `e` is shorter, so that the reading goes on there
    have hread := ih (fun f hf => h f (List.mem_cons_of_mem e hf))
    generalize es.flatMap attributeText ++ (tagEnd closed ++ rest) = more at hread ⊢
    obtain ⟨q, hq⟩ := exists_cutAttribute? he more
    have hgap : (e.1 ++ '=' :: (quotedValue e.2 ++ more)).length
        < (attributeText e ++ more).length := by simp [attributeText]
    have hmore : more.length < (attributeText e ++ more).length := by
      simp only [attributeText, List.length_append, List.length_cons]
      omega
    unfold cutAttributes
    simp only [dropGap_attributeText he, if_pos hgap, hq, if_pos hmore, hread]

/-! ## Tags -/

/-- Whether an element of this name can be read in a page, in its start tag and in its end tag. -/
structure TagName (name : Text) : Prop where
  /-- The name begins with a letter. -/
  head : name.head?.any Char.isAlpha = true
  /-- Nothing in the name ends it. -/
  parts : ∀ c ∈ name, isEndNamePart c = true
  /-- It is in lower case, in which names are read. -/
  lower : Text.lower name = name

instance (name : Text) : Decidable (TagName name) :=
  decidable_of_iff (name.head?.any Char.isAlpha = true ∧ name.all isEndNamePart = true ∧
      Text.lower name = name)
    ⟨fun ⟨h₁, h₂, h₃⟩ => ⟨h₁, List.all_eq_true.1 h₂, h₃⟩,
      fun ⟨h₁, h₂, h₃⟩ => ⟨h₁, List.all_eq_true.2 h₂, h₃⟩⟩

theorem isTagNamePart_of_isEndNamePart {c : Char} (h : isEndNamePart c = true) :
    isTagNamePart c = true := by
  by_contra hnot
  simp only [isTagNamePart, Bool.not_eq_true', Bool.not_eq_false, Bool.or_eq_true,
    beq_iff_eq] at hnot
  rcases hnot with ((((((rfl | rfl) | rfl) | rfl) | rfl) | rfl) | rfl) | rfl <;> revert h <;> decide

section Tag

variable {name : Text} (h : TagName name)

include h

theorem TagName.exists_cons : ∃ c more, name = c :: more ∧ c.isAlpha = true := by
  cases name with
  | nil => exact absurd h.head (by decide)
  | cons c more => exact ⟨c, more, rfl, h.head⟩

theorem TagName.dropWhile_isBlank (rest : Text) :
    (name ++ rest).dropWhile isBlank = name ++ rest := by
  obtain ⟨c, more, rfl, halpha⟩ := h.exists_cons
  have hblank : isBlank c = false := by
    by_contra hblank
    exact absurd halpha (forall_blank (P := fun c => ¬ c.isAlpha = true) (by decide)
      (Bool.not_eq_false _ ▸ hblank))
  rw [List.cons_append, List.dropWhile_cons_of_neg (by simp [hblank])]

/-- Reading the name of a tag stops where the name ends. -/
theorem TagName.span {part : Char → Bool} (hpart : ∀ c, isEndNamePart c = true → part c = true)
    {c : Char} (hc : part c = false) (rest : Text) :
    (name ++ c :: rest).takeWhile part = name ∧ (name ++ c :: rest).dropWhile part = c :: rest := by
  have hname : ∀ d ∈ name, part d = true := fun d hd => hpart d (h.parts d hd)
  rw [List.takeWhile_append_of_pos hname, List.dropWhile_append_of_pos hname,
    List.takeWhile_cons_of_neg (by simp [hc]), List.dropWhile_cons_of_neg (by simp [hc]),
    List.append_nil]
  exact ⟨rfl, rfl⟩

/-- A start tag is read with its attributes as they are written. -/
theorem readTag_startTag {es : List (Text × Text)} (hes : ∀ e ∈ es, AttributeName e.1)
    (closed : Bool) (rest : Text) :
    readTag ('<' :: (name ++ (es.flatMap attributeText ++ (tagEnd closed ++ rest)))) =
      if !closed && isRawText name then .raw (.startTag name es false) name rest
      else .events [.startTag name es closed] rest := by
  obtain ⟨c, hc, hspan⟩ : ∃ c, isTagNamePart c = false ∧
      ∃ more, es.flatMap attributeText ++ (tagEnd closed ++ rest) = c :: more := by
    cases es with
    | nil => cases closed <;> exact ⟨_, by decide, _, rfl⟩
    | cons e es => exact ⟨' ', by decide, _, rfl⟩
  obtain ⟨more, hmore⟩ := hspan
  have hname := h.span (fun d hd => isTagNamePart_of_isEndNamePart hd) hc more
  have hcut := cutAttributes_attributeTexts hes closed rest
  obtain ⟨d, others, hd, halpha⟩ := h.exists_cons
  rw [hmore] at hcut ⊢
  have hstart : readTag ('<' :: (name ++ c :: more))
      = readStartTag ('<' :: (name ++ c :: more)) := by
    simp only [readTag, List.drop_one, List.tail_cons]
    rw [hd]
    simp [halpha]
  rw [hstart]
  simp only [readStartTag, List.drop_one, List.tail_cons, hname, hcut, h.lower]
  cases closed <;> simp [tagEnd]

/-- An end tag is read up to its bracket. -/
theorem readTag_endTag (rest : Text) :
    readTag ('<' :: '/' :: (name ++ '>' :: rest)) = .events [.endTag name] rest := by
  have hname := h.span (fun _ hd => hd) (by decide : isEndNamePart '>' = false) rest
  have hcut : Text.cutAt? '>' (name ++ '>' :: rest) = some (name, rest) :=
    Text.cutAt?_of_eq (fun hmem => absurd (h.parts _ hmem) (by decide)) rest
  have hplain : plainEndTag? (name ++ '>' :: rest) = some (name, rest) := by
    have hhead : (name ++ '>' :: rest).head?.any Char.isAlpha = true := by
      obtain ⟨c, more, rfl, halpha⟩ := h.exists_cons
      simpa using halpha
    simp only [plainEndTag?, h.dropWhile_isBlank, hhead, hname, h.lower]
    simp [isBlank]
  have hslash : ('/' : Char).isAlpha = false := by decide
  simp [readTag, readEndTag, hslash, hcut, hplain]

end Tag

/-! ## Content up to an end -/

theorem cutWhere?_eq_none_iff {ending : Text → Option Text} {s : Text} :
    cutWhere? ending s = none ↔ ∀ c t, c :: t <:+ s → ending (c :: t) = none := by
  induction s with
  | nil => simp [cutWhere?]
  | cons d s ih =>
    rw [cutWhere?]
    constructor
    · intro h c t ht
      split at h
      · cases h
      case _ hnone =>
        rcases List.suffix_cons_iff.mp ht with heq | ht
        · rw [heq, hnone]
        · exact ih.mp (Option.map_eq_none_iff.mp h) c t ht
    · intro h
      rw [h d s List.suffix_rfl]
      exact Option.map_eq_none_iff.mpr (ih.mpr fun c t ht => h c t (ht.trans (List.suffix_cons d s)))

/-- A content is cut off where its end stands, if no end is found inside it. -/
theorem cutWhere?_append {ending : Text → Option Text} {content behind rest : Text} {c : Char}
    (hinside : ∀ d t, d :: t <:+ content → ending (d :: t ++ c :: behind) = none)
    (hend : ending (c :: behind) = some rest) :
    cutWhere? ending (content ++ c :: behind) = some (content, rest) := by
  induction content with
  | nil => rw [List.nil_append, cutWhere?, hend]
  | cons d content ih =>
    have htail := ih fun e t ht => hinside e t (ht.trans (List.suffix_cons d content))
    have hhere := hinside d content List.suffix_rfl
    rw [List.cons_append] at hhere ⊢
    rw [cutWhere?, hhere, htail, Option.map_some]

/-- Nothing that begins inside a comment ends it with the hyphens of its end. -/
theorem afterCommentEnd?_append {c : Char} {t : Text} (h : afterCommentEnd? (c :: t) = none)
    (rest : Text) : afterCommentEnd? (c :: t ++ '-' :: '-' :: '>' :: rest) = none := by
  have hhyphen : isBlank '-' = false := by decide
  cases t with
  | nil =>
    by_cases hc : c = '-'
    · simp [hc, afterCommentEnd?, hhyphen]
    · simp [afterCommentEnd?, hc]
  | cons d u =>
    by_cases hcd : c = '-' ∧ d = '-'
    · obtain ⟨rfl, rfl⟩ := hcd
      simp only [afterCommentEnd?, List.cons_append] at h ⊢
      -- what follows the two hyphens and the blanks is in the comment, or it is the third hyphen
      cases hu : u.dropWhile isBlank with
      | nil =>
        rw [List.dropWhile_append_of_pos (List.dropWhile_eq_nil_iff.mp hu)]
        simp [hhyphen]
      | cons e v =>
        rw [hu] at h
        have he : e ≠ '>' := by
          rintro rfl
          exact absurd h (by simp)
        have happend : (u ++ '-' :: '-' :: '>' :: rest).dropWhile isBlank
            = e :: v ++ '-' :: '-' :: '>' :: rest := by
          rw [List.dropWhile_append, hu]
          rfl
        rw [happend]
        simp [he]
    · simp only [List.cons_append, afterCommentEnd?]
      split
      case _ heq => simp_all
      case _ => rfl

theorem readTag_comment {content : Text} (h : cutWhere? afterCommentEnd? content = none)
    (rest : Text) :
    readTag ('<' :: '!' :: '-' :: '-' :: (content ++ '-' :: '-' :: '>' :: rest))
      = .events [.aside .comment content] rest := by
  have hcut : cutWhere? afterCommentEnd? (content ++ '-' :: '-' :: '>' :: rest)
      = some (content, rest) :=
    cutWhere?_append
      (fun d t ht => afterCommentEnd?_append (cutWhere?_eq_none_iff.mp h d t ht) rest) (by rfl)
  have hmark : ('!' : Char).isAlpha = false := by decide
  simp [readTag, hmark, readDeclaration, Text.after?, hcut, readAside]

theorem readTag_instruction {content : Text} (h : '>' ∉ content) (rest : Text) :
    readTag ('<' :: '?' :: (content ++ '>' :: rest))
      = .events [.aside .instruction content] rest := by
  have hmark : ('?' : Char).isAlpha = false := by decide
  simp [readTag, hmark, Text.cutAt?_of_eq h rest, readAside]

theorem cutWhere?_endTag {name content : Text} (hname : TagName name)
    (h : ¬ ['<', '/'] <:+: content) (rest : Text) :
    cutWhere? (afterEndTag? name) (content ++ '<' :: '/' :: (name ++ '>' :: rest))
      = some (content, rest) := by
  refine cutWhere?_append (fun d t ht => ?_) ?_
  · -- no end tag begins inside the content, nor with its last character
    have hafter : Text.after? ['<', '/'] (d :: t ++ '<' :: '/' :: (name ++ '>' :: rest)) = none := by
      rw [Option.eq_none_iff_forall_ne_some]
      intro more hmore
      rw [Text.after?_eq_some, List.cons_append, List.cons_append, List.cons.injEq] at hmore
      obtain ⟨rfl, hmore⟩ := hmore
      cases t with
      | nil => exact absurd (List.cons.inj hmore).1 (by decide)
      | cons e u =>
        obtain ⟨rfl, -⟩ := List.cons.inj hmore
        exact h ((List.prefix_append ['<', '/'] u).isInfix.trans ht.isInfix)
    rw [afterEndTag?, hafter]
  · simp [afterEndTag?, Text.after?, hname.dropWhile_isBlank, Text.afterCaseless?_append, isBlank]

end GeneratedContent.Html

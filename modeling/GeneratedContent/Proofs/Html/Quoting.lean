import GeneratedContent.Html.Event
import GeneratedContent.Html.Printer
import Mathlib.Tactic.SplitIfs

/-!
# References that are written

Text and attribute values are written with references for the characters that would begin markup,
and values with references for double quotes as well. A value between its quotes is read as the value
that was written (`cutValue?_quotedValue`), whatever stands behind it.
-/

namespace GeneratedContent.Html

/-! ## The names that are written -/

/-- The characters that are written by name, with their names. -/
def writtenNames : List (Char × Text) :=
  [('&', "amp".toList), ('<', "lt".toList), ('>', "gt".toList), ('"', "quot".toList)]

/-- What text and values need to know of a name to read it. -/
structure ReadableName (c : Char) (name : Text) : Prop where
  /-- The name stands for the character alone. -/
  names : charactersNamed? name = some [c]
  /-- It begins with a letter. -/
  head : name.head?.any Char.isAlpha = true
  /-- It ends where its reference ends. -/
  parts : ∀ d ∈ name, isNamePart d = true ∧ Event.isEntityPart d = true
  /-- It is no longer than names in values may be. -/
  length : name.length < 32

instance (c : Char) (name : Text) : Decidable (ReadableName c name) :=
  decidable_of_iff (charactersNamed? name = some [c] ∧ name.head?.any Char.isAlpha = true ∧
      name.all (fun d => isNamePart d && Event.isEntityPart d) = true ∧ name.length < 32)
    ⟨fun ⟨h₁, h₂, h₃, h₄⟩ => ⟨h₁, h₂, by simpa using h₃, h₄⟩,
      fun ⟨h₁, h₂, h₃, h₄⟩ => ⟨h₁, h₂, by simpa using h₃, h₄⟩⟩

theorem readableName_of_mem : ∀ e ∈ writtenNames, ReadableName e.1 e.2 := by decide +kernel

theorem ReadableName.ne_nil {c : Char} {name : Text} (h : ReadableName c name) : name ≠ [] := by
  rintro rfl
  exact absurd h.head (by decide)

/-- A character in text is written as it is, unless it would begin or end markup. -/
theorem escapedChar_cases (c : Char) :
    (escapedChar c = [c] ∧ Event.isMark c = false) ∨
      ∃ name, ReadableName c name ∧ escapedChar c = '&' :: (name ++ [';']) := by
  unfold escapedChar
  split_ifs with hamp hlt hgt
  · exact .inr ⟨_, hamp ▸ readableName_of_mem ('&', "amp".toList) (by decide), rfl⟩
  · exact .inr ⟨_, hlt ▸ readableName_of_mem ('<', "lt".toList) (by decide), rfl⟩
  · exact .inr ⟨_, hgt ▸ readableName_of_mem ('>', "gt".toList) (by decide), rfl⟩
  · exact .inl ⟨rfl, by simp [Event.isMark, hamp, hlt]⟩

theorem notMem_escapedChar {c : Char} (h : c ≠ '"') : '"' ∉ escapedChar c := by
  intro hmem
  rcases escapedChar_cases c with ⟨hc, -⟩ | ⟨name, hname, hc⟩
  · rw [hc, List.mem_singleton] at hmem
    exact h hmem.symm
  · rw [hc, List.mem_cons, List.mem_append, List.mem_singleton] at hmem
    rcases hmem with hamp | hmem | hsemicolon
    · exact absurd hamp (by decide)
    · exact absurd (hname.parts _ hmem).2 (by decide)
    · exact absurd hsemicolon (by decide)

/-! ## References in text -/

theorem readReference_name {c : Char} {name : Text} (h : ReadableName c name) (s : Text) :
    Event.readReference false ('&' :: (name ++ ';' :: s)) = .events [.text [c]] s := by
  have hparts : ∀ d ∈ name, Event.isEntityPart d = true := fun d hd => (h.parts d hd).2
  have htake : (name ++ ';' :: s).takeWhile Event.isEntityPart = name := by
    rw [List.takeWhile_append_of_pos hparts, List.takeWhile_cons_of_neg (by decide), List.append_nil]
  have hdrop : (name ++ ';' :: s).dropWhile Event.isEntityPart = ';' :: s := by
    rw [List.dropWhile_append_of_pos hparts, List.dropWhile_cons_of_neg (by decide)]
  have hshown : namedInText name = [c] := by rw [namedInText, h.names, Option.getD_some]
  cases hname : name with
  | nil => exact absurd hname h.ne_nil
  | cons d more =>
    have hhash : d ≠ '#' := by
      rintro rfl
      exact absurd (hparts '#' (hname ▸ List.mem_cons_self)) (by decide)
    have hhead : (name ++ ';' :: s).head?.any Char.isAlpha = true := by
      have halpha := h.head
      rw [hname] at halpha ⊢
      simpa using halpha
    have hcut : Event.cutName? (name ++ ';' :: s) = some (name, s) := by
      simp only [Event.cutName?, htake, hdrop, hhead]
      simp
    rw [← hname]
    have hsome : name ++ ';' :: s = d :: (more ++ ';' :: s) := by rw [hname, List.cons_append]
    rw [hsome] at hcut ⊢
    simp [Event.readReference, hhash, hcut, hshown]

/-! ## References in values -/

theorem decodeValue_cons {c : Char} (h : c ≠ '&') (s : Text) :
    decodeValue (c :: s) = c :: decodeValue s := by
  rw [decodeValue, if_neg h]

/-- A name between an ampersand and a semicolon is read to its end. -/
theorem decodeValue_named {c : Char} {name : Text} (h : ReadableName c name) (s : Text) :
    decodeValue ('&' :: (name ++ ';' :: s)) = c :: decodeValue s := by
  have hparts : ∀ d ∈ name, isNamePart d = true := fun d hd => (h.parts d hd).1
  have htake : ((name ++ ';' :: s).take 32).takeWhile isNamePart = name := by
    have hlength := h.length
    obtain ⟨n, hn⟩ : ∃ n, 32 = name.length + (n + 1) := ⟨31 - name.length, by omega⟩
    rw [hn, List.take_length_add_append, List.take_succ_cons,
      List.takeWhile_append_of_pos hparts, List.takeWhile_cons_of_neg (by decide), List.append_nil]
  have hcut : cutReference? (name ++ ';' :: s) = some (namedInValue name true, s) := by
    rw [cutReference?]
    · simp only [htake, if_neg h.ne_nil, List.drop_left, List.head?_cons, dropSemicolon]
      rfl
    all_goals
      intro t ht
      cases name with
      | nil => exact h.ne_nil rfl
      | cons c name =>
        obtain rfl := (List.cons.inj ht).1
        exact absurd (hparts '#' List.mem_cons_self) (by decide)
  have hshown : namedInValue name true = [c] := by
    simp only [namedInValue, if_true, h.names]
  rw [decodeValue, if_pos rfl]
  split
  · simp_all
  · simp_all

theorem decodeValue_escapedChar (c : Char) (s : Text) :
    decodeValue (escapedChar c ++ s) = c :: decodeValue s := by
  rcases escapedChar_cases c with ⟨hc, hmark⟩ | ⟨name, hname, hc⟩
  · rw [hc]
    exact decodeValue_cons (by rintro rfl; exact absurd hmark (by decide)) s
  · rw [hc]
    simpa using decodeValue_named hname s

theorem decodeValue_escaped (v : Text) : decodeValue (escaped v) = v := by
  induction v with
  | nil => rw [escaped, List.flatMap_nil, decodeValue]
  | cons c v ih =>
    rw [escaped] at ih
    rw [escaped, List.flatMap_cons, decodeValue_escapedChar, ih]

theorem flatMap_doublyQuotedChar {s : Text} (h : '"' ∉ s) : s.flatMap doublyQuotedChar = s := by
  induction s with
  | nil => rfl
  | cons c s ih =>
    rw [List.mem_cons, not_or] at h
    rw [List.flatMap_cons, doublyQuotedChar, if_neg (Ne.symm h.1), ih h.2, List.singleton_append]

theorem decodeValue_doublyQuoted (v : Text) :
    decodeValue ((escaped v).flatMap doublyQuotedChar) = v := by
  induction v with
  | nil => rw [escaped, List.flatMap_nil, List.flatMap_nil, decodeValue]
  | cons c v ih =>
    rw [escaped] at ih
    rw [escaped, List.flatMap_cons, List.flatMap_append]
    by_cases hquote : c = '"'
    · have hname := readableName_of_mem ('"', "quot".toList) (by decide)
      have hwritten : (escapedChar c).flatMap doublyQuotedChar
          = '&' :: ("quot".toList ++ [';']) := by
        rw [hquote]
        rfl
      rw [hwritten, hquote, List.cons_append, List.append_assoc, List.singleton_append,
        decodeValue_named hname, ih]
    · rw [flatMap_doublyQuotedChar (notMem_escapedChar hquote), decodeValue_escapedChar, ih]

/-! ## Values in quotes -/

theorem mem_flatMap_doublyQuotedChar (s : Text) : '"' ∉ s.flatMap doublyQuotedChar := by
  intro h
  obtain ⟨c, -, hc⟩ := List.mem_flatMap.mp h
  unfold doublyQuotedChar at hc
  split at hc
  · exact absurd hc (by decide)
  case isFalse hne => exact hne (List.mem_singleton.mp hc).symm

/-- The value of an attribute is read back from between the quotes that it is written in. -/
theorem cutValue?_quotedValue (v rest : Text) :
    ∃ q written, (q = '"' ∨ q = '\'') ∧ decodeValue written = v ∧
      Event.cutValue? ('=' :: (quotedValue v ++ rest)) = some (written, q, rest) := by
  obtain ⟨q, written, hq, hnot, hdecode, hquoted⟩ : ∃ q written, (q = '"' ∨ q = '\'') ∧ q ∉ written ∧
      decodeValue written = v ∧ quotedValue v = q :: (written ++ [q]) := by
    simp only [quotedValue]
    split
    case isTrue h =>
      refine ⟨'\'', escaped v, .inr rfl, ?_, decodeValue_escaped v, by simp⟩
      simp only [Bool.and_eq_true, Bool.not_eq_true', List.contains_eq_mem,
        decide_eq_false_iff_not] at h
      exact h.2
    case isFalse h =>
      exact ⟨'"', _, .inl rfl, mem_flatMap_doublyQuotedChar _, decodeValue_doublyQuoted v, by simp⟩
  refine ⟨q, written, hq, hdecode, ?_⟩
  have hblank : isBlank q = false := by rcases hq with rfl | rfl <;> decide
  have hsign : (q == '=') = false := by rcases hq with rfl | rfl <;> decide
  have heq : isBlank '=' = false := by decide
  have hcut := Text.cutAt?_of_eq hnot rest
  simp [Event.cutValue?, hquoted, hblank, hsign, heq, hq, hcut]

end GeneratedContent.Html

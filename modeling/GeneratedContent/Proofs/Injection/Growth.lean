import GeneratedContent.Proofs.Injection.Marker
import Mathlib.Logic.Function.Iterate

/-!
# How styles grow

An element that gets a marker is made a positioning context, by a declaration behind its style. Where
the style is read as a positioning context the attributes stay as they are. Where it is not, even
with the declaration behind it, every further marker adds the declaration once more
(`Rule.iterate_again`).
-/

namespace GeneratedContent

/-- Whether a style makes an element a positioning context. -/
def Style.Positioned (s : Style) : Prop :=
  ¬ (Text.lower (Text.trim ((s.get? "position".toList).getD [])) = [] ∨
    Text.lower (Text.trim ((s.get? "position".toList).getD [])) = "static".toList)

instance (s : Style) : Decidable s.Positioned := inferInstanceAs (Decidable (¬ _))

namespace Style

theorem beyond_self (s : Style) : (s.beyond s).entries = [] := by
  have hnone : s.entries.filter (fun e => s.get? e.1 ≠ some e.2) = [] := by
    rw [List.filter_eq_nil_iff]
    intro e he
    simp [OrderedMap.get?_of_mem he]
  unfold beyond
  rw [hnone]
  rfl

/-- A style that makes no positioning context lacks one declaration. -/
theorem withPositionContext_beyond {s : Style} (h : ¬ s.Positioned) :
    s.withPositionContext.beyond s = relative := by
  -- a style with the declaration would make a positioning context
  have hposition : s.get? "position".toList ≠ some "relative".toList := by
    intro hrelative
    apply h
    unfold Positioned
    rw [hrelative]
    decide
  have hcontext : s.withPositionContext = s.insert "position".toList "relative".toList := by
    unfold withPositionContext
    exact if_pos (Decidable.not_not.1 h)
  have hnew := OrderedMap.filter_put_ne hposition s.entries
    fun e he => OrderedMap.get?_of_mem he
  unfold beyond relative
  rw [hcontext]
  exact congrArg OrderedMap.ofList hnew

end Style

open Html

namespace Rule

/-- An element with a positioning context keeps its attributes. -/
theorem markedAttributes_of_positioned {a : Attributes} (h : (Style.ofAttributes a).Positioned) :
    markedAttributes a = a := by
  have hcontext : (Style.ofAttributes a).withPositionContext = Style.ofAttributes a := by
    unfold Style.withPositionContext
    exact if_neg h
  unfold markedAttributes
  simp only [hcontext]
  exact if_pos (Style.beyond_self _)

/-- Any other element gets the declaration for one. -/
theorem markedAttributes_of_not_positioned {a : Attributes}
    (h : ¬ (Style.ofAttributes a).Positioned) :
    markedAttributes a = Style.addTo a Style.relative := by
  unfold markedAttributes
  simp only [Style.withPositionContext_beyond h]
  exact if_neg (by decide)

end Rule

/-! ## Repeated declarations -/

/-- The declaration that makes a positioning context. -/
def contextText : Text := "position: relative".toList

/-- The declaration as it is added to a style that ends in a declaration. -/
def contextSuffix : Text := "; position: relative".toList

/-- The declaration, added several times. -/
def contextSuffixes (count : Nat) : Text := (List.replicate count contextSuffix).flatten

/-- Attributes with a text behind the style. -/
def Html.Attributes.stretch (a : Attributes) (s : Text) : Attributes :=
  a.modify styleAttribute fun v => v ++ s

namespace Html.Attributes

theorem stretch_nil (a : Attributes) : a.stretch [] = a :=
  OrderedMap.modify_id a styleAttribute List.append_nil

theorem stretch_stretch (a : Attributes) (s t : Text) :
    (a.stretch s).stretch t = a.stretch (s ++ t) := by
  unfold stretch
  rw [OrderedMap.modify_modify]
  congr 1
  funext v
  exact List.append_assoc v s t

theorem get?_stretch (a : Attributes) (s : Text) :
    (a.stretch s).get? styleAttribute = (a.get? styleAttribute).map fun v => v ++ s :=
  OrderedMap.get?_modify_self a styleAttribute _

/-- Whether the style ends in the declaration that makes a positioning context. -/
def Settled (a : Attributes) : Prop := ∃ v, a.get? styleAttribute = some (v ++ contextText)

end Html.Attributes

theorem Style.render_relative : Style.relative.render = contextText := by decide

theorem Text.trimRight_contextText (v : Text) :
    Text.trimRight (v ++ contextText) = v ++ contextText := by
  have h : contextText = "position: relativ".toList ++ ['e'] := by decide
  have hblank : isBlank 'e' = false := by decide
  rw [h, ← List.append_assoc, Text.trimRight, List.reverse_concat,
    List.dropWhile_cons_of_neg (by rw [hblank]; decide), List.reverse_cons, List.reverse_reverse]

/-- The declaration comes last in the style that it is added to. -/
theorem Style.exists_appendTo_relative (written : Text) :
    ∃ v, Style.appendTo written Style.relative = v ++ contextText := by
  unfold Style.appendTo
  simp only [Style.render_relative]
  rw [if_neg (by decide)]
  split
  · exact ⟨[], rfl⟩
  · split
    · exact ⟨Text.trimRight written ++ [' '], by simp⟩
    · exact ⟨Text.trimRight written ++ [';', ' '], rfl⟩

/-- Behind the declaration itself it is added after a semicolon. -/
theorem Style.appendTo_contextText (v : Text) :
    Style.appendTo (v ++ contextText) Style.relative = (v ++ contextText) ++ contextSuffix := by
  have hlast : (v ++ contextText).getLast? = some 'e' := by
    have h : contextText = "position: relativ".toList ++ ['e'] := by decide
    rw [h, ← List.append_assoc, List.getLast?_concat]
  have hne : v ++ contextText ≠ [] := by
    intro h
    rw [h] at hlast
    exact absurd hlast (by simp)
  unfold Style.appendTo
  simp only [Style.render_relative, Text.trimRight_contextText]
  rw [if_neg (by decide), if_neg hne, hlast, if_neg (by decide), List.append_assoc]
  rfl

namespace Rule

/-- An element that has got a declaration is settled. -/
theorem settled_markedAttributes {a : Attributes} (h : ¬ (Style.ofAttributes a).Positioned) :
    (markedAttributes a).Settled := by
  rcases Style.exists_appendTo_relative ((a.get? styleAttribute).getD []) with ⟨v, hv⟩
  refine ⟨v, ?_⟩
  rw [markedAttributes_of_not_positioned h, ← hv]
  exact OrderedMap.get?_insert_self _ _ _

/-- To a settled element that has no positioning context the declaration is added once more. -/
theorem markedAttributes_of_settled {a : Attributes} (hs : a.Settled)
    (h : ¬ (Style.ofAttributes a).Positioned) :
    markedAttributes a = a.stretch contextSuffix := by
  rcases hs with ⟨v, hv⟩
  rw [markedAttributes_of_not_positioned h]
  unfold Style.addTo
  rw [hv, Option.getD_some, Style.appendTo_contextText]
  exact OrderedMap.insert_eq_modify a styleAttribute (v ++ contextText)
    (fun w => w ++ contextSuffix) hv

theorem settled_stretch {a : Attributes} (hs : a.Settled) : (a.stretch contextSuffix).Settled := by
  rcases hs with ⟨v, hv⟩
  have hsuffix : contextSuffix = [';', ' '] ++ contextText := by decide
  refine ⟨(v ++ contextText) ++ [';', ' '], ?_⟩
  rw [Attributes.get?_stretch, hv, Option.map_some, hsuffix, List.append_assoc (v ++ contextText)]

theorem contextSuffixes_succ (count : Nat) :
    contextSuffixes (count + 1) = contextSuffix ++ contextSuffixes count := by
  rw [contextSuffixes, List.replicate_succ, List.flatten_cons]
  rfl

/-- Further markers add the declaration to a settled element some more times, at least once if the
element has no positioning context and there is a further marker. -/
theorem iterate_of_settled {a : Attributes} (hs : a.Settled) (n : Nat) :
    ∃ count, markedAttributes^[n] a = a.stretch (contextSuffixes count) ∧
      (¬ (Style.ofAttributes a).Positioned → 0 < n → 0 < count) := by
  induction n generalizing a with
  | zero => exact ⟨0, (Attributes.stretch_nil a).symm, fun _ h => h⟩
  | succ n ih =>
    rw [Function.iterate_succ_apply]
    -- a positioning context stays one; otherwise the declaration comes behind itself once more
    by_cases h : (Style.ofAttributes a).Positioned
    · rw [markedAttributes_of_positioned h]
      rcases ih hs with ⟨count, hcount, -⟩
      exact ⟨count, hcount, fun hn => absurd h hn⟩
    · rw [markedAttributes_of_settled hs h]
      rcases ih (settled_stretch hs) with ⟨count, hcount, -⟩
      refine ⟨count + 1, ?_, fun _ _ => Nat.succ_pos _⟩
      rw [hcount, Attributes.stretch_stretch, contextSuffixes_succ]

/-- Where the style after some markers makes a positioning context, as many markers again leave it as
it is. -/
theorem iterate_again_of_positioned {a : Attributes} (h : (Style.ofAttributes a).Positioned)
    (n : Nat) : markedAttributes^[n] a = a :=
  Function.iterate_fixed (markedAttributes_of_positioned h) n

/-- Where the style after some markers makes no positioning context, as many markers again add the
declaration to it. -/
theorem iterate_again {a : Attributes} {n : Nat} (hn : 0 < n)
    (h : ¬ (Style.ofAttributes (markedAttributes^[n] a)).Positioned) :
    ∃ v count, (markedAttributes^[n] a).get? styleAttribute = some v ∧
      markedAttributes^[n] (markedAttributes^[n] a) =
        (markedAttributes^[n] a).stretch (contextSuffixes (count + 1)) := by
  obtain ⟨m, rfl⟩ : ∃ m, n = m + 1 := ⟨n - 1, by omega⟩
  -- the last of the markers has found no positioning context either
  have hlast : ¬ (Style.ofAttributes (markedAttributes^[m] a)).Positioned := by
    intro hpos
    apply h
    rw [Function.iterate_succ_apply', markedAttributes_of_positioned hpos]
    exact hpos
  have hs : (markedAttributes^[m + 1] a).Settled := by
    rw [Function.iterate_succ_apply']
    exact settled_markedAttributes hlast
  rcases hs with ⟨v, hv⟩
  rcases iterate_of_settled ⟨v, hv⟩ (m + 1) with ⟨count, hcount, hpos⟩
  obtain ⟨k, rfl⟩ : ∃ k, count = k + 1 := ⟨count - 1, by have := hpos h hn; omega⟩
  exact ⟨_, k, hv, hcount⟩

end Rule

end GeneratedContent

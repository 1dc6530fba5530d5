import GeneratedContent.Proofs.OrderedMap
import GeneratedContent.Style.Marker

/-!
# Styles of markers, declaration by declaration

The style of a marker is that of its rule with some declarations written over it (`forMarker_eq`): those
of every marker, and an offset for each axis that the rule leaves without one (`missingOffsets`). That
tells the value of every property (`get?_forMarker`) and the order of the properties. A style that was
completed has an offset on each axis, so that completing it again changes nothing
(`missingOffsets_forMarker`).
-/

namespace GeneratedContent.Style

/-- The properties that say where a box is, two for each axis. -/
def offsets : List Text := ["left".toList, "right".toList, "top".toList, "bottom".toList]

/-- The side that a marker goes to on an axis, unless an offset is given. -/
def missingOffset (given : Bool) (side : Text) : List Text := if given then [] else [side]

/-- The offsets that the marker of a rule is given: one on each axis, unless the rule has a value that is
not empty for a side of that axis. -/
def missingOffsets (rule : Style) (label : Text) : List Text :=
  missingOffset (rule.sets "left".toList || rule.sets "right".toList) (defaultSide label) ++
    missingOffset (rule.sets "top".toList || rule.sets "bottom".toList) "top".toList

/-- The declaration of an offset that is missing. -/
def zeroOffset (side : Text) : Text × Text := (side, "0".toList)

/-- The declarations that are written over those of the rule. -/
def completion (rule : Style) (label : Text) : List (Text × Text) :=
  markerBase.entries ++ (rule.missingOffsets label).map zeroOffset

/-! ## Which properties have a value -/

theorem sets_congr {s t : Style} {property : Text} (h : s.get? property = t.get? property) :
    s.sets property = t.sets property := by
  rw [sets, sets, h]

theorem sets_of_get? {s : Style} {property value : Text} (h : s.get? property = some value)
    (hvalue : value ≠ []) : s.sets property = true := by
  simp [sets, h, hvalue]

theorem sets_insertAll (s : Style) {es : List (Text × Text)} {property : Text}
    (h : property ∉ es.map Prod.fst) : sets (s.insertAll es) property = s.sets property :=
  sets_congr (OrderedMap.get?_insertAll_of_notMem s h)

/-! ## What is written over a rule -/

section Completion

variable (rule : Style) (label : Text)

theorem defaultSide_mem : defaultSide label ∈ ["left".toList, "right".toList] := by
  unfold defaultSide
  split <;> simp

theorem missingOffset_sublist (given : Bool) (side : Text) :
    (missingOffset given side).Sublist [side] := by
  cases given with
  | true => exact List.nil_sublist _
  | false => exact List.Sublist.refl _

/-- There is one offset for each axis at most. -/
theorem missingOffsets_sublist :
    (rule.missingOffsets label).Sublist [defaultSide label, "top".toList] :=
  (missingOffset_sublist _ (defaultSide label)).append (missingOffset_sublist _ "top".toList)

theorem keys_zeroOffset (sides : List Text) : (sides.map zeroOffset).map Prod.fst = sides := by
  rw [List.map_map]
  exact List.map_id sides

theorem keys_completion :
    (rule.completion label).map Prod.fst =
      "position".toList :: "pointer-events".toList :: rule.missingOffsets label := by
  rw [completion, List.map_append, keys_zeroOffset]
  rfl

theorem nodup_completion : ((rule.completion label).map Prod.fst).Nodup := by
  have hnodup : ∀ side ∈ ["left".toList, "right".toList],
      ["position".toList, "pointer-events".toList, side, "top".toList].Nodup := by decide
  rw [keys_completion]
  exact (hnodup _ (defaultSide_mem label)).sublist
    (((missingOffsets_sublist rule label).cons_cons _).cons_cons _)

/-- Writing the offset of an axis, unless one is given. -/
theorem overlay_missingOffset (s : Style) (given : Bool) (side : Text) :
    (if given then s else s.overlay (.ofList [(side, "0".toList)])) =
      s.insertAll ((missingOffset given side).map zeroOffset) := by
  cases given <;> rfl

/-- What every marker's style says gives no offset. -/
theorem sets_overlay_markerBase {side : Text} (hside : side ∈ offsets) :
    (rule.overlay markerBase).sets side = rule.sets side := by
  apply sets_insertAll
  revert side
  decide

/-- The side that a marker goes to gives no vertical offset. -/
theorem sets_insertAll_missingOffset (s : Style) (given : Bool) {side : Text}
    (hside : side ∈ ["top".toList, "bottom".toList]) :
    sets (s.insertAll ((missingOffset given (defaultSide label)).map zeroOffset)) side =
      s.sets side := by
  have hapart : ∀ side ∈ ["top".toList, "bottom".toList],
      side ∉ ["left".toList, "right".toList] := by decide
  apply sets_insertAll
  rw [keys_zeroOffset]
  intro hmem
  have hstart := List.mem_singleton.1 ((missingOffset_sublist _ _).subset hmem)
  exact hapart side hside (hstart ▸ defaultSide_mem label)

/-- The style of a marker is the rule's with the completing declarations written over it. -/
theorem forMarker_eq : rule.forMarker label = rule.insertAll (rule.completion label) := by
  unfold forMarker
  -- the vertical offset is looked for when the horizontal one is written, which comes to the same
  simp only [overlay_missingOffset]
  rw [sets_insertAll_missingOffset label _ _ (by simp),
    sets_insertAll_missingOffset label _ _ (by simp), sets_overlay_markerBase rule (by decide),
    sets_overlay_markerBase rule (by decide), sets_overlay_markerBase rule (by decide),
    sets_overlay_markerBase rule (by decide), completion, missingOffsets, List.map_append,
    OrderedMap.insertAll_append, OrderedMap.insertAll_append]
  rfl

/-- The value of a property in the style of a marker. -/
theorem get?_forMarker (property : Text) :
    (rule.forMarker label).get? property =
      if property = "position".toList then some "absolute".toList
      else if property = "pointer-events".toList then some "none".toList
      else if property ∈ rule.missingOffsets label then some "0".toList
      else rule.get? property := by
  have hwritten : ∀ e ∈ rule.completion label, (rule.forMarker label).get? e.1 = some e.2 := by
    intro e he
    rw [forMarker_eq]
    exact OrderedMap.get?_insertAll_of_mem rule (nodup_completion rule label) he
  have hbase : ∀ e ∈ markerBase.entries, (rule.forMarker label).get? e.1 = some e.2 :=
    fun e he => hwritten e (List.mem_append_left _ he)
  split_ifs with hposition hpointer hmissing
  · rw [hposition]
    exact hbase ("position".toList, "absolute".toList) (by decide)
  · rw [hpointer]
    exact hbase ("pointer-events".toList, "none".toList) (by decide)
  · exact hwritten (zeroOffset property) (List.mem_append_right _ (List.mem_map_of_mem hmissing))
  · rw [forMarker_eq]
    apply OrderedMap.get?_insertAll_of_notMem
    rw [keys_completion, List.mem_cons, List.mem_cons, not_or, not_or]
    exact ⟨hposition, hpointer, hmissing⟩

theorem get?_position_forMarker :
    (rule.forMarker label).get? "position".toList = some "absolute".toList := by
  rw [get?_forMarker]
  exact if_pos rfl

theorem get?_pointerEvents_forMarker :
    (rule.forMarker label).get? "pointer-events".toList = some "none".toList := by
  rw [get?_forMarker, if_neg (by decide)]
  exact if_pos rfl

theorem keys_forMarker :
    (rule.forMarker label).keys = rule.keys ++
      ("position".toList :: "pointer-events".toList :: rule.missingOffsets label).filter
        (!rule.contains ·) := by
  rw [forMarker_eq, OrderedMap.keys_insertAll rule (nodup_completion rule label), keys_completion]

/-! ## A style that was completed -/

/-- A marker has the offsets of its rule, and those that were missing. -/
theorem sets_forMarker {side : Text} (hside : side ∈ offsets) :
    (rule.forMarker label).sets side =
      (decide (side ∈ rule.missingOffsets label) || rule.sets side) := by
  have hposition : side ≠ "position".toList ∧ side ≠ "pointer-events".toList := by
    revert side
    decide
  have hget := get?_forMarker rule label side
  rw [if_neg hposition.1, if_neg hposition.2] at hget
  by_cases hmissing : side ∈ rule.missingOffsets label
  · rw [if_pos hmissing] at hget
    rw [sets_of_get? hget (by decide), decide_eq_true hmissing, Bool.true_or]
  · rw [if_neg hmissing] at hget
    rw [sets_congr hget, decide_eq_false hmissing, Bool.false_or]

variable {rule label} in
/-- An axis has an offset if the side that is missing otherwise is one of its two. -/
theorem sets_axis_forMarker {start stop side : Text} (hstart : start ∈ offsets)
    (hstop : stop ∈ offsets) (hside : side ∈ [start, stop])
    (hmissing : (rule.sets start || rule.sets stop) = false → side ∈ rule.missingOffsets label) :
    ((rule.forMarker label).sets start || (rule.forMarker label).sets stop) = true := by
  rw [sets_forMarker rule label hstart, sets_forMarker rule label hstop]
  cases hgiven : rule.sets start || rule.sets stop with
  | true =>
    rcases Bool.or_eq_true_iff.1 hgiven with h | h
    · rw [h, Bool.or_true, Bool.true_or]
    · rw [h, Bool.or_true, Bool.or_true]
  | false =>
    have hmem := hmissing hgiven
    rw [List.mem_cons, List.mem_singleton] at hside
    rcases hside with rfl | rfl
    · rw [decide_eq_true hmem, Bool.true_or, Bool.true_or]
    · rw [decide_eq_true hmem, Bool.true_or, Bool.or_true]

/-- On each axis of a completed style there is an offset. -/
theorem missingOffsets_forMarker (other : Text) :
    (rule.forMarker label).missingOffsets other = [] := by
  have hhorizontal : ((rule.forMarker label).sets "left".toList ||
      (rule.forMarker label).sets "right".toList) = true := by
    refine sets_axis_forMarker (by decide) (by decide) (defaultSide_mem label) fun hgiven => ?_
    rw [missingOffsets, hgiven]
    exact List.mem_append_left _ List.mem_cons_self
  have hvertical : ((rule.forMarker label).sets "top".toList ||
      (rule.forMarker label).sets "bottom".toList) = true := by
    refine sets_axis_forMarker (by decide) (by decide) List.mem_cons_self fun hgiven => ?_
    rw [missingOffsets, hgiven]
    exact List.mem_append_right _ List.mem_cons_self
  rw [missingOffsets, hhorizontal, hvertical]
  rfl

/-- Completing a style that was completed changes nothing. -/
theorem forMarker_forMarker (other : Text) :
    (rule.forMarker label).forMarker other = rule.forMarker label := by
  rw [forMarker_eq (rule.forMarker label), completion, missingOffsets_forMarker, List.map_nil,
    List.append_nil]
  apply OrderedMap.insertAll_of_get?
  have hbase : markerBase.entries = [("position".toList, "absolute".toList),
    ("pointer-events".toList, "none".toList)] := rfl
  rw [hbase, List.forall_mem_cons, List.forall_mem_singleton]
  exact ⟨get?_position_forMarker rule label, get?_pointerEvents_forMarker rule label⟩

/-- The style of a marker is absolutely positioned and takes no clicks, has a zero for each offset that is
missing, and for every other property what its rule says. Its properties are those of the rule in their
order, and behind them those that are new. Completing it again, for whatever label, changes nothing. -/
theorem forMarker_exact :
    (∀ property, (rule.forMarker label).get? property =
        if property = "position".toList then some "absolute".toList
        else if property = "pointer-events".toList then some "none".toList
        else if property ∈ rule.missingOffsets label then some "0".toList
        else rule.get? property) ∧
      (rule.forMarker label).keys = rule.keys ++
        ("position".toList :: "pointer-events".toList :: rule.missingOffsets label).filter
          (!rule.contains ·) ∧
      ∀ other, (rule.forMarker label).forMarker other = rule.forMarker label :=
  ⟨get?_forMarker rule label, keys_forMarker rule label, forMarker_forMarker rule label⟩

end Completion

-- an offset without a value is missing, and keeps its place
example :
    (forMarker (.ofList [("left".toList, []), ("color".toList, "red".toList),
        ("bottom".toList, "1em".toList)]) "before".toList).entries =
      [("left".toList, "0".toList), ("color".toList, "red".toList),
        ("bottom".toList, "1em".toList), ("position".toList, "absolute".toList),
        ("pointer-events".toList, "none".toList)] := by
  decide

end GeneratedContent.Style

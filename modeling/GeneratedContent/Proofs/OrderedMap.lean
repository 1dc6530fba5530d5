import GeneratedContent.OrderedMap
import Mathlib.Data.List.Nodup
import Mathlib.Data.List.Perm.Subperm

/-!
# Lookup in ordered maps

Writing to a key is seen when the key is looked up, and nowhere else: the other entries stay as they
are and in their order. So it is with entries that are written one after the other, of which the new
keys go to the end (`keys_insertAll`). A key can be left out of a map. A map that a list describes has
entries of the list, and has all of them if there are as many.
-/

namespace GeneratedContent.OrderedMap

variable {κ ν : Type} [DecidableEq κ]

theorem find?_put_self (key : κ) (value : ν) (es : List (κ × ν)) :
    (put key value es).find? (fun e => e.1 = key) = some (key, value) := by
  induction es with
  | nil => simp [put]
  | cons e es ih =>
    unfold put
    by_cases h : e.1 = key
    · simp [h]
    · simp [h, ih]

/-- Writing to a key passes over entries among which the key does not count. -/
theorem filter_put (keep : κ → Bool) {key : κ} {value : ν} (h : keep key = false)
    (es : List (κ × ν)) :
    (put key value es).filter (fun e => keep e.1) = es.filter (fun e => keep e.1) := by
  induction es with
  | nil => simp [put, h]
  | cons e es ih =>
    unfold put
    by_cases hk : e.1 = key
    · simp [hk, h]
    · rw [if_neg hk, List.filter_cons, List.filter_cons, ih]

/-- Writing to a key that counts comes to the same before and after the others are left out. -/
theorem filter_put_of_keep (keep : κ → Bool) {key : κ} {value : ν} (h : keep key = true)
    (es : List (κ × ν)) :
    (put key value es).filter (fun e => keep e.1) = put key value (es.filter fun e => keep e.1) := by
  induction es with
  | nil => simp [put, h]
  | cons e es ih =>
    by_cases hk : e.1 = key
    · simp [put, hk, h]
    · by_cases he : keep e.1 = true
      · simp [put, hk, he, ih]
      · simp [put, hk, he, ih]

theorem find?_put_of_ne {key other : κ} {value : ν} (h : other ≠ key) (es : List (κ × ν)) :
    (put key value es).find? (fun e => e.1 = other) = es.find? fun e => e.1 = other := by
  have hkeep : decide (key = other) = false := decide_eq_false fun e => h e.symm
  rw [← List.head?_filter, ← List.head?_filter, filter_put (fun k => decide (k = other)) hkeep]

theorem get?_of_mem {m : OrderedMap κ ν} {e : κ × ν} (h : e ∈ m.entries) :
    m.get? e.1 = some e.2 := by
  rcases m with ⟨es, hnodup⟩
  simp only [get?]
  induction es with
  | nil => exact absurd h List.not_mem_nil
  | cons d es ih =>
    rw [List.map_cons, List.nodup_cons] at hnodup
    rcases List.mem_cons.1 h with rfl | h
    · simp
    · have hne : ¬ d.1 = e.1 := fun he => hnodup.1 (he ▸ List.mem_map_of_mem h)
      rw [List.find?_cons_of_neg (by simpa using hne)]
      exact ih hnodup.2 h

/-- Of the entries after a key has been written to, those are new that tell of the new value. -/
theorem filter_put_ne {value? : κ → Option ν} [DecidableEq ν] {key : κ} {value : ν}
    (hne : value? key ≠ some value) (es : List (κ × ν)) (hes : ∀ e ∈ es, value? e.1 = some e.2) :
    (put key value es).filter (fun e => value? e.1 ≠ some e.2) = [(key, value)] := by
  induction es with
  | nil => simp [put, hne]
  | cons e es ih =>
    have he := hes e List.mem_cons_self
    have hrest : ∀ d ∈ es, value? d.1 = some d.2 := fun d hd => hes d (List.mem_cons_of_mem _ hd)
    unfold put
    by_cases hkey : e.1 = key
    · have hnone : es.filter (fun e => value? e.1 ≠ some e.2) = [] := by
        rw [List.filter_eq_nil_iff]
        intro d hd
        simp [hrest d hd]
      rw [if_pos hkey, hkey, List.filter_cons, hnone]
      simp [hne]
    · rw [if_neg hkey, List.filter_cons, ih hrest]
      simp [he]

/-- The entries after writing to a key: the new one, and those of other keys. -/
theorem perm_put (key : κ) (value : ν) {es : List (κ × ν)} (hnodup : (es.map Prod.fst).Nodup) :
    (put key value es).Perm ((key, value) :: es.filter fun e => e.1 ≠ key) := by
  induction es with
  | nil => exact List.Perm.refl _
  | cons e es ih =>
    rw [List.map_cons, List.nodup_cons] at hnodup
    unfold put
    -- the key comes once at most, so the entries behind it are those of other keys
    by_cases he : e.1 = key
    · have hrest : es.filter (fun e => e.1 ≠ key) = es := by
        rw [List.filter_eq_self]
        intro d hd
        have hne : d.1 ≠ key := fun hk => hnodup.1 (he ▸ hk ▸ List.mem_map_of_mem hd)
        simp [hne]
      rw [if_pos he, he, List.filter_cons, hrest]
      simp [he]
    · rw [if_neg he, List.filter_cons, if_pos (by simp [he])]
      exact ((ih hnodup.2).cons e).trans (List.Perm.swap _ _ _)

variable (m : OrderedMap κ ν) (key : κ) (value : ν)

@[simp] theorem get?_insert_self : (m.insert key value).get? key = some value := by
  unfold get? insert
  rw [find?_put_self]
  rfl

theorem get?_insert_of_ne {other : κ} (h : other ≠ key) :
    (m.insert key value).get? other = m.get? other := by
  unfold get? insert
  rw [find?_put_of_ne h]

@[simp] theorem contains_insert_self : (m.insert key value).contains key = true := by
  simp [contains]

theorem contains_insert_of_ne {other : κ} (h : other ≠ key) :
    (m.insert key value).contains other = m.contains other := by
  simp [contains, get?_insert_of_ne m key value h]

/-- The map without a key. -/
def erase (m : OrderedMap κ ν) (key : κ) : OrderedMap κ ν where
  entries := m.entries.filter fun e => e.1 ≠ key
  nodup := m.nodup.sublist (List.filter_sublist.map Prod.fst)

/-- The entries of other keys stay as they are when a key is written to. -/
@[simp] theorem erase_insert_self : (m.insert key value).erase key = m.erase key := by
  apply ext
  exact filter_put (fun k => k ≠ key) (by simp) m.entries

theorem erase_insert_of_ne {other : κ} (h : other ≠ key) (v : ν) :
    (m.insert other v).erase key = (m.erase key).insert other v := by
  apply ext
  exact filter_put_of_keep (fun k => k ≠ key) (by simpa using h) m.entries

@[simp] theorem erase_erase : (m.erase key).erase key = m.erase key := by
  apply OrderedMap.ext
  simp [erase, List.filter_filter]

theorem get?_erase_of_ne {other : κ} (h : other ≠ key) : (m.erase key).get? other = m.get? other := by
  unfold get? erase
  rw [List.find?_filter]
  congr 2
  funext e
  by_cases he : e.1 = other
  · simp [he, h]
  · simp [he]

/-! ## Changing a value -/

/-- The entries with a change to the value of a key. -/
def amend (key : κ) (change : ν → ν) (es : List (κ × ν)) : List (κ × ν) :=
  es.map fun e => if e.1 = key then (e.1, change e.2) else e

@[simp] theorem keys_amend (change : ν → ν) (es : List (κ × ν)) :
    (amend key change es).map Prod.fst = es.map Prod.fst := by
  rw [amend, List.map_map]
  apply List.map_congr_left
  intro e _
  simp only [Function.comp]
  split <;> rfl

/-- The map with a change to the value of a key, if it has one. -/
def modify (change : ν → ν) : OrderedMap κ ν where
  entries := amend key change m.entries
  nodup := by
    rw [keys_amend]
    exact m.nodup

theorem find?_amend (change : ν → ν) (es : List (κ × ν)) :
    (amend key change es).find? (fun e => e.1 = key) =
      (es.find? fun e => e.1 = key).map fun e => (e.1, change e.2) := by
  induction es with
  | nil => rfl
  | cons e es ih =>
    by_cases he : e.1 = key
    · simp [amend, he]
    · rw [amend] at ih
      simp [amend, he, ih]

@[simp] theorem get?_modify_self (change : ν → ν) :
    (m.modify key change).get? key = (m.get? key).map change := by
  unfold get? modify
  rw [find?_amend, Option.map_map, Option.map_map]
  rfl

theorem find?_amend_of_ne (change : ν → ν) {other : κ} (h : other ≠ key) (es : List (κ × ν)) :
    (amend key change es).find? (fun e => e.1 = other) = es.find? fun e => e.1 = other := by
  induction es with
  | nil => rfl
  | cons e es ih =>
    unfold amend at ih ⊢
    rw [List.map_cons]
    by_cases he : e.1 = key
    · have hne : ¬ key = other := fun hk => h hk.symm
      simp [he, hne, ih]
    · rw [if_neg he, List.find?_cons, List.find?_cons, ih]

theorem get?_modify_of_ne (change : ν → ν) {other : κ} (h : other ≠ key) :
    (m.modify key change).get? other = m.get? other := by
  unfold get? modify
  rw [find?_amend_of_ne key change h]

theorem modify_modify (change further : ν → ν) :
    (m.modify key change).modify key further = m.modify key (further ∘ change) := by
  apply ext
  simp only [modify, amend, List.map_map]
  apply List.map_congr_left
  intro e _
  by_cases he : e.1 = key <;> simp [he]

theorem modify_id {change : ν → ν} (h : ∀ v, change v = v) : m.modify key change = m := by
  apply ext
  simp only [modify, amend]
  rw [List.map_congr_left (g := id), List.map_id]
  intro e _
  show (if e.1 = key then (e.1, change e.2) else e) = e
  split
  · rw [h]
  · rfl

theorem put_eq_amend (change : ν → ν) {es : List (κ × ν)} (hnodup : (es.map Prod.fst).Nodup)
    (h : (key, value) ∈ es) : put key (change value) es = amend key change es := by
  induction es with
  | nil => exact absurd h List.not_mem_nil
  | cons e es ih =>
    rw [List.map_cons, List.nodup_cons] at hnodup
    unfold put
    by_cases he : e.1 = key
    · -- the key comes once, so behind its entry nothing changes
      have hrest : amend key change es = es := by
        unfold amend
        rw [List.map_congr_left (g := id), List.map_id]
        intro d hd
        have hne : ¬ d.1 = key := fun hk => hnodup.1 (he ▸ hk ▸ List.mem_map_of_mem hd)
        simp [hne]
      have hvalue : e = (key, value) := by
        rcases List.mem_cons.1 h with h | h
        · exact h.symm
        · exact absurd (List.mem_map_of_mem (f := Prod.fst) h) (he ▸ hnodup.1)
      rw [if_pos he]
      unfold amend at hrest ⊢
      rw [List.map_cons, hrest, hvalue]
      simp
    · have hmem : (key, value) ∈ es := by
        rcases List.mem_cons.1 h with h | h
        · exact absurd (congrArg Prod.fst h.symm) he
        · exact h
      rw [if_neg he, ih hnodup.2 hmem]
      simp [amend, he]

/-- Writing to a key that has a value changes the value. -/
theorem insert_eq_modify (change : ν → ν) (h : m.get? key = some value) :
    m.insert key (change value) = m.modify key change := by
  apply ext
  unfold get? at h
  rcases Option.map_eq_some_iff.1 h with ⟨e, he, rfl⟩
  have hkey : e.1 = key := by simpa using List.find?_some he
  have hmem := List.mem_of_find?_eq_some he
  rw [← hkey]
  exact put_eq_amend e.1 e.2 change m.nodup hmem

/-- A change to one value and writing to another key do not interfere. -/
theorem put_amend_of_ne (change : ν → ν) {other : κ} (h : other ≠ key) (es : List (κ × ν)) :
    put other value (amend key change es) = amend key change (put other value es) := by
  induction es with
  | nil => simp [put, amend, h]
  | cons e es ih =>
    unfold amend at ih ⊢
    by_cases he : e.1 = key
    · have hne : ¬ key = other := fun hk => h hk.symm
      simp [put, he, hne, ih]
    · by_cases ho : e.1 = other
      · simp [put, ho, h]
      · simp [put, he, ho, ih]

/-- Writing the value that a key has changes nothing. -/
theorem insert_of_get? (h : m.get? key = some value) : m.insert key value = m :=
  (insert_eq_modify m key value id h).trans (modify_id m key fun _ => rfl)

/-! ## Entries one after the other -/

theorem insertAll_append (es ds : List (κ × ν)) :
    m.insertAll (es ++ ds) = (m.insertAll es).insertAll ds :=
  List.foldl_append

theorem get?_insertAll_of_notMem {key : κ} {es : List (κ × ν)} (h : key ∉ es.map Prod.fst) :
    (m.insertAll es).get? key = m.get? key := by
  induction es generalizing m with
  | nil => rfl
  | cons e es ih =>
    rw [List.map_cons, List.mem_cons, not_or] at h
    exact (ih (m.insert e.1 e.2) h.2).trans (get?_insert_of_ne m e.1 e.2 h.1)

theorem get?_insertAll_of_mem {es : List (κ × ν)} (hnodup : (es.map Prod.fst).Nodup) {e : κ × ν}
    (he : e ∈ es) : (m.insertAll es).get? e.1 = some e.2 := by
  induction es generalizing m with
  | nil => exact absurd he List.not_mem_nil
  | cons d es ih =>
    rw [List.map_cons, List.nodup_cons] at hnodup
    rcases List.mem_cons.1 he with rfl | he
    · -- the key does not come again
      exact (get?_insertAll_of_notMem (m.insert e.1 e.2) hnodup.1).trans (get?_insert_self m e.1 e.2)
    · exact ih (m.insert d.1 d.2) hnodup.2 he

/-- Writing the values that keys have changes nothing. -/
theorem insertAll_of_get? {es : List (κ × ν)} (h : ∀ e ∈ es, m.get? e.1 = some e.2) :
    m.insertAll es = m := by
  induction es with
  | nil => rfl
  | cons e es ih =>
    rw [List.forall_mem_cons] at h
    show (m.insert e.1 e.2).insertAll es = m
    rw [insert_of_get? m e.1 e.2 h.1, ih h.2]

theorem contains_iff {m : OrderedMap κ ν} {key : κ} : m.contains key = true ↔ key ∈ m.keys := by
  simp [contains, get?, keys]

/-- The keys stay in their order, and those that are new come behind them in the order of writing. -/
theorem keys_insertAll {es : List (κ × ν)} (hnodup : (es.map Prod.fst).Nodup) :
    (m.insertAll es).keys = m.keys ++ (es.map Prod.fst).filter (!m.contains ·) := by
  induction es generalizing m with
  | nil => exact (List.append_nil _).symm
  | cons e es ih =>
    rw [List.map_cons, List.nodup_cons] at hnodup
    have hrest : (m.insertAll (e :: es)).keys = _ := ih (m.insert e.1 e.2) hnodup.2
    have hinsert : (m.insert e.1 e.2).keys = if e.1 ∈ m.keys then m.keys else m.keys ++ [e.1] :=
      keys_put e.1 e.2 m.entries
    -- the key is none of those behind it
    have hbehind : (es.map Prod.fst).filter (!(m.insert e.1 e.2).contains ·) =
        (es.map Prod.fst).filter (!m.contains ·) := by
      apply List.filter_congr
      intro key hkey
      have hne : key ≠ e.1 := fun h => hnodup.1 (h ▸ hkey)
      rw [contains_insert_of_ne m e.1 e.2 hne]
    rw [hrest, hinsert, hbehind, List.map_cons, List.filter_cons]
    by_cases he : e.1 ∈ m.keys
    · rw [if_pos he, contains_iff.2 he]
      rfl
    · have hnew : m.contains e.1 = false := Bool.eq_false_iff.2 fun h => he (contains_iff.1 h)
      rw [if_neg he, hnew, List.append_assoc]
      rfl

/-! ## Maps that lists describe -/

omit m key value in
theorem put_of_notMem {key : κ} (value : ν) {es : List (κ × ν)} (h : key ∉ es.map Prod.fst) :
    put key value es = es ++ [(key, value)] := by
  induction es with
  | nil => rfl
  | cons e es ih =>
    rw [List.map_cons, List.mem_cons, not_or] at h
    rw [put, if_neg (Ne.symm h.1), ih h.2, List.cons_append]

theorem mem_of_mem_put {es : List (κ × ν)} {e : κ × ν} (h : e ∈ put key value es) :
    e ∈ es ∨ e = (key, value) := by
  induction es with
  | nil => exact Or.inr (List.mem_singleton.1 h)
  | cons d es ih =>
    rw [put] at h
    split at h
    · rename_i hd
      rcases List.mem_cons.1 h with rfl | h
      · exact Or.inr (by rw [hd])
      · exact Or.inl (List.mem_cons_of_mem _ h)
    · rcases List.mem_cons.1 h with rfl | h
      · exact Or.inl List.mem_cons_self
      · exact (ih h).imp (List.mem_cons_of_mem _) id

theorem mem_of_mem_insertAll {es : List (κ × ν)} {e : κ × ν} (h : e ∈ (m.insertAll es).entries) :
    e ∈ m.entries ∨ e ∈ es := by
  induction es generalizing m with
  | nil => exact Or.inl h
  | cons d es ih =>
    rcases ih (m.insert d.1 d.2) h with h | h
    · refine (mem_of_mem_put d.1 d.2 h).imp id ?_
      rintro rfl
      exact List.mem_cons_self
    · exact Or.inr (List.mem_cons_of_mem _ h)

/-- All entries of a map come from the list that describes it. -/
theorem mem_of_mem_ofList {es : List (κ × ν)} {e : κ × ν} (h : e ∈ (ofList es).entries) : e ∈ es :=
  (mem_of_mem_insertAll empty h).resolve_left List.not_mem_nil

theorem entries_insertAll {es : List (κ × ν)} (h : ((m.entries ++ es).map Prod.fst).Nodup) :
    (m.insertAll es).entries = m.entries ++ es := by
  induction es generalizing m with
  | nil => exact (List.append_nil _).symm
  | cons e es ih =>
    have hnew : e.1 ∉ m.entries.map Prod.fst := by
      rw [List.map_append, List.nodup_append] at h
      intro hmem
      exact h.2.2 e.1 hmem e.1 (List.mem_map_of_mem List.mem_cons_self) rfl
    have hinsert : (m.insert e.1 e.2).entries = m.entries ++ [e] := put_of_notMem e.2 hnew
    have hrest := ih (m.insert e.1 e.2) (by
      rw [hinsert, List.append_assoc]
      exact h)
    rw [hinsert, List.append_assoc] at hrest
    exact hrest

/-- A list without repeated keys describes the map with its entries. -/
theorem entries_ofList {es : List (κ × ν)} (h : (es.map Prod.fst).Nodup) : (ofList es).entries = es :=
  entries_insertAll empty h

theorem ofList_entries : ofList m.entries = m := ext (entries_ofList m.nodup)

theorem subperm_ofList (es : List (κ × ν)) : (ofList es).entries.Subperm es :=
  List.subperm_of_subset (List.Nodup.of_map _ (ofList es).nodup) fun _ => mem_of_mem_ofList

/-- If a map has as many entries as the list that describes it, it has those of the list. -/
theorem entries_ofList_of_length_le {es : List (κ × ν)} (h : es.length ≤ (ofList es).entries.length) :
    (ofList es).entries = es := by
  have hperm := (subperm_ofList es).perm_of_length_le h
  exact entries_ofList ((hperm.map Prod.fst).nodup_iff.1 (ofList es).nodup)

end GeneratedContent.OrderedMap

/-!
# Ordered maps

A map that remembers the order in which its keys first came: writing to a key that is present
changes its value in place, and a new key goes to the end. The declarations of a style and the
attributes of an element are such maps.
-/

namespace GeneratedContent

/-- A map from keys to values in the order of first insertion; no key comes twice. -/
structure OrderedMap (κ ν : Type) where
  /-- The keys with their values, in order. -/
  entries : List (κ × ν)
  /-- Every key comes once. -/
  nodup : (entries.map Prod.fst).Nodup

namespace OrderedMap

variable {κ ν : Type}

instance [DecidableEq κ] [DecidableEq ν] : DecidableEq (OrderedMap κ ν) := fun m n =>
  match decEq m.entries n.entries with
  | isTrue h => isTrue (by cases m; cases n; cases h; rfl)
  | isFalse h => isFalse (fun e => h (by rw [e]))

/-- Two ordered maps with the same entries in the same order are equal. -/
@[ext] theorem ext {m n : OrderedMap κ ν} (h : m.entries = n.entries) : m = n := by
  cases m; cases n; cases h; rfl

/-- The map without entries. -/
def empty : OrderedMap κ ν := ⟨[], List.Pairwise.nil⟩

instance : Inhabited (OrderedMap κ ν) := ⟨empty⟩

variable [DecidableEq κ]

/-- The entries after writing a value to a key. -/
def put (key : κ) (value : ν) : List (κ × ν) → List (κ × ν)
  | [] => [(key, value)]
  | e :: es => if e.1 = key then (e.1, value) :: es else e :: put key value es

theorem keys_put (key : κ) (value : ν) (es : List (κ × ν)) :
    (put key value es).map Prod.fst =
      if key ∈ es.map Prod.fst then es.map Prod.fst else es.map Prod.fst ++ [key] := by
  induction es with
  | nil => simp [put]
  | cons e es ih =>
    unfold put
    split
    · rename_i h
      simp [h]
    · rename_i h
      rw [List.map_cons, ih]
      by_cases hk : key ∈ es.map Prod.fst
      · simp [hk]
      · have h' : ¬ key = e.1 := fun e' => h e'.symm
        rw [if_neg hk, if_neg (by simpa [h'] using hk)]
        simp

theorem nodup_put {key : κ} {value : ν} {es : List (κ × ν)} (h : (es.map Prod.fst).Nodup) :
    ((put key value es).map Prod.fst).Nodup := by
  rw [keys_put]
  split
  · exact h
  · rename_i hk
    rw [List.nodup_append]
    refine ⟨h, by simp, ?_⟩
    intro a ha b hb
    obtain rfl : b = key := by simpa using hb
    rintro rfl
    exact hk ha

/-- The map with a value written to a key. -/
def insert (m : OrderedMap κ ν) (key : κ) (value : ν) : OrderedMap κ ν :=
  ⟨put key value m.entries, nodup_put m.nodup⟩

/-- The value of a key. -/
def get? (m : OrderedMap κ ν) (key : κ) : Option ν :=
  (m.entries.find? fun e => e.1 = key).map Prod.snd

/-- Whether a key has a value. -/
def contains (m : OrderedMap κ ν) (key : κ) : Bool := (m.get? key).isSome

/-- The keys in order. -/
def keys (m : OrderedMap κ ν) : List κ := m.entries.map Prod.fst

/-- The map after writing entries one after the other. -/
def insertAll (m : OrderedMap κ ν) (es : List (κ × ν)) : OrderedMap κ ν :=
  es.foldl (fun m e => m.insert e.1 e.2) m

/-- The map that a list of entries describes: of a repeated key, the first place and the last
value. -/
def ofList (es : List (κ × ν)) : OrderedMap κ ν := insertAll empty es

end OrderedMap

end GeneratedContent

import GeneratedContent.Counter.Run

/-!
# What a counter counts

The counter counts runs: elements of one parent that come one after the other are numbered from one on
(`values_replicate`), and what comes behind an element of another parent is numbered as if nothing came
before it (`values_append`). So the elements of a parent are numbered without a gap just when no other
element lies between them (`valuesOf_eq_range'_iff`). What the parents are called makes no difference
(`values_map`).
-/

namespace GeneratedContent.Counter

variable {κ : Type} [DecidableEq κ]

/-! ## Runs -/

@[simp] theorem State.lastParent_advance (s : State κ) (parent : Option κ) :
    (s.advance parent).lastParent = parent := by
  unfold State.advance
  split <;> rfl

/-- A count goes on while the parent stays the same. -/
theorem State.advance_same {s : State κ} {key : κ} (h : s.lastParent = some key) :
    s.advance (some key) = ⟨some key, s.value + 1⟩ := by
  rw [State.advance, h, if_pos ⟨Option.some_ne_none key, rfl⟩]

/-- A count starts over at an element of another parent, or of none. -/
theorem State.advance_restart {s : State κ} {parent : Option κ}
    (h : parent ≠ none → parent ≠ s.lastParent) : s.advance parent = ⟨parent, 1⟩ :=
  if_neg fun hsame => h hsame.1 hsame.2

/-- The first element of all is numbered one. -/
theorem State.advance_start (parent : Option κ) : State.advance {} parent = ⟨parent, 1⟩ :=
  State.advance_restart id

@[simp] theorem length_values (parents : List (Option κ)) :
    (values parents).length = parents.length := by
  have hstates : ∀ s : State κ, (statesFrom s parents).length = parents.length := by
    induction parents with
    | nil => exact fun _ => rfl
    | cons parent parents ih =>
      intro s
      rw [statesFrom, List.length_cons, ih, List.length_cons]
  rw [values, states, List.length_map, hstates]

theorem statesFrom_append (s : State κ) (xs ys : List (Option κ)) :
    statesFrom s (xs ++ ys) = statesFrom s xs ++ statesFrom (xs.foldl State.advance s) ys := by
  induction xs generalizing s with
  | nil => rfl
  | cons x xs ih => simp only [List.cons_append, statesFrom, ih, List.foldl_cons]

/-- A count remembers the parent of the last element. -/
theorem lastParent_foldl (s : State κ) (parents : List (Option κ)) :
    (parents.foldl State.advance s).lastParent = parents.getLast?.getD s.lastParent := by
  induction parents generalizing s with
  | nil => rfl
  | cons parent parents ih =>
    rw [List.foldl_cons, ih, State.lastParent_advance, List.getLast?_cons]
    rfl

/-- A count that meets a parent other than the last one goes on as if it began there. -/
theorem statesFrom_of_restart {s : State κ} {parents : List (Option κ)}
    (h : ∀ parent ∈ parents.head?, parent ≠ none → parent ≠ s.lastParent) :
    statesFrom s parents = statesFrom {} parents := by
  cases parents with
  | nil => rfl
  | cons parent parents =>
    rw [statesFrom, statesFrom, State.advance_restart (h parent rfl), State.advance_start]

/-- What comes behind an element of another parent is numbered as if nothing came before it. -/
theorem values_append {xs ys : List (Option κ)}
    (h : ∀ parent ∈ ys.head?, parent ≠ none → some parent ≠ xs.getLast?) :
    values (xs ++ ys) = values xs ++ values ys := by
  have hrestart : statesFrom (xs.foldl State.advance {}) ys = statesFrom {} ys := by
    apply statesFrom_of_restart
    intro parent hparent hne hlast
    rw [lastParent_foldl, eq_comm, Option.getD_eq_iff] at hlast
    rcases hlast with hlast | ⟨-, hnone⟩
    · exact h parent hparent hne hlast.symm
    · exact hne hnone.symm
  rw [values, states, statesFrom_append, hrestart, List.map_append]
  rfl

/-- Elements of one parent that come one after the other are numbered from one on. -/
theorem values_replicate (n : Nat) (key : κ) :
    values (List.replicate n (some key)) = List.range' 1 n := by
  have hfrom : ∀ n m : Nat, (statesFrom ⟨some key, m⟩ (List.replicate n (some key))).map State.value =
      List.range' (m + 1) n := by
    intro n
    induction n with
    | zero => exact fun _ => rfl
    | succ n ih =>
      intro m
      have hadvance : State.advance ⟨some key, m⟩ (some key) = ⟨some key, m + 1⟩ :=
        State.advance_same rfl
      rw [List.replicate_succ, statesFrom, hadvance, List.map_cons, ih, List.range'_succ]
  -- the first element is numbered one, and the others follow
  cases n with
  | zero => rfl
  | succ n =>
    rw [values, states, List.replicate_succ, statesFrom, State.advance_start, List.map_cons, hfrom,
      List.range'_succ]

/-! ## The elements of one parent -/

/-- The values of the elements of one parent, in order. -/
def valuesOf (key : κ) (parents : List (Option κ)) : List Nat :=
  ((parents.zip (values parents)).filter fun e => e.1 = some key).map Prod.snd

/-- Whether no other element lies between those of one parent. -/
def Unbroken (key : κ) (parents : List (Option κ)) : Prop :=
  ∀ xs parent ys, parents = xs ++ parent :: ys → some key ∈ xs → some key ∈ ys → parent = some key

theorem valuesOf_append (key : κ) {xs ys : List (Option κ)}
    (h : ∀ parent ∈ ys.head?, parent ≠ none → some parent ≠ xs.getLast?) :
    valuesOf key (xs ++ ys) = valuesOf key xs ++ valuesOf key ys := by
  unfold valuesOf
  rw [values_append h, List.zip_append (length_values xs).symm, List.filter_append,
    List.map_append]

theorem length_valuesOf (key : κ) (parents : List (Option κ)) :
    (valuesOf key parents).length = parents.count (some key) := by
  have hfst : (parents.zip (values parents)).map Prod.fst = parents :=
    List.map_fst_zip (Nat.le_of_eq (length_values parents).symm)
  have hcount := congrArg (List.count (some key)) hfst
  rw [valuesOf, List.length_map, ← List.countP_eq_length_filter, ← hcount, List.count,
    List.countP_map]
  apply List.countP_congr
  intro e _
  simp

theorem valuesOf_of_notMem {key : κ} {parents : List (Option κ)} (h : some key ∉ parents) :
    valuesOf key parents = [] := by
  rw [← List.length_eq_zero_iff, length_valuesOf, List.count_eq_zero]
  exact h

theorem valuesOf_replicate (n : Nat) (key : κ) :
    valuesOf key (List.replicate n (some key)) = List.range' 1 n := by
  have hall : ∀ e ∈ (List.replicate n (some key)).zip (List.range' 1 n),
      decide (e.1 = some key) = true := by
    intro e he
    rw [decide_eq_true_eq]
    exact List.eq_of_mem_replicate (List.of_mem_zip he).1
  unfold valuesOf
  rw [values_replicate, List.filter_eq_self.2 hall]
  exact List.map_snd_zip (by simp)

/-- The first of the elements of a parent is numbered one. -/
theorem head?_valuesOf {key : κ} {parents : List (Option κ)} (h : some key ∈ parents) :
    (valuesOf key parents).head? = some 1 := by
  rcases List.eq_append_cons_of_mem h with ⟨xs, ys, rfl, hxs⟩
  have hfirst : valuesOf key (some key :: ys) = 1 :: (valuesOf key (some key :: ys)).tail := by
    simp [valuesOf, values, states, statesFrom, State.advance_start]
  rw [valuesOf_append, valuesOf_of_notMem hxs, hfirst]
  · rfl
  · intro parent hparent _ hlast
    obtain rfl : some key = parent := by simpa using hparent
    exact hxs (List.mem_of_getLast? hlast.symm)

theorem unbroken_of_valuesOf_eq_range' {key : κ} {parents : List (Option κ)}
    (h : valuesOf key parents = List.range' 1 (valuesOf key parents).length) :
    Unbroken key parents := by
  intro xs parent ys hparents hxs hys
  refine Decidable.byContradiction fun hne => ?_
  -- the first element of the parent behind the other one is numbered one, as is the first of all
  rcases List.eq_append_cons_of_mem hys with ⟨us, vs, rfl, hus⟩
  have hsplit : valuesOf key parents =
      valuesOf key (xs ++ parent :: us) ++ valuesOf key (some key :: vs) := by
    rw [hparents, ← List.cons_append, ← List.append_assoc, valuesOf_append]
    intro p hp _ hlast
    obtain rfl : some key = p := by simpa using hp
    rw [List.getLast?_append, List.getLast?_cons, Option.some_or] at hlast
    cases hu : us.getLast? with
    | none =>
      rw [hu] at hlast
      exact hne (Option.some.inj hlast).symm
    | some last =>
      rw [hu] at hlast
      obtain rfl : some key = last := Option.some.inj hlast
      exact hus (List.mem_of_getLast? hu)
  have hone : 1 ∈ valuesOf key (xs ++ parent :: us) :=
    List.mem_of_head? (head?_valuesOf (List.mem_append_left _ hxs))
  have hagain : 1 ∈ valuesOf key (some key :: vs) :=
    List.mem_of_head? (head?_valuesOf List.mem_cons_self)
  have hnodup : (valuesOf key parents).Nodup := by
    rw [h]
    exact List.nodup_range'
  rw [hsplit, List.nodup_append] at hnodup
  exact hnodup.2.2 1 hone 1 hagain rfl

/-- If no other element lies between those of a parent, they are one run. -/
theorem Unbroken.exists_run {key : κ} {parents : List (Option κ)} (h : Unbroken key parents)
    (hmem : some key ∈ parents) :
    ∃ xs n ys, parents = xs ++ (List.replicate (n + 1) (some key) ++ ys) ∧
      some key ∉ xs ∧ some key ∉ ys := by
  rcases List.eq_append_cons_of_mem hmem with ⟨xs, ys, rfl, hxs⟩
  let run := ys.takeWhile (· = some key)
  have hys : ys = run ++ ys.dropWhile (· = some key) := List.takeWhile_append_dropWhile.symm
  have hrun : some key :: run = List.replicate (run.length + 1) (some key) := by
    rw [List.eq_replicate_iff]
    refine ⟨rfl, ?_⟩
    intro p hp
    rcases List.mem_cons.1 hp with rfl | hp
    · rfl
    · simpa using List.all_eq_true.1 List.all_takeWhile p hp
  refine ⟨xs, run.length, ys.dropWhile (· = some key), ?_, hxs, ?_⟩
  · rw [← hrun, List.cons_append, ← hys]
  · intro hrest
    cases hcons : ys.dropWhile (· = some key) with
    | nil =>
      rw [hcons] at hrest
      exact List.not_mem_nil hrest
    | cons p rest =>
      -- the run ends at an element of another parent, so none of the parent comes behind it
      have hp : p ≠ some key := by
        have hhead := List.head?_dropWhile_not (fun p => decide (p = some key)) ys
        rw [hcons] at hhead
        simpa using hhead
      rw [hcons] at hrest
      apply hp
      apply h (xs ++ some key :: run) p rest
      · rw [List.append_assoc, List.cons_append, ← hcons, ← hys]
      · exact List.mem_append_right _ List.mem_cons_self
      · exact (List.mem_cons.1 hrest).resolve_left (Ne.symm hp)

theorem valuesOf_of_unbroken {key : κ} {parents : List (Option κ)} (h : Unbroken key parents) :
    valuesOf key parents = List.range' 1 (valuesOf key parents).length := by
  by_cases hmem : some key ∈ parents
  · rcases h.exists_run hmem with ⟨xs, n, ys, rfl, hxs, hys⟩
    have hsplit : valuesOf key (xs ++ (List.replicate (n + 1) (some key) ++ ys)) =
        List.range' 1 (n + 1) := by
      rw [valuesOf_append, valuesOf_of_notMem hxs, valuesOf_append, valuesOf_replicate,
        valuesOf_of_notMem hys, List.append_nil, List.nil_append]
      · intro p hp _ hlast
        rw [List.getLast?_replicate, if_neg (Nat.succ_ne_zero _)] at hlast
        exact hys (List.mem_of_mem_head? (Option.some.inj hlast ▸ hp))
      · intro p hp _ hlast
        obtain rfl : some key = p := by simpa [List.replicate_succ] using hp
        exact hxs (List.mem_of_getLast? hlast.symm)
    rw [hsplit, List.length_range']
  · rw [valuesOf_of_notMem hmem]
    rfl

/-- The elements of a parent are numbered from one on without a gap just when no other element lies
between them. -/
theorem valuesOf_eq_range'_iff (key : κ) (parents : List (Option κ)) :
    valuesOf key parents = List.range' 1 (valuesOf key parents).length ↔ Unbroken key parents :=
  ⟨unbroken_of_valuesOf_eq_range', valuesOf_of_unbroken⟩

instance (key : κ) (parents : List (Option κ)) : Decidable (Unbroken key parents) :=
  decidable_of_iff _ (valuesOf_eq_range'_iff key parents)

/-! ## Counting under other names -/

variable {ι : Type} [DecidableEq ι]

/-- Counting goes by which parents are the same, and not by what they are. -/
theorem statesFrom_map {name : κ → ι} {keys : List κ}
    (hname : ∀ a ∈ keys, ∀ b ∈ keys, name a = name b → a = b) (s : State κ)
    (hs : ∀ a, s.lastParent = some a → a ∈ keys) (parents : List (Option κ))
    (hparents : ∀ a, some a ∈ parents → a ∈ keys) :
    (statesFrom ⟨s.lastParent.map name, s.value⟩ (parents.map (Option.map name))).map State.value =
      (statesFrom s parents).map State.value := by
  induction parents generalizing s with
  | nil => rfl
  | cons parent parents ih =>
    -- the parent is the last one just when it is so under the other names
    have hadvance : State.advance ⟨s.lastParent.map name, s.value⟩ (parent.map name) =
        ⟨(s.advance parent).lastParent.map name, (s.advance parent).value⟩ := by
      have hsame : (parent.map name ≠ none ∧ parent.map name = s.lastParent.map name) ↔
          (parent ≠ none ∧ parent = s.lastParent) := by
        cases hp : parent with
        | none => simp
        | some a =>
          cases hl : s.lastParent with
          | none => simp
          | some b =>
            have ha := hparents a (hp ▸ List.mem_cons_self)
            have hb := hs b hl
            have hab : name a = name b ↔ a = b := ⟨hname a ha b hb, congrArg name⟩
            simp [hab]
      unfold State.advance
      by_cases hc : parent ≠ none ∧ parent = s.lastParent
      · rw [if_pos (hsame.2 hc), if_pos hc]
      · rw [if_neg fun h => hc (hsame.1 h), if_neg hc]
    have hrest := ih (s.advance parent)
      (fun a ha => hparents a (by rw [← s.lastParent_advance parent, ha]; exact List.mem_cons_self))
      (fun a ha => hparents a (List.mem_cons_of_mem _ ha))
    simp only [List.map_cons, statesFrom, hadvance, hrest]

theorem values_map {name : κ → ι} {keys : List κ}
    (hname : ∀ a ∈ keys, ∀ b ∈ keys, name a = name b → a = b) (parents : List (Option κ))
    (hparents : ∀ a, some a ∈ parents → a ∈ keys) :
    values (parents.map (Option.map name)) = values parents :=
  statesFrom_map hname {} (fun a h => absurd h (by simp)) parents hparents

end GeneratedContent.Counter

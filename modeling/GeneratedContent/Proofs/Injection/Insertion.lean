import GeneratedContent.Proofs.Counter.Run
import GeneratedContent.Proofs.Injection.Marker

/-!
# Insertions

Carrying out rules is a run of insertions, one after the other: each puts the marker of a rule into
an element. From the list of insertions so far the page can be told (`Page.Reached`): it is the page
before the first of them, with the markers around what the elements hold. One insertion keeps this
(`Reached.mark`), so one rule does (`Reached.carryOut`), so all rules do (`Reached.run`).
-/

namespace GeneratedContent

open Html

/-- What happens when a marker is put into an element. -/
structure Insertion where
  /-- The rule. -/
  rule : Rule
  /-- The element that the rule applies to, where it stands when the rule comes to be carried out. -/
  target : Place
  /-- The value of the counter of the rule for the element, if there is one. -/
  counter : Option Nat
  /-- The number that the marker gets. -/
  number : Nat

/-- The marker that is put in. -/
def Insertion.marker (settings : Settings) (x : Insertion) : Node :=
  (x.rule.marker x.counter (Rule.markedAttributes x.target.attributes)).node settings x.number

/-- The one element of the marker is told from the others by its number and its attributes, and holds
one text or nothing. -/
theorem Insertion.of_mem_elements_marker {settings : Settings} {x : Insertion} {e : Element}
    (h : e ∈ (x.marker settings).elements) :
    e.id = x.number ∧ Marker.marks e.attributes = true ∧
      (e.contents = [] ∨ ∃ content, e.contents = [.text content]) := by
  rw [Insertion.marker, Marker.elements_node, List.mem_singleton] at h
  rw [h]
  refine ⟨rfl, Marker.marks_attributes _ _, ?_⟩
  by_cases htext : (x.rule.marker x.counter (Rule.markedAttributes x.target.attributes)).text = []
  · exact Or.inl (if_pos htext)
  · exact Or.inr ⟨_, if_neg htext⟩

/-- What insertions add to the elements of a page: the attributes of an element change as often as
it gets a marker; the markers of later insertions stand outside those of earlier ones. -/
def additions (settings : Settings) (log : List Insertion) : Additions where
  attributes := fun i a =>
    (log.filter fun x => x.target.id = i).foldl (fun a _ => Rule.markedAttributes a) a
  front := fun i =>
    ((log.filter fun x => x.target.id = i ∧ x.rule.placement = .before).map
      (Insertion.marker settings)).reverse
  back := fun i =>
    (log.filter fun x => x.target.id = i ∧ x.rule.placement = .after).map
      (Insertion.marker settings)

/-- The insertions for targets with their counters, with numbers from one on. -/
def Rule.insertionsFrom (r : Rule) : (number : Nat) → List (Place × Option Nat) → List Insertion
  | _, [] => []
  | number, t :: ts => ⟨r, t.1, t.2, number⟩ :: r.insertionsFrom (number + 1) ts

/-- The insertions of a rule. -/
def Rule.insertions (r : Rule) (number : Nat) (targets : List Place) : List Insertion :=
  r.insertionsFrom number (targets.zip (r.counters targets))

/-- The rules with their targets, each found in the page that the rules before have left. -/
def Html.Page.rounds (find : Rule → Page → List Place) (settings : Settings) :
    Page → List Rule → List (Rule × List Place)
  | _, [] => []
  | p, r :: rules =>
    (r, find r p) :: Page.rounds find settings (r.carryOut settings p (find r p)) rules

/-- The insertions of rules with their targets, with numbers from one on. -/
def insertions : (number : Nat) → List (Rule × List Place) → List Insertion
  | _, [] => []
  | number, t :: rounds =>
    t.1.insertions number t.2 ++ insertions (number + t.2.length) rounds

/-! ## Counting insertions -/

namespace Rule

/-- Every target has its own place in the count. -/
theorem length_counters (r : Rule) (targets : List Place) :
    (r.counters targets).length = targets.length := by
  unfold counters
  split
  · rw [List.length_map, Counter.length_values, List.length_map]
  · exact List.length_map _

@[simp] theorem length_insertionsFrom (r : Rule) (number : Nat) (ts : List (Place × Option Nat)) :
    (r.insertionsFrom number ts).length = ts.length := by
  induction ts generalizing number with
  | nil => rfl
  | cons t ts ih => simp only [insertionsFrom, List.length_cons, ih]

@[simp] theorem length_insertions (r : Rule) (number : Nat) (targets : List Place) :
    (r.insertions number targets).length = targets.length := by
  simp only [insertions, length_insertionsFrom, List.length_zip, length_counters, Nat.min_self]

theorem map_target_insertionsFrom (r : Rule) (number : Nat) (ts : List (Place × Option Nat)) :
    (r.insertionsFrom number ts).map (fun x => (x.rule, x.target)) = ts.map fun t => (r, t.1) := by
  induction ts generalizing number with
  | nil => rfl
  | cons t ts ih => simp only [insertionsFrom, List.map_cons, ih]

/-- A rule has one insertion for each of its targets, in their order. -/
theorem map_target_insertions (r : Rule) (number : Nat) (targets : List Place) :
    (r.insertions number targets).map (fun x => (x.rule, x.target)) =
      targets.map fun q => (r, q) := by
  have hzip : (targets.zip (r.counters targets)).map Prod.fst = targets :=
    List.map_fst_zip (Nat.le_of_eq (r.length_counters targets).symm)
  rw [insertions, map_target_insertionsFrom]
  calc (targets.zip (r.counters targets)).map (fun t => (r, t.1))
      = ((targets.zip (r.counters targets)).map Prod.fst).map fun q => (r, q) := by
        rw [List.map_map]
        rfl
    _ = targets.map fun q => (r, q) := by rw [hzip]

end Rule

/-- There is one insertion for each rule and each of its targets. -/
theorem map_target_insertions (number : Nat) (rounds : List (Rule × List Place)) :
    (insertions number rounds).map (fun x => (x.rule, x.target)) =
      rounds.flatMap fun t => t.2.map fun q => (t.1, q) := by
  induction rounds generalizing number with
  | nil => rfl
  | cons t rounds ih =>
    simp only [insertions, List.map_append, Rule.map_target_insertions, ih, List.flatMap_cons]

/-- Every insertion is for a target of one of the rules. -/
theorem exists_round_of_mem_insertions {number : Nat} {rounds : List (Rule × List Place)}
    {x : Insertion} (hx : x ∈ insertions number rounds) : ∃ round ∈ rounds, x.target ∈ round.2 := by
  have hpair := List.mem_map_of_mem (f := fun x => (x.rule, x.target)) hx
  rw [map_target_insertions, List.mem_flatMap] at hpair
  rcases hpair with ⟨round, hround, hpair⟩
  rcases List.mem_map.1 hpair with ⟨q, hq, hqx⟩
  have htarget : q = x.target := congrArg Prod.snd hqx
  exact ⟨round, hround, htarget ▸ hq⟩

/-- For every target of a rule there is an insertion. -/
theorem exists_insertion_of_mem_round {number : Nat} {rounds : List (Rule × List Place)}
    {round : Rule × List Place} (hround : round ∈ rounds) {q : Place} (hq : q ∈ round.2) :
    ∃ x ∈ insertions number rounds, x.target = q := by
  have hpair : (round.1, q) ∈ (insertions number rounds).map fun x => (x.rule, x.target) := by
    rw [map_target_insertions, List.mem_flatMap]
    exact ⟨round, hround, List.mem_map_of_mem hq⟩
  rcases List.mem_map.1 hpair with ⟨x, hx, hxq⟩
  exact ⟨x, hx, congrArg Prod.snd hxq⟩

/-! ## One more insertion -/

theorem additions_concat (settings : Settings) (log : List Insertion) (x : Insertion) :
    additions settings (log ++ [x]) =
      (additions settings log).extend x.target.id Rule.markedAttributes
        (x.rule.placement = .before) (x.marker settings) := by
  have hside : x.rule.placement = .after ↔ ¬ x.rule.placement = .before := by
    cases x.rule.placement <;> simp
  simp only [additions, Additions.extend, List.filter_append, List.map_append, List.reverse_append]
  congr 1
  · funext i a
    by_cases hi : x.target.id = i
    · simp [hi]
    · simp [hi, Ne.symm hi]
  · funext i
    by_cases hi : x.target.id = i
    · by_cases hb : x.rule.placement = .before <;> simp [hi, hb]
    · simp [hi, Ne.symm hi]
  · funext i
    by_cases hi : x.target.id = i
    · by_cases hb : x.rule.placement = .before <;> simp [hi, hb, hside]
    · simp [hi, Ne.symm hi]

/-- The elements that insertions add to the element with a number are their markers. -/
theorem mem_elements_additions {settings : Settings} {log : List Insertion} {i : Nat}
    {e : Element} (h : e ∈ (additions settings log).elements i) :
    ∃ x ∈ log, x.target.id = i ∧ e ∈ (x.marker settings).elements := by
  rcases List.mem_append.1 h with h | h
  all_goals
    rcases Node.mem_elementsAll.1 h with ⟨n, hn, he⟩
    simp only [additions, List.mem_reverse, List.mem_map, List.mem_filter, decide_eq_true_eq] at hn
    rcases hn with ⟨x, ⟨hx, hi, -⟩, rfl⟩
    exact ⟨x, hx, hi, he⟩

/-- The elements that insertions add are their markers, each once. -/
theorem perm_elements_additions {settings : Settings} {log : List Insertion} {is : List Nat}
    (hnodup : is.Nodup) (h : ∀ x ∈ log, x.target.id ∈ is) :
    (is.flatMap (additions settings log).elements).Perm
      (log.flatMap fun x => (x.marker settings).elements) := by
  -- insertions are added at the end, so the induction is on the list read backwards
  obtain ⟨l, rfl⟩ : ∃ l : List Insertion, log = l.reverse := ⟨log.reverse, by simp⟩
  induction l with
  | nil =>
    have hnone : ∀ js : List Nat, js.flatMap (additions settings []).elements = [] := by
      intro js
      induction js with
      | nil => rfl
      | cons j js ih =>
        rw [List.flatMap_cons, ih]
        rfl
    rw [List.reverse_nil, hnone, List.flatMap_nil]
  | cons x l ih =>
    rw [List.reverse_cons] at h ⊢
    have hl := ih fun y hy => h y (List.mem_append_left _ hy)
    have hx := h x (List.mem_append_right _ (List.mem_singleton_self x))
    rw [additions_concat, List.flatMap_append, List.flatMap_cons, List.flatMap_nil, List.append_nil]
    refine (Additions.perm_flatMap_extend _ _ _ _ hnodup hx).trans ?_
    exact (hl.append_left _).trans List.perm_append_comm

theorem id_notMem_additions {settings : Settings} {log : List Insertion} {i : Nat}
    (h : ∀ x ∈ log, x.number ≠ i) (j : Nat) :
    i ∉ Node.ids ((additions settings log).front j) ∧
      i ∉ Node.ids ((additions settings log).back j) := by
  -- all that is added are markers, and markers have the numbers of their insertions
  have hall : ∀ e ∈ (additions settings log).elements j, e.id ≠ i := by
    intro e he
    rcases mem_elements_additions he with ⟨x, hx, -, he⟩
    rw [(Insertion.of_mem_elements_marker he).1]
    exact h x hx
  constructor
  · intro hi
    rcases Node.mem_ids.1 hi with ⟨e, he, rfl⟩
    exact hall e (List.mem_append_left _ he) rfl
  · intro hi
    rcases Node.mem_ids.1 hi with ⟨e, he, rfl⟩
    exact hall e (List.mem_append_right _ he) rfl

/-- Insertions change the style of an element alone. -/
theorem beyondStyle_additions (settings : Settings) (log : List Insertion) (i : Nat)
    (a : Attributes) : ((additions settings log).attributes i a).beyondStyle = a.beyondStyle := by
  simp only [additions]
  induction log.filter (fun x => decide (x.target.id = i)) generalizing a with
  | nil => rfl
  | cons x xs ih => rw [List.foldl_cons, ih, Rule.beyondStyle_markedAttributes]

theorem marks_additions (settings : Settings) (log : List Insertion) (i : Nat) (a : Attributes) :
    Marker.marks ((additions settings log).attributes i a) = Marker.marks a := by
  simp only [additions]
  induction log.filter (fun x => decide (x.target.id = i)) generalizing a with
  | nil => rfl
  | cons x xs ih => rw [List.foldl_cons, ih, Rule.marks_markedAttributes]

/-! ## Pages that insertions lead to -/

/-- A page without markers, with numbers as they should be. -/
structure Html.Page.Plain (t : Page) : Prop extends t.WellNumbered where
  /-- No element is a marker. -/
  unmarked : ∀ e ∈ Node.elementsAll t.nodes, Marker.marks e.attributes = false

theorem Html.Page.WellNumbered.plain_withoutMarkers {p : Page} (h : p.WellNumbered) :
    p.withoutMarkers.Plain :=
  ⟨h.withoutMarkers, p.marks_withoutMarkers⟩

/-- Whether a page is what insertions have made of another one. -/
structure Html.Page.Reached (settings : Settings) (t : Page) (log : List Insertion) (p : Page) :
    Prop where
  /-- The elements stay, with the markers around what they hold. -/
  nodes : p.nodes = Node.enrichAll (additions settings log) t.nodes
  /-- Every insertion takes one number. -/
  nextId : p.nextId = t.nextId + log.length
  /-- The markers have the numbers that were free, in order. -/
  numbers : log.map Insertion.number = List.range' t.nextId log.length
  /-- Every marker goes into an element that was there before. -/
  targets : ∀ x ∈ log, x.target.id ∈ Node.ids t.nodes

namespace Html.Page.Reached

variable {settings : Settings} {t p : Page} {log : List Insertion}

theorem start (settings : Settings) (t : Page) : Reached settings t [] t where
  nodes := (Node.enrichAll_none t.nodes).symm
  nextId := rfl
  numbers := rfl
  targets := fun _ hx => absurd hx List.not_mem_nil

/-- The numbers of markers lie between those of the other elements and those still free. -/
theorem number_bounds (h : Reached settings t log p) {x : Insertion} (hx : x ∈ log) :
    t.nextId ≤ x.number ∧ x.number < p.nextId := by
  have hmem : x.number ∈ List.range' t.nextId log.length := by
    rw [← h.numbers]
    exact List.mem_map_of_mem hx
  rw [List.mem_range'_1] at hmem
  rw [h.nextId]
  exact hmem

/-- An element is either one of the page before, changed by the insertions, or a marker. -/
theorem mem_elements (h : Reached settings t log p) {e : Element}
    (he : e ∈ Node.elementsAll p.nodes) :
    (∃ d ∈ Node.elementsAll t.nodes, d.enrich (additions settings log) = e) ∨
      ∃ x ∈ log, e ∈ (x.marker settings).elements := by
  rw [h.nodes, Node.mem_elementsAll_enrichAll] at he
  rcases he with he | ⟨i, -, he⟩
  · exact Or.inl he
  · rcases mem_elements_additions he with ⟨x, hx, -, he⟩
    exact Or.inr ⟨x, hx, he⟩

/-- The elements after insertions: those before, changed by the insertions, and the markers. -/
theorem perm_elements (ht : t.Plain) (h : Reached settings t log p) :
    (Node.elementsAll p.nodes).Perm
      ((Node.elementsAll t.nodes).map (Element.enrich (additions settings log)) ++
        log.flatMap fun x => (x.marker settings).elements) := by
  rw [h.nodes]
  refine (Node.elementsAll_enrichAll _ _).trans ?_
  exact (perm_elements_additions ht.nodup h.targets).append_left _

/-- The numbers after insertions: those before, and those of the markers. -/
theorem perm_ids (ht : t.Plain) (h : Reached settings t log p) :
    (Node.ids p.nodes).Perm (Node.ids t.nodes ++ log.map Insertion.number) := by
  have hids := (h.perm_elements ht).map Element.id
  rw [List.map_append, List.map_map] at hids
  have hmarkers : (log.flatMap fun x => (x.marker settings).elements).map Element.id =
      log.map Insertion.number := by
    clear h hids
    induction log with
    | nil => rfl
    | cons x xs ih =>
      rw [List.flatMap_cons, List.map_append, ih, Insertion.marker, Marker.elements_node]
      rfl
  rw [hmarkers] at hids
  exact hids

/-- Insertions leave a page well numbered. -/
theorem wellNumbered (ht : t.Plain) (h : Reached settings t log p) : p.WellNumbered := by
  have hids := h.perm_ids ht
  have hbelow : ∀ i ∈ Node.ids t.nodes, i < p.nextId := by
    intro i hi
    have hi := ht.lt i hi
    have hnext := h.nextId
    omega
  constructor
  · rw [hids.nodup_iff, List.nodup_append]
    refine ⟨ht.nodup, ?_, ?_⟩
    · rw [h.numbers]
      exact List.nodup_range'
    · -- the numbers of markers were free in the page before
      intro i hi j hj
      rcases List.mem_map.1 hj with ⟨x, hx, rfl⟩
      have hlt := ht.lt i hi
      have hle := (h.number_bounds hx).1
      omega
  · intro i hi
    rcases List.mem_append.1 (hids.mem_iff.1 hi) with hi | hi
    · exact ht.pos i hi
    · rcases List.mem_map.1 hi with ⟨x, hx, rfl⟩
      exact Nat.lt_of_lt_of_le ht.next (h.number_bounds hx).1
  · intro i hi
    rcases List.mem_append.1 (hids.mem_iff.1 hi) with hi | hi
    · exact hbelow i hi
    · rcases List.mem_map.1 hi with ⟨x, hx, rfl⟩
      exact (h.number_bounds hx).2
  · have hnext := h.nextId
    have hpos := ht.next
    omega

end Html.Page.Reached

/-! ## One insertion after another -/

/-- Whether a place tells about an element what is so after insertions: it is an element of the page
before, and its attributes are what they have become. -/
structure Html.Place.UpToDate (settings : Settings) (t : Page) (log : List Insertion) (q : Place) :
    Prop where
  /-- The element was there before. -/
  mem : q.id ∈ Node.ids t.nodes
  /-- The attributes are those that the insertions have given it. -/
  attributes : ∀ d ∈ Node.elementsAll t.nodes, d.id = q.id →
    q.attributes = (additions settings log).attributes d.id d.attributes

theorem additions_concat_of_ne (settings : Settings) (log : List Insertion) {x : Insertion}
    {i : Nat} (h : i ≠ x.target.id) :
    (additions settings (log ++ [x])).attributes i = (additions settings log).attributes i := by
  funext a
  rw [additions_concat]
  show (if i = x.target.id then _ else _) = _
  rw [if_neg h]

/-- An insertion leaves places of other elements up to date. -/
theorem Html.Place.UpToDate.concat {settings : Settings} {t : Page} {log : List Insertion}
    {q : Place} (hq : q.UpToDate settings t log) {x : Insertion} (hne : q.id ≠ x.target.id) :
    q.UpToDate settings t (log ++ [x]) where
  mem := hq.mem
  attributes := by
    intro d hd hid
    rw [additions_concat_of_ne settings log (hid ▸ hne)]
    exact hq.attributes d hd hid

namespace Html.Page.Reached

variable {settings : Settings} {t p : Page} {log : List Insertion}

/-- Putting a marker into an element is one more insertion. -/
theorem mark (ht : t.Plain) (h : Reached settings t log p) {q : Place}
    (hq : q.UpToDate settings t log) (r : Rule) (counter : Option Nat) :
    Reached settings t (log ++ [⟨r, q, counter, p.nextId⟩]) (r.mark settings p q counter) := by
  have hqlt : q.id < t.nextId := ht.lt q.id hq.mem
  have hfree : ∀ x ∈ log, x.number ≠ q.id := by
    intro x hx
    have hle := (h.number_bounds hx).1
    omega
  -- the target is found by its number, and there its attributes are those of the place
  have hattributes : ∀ e ∈ Node.elementsAll p.nodes, e.id = q.id → e.attributes = q.attributes := by
    intro e he hid
    rcases h.mem_elements he with ⟨d, hd, rfl⟩ | ⟨x, hx, he⟩
    · exact (hq.attributes d hd hid).symm
    · rw [(Insertion.of_mem_elements_marker he).1] at hid
      exact absurd hid (hfree x hx)
  constructor
  · have hadded : ∀ j, q.id ∉ Node.ids ((additions settings log).front j) ∧
        q.id ∉ Node.ids ((additions settings log).back j) := id_notMem_additions hfree
    rw [additions_concat, ← Node.updateAll_enrichAll _ _ _ (fun j => (hadded j).1)
      (fun j => (hadded j).2), ← h.nodes]
    show Node.updateAll q.id _ (Node.updateAll q.id _ p.nodes) = _
    rw [Node.updateAll_updateAll]
    apply Node.updateAll_congr
    intro e he hid children
    rw [hattributes e he hid]
    rfl
  · show p.nextId + 1 = _
    rw [h.nextId, List.length_append, List.length_singleton, Nat.add_assoc]
  · rw [List.map_append, h.numbers, List.length_append, List.length_singleton,
      ← List.range'_append_1, List.range'_one, ← h.nextId]
    rfl
  · intro x hx
    rcases List.mem_append.1 hx with hx | hx
    · exact h.targets x hx
    · rw [List.mem_singleton.1 hx]
      exact hq.mem

/-- Putting markers into distinct elements is as many more insertions. -/
theorem markAll (ht : t.Plain) (h : Reached settings t log p) (r : Rule)
    (ts : List (Place × Option Nat)) (hnodup : (ts.map fun x => x.1.id).Nodup)
    (hts : ∀ x ∈ ts, x.1.UpToDate settings t log) :
    Reached settings t (log ++ r.insertionsFrom p.nextId ts)
      (ts.foldl (fun p x => r.mark settings p x.1 x.2) p) := by
  induction ts generalizing log p with
  | nil =>
    rw [Rule.insertionsFrom, List.append_nil]
    exact h
  | cons x ts ih =>
    rw [List.map_cons, List.nodup_cons] at hnodup
    have hmarked := h.mark ht (hts x List.mem_cons_self) r x.2
    -- the places of the targets still to come belong to other elements
    have hrest : ∀ y ∈ ts, y.1.UpToDate settings t (log ++ [⟨r, x.1, x.2, p.nextId⟩]) := by
      intro y hy
      have hne : y.1.id ≠ x.1.id := by
        intro e
        exact hnodup.1 (e ▸ List.mem_map_of_mem hy)
      exact (hts y (List.mem_cons_of_mem _ hy)).concat hne
    have hnext : (r.mark settings p x.1 x.2).nextId = p.nextId + 1 := rfl
    have hall := ih hmarked hnodup.2 hrest
    rw [hnext, List.append_assoc] at hall
    exact hall

/-- Carrying out a rule at distinct elements is one insertion for each of them. -/
theorem carryOut (ht : t.Plain) (h : Reached settings t log p) (r : Rule) (targets : List Place)
    (hnodup : (targets.map Place.id).Nodup)
    (htargets : ∀ q ∈ targets, q.UpToDate settings t log) :
    Reached settings t (log ++ r.insertions p.nextId targets) (r.carryOut settings p targets) := by
  have hzip : (targets.zip (r.counters targets)).map Prod.fst = targets :=
    List.map_fst_zip (Nat.le_of_eq (r.length_counters targets).symm)
  apply h.markAll ht
  · rw [← hzip, List.map_map] at hnodup
    exact hnodup
  · intro x hx
    apply htargets
    rw [← hzip]
    exact List.mem_map_of_mem hx

/-- A place in the page that is no marker is up to date. -/
theorem upToDate (ht : t.Plain) (h : Reached settings t log p) {q : Place}
    (hq : q ∈ p.place.descendants) (hu : Marker.marks q.attributes = false) :
    q.UpToDate settings t log := by
  rcases h.mem_elements (Place.mem_elementsAll_of_mem_descendants hq) with ⟨d, hd, hdq⟩ | ⟨x, hx, he⟩
  · have hid : d.id = q.id := congrArg Element.id hdq
    have hattributes := congrArg Element.attributes hdq
    constructor
    · exact Node.mem_ids.2 ⟨d, hd, hid⟩
    · intro d' hd' hid'
      rw [Node.eq_of_id_eq ht.nodup hd' hd (hid'.trans hid.symm)]
      exact hattributes.symm
  · -- the other elements are markers
    have hmarks : Marker.marks q.attributes = true := (Insertion.of_mem_elements_marker he).2.1
    exact absurd (hu.symm.trans hmarks) (by decide)

end Html.Page.Reached

/-! ## All rules -/

/-- Whether what is found for a rule in a page with numbers as they should be are elements of the
page, each found once, and no markers. -/
def FindsElements (find : Rule → Page → List Place) : Prop :=
  ∀ (r : Rule) (p : Page), p.WellNumbered → (find r p).Nodup ∧
    ∀ q ∈ find r p, q ∈ p.place.descendants ∧ Marker.marks q.attributes = false

namespace Html.Page.Reached

variable {settings : Settings} {t p : Page} {log : List Insertion} {find : Rule → Page → List Place}

/-- Carrying out a rule at the elements that are found for it is one insertion for each of them. -/
theorem round (hfind : FindsElements find) (ht : t.Plain) (h : Reached settings t log p)
    (r : Rule) :
    Reached settings t (log ++ r.insertions p.nextId (find r p))
      (r.carryOut settings p (find r p)) := by
  have hp := h.wellNumbered ht
  rcases hfind r p hp with ⟨hnodup, helements⟩
  apply h.carryOut ht
  · exact Place.nodup_map_id hp.nodup hnodup fun q hq => (helements q hq).1
  · intro q hq
    exact h.upToDate ht (helements q hq).1 (helements q hq).2

theorem nextId_round (hfind : FindsElements find) (ht : t.Plain) (h : Reached settings t log p)
    (r : Rule) : (r.carryOut settings p (find r p)).nextId = p.nextId + (find r p).length := by
  have hnext := (h.round hfind ht r).nextId
  rw [List.length_append, Rule.length_insertions, ← Nat.add_assoc, ← h.nextId] at hnext
  exact hnext

/-- Carrying out rules is a run of insertions, one for each rule and each of its targets. -/
theorem run (hfind : FindsElements find) (ht : t.Plain) (h : Reached settings t log p)
    (rules : List Rule) :
    Reached settings t (log ++ insertions p.nextId (p.rounds find settings rules))
      (rules.foldl (fun p r => r.carryOut settings p (find r p)) p) := by
  induction rules generalizing log p with
  | nil =>
    rw [Page.rounds, insertions, List.append_nil]
    exact h
  | cons r rules ih =>
    have hrest := ih (h.round hfind ht r)
    rw [h.nextId_round hfind ht r, List.append_assoc] at hrest
    exact hrest

/-- Every rule is carried out in a page that insertions have led to. -/
theorem of_mem_rounds (hfind : FindsElements find) (ht : t.Plain) (h : Reached settings t log p)
    {rules : List Rule} {x : Rule × List Place} (hx : x ∈ p.rounds find settings rules) :
    ∃ log' p', Reached settings t log' p' ∧ x.2 = find x.1 p' := by
  induction rules generalizing log p with
  | nil => exact absurd hx List.not_mem_nil
  | cons r rules ih =>
    rcases List.mem_cons.1 hx with rfl | hx
    · exact ⟨log, p, h, rfl⟩
    · exact ih (h.round hfind ht r) hx

/-- What lies around an element that is no marker is no marker either: markers hold no elements. -/
theorem marks_ancestors (ht : t.Plain) (h : Reached settings t log p) {q a : Place}
    (hq : q ∈ p.place.descendants) (ha : a ∈ q.ancestors) :
    Marker.marks a.attributes = false := by
  rcases Place.ancestors_of_mem_descendants hq ha with rfl | ⟨hmem, hinside⟩
  · rfl
  · rcases h.mem_elements (Place.mem_elementsAll_of_mem_descendants hmem) with
      ⟨d, hd, hda⟩ | ⟨x, hx, he⟩
    · have hattributes := congrArg Element.attributes hda
      rw [show a.attributes = a.element.attributes from rfl, ← hattributes]
      exact (marks_additions settings log d.id d.attributes).trans (ht.unmarked d hd)
    · -- a marker holds no elements
      have hnone : Node.elementsAll a.contents = [] := by
        rcases (Insertion.of_mem_elements_marker he).2.2 with hcontents | ⟨content, hcontents⟩
        · rw [show a.contents = [] from hcontents, Node.elementsAll_nil]
        · rw [show a.contents = [.text content] from hcontents]
          simp only [Node.elementsAll_cons, Node.elements_text, Node.elementsAll_nil,
            List.append_nil]
      have hmem := List.mem_map_of_mem (f := Place.element) hinside
      rw [Place.map_element_descendants, hnone] at hmem
      exact absurd hmem List.not_mem_nil

end Html.Page.Reached

end GeneratedContent

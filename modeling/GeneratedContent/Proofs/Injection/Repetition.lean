import GeneratedContent.Proofs.Html.Tidying
import GeneratedContent.Proofs.Injection.Growth
import GeneratedContent.Proofs.Injection.Layout
import GeneratedContent.Proofs.Selector.Ignoring

/-!
# Rules in pages that differ in their styles

Rules that do not look at styles do the same in two pages that differ in their numbers and their
styles alone: they find the same elements, count them in the same way and put the same markers into
them. So the insertions in one page are those in the other, renumbered (`run_alike`).
-/

namespace GeneratedContent

open Html

/-! ## Rules that do not look at styles -/

mutual

/-- Whether a content value does not ask for an attribute. -/
def Content.ignores (key : Text) : Content → Bool
  | .ofAttribute name => name ≠ key
  | .sequence parts => Content.allIgnore key parts
  | .literal _ => true
  | .counter _ _ => true
  | .empty => true

/-- Whether none of several content values asks for an attribute. -/
def Content.allIgnore (key : Text) : List Content → Bool
  | [] => true
  | part :: parts => part.ignores key && Content.allIgnore key parts

end

/-- Whether neither the selector nor the content of a rule asks for the style. -/
def Rule.ignoresStyle (r : Rule) : Bool :=
  (Selector.read? r.selector).all (Complex.allIgnore styleAttribute) &&
    r.content.ignores styleAttribute

/-- Attributes in the order of their names, without the style. -/
def Html.Attributes.bare (a : Attributes) : Attributes := Attributes.tidied a.beyondStyle

namespace Html.Attributes

theorem bare_tidied (a : Attributes) : a.tidied.bare = a.bare :=
  tidied_erase_tidied a styleAttribute

theorem bare_of_beyondStyle_eq {a b : Attributes} (h : a.beyondStyle = b.beyondStyle) :
    a.bare = b.bare := congrArg tidied h

theorem get?_bare (a : Attributes) {name : Text} (hname : name ≠ styleAttribute) :
    a.bare.get? name = a.get? name := by
  rw [bare, get?_tidied, beyondStyle]
  exact OrderedMap.get?_erase_of_ne a styleAttribute hname

theorem get?_of_bare_eq {a b : Attributes} (h : a.bare = b.bare) {name : Text}
    (hname : name ≠ styleAttribute) : a.get? name = b.get? name := by
  rw [← get?_bare a hname, h, get?_bare b hname]

end Html.Attributes

mutual

theorem Content.resolve_of_ignores {a b : Attributes} (h : a.bare = b.bare) :
    (c : Content) → c.ignores styleAttribute = true → c.resolve a.get? = c.resolve b.get?
  | .ofAttribute name => by
    intro hc
    have hname : name ≠ styleAttribute := by simpa [Content.ignores] using hc
    simp only [resolve, Attributes.get?_of_bare_eq h hname]
  | .sequence parts => by
    intro hc
    simp only [Content.ignores] at hc
    simp only [resolve, resolveAll_of_ignores h parts hc]
  | .literal _ => by
    intro _
    simp only [resolve]
  | .counter _ _ => by
    intro _
    simp only [resolve]
  | .empty => by
    intro _
    simp only [resolve]

theorem Content.resolveAll_of_ignores {a b : Attributes} (h : a.bare = b.bare) :
    (cs : List Content) → Content.allIgnore styleAttribute cs = true →
      resolveAll a.get? cs = resolveAll b.get? cs
  | [] => by
    intro _
    simp only [resolveAll]
  | c :: cs => by
    intro hc
    simp only [Content.allIgnore, Bool.and_eq_true] at hc
    simp only [resolveAll, resolve_of_ignores h c hc.1, resolveAll_of_ignores h cs hc.2]

end

/-- The marker of a rule that does not look at styles is the same whatever the style is. -/
theorem Rule.marker_of_ignoresStyle {r : Rule} (hr : r.ignoresStyle = true) (counter : Option Nat)
    {a b : Attributes} (h : a.bare = b.bare) : r.marker counter a = r.marker counter b := by
  rw [ignoresStyle, Bool.and_eq_true] at hr
  unfold marker
  simp only [Content.resolve_of_ignores h r.content hr.2]

/-! ## Pages that are alike -/

/-- Other numbers, and bare attributes. -/
def Html.Recasting.bare (id : Nat → Nat) : Recasting := ⟨id, Attributes.bare⟩

theorem Html.Recasting.keeps_bare (id : Nat → Nat) : (Recasting.bare id).Keeps styleAttribute := by
  intro a name hname
  show (Attributes.tidied a.beyondStyle).entries.find? _ = _
  rw [Attributes.find?_tidied]
  exact a.find?_beyondStyle (of_decide_eq_true hname)

theorem Html.marks_bare (a : Attributes) : Marker.marks a.bare = Marker.marks a := by
  unfold Marker.marks OrderedMap.contains
  rw [Attributes.get?_bare a (by decide)]

/-- Whether two pages are the same in a view of attributes when the first one is renumbered. -/
def Html.Page.Alike (view : Attributes → Attributes) (id : Nat → Nat) (p q : Page) : Prop :=
  Node.recastAll ⟨id, view⟩ p.nodes = Node.recastAll ⟨fun i => i, view⟩ q.nodes

theorem map_recast_filter {f : Recasting} {test : Place → Bool}
    (h : ∀ q : Place, test (q.recast f) = test q) (places : List Place) :
    (places.filter test).map (Place.recast f) = (places.map (Place.recast f)).filter test := by
  have htest : test ∘ Place.recast f = test := funext h
  rw [List.filter_map, htest]

theorem map_recast_unmarked (id : Nat → Nat) (places : List Place) :
    (unmarked places).map (Place.recast (.bare id)) =
      unmarked (places.map (Place.recast (.bare id))) := by
  apply map_recast_filter
  intro q
  cases q with
  | page nodes => rfl
  | inside parent before id name attributes children after =>
    exact congrArg not (marks_bare attributes)

theorem Rule.map_recast_targetsAmong {r : Rule} (hr : r.ignoresStyle = true) (id : Nat → Nat)
    (places : List Place) :
    (r.targetsAmong places).map (Place.recast (.bare id)) =
      r.targetsAmong (places.map (Place.recast (.bare id))) := by
  rw [ignoresStyle, Bool.and_eq_true] at hr
  unfold targetsAmong
  split
  · rename_i s hs
    have hignores : Complex.allIgnore styleAttribute s = true := by simpa [hs] using hr.1
    rw [map_recast_unmarked,
      map_recast_filter (Complex.anyHolds_recast (Recasting.keeps_bare id) s hignores)]
  · split
    · rw [map_recast_unmarked, map_recast_filter]
      intro q
      rw [Place.name_recast]
    · rfl

/-- In pages that are alike a rule that does not look at styles applies to the same elements. -/
theorem Rule.map_recast_targets {r : Rule} (hr : r.ignoresStyle = true) {id : Nat → Nat} {p q : Page}
    (h : p.Alike Attributes.bare id q) :
    (r.targets p).map (Place.recast (.bare id)) =
      (r.targets q).map (Place.recast (.bare fun i => i)) := by
  have hplace : p.place.recast (.bare id) = q.place.recast (.bare fun i => i) := congrArg Place.page h
  have hdescendants : p.place.descendants.map (Place.recast (.bare id)) =
      q.place.descendants.map (Place.recast (.bare fun i => i)) := by
    rw [← Place.descendants_recast, ← Place.descendants_recast, hplace]
  rw [targets_eq_targetsAmong, targets_eq_targetsAmong, map_recast_targetsAmong hr,
    map_recast_targetsAmong hr, hdescendants]

/-! ## Traces of insertions -/

/-- What an insertion leaves in a page: a marker in an element, before or behind what it holds. -/
structure Trace where
  /-- The number of the element. -/
  target : Nat
  /-- Where the marker stands. -/
  placement : Placement
  /-- The marker. -/
  marker : Node

/-- The trace in a page with other numbers. -/
def Trace.renumber (id : Nat → Nat) (t : Trace) : Trace :=
  ⟨id t.target, t.placement, t.marker.recast (.renumbering id)⟩

/-- The trace that an insertion leaves. -/
def Insertion.trace (settings : Settings) (x : Insertion) : Trace :=
  ⟨x.target.id, x.rule.placement, x.marker settings⟩

/-- The traces of insertions, with other numbers. -/
def traces (settings : Settings) (id : Nat → Nat) (log : List Insertion) : List Trace :=
  log.map fun x => (x.trace settings).renumber id

theorem Marker.recast_node (settings : Settings) (m : Marker) (number : Nat) (id : Nat → Nat) :
    (m.node settings number).recast (.renumbering id) = m.node settings (id number) := by
  unfold Marker.node
  rw [Node.recast_element]
  split <;> simp [Recasting.renumbering]

theorem filter_traces {settings : Settings} {id : Nat → Nat} {log : List Insertion}
    (keeps : Trace → Bool) {test : Insertion → Bool}
    (h : ∀ x ∈ log, keeps ((x.trace settings).renumber id) = test x) :
    (traces settings id log).filter keeps = traces settings id (log.filter test) := by
  unfold traces
  rw [List.filter_map]
  congr 1
  exact List.filter_congr h

theorem map_marker_traces (settings : Settings) (id : Nat → Nat) (log : List Insertion) :
    (traces settings id log).map Trace.marker =
      Node.recastAll (.renumbering id) (log.map (Insertion.marker settings)) := by
  rw [traces, Node.recastAll_eq_map, List.map_map, List.map_map]
  rfl

/-- How many insertions there are for an element. -/
def countAt (log : List Insertion) (i : Nat) : Nat := (log.filter fun x => x.target.id = i).length

theorem countAt_pos_iff {log : List Insertion} {i : Nat} :
    0 < countAt log i ↔ ∃ x ∈ log, x.target.id = i := by
  unfold countAt
  rw [List.length_pos_iff_exists_mem]
  simp only [List.mem_filter, decide_eq_true_eq]

/-- The attributes change as often as there are insertions for the element. -/
theorem additions_attributes (settings : Settings) (log : List Insertion) (i : Nat) :
    (additions settings log).attributes i = Rule.markedAttributes^[countAt log i] := by
  funext a
  exact List.foldl_const _ a _

/-- Insertions with the same traces, up to numbers, add the same to an element. -/
theorem additions_of_traces_eq {settings : Settings} {id : Nat → Nat} {log log' : List Insertion}
    (h : traces settings id log = traces settings (fun i => i) log') {i : Nat}
    (hi : ∀ x ∈ log, id x.target.id = id i → x.target.id = i) :
    (additions settings log).attributes i = (additions settings log').attributes (id i) ∧
      Node.recastAll (.renumbering id) ((additions settings log).front i) =
        (additions settings log').front (id i) ∧
      Node.recastAll (.renumbering id) ((additions settings log).back i) =
        (additions settings log').back (id i) := by
  have htarget : ∀ x ∈ log, (id x.target.id = id i ↔ x.target.id = i) := by
    intro x hx
    exact ⟨hi x hx, congrArg id⟩
  -- the insertions for the element are told by their traces
  have hfilter : ∀ side : Placement → Bool,
      traces settings id (log.filter fun x => x.target.id = i ∧ side x.rule.placement = true) =
        traces settings (fun i => i)
          (log'.filter fun x => x.target.id = id i ∧ side x.rule.placement = true) := by
    intro side
    rw [← filter_traces fun t => t.target = id i ∧ side t.placement = true, h, filter_traces]
    · intro x _
      rfl
    · intro x hx
      simp only [Insertion.trace, Trace.renumber, htarget x hx]
  have hmarkers : ∀ side : Placement → Bool,
      Node.recastAll (.renumbering id)
          ((log.filter fun x => x.target.id = i ∧ side x.rule.placement = true).map
            (Insertion.marker settings)) =
        (log'.filter fun x => x.target.id = id i ∧ side x.rule.placement = true).map
          (Insertion.marker settings) := by
    intro side
    have hside := congrArg (List.map Trace.marker) (hfilter side)
    rwa [map_marker_traces, map_marker_traces, Node.recastAll_self] at hside
  refine ⟨?_, ?_, ?_⟩
  · have hlength := congrArg List.length (hfilter fun _ => true)
    simp only [traces, List.length_map, and_true] at hlength
    rw [additions_attributes, additions_attributes, countAt, countAt, hlength]
  · have hfront := hmarkers fun side => side = .before
    simp only [decide_eq_true_eq] at hfront
    rw [Node.recastAll_eq_map] at hfront ⊢
    simp only [additions, List.map_reverse, hfront]
  · have hback := hmarkers fun side => side = .after
    simp only [decide_eq_true_eq] at hback
    exact hback

/-! ## Insertions in pages that are alike -/

theorem Html.Place.attributes_recast_bare (id : Nat → Nat) (q : Place) :
    (q.recast (.bare id)).attributes = q.attributes.bare := by
  cases q with
  | page nodes =>
    show (OrderedMap.empty : Attributes) = Attributes.bare OrderedMap.empty
    decide
  | inside parent before id name attributes children after => rfl

theorem Html.Place.parent_id_recast {f : Recasting} (h : f.id 0 = 0) (q : Place) :
    (q.recast f).parent?.map Place.id = (q.parent?.map Place.id).map f.id := by
  rw [parent?_recast, Option.map_map, Option.map_map]
  congr 1
  funext a
  exact id_recast f h a

section Alike

variable {settings : Settings} {id : Nat → Nat} {r : Rule}

/-- A rule counts its targets in the same way in pages that are alike. -/
theorem Rule.counters_alike (keys : List Nat) {targets targets' : List Place} (hzero : id 0 = 0)
    (h : targets.map (Place.recast (.bare id)) = targets'.map (Place.recast (.bare fun i => i)))
    (hid : ∀ i ∈ keys, ∀ j ∈ keys, id i = id j → i = j)
    (hkeys : ∀ q ∈ targets, ∀ a, q.parent? = some a → a.id ∈ keys) :
    r.counters targets = r.counters targets' := by
  -- the targets have the same parents, but for their numbers
  have hparents : (targets.map fun q => q.parent?.map Place.id).map (Option.map id) =
      targets'.map fun q => q.parent?.map Place.id := by
    have hmap := congrArg (List.map fun q => q.parent?.map Place.id) h
    rw [List.map_map, List.map_map] at hmap
    rw [List.map_map]
    calc targets.map _
        = targets.map ((fun q => q.parent?.map Place.id) ∘ Place.recast (.bare id)) := by
          apply List.map_congr_left
          intro q _
          exact (Place.parent_id_recast (f := .bare id) hzero q).symm
      _ = targets'.map ((fun q => q.parent?.map Place.id) ∘ Place.recast (.bare fun i => i)) := hmap
      _ = targets'.map fun q => q.parent?.map Place.id := by
          apply List.map_congr_left
          intro q _
          show (q.recast _).parent?.map Place.id = _
          rw [Place.parent_id_recast rfl]
          exact Option.map_id'
  unfold counters
  split
  · rw [← hparents, Counter.values_map hid]
    intro a ha
    rcases List.mem_map.1 ha with ⟨q, hq, hparent⟩
    rcases Option.map_eq_some_iff.1 hparent with ⟨place, hplace, rfl⟩
    exact hkeys q hq place hplace
  · have hmap := congrArg (List.map fun _ : Place => (none : Option Nat)) h
    rwa [List.map_map, List.map_map] at hmap

theorem Rule.traces_insertionsFrom (hr : r.ignoresStyle = true) (hzero : id 0 = 0) {m n : Nat}
    (hnext : ∀ j, id (m + j) = n + j) {ts ts' : List (Place × Option Nat)}
    (h : ts.map (fun t => (t.1.recast (.bare id), t.2)) =
      ts'.map fun t => (t.1.recast (.bare fun i => i), t.2)) :
    traces settings id (r.insertionsFrom m ts) =
      traces settings (fun i => i) (r.insertionsFrom n ts') := by
  induction ts generalizing ts' m n with
  | nil =>
    obtain rfl : ts' = [] := by simpa using h.symm
    rfl
  | cons t ts ih =>
    cases ts' with
    | nil => simp at h
    | cons t' ts' =>
      simp only [List.map_cons, List.cons.injEq, Prod.mk.injEq] at h
      rcases h with ⟨⟨hplace, hcounter⟩, hrest⟩
      have hid : id t.1.id = t'.1.id := by
        have hids := congrArg Place.id hplace
        rwa [Place.id_recast (.bare id) hzero, Place.id_recast (.bare fun i => i) rfl] at hids
      -- with its style out of sight the element is the same in both pages, so its marker is
      have hattributes : (markedAttributes t.1.attributes).bare =
          (markedAttributes t'.1.attributes).bare := by
        have hbare := congrArg Place.attributes hplace
        rw [Place.attributes_recast_bare, Place.attributes_recast_bare] at hbare
        rw [Attributes.bare_of_beyondStyle_eq (beyondStyle_markedAttributes t.1.attributes),
          Attributes.bare_of_beyondStyle_eq (beyondStyle_markedAttributes t'.1.attributes), hbare]
      have hmarker := marker_of_ignoresStyle hr t'.2 hattributes
      have hnumber : id m = n := hnext 0
      have hstep : ∀ j, id (m + 1 + j) = n + 1 + j := by
        intro j
        have := hnext (1 + j)
        rwa [← Nat.add_assoc, ← Nat.add_assoc] at this
      have hhead : (Insertion.trace settings ⟨r, t.1, t.2, m⟩).renumber id =
          (Insertion.trace settings ⟨r, t'.1, t'.2, n⟩).renumber fun i => i := by
        simp only [Insertion.trace, Trace.renumber, Insertion.marker, Marker.recast_node, hid,
          hmarker, hcounter, hnumber]
      have htail := ih hstep hrest
      unfold traces at htail ⊢
      simp only [insertionsFrom, List.map_cons, hhead, htail]

end Alike

/-! ## Runs in pages that are alike -/

/-- Whether numbers turn those of one page into those of another: those of the elements in document
order, and those that are free. -/
structure Renumbers (id : Nat → Nat) (t t' : Page) : Prop where
  /-- The number of the page stays. -/
  zero : id 0 = 0
  /-- The numbers of the elements. -/
  ids : (Node.ids t.nodes).map id = Node.ids t'.nodes
  /-- The free numbers. -/
  next : ∀ j, id (t.nextId + j) = t'.nextId + j

/-- Whether a number is that of a page, of an element or free. -/
def Html.Page.Knows (t : Page) (i : Nat) : Prop := i = 0 ∨ i ∈ Node.ids t.nodes ∨ t.nextId ≤ i

/-- The three kinds of numbers stay apart, and so do the numbers of each kind. -/
theorem Renumbers.injective {id : Nat → Nat} {t t' : Page} (h : Renumbers id t t')
    (ht' : t'.WellNumbered) {i j : Nat} (hi : t.Knows i) (hj : t.Knows j) (hij : id i = id j) :
    i = j := by
  have hzero := h.zero
  -- elements go to elements, and free numbers to free numbers
  have hold : ∀ k ∈ Node.ids t.nodes, 0 < id k ∧ id k < t'.nextId := by
    intro k hk
    have hmem : id k ∈ Node.ids t'.nodes := h.ids ▸ List.mem_map_of_mem hk
    exact ⟨ht'.pos _ hmem, ht'.lt _ hmem⟩
  have hfree : ∀ k, t.nextId ≤ k → id k = t'.nextId + (k - t.nextId) := by
    intro k hk
    have hnext := h.next (k - t.nextId)
    rwa [Nat.add_sub_cancel' hk] at hnext
  have hpos := ht'.next
  rcases hi with rfl | hi | hi <;> rcases hj with rfl | hj | hj
  case inl.inl => rfl
  case inl.inr.inl =>
    have hbounds := hold j hj
    omega
  case inl.inr.inr =>
    have hnext := hfree j hj
    omega
  case inr.inl.inl =>
    have hbounds := hold i hi
    omega
  case inr.inl.inr.inl =>
    have hnodup : ((Node.ids t.nodes).map id).Nodup := h.ids ▸ ht'.nodup
    exact List.inj_on_of_nodup_map hnodup hi hj hij
  case inr.inl.inr.inr =>
    have hbounds := hold i hi
    have hnext := hfree j hj
    omega
  case inr.inr.inl =>
    have hnext := hfree i hi
    omega
  case inr.inr.inr.inl =>
    have hbounds := hold j hj
    have hnext := hfree i hi
    omega
  case inr.inr.inr.inr =>
    have hnext := hfree i hi
    have hnext' := hfree j hj
    omega

/-- Pages of the same shape are alike up to numbers, whatever is free in them. -/
theorem Html.Page.exists_renumbers {t t' : Page} (ht : t.WellNumbered)
    (h : Node.shape t.nodes = Node.shape t'.nodes) :
    ∃ id, Renumbers id t t' ∧ t.Alike Attributes.tidied id t' := by
  rcases exists_map_eq ht.nodup (Node.length_ids_of_shape_eq h) with ⟨old, hold⟩
  let id : Nat → Nat := fun i =>
    if i = 0 then 0 else if i < t.nextId then old i else t'.nextId + (i - t.nextId)
  have hids : (Node.ids t.nodes).map id = Node.ids t'.nodes := by
    rw [← hold]
    apply List.map_congr_left
    intro i hi
    have hpos := ht.pos i hi
    show (if i = 0 then _ else _) = _
    rw [if_neg (by omega), if_pos (ht.lt i hi)]
  have hnext : ∀ j, id (t.nextId + j) = t'.nextId + j := by
    intro j
    have hpos := ht.next
    show (if t.nextId + j = 0 then _ else _) = _
    rw [if_neg (by omega), if_neg (by omega), Nat.add_sub_cancel_left]
  exact ⟨id, ⟨if_pos rfl, hids, hnext⟩, Node.recastAll_of_shape_eq t.nodes t'.nodes h hids⟩

section Runs

variable {settings : Settings} {id : Nat → Nat} {t t' p p' : Page} {log log' : List Insertion}

theorem Html.Page.Reached.knows (ht : t.Plain) (h : Page.Reached settings t log p) {i : Nat}
    (hi : i ∈ Node.ids p.nodes) : t.Knows i := by
  rcases List.mem_append.1 ((h.perm_ids ht).mem_iff.1 hi) with hi | hi
  · exact Or.inr (Or.inl hi)
  · rcases List.mem_map.1 hi with ⟨x, hx, rfl⟩
    exact Or.inr (Or.inr (h.number_bounds hx).1)

/-- Whether what a view shows of attributes tells what it shows of them once there is a marker. -/
structure Html.Attributes.View (view : Attributes → Attributes) : Prop where
  /-- What the view shows has the same view. -/
  idem : ∀ a, view (view a) = view a
  /-- Attributes that look the same still do when there is a marker. -/
  marked : ∀ a b, view a = view b →
    view (Rule.markedAttributes a) = view (Rule.markedAttributes b)

theorem Html.Attributes.view_bare : View bare where
  idem := fun a => by
    calc a.beyondStyle.tidied.bare
        = a.beyondStyle.bare := bare_tidied a.beyondStyle
      _ = a.bare := bare_of_beyondStyle_eq (OrderedMap.erase_erase a styleAttribute)
  marked := fun a b h => by
    rw [bare_of_beyondStyle_eq (Rule.beyondStyle_markedAttributes a),
      bare_of_beyondStyle_eq (Rule.beyondStyle_markedAttributes b), h]

theorem Html.Attributes.view_tidied : View tidied where
  idem := tidied_tidied
  marked := fun a b h => by
    have hstyle : a.get? styleAttribute = b.get? styleAttribute := by
      rw [← get?_tidied a, h, get?_tidied b]
    have hread : Style.ofAttributes a = Style.ofAttributes b := by
      unfold Style.ofAttributes
      rw [hstyle]
    by_cases hpos : (Style.ofAttributes a).Positioned
    · have hpos' : (Style.ofAttributes b).Positioned := hread ▸ hpos
      rw [Rule.markedAttributes_of_positioned hpos, Rule.markedAttributes_of_positioned hpos', h]
    · have hpos' : ¬ (Style.ofAttributes b).Positioned := hread ▸ hpos
      rw [Rule.markedAttributes_of_not_positioned hpos,
        Rule.markedAttributes_of_not_positioned hpos']
      unfold Style.addTo
      have hname : Text.lowerAscii styleAttribute = styleAttribute := by decide
      rw [← tidied_insert_tidied a hname, ← tidied_insert_tidied b hname, h, hstyle]

theorem Html.Attributes.View.additions {view : Attributes → Attributes} (hview : View view)
    (log : List Insertion) (i : Nat) {a b : Attributes} (h : view a = view b) :
    view ((GeneratedContent.additions settings log).attributes i a) =
      view ((GeneratedContent.additions settings log).attributes i b) := by
  rw [additions_attributes]
  generalize countAt log i = n
  induction n generalizing a b with
  | zero => exact h
  | succ n ih =>
    rw [Function.iterate_succ_apply, Function.iterate_succ_apply]
    exact ih (hview.marked a b h)

/-- Insertions with the same traces lead from pages that are alike to pages that are alike. -/
theorem Html.Page.Reached.alike {view : Attributes → Attributes} (hview : Attributes.View view)
    (ht' : t'.WellNumbered) (hid : Renumbers id t t') (halike : t.Alike view id t')
    (h : Page.Reached settings t log p) (h' : Page.Reached settings t' log' p')
    (htraces : traces settings id log = traces settings (fun i => i) log') :
    p.Alike view id p' := by
  -- what the insertions in the second page add, as it is seen
  let seen : Additions :=
    { attributes := fun i a => view ((additions settings log').attributes i a)
      front := fun i => Node.recastAll ⟨fun i => i, view⟩ ((additions settings log').front i)
      back := fun i => Node.recastAll ⟨fun i => i, view⟩ ((additions settings log').back i) }
  have hp' : Node.recastAll ⟨fun i => i, view⟩ p'.nodes =
      Node.enrichAll seen (Node.recastAll ⟨fun i => i, view⟩ t'.nodes) := by
    rw [h'.nodes]
    apply Node.recastAll_enrichAll
    intro e _
    exact ⟨hview.additions log' e.id (hview.idem e.attributes).symm, rfl, rfl⟩
  have hp : Node.recastAll ⟨id, view⟩ p.nodes =
      Node.enrichAll seen (Node.recastAll ⟨id, view⟩ t.nodes) := by
    rw [h.nodes]
    apply Node.recastAll_enrichAll
    intro e he
    have hmem : e.id ∈ Node.ids t.nodes := Node.mem_ids.2 ⟨e, he, rfl⟩
    obtain ⟨hattributes, hfront, hback⟩ := additions_of_traces_eq htraces (i := e.id) fun x hx =>
      hid.injective ht' (Or.inr (Or.inl (h.targets x hx))) (Or.inr (Or.inl hmem))
    refine ⟨?_, ?_, ?_⟩
    · show view ((additions settings log).attributes e.id e.attributes) =
        view ((additions settings log').attributes (id e.id) (view e.attributes))
      rw [hattributes]
      exact hview.additions log' (id e.id) (hview.idem e.attributes).symm
    · show _ = Node.recastAll ⟨fun i => i, view⟩ ((additions settings log').front (id e.id))
      rw [← hfront, Node.recastAll_recastAll]
      rfl
    · show _ = Node.recastAll ⟨fun i => i, view⟩ ((additions settings log').back (id e.id))
      rw [← hback, Node.recastAll_recastAll]
      rfl
  unfold Page.Alike
  rw [hp, hp', show Node.recastAll ⟨id, view⟩ t.nodes = _ from halike]

/-- A rule that does not look at styles leaves the same traces in pages that are alike. -/
theorem round_alike (ht : t.Plain) (ht' : t'.Plain) (hid : Renumbers id t t')
    (halike : t.Alike Attributes.bare id t') (h : Page.Reached settings t log p)
    (h' : Page.Reached settings t' log' p')
    (htraces : traces settings id log = traces settings (fun i => i) log') {r : Rule}
    (hr : r.ignoresStyle = true) :
    traces settings id (log ++ r.insertions p.nextId (r.targets p)) =
      traces settings (fun i => i) (log' ++ r.insertions p'.nextId (r.targets p')) := by
  have hp := h.wellNumbered ht
  have htargets := Rule.map_recast_targets hr (h.alike Attributes.view_bare ht'.toWellNumbered hid halike h' htraces)
  have hlength : log.length = log'.length := by
    have hlengths := congrArg List.length htraces
    simpa only [traces, List.length_map] using hlengths
  have hnext : ∀ j, id (p.nextId + j) = p'.nextId + j := by
    intro j
    rw [h.nextId, h'.nextId, ← hlength, Nat.add_assoc, Nat.add_assoc]
    exact hid.next (log.length + j)
  -- parents are elements of the page or the page itself, so renumbering keeps them apart
  have hcounters : r.counters (r.targets p) = r.counters (r.targets p') := by
    apply Rule.counters_alike (0 :: Node.ids p.nodes) hid.zero htargets
    · intro i hi j hj hij
      have hknows : ∀ k ∈ 0 :: Node.ids p.nodes, t.Knows k := by
        intro k hk
        rcases List.mem_cons.1 hk with rfl | hk
        · exact Or.inl rfl
        · exact h.knows ht hk
      exact hid.injective ht'.toWellNumbered (hknows i hi) (hknows j hj) hij
    · intro q hq a ha
      have hmem := ((findsElements_targets r p hp).2 q hq).1
      have hancestor : a ∈ q.ancestors := by
        cases q with
        | page nodes => exact absurd ha (by simp [Place.parent?])
        | inside parent before id name attributes children after =>
          obtain rfl : parent = a := Option.some.inj ha
          exact List.mem_cons_self
      rcases Place.ancestors_of_mem_descendants hmem hancestor with rfl | ⟨ha, -⟩
      · exact List.mem_cons_self
      · have hids := List.mem_map_of_mem (f := Place.id) ha
        rw [Place.map_id_descendants] at hids
        exact List.mem_cons_of_mem _ hids
  -- the same elements are found in the same order, with the same counters
  have hnew : traces settings id (r.insertions p.nextId (r.targets p)) =
      traces settings (fun i => i) (r.insertions p'.nextId (r.targets p')) := by
    apply Rule.traces_insertionsFrom hr hid.zero hnext
    have hzip := congrArg (fun places => places.zip (r.counters (r.targets p))) htargets
    rw [hcounters] at hzip ⊢
    rw [List.zip_map_left, List.zip_map_left] at hzip
    exact hzip
  unfold traces at htraces hnew ⊢
  rw [List.map_append, List.map_append, htraces, hnew]

/-- Rules that do not look at styles leave the same traces in pages that are alike. -/
theorem run_alike (ht : t.Plain) (ht' : t'.Plain) (hid : Renumbers id t t')
    (halike : t.Alike Attributes.bare id t') (h : Page.Reached settings t log p)
    (h' : Page.Reached settings t' log' p')
    (htraces : traces settings id log = traces settings (fun i => i) log') {rules : List Rule}
    (hrules : ∀ r ∈ rules, r.ignoresStyle = true) :
    traces settings id (log ++ insertions p.nextId (p.rounds Rule.targets settings rules)) =
      traces settings (fun i => i)
        (log' ++ insertions p'.nextId (p'.rounds Rule.targets settings rules)) := by
  induction rules generalizing log log' p p' with
  | nil =>
    simp only [Page.rounds, insertions, List.append_nil]
    exact htraces
  | cons r rules ih =>
    have hround := round_alike ht ht' hid halike h h' htraces (hrules r List.mem_cons_self)
    have hrest := ih (h.round findsElements_targets ht r) (h'.round findsElements_targets ht' r)
      hround fun r' hr' => hrules r' (List.mem_cons_of_mem _ hr')
    rw [h.nextId_round findsElements_targets ht r, h'.nextId_round findsElements_targets ht' r,
      List.append_assoc, List.append_assoc] at hrest
    exact hrest

end Runs

end GeneratedContent

import GeneratedContent.Proofs.Content.Items
import GeneratedContent.Proofs.Counter.Run
import GeneratedContent.Proofs.Injection.Layout

/-!
# Counters among siblings

A rule with a counter numbers its targets in document order. The numbers that the children of one
element get run from one on, without a gap, just when no other target lies between those children
(`Page.counted_inject`). A list inside an item of another list is between that item and the next one,
so behind it the outer list starts over (`Page.not_counted_nested`).
-/

namespace GeneratedContent

open Html

/-! ## Markers of siblings -/

/-- The number of the parent of an element. -/
def Html.Place.parentId? (q : Place) : Option Nat := q.parent?.map Place.id

/-- The insertions for the children of an element. -/
def insertionsUnder (parent : Nat) (log : List Insertion) : List Insertion :=
  log.filter fun x => x.target.parentId? = some parent

/-- The text of the marker that is put in. -/
def Insertion.text (x : Insertion) : Text :=
  (x.rule.marker x.counter (Rule.markedAttributes x.target.attributes)).text

namespace Rule

theorem map_counter_insertionsFrom (r : Rule) (number : Nat) (ts : List (Place × Option Nat)) :
    (r.insertionsFrom number ts).map (fun x => (x.target, x.counter)) = ts := by
  induction ts generalizing number with
  | nil => rfl
  | cons t ts ih => rw [insertionsFrom, List.map_cons, ih]

theorem rule_of_mem_insertionsFrom {r : Rule} {number : Nat} {ts : List (Place × Option Nat)}
    {x : Insertion} (hx : x ∈ r.insertionsFrom number ts) : x.rule = r := by
  induction ts generalizing number with
  | nil => exact absurd hx List.not_mem_nil
  | cons t ts ih =>
    rcases List.mem_cons.1 hx with rfl | hx
    · rfl
    · exact ih hx

theorem rule_of_mem_insertions {r : Rule} {number : Nat} {targets : List Place}
    {x : Insertion} (hx : x ∈ r.insertions number targets) : x.rule = r :=
  rule_of_mem_insertionsFrom hx

/-- The targets among the children of an element, each with its insertion. -/
theorem map_target_insertionsUnder (r : Rule) (number parent : Nat) (targets : List Place) :
    (insertionsUnder parent (r.insertions number targets)).map Insertion.target =
      targets.filter fun q => q.parentId? = some parent := by
  have htargets : (r.insertions number targets).map Insertion.target = targets := by
    have h := congrArg (List.map Prod.snd) (r.map_target_insertions number targets)
    rw [List.map_map, List.map_map] at h
    exact h.trans (List.map_id targets)
  calc (insertionsUnder parent (r.insertions number targets)).map Insertion.target
      = ((r.insertions number targets).map Insertion.target).filter
          (fun q => q.parentId? = some parent) := by
        rw [List.filter_map]
        rfl
    _ = targets.filter fun q => q.parentId? = some parent := by rw [htargets]

/-- The children of an element get the values that the counter has for their parent. -/
theorem map_counter_insertionsUnder {r : Rule} (hr : r.content.usesCounter = true)
    (number parent : Nat) (targets : List Place) :
    (insertionsUnder parent (r.insertions number targets)).map Insertion.counter =
      (Counter.valuesOf parent (targets.map Place.parentId?)).map some := by
  have hcounters : r.counters targets =
      (Counter.values (targets.map Place.parentId?)).map some := by
    unfold counters
    exact if_pos hr
  have hzip : (targets.map Place.parentId?).zip (Counter.values (targets.map Place.parentId?)) =
      (targets.zip (Counter.values (targets.map Place.parentId?))).map
        fun t => (t.1.parentId?, t.2) := by
    rw [List.zip_map_left]
    rfl
  have hpairs := r.map_counter_insertionsFrom number (targets.zip (r.counters targets))
  calc (insertionsUnder parent (r.insertions number targets)).map Insertion.counter
      = (((r.insertions number targets).map fun x => (x.target, x.counter)).filter
          fun t => t.1.parentId? = some parent).map Prod.snd := by
        rw [List.filter_map, List.map_map]
        rfl
    _ = ((targets.zip (r.counters targets)).filter
          fun t => t.1.parentId? = some parent).map Prod.snd := by rw [insertions, hpairs]
    _ = (Counter.valuesOf parent (targets.map Place.parentId?)).map some := by
        rw [Counter.valuesOf, hzip, hcounters, List.zip_map_right, List.filter_map, List.filter_map,
          List.map_map, List.map_map, List.map_map]
        rfl

theorem targetsAmong_sublist (r : Rule) (places : List Place) :
    (r.targetsAmong places).Sublist places := by
  have hunmarked : ∀ test : Place → Bool, (unmarked (places.filter test)).Sublist places := fun test =>
    List.filter_sublist.trans List.filter_sublist
  unfold targetsAmong
  split
  · exact hunmarked _
  · split
    · exact hunmarked _
    · exact List.nil_sublist _

end Rule

/-- A positive counter value in decimal. -/
theorem Counter.format_decimal (n : Nat) :
    format ((n + 1 : Nat) : Int) "decimal".toList = Text.ofNat (n + 1) := by
  have hstyle : Text.lower (Text.trim "decimal".toList) = "decimal".toList := by decide
  have hpositive : ¬ ((n + 1 : Nat) : Int) ≤ 0 := by omega
  unfold format
  simp only [hstyle]
  rw [if_neg (by decide), if_neg hpositive, formatPositive]
  simp

/-! ## Numbers of siblings -/

/-- How a rule with a counter has numbered the children of an element, when it was carried out in
a page on the way to a result, and all rules have been carried out in a page without markers. -/
structure CountedUnder (settings : Settings) (t p : Page) (r : Rule) (parent : Nat) (result : Page) :
    Prop where
  /-- The markers of the rule are in the result, beside those of the rules before and after it. -/
  nodes : ∃ earlier later, result.nodes = Node.enrichAll
    (additions settings (earlier ++ r.insertions p.nextId (r.targets p) ++ later)) t.nodes
  /-- The rule has its targets in document order. -/
  order : (r.targets p).Sublist p.place.descendants
  /-- Each target among the children of the element gets one marker, in the order of the targets. -/
  targets : (insertionsUnder parent (r.insertions p.nextId (r.targets p))).map Insertion.target =
    (r.targets p).filter fun q => q.parentId? = some parent
  /-- These markers are numbered from one on just when no other target lies between the targets among
  the children. -/
  numbers : (insertionsUnder parent (r.insertions p.nextId (r.targets p))).map Insertion.counter =
      (List.range' 1 (insertionsUnder parent (r.insertions p.nextId (r.targets p))).length).map
        some ↔
    Counter.Unbroken parent ((r.targets p).map Place.parentId?)
  /-- What a marker shows is the content of the rule for its element, with the number filled in. -/
  texts : ∀ x ∈ r.insertions p.nextId (r.targets p), ∀ n, x.counter = some n → x.text =
    Content.fill n (r.content.resolve (Rule.markedAttributes x.target.attributes).get?)
  /-- Where the content is nothing but the number in decimal, these markers show the numbers from one
  on. -/
  decimals : ∀ name, r.content = .counter name "decimal".toList →
    Counter.Unbroken parent ((r.targets p).map Place.parentId?) →
      (insertionsUnder parent (r.insertions p.nextId (r.targets p))).map Insertion.text =
        (List.range' 1 (insertionsUnder parent (r.insertions p.nextId (r.targets p))).length).map
          Text.ofNat

/-- A marker with a number shows the content of its rule with the number filled in. -/
theorem Insertion.text_of_counter {x : Insertion} {n : Nat} (hn : x.counter = some n) :
    x.text =
      Content.fill n (x.rule.content.resolve (Rule.markedAttributes x.target.attributes).get?) := by
  rw [Insertion.text, hn]
  rfl

/-- The marker of a decimal counter shows its number. -/
theorem Insertion.text_decimal {x : Insertion} {name : Text}
    (hcontent : x.rule.content = .counter name "decimal".toList) {n : Nat}
    (hn : x.counter = some (n + 1)) : x.text = Text.ofNat (n + 1) := by
  have hresolve : ∀ lookUp, x.rule.content.resolve lookUp =
      Content.placeholder "decimal".toList ++ [] := by
    intro lookUp
    rw [hcontent, Content.resolve, List.append_nil]
  rw [text_of_counter hn, hresolve, Content.fill_placeholder (by decide), Counter.format_decimal,
    Content.fill, List.append_nil]

/-- The markers of a decimal counter in the children of an element show the values for the element. -/
theorem Rule.map_text_insertionsUnder {r : Rule} {name : Text}
    (hcontent : r.content = .counter name "decimal".toList) (number parent : Nat)
    {targets : List Place} (h : Counter.Unbroken parent (targets.map Place.parentId?)) :
    (insertionsUnder parent (r.insertions number targets)).map Insertion.text =
      (Counter.valuesOf parent (targets.map Place.parentId?)).map Text.ofNat := by
  have hr : r.content.usesCounter = true := by
    rw [hcontent, Content.usesCounter]
  have hcounters := map_counter_insertionsUnder hr number parent targets
  -- every one of the markers has a number, which is not zero
  have htext : ∀ x ∈ insertionsUnder parent (r.insertions number targets),
      x.text = Text.ofNat (x.counter.getD 0) := by
    intro x hx
    have hmem := List.mem_map_of_mem (f := Insertion.counter) hx
    rw [hcounters, (Counter.valuesOf_eq_range'_iff _ _).2 h] at hmem
    rcases List.mem_map.1 hmem with ⟨n, hn, hcounter⟩
    obtain ⟨m, rfl⟩ : ∃ m, n = m + 1 := ⟨n - 1, by have := List.mem_range'_1.1 hn; omega⟩
    have hrule : x.rule = r := rule_of_mem_insertions (List.mem_of_mem_filter hx)
    rw [Insertion.text_decimal (hrule ▸ hcontent) hcounter.symm, ← hcounter]
    rfl
  calc (insertionsUnder parent (r.insertions number targets)).map Insertion.text
      = (insertionsUnder parent (r.insertions number targets)).map
          (fun x => Text.ofNat (x.counter.getD 0)) := List.map_congr_left htext
    _ = ((insertionsUnder parent (r.insertions number targets)).map Insertion.counter).map
          (fun c => Text.ofNat (c.getD 0)) := by
        rw [List.map_map]
        rfl
    _ = (Counter.valuesOf parent (targets.map Place.parentId?)).map Text.ofNat := by
        rw [hcounters, List.map_map]
        rfl

/-- For every page, every rule with a counter among other rules, and every element: the markers of the
rule in children of the element are numbered from one on just when no other target lies between those
children. -/
theorem Html.Page.counted_inject (settings : Settings) (html : Text) (before after : List Rule)
    {r : Rule} (hr : r.content.usesCounter = true) (parent : Nat) :
    CountedUnder settings (Page.read html).withoutMarkers ((Page.read html).inject settings before)
      r parent ((Page.read html).inject settings (before ++ r :: after)) := by
  have ht := (Page.wellNumbered_read html).plain_withoutMarkers
  have hcounters := Rule.map_counter_insertionsUnder hr
    ((Page.read html).inject settings before).nextId parent
    (r.targets ((Page.read html).inject settings before))
  have hlength := congrArg List.length hcounters
  rw [List.length_map, List.length_map] at hlength
  constructor
  case nodes =>
    -- the rules before, the rule, and the rules after it are three runs of insertions
    have hbefore := (Reached.start settings (Page.read html).withoutMarkers).run
      findsElements_targets ht before
    rw [List.nil_append] at hbefore
    have hround := hbefore.round findsElements_targets ht r
    have hafter := hround.run findsElements_targets ht after
    have hresult : (Page.read html).inject settings (before ++ r :: after) =
        after.foldl (fun p r => r.carryOut settings p (r.targets p))
          (r.carryOut settings ((Page.read html).inject settings before)
            (r.targets ((Page.read html).inject settings before))) := by
      unfold Page.inject Page.injectBy
      rw [List.foldl_append, List.foldl_cons]
    exact ⟨_, _, (congrArg Page.nodes hresult).trans hafter.nodes⟩
  case order =>
    rw [Rule.targets_eq_targetsAmong]
    exact r.targetsAmong_sublist _
  case targets => exact r.map_target_insertionsUnder _ parent _
  case numbers =>
    rw [hcounters, hlength, ← Counter.valuesOf_eq_range'_iff]
    exact List.map_inj_right fun _ _ => Option.some.inj
  case texts =>
    intro x hx n hn
    rw [Insertion.text_of_counter hn, Rule.rule_of_mem_insertions hx]
  case decimals =>
    intro name hcontent hunbroken
    rw [Rule.map_text_insertionsUnder hcontent _ parent hunbroken, hlength]
    exact congrArg _ ((Counter.valuesOf_eq_range'_iff _ _).2 hunbroken)

/-- A list of two items, numbered in decimal. -/
theorem Html.Page.counted_list :
    let r : Rule := {
      selector := "li".toList
      placement := .before
      content := .counter "n".toList "decimal".toList }
    let p := Page.read "<ol><li>a</li><li>b</li></ol>".toList
    r.content.usesCounter = true ∧
      CountedUnder {} p.withoutMarkers (p.inject {} []) r 1 (p.inject {} ([] ++ r :: [])) ∧
      Counter.Unbroken 1 ((r.targets (p.inject {} [])).map Place.parentId?) := by
  intro r p
  have hr : r.content.usesCounter = true := by decide
  exact ⟨hr, Page.counted_inject {} _ [] [] hr 1, by decide +kernel⟩

/-- A list inside the first item of another list: behind it the outer list starts over. -/
theorem Html.Page.not_counted_nested :
    ¬ ∀ (html : Text) (r : Rule) (name : Text) (parent : Nat),
      r.content = .counter name "decimal".toList →
        let p := (Page.read html).withoutMarkers
        let under := insertionsUnder parent (r.insertions p.nextId (r.targets p))
        under.map Insertion.text = (List.range' 1 under.length).map Text.ofNat := by
  intro h
  let r : Rule := {
    selector := "li".toList
    placement := .before
    content := .counter "n".toList "decimal".toList }
  have hnested := h "<ol><li>a<ol><li>b</li></ol></li><li>c</li></ol>".toList r "n".toList 1 rfl
  exact absurd hnested (by decide +kernel)

end GeneratedContent

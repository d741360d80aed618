import Mathlib.Data.EReal.Basic
import Mathlib.Data.List.Nodup
import Mathlib.Data.Prod.Lex
import Ranging.Position.AnchorTable

/-!
# The anchors nearest to a point

The four anchors that a node ranges with are the first four of its table when the table is
sorted by squared distance, anchors at the same distance staying in their order. Readings of
distances are compared by `Reading.le`, a relation of this library; what the order means is said
in the extended reals, which have a value for every reading but the undefined one.

Sorting anchors together with their places in the table, distances first and places second, is
what makes the sort a stable one: `map_anchor_byDistance`. Between anchors at different distances
the places decide nothing, so a table in another order has the same nearest anchors.
-/

namespace Ranging

namespace Reading

/-- The value of a reading that is not undefined. -/
noncomputable def toEReal : Reading → EReal
  | .negInfinity => ⊥
  | .finite value => ((value : ℝ) : EReal)
  | .posInfinity => ⊤
  | .undefined => ⊤

theorem toEReal_le_toEReal_iff (x y : Reading) (hx : x ≠ .undefined) (hy : y ≠ .undefined) :
    x.toEReal ≤ y.toEReal ↔ x.le y = true := by
  cases x with
  | undefined => exact absurd rfl hx
  | negInfinity => simp [toEReal, le]
  | posInfinity =>
      cases y with
      | undefined => exact absurd rfl hy
      | negInfinity => simp [toEReal, le]
      | posInfinity => simp [toEReal, le]
      | finite q => simp [toEReal, le]
  | finite p =>
      cases y with
      | undefined => exact absurd rfl hy
      | negInfinity => simp [toEReal, le]
      | posInfinity => simp [toEReal, le]
      | finite q => simp [toEReal]

/-- Readings of the same value are the same. -/
theorem toEReal_inj (x y : Reading) (hx : x ≠ .undefined) (hy : y ≠ .undefined)
    (h : x.toEReal = y.toEReal) : x = y :=
  le_antisymm x y ((toEReal_le_toEReal_iff x y hx hy).1 h.le)
    ((toEReal_le_toEReal_iff y x hy hx).1 h.ge)

end Reading

/-- The value of the squared distance of an anchor from a point. -/
noncomputable def Anchor.distanceFrom {F : Type} [Scalar F] (point : Position F)
    (anchor : Anchor F) : EReal :=
  (Scalar.reading (anchor.pos.distanceSquared point)).toEReal

/-- Entries of a list, compared by the value of a function and then by their places, are ordered
lexicographically. -/
theorem zipIdxLE_iff {α β : Type} [LinearOrder β] (value : α → β) (a b : α × ℕ) :
    List.zipIdxLE (fun x y => decide (value x ≤ value y)) a b = true ↔
      toLex (value a.1, a.2) ≤ toLex (value b.1, b.2) := by
  rw [Prod.Lex.toLex_le_toLex, List.zipIdxLE]
  rcases lt_trichotomy (value a.1) (value b.1) with hlt | heq | hgt
  · simp [hlt, hlt.le, hlt.not_ge]
  · simp [heq]
  · simp [hgt.not_ge, hgt.not_gt, hgt.ne']

namespace RankedAnchor

/-- What anchors are ordered by: the squared distance and, where it is the same, the place in the
table. -/
noncomputable def key {F : Type} (a : RankedAnchor F) : EReal ×ₗ ℕ :=
  toLex (a.distance.toEReal, a.index)

theorem key_le_key_iff {F : Type} (a b : RankedAnchor F) (ha : a.distance ≠ .undefined)
    (hb : b.distance ≠ .undefined) : a.key ≤ b.key ↔ le a b = true := by
  rw [key, key, Prod.Lex.toLex_le_toLex, le]
  by_cases hsame : a.distance = b.distance
  · simp [hsame]
  · have hne : a.distance.toEReal ≠ b.distance.toEReal :=
      fun h => hsame (Reading.toEReal_inj _ _ ha hb h)
    rw [if_neg hsame, ← Reading.toEReal_le_toEReal_iff _ _ ha hb, lt_iff_le_and_ne]
    simp [hne]

end RankedAnchor

namespace AnchorTable

variable {F : Type} [Scalar F]

/-- An anchor with its place in the table is ranked by its distance from the point. -/
theorem mem_ranked_iff (table : AnchorTable F) (point : Position F) (a : RankedAnchor F) :
    a ∈ table.ranked point ↔ table.anchors[a.index]? = some a.anchor ∧
      a.distance = Scalar.reading (a.anchor.pos.distanceSquared point) := by
  rw [ranked, List.mem_mapIdx]
  constructor
  · rintro ⟨i, hi, rfl⟩
    exact ⟨List.getElem?_eq_getElem hi, rfl⟩
  · rintro ⟨hanchor, hdistance⟩
    obtain ⟨hi, heq⟩ := List.getElem?_eq_some_iff.1 hanchor
    refine ⟨a.index, hi, ?_⟩
    rw [heq, ← hdistance]

theorem mem_byDistance_iff (table : AnchorTable F) (point : Position F) (a : RankedAnchor F) :
    a ∈ table.byDistance point ↔ table.anchors[a.index]? = some a.anchor ∧
      a.distance = Scalar.reading (a.anchor.pos.distanceSquared point) := by
  rw [byDistance, List.mem_mergeSort, mem_ranked_iff]

/-- Every place of the table occurs once. -/
theorem nodup_index_byDistance (table : AnchorTable F) (point : Position F) :
    ((table.byDistance point).map (·.index)).Nodup := by
  have hperm := (List.mergeSort_perm (table.ranked point) RankedAnchor.le).map (·.index)
  have hranked : (table.ranked point).map (·.index) = List.range table.anchors.length := by
    refine List.ext_getElem (by simp) ?_
    intro i hleft hright
    simp [ranked]
  refine hperm.nodup_iff.2 ?_
  rw [hranked]
  exact List.nodup_range

/-- The distances of the anchors have values. -/
def Measurable (table : AnchorTable F) (point : Position F) : Prop :=
  ∀ anchor ∈ table.anchors, Scalar.reading (anchor.pos.distanceSquared point) ≠ .undefined

theorem Measurable.distance_ne (table : AnchorTable F) (point : Position F)
    (h : table.Measurable point) (a : RankedAnchor F) (ha : a ∈ table.byDistance point) :
    a.distance ≠ .undefined := by
  obtain ⟨hanchor, hdistance⟩ := (mem_byDistance_iff table point a).1 ha
  rw [hdistance]
  exact h a.anchor (List.mem_of_getElem? hanchor)

/-- The anchors stand in strictly increasing order. -/
theorem pairwise_byDistance (table : AnchorTable F) (point : Position F)
    (h : table.Measurable point) :
    (table.byDistance point).Pairwise fun a b => a.key < b.key := by
  have hsorted : (table.byDistance point).Pairwise fun a b => RankedAnchor.le a b = true :=
    List.pairwise_mergeSort RankedAnchor.le_trans RankedAnchor.le_total _
  have hdistinct : (table.byDistance point).Pairwise fun a b => a.index ≠ b.index :=
    List.pairwise_map.1 (nodup_index_byDistance table point)
  refine (hsorted.and hdistinct).imp_of_mem ?_
  rintro a b ha hb ⟨hle, hne⟩
  refine lt_of_le_of_ne ((RankedAnchor.key_le_key_iff a b (h.distance_ne table point a ha)
    (h.distance_ne table point b hb)).2 hle) ?_
  intro heq
  exact hne (congrArg (fun key => (ofLex key).2) heq)

/-- The anchors by distance are the stable sort of the table. -/
theorem map_anchor_byDistance (table : AnchorTable F) (point : Position F)
    (h : table.Measurable point) :
    (table.byDistance point).map (·.anchor) = table.anchors.mergeSort fun a b =>
      decide (a.distanceFrom point ≤ b.distanceFrom point) := by
  let rank : Anchor F × ℕ → RankedAnchor F := fun entry =>
    ⟨Scalar.reading (entry.1.pos.distanceSquared point), entry.2, entry.1⟩
  let nearer : Anchor F → Anchor F → Bool := fun a b =>
    decide (a.distanceFrom point ≤ b.distanceFrom point)
  have hranked : table.ranked point = table.anchors.zipIdx.map rank := by
    rw [ranked, List.mapIdx_eq_zipIdx_map]
  have hsame : ∀ a ∈ table.anchors.zipIdx, ∀ b ∈ table.anchors.zipIdx,
      List.zipIdxLE nearer a b = RankedAnchor.le (rank a) (rank b) := by
    intro a ha b hb
    have hdefined : ∀ entry ∈ table.anchors.zipIdx, (rank entry).distance ≠ .undefined :=
      fun entry hmem => h entry.1 (List.fst_mem_of_mem_zipIdx hmem)
    rw [Bool.eq_iff_iff, zipIdxLE_iff, ← RankedAnchor.key_le_key_iff _ _ (hdefined a ha)
      (hdefined b hb)]
    rfl
  calc (table.byDistance point).map (·.anchor)
      = ((table.anchors.zipIdx.mergeSort (List.zipIdxLE nearer)).map rank).map (·.anchor) := by
        rw [byDistance, hranked, List.map_mergeSort hsame]
    _ = (table.anchors.zipIdx.mergeSort (List.zipIdxLE nearer)).map (·.1) := by
        rw [List.map_map]
        rfl
    _ = table.anchors.mergeSort nearer := List.mergeSort_zipIdx

/-- What it means that ranked anchors are the four of a table nearest to a point. -/
structure Selects (table : AnchorTable F) (point : Position F)
    (selected : List (RankedAnchor F)) : Prop where
  /-- A node has room to rank all anchors. -/
  room : (table.ranked point).length ≤ maxAnchors
  four : selected.length = 4
  /-- They stand in the table at their indices, with their distances. -/
  entry : ∀ a ∈ selected, table.anchors[a.index]? = some a.anchor ∧
    a.distance = Scalar.reading (a.anchor.pos.distanceSquared point)
  distinct : (selected.map (·.index)).Nodup
  ordered : selected.Pairwise fun a b => a.key < b.key
  /-- The other anchors of the table come after them. -/
  nearer : ∀ a ∈ selected, ∀ index anchor, table.anchors[index]? = some anchor →
    index ∉ selected.map (·.index) → a.key < toLex (anchor.distanceFrom point, index)
  /-- They are the first ones of the table in the stable order of their distances. -/
  stable : selected.map (·.anchor) = (table.anchors.mergeSort fun a b =>
    decide (a.distanceFrom point ≤ b.distanceFrom point)).take 4

/-- The anchors nearest to a point are selected whenever the distances have values. -/
theorem selects_nearest (table : AnchorTable F) (point : Position F)
    (h : table.Measurable point) : table.Selects point (table.nearest point).toList := by
  have hselected : (table.nearest point).toList = (table.byDistance point).take 4 :=
    Quad.toList_ofList _ _
  have hsplit := List.take_append_drop 4 (table.byDistance point)
  have hpairwise := table.pairwise_byDistance point h
  rw [← hsplit] at hpairwise
  obtain ⟨hordered, -, hbefore⟩ := List.pairwise_append.1 hpairwise
  rw [hselected]
  refine ⟨?_, ?_, ?_, ?_, hordered, ?_, ?_⟩
  · rw [length_ranked]
    exact table.length_le_max
  · rw [List.length_take, length_byDistance]
    exact Nat.min_eq_left table.four_le_length
  · intro a ha
    exact (table.mem_byDistance_iff point a).1 (List.mem_of_mem_take ha)
  · rw [List.map_take]
    exact (table.nodup_index_byDistance point).sublist (List.take_sublist _ _)
  · intro a ha index anchor hanchor hother
    let other : RankedAnchor F :=
      ⟨Scalar.reading (anchor.pos.distanceSquared point), index, anchor⟩
    have hmem : other ∈ table.byDistance point :=
      (table.mem_byDistance_iff point other).2 ⟨hanchor, rfl⟩
    rw [← hsplit] at hmem
    rcases List.mem_append.1 hmem with htaken | hleft
    · exact absurd (List.mem_map_of_mem htaken) hother
    · exact hbefore a ha other hleft
  · rw [List.map_take, table.map_anchor_byDistance point h]

omit [Scalar F] in
theorem ofList_eq_ok (anchors : List (Anchor F)) (hfew : 4 ≤ anchors.length)
    (hmany : anchors.length ≤ maxAnchors) : ofList anchors = .ok ⟨anchors, hfew, hmany⟩ := by
  rw [ofList, dif_neg (Nat.not_lt.2 hfew), dif_neg (Nat.not_lt.2 hmany)]

end AnchorTable

/-- A list of four to sixteen anchors is a table. If all its distances to a point have values, the
anchors nearest to the point are the head of the stable sort of the table by them. -/
theorem nearest_is_head_of_stable_sort {F : Type} [Scalar F] (anchors : List (Anchor F))
    (point : Position F) (hfew : 4 ≤ anchors.length) (hmany : anchors.length ≤ maxAnchors)
    (hdefined : ∀ anchor ∈ anchors,
      Scalar.reading (anchor.pos.distanceSquared point) ≠ .undefined) :
    ∃ table, AnchorTable.ofList anchors = .ok table ∧ table.anchors = anchors ∧
      table.Selects point (table.nearest point).toList :=
  ⟨⟨anchors, hfew, hmany⟩, AnchorTable.ofList_eq_ok anchors hfew hmany, rfl,
    AnchorTable.selects_nearest _ point hdefined⟩

/-- Anchors at five corners of an octahedron, all of them as far from the origin. -/
def octahedron : List (Anchor Rat) :=
  [⟨10, ⟨1, 0, 0⟩⟩, ⟨11, ⟨-1, 0, 0⟩⟩, ⟨12, ⟨0, 1, 0⟩⟩, ⟨13, ⟨0, -1, 0⟩⟩, ⟨14, ⟨0, 0, 1⟩⟩]

theorem octahedron_selected :
    ∃ table, AnchorTable.ofList octahedron = .ok table ∧ table.anchors = octahedron ∧
      table.Selects .origin (table.nearest .origin).toList :=
  nearest_is_head_of_stable_sort octahedron .origin (by decide) (by decide) fun _ _ => nofun

/-! ## Tables in another order -/

/-- Elements of different values can be sorted in one way only, whatever order they come in. -/
theorem mergeSort_eq_of_perm {α β : Type} [LinearOrder β] (value : α → β) (l l' : List α)
    (hperm : l'.Perm l) (hdistinct : (l.map value).Nodup) :
    l'.mergeSort (fun a b => decide (value a ≤ value b)) =
      l.mergeSort fun a b => decide (value a ≤ value b) := by
  let le : α → α → Bool := fun a b => decide (value a ≤ value b)
  have hle : ∀ a b, le a b = true ↔ value a ≤ value b := fun a b => decide_eq_true_iff
  have htrans : ∀ a b c, le a b = true → le b c = true → le a c = true := by
    intro a b c
    simpa only [hle] using le_trans
  have htotal : ∀ a b, (le a b || le b a) = true := by
    intro a b
    simpa only [Bool.or_eq_true, hle] using le_total (value a) (value b)
  apply List.Perm.eq_of_pairwise _ (List.pairwise_mergeSort htrans htotal l')
    (List.pairwise_mergeSort htrans htotal l)
  · exact (List.mergeSort_perm l' le).trans (hperm.trans (List.mergeSort_perm l le).symm)
  · intro a b ha hb hab hba
    rw [List.mem_mergeSort] at ha hb
    apply List.inj_on_of_nodup_map hdistinct (hperm.mem_iff.1 ha) hb
    exact le_antisymm ((hle a b).1 hab) ((hle b a).1 hba)

namespace AnchorTable

variable {F : Type} [Scalar F]

theorem Measurable.nodup_distanceFrom (table : AnchorTable F) (point : Position F)
    (h : table.Measurable point)
    (hdistinct : (table.anchors.map fun anchor =>
      Scalar.reading (anchor.pos.distanceSquared point)).Nodup) :
    (table.anchors.map (Anchor.distanceFrom point)).Nodup := by
  apply List.Nodup.map_on _ hdistinct.of_map
  intro a ha b hb hsame
  apply List.inj_on_of_nodup_map hdistinct ha hb
  exact Reading.toEReal_inj _ _ (h a ha) (h b hb) hsame

theorem toList_map_anchor_nearest (table : AnchorTable F) (point : Position F)
    (h : table.Measurable point) :
    ((table.nearest point).map (·.anchor)).toList = (table.anchors.mergeSort fun a b =>
      decide (a.distanceFrom point ≤ b.distanceFrom point)).take 4 := by
  rw [Quad.toList_map, nearest, Quad.toList_ofList, List.map_take,
    table.map_anchor_byDistance point h]

end AnchorTable

/-- The order of a table has no influence on the anchors selected, if no two of them are at the
same distance from the point. -/
theorem nearest_forgets_table_order {F : Type} [Scalar F] (table shuffled : AnchorTable F)
    (point : Position F) (hperm : shuffled.anchors.Perm table.anchors)
    (hdefined : ∀ anchor ∈ table.anchors,
      Scalar.reading (anchor.pos.distanceSquared point) ≠ .undefined)
    (hdistinct : (table.anchors.map fun anchor =>
      Scalar.reading (anchor.pos.distanceSquared point)).Nodup) :
    (shuffled.nearest point).map (·.anchor) = (table.nearest point).map (·.anchor) := by
  have hshuffled : shuffled.Measurable point :=
    fun anchor hanchor => hdefined anchor (hperm.mem_iff.1 hanchor)
  have hsorted := mergeSort_eq_of_perm (Anchor.distanceFrom point) table.anchors shuffled.anchors
    hperm (AnchorTable.Measurable.nodup_distanceFrom table point hdefined hdistinct)
  apply Quad.toList_injective
  rw [shuffled.toList_map_anchor_nearest point hshuffled,
    table.toList_map_anchor_nearest point hdefined, hsorted]

/-- Anchors along a corridor, in no order. -/
def corridor : AnchorTable Rat where
  anchors := [⟨13, ⟨3, 0, 0⟩⟩, ⟨11, ⟨1, 0, 0⟩⟩, ⟨15, ⟨5, 0, 0⟩⟩, ⟨12, ⟨2, 0, 0⟩⟩, ⟨14, ⟨4, 0, 0⟩⟩]
  four_le_length := by decide
  length_le_max := by decide

/-- The same anchors, the last one first. -/
def corridorReversed : AnchorTable Rat where
  anchors := corridor.anchors.reverse
  four_le_length := by decide
  length_le_max := by decide

theorem corridor_selected_alike :
    corridorReversed.anchors.Perm corridor.anchors ∧
      (corridorReversed.nearest .origin).map (·.anchor) =
        (corridor.nearest .origin).map (·.anchor) := by
  have hperm : corridorReversed.anchors.Perm corridor.anchors :=
    List.reverse_perm corridor.anchors
  refine ⟨hperm, nearest_forgets_table_order corridor corridorReversed .origin hperm ?_ ?_⟩
  · simp
  · decide +kernel

end Ranging

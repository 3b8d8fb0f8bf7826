import ForestQuery.Proofs.Linking.Walk
import Mathlib.Data.Set.Card

/-!
# The linked forest

Linking makes a tree for every primary record, in order, and counts which descendants stand in one
of them. Both follow from the placements of the records: what stands under a record is what can be
reached from its id.

## Key results

- `forest_link`: the trees are those of the placements
- `attached_link`: the attached descendants are those that can be reached from a primary record
- `link_places_reachable_once`: with unique ids, every tree has what can be reached, once
- `link_counts_reachable`: the counts are exact, whatever the ids
-/

namespace ForestQuery

section

variable (descendants primary : List Record) (surfaced : List Nat)

theorem buildForest_fst :
    (buildForest descendants primary surfaced).1 =
      primary.map fun record => (placement descendants record).tree := by
  induction primary generalizing surfaced with
  | nil => rfl
  | cons record rest ih => rw [buildForest, ih, Walk.build_fst, List.map_cons]

/-- What has surfaced after records were built is what had before, and what can be reached from one
of them. -/
theorem mem_buildForest_snd (position : Nat) :
    position ∈ (buildForest descendants primary surfaced).2 ↔
      position ∈ surfaced ∨ ∃ record ∈ primary, Reaches descendants record.id position := by
  -- a tree adds what its root reaches, whatever has surfaced before it
  induction primary generalizing surfaced with
  | nil => simp [buildForest]
  | cons record rest ih =>
    rw [buildForest, ih, Walk.mem_build_snd, mem_positions_placement, or_assoc]
    simp

theorem nodup_buildForest_snd (h : surfaced.Nodup) :
    (buildForest descendants primary surfaced).2.Nodup := by
  induction primary generalizing surfaced with
  | nil => exact h
  | cons record rest ih => exact ih _ (Walk.nodup_build_snd _ _ _ h)

end

/-! ### Linking -/

section

variable (primary descendants : List Record)

/-- The trees are those of the placements of the primary records. -/
theorem forest_link :
    (link primary descendants).forest =
      primary.map fun record => (placement descendants record).tree :=
  buildForest_fst descendants primary []

/-- The attached descendants are those that can be reached from a primary record. -/
theorem attached_link :
    (link primary descendants).attached =
      {position | ∃ record ∈ primary, Reaches descendants record.id position}.ncard := by
  -- what has surfaced lists these descendants without repetitions
  have hset : {position | ∃ record ∈ primary, Reaches descendants record.id position} =
      ((buildForest descendants primary []).2.toFinset : Set Nat) := by
    ext position
    simp [mem_buildForest_snd]
  rw [hset, Set.ncard_coe_finset,
    List.toFinset_card_of_nodup (nodup_buildForest_snd _ _ _ List.nodup_nil)]
  rfl

theorem attached_link_le : (link primary descendants).attached ≤ descendants.length := by
  have hsubset : (buildForest descendants primary []).2 ⊆ List.range descendants.length := by
    intro position hposition
    rw [mem_buildForest_snd] at hposition
    rcases hposition with hposition | ⟨record, -, hreach⟩
    · exact absurd hposition List.not_mem_nil
    · exact List.mem_range.2 hreach.lt_length
  have hle := (nodup_buildForest_snd descendants primary [] List.nodup_nil).subperm hsubset
  simpa [link] using hle.length_le

/-- Every descendant is attached or orphaned. -/
theorem attached_add_orphaned_link :
    (link primary descendants).attached + (link primary descendants).orphaned =
      descendants.length := by
  have hle := attached_link_le primary descendants
  exact Nat.add_sub_cancel' hle

end

/-! ### What stands in the forest -/

/-- What can be reached, counted in a placement without repetitions. -/
theorem ncard_reaches {descendants : List Record} {root : Record}
    (h : (placement descendants root).positions.Nodup) :
    {position | Reaches descendants root.id position}.ncard =
      (placement descendants root).positions.length := by
  have hset : {position | Reaches descendants root.id position} =
      ((placement descendants root).positions.toFinset : Set Nat) := by
    ext position
    simp [mem_positions_placement]
  rw [hset, Set.ncard_coe_finset, List.toFinset_card_of_nodup h]

/-- Placements account for a forest: there is one for every primary record, in order, their
documents are the trees, and every occurrence is a descendant under a node whose id it names as its
parent. -/
structure Accounts (primary descendants : List Record) (forest : List Tree)
    (placements : List Placement) : Prop where
  /-- The roots are the primary records. -/
  roots : placements.map (·.root) = primary
  /-- The documents are the trees. -/
  trees : placements.map (·.tree) = forest
  /-- An occurrence is a descendant, and hangs from its declared parent. -/
  declared : ∀ p ∈ placements, ∀ o ∈ p.occurrences,
    descendants[o.position]? = some o.child ∧ o.child.parentId = some o.parent.id

theorem accounts_link (primary descendants : List Record) :
    Accounts primary descendants (link primary descendants).forest
      (primary.map (placement descendants)) where
  roots := by
    rw [List.map_map]
    exact List.map_id primary
  trees := by
    rw [forest_link, List.map_map]
    rfl
  declared p hp o ho := by
    obtain ⟨root, -, rfl⟩ := List.mem_map.1 hp
    obtain ⟨hget, hparent, -⟩ := mem_childrenOf_iff.1 (mem_occurrences_placement ho)
    exact ⟨hget, hparent⟩

/-- If ids are unique, then under every primary record stand the descendants that can be reached
from it, each of them once, and nothing else. -/
theorem link_places_reachable_once (primary descendants : List Record)
    (hids : (descendants.map Record.id).Nodup) :
    ∃ placements, Accounts primary descendants (link primary descendants).forest placements ∧
      ∀ p ∈ placements,
        (∀ position, Reaches descendants p.root.id position → p.positions.count position = 1) ∧
        (∀ position, ¬ Reaches descendants p.root.id position → position ∉ p.positions) ∧
        p.tree.size = 1 + {position | Reaches descendants p.root.id position}.ncard := by
  refine ⟨_, accounts_link primary descendants, fun p hp => ?_⟩
  obtain ⟨root, -, rfl⟩ := List.mem_map.1 hp
  have hnodup : (placement descendants root).positions.Nodup := nodup_positions_placement hids
  refine ⟨fun position hreach => ?_, fun position hnot hmem => ?_, ?_⟩
  · exact List.count_eq_one_of_mem hnodup (mem_positions_placement.2 hreach)
  · exact hnot (mem_positions_placement.1 hmem)
  · rw [Placement.size_tree]
    exact congrArg (1 + ·) (ncard_reaches hnodup).symm

/-- A record with an empty document, at some place in the hierarchy. -/
def Record.blank (id : String) (parentId : Option String) : Record :=
  ⟨⟨id, parentId, .finite (.zero false), .finite (.zero false)⟩, .object []⟩

/-- A primary record that is fetched again below its own child, beside a descendant that names
itself and one whose parent is missing. -/
theorem link_places_reachable_once_cycle :
    let primary := [Record.blank "a" none]
    let descendants := [Record.blank "b" (some "a"), Record.blank "a" (some "b"),
      Record.blank "c" (some "c"), Record.blank "d" (some "x")]
    (descendants.map Record.id).Nodup ∧
    ∃ placements, Accounts primary descendants (link primary descendants).forest placements ∧
      ∀ p ∈ placements,
        (∀ position, Reaches descendants p.root.id position → p.positions.count position = 1) ∧
        (∀ position, ¬ Reaches descendants p.root.id position → position ∉ p.positions) ∧
        p.tree.size = 1 + {position | Reaches descendants p.root.id position}.ncard :=
  ⟨by decide, link_places_reachable_once _ _ (by decide)⟩

/-- Whatever the ids, as many descendants are attached as can be reached from a primary record.
These and no others stand in the forest, and all others are counted as orphaned. -/
theorem link_counts_reachable (primary descendants : List Record) :
    (link primary descendants).attached =
      {position | ∃ record ∈ primary, Reaches descendants record.id position}.ncard ∧
    (∃ placements, Accounts primary descendants (link primary descendants).forest placements ∧
      ∀ position, (∃ p ∈ placements, position ∈ p.positions) ↔
        ∃ record ∈ primary, Reaches descendants record.id position) ∧
    (link primary descendants).attached + (link primary descendants).orphaned =
      descendants.length := by
  refine ⟨attached_link primary descendants, ?_, attached_add_orphaned_link primary descendants⟩
  refine ⟨_, accounts_link primary descendants, fun position => ?_⟩
  simp [mem_positions_placement]

end ForestQuery

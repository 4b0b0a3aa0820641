import Mathlib.Data.Finset.Card
import Mathlib.Logic.Relation
import ScriptHost.Proofs.Value.Parts

/-! References between the things of a heap. Where none leads back to its start, the things that one
can get to from another are fewer than those one can get to from it, so a path of references is no
longer than the heap is large. -/
namespace ScriptHost

/-- Something that lives in a heap. -/
inductive Node where
  | dict (ref : DictRef)
  | closure (ref : ClosureRef)
  deriving DecidableEq

/-- A value refers to a node, itself or by a part. -/
inductive Value.RefersTo : Value → Node → Prop where
  | dict : RefersTo (.dict ref) (.dict ref)
  | closure : RefersTo (.closure ref) (.closure ref)
  | part (inside : part ∈ value.parts) (refers : RefersTo part node) : RefersTo value node

namespace Heap

/-- The node is one of the heap. -/
def Has (heap : Heap) : Node → Prop
  | .dict ref => ref.index < heap.dicts.size
  | .closure ref => ref.index < heap.closures.size

/-- The values that a node holds. -/
def heldBy (heap : Heap) : Node → List Value
  | .dict ref => (heap.contents ref).items
  | .closure ref => (heap.closure ref).captures

/-- A reference leads from one node to another. -/
def Leads (heap : Heap) (node next : Node) : Prop :=
  ∃ value ∈ heap.heldBy node, value.RefersTo next

/-- Every reference leads to a node of the heap, and no path of them back to where it starts. -/
structure Acyclic (heap : Heap) : Prop where
  closed : ∀ node next, heap.Leads node next → heap.Has next
  noCycle : ∀ node, ¬Relation.TransGen heap.Leads node node

/-- The nodes of a heap. -/
def nodes (heap : Heap) : Finset Node :=
  (Finset.range heap.dicts.size).image (fun index => .dict ⟨index⟩) ∪
    (Finset.range heap.closures.size).image (fun index => .closure ⟨index⟩)

variable {heap : Heap} {node next : Node}

theorem mem_nodes_iff : node ∈ heap.nodes ↔ heap.Has node := by
  rcases node with ⟨⟨index⟩⟩ | ⟨⟨index⟩⟩ <;> simp [nodes, Has]

theorem card_nodes_le (heap : Heap) : heap.nodes.card ≤ heap.size := by
  refine (Finset.card_union_le _ _).trans (Nat.add_le_add ?_ ?_)
  · exact Finset.card_image_le.trans (Finset.card_range _).le
  · exact Finset.card_image_le.trans (Finset.card_range _).le

open scoped Classical in
/-- The nodes that one can get to from a node along references. -/
noncomputable def beyond (heap : Heap) (node : Node) : Finset Node :=
  heap.nodes.filter (Relation.TransGen heap.Leads node)

/-- The number of those nodes. It falls along every reference. -/
noncomputable def rank (heap : Heap) (node : Node) : Nat := (heap.beyond node).card

theorem mem_beyond_iff {other : Node} :
    other ∈ heap.beyond node ↔ heap.Has other ∧ Relation.TransGen heap.Leads node other := by
  classical
  rw [← mem_nodes_iff]
  exact Finset.mem_filter

theorem Acyclic.rank_lt (acyclic : heap.Acyclic) (leads : heap.Leads node next) :
    heap.rank next < heap.rank node := by
  refine Finset.card_lt_card ((Finset.ssubset_iff_of_subset ?_).mpr ⟨next, ?_, ?_⟩)
  · intro other member
    obtain ⟨has, path⟩ := mem_beyond_iff.mp member
    exact mem_beyond_iff.mpr ⟨has, .head leads path⟩
  · exact mem_beyond_iff.mpr ⟨acyclic.closed node next leads, .single leads⟩
  · intro member
    exact acyclic.noCycle next (mem_beyond_iff.mp member).2

theorem Acyclic.rank_lt_size (acyclic : heap.Acyclic) (has : heap.Has node) :
    heap.rank node < heap.size := by
  refine Nat.lt_of_lt_of_le ?_ (card_nodes_le heap)
  refine Finset.card_lt_card ((Finset.ssubset_iff_of_subset ?_).mpr ⟨node, ?_, ?_⟩)
  · exact fun other member => mem_nodes_iff.mpr (mem_beyond_iff.mp member).1
  · exact mem_nodes_iff.mpr has
  · intro member
    exact acyclic.noCycle node (mem_beyond_iff.mp member).2

end Heap

end ScriptHost

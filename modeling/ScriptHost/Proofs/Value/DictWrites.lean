import ScriptHost.Proofs.Value.Conformance

/-! Changes to dicts and what they make of the contents of each dict. A dict is its reference: what
is changed through one copy is changed for all. -/
namespace ScriptHost

/-- A change to one entry of one dict. -/
inductive DictWrite where
  | set (ref : DictRef) (key : String) (value : Value)
  | remove (ref : DictRef) (key : String)

namespace DictWrite

/-- The dict that is changed. -/
def ref : DictWrite → DictRef
  | .set ref _ _ | .remove ref _ => ref

/-- What becomes of the contents of that dict. -/
def change : DictWrite → DictMap → DictMap
  | .set _ key value, map => map.insert key value
  | .remove _ key, map => map.erase key

end DictWrite

/-- What changes make of the contents of a dict: those of them that are made to it, in turn. -/
def replay (ref : DictRef) (writes : List DictWrite) (map : DictMap) : DictMap :=
  (writes.filter (·.ref = ref)).foldl (fun map write => write.change map) map

theorem replay_append (ref : DictRef) (first second : List DictWrite) (map : DictMap) :
    replay ref (first ++ second) map = replay ref second (replay ref first map) := by
  rw [replay, List.filter_append, List.foldl_append, replay, replay]

theorem replay_singleton (write : DictWrite) (map : DictMap) :
    replay write.ref [write] map = write.change map := by
  simp [replay]

theorem replay_singleton_of_ne {write : DictWrite} (elsewhere : ref ≠ write.ref) (map : DictMap) :
    replay ref [write] map = map := by
  simp [replay, elsewhere.symm]

namespace Heap

/-- No dict is lost, and what became of each is what certain changes make of it. -/
structure Tracks (before : Heap) (writes : List DictWrite) (after : Heap) : Prop where
  size : before.dicts.size ≤ after.dicts.size
  contents : ∀ ref, ref.index < before.dicts.size →
    after.contents ref = replay ref writes (before.contents ref)

theorem Extends.tracks {before after : Heap} (more : before.Extends after) :
    before.Tracks [] after := ⟨more.size, more.contents⟩

theorem Tracks.refl (heap : Heap) : heap.Tracks [] heap := (Extends.refl heap).tracks

theorem Tracks.trans {first second third : Heap} {earlier later : List DictWrite}
    (before : first.Tracks earlier second) (behind : second.Tracks later third) :
    first.Tracks (earlier ++ later) third where
  size := Nat.le_trans before.size behind.size
  contents ref live := by
    have kept := Nat.lt_of_lt_of_le live before.size
    rw [behind.contents ref kept, before.contents ref live, replay_append]

/-- The heap after one change. -/
def write (heap : Heap) (write : DictWrite) : Heap :=
  heap.setContents write.ref (write.change (heap.contents write.ref))

theorem size_write (heap : Heap) (write : DictWrite) :
    (heap.write write).dicts.size = heap.dicts.size := Array.size_setIfInBounds

theorem tracks_write (heap : Heap) (write : DictWrite) :
    heap.Tracks [write] (heap.write write) where
  size := Nat.le_of_eq (size_write heap write).symm
  contents ref live := by
    by_cases same : ref = write.ref
    · subst same
      rw [replay_singleton]
      exact contents_setContents heap _ live
    · rw [replay_singleton_of_ne same]
      exact contents_setContents_of_ne heap _ same

end Heap

end ScriptHost

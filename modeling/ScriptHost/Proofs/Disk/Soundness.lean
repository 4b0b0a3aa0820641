import ScriptHost.Disk.OpenFile
import ScriptHost.Proofs.Disk.Walks
import ScriptHost.Proofs.Resource.Tables

/-! Every tree that is made by the operations on files stands: what a directory lists is there, and
its parent is a directory. A walk through such a tree leads to a node that can be opened or to a
free name. -/
namespace ScriptHost.Disk

/-- The root and every parent are directories, and whatever a directory lists is there. -/
structure Sound (disk : Disk) : Prop where
  root : disk.isDirectory root = true
  parents {id : NodeId} : disk.node id = .directory parent listing → disk.isDirectory parent = true
  children {id : NodeId} : disk.node id = .directory parent listing →
    listing.find? name = some child → child < disk.nodes.size

/-- A sound tree in which all that was there before is there, and the same are directories. -/
structure Follows (disk disk' : Disk) : Prop where
  sound : disk'.Sound
  size : disk.nodes.size ≤ disk'.nodes.size
  directories {id : NodeId} : id < disk.nodes.size → disk'.isDirectory id = disk.isDirectory id

/-- A place that a walk through such a tree comes to. -/
inductive Place.There (disk : Disk) : Place → Prop where
  | node {id : NodeId} (within : id < disk.nodes.size) (plain : disk.NoLink id) :
      There disk (.node id)
  | free (inside : disk.node directory = .directory parent listing)
      (missing : listing.find? name = none) : There disk (.free directory name)

variable {disk disk' disk'' : Disk} {intent : Intent} {links : Nat}
  {id other here directory parent child : NodeId} {listing : SortedMap String NodeId}
  {name path : String} {names : List String} {place : Place} {node : Node} {content : Bytes}

theorem isDirectory_of_inside (inside : disk.node id = .directory parent listing) :
    disk.isDirectory id = true := by
  rw [isDirectory, inside]

theorem exists_of_isDirectory (isDirectory : disk.isDirectory id = true) :
    ∃ parent listing, disk.node id = .directory parent listing := by
  rw [Disk.isDirectory] at isDirectory
  split at isDirectory
  · exact ⟨_, _, ‹_›⟩
  · cases isDirectory

/-- A number from elsewhere stands for a file, so what is not a file is there. -/
theorem lt_size_of_inside (inside : disk.node id = .directory parent listing) :
    id < disk.nodes.size := by
  refine Nat.lt_of_not_le fun beyond => ?_
  simp [Disk.node, Array.getD, Nat.not_lt.mpr beyond] at inside

theorem lt_size_of_isDirectory (isDirectory : disk.isDirectory id = true) :
    id < disk.nodes.size := by
  obtain ⟨parent, listing, inside⟩ := exists_of_isDirectory isDirectory
  exact lt_size_of_inside inside

theorem noLink_of_isDirectory (isDirectory : disk.isDirectory id = true) : disk.NoLink id := by
  obtain ⟨parent, listing, inside⟩ := exists_of_isDirectory isDirectory
  intro target link
  rw [inside] at link
  cases link

theorem isDirectory_congr (same : disk'.node id = disk.node id) :
    disk'.isDirectory id = disk.isDirectory id := by
  rw [isDirectory, isDirectory, same]

/-- How the system splits and fails calls is not part of the tree. -/
theorem Sound.of_nodes (sound : disk.Sound) (same : disk'.nodes = disk.nodes) :
    Follows disk disk' := by
  obtain ⟨nodes⟩ := disk
  obtain ⟨nodes'⟩ := disk'
  cases same
  exact ⟨⟨sound.root, sound.parents, sound.children⟩, Nat.le_refl _, fun _ => rfl⟩

theorem Follows.trans (first : Follows disk disk') (second : Follows disk' disk'') :
    Follows disk disk'' where
  sound := second.sound
  size := Nat.le_trans first.size second.size
  directories within :=
    (second.directories (Nat.lt_of_lt_of_le within first.size)).trans (first.directories within)

theorem Leads.there (sound : disk.Sound) (follows : intent ≠ .noFollow)
    (leads : Leads disk intent links here names place) (within : here < disk.nodes.size)
    (start : disk.NoLink here) : place.There disk := by
  induction leads with
  | arrived => exact .node within start
  | stay _ _ _ ih => exact ih within start
  | up inside _ ih =>
    have above := sound.parents inside
    exact ih (lt_size_of_isDirectory above) (noLink_of_isDirectory above)
  | free inside _ missing => exact .free inside missing
  | down inside _ found plain _ ih => exact ih (sound.children inside found) plain
  | last _ _ _ _ unfollowed => exact absurd unfollowed follows
  | across _ _ _ _ _ _ ih =>
    split at ih
    · exact ih (lt_size_of_isDirectory sound.root) (noLink_of_isDirectory sound.root)
    · exact ih within start

theorem there_of_resolve (sound : disk.Sound) (resolved : disk.resolve intent path = .ok place)
    (follows : intent ≠ .noFollow) : place.There disk := by
  rw [resolve] at resolved
  split at resolved
  · cases resolved
  · split at resolved
    · cases resolved
    · exact (walk_eq_ok_iff.mp resolved).there sound follows (lt_size_of_isDirectory sound.root)
        (noLink_of_isDirectory sound.root)

/-! Every change of a tree changes one node after the other. -/

/-- One node of a tree was replaced, or one was added behind the others. -/
structure Changed (disk : Disk) (id : NodeId) (node : Node) (disk' : Disk) : Prop where
  nodes : ∀ other, disk'.node other = if other = id then node else disk.node other
  size : disk.nodes.size ≤ disk'.nodes.size

theorem changed_setNode (within : id < disk.nodes.size) (node : Node) :
    Changed disk id node (disk.setNode id node) := by
  refine ⟨fun other => ?_, by simp [setNode]⟩
  split
  · rename_i same
    simp [same, Disk.node, setNode, Array.getD, within]
  · rename_i different
    simp [Disk.node, setNode, Ne.symm different]

theorem changed_push (disk : Disk) (node : Node) :
    Changed disk disk.nodes.size node { disk with nodes := disk.nodes.push node } := by
  refine ⟨fun other => ?_, by simp⟩
  split
  · rename_i same
    simp [same, Disk.node]
  · rename_i different
    simp [Disk.node, Array.getElem?_push, different]

/-- A tree stands after a change that leaves directories what they are and lists what is there. -/
theorem Changed.follows (changed : Changed disk id node disk') (sound : disk.Sound)
    (kept : id < disk.nodes.size → disk'.isDirectory id = disk.isDirectory id)
    (lists : ∀ parent listing, node = .directory parent listing → disk.isDirectory parent = true ∧
      ∀ name child, listing.find? name = some child → child < disk'.nodes.size) :
    Follows disk disk' := by
  have directories {other : NodeId} (within : other < disk.nodes.size) :
      disk'.isDirectory other = disk.isDirectory other := by
    by_cases same : other = id
    · subst same
      exact kept within
    · exact isDirectory_congr ((changed.nodes other).trans (if_neg same))
  have still {other : NodeId} (before : disk.isDirectory other = true) :
      disk'.isDirectory other = true :=
    (directories (lt_size_of_isDirectory before)).trans before
  refine ⟨⟨still sound.root, fun inside => ?_, fun inside found => ?_⟩, changed.size, directories⟩
  · rw [changed.nodes] at inside
    split at inside
    · exact still (lists _ _ inside).1
    · exact still (sound.parents inside)
  · rw [changed.nodes] at inside
    split at inside
    · exact (lists _ _ inside).2 _ _ found
    · exact Nat.lt_of_lt_of_le (sound.children inside found) changed.size

/-! Files may hold anything. -/

theorem Sound.setFile (sound : disk.Sound) (noDirectory : disk.isDirectory id = false)
    (content : Bytes) : Follows disk (disk.setNode id (.file content)) := by
  by_cases within : id < disk.nodes.size
  · have changed := changed_setNode within (.file content)
    refine changed.follows sound (fun _ => ?_) nofun
    rw [noDirectory, isDirectory, changed.nodes, if_pos rfl]
  · have same : disk.setNode id (.file content) = disk := by
      rw [setNode, Array.setIfInBounds_eq_of_size_le (Nat.le_of_not_lt within)]
    exact sound.of_nodes (congrArg nodes same)

theorem Changed.keeps_of_file (changed : Changed disk id (.file content) disk')
    (plain : disk.NoLink id) (noDirectory : disk.isDirectory id = false) : Keeps disk disk' where
  directory {other parent listing} inside := by
    have different : other ≠ id := by
      rintro rfl
      rw [isDirectory_of_inside inside] at noDirectory
      cases noDirectory
    rw [changed.nodes, if_neg different]
    exact ⟨listing, inside, fun _ _ found => found⟩
  link {other target} := by
    rw [changed.nodes]
    split
    · rename_i same
      rw [same]
      exact ⟨nofun, fun link => absurd link (plain target)⟩
    · exact Iff.rfl

/-! Directories may list anything that is there. -/

theorem Sound.setListing (sound : disk.Sound) (inside : disk.node id = .directory parent listing)
    {listing' : SortedMap String NodeId}
    (lists : ∀ name child, listing'.find? name = some child → child < disk.nodes.size) :
    Follows disk (disk.setNode id (.directory parent listing')) := by
  have changed := changed_setNode (lt_size_of_inside inside) (.directory parent listing')
  refine changed.follows sound (fun _ => ?_) fun _ _ same => ?_
  · rw [isDirectory_of_inside inside, isDirectory, changed.nodes, if_pos rfl]
  · cases same
    refine ⟨sound.parents inside, fun name child found => ?_⟩
    exact Nat.lt_of_lt_of_le (lists name child found) changed.size

theorem Sound.setEntry (sound : disk.Sound) (directory : NodeId) (name : String)
    (within : id < disk.nodes.size) : Follows disk (disk.setEntry directory name id) := by
  rw [Disk.setEntry]
  split
  · rename_i parent listing inside
    refine sound.setListing inside fun other child found => ?_
    rw [SortedMap.find?_insert] at found
    split at found
    · cases found
      exact within
    · exact sound.children inside found
  · exact sound.of_nodes rfl

theorem Sound.dropEntry (sound : disk.Sound) (directory : NodeId) (name : String) :
    Follows disk (disk.dropEntry directory name) := by
  rw [Disk.dropEntry]
  split
  · rename_i parent listing inside
    refine sound.setListing inside fun other child found => ?_
    by_cases dropped : other = name
    · subst dropped
      simp at found
    · rw [SortedMap.find?_erase_of_ne] at found
      · exact sound.children inside found
      · exact fun same => dropped (Std.LawfulEqOrd.compare_eq_iff_eq.mp same)
  · exact sound.of_nodes rfl

/-! A node that is made is added, then listed. -/

theorem size_addNode (disk : Disk) (directory : NodeId) (name : String) (node : Node) :
    (disk.addNode directory name node).2.nodes.size = disk.nodes.size + 1 := by
  simp only [Disk.addNode, Disk.setEntry]
  split <;> simp [setNode]

theorem Sound.addNode (sound : disk.Sound) (directory : NodeId) (name : String)
    (lists : ∀ parent listing, node = .directory parent listing →
      disk.isDirectory parent = true ∧ listing = SortedMap.empty) :
    Follows disk (disk.addNode directory name node).2 := by
  have added := (changed_push disk node).follows sound
    (fun within => absurd within (Nat.lt_irrefl _)) fun parent listing same => by
      obtain ⟨isDirectory, rfl⟩ := lists parent listing same
      exact ⟨isDirectory, nofun⟩
  refine added.trans (added.sound.setEntry directory name ?_)
  simp

theorem changed_setEntry (inside : disk.node directory = .directory parent listing) (name : String)
    (id : NodeId) :
    Changed disk directory (.directory parent (listing.insert name id))
      (disk.setEntry directory name id) := by
  rw [setEntry, inside]
  exact changed_setNode (lt_size_of_inside inside) _

theorem node_addNode (inside : disk.node directory = .directory parent listing) (name : String)
    (node : Node) (other : NodeId) :
    (disk.addNode directory name node).2.node other =
      if other = directory then .directory parent (listing.insert name disk.nodes.size)
      else if other = disk.nodes.size then node else disk.node other := by
  have within := lt_size_of_inside inside
  have added := changed_push disk node
  have still := added.nodes directory
  rw [if_neg (Nat.ne_of_lt within), inside] at still
  refine ((changed_setEntry still name disk.nodes.size).nodes other).trans ?_
  rw [added.nodes]

/-- A file that is made under a free name takes nothing away. -/
theorem keeps_addNode (inside : disk.node directory = .directory parent listing)
    (missing : listing.find? name = none) (content : Bytes) :
    Keeps disk (disk.addNode directory name (.file content)).2 := by
  have nodes := node_addNode inside name (.file content)
  have beyond : disk.node disk.nodes.size = .file [] := by simp [Disk.node]
  refine ⟨fun {id parent' listing'} before => ?_, fun {id target} => ?_⟩
  · rw [nodes]
    split
    · rename_i same
      subst same
      cases inside.symm.trans before
      refine ⟨_, rfl, fun name' child found => ?_⟩
      rw [SortedMap.find?_insert]
      split
      · rename_i same
        rw [same, missing] at found
        cases found
      · exact found
    · split
      · rename_i same
        rw [same, beyond] at before
        cases before
      · exact ⟨listing', before, fun _ _ found => found⟩
  · rw [nodes]
    split
    · rename_i same
      rw [same, inside]
      simp
    · split
      · rename_i same
        rw [same, beyond]
        simp
      · exact Iff.rfl

theorem becomes_addNode (inside : disk.node directory = .directory parent listing)
    (content : Bytes) :
    Place.Becomes (disk.addNode directory name (.file content)).2 (.free directory name)
      disk.nodes.size := by
  have within := lt_size_of_inside inside
  have nodes := node_addNode inside name (.file content)
  refine .made ((nodes directory).trans (if_pos rfl)) (SortedMap.find?_insert_self ..) ?_
  intro target link
  rw [nodes, if_neg (Nat.ne_of_gt within), if_pos rfl] at link
  cases link

/-! Directories and links are made and removed. -/

private theorem getLast?_of_cons {rest : List String}
    (slash : (name :: rest).getLast? = some "") (moves : name ≠ "") : rest.getLast? = some "" := by
  cases rest with
  | nil => exact absurd (Option.some.inj slash) moves
  | cons next more => rwa [List.getLast?_cons_cons] at slash

/-- A path that a slash follows leads to a directory. -/
theorem Leads.isDirectory (leads : Leads disk intent links here names place)
    (slash : names.getLast? = some "") (ends : place = .node id) : disk.isDirectory id = true := by
  induction leads with
  | arrived => cases slash
  | @stay here _ _ _ _ rest _ inside _ more ih =>
    cases rest with
    | nil =>
      cases more
      cases ends
      exact isDirectory_of_inside inside
    | cons next rest => exact ih (by rwa [List.getLast?_cons_cons] at slash) ends
  | up _ _ ih => exact ih (getLast?_of_cons slash (by decide)) ends
  | free => cases ends
  | down _ looks _ _ _ ih =>
    exact ih (getLast?_of_cons slash fun same => looks.moves (.inr same)) ends
  | last _ looks _ _ _ =>
    cases getLast?_of_cons slash fun same => looks.moves (.inr same)
  | across _ looks _ _ _ _ ih =>
    have behind := getLast?_of_cons slash fun same => looks.moves (.inr same)
    exact ih (by rw [List.getLast?_append, behind, Option.some_or]) ends

theorem isDirectory_of_resolveLast (last : disk.resolveLast path = .ok (.entry directory name)) :
    disk.isDirectory directory = true := by
  rw [resolveLast] at last
  split at last
  · cases last
  split at last
  · cases last
  dsimp only at last
  split at last
  · cases last
  split at last
  · cases last
  · cases last
  rename_i found
  have above := (walk_eq_ok_iff.mp found).isDirectory (List.getLast?_concat ..) rfl
  split at last
  · cases last
  split at last
  · cases last
  split at last
  · cases last
  · cases last
    exact above

theorem sound_empty : empty.Sound := by
  have inside {id parent : NodeId} {listing : SortedMap String NodeId}
      (found : empty.node id = .directory parent listing) :
      parent = root ∧ listing = SortedMap.empty := by
    cases id with
    | zero =>
      cases found
      exact ⟨rfl, rfl⟩
    | succ => cases found
  refine ⟨rfl, fun found => ?_, fun found listed => ?_⟩
  · rw [(inside found).1]
    rfl
  · rw [(inside found).2, SortedMap.find?_empty] at listed
    cases listed

theorem Sound.makeDirectory (sound : disk.Sound) (made : disk.makeDirectory path = .ok disk') :
    Follows disk disk' := by
  rw [Disk.makeDirectory] at made
  split at made
  · cases made
  · rename_i last
    split at made
    · cases made
    · cases made
      refine sound.addNode _ _ fun parent listing same => ?_
      cases same
      exact ⟨isDirectory_of_resolveLast last, rfl⟩
  · cases made

theorem Sound.makeLink {target : String} (sound : disk.Sound)
    (made : disk.makeLink path target = .ok disk') : Follows disk disk' := by
  rw [Disk.makeLink] at made
  split at made
  · cases made
  · split at made
    · cases made
    · cases made
      exact sound.addNode _ _ nofun
  · cases made

theorem Sound.removeDirectory (sound : disk.Sound)
    (removed : disk.removeDirectory path = .ok disk') : Follows disk disk' := by
  rw [Disk.removeDirectory] at removed
  split at removed
  · cases removed
  · cases removed
  · cases removed
  · cases removed
  · split at removed
    · cases removed
    · split at removed
      · cases removed
      · split at removed
        · cases removed
        · cases removed
          exact sound.dropEntry ..

theorem Sound.removeFile (sound : disk.Sound) (removed : disk.removeFile path = .ok disk') :
    Follows disk disk' := by
  rw [Disk.removeFile] at removed
  split at removed
  · cases removed
  · split at removed
    · cases removed
    · split at removed
      · cases removed
      · cases removed
        exact sound.dropEntry ..
  · cases removed

end ScriptHost.Disk

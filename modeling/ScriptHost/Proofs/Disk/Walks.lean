import ScriptHost.Disk.Tree

/-! Where names lead in a file tree, as a relation on its nodes. A tree that grows keeps its walks,
and a name that was free leads to what is made under it. -/
namespace ScriptHost.Disk

/-- Whether a walk looks a name up in the directory that it has come to. -/
structure LooksUp (intent : Intent) (name : String) (rest : List String) : Prop where
  moves : ¬ (name = "." ∨ name = "")
  down : name ≠ ".."
  wanted : ¬ (intent = .create ∧ rest = [""])
  fits : nameTooLong name = false

/-- Whether a node is what a walk ends at, not a link to it. -/
def NoLink (disk : Disk) (id : NodeId) : Prop := ∀ target, disk.node id ≠ .link target

/-- Names lead from a node to a place through fewer than so many symbolic links. -/
inductive Leads (disk : Disk) (intent : Intent) : Nat → NodeId → List String → Place → Prop where
  | arrived : Leads disk intent (links + 1) here [] (.node here)
  | stay (inside : disk.node here = .directory parent listing) (still : name = "." ∨ name = "")
      (more : Leads disk intent (links + 1) here rest place) :
      Leads disk intent (links + 1) here (name :: rest) place
  | up (inside : disk.node here = .directory parent listing)
      (more : Leads disk intent (links + 1) parent rest place) :
      Leads disk intent (links + 1) here (".." :: rest) place
  | free (inside : disk.node here = .directory parent listing) (looks : LooksUp intent name [])
      (missing : listing.find? name = none) :
      Leads disk intent (links + 1) here [name] (.free here name)
  | down (inside : disk.node here = .directory parent listing) (looks : LooksUp intent name rest)
      (found : listing.find? name = some child) (plain : disk.NoLink child)
      (more : Leads disk intent (links + 1) child rest place) :
      Leads disk intent (links + 1) here (name :: rest) place
  | last (inside : disk.node here = .directory parent listing) (looks : LooksUp .noFollow name [])
      (found : listing.find? name = some child) (link : disk.node child = .link target)
      (unfollowed : intent = .noFollow) :
      Leads disk intent (links + 1) here [name] (.node child)
  | across (inside : disk.node here = .directory parent listing) (looks : LooksUp intent name rest)
      (found : listing.find? name = some child) (link : disk.node child = .link target)
      (followed : ¬ (rest = [] ∧ intent = .noFollow))
      (more : Leads disk intent links (if (Path.ofText target).absolute then root else here)
        ((Path.ofText target).walk ++ rest) place) :
      Leads disk intent (links + 1) here (name :: rest) place

/-- One tree holds what another holds, under the names that it has there. Files may hold anything,
and there may be more of all. -/
structure Keeps (disk disk' : Disk) : Prop where
  directory {id parent : NodeId} {listing : SortedMap String NodeId} :
    disk.node id = .directory parent listing →
    ∃ listing', disk'.node id = .directory parent listing' ∧
      ∀ name child, listing.find? name = some child → listing'.find? name = some child
  link {id : NodeId} {target : String} : disk'.node id = .link target ↔ disk.node id = .link target

/-- What is at a place later: the node that was there, or what was made under a free name. -/
inductive Place.Becomes (disk : Disk) : Place → NodeId → Prop where
  | kept {id : NodeId} : Becomes disk (.node id) id
  | made {id : NodeId} (inside : disk.node directory = .directory parent listing)
      (found : listing.find? name = some id) (plain : disk.NoLink id) :
      Becomes disk (.free directory name) id

variable {disk disk' : Disk} {intent : Intent} {links : Nat} {here parent child : NodeId}
  {listing : SortedMap String NodeId} {name target : String} {names rest : List String}
  {place : Place}

private theorem leads_of_walk (led : disk.walk intent links here names = .ok place) :
    Leads disk intent links here names place := by
  -- outside on the links that may still be followed, inside on the names up to the next link
  induction links generalizing here names with
  | zero => cases led
  | succ links behindLink =>
    rw [walk] at led
    induction names generalizing here with
    | nil =>
      cases led
      exact .arrived
    | cons name rest ih =>
      rw [walkWith] at led
      split at led
      case h_2 => cases led
      rename_i parent listing inside
      split at led
      · rename_i still
        exact .stay inside (by simpa using still) (ih led)
      rename_i moves
      split at led
      · rename_i isUp
        subst isUp
        exact .up inside (ih led)
      rename_i isDown
      split at led
      · cases led
      rename_i wanted
      split at led
      · cases led
      rename_i fits
      have looks : LooksUp intent name rest :=
        ⟨by simpa using moves, isDown, wanted, by simpa using fits⟩
      split at led
      · rename_i missing
        split at led
        · rename_i isLast
          obtain rfl := List.isEmpty_iff.mp isLast
          cases led
          exact .free inside looks missing
        · cases led
      rename_i child found
      split at led
      · rename_i target link
        split at led
        · rename_i isLast
          rw [Bool.and_eq_true, List.isEmpty_iff, beq_iff_eq] at isLast
          obtain ⟨rfl, rfl⟩ := isLast
          cases led
          exact .last inside looks found link rfl
        · rename_i followed
          refine .across inside looks found link ?_ (behindLink led)
          simpa using followed
      · rename_i plain
        exact .down inside looks found plain (ih led)

private theorem walk_of_leads (leads : Leads disk intent links here names place) :
    disk.walk intent links here names = .ok place := by
  induction leads with
  | arrived => rfl
  | stay inside still _ ih =>
    rw [walk] at ih ⊢
    simp [walkWith, inside, still, ih]
  | up inside _ ih =>
    rw [walk] at ih ⊢
    simp [walkWith, inside, ih]
  | free inside looks missing =>
    rw [walk]
    simp [walkWith, inside, looks.moves, looks.down, looks.fits, missing]
  | down inside looks found plain _ ih =>
    rw [walk] at ih ⊢
    rw [NoLink] at plain
    simp [walkWith, inside, looks.moves, looks.down, looks.wanted, looks.fits, found, ih]
  | last inside looks found link unfollowed =>
    rw [walk]
    simp [walkWith, inside, looks.moves, looks.down, looks.fits, found, link, unfollowed]
  | across inside looks found link followed _ ih =>
    rw [walk]
    simp [walkWith, inside, looks.moves, looks.down, looks.wanted, looks.fits, found, link,
      followed, ih]

theorem walk_eq_ok_iff :
    disk.walk intent links here names = .ok place ↔ Leads disk intent links here names place :=
  ⟨leads_of_walk, walk_of_leads⟩

theorem node_of_nodes (same : disk'.nodes = disk.nodes) (id : NodeId) :
    disk'.node id = disk.node id := by
  rw [Disk.node, Disk.node, same]

theorem Keeps.of_nodes (same : disk'.nodes = disk.nodes) : Keeps disk disk' where
  directory {_ _ listing} inside :=
    ⟨listing, (node_of_nodes same _).trans inside, fun _ _ found => found⟩
  link {_ _} := by rw [node_of_nodes same]

theorem Keeps.noLink (keeps : Keeps disk disk') (plain : disk.NoLink child) : disk'.NoLink child :=
  fun target link => plain target (keeps.link.mp link)

theorem LooksUp.toFollow (looks : LooksUp intent name rest) : LooksUp .follow name rest :=
  { looks with wanted := fun creating => nomatch creating.1 }

/-- Walks are found again in a tree that keeps what was there. -/
theorem Leads.becomes {id : NodeId} (keeps : Keeps disk disk') (follows : intent ≠ .noFollow)
    (leads : Leads disk intent links here names place) (becomes : place.Becomes disk' id) :
    Leads disk' .follow links here names (.node id) := by
  induction leads with
  | arrived =>
    cases becomes
    exact .arrived
  | stay inside still _ ih =>
    obtain ⟨_, inside', _⟩ := keeps.directory inside
    exact .stay inside' still (ih becomes)
  | up inside _ ih =>
    obtain ⟨_, inside', _⟩ := keeps.directory inside
    exact .up inside' (ih becomes)
  | free inside looks missing =>
    cases becomes with
    | made inside' found plain => exact .down inside' looks.toFollow found plain .arrived
  | down inside looks found plain _ ih =>
    obtain ⟨_, inside', more⟩ := keeps.directory inside
    exact .down inside' looks.toFollow (more _ _ found) (keeps.noLink plain) (ih becomes)
  | last _ _ _ _ unfollowed => exact absurd unfollowed follows
  | across inside looks found link followed _ ih =>
    obtain ⟨_, inside', more⟩ := keeps.directory inside
    refine .across inside' looks.toFollow (more _ _ found) (keeps.link.mpr link) ?_ (ih becomes)
    exact fun unfollowed => nomatch unfollowed.2

theorem resolve_becomes {id : NodeId} {path : String} (keeps : Keeps disk disk')
    (resolved : disk.resolve intent path = .ok place) (follows : intent ≠ .noFollow)
    (becomes : place.Becomes disk' id) : disk'.resolve .follow path = .ok (.node id) := by
  rw [resolve] at resolved ⊢
  split at resolved
  · cases resolved
  · rename_i filled
    split at resolved
    · cases resolved
    · rename_i fits
      rw [if_neg filled, if_neg fits]
      exact walk_eq_ok_iff.mpr ((walk_eq_ok_iff.mp resolved).becomes keeps follows becomes)

end ScriptHost.Disk

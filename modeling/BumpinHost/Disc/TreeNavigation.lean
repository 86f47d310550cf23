import BumpinHost.Disc.SearchTermination

/-!
# The tree search finds every exactly spelled name

Nothing is asked of a directory table but that its bytes spell a search tree from offset
0.  The tree search for the name of a node comes to that node, whatever else the table
holds.
-/

namespace BumpinHost.Disc

/-- The child links from offset 0 lead through the nodes of a search tree, ordered by the
raw bytes of the names. -/
structure HoldsTree (table : List Byte) (tree : BinaryTree DirectoryEntry) : Prop where
  spells : ∀ e ∈ SearchTree.items tree, ∃ rest, table.drop e.offset = e.bytes ++ rest
  nameLength : ∀ e ∈ SearchTree.items tree, 1 ≤ e.name.length ∧ e.name.length ≤ 254
  distinct : (SearchTree.items tree).Pairwise fun first second =>
    toLower first.name ≠ toLower second.name
  ordered : SearchTree.Ordered DirectoryEntry.name tree
  linked : Linked tree
  rooted : RootedAtZero tree

namespace HoldsTree

variable {table : List Byte} {tree : BinaryTree DirectoryEntry} {e : DirectoryEntry}

theorem unpadded (holds : HoldsTree table tree) (listed : e ∈ SearchTree.items tree) :
    ¬ e.LooksLikePadding := by
  intro padding
  have short := (holds.nameLength e listed).2
  rw [padding] at short
  exact absurd short (by decide)

theorem entryAt_eq (holds : HoldsTree table tree) (listed : e ∈ SearchTree.items tree) :
    entryAt table e.offset =
      if e.LooksLikePadding then none else some (e.header, e.name) := by
  obtain ⟨rest, spelled⟩ := holds.spells e listed
  exact entryAt_of_spelled spelled ((holds.nameLength e listed).2.trans (by decide))

/-- No node on a search path looks like padding. -/
theorem visiblePath_eq (holds : HoldsTree table tree) (name : Name) :
    visiblePath tree name =
      SearchTree.searchPath (fun e => decide (name < e.name)) tree := by
  unfold visiblePath
  apply List.takeWhile_eq_self_iff.mpr
  intro met below
  exact decide_eq_true (holds.unpadded (SearchTree.searchPath_subset _ _ below))

/-- The first match on the search path for a node's name is the node. -/
theorem treeMatch_eq (holds : HoldsTree table tree) (listed : e ∈ SearchTree.items tree) :
    treeMatch tree e.name = some e.found := by
  have nodup : ((SearchTree.items tree).map fun e => toLower e.name).Nodup :=
    List.pairwise_map.mpr holds.distinct
  have onPath := SearchTree.mem_searchPath_of_ordered holds.ordered listed
  unfold treeMatch
  rw [holds.visiblePath_eq,
    find?_of_nodup nodup (SearchTree.searchPath_subset _ _) rfl onPath, Option.map_some]

/-- The tree search finds the node when it has more rounds than the tree has nodes. -/
theorem navigate_eq (holds : HoldsTree table tree) (listed : e ∈ SearchTree.items tree) :
    navigate table e.name (toLower e.name) (tree.numNodes + 1) 0 = some (some e.found) := by
  rw [← holds.treeMatch_eq listed]
  cases shape : tree with
  | nil =>
      rw [shape] at listed
      cases listed
  | node root left right =>
      have rooted := holds.rooted
      have searched : navigate table e.name (toLower e.name) (tree.numNodes + 1)
          root.offset = some (treeMatch tree e.name) :=
        navigate_node tree (fun _ below => holds.entryAt_eq below) holds.linked
          (Nat.lt_succ_self _) shape
      rw [shape] at rooted searched
      have start : root.offset = 0 := rooted
      rw [start] at searched
      exact searched

end HoldsTree

/-- The search for the name of a node returns the node's data from the tree search, and
never comes to the scan. -/
theorem searchDirectory_findsNode (file : DiscFile) (tableSector tableSize : Word)
    (tree : BinaryTree DirectoryEntry)
    (holds : HoldsTree (file.read (tableSector.toNat * kSectorSize) tableSize.toNat).1 tree)
    (e : DirectoryEntry) (listed : e ∈ SearchTree.items tree) :
    navigate (file.read (tableSector.toNat * kSectorSize) tableSize.toNat).1 e.name
        (toLower e.name) (tableSize.toNat + 1) 0 = some (some e.found) ∧
      (searchDirectory file tableSector tableSize e.name).2 = some (some e.found) := by
  have length := length_read file (tableSector.toNat * kSectorSize) tableSize.toNat
  unfold searchDirectory
  generalize file.read (tableSector.toNat * kSectorSize) tableSize.toNat = loaded
    at holds length ⊢
  obtain ⟨table, file'⟩ := loaded
  dsimp only at holds length ⊢
  have enough : table.length < tableSize.toNat + 1 := by omega
  have found := navigate_enough enough (holds.navigate_eq listed)
  refine ⟨found, ?_⟩
  rw [found]

/-- A root and its left child, with other bytes between and behind them. -/
def twoNodeTable : List Byte :=
  [5, 0, 0xFF, 0xFF, 7, 0, 0, 0, 9, 0, 0, 0, 0x10, 1, 0x6D, 0x31, 0x32, 0x33, 0x34, 0x35,
    0, 0, 0, 0, 8, 0, 0, 0, 3, 0, 0, 0, 0, 1, 0x41, 0x36]

def twoNodeTree : BinaryTree DirectoryEntry :=
  .node ⟨0, 5, 0xFFFF, 7, 9, 0x10, [0x6D]⟩ (.node ⟨20, 0, 0, 8, 3, 0, [0x41]⟩ .nil .nil) .nil

theorem searchDirectory_findsNode_leftChild :
    navigate (DiscFile.read ⟨twoNodeTable, false⟩ 0 36).1 [0x41] (toLower [0x41]) 37 0 =
        some (some ⟨8, 3, false⟩) ∧
      (searchDirectory ⟨twoNodeTable, false⟩ 0 36 [0x41]).2 = some (some ⟨8, 3, false⟩) := by
  apply searchDirectory_findsNode ⟨twoNodeTable, false⟩ 0 36 twoNodeTree _
    ⟨20, 0, 0, 8, 3, 0, [0x41]⟩ (by decide)
  have table : (DiscFile.read ⟨twoNodeTable, false⟩ 0 36).1 = twoNodeTable := by
    decide +kernel
  constructor
  · intro e listed
    change e ∈ [_, _] at listed
    rw [show (0 : Word).toNat * kSectorSize = 0 from rfl, show (36 : Word).toNat = 36 from rfl,
      table]
    simp only [List.mem_cons, List.not_mem_nil, or_false] at listed
    rcases listed with rfl | rfl
    · exact ⟨[0x36], by decide +kernel⟩
    · exact ⟨twoNodeTable.drop 15, by decide +kernel⟩
  · decide +kernel
  · decide +kernel
  · decide +kernel
  · decide +kernel
  · rfl

end BumpinHost.Disc

import Mathlib.Data.Tree.Basic

/-!
# Search paths in ordered binary trees

A search that only asks at each item whether to go left meets a chain of items.
In an ordered tree, the search for an item's own key meets that item.
-/

namespace BumpinHost.SearchTree

variable {Item Key : Type*}

/-- The items of a tree, from left to right. -/
def items : BinaryTree Item → List Item
  | .nil => []
  | .node item left right => items left ++ item :: items right

/-- Every key on the left is below the key of a node, every key on the right above. -/
def Ordered [LT Key] (key : Item → Key) : BinaryTree Item → Prop
  | .nil => True
  | .node item left right =>
      (∀ other ∈ items left, key other < key item) ∧
        (∀ other ∈ items right, key item < key other) ∧
        Ordered key left ∧ Ordered key right

instance Ordered.decidable [LT Key] [DecidableLT Key] (key : Item → Key) :
    (tree : BinaryTree Item) → Decidable (Ordered key tree)
  | .nil => .isTrue trivial
  | .node item left right =>
      have := Ordered.decidable key left
      have := Ordered.decidable key right
      inferInstanceAs (Decidable ((∀ other ∈ items left, key other < key item) ∧
        (∀ other ∈ items right, key item < key other) ∧
          Ordered key left ∧ Ordered key right))

/-- The items a search meets. -/
def searchPath (goesLeft : Item → Bool) : BinaryTree Item → List Item
  | .nil => []
  | .node item left right =>
      item :: if goesLeft item then searchPath goesLeft left else searchPath goesLeft right

theorem length_items (tree : BinaryTree Item) : (items tree).length = tree.numNodes := by
  induction tree with
  | nil => rfl
  | node item left right leftIh rightIh =>
      simp only [items, List.length_append, List.length_cons, leftIh, rightIh,
        BinaryTree.numNodes]
      omega

theorem searchPath_subset (goesLeft : Item → Bool) (tree : BinaryTree Item) :
    searchPath goesLeft tree ⊆ items tree := by
  induction tree with
  | nil => exact List.nil_subset _
  | node item left right leftIh rightIh =>
      intro met listed
      rcases List.mem_cons.mp listed with rfl | below
      · exact List.mem_append_right _ List.mem_cons_self
      · cases direction : goesLeft item with
        | true =>
            rw [direction] at below
            exact List.mem_append_left _ (leftIh below)
        | false =>
            rw [direction] at below
            exact List.mem_append_right _ (List.mem_cons_of_mem _ (rightIh below))

/-- The search for the key of an item meets the item. -/
theorem mem_searchPath_of_ordered [LT Key] [DecidableLT Key]
    [Std.Asymm (fun first second : Key => first < second)] {key : Item → Key}
    {tree : BinaryTree Item} (ordered : Ordered key tree) {item : Item}
    (listed : item ∈ items tree) :
    item ∈ searchPath (fun other => decide (key item < key other)) tree := by
  induction tree with
  | nil => cases listed
  | node root left right leftIh rightIh =>
      obtain ⟨below, above, leftOrdered, rightOrdered⟩ := ordered
      rcases List.mem_append.mp listed with onLeft | rest
      · have goesLeft : decide (key item < key root) = true :=
          decide_eq_true (below item onLeft)
        simp only [searchPath, goesLeft, if_true]
        exact List.mem_cons_of_mem _ (leftIh leftOrdered onLeft)
      rcases List.mem_cons.mp rest with rfl | onRight
      · exact List.mem_cons_self
      · have goesRight : decide (key item < key root) = false :=
          decide_eq_false (Std.Asymm.asymm _ _ (above item onRight))
        simp only [searchPath, goesRight, Bool.false_eq_true, if_false]
        exact List.mem_cons_of_mem _ (rightIh rightOrdered onRight)

end BumpinHost.SearchTree

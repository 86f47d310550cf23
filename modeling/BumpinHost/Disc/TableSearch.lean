import BumpinHost.Disc.Layout
import Mathlib.Data.List.TakeWhile

/-!
# Searching one directory table

The tree search meets the entries on the search path of the requested name, up to
one whose name length is the padding byte.  The scan reads the leading run of entries
that follow each other without a gap, and then whatever the first gap and the bytes
behind it happen to spell.
-/

namespace BumpinHost.Disc

/-- The entries the tree search can compare with a name. -/
def visiblePath (tree : BinaryTree DirectoryEntry) (name : Name) : List DirectoryEntry :=
  (SearchTree.searchPath (fun e => decide (name < e.name)) tree).takeWhile
    fun e => ¬ e.LooksLikePadding

/-- The entries that begin where the one before them ends, up to a gap or a name
length that reads as padding. -/
def leadingRun : Nat → List DirectoryEntry → List DirectoryEntry
  | _, [] => []
  | position, e :: entries =>
      if e.offset = position ∧ ¬ e.LooksLikePadding then
        e :: leadingRun e.nextAligned entries
      else []

/-- Where the leading run ends. -/
def runEnd : Nat → List DirectoryEntry → Nat
  | position, [] => position
  | position, e :: entries =>
      if e.offset = position ∧ ¬ e.LooksLikePadding then runEnd e.nextAligned entries
      else position

theorem lt_of_entryAt {table : List Byte} {position : Nat} {read : EntryHeader × Name}
    (present : entryAt table position = some read) : position + 14 ≤ table.length := by
  unfold entryAt at present
  split at present
  · cases present
  · omega

/-- The entries that a table spells from an offset on, read one after another. -/
def readPacked (table : List Byte) (position : Nat) : List (EntryHeader × Name) :=
  match present : entryAt table position with
  | none => []
  | some read => read :: readPacked table ((position + 14 + read.1.nameLength.toNat + 3) / 4 * 4)
termination_by table.length - position
decreasing_by
  have inTable := lt_of_entryAt present
  omega

/-- What the scan reads behind the leading run. -/
def strayEntries (table : List Byte) (entries : List DirectoryEntry) :
    List (EntryHeader × Name) :=
  readPacked table (runEnd 0 entries)

/-- A name is looked up as the table says: the entry it names is on its visible search
path, or in the leading run, or a stray entry under its name carries the same data; and
no stray entry has a name that names no entry. -/
def FindsName (table : List Byte) (entries : List DirectoryEntry)
    (tree : BinaryTree DirectoryEntry) (name : Name) : Prop :=
  match findEntry entries name with
  | some e =>
      e ∈ visiblePath tree name ∨ e ∈ leadingRun 0 entries ∨
        ((strayEntries table entries).find? fun read => toLower name == toLower read.2).map
          (fun read => read.1.entry) = some e.found
  | none => ∀ read ∈ strayEntries table entries, toLower name ≠ toLower read.2

theorem tableU16_storedU16 (value : BitVec 16) (rest : List Byte) :
    tableU16 (storedU16 value ++ rest) 0 = value := by
  show value.extractLsb' 8 8 ++ value.extractLsb' 0 8 = value
  rw [BitVec.extractLsb'_append_extractLsb'_eq_extractLsb' (by decide)]
  exact BitVec.extractLsb'_eq_self

theorem tableU32_storedU32 (value : Word) (rest : List Byte) :
    tableU32 (storedU32 value ++ rest) 0 = value :=
  Memory.word_of_bytes value

theorem getD_add (table : List Byte) (position index : Nat) :
    table.getD (position + index) 0 = (table.drop position).getD index 0 := by
  rw [List.getD_eq_getElem?_getD, List.getD_eq_getElem?_getD, List.getElem?_drop]

theorem tableU16_add (table : List Byte) (position index : Nat) :
    tableU16 table (position + index) = tableU16 (table.drop position) index := by
  simp only [tableU16, Nat.add_assoc, getD_add table position]

theorem tableU32_add (table : List Byte) (position index : Nat) :
    tableU32 table (position + index) = tableU32 (table.drop position) index := by
  simp only [tableU32, Nat.add_assoc, getD_add table position]

theorem readHeader_drop (table : List Byte) (position : Nat) :
    readHeader table position = readHeader (table.drop position) 0 := by
  have first := tableU16_add table position 0
  rw [Nat.add_zero] at first
  simp only [readHeader, first, tableU16_add table position, tableU32_add table position,
    getD_add table position, Nat.zero_add]

theorem readHeader_bytes (e : DirectoryEntry) (rest : List Byte) :
    readHeader (e.bytes ++ rest) 0 = e.header := by
  have left := tableU16_storedU16 e.leftOffset
  have right := tableU16_storedU16 e.rightOffset []
  have start := tableU32_storedU32 e.startSector []
  have length := tableU32_storedU32 e.fileSize []
  simp only [readHeader, DirectoryEntry.header, EntryHeader.mk.injEq]
  refine ⟨left _, right, start, length, rfl, rfl⟩

section Table

variable {table : List Byte} {entries : List DirectoryEntry}
  {tree : BinaryTree DirectoryEntry} {e : DirectoryEntry}

theorem TableLayout.spells (layout : TableLayout table entries tree) (listed : e ∈ entries) :
    ∃ rest, table.drop e.offset = e.bytes ++ rest := by
  rw [layout.bytes]
  exact drop_layOut layout.inOrder listed

/-- Where the bytes of an entry lie, the entry is read, unless its name length reads as
padding. -/
theorem entryAt_of_spelled {rest : List Byte}
    (spelled : table.drop e.offset = e.bytes ++ rest) (atMost : e.name.length ≤ 255) :
    entryAt table e.offset =
      if e.LooksLikePadding then none else some (e.header, e.name) := by
  have lengths := congrArg List.length spelled
  rw [List.length_drop, List.length_append, DirectoryEntry.length_bytes] at lengths
  have header : readHeader table e.offset = e.header := by
    rw [readHeader_drop, spelled, readHeader_bytes]
  unfold entryAt
  dsimp only
  rw [if_neg (by omega), header]
  by_cases padding : e.LooksLikePadding
  · have full : e.header.nameLength = 0xFF :=
      congrArg (BitVec.ofNat 8) padding
    rw [if_pos padding, if_pos full]
  · have short : e.name.length < 255 := by
      unfold DirectoryEntry.LooksLikePadding at padding
      omega
    have stored : e.header.nameLength.toNat = e.name.length := by
      show (BitVec.ofNat 8 e.name.length).toNat = e.name.length
      rw [BitVec.toNat_ofNat]
      omega
    have unpadded : e.header.nameLength ≠ 0xFF := by
      intro full
      rw [full] at stored
      have whole : e.name.length = 255 := stored.symm
      omega
    rw [if_neg padding, if_neg unpadded, stored, if_neg (by omega), ← List.drop_drop, spelled]
    have split : e.bytes ++ rest = e.bytes.take 14 ++ (e.name ++ rest) := by
      rw [← List.append_assoc]
      rfl
    rw [split, List.drop_left' (by rfl), List.take_left' rfl]

theorem TableLayout.entryAt_eq (layout : TableLayout table entries tree)
    (listed : e ∈ entries) :
    entryAt table e.offset =
      if e.LooksLikePadding then none else some (e.header, e.name) := by
  obtain ⟨rest, spelled⟩ := layout.spells listed
  exact entryAt_of_spelled spelled (layout.wellPlaced e listed).nameLength.2

/-- What the tree search returns: the first visible match. -/
def treeMatch (tree : BinaryTree DirectoryEntry) (name : Name) : Option XdvdfsEntry :=
  ((visiblePath tree name).find? fun e => toLower e.name == toLower name).map
    DirectoryEntry.found

/-- The tree search from a child offset, given the tree search of the subtree there. -/
theorem navigate_child {name : Name} {childOffset : BitVec 16} {rounds : Nat}
    {subtree : BinaryTree DirectoryEntry} (links : LinksTo childOffset subtree)
    (below : ∀ {child left right}, subtree = .node child left right →
      navigate table name (toLower name) rounds child.offset =
        some (treeMatch subtree name)) :
    (if childOffset = 0xFFFF ∨ childOffset = 0 then some none
      else navigate table name (toLower name) rounds (childOffset.toNat * 4)) =
      some (treeMatch subtree name) := by
  cases subtree with
  | nil => exact if_pos links
  | node child left right =>
      obtain ⟨notAbsent, notZero, linked⟩ := links
      rw [if_neg (fun sentinel => sentinel.elim notAbsent notZero), linked]
      exact below rfl

/-- The tree search from the root of a linked tree.  The induction is on the tree; the
rounds left exceed the nodes below. -/
theorem navigate_node {name : Name} (subtree : BinaryTree DirectoryEntry)
    (reads : ∀ e ∈ SearchTree.items subtree,
      entryAt table e.offset = if e.LooksLikePadding then none else some (e.header, e.name))
    (linked : Linked subtree)
    {rounds : Nat} (enough : subtree.numNodes < rounds) {root : DirectoryEntry}
    {left right : BinaryTree DirectoryEntry} (node : subtree = .node root left right) :
    navigate table name (toLower name) rounds root.offset =
      some (treeMatch subtree name) := by
  induction subtree generalizing rounds root left right with
  | nil => cases node
  | node e leftTree rightTree leftIh rightIh =>
      cases node
      obtain ⟨leftLinks, rightLinks, leftLinked, rightLinked⟩ := linked
      obtain ⟨rounds, rfl⟩ : ∃ fewer, rounds = fewer + 1 :=
        ⟨rounds - 1, by omega⟩
      simp only [BinaryTree.numNodes] at enough
      have leftReads := fun e (below : e ∈ SearchTree.items leftTree) =>
        reads e (List.mem_append_left _ below)
      have rightReads := fun e (below : e ∈ SearchTree.items rightTree) =>
        reads e (List.mem_append_right _ (List.mem_cons_of_mem _ below))
      have here := reads e (List.mem_append_right _ List.mem_cons_self)
      unfold treeMatch visiblePath
      by_cases padding : e.LooksLikePadding
      · rw [if_pos padding] at here
        simp [navigate, here, SearchTree.searchPath, padding]
      · rw [if_neg padding] at here
        simp only [navigate, here, SearchTree.searchPath, List.takeWhile, padding,
          not_false_eq_true, decide_true, List.find?_cons]
        by_cases same : toLower name = toLower e.name
        · simp [same, DirectoryEntry.found]
        · rw [if_neg same, beq_false_of_ne (Ne.symm same)]
          by_cases before : name < e.name
          · simp only [before, if_true, decide_true]
            exact navigate_child leftLinks fun node =>
              leftIh leftReads leftLinked (by omega) node
          · simp only [before, if_false, decide_false, Bool.false_eq_true]
            exact navigate_child rightLinks fun node =>
              rightIh rightReads rightLinked (by omega) node

theorem InOrder.length_le {size position : Nat} (inOrder : InOrder position entries)
    (inside : ∀ e ∈ entries, e.endOffset ≤ size) (begins : position ≤ size) :
    entries.length ≤ size - position := by
  induction entries generalizing position with
  | nil => exact Nat.zero_le _
  | cons first entries ih =>
      obtain ⟨after, follows⟩ := inOrder
      have firstInside := inside first List.mem_cons_self
      have rest := ih follows (fun e listed => inside e (List.mem_cons_of_mem _ listed))
        firstInside
      unfold DirectoryEntry.endOffset at firstInside rest
      rw [List.length_cons]
      omega

theorem TableLayout.numNodes_le (layout : TableLayout table entries tree) :
    tree.numNodes ≤ table.length := by
  have shorter := layout.inOrder.length_le
    (fun e listed => (layout.wellPlaced e listed).inside) (Nat.zero_le _)
  rw [← SearchTree.length_items, layout.members.length_eq]
  exact shorter

/-- An entry that the table spells overlaps one that lies there. -/
theorem TableLayout.covered_of_entryAt (layout : TableLayout table entries tree)
    {position : Nat} {read : EntryHeader × Name}
    (present : entryAt table position = some read) :
    ∃ e ∈ entries, e.offset ≤ position + 13 ∧ position + 13 < e.endOffset := by
  have inTable := lt_of_entryAt present
  by_contra uncovered
  have padding : table.getD (position + 13) 0 = 0xFF := by
    have filled := getD_layOut_padding layout.inOrder (Nat.zero_le (position + 13))
      (show position + 13 < table.length by omega) fun e listed => by
        by_contra covers
        exact uncovered ⟨e, listed, by omega, by omega⟩
    rw [layout.bytes]
    exact filled
  have length : (readHeader table position).nameLength = 0xFF := padding
  unfold entryAt at present
  dsimp only at present
  rw [if_neg (by omega), if_pos length] at present
  cases present

/-- The whole tree search, which ends. -/
theorem TableLayout.navigate_eq (layout : TableLayout table entries tree) (name : Name) :
    navigate table name (toLower name) (table.length + 1) 0 =
      some (treeMatch tree name) := by
  have reads := fun e (listed : e ∈ SearchTree.items tree) =>
    layout.entryAt_eq (layout.members.mem_iff.mp listed)
  have enough := Nat.lt_succ_of_le layout.numNodes_le
  cases shape : tree with
  | nil =>
      cases present : entryAt table 0 with
      | none =>
          simp only [navigate, present]
          rfl
      | some read =>
          obtain ⟨e, inTable, -⟩ := layout.covered_of_entryAt present
          have inTree := layout.members.mem_iff.mpr inTable
          rw [shape] at inTree
          cases inTree
  | node root left right =>
      have rooted := layout.rooted
      rw [← shape, ← navigate_node tree reads layout.linked enough shape]
      rw [shape] at rooted
      exact congrArg _ rooted.symm

/-- Linked entries lie where a 16-bit offset in units of four reaches. -/
theorem offset_le_of_linked (subtree : BinaryTree DirectoryEntry) (linked : Linked subtree)
    (rootLow : ∀ {root left right}, subtree = .node root left right →
      root.offset ≤ 65535 * 4) :
    ∀ e ∈ SearchTree.items subtree, e.offset ≤ 65535 * 4 := by
  induction subtree with
  | nil =>
      intro e listed
      cases listed
  | node root left right leftIh rightIh =>
      obtain ⟨leftLinks, rightLinks, leftLinked, rightLinked⟩ := linked
      have childLow : ∀ {childOffset : BitVec 16} {child : BinaryTree DirectoryEntry},
          LinksTo childOffset child → ∀ {e l r}, child = .node e l r →
            e.offset ≤ 65535 * 4 := by
        intro childOffset child links e l r node
        subst node
        have small := childOffset.isLt
        have placed := links.2.2
        omega
      intro e listed
      rcases List.mem_append.mp listed with onLeft | rest
      · exact leftIh leftLinked (childLow leftLinks) e onLeft
      rcases List.mem_cons.mp rest with rfl | onRight
      · exact rootLow rfl
      · exact rightIh rightLinked (childLow rightLinks) e onRight

theorem TableLayout.offset_le (layout : TableLayout table entries tree)
    (listed : e ∈ entries) : e.offset ≤ 65535 * 4 := by
  apply offset_le_of_linked tree layout.linked _ e (layout.members.mem_iff.mpr listed)
  intro root left right node
  have rooted := layout.rooted
  rw [node] at rooted
  rw [show root.offset = 0 from rooted]
  exact Nat.zero_le _

/-- The scan's offset does not wrap while the table still spells entries. -/
theorem TableLayout.nextOffset_eq (layout : TableLayout table entries tree)
    {position : Nat} {read : EntryHeader × Name}
    (present : entryAt table position = some read) :
    nextOffset position read.1.nameLength =
      (position + 14 + read.1.nameLength.toNat + 3) / 4 * 4 := by
  obtain ⟨e, listed, -, covers⟩ := layout.covered_of_entryAt present
  have low := layout.offset_le listed
  have short := (layout.wellPlaced e listed).nameLength.2
  have byte := read.1.nameLength.isLt
  unfold DirectoryEntry.endOffset at covers
  unfold nextOffset
  rw [Nat.mod_eq_of_lt (by omega)]
  omega

theorem readPacked_of_none {position : Nat} (absent : entryAt table position = none) :
    readPacked table position = [] := by
  rw [readPacked]
  split
  · rfl
  · rename_i read present
    rw [absent] at present
    cases present

theorem readPacked_of_some {position : Nat} {read : EntryHeader × Name}
    (present : entryAt table position = some read) :
    readPacked table position =
      read :: readPacked table ((position + 14 + read.1.nameLength.toNat + 3) / 4 * 4) := by
  rw [readPacked]
  split
  · rename_i absent
    rw [present] at absent
    cases absent
  · rename_i other again
    rw [present] at again
    cases again
    rfl

/-- What the scan returns: the first match among the entries read one after another. -/
def scanMatch (table : List Byte) (position : Nat) (name : Name) : Option XdvdfsEntry :=
  ((readPacked table position).find? fun read => toLower name == toLower read.2).map
    fun read => read.1.entry

/-- The scan ends with its first match.  The induction is on the rounds, of which there
are more than bytes left. -/
theorem TableLayout.scanLinear_eq (layout : TableLayout table entries tree) (name : Name)
    {rounds position : Nat} (enough : table.length < position + rounds) (left : 0 < rounds) :
    scanLinear table (toLower name) rounds position =
      some (scanMatch table position name) := by
  induction rounds generalizing position with
  | zero => exact absurd left (Nat.lt_irrefl 0)
  | succ rounds ih =>
      unfold scanMatch
      cases present : entryAt table position with
      | none =>
          rw [readPacked_of_none present]
          simp only [scanLinear, present]
          rfl
      | some read =>
          rw [readPacked_of_some present, List.find?_cons]
          obtain ⟨header, entryName⟩ := read
          simp only [scanLinear, present]
          by_cases same : toLower name = toLower entryName
          · simp [same]
          · rw [if_neg same, beq_false_of_ne same, layout.nextOffset_eq present]
            have inTable := lt_of_entryAt present
            exact ih (by dsimp only; omega) (by omega)

/-- The scan reads the leading run, and then what lies behind it. -/
theorem TableLayout.readPacked_eq (layout : TableLayout table entries tree)
    (rest : List DirectoryEntry) (listed : ∀ e ∈ rest, e ∈ entries) (position : Nat) :
    readPacked table position =
      (leadingRun position rest).map (fun e => (e.header, e.name)) ++
        readPacked table (runEnd position rest) := by
  induction rest generalizing position with
  | nil => rfl
  | cons e rest ih =>
      unfold leadingRun runEnd
      by_cases continues : e.offset = position ∧ ¬ e.LooksLikePadding
      · obtain ⟨rfl, unpadded⟩ := continues
        have inTable := listed e List.mem_cons_self
        have present := layout.entryAt_eq inTable
        rw [if_neg unpadded] at present
        have stored : e.header.nameLength.toNat = e.name.length := by
          have atMost := (layout.wellPlaced e inTable).nameLength.2
          show (BitVec.ofNat 8 e.name.length).toNat = e.name.length
          rw [BitVec.toNat_ofNat]
          omega
        have after := ih (fun e below => listed e (List.mem_cons_of_mem _ below)) e.nextAligned
        rw [if_pos ⟨rfl, unpadded⟩, if_pos ⟨rfl, unpadded⟩, readPacked_of_some present,
          List.map_cons, List.cons_append, ← after]
        dsimp only
        rw [stored]
        rfl
      · rw [if_neg continues, if_neg continues]
        rfl

theorem leadingRun_subset (position : Nat) (rest : List DirectoryEntry) :
    leadingRun position rest ⊆ rest := by
  induction rest generalizing position with
  | nil => exact List.nil_subset _
  | cons e rest ih =>
      unfold leadingRun
      split
      · exact List.cons_subset_cons _ (ih _)
      · exact List.nil_subset _

theorem TableLayout.visiblePath_subset (layout : TableLayout table entries tree)
    (name : Name) : visiblePath tree name ⊆ entries := by
  intro e visible
  have onPath := (List.takeWhile_prefix _).subset visible
  exact layout.members.mem_iff.mp (SearchTree.searchPath_subset _ _ onPath)

/-- Among entries with names of their own, a search by name finds the named one. -/
theorem find?_of_nodup {known subset : List DirectoryEntry}
    (nodup : (known.map fun e => toLower e.name).Nodup) (listed : subset ⊆ known)
    {name : Name} (named : toLower e.name = toLower name) (member : e ∈ subset) :
    (subset.find? fun other => toLower other.name == toLower name) = some e := by
  cases found : subset.find? fun other => toLower other.name == toLower name with
  | none =>
      have missed := List.find?_eq_none.mp found e member
      exact absurd (beq_iff_eq.mpr named) missed
  | some other =>
      have there := List.mem_of_find?_eq_some found
      have matched := List.find?_some found
      rw [List.inj_on_of_nodup_map nodup (listed there) (listed member)
        ((eq_of_beq matched).trans named.symm)]

/-- Among some entries of a table, a search by name finds the named entry or nothing. -/
theorem TableLayout.find?_eq (layout : TableLayout table entries tree) {name : Name}
    (named : findEntry entries name = some e) {subset : List DirectoryEntry}
    (listed : subset ⊆ entries) :
    (subset.find? fun other => toLower other.name == toLower name) =
      if e ∈ subset then some e else none := by
  have nodup : (entries.map fun e => toLower e.name).Nodup :=
    List.pairwise_map.mpr layout.distinct
  have matched := List.find?_some named
  have same : toLower e.name = toLower name := eq_of_beq matched
  split
  · rename_i member
    exact find?_of_nodup nodup listed same member
  · rename_i missing
    apply List.find?_eq_none.mpr
    intro other there matched
    have unique := List.inj_on_of_nodup_map nodup (listed there)
      (List.mem_of_find?_eq_some named) ((eq_of_beq matched).trans same.symm)
    exact missing (unique ▸ there)

theorem find?_eq_none_of_findEntry {name : Name} (unnamed : findEntry entries name = none)
    {subset : List DirectoryEntry} (listed : subset ⊆ entries) :
    (subset.find? fun other => toLower other.name == toLower name) = none :=
  List.find?_eq_none.mpr fun e member => List.find?_eq_none.mp unnamed e (listed member)

/-- What the scan returns, with the leading run apart from the stray entries. -/
theorem TableLayout.scanMatch_eq (layout : TableLayout table entries tree) (name : Name) :
    scanMatch table 0 name =
      (((leadingRun 0 entries).find? fun e => toLower e.name == toLower name).map
        DirectoryEntry.found).or
      (((strayEntries table entries).find? fun read => toLower name == toLower read.2).map
        fun read => read.1.entry) := by
  have flipped : (fun e : DirectoryEntry => toLower name == toLower e.name) =
      fun e => toLower e.name == toLower name := by
    funext e
    exact BEq.comm
  unfold scanMatch strayEntries
  rw [layout.readPacked_eq entries (fun _ listed => listed) 0, List.find?_append,
    List.find?_map, Option.map_or, Option.map_map]
  show (Option.map _ ((leadingRun 0 entries).find?
    fun e => toLower name == toLower e.name)).or _ = _
  rw [flipped]
  rfl

/-- Both searches together return what the table says exactly when the table finds the
name. -/
theorem TableLayout.findsName_iff (layout : TableLayout table entries tree) (name : Name) :
    (treeMatch tree name).or (scanMatch table 0 name) =
        (findEntry entries name).map DirectoryEntry.found ↔
      FindsName table entries tree name := by
  rw [layout.scanMatch_eq]
  unfold treeMatch FindsName
  cases named : findEntry entries name with
  | none =>
      rw [find?_eq_none_of_findEntry named (layout.visiblePath_subset name),
        find?_eq_none_of_findEntry named (leadingRun_subset 0 entries)]
      simp
  | some e =>
      rw [layout.find?_eq named (layout.visiblePath_subset name),
        layout.find?_eq named (leadingRun_subset 0 entries)]
      by_cases visible : e ∈ visiblePath tree name
      · simp [visible]
      by_cases leading : e ∈ leadingRun 0 entries
      · simp [visible, leading]
      · simp [visible, leading]

/-- A name in its stored case is found when no name length of the table reads as
padding: the search for it runs down to its entry. -/
theorem TableLayout.findsName_stored (layout : TableLayout table entries tree)
    (unpadded : ∀ e ∈ entries, ¬ e.LooksLikePadding) (listed : e ∈ entries) :
    FindsName table entries tree e.name := by
  have onPath := SearchTree.mem_searchPath_of_ordered layout.ordered
    (layout.members.mem_iff.mpr listed)
  have visible : e ∈ visiblePath tree e.name := by
    unfold visiblePath
    rw [List.takeWhile_eq_self_iff.mpr]
    · exact onPath
    · intro met below
      exact decide_eq_true (unpadded met
        (layout.members.mem_iff.mp (SearchTree.searchPath_subset _ _ below)))
  rw [← layout.findsName_iff]
  cases named : findEntry entries e.name with
  | none =>
      have absent := List.find?_eq_none.mp named e listed
      exact absurd BEq.rfl absent
  | some other =>
      have nodup : (entries.map fun e => toLower e.name).Nodup :=
        List.pairwise_map.mpr layout.distinct
      have matched := List.find?_some named
      obtain rfl := List.inj_on_of_nodup_map nodup (List.mem_of_find?_eq_some named) listed
        (eq_of_beq matched)
      unfold treeMatch
      rw [layout.find?_eq named (layout.visiblePath_subset other.name), if_pos visible]
      rfl

theorem le_runEnd (rest : List DirectoryEntry) (position : Nat) :
    position ≤ runEnd position rest := by
  induction rest generalizing position with
  | nil => exact Nat.le_refl _
  | cons first rest ih =>
      unfold runEnd
      split
      · rename_i continues
        have after := ih first.nextAligned
        have begins := continues.1
        unfold DirectoryEntry.nextAligned DirectoryEntry.endOffset at after
        unfold DirectoryEntry.nextAligned DirectoryEntry.endOffset
        omega
      · exact Nat.le_refl _

theorem endOffset_le_runEnd {rest : List DirectoryEntry} {position : Nat}
    (gapless : leadingRun position rest = rest) (listed : e ∈ rest) :
    e.endOffset ≤ runEnd position rest := by
  induction rest generalizing position with
  | nil => cases listed
  | cons first rest ih =>
      unfold leadingRun at gapless
      unfold runEnd
      by_cases continues : first.offset = position ∧ ¬ first.LooksLikePadding
      · rw [if_pos continues] at gapless ⊢
        rcases List.mem_cons.mp listed with rfl | later
        · have after := le_runEnd rest e.nextAligned
          unfold DirectoryEntry.nextAligned at after
          unfold DirectoryEntry.nextAligned
          omega
        · exact ih (List.cons_eq_cons.mp gapless).2 later
      · rw [if_neg continues] at gapless
        cases gapless

/-- A table without gaps finds every name in every case. -/
theorem TableLayout.findsName_gapless (layout : TableLayout table entries tree)
    (gapless : leadingRun 0 entries = entries) (name : Name) :
    FindsName table entries tree name := by
  have stray : strayEntries table entries = [] := by
    apply readPacked_of_none
    cases present : entryAt table (runEnd 0 entries) with
    | none => rfl
    | some read =>
        obtain ⟨e, listed, -, covers⟩ := layout.covered_of_entryAt present
        have ended := endOffset_le_runEnd gapless listed
        omega
  unfold FindsName
  cases named : findEntry entries name with
  | none =>
      intro read behind
      rw [stray] at behind
      cases behind
  | some e =>
      right
      left
      rw [gapless]
      exact List.mem_of_find?_eq_some named

end Table

end BumpinHost.Disc

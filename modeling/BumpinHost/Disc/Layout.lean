import BumpinHost.Disc.Xdvdfs
import BumpinHost.Library.SearchTree
import Mathlib.Data.List.GetD

/-!
# How a directory tree lies on a disc

A directory table holds its entries at multiples of four, none across the end of a
sector, and padding everywhere else.  The child offsets link the entries into a tree
ordered by the raw bytes of the names.  A path names an entry when its parts name a
chain of entries, each found in the directory that the part before it names.
-/

namespace BumpinHost.Disc

/-- A directory entry and where it lies in its table. -/
structure DirectoryEntry where
  offset : Nat
  leftOffset : BitVec 16
  rightOffset : BitVec 16
  startSector : Word
  fileSize : Word
  attributes : Byte
  name : Name
deriving DecidableEq, Repr

namespace DirectoryEntry

variable (e : DirectoryEntry)

def header : EntryHeader where
  leftOffset := e.leftOffset
  rightOffset := e.rightOffset
  startSector := e.startSector
  fileSize := e.fileSize
  attributes := e.attributes
  nameLength := BitVec.ofNat 8 e.name.length

/-- What a lookup returns for the entry. -/
def found : XdvdfsEntry :=
  e.header.entry

/-- The byte after the name. -/
def endOffset : Nat :=
  e.offset + 14 + e.name.length

/-- The first multiple of four after the name. -/
def nextAligned : Nat :=
  (e.endOffset + 3) / 4 * 4

/-- A name of this length has the padding byte as its length byte. -/
def LooksLikePadding : Prop :=
  e.name.length = 255

instance : Decidable e.LooksLikePadding :=
  inferInstanceAs (Decidable (_ = _))

end DirectoryEntry

/-- Two bytes, the low one first. -/
def storedU16 (value : BitVec 16) : List Byte :=
  [value.extractLsb' 0 8, value.extractLsb' 8 8]

/-- Four bytes, the lowest first. -/
def storedU32 (value : Word) : List Byte :=
  [value.extractLsb' 0 8, value.extractLsb' 8 8, value.extractLsb' 16 8,
    value.extractLsb' 24 8]

/-- The bytes of an entry, without its alignment. -/
def DirectoryEntry.bytes (e : DirectoryEntry) : List Byte :=
  storedU16 e.leftOffset ++ storedU16 e.rightOffset ++ storedU32 e.startSector ++
    storedU32 e.fileSize ++ [e.attributes, BitVec.ofNat 8 e.name.length] ++ e.name

/-- The table bytes from an offset on, given the entries that lie there. -/
def layOut (size : Nat) : Nat → List DirectoryEntry → List Byte
  | position, [] => List.replicate (size - position) 0xFF
  | position, e :: entries =>
      List.replicate (e.offset - position) 0xFF ++ e.bytes ++ layOut size e.endOffset entries

/-- Each entry begins at or after the end of the one before it. -/
def InOrder : Nat → List DirectoryEntry → Prop
  | _, [] => True
  | position, e :: entries => position ≤ e.offset ∧ InOrder e.endOffset entries

instance InOrder.decidable :
    (position : Nat) → (entries : List DirectoryEntry) → Decidable (InOrder position entries)
  | _, [] => .isTrue trivial
  | position, e :: entries =>
      have := InOrder.decidable e.endOffset entries
      inferInstanceAs (Decidable (position ≤ e.offset ∧ InOrder e.endOffset entries))

/-- What holds of every entry of a table of a given size. -/
structure DirectoryEntry.WellPlaced (size : Nat) (e : DirectoryEntry) : Prop where
  aligned : e.offset % 4 = 0
  inside : e.endOffset ≤ size
  withinSector : e.offset / kSectorSize = (e.endOffset - 1) / kSectorSize
  nameLength : 1 ≤ e.name.length ∧ e.name.length ≤ 255
  plainName : ∀ c ∈ e.name, isSeparator c = false

instance (size : Nat) (e : DirectoryEntry) : Decidable (e.WellPlaced size) :=
  decidable_of_iff (e.offset % 4 = 0 ∧ e.endOffset ≤ size ∧
      e.offset / kSectorSize = (e.endOffset - 1) / kSectorSize ∧
      (1 ≤ e.name.length ∧ e.name.length ≤ 255) ∧ ∀ c ∈ e.name, isSeparator c = false)
    ⟨fun ⟨aligned, inside, withinSector, nameLength, plainName⟩ =>
        ⟨aligned, inside, withinSector, nameLength, plainName⟩,
      fun placed => ⟨placed.aligned, placed.inside, placed.withinSector, placed.nameLength,
        placed.plainName⟩⟩

/-- A child offset links to a subtree: both sentinels link to none. -/
def LinksTo (childOffset : BitVec 16) : BinaryTree DirectoryEntry → Prop
  | .nil => childOffset = 0xFFFF ∨ childOffset = 0
  | .node e _ _ =>
      childOffset ≠ 0xFFFF ∧ childOffset ≠ 0 ∧ childOffset.toNat * 4 = e.offset

instance LinksTo.decidable (childOffset : BitVec 16) :
    (tree : BinaryTree DirectoryEntry) → Decidable (LinksTo childOffset tree)
  | .nil => inferInstanceAs (Decidable (childOffset = 0xFFFF ∨ childOffset = 0))
  | .node e _ _ =>
      inferInstanceAs (Decidable (childOffset ≠ 0xFFFF ∧ childOffset ≠ 0 ∧
        childOffset.toNat * 4 = e.offset))

def Linked : BinaryTree DirectoryEntry → Prop
  | .nil => True
  | .node e left right =>
      LinksTo e.leftOffset left ∧ LinksTo e.rightOffset right ∧ Linked left ∧ Linked right

instance Linked.decidable : (tree : BinaryTree DirectoryEntry) → Decidable (Linked tree)
  | .nil => .isTrue trivial
  | .node e left right =>
      have := Linked.decidable left
      have := Linked.decidable right
      inferInstanceAs (Decidable (LinksTo e.leftOffset left ∧ LinksTo e.rightOffset right ∧
        Linked left ∧ Linked right))

/-- The root of a table's tree lies at offset 0. -/
def RootedAtZero : BinaryTree DirectoryEntry → Prop
  | .nil => True
  | .node e _ _ => e.offset = 0

/-- A directory table that holds these entries, linked into this tree. -/
structure TableLayout (table : List Byte) (entries : List DirectoryEntry)
    (tree : BinaryTree DirectoryEntry) : Prop where
  bytes : table = layOut table.length 0 entries
  inOrder : InOrder 0 entries
  wellPlaced : ∀ e ∈ entries, e.WellPlaced table.length
  distinct : entries.Pairwise fun first second => toLower first.name ≠ toLower second.name
  members : (SearchTree.items tree).Perm entries
  ordered : SearchTree.Ordered DirectoryEntry.name tree
  linked : Linked tree
  rooted : RootedAtZero tree

/-- Where a directory table lies in the image. -/
structure Extent where
  startSector : Word
  fileSize : Word
deriving DecidableEq, Repr

def XdvdfsEntry.extent (entry : XdvdfsEntry) : Extent :=
  ⟨entry.startSector, entry.fileSize⟩

def XdvdfsImage.rootExtent (image : XdvdfsImage) : Extent :=
  ⟨image.rootSector, image.rootSize⟩

/-- The bytes of an extent. -/
def Extent.bytes (extent : Extent) (image : List Byte) : List Byte :=
  (image.drop (extent.startSector.toNat * kSectorSize)).take extent.fileSize.toNat

/-- The extents of the root directory and of every directory below it. -/
inductive IsDirectoryExtent (entries : Extent → List DirectoryEntry) (root : Extent) :
    Extent → Prop
  | root : IsDirectoryExtent entries root root
  | child {extent : Extent} {e : DirectoryEntry}
      (parent : IsDirectoryExtent entries root extent) (listed : e ∈ entries extent)
      (directory : e.found.isDirectory = true) :
      IsDirectoryExtent entries root e.found.extent

/-- A directory tree on a disc image that can be read: what each directory's table
holds. -/
structure DiscLayout (image : XdvdfsImage) where
  streaming : image.file.failed = false
  entries : Extent → List DirectoryEntry
  tree : Extent → BinaryTree DirectoryEntry
  inside : ∀ extent, IsDirectoryExtent entries image.rootExtent extent →
    extent.startSector.toNat * kSectorSize + extent.fileSize.toNat ≤ image.file.bytes.length
  laidOut : ∀ extent, IsDirectoryExtent entries image.rootExtent extent →
    TableLayout (extent.bytes image.file.bytes) (entries extent) (tree extent)

/-- The entry a name names, ignoring the case of ASCII letters. -/
def findEntry (entries : List DirectoryEntry) (name : Name) : Option DirectoryEntry :=
  entries.find? fun e => toLower e.name == toLower name

/-- The entry at the end of the chain that a part and the parts after it name. -/
def namedEntry (entries : Extent → List DirectoryEntry) (extent : Extent) (part : Name) :
    List Name → Option XdvdfsEntry
  | [] => (findEntry (entries extent) part).map DirectoryEntry.found
  | next :: parts =>
      match findEntry (entries extent) part with
      | some e =>
          if e.found.isDirectory then namedEntry entries e.found.extent next parts else none
      | none => none

/-- A path is resolved as the directory tree says: the search ends, returns true with
the named entry, or false with the caller's entry unchanged. -/
def ResolvesAsLaidOut {image : XdvdfsImage} (layout : DiscLayout image) (path : Name)
    (outEntry : XdvdfsEntry) : Prop :=
  let named := match splitPath path with
    | [] => none
    | part :: parts => namedEntry layout.entries image.rootExtent part parts
  (resolvePath image path outEntry).2 =
    some (named.isSome, named.getD outEntry)

section Reading

variable {size : Nat} {entries : List DirectoryEntry} {e : DirectoryEntry}

theorem DirectoryEntry.length_bytes (e : DirectoryEntry) :
    e.bytes.length = 14 + e.name.length := by
  simp [DirectoryEntry.bytes, storedU16, storedU32]
  omega

theorem InOrder.offset_ge {position : Nat} (inOrder : InOrder position entries)
    (listed : e ∈ entries) : position ≤ e.offset := by
  induction entries generalizing position with
  | nil => cases listed
  | cons first entries ih =>
      obtain ⟨begins, rest⟩ := inOrder
      rcases List.mem_cons.mp listed with rfl | later
      · exact begins
      · have after := ih rest later
        unfold DirectoryEntry.endOffset at after
        omega

/-- Where an entry lies, the table holds its bytes. -/
theorem drop_layOut {position : Nat} (inOrder : InOrder position entries)
    (listed : e ∈ entries) :
    ∃ rest, (layOut size position entries).drop (e.offset - position) = e.bytes ++ rest := by
  induction entries generalizing position with
  | nil => cases listed
  | cons first entries ih =>
      obtain ⟨begins, follows⟩ := inOrder
      rcases List.mem_cons.mp listed with rfl | later
      · refine ⟨layOut size e.endOffset entries, ?_⟩
        rw [layOut, List.append_assoc, List.drop_left' (List.length_replicate ..)]
      · obtain ⟨rest, dropped⟩ := ih follows later
        refine ⟨rest, ?_⟩
        have after := follows.offset_ge later
        have skipped : (List.replicate (first.offset - position) 0xFF ++ first.bytes).length =
            first.endOffset - position := by
          rw [List.length_append, List.length_replicate, DirectoryEntry.length_bytes]
          unfold DirectoryEntry.endOffset
          omega
        have split : e.offset - position =
            (first.endOffset - position) + (e.offset - first.endOffset) := by
          unfold DirectoryEntry.endOffset at after ⊢
          omega
        rw [layOut, split, ← List.drop_drop, List.drop_left' skipped, dropped]

/-- Where no entry lies, the table holds padding. -/
theorem getD_layOut_padding {position index : Nat} (inOrder : InOrder position entries)
    (begins : position ≤ index) (inTable : index < size)
    (outside : ∀ e ∈ entries, index < e.offset ∨ e.endOffset ≤ index) :
    (layOut size position entries).getD (index - position) 0 = 0xFF := by
  induction entries generalizing position with
  | nil =>
      rw [layOut, List.getD_eq_getElem?_getD, List.getElem?_replicate,
        if_pos (by omega), Option.getD_some]
  | cons first entries ih =>
      obtain ⟨after, follows⟩ := inOrder
      rcases outside first List.mem_cons_self with before | behind
      · rw [layOut, List.append_assoc, List.getD_append _ _ _ _
            (by rw [List.length_replicate]; omega),
          List.getD_eq_getElem?_getD, List.getElem?_replicate, if_pos (by omega),
          Option.getD_some]
      · have skipped : (List.replicate (first.offset - position) 0xFF ++ first.bytes).length =
            first.endOffset - position := by
          rw [List.length_append, List.length_replicate, DirectoryEntry.length_bytes]
          unfold DirectoryEntry.endOffset
          omega
        rw [layOut, List.getD_append_right _ _ _ _ (by rw [skipped]; omega), skipped]
        have shifted : index - position - (first.endOffset - position) =
            index - first.endOffset := by
          unfold DirectoryEntry.endOffset at behind ⊢
          omega
        rw [shifted]
        exact ih follows behind fun e listed => outside e (List.mem_cons_of_mem _ listed)

end Reading

end BumpinHost.Disc

import BumpinHost.Library.ByteMemory

/-!
# Reading an XDVDFS disc image

The image file is read sector by sector through one stream.  A directory table is
searched twice: along its tree links, and then by a scan over all its entries.
Offsets are 32-bit in the source, so the scan's offset can wrap, and a loop that
never ends has no result here.
-/

namespace BumpinHost.Disc

/-- File names and paths are byte strings. -/
abbrev Name := List Byte

structure XdvdfsEntry where
  startSector : Word
  fileSize : Word
  isDirectory : Bool
deriving DecidableEq, Repr

/-- A value-initialised entry. -/
def XdvdfsEntry.initial : XdvdfsEntry :=
  ⟨0, 0, false⟩

def kSectorSize : Nat := 2048

def kVolumeDescriptorOffset : Nat := 0x10000

/-- `MICROSOFT*XBOX*MEDIA` -/
def kMagic : List Byte :=
  [0x4D, 0x49, 0x43, 0x52, 0x4F, 0x53, 0x4F, 0x46, 0x54, 0x2A, 0x58, 0x42, 0x4F, 0x58,
    0x2A, 0x4D, 0x45, 0x44, 0x49, 0x41]

/-- Lower case of one byte: only the ASCII capitals change. -/
def toLowerByte (c : Byte) : Byte :=
  if 0x41 ≤ c ∧ c ≤ 0x5A then c + 0x20 else c

def toLower (s : Name) : Name :=
  s.map toLowerByte

/-- A backslash or a slash. -/
def isSeparator (c : Byte) : Bool :=
  c == 0x5C || c == 0x2F

/-- The parts found so far and the part being read, after one more byte. -/
def splitStep (st : List Name × Name) (c : Byte) : List Name × Name :=
  if isSeparator c then
    if st.2.isEmpty then st else (st.1 ++ [st.2], [])
  else
    (st.1, st.2 ++ [c])

def splitPath (path : Name) : List Name :=
  let st := path.foldl splitStep ([], [])
  if st.2.isEmpty then st.1 else st.1 ++ [st.2]

/-- The image file as a stream.  After a short read every further read fails. -/
structure DiscFile where
  bytes : List Byte
  failed : Bool
deriving DecidableEq, Repr

/-- Seek and read into zeroed memory. -/
def DiscFile.read (file : DiscFile) (position count : Nat) : List Byte × DiscFile :=
  if file.failed then
    (List.replicate count 0, file)
  else
    let available := (file.bytes.drop position).take count
    (available ++ List.replicate (count - available.length) 0,
      { file with failed := available.length < count })

/-- Seek and read: the bytes that are transferred.  An offset below zero, which is what a
position from `2 ^ 63` on stands for, fails the seek. -/
def DiscFile.transfer (file : DiscFile) (position : BitVec 64) (count : Nat) :
    List Byte × DiscFile :=
  if file.failed then
    ([], file)
  else if position.msb then
    ([], { file with failed := true })
  else
    let available := (file.bytes.drop position.toNat).take count
    (available, { file with failed := available.length < count })

/-- The little-endian 16-bit value at a position of a table. -/
def tableU16 (table : List Byte) (position : Nat) : BitVec 16 :=
  table.getD (position + 1) 0 ++ table.getD position 0

/-- The little-endian word at a position of a table. -/
def tableU32 (table : List Byte) (position : Nat) : Word :=
  (table.getD (position + 3) 0 ++ table.getD (position + 2) 0) ++
    (table.getD (position + 1) 0 ++ table.getD position 0)

structure XdvdfsImage where
  file : DiscFile
  rootSector : Word
  rootSize : Word
deriving DecidableEq, Repr

/-- Open an image file: it has to hold the volume descriptor's magic. -/
def openImage (bytes : List Byte) : Option XdvdfsImage :=
  let (magic, file) := DiscFile.read ⟨bytes, false⟩ kVolumeDescriptorOffset 20
  if magic ≠ kMagic then none
  else
    let (rootSector, file) := file.read (kVolumeDescriptorOffset + 20) 4
    let (rootSize, file) := file.read (kVolumeDescriptorOffset + 24) 4
    some ⟨file, tableU32 rootSector 0, tableU32 rootSize 0⟩

/-- The fixed part of a directory entry. -/
structure EntryHeader where
  leftOffset : BitVec 16
  rightOffset : BitVec 16
  startSector : Word
  fileSize : Word
  attributes : Byte
  nameLength : Byte
deriving DecidableEq, Repr

def readHeader (table : List Byte) (entryOffset : Nat) : EntryHeader where
  leftOffset := tableU16 table entryOffset
  rightOffset := tableU16 table (entryOffset + 2)
  startSector := tableU32 table (entryOffset + 4)
  fileSize := tableU32 table (entryOffset + 8)
  attributes := table.getD (entryOffset + 12) 0
  nameLength := table.getD (entryOffset + 13) 0

def EntryHeader.entry (header : EntryHeader) : XdvdfsEntry :=
  ⟨header.startSector, header.fileSize, header.attributes &&& 0x10 != 0⟩

/-- The entry at an offset, with its name, unless the table ends first or the name
length is the padding byte. -/
def entryAt (table : List Byte) (entryOffset : Nat) : Option (EntryHeader × Name) :=
  if table.length < entryOffset + 14 then none
  else
    let header := readHeader table entryOffset
    if header.nameLength = 0xFF then none
    else if table.length < entryOffset + 14 + header.nameLength.toNat then none
    else some (header, (table.drop (entryOffset + 14)).take header.nameLength.toNat)

/-- Follow the tree links from an offset, by the raw order of the names.  No result
when the rounds run out; otherwise the entry whose name matches, if one is met. -/
def navigate (table : List Byte) (name targetLower : Name) :
    Nat → Nat → Option (Option XdvdfsEntry)
  | 0, _ => none
  | rounds + 1, entryOffset =>
      match entryAt table entryOffset with
      | none => some none
      | some (header, entryName) =>
          if targetLower = toLower entryName then some (some header.entry)
          else if name < entryName then
            if header.leftOffset = 0xFFFF ∨ header.leftOffset = 0 then some none
            else navigate table name targetLower rounds (header.leftOffset.toNat * 4)
          else
            if header.rightOffset = 0xFFFF ∨ header.rightOffset = 0 then some none
            else navigate table name targetLower rounds (header.rightOffset.toNat * 4)

/-- The offset after an entry: the next multiple of four, in 32 bits. -/
def nextOffset (linearOffset : Nat) (nameLength : Byte) : Nat :=
  (linearOffset + (14 + nameLength.toNat) + 3) % 2 ^ 32 / 4 * 4

/-- Read one entry after another. -/
def scanLinear (table : List Byte) (targetLower : Name) :
    Nat → Nat → Option (Option XdvdfsEntry)
  | 0, _ => none
  | rounds + 1, linearOffset =>
      match entryAt table linearOffset with
      | none => some none
      | some (header, entryName) =>
          if targetLower = toLower entryName then some (some header.entry)
          else scanLinear table targetLower rounds (nextOffset linearOffset header.nameLength)

/-- Search the table that lies at a sector.  A loop that takes more rounds than the
table has bytes comes back to an offset it has seen, and never ends. -/
def searchDirectory (file : DiscFile) (tableSector tableSize : Word) (name : Name) :
    DiscFile × Option (Option XdvdfsEntry) :=
  let (table, file) := file.read (tableSector.toNat * kSectorSize) tableSize.toNat
  let targetLower := toLower name
  let rounds := tableSize.toNat + 1
  match navigate table name targetLower rounds 0 with
  | none => (file, none)
  | some (some entry) => (file, some (some entry))
  | some none => (file, scanLinear table targetLower rounds 0)

/-- The loop over the parts of a path, of which at least one is left. -/
def resolveParts (file : DiscFile) (tableSector tableSize : Word) (part : Name) :
    List Name → DiscFile × Option (Option XdvdfsEntry)
  | [] => searchDirectory file tableSector tableSize part
  | next :: parts =>
      match searchDirectory file tableSector tableSize part with
      | (file, some (some current)) =>
          if ¬ current.isDirectory then (file, some none)
          else resolveParts file current.startSector current.fileSize next parts
      | stopped => stopped

/-- The result and the caller's entry afterwards, if the search ends. -/
def resolvePath (image : XdvdfsImage) (path : Name) (outEntry : XdvdfsEntry) :
    XdvdfsImage × Option (Bool × XdvdfsEntry) :=
  match splitPath path with
  | [] => (image, some (false, outEntry))
  | part :: parts =>
      let (file, found) :=
        resolveParts image.file image.rootSector image.rootSize part parts
      ({ image with file := file }, found.map fun
        | some current => (true, current)
        | none => (false, outEntry))

/-- The bytes copied to the destination. -/
def readBytes (image : XdvdfsImage) (entry : XdvdfsEntry) (offsetInFile : BitVec 64)
    (length : Word) : XdvdfsImage × List Byte :=
  let (bytes, file) := image.file.transfer
    (entry.startSector.setWidth 64 * BitVec.ofNat 64 kSectorSize + offsetInFile) length.toNat
  ({ image with file := file }, bytes)

end BumpinHost.Disc

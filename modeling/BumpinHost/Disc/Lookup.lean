import BumpinHost.Disc.TableSearch

/-!
# When a path is resolved as the disc says

A path is resolved right, together with every path that names a part of its chain,
exactly when each table on the way finds the next name.
-/

namespace BumpinHost.Disc

/-- A part of a path: it is not empty, and no byte of it is a separator. -/
def IsPart (part : Name) : Prop :=
  part ≠ [] ∧ ∀ c ∈ part, isSeparator c = false

/-- A path with given parts. -/
def joinPath (parts : List Name) : Name :=
  parts.flatMap fun part => part ++ [0x5C]

theorem foldl_splitStep_part (parts : List Name) {current part : Name}
    (plain : ∀ c ∈ part, isSeparator c = false) :
    part.foldl splitStep (parts, current) = (parts, current ++ part) := by
  induction part generalizing current with
  | nil => rw [List.foldl_nil, List.append_nil]
  | cons c part ih =>
      have here : splitStep (parts, current) c = (parts, current ++ [c]) := by
        rw [splitStep, if_neg]
        rw [plain c List.mem_cons_self]
        exact Bool.false_ne_true
      rw [List.foldl_cons, here, ih fun d listed => plain d (List.mem_cons_of_mem _ listed),
        List.append_assoc]
      rfl

theorem foldl_splitStep_joinPath (done parts : List Name)
    (plain : ∀ part ∈ parts, IsPart part) :
    (joinPath parts).foldl splitStep (done, []) = (done ++ parts, []) := by
  induction parts generalizing done with
  | nil => rw [List.append_nil]; rfl
  | cons part parts ih =>
      obtain ⟨nonempty, unseparated⟩ := plain part List.mem_cons_self
      have closes : splitStep (done, part) 0x5C = (done ++ [part], []) := by
        rw [splitStep, if_pos (by decide), if_neg]
        rw [List.isEmpty_iff]
        exact nonempty
      rw [joinPath, List.flatMap_cons, List.foldl_append, List.foldl_append,
        foldl_splitStep_part done unseparated, List.nil_append, List.foldl_cons, closes,
        List.foldl_nil]
      have rest := ih (done ++ [part]) fun other listed =>
        plain other (List.mem_cons_of_mem _ listed)
      rw [List.append_assoc] at rest
      exact rest

theorem splitPath_joinPath {parts : List Name} (plain : ∀ part ∈ parts, IsPart part) :
    splitPath (joinPath parts) = parts := by
  unfold splitPath
  rw [foldl_splitStep_joinPath [] parts plain]
  rfl

/-- What holds of the parts and the bytes read so far. -/
def PartsRead (st : List Name × Name) : Prop :=
  (∀ part ∈ st.1, IsPart part) ∧ ∀ c ∈ st.2, isSeparator c = false

/-- Closing the part being read. -/
theorem PartsRead.close {st : List Name × Name} (read : PartsRead st)
    (nonempty : ¬ st.2.isEmpty = true) : ∀ part ∈ st.1 ++ [st.2], IsPart part := by
  intro part listed
  rcases List.mem_append.mp listed with earlier | new
  · exact read.1 part earlier
  · obtain rfl := List.mem_singleton.mp new
    exact ⟨fun empty => nonempty (List.isEmpty_iff.mpr empty), read.2⟩

theorem PartsRead.splitStep {st : List Name × Name} (read : PartsRead st) (c : Byte) :
    PartsRead (splitStep st c) := by
  unfold Disc.splitStep
  split
  · split
    · exact read
    · rename_i nonempty
      refine ⟨read.close nonempty, ?_⟩
      intro d listed
      cases listed
  · rename_i plain
    refine ⟨read.1, ?_⟩
    intro d listed
    rcases List.mem_append.mp listed with earlier | new
    · exact read.2 d earlier
    · obtain rfl := List.mem_singleton.mp new
      exact Bool.eq_false_of_not_eq_true plain

theorem PartsRead.foldl (path : Name) {st : List Name × Name} (read : PartsRead st) :
    PartsRead (path.foldl Disc.splitStep st) := by
  induction path generalizing st with
  | nil => exact read
  | cons c path ih => exact ih (read.splitStep c)

theorem isPart_of_splitPath (path : Name) : ∀ part ∈ splitPath path, IsPart part := by
  have start : PartsRead ([], []) := ⟨by simp, by simp⟩
  have read := start.foldl path
  unfold splitPath
  dsimp only
  split
  · exact read.1
  · rename_i nonempty
    exact read.close nonempty

theorem DiscFile.read_inside {file : DiscFile} {position count : Nat}
    (streaming : file.failed = false) (inside : position + count ≤ file.bytes.length) :
    file.read position count = ((file.bytes.drop position).take count, file) := by
  have whole : ((file.bytes.drop position).take count).length = count := by
    rw [List.length_take, List.length_drop]
    omega
  obtain ⟨bytes, failed⟩ := file
  cases streaming
  unfold DiscFile.read
  dsimp only at whole ⊢
  rw [if_neg Bool.false_ne_true, whole, Nat.sub_self, List.replicate_zero, List.append_nil,
    decide_eq_false (Nat.lt_irrefl count)]

/-- An image with a volume descriptor opens with the root that it names. -/
theorem openImage_eq {bytes before after : List Byte} {rootSector rootSize : Word}
    (begins : before.length = kVolumeDescriptorOffset)
    (shape : bytes = before ++
      (kMagic ++ (storedU32 rootSector ++ (storedU32 rootSize ++ after)))) :
    openImage bytes = some ⟨⟨bytes, false⟩, rootSector, rootSize⟩ := by
  have magicLength : kMagic.length = 20 := rfl
  have sectorLength : (storedU32 rootSector).length = 4 := rfl
  have sizeLength : (storedU32 rootSize).length = 4 := rfl
  have long : kVolumeDescriptorOffset + 28 ≤ bytes.length := by
    rw [shape]
    simp only [List.length_append, begins, magicLength, sectorLength, sizeLength]
    omega
  have dropped : bytes.drop kVolumeDescriptorOffset =
      kMagic ++ (storedU32 rootSector ++ (storedU32 rootSize ++ after)) := by
    rw [shape, List.drop_left' begins]
  have magic : DiscFile.read ⟨bytes, false⟩ kVolumeDescriptorOffset 20 =
      (kMagic, ⟨bytes, false⟩) := by
    rw [DiscFile.read_inside rfl (by dsimp only; omega), dropped, List.take_left' magicLength]
  have sector : DiscFile.read ⟨bytes, false⟩ (kVolumeDescriptorOffset + 20) 4 =
      (storedU32 rootSector, ⟨bytes, false⟩) := by
    rw [DiscFile.read_inside rfl (by dsimp only; omega), ← List.drop_drop, dropped,
      List.drop_left' magicLength, List.take_left' sectorLength]
  have size : DiscFile.read ⟨bytes, false⟩ (kVolumeDescriptorOffset + 24) 4 =
      (storedU32 rootSize, ⟨bytes, false⟩) := by
    have again : kVolumeDescriptorOffset + 24 = kVolumeDescriptorOffset + 20 + 4 := rfl
    rw [DiscFile.read_inside rfl (by dsimp only; omega), again, ← List.drop_drop,
      ← List.drop_drop, dropped, List.drop_left' magicLength, List.drop_left' sectorLength,
      List.take_left' sizeLength]
  have sectorStored := tableU32_storedU32 rootSector []
  have sizeStored := tableU32_storedU32 rootSize []
  rw [List.append_nil] at sectorStored sizeStored
  unfold openImage
  rw [magic]
  dsimp only
  rw [if_neg (not_not.mpr rfl), sector]
  dsimp only
  rw [size, sectorStored, sizeStored]

section Image

variable {image : XdvdfsImage} (layout : DiscLayout image)

/-- The table of a directory finds a name. -/
def DiscLayout.Finds (extent : Extent) (name : Name) : Prop :=
  FindsName (extent.bytes image.file.bytes) (layout.entries extent) (layout.tree extent) name

/-- Every table on the way of a chain of parts finds the next part. -/
def DiscLayout.FindsAlong : Extent → Name → List Name → Prop
  | extent, part, [] => layout.Finds extent part
  | extent, part, next :: parts =>
      layout.Finds extent part ∧
        ∀ e, findEntry (layout.entries extent) part = some e → e.found.isDirectory = true →
          FindsAlong e.found.extent next parts

/-- The same for a path string. -/
def DiscLayout.FindsPath (path : Name) : Prop :=
  match splitPath path with
  | [] => True
  | part :: parts => layout.FindsAlong image.rootExtent part parts

variable {layout} {extent : Extent}

/-- The extents that hold directory tables. -/
def DiscLayout.IsDirectory (layout : DiscLayout image) (extent : Extent) : Prop :=
  IsDirectoryExtent layout.entries image.rootExtent extent

theorem Extent.length_bytes {bytes : List Byte} {extent : Extent}
    (inside : extent.startSector.toNat * kSectorSize + extent.fileSize.toNat ≤ bytes.length) :
    (extent.bytes bytes).length = extent.fileSize.toNat := by
  unfold Extent.bytes
  rw [List.length_take, List.length_drop]
  omega

/-- A search of a directory ends, leaves the stream good, and returns the match of its
tree search, or else of its scan. -/
theorem searchDirectory_eq (directory : layout.IsDirectory extent) (name : Name) :
    searchDirectory image.file extent.startSector extent.fileSize name =
      (image.file, some ((treeMatch (layout.tree extent) name).or
        (scanMatch (extent.bytes image.file.bytes) 0 name))) := by
  have inside := layout.inside extent directory
  have table := layout.laidOut extent directory
  have length := Extent.length_bytes inside
  have navigated := table.navigate_eq name
  have scanned : scanLinear (extent.bytes image.file.bytes) (toLower name)
      (extent.fileSize.toNat + 1) 0 = some (scanMatch (extent.bytes image.file.bytes) 0 name) :=
    table.scanLinear_eq name (by omega) (by omega)
  rw [length] at navigated
  unfold searchDirectory
  rw [DiscFile.read_inside layout.streaming inside]
  dsimp only
  change navigate ((image.file.bytes.drop _).take _) _ _ _ _ = _ at navigated
  rw [navigated]
  cases treeMatch (layout.tree extent) name with
  | some entry => rfl
  | none =>
      dsimp only
      exact congrArg (Prod.mk image.file) scanned

theorem searchDirectory_finds_iff (directory : layout.IsDirectory extent) (name : Name) :
    (searchDirectory image.file extent.startSector extent.fileSize name).2 =
        some ((findEntry (layout.entries extent) name).map DirectoryEntry.found) ↔
      layout.Finds extent name := by
  rw [searchDirectory_eq directory, Option.some_inj]
  exact (layout.laidOut extent directory).findsName_iff name

/-- A step into a directory that the table finds. -/
theorem resolveParts_cons (directory : layout.IsDirectory extent) {part next : Name}
    {parts : List Name} (finds : layout.Finds extent part) :
    (resolveParts image.file extent.startSector extent.fileSize part (next :: parts)).2 =
      match findEntry (layout.entries extent) part with
      | some e =>
          if e.found.isDirectory then
            (resolveParts image.file e.found.startSector e.found.fileSize next parts).2
          else some none
      | none => some none := by
  have right := (searchDirectory_finds_iff directory part).mpr finds
  rw [searchDirectory_eq directory] at right
  rw [resolveParts, searchDirectory_eq directory]
  dsimp only at right ⊢
  rw [Option.some_inj] at right
  rw [right]
  cases findEntry (layout.entries extent) part with
  | none => rfl
  | some e =>
      dsimp only [Option.map_some]
      by_cases isDirectory : e.found.isDirectory = true
      · rw [if_neg (not_not.mpr isDirectory), if_pos isDirectory]
      · rw [if_pos isDirectory, if_neg isDirectory]

/-- The induction is on the parts; the shorter chains give the first table's turn. -/
theorem resolveParts_iff (parts : List Name) (part : Name)
    (directory : layout.IsDirectory extent) :
    (∀ shorter, shorter <+: parts →
      (resolveParts image.file extent.startSector extent.fileSize part shorter).2 =
        some (namedEntry layout.entries extent part shorter)) ↔
      layout.FindsAlong extent part parts := by
  induction parts generalizing extent part with
  | nil =>
      unfold DiscLayout.FindsAlong
      rw [← searchDirectory_finds_iff directory part]
      constructor
      · intro right
        exact right [] List.nil_prefix
      · intro right shorter isPrefix
        obtain rfl := List.prefix_nil.mp isPrefix
        exact right
  | cons next parts ih =>
      have below : ∀ {e}, findEntry (layout.entries extent) part = some e →
          e.found.isDirectory = true → layout.IsDirectory e.found.extent :=
        fun named isDirectory =>
          .child directory (List.mem_of_find?_eq_some named) isDirectory
      constructor
      · intro right
        have finds : layout.Finds extent part := by
          rw [← searchDirectory_finds_iff directory part]
          exact right [] List.nil_prefix
        refine ⟨finds, ?_⟩
        intro e named isDirectory
        rw [← ih next (below named isDirectory)]
        intro shorter isPrefix
        have step := right (next :: shorter) (List.cons_prefix_cons.mpr ⟨rfl, isPrefix⟩)
        rw [resolveParts_cons directory finds, namedEntry, named] at step
        dsimp only at step
        rw [if_pos isDirectory, if_pos isDirectory] at step
        exact step
      · rintro ⟨finds, follows⟩ shorter isPrefix
        cases shorter with
        | nil => exact (searchDirectory_finds_iff directory part).mpr finds
        | cons first shorter =>
            obtain ⟨rfl, shorterPrefix⟩ := List.cons_prefix_cons.mp isPrefix
            rw [resolveParts_cons directory finds, namedEntry]
            cases named : findEntry (layout.entries extent) part with
            | none => rfl
            | some e =>
                dsimp only
                by_cases isDirectory : e.found.isDirectory = true
                · rw [if_pos isDirectory, if_pos isDirectory]
                  exact (ih first (below named isDirectory)).mpr
                    (follows e named isDirectory) shorter shorterPrefix
                · rw [if_neg isDirectory, if_neg isDirectory]

/-- What the caller sees is right exactly when the search of the parts is. -/
theorem resolvesAsLaidOut_iff {path part : Name} {parts : List Name}
    (split : splitPath path = part :: parts) (outEntry : XdvdfsEntry) :
    ResolvesAsLaidOut layout path outEntry ↔
      (resolveParts image.file image.rootSector image.rootSize part parts).2 =
        some (namedEntry layout.entries image.rootExtent part parts) := by
  unfold ResolvesAsLaidOut resolvePath
  rw [split]
  dsimp only
  generalize (resolveParts image.file image.rootSector image.rootSize part parts).2 = result
  generalize namedEntry layout.entries image.rootExtent part parts = named
  rcases result with _ | _ | found <;> rcases named with _ | entry <;> simp

theorem resolvesAsLaidOut_of_no_parts {path : Name} (split : splitPath path = [])
    (outEntry : XdvdfsEntry) : ResolvesAsLaidOut layout path outEntry := by
  unfold ResolvesAsLaidOut resolvePath
  rw [split]
  rfl

/-- A path and all the paths along it are resolved right exactly when every table on the
way finds the next part. -/
theorem resolvePath_iff {image : XdvdfsImage} (layout : DiscLayout image) (path : Name) :
    (∀ shorter outEntry, splitPath shorter <+: splitPath path →
      ResolvesAsLaidOut layout shorter outEntry) ↔ layout.FindsPath path := by
  unfold DiscLayout.FindsPath
  cases split : splitPath path with
  | nil =>
      simp only [List.prefix_nil, iff_true]
      exact fun shorter outEntry none => resolvesAsLaidOut_of_no_parts none outEntry
  | cons part parts =>
      dsimp only
      rw [← resolveParts_iff parts part .root]
      constructor
      · intro right shorter isPrefix
        have plain : ∀ other ∈ part :: shorter, IsPart other := by
          intro other listed
          apply isPart_of_splitPath path
          rw [split]
          exact (List.cons_prefix_cons.mpr ⟨rfl, isPrefix⟩).subset listed
        have joined := splitPath_joinPath plain
        apply (resolvesAsLaidOut_iff joined .initial).mp
        apply right
        rw [joined]
        exact List.cons_prefix_cons.mpr ⟨rfl, isPrefix⟩
      · intro right shorter outEntry isPrefix
        cases shorterSplit : splitPath shorter with
        | nil => exact resolvesAsLaidOut_of_no_parts shorterSplit outEntry
        | cons first rest =>
            rw [shorterSplit] at isPrefix
            obtain ⟨rfl, restPrefix⟩ := List.cons_prefix_cons.mp isPrefix
            rw [resolvesAsLaidOut_iff shorterSplit]
            exact right rest restPrefix

/-- A disc whose tables have no gaps resolves every path in every case. -/
theorem resolvesAsLaidOut_gapless
    (gapless : ∀ extent, layout.IsDirectory extent →
      leadingRun 0 (layout.entries extent) = layout.entries extent)
    (path : Name) (outEntry : XdvdfsEntry) : ResolvesAsLaidOut layout path outEntry := by
  have along : ∀ (parts : List Name) (part : Name) {extent : Extent},
      layout.IsDirectory extent → layout.FindsAlong extent part parts := by
    intro parts
    induction parts with
    | nil =>
        intro part extent directory
        exact (layout.laidOut extent directory).findsName_gapless (gapless extent directory) part
    | cons next parts ih =>
        intro part extent directory
        refine ⟨(layout.laidOut extent directory).findsName_gapless
          (gapless extent directory) part, ?_⟩
        intro e named isDirectory
        exact ih next (.child directory (List.mem_of_find?_eq_some named) isDirectory)
  cases split : splitPath path with
  | nil => exact resolvesAsLaidOut_of_no_parts split outEntry
  | cons part parts =>
      rw [resolvesAsLaidOut_iff split]
      exact (resolveParts_iff parts part .root).mpr (along parts part .root) parts
        (List.prefix_refl parts)

end Image

/-- A file of the sample directory: its name is a letter and a filler. -/
def sampleFile (offset : Nat) (rightOffset : BitVec 16) (letter : Byte) (fill : Nat) :
    DirectoryEntry where
  offset := offset
  leftOffset := 0xFFFF
  rightOffset := rightOffset
  startSector := 40
  fileSize := 100
  attributes := 0x20
  name := letter :: List.replicate fill 0x61

/-- Seven files fill the first sector as far as they fit; the eighth, whose letter is
the only small one, lies in the second. -/
def sampleEntries : List DirectoryEntry :=
  [sampleFile 0 67 0x42 253, sampleFile 268 134 0x43 253, sampleFile 536 201 0x44 253,
    sampleFile 804 268 0x45 253, sampleFile 1072 335 0x46 253, sampleFile 1340 402 0x47 253,
    sampleFile 1608 512 0x48 253, sampleFile 2048 0xFFFF 0x61 199]

/-- Each file is the right child of the one before it. -/
def rightSpine : List DirectoryEntry → BinaryTree DirectoryEntry
  | [] => .nil
  | e :: entries => .node e .nil (rightSpine entries)

def sampleTable : List Byte :=
  layOut 4096 0 sampleEntries

/-- The sector of the volume descriptor: the root table lies at sector 33. -/
def sampleDescriptor : List Byte :=
  kMagic ++ storedU32 33 ++ storedU32 4096 ++ List.replicate 2020 0

/-- Empty sectors up to the volume descriptor, the descriptor, and the root table. -/
def sampleBytes : List Byte :=
  List.replicate kVolumeDescriptorOffset 0 ++ sampleDescriptor ++ sampleTable

def sampleImage : XdvdfsImage :=
  ⟨⟨sampleBytes, false⟩, 33, 4096⟩

theorem sampleFile_wellPlaced {offset : Nat} {rightOffset : BitVec 16} {letter : Byte}
    {fill : Nat} (letterPlain : isSeparator letter = false) (short : fill ≤ 254)
    (placed : offset % 4 = 0 ∧ offset + 14 + (fill + 1) ≤ 4096 ∧
      offset / kSectorSize = (offset + 14 + (fill + 1) - 1) / kSectorSize) :
    (sampleFile offset rightOffset letter fill).WellPlaced 4096 := by
  have length : (sampleFile offset rightOffset letter fill).name.length = fill + 1 := by
    simp [sampleFile]
  constructor
  · exact placed.1
  · rw [DirectoryEntry.endOffset, length]
    exact placed.2.1
  · rw [DirectoryEntry.endOffset, length]
    exact placed.2.2
  · omega
  · intro c listed
    rcases List.mem_cons.mp listed with rfl | filler
    · exact letterPlain
    · obtain rfl := List.eq_of_mem_replicate filler
      decide

theorem length_sampleTable : sampleTable.length = 4096 := by
  simp only [sampleTable, sampleEntries, layOut, List.length_append, List.length_replicate,
    DirectoryEntry.length_bytes, DirectoryEntry.endOffset, sampleFile, List.length_cons]

theorem sampleTable_layout :
    TableLayout sampleTable sampleEntries (rightSpine sampleEntries) where
  bytes := by
    rw [length_sampleTable]
    rfl
  inOrder := by decide +kernel
  wellPlaced := by
    rw [length_sampleTable]
    intro e listed
    simp only [sampleEntries, List.mem_cons, List.not_mem_nil, or_false] at listed
    rcases listed with rfl | rfl | rfl | rfl | rfl | rfl | rfl | rfl <;>
      exact sampleFile_wellPlaced (by decide) (by decide) (by decide)
  distinct := by decide +kernel
  members := List.Perm.refl _
  ordered := by decide +kernel
  linked := by decide +kernel
  rooted := rfl

theorem length_sampleHeader :
    (List.replicate kVolumeDescriptorOffset (0 : Byte)).length = kVolumeDescriptorOffset :=
  List.length_replicate ..

theorem length_sampleDescriptor : sampleDescriptor.length = 2048 := by
  rw [sampleDescriptor, List.length_append, List.length_replicate]
  rfl

theorem length_sampleBytes : sampleBytes.length = 71680 := by
  rw [sampleBytes, List.length_append, List.length_append, length_sampleHeader,
    length_sampleDescriptor, length_sampleTable]
  rfl

theorem sampleBytes_extent : (Extent.mk 33 4096).bytes sampleBytes = sampleTable := by
  have before : (List.replicate kVolumeDescriptorOffset 0 ++ sampleDescriptor).length =
      33 * kSectorSize := by
    rw [List.length_append, length_sampleHeader, length_sampleDescriptor]
    rfl
  show (sampleBytes.drop (33 * kSectorSize)).take 4096 = sampleTable
  rw [sampleBytes, List.drop_left' before, List.take_of_length_le]
  rw [length_sampleTable]

/-- The sample holds no directory but its root. -/
theorem sampleExtent_eq {extent : Extent}
    (directory : IsDirectoryExtent (fun _ => sampleEntries) sampleImage.rootExtent extent) :
    extent = ⟨33, 4096⟩ := by
  cases directory with
  | root => rfl
  | child parent listed isDirectory =>
      have files : ∀ e ∈ sampleEntries, e.found.isDirectory = false := by
        intro e listed
        simp only [sampleEntries, List.mem_cons, List.not_mem_nil, or_false] at listed
        rcases listed with rfl | rfl | rfl | rfl | rfl | rfl | rfl | rfl <;> rfl
      rw [files _ listed] at isDirectory
      cases isDirectory

def sampleLayout : DiscLayout sampleImage where
  streaming := rfl
  entries _ := sampleEntries
  tree _ := rightSpine sampleEntries
  inside := by
    intro extent directory
    obtain rfl := sampleExtent_eq directory
    show 33 * kSectorSize + 4096 ≤ sampleBytes.length
    rw [length_sampleBytes]
    decide
  laidOut := by
    intro extent directory
    obtain rfl := sampleExtent_eq directory
    show TableLayout ((Extent.mk 33 4096).bytes sampleBytes) _ _
    rw [sampleBytes_extent]
    exact sampleTable_layout

theorem openImage_sampleBytes : openImage sampleBytes = some sampleImage := by
  have shape : sampleBytes = List.replicate kVolumeDescriptorOffset 0 ++
      (kMagic ++ (storedU32 33 ++ (storedU32 4096 ++ (List.replicate 2020 0 ++ sampleTable)))) := by
    simp only [sampleBytes, sampleDescriptor, List.append_assoc]
  exact openImage_eq length_sampleHeader shape

/-- The eighth file's name as it is stored. -/
def storedName : Name :=
  0x61 :: List.replicate 199 0x61

/-- In its stored case the eighth file is found. -/
theorem resolvePath_iff_storedName : ResolvesAsLaidOut sampleLayout storedName .initial := by
  have unpadded : ∀ e ∈ sampleEntries, ¬ e.LooksLikePadding := by decide +kernel
  have listed : sampleFile 2048 0xFFFF 0x61 199 ∈ sampleEntries := by decide +kernel
  have split : splitPath storedName = [storedName] := by decide +kernel
  have here := sampleTable_layout.findsName_stored unpadded listed
  rw [← sampleBytes_extent] at here
  refine (resolvePath_iff sampleLayout storedName).mpr ?_ storedName .initial
    (List.prefix_refl _)
  unfold DiscLayout.FindsPath
  rw [split]
  exact here

/-- The eighth file's name, with its first letter as a capital. -/
def mixedCaseName : Name :=
  0x41 :: List.replicate 199 0x61

/-- Asked for with a capital, the file is to the left of the root and never met, and the
scan ends at the padding of the first sector. -/
theorem sampleTable_misses :
    ¬ FindsName sampleTable sampleEntries (rightSpine sampleEntries) mixedCaseName := by
  have named : findEntry sampleEntries mixedCaseName =
      some (sampleFile 2048 0xFFFF 0x61 199) := by
    decide +kernel
  have ended : strayEntries sampleTable sampleEntries = [] := by
    apply readPacked_of_none
    decide +kernel
  unfold FindsName
  rw [named, ended]
  rintro (visible | leading | stray)
  · revert visible
    decide +kernel
  · revert leading
    decide +kernel
  · cases stray

theorem mixedCaseName_missed :
    openImage sampleBytes = some sampleImage ∧
      ¬ ResolvesAsLaidOut sampleLayout mixedCaseName .initial := by
  refine ⟨openImage_sampleBytes, ?_⟩
  have split : splitPath mixedCaseName = [mixedCaseName] := by decide +kernel
  intro right
  have found := (resolvesAsLaidOut_iff split .initial).mp right
  have finds : sampleLayout.Finds sampleImage.rootExtent mixedCaseName :=
    (searchDirectory_finds_iff .root mixedCaseName).mp found
  apply sampleTable_misses
  rw [← sampleBytes_extent]
  exact finds

end BumpinHost.Disc

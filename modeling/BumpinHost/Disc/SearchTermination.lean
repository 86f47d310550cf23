import BumpinHost.Disc.TableSearch
import BumpinHost.Library.FiniteLoops

/-!
# When the search of a directory table ends

The tree search follows child offsets wherever they lead.  It ends exactly when it does
not come back to an offset.  The scan only moves forward, until its 32-bit offset wraps
behind an entry at the very end of the address space and it starts again.
-/

namespace BumpinHost.Disc

open StateTransition

/-- The offset the tree search goes on to. -/
def navigateNext (table : List Byte) (name : Name) (entryOffset : Nat) : Option Nat :=
  match entryAt table entryOffset with
  | none => none
  | some (header, entryName) =>
      if toLower name = toLower entryName then none
      else
        let childOffset := if name < entryName then header.leftOffset else header.rightOffset
        if childOffset = 0xFFFF ∨ childOffset = 0 then none else some (childOffset.toNat * 4)

/-- The offset the scan goes on to. -/
def scanNext (table : List Byte) (name : Name) (linearOffset : Nat) : Option Nat :=
  match entryAt table linearOffset with
  | none => none
  | some (header, entryName) =>
      if toLower name = toLower entryName then none
      else some (nextOffset linearOffset header.nameLength)

/-- The entry at an offset has the name, ignoring the case of ASCII letters. -/
def Matches (table : List Byte) (name : Name) (offset : Nat) : Prop :=
  ∃ header entryName, entryAt table offset = some (header, entryName) ∧
    toLower name = toLower entryName

/-- The search of a table ends: the tree search does, and if it has found nothing, the
scan does. -/
def SearchEnds (table : List Byte) (name : Name) : Prop :=
  ∃ rounds found, navigate table name (toLower name) rounds 0 = some found ∧
    (found = none → ∃ rounds, (scanLinear table (toLower name) rounds 0).isSome)

/-- What a loop that stops at an offset has found there. -/
def foundAt (table : List Byte) (name : Name) (offset : Nat) : Option XdvdfsEntry :=
  match entryAt table offset with
  | none => none
  | some (header, entryName) =>
      if toLower name = toLower entryName then some header.entry else none

theorem navigate_eq_runLoop (table : List Byte) (name : Name) (rounds offset : Nat) :
    navigate table name (toLower name) rounds offset =
      runLoop (navigateNext table name) (foundAt table name) rounds offset := by
  induction rounds generalizing offset with
  | zero => rfl
  | succ rounds ih =>
      unfold navigate runLoop
      cases present : entryAt table offset with
      | none => simp only [navigateNext, foundAt, present]
      | some read =>
          obtain ⟨header, entryName⟩ := read
          simp only [navigateNext, foundAt, present]
          by_cases same : toLower name = toLower entryName
          · simp only [if_pos same]
          · simp only [if_neg same]
            by_cases before : name < entryName
            · simp only [if_pos before]
              split
              · rfl
              · exact ih _
            · simp only [if_neg before]
              split
              · rfl
              · exact ih _

theorem scanLinear_eq_runLoop (table : List Byte) (name : Name) (rounds offset : Nat) :
    scanLinear table (toLower name) rounds offset =
      runLoop (scanNext table name) (foundAt table name) rounds offset := by
  induction rounds generalizing offset with
  | zero => rfl
  | succ rounds ih =>
      unfold scanLinear runLoop
      cases present : entryAt table offset with
      | none => simp only [scanNext, foundAt, present]
      | some read =>
          obtain ⟨header, entryName⟩ := read
          simp only [scanNext, foundAt, present]
          by_cases same : toLower name = toLower entryName
          · simp only [if_pos same]
          · simp only [if_neg same]
            exact ih _

theorem isSome_foundAt_iff (table : List Byte) (name : Name) (offset : Nat) :
    (foundAt table name offset).isSome ↔ Matches table name offset := by
  unfold foundAt Matches
  cases present : entryAt table offset with
  | none => simp
  | some read =>
      obtain ⟨header, entryName⟩ := read
      by_cases same : toLower name = toLower entryName <;> simp [same]

/-- Neither loop goes on from a match. -/
theorem navigateNext_of_matches {table : List Byte} {name : Name} {offset : Nat}
    (found : Matches table name offset) : navigateNext table name offset = none := by
  obtain ⟨header, entryName, present, same⟩ := found
  simp only [navigateNext, present, if_pos same]

/-- An entry lies inside its table. -/
theorem le_of_entryAt {table : List Byte} {offset : Nat} {header : EntryHeader}
    {entryName : Name} (present : entryAt table offset = some (header, entryName)) :
    offset + 14 + header.nameLength.toNat ≤ table.length := by
  unfold entryAt at present
  dsimp only at present
  split at present
  · cases present
  split at present
  · cases present
  split at present
  · cases present
  · rename_i inside
    obtain ⟨rfl, -⟩ := Prod.mk.inj (Option.some.inj present)
    exact Nat.le_of_not_lt inside

/-- The offsets at which a table has an entry. -/
theorem isSome_entryAt_lt {table : List Byte} {offset : Nat}
    (present : (entryAt table offset).isSome) : offset ∈ Finset.range table.length := by
  obtain ⟨read, found⟩ := Option.isSome_iff_exists.mp present
  have inTable := lt_of_entryAt found
  exact Finset.mem_range.mpr (by omega)

theorem navigateNext_live (table : List Byte) (name : Name) {offset : Nat}
    (goesOn : (navigateNext table name offset).isSome) :
    offset ∈ Finset.range table.length := by
  apply isSome_entryAt_lt
  unfold navigateNext at goesOn
  cases present : entryAt table offset with
  | none =>
      rw [present] at goesOn
      cases goesOn
  | some read => rfl

theorem scanNext_live (table : List Byte) (name : Name) {offset : Nat}
    (goesOn : (scanNext table name offset).isSome) :
    offset ∈ Finset.range table.length := by
  apply isSome_entryAt_lt
  unfold scanNext at goesOn
  cases present : entryAt table offset with
  | none =>
      rw [present] at goesOn
      cases goesOn
  | some read => rfl

/-- The tree search for the name does not come to an offset from which it comes back to
it. -/
def LinksAcyclic (table : List Byte) (name : Name) : Prop :=
  Acyclic (navigateNext table name) 0

/-- The tree search for the name comes to an entry with that name. -/
def MeetsName (table : List Byte) (name : Name) : Prop :=
  ∃ offset, Reaches (navigateNext table name) 0 offset ∧ Matches table name offset

/-- No entry that the scan passes ends in the last three bytes of the address space or
right behind it. -/
def ScanStaysBelow (table : List Byte) (name : Name) : Prop :=
  ∀ offset, Reaches (scanNext table name) 0 offset →
    ∀ header entryName, entryAt table offset = some (header, entryName) →
      toLower name ≠ toLower entryName →
        offset + 14 + header.nameLength.toNat + 3 < 2 ^ 32

theorem scanNext_eq_some_iff {table : List Byte} {name : Name} {offset later : Nat} :
    scanNext table name offset = some later ↔
      ∃ header entryName, entryAt table offset = some (header, entryName) ∧
        toLower name ≠ toLower entryName ∧ nextOffset offset header.nameLength = later := by
  unfold scanNext
  cases present : entryAt table offset with
  | none => simp
  | some read =>
      obtain ⟨header, entryName⟩ := read
      by_cases same : toLower name = toLower entryName <;> simp [same]

/-- Behind an entry that ends before the last three bytes of the address space, the scan
goes forward. -/
theorem lt_nextOffset {offset : Nat} {nameLength : Byte}
    (below : offset + 14 + nameLength.toNat + 3 < 2 ^ 32) :
    offset < nextOffset offset nameLength := by
  unfold nextOffset
  rw [Nat.mod_eq_of_lt (by omega)]
  omega

/-- Behind any other entry, it starts again. -/
theorem nextOffset_eq_zero {table : List Byte} (small : table.length < 2 ^ 32)
    {offset : Nat} {header : EntryHeader} {entryName : Name}
    (present : entryAt table offset = some (header, entryName))
    (above : 2 ^ 32 ≤ offset + 14 + header.nameLength.toNat + 3) :
    nextOffset offset header.nameLength = 0 := by
  have inside := le_of_entryAt present
  unfold nextOffset
  omega

theorem scan_acyclic_iff {table : List Byte} (small : table.length < 2 ^ 32) (name : Name) :
    Acyclic (scanNext table name) 0 ↔ ScanStaysBelow table name := by
  constructor
  · intro acyclic offset reaches header entryName present differs
    by_contra above
    have again : scanNext table name offset = some 0 :=
      scanNext_eq_some_iff.mpr ⟨header, entryName, present, differs,
        nextOffset_eq_zero small present (Nat.le_of_not_lt above)⟩
    exact acyclic 0 .refl (Relation.TransGen.tail' reaches again)
  · intro below offset reaches cycle
    have forward : ∀ {later}, Reaches₁ (scanNext table name) offset later →
        offset < later := by
      intro later reached
      induction reached with
      | single step =>
          obtain ⟨header, entryName, present, differs, rfl⟩ := scanNext_eq_some_iff.mp step
          exact lt_nextOffset (below offset reaches header entryName present differs)
      | tail first step ih =>
          obtain ⟨header, entryName, present, differs, rfl⟩ := scanNext_eq_some_iff.mp step
          have comes := reaches.trans first.to_reflTransGen
          exact ih.trans (lt_nextOffset (below _ comes header entryName present differs))
    exact lt_irrefl offset (forward cycle)

theorem navigate_ends_iff (table : List Byte) (name : Name) :
    (∃ rounds, EndsWithin (navigateNext table name) rounds 0) ↔ LinksAcyclic table name :=
  ends_iff_acyclic fun _ _ => navigateNext_live table name

theorem scan_ends_iff {table : List Byte} (small : table.length < 2 ^ 32) (name : Name) :
    (∃ rounds, EndsWithin (scanNext table name) rounds 0) ↔ ScanStaysBelow table name :=
  (ends_iff_acyclic fun _ _ => scanNext_live table name).trans (scan_acyclic_iff small name)

/-- A search for a name that the tree search meets does not need the scan. -/
theorem meetsName_of_foundAt {table : List Byte} {name : Name} {final : Nat}
    (reaches : Reaches (navigateNext table name) 0 final)
    (ended : navigateNext table name final = none) :
    MeetsName table name ↔ foundAt table name final ≠ none := by
  rw [← Option.isSome_iff_ne_none, isSome_foundAt_iff]
  constructor
  · rintro ⟨offset, comes, found⟩
    have same := final_unique reaches ended comes (navigateNext_of_matches found)
    rwa [same]
  · exact fun found => ⟨final, reaches, found⟩

theorem searchEnds_iff {table : List Byte} (small : table.length < 2 ^ 32) (name : Name) :
    SearchEnds table name ↔
      LinksAcyclic table name ∧ (MeetsName table name ∨ ScanStaysBelow table name) := by
  unfold SearchEnds
  simp only [navigate_eq_runLoop, scanLinear_eq_runLoop, isSome_runLoop_iff,
    scan_ends_iff small]
  constructor
  · rintro ⟨rounds, found, ran, scans⟩
    have ends := (isSome_runLoop_iff rounds 0).mp (Option.isSome_of_eq_some ran)
    obtain ⟨final, reaches, ended, rfl⟩ := exists_of_runLoop ran
    refine ⟨ends.acyclic, ?_⟩
    by_cases missed : foundAt table name final = none
    · exact .inr (scans missed)
    · exact .inl ((meetsName_of_foundAt reaches ended).mpr missed)
  · rintro ⟨acyclic, found⟩
    obtain ⟨rounds, ends⟩ := (navigate_ends_iff table name).mpr acyclic
    have runs : (runLoop (navigateNext table name) (foundAt table name) rounds 0).isSome :=
      (isSome_runLoop_iff rounds 0).mpr ends
    obtain ⟨value, ran⟩ := Option.isSome_iff_exists.mp runs
    obtain ⟨final, reaches, ended, rfl⟩ := exists_of_runLoop ran
    refine ⟨rounds, _, ran, fun missed => found.resolve_left ?_⟩
    intro meets
    exact (meetsName_of_foundAt reaches ended).mp meets missed

/-- A table has the length that was asked for, whatever could be read. -/
theorem length_read (file : DiscFile) (position count : Nat) :
    (file.read position count).1.length = count := by
  unfold DiscFile.read
  split
  · exact List.length_replicate ..
  · dsimp only
    rw [List.length_append, List.length_replicate, List.length_take]
    omega

/-- A loop over a table that ends at all needs no more rounds than the table has bytes,
and one more. -/
theorem runLoop_enough {table : List Byte} {next : Nat → Option Nat}
    (live : ∀ {offset}, (next offset).isSome → offset ∈ Finset.range table.length)
    {result : Nat → Option XdvdfsEntry} {rounds more : Nat} (enough : table.length < rounds)
    {found : Option XdvdfsEntry} (ran : runLoop next result more 0 = some found) :
    runLoop next result rounds 0 = some found := by
  have few : (Finset.range table.length).card < rounds := by
    rw [Finset.card_range]
    exact enough
  have ends := endsWithin_of_ends (fun _ _ => live) few
    ⟨more, (isSome_runLoop_iff more 0).mp (Option.isSome_of_eq_some ran)⟩
  obtain ⟨found', ran'⟩ := Option.isSome_iff_exists.mp
    ((isSome_runLoop_iff rounds 0).mpr ends)
  rw [ran', runLoop_unique ran' ran]

theorem navigate_enough {table : List Byte} {name : Name} {rounds more : Nat}
    (enough : table.length < rounds) {found : Option XdvdfsEntry}
    (ran : navigate table name (toLower name) more 0 = some found) :
    navigate table name (toLower name) rounds 0 = some found := by
  rw [navigate_eq_runLoop] at ran ⊢
  exact runLoop_enough (navigateNext_live table name) enough ran

theorem scanLinear_enough {table : List Byte} {name : Name} {rounds more : Nat}
    (enough : table.length < rounds) {found : Option XdvdfsEntry}
    (ran : scanLinear table (toLower name) more 0 = some found) :
    scanLinear table (toLower name) rounds 0 = some found := by
  rw [scanLinear_eq_runLoop] at ran ⊢
  exact runLoop_enough (scanNext_live table name) enough ran

/-- More rounds than the table has bytes are enough for a search that ends. -/
theorem searchDirectory_isSome_iff (file : DiscFile) (tableSector tableSize : Word)
    (name : Name) :
    (searchDirectory file tableSector tableSize name).2.isSome ↔
      SearchEnds (file.read (tableSector.toNat * kSectorSize) tableSize.toNat).1 name := by
  have length := length_read file (tableSector.toNat * kSectorSize) tableSize.toNat
  unfold searchDirectory
  generalize file.read (tableSector.toNat * kSectorSize) tableSize.toNat = loaded at length ⊢
  obtain ⟨table, file'⟩ := loaded
  dsimp only at length ⊢
  have enough : table.length < tableSize.toNat + 1 := by omega
  constructor
  · intro ended
    cases ran : navigate table name (toLower name) (tableSize.toNat + 1) 0 with
    | none =>
        rw [ran] at ended
        cases ended
    | some found =>
        refine ⟨_, found, ran, ?_⟩
        rintro rfl
        rw [ran] at ended
        exact ⟨_, ended⟩
  · rintro ⟨rounds, found, ran, scans⟩
    rw [navigate_enough enough ran]
    cases found with
    | some entry => rfl
    | none =>
        obtain ⟨more, scanned⟩ := scans rfl
        obtain ⟨found, ran⟩ := Option.isSome_iff_exists.mp scanned
        exact Option.isSome_of_eq_some (scanLinear_enough enough ran)

/-- The search of a table ends exactly when the tree search has no cycle, and either it
meets the name or the scan never passes an entry at the end of the address space. -/
theorem searchDirectory_ends_iff (file : DiscFile) (tableSector tableSize : Word)
    (name : Name) :
    let table := (file.read (tableSector.toNat * kSectorSize) tableSize.toNat).1
    ((searchDirectory file tableSector tableSize name).2.isSome ↔ SearchEnds table name) ∧
      (SearchEnds table name ↔
        LinksAcyclic table name ∧ (MeetsName table name ∨ ScanStaysBelow table name)) := by
  refine ⟨searchDirectory_isSome_iff file tableSector tableSize name, ?_⟩
  apply searchEnds_iff
  rw [length_read]
  exact tableSize.isLt

/-- The second entry of this table is its own right child. -/
def cyclicTable : List Byte :=
  [0, 0, 4, 0, 0, 0, 0, 0, 0, 0, 0, 0, 0, 1, 0x6D, 0xFF,
    0, 0, 4, 0, 0, 0, 0, 0, 0, 0, 0, 0, 0, 1, 0x6E, 0xFF]

/-- The search for `z` goes right for ever. -/
theorem cyclicTable_neverEnds :
    (searchDirectory ⟨cyclicTable, false⟩ 0 32 [0x7A]).2 = none ∧
      ¬ SearchEnds cyclicTable [0x7A] := by
  constructor
  · decide +kernel
  · rintro ⟨rounds, found, ran, -⟩
    have ends : EndsWithin (navigateNext cyclicTable [0x7A]) rounds 0 := by
      rw [navigate_eq_runLoop] at ran
      exact (isSome_runLoop_iff rounds 0).mp (Option.isSome_of_eq_some ran)
    have first : navigateNext cyclicTable [0x7A] 0 = some 16 := by decide +kernel
    have again : navigateNext cyclicTable [0x7A] 16 = some 16 := by decide +kernel
    exact ends.acyclic 16 (.single first) (.single again)

end BumpinHost.Disc

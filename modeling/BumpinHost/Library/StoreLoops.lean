import BumpinHost.Library.ByteMemory

/-!
# Loops that store words

A counter runs over a range, and each round stores one word at the place that belongs to
the counter.  The words lie one behind the other, so the loop leaves all of them in
memory and changes nothing else.  A word may depend on the memory so far, if what it
depends on lies elsewhere.
-/

namespace BumpinHost.Memory

/-- `for (i = first; i < first + count; i++) store(addr + i * 4, value)` -/
def storeLoop (mem : Memory) (addr : Word) (value : Memory → Word → Word)
    (first count : Nat) : Memory :=
  (List.range' first count).foldl (fun mem i =>
    storeU32 mem (addr + BitVec.ofNat 32 i * 4) (value mem (BitVec.ofNat 32 i))) mem

/-- The memories agree everywhere but in the words from `first` on. -/
def AgreeOutside (addr : Word) (first count : Nat) (mem mem' : Memory) : Prop :=
  ∀ position, position < addr.toNat + 4 * first ∨ addr.toNat + 4 * (first + count) ≤ position →
    mem' position = mem position

variable {mem : Memory} {addr : Word} {value : Memory → Word → Word} {first count : Nat}

theorem toNat_wordAddress {i : Nat} (fits : addr.toNat + 4 * i < 2 ^ 32) :
    (addr + BitVec.ofNat 32 i * 4).toNat = addr.toNat + 4 * i := by
  have four : (4 : Word).toNat = 4 := rfl
  rw [BitVec.toNat_add, BitVec.toNat_mul, BitVec.toNat_ofNat, four]
  omega

theorem storeLoop_succ (mem : Memory) (addr : Word) (value : Memory → Word → Word)
    (first count : Nat) :
    storeLoop mem addr value first (count + 1) =
      storeU32 (storeLoop mem addr value first count)
        (addr + BitVec.ofNat 32 (first + count) * 4)
        (value (storeLoop mem addr value first count) (BitVec.ofNat 32 (first + count))) := by
  unfold storeLoop
  rw [List.range'_concat, List.foldl_append, Nat.one_mul]
  rfl

/-- The frame of the loop. -/
theorem storeLoop_outside (fits : addr.toNat + 4 * (first + count) ≤ 2 ^ 32) :
    AgreeOutside addr first count mem (storeLoop mem addr value first count) := by
  induction count with
  | zero => exact fun _ _ => rfl
  | succ count ih =>
      intro position outside
      have last : (addr + BitVec.ofNat 32 (first + count) * 4).toNat =
          addr.toNat + 4 * (first + count) := toNat_wordAddress (by omega)
      rw [storeLoop_succ, storeU32_of_outside _ (by omega)]
      exact ih (by omega) position (by omega)

/-- What the loop leaves in memory.  The induction is on the rounds: the word of an
earlier round lies in front of the one stored last. -/
theorem loadU32_storeLoop {wanted : Nat → Word}
    (fits : addr.toNat + 4 * (first + count) ≤ 2 ^ 32)
    (steady : ∀ mem' i, AgreeOutside addr first count mem mem' → first ≤ i →
      i < first + count → value mem' (BitVec.ofNat 32 i) = wanted i)
    {i : Nat} (lower : first ≤ i) (upper : i < first + count) :
    loadU32 (storeLoop mem addr value first count) (addr + BitVec.ofNat 32 i * 4) =
      wanted i := by
  induction count with
  | zero => omega
  | succ count ih =>
      have weaker : ∀ mem', AgreeOutside addr first count mem mem' →
          AgreeOutside addr first (count + 1) mem mem' :=
        fun mem' agree position outside => agree position (by omega)
      rw [storeLoop_succ]
      by_cases last : i = first + count
      · subst last
        rw [loadU32_storeU32_same]
        exact steady _ _ (weaker _ (storeLoop_outside (by omega))) lower upper
      · have place : (addr + BitVec.ofNat 32 i * 4).toNat = addr.toNat + 4 * i :=
          toNat_wordAddress (by omega)
        have lastPlace : (addr + BitVec.ofNat 32 (first + count) * 4).toNat =
            addr.toNat + 4 * (first + count) := toNat_wordAddress (by omega)
        rw [loadU32_storeU32_apart _ (by unfold Apart; omega)]
        refine ih (by omega) ?_ (by omega)
        intro mem' j agree lowerJ upperJ
        exact steady mem' j (weaker mem' agree) lowerJ (by omega)

theorem loadU32_storeLoop_const {word : Word}
    (fits : addr.toNat + 4 * (first + count) ≤ 2 ^ 32) {i : Nat} (lower : first ≤ i)
    (upper : i < first + count) :
    loadU32 (storeLoop mem addr (fun _ _ => word) first count)
      (addr + BitVec.ofNat 32 i * 4) = word :=
  @loadU32_storeLoop mem addr (fun _ _ => word) first count (fun _ => word) fits
    (fun _ _ _ _ _ => rfl) i lower upper

end BumpinHost.Memory

import BumpinHost.Gpu.ScanRuns

/-!
# Scanning a buffer in two steps

The pump scans as far as the write pointer it has seen and resumes there a
millisecond later.  Scanning up to a bound and then on to a larger one is the
same computation as scanning up to the larger bound at once: packets below the
first bound are acted on by the first scan, and a packet that the first bound
cuts off waits, untouched, for the second.
-/

namespace BumpinHost.Gpu

open Memory

variable {Guest : Type} {env : Env Guest} {m : Machine Guest}
  {bufferAddr offsetBytes start k n : Word} {depth : Int}

/-- Whatever a scan with the smaller bound follows, the scan with the larger bound
follows too. -/
theorem FollowsIndirect.mono {sizeBytes dwordCount : Word}
    (follows : FollowsIndirect env m bufferAddr offsetBytes sizeBytes depth dwordCount)
    (offsetLe : offsetBytes ≤ sizeBytes) (sizeLe : sizeBytes ≤ n) (nLe : n.toNat ≤ 2 ^ 31) :
    FollowsIndirect env m bufferAddr offsetBytes n depth dwordCount := by
  have sizeSmall : sizeBytes.toNat ≤ 2 ^ 31 := by bv_omega
  induction follows with
  | here found followed =>
      exact .here (packetAt_mono offsetLe sizeLe nLe found) followed
  | inside found followed nested _ =>
      exact .inside (packetAt_mono offsetLe sizeLe nLe found) followed nested
  | later found executed _ ih =>
      have advance := packetAt_advance offsetLe sizeSmall found
      exact .later (packetAt_mono offsetLe sizeLe nLe found) executed
        (ih advance.2 sizeLe sizeSmall)

/-- A smaller bound keeps the indirect buffers small. -/
theorem SmallIndirects.mono (small : SmallIndirects env m bufferAddr offsetBytes n depth)
    (offsetLe : offsetBytes ≤ k) (kLe : k ≤ n) (nLe : n.toNat ≤ 2 ^ 31) :
    SmallIndirects env m bufferAddr offsetBytes k depth :=
  fun dwordCount follows => small dwordCount (follows.mono offsetLe kLe nLe)

/-- A scan up to the larger bound passes through the point where the scan up to the
smaller bound stops.  The induction is on the rounds of the smaller scan: while it
acts on packets the larger scan acts on the same ones. -/
theorem Scans.resume {first whole : ScanOutcome Guest}
    (shorter : Scans env m bufferAddr start k depth first)
    (longer : Scans env m bufferAddr start n depth whole)
    (startLe : start ≤ k) (kLe : k ≤ n) (nLe : n.toNat ≤ 2 ^ 31) :
    ∃ second, Scans env first.machine bufferAddr first.offset n depth second ∧
      whole = ⟨second.machine, second.offset, first.trace ++ second.trace⟩ := by
  have kSmall : k.toNat ≤ 2 ^ 31 := by bv_omega
  revert whole startLe
  refine shorter.rounds
    (motive := fun m start first => ∀ {whole},
      Scans env m bufferAddr start n depth whole → start ≤ k →
        ∃ second, Scans env first.machine bufferAddr first.offset n depth second ∧
          whole = ⟨second.machine, second.offset, first.trace ++ second.trace⟩) ?_ ?_
  · intro m start _ whole longer _
    exact ⟨whole, longer, rfl⟩
  · intro m start header body rest found executed _ ih whole longer startLe
    have advance := packetAt_advance startLe kSmall found
    have foundLonger := packetAt_mono startLe kLe nLe found
    obtain ⟨longerBody, longerRest, longerExecuted, continued, wholeEq⟩ :=
      longer.of_some foundLonger
    obtain rfl : longerBody = body := longerExecuted.unique executed
    obtain ⟨second, secondScan, restEq⟩ := ih continued advance.2
    refine ⟨second, secondScan, ?_⟩
    rw [wholeEq, restEq]
    simp only [List.cons_append, List.append_assoc]

/-- With enough fuel, the scan up to `k` followed by the scan up to `n` gives the machine,
the final offset and the events of the scan up to `n`; and a packet that the scan up to
`n` would act on first but that runs past `k` leaves everything as it was. -/
theorem scanBuffer_incremental (env : Env Guest) (m : Machine Guest)
    (bufferAddr start k n : Word) (depth : Int)
    (startLe : start ≤ k) (kLe : k ≤ n) (nLe : n.toNat ≤ 2 ^ 31)
    (small : SmallIndirects env m bufferAddr start n depth) :
    (∃ first second enough, ∀ fuel, enough ≤ fuel →
      scanBuffer env fuel m bufferAddr start k depth = some first ∧
      scanBuffer env fuel first.machine bufferAddr first.offset n depth = some second ∧
      scanBuffer env fuel m bufferAddr start n depth =
        some ⟨second.machine, second.offset, first.trace ++ second.trace⟩) ∧
    ∀ header fuel, packetAt m.mem bufferAddr start n = some header →
      k.toNat < start.toNat + (packetBytes header).toNat →
      scanBuffer env (fuel + 1) m bufferAddr start k depth = some ⟨m, start, []⟩ := by
  have kSmall : k.toNat ≤ 2 ^ 31 := by bv_omega
  constructor
  · obtain ⟨first, shorter⟩ := scans_of_small startLe kSmall (small.mono startLe kLe nLe)
    obtain ⟨whole, longer⟩ := scans_of_small (by bv_omega) nLe small
    obtain ⟨second, resumed, wholeEq⟩ := shorter.resume longer startLe kLe nLe
    obtain ⟨firstFuel, firstEq⟩ := shorter
    obtain ⟨secondFuel, secondEq⟩ := resumed
    obtain ⟨wholeFuel, longerEq⟩ := longer
    refine ⟨first, second, max firstFuel (max secondFuel wholeFuel), fun fuel enough => ?_⟩
    refine ⟨scanBuffer_mono env (by omega) firstEq,
      scanBuffer_mono env (by omega) secondEq, ?_⟩
    rw [← wholeEq]
    exact scanBuffer_mono env (by omega) longerEq
  · intro header fuel found cut
    have stops := packetAt_cut startLe kSmall (packetAt_header found).1 cut
    simp only [scanBuffer, stops]

/-- A write of one register, whose header is the word 1 and whose payload is zero. -/
def oneRegisterWrite : Memory := fun position => if position = 3 then 1 else 0

theorem scanBuffer_incremental_oneRegisterWrite :
    (∃ first second enough, ∀ fuel, enough ≤ fuel →
      scanBuffer Env.idle fuel (Machine.initial oneRegisterWrite ()) 0 0 4 0 = some first ∧
      scanBuffer Env.idle fuel first.machine 0 first.offset 8 0 = some second ∧
      scanBuffer Env.idle fuel (Machine.initial oneRegisterWrite ()) 0 0 8 0 =
        some ⟨second.machine, second.offset, first.trace ++ second.trace⟩) ∧
    ∀ header fuel,
      packetAt (Machine.initial oneRegisterWrite ()).mem 0 0 8 = some header →
      (4 : Word).toNat < (0 : Word).toNat + (packetBytes header).toNat →
      scanBuffer Env.idle (fuel + 1) (Machine.initial oneRegisterWrite ()) 0 0 4 0 =
        some ⟨Machine.initial oneRegisterWrite (), 0, []⟩ := by
  have first : packetAt oneRegisterWrite 0 0 8 = some 1 := by decide
  have advance : (0 : Word) + packetBytes 1 = 8 := by decide
  have atEnd : ∀ {mem header}, packetAt mem 0 8 8 ≠ some header := fun found => by
    simp only [packetAt] at found
    rw [if_neg (by decide)] at found
    cases found
  refine scanBuffer_incremental Env.idle (Machine.initial oneRegisterWrite ()) 0 0 4 8 0
    (by decide) (by decide) (by decide) ?_
  intro dwordCount follows
  cases follows with
  | here found followed =>
      obtain rfl := Option.some.inj (first.symm.trans found)
      exact absurd followed (by decide)
  | inside found followed _ =>
      obtain rfl := Option.some.inj (first.symm.trans found)
      exact absurd followed (by decide)
  | later found _ follows =>
      obtain rfl := Option.some.inj (first.symm.trans found)
      rw [advance] at follows
      cases follows with
      | here foundEnd _ => exact absurd foundEnd atEnd
      | inside foundEnd _ _ => exact absurd foundEnd atEnd
      | later foundEnd _ _ => exact absurd foundEnd atEnd

end BumpinHost.Gpu

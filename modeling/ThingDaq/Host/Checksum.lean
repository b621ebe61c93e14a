import ThingDaq.Protocol.Crc

/-!
# The host's checksums

`daq_api/src/thingdone_daq/checksum.py`: the table-driven implementations in Python
integers.  A table is a tuple of four tuples of 256 values, and the loop takes four
bytes at a time, whichever byte order the interpreter has, then single bytes.

## Main results

* `pureReflectedCrc32_eq`, `pureAdler32_eq` — the Python implementations compute the
  CRC and the Adler-32 of their definitions.
* `checksum_equivalence` — firmware, host and definitions agree on every byte string.
-/

namespace ThingDaq.HostChecksum

open Wire

def UINT32_MAX : ℕ := 0xFFFFFFFF

/-! ### CRC-32 -/

/-- The eight shifts of one table entry. -/
def crcEntry (polynomial index : ℕ) : ℕ :=
  (List.range 8).foldl
    (fun remainder _ => (remainder >>> 1) ^^^ if remainder &&& 1 ≠ 0 then polynomial else 0) index

def firstSlice (polynomial : ℕ) : List ℕ := (List.range 256).map (crcEntry polynomial)

/-- The slice after `previous`. -/
def nextSlice (polynomial : ℕ) (previous : List ℕ) : List ℕ :=
  previous.map fun value => (value >>> 8) ^^^ (firstSlice polynomial).getD (value &&& 0xFF) 0

/-- `_make_reflected_crc_table` -/
def makeReflectedCrcTable (polynomial : ℕ) : List (List ℕ) :=
  let slice0 := firstSlice polynomial
  let slice1 := nextSlice polynomial slice0
  let slice2 := nextSlice polynomial slice1
  [slice0, slice1, slice2, nextSlice polynomial slice2]

/-- The word loop of `_pure_reflected_crc32`, over so many words. -/
def wordLoop (table : List (List ℕ)) : ℕ → ℕ → Bytes → ℕ
  | 0, remainder, _ => remainder
  | words + 1, remainder, view =>
    let remainder := remainder ^^^ leValue (view.take 4)
    wordLoop table words
      ((table.getD 3 []).getD (remainder &&& 0xFF) 0 ^^^
        (table.getD 2 []).getD ((remainder >>> 8) &&& 0xFF) 0 ^^^
        (table.getD 1 []).getD ((remainder >>> 16) &&& 0xFF) 0 ^^^
        (table.getD 0 []).getD (remainder >>> 24) 0)
      (view.drop 4)

/-- `_pure_reflected_crc32` -/
def pureReflectedCrc32 (data : Bytes) (table : List (List ℕ)) : ℕ :=
  let words := data.length / 4
  let remainder := wordLoop table words UINT32_MAX data
  let remainder := (data.drop (4 * words)).foldl
    (fun remainder value =>
      (remainder >>> 8) ^^^ (table.getD 0 []).getD ((remainder ^^^ value.toNat) &&& 0xFF) 0)
    remainder
  remainder ^^^ UINT32_MAX

def pureCrc32c (data : Bytes) : ℕ := pureReflectedCrc32 data (makeReflectedCrcTable 0x82F63B78)

def pureCrc32IsoHdlc (data : Bytes) : ℕ := pureReflectedCrc32 data (makeReflectedCrcTable 0xEDB88320)

/-! ### Adler-32 -/

/-- The chunks of `_pure_adler32`; the fuel is the number of bytes left. -/
def adlerChunks : ℕ → ℕ × ℕ → Bytes → ℕ × ℕ
  | 0, s, _ => s
  | fuel + 1, s, view =>
    if view = [] then s
    else
      let s := (view.take 5552).foldl (fun s value => (s.1 + value.toNat, s.2 + (s.1 + value.toNat))) s
      adlerChunks fuel (s.1 % 65521, s.2 % 65521) (view.drop 5552)

/-- `_pure_adler32` -/
def pureAdler32 (data : Bytes) : ℕ :=
  let s := adlerChunks data.length (1, 0) data
  s.2 <<< 16 ||| s.1

/-! ### The host's CRC is the CRC -/

theorem crcEntry_eq (p index : ℕ) : crcEntry p index = Crc.bits p 8 index := by
  have hstep : (fun (remainder : ℕ) (_ : ℕ) =>
      (remainder >>> 1) ^^^ if remainder &&& 1 ≠ 0 then p else 0) = fun r _ => Crc.bit p r := by
    funext r _
    have hlow : (r &&& 1 ≠ 0) = (r.testBit 0 = true) := by
      rw [Nat.and_one_is_mod, Nat.testBit_zero]
      rcases Nat.mod_two_eq_zero_or_one r with h | h <;> simp [h]
    simp only [Crc.bit, hlow]
  unfold crcEntry
  rw [hstep]
  rfl

/-- A slice that holds the remainders of bytes after `n` steps. -/
def Holds (p n : ℕ) (slice : List ℕ) : Prop :=
  slice = (List.range 256).map fun index => Crc.bits p n index

theorem Holds.getD {p n : ℕ} {slice : List ℕ} (h : Holds p n slice) {i : ℕ} (hi : i < 256) :
    slice.getD i 0 = Crc.bits p n i := by
  rw [h, List.getD_eq_getElem?_getD, List.getElem?_map, List.getElem?_range hi]
  rfl

theorem firstSlice_holds (p : ℕ) : Holds p 8 (firstSlice p) := by
  unfold Holds firstSlice
  exact List.map_congr_left fun index _ => crcEntry_eq p index

theorem and_byte_lt (x : ℕ) : x &&& 0xFF < 256 := by
  rw [show (0xFF : ℕ) = 2 ^ 8 - 1 from rfl, Nat.and_two_pow_sub_one_eq_mod]
  exact Nat.mod_lt _ (by decide)

theorem nextSlice_holds {p n : ℕ} {slice : List ℕ} (h : Holds p n slice) :
    Holds p (n + 8) (nextSlice p slice) := by
  unfold Holds nextSlice
  rw [h, List.map_map]
  refine List.map_congr_left fun index _ => ?_
  have hsplit := Crc.bits_split (p := p) 0 (Crc.bits p n index)
  rw [Nat.zero_add] at hsplit
  rw [Function.comp_apply, (firstSlice_holds p).getD (and_byte_lt _), Nat.add_comm n 8,
    Crc.bits_add, hsplit, Nat.xor_comm]
  rfl

/-- The four slices of a table. -/
structure IsTable (p : ℕ) (table : List (List ℕ)) : Prop where
  slice0 : Holds p 8 (table.getD 0 [])
  slice1 : Holds p 16 (table.getD 1 [])
  slice2 : Holds p 24 (table.getD 2 [])
  slice3 : Holds p 32 (table.getD 3 [])

theorem makeReflectedCrcTable_isTable (p : ℕ) : IsTable p (makeReflectedCrcTable p) where
  slice0 := firstSlice_holds p
  slice1 := nextSlice_holds (firstSlice_holds p)
  slice2 := nextSlice_holds (nextSlice_holds (firstSlice_holds p))
  slice3 := nextSlice_holds (nextSlice_holds (nextSlice_holds (firstSlice_holds p)))

variable {p : ℕ} {table : List (List ℕ)}

theorem IsTable.lookup (h : IsTable p table) {x : ℕ} (hx : x < 2 ^ 32) :
    (table.getD 3 []).getD (x &&& 0xFF) 0 ^^^ (table.getD 2 []).getD ((x >>> 8) &&& 0xFF) 0 ^^^
      (table.getD 1 []).getD ((x >>> 16) &&& 0xFF) 0 ^^^ (table.getD 0 []).getD (x >>> 24) 0 =
    Crc.bits p 32 x := by
  have htop : x >>> 24 < 256 := by
    rw [Nat.shiftRight_eq_div_pow]
    omega
  have h₁ := Crc.bits_split (p := p) 24 x
  have h₂ := Crc.bits_split (p := p) 16 (x >>> 8)
  have h₃ := Crc.bits_split (p := p) 8 (x >>> 16)
  rw [← Nat.shiftRight_add] at h₂ h₃
  rw [h.slice3.getD (and_byte_lt _), h.slice2.getD (and_byte_lt _), h.slice1.getD (and_byte_lt _),
    h.slice0.getD htop, h₁, h₂, h₃]
  simp only [Nat.xor_assoc]

theorem wordLoop_eq (h : IsTable p table) (hp : p < 2 ^ 32) (words : ℕ) {r : ℕ} (hr : r < 2 ^ 32)
    {data : Bytes} (hlen : 4 * words ≤ data.length) :
    wordLoop table words r data = Crc.run p r (data.take (4 * words)) := by
  induction words generalizing r data with
  | zero => rfl
  | succ words ih =>
    have hsplit : data.take (4 * (words + 1)) = data.take 4 ++ (data.drop 4).take (4 * words) := by
      rw [Nat.mul_succ, Nat.add_comm, List.take_add]
    have hword : (data.take 4).length = 4 := by rw [List.length_take]; omega
    have hvalue : leValue (data.take 4) < 2 ^ 32 := by
      have := leValue_lt (data.take 4)
      rwa [hword] at this
    have hx : r ^^^ leValue (data.take 4) < 2 ^ 32 := Nat.xor_lt_two_pow hr hvalue
    unfold wordLoop
    dsimp only
    rw [h.lookup hx, hsplit, Crc.run_append, Crc.run_eq r (data.take 4), hword]
    exact ih (Crc.bits_lt hp _ hx) (by rw [List.length_drop]; omega)

theorem tail_eq (h : IsTable p table) (r : ℕ) (data : Bytes) :
    data.foldl (fun remainder value =>
      (remainder >>> 8) ^^^ (table.getD 0 []).getD ((remainder ^^^ value.toNat) &&& 0xFF) 0) r =
      Crc.run p r data := by
  induction data generalizing r with
  | nil => rfl
  | cons d data ih =>
    have hbyte := Crc.bits_split (p := p) 0 (r ^^^ d.toNat)
    have hshift : d.toNat >>> 8 = 0 := Nat.shiftRight_eq_zero _ _ d.toNat_lt
    rw [Nat.zero_add, Nat.shiftRight_xor_distrib, hshift, Nat.xor_zero] at hbyte
    rw [List.foldl_cons, h.slice0.getD (and_byte_lt _), ih]
    exact congrArg (fun r => Crc.run p r data) ((Nat.xor_comm _ _).trans hbyte.symm)

theorem pureReflectedCrc32_eq (h : IsTable p table) (hp : p < 2 ^ 32) (data : Bytes) :
    pureReflectedCrc32 data table = Crc.crc32 p data := by
  unfold pureReflectedCrc32 Crc.crc32
  dsimp only
  rw [wordLoop_eq h hp _ (by decide) (by omega), tail_eq h, ← Crc.run_append,
    List.take_append_drop]
  rfl

/-! ### The host's Adler-32 is the Adler-32 -/

theorem adlerChunks_eq (fuel : ℕ) {s : ℕ × ℕ} (h1 : s.1 < Adler.modulus) (h2 : s.2 < Adler.modulus)
    {data : Bytes} (hlen : data.length ≤ fuel) : adlerChunks fuel s data = Adler.state s data := by
  induction fuel generalizing s data with
  | zero =>
    have hnil : data = [] := List.length_eq_zero_iff.mp (by omega)
    subst hnil
    rfl
  | succ fuel ih =>
    unfold adlerChunks
    split
    · rename_i hnil
      subst hnil
      rfl
    rename_i hne
    have hpos : 0 < data.length := List.length_pos_iff.mpr hne
    obtain ⟨hl1, hl2⟩ := Adler.state_lt (data.take 5552) s h1 h2
    obtain ⟨hc1, hc2⟩ := Adler.state_congr (data.take 5552) s
    -- A chunk reduced at its end is the chunk reduced at every byte.
    have hchunk : (((data.take 5552).foldl
        (fun s value => (s.1 + value.toNat, s.2 + (s.1 + value.toNat))) s).1 % 65521,
        ((data.take 5552).foldl
        (fun s value => (s.1 + value.toNat, s.2 + (s.1 + value.toNat))) s).2 % 65521) =
        Adler.state s (data.take 5552) := by
      rw [Checksum.exactLane_foldl]
      refine Prod.ext ?_ ?_
      · exact Eq.trans hc1.symm (Nat.mod_eq_of_lt hl1)
      · exact Eq.trans hc2.symm (Nat.mod_eq_of_lt hl2)
    dsimp only
    rw [hchunk, ih hl1 hl2 (by rw [List.length_drop]; omega)]
    unfold Adler.state
    rw [← List.foldl_append, List.take_append_drop]

theorem pureAdler32_eq (data : Bytes) : pureAdler32 data = Adler.adler32 data := by
  obtain ⟨h1, h2⟩ := Adler.state_lt data (1, 0) (by decide) (by decide)
  unfold Adler.modulus at h1
  unfold pureAdler32 Adler.adler32
  dsimp only
  rw [adlerChunks_eq data.length (by decide) (by decide) (Nat.le_refl _),
    ← Nat.shiftLeft_add_eq_or_of_lt (show _ < 2 ^ 16 by omega), Nat.shiftLeft_eq]

/-! ### Agreement -/

/-- On every byte string: the firmware's and the host's CRCs are the bit-by-bit ones
with all ones before and inverted at the end, both Adler-32 are RFC 1950's, and no
32-bit sum of the firmware's wraps. -/
theorem checksum_equivalence (data : Bytes) :
    (Checksum.crc32c data).toNat = Crc.crc32 0x82F63B78 data ∧
    pureCrc32c data = Crc.crc32 0x82F63B78 data ∧
    (Checksum.crc32IsoHdlc data).toNat = Crc.crc32 0xEDB88320 data ∧
    pureCrc32IsoHdlc data = Crc.crc32 0xEDB88320 data ∧
    (Checksum.adler32 data).toNat = Adler.adler32 data ∧
    pureAdler32 data = Adler.adler32 data ∧
    ∀ v ∈ Checksum.adlerSums data.length (1, 0) data, v < 2 ^ 32 := by
  refine ⟨?_, ?_, ?_, ?_, ?_, ?_, ?_⟩
  · exact Checksum.reflectedCrc32_eq _ data
  · exact pureReflectedCrc32_eq (makeReflectedCrcTable_isTable _) (by decide) data
  · exact Checksum.reflectedCrc32_eq _ data
  · exact pureReflectedCrc32_eq (makeReflectedCrcTable_isTable _) (by decide) data
  · exact Checksum.adler32_eq data
  · exact pureAdler32_eq data
  · exact Checksum.adlerSums_lt data.length (by decide) (by decide) data

/-- The check value of CRC-32C, of the nine digits. -/
example : (Checksum.crc32c [49, 50, 51, 52, 53, 54, 55, 56, 57]).toNat = 0xE3069283 := by
  decide +kernel

end ThingDaq.HostChecksum

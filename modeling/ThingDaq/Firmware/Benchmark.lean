import ThingDaq.Lib.Machine
import ThingDaq.Protocol.Frame

/-!
# Benchmark metrics

`populateChecksumBenchmarkMetrics` (`firmware/src/protocol.cpp`) turns the cycle counts of a
checksum benchmark into three numbers with sixteen binary places: cycles per byte, decimal
megabytes per second, and the percentage of the processor that the target rate would take.
The counts are not trusted, so every product is behind a guard on an earlier quantity.

## Main results

* `exact_validChecksumBenchmarkRequest` — the sizes of an admitted request.
* `populate_exact` — no guard lets a product wrap or a divisor be zero, and the metrics of
  a response that is accepted are the floors of their quotients.
-/

namespace ThingDaq.Benchmark

open Machine

abbrev kChecksumBenchmarkTargetFramedBytesPerSecond : ℕ := 8100000
abbrev kChecksumBenchmarkMaxBatchCount : ℕ := 8
abbrev kChecksumBenchmarkMaxIterationsPerBatch : ℕ := 4096
abbrev kChecksumBenchmarkMaxOperations : ℕ := 32768
abbrev kChecksumBenchmarkMaxProcessedBytes : ℕ := 8388608
abbrev u32Max : ℕ := 2 ^ 32 - 1
abbrev u64Max : ℕ := 2 ^ 64 - 1

/-! The enumerations are the bytes they arrive in. -/

abbrev BenchmarkVector := UInt8

namespace BenchmarkVector
def empty : BenchmarkVector := 0
def canonical123456789 : BenchmarkVector := 1
def buffer64 : BenchmarkVector := 2
def buffer512 : BenchmarkVector := 3
def frameCoverage : BenchmarkVector := 4
end BenchmarkVector

abbrev BenchmarkMemoryRegion := UInt8

namespace BenchmarkMemoryRegion
def dtcmPacket : BenchmarkMemoryRegion := 0
def ocramDma : BenchmarkMemoryRegion := 1
end BenchmarkMemoryRegion

abbrev BenchmarkCacheState := UInt8

namespace BenchmarkCacheState
def hotOrNative : BenchmarkCacheState := 0
def coldInvalidated : BenchmarkCacheState := 1
end BenchmarkCacheState

structure ChecksumBenchmarkRequest where
  checksumAlgorithm : ChecksumAlgorithm := ChecksumAlgorithm.adler32
  vector : BenchmarkVector := BenchmarkVector.empty
  memoryRegion : BenchmarkMemoryRegion := BenchmarkMemoryRegion.dtcmPacket
  cacheState : BenchmarkCacheState := BenchmarkCacheState.hotOrNative
  batchCount : UInt16 := 1
  iterationsPerBatch : UInt16 := 1
  deriving DecidableEq, Repr

/-- The fields of a response that the metrics are computed from and put into. -/
structure ChecksumBenchmarkResponse where
  request : ChecksumBenchmarkRequest := {}
  bufferBytes : UInt32 := 0
  cycleCounterHz : UInt32 := 0
  processedBytes : UInt64 := 0
  rawChecksumCycles : UInt64 := 0
  netChecksumCycles : UInt64 := 0
  cacheSetupCycles : UInt64 := 0
  cyclesPerByteQ16 : UInt32 := 0
  mbPerSecondQ16 : UInt32 := 0
  projectedCpuPercentQ16 : UInt32 := 0
  targetFramedBytesPerSecond : UInt32 :=
    UInt32.ofNat kChecksumBenchmarkTargetFramedBytesPerSecond
  deriving DecidableEq, Repr

def benchmarkVectorBytes (vector : BenchmarkVector) : ℕ :=
  if vector = BenchmarkVector.empty then 0
  else if vector = BenchmarkVector.canonical123456789 then 9
  else if vector = BenchmarkVector.buffer64 then 64
  else if vector = BenchmarkVector.buffer512 then 512
  else if vector = BenchmarkVector.frameCoverage then kDataFrameBytes - kTrailerSize
  else 0

def validChecksumBenchmarkRequest (request : ChecksumBenchmarkRequest) : Traced Bool :=
  if !isSupportedChecksum request.checksumAlgorithm || request.batchCount = 0 ||
      kChecksumBenchmarkMaxBatchCount < request.batchCount.toNat ||
      request.iterationsPerBatch = 0 ||
      kChecksumBenchmarkMaxIterationsPerBatch < request.iterationsPerBatch.toNat then pure false
  else if request.vector ∉ [BenchmarkVector.empty, BenchmarkVector.canonical123456789,
      BenchmarkVector.buffer64, BenchmarkVector.buffer512, BenchmarkVector.frameCoverage] then
    pure false
  else if request.memoryRegion ∉
      [BenchmarkMemoryRegion.dtcmPacket, BenchmarkMemoryRegion.ocramDma] then pure false
  else if request.cacheState ∉
      [BenchmarkCacheState.hotOrNative, BenchmarkCacheState.coldInvalidated] then pure false
  else if request.cacheState = BenchmarkCacheState.coldInvalidated ∧
      (request.memoryRegion ≠ BenchmarkMemoryRegion.ocramDma ∨
        request.vector = BenchmarkVector.empty) then pure false
  else do
    let operations ← mul 64 request.batchCount.toNat request.iterationsPerBatch.toNat
    let processed ← mul 64 operations (benchmarkVectorBytes request.vector)
    pure (operations ≤ kChecksumBenchmarkMaxOperations &&
      processed ≤ kChecksumBenchmarkMaxProcessedBytes)

/-- The metrics of a response whose sizes are filled in. -/
def scaleMetrics (response : ChecksumBenchmarkResponse) (totalCycles : ℕ) :
    Traced (ChecksumBenchmarkResponse × Bool) := do
  let processedBytes := response.processedBytes.toNat
  let cycleCounterHz := response.cycleCounterHz.toNat
  if totalCycles = 0 || cycleCounterHz = 0 || u64Max / 65536 < totalCycles then
    pure (response, false)
  else
    let scaledCycles ← mul 64 totalCycles 65536
    let cyclesPerByteQ16 ← div scaledCycles processedBytes
    let bytesLimit ← div u64Max cycleCounterHz
    if u32Max < cyclesPerByteQ16 || bytesLimit < processedBytes then pure (response, false)
    else
      let scaledBytes ← mul 64 cycleCounterHz processedBytes
      let bytesPerSecond ← div scaledBytes totalCycles
      -- the decimal scaling is split around its divisor
      let megabytes ← mul 64 (bytesPerSecond / 1000000) 65536
      let remainder ← mul 64 (bytesPerSecond % 1000000) 65536
      let mbPerSecondQ16 ← add 64 megabytes (remainder / 1000000)
      let targetCycles ← mul 64 cyclesPerByteQ16 response.targetFramedBytesPerSecond.toNat
      let percentCycles ← mul 64 targetCycles 100
      let projectedCpuPercentQ16 ← div percentCycles cycleCounterHz
      if u32Max < mbPerSecondQ16 || u32Max < projectedCpuPercentQ16 then pure (response, false)
      else
        let cyclesPerByte32 ← narrow 32 cyclesPerByteQ16
        let mbPerSecond32 ← narrow 32 mbPerSecondQ16
        let projectedCpuPercent32 ← narrow 32 projectedCpuPercentQ16
        pure ({ response with
          cyclesPerByteQ16 := UInt32.ofNat cyclesPerByte32
          mbPerSecondQ16 := UInt32.ofNat mbPerSecond32
          projectedCpuPercentQ16 := UInt32.ofNat projectedCpuPercent32 }, true)

def populateChecksumBenchmarkMetrics (response : ChecksumBenchmarkResponse) :
    Traced (ChecksumBenchmarkResponse × Bool) := do
  let valid ← validChecksumBenchmarkRequest response.request
  if !valid || response.rawChecksumCycles < response.netChecksumCycles ||
      u64Max - response.cacheSetupCycles.toNat < response.netChecksumCycles.toNat then
    pure (response, false)
  else
    let operations ← mul 64 response.request.batchCount.toNat
      response.request.iterationsPerBatch.toNat
    let bufferBytes := benchmarkVectorBytes response.request.vector
    let processedBytes ← mul 64 operations bufferBytes
    let sized := { response with
      bufferBytes := UInt32.ofNat bufferBytes
      processedBytes := UInt64.ofNat processedBytes
      targetFramedBytesPerSecond := UInt32.ofNat kChecksumBenchmarkTargetFramedBytesPerSecond }
    let totalCycles ← add 64 response.netChecksumCycles.toNat response.cacheSetupCycles.toNat
    if processedBytes = 0 then
      pure ({ sized with
        cyclesPerByteQ16 := 0, mbPerSecondQ16 := 0, projectedCpuPercentQ16 := 0 }, true)
    else scaleMetrics sized totalCycles

/-! ### Admitted requests -/

theorem benchmarkVectorBytes_le (vector : BenchmarkVector) : benchmarkVectorBytes vector ≤ 4092 := by
  unfold benchmarkVectorBytes
  split_ifs <;> decide

/-- What a request asks for. -/
def ChecksumBenchmarkRequest.bytes (request : ChecksumBenchmarkRequest) : ℕ :=
  request.batchCount.toNat * request.iterationsPerBatch.toNat * benchmarkVectorBytes request.vector

/-- The admission test does not wrap, and an admitted request stays within its limits. -/
theorem exact_validChecksumBenchmarkRequest (request : ChecksumBenchmarkRequest) :
    Exact (validChecksumBenchmarkRequest request) fun valid => valid = true →
      request.batchCount.toNat * request.iterationsPerBatch.toNat ≤ 32768 ∧
        request.bytes ≤ 8388608 := by
  unfold validChecksumBenchmarkRequest
  rw [exact_ite, exact_pure]
  refine ⟨fun _ h => (by cases h), fun hcounts => ?_⟩
  simp only [Bool.or_eq_true, decide_eq_true_eq, not_or, not_lt] at hcounts
  obtain ⟨⟨⟨⟨-, -⟩, hbatches⟩, -⟩, hiterations⟩ := hcounts
  have hoperations : request.batchCount.toNat * request.iterationsPerBatch.toNat ≤ 8 * 4096 :=
    Nat.mul_le_mul hbatches hiterations
  have hbytes : request.bytes ≤ 8 * 4096 * 4092 :=
    Nat.mul_le_mul hoperations (benchmarkVectorBytes_le request.vector)
  unfold ChecksumBenchmarkRequest.bytes at hbytes ⊢
  simp only [exact_ite, exact_bind, exact_pure, exact_mul, Bool.and_eq_true, decide_eq_true_eq,
    Bool.false_eq_true, false_implies, implies_true, true_and]
  intro _ _ _ _
  refine ⟨?_, ?_, fun h => h⟩
  · exact lt_of_le_of_lt hoperations (by decide)
  · exact lt_of_le_of_lt hbytes (by decide)

/-! ### Scaling -/

/-- The split scaling of the source has the floor of the whole product. -/
theorem splitScale (b : ℕ) :
    b / 1000000 * 65536 + b % 1000000 * 65536 / 1000000 = b * 65536 / 1000000 := by omega

def ChecksumBenchmarkResponse.totalCycles (response : ChecksumBenchmarkResponse) : ℕ :=
  response.netChecksumCycles.toNat + response.cacheSetupCycles.toNat

/-- The metrics are the floors of their quotients, none of them by zero. -/
structure Scaled (response out : ChecksumBenchmarkResponse) : Prop where
  bytes_pos : 0 < response.request.bytes
  totalCycles_pos : 0 < response.totalCycles
  cycleCounterHz_pos : 0 < response.cycleCounterHz.toNat
  cyclesPerByte :
    out.cyclesPerByteQ16.toNat = response.totalCycles * 65536 / response.request.bytes
  mbPerSecond : out.mbPerSecondQ16.toNat =
    response.cycleCounterHz.toNat * response.request.bytes / response.totalCycles * 65536 / 1000000
  projectedCpuPercent : out.projectedCpuPercentQ16.toNat =
    out.cyclesPerByteQ16.toNat * 8100000 * 100 / response.cycleCounterHz.toNat

/-- What is read from a response that is accepted. -/
structure Measured (response out : ChecksumBenchmarkResponse) : Prop where
  request : out.request = response.request
  bufferBytes : out.bufferBytes.toNat = benchmarkVectorBytes response.request.vector
  processedBytes : out.processedBytes.toNat = response.request.bytes
  target : out.targetFramedBytesPerSecond.toNat = 8100000
  empty : response.request.bytes = 0 →
    out.cyclesPerByteQ16 = 0 ∧ out.mbPerSecondQ16 = 0 ∧ out.projectedCpuPercentQ16 = 0
  scaled : response.request.bytes ≠ 0 → Scaled response out

/-- The sizes that `scaleMetrics` starts from. -/
structure Sized (response sized : ChecksumBenchmarkResponse) : Prop where
  request : sized.request = response.request
  cycleCounterHz : sized.cycleCounterHz = response.cycleCounterHz
  bufferBytes : sized.bufferBytes.toNat = benchmarkVectorBytes response.request.vector
  processedBytes : sized.processedBytes.toNat = response.request.bytes
  target : sized.targetFramedBytesPerSecond.toNat = 8100000

theorem exact_scaleMetrics {response sized : ChecksumBenchmarkResponse} (h : Sized response sized)
    (hpos : 0 < response.request.bytes) (hbytes : response.request.bytes ≤ 8388608) :
    Exact (scaleMetrics sized response.totalCycles) fun out =>
      out.2 = true → Measured response out.1 := by
  have hhz : response.cycleCounterHz.toNat < 2 ^ 32 := response.cycleCounterHz.toNat_lt
  unfold scaleMetrics
  rw [h.processedBytes, h.cycleCounterHz, h.target]
  simp only [exact_ite, exact_pure, Bool.false_eq_true, false_implies, implies_true, true_and,
    Bool.or_eq_true, decide_eq_true_eq, not_or, not_lt, exact_bind, exact_mul, exact_div, exact_add,
    exact_narrow]
  -- the first guard is on the cycles and the frequency
  rintro ⟨⟨htotal, hhz0⟩, hcycles⟩
  refine ⟨mul_lt_of_le_div hcycles, by omega, hhz0, ?_⟩
  -- the second is on the first metric and on the bytes
  rintro ⟨hcyclesPerByte, hlimit⟩
  have hproduct : response.cycleCounterHz.toNat * response.request.bytes < 2 ^ 64 := by
    rw [Nat.mul_comm]
    exact mul_lt_of_le_div hlimit
  have hrate : response.cycleCounterHz.toNat * response.request.bytes / response.totalCycles ≤
      2 ^ 32 * 8388608 :=
    (Nat.div_le_self _ _).trans (Nat.mul_le_mul hhz.le hbytes)
  have hpercent : response.totalCycles * 65536 / response.request.bytes * 8100000 * 100 < 2 ^ 64 := by
    have : response.totalCycles * 65536 / response.request.bytes ≤ 2 ^ 32 - 1 := hcyclesPerByte
    omega
  refine ⟨hproduct, htotal, by omega, by omega, by omega, by omega, hpercent, hhz0, ?_⟩
  rw [splitScale]
  -- the last is on the other two metrics, so that no conversion cuts
  rintro ⟨hmb, hprojected⟩
  have fits : ∀ {v : ℕ}, v ≤ u32Max → v < 2 ^ 32 := fun hv => Nat.lt_succ_of_le hv
  refine ⟨fits hcyclesPerByte, fits hmb, fits hprojected, fun _ => ?_⟩
  have hcyclesPerByte32 := UInt32.toNat_ofNat_of_lt' (fits hcyclesPerByte)
  refine ⟨h.request, h.bufferBytes, h.processedBytes, h.target, fun hempty => by omega, fun _ => ?_⟩
  refine ⟨hpos, by omega, by omega, hcyclesPerByte32, UInt32.toNat_ofNat_of_lt' (fits hmb), ?_⟩
  rw [hcyclesPerByte32]
  exact UInt32.toNat_ofNat_of_lt' (fits hprojected)

/-- Whatever the counts and the frequency, nothing wraps, no divisor is zero and no conversion
cuts off bits; and the metrics of an accepted response are the floors of their quotients. -/
theorem populate_exact (response : ChecksumBenchmarkResponse) :
    Exact (populateChecksumBenchmarkMetrics response) fun out =>
      out.2 = true → Measured response out.1 := by
  unfold populateChecksumBenchmarkMetrics
  rw [exact_bind]
  refine (exact_validChecksumBenchmarkRequest response.request).mono fun valid hvalid => ?_
  rw [exact_ite, exact_pure]
  refine ⟨fun _ h => (by cases h), fun hadmitted => ?_⟩
  simp only [Bool.or_eq_true, Bool.not_eq_true', decide_eq_true_eq, not_or, not_lt,
    Bool.not_eq_false] at hadmitted
  obtain ⟨⟨hadmitted, -⟩, hsum⟩ := hadmitted
  obtain ⟨hoperations, hbytes⟩ := hvalid hadmitted
  have hcache := response.cacheSetupCycles.toNat_lt
  have htotal : response.netChecksumCycles.toNat + response.cacheSetupCycles.toNat < 2 ^ 64 := by
    have : response.netChecksumCycles.toNat ≤ 2 ^ 64 - 1 - response.cacheSetupCycles.toNat := hsum
    omega
  simp only [exact_bind, exact_mul, exact_add]
  refine ⟨by omega, lt_of_le_of_lt hbytes (by decide), htotal, ?_⟩
  have hsized : Sized response { response with
      bufferBytes := UInt32.ofNat (benchmarkVectorBytes response.request.vector)
      processedBytes := UInt64.ofNat response.request.bytes
      targetFramedBytesPerSecond :=
        UInt32.ofNat kChecksumBenchmarkTargetFramedBytesPerSecond } := by
    refine ⟨rfl, rfl, UInt32.toNat_ofNat_of_lt' ?_, UInt64.toNat_ofNat_of_lt' ?_, rfl⟩
    · exact lt_of_le_of_lt (benchmarkVectorBytes_le _) (by decide)
    · exact lt_of_le_of_lt hbytes (by decide)
  rw [exact_ite, exact_pure]
  refine ⟨fun hempty _ => ?_, fun hpos => exact_scaleMetrics hsized (Nat.pos_of_ne_zero hpos) hbytes⟩
  -- an empty vector is not measured against its cycles
  refine ⟨rfl, hsized.bufferBytes, hsized.processedBytes, rfl, fun _ => ⟨rfl, rfl, rfl⟩, ?_⟩
  exact fun hpos => absurd hempty hpos

/-- Sixty-four operations of 512 bytes at 600 MHz and two cycles a byte: 2, 300 and 2.7. -/
example :
    let out := populateChecksumBenchmarkMetrics
      { request := { vector := BenchmarkVector.buffer512, batchCount := 8, iterationsPerBatch := 8 }
        cycleCounterHz := 600000000
        rawChecksumCycles := 70000
        netChecksumCycles := 65536 }
    out.faults = [] ∧ out.value.2 = true ∧ out.value.1.cyclesPerByteQ16 = 2 * 65536 ∧
      out.value.1.mbPerSecondQ16 = 300 * 65536 ∧ out.value.1.projectedCpuPercentQ16 = 176947 := by
  decide

end ThingDaq.Benchmark

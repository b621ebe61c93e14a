import ThingDaq.Firmware.CommandParser
import Mathlib.Tactic.IntervalCases

/-!
# Commands in a stream

What the parser delivers over whole runs: calls of `feed` with whatever bytes the transport
has, each continuing where the one before stopped, and session boundaries between them.

The parser only looks at its buffer when a byte arrives, and a call ends behind the first
delivery.  What is left in the buffer then could hold another one.  It never holds a
command: behind a failed candidate the next magic word is too far on, because the fields of
a header that was readable leave no room for one (`not_magic_of_lengths`).  One rejection
can be left, of two damaged headers that overlap, and it is delivered with the next byte.

## Main definitions

* `Settled` — the buffers that a call leaves.
* `History`, `History.run` — a parser with what it has taken and delivered.

## Main results

* `deliveries_are_the_scan` — deliveries are those of the scan of the session's bytes.
* `counters_account_for_every_byte` — the counters account for every byte.
-/

namespace ThingDaq.Commands

open Wire Control Scanner

/-! ### Where the next magic word can be -/

section Bytes

variable {b : Bytes}

/-- A byte of a field, from the value of the field. -/
theorem byteAt_of_slice {off n i : ℕ} (hlen : off + n ≤ b.length) (hi : i < n) :
    byteAt b (off + i) = byteAt (leBytes n (leValue (slice b off n))) i := by
  have hfield : leBytes n (leValue (slice b off n)) = slice b off n := by
    have hn : (slice b off n).length = n := by
      rw [length_slice]
      omega
    have h := leBytes_leValue (slice b off n)
    rwa [hn] at h
  rw [hfield]
  unfold byteAt slice
  rw [List.getD_eq_getElem?_getD, List.getD_eq_getElem?_getD, List.getElem?_take_of_lt hi,
    List.getElem?_drop]

theorem leBytes_zero_value (n : ℕ) : leBytes n 0 = List.replicate n 0 := by
  induction n with
  | zero => rfl
  | succ n ih =>
    rw [leBytes, Nat.zero_div, ih, List.replicate_succ]
    rfl

/-- The upper bytes of a small field. -/
theorem byteAt_small {off n i : ℕ} (hlen : off + n ≤ b.length) (hpos : 0 < i) (hi : i < n)
    (hv : leValue (slice b off n) < 256) : byteAt b (off + i) = 0 := by
  rw [byteAt_of_slice hlen hi]
  cases i with
  | zero => exact absurd hpos (Nat.lt_irrefl 0)
  | succ i =>
    cases n with
    | zero => exact absurd hi (Nat.not_lt_zero _)
    | succ n =>
      change byteAt (leBytes n (leValue (slice b off (n + 1)) / 256)) i = 0
      unfold byteAt
      rw [Nat.div_eq_of_lt hv, leBytes_zero_value, List.getD_eq_getElem?_getD,
        List.getElem?_replicate, if_pos (Nat.lt_of_succ_lt_succ hi), Option.getD_some]

theorem byteAt_low {off n : ℕ} (hlen : off + n ≤ b.length) (hn : 0 < n)
    (hv : leValue (slice b off n) < 256) : (byteAt b off).toNat = leValue (slice b off n) := by
  have h := byteAt_of_slice hlen hn
  rw [Nat.add_zero] at h
  rw [h]
  cases n with
  | zero => exact absurd hn (Nat.lt_irrefl 0)
  | succ n => exact Nat.mod_eq_of_lt hv

/-- The four bytes of a magic word. -/
theorem byteAt_magic {k : ℕ} (h : magicBytes <+: b.drop k) :
    byteAt b k = 0xEF ∧ byteAt b (k + 1) = 0xBE ∧ byteAt b (k + 2) = 0xAD ∧ byteAt b (k + 3) = 0xDE := by
  obtain ⟨t, ht⟩ := h
  have hbyte : ∀ i, byteAt b (k + i) = byteAt (magicBytes ++ t) i := by
    intro i
    unfold byteAt
    rw [ht, List.getD_eq_getElem?_getD, List.getD_eq_getElem?_getD, List.getElem?_drop]
  exact ⟨hbyte 0, hbyte 1, hbyte 2, hbyte 3⟩

/-- The lengths of a header that the parser goes on with. -/
structure Lengths (b : Bytes) : Prop where
  length : 44 ≤ b.length
  magic : magicBytes <+: b
  version : (byteAt b 4).toNat ≤ 3
  header : leValue (slice b 8 2) = 44
  total : leValue (slice b 12 4) ≤ 68
  payload : leValue (slice b 16 4) ≤ 20

/-- Behind the start of such a header there is no magic word before the run id. -/
theorem not_magic_of_lengths (h : Lengths b) {k : ℕ} (hpos : 0 < k) (hk : k < 20) :
    ¬ magicBytes <+: b.drop k := by
  intro hmagic
  obtain ⟨h0, h1, h2, h3⟩ := byteAt_magic hmagic
  obtain ⟨hlen, hfirst, hversion, hheader, htotal, hpayload⟩ := h
  obtain ⟨-, b1, b2, b3⟩ := byteAt_magic (k := 0) hfirst
  have b8 : byteAt b (8 + 0) = 44 := by
    rw [byteAt_of_slice (n := 2) (by omega) (by decide), hheader]
    rfl
  have b9 : byteAt b (8 + 1) = 0 := byteAt_small (n := 2) (by omega) (by decide) (by decide) (by omega)
  have htop : leValue (slice b 12 4) < 256 := by omega
  have b12 : (byteAt b 12).toNat = _ := byteAt_low (by omega) (by decide) htop
  have h13 : ∀ i, 0 < i → i < 4 → byteAt b (12 + i) = 0 := by
    intro i hpos hi
    exact byteAt_small (by omega) hpos hi htop
  have hptop : leValue (slice b 16 4) < 256 := by omega
  have b16 : (byteAt b 16).toNat = _ := byteAt_low (by omega) (by decide) hptop
  have h17 : ∀ i, 0 < i → i < 4 → byteAt b (16 + i) = 0 := by
    intro i hpos hi
    exact byteAt_small (by omega) hpos hi hptop
  have hsmall : ∀ {x y : UInt8} {m : ℕ}, x.toNat ≤ m → x = y → m < y.toNat → False := by
    intro x y m hx hxy hm
    rw [hxy] at hx
    omega
  interval_cases k
  -- the word itself, then the version
  · exact absurd (h0.symm.trans b1) (by decide)
  · exact absurd (h0.symm.trans b2) (by decide)
  · exact absurd (h0.symm.trans b3) (by decide)
  · exact hsmall hversion h0 (by decide)
  -- the length of the header
  · exact absurd (h3.symm.trans b8) (by decide)
  · exact absurd (h2.symm.trans b8) (by decide)
  · exact absurd (h1.symm.trans b8) (by decide)
  · exact absurd (h0.symm.trans b8) (by decide)
  · exact absurd (h0.symm.trans b9) (by decide)
  -- the total length
  · exact hsmall (b12.le.trans htotal) h2 (by decide)
  · exact hsmall (b12.le.trans htotal) h1 (by decide)
  · exact hsmall (b12.le.trans htotal) h0 (by decide)
  · exact absurd (h0.symm.trans (h13 1 (by decide) (by decide))) (by decide)
  · exact absurd (h0.symm.trans (h13 2 (by decide) (by decide))) (by decide)
  · exact absurd (h0.symm.trans (h13 3 (by decide) (by decide))) (by decide)
  -- the length of the payload
  · exact hsmall (b16.le.trans hpayload) h0 (by decide)
  · exact absurd (h0.symm.trans (h17 1 (by decide) (by decide))) (by decide)
  · exact absurd (h0.symm.trans (h17 2 (by decide) (by decide))) (by decide)
  · exact absurd (h0.symm.trans (h17 3 (by decide) (by decide))) (by decide)

theorem toNat_field {off : ℕ} :
    (UInt32.ofNat (leValue (slice b off 4))).toNat = leValue (slice b off 4) := by
  apply UInt32.toNat_ofNat_of_lt'
  have hlt := leValue_lt (slice b off 4)
  have hlen : (slice b off 4).length ≤ 4 := by
    rw [length_slice]
    exact Nat.min_le_left _ _
  exact hlt.trans_le (Nat.pow_le_pow_right (by decide) hlen)

theorem lengths_of_v3Shaped (hlen : 44 ≤ b.length) (hmagic : magicBytes <+: b)
    (hv : byteAt b 4 = V3.kProtocolVersion) (hshape : v3Shaped b = true) : Lengths b := by
  unfold v3Shaped at hshape
  simp only [Bool.and_eq_true, decide_eq_true_eq] at hshape
  obtain ⟨⟨⟨hheader, -⟩, htotal⟩, hpayload⟩ := hshape
  change v3Total b ≤ 68 at htotal
  change _ = v3Total b - 48 at hpayload
  exact ⟨hlen, hmagic, by rw [hv]; decide, hheader, htotal, by omega⟩

theorem lengths_of_legacy {h : FrameHeader} (hmagic : magicBytes <+: b) (hc : LegacyCommand b h) :
    Lengths b := by
  have htotal := hc.control.total_le
  have hsizes := hc.sizes
  have hheader := hc.headerLength
  have hversion := hc.version
  rw [hc.header] at htotal hsizes hheader hversion
  change (UInt32.ofNat _).toNat ≤ 64 at htotal
  change (UInt32.ofNat _).toNat = 48 + (UInt32.ofNat _).toNat at hsizes
  rw [toNat_field] at htotal
  rw [toNat_field, toNat_field] at hsizes
  have hword : leValue (slice b 8 2) < 2 ^ 16 := by
    have hlt := leValue_lt (slice b 8 2)
    have hlen : (slice b 8 2).length ≤ 2 := by
      rw [length_slice]
      exact Nat.min_le_left _ _
    exact hlt.trans_le (Nat.pow_le_pow_right (by decide) hlen)
  refine ⟨hc.length, hmagic, ?_, ?_, htotal.trans (by decide), by omega⟩
  · rcases hversion with hv | hv <;>
    · change byteAt b 4 = _ at hv
      rw [hv]
      decide
  · rwa [show (loadHeader b).headerLength.toNat = leValue (slice b 8 2) from
      UInt16.toNat_ofNat_of_lt' hword] at hheader

/-- An older command names no run, so that there is none before its request id either. -/
theorem not_magic_of_legacy {h : FrameHeader} (hmagic : magicBytes <+: b) (hc : LegacyCommand b h)
    {k : ℕ} (hpos : 0 < k) (hk : k < 28) : ¬ magicBytes <+: b.drop k := by
  by_cases hk' : k < 20
  · exact not_magic_of_lengths (lengths_of_legacy hmagic hc) hpos hk'
  intro hmagic'
  obtain ⟨h0, -⟩ := byteAt_magic hmagic'
  have hlen := hc.length
  change 44 ≤ b.length at hlen
  have hrun := hc.control.runId
  have hseq := hc.control.sequence
  rw [hc.header] at hrun hseq
  have hrun' : leValue (slice b 20 4) = 0 := by
    rw [← toNat_field]
    exact congrArg UInt32.toNat hrun
  have hseq' : leValue (slice b 24 4) = 0 := by
    rw [← toNat_field]
    exact congrArg UInt32.toNat hseq
  have hzero : byteAt b k = 0 := by
    by_cases hk'' : k < 24
    · obtain ⟨i, rfl⟩ : ∃ i, k = 20 + i := ⟨k - 20, by omega⟩
      have hi : i < 4 := by omega
      rw [byteAt_of_slice (by omega) hi, hrun']
      interval_cases i <;> rfl
    · obtain ⟨i, rfl⟩ : ∃ i, k = 24 + i := ⟨k - 24, by omega⟩
      have hi : i < 4 := by omega
      rw [byteAt_of_slice (by omega) hi, hseq']
      interval_cases i <;> rfl
  exact absurd (h0.symm.trans hzero) (by decide)

end Bytes

/-! ### What a call leaves in the buffer -/

/-- No magic word has more than `n` bytes from it on. -/
def Narrow (n : ℕ) (b : Bytes) : Prop := ∀ k, magicBytes <+: b.drop k → b.length ≤ k + n

section Settled

variable {ρ : Type} {decode : Bytes → Except Result ρ} {b c : Bytes} {n : ℕ} {e : Emission ρ}

theorem narrow_of_length (h : b.length ≤ n) : Narrow n b := fun _ _ => by omega

theorem Narrow.mono {m : ℕ} (h : Narrow n b) (hnm : n ≤ m) : Narrow m b := by
  intro k hk
  have := h k hk
  omega

theorem Narrow.drop (h : Narrow n b) (j : ℕ) : Narrow n (b.drop j) := by
  intro k hk
  rw [List.drop_drop] at hk
  have := h (j + k) hk
  rw [List.length_drop]
  omega

theorem Narrow.push (h : Narrow n b) (hn : 3 ≤ n) (x : UInt8) : Narrow (n + 1) (b ++ [x]) := by
  intro k hk
  rw [List.length_append, List.length_singleton]
  by_cases hshort : b.length ≤ k + 3
  · omega
  have hdrop : (b ++ [x]).drop k = b.drop k ++ [x] := List.drop_append_of_le_length (by omega)
  rw [hdrop] at hk
  have hword : magicBytes <+: b.drop k := by
    refine List.prefix_of_prefix_length_le hk (List.prefix_append _ _) ?_
    rw [List.length_drop]
    change 4 ≤ _
    omega
  have := h k hword
  omega

/-- A buffer between two bytes. -/
structure Settled (decode : Bytes → Except Result ρ) (b : Bytes) : Prop where
  length : b.length ≤ 67
  rest : verdict decode b = .wait ∨ Narrow 47 b

/-- A buffer with a new byte, or on its way through the loop. -/
structure Ready (decode : Bytes → Except Result ρ) (b : Bytes) : Prop where
  length : b.length ≤ 68
  rest : (∃ a x, b = a ++ [x] ∧ verdict decode a = .wait) ∨ Narrow 48 b

theorem Settled.push (h : Settled decode b) (x : UInt8) : Ready decode (b ++ [x]) where
  length := by
    have := h.length
    rw [List.length_append, List.length_singleton]
    omega
  rest := by
    rcases h.rest with hwait | hnarrow
    · exact .inl ⟨b, x, rfl, hwait⟩
    · exact .inr (hnarrow.push (by decide) x)

/-- A front that is refused for its header has just become long enough for one, or was
behind another candidate. -/
theorem Ready.front (h : Ready decode c) (hmagic : magicBytes <+: c)
    (hnew : ∀ a x, c = a ++ [x] → 44 ≤ a.length → magicBytes <+: a → verdict decode a ≠ .wait) :
    c.length ≤ 48 := by
  rcases h.rest with ⟨a, x, rfl, hwait⟩ | hnarrow
  · by_contra hlong
    rw [List.length_append, List.length_singleton] at hlong
    refine hnew a x rfl (by omega) ?_ hwait
    refine List.prefix_of_prefix_length_le hmagic (List.prefix_append _ _) ?_
    change 4 ≤ _
    omega
  · have := hnarrow 0 hmagic
    omega

/-- What a step of the scan leaves. -/
theorem Ready.step (h : Ready decode c) (hv : verdict decode c = .step n e) :
    Narrow 48 (c.drop n) ∧ (e.event? ≠ none → Narrow 47 (c.drop n)) := by
  have hmax := h.length
  have hdrop : (c.drop n).length = c.length - n := List.length_drop
  rcases verdict_step.mp hv with ⟨hmagic, hlen, hdec⟩ | ⟨hmagic, hpart, rfl, rfl⟩
  · -- the refusal of a header: the candidate is not longer than the next one may be
    have hshort : c.length ≤ 48 → 0 < n →
        Narrow 48 (c.drop n) ∧ (e.event? ≠ none → Narrow 47 (c.drop n)) := by
      intro hle hpos
      have hnarrow : Narrow 47 (c.drop n) := narrow_of_length (by omega)
      exact ⟨hnarrow.mono (by decide), fun _ => hnarrow⟩
    have hframe : 48 ≤ n → Narrow 48 (c.drop n) ∧ (e.event? ≠ none → Narrow 47 (c.drop n)) := by
      intro hle
      have hnarrow : Narrow 47 (c.drop n) := narrow_of_length (by omega)
      exact ⟨hnarrow.mono (by decide), fun _ => hnarrow⟩
    cases hdec with
    | badShape hversion hshape =>
      refine hshort (h.front hmagic fun a x hc ha hword hwait => ?_) Nat.one_pos
      subst hc
      rw [byteAt_append (by omega)] at hversion
      rw [v3Shaped_append ha] at hshape
      rw [verdict_step.mpr (.inl ⟨hword, ha, .badShape hversion hshape⟩)] at hwait
      cases hwait
    | badHeader hversion hh =>
      refine hshort (h.front hmagic fun a x hc ha hword hwait => ?_) Nat.one_pos
      subst hc
      rw [byteAt_append (by omega)] at hversion
      rw [decodeHeader_append ha] at hh
      rw [verdict_step.mpr (.inl ⟨hword, ha, .badHeader hversion hh⟩)] at hwait
      cases hwait
    | badChecksum hversion hshape hlong =>
      have hlengths := lengths_of_v3Shaped hlen hmagic hversion hshape
      refine ⟨fun k hk => ?_, fun he => absurd rfl he⟩
      rw [List.drop_drop] at hk
      by_contra hfar
      exact not_magic_of_lengths hlengths (by omega) (by omega) hk
    | v3Refused _ hshape | v3Command _ hshape =>
      obtain ⟨hmin, -⟩ := v3Shaped_total hshape
      exact hframe hmin
    | badBody hversion hh =>
      obtain ⟨hc, -⟩ := legacy_total hversion hh
      have hnarrow : Narrow 47 (c.drop 1) := by
        intro k hk
        rw [List.drop_drop] at hk
        by_contra hfar
        exact not_magic_of_legacy hmagic hc (by omega) (by omega) hk
      exact ⟨hnarrow.mono (by decide), fun _ => hnarrow⟩
    | legacyCommand hversion hh =>
      obtain ⟨-, hmin, -⟩ := legacy_total hversion hh
      exact hframe hmin
  · refine ⟨?_, fun he => absurd rfl he⟩
    rcases h.rest with ⟨a, x, rfl, hwait⟩ | hnarrow
    · -- the new byte ended what might have become a magic word
      have hword : ¬ magicBytes <+: a := fun hp => hmagic (hp.trans (List.prefix_append _ _))
      have ha : a.length ≤ 4 := by
        by_contra hlong
        have hno : ¬ a <+: magicBytes := fun hp => hlong hp.length_le
        rw [verdict_step.mpr (.inr ⟨hword, hno, rfl, rfl⟩)] at hwait
        cases hwait
      rw [List.length_append, List.length_singleton] at hdrop
      exact narrow_of_length (by omega)
    · exact hnarrow.drop 1

theorem Ready.scans {es : List (Emission ρ)} {r : Bytes} (h : Ready decode c)
    (hs : Scans (verdict decode) c es r) (hquiet : Quiet es) : Ready decode r := by
  induction hs with
  | refl => exact h
  | @step b r n e es hv hs ih =>
    refine ih ⟨?_, .inr (h.step hv).1⟩ fun e' he' => hquiet e' (List.mem_cons_of_mem _ he')
    have := h.length
    rw [List.length_drop]
    omega

/-- A buffer that waits is not full. -/
theorem wait_length (hmax : c.length ≤ 68) (hwait : verdict decode c = .wait) : c.length ≤ 67 := by
  by_contra hlong
  have hlen : 44 ≤ c.length := by omega
  by_cases hmagic : magicBytes <+: c
  · have hno : ∀ (n : ℕ) (e : Emission ρ), ¬ Decided decode c n e := by
      intro n e hdec
      rw [verdict_step.mpr (.inl ⟨hmagic, hlen, hdec⟩)] at hwait
      cases hwait
    by_cases hv : byteAt c 4 = V3.kProtocolVersion
    · cases hshape : v3Shaped c with
      | false => exact hno _ _ (.badShape hv hshape)
      | true =>
        obtain ⟨-, hle⟩ := v3Shaped_total hshape
        cases hsum : v3Sealed c with
        | false => exact hno _ _ (.badChecksum hv hshape (by omega) hsum)
        | true =>
          cases hd : decode (c.take (v3Total c)) with
          | error failure => exact hno _ _ (.v3Refused hv hshape (by omega) hsum hd)
          | ok request => exact hno _ _ (.v3Command hv hshape (by omega) hsum hd)
    · cases hh : decodeHeader c true with
      | error failure => exact hno _ _ (.badHeader hv hh)
      | ok header =>
        obtain ⟨-, -, hle⟩ := legacy_total hv hh
        cases hd : decode (c.take header.totalLength.toNat) with
        | error failure => exact hno _ _ (.badBody hv hh (by omega) hd)
        | ok request => exact hno _ _ (.legacyCommand hv hh (by omega) hd)
  · have hpart : ¬ c <+: magicBytes := fun hp => by
      have := hp.length_le
      change _ ≤ 4 at this
      omega
    rw [verdict_step.mpr (.inr ⟨hmagic, hpart, rfl, rfl⟩)] at hwait
    cases hwait

end Settled

/-! ### What can be left to deliver -/

section Pending

variable {ρ : Type} {decode : Bytes → Except Result ρ} {b r : Bytes} {es : List (Emission ρ)}

/-- The deliveries among emissions. -/
def events (es : List (Emission ρ)) : List (ParsedCommand ρ) := es.filterMap Emission.event?

theorem events_append (es fs : List (Emission ρ)) : events (es ++ fs) = events es ++ events fs :=
  List.filterMap_append

theorem events_quiet (h : Quiet es) : events es = [] :=
  List.filterMap_eq_nil_iff.mpr h

theorem describeRejection_rejected {failure : Result} {c : ParsedCommand ρ}
    (h : describeRejection b failure = some c) : c.rejected = true := by
  unfold describeRejection at h
  dsimp only at h
  split at h
  · cases h
  · rename_i hfail
    simp only [Bool.or_eq_true, not_or, Bool.not_eq_true, decide_eq_true_eq] at hfail
    split at h
    · cases h
    · cases h
      unfold ParsedCommand.rejected
      dsimp only
      rw [decide_eq_true_eq]
      split
      · exact fun hc => by cases hc
      · exact of_decide_eq_false hfail.1

/-- Two magic words do not overlap. -/
theorem magic_apart {k : ℕ} (h : magicBytes <+: b) (h' : magicBytes <+: b.drop k) (hk : 0 < k) :
    4 ≤ k := by
  by_contra hlt
  obtain ⟨-, b1, b2, b3⟩ := byteAt_magic (k := 0) h
  obtain ⟨h0, -⟩ := byteAt_magic h'
  have hcases : k = 1 ∨ k = 2 ∨ k = 3 := by omega
  rcases hcases with rfl | rfl | rfl
  · exact absurd (h0.symm.trans b1) (by decide)
  · exact absurd (h0.symm.trans b2) (by decide)
  · exact absurd (h0.symm.trans b3) (by decide)

theorem quiet_of_narrow (hs : Scans (verdict decode) b es r) (hb : Narrow 43 b) : Quiet es := by
  induction hs with
  | refl => exact quiet_nil
  | @step b r n e es hv hs ih =>
    have htail := ih (hb.drop n)
    rcases verdict_step.mp hv with ⟨hmagic, hlen, -⟩ | ⟨-, -, -, rfl⟩
    · have := hb 0 hmagic
      omega
    · intro e' he'
      rcases List.mem_cons.mp he' with rfl | he'
      · rfl
      · exact htail e' he'

/-- At most one rejection is left, and no command. -/
theorem events_of_narrow (hs : Scans (verdict decode) b es r) (hb : Narrow 47 b) :
    (events es).length ≤ 1 ∧ ∀ c ∈ events es, c.rejected = true := by
  induction hs with
  | refl => exact ⟨Nat.zero_le 1, fun c hc => absurd hc List.not_mem_nil⟩
  | @step b r n e es hv hs ih =>
    have htail := ih (hb.drop n)
    have hquiet : e.event? = none →
        (events (e :: es)).length ≤ 1 ∧ ∀ c ∈ events (e :: es), c.rejected = true := by
      intro he
      have hcons : events (e :: es) = events es := List.filterMap_cons_none he
      rw [hcons]
      exact htail
    rcases verdict_step.mp hv with ⟨hmagic, hlen, hdec⟩ | ⟨-, -, -, rfl⟩
    · have hmax := hb 0 hmagic
      cases hdec with
      | badShape | badChecksum => exact hquiet rfl
      | v3Refused _ hshape hle | v3Command _ hshape hle =>
        obtain ⟨hmin, -⟩ := v3Shaped_total hshape
        omega
      | badBody hversion hh hle | legacyCommand hversion hh hle =>
        obtain ⟨-, hmin, -⟩ := legacy_total hversion hh
        omega
      | @badHeader hversion failure hh =>
        cases hrej : (describeRejection b failure : Option (ParsedCommand ρ)) with
        | none =>
          rw [hrej] at hquiet
          exact hquiet rfl
        | some c =>
          -- the next magic word is too near the end for another header
          have hrest : Narrow 43 (b.drop 1) := by
            intro k hk
            have hk' := hk
            rw [List.drop_drop] at hk'
            have hfar := magic_apart hmagic hk' (by omega)
            rw [List.length_drop]
            omega
          have hes : events es = [] := events_quiet (quiet_of_narrow hs hrest)
          have hcons : events (.refused failure 1 (some c) :: es) = [c] := by
            rw [← hes]
            exact List.filterMap_cons_some rfl
          rw [hcons]
          refine ⟨Nat.le_refl 1, fun c' hc' => ?_⟩
          rw [List.mem_singleton.mp hc']
          exact describeRejection_rejected hrej
    · exact hquiet rfl

theorem Settled.events (h : Settled decode b) (hs : Scans (verdict decode) b es r) :
    (events es).length ≤ 1 ∧ ∀ c ∈ events es, c.rejected = true := by
  rcases h.rest with hwait | hnarrow
  · cases hs with
    | refl => exact ⟨Nat.zero_le 1, fun c hc => absurd hc List.not_mem_nil⟩
    | step hv =>
      rw [hwait] at hv
      cases hv
  · exact events_of_narrow hs hnarrow

end Pending

/-! ### Counters -/

/-- The counters of a parser that has taken `received` bytes and accepted `commands`
commands of `commandBytes` bytes together. -/
structure Ledger (p : IncrementalCommandParser) (received commands commandBytes : ℕ) : Prop where
  bytes : ∃ discarded, received = commandBytes + discarded + p.buffer.length ∧
    p.tally.bytesDiscarded = min discarded (2 ^ 64 - 1)
  received : p.tally.bytesReceived = min received (2 ^ 64 - 1)
  accepted : p.tally.commandsAccepted = min commands (2 ^ 32 - 1)
  highWater : p.tally.highWaterMark ≤ 68
  issues : p.tally.candidatesRejected < 2 ^ 32 - 1 →
    p.tally.candidatesRejected =
      p.tally.badVersions + p.tally.badKinds + p.tally.badFlags + p.tally.badLengths +
        p.tally.badChecksums + p.tally.badPayloads + p.tally.badRequestIds +
        p.tally.unsupportedChecksums

section Counters

variable {ρ : Type} {decode : Bytes → Except Result ρ} {p q : IncrementalCommandParser}
  {a k m n : ℕ}

theorem bump64_min (d : ℕ) : bump64 (min d (2 ^ 64 - 1)) = min (d + 1) (2 ^ 64 - 1) := by
  unfold bump64
  generalize 2 ^ 64 - 1 = limit
  omega

theorem bump_min (d : ℕ) : bump (min d (2 ^ 32 - 1)) = min (d + 1) (2 ^ 32 - 1) := by
  unfold bump
  generalize 2 ^ 32 - 1 = limit
  omega

/-- A counter below the limit is exact, and so is every counter that is not larger. -/
theorem bump_exact {d x : ℕ} (h : bump d < 2 ^ 32 - 1) :
    d < 2 ^ 32 - 1 ∧ bump d = d + 1 ∧ (x ≤ d → bump x = x + 1) := by
  unfold bump at h ⊢
  generalize 2 ^ 32 - 1 = limit at h ⊢
  omega

theorem iterate_bump64 (d : ℕ) : bump64^[n] (min d (2 ^ 64 - 1)) = min (d + n) (2 ^ 64 - 1) := by
  induction n with
  | zero => rfl
  | succ n ih => rw [Function.iterate_succ_apply', ih, bump64_min, Nat.add_assoc]

theorem Ledger.discard (h : Ledger p a k m) (hn : n ≤ p.buffer.length) :
    Ledger (p.discard n) a k m := by
  unfold IncrementalCommandParser.discard
  split
  · exact h
  · obtain ⟨discarded, hsum, hcount⟩ := h.bytes
    refine ⟨⟨discarded + n, ?_, ?_⟩, h.received, h.accepted, h.highWater, h.issues⟩
    · dsimp only
      rw [Nat.min_eq_left hn, List.length_drop]
      omega
    · dsimp only
      rw [Nat.min_eq_left hn, hcount, iterate_bump64]

theorem Ledger.recordFailure (h : Ledger p a k m) {failure : Result} (hf : failure.issue ≠ .none) :
    Ledger (p.recordFailure failure) a k m := by
  have hissues := h.issues
  refine ⟨?_, ?_, ?_, ?_, ?_⟩ <;>
    unfold IncrementalCommandParser.recordFailure ParserCounters.recordFailure <;>
    dsimp only <;> cases hi : failure.issue <;> dsimp only
  all_goals
    first
    | exact absurd hi hf
    | exact h.bytes
    | exact h.received
    | exact h.accepted
    | exact h.highWater
    | (intro hlt
       obtain ⟨hold, hexact, -⟩ := bump_exact (x := 0) hlt
       have hsum := hissues hold
       rw [hexact, (bump_exact hlt).2.2 (by omega)]
       omega)

theorem Ledger.accept (h : Ledger p a k m) (hn : n ≤ p.buffer.length) :
    Ledger (p.accept n) a (k + 1) (m + n) := by
  obtain ⟨discarded, hsum, hcount⟩ := h.bytes
  refine ⟨⟨discarded, ?_, hcount⟩, h.received, ?_, h.highWater, h.issues⟩
  · unfold IncrementalCommandParser.accept
    dsimp only
    rw [List.length_drop]
    omega
  · unfold IncrementalCommandParser.accept
    dsimp only
    rw [h.accepted, bump_min]

theorem push_buffer (p : IncrementalCommandParser) (x : UInt8) (h : p.buffer.length ≤ 67) :
    (p.push x).buffer = p.buffer ++ [x] := by
  unfold IncrementalCommandParser.push
  rw [if_neg (by change ¬ _ = 71; omega)]

theorem Ledger.push (h : Ledger p a k m) (x : UInt8) (hlen : p.buffer.length ≤ 67) :
    Ledger (p.push x) (a + 1) k m := by
  obtain ⟨discarded, hsum, hcount⟩ := h.bytes
  have hwater := h.highWater
  unfold IncrementalCommandParser.push
  rw [if_neg (by change ¬ _ = 71; omega)]
  refine ⟨⟨discarded, ?_, hcount⟩, ?_, h.accepted, ?_, h.issues⟩
  · dsimp only
    rw [List.length_append, List.length_singleton]
    omega
  · dsimp only
    rw [h.received, bump64_min]
  · dsimp only
    omega

/-- As long as the bytes that came in are counted, they are accounted for. -/
theorem Ledger.accountsFor (h : Ledger p a k m) (hlt : p.tally.bytesReceived < 2 ^ 64 - 1) :
    p.tally.bytesReceived = m + p.tally.bytesDiscarded + p.buffer.length := by
  obtain ⟨discarded, hsum, hcount⟩ := h.bytes
  rw [h.received] at hlt ⊢
  rw [hcount]
  generalize 2 ^ 64 - 1 = limit at hlt ⊢
  omega

theorem Ledger.resetSession (h : Ledger p a k m) : Ledger p.resetSession a k m := by
  have hdiscard := h.discard (Nat.le_refl p.buffer.length)
  exact ⟨hdiscard.bytes, hdiscard.received, hdiscard.accepted, hdiscard.highWater, hdiscard.issues⟩

/-- The frame of an accepted command. -/
def Emission.frame? : Emission ρ → Option Bytes
  | .command frame _ => some frame
  | _ => none

/-- The frames of the commands among emissions. -/
def frames (es : List (Emission ρ)) : List Bytes := es.filterMap Emission.frame?

def totalLength (fs : List Bytes) : ℕ := (fs.map List.length).sum

theorem apply_buffer {e : Emission ρ} (hv : verdict decode p.buffer = .step n e) :
    (e.apply p).buffer = p.buffer.drop n := by
  have hsize := verdict_size hv
  have hle := verdict_stable.le hv
  cases e with
  | skipped =>
    rw [← hsize] at hle ⊢
    exact discard_buffer p hle
  | refused failure size rejection =>
    rw [← hsize] at hle ⊢
    exact discard_buffer (p.recordFailure failure) hle
  | command frame request =>
    rw [← hsize]
    rfl

theorem apply_ledger (hnames : ∀ b, Names (decode b)) {e : Emission ρ}
    (hv : verdict decode p.buffer = .step n e) (h : Ledger p a k m) :
    Ledger (e.apply p) a (k + (frames [e]).length) (m + totalLength (frames [e])) := by
  have hsize := verdict_size hv
  have hle := verdict_stable.le hv
  rw [← hsize] at hle
  cases e with
  | skipped => exact h.discard hle
  | refused failure size rejection =>
    have hissue : failure.issue ≠ .none := by
      rcases verdict_step.mp hv with ⟨-, -, hdec⟩ | ⟨-, -, -, he⟩
      · cases hdec with
        | badShape | badChecksum => decide
        | badHeader _ hh => exact (names_decodeHeader _ _ _ hh).2
        | v3Refused _ _ _ _ hd | badBody _ _ _ hd => exact (hnames _ _ hd).2
      · cases he
    exact (h.recordFailure hissue).discard hle
  | command frame request => exact h.accept hle

theorem Moves.ledger {es : List (Emission ρ)} (hmoves : Moves decode p es q)
    (hnames : ∀ b, Names (decode b)) (h : Ledger p a k m) :
    Ledger q a (k + (frames es).length) (m + totalLength (frames es)) := by
  induction es generalizing p k m with
  | nil =>
    rw [hmoves.state]
    exact h
  | cons e es ih =>
    cases hmoves.scans with
    | step hv hs =>
      have htail : Moves decode (e.apply p) es q := ⟨apply_buffer hv ▸ hs, hmoves.state⟩
      have hcons : frames (e :: es) = frames [e] ++ frames es :=
        List.filterMap_append (l := [e])
      have hstep := ih htail (apply_ledger hnames hv h)
      rw [hcons, List.length_append, ← Nat.add_assoc]
      unfold totalLength at hstep ⊢
      rw [List.map_append, List.sum_append, ← Nat.add_assoc]
      exact hstep

end Counters

/-! ### Runs -/

/-- What the transport asks of the parser. -/
inductive Call
  | feed (input : Bytes)
  | resetSession

/-- A parser with what it has taken and delivered in this session, and in its life: bytes,
commands and the bytes of these. -/
structure History (ρ : Type) where
  parser : IncrementalCommandParser := {}
  session : Bytes := []
  delivered : List (ParsedCommand ρ) := []
  received : ℕ := 0
  commands : ℕ := 0
  commandBytes : ℕ := 0

section Runs

variable {ρ : Type} (decode : Bytes → Except Result ρ)

/-- Every call of `feed` gets a command that says nothing yet. -/
def History.step (h : History ρ) : Call → History ρ
  | .feed input =>
    let (result, parser, command) := h.parser.feed decode input {}
    { parser := parser
      session := h.session ++ input.take result.consumed
      delivered :=
        if result.commandReady || result.rejectionReady then h.delivered ++ [command]
        else h.delivered
      received := h.received + result.consumed
      commands := if result.commandReady then h.commands + 1 else h.commands
      commandBytes :=
        if result.commandReady then h.commandBytes + command.frame.length else h.commandBytes }
  | .resetSession => { h with parser := h.parser.resetSession, session := [], delivered := [] }

def History.run (calls : List Call) : History ρ := calls.foldl (History.step decode) {}

end Runs

section Fed

variable {ρ : Type} {decode : Bytes → Except Result ρ} {p q : IncrementalCommandParser}
  {input : Bytes} {result : FeedResult} {command : ParsedCommand ρ}

/-- What one call does. -/
structure Fed (decode : Bytes → Except Result ρ) (p : IncrementalCommandParser) (input : Bytes)
    (result : FeedResult) (q : IncrementalCommandParser) (command : ParsedCommand ρ) : Prop where
  consumed_le : result.consumed ≤ input.length
  consumed_all : result.commandReady = false → result.rejectionReady = false →
    result.consumed = input.length
  settled : Settled decode q.buffer
  scans : ∃ es, Scans (verdict decode) (p.buffer ++ input.take result.consumed) es q.buffer ∧
    events es = if result.commandReady || result.rejectionReady then [command] else []
  ledger : (∀ b, Names (decode b)) → ∀ {a k m : ℕ}, Ledger p a k m →
    Ledger q (a + result.consumed) (if result.commandReady then k + 1 else k)
      (if result.commandReady then m + command.frame.length else m)

theorem frames_quiet {es : List (Emission ρ)} (h : Quiet es) : frames es = [] := by
  refine List.filterMap_eq_nil_iff.mpr fun e he => ?_
  have hno := h e he
  cases e with
  | command frame request => cases hno
  | skipped | refused => rfl

/-- One byte that is taken and delivers something. -/
theorem fed_delivery {x : UInt8} {es : List (Emission ρ)} {e : Emission ρ} {b : Bool}
    (hp : Settled decode p.buffer) (hmoves : Moves decode (p.push x) (es ++ [e]) q)
    (hquiet : Quiet es) (he : e.event? = some command)
    (hframe : frames [e] = if b then [command.frame] else []) :
    Fed decode p (x :: input) { consumed := 1, commandReady := b, rejectionReady := !b } q command where
  consumed_le := Nat.succ_le_succ (Nat.zero_le _)
  consumed_all := by
    intro hb hb'
    dsimp only at hb hb'
    rw [hb] at hb'
    cases hb'
  settled := by
    have hready : Ready decode (p.push x).buffer := push_buffer p x hp.length ▸ hp.push x
    obtain ⟨b, hs, hlast⟩ := hmoves.scans.split
    have hlast' := hready.scans hs hquiet
    generalize hr : q.buffer = r at hlast ⊢
    cases hlast with
    | step hv hnil =>
      cases hnil
      have hpos := verdict_stable.pos hv
      have hmax := hlast'.length
      refine ⟨?_, .inr ((hlast'.step hv).2 (by rw [he]; exact Option.some_ne_none _))⟩
      rw [List.length_drop]
      omega
  scans := by
    refine ⟨es ++ [e], ?_, ?_⟩
    · rw [List.take_succ_cons, List.take_zero, ← push_buffer p x hp.length]
      exact hmoves.scans
    · rw [events_append, events_quiet hquiet, Bool.or_not_self, if_pos rfl]
      exact List.filterMap_cons_some he
  ledger := by
    intro hnames a k m h
    have hstep := hmoves.ledger hnames (h.push x hp.length)
    have hes : frames (es ++ [e]) = if b then [command.frame] else [] := by
      have hnone := frames_quiet hquiet
      unfold frames at hnone hframe ⊢
      rw [List.filterMap_append, hnone, List.nil_append, hframe]
    rw [hes] at hstep
    cases b with
    | false => exact hstep
    | true => exact hstep

/-- A byte that is taken and delivers nothing. -/
theorem fed_after {x : UInt8} {es : List (Emission ρ)} {r : IncrementalCommandParser}
    (hp : Settled decode p.buffer) (hmoves : Moves decode (p.push x) es r) (hquiet : Quiet es)
    (h : Fed decode r input result q command) :
    Fed decode p (x :: input) { result with consumed := result.consumed + 1 } q command where
  consumed_le := Nat.succ_le_succ h.consumed_le
  consumed_all := fun hc hr => congrArg Nat.succ (h.consumed_all hc hr)
  settled := h.settled
  scans := by
    obtain ⟨fs, hfs, hevents⟩ := h.scans
    have hscans := (hmoves.scans.append verdict_stable (input.take result.consumed)).trans hfs
    rw [push_buffer p x hp.length, List.append_assoc] at hscans
    refine ⟨es ++ fs, hscans, ?_⟩
    rw [events_append, events_quiet hquiet]
    exact hevents
  ledger := by
    intro hnames a k m hledger
    have hstep := h.ledger hnames (hmoves.ledger hnames (hledger.push x hp.length))
    rw [frames_quiet hquiet, Nat.add_right_comm] at hstep
    exact hstep

theorem feed_fed (hp : Settled decode p.buffer) :
    Fed decode p input (p.feed decode input {}).1 (p.feed decode input {}).2.1
      (p.feed decode input {}).2.2 := by
  induction input generalizing p with
  | nil =>
    refine ⟨Nat.le_refl 0, fun _ _ => rfl, hp, ⟨[], ?_, rfl⟩, fun _ _ _ _ h => h⟩
    exact (List.append_nil p.buffer).symm ▸ Scans.refl _
  | cons x input ih =>
    have hbuffer := push_buffer p x hp.length
    have hready : Ready decode (p.push x).buffer := hbuffer ▸ hp.push x
    have hdrained : Drained decode (p.push x) _ _ _ := drain_drained (p.push x)
    unfold IncrementalCommandParser.feed
    generalize (p.push x).drain decode {} = d at hdrained ⊢
    obtain ⟨result, q, command⟩ := d
    dsimp only at hdrained
    cases hdrained with
    | none hmoves hquiet hwait =>
      have hready' := hready.scans hmoves.scans hquiet
      have hq : Settled decode q.buffer := ⟨wait_length hready'.length hwait, .inl hwait⟩
      exact fed_after hp hmoves hquiet (ih hq)
    | command hmoves hquiet => exact fed_delivery hp hmoves hquiet rfl rfl
    | rejection hmoves hquiet => exact fed_delivery hp hmoves hquiet rfl rfl

/-- What was delivered in a session is what its bytes say, but for what is in the buffer. -/
structure Heard (decode : Bytes → Except Result ρ) (h : History ρ) : Prop where
  settled : Settled decode h.parser.buffer
  scans : ∃ es, Scans (verdict decode) h.session es h.parser.buffer ∧ events es = h.delivered

theorem settled_nil : Settled decode ([] : Bytes) :=
  ⟨Nat.zero_le _, .inr (narrow_of_length (Nat.zero_le _))⟩

theorem resetSession_buffer (p : IncrementalCommandParser) : p.resetSession.buffer = [] := by
  have hdiscard := discard_buffer p (Nat.le_refl p.buffer.length)
  rw [List.drop_length] at hdiscard
  exact hdiscard

theorem heard_step {h : History ρ} (hh : Heard decode h) (call : Call) :
    Heard decode (h.step decode call) := by
  cases call with
  | feed input =>
    obtain ⟨es, hes, hevents⟩ := hh.scans
    have hfed : Fed decode h.parser input _ _ _ := feed_fed hh.settled
    obtain ⟨fs, hfs, hnew⟩ := hfed.scans
    refine ⟨hfed.settled, es ++ fs, (hes.append verdict_stable _).trans hfs, ?_⟩
    rw [events_append, hevents, hnew]
    unfold History.step
    dsimp only
    split
    · rfl
    · exact List.append_nil _
  | resetSession =>
    have hempty : (h.step decode .resetSession).parser.buffer = [] := resetSession_buffer h.parser
    refine ⟨hempty ▸ settled_nil, [], ?_, rfl⟩
    rw [hempty]
    exact .refl _

theorem heard_run (decode : Bytes → Except Result ρ) (calls : List Call) :
    Heard decode (History.run decode calls) := by
  unfold History.run
  generalize hstart : ({} : History ρ) = start
  have hheard : Heard decode start := by
    subst hstart
    exact ⟨settled_nil, [], .refl _, rfl⟩
  clear hstart
  induction calls generalizing start with
  | nil => exact hheard
  | cons call calls ih => exact ih _ (heard_step hheard call)

/-- What a history counts. -/
def History.Ledger (h : History ρ) : Prop :=
  Commands.Ledger h.parser h.received h.commands h.commandBytes

theorem ledger_step {h : History ρ} (hnames : ∀ b, Names (decode b)) (hh : Heard decode h)
    (hl : h.Ledger) (call : Call) : (h.step decode call).Ledger := by
  cases call with
  | feed input =>
    have hfed : Fed decode h.parser input _ _ _ := feed_fed hh.settled
    exact hfed.ledger hnames hl
  | resetSession => exact Commands.Ledger.resetSession hl

theorem ledger_run (hnames : ∀ b, Names (decode b)) (calls : List Call) :
    (History.run decode calls).Ledger := by
  unfold History.run
  generalize hstart : ({} : History ρ) = start
  have hinit : Heard decode start ∧ start.Ledger := by
    subst hstart
    refine ⟨⟨settled_nil, [], .refl _, rfl⟩, ⟨0, rfl, rfl⟩, rfl, rfl, Nat.zero_le _, fun _ => rfl⟩
  clear hstart
  induction calls generalizing start with
  | nil => exact hinit.2
  | cons call calls ih =>
    exact ih _ ⟨heard_step hinit.1 call, ledger_step hnames hinit.1 hinit.2 call⟩

end Fed

/-! ### The parser of the firmware -/

section Firmware

variable (cpuHz : ℕ) (responses : FrameHeader → Bytes → Result) (build : Build)

/-- Every byte is in an accepted command, discarded or in the buffer, the counters say so
until they saturate, and the buffer is never full. -/
theorem counters_account_for_every_byte (hresponses : ∀ h payload, Named (responses h payload))
    (calls : List Call) :
    let h := History.run (decodeRequest cpuHz responses build) calls
    let c := h.parser.counters
    h.parser.buffer.length < kCommandParserStorageBytes - 3 ∧
      c.highWaterMark ≤ V3.kMaxCommandFrameBytes ∧
      c.bytesReceived = min h.received (2 ^ 64 - 1) ∧
      (c.bytesReceived < 2 ^ 64 - 1 →
        c.bytesReceived = h.commandBytes + c.bytesDiscarded + c.bufferedBytes) ∧
      c.commandsAccepted = min h.commands (2 ^ 32 - 1) ∧
      (c.candidatesRejected < 2 ^ 32 - 1 →
        c.candidatesRejected =
          c.badVersions + c.badKinds + c.badFlags + c.badLengths + c.badChecksums + c.badPayloads +
            c.badRequestIds + c.unsupportedChecksums) := by
  intro h c
  have hledger : h.Ledger := ledger_run (decodeRequest_names hresponses build) calls
  have hlength : h.parser.buffer.length ≤ 67 :=
    (heard_run (decodeRequest cpuHz responses build) calls).settled.length
  exact ⟨Nat.lt_succ_of_le hlength, hledger.highWater, hledger.received, hledger.accountsFor,
    hledger.accepted, hledger.issues⟩

/-- With stray bytes, a damaged header and a session that ends inside a command. -/
theorem counters_account_for_a_cut_session :
    let h := History.run (decodeRequest 600000000 (fun _ _ => Result.badPayload) ⟨false, 1⟩)
      [.feed [1, 2, 0xEF, 0xBE], .feed (0xAD :: 0xDE :: List.replicate 50 3), .resetSession,
        .feed [0xEF, 0xBE, 0xAD]]
    h.parser.counters.bytesReceived =
      h.commandBytes + h.parser.counters.bytesDiscarded + h.parser.counters.bufferedBytes :=
  (counters_account_for_every_byte 600000000 (fun _ _ => Result.badPayload) ⟨false, 1⟩
    (fun _ _ => Or.inr (by decide))
    [.feed [1, 2, 0xEF, 0xBE], .feed (0xAD :: 0xDE :: List.replicate 50 3), .resetSession,
      .feed [0xEF, 0xBE, 0xAD]]).2.2.2.1 (by decide +kernel)

end Firmware

end ThingDaq.Commands

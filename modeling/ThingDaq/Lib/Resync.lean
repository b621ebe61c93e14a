import ThingDaq.Lib.Framing
import ThingDaq.Lib.Scanner

/-!
# Frames in a noisy stream

Frames of one format arrive in a stream of bytes that may be damaged anywhere.  Each
starts with a magic word.  A reader passes over what does not start with it, waits for
a candidate that is not all there yet, and passes over the first byte of a candidate
it has to reject.

What such a reader finds is described twice: by the verdict of the front of its buffer,
which drives it as input arrives, and by the search through the whole stream from
left to right.

## Main results

* `Sync.verdict_stable` — no verdict depends on later input.
* `Sync.search_frames` — the search finds the frames that the scan emits.
* `Sync.search_complete` — the search loses a frame only to one it overlaps.
-/

namespace Framing

open Scanner

variable {α ε η φ : Type*}

/-- What one verdict does with the front of the buffer. -/
inductive Emission (ε φ : Type*)
  | skipped
  | badHeader
  | badBody (e : ε)
  | frame (f : φ)

/-- The frame of an emission. -/
def Emission.frame? : Emission ε φ → Option φ
  | .frame f => some f
  | _ => none

/-- A format whose frames start with a magic word. -/
structure Sync (α ε η φ : Type*) extends Format α ε η φ where
  magic : List α
  magic_ne : magic ≠ []
  magic_le : magic.length ≤ headerSize
  isLocal : toFormat.Local
  header_magic : ∀ {b h}, decodeHeader b = .ok h → magic <+: b

/-- A frame and where it was found. -/
structure Found (φ : Type*) where
  start : ℕ
  length : ℕ
  frame : φ

namespace Sync

variable (S : Sync α ε η φ)

theorem headerSize_pos : 0 < S.headerSize :=
  Nat.lt_of_lt_of_le (List.length_pos_iff.mpr S.magic_ne) S.magic_le

section Verdict

variable [DecidableEq α]

/-- The verdict on a buffer that starts with the magic word. -/
def candidate (b : List α) : Verdict (Emission ε φ) :=
  if b.length < S.headerSize then .wait
  else
    match S.decodeHeader b with
    | .error _ => .step 1 .badHeader
    | .ok h =>
      if b.length < S.size h then .wait
      else
        match S.decodeBody b h with
        | .error e => .step 1 (.badBody e)
        | .ok f => .step (S.size h) (.frame f)

/-- The front of a buffer: a candidate, the beginning of a magic word, or noise. -/
def verdict (b : List α) : Verdict (Emission ε φ) :=
  if S.magic <+: b then S.candidate b
  else if b <+: S.magic then .wait
  else .step 1 .skipped

/-- A candidate that is not all there: its header, or what its header declares. -/
def incomplete (b : List α) : Bool :=
  b.length < S.headerSize ||
    match S.decodeHeader b with
    | .error _ => false
    | .ok h => b.length < S.size h

end Verdict

/-! ### Verdicts are stable -/

variable {S} {b c : List α}

theorem decodeHeader_append {h : η} (hlen : S.headerSize ≤ b.length) :
    S.decodeHeader (b ++ c) = .ok h ↔ S.decodeHeader b = .ok h := by
  have htake := S.isLocal.header_take (b := b ++ c) (h := h) hlen
  rwa [List.take_left' rfl, Iff.comm] at htake

theorem decodeHeader_append_error {e : ε} (hlen : S.headerSize ≤ b.length)
    (he : S.decodeHeader b = .error e) : ∃ e', S.decodeHeader (b ++ c) = .error e' := by
  cases hbc : S.decodeHeader (b ++ c) with
  | error e' => exact ⟨e', rfl⟩
  | ok h =>
    rw [decodeHeader_append hlen, he] at hbc
    cases hbc

theorem decodeBody_append {h : η} (hh : S.decodeHeader b = .ok h) (hlen : S.size h ≤ b.length) :
    S.decodeBody (b ++ c) h = S.decodeBody b h := by
  have hbc : S.decodeHeader (b ++ c) = .ok h :=
    (decodeHeader_append (S.isLocal.header_length hh)).mpr hh
  have htake := S.isLocal.body_take hbc hlen
  rwa [List.take_left' rfl, eq_comm] at htake

/-- What a verdict other than waiting says about a candidate. -/
theorem candidate_step {n : ℕ} {e : Emission ε φ} (hv : S.candidate b = .step n e) :
    S.headerSize ≤ b.length ∧
      ((∃ err, S.decodeHeader b = .error err) ∧ n = 1 ∧ e = .badHeader ∨
        ∃ h, S.decodeHeader b = .ok h ∧ S.size h ≤ b.length ∧
          ((∃ err, S.decodeBody b h = .error err ∧ n = 1 ∧ e = .badBody err) ∨
            ∃ f, S.decodeBody b h = .ok f ∧ n = S.size h ∧ e = .frame f)) := by
  unfold candidate at hv
  split at hv
  · cases hv
  · rename_i hlen
    refine ⟨Nat.not_lt.mp hlen, ?_⟩
    split at hv
    · rename_i err herr
      cases hv
      exact .inl ⟨⟨err, herr⟩, rfl, rfl⟩
    · rename_i h hh
      split at hv
      · cases hv
      · rename_i hsize
        refine .inr ⟨h, hh, Nat.not_lt.mp hsize, ?_⟩
        split at hv
        · rename_i err herr
          cases hv
          exact .inl ⟨err, herr, rfl, rfl⟩
        · rename_i f hf
          cases hv
          exact .inr ⟨f, hf, rfl, rfl⟩

theorem candidate_append {n : ℕ} {e : Emission ε φ} (hv : S.candidate b = .step n e)
    (c : List α) : S.candidate (b ++ c) = .step n e := by
  obtain ⟨hlen, hcases⟩ := candidate_step hv
  have hlonger : b.length ≤ (b ++ c).length := by rw [List.length_append]; omega
  unfold candidate
  rw [if_neg (Nat.not_lt.mpr (Nat.le_trans hlen hlonger))]
  rcases hcases with ⟨⟨err, herr⟩, rfl, rfl⟩ | ⟨h, hh, hsize, hbody⟩
  · obtain ⟨err', herr'⟩ := decodeHeader_append_error (c := c) hlen herr
    rw [herr']
  · rw [(decodeHeader_append hlen).mpr hh]
    dsimp only
    rw [if_neg (Nat.not_lt.mpr (Nat.le_trans hsize hlonger)), decodeBody_append hh hsize]
    rcases hbody with ⟨err, herr, rfl, rfl⟩ | ⟨f, hf, rfl, rfl⟩
    · rw [herr]
    · rw [hf]

theorem candidate_of_incomplete (hinc : S.incomplete b = true) : S.candidate b = .wait := by
  unfold incomplete at hinc
  unfold candidate
  by_cases hlen : b.length < S.headerSize
  · rw [if_pos hlen]
  · rw [if_neg hlen]
    simp only [hlen, decide_false, Bool.false_or] at hinc
    split at hinc
    · cases hinc
    · rw [if_pos (of_decide_eq_true hinc)]

theorem incomplete_of_ok {h : η} (hh : S.decodeHeader b = .ok h) :
    S.incomplete b = decide (b.length < S.size h) := by
  unfold incomplete
  rw [decide_eq_false (Nat.not_lt.mpr (S.isLocal.header_length hh)), hh]
  rfl

variable [DecidableEq α]

theorem verdict_stable : Stable S.verdict where
  pos := by
    intro b n e hv
    unfold verdict at hv
    split at hv
    · obtain ⟨-, ⟨-, rfl, -⟩ | ⟨h, hh, -, ⟨-, -, rfl, -⟩ | ⟨-, -, rfl, -⟩⟩⟩ := candidate_step hv
      · exact Nat.one_pos
      · exact Nat.one_pos
      · exact Nat.lt_of_lt_of_le S.headerSize_pos (S.isLocal.headerSize_le hh)
    · split at hv
      · cases hv
      · cases hv
        exact Nat.one_pos
  le := by
    intro b n e hv
    unfold verdict at hv
    split at hv
    · obtain ⟨hlen, hcases⟩ := candidate_step hv
      have hone : 1 ≤ b.length := Nat.lt_of_lt_of_le S.headerSize_pos hlen
      obtain ⟨-, rfl, -⟩ | ⟨h, hh, hsize, ⟨-, -, rfl, -⟩ | ⟨-, -, rfl, -⟩⟩ := hcases
      · exact hone
      · exact hone
      · exact hsize
    · split at hv
      · cases hv
      · rename_i hnot
        cases hv
        -- an empty buffer is the beginning of anything
        apply List.length_pos_iff.mpr
        intro hnil
        exact hnot (hnil ▸ List.nil_prefix)
  append := by
    intro b n e hv c
    unfold verdict at hv ⊢
    split at hv
    · rename_i hmagic
      rw [if_pos (hmagic.trans (List.prefix_append b c))]
      exact candidate_append hv c
    · rename_i hmagic
      split at hv
      · cases hv
      · rename_i hnot
        cases hv
        have hmagic' : ¬ S.magic <+: b ++ c := by
          intro hp
          rcases List.prefix_or_prefix_of_prefix hp (List.prefix_append b c) with h | h
          · exact hmagic h
          · exact hnot h
        have hnot' : ¬ b ++ c <+: S.magic := fun hp => hnot ((List.prefix_append b c).trans hp)
        rw [if_neg hmagic', if_neg hnot']

/-- Waiting, there is less than the magic word, than a header, or than a declared
frame. -/
theorem verdict_wait (hv : S.verdict b = .wait) :
    b.length < S.headerSize ∨ ∃ h, S.decodeHeader b = .ok h ∧ b.length < S.size h := by
  unfold verdict at hv
  split at hv
  · unfold candidate at hv
    split at hv
    · rename_i hlen
      exact .inl hlen
    · split at hv
      · cases hv
      · rename_i h hh
        split at hv
        · rename_i hsize
          exact .inr ⟨h, hh, hsize⟩
        · split at hv <;> cases hv
  · rename_i hmagic
    split at hv
    · rename_i hpart
      have hlt : b.length < S.magic.length := by
        apply Nat.lt_of_le_of_ne hpart.length_le
        intro heq
        exact hmagic (hpart.eq_of_length heq ▸ List.prefix_rfl)
      exact .inl (Nat.lt_of_lt_of_le hlt S.magic_le)
    · cases hv

/-! ### Searching the whole stream -/

variable (S) in
/-- The search from left to right.  At the magic word a candidate is accepted when the
strict decoder accepts as much as it declares, and otherwise one byte is skipped; at a
candidate that is not all there the search ends. -/
def searchFrom (declared : List α → ℕ) (decode : List α → Except ε φ) :
    ℕ → ℕ → List α → List (Found φ)
  | 0, _, _ => []
  | fuel + 1, start, b =>
    if b = [] then []
    else if S.magic <+: b then
      if S.incomplete b then []
      else
        match decode (b.take (declared b)) with
        | .ok f =>
          ⟨start, declared b, f⟩ ::
            searchFrom declared decode fuel (start + declared b) (b.drop (declared b))
        | .error _ => searchFrom declared decode fuel (start + 1) (b.drop 1)
    else searchFrom declared decode fuel (start + 1) (b.drop 1)

variable (S) in
def search (declared : List α → ℕ) (decode : List α → Except ε φ) (stream : List α) :
    List (Found φ) :=
  S.searchFrom declared decode stream.length 0 stream

/-- The declared length is the one a readable header has, and the strict decoder is the
format's. -/
structure Strict (S : Sync α ε η φ) (declared : List α → ℕ) (decode : List α → Except ε φ) :
    Prop where
  declared_eq : ∀ {b h}, S.decodeHeader b = .ok h → S.size h = declared b
  decode_ok : ∀ {b f}, decode b = .ok f ↔
    ∃ h, S.decodeHeader b = .ok h ∧ b.length = S.size h ∧ S.decodeBody b h = .ok f

theorem verdict_nil : S.verdict [] = .wait := by
  unfold verdict
  rw [if_neg (fun hp => S.magic_ne (List.prefix_nil.mp hp)), if_pos List.nil_prefix]

section Search

variable {declared : List α → ℕ} {decode : List α → Except ε φ}

/-- Less than a magic word holds no frame. -/
theorem searchFrom_short (fuel start : ℕ) (hb : b.length < S.magic.length) :
    S.searchFrom declared decode fuel start b = [] := by
  induction fuel generalizing start b with
  | zero => rfl
  | succ fuel ih =>
    unfold searchFrom
    have hmagic : ¬ S.magic <+: b := fun hp => absurd hp.length_le (Nat.not_le.mpr hb)
    rw [if_neg hmagic]
    split
    · rfl
    · exact ih _ (by rw [List.length_drop]; omega)

variable (hS : S.Strict declared decode)

include hS

omit [DecidableEq α] in
/-- What the strict decoder accepts of the front of a buffer is the frame there. -/
theorem Strict.take_ok {n : ℕ} {f : φ} :
    decode (b.take n) = .ok f ↔
      ∃ h, S.decodeHeader b = .ok h ∧ S.size h = min n b.length ∧ S.decodeBody b h = .ok f := by
  rw [hS.decode_ok, List.length_take]
  constructor
  · rintro ⟨h, hh, hsize, hbody⟩
    have hle : S.headerSize ≤ n := by
      have hlen := S.isLocal.header_length hh
      rw [List.length_take] at hlen
      omega
    have hb : S.decodeHeader b = .ok h := (S.isLocal.header_take hle).mp hh
    rw [S.isLocal.body_take hb (by omega)] at hbody
    exact ⟨h, hb, hsize.symm, hbody⟩
  · rintro ⟨h, hb, hsize, hbody⟩
    have hle : S.headerSize ≤ S.size h := S.isLocal.headerSize_le hb
    refine ⟨h, (S.isLocal.header_take (by omega)).mpr hb, hsize.symm, ?_⟩
    rw [S.isLocal.body_take hb (by omega), hbody]

omit [DecidableEq α] in
/-- A complete candidate, accepted. -/
theorem Strict.candidate_ok {f : φ} (hok : decode (b.take (declared b)) = .ok f) :
    S.candidate b = .step (declared b) (.frame f) ∧ declared b ≤ b.length := by
  obtain ⟨h, hh, hsize, hbody⟩ := hS.take_ok.mp hok
  rw [hS.declared_eq hh] at hsize
  have hle : declared b ≤ b.length := by omega
  refine ⟨?_, hle⟩
  unfold candidate
  rw [if_neg (Nat.not_lt.mpr (S.isLocal.header_length hh)), hh]
  dsimp only
  rw [hS.declared_eq hh, if_neg (Nat.not_lt.mpr hle), hbody]

omit [DecidableEq α] in
/-- A complete candidate, rejected. -/
theorem Strict.candidate_error {err : ε} (hinc : S.incomplete b = false)
    (herr : decode (b.take (declared b)) = .error err) :
    ∃ e : Emission ε φ, e.frame? = none ∧ S.candidate b = .step 1 e := by
  unfold candidate
  have hlen : ¬ b.length < S.headerSize := by
    intro hlt
    unfold incomplete at hinc
    rw [decide_eq_true hlt] at hinc
    cases hinc
  rw [if_neg hlen]
  cases hh : S.decodeHeader b with
  | error => exact ⟨.badHeader, rfl, rfl⟩
  | ok h =>
    rw [incomplete_of_ok hh] at hinc
    have hsize : S.size h ≤ b.length := Nat.not_lt.mp (of_decide_eq_false hinc)
    dsimp only
    rw [if_neg (Nat.not_lt.mpr hsize)]
    cases hbody : S.decodeBody b h with
    | error e => exact ⟨.badBody e, rfl, rfl⟩
    | ok f =>
      have hdec : S.size h = declared b := hS.declared_eq hh
      have hok : decode (b.take (declared b)) = .ok f :=
        hS.take_ok.mpr ⟨h, hh, by omega, hbody⟩
      rw [hok] at herr
      cases herr

/-- The search finds the frames that the scan emits. -/
theorem searchFrom_frames (fuel start : ℕ) (hfuel : b.length ≤ fuel) :
    (S.searchFrom declared decode fuel start b).map Found.frame =
      (scan S.verdict b).1.filterMap Emission.frame? := by
  induction fuel generalizing start b with
  | zero =>
    have hnil : b = [] := List.length_eq_zero_iff.mp (Nat.le_zero.mp hfuel)
    subst hnil
    rfl
  | succ fuel ih =>
    have hskip : ∀ e : Emission ε φ, e.frame? = none → S.verdict b = .step 1 e →
        (S.searchFrom declared decode fuel (start + 1) (b.drop 1)).map Found.frame =
          (scan S.verdict b).1.filterMap Emission.frame? := by
      intro e he hv
      have hle := verdict_stable.le hv
      rw [scan_step verdict_stable hv, List.filterMap_cons_none he]
      exact ih _ (by rw [List.length_drop]; omega)
    unfold searchFrom
    split
    · rename_i hnil
      rw [hnil, scan_wait verdict_stable verdict_nil]
      rfl
    · split
      · rename_i hmagic
        have hv : S.verdict b = S.candidate b := if_pos hmagic
        split
        · rename_i hinc
          rw [scan_wait verdict_stable (hv.trans (candidate_of_incomplete hinc))]
          rfl
        · rename_i hinc
          split
          · rename_i f hok
            obtain ⟨hcand, hle⟩ := hS.candidate_ok hok
            have hpos := verdict_stable.pos (hv.trans hcand)
            rw [scan_step verdict_stable (hv.trans hcand), List.map_cons]
            rw [ih _ (by rw [List.length_drop]; omega)]
            rfl
          · rename_i err herr
            obtain ⟨e, he, hcand⟩ := hS.candidate_error (Bool.eq_false_iff.mpr hinc) herr
            exact hskip e he (hv.trans hcand)
      · rename_i hmagic
        by_cases hpart : b <+: S.magic
        · -- the beginning of a magic word: the scan waits, the search runs out
          have hv : S.verdict b = .wait := by
            unfold verdict
            rw [if_neg hmagic, if_pos hpart]
          have hlt : b.length < S.magic.length := by
            apply Nat.lt_of_le_of_ne hpart.length_le
            intro heq
            exact hmagic (hpart.eq_of_length heq ▸ List.prefix_rfl)
          rw [scan_wait verdict_stable hv, searchFrom_short fuel _ (by rw [List.length_drop]; omega)]
          rfl
        · apply hskip .skipped rfl
          unfold verdict
          rw [if_neg hmagic, if_neg hpart]

theorem search_frames (stream : List α) :
    (S.search declared decode stream).map Found.frame =
      (scan S.verdict stream).1.filterMap Emission.frame? :=
  searchFrom_frames hS _ _ (Nat.le_refl _)

/-- A frame at `i` is found, or overlapped by one that was found before it, or behind
an incomplete candidate at which the search ended. -/
theorem searchFrom_complete (fuel start : ℕ) (hfuel : b.length ≤ fuel) {i n : ℕ} {f : φ}
    (hn : i + n ≤ b.length) (hok : decode ((b.drop i).take n) = .ok f) :
    (⟨start + i, n, f⟩ ∈ S.searchFrom declared decode fuel start b) ∨
      (∃ g ∈ S.searchFrom declared decode fuel start b,
        g.start < start + i ∧ start + i < g.start + g.length) ∨
      ∃ j < i, S.magic <+: b.drop j ∧ S.incomplete (b.drop j) = true ∧
        ∀ g ∈ S.searchFrom declared decode fuel start b, g.start + g.length ≤ start + j := by
  induction fuel generalizing start b i with
  | zero =>
    have hnil : b = [] := List.length_eq_zero_iff.mp (Nat.le_zero.mp hfuel)
    obtain ⟨h, hh, -⟩ := hS.take_ok.mp hok
    have hlen := S.isLocal.header_length hh
    have hpos := S.headerSize_pos
    rw [List.length_drop, hnil, List.length_nil] at hlen
    omega
  | succ fuel ih =>
    obtain ⟨h, hh, hsize, -⟩ := hS.take_ok.mp hok
    have hhead := S.isLocal.headerSize_le hh
    have hpos := S.headerSize_pos
    rw [List.length_drop, Nat.min_eq_left (by omega)] at hsize
    have hne : b ≠ [] := by
      rintro rfl
      rw [List.length_nil] at hn
      omega
    -- the rest of the search, from `m` on
    have hrest : ∀ m, 0 < m → m ≤ i → ∀ l,
        (∀ g ∈ l, g.start + g.length ≤ start + m) →
        (⟨start + i, n, f⟩ ∈ l ++ S.searchFrom declared decode fuel (start + m) (b.drop m)) ∨
          (∃ g ∈ l ++ S.searchFrom declared decode fuel (start + m) (b.drop m),
            g.start < start + i ∧ start + i < g.start + g.length) ∨
          ∃ j < i, S.magic <+: b.drop j ∧ S.incomplete (b.drop j) = true ∧
            ∀ g ∈ l ++ S.searchFrom declared decode fuel (start + m) (b.drop m),
              g.start + g.length ≤ start + j := by
      intro m hm hmi l hl
      have hlen : (b.drop m).length = b.length - m := List.length_drop
      have hdrop : (b.drop m).drop (i - m) = b.drop i := by
        rw [List.drop_drop]
        congr 1
        omega
      have hsum : start + m + (i - m) = start + i := by omega
      have hcases := ih (start + m) (by omega) (by omega) (hdrop ▸ hok)
      rw [hsum] at hcases
      rcases hcases with hmem | ⟨g, hg, hoverlap⟩ | ⟨j, hj, hmagic, hinc, hbefore⟩
      · exact .inl (List.mem_append_right l hmem)
      · exact .inr (.inl ⟨g, List.mem_append_right l hg, hoverlap⟩)
      · rw [List.drop_drop] at hmagic hinc
        refine .inr (.inr ⟨m + j, by omega, hmagic, hinc, ?_⟩)
        intro g hg
        rcases List.mem_append.mp hg with hg | hg
        · have := hl g hg
          omega
        · have := hbefore g hg
          omega
    unfold searchFrom
    rw [if_neg hne]
    by_cases hi : i = 0
    · subst hi
      rw [List.drop_zero] at hok hh
      have hdec : declared b = n := (hS.declared_eq hh).symm.trans hsize
      have hinc : ¬ S.incomplete b = true := by
        rw [incomplete_of_ok hh, decide_eq_true_eq]
        omega
      rw [if_pos (S.header_magic hh), if_neg hinc, hdec, hok]
      exact .inl (List.mem_cons_self ..)
    · split
      · rename_i hmagic
        split
        · rename_i hinc
          refine .inr (.inr ⟨0, by omega, hmagic, hinc, ?_⟩)
          intro g hg
          cases hg
        · split
          · rename_i g hg
            obtain ⟨hcand, hle⟩ := hS.candidate_ok hg
            have hv : S.verdict b = S.candidate b := if_pos hmagic
            have hdpos := verdict_stable.pos (hv.trans hcand)
            by_cases hin : i < declared b
            · exact .inr (.inl ⟨_, List.mem_cons_self .., by dsimp only; omega, by dsimp only; omega⟩)
            · refine hrest (declared b) hdpos (by omega) [⟨start, declared b, g⟩] ?_
              intro g' hg'
              exact (List.mem_singleton.mp hg') ▸ Nat.le_refl _
          · exact hrest 1 Nat.one_pos (by omega) [] (fun _ h => by cases h)
      · exact hrest 1 Nat.one_pos (by omega) [] (fun _ h => by cases h)

/-- The search loses a frame only to one it overlaps: one that was found, or one that
is not all there and is not part of any that was found. -/
theorem search_complete {stream : List α} {i n : ℕ} {f : φ} (hn : i + n ≤ stream.length)
    (hok : decode ((stream.drop i).take n) = .ok f) :
    (⟨i, n, f⟩ ∈ S.search declared decode stream) ∨
      (∃ g ∈ S.search declared decode stream, g.start < i ∧ i < g.start + g.length) ∨
      ∃ j < i, S.magic <+: stream.drop j ∧ S.incomplete (stream.drop j) = true ∧
        ∀ g ∈ S.search declared decode stream, g.start + g.length ≤ j := by
  have hcases := searchFrom_complete hS stream.length 0 (Nat.le_refl _) hn hok
  simp only [Nat.zero_add] at hcases
  exact hcases

end Search

end Sync

end Framing

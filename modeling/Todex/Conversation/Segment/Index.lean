import Todex.Conversation.Segment.Frame
import Todex.Lib.Ensures

/-!
# Accepted segment indexes

`SealedSegment::from_body` accepts an index only if the frames of every stream tile the segment's
range. A reader can then find the frame of every record by a binary search, and one item number
fits both frames of a sealed record.
-/

namespace Todex.SealedSegment

variable {body : SegmentIndexBody} {segment : SealedSegment} {frames : List FrameEntry}
  {frame other : FrameEntry} {slot : Slot} {start stop number sequence : Nat}

/-- An index whose frames lie in the file, tile the range in every stream and are aligned. -/
structure Accepted (number : Nat) (body : SegmentIndexBody) (segment : SealedSegment) : Prop where
  eq_ofBody : segment = ofBody number body
  first_le : segment.first ≤ segment.last
  checked : ∀ frame ∈ body.frames, checkFrame body.segBytes frame = .ok ()
  contiguous : ∀ slot,
    checkContiguous (streamFrames body.frames slot) body.firstSequence = .ok (body.lastSequence + 1)
  paired : ∀ frame ∈ body.frames, frame.kid.isSome → segment.isPaired frame

lemma contiguous_of_checkStream (h : checkStream body slot = .ok ()) :
    checkContiguous (streamFrames body.frames slot) body.firstSequence = .ok (body.lastSequence + 1) := by
  obtain ⟨stop, hstop, h⟩ := Except.bind_eq_ok.mp h
  by_cases hne : stop ≠ body.lastSequence + 1
  · rw [if_pos hne] at h
    cases h
  · rw [hstop, not_not.mp hne]

lemma accepted_of_fromBody (h : fromBody number body = .ok segment) : Accepted number body segment := by
  rw [fromBody] at h
  by_cases hversion : body.version ≠ indexVersion
  · rw [if_pos hversion] at h
    cases h
  rw [if_neg hversion] at h
  dsimp only at h
  by_cases hrange : body.firstSequence = 0 ∨ body.lastSequence < body.firstSequence
  · rw [if_pos hrange] at h
    cases h
  rw [if_neg hrange] at h
  obtain ⟨_, hchecked, h⟩ := Except.bind_eq_ok.mp h
  obtain ⟨_, hstreams, h⟩ := Except.bind_eq_ok.mp h
  split_ifs at h with hpaired
  · cases h
  cases h
  refine ⟨rfl, not_lt.mp fun hlt => hrange (.inr hlt), Except.forall_mem_of_forM hchecked, fun slot => ?_,
    fun frame hmem hkid => ?_⟩
  · exact contiguous_of_checkStream (Except.forall_mem_of_forM hstreams slot (by cases slot <;> decide))
  · by_contra hnot
    exact hpaired (List.any_eq_true.mpr ⟨frame, hmem, by simp [hkid, hnot]⟩)

/-! ### Contiguous frames -/

lemma contains_iff : frame.contains sequence ↔ frame.first ≤ sequence ∧ sequence < frame.first + frame.count := by
  rw [FrameEntry.contains, decide_eq_true_iff]

lemma checkContiguous_cons (h : checkContiguous (frame :: frames) start = .ok stop) :
    frame.first = start ∧ checkContiguous frames (start + frame.count) = .ok stop := by
  rw [checkContiguous] at h
  split_ifs at h with hne
  exact ⟨not_not.mp hne, h⟩

lemma bounds_of_contiguous (h : checkContiguous frames start = .ok stop) :
    start ≤ stop ∧ ∀ frame ∈ frames, start ≤ frame.first ∧ frame.first + frame.count ≤ stop := by
  induction frames generalizing start with
  | nil =>
    cases h
    exact ⟨Nat.le_refl _, nofun⟩
  | cons frame frames ih =>
    obtain ⟨hfirst, hrest⟩ := checkContiguous_cons h
    obtain ⟨hle, hbounds⟩ := ih hrest
    refine ⟨by omega, List.forall_mem_cons.mpr ⟨by omega, fun other hmem => ?_⟩⟩
    have hother := hbounds other hmem
    omega

lemma chunkAt_eq_none (h : ∀ frame ∈ frames, sequence < frame.first) :
    chunkAt FrameEntry.first frames sequence = none := by
  cases frames with
  | nil => rfl
  | cons frame frames =>
    have hlt : ¬frame.first ≤ sequence := Nat.not_le.mpr (h frame List.mem_cons_self)
    rw [chunkAt, List.takeWhile_cons_of_neg (by simpa using hlt), List.getLast?_nil]

lemma chunkAt_cons (h : frame.first ≤ sequence) : chunkAt FrameEntry.first (frame :: frames) sequence =
    some ((chunkAt FrameEntry.first frames sequence).getD frame) := by
  rw [chunkAt, List.takeWhile_cons_of_pos (by simpa using h), List.getLast?_cons, chunkAt]

lemma mem_of_chunkAt (h : chunkAt FrameEntry.first frames sequence = some frame) : frame ∈ frames :=
  (List.takeWhile_sublist _).subset (List.mem_of_getLast? h)

/-- The binary search over contiguous frames finds the one frame that holds the sequence. -/
lemma chunkAt_of_contiguous (h : checkContiguous frames start = .ok stop) (hstart : start ≤ sequence)
    (hstop : sequence < stop) : ∃ frame, chunkAt FrameEntry.first frames sequence = some frame ∧
      frame.contains sequence ∧ ∀ other ∈ frames, other.contains sequence → other = frame := by
  induction frames generalizing start with
  | nil =>
    cases h
    omega
  | cons frame frames ih =>
    obtain ⟨rfl, hrest⟩ := checkContiguous_cons h
    have hbounds := (bounds_of_contiguous hrest).2
    rw [chunkAt_cons hstart]
    by_cases hlt : sequence < frame.first + frame.count
    · -- the later frames start after the sequence
      have hlater : ∀ other ∈ frames, sequence < other.first := fun other hmem => hlt.trans_le (hbounds other hmem).1
      refine ⟨frame, by rw [chunkAt_eq_none hlater, Option.getD_none], contains_iff.mpr ⟨hstart, hlt⟩,
        List.forall_mem_cons.mpr ⟨fun _ => rfl, fun other hmem hheld => ?_⟩⟩
      exact absurd (contains_iff.mp hheld).1 (Nat.not_le.mpr (hlater other hmem))
    · obtain ⟨found, hfound, hheld, hunique⟩ := ih hrest (Nat.not_lt.mp hlt)
      refine ⟨found, by rw [hfound, Option.getD_some], hheld, List.forall_mem_cons.mpr ⟨fun hfirst => ?_, hunique⟩⟩
      exact absurd (contains_iff.mp hfirst).2 hlt

lemma mem_streamFrames : frame ∈ streamFrames frames slot ↔ frame ∈ frames ∧ streamSlot frame.stream = some slot := by
  rw [streamFrames, List.mem_mergeSort, List.mem_filter, decide_eq_true_iff]

lemma checkFrame_bounds {size : Nat} (h : checkFrame size frame = .ok ()) :
    segmentHeaderBytes + frameHeaderBytes ≤ frame.offset ∧ frame.offset + frame.len ≤ size := by
  rw [checkFrame] at h
  split_ifs at h with hs hb
  omega

lemma frame_eq_some : segment.frame slot sequence = some frame ↔
    chunkAt FrameEntry.first (segment.byStream slot) sequence = some frame ∧ frame.contains sequence := by
  rw [SealedSegment.frame, Option.filter_eq_some_iff]

lemma streamSlot_eq_full {stream : UInt8} : streamSlot stream = some .full ↔ stream = streamFull := by
  rw [streamSlot]
  split_ifs with henvelope hsummary hfull
  · simp [henvelope, streamEnvelope, streamFull]
  · simp [hsummary, streamSummary, streamFull]
  · exact iff_of_true rfl hfull
  · exact iff_of_false nofun hfull

namespace Accepted

lemma mem_of_frame (h : Accepted number body segment) (hframe : segment.frame slot sequence = some frame) :
    frame ∈ body.frames ∧ streamSlot frame.stream = some slot := by
  have hmem := mem_of_chunkAt (frame_eq_some.mp hframe).1
  rw [h.eq_ofBody] at hmem
  exact mem_streamFrames.mp hmem

lemma frame_unique (h : Accepted number body segment) (hframe : segment.frame slot sequence = some frame)
    (hmem : other ∈ body.frames) (hslot : streamSlot other.stream = some slot) (hheld : other.contains sequence) :
    other = frame := by
  have hcontiguous := h.contiguous slot
  have hmem := mem_streamFrames.mpr ⟨hmem, hslot⟩
  have hbounds := (bounds_of_contiguous hcontiguous).2 other hmem
  have hrange := contains_iff.mp hheld
  have hstart : body.firstSequence ≤ sequence := by omega
  have hstop : sequence < body.lastSequence + 1 := by omega
  obtain ⟨found, hfound, -, hunique⟩ := chunkAt_of_contiguous hcontiguous hstart hstop
  obtain ⟨hat, -⟩ := frame_eq_some.mp hframe
  rw [h.eq_ofBody] at hat
  obtain rfl : found = frame := Option.some.inj (hfound.symm.trans hat)
  exact hunique other hmem hheld

/-- The pair of a sealed frame holds the same sequences. -/
lemma pair_of_frame (h : Accepted number body segment) {pairSlot : Slot}
    (hframe : segment.frame slot sequence = some frame) (hother : segment.frame pairSlot sequence = some other)
    (hkid : frame.kid.isSome) (hpair : (if frame.stream = streamFull then Slot.summary else .full) = pairSlot) :
    other.first = frame.first ∧ other.count = frame.count ∧ other.kid = frame.kid := by
  have hpaired := h.paired frame (h.mem_of_frame hframe).1 hkid
  rw [isPaired, hpair, Option.any_eq_true] at hpaired
  obtain ⟨pair, hsome, heq⟩ := hpaired
  have heq := of_decide_eq_true heq
  have hheld := contains_iff.mp (frame_eq_some.mp hframe).2
  have hpairHeld : pair.contains sequence := contains_iff.mpr (by omega)
  obtain ⟨hmem, hslot⟩ := h.mem_of_frame hsome
  rw [← h.frame_unique hother hmem hslot hpairHeld]
  exact heq

end Accepted

/-- In an accepted index, for every stream and sequence of the segment, the search finds the only
frame that holds it, in the file; outside the segment it finds none. If either content frame of a
record is sealed, both are, under one key and over the same records. -/
theorem accepted_index_locates (h : fromBody number body = .ok segment) (sequence : Nat) :
    (∀ slot, (body.firstSequence ≤ sequence ∧ sequence ≤ body.lastSequence →
        ∃ frame ∈ body.frames, segment.frame slot sequence = some frame ∧
          streamSlot frame.stream = some slot ∧ frame.contains sequence ∧
          segmentHeaderBytes + frameHeaderBytes ≤ frame.offset ∧
          frame.offset + frame.len ≤ body.segBytes ∧
          ∀ other ∈ body.frames, streamSlot other.stream = some slot → other.contains sequence → other = frame) ∧
      (¬(body.firstSequence ≤ sequence ∧ sequence ≤ body.lastSequence) → segment.frame slot sequence = none)) ∧
    ∀ full summary, segment.frame .full sequence = some full → segment.frame .summary sequence = some summary →
      full.kid.isSome ∨ summary.kid.isSome →
      summary.first = full.first ∧ summary.count = full.count ∧ summary.kid = full.kid := by
  have hacc := accepted_of_fromBody h
  refine ⟨fun slot => ⟨fun hin => ?_, fun hout => ?_⟩, fun full summary hfull hsummary hkid => ?_⟩
  · obtain ⟨frame, hat, hheld, -⟩ :=
      chunkAt_of_contiguous (hacc.contiguous slot) hin.1 (Nat.lt_succ_of_le hin.2)
    have hframe : segment.frame slot sequence = some frame := by
      rw [frame_eq_some, hacc.eq_ofBody]
      exact ⟨hat, hheld⟩
    obtain ⟨hmem, hslot⟩ := hacc.mem_of_frame hframe
    obtain ⟨hstart, hend⟩ := checkFrame_bounds (hacc.checked frame hmem)
    exact ⟨frame, hmem, hframe, hslot, hheld, hstart, hend, fun other hother => hacc.frame_unique hframe hother⟩
  · rw [Option.eq_none_iff_forall_ne_some]
    intro frame hframe
    have hbounds := (bounds_of_contiguous (hacc.contiguous slot)).2 frame
      (mem_streamFrames.mpr (hacc.mem_of_frame hframe))
    have hheld := contains_iff.mp (frame_eq_some.mp hframe).2
    omega
  · have hstream := streamSlot_eq_full.mp (hacc.mem_of_frame hfull).2
    have hne : summary.stream ≠ streamFull := fun heq => by
      cases (hacc.mem_of_frame hsummary).2.symm.trans (streamSlot_eq_full.mpr heq)
    obtain hkid | hkid := hkid
    · exact hacc.pair_of_frame hfull hsummary hkid (if_pos hstream)
    · obtain ⟨hfirst, hcount, hkids⟩ := hacc.pair_of_frame hsummary hfull hkid (if_neg hne)
      exact ⟨hfirst.symm, hcount.symm, hkids.symm⟩

/-- The index of two records, with envelopes in a frame each and contents in one sealed run. -/
def sealedRunBody : SegmentIndexBody where
  version := indexVersion
  firstSequence := 1
  lastSequence := 2
  segmentId := "00"
  segBytes := 276
  segSha256 := ""
  sources := []
  slimmed := 0
  frames := [⟨streamEnvelope, 1, 1, 60, 38, 33, none, false, 0, 2059988954⟩,
    ⟨streamEnvelope, 2, 1, 134, 38, 33, none, false, 1, 50883102⟩,
    ⟨streamSummary, 1, 2, 208, 16, 16, some "k", false, 0, 3971697493⟩,
    ⟨streamFull, 1, 2, 260, 16, 16, some "k", false, 0, 3971697493⟩]
  digest := {}

/-- The run as readers keep it. -/
def sealedRun : SealedSegment := ofBody 1 sealedRunBody

/-- The file of the run; the headers and the ciphertexts are zeros. -/
def sealedRunFile : Bytes :=
  let envelope := fun line : String => Primitives.standard.deflate (Bytes.ofString line)
  List.replicate 60 0 ++ envelope "\x7b\"s\":1,\"i\":\"a\",\"t\":0,\"y\":\"note\"\x7d\n" ++
    List.replicate 36 0 ++ envelope "\x7b\"s\":2,\"i\":\"b\",\"t\":0,\"y\":\"note\"\x7d\n" ++
    List.replicate 104 0

lemma streamFrames_sealedRunBody (slot : Slot) : streamFrames sealedRunBody.frames slot =
    sealedRunBody.frames.filter (streamSlot ·.stream = some slot) := by
  refine List.mergeSort_of_pairwise ?_
  cases slot <;> decide

lemma fromBody_sealedRunBody : fromBody 1 sealedRunBody = .ok sealedRun := by
  have hc (slot : Slot) : checkStream sealedRunBody slot = .ok () := by
    rw [checkStream, streamFrames_sealedRunBody]
    cases slot <;> rfl
  have hp : (sealedRun.frames.any fun frame => frame.kid.isSome && !sealedRun.isPaired frame) = false := by
    simp only [isPaired, sealedRun, SealedSegment.frame, ofBody, streamFrames_sealedRunBody]
    decide
  have hf : sealedRunBody.frames.forM (checkFrame sealedRunBody.segBytes) = .ok () := by decide
  rw [fromBody, if_neg (by decide), if_neg (by decide)]
  simp only [sealedRun] at hp ⊢
  simp [hf, hc, hp]

theorem accepted_index_locates_sealed : ∃ frame ∈ sealedRunBody.frames,
    sealedRun.frame .full 2 = some frame ∧ frame.contains 2 := by
  obtain ⟨frame, hmem, hframe, -, hheld, -⟩ :=
    ((accepted_index_locates fromBody_sealedRunBody 2).1 .full).1 (by decide)
  exact ⟨frame, hmem, hframe, hheld⟩

end Todex.SealedSegment

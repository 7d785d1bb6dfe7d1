import Todex.Conversation.Store.Pages

/-!
# Building the digest of a journal

After a restart the digest is put together from the digests that the indexes of the sealed segments
keep and from the pages of the plaintext files. A segment keeps the digest of the records it was
built from, which slimming and sealing have changed since.
-/

namespace Todex

section Build

variable (P : Primitives) (repair : PageRepair) (limitBytes : Nat)
  (loadIndex : IndexedJournal → Nat → Except SegmentError SegmentIndexBody)

/-- The pages of a plaintext part from position `start` on, or `none` if the files changed since the
fingerprint was taken. A page is not empty, so that a part needs no more pages than it has records. -/
def applyPages (fingerprint : List (String × Nat × Option Nat)) (stop : Nat) :
    Nat → Nat → JournalDigest → IndexedJournal → Except AppError (Option JournalDigest × IndexedJournal)
  | 0, _, digest, journal => .ok (some digest, journal)
  | fuel + 1, start, digest, journal =>
    if start < stop then do
      let (page, journal) ← readIndexedPage P repair limitBytes .start .full
        (fun _ => (start, min (start + maxReplayLimit) stop)) 2 journal
      if journal.fingerprint ≠ fingerprint then return (none, journal)
      let digest := page.events.foldl .apply digest
      if page.events.isEmpty then return (some digest, journal)
      applyPages fingerprint stop fuel page.stop digest journal
    else .ok (some digest, journal)

/-- One attempt; it fails at a segment whose index cannot be read, which is salvaged, and when the files change. -/
def digestParts (fingerprint : List (String × Nat × Option Nat)) :
    List IndexPart → JournalDigest → IndexedJournal → Except AppError (Option JournalDigest × IndexedJournal)
  | [], digest, journal => .ok (some digest, journal)
  | .sealed segment :: parts, digest, journal =>
    match loadIndex journal segment.number with
    | .ok body => digestParts fingerprint parts (digest.merge body.digest) journal
    | .error _ => do return (none, ← repair.salvageSegment journal segment.number)
  | .plain _ first offsets :: parts, digest, journal => do
    let stop := first - 1 + offsets.length
    match ← applyPages P repair limitBytes fingerprint stop offsets.length (first - 1) digest journal with
    | (some digest, journal) => digestParts fingerprint parts digest journal
    | (none, journal) => return (none, journal)

/-- `ensure_digest_locked`, if no digest is cached. -/
def ensureDigest : Nat → IndexedJournal → Except AppError JournalDigest
  | 0, journal =>
    let conversationId := journal.conversationId
    .error (.conflict s!"conversation {conversationId} journal kept changing while its digest was built")
  | attempts + 1, journal => do
    match ← digestParts P repair limitBytes loadIndex journal.fingerprint journal.parts {} journal with
    | (some digest, now) =>
      if now.fingerprint = journal.fingerprint then return digest else ensureDigest attempts now
    | (none, now) => ensureDigest attempts now

/-- The elements of a list at the positions of a part. -/
def IndexPart.range {α : Type} (part : IndexPart) (l : List α) : List α := (l.drop (part.first - 1)).take part.count

variable (journal : IndexedJournal) in
/-- The journal was made of a history: plaintext records are as they were, and the index of a segment has the digest
of the records it was built from. -/
structure MadeOf (records : List SegmentRecord) (history : List ConversationEvent) : Prop where
  length : records.length = history.length
  sequence : ∀ event ∈ history, 1 ≤ event.sequence
  loaded : ∀ segment, .sealed segment ∈ journal.parts → ∃ body, loadIndex journal segment.number = .ok body ∧
    body.digest = .fromEvents (IndexPart.range (.sealed segment) history)
  plain : ∀ file first offsets, .plain file first offsets ∈ journal.parts →
    IndexPart.range (.plain file first offsets) (records.map (·.event)) =
      IndexPart.range (.plain file first offsets) history

variable {P repair limitBytes loadIndex} {journal : IndexedJournal} {records : List SegmentRecord}
  (hrecords : HoldRecords P journal .full 1 journal.parts records)
  (hcopied : ∀ id, ∃ frame, journal.copiedFrame id = .ok frame)

include hrecords hcopied

lemma applyPages_eq {stop fuel start : Nat} (hstop : stop ≤ records.length) (hfuel : stop - start ≤ fuel)
    (digest : JournalDigest) :
    applyPages P repair limitBytes journal.fingerprint stop fuel start digest journal =
      .ok (some ((((records.drop start).take (stop - start)).map (·.event)).foldl .apply digest), journal) := by
  induction fuel generalizing start digest with
  | zero =>
    rw [Nat.le_zero.mp hfuel]
    rfl
  | succ fuel ih =>
    rw [applyPages]
    by_cases hlt : start < stop
    · have hwindow : min (start + maxReplayLimit) stop ≤ stop := Nat.min_le_right _ _
      have hstart : start < min (start + maxReplayLimit) stop := lt_min (Nat.lt_add_of_pos_right (by decide)) hlt
      obtain ⟨piece, page, hread, hevents, hne, hle, -, hpiece, hfrom, hto⟩ :=
        exists_page .start hrecords hcopied hstart (hwindow.trans hstop) limitBytes
      dsimp only at hfrom
      rw [hfrom] at hpiece hto
      have hpos := List.length_pos_iff.mpr hne
      have hpage := @readIndexedPage_of_readWindow P repair _ journal _
        (fun _ => (start, min (start + maxReplayLimit) stop)) _ _ _ _ rfl hstart.le
        (hrecords.total ▸ hwindow.trans hstop) hread 2
      have hsplit : (records.drop start).take (stop - start) =
          piece ++ (records.drop (start + piece.length)).take (stop - (start + piece.length)) := by
        rw [← Nat.add_sub_cancel' (show piece.length ≤ stop - start by omega), List.take_add, ← hpiece,
          List.drop_drop, Nat.sub_sub]
      rw [if_pos hlt, hpage, ok_bind]
      dsimp only
      rw [if_neg (not_not.mpr rfl), hevents, List.isEmpty_map, if_neg (by simpa using hne), hto, ih (by omega), hsplit,
        List.map_append, List.foldl_append]
    · rw [if_neg hlt, Nat.sub_eq_zero_of_le (Nat.not_lt.mp hlt)]
      rfl

lemma digestParts_eq {history : List ConversationEvent} (h : MadeOf loadIndex journal records history)
    {parts : List IndexPart} {rest : List SegmentRecord} {first : Nat}
    (hparts : HoldRecords P journal .full first parts rest) (hsub : parts ⊆ journal.parts)
    (hlength : first - 1 + rest.length = history.length) (hpos : 1 ≤ first) :
    digestParts P repair limitBytes loadIndex journal.fingerprint parts (.fromEvents (history.take (first - 1)))
      journal = .ok (some (.fromEvents history), journal) := by
  induction hparts with
  | nil =>
    rw [List.length_nil, Nat.add_zero] at hlength
    rw [hlength, List.take_length]
    rfl
  | @cons part parts _ rest _ hcount hparts ih =>
    obtain ⟨hmem, hsub⟩ := List.cons_subset.mp hsub
    rw [List.length_append, hcount] at hlength
    have hnext : part.first + part.count - 1 = part.first - 1 + part.count := by omega
    have ih := ih hsub (by omega) (by omega)
    rw [hnext, List.take_add] at ih
    change digestParts P repair limitBytes loadIndex journal.fingerprint parts
      (.fromEvents (_ ++ part.range history)) journal = _ at ih
    have hmerge : JournalDigest.fromEvents (history.take (part.first - 1) ++ part.range history) = .merge _ _ :=
      JournalDigest.mergeable_lawful.fold_append _
        fun event he => h.sequence event (List.mem_of_mem_drop (List.mem_of_mem_take he))
    cases part with
    | «sealed» segment =>
      obtain ⟨body, hbody, hdigest⟩ := h.loaded segment hmem
      rw [hmerge] at ih
      rw [digestParts, hbody]
      dsimp only
      rw [hdigest]
      exact ih
    | plain file first offsets =>
      have hstop : first - 1 + offsets.length ≤ records.length := by
        rw [h.length, ← hlength]
        exact Nat.add_le_add_left (Nat.le_add_right _ _) _
      have hplain := h.plain file first offsets hmem
      rw [IndexPart.range, ← List.map_drop, ← List.map_take] at hplain
      rw [digestParts, applyPages_eq hrecords hcopied hstop (Nat.add_sub_cancel_left ..).le,
        Nat.add_sub_cancel_left, ok_bind]
      rw [JournalDigest.fromEvents, List.foldl_append, ← hplain] at ih
      exact ih

/-- The digest that is built after a restart is the one of the history the journal was made of, whichever of its
records were slimmed and sealed since. -/
theorem rebuilt_digest_exact {history : List ConversationEvent} (h : MadeOf loadIndex journal records history)
    (attempts : Nat) :
    ensureDigest P repair limitBytes loadIndex (attempts + 1) journal = .ok (.fromEvents history) := by
  have hparts : digestParts P repair limitBytes loadIndex journal.fingerprint journal.parts {} journal = _ :=
    digestParts_eq hrecords hcopied h hrecords (List.Subset.refl _) (by rw [h.length, Nat.zero_add]) (Nat.le_refl 1)
  rw [ensureDigest, hparts, ok_bind]
  exact if_pos rfl

end Build

/-- Two records in a segment, whose index has their digest, and two in a file. -/
theorem rebuilt_digest_exact_sealedRun : ∃ parts, ∃ history : List ConversationEvent, history.length = 4 ∧
    ensureDigest .standard noRepair 10
      (fun _ _ => .ok { SealedSegment.sealedRunBody with digest := .fromEvents (history.take 2) }) 1
      (indexedJournalOf sealedRunJournal parts) = .ok (.fromEvents history) := by
  obtain ⟨rest, hvalid, hnot, htotal⟩ := exists_valid_sealedRun
  obtain ⟨records, hrecords⟩ := hvalid.exists_holdRecords .full
  have hlength : records.length = 4 := by
    rw [← hrecords.total]
    exact (congrArg (2 + ·) htotal :)
  refine ⟨_, records.map (·.event), by rw [List.length_map, hlength],
    rebuilt_digest_exact hrecords (fun _ => ⟨none, rfl⟩) ⟨(List.length_map _).symm, fun event he => ?_,
      fun segment hmem => ⟨_, rfl, ?_⟩, fun _ _ _ _ => rfl⟩ 0⟩
  · have hs := List.mem_map_of_mem (f := fun e : ConversationEvent => e.sequence) he
    rw [hrecords.event_sequences] at hs
    exact (List.mem_range'_1.mp hs).1
  · rcases List.mem_cons.mp hmem with heq | hmem
    · cases heq
      rfl
    · exact absurd hmem (hnot segment)

end Todex

import Todex.Conversation.Journal.FastScan
import Todex.Conversation.Store.Replay
import Todex.Lib.Paging

/-!
# Paging visits the whole history

The records of a journal are one list, and a page is a piece of it: what was taken off one end of a
window until the budget was used up. Pages that follow one another put the list together again.
-/

namespace Todex

open Json (Members)
open Paging (Taken)

variable {P : Primitives} {journal : IndexedJournal} {detail : ReplayDetail}

/-! ### What a page costs -/

/-- The journal bytes of a record on a page that holds these frames. -/
def SegmentRecord.cost (record : SegmentRecord) (held : Finset String) : Nat :=
  record.bytes + (record.frame.filter (·.id ∉ held)).elim 0 FrameRef.bytes

/-- The frames of a page with a record. -/
def SegmentRecord.hold (record : SegmentRecord) (held : Finset String) : Finset String :=
  record.frame.elim held fun frame => insert frame.id held

/-- The journal bytes of records, with each sealed frame they are in counted once. -/
def pageBytes (held : Finset String) : List SegmentRecord → Nat
  | [] => 0
  | record :: records => record.cost held + pageBytes (record.hold held) records

/-- What a page has used and which frames it holds. -/
structure PageState where
  budget : PageBudget
  held : Finset String

namespace PageState

def new (limitBytes : Nat) : PageState := { budget := .new limitBytes, held := ∅ }

def admits (state : PageState) (record : SegmentRecord) : Option PageState :=
  (state.budget.admits (record.cost state.held)).map
    ({ budget := ·, held := record.hold state.held })

end PageState

lemma PageBudget.admits_eq_some {budget next : PageBudget} :
    budget.admits bytes = some next ↔
      (budget.admitted = true → budget.used + bytes ≤ budget.limit) ∧
        next = { used := budget.used + bytes, limit := budget.limit, admitted := true } := by
  rw [admits]
  split_ifs with h
  · exact iff_of_false nofun fun ho => absurd (ho.1 h.1) (by omega)
  · rw [Option.some.injEq, eq_comm]
    refine (and_iff_right fun ha => ?_).symm
    exact Nat.not_lt.mp fun hlt => h ⟨ha, hlt⟩

section Cost

variable {state final next : PageState} {record : SegmentRecord}
  {records taken : List SegmentRecord} {complete : Bool}

lemma PageState.admits_eq_some :
    state.admits record = some next ↔
      (state.budget.admitted = true →
        state.budget.used + record.cost state.held ≤ state.budget.limit) ∧
        next = {
          budget := {
            used := state.budget.used + record.cost state.held
            limit := state.budget.limit
            admitted := true }
          held := record.hold state.held } := by
  rw [admits, Option.map_eq_some_iff]
  constructor
  · rintro ⟨budget, hb, rfl⟩
    obtain ⟨hfits, rfl⟩ := PageBudget.admits_eq_some.mp hb
    exact ⟨hfits, rfl⟩
  · rintro ⟨hfits, rfl⟩
    exact ⟨_, PageBudget.admits_eq_some.mpr ⟨hfits, rfl⟩, rfl⟩

/-- A page that has a record already takes more only while they fit. -/
lemma pageBytes_le (h : Taken PageState.admits state records taken final complete)
    (ha : state.budget.admitted = true) (hused : state.budget.used ≤ state.budget.limit) :
    state.budget.used + pageBytes state.held taken ≤ state.budget.limit := by
  induction h with
  | nil state => exact hused
  | stop records _ => exact hused
  | cons had _ ih =>
    obtain ⟨hfits, rfl⟩ := PageState.admits_eq_some.mp had
    have hrest := ih rfl (hfits ha)
    rw [pageBytes, ← Nat.add_assoc]
    exact hrest

lemma pageBytes_le_or (h : Taken PageState.admits (.new limitBytes) records taken final complete) :
    pageBytes ∅ taken ≤ limitBytes ∨ taken.length = 1 := by
  cases h with
  | nil => exact .inl (Nat.zero_le _)
  | stop records _ => exact .inl (Nat.zero_le _)
  | @cons _ next _ record records taken _ ha hrest =>
    obtain ⟨-, rfl⟩ := PageState.admits_eq_some.mp ha
    by_cases hfits : record.cost ∅ ≤ limitBytes
    · have hb := pageBytes_le hrest rfl (by simpa [PageState.new, PageBudget.new] using hfits)
      left
      simpa [pageBytes, PageState.new, PageBudget.new] using hb
    · -- the first record used up the budget
      right
      cases hrest with
      | nil => rfl
      | stop => rfl
      | cons hnext _ =>
        obtain ⟨hmore, -⟩ := PageState.admits_eq_some.mp hnext
        have hmore := hmore rfl
        simp only [PageState.new, PageBudget.new] at hmore
        omega

lemma PageState.admits_new_ne_none (limitBytes : Nat) (record : SegmentRecord) :
    (PageState.new limitBytes).admits record ≠ none := by
  simp [admits, new, PageBudget.new, PageBudget.admits]

end Cost

/-! ### Reading a slice -/

variable (P) in
/-- A sealed segment holds this record, in what the detail shows of it. -/
structure SealedRecord (reader : SegmentReader) (detail : ReplayDetail) (sequence : Nat)
    (record : SegmentRecord) : Prop where
  read : reader.record P sequence (detail = .summary) = .ok record
  valid : validateEvent record.event reader.conversationId sequence = none
  frame : ∀ frame ∈ record.frame, ∃ wire, reader.wireFrame P frame.entry = .ok wire

/-- A record of a plaintext file, from its offsets. -/
def plainRecord (record : (Nat × Nat) × ConversationEvent) : SegmentRecord where
  event := record.2
  bytes := record.1.2 - record.1.1
  frame := none

variable (P journal detail) in
/-- A slice holds these records. -/
def PartSlice.Holds : PartSlice → List SegmentRecord → Prop
  | .sealed segment first last, records =>
    List.Forall₂ (SealedRecord P (journal.reader segment) detail)
      (List.range' first (last + 1 - first)) records
  | .plain file first offsets, records => ∃ content events,
    journal.plainFile file = some content ∧
    readPlainRecords P journal.conversationId content first offsets = some events ∧
    records = (offsets.zip events).map plainRecord

/-- The frames on a page. -/
def Held (frames : Members) (held : Finset String) : Prop :=
  ∀ id, (frames.get id).isSome ↔ id ∈ held

lemma Held.insert (h : Held frames held) (id : String)
    (frame : Json) : Held (frames.insert id frame) (insert id held) := by
  intro other
  rw [Members.get_insert, Finset.mem_insert]
  split_ifs with heq
  · exact iff_of_true rfl (.inl heq)
  · rw [h other]
    exact (or_iff_right heq).symm

lemma Held.newFrame (h : Held frames held)
    (record : SegmentRecord) : record.newFrame frames = record.frame.filter (·.id ∉ held) := by
  rw [SegmentRecord.newFrame]
  congr 1
  funext frame
  rw [Bool.eq_iff_iff, decide_eq_true_iff, ← h, Option.isNone_iff_eq_none,
    Option.not_isSome_iff_eq_none]

variable {records : List SegmentRecord} {events : List ConversationEvent} {offsets : List (Nat × Nat)}
  {conversationId : String} {first : Nat} {α β : Type} {content : Bytes}

section Slice

variable {budget : PageBudget} {frames : Members} {held : Finset String} {backward : Bool}

lemma exists_addFrame {sequence : Nat}
    (h : SealedRecord P reader detail sequence record) (hheld : Held frames held) :
    ∃ frames', addFrame P reader frames (record.newFrame frames) = .ok frames' ∧ Held frames' (record.hold held) := by
  rw [hheld.newFrame, SegmentRecord.hold]
  cases hf : record.frame with
  | none => exact ⟨frames, rfl, hheld⟩
  | some frame =>
    rw [Option.elim_some]
    by_cases hmem : frame.id ∈ held
    · rw [Option.filter_some, if_neg (by simpa using hmem), Finset.insert_eq_of_mem hmem]
      exact ⟨frames, rfl, hheld⟩
    · obtain ⟨wire, hwire⟩ := h.frame frame hf
      rw [Option.filter_some, if_pos (by simpa using hmem), addFrame, hwire]
      exact ⟨_, rfl, hheld.insert _ _⟩

lemma readSealedRecords_spec {sequences : List Nat}
    (h : List.Forall₂ (SealedRecord P reader detail) sequences records) (hheld : Held frames held) :
    ∃ taken final complete frames',
      readSealedRecords P reader detail budget frames sequences =
        .ok (taken.map (·.event), complete, final.budget, frames') ∧
      Taken PageState.admits { budget, held } records taken final complete ∧ Held frames' final.held := by
  induction h generalizing budget frames held with
  | nil => exact ⟨[], { budget, held }, true, frames, rfl, .nil _, hheld⟩
  | @cons sequence record sequences records hr _ ih =>
    obtain ⟨frames', hf, hheld'⟩ := exists_addFrame hr hheld
    rw [readSealedRecords, hr.read]
    simp only [Except.mapError, ok_bind]
    rw [hf, hheld.newFrame]
    cases ha : budget.admits (record.cost held) with
    | none =>
      refine ⟨[], { budget, held }, false, frames, ?_, ?_, hheld⟩
      · rw [SegmentRecord.cost] at ha
        rw [ha]
        rfl
      · exact .stop _ (by rw [PageState.admits, ha, Option.map_none])
    | some budget' =>
      obtain ⟨taken, final, complete, frames'', hread, ht, hfi⟩ :=
        @ih budget' _ _ hheld'
      refine ⟨record :: taken, final, complete, frames'', ?_, ?_, hfi⟩
      · rw [SegmentRecord.cost] at ha
        rw [ha]
        simp only [ok_bind]
        rw [hr.valid]
        simp only []
        rw [hread]
        rfl
      · exact .cons (by rw [PageState.admits, ha, Option.map_some]) ht

/-- Records without frames are taken as long as their sizes are admitted. -/
lemma taken_admitWhile (held : Finset String) {records : List SegmentRecord}
    (hp : ∀ record ∈ records, record.frame = none) : Taken PageState.admits { budget, held } records
        (records.take (budget.admitWhile (records.map (·.bytes))).1)
        { budget := (budget.admitWhile (records.map (·.bytes))).2, held }
        (decide ((budget.admitWhile (records.map (·.bytes))).1 = records.length)) ∧
      (budget.admitWhile (records.map (·.bytes))).1 ≤ records.length := by
  induction records generalizing budget with
  | nil => exact ⟨.nil _, Nat.le_refl _⟩
  | cons record records ih =>
    have hf : record.frame = none := hp record List.mem_cons_self
    have hcost : record.cost held = record.bytes := by rw [SegmentRecord.cost, hf]; rfl
    have hhold : record.hold held = held := by rw [SegmentRecord.hold, hf]; rfl
    rw [List.map_cons, PageBudget.admitWhile]
    cases ha : budget.admits record.bytes with
    | none =>
      refine ⟨?_, Nat.zero_le _⟩
      exact .stop _ (by rw [PageState.admits, hcost, ha, Option.map_none])
    | some budget' =>
      obtain ⟨ht, hle⟩ := @ih budget' fun other ho =>
        hp other (List.mem_cons_of_mem _ ho)
      constructor
      · simp only [List.take_succ_cons, List.length_cons, Nat.add_right_cancel_iff]
        exact .cons (by rw [PageState.admits, hcost, ha, Option.map_some, hhold]) ht
      · exact Nat.succ_le_succ hle

lemma readPlainRecords_append (before after : List (Nat × Nat)) :
    readPlainRecords P conversationId content first (before ++ after) = do
      let events ← readPlainRecords P conversationId content first before
      return events ++ (← readPlainRecords P conversationId content (first + before.length) after) := by
  induction before generalizing first with
  | nil => simp [readPlainRecords]
  | cons offset before ih =>
    obtain ⟨start, stop⟩ := offset
    rw [List.cons_append, readPlainRecords, readPlainRecords, ih, List.length_cons]
    have hf : first + 1 + before.length = first + (before.length + 1) := by omega
    rw [hf]
    cases decodeJournalRecord P (content.slice start stop).trimAscii conversationId with
    | none => rfl
    | some event =>
      simp only [Option.bind_eq_bind, Option.bind_some]
      split_ifs
      · simp [Option.bind_assoc]
      · rfl

lemma sequences_of_readPlainRecords (h : readPlainRecords P conversationId content first offsets = some events) :
    events.map (·.sequence) = List.range' first offsets.length := by
  induction offsets generalizing first events with
  | nil =>
    cases h
    rfl
  | cons offset offsets ih =>
    obtain ⟨start, stop⟩ := offset
    rw [readPlainRecords] at h
    obtain ⟨event, -, h⟩ := Option.bind_eq_some_iff.mp h
    split_ifs at h with hv
    obtain ⟨rest, hrest, h⟩ := Option.bind_eq_some_iff.mp h
    cases h
    rw [List.map_cons, ih hrest, sequence_of_validateEvent hv, List.length_cons,
      List.range'_succ]

lemma length_of_readPlainRecords (h : readPlainRecords P conversationId content first offsets = some events) :
    events.length = offsets.length := by
  simpa using congrArg List.length (sequences_of_readPlainRecords h)

lemma readPlainRecords_slice {lo count : Nat}
    (h : readPlainRecords P conversationId content first offsets = some events)
    (hc : lo + count ≤ offsets.length) :
    readPlainRecords P conversationId content (first + lo) ((offsets.drop lo).take count) =
      some ((events.drop lo).take count) := by
  have hs : offsets = offsets.take lo ++ ((offsets.drop lo).take count ++
      (offsets.drop lo).drop count) := by
    rw [List.take_append_drop, List.take_append_drop]
  have hlo : (offsets.take lo).length = lo := List.length_take_of_le (by omega)
  rw [hs, readPlainRecords_append, readPlainRecords_append, hlo] at h
  obtain ⟨before, hb, h⟩ := Option.bind_eq_some_iff.mp h
  obtain ⟨rest, hrest, h⟩ := Option.bind_eq_some_iff.mp h
  obtain ⟨middle, hm, hrest⟩ := Option.bind_eq_some_iff.mp hrest
  obtain ⟨after, -, hrest⟩ := Option.bind_eq_some_iff.mp hrest
  cases h
  cases hrest
  have hl : before.length = lo := (length_of_readPlainRecords hb).trans hlo
  have hml : middle.length = count := by
    rw [length_of_readPlainRecords hm, List.length_take, List.length_drop]
    omega
  rw [hm, List.drop_left' hl, List.take_left' hml]

lemma map_event_plainRecord (h : events.length = offsets.length) :
    ((offsets.zip events).map plainRecord).map (·.event) = events := by
  rw [List.map_map]
  exact List.map_snd_zip (Nat.le_of_eq h)

lemma map_bytes_plainRecord (h : events.length = offsets.length) :
    ((offsets.zip events).map plainRecord).map (·.bytes) = offsets.map fun offset => offset.2 - offset.1 := by
  have hfst := congrArg (List.map fun offset => offset.2 - offset.1)
    (List.map_fst_zip (Nat.le_of_eq h.symm))
  rw [List.map_map] at hfst ⊢
  exact hfst

@[simp] lemma map_ordered (f : α → β) (items : List α) :
    (ordered backward items).map f = ordered backward (items.map f) := by
  cases backward with
  | false => rfl
  | true => exact List.map_reverse

@[simp] lemma length_ordered (items : List α) : (ordered backward items).length = items.length := by
  cases backward with
  | false => rfl
  | true => exact List.length_reverse

@[simp] lemma ordered_ordered (items : List α) : ordered backward (ordered backward items) = items := by
  cases backward with
  | false => rfl
  | true => exact List.reverse_reverse items

lemma mem_ordered : a ∈ ordered backward items ↔ a ∈ items := by
  cases backward with
  | false => rfl
  | true => exact List.mem_reverse

lemma ordered_take_ordered (items : List α) (h : count ≤ items.length) :
    ordered backward ((ordered backward items).take count) =
      (items.drop (if backward then items.length - count else 0)).take count := by
  cases backward with
  | false => rfl
  | true =>
    have hl : (items.drop (items.length - count)).length ≤ count := by
      rw [List.length_drop]
      omega
    simp only [ordered, if_true]
    rw [List.take_reverse, List.reverse_reverse, List.take_of_length_le hl]

lemma readPlainSlice_spec {file : Nat} (h : PartSlice.Holds P journal detail (.plain file first offsets) records)
    (held : Finset String) :
    ∃ taken final complete,
      readPlainSlice P journal file first offsets backward budget =
        .ok (ordered backward (taken.map (·.event)), complete, final) ∧
      Taken PageState.admits { budget, held } (ordered backward records) taken
        { budget := final, held } complete := by
  obtain ⟨content, events, hco, he, rfl⟩ := h
  have hl := length_of_readPlainRecords he
  have hrecords : ((offsets.zip events).map plainRecord).length = offsets.length := by
    rw [List.length_map, List.length_zip, hl, Nat.min_self]
  have hp : ∀ record ∈ ordered backward ((offsets.zip events).map plainRecord),
      record.frame = none := by
    intro record hr
    obtain ⟨_, -, rfl⟩ := List.mem_map.mp (mem_ordered.mp hr)
    rfl
  obtain ⟨ht, hc⟩ := @taken_admitWhile budget held _ hp
  rw [map_ordered, map_bytes_plainRecord hl, length_ordered, hrecords] at ht hc
  rw [readPlainSlice]
  dsimp only
  generalize budget.admitWhile _ = result at ht hc ⊢
  obtain ⟨count, final⟩ := result
  refine ⟨_, final, _, ?_, ht⟩
  dsimp only at hc ⊢
  rw [List.map_take, map_ordered, map_event_plainRecord hl,
    ordered_take_ordered events (hl ▸ hc), hl]
  by_cases hzero : count = 0
  · rw [if_pos hzero, hzero, List.take_zero]
  · rw [if_neg hzero, hco, Option.bind_some,
      readPlainRecords_slice he (by split_ifs <;> omega)]

lemma forall₂_ordered
    (h : List.Forall₂ R l l') : List.Forall₂ R (ordered backward l) (ordered backward l') := by
  cases backward with
  | false => exact h
  | true => exact List.forall₂_reverse_iff.mpr h

lemma readSlice_spec (h : slice.Holds P journal detail records) (hheld : Held frames held) :
    ∃ taken final complete frames',
      readSlice P journal backward detail budget frames slice =
        .ok (ordered backward (taken.map (·.event)), complete, final.budget, frames') ∧
      Taken PageState.admits { budget, held } (ordered backward records) taken final complete ∧
      Held frames' final.held := by
  cases slice with
  | plain file first offsets =>
    obtain ⟨taken, final, complete, hread, ht⟩ := readPlainSlice_spec h held
    refine ⟨taken, { budget := final, held }, complete, frames, ?_, ht, hheld⟩
    rw [readSlice, hread]
    rfl
  | sealed segment first last =>
    obtain ⟨taken, final, complete, frames', hread, ht, hf⟩ :=
      readSealedRecords_spec (forall₂_ordered h) hheld
    refine ⟨taken, final, complete, frames', ?_, ht, hf⟩
    rw [readSlice, readSealedSlice]
    dsimp only
    rw [hread]
    rfl

lemma readSlices_spec
    (h : List.Forall₂ (PartSlice.Holds P journal detail) slices chunks) (hheld : Held frames held) :
    ∃ taken final complete events frames',
      readSlices P journal backward detail budget frames slices = .ok (events, frames') ∧
      (events.map (ordered backward)).flatten = taken.map (·.event) ∧
      Taken PageState.admits { budget, held } (chunks.map (ordered backward)).flatten taken final complete := by
  induction h generalizing budget frames held with
  | nil => exact ⟨[], { budget, held }, true, [], frames, rfl, rfl, .nil _⟩
  | @cons slice records slices chunks hs _ ih =>
    obtain ⟨taken, next, complete, frames', hread, ht, hheld'⟩ := readSlice_spec hs hheld
    rw [readSlices, hread, ok_bind]
    cases complete with
    | true =>
      obtain ⟨taken', final, complete, events, frames'', hrest, he, ht'⟩ :=
        @ih next.budget _ _ hheld'
      refine ⟨taken ++ taken', final, complete,
        ordered backward (taken.map (·.event)) :: events, frames'', ?_, ?_, ht.append ht'⟩
      · dsimp only
        rw [if_pos rfl, hrest]
        rfl
      · rw [List.map_cons, List.flatten_cons, ordered_ordered, he, List.map_append]
    | false =>
      refine ⟨taken, next, false, [ordered backward (taken.map (·.event))], frames', rfl, ?_, ?_⟩
      · rw [List.map_singleton, List.flatten_singleton, ordered_ordered]
      · exact ht.append_of_stop _

end Slice

/-! ### The records of a journal -/

/-- A part as a slice of its own. -/
def IndexPart.whole : IndexPart → PartSlice
  | .sealed segment => .sealed segment segment.first segment.last
  | .plain file first offsets => .plain file first offsets

variable (P journal detail) in
/-- The parts of an index hold these records, which have consecutive sequences from `expected`
on. -/
inductive HoldRecords : Nat → List IndexPart → List SegmentRecord → Prop
  | nil (expected : Nat) : HoldRecords expected [] []
  | cons {part : IndexPart} {parts : List IndexPart} {records rest : List SegmentRecord} :
      part.whole.Holds P journal detail records → records.length = part.count →
      HoldRecords (part.first + part.count) parts rest →
      HoldRecords part.first (part :: parts) (records ++ rest)

lemma take_range' (first length count : Nat) :
    (List.range' first length).take count = List.range' first (min count length) :=
  List.ext_getElem (by simp) (by simp)

lemma IndexPart.between_holds {part : IndexPart}
    (h : part.whole.Holds P journal detail records) (hco : records.length = part.count)
    (hlo : part.first ≤ lo) (hle : lo ≤ hi) (hhi : hi < part.first + part.count) :
    (part.between lo hi).Holds P journal detail ((records.take (hi - part.first + 1)).drop (lo - part.first)) := by
  cases part with
  | sealed segment =>
    have hr : ((List.range' segment.first (segment.last + 1 - segment.first)).take
        (hi - segment.first + 1)).drop (lo - segment.first) = List.range' lo (hi + 1 - lo) := by
      have hl := List.Forall₂.length_eq h
      rw [List.length_range', hco] at hl
      simp only [IndexPart.first, IndexPart.count] at hlo hhi hl
      rw [take_range', List.drop_range']
      congr 1 <;> omega
    have hp := List.forall₂_drop (lo - segment.first)
      (List.forall₂_take (hi - segment.first + 1) h)
    rw [hr] at hp
    exact hp
  | plain file first offsets =>
    obtain ⟨content, events, hc, he, rfl⟩ := h
    simp only [IndexPart.first, IndexPart.count] at hlo hhi ⊢
    have hread := readPlainRecords_slice he
      (show lo - first + (hi - first + 1 - (lo - first)) ≤ offsets.length by omega)
    rw [Nat.add_sub_cancel' hlo, ← List.drop_take, ← List.drop_take] at hread
    refine ⟨content, _, hc, hread, ?_⟩
    rw [← List.map_take, ← List.map_drop, List.zip, List.take_zipWith, List.drop_zipWith]

lemma IndexPart.slice_spec {part : IndexPart}
    (h : part.whole.Holds P journal detail records) (hc : records.length = part.count) (lo hi : Nat) :
    match part.slice lo hi with
    | none => (records.take (hi + 1 - part.first)).drop (lo - part.first) = []
    | some slice => slice.Holds P journal detail
        ((records.take (hi + 1 - part.first)).drop (lo - part.first)) := by
  rw [IndexPart.slice]
  split_ifs with he
  · dsimp only
    rw [List.drop_eq_nil_iff, List.length_take]
    omega
  · dsimp only
    rw [not_or, Nat.not_lt] at he
    have hp := between_holds h hc (Nat.le_max_left part.first lo) he.2 (by omega)
    have htake : records.take (min (part.first + part.count - 1) hi - part.first + 1) =
        records.take (hi + 1 - part.first) := by
      rw [List.take_eq_take_iff, hc]
      omega
    have hdrop : max part.first lo - part.first = lo - part.first := by omega
    rwa [htake, hdrop] at hp

lemma IndexPart.sequences {part : IndexPart} (h : part.whole.Holds P journal detail records) :
    records.map (·.event.sequence) = List.range' part.first records.length := by
  cases part with
  | sealed segment =>
    have hl := List.Forall₂.length_eq h
    rw [List.length_range'] at hl
    rw [← hl, IndexPart.first, ← List.forall₂_eq_eq_eq, List.forall₂_map_left_iff]
    exact (h.imp fun _ _ hr => sequence_of_validateEvent hr.valid).flip
  | plain file first offsets =>
    obtain ⟨content, events, -, he, rfl⟩ := h
    have hl := length_of_readPlainRecords he
    have hmap := map_event_plainRecord hl
    have hs := sequences_of_readPlainRecords he
    rw [← hl, ← hmap, List.map_map, List.length_map] at hs
    exact hs

section Records

variable {expected : Nat} {parts : List IndexPart} {records : List SegmentRecord}

lemma HoldRecords.total (h : HoldRecords P journal detail expected parts records) :
    indexTotal parts = records.length := by
  induction h with
  | nil => rfl
  | cons _ hc _ ih =>
    rw [indexTotal, List.map_cons, List.sum_cons, List.length_append, hc, ← ih, indexTotal]

lemma HoldRecords.sequences (h : HoldRecords P journal detail expected parts records) :
    records.map (·.event.sequence) = List.range' expected records.length := by
  induction h with
  | nil => rfl
  | cons hpart hc _ ih =>
    rw [List.map_append, List.length_append, ih, IndexPart.sequences hpart, ← hc,
      ← List.range'_append_1]

/-- The slices of an index hold the records between two sequences. -/
lemma HoldRecords.slices (h : HoldRecords P journal detail expected parts records) (lo hi : Nat) :
    ∃ chunks, List.Forall₂ (PartSlice.Holds P journal detail)
        (parts.filterMap (IndexPart.slice lo hi)) chunks ∧
      chunks.flatten = (records.take (hi + 1 - expected)).drop (lo - expected) := by
  induction h with
  | nil => exact ⟨[], .nil, by simp⟩
  | @cons part parts records rest hpart hco _ ih =>
    obtain ⟨chunks, hc, hf⟩ := ih
    have hsp : ((records ++ rest).take (hi + 1 - part.first)).drop (lo - part.first) =
        (records.take (hi + 1 - part.first)).drop (lo - part.first) ++ chunks.flatten := by
      rw [hf, List.take_append, List.drop_append, List.length_take, hco, ← Nat.sub_sub,
        ← Nat.sub_sub]
      by_cases hrest : hi + 1 - part.first ≤ part.count
      · rw [Nat.sub_eq_zero_of_le hrest, List.take_zero, List.drop_nil, List.drop_nil]
      · rw [Nat.min_eq_right (Nat.le_of_not_le hrest)]
    have hs := IndexPart.slice_spec hpart hco lo hi
    rw [hsp]
    cases hp : part.slice lo hi with
    | none =>
      rw [hp] at hs
      rw [List.filterMap_cons_none hp, hs, List.nil_append]
      exact ⟨chunks, hc, rfl⟩
    | some slice =>
      rw [hp] at hs
      rw [List.filterMap_cons_some hp]
      exact ⟨_ :: chunks, .cons hs hc, rfl⟩

end Records

/-! ### Reading a page -/

section Page

variable {records : List SegmentRecord} {limitBytes start stop : Nat} {anchor : PageAnchor}

lemma exists_attachCopiedFrames (hcopied : ∀ id, ∃ frame, journal.copiedFrame id = .ok frame)
    (detail : ReplayDetail) (frames : Members) (events : List ConversationEvent) :
    ∃ frames', attachCopiedFrames journal detail frames events = .ok frames' := by
  induction events generalizing frames with
  | nil => exact ⟨frames, rfl⟩
  | cons event events ih =>
    have hadd (ids : List String) : ∃ frames', addCopiedFrame journal frames ids = .ok frames' := by
      induction ids with
      | nil => exact ⟨frames, rfl⟩
      | cons id ids ihids =>
        rw [addCopiedFrame]
        split_ifs
        · exact ⟨frames, rfl⟩
        · obtain ⟨frame, hfr⟩ := hcopied id
          rw [hfr, ok_bind]
          cases frame with
          | none => exact ihids
          | some frame => exact ⟨_, rfl⟩
    obtain ⟨frames', hf⟩ := hadd (copiedFrameIds detail event)
    rw [attachCopiedFrames, hf, ok_bind]
    exact ih frames'

lemma map_ordered_map_ordered (backward : Bool) (chunks : List (List α)) :
    (chunks.map (ordered backward)).map (ordered backward) = chunks := by
  rw [List.map_map]
  exact List.map_id'' ordered_ordered chunks

lemma flatten_ordered (backward : Bool) (chunks : List (List α)) :
    (ordered backward chunks).flatten = ordered backward (chunks.map (ordered backward)).flatten := by
  cases backward with
  | false => exact congrArg List.flatten (List.map_id chunks).symm
  | true =>
    have hmap : (chunks.map (ordered true)).map List.reverse = chunks :=
      map_ordered_map_ordered true chunks
    change chunks.reverse.flatten = (chunks.map (ordered true)).flatten.reverse
    rw [List.reverse_flatten, hmap]

variable (hrecords : HoldRecords P journal detail 1 journal.parts records)
  (hcopied : ∀ id, ∃ frame, journal.copiedFrame id = .ok frame)

include hrecords hcopied

variable (anchor) in
/-- A window of records is read from one of its ends until the budget is used up. -/
lemma readWindow_spec (hlt : start < stop) :
    ∃ taken final complete page,
      readWindow P journal limitBytes start stop anchor detail = .ok page ∧ Taken PageState.admits (.new limitBytes)
        (ordered anchor.backward ((records.take stop).drop start)) taken final complete ∧
      page.events = ordered anchor.backward (taken.map (·.event)) ∧
      page.start = (match anchor with | .start => start | .stop => stop - taken.length) ∧
      page.stop = (match anchor with | .start => start + taken.length | .stop => stop) := by
  obtain ⟨chunks, hc, hf⟩ := hrecords.slices (start + 1) stop
  have hheld : Held [] ∅ := fun id => iff_of_false nofun (Finset.notMem_empty id)
  obtain ⟨taken, final, complete, pieces, frames, hread, he, ht⟩ :=
    @readSlices_spec P journal detail (.new limitBytes) [] ∅ anchor.backward _ _
      (forall₂_ordered hc) hheld
  have hw : ((ordered anchor.backward chunks).map (ordered anchor.backward)).flatten =
      ordered anchor.backward ((records.take stop).drop start) := by
    rw [map_ordered, flatten_ordered, map_ordered_map_ordered, hf]
    rfl
  rw [hw] at ht
  have hp : (ordered anchor.backward pieces).flatten =
      ordered anchor.backward (taken.map (·.event)) := by
    rw [← he, flatten_ordered]
  obtain ⟨frames', hfr⟩ := exists_attachCopiedFrames hcopied detail frames
    (ordered anchor.backward (taken.map (·.event)))
  refine ⟨taken, final, complete, ?_⟩
  rw [readWindow, if_neg (Nat.not_le.mpr hlt)]
  dsimp only
  rw [indexSlices, hread, ok_bind]
  dsimp only
  rw [hp, hfr]
  cases anchor with
  | start => exact ⟨_, rfl, ht, rfl, rfl, by simp⟩
  | stop => exact ⟨_, rfl, ht, rfl, by simp, rfl⟩

variable (anchor) in
lemma exists_page (hlt : start < stop)
    (hstop : stop ≤ records.length) (limitBytes : Nat) :
    ∃ piece page, readWindow P journal limitBytes start stop anchor detail = .ok page ∧
      page.events = piece.map (·.event) ∧ piece ≠ [] ∧ piece.length ≤ stop - start ∧
      (pageBytes ∅ (ordered anchor.backward piece) ≤ limitBytes ∨ piece.length = 1) ∧
      piece = (records.drop page.start).take piece.length ∧
      page.start = (match anchor with | .start => start | .stop => stop - piece.length) ∧
      page.stop = page.start + piece.length := by
  obtain ⟨taken, final, complete, page, hread, ht, he, hs, hend⟩ :=
    readWindow_spec anchor hrecords hcopied hlt
  have hl : ((records.take stop).drop start).length = stop - start := by
    rw [List.length_drop, List.length_take, Nat.min_eq_left hstop]
  have hw : ordered anchor.backward ((records.take stop).drop start) ≠ [] := by
    rw [← List.length_pos_iff, length_ordered, hl]
    omega
  have hne := ht.ne_nil hw (PageState.admits_new_ne_none limitBytes)
  have hc : taken.length ≤ stop - start := by
    have hle := ht.isPrefix.length_le
    rwa [length_ordered, hl] at hle
  have hp := congrArg (ordered anchor.backward) (List.prefix_iff_eq_take.mp ht.isPrefix)
  rw [ordered_take_ordered _ (hl ▸ hc), hl] at hp
  refine ⟨ordered anchor.backward taken, page, hread, ?_, ?_, ?_, ?_, ?_, ?_, ?_⟩
  · rw [he, map_ordered]
  · rwa [← List.length_pos_iff, length_ordered, List.length_pos_iff]
  · rwa [length_ordered]
  · rw [ordered_ordered, length_ordered]
    exact pageBytes_le_or ht
  · rw [length_ordered, hp, hs, List.drop_drop, List.drop_take, List.take_take]
    cases anchor with
    | start => rw [Nat.min_eq_left (by simpa [PageAnchor.backward] using hc)]; rfl
    | stop =>
      have hf : start + (stop - start - taken.length) = stop - taken.length := by omega
      simp only [PageAnchor.backward, if_true]
      rw [hf, Nat.min_eq_left (by omega)]
  · rw [hs, length_ordered]
  · rw [hend, hs, length_ordered]
    cases anchor with
    | start => rfl
    | stop => dsimp only; omega

end Page

/-! ### Following pages -/

/-- A page of at most `limit` records: a piece of the history that stays within the byte budget or
is a single record. More is only announced by a page that has some. -/
structure PageOf (records : List SegmentRecord) (anchor : PageAnchor) (limitBytes limit : Nat)
    (page : ConversationReplay) : Prop where
  nonempty : page.hasMore = true → page.events ≠ []
  length_le : page.events.length ≤ limit
  fits : ∃ taken, taken <:+: records ∧ page.events = taken.map (·.event) ∧
    (pageBytes ∅ (ordered anchor.backward taken) ≤ limitBytes ∨ taken.length = 1)

section Follow

variable (P : Primitives) (repair : PageRepair) (limitBytes limit : Nat) (journal : IndexedJournal)
  (detail : ReplayDetail)

/-- Pages from a sequence on, each asked for with the next sequence of the one before. -/
inductive PagesAfter : Nat → List ConversationReplay → Prop
  | last {afterSequence : Nat} {page : ConversationReplay} :
      replayDetail P repair limitBytes journal afterSequence limit detail = .ok page →
      page.hasMore = false → PagesAfter afterSequence [page]
  | more {afterSequence : Nat} {page : ConversationReplay} {pages : List ConversationReplay} :
      replayDetail P repair limitBytes journal afterSequence limit detail = .ok page →
      page.hasMore = true → PagesAfter page.nextSequence pages →
      PagesAfter afterSequence (page :: pages)

/-- Pages back from a sequence, each asked for with the first sequence of the one before. -/
inductive PagesBefore : Nat → List ConversationReplay → Prop
  | last {beforeSequence : Nat} {page : ConversationReplay} :
      replayBeforeDetail P repair limitBytes journal beforeSequence limit detail = .ok page →
      page.hasMore = false → PagesBefore beforeSequence [page]
  | more {beforeSequence : Nat} {page : ConversationReplay} {pages : List ConversationReplay} :
      replayBeforeDetail P repair limitBytes journal beforeSequence limit detail = .ok page →
      page.hasMore = true → PagesBefore page.fromSequence pages →
      PagesBefore beforeSequence (page :: pages)

variable {P repair limitBytes limit journal detail} {records : List SegmentRecord}

lemma readIndexedPage_of_readWindow (hw : window (indexTotal journal.parts) = (start, stop))
    (hle : start ≤ stop) (hstop : stop ≤ indexTotal journal.parts)
    (h : readWindow P journal limitBytes start stop anchor detail = .ok page) (retries : Nat) :
    readIndexedPage P repair limitBytes anchor detail window retries journal = .ok (page, journal) := by
  unfold readIndexedPage
  dsimp only
  rw [hw]
  dsimp only
  rw [Nat.min_eq_left hle, Nat.min_eq_left hstop, h]
  cases retries <;> rfl

/-- A page that was read through the index is one of the history. -/
lemma pageOf_of_exists_page (he : page.events = piece.map (·.event))
    (hne : piece ≠ []) (hl : piece.length ≤ limit)
    (hfits : pageBytes ∅ (ordered anchor.backward piece) ≤ limitBytes ∨ piece.length = 1)
    (hp : piece = (records.drop start).take piece.length) : PageOf records anchor limitBytes limit page where
  nonempty := fun _ => by simpa [he] using hne
  length_le := by rwa [he, List.length_map]
  fits := by
    refine ⟨piece, ?_, he, hfits⟩
    rw [hp]
    exact (List.take_prefix _ _).isInfix.trans (List.drop_suffix _ _).isInfix

/-- An empty page at the end of the history. -/
lemma pageOf_nil (he : page.events = [])
    (hmore : page.hasMore = false) : PageOf records anchor limitBytes limit page where
  nonempty := fun h => absurd (h.symm.trans hmore) (by decide)
  length_le := by rw [he]; exact Nat.zero_le _
  fits := by
    refine ⟨[], List.nil_infix, he, .inl ?_⟩
    cases anchor <;> exact Nat.zero_le _

lemma le_clampLimit (hl : 1 ≤ limit) : 1 ≤ clampLimit limit ∧ clampLimit limit ≤ limit := by
  rw [clampLimit, maxReplayLimit]
  omega

variable (hrecords : HoldRecords P journal detail 1 journal.parts records)

include hrecords

lemma nextSequence_of_piece (hne : piece ≠ []) (hp : piece = (records.drop start).take piece.length)
    (afterSequence : Nat) :
    (piece.map (·.event)).getLast?.elim afterSequence (·.sequence) = start + piece.length := by
  have hs : piece.map (·.event.sequence) = List.range' (start + 1) piece.length := by
    have hmap := congrArg (List.map (·.event.sequence)) hp
    rw [List.map_take, List.map_drop, hrecords.sequences, List.drop_range', take_range'] at hmap
    have hl := congrArg List.length hmap
    rw [List.length_map, List.length_range'] at hl
    rw [hmap, ← hl]
    congr 1
    omega
  have hlast := congrArg List.getLast? hs
  rw [List.getLast?_map, List.getLast?_range'] at hlast
  cases hr : piece.getLast? with
  | none => exact absurd (List.getLast?_eq_none_iff.mp hr) hne
  | some record =>
    rw [hr, if_neg (by simpa using hne)] at hlast
    rw [List.getLast?_map, hr]
    have hse := Option.some.inj hlast
    have hc := List.length_pos_iff.mpr hne
    simp only [Option.map_some, Option.elim_some] at hse ⊢
    omega

variable (hcopied : ∀ id, ∃ frame, journal.copiedFrame id = .ok frame)

include hcopied

variable (repair limitBytes) in
lemma exists_page_after (hl : 1 ≤ limit)
    (ha : afterSequence < records.length) :
    ∃ page count, replayDetail P repair limitBytes journal afterSequence limit detail = .ok page ∧
      0 < count ∧ afterSequence + count ≤ records.length ∧
      page.events = ((records.drop afterSequence).take count).map (·.event) ∧
      page.nextSequence = afterSequence + count ∧
      page.hasMore = decide (afterSequence + count < records.length) ∧
      PageOf records .start limitBytes limit page := by
  obtain ⟨hpos, hcl⟩ := le_clampLimit hl
  have hw : windowAfter afterSequence (clampLimit limit) (indexTotal journal.parts) =
      (afterSequence, min (afterSequence + clampLimit limit) records.length) := by
    rw [windowAfter, hrecords.total, Nat.min_eq_left (Nat.le_of_lt ha)]
  obtain ⟨piece, page, hread, he, hne, hle, hfits, hp, hs, hstop⟩ :=
    exists_page .start hrecords hcopied
      (show afterSequence < min (afterSequence + clampLimit limit) records.length by omega)
      (Nat.min_le_right _ _) limitBytes
  have hpage := @readIndexedPage_of_readWindow P repair _ _ _ _ _ _ _ _ hw (by omega)
    (hrecords.total ▸ Nat.min_le_right _ _) hread 2
  dsimp only at hs
  rw [hs] at hp hstop
  have hc := List.length_pos_iff.mpr hne
  refine ⟨page.replayAfter afterSequence (indexTotal journal.parts), piece.length, ?_, hc,
    by omega, ?_, ?_, ?_, ?_⟩
  · rw [replayDetail, hpage, ok_bind]
    rfl
  · rw [← hp]
    exact he
  · rw [IndexedPage.replayAfter, he]
    exact nextSequence_of_piece hrecords hne hp afterSequence
  · rw [IndexedPage.replayAfter, hstop, hrecords.total]
  · exact pageOf_of_exists_page he hne (by omega) hfits hp

variable (repair limitBytes) in
lemma exists_page_before (hl : 1 ≤ limit)
    (hb : 0 < min beforeSequence records.length) :
    ∃ page count, replayBeforeDetail P repair limitBytes journal beforeSequence limit detail =
        .ok page ∧
      0 < count ∧ page.fromSequence + count = min beforeSequence records.length ∧
      page.events = ((records.drop page.fromSequence).take count).map (·.event) ∧
      page.hasMore = decide (0 < page.fromSequence) ∧ PageOf records .stop limitBytes limit page := by
  obtain ⟨hpos, hcl⟩ := le_clampLimit hl
  have hw : windowBefore beforeSequence (clampLimit limit) (indexTotal journal.parts) =
      (min beforeSequence records.length - clampLimit limit, min beforeSequence records.length) := by
    rw [windowBefore, hrecords.total]
  obtain ⟨piece, page, hread, he, hne, hle, hfits, hp, hs, hstop⟩ :=
    exists_page .stop hrecords hcopied
      (show min beforeSequence records.length - clampLimit limit <
        min beforeSequence records.length by omega)
      (Nat.min_le_right _ _) limitBytes
  have hpage := @readIndexedPage_of_readWindow P repair _ _ _ _ _ _ _ _ hw (by omega)
    (hrecords.total ▸ Nat.min_le_right _ _) hread 2
  dsimp only at hs
  have hc := List.length_pos_iff.mpr hne
  refine ⟨page.replayBefore beforeSequence, piece.length, ?_, hc, ?_, ?_, rfl, ?_⟩
  · rw [replayBeforeDetail, hpage, ok_bind]
    rfl
  · change page.start + piece.length = _
    omega
  · rw [IndexedPage.replayBefore, ← hp]
    exact he
  · exact pageOf_of_exists_page he hne (by omega) hfits hp

lemma exists_pagesAfter (hl : 1 ≤ limit) (afterSequence : Nat) :
    ∃ pages, PagesAfter P repair limitBytes limit journal detail afterSequence pages ∧
      pages.flatMap (·.events) = (records.drop afterSequence).map (·.event) ∧
      ∀ page ∈ pages, PageOf records .start limitBytes limit page := by
  induction hleft : records.length - afterSequence using Nat.strong_induction_on
    generalizing afterSequence with
  | _ left ih =>
    by_cases ha : afterSequence < records.length
    · obtain ⟨page, count, hpage, hc, hle, he, hnext, hmore, hof⟩ :=
        exists_page_after repair limitBytes hrecords hcopied hl ha
      by_cases hlast : afterSequence + count < records.length
      · obtain ⟨pages, hp, hrest, hall⟩ := ih (records.length - (afterSequence + count))
          (by omega) (afterSequence + count) rfl
        refine ⟨page :: pages, .more hpage (by rw [hmore]; exact decide_eq_true hlast)
          (hnext ▸ hp), ?_, ?_⟩
        · rw [List.flatMap_cons, he, hrest, ← List.map_append, ← List.drop_drop,
            List.take_append_drop]
        · exact List.forall_mem_cons.mpr ⟨hof, hall⟩
      · refine ⟨[page], .last hpage (by rw [hmore]; exact decide_eq_false hlast), ?_, ?_⟩
        · rw [List.flatMap_singleton, he, List.take_of_length_le]
          rw [List.length_drop]
          omega
        · exact List.forall_mem_singleton.mpr hof
    · -- nothing is left
      rw [Nat.not_lt] at ha
      have hw : windowAfter afterSequence (clampLimit limit) (indexTotal journal.parts) =
          (records.length, records.length) := by
        rw [windowAfter, hrecords.total, Nat.min_eq_right ha,
          Nat.min_eq_right (Nat.le_add_right _ _)]
      have hread : readWindow P journal limitBytes records.length records.length .start detail =
          .ok { start := records.length, stop := records.length, events := [], frames := [] } := by
        rw [readWindow, if_pos (Nat.le_refl _)]
      have hpage := @readIndexedPage_of_readWindow P repair _ _ _ _ _ _ _ _ hw
        (Nat.le_refl _) (Nat.le_of_eq hrecords.total.symm) hread 2
      have hmore : decide (records.length < indexTotal journal.parts) = false := by
        rw [hrecords.total]
        exact decide_eq_false (Nat.lt_irrefl _)
      refine ⟨_, .last (by rw [replayDetail, hpage, ok_bind]; rfl) hmore, ?_, ?_⟩
      · rw [List.drop_eq_nil_of_le ha]
        rfl
      · exact List.forall_mem_singleton.mpr (pageOf_nil rfl hmore)

/-- The pages up to a sequence hold the records up to it, the newest page first. -/
lemma exists_pagesBefore (hl : 1 ≤ limit) (beforeSequence : Nat) :
    ∃ pages, PagesBefore P repair limitBytes limit journal detail beforeSequence pages ∧
      pages.reverse.flatMap (·.events) = (records.take beforeSequence).map (·.event) ∧
      ∀ page ∈ pages, PageOf records .stop limitBytes limit page := by
  induction beforeSequence using Nat.strong_induction_on with
  | _ beforeSequence ih =>
    by_cases hb : 0 < min beforeSequence records.length
    · obtain ⟨page, count, hpage, hc, hfrom, he, hmore, hof⟩ :=
        exists_page_before repair limitBytes hrecords hcopied hl hb
      have htake : records.take beforeSequence = records.take page.fromSequence ++
          (records.drop page.fromSequence).take count := by
        rw [← List.take_add, hfrom, List.take_eq_take_iff]
        omega
      by_cases hlast : 0 < page.fromSequence
      · obtain ⟨pages, hp, hrest, hall⟩ := ih page.fromSequence (by omega)
        refine ⟨page :: pages, .more hpage (by rw [hmore]; exact decide_eq_true hlast) hp,
          ?_, ?_⟩
        · rw [List.reverse_cons, List.flatMap_append, hrest, List.flatMap_singleton, he, htake,
            List.map_append]
        · exact List.forall_mem_cons.mpr ⟨hof, hall⟩
      · refine ⟨[page], .last hpage (by rw [hmore]; exact decide_eq_false hlast), ?_, ?_⟩
        · have hzero : page.fromSequence = 0 := by omega
          rw [hzero] at he htake
          rw [List.reverse_singleton, List.flatMap_singleton, he, htake, List.take_zero,
            List.nil_append]
        · exact List.forall_mem_singleton.mpr hof
    · have hzero : min beforeSequence records.length = 0 := by omega
      have hw : windowBefore beforeSequence (clampLimit limit) (indexTotal journal.parts) =
          (0, 0) := by
        rw [windowBefore, hrecords.total, hzero, Nat.zero_sub]
      have hread : readWindow P journal limitBytes 0 0 .stop detail =
          .ok { start := 0, stop := 0, events := [], frames := [] } := by
        rw [readWindow, if_pos (Nat.le_refl _)]
      have hpage := @readIndexedPage_of_readWindow P repair _ _ _ _ _ _ _ _ hw
        (Nat.le_refl _) (Nat.zero_le _) hread 2
      refine ⟨_, .last (by rw [replayBeforeDetail, hpage, ok_bind]; rfl) rfl, ?_, ?_⟩
      · have hnil : records.take beforeSequence = [] := by
          rw [← List.length_eq_zero_iff, List.length_take, hzero]
        rw [hnil]
        rfl
      · exact List.forall_mem_singleton.mpr (pageOf_nil rfl rfl)

end Follow

/-! ### Valid journals -/

section Valid

variable (P journal) in
/-- A journal the validating scan finds clean, whose sealed segments and copied frames can be
read. -/
structure IndexedJournal.Valid : Prop where
  scanned : validateJournal P journal.conversationId journal.files = .ok (some journal.parts)
  /-- The index of a segment passed its checks. -/
  loaded : ∀ segment, .sealed segment ∈ journal.parts →
    ∃ body, SealedSegment.fromBody segment.number body = .ok segment
  records : ∀ segment, .sealed segment ∈ journal.parts → ∀ detail sequence,
    segment.first ≤ sequence → sequence ≤ segment.last →
    ∃ record, SealedRecord P (journal.reader segment) detail sequence record
  copied : ∀ id, ∃ frame, journal.copiedFrame id = .ok frame

lemma exists_readPlainRecords (before : Bytes) (lines : List Bytes)
    {first : Nat} (h : Consecutive P conversationId first (Bytes.numberLines before.length lines)) :
    ∃ events, readPlainRecords P conversationId (before ++ lines.flatten) first
      (((Bytes.numberLines before.length lines).filter holdsRecord).map lineOffsets) = some events := by
  induction lines generalizing before first with
  | nil => exact ⟨[], rfl⟩
  | cons line lines ih =>
    rw [Bytes.numberLines] at h ⊢
    rw [List.flatten_cons, ← List.append_assoc]
    have hrest := @ih (before ++ line)
    rw [List.length_append] at hrest
    by_cases hline : holdsRecord (before.length, line.chomp) = true
    · obtain ⟨⟨event, hd, hv⟩, h⟩ := (consecutive_cons_of_holds hline).mp h
      obtain ⟨events, he⟩ := hrest h
      refine ⟨event :: events, ?_⟩
      rw [List.filter_cons_of_pos hline, List.map_cons, lineOffsets, readPlainRecords,
        List.append_assoc, Bytes.slice_chomp, hd]
      rw [List.append_assoc] at he
      rw [Option.bind_eq_bind, Option.bind_some, if_pos hv, he]
      rfl
    · rw [consecutive_cons_of_blank hline] at h
      rw [List.filter_cons_of_neg hline]
      exact hrest h

lemma exists_forall₂ {R : α → β → Prop} {l : List α} (h : ∀ a ∈ l, ∃ b, R a b) : ∃ l', List.Forall₂ R l l' := by
  induction l with
  | nil => exact ⟨[], .nil⟩
  | cons a l ih =>
    obtain ⟨b, hb⟩ := h a List.mem_cons_self
    obtain ⟨l', hl⟩ := ih fun other ho => h other (List.mem_cons_of_mem _ ho)
    exact ⟨b :: l', .cons hb hl⟩

variable (detail) in
lemma CleanJournal.holdRecords {position expected : Nat} {files : List JournalFile} {parts : List IndexPart}
    (h : CleanJournal P journal.conversationId position expected files parts)
    (hfi : journal.files.drop position = files)
    (hs : ∀ segment, .sealed segment ∈ parts → segment.first ≤ segment.last ∧
      ∀ sequence, segment.first ≤ sequence → sequence ≤ segment.last →
        ∃ record, SealedRecord P (journal.reader segment) detail sequence record) :
    ∃ records, HoldRecords P journal detail expected parts records := by
  induction h with
  | nil => exact ⟨[], .nil _⟩
  | @segment position expected segment files parts hfr _ ih =>
    obtain ⟨hle, hread⟩ := hs segment List.mem_cons_self
    have hdrop : journal.files.drop (position + 1) = files := by
      rw [← List.drop_drop, hfi, List.drop_one, List.tail_cons]
    obtain ⟨rest, hrest⟩ := ih hdrop fun other ho =>
      hs other (List.mem_cons_of_mem _ ho)
    obtain ⟨records, hrecords⟩ := @exists_forall₂ _ _
      (SealedRecord P (journal.reader segment) detail)
      (List.range' segment.first (segment.last + 1 - segment.first)) fun sequence hmem => by
        obtain ⟨hlo, hhi⟩ := List.mem_range'_1.mp hmem
        exact hread sequence hlo (by omega)
    have hl := hrecords.length_eq
    rw [List.length_range'] at hl
    have hc : records.length = (IndexPart.sealed segment).count := by
      rw [IndexPart.count]
      omega
    have hnext : segment.last + 1 = (IndexPart.sealed segment).first +
        (IndexPart.sealed segment).count := by
      rw [IndexPart.count, IndexPart.first]
      omega
    rw [hnext] at hrest
    subst hfr
    exact ⟨records ++ rest, @HoldRecords.cons _ _ _ (.sealed segment) _ _ _ hrecords hc hrest⟩
  | @plain position expected content files parts hli _ ih =>
    have hdrop : journal.files.drop (position + 1) = files := by
      rw [← List.drop_drop, hfi, List.drop_one, List.tail_cons]
    obtain ⟨rest, hrest⟩ := ih hdrop fun other ho =>
      hs other (List.mem_append_right _ ho)
    rw [filePart]
    cases hf : (fileLines content).filter holdsRecord with
    | nil =>
      rw [List.countP_eq_length_filter, hf] at hrest
      exact ⟨rest, hrest⟩
    | cons line lines =>
      cases content with
      | none => cases hf
      | some bytes =>
        obtain ⟨events, he⟩ := exists_readPlainRecords [] bytes.cutLines hli
        rw [List.nil_append, Bytes.flatten_cutLines] at he
        change readPlainRecords P _ bytes expected
          (((fileLines (some bytes)).filter holdsRecord).map lineOffsets) = _ at he
        have hp : journal.plainFile position = some bytes := by
          have hget : journal.files[position]? = some (.plain (some bytes)) := by
            rw [← List.head?_drop, hfi, List.head?_cons]
          rw [IndexedJournal.plainFile, hget]
        rw [List.countP_eq_length_filter] at hrest
        rw [hf] at he hrest
        have hl := length_of_readPlainRecords he
        refine ⟨_, @HoldRecords.cons _ _ _ (.plain position expected _) _ _ _
          ⟨bytes, events, hp, he, rfl⟩ ?_ (by simpa [IndexPart.count, IndexPart.first] using hrest)⟩
        rw [List.length_map, List.length_zip, hl, Nat.min_self]
        rfl

lemma filter_after (h : events.map (·.sequence) = List.range' first events.length) (afterSequence : Nat) :
    events.filter (afterSequence < ·.sequence) = events.drop (afterSequence + 1 - first) := by
  induction events generalizing first with
  | nil => simp
  | cons event events ih =>
    rw [List.map_cons, List.length_cons, List.range'_succ, List.cons.injEq] at h
    obtain ⟨hf, hrest⟩ := h
    by_cases ha : afterSequence < event.sequence
    · have hzero : afterSequence + 1 - (first + 1) = 0 := by omega
      have hzero' : afterSequence + 1 - first = 0 := by omega
      rw [List.filter_cons_of_pos (by simpa using ha), ih hrest, hzero, hzero', List.drop_zero,
        List.drop_zero]
    · have hsucc : afterSequence + 1 - first = afterSequence + 1 - (first + 1) + 1 := by omega
      rw [List.filter_cons_of_neg (by simpa using ha), ih hrest, hsucc, List.drop_succ_cons]

lemma filter_before (h : events.map (·.sequence) = List.range' first events.length) (beforeSequence : Nat) :
    events.filter (·.sequence ≤ beforeSequence) = events.take (beforeSequence + 1 - first) := by
  induction events generalizing first with
  | nil => simp
  | cons event events ih =>
    rw [List.map_cons, List.length_cons, List.range'_succ, List.cons.injEq] at h
    obtain ⟨hf, hrest⟩ := h
    by_cases hb : event.sequence ≤ beforeSequence
    · have hsucc : beforeSequence + 1 - first = beforeSequence + 1 - (first + 1) + 1 := by omega
      rw [List.filter_cons_of_pos (by simpa using hb), ih hrest, hsucc, List.take_succ_cons]
    · have hzero : beforeSequence + 1 - (first + 1) = 0 := by omega
      have hzero' : beforeSequence + 1 - first = 0 := by omega
      rw [List.filter_cons_of_neg (by simpa using hb), ih hrest, hzero, hzero', List.take_zero,
        List.take_zero]

lemma HoldRecords.event_sequences (h : HoldRecords P journal detail 1 journal.parts records) :
    (records.map (·.event)).map (·.sequence) = List.range' 1 (records.map (·.event)).length := by
  rw [List.map_map, List.length_map]
  exact h.sequences

lemma IndexedJournal.Valid.exists_holdRecords (hvalid : journal.Valid P) (detail : ReplayDetail) :
    ∃ records, HoldRecords P journal detail 1 journal.parts records := by
  refine (cleanJournal_of_validateJournal hvalid.scanned).holdRecords detail rfl fun segment hmem => ?_
  obtain ⟨body, hbody⟩ := hvalid.loaded segment hmem
  exact ⟨(SealedSegment.accepted_of_fromBody hbody).first_le, hvalid.records segment hmem detail⟩

end Valid

/-- Following the pages of a valid journal forward from any sequence gives each later record once and
in order. Following them back gives each earlier record once. Each page has at most `limit` records,
has some while it announces more, and is within the byte budget unless it is a single record. -/
theorem pages_visit_history (P : Primitives) (repair : PageRepair) (journal : IndexedJournal)
    (detail : ReplayDetail) (limitBytes limit : Nat) (hvalid : journal.Valid P) (hlimit : 1 ≤ limit) :
    ∃ records, HoldRecords P journal detail 1 journal.parts records ∧
      (∀ afterSequence, ∃ pages,
        PagesAfter P repair limitBytes limit journal detail afterSequence pages ∧
        pages.flatMap (·.events) =
          (records.map (·.event)).filter (afterSequence < ·.sequence) ∧
        ∀ page ∈ pages, PageOf records .start limitBytes limit page) ∧
      ∀ beforeSequence, ∃ pages,
        PagesBefore P repair limitBytes limit journal detail beforeSequence pages ∧
        pages.reverse.flatMap (·.events) =
          (records.map (·.event)).filter (·.sequence ≤ beforeSequence) ∧
        ∀ page ∈ pages, PageOf records .stop limitBytes limit page := by
  obtain ⟨records, hrecords⟩ := hvalid.exists_holdRecords detail
  refine ⟨records, hrecords, fun afterSequence => ?_, fun beforeSequence => ?_⟩
  · rw [filter_after hrecords.event_sequences, Nat.add_sub_cancel, ← List.map_drop]
    exact exists_pagesAfter hrecords hvalid.copied hlimit afterSequence
  · rw [filter_before hrecords.event_sequences, Nat.add_sub_cancel, ← List.map_take]
    exact exists_pagesBefore hrecords hvalid.copied hlimit beforeSequence

/-- A journal with its index; a segment is the run of two records. -/
def indexedJournalOf (files : List JournalFile) (parts : List IndexPart) : IndexedJournal where
  conversationId := "conv"
  files
  fingerprint := []
  parts
  fullyValidated := true
  segmentFile := fun _ => SealedSegment.sealedRunFile
  copiedFrame := fun _ => .ok none

/-- Nothing can be repaired. -/
def noRepair : PageRepair where
  salvageSegment := fun _ _ => .error (.other "I/O error")
  validateJournal := fun _ => .error (.other "I/O error")

/-- The records of the run, in the form in which a reader sees its frames. -/
lemma sealedRecord_sealedRun (parts : List IndexPart) (detail : ReplayDetail) (sequence : Nat)
    (hfirst : 1 ≤ sequence) (hlast : sequence ≤ 2) : ∃ record, SealedRecord .standard
      ((indexedJournalOf sealedRunJournal parts).reader .sealedRun) detail sequence record := by
  obtain ⟨reader, hreader⟩ : ∃ reader : SegmentReader, reader =
      { segment := { SealedSegment.sealedRun with
          byStream := fun slot => SealedSegment.sealedRunBody.frames.filter (streamSlot ·.stream = some slot) }
        file := SealedSegment.sealedRunFile
        conversationId := "conv" } := ⟨_, rfl⟩
  have heq : (indexedJournalOf sealedRunJournal parts).reader .sealedRun = reader := by
    rw [hreader, IndexedJournal.reader, ← funext SealedSegment.streamFrames_sealedRunBody]
    rfl
  have hread : ∀ sequence ∈ [1, 2], ∀ summary ∈ [true, false],
      ((reader.record .standard sequence summary).toOption.any fun record =>
        (validateEvent record.event reader.conversationId sequence).isNone &&
          record.frame.all fun frame => (reader.wireFrame .standard frame.entry).toOption.isSome) = true := by
    rw [hreader]
    decide +kernel
  have hmem : sequence ∈ [1, 2] := by
    rw [List.mem_pair]
    omega
  obtain ⟨record, hrecord, hvalid⟩ := Option.any_eq_true _ _ |>.mp
    (hread sequence hmem (detail = .summary) (by cases detail <;> decide))
  obtain ⟨hevent, hframe⟩ := Bool.and_eq_true_iff.mp hvalid
  rw [heq]
  refine ⟨record, Except.eq_ok_of_toOption hrecord, Option.isNone_iff_eq_none.mp hevent, fun frame hsome => ?_⟩
  rw [Option.all_eq_true] at hframe
  obtain ⟨wire, hwire⟩ := Option.isSome_iff_exists.mp (hframe frame hsome)
  exact ⟨wire, Except.eq_ok_of_toOption hwire⟩

/-- The journal of the run is valid, with an index that has its two parts. -/
lemma exists_valid_sealedRun : ∃ rest,
    (indexedJournalOf sealedRunJournal (.sealed .sealedRun :: rest)).Valid .standard ∧
      (∀ segment, .sealed segment ∉ rest) ∧ indexTotal rest = 2 := by
  have hscan : (validateJournal .standard "conv" sealedRunJournal).toOption.join.map
      (fun parts => (parts.tail.all (·.offsets.isSome), indexTotal parts.tail)) = some (true, 2) := by
    decide +kernel
  obtain ⟨parts, hscanned, hparts⟩ := exists_of_toOption_join hscan
  obtain ⟨hplain, htotal⟩ := Prod.mk.inj hparts
  have hclean := cleanJournal_of_validateJournal hscanned
  rw [sealedRunJournal] at hclean
  cases hclean with
  | @segment _ _ _ _ rest hfirst hrest =>
    have hnot (segment : SealedSegment) : .sealed segment ∉ rest := by
      intro hmem
      cases List.all_eq_true.mp hplain _ hmem
    have hsegment {segment : SealedSegment}
        (hmem : .sealed segment ∈ IndexPart.sealed .sealedRun :: rest) :
        segment = .sealedRun := by
      rcases List.mem_cons.mp hmem with heq | hmem
      · exact IndexPart.sealed.inj heq
      · exact absurd hmem (hnot segment)
    refine ⟨rest, ⟨hscanned, fun segment hmem => ?_, fun segment hmem detail sequence hfirst hlast => ?_,
      fun _ => ⟨none, rfl⟩⟩, hnot, htotal⟩
    · obtain rfl := hsegment hmem
      exact ⟨_, SealedSegment.fromBody_sealedRunBody⟩
    · obtain rfl := hsegment hmem
      exact sealedRecord_sealedRun _ detail sequence hfirst hlast

/-- Four records in a segment and a file, in pages of one. -/
theorem pages_visit_history_sealedRun : ∃ parts records,
    HoldRecords .standard (indexedJournalOf sealedRunJournal parts) .full 1 parts records ∧
      ∃ pages, PagesAfter .standard noRepair 10 1 (indexedJournalOf sealedRunJournal parts) .full 0 pages ∧
        (pages.flatMap (·.events)).map (·.sequence) = [1, 2, 3, 4] ∧ ∀ page ∈ pages, page.events.length ≤ 1 := by
  obtain ⟨rest, hvalid, -, htotal⟩ := exists_valid_sealedRun
  obtain ⟨records, hrecords, hafter, -⟩ := pages_visit_history .standard noRepair _ .full 10 1 hvalid le_rfl
  obtain ⟨pages, hpages, hevents, hof⟩ := hafter 0
  have hlength : records.length = 4 := by
    have hsum : indexTotal (.sealed .sealedRun :: rest) = 2 + indexTotal rest := rfl
    rw [← hrecords.total, indexedJournalOf, hsum, htotal]
  refine ⟨_, records, hrecords, pages, hpages, ?_, fun page hmem => (hof page hmem).length_le⟩
  rw [hevents, filter_after hrecords.event_sequences, List.map_drop, hrecords.event_sequences, List.length_map, hlength]
  rfl

end Todex

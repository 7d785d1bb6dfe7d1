import Todex.Conversation.Store.Pages

/-!
# Event streams of API callers

A stream reads the journal in pages after its cursor and then takes live events. An event that does not follow the cursor,
or a receiver that lagged, sends it back to the journal. A call changes the cursor only when it returns the events before
it, so a dropped call loses nothing.
-/

namespace Todex

open Json (Members)

/-- The content that a sealed frame holds for a sequence. -/
def SegmentReader.framedContent (P : Primitives) (self : SegmentReader) (key : SegmentKey) (full : FrameEntry)
    (sequence : Nat) : Option Json := do
  let stored ← (readSealed P self.file full).toOption
  let compressed ← key.openContent P self.conversationId .frameFull
    (frameCounter self.segment.number full.ordinal) stored
  let items ← (← fromSlice P (← P.inflate compressed)).asArray
  items[sequence - full.first]?

/-- What is read of a record: its stored form, as the journal line and the hub carry it, or its envelope with a reference
to a sealed frame in the place of its ciphertext, when the frame holds what the ciphertext opens to. -/
inductive ConversationEvent.FormOf (P : Primitives) (self record : ConversationEvent) : Prop
  | same (h : self = record)
  | framed (reader : SegmentReader) (kid : String) (key : SegmentKey) (summary full : FrameEntry)
      (stored encrypted : Members) (content short : Json) (payload : record.payload = .object stored)
      (sealed : stored.get encryptedField = some (.object encrypted))
      (kid_eq : (encrypted.get "kid").bind Json.asStr = some kid)
      (opens : openEvent P encrypted record.conversationId record.sequence key = some (content, short))
      (framed : reader.framedContent P key full record.sequence = some content)
      (refers : self = { record with
        payload := .object (stored.insert encryptedField
          (.object (reader.frameReference kid summary full record.sequence))) })

lemma ConversationEvent.FormOf.sequence_eq {P : Primitives} {form record : ConversationEvent}
    (h : form.FormOf P record) : form.sequence = record.sequence := by
  cases h with
  | same h => rw [h]
  | framed _ _ _ _ _ _ _ _ _ _ _ _ _ _ h => rw [h]

def replayPage : Nat := 200

structure EventPump where
  cursor : Nat
  catchingUp : Bool
  pending : Option ConversationEvent

namespace EventPump

def new (after : Nat) : EventPump := { cursor := after, catchingUp := true, pending := none }

/-- The pending event has been presented. -/
def presented (self : EventPump) (event : ConversationEvent) : EventPump :=
  { self with pending := none, cursor := event.sequence }

/-- The events of a page have been presented. -/
def replayed (self : EventPump) (replay : ConversationReplay) : EventPump :=
  let caughtUp := !replay.hasMore || replay.events.isEmpty
  { self with
    cursor := replay.events.foldl (fun cursor event => max cursor event.sequence) self.cursor
    catchingUp := if caughtUp then false else self.catchingUp }

/-- An event of the hub, or none if the receiver lagged. -/
def receive (self : EventPump) : Option ConversationEvent → EventPump
  | some event =>
    if event.sequence ≤ self.cursor then self
    else if self.cursor + 1 < event.sequence then { self with catchingUp := true }
    else { self with pending := some event }
  | none => { self with catchingUp := true }

end EventPump

/-- Where a call of `next_batch` is. -/
inductive PumpCall
  | idle
  /-- At the start of its loop. -/
  | next
  | present (event : ConversationEvent)
  | presentPage (replay : ConversationReplay)

/-- The events a call is about to return. -/
def PumpCall.events : PumpCall → List ConversationEvent
  | .present event => [event]
  | .presentPage replay => replay.events
  | _ => []

structure PumpState where
  journal : List ConversationEvent
  pump : EventPump
  call : PumpCall
  returned : List ConversationEvent

def PumpState.new (journal : List ConversationEvent) (after : Nat) : PumpState :=
  { journal, pump := .new after, call := .idle, returned := [] }

/-- The sequences of a journal count its records. -/
def DenseSequences (journal : List ConversationEvent) : Prop :=
  journal.map (·.sequence) = List.range' 1 journal.length

section Pump

variable (P : Primitives) (repair : PageRepair) (limitBytes : Nat)
  (present : ConversationEvent → Members → ConversationEvent)

inductive PumpStep : PumpState → PumpState → Prop
  | append {s : PumpState} (event : ConversationEvent) : event.sequence = s.journal.length + 1 →
      PumpStep s { s with journal := s.journal ++ [event] }
  | call {s : PumpState} : s.call = .idle → PumpStep s { s with call := .next }
  /-- A call is dropped, or the journal or the hub fails it. -/
  | drop {s : PumpState} : PumpStep s { s with call := .idle }
  | pending {s : PumpState} {event : ConversationEvent} : s.call = .next → s.pump.pending = some event →
      PumpStep s { s with call := .present event }
  | present {s : PumpState} {event : ConversationEvent} : s.call = .present event →
      PumpStep s { s with
        pump := s.pump.presented event, call := .idle, returned := s.returned ++ [present event []] }
  | replay {s : PumpState} (stored : IndexedJournal) {records : List SegmentRecord} (replay : ConversationReplay) :
      s.call = .next → s.pump.pending = none → s.pump.catchingUp = true →
      HoldRecords P stored .full 1 stored.parts records → (∀ id, ∃ frame, stored.copiedFrame id = .ok frame) →
      List.Forall₂ (ConversationEvent.FormOf P) (records.map (·.event)) s.journal →
      replayDetail P repair limitBytes stored s.pump.cursor replayPage .full = .ok replay →
      PumpStep s { s with call := .presentPage replay }
  | presentPage {s : PumpState} {replay : ConversationReplay} : s.call = .presentPage replay →
      PumpStep s { s with
        pump := s.pump.replayed replay, call := if replay.events.isEmpty then .next else .idle
        returned := s.returned ++ replay.events.map (present · replay.frames) }
  /-- The hub may lose, repeat and reorder events. -/
  | receive {s : PumpState} (event : Option ConversationEvent) : s.call = .next → s.pump.pending = none →
      s.pump.catchingUp = false → (∀ form ∈ event, ∃ record ∈ s.journal, form.FormOf P record) →
      PumpStep s { s with pump := s.pump.receive event }

/-- The frames that come with a form: none with a live event, those of its page with a replayed one. -/
def ComesWith (form : ConversationEvent) (frames : Members) : Prop :=
  frames = [] ∨ ∃ stored cursor replay,
    replayDetail P repair limitBytes stored cursor replayPage .full = .ok replay ∧ form ∈ replay.events ∧
      frames = replay.frames

/-- A caller gets a form of the record, presented with the frames that came with it. -/
def Presents (record event : ConversationEvent) : Prop :=
  ∃ form frames, form.FormOf P record ∧ ComesWith P repair limitBytes form frames ∧ event = present form frames

variable {P repair limitBytes present}

variable (P) in
/-- The events come after the cursor. -/
def PumpState.Follows (s : PumpState) (events : List ConversationEvent) : Prop :=
  List.Forall₂ (ConversationEvent.FormOf P) events ((s.journal.drop s.pump.cursor).take events.length)

lemma follows_of_replayDetail {s : PumpState} (hrecords : HoldRecords P stored .full 1 stored.parts records)
    (hcopied : ∀ id, ∃ frame, stored.copiedFrame id = .ok frame)
    (hforms : List.Forall₂ (ConversationEvent.FormOf P) (records.map (·.event)) s.journal)
    (hreplay : replayDetail P repair limitBytes stored s.pump.cursor replayPage .full = .ok replay) :
    s.Follows P replay.events := by
  obtain ⟨pages, hpages, hevents, -⟩ : ∃ pages,
      PagesAfter P repair limitBytes replayPage stored .full s.pump.cursor pages ∧ _ :=
    exists_pagesAfter hrecords hcopied (by decide) s.pump.cursor
  have hfirst : ∃ rest, replay.events ++ rest = (records.map (·.event)).drop s.pump.cursor := by
    rw [← List.map_drop, ← hevents]
    cases hpages with
    | last hpage | more hpage =>
      rw [hreplay] at hpage
      cases hpage
      exact ⟨_, rfl⟩
  obtain ⟨rest, hrest⟩ := hfirst
  have htake := List.forall₂_take replay.events.length (List.forall₂_drop s.pump.cursor hforms)
  rw [← hrest, List.take_left] at htake
  exact htake

lemma foldl_max_range' (cursor count : Nat) :
    (List.range' (cursor + 1) count).foldl max cursor = cursor + count := by
  induction count generalizing cursor with
  | zero => rfl
  | succ count ih =>
    rw [List.range'_succ, List.foldl_cons, Nat.max_eq_right (Nat.le_succ cursor), ih]
    omega

namespace PumpState.Follows

variable {s : PumpState} {events : List ConversationEvent}

lemma le_length (h : s.Follows P events) : events.length ≤ s.journal.length - s.pump.cursor := by
  have hlength := h.length_eq
  rw [List.length_take, List.length_drop] at hlength
  omega

lemma foldl_max (h : s.Follows P events) (hdense : DenseSequences s.journal) :
    events.foldl (fun cursor event => max cursor event.sequence) s.pump.cursor = s.pump.cursor + events.length := by
  have hmap : events.map (·.sequence) =
      ((s.journal.drop s.pump.cursor).take events.length).map (·.sequence) :=
    List.forall₂_eq_eq_eq ▸ (List.forall₂_map_left_iff.mpr (List.forall₂_map_right_iff.mpr
      (h.imp fun _ _ hform => hform.sequence_eq)))
  have hle := h.le_length
  rw [List.map_take, List.map_drop, hdense, List.drop_range', take_range', Nat.min_eq_left (by omega),
    Nat.mul_one, Nat.add_comm] at hmap
  rw [← foldl_max_range', ← hmap, List.foldl_map]

lemma append (h : s.Follows P events) (event : ConversationEvent) :
    Follows P { s with journal := s.journal ++ [event] } events := by
  have hle := h.le_length
  unfold Follows
  dsimp only
  cases events with
  | nil => exact .nil
  | cons first rest =>
    rw [List.length_cons] at hle
    rw [List.drop_append_of_le_length (by omega), List.take_append_of_le_length (by
      rw [List.length_drop, List.length_cons]
      omega)]
    exact h

end PumpState.Follows

lemma PumpState.follows_singleton {s : PumpState} (hdense : DenseSequences s.journal) (hrecord : record ∈ s.journal)
    (hform : form.FormOf P record) (hsequence : form.sequence = s.pump.cursor + 1) : s.Follows P [form] := by
  obtain ⟨i, hi⟩ := List.getElem?_of_mem hrecord
  have hcount := congrArg (·[i]?) hdense
  obtain ⟨hlt, -⟩ := List.getElem?_eq_some_iff.mp hi
  simp only [List.getElem?_map, hi, Option.map_some, List.getElem?_range' hlt, Option.some.injEq] at hcount
  have hcursor : i = s.pump.cursor := by
    rw [← hform.sequence_eq] at hcount
    omega
  rw [Follows, List.length_singleton, List.take_one, List.head?_drop, ← hcursor, hi]
  exact .cons hform .nil

variable (P repair limitBytes present) in
/-- What holds between the steps of a stream. -/
structure PumpOk (after : Nat) (s : PumpState) : Prop where
  dense : DenseSequences s.journal
  after_le : after ≤ s.pump.cursor
  reached : s.pump.cursor = after ∨ s.pump.cursor ≤ s.journal.length
  returned : List.Forall₂ (Presents P repair limitBytes present)
    ((s.journal.drop after).take (s.pump.cursor - after)) s.returned
  pending : ∀ event ∈ s.pump.pending, s.Follows P [event]
  call : s.Follows P s.call.events
  page : ∀ replay, s.call = .presentPage replay → s.pump.pending = none ∧
    ∃ stored cursor, replayDetail P repair limitBytes stored cursor replayPage .full = .ok replay

namespace PumpOk

variable {after : Nat} {s t : PumpState}

lemma new {journal : List ConversationEvent} (hdense : DenseSequences journal) (after : Nat) :
    PumpOk P repair limitBytes present after (.new journal after) := by
  refine ⟨hdense, Nat.le_refl after, .inl rfl, ?_, by simp [PumpState.new, EventPump.new], .nil, nofun⟩
  dsimp only [PumpState.new, EventPump.new]
  rw [Nat.sub_self]
  exact .nil

variable (h : PumpOk P repair limitBytes present after s)

include h

lemma advance (hfollows : s.Follows P events) {frames : Members}
    (hframes : ∀ event ∈ events, ComesWith P repair limitBytes event frames)
    (catchingUp : Bool) (call : PumpCall) (hcall : call = .next ∨ call = .idle) :
    PumpOk P repair limitBytes present after { s with
        pump := { cursor := s.pump.cursor + events.length, catchingUp, pending := none }, call
        returned := s.returned ++ events.map (present · frames) } := by
  have hafter := h.after_le
  have hslice : (s.journal.drop after).take (s.pump.cursor + events.length - after) =
      (s.journal.drop after).take (s.pump.cursor - after) ++ (s.journal.drop s.pump.cursor).take events.length := by
    rw [Nat.sub_add_comm hafter, List.take_add, List.drop_drop, Nat.add_sub_cancel' hafter]
  refine ⟨h.dense, Nat.le_add_right_of_le hafter, ?_, ?_, by simp, ?_, ?_⟩
  · have hle := hfollows.le_length
    have hreached := h.reached
    dsimp only
    omega
  · dsimp only
    rw [hslice]
    refine List.rel_append h.returned ?_
    rw [List.forall₂_map_right_iff]
    refine ((List.forall₂_and_left _ _).2 ⟨hframes, hfollows⟩).flip.imp ?_
    rintro record form ⟨hcomes, hform⟩
    exact ⟨form, frames, hform, hcomes, rfl⟩
  · rcases hcall with rfl | rfl
    · exact .nil
    · exact .nil
  · rintro replay rfl
    rcases hcall with hcall | hcall <;> cases hcall

lemma append (hsequence : event.sequence = s.journal.length + 1) :
    PumpOk P repair limitBytes present after { s with journal := s.journal ++ [event] } := by
  have hreached := h.reached
  have hafter := h.after_le
  refine ⟨?_, hafter, ?_, ?_, fun other hmem => (h.pending other hmem).append event, h.call.append event, h.page⟩
  · rw [DenseSequences, List.map_append, h.dense, List.length_append, List.length_singleton, List.range'_concat,
      List.map_singleton, hsequence]
    simp [Nat.add_comm]
  · rw [List.length_append]
    dsimp only
    omega
  · dsimp only
    rcases hreached with hcursor | hcursor
    · have hreturned := h.returned
      rw [hcursor, Nat.sub_self] at hreturned ⊢
      exact hreturned
    · rw [List.drop_append_of_le_length (by omega), List.take_append_of_le_length (by
        rw [List.length_drop]
        omega)]
      exact h.returned

lemma receive {event : Option ConversationEvent} (hcall : s.call = .next)
    (hforms : ∀ form ∈ event, ∃ record ∈ s.journal, form.FormOf P record) :
    PumpOk P repair limitBytes present after { s with pump := s.pump.receive event } := by
  have hpage (replay : ConversationReplay) (hreplay : s.call = .presentPage replay) : False := by
    rw [hcall] at hreplay
    cases hreplay
  cases event with
  | none => exact { h with }
  | some form =>
    obtain ⟨record, hrecord, hform⟩ := hforms form rfl
    rw [EventPump.receive]
    split_ifs with hold hgap
    · exact h
    · exact { h with }
    · have hfollows := s.follows_singleton h.dense hrecord hform (by omega)
      refine { h with pending := ?_, page := fun replay hreplay => (hpage replay hreplay).elim }
      rintro other ⟨⟩
      exact hfollows

lemma step (hstep : PumpStep P repair limitBytes present s t) : PumpOk P repair limitBytes present after t := by
  have hfollows := h.call
  cases hstep with
  | append event hsequence => exact h.append hsequence
  | call | drop => exact { h with call := .nil, page := nofun }
  | pending _ hpending => exact { h with call := h.pending _ hpending, page := nofun }
  | @present event hcall =>
    rw [hcall] at hfollows
    have hcursor : event.sequence = s.pump.cursor + 1 := by
      have hmax := hfollows.foldl_max h.dense
      simp only [PumpCall.events, List.foldl_cons, List.foldl_nil, List.length_singleton] at hmax
      omega
    have hadvance := h.advance hfollows (fun _ _ => .inl rfl) s.pump.catchingUp .idle (.inr rfl)
    rw [EventPump.presented, hcursor]
    exact hadvance
  | replay stored _ _ hpending _ hrecords hcopied hforms hreplay =>
    refine { h with call := follows_of_replayDetail hrecords hcopied hforms hreplay, page := ?_ }
    rintro _ ⟨⟩
    exact ⟨hpending, stored, s.pump.cursor, hreplay⟩
  | @presentPage replay hcall =>
    rw [hcall] at hfollows
    obtain ⟨hpending, stored, cursor, hreplay⟩ := h.page replay hcall
    have hadvance := h.advance hfollows
      (fun event hevent => .inr ⟨stored, cursor, replay, hreplay, hevent, rfl⟩)
      (s.pump.replayed replay).catchingUp (if replay.events.isEmpty then .next else .idle) (by split_ifs <;> simp)
    rw [← hfollows.foldl_max h.dense, ← hpending] at hadvance
    exact hadvance
  | receive event hcall _ _ hforms => exact h.receive hcall hforms

end PumpOk

/-- The batches that a stream has returned are the records of the journal after the starting cursor, each once and in
order, up to the cursor it has reached. -/
theorem event_stream_exact {journal : List ConversationEvent} (hdense : DenseSequences journal) (after : Nat)
    {s : PumpState} (hrun : Relation.ReflTransGen (PumpStep P repair limitBytes present) (.new journal after) s) :
    List.Forall₂ (Presents P repair limitBytes present) ((s.journal.drop after).take (s.pump.cursor - after))
      s.returned := by
  have hok : PumpOk P repair limitBytes present after s := by
    induction hrun with
    | refl => exact .new hdense after
    | tail _ hstep ih => exact ih.step hstep
  exact hok.returned

def startedEvent : ConversationEvent := .new "event" ⟨0, DateTime.epoch_inRange⟩ "conv" 1 "turn.started" .null

/-- A call is dropped while it presents a live event. -/
theorem event_stream_exact_dropped : ∃ s : PumpState, s.returned = [startedEvent] ∧
    List.Forall₂ (Presents .standard noRepair 10 fun event _ => event)
      ((s.journal.drop 0).take (s.pump.cursor - 0)) s.returned := by
  have he : replayDetail .standard noRepair 10 (indexedJournalOf (journalOf "") []) 0 replayPage .full =
      .ok ⟨0, 0, false, [], []⟩ := by
    simp [replayDetail, readIndexedPage, readWindow, windowAfter, indexTotal, indexedJournalOf,
      IndexedPage.replayAfter, pure, Except.pure]
  have run : Relation.ReflTransGen (PumpStep .standard noRepair 10 fun event _ => event) (.new [] 0) _ := .refl
  have run := run.tail (.call rfl)
  have run := run.tail (.replay _ _ rfl rfl rfl (.nil 1) (fun _ => ⟨none, rfl⟩) .nil he)
  have run := run.tail (.presentPage rfl)
  have run := run.tail (.append startedEvent rfl)
  have run := run.tail (.receive (some startedEvent) rfl rfl rfl
    (by rintro _ ⟨⟩; exact ⟨_, List.mem_singleton_self _, .same rfl⟩))
  have run := run.tail (.pending rfl rfl)
  have run := run.tail .drop
  have run := run.tail (.call rfl)
  have run := run.tail (.pending rfl rfl)
  have run := run.tail (.present rfl)
  exact ⟨_, rfl, event_stream_exact (show DenseSequences [] from rfl) 0 run⟩

end Pump

end Todex

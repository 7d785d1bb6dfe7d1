import Todex.Conversation.Prepare

/-!
# Coalescing of streamed text

Streaming fragments are merged before they reach the journal. The open merge window lives outside
the journal: fragments join it under the lock of the map entry alone, while it is opened, replaced
and flushed under the conversation lock. Each access to the map and each journal write is a step of
its own here, so that the steps of concurrent calls interleave in any way.
-/

namespace Todex

/-- `DELTA_COALESCE_WINDOW`, in nanoseconds. -/
def deltaCoalesceWindow : Nat := 100 * 1000000

def deltaCoalesceMaxBytes : Nat := 16 * 1024

/-- Identity and text location of a fragment. -/
structure DeltaFragment where
  key : String
  textPointers : List String
deriving DecidableEq

/-- The open merge window of one stream. -/
structure PendingDelta where
  eventType : String
  fragment : DeltaFragment
  payload : Json
  started : Nat

namespace PendingDelta

def deadline (self : PendingDelta) : Nat := self.started + deltaCoalesceWindow

/-- Both texts are there and fit one event. -/
def fits (window payload : Json) (pointer : String) : Bool :=
  match window.pointerStr pointer, payload.pointerStr pointer with
  | some text, some next => text.utf8ByteSize + next.utf8ByteSize ≤ deltaCoalesceMaxBytes
  | _, _ => false

/-- The window's text moves into the newest payload. -/
def mergeText (payloads : Json × Json) (pointer : String) : Json × Json :=
  match payloads.1.pointerStr pointer, payloads.2.pointerStr pointer with
  | some text, some next =>
    (payloads.1.setPointer pointer (.string ""),
      payloads.2.setPointer pointer (.string (text ++ next)))
  | _, _ => payloads

/-- Append a payload to the open window, or hand it back. -/
def tryAppend (self : PendingDelta) (now : Nat) (eventType : String) (fragment : DeltaFragment)
    (payload : Json) : Except Json Unit × PendingDelta :=
  if self.eventType ≠ eventType ∨ self.fragment ≠ fragment ∨ self.deadline ≤ now then
    (.error payload, self)
  else if self.fragment.textPointers.all (fits self.payload payload) then
    (.ok (), { self with
      payload := (self.fragment.textPointers.foldl mergeText (self.payload, payload)).2 })
  else (.error payload, self)

end PendingDelta

/-! ### The store -/

/-- What a provider emits. -/
inductive Emission
  | event (eventType : String) (payload : Json)
  | fragment (eventType : String) (fragment : DeltaFragment) (payload : Json)

/-- A call that takes the conversation lock. -/
inductive Job
  /-- `buffer_delta`: a fragment that did not join a window. -/
  | buffer (eventType : String) (fragment : DeltaFragment) (payload : Json)
  /-- `append_inner` and `append_many_and_publish`. -/
  | append (events : List (String × Json))
  /-- A read, a seal or `flush_pending_deltas`. -/
  | flush
  /-- `flush_expired_delta`. -/
  | expired (generation : Nat)

/-- What a call emits. -/
def Job.emissions : Job → List Emission
  | buffer eventType fragment payload => [.fragment eventType fragment payload]
  | append events => events.map fun event => .event event.1 event.2
  | flush => []
  | expired _ => []

/-- Where the call that holds the lock is. -/
inductive Holding
  | entered (job : Job)
  /-- About to take the window out of the map. -/
  | flushing (job : Job)
  /-- About to journal the window it took. -/
  | took (job : Job) (window : Option PendingDelta)
  | flushed (job : Job)

def Holding.job : Holding → Job
  | entered job => job
  | flushing job => job
  | took job _ => job
  | flushed job => job

/-- A window with the number that tells its timer from those of other windows. -/
structure StoreDelta where
  generation : Nat
  delta : PendingDelta

/-- One conversation of the store. -/
structure DeltaStore where
  /-- The entry in `pending_deltas`. -/
  pending : Option StoreDelta := none
  /-- Event type and payload of the journal's records. -/
  journal : List (String × Json) := []
  /-- Calls that wait for the conversation lock. -/
  waiting : List Job := []
  holder : Option Holding := none
  /-- What calls were made for; no step reads it. -/
  called : List Emission := []
  /-- What joined a window or was appended, in this order; no step reads it. -/
  emitted : List Emission := []

namespace DeltaStore

/-- The record of a window. -/
def entry (window : PendingDelta) : String × Json :=
  (window.eventType, preparePayload window.eventType window.payload)

/-- Try to join the open window. -/
def join (now : Nat) (eventType : String) (fragment : DeltaFragment) (payload : Json)
    (s : DeltaStore) : Except Json Unit × DeltaStore :=
  match s.pending with
  | none => (.error payload, s)
  | some pending =>
    let (result, delta) := pending.delta.tryAppend now eventType fragment payload
    (result, { s with pending := some { pending with delta } })

def emit (emissions : List Emission) (s : DeltaStore) : DeltaStore :=
  { s with emitted := s.emitted ++ emissions }

/-- `append_delta_and_publish` up to the lock. -/
def appendDelta (now : Nat) (eventType : String) (fragment : DeltaFragment) (payload : Json)
    (s : DeltaStore) : DeltaStore :=
  match join now eventType fragment payload s with
  | (.ok (), s) => s.emit [.fragment eventType fragment payload]
  | (.error payload, s) => { s with waiting := s.waiting ++ [.buffer eventType fragment payload] }

/-- The next step of the call that holds the lock. All conversations draw `generation` from one
counter. -/
def proceed (now generation : Nat) (s : DeltaStore) : Holding → DeltaStore
  | .entered (.buffer eventType fragment payload) =>
    match join now eventType fragment payload s with
    | (.ok (), s) => { s with holder := none }.emit [.fragment eventType fragment payload]
    | (.error payload, s) =>
      { s with holder := some (.flushing (.buffer eventType fragment payload)) }
  | .entered (.expired expired) =>
    if s.pending.any (·.generation = expired) then
      { s with holder := some (.flushing (.expired expired)) }
    else { s with holder := none }
  | .entered job => { s with holder := some (.flushing job) }
  | .flushing job =>
    { s with pending := none, holder := some (.took job (s.pending.map (·.delta))) }
  | .took job window =>
    { s with
      journal := s.journal ++ (window.map entry).toList
      holder := some (.flushed job) }
  | .flushed (.buffer eventType fragment payload) =>
    let delta := { eventType, fragment, payload, started := now }
    { s with pending := some { generation, delta }, holder := none }.emit
      [.fragment eventType fragment payload]
  | .flushed (.append events) =>
    { s with
      journal := s.journal ++ events.map fun (eventType, payload) => (eventType, preparePayload eventType payload)
      holder := none }.emit (Job.append events).emissions
  | .flushed _ => { s with holder := none }

/-- What can happen. -/
inductive Op
  /-- A fragment is emitted. -/
  | delta (now : Nat) (eventType : String) (fragment : DeltaFragment) (payload : Json)
  /-- A call asks for the lock. -/
  | request (job : Job)
  /-- A waiting call gets the lock. -/
  | acquire (i : Nat)
  /-- The call that holds the lock goes on. -/
  | proceed (now generation : Nat)

def Op.isProceed : Op → Bool
  | proceed _ _ => true
  | _ => false

def step (s : DeltaStore) : Op → DeltaStore
  | .delta now eventType fragment payload => appendDelta now eventType fragment payload
    { s with called := s.called ++ [.fragment eventType fragment payload] }
  | .request job =>
    { s with called := s.called ++ job.emissions, waiting := s.waiting ++ [job] }
  | .acquire i =>
    match s.holder, s.waiting[i]? with
    | none, some job => { s with waiting := s.waiting.eraseIdx i, holder := some (.entered job) }
    | _, _ => s
  | .proceed now generation =>
    match s.holder with
    | none => s
    | some holding => proceed now generation s holding

def run (s : DeltaStore) (ops : List Op) : DeltaStore := ops.foldl step s

end DeltaStore

/-- The call takes the window out of the map whatever it finds there. -/
def Job.flushes (s : DeltaStore) : Job → Bool
  | .buffer _ _ _ => false
  | .append _ | .flush => true
  | .expired generation => s.pending.any (·.generation = generation)

/-! ### Merged payloads -/

/-- The text a pointer names, if any. -/
def pointerText (payload : Json) (pointer : String) : String :=
  (payload.pointerStr pointer).getD ""

/-- A payload with new texts. -/
def withTexts (pointers : List String) (text : String → String) (payload : Json) : Json :=
  pointers.foldl (fun payload pointer => payload.setPointer pointer (.string (text pointer))) payload

/-- The newest payload with the concatenated texts of all. -/
def mergedPayload (pointers : List String) (first : Json) (more : List Json) : Json :=
  match more.getLast? with
  | none => first
  | some newest => withTexts pointers
    (fun pointer => String.join ((first :: more).map (pointerText · pointer))) newest

/-- All pointers name strings. -/
def Textual (pointers : List String) (payload : Json) : Prop :=
  ∀ pointer ∈ pointers, ∃ text, payload.pointerStr pointer = some text

lemma pointerText_eq (h : payload.pointerStr pointer = some text) : pointerText payload pointer = text := by
  rw [pointerText, h, Option.getD_some]

lemma pointerText_congr (payload : Json) {pointer pointer' : String}
    (h : Json.pointerPath pointer = Json.pointerPath pointer') :
    pointerText payload pointer = pointerText payload pointer' := by
  rw [pointerText, Json.pointerStr_congr payload h, pointerText]

section Texts

lemma Textual.setPointer (h : Textual pointers payload) (hp : pointer ∈ pointers)
    (text : String) : Textual pointers (payload.setPointer pointer (.string text)) := by
  intro other ho
  obtain ⟨old, hold⟩ := h pointer hp
  obtain ⟨old', hold'⟩ := h other ho
  exact ⟨_, Json.pointerStr_setPointer hold hold' text⟩

lemma pointerText_setPointer (h : Textual pointers payload) (hp : pointer ∈ pointers)
    {other : String} (ho : other ∈ pointers) (text : String) :
    pointerText (payload.setPointer pointer (.string text)) other =
      if Json.pointerPath other = Json.pointerPath pointer then text else pointerText payload other := by
  obtain ⟨old, hold⟩ := h pointer hp
  obtain ⟨old', hold'⟩ := h other ho
  rw [pointerText_eq (Json.pointerStr_setPointer hold hold' text), pointerText_eq hold']

lemma pointerText_withTexts (htodo : ∀ pointer ∈ todo, pointer ∈ pointers) (h : Textual pointers payload)
    (htext : ∀ p ∈ pointers, ∀ q ∈ pointers, Json.pointerPath p = Json.pointerPath q → text p = text q)
    (ho : other ∈ pointers) (hset : other ∈ todo ∨ pointerText payload other = text other) :
    pointerText (withTexts todo text payload) other = text other := by
  induction todo generalizing payload with
  | nil =>
    rcases hset with hmem | hset
    · cases hmem
    · exact hset
  | cons pointer todo ih =>
    have hpo := htodo pointer List.mem_cons_self
    refine ih (fun p hp => htodo p (List.mem_cons_of_mem _ hp)) (h.setPointer hpo _) ?_
    rw [pointerText_setPointer h hpo ho]
    split_ifs with heq
    · exact .inr (htext pointer hpo other ho heq.symm)
    · refine hset.imp_left fun hmem => ?_
      rcases List.mem_cons.mp hmem with rfl | hmem
      · exact absurd rfl heq
      · exact hmem

/-- Merging leaves the newest payload with the text of both. A pointer that names a place for the
second time finds the window's text empty and the merged text in place. -/
lemma foldl_mergeText (htodo : ∀ pointer ∈ todo, pointer ∈ pointers)
    (hw : Textual pointers window) (hn : Textual pointers newest)
    (htext : ∀ p ∈ pointers, pointerText window p ++ pointerText newest p = text p) :
    (todo.foldl PendingDelta.mergeText (window, newest)).2 = withTexts todo text newest := by
  induction todo generalizing window newest with
  | nil => rfl
  | cons pointer todo ih =>
    have hpo := htodo pointer List.mem_cons_self
    obtain ⟨old, hold⟩ := hw pointer hpo
    obtain ⟨next, hnext⟩ := hn pointer hpo
    have hm : old ++ next = text pointer := by
      rw [← htext pointer hpo, pointerText_eq hold, pointerText_eq hnext]
    rw [List.foldl_cons, PendingDelta.mergeText, hold, hnext]
    dsimp only
    rw [hm]
    refine ih (fun p hp => htodo p (List.mem_cons_of_mem _ hp)) (hw.setPointer hpo _)
      (hn.setPointer hpo _) fun p hp => ?_
    rw [pointerText_setPointer hw hpo hp, pointerText_setPointer hn hpo hp]
    split_ifs with heq
    · rw [String.empty_append, ← htext pointer hpo, ← htext p hp,
        pointerText_congr window heq, pointerText_congr newest heq]
    · exact htext p hp

end Texts

/-! ### Pieces of the journal -/

/-- Adjacent emissions that one record stands for. -/
inductive Piece
  | event (eventType : String) (payload : Json)
  | merged (eventType : String) (fragment : DeltaFragment) (first : Json) (more : List Json)

namespace Piece

def emissions : Piece → List Emission
  | event eventType payload => [.event eventType payload]
  | merged eventType fragment first more => (first :: more).map (.fragment eventType fragment)

/-- Event type and payload of the record. -/
def content : Piece → String × Json
  | event eventType payload => (eventType, payload)
  | merged eventType fragment first more =>
    (eventType, mergedPayload fragment.textPointers first more)

/-- Only payloads that have all their texts are merged, and only up to the limit. -/
def Valid : Piece → Prop
  | event _ _ => True
  | merged _ fragment first more => more ≠ [] →
    (∀ payload ∈ first :: more, Textual fragment.textPointers payload) ∧
      ∀ pointer ∈ fragment.textPointers,
        (pointerText (mergedPayload fragment.textPointers first more) pointer).utf8ByteSize ≤
          deltaCoalesceMaxBytes

/-- The stream of a piece. -/
def stream : Piece → Option (String × DeltaFragment)
  | event _ _ => none
  | merged eventType fragment _ _ => some (eventType, fragment)

/-- The record it becomes. -/
def record (piece : Piece) : String × Json :=
  (piece.content.1, preparePayload piece.content.1 piece.content.2)

/-- What the record adds to the text of a stream. -/
def text (eventType : String) (fragment : DeltaFragment) (pointer : String) (piece : Piece) : String :=
  if piece.stream = some (eventType, fragment) then pointerText piece.record.2 pointer else ""

/-- The pointer leads to a text that no secret is redacted from, and the piece is not cut. -/
def Keeps (pointer : String) (piece : Piece) : Prop :=
  (Json.pointerPath pointer).any keptPath ∧ FitsEvent piece.content.1 piece.content.2

end Piece

/-- What an emission adds to the text of a stream. -/
def Emission.text (eventType : String) (fragment : DeltaFragment) (pointer : String) : Emission → String
  | event _ _ => ""
  | .fragment eventType' fragment' payload =>
    if eventType' = eventType ∧ fragment' = fragment then pointerText payload pointer else ""

lemma mergedPayload_concat (pointers : List String) (first : Json) (more : List Json) (newest : Json) :
    mergedPayload pointers first (more ++ [newest]) = withTexts pointers
      (fun pointer => String.join ((first :: (more ++ [newest])).map (pointerText · pointer))) newest := by
  rw [mergedPayload, List.getLast?_concat]

lemma pointerText_mergedPayload (h : more ≠ [] → ∀ payload ∈ first :: more, Textual pointers payload)
    (hpo : pointer ∈ pointers) :
    pointerText (mergedPayload pointers first more) pointer =
      String.join ((first :: more).map (pointerText · pointer)) := by
  cases more using List.reverseRecOn with
  | nil => simp [mergedPayload, String.join]
  | append_singleton more newest =>
    rw [mergedPayload_concat]
    refine pointerText_withTexts (fun _ hp => hp) (h (by simp) newest (by simp)) ?_ hpo
      (.inl hpo)
    intro p hp q hq hpath
    congr 2
    funext payload
    exact pointerText_congr payload hpath

/-- The window holds these payloads. -/
structure PendingDelta.Holds (window : PendingDelta) (first : Json) (more : List Json) : Prop where
  payload : window.payload = mergedPayload window.fragment.textPointers first more
  valid : (Piece.merged window.eventType window.fragment first more).Valid

/-- A window takes a payload over as one more of its own, or hands it back and stays as it was. -/
lemma PendingDelta.tryAppend_cases (window : PendingDelta) (now : Nat) (eventType : String)
    (fragment : DeltaFragment) (payload : Json) :
    window.tryAppend now eventType fragment payload = (.error payload, window) ∨
      ∃ window', window.tryAppend now eventType fragment payload = (.ok (), window') ∧
        window.eventType = eventType ∧ window.fragment = fragment ∧
        window'.eventType = eventType ∧ window'.fragment = fragment ∧
        ∀ first more, window.Holds first more → window'.Holds first (more ++ [payload]) := by
  rw [tryAppend]
  split_ifs with ho hfits
  · exact .inl rfl
  · simp only [not_or, not_not] at ho
    obtain ⟨rfl, rfl, -⟩ := ho
    refine .inr ⟨_, rfl, rfl, rfl, rfl, rfl, fun first more hh => ?_⟩
    rw [List.all_eq_true] at hfits
    have hboth : ∀ pointer ∈ window.fragment.textPointers, ∃ text next,
        window.payload.pointerStr pointer = some text ∧ payload.pointerStr pointer = some next ∧
          text.utf8ByteSize + next.utf8ByteSize ≤ deltaCoalesceMaxBytes := by
      intro pointer hpo
      have hfit := hfits pointer hpo
      rw [fits] at hfit
      split at hfit
      · next text next htext hnext => exact ⟨text, next, htext, hnext, by simpa using hfit⟩
      · cases hfit
    have hw : Textual window.fragment.textPointers window.payload := by
      intro pointer hpo
      obtain ⟨text, -, htext, -⟩ := hboth pointer hpo
      exact ⟨text, htext⟩
    have hn : Textual window.fragment.textPointers payload := by
      intro pointer hpo
      obtain ⟨-, next, -, hnext, -⟩ := hboth pointer hpo
      exact ⟨next, hnext⟩
    have ht : ∀ other ∈ first :: more, Textual window.fragment.textPointers other := by
      cases more with
      | nil =>
        intro other ho
        have hf : window.payload = first := hh.payload
        rw [List.mem_singleton.mp ho, ← hf]
        exact hw
      | cons next more => exact (hh.valid (by simp)).1
    have hjoin : ∀ pointer ∈ window.fragment.textPointers,
        pointerText window.payload pointer ++ pointerText payload pointer =
          String.join ((first :: (more ++ [payload])).map (pointerText · pointer)) := by
      intro pointer hpo
      rw [hh.payload, pointerText_mergedPayload (fun _ => ht) hpo,
        ← List.cons_append, List.map_append, String.join_append]
      simp [String.join]
    have ht' : ∀ other ∈ first :: (more ++ [payload]),
        Textual window.fragment.textPointers other := by
      intro other ho
      rw [← List.cons_append] at ho
      rcases List.mem_append.mp ho with ho | ho
      · exact ht other ho
      · rw [List.mem_singleton.mp ho]
        exact hn
    constructor
    · rw [mergedPayload_concat]
      exact foldl_mergeText (fun _ hp => hp) hw hn hjoin
    · intro _
      refine ⟨ht', fun pointer hpo => ?_⟩
      obtain ⟨text, next, htext, hnext, hle⟩ := hboth pointer hpo
      rw [pointerText_mergedPayload (fun _ => ht') hpo, ← hjoin pointer hpo,
        pointerText_eq htext, pointerText_eq hnext, String.utf8ByteSize_append]
      exact hle
  · exact .inl rfl

end Todex

import Todex.Conversation.Segment.Frame

/-!
# Seal-time slimming

A streaming progress record is replaced by a marker only when a terminal record for the same
stream comes later in the same segment. Matching is by id, never by position or text.
-/

namespace Todex

open Json (Members)

/-- The latest sequence that finished an id, by turn and id. -/
abbrev ScopedSequences := Std.ExtTreeMap (Option String × String) Nat Std.pairCmp

/-- The turn a record belongs to. -/
def turnOf (payload : Json) : Option String :=
  (payload.text "turnId").or ((payload.get "block").bind (·.text "turnId"))

def blockId (payload : Json) : Option String := (payload.get "block").bind (·.text "id")

/-- The ids a final answer replaces. -/
def superseded (payload : Json) : List Json :=
  (((payload.get "block").bind (·.get "supersedes")).bind Json.asArray).getD []

def terminalToolStatus (payload : Json) : Bool :=
  payload.text "status" = some "completed" ∨ payload.text "status" = some "failed"

/-- The terminal ids of a segment. -/
structure SlimPlan where
  messages : ScopedSequences
  tools : ScopedSequences
  subagents : Std.ExtTreeMap String Nat

namespace SlimPlan

def empty : SlimPlan := ⟨∅, ∅, ∅⟩

/-- Raise the sequence of a key. -/
def raise {α : Type} {cmp : α → α → Ordering} [Std.TransCmp cmp] (m : Std.ExtTreeMap α Nat cmp)
    (key : α) (sequence : Nat) : Std.ExtTreeMap α Nat cmp :=
  m.alter key fun old => some (max (old.getD 0) sequence)

/-- Note that `event` finishes `id` in its turn. -/
def mark (event : ConversationEvent) (m : ScopedSequences) (id : Option String) :
    ScopedSequences :=
  match id with
  | some id => raise m (turnOf event.payload, id) event.sequence
  | none => m

/-- Collect the terminal ids of a record. -/
def observe (self : SlimPlan) (event : ConversationEvent) : SlimPlan :=
  let payload := event.payload
  match event.eventType with
  | "message.completed" =>
    { self with
      messages := (superseded payload).foldl (fun m id => mark event m id.asStr)
        (mark event self.messages (blockId payload)) }
  | "tool.completed" | "tool.failed" =>
    { self with
      tools := mark event (mark event self.tools (blockId payload)) (payload.text "toolCallId") }
  | "tool.updated" =>
    if terminalToolStatus payload then
      { self with tools := mark event self.tools (payload.text "toolCallId") }
    else self
  | "subagent.completed" | "subagent.failed" | "subagent.cancelled" =>
    match payload.text "subagentId" with
    | some id => { self with subagents := raise self.subagents id event.sequence }
    | none => self
  | _ => self

/-- Whether the id was finished after the record. -/
def later (event : ConversationEvent) (terminal : Option Nat) : Bool :=
  terminal.any (event.sequence < ·)

/-- Whether the id was finished after the record in the record's turn. -/
def laterInTurn (event : ConversationEvent) (m : ScopedSequences) (id : Option String) : Bool :=
  id.any fun id => later event m[(turnOf event.payload, id)]?

/-- Whether the plan replaces the record by a marker. -/
def strips (self : SlimPlan) (event : ConversationEvent) : Bool :=
  let payload := event.payload
  if (payload.get encryptedField).isSome then false
  else
    match event.eventType with
    | "message.delta" => laterInTurn event self.messages (blockId payload)
    | "tool.updated" =>
      !terminalToolStatus payload &&
        (laterInTurn event self.tools (payload.text "toolCallId") ||
          laterInTurn event self.tools (blockId payload))
    | "subagent.updated" => (payload.text "subagentId").any fun id => later event self.subagents[id]?
    | _ => false

end SlimPlan

/-! ### How a record is stored -/

/-- The keys a segment build may encrypt with, by id. -/
structure SealPolicy where
  keys : Std.ExtTreeMap String SegmentKey

/-- One record as a build will store it. -/
structure Classified where
  /-- What the envelope stream describes and the digest folds in. -/
  stored : ConversationEvent
  /-- The plaintext, for slimming; missing for ciphertext that is passed through. -/
  view : Option ConversationEvent
  /-- The group its content (or its marker's) goes to. -/
  group : FrameGroup

variable (P : Primitives)

/-- Decide how a record of a plaintext journal file is stored. -/
def SealPolicy.classify (self : SealPolicy) (event : ConversationEvent) (conversationId : String) :
    Classified :=
  match encryptedContent event.payload with
  | some encrypted =>
    let opened : Option (String × Json) := do
      let kid ← (← encrypted.get "kid").asStr
      let key ← self.keys[kid]?
      let (full, _) ← openEvent P encrypted conversationId event.sequence key
      return (kid, full)
    match opened with
    | some (kid, full) =>
      { stored := event, view := some { event with payload := full }, group := .sealed kid }
    | none => { stored := event, view := none, group := .passthrough }
  | none => { stored := event, view := some event, group := .plain }

/-- A record is plaintext, ciphertext that is passed through, or ciphertext that was opened. -/
lemma SealPolicy.classify_cases (policy : SealPolicy) (event : ConversationEvent) (conversationId : String) :
    encryptedContent event.payload = none ∧ policy.classify P event conversationId = ⟨event, some event, .plain⟩ ∨
    (∃ encrypted, encryptedContent event.payload = some encrypted ∧
      policy.classify P event conversationId = ⟨event, none, .passthrough⟩) ∨
    ∃ encrypted kid key full summary, encryptedContent event.payload = some encrypted ∧ policy.keys[kid]? = some key ∧
      openEvent P encrypted conversationId event.sequence key = some (full, summary) ∧
      policy.classify P event conversationId = ⟨event, some { event with payload := full }, .sealed kid⟩ := by
  cases he : encryptedContent event.payload with
  | none => exact .inl ⟨rfl, by simp only [classify, he]⟩
  | some encrypted =>
    refine .inr ?_
    simp only [classify, he]
    split
    · next kid full ho =>
      simp only [Option.bind_eq_bind, Option.bind_eq_some_iff, Option.pure_def, Option.some.injEq, Prod.mk.injEq] at ho
      obtain ⟨value, -, kid', -, key, hk, ⟨full', summary⟩, hop, rfl, rfl⟩ := ho
      exact .inr ⟨encrypted, kid', key, full', summary, rfl, hk, hop, rfl⟩
    · exact .inl ⟨encrypted, rfl, rfl⟩

namespace Classified

/-- What the plan sees of a record. -/
def observed (self : Classified) : ConversationEvent := self.view.getD self.stored

/-- Whether the record is replaced by a marker. -/
def isStripped (self : Classified) (plan : SlimPlan) : Bool := self.view.any plan.strips

end Classified

/-- The plan of a segment: the terminal ids of all its records. -/
def SealPolicy.slimPlan (self : SealPolicy) (conversationId : String)
    (events : List ConversationEvent) : SlimPlan :=
  events.foldl (fun plan event => plan.observe (self.classify P event conversationId).observed)
    .empty

/-! ### Covered records -/

/-- The messages whose text a record carries in full. -/
def finishedMessages (event : ConversationEvent) : List String :=
  if event.eventType = "message.completed" then
    (blockId event.payload).toList ++ (superseded event.payload).filterMap Json.asStr
  else []

/-- The tool calls whose result a record carries. -/
def finishedTools (event : ConversationEvent) : List String :=
  if event.eventType = "tool.completed" ∨ event.eventType = "tool.failed" then
    (blockId event.payload).toList ++ (event.payload.text "toolCallId").toList
  else if event.eventType = "tool.updated" ∧ terminalToolStatus event.payload then
    (event.payload.text "toolCallId").toList
  else []

/-- The subagents whose outcome a record carries. -/
def finishedSubagents (event : ConversationEvent) : List String :=
  if event.eventType ∈ ["subagent.completed", "subagent.failed", "subagent.cancelled"] then
    (event.payload.text "subagentId").toList
  else []

/-- The ids a streaming record can be covered by. -/
def streamIds (event : ConversationEvent) : List String :=
  match event.eventType with
  | "message.delta" => (blockId event.payload).toList
  | "tool.updated" => (event.payload.text "toolCallId").toList ++ (blockId event.payload).toList
  | "subagent.updated" => (event.payload.text "subagentId").toList
  | _ => []

/-- `final` carries the final content of the streaming record `event`. Messages and tools are
matched within a turn; a subagent outlives turns. -/
inductive Covers (final event : ConversationEvent) : Prop
  | message (id : String) : event.eventType = "message.delta" → id ∈ streamIds event →
      id ∈ finishedMessages final → turnOf final.payload = turnOf event.payload → Covers final event
  | tool (id : String) : event.eventType = "tool.updated" → id ∈ streamIds event →
      id ∈ finishedTools final → turnOf final.payload = turnOf event.payload → Covers final event
  | subagent (id : String) : event.eventType = "subagent.updated" → id ∈ streamIds event →
      id ∈ finishedSubagents final → Covers final event

/-! ### The plan holds terminal ids only -/

variable {event : ConversationEvent} {k : Option String × String} {plan : SlimPlan} {n : Nat} {m : ScopedSequences}
  {id : String}

namespace SlimPlan

section Raise

variable {α : Type} {cmp : α → α → Ordering} [Std.TransCmp cmp] [Std.LawfulEqCmp cmp]
  [DecidableEq α]

lemma of_getElem?_raise {m : Std.ExtTreeMap α Nat cmp} {key k : α} {sequence : Nat}
    (h : (raise m key sequence)[k]? = some n) : m[k]? = some n ∨ k = key ∧ n = sequence := by
  rw [raise, Std.ExtTreeMap.getElem?_alter_eq_ite] at h
  split_ifs at h with hk
  · subst hk
    cases hold : m[key]? with
    | none => exact .inr ⟨rfl, by simpa [hold, eq_comm] using h⟩
    | some old =>
      simp only [hold, Option.getD_some, Option.some.injEq] at h
      rcases max_choice old sequence with hm | hm
      · exact .inl (by rw [← h, hm])
      · exact .inr ⟨rfl, by rw [← h, hm]⟩
  · exact .inl h

end Raise

lemma of_getElem?_mark {id : Option String} (h : (mark event m id)[k]? = some n) :
    m[k]? = some n ∨ n = event.sequence ∧ k.1 = turnOf event.payload ∧ k.2 ∈ id := by
  cases id with
  | none => exact .inl h
  | some id =>
    rcases of_getElem?_raise h with h | ⟨rfl, rfl⟩
    · exact .inl h
    · exact .inr ⟨rfl, rfl, rfl⟩

lemma of_getElem?_foldl_mark {ids : List Json} (h : (ids.foldl (fun m id => mark event m id.asStr) m)[k]? = some n) :
    m[k]? = some n ∨ n = event.sequence ∧ k.1 = turnOf event.payload ∧ k.2 ∈ ids.filterMap Json.asStr := by
  induction ids generalizing m with
  | nil => exact .inl h
  | cons id ids ih =>
    rcases ih h with h | ⟨hn, hk, hid⟩
    · rcases of_getElem?_mark h with h | ⟨hn, hk, hid⟩
      · exact .inl h
      · exact .inr ⟨hn, hk, List.mem_filterMap.mpr ⟨id, by simp, hid⟩⟩
    · obtain ⟨id', hid', hk'⟩ := List.mem_filterMap.mp hid
      exact .inr ⟨hn, hk, List.mem_filterMap.mpr ⟨id', by simp [hid'], hk'⟩⟩

lemma of_messages_observe (h : (plan.observe event).messages[k]? = some n) :
    plan.messages[k]? = some n ∨ n = event.sequence ∧ k.1 = turnOf event.payload ∧ k.2 ∈ finishedMessages event := by
  simp only [observe] at h
  split at h
  · next hty =>
    have hf : finishedMessages event = (blockId event.payload).toList ++
        (superseded event.payload).filterMap Json.asStr := if_pos hty
    rw [hf, List.mem_append, Option.mem_toList]
    rcases of_getElem?_foldl_mark h with h | ⟨hn, ht, hid⟩
    · rcases of_getElem?_mark h with h | ⟨hn, ht, hid⟩
      · exact .inl h
      · exact .inr ⟨hn, ht, .inl hid⟩
    · exact .inr ⟨hn, ht, .inr hid⟩
  all_goals first | exact .inl h | (split at h <;> exact .inl h)

lemma of_tools_observe (h : (plan.observe event).tools[k]? = some n) :
    plan.tools[k]? = some n ∨ n = event.sequence ∧ k.1 = turnOf event.payload ∧ k.2 ∈ finishedTools event := by
  -- a finished call names its block and its tool call
  have hf (hty : event.eventType = "tool.completed" ∨ event.eventType = "tool.failed")
      (h : (mark event (mark event plan.tools (blockId event.payload))
        (event.payload.text "toolCallId"))[k]? = some n) : plan.tools[k]? = some n ∨
      n = event.sequence ∧ k.1 = turnOf event.payload ∧ k.2 ∈ finishedTools event := by
    have hfi : finishedTools event = (blockId event.payload).toList ++
        (event.payload.text "toolCallId").toList := if_pos hty
    rw [hfi, List.mem_append, Option.mem_toList, Option.mem_toList]
    rcases of_getElem?_mark h with h | ⟨hn, htu, hid⟩
    · rcases of_getElem?_mark h with h | ⟨hn, htu, hid⟩
      · exact .inl h
      · exact .inr ⟨hn, htu, .inl hid⟩
    · exact .inr ⟨hn, htu, .inr hid⟩
  simp only [observe] at h
  split at h
  · exact .inl h
  · next hty => exact hf (.inl hty) h
  · next hty => exact hf (.inr hty) h
  · next hty =>
    split_ifs at h with ht
    · rcases of_getElem?_mark h with h | ⟨hn, htu, hid⟩
      · exact .inl h
      · refine .inr ⟨hn, htu, ?_⟩
        simpa [finishedTools, hty, ht] using hid
    · exact .inl h
  all_goals first | exact .inl h | (split at h <;> exact .inl h)

lemma of_subagents_observe {k : String} (h : (plan.observe event).subagents[k]? = some n) :
    plan.subagents[k]? = some n ∨ n = event.sequence ∧ k ∈ finishedSubagents event := by
  have hf {id : String} (hid : event.payload.text "subagentId" = some id)
      (ht : event.eventType ∈ ["subagent.completed", "subagent.failed", "subagent.cancelled"])
      (h : (raise plan.subagents id event.sequence)[k]? = some n) :
      plan.subagents[k]? = some n ∨ n = event.sequence ∧ k ∈ finishedSubagents event := by
    rcases of_getElem?_raise h with h | ⟨rfl, rfl⟩
    · exact .inl h
    · refine .inr ⟨rfl, ?_⟩
      rw [finishedSubagents, if_pos ht, hid]
      exact List.mem_singleton.mpr rfl
  simp only [observe] at h
  split at h
  · exact .inl h
  · exact .inl h
  · exact .inl h
  · split_ifs at h <;> exact .inl h
  · next ht =>
    split at h
    · next id hid => exact hf hid (by simp [ht]) h
    · exact .inl h
  · next ht =>
    split at h
    · next id hid => exact hf hid (by simp [ht]) h
    · exact .inl h
  · next ht =>
    split at h
    · next id hid => exact hf hid (by simp [ht]) h
    · exact .inl h
  · exact .inl h

/-- Every sequence of the plan is that of a record seen so far that finishes the id. -/
structure From (plan : SlimPlan) (seen : List ConversationEvent) : Prop where
  messages : ∀ (k : Option String × String) n, plan.messages[k]? = some n →
    ∃ e ∈ seen, n = e.sequence ∧ k.1 = turnOf e.payload ∧ k.2 ∈ finishedMessages e
  tools : ∀ (k : Option String × String) n, plan.tools[k]? = some n →
    ∃ e ∈ seen, n = e.sequence ∧ k.1 = turnOf e.payload ∧ k.2 ∈ finishedTools e
  subagents : ∀ (k : String) n, plan.subagents[k]? = some n →
    ∃ e ∈ seen, n = e.sequence ∧ k ∈ finishedSubagents e

lemma From.observe (h : From plan seen) (event : ConversationEvent) : From (plan.observe event) (seen ++ [event]) := by
  -- what was there stays, and what is new comes from the event
  have old {p : ConversationEvent → Prop} : (∃ e ∈ seen, p e) → ∃ e ∈ seen ++ [event], p e :=
    fun ⟨e, he, hp⟩ => ⟨e, List.mem_append_left _ he, hp⟩
  refine ⟨fun k n hk => ?_, fun k n hk => ?_, fun k n hk => ?_⟩
  · exact (of_messages_observe hk).elim (fun hk => old (h.messages k n hk))
      fun hn => ⟨event, by simp, hn⟩
  · exact (of_tools_observe hk).elim (fun hk => old (h.tools k n hk))
      fun hn => ⟨event, by simp, hn⟩
  · exact (of_subagents_observe hk).elim (fun hk => old (h.subagents k n hk))
      fun hn => ⟨event, by simp, hn⟩

lemma from_foldl_observe (events : List ConversationEvent) : From (events.foldl observe empty) events := by
  induction events using List.reverseRecOn with
  | nil => constructor <;> simp [empty]
  | append_singleton events event ih =>
    rw [List.foldl_append]
    exact ih.observe event

/-! ### Stripped records are covered -/

lemma exists_of_laterInTurn {id : Option String} (h : laterInTurn event m id = true) :
    ∃ i ∈ id, ∃ n, m[(turnOf event.payload, i)]? = some n ∧ event.sequence < n := by
  simp only [laterInTurn, later, Option.any_eq_true, decide_eq_true_eq] at h
  obtain ⟨i, hi, n, hn, hlt⟩ := h
  exact ⟨i, hi, n, hn, hlt⟩

/-- A stripped record has a later record that carries its final content. -/
lemma From.covers {seen : List ConversationEvent} (h : From plan seen) (hs : plan.strips event = true) :
    ∃ e ∈ seen, event.sequence < e.sequence ∧ Covers e event := by
  simp only [strips] at hs
  split_ifs at hs
  split at hs
  · next ht =>
    obtain ⟨id, hid, n, hn, hlt⟩ := exists_of_laterInTurn hs
    obtain ⟨e, he, rfl, htu, hf⟩ := h.messages _ n hn
    exact ⟨e, he, hlt, .message id ht (by simpa [streamIds, ht] using hid) hf htu.symm⟩
  · next ht =>
    obtain ⟨-, hl⟩ := Bool.and_eq_true_iff.mp hs
    -- the record goes by its tool call or by its block
    obtain ⟨id, hid, n, hn, hlt⟩ : ∃ i ∈ streamIds event, ∃ n,
        plan.tools[(turnOf event.payload, i)]? = some n ∧ event.sequence < n := by
      rcases Bool.or_eq_true_iff.mp hl with hl | hl
      · obtain ⟨id, hid, hn⟩ := exists_of_laterInTurn hl
        exact ⟨id, by simp [streamIds, ht, Option.mem_def.mp hid], hn⟩
      · obtain ⟨id, hid, hn⟩ := exists_of_laterInTurn hl
        exact ⟨id, by simp [streamIds, ht, Option.mem_def.mp hid], hn⟩
    obtain ⟨e, he, rfl, htu, hf⟩ := h.tools _ n hn
    exact ⟨e, he, hlt, .tool id ht hid hf htu.symm⟩
  · next ht =>
    simp only [later, Option.any_eq_true, decide_eq_true_eq] at hs
    obtain ⟨id, hid, n, hn, hlt⟩ := hs
    obtain ⟨e, he, rfl, hf⟩ := h.subagents _ n hn
    exact ⟨e, he, hlt, .subagent id ht (by simp [streamIds, ht, hid]) hf⟩
  · cases hs

lemma strips_of_finishedMessages (h : id ∈ finishedMessages event) (plan : SlimPlan) : plan.strips event = false := by
  rw [finishedMessages] at h
  split_ifs at h with ht
  · simp [strips, ht]
  · cases h

lemma strips_of_finishedTools (h : id ∈ finishedTools event) (plan : SlimPlan) : plan.strips event = false := by
  rw [finishedTools] at h
  split_ifs at h with ht hu
  · rcases ht with ht | ht <;> simp [strips, ht]
  · simp [strips, hu]
  · cases h

lemma strips_of_finishedSubagents (h : id ∈ finishedSubagents event) (plan : SlimPlan) : plan.strips event = false := by
  rw [finishedSubagents] at h
  split_ifs at h with ht
  · simp only [List.mem_cons, List.not_mem_nil, or_false] at ht
    rcases ht with ht | ht | ht <;> simp [strips, ht]
  · cases h

lemma strips_of_covers (h : Covers final event) (plan : SlimPlan) : plan.strips final = false := by
  cases h with
  | message id _ _ hf _ => exact strips_of_finishedMessages hf plan
  | tool id _ _ hf _ => exact strips_of_finishedTools hf plan
  | subagent id _ _ hf => exact strips_of_finishedSubagents hf plan

lemma strips_of_streamIds_eq_nil (h : streamIds event = []) (plan : SlimPlan) : plan.strips event = false := by
  by_contra hs
  rw [Bool.not_eq_false] at hs
  have hid : ∃ id, id ∈ streamIds event := by
    simp only [strips] at hs
    split_ifs at hs
    split at hs
    · next ht =>
      obtain ⟨id, hid, -⟩ := exists_of_laterInTurn hs
      exact ⟨id, by simpa [streamIds, ht] using hid⟩
    · next ht =>
      obtain ⟨-, hl⟩ := Bool.and_eq_true_iff.mp hs
      rcases Bool.or_eq_true_iff.mp hl with hl | hl
      · obtain ⟨id, hid, -⟩ := exists_of_laterInTurn hl
        exact ⟨id, by simp [streamIds, ht, Option.mem_def.mp hid]⟩
      · obtain ⟨id, hid, -⟩ := exists_of_laterInTurn hl
        exact ⟨id, by simp [streamIds, ht, Option.mem_def.mp hid]⟩
    · next ht =>
      obtain ⟨id, hid, -⟩ := (Option.any_eq_true ..).mp hs
      exact ⟨id, by simp [streamIds, ht, hid]⟩
    · cases hs
  rw [h] at hid
  simp at hid

end SlimPlan

section Build

variable (policy : SealPolicy) (conversationId : String)

lemma sequence_observed (event : ConversationEvent) :
    (policy.classify P event conversationId).observed.sequence = event.sequence := by
  rcases policy.classify_cases P event conversationId with
    ⟨-, h⟩ | ⟨_, -, h⟩ | ⟨_, _, _, _, _, -, -, -, h⟩ <;> rw [h] <;> rfl

lemma eventType_observed (event : ConversationEvent) :
    (policy.classify P event conversationId).observed.eventType = event.eventType := by
  rcases policy.classify_cases P event conversationId with
    ⟨-, h⟩ | ⟨_, -, h⟩ | ⟨_, _, _, _, _, -, -, -, h⟩ <;> rw [h] <;> rfl

lemma slimPlan_from (events : List ConversationEvent) : (policy.slimPlan P conversationId events).From
      (events.map fun e => (policy.classify P e conversationId).observed) := by
  have h := SlimPlan.from_foldl_observe
    (events.map fun e => (policy.classify P e conversationId).observed)
  rwa [List.foldl_map] at h

lemma strips_of_isStripped {classified : Classified} (h : classified.isStripped plan = true) :
    plan.strips classified.observed = true := by
  obtain ⟨view, hv, hs⟩ := (Option.any_eq_true ..).mp h
  rw [Classified.observed, hv]
  exact hs

/-- Slimming never loses content a reader cannot recover from the same segment: a stripped record
has a later record that carries its final content and is kept. Records without an id, thought
deltas and records whose content cannot be read are kept. -/
theorem isStripped_covered (events : List ConversationEvent) (hseq : (events.map (·.sequence)).Pairwise (· < ·)) :
    let plan := policy.slimPlan P conversationId events
    let stored (e : ConversationEvent) := policy.classify P e conversationId
    (∀ i (hi : i < events.length), (stored events[i]).isStripped plan = true →
      ∃ j, ∃ hj : j < events.length, i < j ∧
        Covers (stored events[j]).observed (stored events[i]).observed ∧
        (stored events[j]).isStripped plan = false) ∧
    ∀ e ∈ events, (stored e).view = none ∨ e.eventType = "thought.delta" ∨
      streamIds (stored e).observed = [] → (stored e).isStripped plan = false := by
  intro plan stored
  have hplan := slimPlan_from P policy conversationId events
  have hse (e) : (stored e).observed.sequence = e.sequence :=
    sequence_observed P policy conversationId e
  have het (e) : (stored e).observed.eventType = e.eventType :=
    eventType_observed P policy conversationId e
  constructor
  · intro i hi hs
    obtain ⟨_, hmem, hlt, hc⟩ := hplan.covers (strips_of_isStripped hs)
    obtain ⟨e, he, rfl⟩ := List.mem_map.mp hmem
    obtain ⟨j, hj, rfl⟩ := List.mem_iff_getElem.mp he
    change (stored events[i]).observed.sequence < (stored events[j]).observed.sequence at hlt
    rw [hse, hse] at hlt
    refine ⟨j, hj, ?_, hc, ?_⟩
    · -- sequences grow, so the covering record stands later
      by_contra hij
      rcases Nat.lt_or_eq_of_le (not_lt.mp hij) with hji | rfl
      · have := List.pairwise_iff_getElem.mp hseq j i (by simpa) (by simpa) hji
        simp only [List.getElem_map] at this
        omega
      · omega
    · by_contra hs
      rw [Bool.not_eq_false] at hs
      have := strips_of_isStripped hs
      rw [SlimPlan.strips_of_covers hc] at this
      cases this
  · intro e _ hkept
    by_contra hs
    rw [Bool.not_eq_false] at hs
    have hst := strips_of_isStripped hs
    rcases hkept with hview | htype | hids
    · rw [Classified.isStripped, hview] at hs
      cases hs
    · rw [← het] at htype
      rw [SlimPlan.strips_of_streamIds_eq_nil (by simp [streamIds, htype])] at hst
      cases hst
    · rw [SlimPlan.strips_of_streamIds_eq_nil hids] at hst
      cases hst

end Build

/-- A subagent that reports in one turn and finishes in the next. -/
def subagentAcrossTurns : List ConversationEvent :=
  [.new "evt_1" ⟨0, DateTime.epoch_inRange⟩ "conv" 1 "subagent.updated"
      (.object [("subagentId", .string "agent"), ("turnId", .string "turn_1")]),
    .new "evt_2" ⟨1000, by decide⟩ "conv" 2 "subagent.completed"
      (.object [("subagentId", .string "agent"), ("turnId", .string "turn_2")])]

/-- A stripped record need not have a later record of its own turn. -/
theorem isStripped_of_other_turn :
    ∃ e ∈ subagentAcrossTurns, (SealPolicy.classify .standard ⟨∅⟩ e "conv").isStripped
          (SealPolicy.slimPlan .standard ⟨∅⟩ "conv" subagentAcrossTurns) = true ∧
        ∀ f ∈ subagentAcrossTurns, e.sequence < f.sequence → turnOf f.payload ≠ turnOf e.payload := by
  decide +kernel

theorem isStripped_covered_subagent :
    ∃ j, ∃ hj : j < subagentAcrossTurns.length, 0 < j ∧
      Covers (SealPolicy.classify .standard ⟨∅⟩ subagentAcrossTurns[j] "conv").observed
        (SealPolicy.classify .standard ⟨∅⟩ subagentAcrossTurns[0] "conv").observed := by
  obtain ⟨j, hj, hlt, hc, -⟩ := (isStripped_covered .standard ⟨∅⟩ "conv"
    subagentAcrossTurns (by decide)).1 0 (by decide) (by decide +kernel)
  exact ⟨j, hj, hlt, hc⟩

end Todex

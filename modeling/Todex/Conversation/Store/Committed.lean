import Todex.Conversation.Store.Tail

/-!
# Appends are all or nothing

A failed append leaves no record behind, and the hub publishes what was committed, if the two steps
that make this true succeed: cutting a failed write off again and writing the manifest of a changed
status.
-/

namespace Todex

open Program

variable {P : Primitives} {config : StoreConfig} {items : List JournalItem} {n : Nat}
  {published : List ConversationEvent} {state : StoreState}

/-! ### Record keys -/

/-- `KID_LEN`. -/
def kidLen : Nat := 16

/-- The id of the key is of the right length, and `kid` is its text. -/
def SegmentKey.HasKid (P : Primitives) (kid : String) (key : SegmentKey) : Prop :=
  key.kid.length = kidLen ∧ kid = P.encodeBase64 key.kid

/-- The keys in memory go by their ids. -/
structure ConversationKeys.Sound (P : Primitives) (keys : ConversationKeys) : Prop where
  active : ∀ active ∈ keys.active, active.key.HasKid P active.kid
  retained : ∀ entry ∈ keys.retained, entry.2.HasKid P entry.1

namespace ConversationKeys.Sound

variable {keys : ConversationKeys}

lemma empty : ConversationKeys.Sound P {} := ⟨by simp, by simp⟩

lemma retireActive (h : keys.Sound P) : keys.retireActive.Sound P := by
  unfold ConversationKeys.retireActive
  split
  case h_1 active ha =>
    refine ⟨by simp, ?_⟩
    intro entry he
    rcases List.mem_cons.mp he with rfl | he
    · exact h.active active ha
    · exact h.retained entry (List.mem_of_mem_filter he)
  case h_2 => exact h

lemma abandon (h : keys.Sound P) : keys.abandon.Sound P := ⟨h.retireActive.active, h.retireActive.retained⟩

lemma fallbackKey (h : keys.Sound P) (hf : keys.fallbackKey = some (kid, key)) : key.HasKid P kid := by
  obtain ⟨newest, -, hf⟩ := Option.bind_eq_some_iff.mp hf
  split at hf
  case h_1 active ha =>
    cases hf
    obtain ⟨ha, hkid⟩ := Option.filter_eq_some_iff.mp ha
    rw [← of_decide_eq_true hkid]
    exact h.active active ha
  case h_2 =>
    obtain ⟨entry, he, hf⟩ := Option.map_eq_some_iff.mp hf
    cases hf
    have hkid := List.find?_some he
    rw [← of_decide_eq_true hkid]
    exact h.retained entry (List.mem_of_find?_eq_some he)

lemma currentKeyFor (h : keys.Sound P) {io : KeyIo} (hio : io.generated.kid.length = kidLen) :
    (ConversationKeys.currentKeyFor P io).Ensures keys
      (fun current after => after.Sound P ∧ current.2.HasKid P current.1) (ConversationKeys.Sound P) := by
  refine ensures_ofExcept_bind (fun recipients _ => ensures_get_bind ?_) h
  split
  case h_1 active ha => exact ensures_pure ⟨h, h.active active (Option.filter_eq_some_iff.mp ha).1⟩
  case h_2 =>
    refine ensures_modify_bind ?_
    dsimp only
    split_ifs
    · exact ensures_fail h.retireActive
    refine ensures_failWith_bind (ensures_modify_bind (ensures_pure ⟨⟨?_, h.retireActive.retained⟩, hio, rfl⟩))
      h.retireActive
    rintro _ ⟨⟩
    exact ⟨hio, rfl⟩

end ConversationKeys.Sound

/-- What a record may be sealed under: a key under its id, or nothing in a store without history keys. -/
def StoreConfig.SealsUnder (P : Primitives) (config : StoreConfig) :
    Option (String × SegmentKey × FingerprintKey) → Prop
  | some (kid, key, _) => config.history = true ∧ key.HasKid P kid
  | none => config.history = false

/-- The journal holds these items and ends at `n`, and the hub has published these events. -/
structure StoreState.Holds (P : Primitives) (conversationId : String) (items : List JournalItem) (n : Nat)
    (published : List ConversationEvent) (state : StoreState) : Prop where
  journal : state.journal.Holds P conversationId items n
  published : state.published = published
  keys : state.keys.Sound P

/-! ### Steps before the commit -/

section Steps

variable (h : state.Holds P config.conversationId items n published)

include h

lemma StoreState.Holds.of_journal {after : StoreState} (hj : after.journal = state.journal)
    (hp : after.published = state.published) (hkeys : after.keys.Sound P) :
    after.Holds P config.conversationId items n published :=
  ⟨hj ▸ h.journal, hp.trans h.published, hkeys⟩

lemma getUnlocked_holds (io : Option AppError) : (getUnlocked io).Ensures state
      (fun _ after => after.Holds P config.conversationId items n published)
      (StoreState.Holds P config.conversationId items n published) := by
  refine ensures_get_bind ?_
  cases state.cached with
  | some cached => exact ensures_pure h
  | none => exact ensures_failWith_bind (ensures_modify_bind (h.of_journal rfl rfl h.keys)) h

lemma flushManifestLocked_holds (io : Option AppError) : (flushManifestLocked io).Ensures state
      (fun _ => StoreState.Holds P config.conversationId items n published)
      (StoreState.Holds P config.conversationId items n published) := by
  refine ensures_get_bind ?_
  rcases state.cached with _ | ⟨manifest, _ | _⟩
  · exact ensures_pure h
  · exact ensures_pure h
  · refine ensures_failWith_bind (ensures_modify ?_) h
    exact h.of_journal rfl rfl h.keys

/-- The newest record that is read has the sequence the journal ends at. -/
lemma readLastEventIn_holds (io : Option AppError) : (readLastEventIn P config.conversationId io).Ensures state
      (fun newest after => after.Holds P config.conversationId items n published ∧
        newest.1.elim 0 (·.sequence) = n ∧ (newest.2 = true ↔ after.journal.Closed))
      (StoreState.Holds P config.conversationId items n published) := by
  refine ensures_get_bind ?_
  dsimp only
  have hfile := h.journal.ends.file
  cases hlast : state.journal.lastFile with
  | none =>
    rw [hlast] at hfile
    refine ensures_pure ⟨h, hfile.symm, iff_of_true rfl fun bytes hb => ?_⟩
    rw [hlast] at hb
    cases hb
  | some file =>
    rw [hlast] at hfile
    cases htail : state.journal.tail with
    | some event =>
      obtain ⟨hs, hc⟩ := h.journal.ends.tail event htail
      cases file with
      | segment index bytes => exact ensures_pure ⟨h, hs, iff_of_true rfl hc⟩
      | plain bytes => exact ensures_pure ⟨h, hs, iff_of_true rfl hc⟩
    | none =>
      cases file with
      | segment index bytes =>
        refine ensures_failWith_bind ?_ h
        refine ensures_ofExcept_bind (fun event he => ?_) h
        obtain ⟨segment, hi, hs⟩ := sequence_of_readSegmentTail he
        have hn : event.sequence = n := hs.trans (hfile segment hi)
        have hc : state.journal.Closed := by
          intro bytes hb
          rw [hlast] at hb
          cases hb
        refine ensures_modify_bind (ensures_pure ⟨⟨⟨h.journal.items, h.journal.ends.file, ?_⟩, h.published, h.keys⟩, hn,
          iff_of_true rfl hc⟩)
        rintro _ ⟨⟩
        exact ⟨hn, hc⟩
      | plain bytes =>
        refine ensures_failWith_bind ?_ h
        refine ensures_ofExcept_bind (fun newest hne => ?_) h
        obtain ⟨line, hends, hl, hd⟩ := hfile
        obtain ⟨event, rfl, he⟩ := hends.readPlainTail hl hne
        refine ensures_pure ⟨h, hd event he, ?_⟩
        simp [Journal.Closed, hlast]

lemma followJournal_holds (manifest : ConversationManifest) (newest : Option ConversationEvent) :
    (followJournal manifest newest).Ensures state
      (fun manifest after => manifest.lastSequence = newest.elim 0 (·.sequence) ∧
        after.journal = state.journal ∧
        after.Holds P config.conversationId items n published)
      (StoreState.Holds P config.conversationId items n published) := by
  unfold followJournal
  dsimp only
  split_ifs with hsame hless
  · exact ensures_pure ⟨hsame, rfl, h⟩
  · exact ensures_modify_bind (ensures_pure ⟨rfl, rfl, h.of_journal rfl rfl h.keys.abandon⟩)
  · exact ensures_pure ⟨rfl, rfl, h⟩

lemma closeTorn_holds (io : AppendIo) {terminated : Bool} (ht : terminated = true ↔ state.journal.Closed) :
    (closeTorn io terminated).Ensures state
      (fun terminated after => after.Holds P config.conversationId items n published ∧
        (terminated = true ↔ after.journal.Closed) ∧
        (terminated = false → after.journal.active.getD [] ≠ []))
      (StoreState.Holds P config.conversationId items n published) := by
  refine ensures_get_bind ?_
  dsimp only
  cases terminated with
  | true => exact ensures_pure ⟨h, ht, nofun⟩
  | false =>
    have hopen : ¬ state.journal.Closed := fun hc => by cases ht.mpr hc
    rw [if_neg (by simp)]
    cases ha : state.journal.active.filter (· ≠ []) with
    | some bytes =>
      have hne : state.journal.active.getD [] ≠ [] := by
        obtain ⟨hsome, hne⟩ := Option.filter_eq_some_iff.mp ha
        rw [hsome, Option.getD_some]
        simpa using hne
      cases hlast : state.journal.lastFile with
      | none => exact absurd (fun _ ho => by rw [hlast] at ho; cases ho) hopen
      | some file => exact ensures_pure ⟨h, ht, fun _ => hne⟩
    | none =>
      have hnil : state.journal.active.getD [] = [] := by
        cases hsome : state.journal.active with
        | none => rfl
        | some bytes => rw [hsome, Option.filter_some] at ha; simpa using ha
      cases hlast : state.journal.lastFile with
      | none => exact absurd (fun _ ho => by rw [hlast] at ho; cases ho) hopen
      | some file =>
        cases file with
        | segment index bytes =>
          exact absurd (fun _ ho => by rw [hlast] at ho; cases ho) hopen
        | plain bytes =>
          obtain ⟨hj, hc⟩ := h.journal.closeLast hnil hlast hopen
          cases io.closing with
          | none =>
            exact ensures_modify_bind (ensures_failWith_bind
              (ensures_pure ⟨⟨hj, h.published, h.keys⟩, iff_of_true rfl hc, nofun⟩)
              ⟨hj, h.published, h.keys⟩)
          | some closing =>
            obtain ⟨newline, error⟩ := closing
            cases newline with
            | true => exact ensures_modify_bind (ensures_fail ⟨hj, h.published, h.keys⟩)
            | false => exact ensures_fail h

lemma currentOrFallbackKey_holds {io : KeyIo} (hio : io.generated.kid.length = kidLen) :
    (currentOrFallbackKey P io).Ensures state
      (fun current after => (after.Holds P config.conversationId items n published ∧
        after.journal = state.journal) ∧ current.2.HasKid P current.1)
      (StoreState.Holds P config.conversationId items n published) := by
  refine Ensures.bind (Q := fun result after => (after.Holds P config.conversationId items n published ∧
    after.journal = state.journal) ∧ ∀ current, result = .ok current → current.2.HasKid P current.1)
    (ensures_attempt ((h.keys.currentKeyFor hio).mono ?_ ?_).zoom) ?_
  · rintro current keys ⟨hkeys, hkid⟩
    refine ⟨⟨h.of_journal rfl rfl hkeys, rfl⟩, ?_⟩
    rintro _ ⟨⟩
    exact hkid
  · intro keys hkeys error
    exact ⟨⟨h.of_journal rfl rfl hkeys, rfl⟩, nofun⟩
  · rintro result after ⟨ha, hkid⟩
    cases result with
    | ok current => exact ensures_pure ⟨ha, hkid current rfl⟩
    | error error =>
      refine ensures_get_bind ?_
      cases hf : after.keys.fallbackKey with
      | some previous => exact ensures_pure ⟨ha, ha.1.keys.fallbackKey hf⟩
      | none => exact ensures_fail ha.1

lemma recordKey_holds {io : RecordKeyIo} (hio : io.generated.kid.length = kidLen) :
    (recordKey P config io).Ensures state
      (fun key after => (after.Holds P config.conversationId items n published ∧
        after.journal = state.journal) ∧ config.SealsUnder P key)
      (StoreState.Holds P config.conversationId items n published) := by
  unfold recordKey
  split_ifs with hh
  · refine .bind (currentOrFallbackKey_holds h hio) ?_
    rintro ⟨kid, key⟩ after ⟨ha, hkid⟩
    exact ensures_ofExcept_bind (fun _ _ => ensures_pure ⟨ha, hh, hkid⟩) ha.1
  · exact ensures_pure ⟨⟨h, rfl⟩, Bool.eq_false_of_not_eq_true hh⟩

lemma afterRename_holds {io : AppendIo} (hio : io.nextKey.generated.kid.length = kidLen) (keyExpiring : Bool)
    (hkey : config.SealsUnder P key) : (afterRename P config io keyExpiring key).Ensures state
      (fun key after => (after.Holds P config.conversationId items n published ∧
        after.journal = state.journal) ∧ config.SealsUnder P key)
      (StoreState.Holds P config.conversationId items n published) := by
  unfold afterRename
  split_ifs
  · refine ensures_modify_bind (recordKey_holds ?_ hio)
    exact h.of_journal rfl rfl h.keys.retireActive
  · exact ensures_pure ⟨⟨h, rfl⟩, hkey⟩

lemma rotateActive_holds {io : AppendIo} (hio : io.nextKey.generated.kid.length = kidLen) (keyExpiring : Bool)
    {terminated : Bool} (hkey : config.SealsUnder P key) (ht : terminated = true ↔ state.journal.Closed)
    (hac : terminated = false → state.journal.active.getD [] ≠ []) :
    (rotateActive P config io keyExpiring terminated key).Ensures state
      (fun result after => after.Holds P config.conversationId items n published ∧
        (result.1 = true ↔ after.journal.Closed) ∧ config.SealsUnder P result.2)
      (StoreState.Holds P config.conversationId items n published) := by
  refine ensures_get_bind ?_
  by_cases hr : (keyExpiring || activeReached state.journal config.segmentBytes) = true
  · rw [if_pos hr]
    cases io.rotation with
    | renamed fresh =>
      have hc : (if terminated then state.journal else closeActive state.journal).Holds P
          config.conversationId items n ∧
          (if terminated then state.journal else closeActive state.journal).Closed := by
        cases terminated with
        | true => exact ⟨h.journal, ht.mp rfl⟩
        | false => exact h.journal.closeActive (hac rfl) (by simpa using ht)
      obtain ⟨hre, ha⟩ := hc.1.renameActive fresh hc.2
      refine ensures_modify_bind ?_
      refine .bind (afterRename_holds ?_ hio keyExpiring hkey) ?_
      · exact ⟨hre, h.published, h.keys⟩
      · rintro next after ⟨⟨hh, hj⟩, hnext⟩
        exact ensures_pure ⟨hh, iff_of_true rfl (hj ▸ ha), hnext⟩
    | stuck newline reread =>
      cases terminated with
      | true => exact ensures_pure ⟨h, ht, hkey⟩
      | false =>
        have hj : (if newline then closeActive state.journal else state.journal).Holds P
            config.conversationId items n := by
          cases newline with
          | true => exact (h.journal.closeActive (hac rfl) (by simpa using ht)).1
          | false => exact h.journal
        refine ensures_modify_bind (ensures_failWith_bind ?_ ⟨hj, h.published, h.keys⟩)
        refine .bind (readLastEventIn_holds ?_ reread) ?_
        · exact ⟨hj, h.published, h.keys⟩
        · rintro newest after ⟨ha, -, hc⟩
          exact ensures_pure ⟨ha, hc, hkey⟩
  · rw [if_neg hr]
    exact ensures_pure ⟨h, ht, hkey⟩

end Steps

/-! ### The commit -/

/-- The write leaves nothing behind when it fails. -/
def WriteIo.Clean : WriteIo → Prop
  | .done => True
  | .unopened .. => True
  | .failed _ cut _ => cut = true
  | .unmeasured _ => False

lemma appendJournalLine_holds (h : state.Holds P config.conversationId items n published)
    (line : Bytes) {io : WriteIo} (hio : io.Clean) : (appendJournalLine line io).Ensures state
      (fun _ after => after = { state with journal.active := some (state.journal.active.getD [] ++ line) })
      (StoreState.Holds P config.conversationId items n published) := by
  have hsame : StoreState.Holds P config.conversationId items n published
      { state with journal.active := some (state.journal.active.getD []) } :=
    ⟨h.journal.create, h.published, h.keys⟩
  refine ensures_get_bind ?_
  cases io with
  | done => exact ensures_modify rfl
  | unopened created error =>
    cases created with
    | true => exact ensures_modify_bind (ensures_fail hsame)
    | false => exact ensures_fail h
  | failed stored cut error =>
    cases hio
    refine ensures_modify_bind (ensures_fail ?_)
    simpa using hsame
  | unmeasured error => exact hio.elim

/-- The records were written: their lines follow the lines that were there. -/
structure Journal.Committed (items : List JournalItem) (events : List ConversationEvent)
    (journal : Journal) : Prop where
  items : journal.items = items ++ events.map recordLine
  last : ∀ event, events.getLast? = some event → ∃ bytes,
    journal.lastFile = some (.plain bytes) ∧ EndsWithLine bytes (encodeRecord event) ∧
      bytes.getLast? = some Bytes.newline

lemma Journal.Holds.committed {journal : Journal}
    (h : Journal.Holds P conversationId items n { journal with active := some before })
    (hb : Bytes.Terminated before) (events : List ConversationEvent) :
    Journal.Committed items events { journal with active := some (before ++ events.flatMap fun event =>
        encodeRecord event ++ [Bytes.newline]) } := by
  constructor
  · rw [← h.items, Journal.items, Journal.items, Option.getD_some, Option.getD_some,
      Bytes.textLines_append hb, textLines_records, List.map_append, List.append_assoc,
      List.map_map]
    rfl
  · intro event he
    obtain ⟨earlier, rfl⟩ := List.getLast?_eq_some_iff.mp he
    have hends : EndsWithLine (before ++ (earlier ++ [event]).flatMap fun event =>
        encodeRecord event ++ [Bytes.newline]) (encodeRecord event) := by
      refine ⟨newline_notMem_encodeRecord event, by simpa using encodeRecord_ne_nil event, _,
        hb.append (terminated_records earlier), .inr ?_⟩
      simp
    refine ⟨_, Journal.lastFile_of_active rfl hends.ne_nil, hends, ?_⟩
    simp [List.getLast?_append]

lemma commitLines_holds (h : state.Holds P config.conversationId items n published) {io : AppendIo}
    (hio : io.write.Clean) {terminated : Bool}
    (ht : terminated = true ↔ state.journal.Closed) (events : List ConversationEvent) :
    (commitLines io terminated events).Ensures state
      (fun _ after => after.journal.Committed items events ∧ after.published = published ∧ after.keys.Sound P ∧
        (events = [] → after.Holds P config.conversationId items n published))
      (StoreState.Holds P config.conversationId items n published) := by
  obtain ⟨before, hb, hby, hh⟩ := h.journal.commit ht events
  refine ensures_get_bind ?_
  refine Ensures.bind (Q := fun result after => match result with
    | .ok _ => after = { state with journal.active := some (before ++ events.flatMap fun event =>
      encodeRecord event ++ [Bytes.newline]) }
    | .error _ => after.Holds P config.conversationId items n published)
    (ensures_attempt ((appendJournalLine_holds h _ hio).mono ?_ fun _ ha _ => ha)) ?_
  · rintro ⟨⟩ after rfl
    rw [hby]
  · intro result after ha
    cases result with
    | ok done =>
      obtain rfl := ha
      refine ensures_pure ⟨hh.committed hb events, h.published, h.keys, ?_⟩
      rintro rfl
      refine ⟨?_, h.published, h.keys⟩
      simpa using hh
    | error error =>
      exact ensures_modify_bind (ensures_fail ⟨ha.journal.evict, ha.published, ha.keys.abandon⟩)

lemma mirrorCommitted_spec
    (hc : state.journal.Committed items events) (hp : state.published = published) (hkeys : state.keys.Sound P)
    (hnil : events = [] → state.Holds P config.conversationId items n published) {io : AppendIo}
    (hpe : io.persist = .done) (publish : Bool) (persistedStatus : ConversationStatus)
    (manifest : ConversationManifest) :
    (mirrorCommitted io publish persistedStatus manifest events).Ensures state
      (fun result after => result = events ∧ after.journal.Committed items events ∧
        (publish = true → after.published = published ++ events) ∧ after.keys.Sound P ∧
        ∃ event, events.getLast? = some event ∧ after.journal.tail = some event)
      (StoreState.Holds P config.conversationId items n published) := by
  unfold mirrorCommitted
  cases hlast : events.getLast? with
  | none => exact ensures_fail (hnil (List.getLast?_eq_none_iff.mp hlast))
  | some event =>
    have hca : Journal.Committed items events { state.journal with tail := some event } :=
      ⟨hc.items, hc.last⟩
    refine ensures_modify_bind ?_
    dsimp only
    rw [hpe]
    split_ifs with hs hpu hpu
    · exact ensures_modify_bind (ensures_modify_bind (ensures_pure
        ⟨rfl, hca, fun _ => congrArg (· ++ events) hp, hkeys, event, rfl, rfl⟩))
    · exact ensures_modify_bind (ensures_pure ⟨rfl, hca, fun h => absurd h hpu, hkeys, event, rfl, rfl⟩)
    · exact ensures_modify_bind (ensures_modify_bind (ensures_pure
        ⟨rfl, hca, fun _ => congrArg (· ++ events) hp, hkeys, event, rfl, rfl⟩))
    · exact ensures_modify_bind (ensures_pure ⟨rfl, hca, fun h => absurd h hpu, hkeys, event, rfl, rfl⟩)

variable (config) in
@[simp] lemma length_batchEvents (manifest : ConversationManifest) (stamps : Nat → String × DateTime)
    (prepared : List (String × Json)) : (batchEvents config manifest stamps prepared).length = prepared.length := by
  simp [batchEvents]

variable (config) in
lemma sequences_batchEvents (manifest : ConversationManifest) (stamps : Nat → String × DateTime)
    (prepared : List (String × Json)) :
    (batchEvents config manifest stamps prepared).map (·.sequence) =
      List.range' (manifest.lastSequence + 1) prepared.length := by
  refine List.ext_getElem (by simp [batchEvents]) fun i _ _ => ?_
  simp [batchEvents, ConversationEvent.new]
  omega

@[simp] lemma sequence_storedEvent (key : Option (String × SegmentKey × FingerprintKey))
    (event : ConversationEvent) : (storedEvent P key event).sequence = event.sequence := by
  rcases key with _ | ⟨kid, key, fingerprint⟩
  · rfl
  · rfl

/-- No step fails that an append cannot undo, and the keys it would generate have ids of the right length. -/
structure AppendIo.Clean (io : AppendIo) : Prop where
  write : io.write.Clean
  persist : io.persist = .done
  key : io.key.generated.kid.length = kidLen
  nextKey : io.nextKey.generated.kid.length = kidLen

/-- An append commits and publishes all of its records, or none of them. -/
lemma appendBatchLocked_spec (h : state.Holds P config.conversationId items n published)
    (hio : io.Clean) (entries : List (String × Json)) (publish : Bool) :
    (appendBatchLocked P config entries publish io).Ensures state
      (fun events after => after.journal.Committed items events ∧
        (publish = true → after.published = published ++ events) ∧ after.keys.Sound P ∧
        (∃ event, events.getLast? = some event ∧ after.journal.tail = some event) ∧
        ∃ prepared manifest key, entries.mapM config.prepare = .ok prepared ∧ manifest.lastSequence = n ∧
          config.SealsUnder P key ∧ events = (batchEvents config manifest io.stamps prepared).map (storedEvent P key))
      (StoreState.Holds P config.conversationId items n published) := by
  refine ensures_ofExcept_bind (fun prepared hprepared => ?_) h
  refine .bind (getUnlocked_holds h io.manifest) fun manifest first hf => ?_
  dsimp only
  split_ifs
  · exact ensures_fail hf
  refine ensures_failWith_bind ?_ hf
  refine .bind (readLastEventIn_holds hf io.tail) ?_
  rintro ⟨newest, terminated⟩ second ⟨hsc, hn, ht⟩
  refine .bind (followJournal_holds hsc manifest newest) ?_
  rintro followed third ⟨hse, hj, hth⟩
  rw [← hj] at ht
  refine .bind (closeTorn_holds hth io ht) ?_
  rintro terminated fourth ⟨hfo, ht, ha⟩
  refine ensures_get_bind ?_
  refine .bind (recordKey_holds hfo hio.key) ?_
  rintro key fifth ⟨⟨hfi, hj⟩, hkey⟩
  rw [← hj] at ht ha
  refine .bind (rotateActive_holds hfi hio.nextKey _ hkey ht ha) ?_
  rintro ⟨terminated, key⟩ sixth ⟨hsi, ht, hkey⟩
  refine .bind (commitLines_holds hsi hio.write ht _) ?_
  rintro _ seventh ⟨hc, hp, hkeys, hnil⟩
  refine (mirrorCommitted_spec hc hp hkeys hnil hio.persist publish _ _).mono ?_ fun _ => id
  rintro events after ⟨rfl, hi, haf, hkeys, htail⟩
  exact ⟨hi, haf, hkeys, htail, prepared, followed, key, hprepared, hse.trans hn, hkey, rfl⟩

/-! ### Runs -/

/-- The lines of what is appended stay two bytes below the longest line there should be, so that the window of the
newest record has the newline before the line. The journal gives the sequences. -/
def StoreOp.Fits (P : Primitives) (config : StoreConfig) (state : StoreState) : StoreOp → Prop
  | .append entries _ io => ∀ prepared, entries.mapM config.prepare = .ok prepared → ∀ manifest key,
      state.journal.EndsAt P config.conversationId manifest.lastSequence → config.SealsUnder P key →
      ∀ event ∈ batchEvents config manifest io.stamps prepared,
        (encodeRecord (storedEvent P key event)).length + 2 ≤ maxRecordLineBytes
  | _ => True

/-- The condition under which an operation keeps the journal and the hub together: there is a hub, a
failed write can be undone, the manifest of a changed status can be written, and the lines fit. -/
def StoreOp.Clean (P : Primitives) (config : StoreConfig) (state : StoreState) : StoreOp → Prop
  | .append entries publish io => publish = true ∧ io.Clean ∧ StoreOp.Fits P config state (.append entries publish io)
  | _ => True

/-- Every operation of the run meets the condition. -/
def CleanRun (P : Primitives) (config : StoreConfig) (state : StoreState) : List StoreOp → Prop
  | [] => True
  | op :: ops => op.Clean P config state ∧ CleanRun P config (storeStep P config state op) ops

lemma Journal.Committed.holds {journal : Journal} (h : journal.Committed items events)
    (hlast : events.getLast? = some event) (htail : journal.tail = some event)
    (hl : (encodeRecord event).length + 2 ≤ maxRecordLineBytes) :
    journal.Holds P conversationId (items ++ events.map recordLine) event.sequence := by
  obtain ⟨bytes, hfile, hends, hn⟩ := h.last event hlast
  have hcl : journal.Closed := by
    intro other ho
    rw [hfile] at ho
    cases ho
    exact hn
  refine ⟨h.items, ?_, ?_⟩
  · rw [hfile]
    refine ⟨_, hends, hl, fun decoded hd => ?_⟩
    rw [trimAscii_encodeRecord] at hd
    exact sequence_of_decode_encodeRecord hd
  · intro cached hc
    rw [htail] at hc
    cases hc
    exact ⟨rfl, hcl⟩

/-- The last of consecutive records. -/
lemma sequence_getLast {events : List ConversationEvent}
    (hs : events.map (·.sequence) = List.range' (n + 1) events.length) (hlast : events.getLast? = some event) :
    event.sequence = n + events.length := by
  have hmap := congrArg List.getLast? hs
  have hpos : events.length ≠ 0 := by
    intro hzero
    rw [List.length_eq_zero_iff.mp hzero] at hlast
    cases hlast
  rw [List.getLast?_map, hlast, List.getLast?_range'] at hmap
  simp [hpos] at hmap
  omega

/-- One operation adds the records it reports to the journal and to the hub, and nothing else. -/
lemma StoreOp.Clean.holds {op : StoreOp} (hop : op.Clean P config state)
    (h : state.Holds P config.conversationId items n published) :
    (storeStep P config state op).Holds P config.conversationId
        (items ++ (reported P config state op).map recordLine) (n + (reported P config state op).length)
        (published ++ reported P config state op) ∧
      (reported P config state op).map (·.sequence) = List.range' (n + 1) (reported P config state op).length := by
  have hnone (after : StoreState) (ha : after.Holds P config.conversationId items n published) :
      after.Holds P config.conversationId (items ++ ([] : List ConversationEvent).map recordLine)
          (n + ([] : List ConversationEvent).length) (published ++ []) ∧
        ([] : List ConversationEvent).map (·.sequence) = List.range' (n + 1) 0 := by
    simpa using ha
  cases op with
  | append entries publish io =>
    obtain ⟨hpublish, hio, hfits⟩ := hop
    have hspec := appendBatchLocked_spec h hio entries publish
    dsimp only [storeStep, reported]
    rcases hrun : appendBatchLocked P config entries publish io state with ⟨_ | events, after⟩
    · exact hnone after (hspec.of_eq_error hrun)
    · obtain ⟨hc, hp, hkeys, ⟨event, hlast, htail⟩, prepared, manifest, key, hprepared, rfl, hkey, rfl⟩ :=
        hspec.of_eq_ok hrun
      have hs := sequences_batchEvents config manifest io.stamps prepared
      rw [← length_batchEvents config manifest io.stamps prepared] at hs
      have hs : ((batchEvents config manifest io.stamps prepared).map (storedEvent P key)).map (·.sequence) =
          List.range' (manifest.lastSequence + 1) ((batchEvents config manifest io.stamps prepared).map
            (storedEvent P key)).length := by
        simpa [Function.comp_def] using hs
      refine ⟨⟨?_, hp hpublish, hkeys⟩, hs⟩
      rw [← sequence_getLast hs hlast]
      obtain ⟨newest, hnewest, rfl⟩ := List.mem_map.mp (List.mem_of_getLast? hlast)
      exact hc.holds hlast htail (hfits prepared hprepared manifest key h.journal.ends hkey newest hnewest)
  | flush io => exact hnone _ (flushManifestLocked_holds h io).snd
  | evict => exact hnone _ ⟨h.journal.evict, h.published, h.keys⟩
  | restart => exact hnone _ ⟨h.journal.evict, h.published, .empty⟩

/-- Over every run that meets the condition, the journal has got the lines of the records that were
reported as appended, and the hub has published these records, numbered without a gap. -/
theorem appends_all_or_nothing (P : Primitives) (config : StoreConfig) (state : StoreState) (n : Nat)
    (hends : state.journal.EndsAt P config.conversationId n) (hkeys : state.keys.Sound P) (ops : List StoreOp)
    (hops : CleanRun P config state ops) :
    (storeRun P config state ops).journal.items =
        state.journal.items ++ (reportedRun P config state ops).map recordLine ∧
      (storeRun P config state ops).published =
        state.published ++ reportedRun P config state ops ∧
      (reportedRun P config state ops).map (·.sequence) =
        List.range' (n + 1) (reportedRun P config state ops).length := by
  suffices hrun : ∀ items published, state.Holds P config.conversationId items n published →
      (storeRun P config state ops).Holds P config.conversationId
          (items ++ (reportedRun P config state ops).map recordLine)
          (n + (reportedRun P config state ops).length)
          (published ++ reportedRun P config state ops) ∧
        (reportedRun P config state ops).map (·.sequence) =
          List.range' (n + 1) (reportedRun P config state ops).length by
    obtain ⟨hh, hs⟩ := hrun _ _ ⟨⟨rfl, hends⟩, rfl, hkeys⟩
    exact ⟨hh.journal.items, hh.published, hs⟩
  intro items published hst
  clear hends hkeys
  induction ops generalizing state items n published with
  | nil => exact ⟨by simpa [reportedRun, storeRun] using hst, rfl⟩
  | cons op ops ih =>
    obtain ⟨hop, hops⟩ := hops
    obtain ⟨hstep, hs⟩ := hop.holds hst
    obtain ⟨hh, hrest⟩ := ih _ _ hops _ _ hstep
    rw [reportedRun, storeRun, List.foldl_cons]
    refine ⟨?_, ?_⟩
    · rw [List.map_append, List.length_append, ← List.append_assoc, ← List.append_assoc,
        ← Nat.add_assoc]
      exact hh
    · rw [List.map_append, hs, hrest, List.length_append, ← List.range'_append_1]
      congr 2
      omega

/-! ### A turn that starts -/

def startTime : DateTime := ⟨0, by decide⟩

def freshState : StoreState where
  journal := { active := some [] }
  written := { provider := .codex, status := .idle, lastSequence := 0, updatedAt := startTime }

def plainConfig : StoreConfig where
  conversationId := "c"
  prepare := .ok
  segmentBytes := 4096
  sealMinBytes := 0

def firstKey : RecordKeyIo where
  recipients := .ok { epoch := 1, keys := [[1]] }
  now := startTime
  generated := { kid := List.replicate kidLen 1, dek := List.replicate 32 0 }
  fingerprint := .ok { key := [0] }

def smoothIo : AppendIo where
  stamps offset := (toString offset, startTime)
  now := startTime
  key := firstKey
  nextKey := firstKey

/-- The append of one event with an empty payload. -/
def appendOne (eventType : String) (io : AppendIo) : StoreOp :=
  .append [(eventType, .object [])] true io

/-- The sequences of the records in the active file. -/
def readSequences (state : StoreState) : List Nat :=
  (state.journal.active.getD []).textLines.filterMap fun line =>
    (decodeJournalRecord .standard line plainConfig.conversationId).map (·.sequence)

/-- The journal ends at the newest record that is read. -/
lemma Journal.EndsAt.eq_of_read (h : state.journal.EndsAt P config.conversationId n) (hkeys : state.keys = {})
    (hread : (readLastEventIn P config.conversationId none state).1.toOption.map (·.1.elim 0 (·.sequence)) = some k) :
    n = k := by
  have hholds : state.Holds P config.conversationId state.journal.items n state.published :=
    ⟨⟨rfl, h⟩, rfl, hkeys ▸ .empty⟩
  obtain ⟨newest, hnewest, rfl⟩ := Option.map_eq_some_iff.mp hread
  rw [← ((readLastEventIn_holds hholds none).of_eq_ok (Prod.ext (Except.eq_ok_of_toOption hnewest) rfl)).2.1]

lemma appendOne_fits {config : StoreConfig} (hconfig : config = { plainConfig with history := false })
    (hkeys : state.keys = {})
    (hread : (readLastEventIn .standard "c" none state).1.toOption.map (·.1.elim 0 (·.sequence)) = some k)
    (hstamps : io.stamps = smoothIo.stamps) (hfits : ∀ provider : ProviderKind, (encodeRecord
      { ConversationEvent.new "0" (truncateToMicros startTime) "c" (k + 1) eventType (.object []) with
        provider := some provider }).length + 2 ≤ maxRecordLineBytes) :
    (appendOne eventType io).Fits .standard config state := by
  subst hconfig
  rintro prepared ⟨⟩ manifest (_ | key) hends hkey event hevent
  · rw [hstamps] at hevent
    rw [List.mem_singleton.mp hevent, hends.eq_of_read hkeys hread]
    exact hfits manifest.provider
  · exact absurd hkey.1 Bool.false_ne_true

theorem appends_all_or_nothing_turn : let config := { plainConfig with history := false }
    let ops := [appendOne "turn.started" smoothIo, .restart,
      appendOne "message.delta" { smoothIo with write := .failed 40 true (.other "ENOSPC") },
      appendOne "turn.completed" smoothIo]
    (reportedRun .standard config freshState ops).map (·.sequence) = [1, 2] ∧
      (storeRun .standard config freshState ops).journal.items =
        (reportedRun .standard config freshState ops).map recordLine ∧
      (storeRun .standard config freshState ops).published =
        reportedRun .standard config freshState ops := by
  intro config ops
  have hc : CleanRun .standard config freshState ops := by
    refine ⟨⟨rfl, ⟨trivial, rfl, rfl, rfl⟩, appendOne_fits (k := 0) rfl ?_ ?_ rfl ?_⟩, trivial,
      ⟨rfl, ⟨rfl, rfl, rfl, rfl⟩, appendOne_fits (k := 1) rfl ?_ ?_ rfl ?_⟩,
      ⟨rfl, ⟨trivial, rfl, rfl, rfl⟩, appendOne_fits (k := 1) rfl ?_ ?_ rfl ?_⟩, trivial⟩
    all_goals first | decide +kernel | (intro provider; cases provider <;> decide +kernel)
  obtain ⟨hi, hp, hs⟩ := appends_all_or_nothing .standard config freshState 0
    ⟨rfl, fun _ htail => by cases htail⟩ .empty ops hc
  refine ⟨?_, hi, hp⟩
  rw [hs]
  decide +kernel

/-- A turn starts, and the manifest of its new status cannot be written: the append fails, but its
record is in the journal, and the hub goes on with the next one. A write that fails with its line
stored and cannot be cut off leaves a record of a failed append too. -/
theorem not_appends_all_or_nothing : let failed := { smoothIo with persist := .failed false (.other "EIO") }
    let torn := { smoothIo with write := .failed 1000 false (.other "EIO") }
    (reported .standard plainConfig freshState (appendOne "turn.started" failed)).length = 0 ∧
      readSequences (storeRun .standard plainConfig freshState
        [appendOne "turn.started" failed]) = [1] ∧
      (storeRun .standard plainConfig freshState [appendOne "turn.started" failed,
        appendOne "message.delta" smoothIo]).published.map (·.sequence) = [2] ∧
      (reported .standard plainConfig freshState (appendOne "message.delta" torn)).length = 0 ∧
      readSequences (storeRun .standard plainConfig freshState
        [appendOne "message.delta" torn]) = [1] := by
  decide +kernel

end Todex

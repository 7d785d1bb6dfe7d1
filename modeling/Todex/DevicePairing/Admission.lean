import Todex.DevicePairing.Enrolment
import Todex.Lib.Update

/-!
# The admission of pairing requests

Anyone may create requests. The registry bounds how many it holds, how many of them are open, how many
wait for one source, and how fast they are created. Room for a new request is made by dropping one that
nobody has seen yet.
-/

namespace Todex

/-! ### Sliding windows -/

/-- In a list of times, newest first, fewer than `n` others lie in the window before each time. -/
def Spaced (window n : Nat) : List Nat → Prop
  | [] => True
  | time :: older => (older.filter fun t => time - t < window).length < n ∧ Spaced window n older

/-- Spaced times are few in every interval that is as long as the window. -/
lemma Spaced.count_le (h : Spaced window n times) (hs : times.Pairwise fun a b => b ≤ a) (start : Nat) :
    (times.filter fun t => start ≤ t ∧ t < start + window).length ≤ n := by
  induction times with
  | nil => exact Nat.zero_le n
  | cons time older ih =>
    obtain ⟨hb, hs⟩ := List.pairwise_cons.mp hs
    by_cases hti : start ≤ time ∧ time < start + window
    · -- the others of the interval lie in the window before the newest
      have hle : (older.filter fun t => start ≤ t ∧ t < start + window).length ≤
          (older.filter fun t => time - t < window).length := by
        refine (List.monotone_filter_right older ?_).length_le
        intro t ht
        rw [decide_eq_true_eq] at ht ⊢
        omega
      rw [List.filter_cons_of_pos (by simpa using hti), List.length_cons]
      exact lt_of_le_of_lt hle h.1
    · rw [List.filter_cons_of_neg (by simpa using hti)]
      exact ih h.2 hs

namespace RateWindow

variable {κ : Type} {rate : RateWindow κ} {now : Nat} {admitted : List (Nat × κ)}

/-- The window holds the admissions, newest first, that lie in it. -/
structure Tracks (rate : RateWindow κ) (now : Nat) (admitted : List (Nat × κ)) : Prop where
  sorted : (admitted.map Prod.fst).Pairwise fun a b => b ≤ a
  past : ∀ entry ∈ admitted, entry.1 ≤ now
  kept : ∃ old, admitted = rate.events.reverse ++ old ∧
    ∀ entry ∈ old, rate.window ≤ now - entry.1

lemma Tracks.tick (h : rate.Tracks now admitted) (hle : now ≤ later) : rate.Tracks later admitted where
  sorted := h.sorted
  past := fun entry he => (h.past entry he).trans hle
  kept := by
    obtain ⟨old, heq, hold⟩ := h.kept
    exact ⟨old, heq, fun entry he => (hold entry he).trans (Nat.sub_le_sub_right hle _)⟩

/-- The events that are left hold the admissions that lie in the window. -/
lemma Tracks.dropOld (h : rate.Tracks now admitted) : ∃ old,
    admitted = (rate.events.dropWhile fun event => rate.window ≤ now - event.1).reverse ++ old ∧
      ∀ entry ∈ old, rate.window ≤ now - entry.1 := by
  obtain ⟨old, heq, hold⟩ := h.kept
  set stale : Nat × κ → Bool := fun event => rate.window ≤ now - event.1
  refine ⟨(rate.events.takeWhile stale).reverse ++ old, ?_, ?_⟩
  · rw [← List.append_assoc, ← List.reverse_append, List.takeWhile_append_dropWhile]
    exact heq
  · intro entry he
    rcases List.mem_append.mp he with hd | he
    · have hs : stale entry = true := List.mem_takeWhile_imp (List.mem_reverse.mp hd)
      exact of_decide_eq_true hs
    · exact hold entry he

/-- The admissions that meet a condition and lie in the window are events that meet it. -/
lemma length_recent_le (events : List (Nat × κ)) {window : Nat} (p : Nat × κ → Bool)
    (hold : ∀ entry ∈ old, window ≤ now - entry.1) :
    ((((events.reverse ++ old).filter p).map Prod.fst).filter fun t => now - t < window).length ≤
      (events.filter p).length := by
  have hn : ((old.filter p).map Prod.fst).filter (fun t => now - t < window) = [] := by
    rw [List.filter_eq_nil_iff]
    intro t ht
    obtain ⟨entry, he, rfl⟩ := List.mem_map.mp ht
    have hl := hold entry (List.mem_of_mem_filter he)
    simpa using hl
  rw [List.filter_append, List.map_append, List.filter_append, hn, List.append_nil]
  refine (List.length_filter_le _ _).trans ?_
  rw [List.length_map, List.filter_reverse, List.length_reverse]

variable [DecidableEq κ]

/-- The times of a key. -/
def timesOf (admitted : List (Nat × κ)) (key : κ) : List Nat :=
  (admitted.filter fun entry => entry.2 = key).map Prod.fst

/-- What the rate limit guarantees of the admissions. -/
structure Limited (window global perKey : Nat) (admitted : List (Nat × κ)) : Prop where
  spaced : Spaced window global (admitted.map Prod.fst)
  spacedOf : ∀ key, Spaced window perKey (timesOf admitted key)

/-- The admissions after a call of `admit`. -/
def admittedAfter (admitted : List (Nat × κ)) (now : Nat) (key : κ) :
    Except PairingError Unit → List (Nat × κ)
  | .ok () => (now, key) :: admitted
  | .error _ => admitted

/-- Nothing blocks an event if there is room in the window and for its key. -/
lemma room_of_unblocked {events : List (Nat × κ)} (hg : 0 < global) (hpk : 0 < perKey)
    (h : (if global ≤ events.length then events.head?
      else if perKey ≤ (events.filter fun event => event.2 = key).length then
        (events.filter fun event => event.2 = key).head? else none) = none) :
    events.length < global ∧ (events.filter fun event => event.2 = key).length < perKey := by
  split_ifs at h with hf hs
  · rw [List.head?_eq_none_iff.mp h] at hf
    exact absurd hf (Nat.not_le.mpr hg)
  · rw [List.head?_eq_none_iff.mp h] at hs
    exact absurd hs (Nat.not_le.mpr hpk)
  · exact ⟨Nat.not_le.mp hf, Nat.not_le.mp hs⟩

lemma admits_spec (h : rate.Tracks now admitted) {global perKey : Nat}
    (hg : 0 < global) (hpk : 0 < perKey) (hl : Limited rate.window global perKey admitted) :
    (rate.admits now key global perKey).2.Tracks now
        (admittedAfter admitted now key (rate.admits now key global perKey).1) ∧ Limited rate.window global perKey
        (admittedAfter admitted now key (rate.admits now key global perKey).1) ∧
      (rate.admits now key global perKey).2.window = rate.window := by
  obtain ⟨old, heq, hold⟩ := h.dropOld
  rw [admits]
  dsimp only
  set events := rate.events.dropWhile fun event => rate.window ≤ now - event.1
  split
  · exact ⟨⟨h.sorted, h.past, old, heq, hold⟩, hl, rfl⟩
  rename_i hb
  obtain ⟨hr, hro⟩ := room_of_unblocked hg hpk hb
  refine ⟨⟨?_, ?_, ?_⟩, ⟨⟨?_, hl.spaced⟩, ?_⟩, rfl⟩
  · refine List.pairwise_cons.mpr ⟨?_, h.sorted⟩
    intro t ht
    obtain ⟨entry, he, rfl⟩ := List.mem_map.mp ht
    exact h.past entry he
  · exact List.forall_mem_cons.mpr ⟨le_refl _, h.past⟩
  · refine ⟨old, ?_, hold⟩
    rw [List.reverse_append, List.reverse_singleton, List.singleton_append, List.cons_append]
    exact congrArg _ heq
  · have hle := length_recent_le events (fun _ => true) hold
    rw [List.filter_true, List.filter_true, ← heq] at hle
    exact lt_of_le_of_lt hle hr
  · intro other
    dsimp only [admittedAfter]
    by_cases ho : key = other
    · subst ho
      rw [timesOf, List.filter_cons_of_pos (by simp)]
      refine ⟨?_, hl.spacedOf key⟩
      have hle := length_recent_le events (fun entry => entry.2 = key) hold
      rw [← heq] at hle
      exact lt_of_le_of_lt hle hro
    · rw [timesOf, List.filter_cons_of_neg (by simpa using ho)]
      exact hl.spacedOf other

end RateWindow

/-! ### The table -/

/-- The request was shown to local processes. -/
def Shown (log : List PairingEvent) (id : String) : Prop :=
  ∃ clientPublic clientNonce summary, .revealed id clientPublic clientNonce summary ∈ log

variable {id : String}

lemma Shown.note (h : Shown log id) (event : PairingEvent) : Shown (event :: log) id := by
  obtain ⟨clientPublic, clientNonce, summary, hm⟩ := h
  exact ⟨clientPublic, clientNonce, summary, List.mem_cons_of_mem _ hm⟩

lemma Shown.of_note (h : Shown (event :: log) id)
    (he : ∀ clientPublic clientNonce summary, event ≠ .revealed id clientPublic clientNonce summary) :
    Shown log id := by
  obtain ⟨clientPublic, clientNonce, summary, hm⟩ := h
  rcases List.mem_cons.mp hm with heq | hm
  · exact absurd heq.symm (he clientPublic clientNonce summary)
  · exact ⟨clientPublic, clientNonce, summary, hm⟩

/-- The open requests: those that are not rejected. -/
def openRequests (requests : List (String × PendingRequest)) : List (String × PendingRequest) :=
  requests.filter fun e => e.2.status ≠ .rejected

/-- The pending requests of a source. -/
def unfinishedOf (requests : List (String × PendingRequest)) (source : SourceKey) :
    List (String × PendingRequest) :=
  requests.filter fun e => e.2.source = source ∧ e.2.status = .pending

/-- The bounds of the table. Only requests that were shown are decided, now or later. -/
structure TableOk (deciding : String → Prop) (r : PairingRegistry) : Prop where
  nodup : (r.requests.map Prod.fst).Nodup
  created : ∀ id request, (id, request) ∈ r.requests → ∃ event ∈ r.log, event.requestId = id
  records : r.requests.length ≤ maxRecords
  active : (openRequests r.requests).length ≤ maxActive
  unfinished : ∀ source, (unfinishedOf r.requests source).length ≤ maxUnfinishedPerSource
  unseen : ∀ id request, (id, request) ∈ r.requests → request.material = none →
    request.status = .pending ∧ ¬ Shown r.log id
  files : ∀ id, r.directory.summaries id ≠ none ∨ r.directory.decisions id ≠ none → Shown r.log id
  decided : ∀ id, deciding id → Shown r.log id

variable {deciding : String → Prop}

variable {requests : List (String × PendingRequest)}

namespace TableOk

variable {r : PairingRegistry} {id : String} {request : PendingRequest} {io : PairingIo}

lemma length_filter_put_le (h : ∀ e ∈ requests, e.1 = id → p (id, request') = true → p e = true) :
    ((requests.map fun e => if e.1 = id then (id, request') else e).filter p).length ≤ (requests.filter p).length := by
  rw [← List.countP_eq_length_filter, ← List.countP_eq_length_filter, List.countP_map]
  refine List.countP_mono_left fun e he hp => ?_
  rw [Function.comp_apply] at hp
  split_ifs at hp with hid
  · exact h e he hid hp
  · exact hp

variable (h : TableOk deciding r)

include h

lemma windows (creates : RateWindow SourceKey) (lookups : RateWindow Unit) :
    TableOk deciding { r with creates, lookups } :=
  { __ := h }

lemma reorder (hp : requests.Perm r.requests) : TableOk deciding { r with requests } where
  __ := h
  nodup := (hp.map Prod.fst).nodup_iff.mpr h.nodup
  created := fun id request hm => h.created id request (hp.mem_iff.mp hm)
  records := by
    rw [hp.length_eq]
    exact h.records
  active := by
    rw [openRequests, (hp.filter _).length_eq]
    exact h.active
  unfinished := by
    intro source
    rw [unfinishedOf, (hp.filter _).length_eq]
    exact h.unfinished source
  unseen := fun id request hm => h.unseen id request (hp.mem_iff.mp hm)

lemma filter (keep : String × PendingRequest → Bool) :
    TableOk deciding { r with requests := r.requests.filter keep } where
  __ := h
  nodup := h.nodup.sublist (List.filter_sublist.map _)
  created := fun id request hm => h.created id request (List.mem_of_mem_filter hm)
  records := List.filter_sublist.length_le.trans h.records
  active := (List.filter_sublist.filter _).length_le.trans h.active
  unfinished := fun source => (List.filter_sublist.filter _).length_le.trans (h.unfinished source)
  unseen := fun id request hm => h.unseen id request (List.mem_of_mem_filter hm)

lemma shrink (hf : ∀ id, directory.summaries id ≠ none ∨ directory.decisions id ≠ none →
      r.directory.summaries id ≠ none ∨ r.directory.decisions id ≠ none) : TableOk deciding { r with directory } where
  __ := h
  files := fun id hfi => h.files id (hf id hfi)

lemma note (he : ∀ id clientPublic clientNonce summary, event ≠ .revealed id clientPublic clientNonce summary) :
    TableOk deciding { r with log := event :: r.log } where
  __ := h
  created := by
    intro id request hm
    obtain ⟨event', he', heq⟩ := h.created id request hm
    exact ⟨event', List.mem_cons_of_mem _ he', heq⟩
  unseen := by
    intro id request hm hn
    obtain ⟨hp, hu⟩ := h.unseen id request hm hn
    exact ⟨hp, fun hs => hu (hs.of_note (he id))⟩
  files := fun id hf => (h.files id hf).note event
  decided := fun id hid => (h.decided id hid).note event

lemma put (request' : PendingRequest) (hm : (id, request) ∈ r.requests) (hso : request'.source = request.source)
    (hs : request'.status = request.status ∨ request.status = .pending)
    (hu : request'.material = none → request'.status = .pending ∧ ¬ Shown r.log id) : TableOk deciding { r with
      requests := r.requests.map fun e => if e.1 = id then (id, request') else e } := by
  have hen : ∀ e ∈ r.requests, e.1 = id → e = (id, request) := fun e he hid =>
    List.inj_on_of_nodup_map h.nodup he hm hid
  refine ⟨?_, ?_, ?_, ?_, ?_, ?_, h.files, h.decided⟩
  · rw [map_fst_put]
    exact h.nodup
  · intro other request'' ho
    rcases mem_put_cases ho with ⟨rfl, -⟩ | ho
    · exact h.created other request hm
    · exact h.created _ _ ho
  · rw [List.length_map]
    exact h.records
  · refine (length_filter_put_le ?_).trans h.active
    intro e he hid hop
    rw [hen e he hid]
    rcases hs with heq | heq
    · rwa [heq] at hop
    · rw [heq]
      rfl
  · intro source
    refine (length_filter_put_le ?_).trans (h.unfinished source)
    intro e he hid hp
    rw [hen e he hid]
    rw [decide_eq_true_eq] at hp ⊢
    rw [hso] at hp
    refine ⟨hp.1, ?_⟩
    rcases hs with heq | heq
    · exact heq ▸ hp.2
    · exact heq
  · intro other request'' ho hn
    rcases mem_put_cases ho with ⟨rfl, rfl⟩ | ho
    · exact hu hn
    · exact h.unseen _ _ ho hn

end TableOk

namespace PairingDirectory

variable (directory : PairingDirectory) (io : PairingIo)

lemma files_of_removeLocalFiles {other : String} (h : (directory.removeLocalFiles io id).summaries other ≠ none ∨
      (directory.removeLocalFiles io id).decisions other ≠ none) :
    directory.summaries other ≠ none ∨ directory.decisions other ≠ none := by
  refine h.imp ?_ (decisions_of_removeLocalFiles directory io)
  intro hs
  rw [removeLocalFiles] at hs
  dsimp only at hs
  split_ifs at hs
  · exact hs
  · by_cases ho : other = id
    · subst ho
      exact absurd (Function.update_self ..) hs
    · rwa [Function.update_of_ne ho] at hs

lemma files_of_foldl_removeLocalFiles {ids : List String}
    (h : (ids.foldl (·.removeLocalFiles io ·) directory).summaries other ≠ none ∨
      (ids.foldl (·.removeLocalFiles io ·) directory).decisions other ≠ none) :
    directory.summaries other ≠ none ∨ directory.decisions other ≠ none := by
  induction ids generalizing directory with
  | nil => exact h
  | cons id ids ih => exact files_of_removeLocalFiles directory io (ih _ h)

end PairingDirectory

variable {r : PairingRegistry}

lemma TableOk.reveal {request : PendingRequest} {clientPublic clientNonce : Key32} {summary : PairingSummary}
    (h : TableOk deciding r)
    (hm : (id, request) ∈ r.requests) (material : PairingMaterial) : TableOk deciding { r with
      requests := r.requests.map fun e =>
        if e.1 = id then (id, { request with stage := .revealed material }) else e
      directory := { r.directory with
        summaries := Function.update r.directory.summaries id (some summary) }
      log := .revealed id clientPublic clientNonce summary :: r.log } := by
  have hpu := h.put { request with stage := .revealed material } hm rfl (.inl rfl)
    nofun
  refine ⟨hpu.nodup, ?_, hpu.records, hpu.active, hpu.unfinished, ?_, ?_, ?_⟩
  · intro other request' ho
    obtain ⟨event, he, heq⟩ := hpu.created other request' ho
    exact ⟨event, List.mem_cons_of_mem _ he, heq⟩
  · intro other request' ho hn
    obtain ⟨hp, hu⟩ := hpu.unseen other request' ho hn
    refine ⟨hp, fun hs => hu (hs.of_note ?_)⟩
    rintro _ _ _ heq
    cases heq
    rw [PairingM.eq_of_mem_put ho] at hn
    cases hn
  · intro other hf
    by_cases ho : other = id
    · subst ho
      exact ⟨clientPublic, clientNonce, summary, List.mem_cons_self⟩
    · dsimp only at hf
      rw [Function.update_of_ne ho] at hf
      exact (h.files other hf).note _
  · intro other hd
    exact (h.decided other hd).note _

lemma TableOk.leave (h : TableOk deciding r) (io : PairingIo) (id : String) : TableOk deciding { r with
      requests := r.requests.filter (·.1 ≠ id)
      directory := r.directory.removeLocalFiles io id } :=
  (h.filter _).shrink fun _ => PairingDirectory.files_of_removeLocalFiles _ io

/-! ### Calls that admit nothing -/

/-- The requests that were revealed and have not expired are still there. -/
def Survive (io : PairingIo) (r r' : PairingRegistry) : Prop :=
  ∀ id request, (id, request) ∈ r.requests → request.material ≠ none → io.now < request.expires →
    ∃ request', (id, request') ∈ r'.requests ∧ request'.material = request.material ∧
      request'.expires = request.expires

variable {r' : PairingRegistry} {io : PairingIo}

lemma Survive.of_subset (h : ∀ e ∈ r.requests, e ∈ r'.requests) : Survive io r r' :=
  fun _ request hm _ _ => ⟨request, h _ hm, rfl, rfl⟩

lemma Survive.trans {r'' : PairingRegistry} (h : Survive io r r') (h' : Survive io r' r'') : Survive io r r'' := by
  intro id request hme hr he
  obtain ⟨request', hme', hm, he'⟩ := h id request hme hr he
  obtain ⟨request'', hme'', hm', he''⟩ := h' id request' hme'
    (hm ▸ hr) (he' ▸ he)
  exact ⟨request'', hme'', hm'.trans hm, he''.trans he'⟩

/-- What `prune` does to the registry. -/
structure Pruned (deciding : String → Prop) (io : PairingIo) (r r' : PairingRegistry) : Prop where
  table : TableOk deciding r'
  survive : Survive io r r'
  log : r'.log = r.log
  creates : r'.creates = r.creates

lemma Pruned.trans {r'' : PairingRegistry} (h : Pruned deciding io r r')
    (h' : Pruned deciding io r' r'') : Pruned deciding io r r'' :=
  ⟨h'.table, h.survive.trans h'.survive, h'.log.trans h.log, h'.creates.trans h.creates⟩

namespace PairingM

variable {r : PairingRegistry} {id : String} {io : PairingIo} {request : PendingRequest}

variable (h : TableOk deciding r)

include h

lemma dropExpired_pruned {E : PairingRegistry → Prop} :
    (dropExpired io).Ensures r (fun _ => Pruned deciding io r) E := by
  refine Program.ensures_get_bind (Program.ensures_modify ⟨?_, ?_, rfl, rfl⟩)
  · refine (h.filter _).shrink ?_
    intro id
    exact PairingDirectory.files_of_foldl_removeLocalFiles _ io
  · intro id request hm hr he
    refine ⟨request, List.mem_filter.mpr ⟨hm, ?_⟩, rfl, rfl⟩
    have hu : request.expired io.now = false := by
      rw [PendingRequest.expired, Bool.or_eq_false_iff, decide_eq_false_iff_not, Nat.not_le]
      refine ⟨he, ?_⟩
      rw [PendingRequest.material] at hr
      cases hs : request.stage with
      | committed serverSecret commitment revealBy =>
        rw [hs] at hr
        exact absurd rfl hr
      | revealed material => rfl
    rw [hu]
    rfl

lemma takeDecision_pruned (hm : (id, request) ∈ r.requests) : (takeDecision io id request).Ensures r
      (fun _ r' => Pruned deciding io r r' ∧ ∀ e ∈ r.requests, e.1 ≠ id → e ∈ r'.requests) (Pruned deciding io r) := by
  have hk : Pruned deciding io r r := ⟨h, .of_subset fun _ he => he, rfl, rfl⟩
  rw [takeDecision]
  split_ifs with hs
  · exact Program.ensures_pure ⟨hk, fun _ he _ => he⟩
  rw [not_not] at hs
  refine Program.ensures_failWith_bind (Program.ensures_get_bind ?_) hk
  cases hf : r.directory.decisions id with
  | none => exact Program.ensures_pure ⟨hk, fun _ he _ => he⟩
  | some decision =>
    dsimp only
    split_ifs
    · exact Program.ensures_fail hk
    -- the request was shown, so that it was revealed
    have hsh : Shown r.log id := h.files id (.inr (hf ▸ Option.some_ne_none decision))
    have hp := h.put { request with status := decision.status } hm rfl
      (.inr hs) fun hn => absurd hsh (h.unseen id request hm hn).2
    refine Program.ensures_modify_bind (Program.ensures_modify ⟨⟨?_, ?_, rfl, rfl⟩, ?_⟩)
    · refine hp.shrink ?_
      intro other
      exact PairingDirectory.files_of_removeLocalFiles _ io
    · intro other request' ho _ _
      by_cases hid : other = id
      · subst hid
        have heq := List.inj_on_of_nodup_map h.nodup ho hm rfl
        cases heq
        exact ⟨_, List.mem_map.mpr ⟨_, hm, if_pos rfl⟩, rfl, rfl⟩
      · exact ⟨request', mem_put ho hid, rfl, rfl⟩
    · intro e he hne
      exact mem_put he hne

lemma takeDecisions_pruned (hm : ∀ e ∈ requests, e ∈ r.requests) (hn : (requests.map Prod.fst).Nodup) :
    (takeDecisions io requests).Ensures r (fun _ => Pruned deciding io r) (Pruned deciding io r) := by
  induction requests generalizing r with
  | nil => exact Program.ensures_pure ⟨h, .of_subset fun _ he => he, rfl, rfl⟩
  | cons e rest ih =>
    obtain ⟨id, request⟩ := e
    rw [List.map_cons, List.nodup_cons] at hn
    refine (takeDecision_pruned h (hm _ List.mem_cons_self)).bind ?_
    rintro _ r₁ ⟨hp, hk⟩
    refine (ih hp.table ?_ hn.2).mono (fun _ _ => hp.trans) fun _ => hp.trans
    intro e he
    refine hk e (hm e (List.mem_cons_of_mem _ he)) fun heq => hn.1 ?_
    exact List.mem_map.mpr ⟨e, he, heq⟩

lemma prune_pruned : (prune io).Ensures r (fun _ => Pruned deciding io r) (Pruned deciding io r) := by
  refine (dropExpired_pruned h).bind ?_
  intro _ r₁ hp
  refine Program.ensures_get_bind ?_
  exact (takeDecisions_pruned hp.table (fun _ he => he) hp.table.nodup).mono
    (fun _ _ => hp.trans) fun _ => hp.trans

lemma admitLookup_tableOk : (admitLookup io).Ensures r (fun _ => TableOk deciding) (TableOk deciding) :=
  Program.ensures_of_snd (fun _ => h.windows _ _) (h.windows _ _)

lemma count_tableOk {result : Except PairingError Unit} {counted : PendingRequest}
    (hm : (id, request) ∈ r.requests)
    (hc : ∃ reveals proofs, counted = { request with reveals, proofs }) :
    (do
      put id counted
      Program.ofExcept result
      pure counted : PairingM PendingRequest).Ensures r
      (fun request' r' => TableOk deciding r' ∧ (id, request') ∈ r'.requests) (TableOk deciding) := by
  obtain ⟨reveals, proofs, rfl⟩ := hc
  have hok := h.put { request with reveals, proofs } hm rfl (.inl rfl)
    (h.unseen id request hm)
  refine Program.ensures_modify_bind (Program.ensures_ofExcept_bind (fun _ _ => ?_) hok)
  exact Program.ensures_pure ⟨hok, List.mem_map.mpr ⟨_, hm, if_pos rfl⟩⟩

end PairingM

namespace PairingPrimitives

open PairingM

variable {P : PairingPrimitives} {r : PairingRegistry} {id : String} {io : PairingIo}

lemma publishSummary_spec {summary : PairingSummary} {E : PairingRegistry → Prop} :
    (publishSummary io id summary).Ensures r (fun
      | .error _, r' => r' = r
      | .ok (), r' => r' = { r with directory := { r.directory with
          summaries := Function.update r.directory.summaries id (some summary) } }) E := by
  rw [publishSummary]
  cases io.publish with
  | some error => exact Program.ensures_pure rfl
  | none =>
    refine Program.ensures_get_bind ?_
    cases r.directory.summaries id with
    | some _ => exact Program.ensures_pure rfl
    | none => exact Program.ensures_modify_bind (Program.ensures_pure rfl)

lemma length_filter_drop_lt {l : List α} (ha : a ∈ l)
    (hp : p a = true) (hq : q a = false) : ((l.filter q).filter p).length < (l.filter p).length := by
  rw [List.filter_comm, List.length_filter_lt_length_iff_exists]
  exact ⟨a, List.mem_filter.mpr ⟨ha, hp⟩, by simp [hq]⟩

/-- There is room for one more request. -/
structure Roomy (r : PairingRegistry) : Prop where
  records : r.requests.length < maxRecords
  active : (openRequests r.requests).length < maxActive

/-- The part of `create_from` that its rate limit decides. -/
def admission (io : PairingIo) (source : SourceKey) : PairingM Unit := do
  prune io
  admitCreate io source

variable (h : TableOk deciding r)

include h

lemma takeApproved_tableOk {pending : PendingRequest} {proof : Key32} :
    (takeApproved io id pending proof).Ensures r (fun _ => TableOk deciding) (TableOk deciding) := by
  rw [takeApproved]
  split_ifs
  · exact Program.ensures_pure h
  · exact Program.ensures_modify_bind (Program.ensures_modify_bind (Program.ensures_pure (h.leave io id)))
  · exact Program.ensures_modify_bind (Program.ensures_modify_bind (Program.ensures_pure (h.leave io id)))
  · exact Program.ensures_fail h

lemma lookup_tableOk {α : Type} {f : Option PendingRequest → PairingM α}
    (hn : ∀ r', TableOk deciding r' → (f none).Ensures r' (fun _ => TableOk deciding) (TableOk deciding))
    (hs : ∀ r' pending, TableOk deciding r' → (id, pending) ∈ r'.requests →
      (f (some pending)).Ensures r' (fun _ => TableOk deciding) (TableOk deciding)) :
    (do
      admitLookup io
      prune io
      f (← find id) : PairingM α).Ensures r (fun _ => TableOk deciding) (TableOk deciding) := by
  refine (admitLookup_tableOk h).bind fun _ r₁ h₁ => ?_
  have hp : (prune io).Ensures r₁ (fun _ => TableOk deciding) (TableOk deciding) :=
    (prune_pruned h₁).mono (fun _ _ h => h.table) fun _ h => h.table
  refine hp.bind fun _ r₂ h₂ => ensures_find.bind ?_
  rintro found _ ⟨rfl, hf⟩
  cases found with
  | none => exact hn _ h₂
  | some pending => exact hs _ pending h₂ (hf pending rfl)

lemma poll_tableOk (request : PairingProofRequest) :
    (P.poll io request).Ensures r (fun _ => TableOk deciding) (TableOk deciding) := by
  refine Program.ensures_ofExcept_bind (fun _ _ => ?_) h
  refine Program.ensures_ofExcept_bind (fun proof _ => ?_) h
  refine lookup_tableOk h (fun r' h' => Program.ensures_pure h') fun r' pending h' hm => ?_
  refine (count_tableOk h' hm ⟨_, _, rfl⟩).bind ?_
  rintro pending' r'' ⟨h'', -⟩
  exact takeApproved_tableOk h''

lemma cancel_tableOk (request : PairingProofRequest) :
    (P.cancel io request).Ensures r (fun _ => TableOk deciding) (TableOk deciding) := by
  refine Program.ensures_ofExcept_bind (fun _ _ => ?_) h
  refine Program.ensures_ofExcept_bind (fun proof _ => ?_) h
  refine lookup_tableOk h (fun r' h' => Program.ensures_pure h') fun r' pending h' hm => ?_
  refine (count_tableOk h' hm ⟨_, _, rfl⟩).bind ?_
  rintro pending' r'' ⟨h'', -⟩
  split_ifs
  swap
  · exact Program.ensures_fail h''
  refine Program.ensures_modify_bind (Program.ensures_modify_bind (Program.ensures_modify ?_))
  exact (h''.leave io request.requestId).note nofun

lemma openCommitment_tableOk {pending : PendingRequest} {clientPublic clientNonce : Key32}
    (hm : (id, pending) ∈ r.requests) :
    (P.openCommitment io id pending clientPublic clientNonce).Ensures r (fun _ => TableOk deciding)
      (TableOk deciding) := by
  rw [openCommitment]
  cases hs : pending.stage with
  | revealed material => exact Program.ensures_fail h
  | committed serverSecret commitment revealBy =>
    dsimp only
    split_ifs
    · exact Program.ensures_fail h
    cases P.derive id (transcript pending clientPublic clientNonce)
        (P.diffieHellman serverSecret clientPublic) with
    | error error => exact Program.ensures_modify_bind (Program.ensures_fail (h.filter _))
    | ok material =>
      refine publishSummary_spec.bind ?_
      rintro result r' hr
      cases result with
      | error error =>
        obtain rfl := hr
        exact Program.ensures_modify_bind (Program.ensures_fail (h.filter _))
      | ok =>
        obtain rfl := hr
        refine Program.ensures_modify_bind (Program.ensures_modify ?_)
        exact h.reveal hm material

lemma reveal_tableOk (request : RevealPairingRequest) :
    (P.reveal io request).Ensures r (fun _ => TableOk deciding) (TableOk deciding) := by
  refine Program.ensures_ofExcept_bind (fun _ _ => ?_) h
  refine Program.ensures_ofExcept_bind (fun clientPublic _ => ?_) h
  refine Program.ensures_ofExcept_bind (fun clientNonce _ => ?_) h
  refine lookup_tableOk h (fun r' h' => Program.ensures_fail h') fun r' pending h' hm => ?_
  refine (count_tableOk h' hm ⟨_, _, rfl⟩).bind ?_
  rintro pending' r'' ⟨h'', hm'⟩
  exact (openCommitment_tableOk h'' hm').bind fun _ _ h => Program.ensures_pure h

/-! ### Creating a request -/

lemma makeRoom_spec : makeRoom.Ensures r (fun _ r' => Pruned deciding io r r' ∧ Roomy r' ∧
      ∀ source, (unfinishedOf r'.requests source).length ≤ (unfinishedOf r.requests source).length)
      (Pruned deciding io r) := by
  have hk : Pruned deciding io r r := ⟨h, .of_subset fun _ he => he, rfl, rfl⟩
  refine Program.ensures_get_bind ?_
  split_ifs with hf
  · split
    · exact Program.ensures_fail hk
    · rename_i oldest ho
      -- the request that goes was never shown, so it was open
      obtain ⟨hm, hn⟩ := List.mem_filter.mp (List.argmin_mem ho)
      have hn : oldest.2.material = none := Option.isNone_iff_eq_none.mp hn
      have hp := (h.unseen oldest.1 oldest.2 hm hn).1
      have hd : decide (oldest.1 ≠ oldest.1) = false := by simp
      refine Program.ensures_modify ⟨⟨h.filter _, ?_, rfl, rfl⟩, ⟨?_, ?_⟩, ?_⟩
      · intro id request hr hre _
        refine ⟨request, List.mem_filter.mpr ⟨hr, ?_⟩, rfl, rfl⟩
        refine decide_eq_true fun hid : id = oldest.1 => ?_
        subst hid
        have heq := List.inj_on_of_nodup_map h.nodup hr hm rfl
        rw [← heq] at hn
        exact hre hn
      · refine lt_of_lt_of_le ?_ h.records
        rw [List.length_filter_lt_length_iff_exists]
        exact ⟨oldest, hm, by simp⟩
      · refine lt_of_lt_of_le (length_filter_drop_lt hm ?_ hd) h.active
        rw [hp]
        rfl
      · intro source
        exact (List.filter_sublist.filter _).length_le
  · rw [not_or, Nat.not_le, Nat.not_le] at hf
    exact Program.ensures_pure ⟨hk, ⟨hf.1, hf.2⟩, fun _ => le_refl _⟩

lemma tableOk_insert {new : NewRequest} {serverSecret : Key32} (hr : Roomy r)
    (hu : (unfinishedOf r.requests new.peer.source).length < maxUnfinishedPerSource)
    (hf : ∀ event ∈ r.log, event.requestId ≠ id) : TableOk deciding { r with
      requests := (id, P.pendingRequest io new serverSecret) :: r.requests
      log := .created id (P.pendingRequest io new serverSecret) :: r.log } := by
  have hn : TableOk deciding { r with log := .created id (P.pendingRequest io new serverSecret) :: r.log } :=
    h.note nofun
  refine ⟨?_, ?_, hr.records, ?_, ?_, ?_, hn.files, hn.decided⟩
  · refine List.nodup_cons.mpr ⟨?_, h.nodup⟩
    intro hm
    obtain ⟨⟨_, request⟩, hre, rfl⟩ := List.mem_map.mp hm
    obtain ⟨event, he, heq⟩ := h.created _ request hre
    exact hf event he heq
  · intro other request hm
    rcases List.mem_cons.mp hm with heq | hm
    · cases heq
      exact ⟨_, List.mem_cons_self, rfl⟩
    · exact hn.created other request hm
  · have hop : openRequests ((id, P.pendingRequest io new serverSecret) :: r.requests) =
        (id, P.pendingRequest io new serverSecret) :: openRequests r.requests :=
      List.filter_cons_of_pos rfl
    rw [hop, List.length_cons]
    exact hr.active
  · intro source
    by_cases hso : new.peer.source = source
    · subst hso
      have hp : unfinishedOf ((id, P.pendingRequest io new serverSecret) :: r.requests)
          new.peer.source = (id, P.pendingRequest io new serverSecret) ::
            unfinishedOf r.requests new.peer.source :=
        List.filter_cons_of_pos (decide_eq_true ⟨rfl, rfl⟩)
      rw [hp, List.length_cons]
      exact hu
    · have ho : unfinishedOf ((id, P.pendingRequest io new serverSecret) :: r.requests) source =
          unfinishedOf r.requests source :=
        List.filter_cons_of_neg fun h => hso (of_decide_eq_true h).1
      rw [ho]
      exact h.unfinished source
  · intro other request hm hno
    rcases List.mem_cons.mp hm with heq | hm
    · cases heq
      refine ⟨rfl, fun hs => ?_⟩
      obtain ⟨clientPublic, clientNonce, summary, hs⟩ := hs.of_note nofun
      exact hf _ hs rfl
    · exact hn.unseen other request hm hno

lemma admission_spec (source : SourceKey) :
    (admission io source).Ensures r (fun _ r' => TableOk deciding r' ∧ Survive io r r' ∧ r'.log = r.log)
      (fun r' => TableOk deciding r' ∧ Survive io r r') := by
  refine ((prune_pruned h).mono (fun _ _ h => h) fun _ h => ⟨h.table, h.survive⟩).bind ?_
  intro _ r₁ hp
  have hc : TableOk deciding { r₁ with creates := (r₁.creates.admits io.now source 24 4).2 } :=
    hp.table.windows _ _
  have hs : Survive io r { r₁ with creates := (r₁.creates.admits io.now source 24 4).2 } :=
    hp.survive
  exact Program.ensures_of_snd (fun _ => ⟨hc, hs, hp.log⟩) ⟨hc, hs⟩

/-- The rate limit after `create_from`. -/
lemma admission_limited (source : SourceKey) (ht : r.creates.Tracks io.now admitted)
    (hl : RateWindow.Limited r.creates.window 24 4 admitted) : (admission io source r).2.creates.Tracks io.now
        (RateWindow.admittedAfter admitted io.now source (admission io source r).1) ∧
      RateWindow.Limited r.creates.window 24 4
        (RateWindow.admittedAfter admitted io.now source (admission io source r).1) ∧
      (admission io source r).2.creates.window = r.creates.window := by
  rcases hr : prune io r with ⟨e | _, r'⟩
  · have hp : Pruned deciding io r r' := (prune_pruned h).of_eq_error hr
    rw [admission, Program.bind_of_error hr, hp.creates]
    exact ⟨ht, hl, rfl⟩
  · have hp : Pruned deciding io r r' := (prune_pruned h).of_eq_ok hr
    rw [admission, Program.bind_of_ok hr, admitCreate, hp.creates]
    exact RateWindow.admits_spec ht (by decide) (by decide) hl

lemma insertRequest_spec {new : NewRequest} {serverSecret : Key32} (hf : ∀ event ∈ r.log, event.requestId ≠ id) :
    (P.insertRequest io new serverSecret id).Ensures r (fun _ r' => TableOk deciding r' ∧ Survive io r r' ∧
        r'.creates = (admission io new.peer.source r).2.creates) (fun r' => TableOk deciding r' ∧ Survive io r r' ∧
        r'.creates = (admission io new.peer.source r).2.creates) := by
  have ha : (admission io new.peer.source).Ensures r _ _ := admission_spec h new.peer.source
  refine Program.ensures_bind_of_eq (fun _ r₁ hr => ?_) fun e r₁ hr => ?_
  swap
  · have hru : admission io new.peer.source r = (.error e, r₁) := Program.bind_of_error hr
    obtain ⟨ht, hs⟩ := ha.of_eq_error hru
    exact ⟨ht, hs, by rw [hru]⟩
  have hru : admission io new.peer.source r = admitCreate io new.peer.source r₁ :=
    Program.bind_of_ok hr
  rw [hru]
  refine Program.ensures_bind_of_eq (fun _ r₂ hr₂ => ?_) fun e r₂ hr₂ => ?_
  swap
  · obtain ⟨ht, hs⟩ := ha.of_eq_error (hru.trans hr₂)
    exact ⟨ht, hs, by rw [hr₂]⟩
  obtain ⟨ht, hs, hl⟩ := ha.of_eq_ok (hru.trans hr₂)
  rw [hr₂]
  refine Program.ensures_get_bind ?_
  split_ifs with hb
  · exact Program.ensures_fail ⟨ht, hs, rfl⟩
  refine ((makeRoom_spec ht).mono (fun _ _ h => h) fun r₃ (hrm : Pruned deciding io r₂ r₃) =>
    ⟨hrm.table, hs.trans hrm.survive, hrm.creates⟩).bind ?_
  rintro _ r₃ ⟨hrm, hro, hu⟩
  refine Program.ensures_modify_bind (Program.ensures_modify_bind (Program.ensures_pure ⟨?_, ?_, ?_⟩))
  · refine tableOk_insert hrm.table hro ?_ ?_
    · exact lt_of_le_of_lt (hu _) (Nat.not_le.mp hb)
    · rw [hrm.log, hl]
      exact hf
  · refine (hs.trans hrm.survive).trans (.of_subset fun e he => ?_)
    exact List.mem_cons_of_mem _ he
  · exact hrm.creates

end PairingPrimitives

/-! ### Runs of one process -/

/-- The states of one daemon process, and the creates that its rate limit has let through, newest first.
Steps other than a create leave the rate limit alone. -/
inductive PairingProcess (P : PairingPrimitives) (config : PairingConfig) :
    PairingState → List (Nat × SourceKey) → Prop
  | start (now unixMs : Nat) (keys : Option PairingKeys) :
      PairingProcess P config (.initial now unixMs keys) []
  | create {s : PairingState} {admitted : List (Nat × SourceKey)} {io : PairingIo} {process : Nat}
      {new : NewRequest} {id : String} (serverSecret : Key32) : PairingProcess P config s admitted →
      s.held = none → s.At io → s.creating process = some new →
      (∀ event ∈ s.registry.log, event.requestId ≠ id) →
      PairingProcess P config
        { s.setRegistry (P.insertRequest io new serverSecret id s.registry).2 with
          creating := Function.update s.creating process none }
        (RateWindow.admittedAfter admitted io.now new.peer.source
          (PairingPrimitives.admission io new.peer.source s.registry).1)
  | step {s s' : PairingState} {admitted : List (Nat × SourceKey)} :
      PairingProcess P config s admitted → PairingStep P config s s' →
      s'.registry.creates = s.registry.creates → PairingProcess P config s' admitted

/-- Local processes are about to decide these requests. -/
def PairingState.Deciding (s : PairingState) (id : String) : Prop :=
  ∃ process approved, s.deciding process = some (id, approved)

structure AdmissionOk (s : PairingState) (admitted : List (Nat × SourceKey)) : Prop where
  table : TableOk s.Deciding s.registry
  tracks : s.registry.creates.Tracks s.now admitted
  limited : RateWindow.Limited s.registry.creates.window 24 4 admitted
  window : s.registry.creates.window = 60 * pairingSecond

section Process

variable {P : PairingPrimitives} {config : PairingConfig} {s s' : PairingState}
  {admitted : List (Nat × SourceKey)}

lemma TableOk.mono_deciding
    (h : TableOk deciding r) (hle : ∀ id, deciding' id → Shown r.log id) : TableOk deciding' r :=
  { h with decided := hle }

lemma deciding_of_update
    (h : ∃ process' approved, Function.update s.deciding process none process' = some (id, approved)) :
    s.Deciding id := by
  obtain ⟨process', approved, heq⟩ := h
  rcases Function.of_update_eq heq with ⟨-, ⟨⟩⟩ | ⟨-, heq⟩
  exact ⟨process', approved, heq⟩

lemma TableOk.recordDecision (h : TableOk deciding r)
    (hid : deciding id) (approved : Bool) : TableOk deciding (r.recordDecision id approved) := by
  have hn : TableOk deciding { r with log := .decided id approved :: r.log } := h.note nofun
  refine { hn with files := fun other hf => ?_ }
  by_cases ho : other = id
  · subst ho
    exact hn.decided other hid
  · dsimp only [PairingRegistry.recordDecision] at hf
    rw [Function.update_of_ne ho] at hf
    exact hn.files other hf

lemma registry_polled (s : PairingState) (requestId : String)
    (result : Except PairingError PollOutcome × PairingRegistry) :
    (s.polled requestId result).registry = result.2 ∧ (s.polled requestId result).Deciding = s.Deciding := by
  obtain ⟨_ | _ | _, registry⟩ := result <;> exact ⟨rfl, rfl⟩

lemma registry_compare (s : PairingState) (config : PairingConfig) (held : HeldPoll) :
    (s.compare config held).registry = s.registry ∧ (s.compare config held).Deciding = s.Deciding := by
  rw [PairingState.compare]
  split_ifs <;> exact ⟨rfl, rfl⟩

lemma tableOk_register (h : TableOk s.Deciding s.registry) (held : HeldPoll) (nonce : Bytes)
    (result : Except PairingError Unit) :
    TableOk (s.register P held nonce result).Deciding (s.register P held nonce result).registry := by
  have hr : TableOk s.Deciding { s.registry with
      log := .registering (held.registration s.now s.keys) :: s.registry.log } := h.note nofun
  unfold PairingState.register
  split
  · exact hr.note nofun
  · exact hr

lemma TableOk.restart (h : TableOk deciding r) (hs : ∀ id, directory.summaries id = r.directory.summaries id ∨
      directory.summaries id = none) (hd : ∀ id, directory.decisions id = r.directory.decisions id ∨
      directory.decisions id = none) (creates : RateWindow SourceKey) (lookups : RateWindow Unit) :
    TableOk deciding { requests := [], creates, lookups, directory, log := r.log } := by
  have hf : ∀ id, directory.summaries id ≠ none ∨ directory.decisions id ≠ none →
      r.directory.summaries id ≠ none ∨ r.directory.decisions id ≠ none := by
    intro id hfi
    rcases hfi with hfi | hfi
    · rcases hs id with heq | heq
      · exact .inl (heq ▸ hfi)
      · exact absurd heq hfi
    · rcases hd id with heq | heq
      · exact .inr (heq ▸ hfi)
      · exact absurd heq hfi
  have he := ((h.filter fun _ => false).windows creates lookups).shrink hf
  rwa [List.filter_false] at he

/-- The table after a step. -/
lemma tableOk_step (h : TableOk s.Deciding s.registry) (hst : PairingStep P config s s') :
    TableOk s'.Deciding s'.registry := by
  cases hst with
  | tick _ => exact h
  | setClock _ => exact h
  | replaceKeys _ => exact h
  | reorder hp => exact h.reorder hp
  | create _ _ _ _ => exact h
  | insert serverSecret hh hat hcr hf =>
    exact (P.insertRequest_spec h hf).mono (fun _ _ h => h.1) (fun _ h => h.1) |>.snd
  | reveal request hh hat => exact (P.reveal_tableOk h request).snd
  | poll request hh hat =>
    obtain ⟨hr, hd⟩ := registry_polled s request.requestId (P.poll _ request s.registry)
    rw [hr, hd]
    exact (P.poll_tableOk h request).snd
  | compare hh hc =>
    obtain ⟨hr, hd⟩ := registry_compare s config _
    rw [hr, hd]
    exact h
  | register nonce result hh hc => exact tableOk_register h _ nonce result
  | cancel request hh hat => exact (P.cancel_tableOk h request).snd
  | readSummary process approved hid hsu hrq he =>
    refine h.mono_deciding fun id hd => ?_
    obtain ⟨process', approved', heq⟩ := hd
    rcases Function.of_update_eq heq with ⟨-, ⟨⟩⟩ | ⟨-, heq⟩
    · exact h.files _ (.inl (hsu ▸ nofun))
    · exact h.decided id ⟨process', approved', heq⟩
  | recordDecision hd hn =>
    rename_i process id approved
    have hre := h.recordDecision ⟨process, approved, hd⟩ approved
    exact hre.mono_deciding fun id hid => hre.decided id (deciding_of_update hid)
  | failDecision process =>
    exact h.mono_deciding fun id hid => h.decided id (deciding_of_update hid)
  | restart hs hde => exact h.restart hs hde _ _

lemma now_le_step (hs : PairingStep P config s s') : s.now ≤ s'.now := by
  cases hs with
  | tick hle => exact hle
  | poll request hh hat =>
    obtain ⟨_ | _ | _, registry⟩ := P.poll _ request s.registry <;> exact le_refl _
  | compare hh hc =>
    rw [PairingState.compare]
    split_ifs <;> exact le_refl _
  | register nonce result hh hc =>
    unfold PairingState.register
    split <;> exact le_refl _
  | _ => exact le_refl _

lemma admissionOk_of_process (h : PairingProcess P config s admitted) : AdmissionOk s admitted := by
  induction h with
  | start now unixMs keys =>
    refine ⟨⟨List.nodup_nil, ?_, Nat.zero_le _, Nat.zero_le _, fun _ => Nat.zero_le _, ?_, ?_, ?_⟩,
      ⟨List.Pairwise.nil, ?_, [], rfl, ?_⟩, ⟨trivial, fun _ => trivial⟩, rfl⟩
    · intro id request hm
      cases hm
    · intro id request hm
      cases hm
    · rintro id (hfi | hfi)
      · exact absurd rfl hfi
      · exact absurd rfl hfi
    · rintro id ⟨process, approved, heq⟩
      cases heq
    · intro entry he
      cases he
    · intro entry he
      cases he
  | create serverSecret _ hh hat hcr hf ih =>
    rename_i s admitted io process new id _
    have hsp : (P.insertRequest io new serverSecret id).Ensures s.registry _ _ :=
      P.insertRequest_spec ih.table hf
    obtain ⟨hta, -, hc⟩ := hsp.snd
    have hn : io.now = s.now := hat.1
    have htr : s.registry.creates.Tracks io.now admitted := by
      rw [hn]
      exact ih.tracks
    obtain ⟨ht, hl, hw⟩ := PairingPrimitives.admission_limited ih.table
      new.peer.source htr ih.limited
    dsimp only [PairingState.setRegistry]
    rw [← hc] at ht hw
    refine ⟨hta, ?_, ?_, hw.trans ih.window⟩
    · rwa [hn] at ht ⊢
    · dsimp only
      rwa [hw]
  | step _ hs hc ih =>
    refine ⟨tableOk_step ih.table hs, ?_, ?_, ?_⟩
    · rw [hc]
      exact ih.tracks.tick (now_le_step hs)
    · rw [hc]
      exact ih.limited
    · rw [hc]
      exact ih.window

/-- The bounds on what clients without credentials can do to the registry. -/
structure AdmissionBounds (P : PairingPrimitives) (s : PairingState)
    (admitted : List (Nat × SourceKey)) : Prop where
  records : s.registry.requests.length ≤ maxRecords
  active : (openRequests s.registry.requests).length ≤ maxActive
  unfinished : ∀ source,
    (unfinishedOf s.registry.requests source).length ≤ maxUnfinishedPerSource
  rate : ∀ start, (admitted.filter fun entry =>
    start ≤ entry.1 ∧ entry.1 < start + 60 * pairingSecond).length ≤ 24
  ratePerSource : ∀ start source, (admitted.filter fun entry =>
    entry.2 = source ∧ start ≤ entry.1 ∧ entry.1 < start + 60 * pairingSecond).length ≤ 4
  /-- A create that comes next keeps the requests that were revealed, unless they have expired. -/
  visible : ∀ io new serverSecret newId, (∀ event ∈ s.registry.log, event.requestId ≠ newId) →
    ∀ id request, (id, request) ∈ s.registry.requests → request.material ≠ none →
      io.now < request.expires → ∃ request',
        (id, request') ∈ (P.insertRequest io new serverSecret newId s.registry).2.requests ∧
          request'.material = request.material

/-- Whatever is called in whatever order, the table and the rate of creates stay bounded, and a create
removes no revealed request before it expires. -/
theorem pairing_admission_bounded (h : PairingProcess P config s admitted) :
    AdmissionBounds P s admitted := by
  have hok := admissionOk_of_process h
  have hl := hok.limited
  rw [hok.window] at hl
  refine ⟨hok.table.records, hok.table.active, hok.table.unfinished, ?_, ?_, ?_⟩
  · intro start
    have hle := hl.spaced.count_le hok.tracks.sorted start
    rwa [List.filter_map, List.length_map] at hle
  · intro start source
    have hs : (RateWindow.timesOf admitted source).Pairwise fun a b => b ≤ a :=
      hok.tracks.sorted.sublist (List.filter_sublist.map _)
    have hle := (hl.spacedOf source).count_le hs start
    rw [RateWindow.timesOf, List.filter_map, List.length_map, List.filter_filter] at hle
    refine (List.monotone_filter_right admitted ?_).length_le.trans hle
    intro entry hen
    simp only [decide_eq_true_eq, Function.comp_apply, Bool.and_eq_true] at hen ⊢
    tauto
  · intro io new serverSecret newId hf id request hmem hr he
    have hspec : (P.insertRequest io new serverSecret newId).Ensures s.registry _ _ :=
      P.insertRequest_spec hok.table hf
    obtain ⟨request', hmem', hm, -⟩ := hspec.snd.2.1 id request hmem hr he
    exact ⟨request', hmem', hm⟩

end Process

/-! ### One process -/

lemma phoneRevealed_process : PairingProcess .standard phoneConfig phoneRevealed [(0, .ipc)] := by
  unfold phoneRevealed
  have hc := (@PairingProcess.start .standard phoneConfig 0 0 (some phoneKeys)).step
    (.create 0 .ipc { origin := none, viaProxy := false } phoneRequest) rfl
  rw [show (PairingState.initial 0 0 (some phoneKeys)).keys = some phoneKeys from rfl, phone_checkCreate] at hc
  have hi := @PairingProcess.create _ _ _ _ phoneIo 0 phoneNew phoneId (phoneKey 4) hc rfl
    ⟨rfl, rfl⟩ rfl fun _ h => by cases h
  exact hi.step (@PairingStep.reveal _ _ _ phoneIo phoneReveal rfl ⟨rfl, rfl⟩)
    (by decide +kernel)

theorem pairing_admission_bounded_phone :
    PairingProcess .standard phoneConfig phoneRevealed [(0, .ipc)] ∧
      AdmissionBounds .standard phoneRevealed [(0, .ipc)] :=
  ⟨phoneRevealed_process, pairing_admission_bounded phoneRevealed_process⟩

/-- Five minutes later. -/
def lateIo : PairingIo := { phoneIo with now := pairingTtl }

lemma phoneExpired_evaluated : (phoneRevealed.registry.requests.find? fun e => e.2.material.isSome).any
      (fun e => e.1 = phoneId ∧ e.2.material ≠ none) ∧
    phoneRevealed.registry.log.all (fun event => event.requestId ≠ otherPoll.requestId) ∧
    (PairingPrimitives.standard.insertRequest lateIo phoneNew (phoneKey 4) otherPoll.requestId
      phoneRevealed.registry).2.requests.all (fun e => e.1 ≠ phoneId) := by
  decide +kernel

/-- A create does remove a request that was revealed, once it has expired. -/
theorem create_removes_revealed : ∃ s admitted id request,
    PairingProcess .standard phoneConfig s admitted ∧ s.At lateIo ∧
      (id, request) ∈ s.registry.requests ∧ request.material ≠ none ∧
      (∀ event ∈ s.registry.log, event.requestId ≠ otherPoll.requestId) ∧
      ∀ request', (id, request') ∉ (PairingPrimitives.standard.insertRequest lateIo phoneNew
        (phoneKey 4) otherPoll.requestId s.registry).2.requests := by
  obtain ⟨-, hat, -⟩ := phoneRevealed_clean
  have hle : phoneRevealed.now ≤ pairingTtl := hat.1 ▸ Nat.zero_le _
  have hlate : { phoneRevealed with now := pairingTtl }.registry.creates =
      phoneRevealed.registry.creates := rfl
  obtain ⟨hre, hlog, hr⟩ := phoneExpired_evaluated
  obtain ⟨e, hf, hid, hm⟩ := exists_of_any hre
  refine ⟨_, _, e.1, e.2, phoneRevealed_process.step (.tick hle) hlate, ⟨rfl, hat.2⟩,
    List.mem_of_find?_eq_some hf, hm, ?_, ?_⟩
  · intro event he
    exact of_decide_eq_true (List.all_eq_true.mp hlog event he)
  · intro request' hmem
    exact of_decide_eq_true (List.all_eq_true.mp hr _ hmem) hid

end Todex

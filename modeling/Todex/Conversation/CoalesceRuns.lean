import Todex.Conversation.Coalesce

/-!
# Coalescing loses, repeats and reorders nothing

Whatever the interleaving, the open window is the newest part of what was emitted, and everything
before it is in the journal or in the hands of the call that holds the lock.
-/

namespace Todex

namespace DeltaStore

/-! ### The invariant -/

/-- The records are the emissions, with adjacent fragments merged. -/
def Coalesced (emitted : List Emission) (records : List (String × Json)) : Prop :=
  ∃ pieces : List Piece, (∀ piece ∈ pieces, piece.Valid) ∧
    emitted = pieces.flatMap Piece.emissions ∧ records = pieces.map Piece.record

/-- The window a call took out of the map and has not journalled yet. -/
def taken (s : DeltaStore) : Option PendingDelta :=
  match s.holder with
  | some (.took _ window) => window
  | _ => none

/-- What calls that are not done were made for. -/
def inFlight (s : DeltaStore) : Multiset Emission :=
  (s.waiting.map fun job => (job.emissions : Multiset Emission)).sum +
    (s.holder.map fun holding => (holding.job.emissions : Multiset Emission)).getD 0

/-- The open window holds what was emitted last. -/
def Opened : Option StoreDelta → List Emission → Prop
  | none, opened => opened = []
  | some pending, opened => ∃ first more, pending.delta.Holds first more ∧
    opened = (Piece.merged pending.delta.eventType pending.delta.fragment first more).emissions

/-- The lock is held by a call that flushed. -/
def flushing (s : DeltaStore) : Bool :=
  match s.holder with
  | some (.took _ _) | some (.flushed _) => true
  | _ => false

structure Ordered (s : DeltaStore) : Prop where
  emitted : ∃ before opened, s.emitted = before ++ opened ∧
    Coalesced before (s.journal ++ (s.taken.map entry).toList) ∧
    Opened s.pending opened
  closed : s.flushing = true → s.pending = none
  called : (s.called : Multiset Emission) = s.emitted + s.inFlight

lemma Coalesced.append {emitted emitted' : List Emission}
    (h : Coalesced emitted records) (h' : Coalesced emitted' records') :
    Coalesced (emitted ++ emitted') (records ++ records') := by
  obtain ⟨pieces, hv, rfl, rfl⟩ := h
  obtain ⟨pieces', hv', rfl, rfl⟩ := h'
  refine ⟨pieces ++ pieces', ?_, by simp, by simp⟩
  exact List.forall_mem_append.mpr ⟨hv, hv'⟩

lemma coalesced_events (events : List (String × Json)) : Coalesced (Job.append events).emissions
      (events.map fun (eventType, payload) => (eventType, preparePayload eventType payload)) := by
  refine ⟨events.map fun event => .event event.1 event.2, ?_, ?_, ?_⟩
  · intro piece hp
    obtain ⟨event, -, rfl⟩ := List.mem_map.mp hp
    trivial
  · rw [List.flatMap_map]
    exact List.map_eq_flatMap
  · simp [Piece.record, Piece.content, Function.comp_def]

lemma coalesced_opened {pending : Option StoreDelta} (h : Opened pending opened) :
    Coalesced opened ((pending.map (·.delta)).map entry).toList := by
  cases pending with
  | none =>
    rw [Opened] at h
    exact ⟨[], by simp, h, rfl⟩
  | some pending =>
    obtain ⟨first, more, hh, rfl⟩ := h
    refine ⟨[.merged pending.delta.eventType pending.delta.fragment first more], ?_, by simp, ?_⟩
    · exact List.forall_mem_singleton.mpr hh.valid
    · simp [Piece.record, Piece.content, entry, hh.payload]

/-! ### Steps -/

lemma join_cases (now : Nat) (eventType : String) (fragment : DeltaFragment) (payload : Json) (s : DeltaStore) :
    join now eventType fragment payload s = (.error payload, s) ∨
      ∃ pending, join now eventType fragment payload s =
          (.ok (), { s with pending := some pending }) ∧ s.pending ≠ none ∧
        ∀ opened, Opened s.pending opened →
          Opened (some pending) (opened ++ [.fragment eventType fragment payload]) := by
  rw [join]
  cases hp : s.pending with
  | none => exact .inl rfl
  | some pending =>
    dsimp only
    rcases pending.delta.tryAppend_cases now eventType fragment payload with
      h | ⟨window, h, htype, hf, htype', hf', hh⟩
    · rw [h]
      refine .inl (Prod.ext rfl ?_)
      cases s
      cases hp
      rfl
    · rw [h]
      refine .inr ⟨_, rfl, by simp, ?_⟩
      rintro _ ⟨first, more, hfi, rfl⟩
      refine ⟨first, more ++ [payload], hh first more hfi, ?_⟩
      simp [Piece.emissions, htype, hf, htype', hf']

lemma Ordered.joined {pending : StoreDelta} (h : Ordered s) (hsome : s.pending ≠ none)
    (ho : ∀ opened, Opened s.pending opened → Opened (some pending) (opened ++ [emission]))
    (hp : s'.pending = some pending) (hj : s'.journal = s.journal)
    (ht : s'.taken = s.taken) (he : s'.emitted = s.emitted ++ [emission])
    (hf : s'.flushing = true → s.flushing = true)
    (hca : (s'.called : Multiset Emission) = s'.emitted + s'.inFlight) : Ordered s' := by
  obtain ⟨before, opened, heq, hc, hopen⟩ := h.emitted
  refine ⟨⟨before, opened ++ [emission], ?_, ?_, ?_⟩, ?_, hca⟩
  · rw [he, heq, List.append_assoc]
  · rw [hj, ht]
    exact hc
  · rw [hp]
    exact ho opened hopen
  · intro hfl
    exact absurd (h.closed (hf hfl)) hsome

lemma ordered_delta (h : Ordered s) (now : Nat) (eventType : String)
    (fragment : DeltaFragment) (payload : Json) :
    Ordered (step s (.delta now eventType fragment payload)) := by
  rw [step, appendDelta]
  have hc := h.called
  rw [inFlight] at hc
  rcases join_cases now eventType fragment payload
      { s with called := s.called ++ [.fragment eventType fragment payload] } with
    hjoin | ⟨pending, hjoin, hsome, ho⟩
  · rw [hjoin]
    refine ⟨h.emitted, h.closed, ?_⟩
    simp only [inFlight, ← Multiset.coe_add, hc, List.map_append, List.sum_append,
      List.map_singleton, List.sum_singleton, Job.emissions]
    abel
  · rw [hjoin]
    refine h.joined hsome ho rfl rfl rfl rfl id ?_
    simp only [emit, inFlight, ← Multiset.coe_add, hc]
    abel

lemma ordered_request (h : Ordered s) (job : Job) : Ordered (step s (.request job)) := by
  have hc := h.called
  rw [inFlight] at hc
  refine ⟨h.emitted, h.closed, ?_⟩
  simp only [step, inFlight, ← Multiset.coe_add, hc, List.map_append, List.sum_append,
    List.map_singleton, List.sum_singleton]
  abel

lemma ordered_acquire (h : Ordered s) (i : Nat) : Ordered (step s (.acquire i)) := by
  rw [step]
  split
  · next job hh hjob =>
    have hca := h.called
    have hs : (s.waiting.map fun job => (job.emissions : Multiset Emission)).sum =
        job.emissions + ((s.waiting.eraseIdx i).map fun job =>
          (job.emissions : Multiset Emission)).sum := by
      obtain ⟨hlt, rfl⟩ := List.getElem?_eq_some_iff.mp hjob
      have hperm := (List.getElem_cons_eraseIdx_perm hlt).map fun job =>
        (job.emissions : Multiset Emission)
      rw [← hperm.sum_eq, List.map_cons, List.sum_cons]
    obtain ⟨before, opened, heq, hc, hopen⟩ := h.emitted
    refine ⟨⟨before, opened, heq, ?_, hopen⟩, fun hf => (nomatch hf), ?_⟩
    · rw [taken, hh] at hc
      exact hc
    · rw [inFlight, hh, hs] at hca
      rw [hca, inFlight]
      simp [Holding.job, add_comm]
  · exact h

/-- The call that holds the lock goes on without touching the window or the journal. -/
lemma Ordered.advance (h : Ordered s) {holder : Option Holding} (hh : s.taken = none)
    (ht : { s with holder }.taken = none) (hfl : { s with holder }.flushing = false)
    (hjob : { s with holder }.inFlight = s.inFlight) : Ordered { s with holder } := by
  obtain ⟨before, opened, heq, hc, hopen⟩ := h.emitted
  refine ⟨⟨before, opened, heq, ?_, hopen⟩, fun hf => ?_, ?_⟩
  · rw [hh] at hc
    rw [ht]
    exact hc
  · rw [hfl] at hf
    cases hf
  · rw [hjob]
    exact h.called

lemma Ordered.entered (h : Ordered s) (now generation : Nat) (hh : s.holder = some (.entered job)) :
    Ordered (proceed now generation s (.entered job)) := by
  have ht : s.taken = none := by rw [taken, hh]
  have hnext : Ordered { s with holder := some (.flushing job) } :=
    h.advance ht rfl rfl (by rw [inFlight, inFlight, hh]; rfl)
  cases job with
  | buffer eventType fragment payload =>
    have hca := h.called
    rw [inFlight, hh] at hca
    rw [proceed]
    rcases join_cases now eventType fragment payload s with hjoin | ⟨pending, hjoin, hsome, ho⟩
    · rw [hjoin]
      exact hnext
    · rw [hjoin]
      refine h.joined hsome ho rfl rfl ht.symm rfl (fun hf => (nomatch hf)) ?_
      simp only [emit, inFlight, ← Multiset.coe_add, hca, Holding.job, Job.emissions, Option.map_some,
        Option.getD_some, Option.map_none, Option.getD_none]
      abel
  | append events => exact hnext
  | flush => exact hnext
  | expired expired =>
    rw [proceed]
    split
    · exact hnext
    · refine h.advance ht rfl rfl ?_
      rw [inFlight, inFlight, hh]
      rfl

/-- After the flush there is no window, so that what the call was made for comes right after what was emitted. -/
lemma Ordered.flushed (h : Ordered s) (now generation : Nat) (hh : s.holder = some (.flushed job)) :
    Ordered (proceed now generation s (.flushed job)) := by
  have hca := h.called
  rw [inFlight, hh, Option.map_some, Option.getD_some] at hca
  have hcl := h.closed (by rw [flushing, hh])
  obtain ⟨before, opened, heq, hc, hopen⟩ := h.emitted
  rw [hcl, Opened] at hopen
  rw [taken, hh] at hc
  subst hopen
  rw [List.append_nil] at heq
  simp only [Option.map_none, Option.toList_none, List.append_nil] at hc
  cases job with
  | buffer eventType fragment payload =>
    refine ⟨⟨before, [.fragment eventType fragment payload], ?_, ?_, ?_⟩, fun hf => (nomatch hf), ?_⟩
    · rw [proceed, emit, heq]
    · simpa [proceed, emit, taken] using hc
    · exact ⟨payload, [], ⟨rfl, fun hmore => absurd rfl hmore⟩, rfl⟩
    · simp only [proceed, emit, inFlight, ← Multiset.coe_add, hca, Holding.job,
        Job.emissions, Option.map_none, Option.getD_none]
      abel
  | append events =>
    refine ⟨⟨before ++ (Job.append events).emissions, [], ?_, ?_, ?_⟩, fun hf => (nomatch hf), ?_⟩
    · rw [proceed, emit, heq, List.append_nil]
    · simpa [proceed, emit, taken] using hc.append (coalesced_events events)
    · rw [proceed, emit, hcl]
      rfl
    · simp only [proceed, emit, inFlight, ← Multiset.coe_add, hca, Holding.job,
        Option.map_none, Option.getD_none]
      abel
  | flush | expired =>
    refine h.advance (by rw [taken, hh]) rfl rfl ?_
    rw [inFlight, inFlight, hh]
    rfl

lemma ordered_proceed (h : Ordered s) (now generation : Nat)
    (hh : s.holder = some holding) : Ordered (proceed now generation s holding) := by
  have hca := h.called
  rw [inFlight, hh, Option.map_some, Option.getD_some] at hca
  cases holding with
  | entered job => exact h.entered now generation hh
  | flushing job =>
    obtain ⟨before, opened, heq, hc, hopen⟩ := h.emitted
    refine ⟨⟨before ++ opened, [], by rw [List.append_nil]; exact heq, ?_, rfl⟩, fun _ => rfl, hca⟩
    rw [taken, hh] at hc
    simp only [Option.map_none, Option.toList_none, List.append_nil] at hc
    exact hc.append (coalesced_opened hopen)
  | took job window =>
    have hcl := h.closed (by rw [flushing, hh])
    obtain ⟨before, opened, heq, hc, hopen⟩ := h.emitted
    refine ⟨⟨before, opened, heq, ?_, hopen⟩, fun _ => hcl, hca⟩
    rw [taken, hh] at hc
    simpa [proceed, taken] using hc
  | flushed job => exact h.flushed now generation hh

lemma ordered_step (h : Ordered s) (op : Op) : Ordered (step s op) := by
  cases op with
  | delta now eventType fragment payload => exact ordered_delta h now eventType fragment payload
  | request job => exact ordered_request h job
  | acquire i => exact ordered_acquire h i
  | proceed now generation =>
    rw [step]
    cases hh : s.holder with
    | none => exact h
    | some holding => exact ordered_proceed h now generation hh

lemma ordered_run (h : Ordered s) (ops : List Op) : Ordered (run s ops) := by
  induction ops generalizing s with
  | nil => exact h
  | cons op ops ih => exact ih (ordered_step h op)

/-! ### Flushes -/

/-- The journal starts with the records of these emissions, and maybe of some that joined them. -/
def Journalled (past : List Emission) (journal : List (String × Json)) : Prop :=
  ∃ flushed records, past <+: flushed ∧ Coalesced flushed records ∧ records <+: journal

/-- A call that flushes has this many steps to go until these emissions are in the journal. -/
def Flushing (past : List Emission) (s : DeltaStore) : Nat → Prop
  | 0 => Journalled past s.journal
  | 1 => ∃ job window, s.holder = some (.took job window) ∧
    Journalled past (s.journal ++ (window.map entry).toList)
  | 2 => ∃ job, s.holder = some (.flushing job) ∧ past <+: s.emitted
  | _ => ∃ job, s.holder = some (.entered job) ∧ job.flushes s ∧ past <+: s.emitted

lemma Journalled.mono {old new : List (String × Json)} (h : Journalled past old)
    (hj : old <+: new) : Journalled past new := by
  obtain ⟨flushed, records, he, hc, hr⟩ := h
  exact ⟨flushed, records, he, hc, hr.trans hj⟩

/-- A fragment outside the lock leaves the journal, the call that holds the lock and the window's number alone. -/
lemma appendDelta_frame (now : Nat) (eventType : String) (fragment : DeltaFragment) (payload : Json)
    (s : DeltaStore) : let t := appendDelta now eventType fragment payload s
    t.journal = s.journal ∧ t.holder = s.holder ∧ s.emitted <+: t.emitted ∧
      t.pending.map (·.generation) = s.pending.map (·.generation) := by
  rw [appendDelta, join]
  cases hp : s.pending with
  | none => exact ⟨rfl, rfl, List.prefix_rfl, by rw [hp]⟩
  | some pending =>
    dsimp only
    cases (pending.delta.tryAppend now eventType fragment payload).1 with
    | ok => exact ⟨rfl, rfl, List.prefix_append _ _, rfl⟩
    | error payload => exact ⟨rfl, rfl, List.prefix_rfl, rfl⟩

lemma flushes_congr {s t : DeltaStore} (h : t.pending.map (·.generation) = s.pending.map (·.generation))
    (job : Job) : job.flushes t = job.flushes s := by
  cases job with
  | buffer | append | flush => rfl
  | expired expired =>
    have hany : ∀ pending : Option StoreDelta, pending.any (·.generation = expired) =
        (pending.map (·.generation)).any (· = expired) := by
      rintro (_ | pending) <;> rfl
    rw [Job.flushes, Job.flushes, hany, hany, h]

/-- What does not touch the lock or the journal brings a flush no further and no harm. -/
lemma Flushing.frame (h : Flushing past s n) (hj : t.journal = s.journal) (hh : t.holder = s.holder)
    (he : s.emitted <+: t.emitted) (hp : t.pending.map (·.generation) = s.pending.map (·.generation)) :
    Flushing past t n := by
  match n with
  | 0 =>
    rw [Flushing, hj]
    exact h
  | 1 =>
    rw [Flushing, hj, hh]
    exact h
  | 2 =>
    obtain ⟨job, hjob, hem⟩ := h
    exact ⟨job, hh.trans hjob, hem.trans he⟩
  | n + 3 =>
    obtain ⟨job, hjob, hfl, hem⟩ := h
    exact ⟨job, hh.trans hjob, by rw [flushes_congr hp]; exact hfl, hem.trans he⟩

lemma journal_proceed (now generation : Nat) (s : DeltaStore) (holding : Holding) :
    s.journal <+: (proceed now generation s holding).journal := by
  unfold proceed
  split
  · rcases join_cases now _ _ _ s with hjoin | ⟨pending, hjoin, -⟩
    · rw [hjoin]
    · rw [hjoin]
      exact List.prefix_rfl
  · split <;> exact List.prefix_rfl
  all_goals first | exact List.prefix_rfl | exact List.prefix_append _ _

/-- Each step of the call that holds the lock brings its flush one step further. -/
lemma Flushing.proceed (h : Flushing past s n) (ho : Ordered s) (hn : n ≤ 3) (hh : s.holder = some holding)
    (now generation : Nat) : Flushing past (DeltaStore.proceed now generation s holding) (n - 1) := by
  match n with
  | 0 => exact Journalled.mono h (journal_proceed now generation s holding)
  | 1 =>
    obtain ⟨job, window, hjob, hj⟩ := h
    cases hh.symm.trans hjob
    exact hj
  | 2 =>
    obtain ⟨job, hjob, hem⟩ := h
    cases hh.symm.trans hjob
    obtain ⟨before, opened, heq, hc, hopen⟩ := ho.emitted
    rw [taken, hjob] at hc
    simp only [Option.map_none, Option.toList_none, List.append_nil] at hc
    exact ⟨job, _, rfl, _, _, heq ▸ hem, hc.append (coalesced_opened hopen), List.prefix_rfl⟩
  | 3 =>
    obtain ⟨job, hjob, hfl, hem⟩ := h
    cases hh.symm.trans hjob
    cases job with
    | buffer eventType fragment payload => cases hfl
    | append events => exact ⟨_, rfl, hem⟩
    | flush => exact ⟨_, rfl, hem⟩
    | expired expired =>
      rw [Job.flushes] at hfl
      rw [DeltaStore.proceed, if_pos hfl]
      exact ⟨_, rfl, hem⟩

/-- The lock is free only when no step is left. -/
lemma Flushing.eq_zero (h : Flushing past s n) (hh : s.holder = none) : n = 0 := by
  match n with
  | 0 => rfl
  | 1 =>
    obtain ⟨job, window, hjob, -⟩ := h
    cases hh.symm.trans hjob
  | 2 =>
    obtain ⟨job, hjob, -⟩ := h
    cases hh.symm.trans hjob
  | n + 3 =>
    obtain ⟨job, hjob, -⟩ := h
    cases hh.symm.trans hjob

lemma Flushing.step (h : Flushing past s n) (ho : Ordered s) (hn : n ≤ 3) (op : Op) :
    Flushing past (DeltaStore.step s op) (if op.isProceed then n - 1 else n) := by
  cases op with
  | delta now eventType fragment payload =>
    obtain ⟨hj, hh, he, hp⟩ := appendDelta_frame now eventType fragment payload
      { s with called := s.called ++ [.fragment eventType fragment payload] }
    exact h.frame hj hh he hp
  | request job => exact h.frame rfl rfl List.prefix_rfl rfl
  | acquire i =>
    rw [DeltaStore.step]
    split
    · next hh hjob =>
      obtain rfl := h.eq_zero hh
      exact h
    · exact h
  | proceed now generation =>
    rw [DeltaStore.step]
    cases hh : s.holder with
    | none =>
      obtain rfl := h.eq_zero hh
      exact h
    | some holding => exact h.proceed ho hn hh now generation

lemma Flushing.run (h : Flushing past s n) (ho : Ordered s) (hn : n ≤ 3) (ops : List Op) :
    Flushing past (DeltaStore.run s ops) (n - ops.countP Op.isProceed) := by
  induction ops generalizing s n with
  | nil => exact h
  | cons op ops ih =>
    have hnext := ih (h.step ho hn op) (ordered_step ho op) (by split <;> omega)
    have hcount : n - (op :: ops).countP Op.isProceed =
        (if op.isProceed then n - 1 else n) - ops.countP Op.isProceed := by
      rw [List.countP_cons]
      split <;> omega
    rw [hcount]
    exact hnext

/-- Three steps after a call that flushes got the lock, all that was emitted before is in the journal. -/
lemma journalled_of_acquire (ho : Ordered s) (hh : s.holder = none) (hjob : s.waiting[i]? = some job)
    (hfl : job.flushes s) (hcount : 3 ≤ more.countP Op.isProceed) :
    Journalled s.emitted (run s (.acquire i :: more)).journal := by
  have hfirst : Flushing s.emitted (DeltaStore.step s (.acquire i)) 3 := by
    rw [DeltaStore.step, hh, hjob]
    exact ⟨job, rfl, hfl, List.prefix_rfl⟩
  have hrun := hfirst.run (ordered_step ho (.acquire i)) le_rfl more
  rw [Nat.sub_eq_zero_of_le hcount] at hrun
  exact hrun

/-! ### The text of a stream -/

lemma text_piece {piece : Piece} (h : piece.Valid) (hp : pointer ∈ fragment.textPointers)
    (hk : piece.stream = some (eventType, fragment) → piece.Keeps pointer) :
    piece.text eventType fragment pointer =
      String.join (piece.emissions.map (Emission.text eventType fragment pointer)) := by
  cases piece with
  | event eventType' payload => simp [Piece.text, Piece.stream, Piece.emissions, Emission.text, String.join]
  | merged eventType' fragment' first more =>
    rw [Piece.text, Piece.emissions, List.map_map]
    split_ifs with hsame
    · obtain ⟨hpath, hfits⟩ := hk hsame
      cases hsame
      rw [pointerText, Piece.record, pointerStr_preparePayload hfits hpath]
      refine (pointerText_mergedPayload (fun hmore => (h hmore).1) hp).trans ?_
      congr 2
      funext payload
      simp [Emission.text]
    · have hnone : ∀ text ∈ (first :: more).map
          (Emission.text eventType fragment pointer ∘ Emission.fragment eventType' fragment'),
          text = "" := by
        intro text htext
        obtain ⟨payload, -, rfl⟩ := List.mem_map.mp htext
        rw [Function.comp_apply, Emission.text, if_neg]
        rintro ⟨rfl, rfl⟩
        exact hsame rfl
      rw [List.eq_replicate_of_mem hnone]
      generalize ((first :: more).map _).length = n
      induction n with
      | zero => rfl
      | succ n ih => rw [List.replicate_succ', String.join_append, ← ih]; rfl

lemma text_pieces {pieces : List Piece} (h : ∀ piece ∈ pieces, piece.Valid) (hp : pointer ∈ fragment.textPointers)
    (hk : ∀ piece ∈ pieces, piece.stream = some (eventType, fragment) → piece.Keeps pointer) :
    String.join (pieces.map (Piece.text eventType fragment pointer)) =
      String.join ((pieces.flatMap Piece.emissions).map (Emission.text eventType fragment pointer)) := by
  induction pieces with
  | nil => rfl
  | cons piece pieces ih =>
    rw [List.map_cons, ← List.singleton_append, String.join_append, List.flatMap_cons,
      List.map_append, String.join_append,
      ih (fun other ho => h other (by simp [ho])) fun other ho => hk other (by simp [ho]),
      ← text_piece (h piece (by simp)) hp (hk piece (by simp))]
    simp [String.join]

/-- Windows that are not in the journal yet. -/
def unflushed (s : DeltaStore) : List PendingDelta :=
  s.taken.toList ++ (s.pending.map (·.delta)).toList

/-- However the calls interleave, the journal and the window that is not flushed yet are what was
emitted, in this order, with adjacent fragments of one stream merged into one record. The text of a
stream is that of its fragments, as long as none of its records is cut or redacted. Every call is emitted
once or still in flight, a call that flushes leaves nothing of what was emitted before it outside the
journal, and a fragment that is handed back leaves the window as it was. -/
theorem coalesced_run (ops : List Op) : let s := run {} ops
    (∃ pieces : List Piece, (∀ piece ∈ pieces, piece.Valid) ∧
      s.emitted = pieces.flatMap Piece.emissions ∧
      s.journal ++ s.unflushed.map entry = pieces.map Piece.record ∧
      ∀ eventType fragment, ∀ pointer ∈ fragment.textPointers,
        (∀ piece ∈ pieces, piece.stream = some (eventType, fragment) → piece.Keeps pointer) →
          String.join (pieces.map (Piece.text eventType fragment pointer)) =
            String.join (s.emitted.map (Emission.text eventType fragment pointer))) ∧
    (s.called : Multiset Emission) = s.emitted + s.inFlight ∧
    (∀ i job more, s.holder = none → s.waiting[i]? = some job → job.flushes s →
      3 ≤ more.countP Op.isProceed → Journalled s.emitted (run s (.acquire i :: more)).journal) ∧
    ∀ (window : PendingDelta) now eventType fragment payload,
      (window.tryAppend now eventType fragment payload).1 = .ok () ∨
        window.tryAppend now eventType fragment payload = (.error payload, window) := by
  intro s
  have hem : Ordered {} :=
    ⟨⟨[], [], rfl, ⟨[], by simp, rfl, rfl⟩, rfl⟩, fun _ => rfl, rfl⟩
  have h : Ordered s := ordered_run hem ops
  refine ⟨?_, h.called, fun i job more hh hjob hfl hcount => journalled_of_acquire h hh hjob hfl hcount,
    fun window now eventType fragment payload => ?_⟩
  · obtain ⟨before, opened, heq, hb, hopen⟩ := h.emitted
    obtain ⟨pieces, hv, he, hr⟩ := hb.append (coalesced_opened hopen)
    refine ⟨pieces, hv, heq.trans he, ?_, ?_⟩
    · rw [← hr, unflushed, List.map_append, List.append_assoc]
      cases s.taken <;> cases s.pending <;> rfl
    · intro eventType fragment pointer hp hk
      rw [heq, he]
      exact text_pieces hv hp hk
  · rcases window.tryAppend_cases now eventType fragment payload with h | ⟨window', h, -⟩
    · exact .inr h
    · exact .inl (by rw [h])

/-! ### A text that is cut -/

section Large

variable (text : String)

def fragmentDelta : DeltaFragment := { key := "item", textPointers := ["/delta"] }

/-- The text is buffered and flushed. -/
def flushedText : DeltaStore :=
  run {} [.delta 0 "message.delta" fragmentDelta (.object [("delta", .string text)]), .acquire 0, .proceed 0 0,
    .proceed 0 0, .proceed 0 0, .proceed 0 0, .request .flush, .acquire 0, .proceed 0 0, .proceed 0 0, .proceed 0 0,
    .proceed 0 0]

lemma flushedText_eq : flushedText text = {
    journal := [("message.delta", preparePayload "message.delta" (.object [("delta", .string text)]))]
    called := [.fragment "message.delta" fragmentDelta (.object [("delta", .string text)])]
    emitted := [.fragment "message.delta" fragmentDelta (.object [("delta", .string text)])] } :=
  rfl

lemma unflushed_flushedText : (flushedText text).unflushed = [] ∧ (flushedText text).inFlight = 0 := ⟨rfl, rfl⟩

lemma join_emitted_flushedText :
    String.join ((flushedText text).emitted.map (Emission.text "message.delta" fragmentDelta "/delta")) = text := by
  rw [flushedText_eq, List.map_singleton, Emission.text, if_pos ⟨rfl, rfl⟩, pointerText, pointerStr_delta]
  simp [String.join, Json.asStr]

lemma join_journal_flushedText (hlarge : eventPayloadBudgetBytes < (Json.object [("delta", .string text)]).bytes)
    (hmin : boundStringMinBytes < serializedStringBytes text) (hmark : '…' ∉ text.toList) (hne : text ≠ "") :
    String.join ((flushedText text).journal.map fun record => pointerText record.2 "/delta") ≠ text := by
  rw [flushedText_eq, List.map_singleton, pointerText]
  rcases pointerStr_preparePayload_of_large hlarge hmin with hcut | ⟨keep, hcut⟩
  · rw [hcut]
    exact fun h => hne h.symm
  · rw [hcut]
    intro h
    have hmem := mem_cutText text keep
    simp only [String.join, List.foldl_cons, List.foldl_nil, Option.getD_some, String.empty_append] at h
    rw [h] at hmem
    exact hmark hmem

end Large

/-- A text of one letter. -/
def repeated (n : Nat) : String := String.ofList (List.replicate n 'a')

lemma mem_repeated (h : c ∈ (repeated n).toList) : c = 'a' := by
  rw [repeated, String.toList_ofList] at h
  exact List.eq_of_mem_replicate h

lemma length_repeated (n : Nat) : (repeated n).length = n := by
  rw [repeated, String.length_ofList, List.length_replicate]

lemma lt_bytes_repeated (n : Nat) : n < (Json.object [("delta", .string (repeated n))]).bytes := by
  have hplain : ∀ c ∈ (repeated n).toList, Json.PlainByte c := by
    intro c hc
    rw [mem_repeated hc, Json.PlainByte]
    decide
  rw [Json.bytes_object, List.map_singleton, List.sum_singleton, Json.memberBytes, Json.bytes_string_of_plain hplain,
    length_repeated]
  omega

lemma lt_serializedStringBytes_repeated (n : Nat) : n < serializedStringBytes (repeated n) := by
  have ha : escapedCharBytes 'a' = 1 := by decide
  rw [serializedStringBytes, repeated, String.toList_ofList, List.map_replicate, List.sum_replicate, ha, smul_eq_mul]
  omega

/-- A fragment that is too large for one event is cut, so that its text is not in the journal. -/
theorem large_fragment_cut : let s := flushedText (repeated 1100000)
    s.unflushed = [] ∧ s.inFlight = 0 ∧
      String.join (s.emitted.map (Emission.text "message.delta" fragmentDelta "/delta")) = repeated 1100000 ∧
      String.join (s.journal.map fun record => pointerText record.2 "/delta") ≠ repeated 1100000 := by
  intro s
  have hlarge : eventPayloadBudgetBytes < 1100000 := by decide
  have hmin : boundStringMinBytes < 1100000 := by decide
  obtain ⟨hun, hin⟩ := unflushed_flushedText (repeated 1100000)
  refine ⟨hun, hin, join_emitted_flushedText _, join_journal_flushedText _ (hlarge.trans (lt_bytes_repeated _))
    (hmin.trans (lt_serializedStringBytes_repeated _)) ?_ ?_⟩
  · intro h
    exact absurd (mem_repeated h) (by decide)
  · intro h
    have hlength := length_repeated 1100000
    rw [h] at hlength
    cases hlength

end DeltaStore

end Todex

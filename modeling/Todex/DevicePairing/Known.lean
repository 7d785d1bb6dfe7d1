import Todex.DevicePairing.Steps

/-!
# What the registry knows of its requests

Every request of the registry was created, its stage follows from what was revealed, and its status from
the decisions of local processes. The calls keep this.
-/

namespace Todex

/-! ### What is known of a request -/

/-- The request has the fields it was created with. -/
def PendingRequest.Continues (original request : PendingRequest) : Prop :=
  ∃ stage status reveals proofs, request = { original with stage, status, reveals, proofs }

/-- The stage follows from what was revealed. -/
def Staged (P : PairingPrimitives) (log : List PairingEvent) (id : String)
    (original : PendingRequest) : PairingStage → Prop
  | .committed serverSecret commitment revealBy =>
    original.stage = .committed serverSecret commitment revealBy
  | .revealed material => ∃ clientPublic clientNonce,
    P.Opens id original clientPublic clientNonce material ∧
      .revealed id clientPublic clientNonce (P.summary id original material) ∈ log

/-- The status follows from the decisions. One that is not taken yet is in its file. -/
def Decided (file : Option LocalDecision) (decisions : List Bool) : RequestStatus → Prop
  | .pending => decisions = file.toList.map LocalDecision.approved
  | .approved => decisions = [true]
  | .rejected => True

structure Live (P : PairingPrimitives) (directory : PairingDirectory) (log : List PairingEvent)
    (id : String) (request : PendingRequest) : Prop where
  decided : Decided (directory.decisions id) (decisionsOf log id) request.status
  cancelled : .cancelled id ∉ log
  delivered : .delivered id ∉ log
  origin : ∃ original, .created id original ∈ log ∧ original.Continues request ∧
    Staged P log id original request.stage

structure RegistryOk (P : PairingPrimitives) (config : PairingConfig) (r : PairingRegistry) :
    Prop where
  nodup : (r.requests.map Prod.fst).Nodup
  live : ∀ id request, (id, request) ∈ r.requests → Live P r.directory r.log id request
  files : ∀ id, r.directory.decisions id ≠ none → decisionsOf r.log id ≠ []
  enrolments : Enrolments P config r.log

section Log

variable {P : PairingPrimitives} {log : List PairingEvent} {event : PairingEvent} {id : String}
  {directory : PairingDirectory} {request : PendingRequest}

lemma decisionsOf_decided (log : List PairingEvent) (id : String) (approved : Bool) :
    decisionsOf (.decided id approved :: log) id = approved :: decisionsOf log id := by
  simp [decisionsOf]

lemma decisionsOf_of_ne (h : ∀ approved, event ≠ .decided id approved) :
    decisionsOf (event :: log) id = decisionsOf log id := by
  cases event with
  | decided other approved =>
    have hne : other ≠ id := fun heq => h approved (by rw [heq])
    simp [decisionsOf, hne]
  | _ => rfl

lemma decisionsOf_ne_nil_cons (h : decisionsOf log id ≠ []) : decisionsOf (event :: log) id ≠ [] := by
  by_cases hd : ∃ approved, event = .decided id approved
  · obtain ⟨approved, rfl⟩ := hd
    rw [decisionsOf_decided]
    exact List.cons_ne_nil _ _
  · rwa [decisionsOf_of_ne fun approved heq => hd ⟨approved, heq⟩]

lemma decisionsOf_eq_nil (h : ∀ event ∈ log, event.requestId ≠ id) : decisionsOf log id = [] := by
  rw [decisionsOf, List.filterMap_eq_nil_iff]
  intro event he
  cases event with
  | decided other approved => exact if_neg (h _ he)
  | _ => rfl

lemma mem_deliveries : id ∈ deliveries log ↔ .delivered id ∈ log := by
  rw [deliveries, List.mem_filterMap]
  constructor
  · rintro ⟨event, he, heq⟩
    cases event with
    | delivered other =>
      cases heq
      exact he
    | _ => cases heq
  · intro h
    exact ⟨_, h, rfl⟩

lemma Enrolments.note (h : Enrolments P config log) (hr : ∀ r, event ≠ .registering r)
    (hd : ∀ id, event ≠ .delivered id) : Enrolments P config (event :: log) where
  earned := by
    intro registration before hs
    rcases List.suffix_cons_iff.mp hs with heq | hs
    · exact absurd (List.cons.inj heq).1.symm (hr registration)
    · exact h.earned registration before hs
  once := by
    have heq : deliveries (event :: log) = deliveries log := by
      cases event with
      | delivered id => exact absurd rfl (hd id)
      | _ => rfl
    rw [heq]
    exact h.once

lemma Staged.note (h : Staged P log id original stage) : Staged P (event :: log) id original stage := by
  cases stage with
  | committed serverSecret commitment revealBy => exact h
  | revealed material =>
    obtain ⟨clientPublic, clientNonce, ho, hs⟩ := h
    exact ⟨clientPublic, clientNonce, ho, List.mem_cons_of_mem _ hs⟩

lemma Live.note (h : Live P directory log id request)
    (hde : ∀ approved, event ≠ .decided id approved) (hc : event ≠ .cancelled id)
    (hd : event ≠ .delivered id) : Live P directory (event :: log) id request where
  decided := by
    rw [decisionsOf_of_ne hde]
    exact h.decided
  cancelled := by
    rw [List.mem_cons, not_or]
    exact ⟨hc.symm, h.cancelled⟩
  delivered := by
    rw [List.mem_cons, not_or]
    exact ⟨hd.symm, h.delivered⟩
  origin := by
    obtain ⟨original, hcr, hco, hs⟩ := h.origin
    exact ⟨original, List.mem_cons_of_mem _ hcr, hco, hs.note⟩

lemma Live.note_of_ne (h : Live P directory log id request) (hne : event.requestId ≠ id) :
    Live P directory (event :: log) id request := by
  refine h.note ?_ ?_ ?_
  · rintro approved rfl
    exact hne rfl
  · rintro rfl
    exact hne rfl
  · rintro rfl
    exact hne rfl

lemma Live.congr_directory (h : Live P directory log id request)
    (hf : request.status = .pending → directory'.decisions id = directory.decisions id) :
    Live P directory' log id request where
  __ := h
  decided := by
    have hd := h.decided
    cases hs : request.status with
    | pending =>
      rw [hf hs]
      rwa [hs] at hd
    | approved => rwa [hs] at hd
    | rejected => trivial

lemma Live.windows (h : Live P directory log id request) (reveals proofs : RateWindow Unit) :
    Live P directory log id { request with reveals, proofs } where
  __ := h
  origin := by
    obtain ⟨original, hc, ⟨stage, status, _, _, rfl⟩, hs⟩ := h.origin
    exact ⟨original, hc, ⟨stage, status, reveals, proofs, rfl⟩, hs⟩

lemma Live.take (h : Live P directory log id request)
    (hp : request.status = .pending) (hf : directory.decisions id = some decision) (directory' : PairingDirectory) :
    Live P directory' log id { request with status := decision.status } where
  __ := h
  decided := by
    have hd := h.decided
    rw [hp, hf, Decided, Option.toList_some, List.map_singleton] at hd
    rw [LocalDecision.status]
    split_ifs with ha
    · rwa [ha] at hd
    · trivial
  origin := by
    obtain ⟨original, hc, ⟨stage, _, reveals, proofs, rfl⟩, hs⟩ := h.origin
    exact ⟨original, hc, ⟨stage, _, reveals, proofs, rfl⟩, hs⟩

end Log

/-! ### Requests in their places -/

section Put

variable {requests : List (String × PendingRequest)} {id : String}

lemma map_fst_put : (requests.map fun e => if e.1 = id then (id, request) else e).map Prod.fst =
    requests.map Prod.fst := by
  rw [List.map_map]
  refine List.map_congr_left fun e _ => ?_
  rw [Function.comp_apply]
  split_ifs with he
  · exact he.symm
  · rfl

lemma mem_put_cases (h : (other, request') ∈ requests.map fun e => if e.1 = id then (id, request) else e) :
    other = id ∧ request' = request ∨ (other, request') ∈ requests := by
  obtain ⟨e, he, heq⟩ := List.mem_map.mp h
  split_ifs at heq
  · cases heq
    exact .inl ⟨rfl, rfl⟩
  · subst heq
    exact .inr he

end Put

/-! ### The calls keep the registry -/

namespace RegistryOk

variable {P : PairingPrimitives} {config : PairingConfig} {r r' : PairingRegistry} {id : String}
  {io : PairingIo} {request : PendingRequest}

variable (h : RegistryOk P config r)

include h

lemma windows (creates : RateWindow SourceKey)
    (lookups : RateWindow Unit) : RegistryOk P config { r with creates, lookups } :=
  { __ := h }

lemma reorder (hp : requests.Perm r.requests) : RegistryOk P config { r with requests } where
  __ := h
  nodup := (hp.map Prod.fst).nodup_iff.mpr h.nodup
  live := fun id request hm => h.live id request (hp.mem_iff.mp hm)

lemma put (hl : Live P r.directory r.log id request) : RegistryOk P config
      { r with requests := r.requests.map fun e => if e.1 = id then (id, request) else e } where
  __ := h
  nodup := by
    rw [map_fst_put]
    exact h.nodup
  live := by
    intro other request' hm
    rcases mem_put_cases hm with ⟨rfl, rfl⟩ | hm
    · exact hl
    · exact h.live other request' hm

lemma filter (keep : String × PendingRequest → Bool) :
    RegistryOk P config { r with requests := r.requests.filter keep } where
  __ := h
  nodup := h.nodup.sublist (List.filter_sublist.map _)
  live := fun id request hm => h.live id request (List.mem_of_mem_filter hm)

/-- Files may be removed, but not the decision for a pending request. -/
lemma shrink (hp : ∀ id request, (id, request) ∈ r.requests → request.status = .pending →
      directory.decisions id = r.directory.decisions id)
    (hf : ∀ id, directory.decisions id ≠ none → r.directory.decisions id ≠ none) :
    RegistryOk P config { r with directory } where
  __ := h
  live := fun id request hm => (h.live id request hm).congr_directory (hp id request hm)
  files := fun id hfi => h.files id (hf id hfi)

lemma note (hr : ∀ registration, event ≠ .registering registration) (hd : ∀ id, event ≠ .delivered id)
    (hde : ∀ id approved, event ≠ .decided id approved)
    (hc : ∀ request, (event.requestId, request) ∈ r.requests →
      event ≠ .cancelled event.requestId) : RegistryOk P config { r with log := event :: r.log } where
  nodup := h.nodup
  live := by
    intro id request hm
    refine (h.live id request hm).note (hde id) ?_ (hd id)
    rintro rfl
    exact hc request hm rfl
  files := fun id hf => decisionsOf_ne_nil_cons (h.files id hf)
  enrolments := h.enrolments.note hr hd

end RegistryOk

namespace PairingDirectory

variable (directory : PairingDirectory) (io : PairingIo)

lemma removeLocalFiles_of_ne {id other : String} (h : other ≠ id) :
    (directory.removeLocalFiles io id).decisions other = directory.decisions other := by
  rw [removeLocalFiles]
  dsimp only
  split_ifs
  · rfl
  · exact Function.update_of_ne h ..

lemma decisions_of_removeLocalFiles {id other : String}
    (h : (directory.removeLocalFiles io id).decisions other ≠ none) :
    directory.decisions other ≠ none := by
  by_cases ho : other = id
  · subst ho
    rw [removeLocalFiles] at h
    dsimp only at h
    split_ifs at h
    · exact h
    · exact absurd (Function.update_self ..) h
  · rwa [removeLocalFiles_of_ne directory io ho] at h

lemma foldl_removeLocalFiles_of_notMem {ids : List String} (h : other ∉ ids) :
    (ids.foldl (·.removeLocalFiles io ·) directory).decisions other = directory.decisions other := by
  induction ids generalizing directory with
  | nil => rfl
  | cons id ids ih =>
    rw [List.mem_cons, not_or] at h
    rw [List.foldl_cons, ih _ h.2, removeLocalFiles_of_ne directory io h.1]

lemma decisions_of_foldl_removeLocalFiles {ids : List String}
    (h : (ids.foldl (·.removeLocalFiles io ·) directory).decisions other ≠ none) :
    directory.decisions other ≠ none := by
  induction ids generalizing directory with
  | nil => exact h
  | cons id ids ih => exact decisions_of_removeLocalFiles directory io (ih _ h)

end PairingDirectory

namespace PairingM

variable {P : PairingPrimitives} {config : PairingConfig} {r : PairingRegistry} {id : String}
  {io : PairingIo} {request : PendingRequest}

/-- No request of the registry has expired. -/
def Unexpired (io : PairingIo) (r : PairingRegistry) : Prop :=
  ∀ id request, (id, request) ∈ r.requests → request.expired io.now = false

lemma mem_put {requests : List (String × PendingRequest)} (he : e ∈ requests) (hne : e.1 ≠ id) :
    e ∈ requests.map fun e => if e.1 = id then (id, request) else e :=
  List.mem_map.mpr ⟨e, he, if_neg hne⟩

lemma eq_of_mem_put {requests : List (String × PendingRequest)}
    (h : (id, request') ∈ requests.map fun e => if e.1 = id then (id, request) else e) : request' = request := by
  obtain ⟨e, -, heq⟩ := List.mem_map.mp h
  split_ifs at heq with hid
  · cases heq
    rfl
  · subst heq
    exact absurd rfl hid

lemma Unexpired.put (h : Unexpired io r) (hr : request.expired io.now = false) : Unexpired io
      { r with requests := r.requests.map fun e => if e.1 = id then (id, request) else e } := by
  intro other request' hm
  rcases mem_put_cases hm with ⟨-, rfl⟩ | hm
  · exact hr
  · exact h other request' hm

lemma ensures_find {E : PairingRegistry → Prop} : (find id).Ensures r (fun found r' => r' = r ∧
      ∀ request, found = some request → (id, request) ∈ r.requests) E := by
  refine Program.ensures_get_bind (Program.ensures_pure ⟨rfl, fun request hf => ?_⟩)
  obtain ⟨before, after, heq, -⟩ := List.lookup_eq_some_iff.mp hf
  rw [heq]
  exact List.mem_append_right _ List.mem_cons_self

lemma notMem_remove (requests : List (String × PendingRequest)) (id : String)
    (request : PendingRequest) : (id, request) ∉ requests.filter (·.1 ≠ id) := by
  intro h
  simpa using (List.mem_filter.mp h).2

variable (h : RegistryOk P config r)

include h

/-- The local files of requests that are not pending can be removed. -/
lemma ensures_removeLocalFiles (hp : ∀ request, (id, request) ∈ r.requests → request.status ≠ .pending)
    {E : PairingRegistry → Prop} : (removeLocalFiles io id).Ensures r (fun _ r' => RegistryOk P config r' ∧
      r'.requests = r.requests ∧ r'.log = r.log) E := by
  refine Program.ensures_modify ⟨h.shrink ?_ ?_, rfl, rfl⟩
  · intro other request hm hs
    refine PairingDirectory.removeLocalFiles_of_ne _ io ?_
    rintro rfl
    exact hp request hm hs
  · intro other
    exact PairingDirectory.decisions_of_removeLocalFiles _ io

lemma ensures_dropExpired {E : PairingRegistry → Prop} :
    (dropExpired io).Ensures r (fun _ r' => RegistryOk P config r' ∧ Unexpired io r' ∧ r'.log = r.log) E := by
  refine Program.ensures_get_bind (Program.ensures_modify ⟨?_, ?_, rfl⟩)
  · refine (h.filter fun e => ¬ e.2.expired io.now).shrink ?_ ?_
    · intro id request hm _
      refine PairingDirectory.foldl_removeLocalFiles_of_notMem _ io ?_
      -- an id has one request, which has not expired
      intro he
      obtain ⟨⟨other, request'⟩, ho, rfl⟩ := List.mem_map.mp he
      rw [List.mem_filter] at hm ho
      have heq := List.inj_on_of_nodup_map h.nodup hm.1 ho.1 rfl
      cases heq
      exact absurd ho.2 (by simpa using hm.2)
    · intro id
      exact PairingDirectory.decisions_of_foldl_removeLocalFiles _ io
  · intro id request hm
    have hk := (List.mem_filter.mp hm).2
    simpa using hk

lemma ensures_takeDecision (hu : Unexpired io r) (hme : (id, request) ∈ r.requests) :
    (takeDecision io id request).Ensures r (fun _ r' => RegistryOk P config r' ∧ Unexpired io r' ∧
      r'.log = r.log ∧ ∀ e ∈ r.requests, e.1 ≠ id → e ∈ r'.requests) (RegistryOk P config) := by
  have hk : RegistryOk P config r ∧ Unexpired io r ∧ r.log = r.log ∧
      ∀ e ∈ r.requests, e.1 ≠ id → e ∈ r.requests := ⟨h, hu, rfl, fun _ he _ => he⟩
  rw [takeDecision]
  split_ifs with hs
  · exact Program.ensures_pure hk
  rw [not_not] at hs
  refine Program.ensures_failWith_bind (Program.ensures_get_bind ?_) h
  cases hf : r.directory.decisions id with
  | none => exact Program.ensures_pure hk
  | some decision =>
    dsimp only
    split_ifs with hm
    · exact Program.ensures_fail h
    · have hl := (h.live id request hme).take hs hf r.directory
      refine Program.ensures_modify_bind ?_
      refine (ensures_removeLocalFiles (h.put hl) ?_).mono ?_ fun _ h => h
      · intro request' hme'
        rw [eq_of_mem_put hme', LocalDecision.status]
        split_ifs <;> exact nofun
      · rintro _ r' ⟨hok, hr, hlo⟩
        refine ⟨hok, ?_, hlo, ?_⟩
        · rw [Unexpired, hr]
          exact hu.put (hu id request hme)
        · intro e he hne
          rw [hr]
          exact mem_put he hne

lemma ensures_takeDecisions (hu : Unexpired io r) (hm : ∀ e ∈ requests, e ∈ r.requests)
    (hn : (requests.map Prod.fst).Nodup) :
    (takeDecisions io requests).Ensures r (fun _ r' => RegistryOk P config r' ∧ Unexpired io r' ∧
      r'.log = r.log) (RegistryOk P config) := by
  induction requests generalizing r with
  | nil => exact Program.ensures_pure ⟨h, hu, rfl⟩
  | cons e rest ih =>
    obtain ⟨id, request⟩ := e
    rw [List.map_cons, List.nodup_cons] at hn
    refine (ensures_takeDecision h hu (hm _ List.mem_cons_self)).bind ?_
    rintro _ r₁ ⟨hok, hu₁, hl, hk⟩
    refine (ih hok hu₁ ?_ hn.2).mono ?_ fun _ h => h
    · intro e he
      refine hk e (hm e (List.mem_cons_of_mem _ he)) fun heq => hn.1 ?_
      exact List.mem_map.mpr ⟨e, he, heq⟩
    · rintro _ r₂ ⟨hok₂, hu₂, hl₂⟩
      exact ⟨hok₂, hu₂, hl₂.trans hl⟩

lemma ensures_prune : (prune io).Ensures r (fun _ r' => RegistryOk P config r' ∧ Unexpired io r' ∧ r'.log = r.log)
      (RegistryOk P config) := by
  refine (ensures_dropExpired h).bind ?_
  rintro _ r₁ ⟨hok, hu, hl⟩
  refine Program.ensures_get_bind ?_
  refine (ensures_takeDecisions hok hu (fun _ he => he) hok.nodup).mono ?_ fun _ h => h
  rintro _ r₂ ⟨hok₂, hu₂, hl₂⟩
  exact ⟨hok₂, hu₂, hl₂.trans hl⟩

lemma ensures_admitLookup : (admitLookup io).Ensures r (fun _ => RegistryOk P config) (RegistryOk P config) :=
  Program.ensures_of_snd (fun _ => h.windows _ _) (h.windows _ _)

lemma ensures_count {result : Except PairingError Unit} {counted : PendingRequest}
    (hu : Unexpired io r) (hm : (id, request) ∈ r.requests)
    (hc : ∃ reveals proofs, counted = { request with reveals, proofs }) :
    (do
      put id counted
      Program.ofExcept result
      pure counted : PairingM PendingRequest).Ensures r
      (fun request' r' => RegistryOk P config r' ∧ Unexpired io r' ∧ r'.log = r.log ∧
        (id, request') ∈ r'.requests) (RegistryOk P config) := by
  obtain ⟨reveals, proofs, rfl⟩ := hc
  have hok := h.put ((h.live id request hm).windows reveals proofs)
  refine Program.ensures_modify_bind (Program.ensures_ofExcept_bind (fun _ _ => ?_) hok)
  refine Program.ensures_pure ⟨hok, hu.put (hu id request hm), rfl, ?_⟩
  exact List.mem_map.mpr ⟨_, hm, if_pos rfl⟩

lemma ensures_admitReveal (hu : Unexpired io r)
    (hm : (id, request) ∈ r.requests) :
    (admitReveal io id request).Ensures r (fun request' r' => RegistryOk P config r' ∧
      Unexpired io r' ∧ r'.log = r.log ∧ (id, request') ∈ r'.requests) (RegistryOk P config) :=
  ensures_count h hu hm ⟨_, _, rfl⟩

lemma ensures_admitProof (hu : Unexpired io r)
    (hm : (id, request) ∈ r.requests) :
    (admitProof io id request).Ensures r (fun request' r' => RegistryOk P config r' ∧
      Unexpired io r' ∧ r'.log = r.log ∧ (id, request') ∈ r'.requests) (RegistryOk P config) :=
  ensures_count h hu hm ⟨_, _, rfl⟩

end PairingM

/-- What is known of a poll that holds the lock. -/
structure HeldOk (P : PairingPrimitives) (r : PairingRegistry) (now : Nat) (id : String)
    (proof : Key32) (request : PendingRequest) : Prop where
  live : Live P r.directory r.log id request
  absent : ∀ other, (id, other) ∉ r.requests
  approved : request.status = .approved
  proved : ∃ material, request.stage = .revealed material ∧ material.pollProof = proof.val
  unexpired : now < request.expires

namespace PairingPrimitives

open PairingM

variable {P : PairingPrimitives} {config : PairingConfig} {r : PairingRegistry} {id : String}
  {io : PairingIo}

lemma Opens.congr (h : P.Opens id request clientPublic clientNonce material)
    (hco : original.Continues request) (hs : original.stage = request.stage) :
    P.Opens id original clientPublic clientNonce material := by
  obtain ⟨serverSecret, commitment, revealBy, hc, ho, hd⟩ := h
  obtain ⟨stage, status, reveals, proofs, rfl⟩ := hco
  exact ⟨serverSecret, commitment, revealBy, hs.trans hc, ho, hd⟩

variable (h : RegistryOk P config r)

include h

lemma ensures_takeApproved {pending : PendingRequest} {proof : Key32}
    (hu : Unexpired io r) (hm : (id, pending) ∈ r.requests) :
    (takeApproved io id pending proof).Ensures r (fun outcome r' => RegistryOk P config r' ∧
      ∀ proof' request, outcome = .taken proof' request → HeldOk P r' io.now id proof' request)
      (RegistryOk P config) := by
  rw [takeApproved]
  by_cases hp : pending.material.any (·.pollProof = proof.val) = true
  swap
  · rw [if_pos hp]
    exact Program.ensures_fail h
  rw [if_neg (not_not.mpr hp)]
  by_cases hpe : pending.status = .pending
  · rw [if_pos hpe]
    exact Program.ensures_pure ⟨h, fun _ _ heq => by cases heq⟩
  rw [if_neg hpe]
  have hrm : RegistryOk P config { r with requests := r.requests.filter (·.1 ≠ id) } :=
    h.filter _
  refine Program.ensures_modify_bind ((ensures_removeLocalFiles hrm ?_).bind ?_)
  · intro request hrq
    exact absurd hrq (notMem_remove _ _ _)
  rintro _ r' ⟨hok, hre, hlo⟩
  split_ifs with hr
  · exact Program.ensures_pure ⟨hok, fun _ _ heq => by cases heq⟩
  refine Program.ensures_pure ⟨hok, ?_⟩
  intro proof' request heq
  cases heq
  have hl := h.live id pending hm
  have ha : pending.status = .approved := by
    cases hs : pending.status with
    | pending => exact absurd hs hpe
    | approved => rfl
    | rejected => exact absurd hs hr
  refine ⟨?_, ?_, ha, ?_, ?_⟩
  · rw [hlo]
    exact hl.congr_directory fun hs => absurd hs hpe
  · intro other
    rw [hre]
    exact notMem_remove _ _ _
  · rw [PendingRequest.material] at hp
    cases hst : pending.stage with
    | committed serverSecret commitment revealBy =>
      rw [hst] at hp
      exact absurd hp nofun
    | revealed material =>
      rw [hst] at hp
      exact ⟨material, rfl, of_decide_eq_true hp⟩
  · have he := hu id pending hm
    rw [PendingRequest.expired, Bool.or_eq_false_iff, decide_eq_false_iff_not, Nat.not_le]
      at he
    exact he.1

lemma ensures_poll (request : PairingProofRequest) :
    (P.poll io request).Ensures r (fun outcome r' => RegistryOk P config r' ∧
      ∀ proof pending, outcome = .taken proof pending →
        HeldOk P r' io.now request.requestId proof pending) (RegistryOk P config) := by
  refine Program.ensures_ofExcept_bind (fun _ _ => ?_) h
  refine Program.ensures_ofExcept_bind (fun proof _ => ?_) h
  refine (ensures_admitLookup h).bind fun _ r₁ h₁ => ?_
  refine (ensures_prune h₁).bind ?_
  rintro _ r₂ ⟨h₂, hu, -⟩
  refine ensures_find.bind ?_
  rintro found _ ⟨rfl, hf⟩
  cases found with
  | none => exact Program.ensures_pure ⟨h₂, fun _ _ heq => by cases heq⟩
  | some pending =>
    refine (ensures_admitProof h₂ hu (hf pending rfl)).bind ?_
    rintro pending' r₃ ⟨h₃, hu₃, -, hm⟩
    exact ensures_takeApproved h₃ hu₃ hm

lemma ensures_cancel (request : PairingProofRequest) :
    (P.cancel io request).Ensures r (fun _ => RegistryOk P config) (RegistryOk P config) := by
  refine Program.ensures_ofExcept_bind (fun _ _ => ?_) h
  refine Program.ensures_ofExcept_bind (fun proof _ => ?_) h
  refine (ensures_admitLookup h).bind fun _ r₁ h₁ => ?_
  refine (ensures_prune h₁).bind ?_
  rintro _ r₂ ⟨h₂, hu, -⟩
  refine ensures_find.bind ?_
  rintro found _ ⟨rfl, hf⟩
  cases found with
  | none => exact Program.ensures_pure h₂
  | some pending =>
    refine (ensures_admitProof h₂ hu (hf pending rfl)).bind ?_
    rintro pending' r₃ ⟨h₃, -, -, -⟩
    split_ifs
    swap
    · exact Program.ensures_fail h₃
    have hre : RegistryOk P config
        { r₃ with requests := r₃.requests.filter (·.1 ≠ request.requestId) } := h₃.filter _
    refine Program.ensures_modify_bind ((ensures_removeLocalFiles hre ?_).bind ?_)
    · intro other ho
      exact absurd ho (notMem_remove _ _ _)
    rintro _ r₄ ⟨h₄, hr, -⟩
    refine Program.ensures_modify (h₄.note nofun nofun nofun ?_)
    intro other ho
    rw [hr] at ho
    exact absurd ho (notMem_remove _ _ _)

lemma ensures_publishSummary {summary : PairingSummary} :
    (publishSummary io id summary).Ensures r (fun _ r' => RegistryOk P config r' ∧
      r'.requests = r.requests) (RegistryOk P config) := by
  rw [publishSummary]
  cases io.publish with
  | some error => exact Program.ensures_pure ⟨h, rfl⟩
  | none =>
    refine Program.ensures_get_bind ?_
    cases r.directory.summaries id with
    | some _ => exact Program.ensures_pure ⟨h, rfl⟩
    | none =>
      exact Program.ensures_modify_bind (Program.ensures_pure ⟨h.shrink (fun _ _ _ _ => rfl) fun _ hf => hf, rfl⟩)

lemma ensures_openCommitment {pending : PendingRequest} {clientPublic clientNonce : Key32}
    (hm : (id, pending) ∈ r.requests) :
    (P.openCommitment io id pending clientPublic clientNonce).Ensures r (fun _ => RegistryOk P config)
      (RegistryOk P config) := by
  rw [openCommitment]
  cases hs : pending.stage with
  | revealed material => exact Program.ensures_fail h
  | committed serverSecret commitment revealBy =>
    dsimp only
    split_ifs with ho
    · exact Program.ensures_fail h
    rw [not_not] at ho
    cases hd : P.derive id (transcript pending clientPublic clientNonce)
        (P.diffieHellman serverSecret clientPublic) with
    | error error => exact Program.ensures_modify_bind (Program.ensures_fail (h.filter _))
    | ok material =>
      refine (ensures_publishSummary h).bind ?_
      rintro result r₁ ⟨h₁, hr⟩
      cases result with
      | error error => exact Program.ensures_modify_bind (Program.ensures_fail (h₁.filter _))
      | ok =>
        have hn : RegistryOk P config { r₁ with
            log := .revealed id clientPublic clientNonce (P.summary id pending material) :: r₁.log } :=
          h₁.note nofun nofun nofun fun _ _ heq => by cases heq
        refine Program.ensures_modify_bind (Program.ensures_modify (hn.put ?_))
        have hl := hn.live id pending (by rw [hr]; exact hm)
        obtain ⟨original, hcr, hc, hst⟩ := hl.origin
        rw [hs] at hst
        have hco : P.Opens id pending clientPublic clientNonce material :=
          ⟨serverSecret, commitment, revealBy, hs, ho, hd⟩
        have hop := hco.congr hc (hst.trans hs.symm)
        obtain ⟨stage, status, reveals, proofs, rfl⟩ := hc
        exact ⟨hl.decided, hl.cancelled, hl.delivered, original, hcr, ⟨_, status, reveals, proofs, rfl⟩,
          clientPublic, clientNonce, hop, List.mem_cons_self⟩

lemma ensures_reveal (request : RevealPairingRequest) :
    (P.reveal io request).Ensures r (fun _ => RegistryOk P config) (RegistryOk P config) := by
  refine Program.ensures_ofExcept_bind (fun _ _ => ?_) h
  refine Program.ensures_ofExcept_bind (fun clientPublic _ => ?_) h
  refine Program.ensures_ofExcept_bind (fun clientNonce _ => ?_) h
  refine (ensures_admitLookup h).bind fun _ r₁ h₁ => ?_
  refine (ensures_prune h₁).bind ?_
  rintro _ r₂ ⟨h₂, hu, -⟩
  refine ensures_find.bind ?_
  rintro found _ ⟨rfl, hf⟩
  cases found with
  | none => exact Program.ensures_fail h₂
  | some pending =>
    refine (ensures_admitReveal h₂ hu (hf pending rfl)).bind ?_
    rintro pending' r₃ ⟨h₃, -, -, hm⟩
    exact (ensures_openCommitment h₃ hm).bind fun _ _ h => Program.ensures_pure h

lemma ensures_makeRoom : makeRoom.Ensures r (fun _ r' => RegistryOk P config r' ∧ r'.log = r.log)
      (RegistryOk P config) := by
  refine Program.ensures_get_bind ?_
  split_ifs
  · split
    · exact Program.ensures_fail h
    · exact Program.ensures_modify ⟨h.filter _, rfl⟩
  · exact Program.ensures_pure ⟨h, rfl⟩

lemma registryOk_insert {new : NewRequest} {serverSecret : Key32} (hf : ∀ event ∈ r.log, event.requestId ≠ id) :
    RegistryOk P config { r with
      requests := (id, P.pendingRequest io new serverSecret) :: r.requests
      log := .created id (P.pendingRequest io new serverSecret) :: r.log } := by
  have hn : RegistryOk P config { r with
      log := .created id (P.pendingRequest io new serverSecret) :: r.log } :=
    h.note nofun nofun nofun fun _ _ heq => by cases heq
  have hd : decisionsOf r.log id = [] := decisionsOf_eq_nil hf
  refine ⟨?_, ?_, hn.files, hn.enrolments⟩
  · refine List.nodup_cons.mpr ⟨?_, h.nodup⟩
    -- a request of the registry was created
    intro hm
    obtain ⟨⟨_, request⟩, hr, rfl⟩ := List.mem_map.mp hm
    obtain ⟨original, hcr, -⟩ := (h.live _ request hr).origin
    exact hf _ hcr rfl
  · intro other request hm
    rcases List.mem_cons.mp hm with heq | hm
    · cases heq
      refine ⟨?_, ?_, ?_, _, List.mem_cons_self, ⟨_, _, _, _, rfl⟩, rfl⟩
      · have hfi : r.directory.decisions id = none := by
          by_contra hfi
          exact h.files id hfi hd
        have hl : decisionsOf (.created id (P.pendingRequest io new serverSecret) :: r.log) id =
            decisionsOf r.log id := decisionsOf_of_ne nofun
        change decisionsOf (_ :: r.log) id = _
        rw [hl, hd, hfi]
        rfl
      · rw [List.mem_cons, not_or]
        exact ⟨nofun, fun hc => hf _ hc rfl⟩
      · rw [List.mem_cons, not_or]
        exact ⟨nofun, fun hde => hf _ hde rfl⟩
    · exact hn.live other request hm

lemma ensures_insertRequest {new : NewRequest} {serverSecret : Key32} (hf : ∀ event ∈ r.log, event.requestId ≠ id) :
    (P.insertRequest io new serverSecret id).Ensures r (fun _ => RegistryOk P config) (RegistryOk P config) := by
  refine (ensures_prune h).bind ?_
  rintro _ r₁ ⟨h₁, -, hl₁⟩
  have ha : (admitCreate io new.peer.source).Ensures r₁ (fun _ r' => RegistryOk P config r' ∧
      r'.log = r₁.log) (RegistryOk P config) :=
    Program.ensures_of_snd (fun _ => ⟨h₁.windows _ _, rfl⟩) (h₁.windows _ _)
  refine ha.bind ?_
  rintro _ r₂ ⟨h₂, hl₂⟩
  refine Program.ensures_get_bind ?_
  split_ifs
  · exact Program.ensures_fail h₂
  refine (ensures_makeRoom h₂).bind ?_
  rintro _ r₃ ⟨h₃, hl₃⟩
  refine Program.ensures_modify_bind (Program.ensures_modify_bind (Program.ensures_pure ?_))
  refine registryOk_insert h₃ ?_
  rw [hl₃, hl₂, hl₁]
  exact hf

end PairingPrimitives

end Todex

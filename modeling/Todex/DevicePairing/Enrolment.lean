import Todex.DevicePairing.Known

/-!
# Enrolment needs a local approval

A poll registers a device for a request that was revealed and approved. A decision that is recorded
after the registry has taken an earlier one does not count, although its process succeeds.
-/

namespace Todex

/-! ### Runs -/

structure PairingOk (P : PairingPrimitives) (config : PairingConfig) (s : PairingState) : Prop where
  registry : RegistryOk P config s.registry
  held : ∀ held, s.held = some held →
    HeldOk P s.registry s.now held.requestId held.proof held.request
  current : ∀ held, s.held = some held → held.compared = true →
    config.transportBinding s.keys = .ok held.request.transport

variable {held : HeldPoll} {r : PairingRegistry}

section Run

variable {P : PairingPrimitives} {config : PairingConfig} {s s' : PairingState}

lemma PairingOk.of_unheld (hh : s.held = none) (hr : RegistryOk P config s.registry) : PairingOk P config s where
  registry := hr
  held := fun _ h => absurd (hh.symm.trans h) nofun
  current := fun _ h => absurd (hh.symm.trans h) nofun

lemma pairingOk_initial (now unixMs : Nat) (keys : Option PairingKeys) :
    PairingOk P config (.initial now unixMs keys) := by
  refine .of_unheld rfl ⟨List.nodup_nil, ?_, ?_, ?_, List.nodup_nil⟩
  · intro id request hm
    exact absurd hm List.not_mem_nil
  · intro id hf
    exact absurd rfl hf
  · intro registration before hs
    exact absurd (List.suffix_nil.mp hs) (List.cons_ne_nil _ _)

lemma PairingOk.polled (hok : PairingOk P config s) (hh : s.held = none) (hat : s.At io)
    (request : PairingProofRequest) :
    PairingOk P config (s.polled request.requestId (P.poll io request s.registry)) := by
  have hp : (P.poll io request).Ensures s.registry _ _ := P.ensures_poll hok.registry request
  rw [Program.Ensures] at hp
  rcases hre : P.poll io request s.registry with ⟨_ | outcome, r⟩
  · rw [hre] at hp
    exact .of_unheld hh hp
  · rw [hre] at hp
    obtain ⟨hr, ht⟩ := hp
    cases outcome with
    | reply response => exact .of_unheld hh hr
    | taken proof pending =>
      refine ⟨hr, ?_, ?_⟩
      · rintro held h
        cases h
        exact hat.1 ▸ ht proof pending rfl
      · rintro held h
        cases h
        rintro ⟨⟩

lemma HeldOk.earned (h : HeldOk P r now held.requestId held.proof held.request)
    (hc : config.transportBinding keys = .ok held.request.transport) : ∃ request clientPublic clientNonce material,
      Earned P config r.log (held.registration now keys) request clientPublic clientNonce material := by
  obtain ⟨original, hcr, hco, hs⟩ := h.live.origin
  obtain ⟨material, hst, hp⟩ := h.proved
  rw [hst] at hs
  obtain ⟨clientPublic, clientNonce, ho, hsh⟩ := hs
  have hde := h.live.decided
  have hu := h.unexpired
  rw [h.approved] at hde
  obtain ⟨stage, status, reveals, proofs, heq⟩ := hco
  rw [heq] at hu hc
  rw [HeldPoll.registration, heq]
  refine ⟨original, clientPublic, clientNonce, material, hcr, ho, hsh, hp, hde, h.live.cancelled, hu, hc, rfl,
    rfl, ?_, ?_⟩
  · obtain ⟨serverSecret, commitment, revealBy, -, -, hd⟩ := ho
    rw [PairingPrimitives.derive] at hd
    split_ifs at hd
    cases hd
    rfl
  · intro other hdi
    by_cases hb : other.bytes held.requestId =
        (PairingPrimitives.transcript original clientPublic clientNonce).bytes held.requestId
    · have hot := Transcript.bytes_injective _ hb
      exact .inl ⟨by rw [hot]; rfl, by rw [hot]; rfl⟩
    · exact .inr ⟨hb, hdi⟩

lemma RegistryOk.register (h : RegistryOk P config r) (he : ∃ request clientPublic clientNonce material,
      Earned P config r.log registration request clientPublic clientNonce material) :
    RegistryOk P config { r with log := .registering registration :: r.log } where
  nodup := h.nodup
  live := fun id request hm => (h.live id request hm).note nofun nofun nofun
  files := fun id hf => decisionsOf_ne_nil_cons (h.files id hf)
  enrolments := by
    refine ⟨?_, h.enrolments.once⟩
    intro other before hs
    rcases List.suffix_cons_iff.mp hs with heq | hs
    · cases heq
      exact he
    · exact h.enrolments.earned other before hs

/-- The first credential of a request that is no longer in the registry. -/
lemma RegistryOk.deliver {id : String} (h : RegistryOk P config r)
    (ha : ∀ request, (id, request) ∉ r.requests) (hf : .delivered id ∉ r.log) :
    RegistryOk P config { r with log := .delivered id :: r.log } where
  nodup := h.nodup
  live := by
    intro other request hm
    refine (h.live other request hm).note_of_ne ?_
    rintro rfl
    exact ha request hm
  files := fun id hfi => decisionsOf_ne_nil_cons (h.files id hfi)
  enrolments := by
    constructor
    · intro registration before hs
      rcases List.suffix_cons_iff.mp hs with heq | hs
      · cases heq
      · exact h.enrolments.earned registration before hs
    · exact List.nodup_cons.mpr ⟨mt mem_deliveries.mp hf, h.enrolments.once⟩

lemma PairingOk.register (hok : PairingOk P config s) (hh : s.held = some held)
    (hc : held.compared = true) (nonce : Bytes) (result : Except PairingError Unit) :
    PairingOk P config (s.register P held nonce result) := by
  have hk := hok.held held hh
  have hr := hok.registry.register (hk.earned (hok.current held hh hc))
  unfold PairingState.register
  split
  · have hf (registration : Registration) :
        .delivered held.requestId ∉ .registering registration :: s.registry.log :=
      fun h => hk.live.delivered ((List.mem_cons.mp h).resolve_left nofun)
    exact .of_unheld rfl (hr.deliver hk.absent (hf _))
  · exact .of_unheld rfl hr

/-- A decision for a request that is pending, or is no request of the registry. -/
lemma RegistryOk.recordDecision {id : String} (h : RegistryOk P config r) (hno : r.directory.decisions id = none)
    (hp : ∀ request, (id, request) ∈ r.requests → request.status = .pending) :
    RegistryOk P config (r.recordDecision id approved) where
  nodup := h.nodup
  live := by
    intro other request hm
    have hl := h.live other request hm
    by_cases ho : other = id
    · subst ho
      obtain ⟨original, hcr, hco, hs⟩ := hl.origin
      have hd := hl.decided
      rw [hp request hm, hno] at hd
      refine ⟨?_, ?_, ?_, original, List.mem_cons_of_mem _ hcr, hco, hs.note⟩
      · have hf : (r.recordDecision other approved).directory.decisions other =
            some { requestId := other, approved } := Function.update_self ..
        have hlo : decisionsOf (r.recordDecision other approved).log other = [approved] :=
          (decisionsOf_decided ..).trans (congrArg _ hd)
        rw [hp request hm, hf, hlo]
        rfl
      · intro hc
        exact hl.cancelled ((List.mem_cons.mp hc).resolve_left nofun)
      · intro hde
        exact hl.delivered ((List.mem_cons.mp hde).resolve_left nofun)
    · have hn : Live P r.directory (.decided id approved :: r.log) other request :=
        hl.note_of_ne (Ne.symm ho)
      exact hn.congr_directory fun _ => Function.update_of_ne ho ..
  files := by
    intro other hf
    by_cases ho : other = id
    · subst ho
      have hlo : decisionsOf (r.recordDecision other approved).log other = _ :=
        decisionsOf_decided ..
      rw [hlo]
      exact List.cons_ne_nil _ _
    · have hsa : (r.recordDecision id approved).directory.decisions other =
          r.directory.decisions other := Function.update_of_ne ho ..
      rw [hsa] at hf
      exact decisionsOf_ne_nil_cons (h.files other hf)
  enrolments := h.enrolments.note nofun nofun

lemma HeldOk.recordDecision {now : Nat} {id : String}
    {approved : Bool} (h : HeldOk P r now held.requestId held.proof held.request) (hne : held.requestId ≠ id) :
    HeldOk P (r.recordDecision id approved) now held.requestId held.proof held.request where
  __ := h
  live := by
    have hn : Live P r.directory (.decided id approved :: r.log) held.requestId held.request :=
      h.live.note_of_ne (Ne.symm hne)
    exact hn.congr_directory fun hp => absurd (h.approved.symm.trans hp) nofun

theorem pairingOk_step (hok : PairingOk P config s) (hst : PairingStep P config s s')
    (hm : PairingUndisturbed s s') : PairingOk P config s' := by
  cases hst with
  | tick hl =>
    refine ⟨hok.registry, fun held hh => ?_, hok.current⟩
    have hk := hok.held held hh
    exact ⟨hk.live, hk.absent, hk.approved, hk.proved, hm.time held hh⟩
  | setClock unixMs => exact ⟨hok.registry, hok.held, hok.current⟩
  | replaceKeys keys =>
    refine ⟨hok.registry, hok.held, fun held hh hc => ?_⟩
    rw [hm.keys held hh hc]
    exact hok.current held hh hc
  | reorder hpe =>
    refine ⟨hok.registry.reorder hpe, fun held hh => ?_, hok.current⟩
    have hk := hok.held held hh
    exact ⟨hk.live, fun other hme => hk.absent other (hpe.mem_iff.mp hme), hk.approved, hk.proved, hk.unexpired⟩
  | create process peer arrival request => exact ⟨hok.registry, hok.held, hok.current⟩
  | insert serverSecret hh hat hcr hf =>
    exact .of_unheld hh (P.ensures_insertRequest hok.registry hf).snd
  | reveal request hh hat =>
    exact .of_unheld hh (P.ensures_reveal hok.registry request).snd
  | poll request hh hat => exact hok.polled hh hat request
  | compare hh hc =>
    rename_i held
    rw [PairingState.compare]
    split_ifs with hcu
    · refine ⟨hok.registry, ?_, ?_⟩
      · intro other ho
        cases ho
        exact hok.held held hh
      · intro other ho _
        cases ho
        exact hcu
    · exact .of_unheld rfl hok.registry
  | register nonce result hh hc => exact hok.register hh hc nonce result
  | cancel request hh hat =>
    exact .of_unheld hh (P.ensures_cancel hok.registry request).snd
  | readSummary process approved hid hsu hr he =>
    exact ⟨hok.registry, hok.held, hok.current⟩
  | recordDecision hde hn =>
    rename_i process id approved
    obtain ⟨hp, ho⟩ := hm.decision id approved rfl
    refine ⟨hok.registry.recordDecision hn hp, fun held hh => ?_, hok.current⟩
    exact (hok.held held hh).recordDecision (ho held hh)
  | failDecision process => exact ⟨hok.registry, hok.held, hok.current⟩
  | restart hs hd =>
    refine .of_unheld rfl ⟨List.nodup_nil, ?_, ?_, hok.registry.enrolments⟩
    · intro id request hme
      exact absurd hme List.not_mem_nil
    · intro id hfi
      rcases hd id with heq | heq
      · exact hok.registry.files id (heq ▸ hfi)
      · exact absurd heq hfi

theorem pairingOk_of_run (h : PairingRun P config PairingUndisturbed s) : PairingOk P config s := by
  induction h with
  | start now unixMs keys => exact pairingOk_initial now unixMs keys
  | step _ hs hm ih => exact pairingOk_step ih hs hm

/-- A device is registered only by a poll with the right proof for a request that was revealed,
approved by its one local decision, neither cancelled nor expired, and whose transport key is current. -/
theorem enrolment_needs_approval (h : PairingRun P config PairingUndisturbed s) :
    Enrolments P config s.registry.log :=
  (pairingOk_of_run h).registry.enrolments

end Run

/-! ### One pairing -/

section Phone

/-- The published hash functions, with keys that agree on the secret of the server. -/
def PairingPrimitives.standard : PairingPrimitives where
  primitives := .standard
  scheme := { validKey := fun _ => true, verifyStrict := fun _ _ _ => true }
  lossy := fun _ => ""
  isWeak := fun _ => false
  x25519Public := id
  diffieHellman := fun secret _ => secret
  encryptX := fun key nonce aad msg => some (Primitives.standard.encrypt key nonce aad msg)
  ipText := fun _ => ""

/-- A key of equal bytes. -/
def phoneKey (byte : UInt8) : Key32 := ⟨List.replicate 32 byte, List.length_replicate⟩

def phoneText (key : Bytes) : String := Primitives.standard.encodeBase64 key

def phoneId : String := "00000000-0000-4000-8000-000000000000"

def phoneConfig : PairingConfig where
  enabled := true
  transportProtocol := .none

def phoneKeys : PairingKeys where
  x25519Public := ⟨List.replicate 32 0, List.length_replicate⟩
  mlKemPublic := ⟨List.replicate 1184 0, List.length_replicate⟩

/-- The files can be read, written and removed. -/
def phoneIo : PairingIo where
  now := 0
  unixMs := 0
  readDecision := fun _ => none
  keepSummary := fun _ => false
  keepDecision := fun _ => false
  publish := none

def phoneCommitment : Bytes := PairingPrimitives.standard.commitment (phoneKey 1) (phoneKey 2)

def phoneRequest : CreatePairingRequest where
  clientCommitment := some (phoneText phoneCommitment)
  clientPublicKey := none
  transportBinding := some (.number (.ofNat 1))
  deviceNameBinding := some (.number (.ofNat 1))
  deviceName := "Phone"
  devicePublicKey := phoneText (phoneKey 3).val

def phoneReveal : RevealPairingRequest where
  requestId := phoneId
  clientPublicKey := phoneText (phoneKey 1).val
  clientNonce := phoneText (phoneKey 2).val

def phoneNew : NewRequest where
  peer := .ipc
  arrival := { origin := none, viaProxy := false }
  deviceName := "Phone"
  commitment := ⟨phoneCommitment, by decide +kernel⟩
  devicePublicKey := phoneKey 3
  transport := ⟨.none, [], List.length_nil⟩

def phonePending : PendingRequest :=
  PairingPrimitives.standard.pendingRequest phoneIo phoneNew (phoneKey 4)

/-- The poll with the proof of the phone. -/
def phonePoll : PairingProofRequest where
  requestId := phoneId
  proof := phoneText (PairingPrimitives.standard.hkdf (PairingPrimitives.standard.primitives.sha256
    ((PairingPrimitives.transcript phonePending (phoneKey 1) (phoneKey 2)).bytes phoneId))
    (phoneKey 4).val pollInfo)

/-- A poll of someone else. -/
def otherPoll : PairingProofRequest where
  requestId := "00000000-0000-4000-8000-000000000001"
  proof := phoneText (phoneKey 0).val

/-- The request is created and revealed. -/
@[irreducible] def phoneRevealed : PairingState :=
  let s := PairingState.initial 0 0 (some phoneKeys)
  let s := { s with creating := Function.update s.creating 0 (some phoneNew) }
  let s := { s.setRegistry (PairingPrimitives.standard.insertRequest phoneIo phoneNew (phoneKey 4)
      phoneId s.registry).2 with creating := Function.update s.creating 0 none }
  s.setRegistry (PairingPrimitives.standard.reveal phoneIo phoneReveal s.registry).2

/-- A local process reads the summary. -/
def phoneRead (process : Nat) (approved : Bool) (s : PairingState) : PairingState :=
  { s with deciding := Function.update s.deciding process (some (phoneId, approved)) }

/-- A local process records its decision. -/
def phoneDecided (process : Nat) (approved : Bool) (s : PairingState) : PairingState :=
  { s.setRegistry (s.registry.recordDecision phoneId approved) with
    deciding := Function.update s.deciding process none }

def phonePolled (request : PairingProofRequest) (s : PairingState) : PairingState :=
  s.polled request.requestId (PairingPrimitives.standard.poll phoneIo request s.registry)

/-- Two local processes read the summary, and one of them approves. -/
def phoneApproved : PairingState :=
  phoneDecided 0 true (phoneRead 0 true (phoneRead 1 false phoneRevealed))

/-- The poll of someone else takes the approval. Then the other process rejects. -/
def phoneRejected : PairingState := phoneDecided 1 false (phonePolled otherPoll phoneApproved)

lemma pairingUndisturbed_of_pending (hh : s.held = none)
    (hp : s.registry.requests.all (fun e => e.2.status = .pending) = true) : PairingUndisturbed s s' where
  decision := by
    intro id approved _
    refine ⟨fun request hm => ?_, fun held hm => absurd (hh.symm.trans hm) nofun⟩
    exact of_decide_eq_true (List.all_eq_true.mp hp _ hm)
  keys := fun held hm => absurd (hh.symm.trans hm) nofun
  time := fun held hm => absurd (hh.symm.trans hm) nofun

lemma phone_checkCreate : (PairingPrimitives.standard.checkCreate phoneConfig (some phoneKeys) .ipc
    { origin := none, viaProxy := false } phoneRequest).toOption = some phoneNew := by
  decide +kernel

lemma phoneRevealed_clean : phoneRevealed.held = none ∧ phoneRevealed.At phoneIo ∧
    phoneRevealed.keys = some phoneKeys := by
  unfold phoneRevealed
  exact ⟨rfl, ⟨rfl, rfl⟩, rfl⟩

lemma phoneRevealed_run : PairingRun .standard phoneConfig PairingUndisturbed phoneRevealed := by
  unfold phoneRevealed
  have hc := (@PairingRun.start .standard phoneConfig PairingUndisturbed 0 0 (some phoneKeys)).step
    (.create 0 .ipc { origin := none, viaProxy := false } phoneRequest)
    (pairingUndisturbed_of_pending rfl rfl)
  rw [show (PairingState.initial 0 0 (some phoneKeys)).keys = some phoneKeys from rfl, phone_checkCreate] at hc
  have hi := hc.step (@PairingStep.insert _ _ _ phoneIo 0 phoneNew phoneId (phoneKey 4) rfl
    ⟨rfl, rfl⟩ rfl fun _ h => by cases h) (pairingUndisturbed_of_pending rfl rfl)
  exact hi.step (@PairingStep.reveal _ _ _ phoneIo phoneReveal rfl ⟨rfl, rfl⟩)
    (pairingUndisturbed_of_pending rfl (by decide +kernel))

lemma PairingRun.mono (h : PairingRun P config Meets s)
    (hmo : ∀ s s', Meets s s' → Meets' s s') : PairingRun P config Meets' s := by
  induction h with
  | start now unixMs keys => exact .start now unixMs keys
  | step _ hs hm ih => exact ih.step hs (hmo _ _ hm)

lemma exists_of_any {α : Type} {o : Option α} {p : α → Prop} [DecidablePred p]
    (h : o.any (fun a => p a) = true) : ∃ a, o = some a ∧ p a := by
  cases o with
  | none => cases h
  | some a => exact ⟨a, rfl, of_decide_eq_true h⟩

-- The states are evaluated once for all that is said of them.
lemma phoneRevealed_evaluated : (phoneRevealed.registry.directory.summaries phoneId).any
      (fun summary => summary.requestId = phoneId ∧ 0 < summary.expiresAt) ∧
    (phoneRevealed.registry.directory.decisions phoneId).isNone ∧
    phoneRevealed.registry.requests.all (fun e => e.2.status = .pending) ∧
    ((phonePolled otherPoll phoneApproved).registry.directory.decisions phoneId).isNone ∧
    phoneRejected.held.isNone ∧ validateId phoneId = .ok () := by
  decide +kernel

lemma phoneRevealed_summary : ∃ summary, phoneRevealed.registry.directory.summaries phoneId = some summary ∧
      summary.requestId = phoneId ∧ 0 < summary.expiresAt :=
  exists_of_any phoneRevealed_evaluated.1

lemma phoneRevealed_undecided : phoneRevealed.registry.directory.decisions phoneId = none :=
  Option.isNone_iff_eq_none.mp phoneRevealed_evaluated.2.1

lemma phoneRevealed_pending : phoneRevealed.registry.requests.all (fun e => e.2.status = .pending) = true :=
  phoneRevealed_evaluated.2.2.1

lemma phoneRead_run (h : PairingRun .standard phoneConfig PairingUndisturbed s)
    (hh : s.held = none) (hr : s.registry = phoneRevealed.registry) (hc : s.unixMs = 0) (process : Nat)
    (approved : Bool) :
    PairingRun .standard phoneConfig PairingUndisturbed (phoneRead process approved s) := by
  obtain ⟨summary, hs, hid, he⟩ := phoneRevealed_summary
  rw [← hr] at hs
  rw [← hc] at he
  exact h.step (.readSummary process approved phoneRevealed_evaluated.2.2.2.2.2 hs hid he)
    (pairingUndisturbed_of_pending hh (hr ▸ phoneRevealed_pending))

lemma phoneApproved_run : PairingRun .standard phoneConfig PairingUndisturbed phoneApproved := by
  obtain ⟨hh, hat, -⟩ := phoneRevealed_clean
  have hr := phoneRead_run phoneRevealed_run hh rfl hat.2.symm 1 false
  have ha := phoneRead_run hr hh rfl hat.2.symm 0 true
  have hd : (phoneRead 0 true (phoneRead 1 false phoneRevealed)).deciding 0 = some (phoneId, true) := by
    simp [phoneRead]
  exact ha.step (.recordDecision hd phoneRevealed_undecided)
    (pairingUndisturbed_of_pending hh phoneRevealed_pending)

lemma phonePolled_clean (request : PairingProofRequest) (s : PairingState) :
    (phonePolled request s).now = s.now ∧ (phonePolled request s).unixMs = s.unixMs ∧
      (phonePolled request s).keys = s.keys ∧ (phonePolled request s).deciding = s.deciding := by
  unfold phonePolled PairingState.polled
  split <;> exact ⟨rfl, rfl, rfl, rfl⟩

lemma pairingUndisturbed_of_log (hl : ∀ id approved, s'.registry.log ≠ .decided id approved :: s.registry.log)
    (hk : s'.keys = s.keys) (ht : ∀ held, s.held = some held → s'.now < held.request.expires) :
    PairingUndisturbed s s' :=
  ⟨fun id approved heq => absurd heq (hl id approved), fun _ _ _ => hk, ht⟩

lemma compared_run (h : PairingRun P config Meets s) (hh : s.held = some held) (hc : held.compared = false)
    (hcu : config.transportBinding s.keys = .ok held.request.transport)
    (hm : Meets s { s with held := some { held with compared := true } }) :
    PairingRun P config Meets { s with held := some { held with compared := true } } := by
  have hs := @PairingStep.compare P config s held hh hc
  rw [PairingState.compare, if_pos hcu] at hs
  exact h.step hs hm

lemma log_register (s : PairingState) (P : PairingPrimitives) (held : HeldPoll) (nonce : Bytes)
    (result : Except PairingError Unit) : .registering (held.registration s.now s.keys) :: s.registry.log <:+
      (s.register P held nonce result).registry.log := by
  unfold PairingState.register
  split
  · exact List.suffix_cons _ _
  · exact List.suffix_rfl

lemma pairingUndisturbed_register (P : PairingPrimitives)
    (nonce : Bytes) (result : Except PairingError Unit) (hh : s.held = some held)
    (ht : s.now < held.request.expires) : PairingUndisturbed s (s.register P held nonce result) := by
  have hc : (s.register P held nonce result).keys = s.keys ∧
      (s.register P held nonce result).now = s.now := by
    unfold PairingState.register
    split <;> exact ⟨rfl, rfl⟩
  refine pairingUndisturbed_of_log ?_ hc.1 ?_
  · intro id approved heq
    unfold PairingState.register at heq
    split at heq <;> cases heq
  · intro other ho
    cases hh.symm.trans ho
    rw [hc.2]
    exact ht

lemma registered_run (h : PairingRun P config PairingUndisturbed s) (hh : s.held = some held)
    (hc : held.compared = false) (hcu : config.transportBinding s.keys = .ok held.request.transport)
    (ht : s.now < held.request.expires) : ∃ s', PairingRun P config PairingUndisturbed s' ∧
      .registering (held.registration s.now s.keys) :: s.registry.log <:+ s'.registry.log := by
  have hs := compared_run h hh hc hcu
    (pairingUndisturbed_of_log (fun _ _ heq => List.cons_ne_self _ _ heq.symm) rfl
      fun other ho => Option.some.inj (hh.symm.trans ho) ▸ ht)
  have hr := hs.step (.register [] (.ok ()) rfl rfl)
    (pairingUndisturbed_register P [] (.ok ()) rfl ht)
  exact ⟨_, hr, log_register ..⟩

theorem enrolment_needs_approval_phone : ∃ s, PairingRun .standard phoneConfig PairingUndisturbed s ∧
    (∃ registration before, .registering registration :: before <:+ s.registry.log) ∧
    Enrolments .standard phoneConfig s.registry.log := by
  obtain ⟨hu, hat, hsome⟩ := phoneRevealed_clean
  obtain ⟨hnow, -, hkeys, -⟩ := phonePolled_clean phonePoll phoneApproved
  have hp := phoneApproved_run.step (.poll phonePoll hu hat)
    (pairingUndisturbed_of_pending hu phoneRevealed_pending)
  obtain ⟨held, hheld, hc, ht, he⟩ : ∃ held,
      (phonePolled phonePoll phoneApproved).held = some held ∧ held.compared = false ∧
        held.request.transport = ⟨.none, [], rfl⟩ ∧ 0 < held.request.expires :=
    exists_of_any (by decide +kernel)
  obtain ⟨s, hrun, hs⟩ := registered_run hp hheld hc
    (by rw [ht]; exact congrArg phoneConfig.transportBinding (hkeys.trans hsome))
    (lt_of_eq_of_lt (hnow.trans hat.1.symm) he)
  exact ⟨s, hrun, ⟨_, _, hs⟩, enrolment_needs_approval hrun⟩

/-! ### A rejection that comes too late -/

lemma phoneRejected_run : PairingRun .standard phoneConfig (fun _ _ => True) phoneRejected := by
  obtain ⟨hh, hat, -⟩ := phoneRevealed_clean
  have ha : PairingRun .standard phoneConfig (fun _ _ => True) phoneApproved :=
    phoneApproved_run.mono fun _ _ _ => trivial
  have ht := ha.step (.poll otherPoll hh hat) trivial
  have hr : (phonePolled otherPoll phoneApproved).deciding 1 = some (phoneId, false) := by
    rw [(phonePolled_clean ..).2.2.2]
    simp [phoneApproved, phoneDecided, phoneRead]
  have hu : (phonePolled otherPoll phoneApproved).registry.directory.decisions phoneId = none :=
    Option.isNone_iff_eq_none.mp phoneRevealed_evaluated.2.2.2.1
  exact ht.step (.recordDecision hr hu) trivial

/-- After the poll has compared the transport keys, they are replaced and the time runs out. -/
lemma late_run (h : PairingRun P config (fun _ _ => True) s) (hh : s.held = some held) (hc : held.compared = false)
    (hcu : config.transportBinding s.keys = .ok held.request.transport) (hl : s.now ≤ later) :
    ∃ s', PairingRun P config (fun _ _ => True) s' ∧
      .registering (held.registration later none) :: s.registry.log <:+ s'.registry.log := by
  have hs := compared_run h hh hc hcu trivial
  have hr := hs.step (.replaceKeys none) trivial
  have ht := hr.step (.tick hl) trivial
  exact ⟨_, ht.step (.register [] (.ok ()) rfl rfl) trivial, log_register
    { s with now := later, keys := none, held := some { held with compared := true } } P
    { held with compared := true } [] (.ok ())⟩

/-- A device is registered though a local process rejected its request, its transport key has been
replaced and its time has run out. -/
theorem enrolment_after_rejection : ∃ s registration before,
    PairingRun .standard phoneConfig (fun _ _ => True) s ∧
    .registering registration :: before <:+ s.registry.log ∧
    decisionsOf before registration.requestId = [false, true] ∧
    registration.keys = none ∧
    (∀ request, .created registration.requestId request ∈ before →
      request.expires ≤ registration.now) ∧
    ¬ Enrolments .standard phoneConfig s.registry.log := by
  obtain ⟨-, hat, hsome⟩ := phoneRevealed_clean
  obtain ⟨hnow, hunix, hkeys, -⟩ := phonePolled_clean otherPoll phoneApproved
  obtain ⟨hnow', -, hkeys', -⟩ := phonePolled_clean phonePoll phoneRejected
  have hu : phoneRejected.held = none := Option.isNone_iff_eq_none.mp phoneRevealed_evaluated.2.2.2.2.1
  have hp : PairingRun .standard phoneConfig (fun _ _ => True) (phonePolled phonePoll phoneRejected) :=
    phoneRejected_run.step (.poll phonePoll hu ⟨hat.1.trans hnow.symm, hat.2.trans hunix.symm⟩) trivial
  obtain ⟨held, hheld, hid, hc, ht, hd, hex⟩ : ∃ held,
      (phonePolled phonePoll phoneRejected).held = some held ∧ held.requestId = phoneId ∧
        held.compared = false ∧ held.request.transport = ⟨.none, [], rfl⟩ ∧
        decisionsOf (phonePolled phonePoll phoneRejected).registry.log phoneId = [false, true] ∧
        (phonePolled phonePoll phoneRejected).registry.log.all (fun
          | .created _ request => request.expires ≤ pairingTtl
          | _ => true) = true :=
    exists_of_any (by decide +kernel)
  obtain ⟨s, hrun, hs⟩ := late_run hp hheld hc
    (by rw [ht]; exact congrArg phoneConfig.transportBinding (hkeys'.trans (hkeys.trans hsome)))
    (le_of_eq_of_le (hnow'.trans (hnow.trans hat.1.symm)) (Nat.zero_le pairingTtl))
  rw [← hid] at hd
  refine ⟨s, _, _, hrun, hs, hd, rfl, ?_, ?_⟩
  · intro request hmem
    exact of_decide_eq_true (List.all_eq_true.mp hex _ hmem)
  · intro he
    obtain ⟨request, clientPublic, clientNonce, material, hea⟩ := he.earned _ _ hs
    have ha : decisionsOf _ held.requestId = [true] := hea.approved
    rw [hd] at ha
    cases ha

end Phone

end Todex

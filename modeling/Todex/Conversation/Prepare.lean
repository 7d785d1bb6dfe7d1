import Todex.Conversation.Envelope
import Todex.Lib.Json.Pointer
import Todex.Lib.Json.Size

/-!
# What an append makes of a payload

Before a payload is journalled, secrets are redacted, the reserved key is renamed, the output of a tool is
capped and a payload that is too large is cut. A payload that is none of these things keeps its texts.
-/

namespace Todex

open Json (Members)

/-! ### Secrets -/

/-- A key in lower case, without `-` and `_`. -/
def normalizedKey (key : String) : String :=
  String.ofList ((key.toList.map Char.toLower).filter fun c => c ≠ '-' ∧ c ≠ '_')

/-- Numbers under these keys count tokens. -/
def usageCounts : List String :=
  ["inputtokens", "outputtokens", "totaltokens", "cachedinputtokens", "cachewritetokens", "cachecreationinputtokens",
    "cachereadinputtokens", "reasoningoutputtokens", "reasoningtokens", "cachedtokens", "tokencount",
    "contextwindowtokens", "contexttokens", "prompttokens", "completiontokens", "tokensused", "tokenbudget"]

/-- Objects and arrays under these keys hold counts. -/
def usageContainers : List String := ["tokenusage", "tokenusages", "inputtokensdetails", "outputtokensdetails"]

def secretWords : List String := ["token", "secret", "password", "authorization", "cookie", "apikey"]

/-- The key has a word for a secret in it. -/
def namesSecret (key : String) : Bool :=
  secretWords.any fun word => (normalizedKey key).toList.tails.any (word.toList.isPrefixOf ·)

/-- The value is redacted under this key. -/
def isSecret (key : String) : Json → Bool
  | .number _ => normalizedKey key ∉ usageCounts ∧ namesSecret key
  | .object _ | .array _ => normalizedKey key ∉ usageContainers ∧ namesSecret key
  | _ => namesSecret key

def redacted : Json := .string "[REDACTED]"

mutual

def redactSecrets : Json → Json
  | .object m => .object (redactMembers m)
  | .array xs => .array (redactElems xs)
  | v => v

def redactMembers : List (String × Json) → List (String × Json)
  | [] => []
  | (key, value) :: m => (key, if isSecret key value then redacted else redactSecrets value) :: redactMembers m

def redactElems : List Json → List Json
  | [] => []
  | x :: xs => redactSecrets x :: redactElems xs

end

/-! ### The reserved key -/

/-- The key that a reserved one is renamed to. -/
def renamedField : String := "_" ++ encryptedField

/-- A payload that uses the reserved key keeps its value under another name. -/
def renameReservedEncryptedField : Json → Json
  | .object m =>
    match Members.get m encryptedField with
    | some value => .object (Members.insert renamedField value (Members.remove m encryptedField))
    | none => .object m
  | v => v

/-! ### Tool output -/

def toolOutputCapBytes : Nat := 256 * 1024

def toolOutputHeadBytes : Nat := 192 * 1024

def toolOutputTailBytes : Nat := 32 * 1024

def toolOutputMinLeafBytes : Nat := 256

def toolOutputKeys : List String :=
  ["aggregatedOutput", "output", "formattedOutput", "stdout", "stderr", "result", "partialResult", "content",
    "contentItems", "structuredContent", "rawOutput"]

def toolInputKeys : List String := ["arguments", "input", "rawInput", "block"]

def toolBinaryKeys : List String := ["data", "imageUrl", "image_url", "blob"]

def toolBinaryTypes : List String := ["image", "inputImage", "input_image", "audio", "resource", "blob"]

/-- A key as a token of a pointer. -/
def escapeToken (key : String) : String :=
  String.ofList (key.toList.flatMap fun c => if c = '~' then ['~', '0'] else if c = '/' then ['~', '1'] else [c])

mutual

/-- The pointers to the output strings, with their sizes, in document order. -/
def collectOutputLeaves (pointer : String) (inOutput : Bool) : Json → List (String × Nat)
  | .string text =>
    if inOutput ∧ toolOutputMinLeafBytes ≤ text.utf8ByteSize ∧ ¬ keyed text "data:" then
      [(pointer, text.utf8ByteSize)]
    else []
  | .array xs => collectOutputElems pointer inOutput 0 xs
  | .object m =>
    if inOutput ∧ ((Members.get m "type").bind Json.asStr).any (· ∈ toolBinaryTypes) then []
    else collectOutputMembers pointer inOutput m
  | _ => []

def collectOutputElems (pointer : String) (inOutput : Bool) (index : Nat) : List Json → List (String × Nat)
  | [] => []
  | x :: xs => collectOutputLeaves (pointer ++ "/" ++ toString index) inOutput x ++
    collectOutputElems pointer inOutput (index + 1) xs

def collectOutputMembers (pointer : String) (inOutput : Bool) : List (String × Json) → List (String × Nat)
  | [] => []
  | (key, value) :: m =>
    (if (¬ inOutput ∧ key ∈ toolInputKeys) ∨ (inOutput ∧ key ∈ toolBinaryKeys) then []
      else collectOutputLeaves (pointer ++ "/" ++ escapeToken key) (inOutput || key ∈ toolOutputKeys) value) ++
    collectOutputMembers pointer inOutput m

end

/-- The longest start of a text with at most this many bytes. -/
def headBytes (limit : Nat) : List Char → List Char
  | [] => []
  | c :: cs => if c.utf8Size ≤ limit then c :: headBytes (limit - c.utf8Size) cs else []

/-- What is left of a text after this many bytes, from the next character on. -/
def dropBytes (start : Nat) : List Char → List Char
  | [] => []
  | c :: cs => if start = 0 then c :: cs else dropBytes (start - c.utf8Size) cs

/-- The payload, where the next output string starts, and whether the elision was marked. -/
structure ToolCap where
  payload : Json
  offset : Nat
  marked : Bool

/-- The body of the loop of `cap_tool_output`. -/
def capLeaf (tailStart : Nat) (s : ToolCap) (leaf : String × Nat) : ToolCap :=
  match s.payload.pointerStr leaf.1 with
  | none => { s with offset := s.offset + leaf.2 }
  | some text =>
    let head := min (toolOutputHeadBytes - s.offset) text.utf8ByteSize
    let tail := min (tailStart - s.offset) text.utf8ByteSize
    if tail ≤ head then { s with offset := s.offset + leaf.2 }
    else
      let elided := tailStart - toolOutputHeadBytes
      let mark := if s.marked then "" else s!"\n…[{elided} bytes of tool output truncated]…\n"
      let kept := headBytes head text.toList ++ mark.toList ++ dropBytes tail text.toList
      { payload := s.payload.setPointer leaf.1 (.string (String.ofList kept))
        offset := s.offset + leaf.2
        marked := true }

/-- The key that tells of a truncation. -/
def truncationKey (payload : Json) : Option String :=
  payload.asObject.bind fun m => ["truncated", "_truncated"].find? fun key => (m.get key).isNone

/-- Insert a member into an object, if there is a key for it. -/
def insertUnder (key : Option String) (value : Json) : Json → Json
  | .object m => .object (key.elim m fun key => Members.insert key value m)
  | v => v

def capToolOutput (eventType : String) (payload : Json) : Json :=
  if eventType ≠ "tool.completed" then payload
  else
    let leaves := collectOutputLeaves "" false payload
    let total := (leaves.map (·.2)).sum
    if total ≤ toolOutputCapBytes then payload
    else
      let capped := (leaves.foldl (capLeaf (total - toolOutputTailBytes))
        { payload, offset := 0, marked := false }).payload
      insertUnder (truncationKey capped) (.object [("originalBytes", .nat total)]) capped

/-! ### Large payloads -/

/-- `MAX_EVENT_PAYLOAD_BYTES`. -/
def maxEventPayloadBytes : Nat := 1024 * 1024

def eventPayloadBudgetBytes : Nat := maxEventPayloadBytes - 16 * 1024

def boundStringMinBytes : Nat := 512

def boundStringKeepBytes : Nat := 256

def boundPreservedScalarBytes : Nat := 4 * 1024

/-- The bytes of a character inside a string literal. -/
def escapedCharBytes (c : Char) : Nat :=
  if c ∈ ['"', '\\', '\n', '\r', '\t', '\x08', '\x0c'] then 2 else if c.toNat < 32 then 6 else c.utf8Size

/-- The size of a text as a string literal. -/
def serializedStringBytes (text : String) : Nat := 2 + (text.toList.map escapedCharBytes).sum

/-- The longest start of a text whose escaped form has at most this many bytes. -/
def serializedPrefix (limit : Nat) : List Char → List Char
  | [] => []
  | c :: cs => if escapedCharBytes c ≤ limit then c :: serializedPrefix (limit - escapedCharBytes c) cs else []

mutual

/-- The pointers to all strings, with their serialized sizes. -/
def collectStringLeaves (pointer : String) : Json → List (String × Nat)
  | .string text => [(pointer, serializedStringBytes text)]
  | .array xs => collectStringElems pointer 0 xs
  | .object m => collectStringMembers pointer m
  | _ => []

def collectStringElems (pointer : String) (index : Nat) : List Json → List (String × Nat)
  | [] => []
  | x :: xs => collectStringLeaves (pointer ++ "/" ++ toString index) x ++ collectStringElems pointer (index + 1) xs

def collectStringMembers (pointer : String) : List (String × Json) → List (String × Nat)
  | [] => []
  | (key, value) :: m =>
    collectStringLeaves (pointer ++ "/" ++ escapeToken key) value ++ collectStringMembers pointer m

end

/-- A payload that is being cut: the strings that were not looked at yet, largest first, and the sizes of those that
were cut. -/
structure Bounding where
  payload : Json
  leaves : List (String × Nat)
  records : Members

/-- The text of a string that is cut. -/
def cutText (text : String) (keep : Nat) : String :=
  let kept := String.ofList (serializedPrefix (keep - 2) text.toList)
  let truncated := text.utf8ByteSize - kept.utf8ByteSize
  kept ++ s!"…[truncated {truncated} bytes]"

/-- The inner loop of `bound_event_payload`: strings are cut until the excess is gone. Tells whether one was. -/
def cutLeaves (recordKey : Option String) (payload : Json) (records : Members) (progressed : Bool) (excess : Nat) :
    List (String × Nat) → Bounding × Bool
  | [] => ({ payload, leaves := [], records }, progressed)
  | (pointer, serialized) :: leaves =>
    if excess = 0 ∨ serialized ≤ boundStringMinBytes then
      ({ payload, leaves := (pointer, serialized) :: leaves, records }, progressed)
    else
      match payload.pointerStr pointer with
      | none => cutLeaves recordKey payload records progressed excess leaves
      | some text =>
        let overhead := (if recordKey.isSome then serializedStringBytes pointer + 24 else 0) + 48
        let cut := cutText text (max (serialized - (excess + overhead)) boundStringKeepBytes)
        let freed := serialized - (serializedStringBytes cut + overhead)
        cutLeaves recordKey (payload.setPointer pointer (.string cut))
          (Members.insert pointer (.nat text.utf8ByteSize) records) true (excess - freed) leaves

/-- The size of a scalar that a replacement may keep. -/
def scalarBytes : Json → Option Nat
  | .string text => some (serializedStringBytes text)
  | .number _ | .bool _ | .null => some 24
  | .array _ | .object _ => none

/-- The short scalars of an object; `preserved` is the size of those before. -/
def preservedScalars (preserved : Nat) : List (String × Json) → List (String × Json)
  | [] => []
  | (key, value) :: m =>
    match scalarBytes value with
    | none => preservedScalars preserved m
    | some bytes =>
      let preserved := preserved + (bytes + serializedStringBytes key + 2)
      if bytes > boundStringKeepBytes ∨ preserved > boundPreservedScalarBytes then preservedScalars preserved m
      else (key, value) :: preservedScalars preserved m

/-- What stands for a payload that cannot be cut down. -/
def replacementPayload (payload : Json) (original : Nat) : Json :=
  let kept := Members.ofList (preservedScalars 0 (payload.asObject.getD []))
  .object (Members.insert "originalBytes" (.nat original) (Members.insert "truncated" (.bool true) kept))

/-- The outer loop of `bound_event_payload`. A round that makes progress has cut a string, so that there are at most as
many rounds as strings, and one more. -/
def boundRounds (recordKey : Option String) (original : Nat) : Nat → Bounding → Json
  | 0, s => s.payload
  | rounds + 1, s =>
    if s.payload.bytes ≤ eventPayloadBudgetBytes then s.payload
    else
      match cutLeaves recordKey s.payload s.records false (s.payload.bytes - eventPayloadBudgetBytes) s.leaves with
      | (s, false) => replacementPayload s.payload original
      | (s, true) =>
        boundRounds recordKey original rounds
          { s with payload := insertUnder recordKey (.object s.records) s.payload }

def boundEventPayload (payload : Json) : Json :=
  let leaves := (collectStringLeaves "" payload).mergeSort fun a b => b.2 ≤ a.2
  boundRounds (truncationKey payload) payload.bytes (leaves.length + 2) { payload, leaves, records := [] }

/-- The payload that `append_batch_locked` journals. -/
def preparePayload (eventType : String) (payload : Json) : Json :=
  boundEventPayload (capToolOutput eventType (renameReservedEncryptedField (redactSecrets payload)))

/-! ### Texts that are kept -/

/-- No key on the way to the text names a secret or is reserved. -/
def keptPath (path : List String) : Bool :=
  path.all fun token => !namesSecret token && token ≠ encryptedField && token ≠ renamedField

/-- The payload is not cut. -/
def FitsEvent (eventType : String) (payload : Json) : Prop :=
  eventType ≠ "tool.completed" ∧ (renameReservedEncryptedField (redactSecrets payload)).bytes ≤ eventPayloadBudgetBytes

lemma preparePayload_of_fits (h : FitsEvent eventType payload) :
    preparePayload eventType payload = renameReservedEncryptedField (redactSecrets payload) := by
  rw [preparePayload, capToolOutput, if_pos h.1, boundEventPayload, boundRounds, if_pos h.2]

lemma isSecret_eq_false (h : namesSecret key = false) (value : Json) : isSecret key value = false := by
  cases value <;> simp [isSecret, h]

lemma get_redactMembers (m : Members) (h : namesSecret key = false) :
    Members.get (redactMembers m) key = (m.get key).map redactSecrets := by
  induction m with
  | nil => simp [redactMembers]
  | cons e m ih =>
    obtain ⟨key', value⟩ := e
    rw [redactMembers, Members.get_cons, Members.get_cons, ih]
    by_cases hk : key = key'
    · rw [if_pos hk, if_pos hk, ← hk, isSecret_eq_false h value]
      rfl
    · rw [if_neg hk, if_neg hk]

lemma redactElems_eq_map (xs : List Json) : redactElems xs = xs.map redactSecrets := by
  induction xs with
  | nil => simp [redactElems]
  | cons x xs ih => rw [redactElems, ih, List.map_cons]

lemma child_redactSecrets (v : Json) (h : namesSecret token = false) :
    (redactSecrets v).child token = (v.child token).map redactSecrets := by
  cases v with
  | object m =>
    rw [redactSecrets]
    exact get_redactMembers m h
  | array xs =>
    rw [redactSecrets, Json.child, Json.child, redactElems_eq_map]
    cases Json.parseIndex token with
    | none => rfl
    | some i => simp
  | null | bool | number | string => simp [redactSecrets, Json.child]

lemma atPath_redactSecrets (v : Json) (h : keptPath path) :
    (redactSecrets v).atPath path = (v.atPath path).map redactSecrets := by
  induction path generalizing v with
  | nil => rfl
  | cons token path ih =>
    simp only [keptPath, List.all_cons, Bool.and_eq_true, Bool.not_eq_true'] at h
    rw [Json.atPath, Json.atPath, child_redactSecrets v h.1.1.1]
    cases v.child token with
    | none => rfl
    | some c => exact ih c h.2

lemma child_renameReservedEncryptedField (v : Json) (h : token ≠ encryptedField) (hr : token ≠ renamedField) :
    (renameReservedEncryptedField v).child token = v.child token := by
  unfold renameReservedEncryptedField
  split
  case h_1 m =>
    split
    case h_1 value hv =>
      change Members.get (Members.insert renamedField value (Members.remove m encryptedField)) token =
        Members.get m token
      rw [Members.get_insert, if_neg hr]
      exact Members.get_remove_of_ne h m
    case h_2 => rfl
  case h_2 => rfl

lemma atPath_renameReservedEncryptedField (v : Json) (h : keptPath (token :: path)) :
    (renameReservedEncryptedField v).atPath (token :: path) = v.atPath (token :: path) := by
  simp only [keptPath, List.all_cons, Bool.and_eq_true, decide_eq_true_eq] at h
  rw [Json.atPath, Json.atPath, child_renameReservedEncryptedField v h.1.1.2 h.1.2]

lemma asStr_renameReservedEncryptedField (v : Json) : (renameReservedEncryptedField v).asStr = v.asStr := by
  unfold renameReservedEncryptedField
  split
  · split <;> rfl
  · rfl

lemma asStr_redactSecrets (v : Json) : (redactSecrets v).asStr = v.asStr := by
  cases v <;> simp [redactSecrets, Json.asStr]

/-- A payload that fits keeps the texts that no secret or reserved key leads to. -/
lemma pointerStr_preparePayload (h : FitsEvent eventType payload)
    (hp : (Json.pointerPath pointer).any keptPath = true) :
    (preparePayload eventType payload).pointerStr pointer = payload.pointerStr pointer := by
  obtain ⟨path, hpath, hkept⟩ := Option.any_eq_true _ _ |>.mp hp
  have hat : ((renameReservedEncryptedField (redactSecrets payload)).atPath path).bind Json.asStr =
      (payload.atPath path).bind Json.asStr := by
    cases path with
    | nil => exact (asStr_renameReservedEncryptedField _).trans (asStr_redactSecrets payload)
    | cons token path =>
      rw [atPath_renameReservedEncryptedField _ hkept, atPath_redactSecrets payload hkept]
      cases payload.atPath (token :: path) with
      | none => rfl
      | some c => exact asStr_redactSecrets c
  rw [preparePayload_of_fits h, Json.pointerStr, Json.pointerStr, Json.pointer, Json.pointer, hpath]
  exact hat

/-! ### Texts that are cut -/

/-- A text that is cut says so. -/
lemma mem_cutText (text : String) (keep : Nat) : '…' ∈ (cutText text keep).toList := by
  simp only [cutText, String.toList_append]
  exact List.mem_append_right _ (List.mem_append_left _ (List.mem_append_left _ (by decide)))

lemma pointerStr_delta (m : List (String × Json)) :
    (Json.object m).pointerStr "/delta" = (Members.get m "delta").bind Json.asStr := by
  have hpath : Json.pointerPath "/delta" = some ["delta"] := by decide
  rw [Json.pointerStr, Json.pointer, hpath]
  change ((Json.object m).atPath ["delta"]).bind Json.asStr = _
  rw [Json.atPath]
  change (((Members.get m "delta").bind fun c => c.atPath []).bind Json.asStr) = _
  cases Members.get m "delta" <;> rfl

lemma collectStringLeaves_delta (text : String) : collectStringLeaves "" (.object [("delta", .string text)]) =
    [("/delta", serializedStringBytes text)] := by
  have hpointer : "" ++ "/" ++ escapeToken "delta" = "/delta" := by decide
  rw [collectStringLeaves, collectStringMembers, collectStringMembers, collectStringLeaves, hpointer]
  rfl

lemma setPointer_delta (text cut : String) :
    (Json.object [("delta", .string text)]).setPointer "/delta" (.string cut) = .object [("delta", .string cut)] := by
  have hpath : Json.pointerPath "/delta" = some ["delta"] := by decide
  rw [Json.setPointer, hpath]
  rfl

/-- The first round cuts the text, and there is nothing left to cut in the second. -/
lemma boundRounds_delta (hlarge : eventPayloadBudgetBytes < (Json.object [("delta", .string text)]).bytes)
    (hmin : boundStringMinBytes < size) (original rounds : Nat) :
    ∃ keep, boundRounds (some "truncated") original (rounds + 1)
      { payload := .object [("delta", .string text)], leaves := [("/delta", size)], records := [] } =
        boundRounds (some "truncated") original rounds
          { payload := .object [("delta", .string (cutText text keep)),
              ("truncated", .object [("/delta", .nat text.utf8ByteSize)])]
            leaves := [], records := [("/delta", .nat text.utf8ByteSize)] } := by
  -- The excess gets a name, for the kernel would count down from the budget.
  obtain ⟨excess, hexcess⟩ :
      ∃ excess, (Json.object [("delta", .string text)]).bytes - eventPayloadBudgetBytes = excess :=
    ⟨_, rfl⟩
  have hne : ¬ (excess = 0 ∨ size ≤ boundStringMinBytes) := by omega
  have hptr : (Json.object [("delta", .string text)]).pointerStr "/delta" = some text := by
    rw [pointerStr_delta]
    rfl
  rw [boundRounds, if_neg hlarge.not_ge, hexcess, cutLeaves, if_neg hne, hptr]
  dsimp only
  rw [cutLeaves, setPointer_delta]
  exact ⟨_, rfl⟩

/-- A payload with one text that is too large is cut, or its text is dropped. -/
lemma pointerStr_preparePayload_of_large
    (hlarge : eventPayloadBudgetBytes < (Json.object [("delta", .string text)]).bytes)
    (hmin : boundStringMinBytes < serializedStringBytes text) :
    let cut := (preparePayload "message.delta" (.object [("delta", .string text)])).pointerStr "/delta"
    cut = none ∨ ∃ keep, cut = some (cutText text keep) := by
  have hprepared : renameReservedEncryptedField (redactSecrets (.object [("delta", .string text)])) =
      .object [("delta", .string text)] := by
    have hsecret : namesSecret "delta" = false := by decide
    simp [redactSecrets, redactMembers, isSecret, hsecret, renameReservedEncryptedField, encryptedField]
  have hkey : truncationKey (.object [("delta", .string text)]) = some "truncated" := rfl
  obtain ⟨keep, hround⟩ := boundRounds_delta hlarge hmin (Json.object [("delta", .string text)]).bytes 2
  rw [preparePayload, hprepared, capToolOutput, if_pos (by decide), boundEventPayload, collectStringLeaves_delta,
    List.mergeSort_singleton, hkey]
  dsimp only [List.length_cons, List.length_nil]
  rw [hround, boundRounds]
  split_ifs
  · rw [pointerStr_delta]
    exact .inr ⟨keep, rfl⟩
  · rw [cutLeaves]
    dsimp only
    rw [replacementPayload, pointerStr_delta, Members.get_insert, if_neg (by decide), Members.get_insert,
      if_neg (by decide), Json.asObject, Option.getD_some, preservedScalars]
    dsimp only [scalarBytes]
    rw [preservedScalars, preservedScalars]
    dsimp only [scalarBytes]
    split_ifs
    · exact .inl rfl
    · exact .inr ⟨keep, rfl⟩

end Todex

import Todex.Conversation.Model

/-!
# Summaries of process events

The `detail=summary` form of an event: the payload of a process-only event is replaced by a marker
object that keeps what clients classify the event by.
-/

namespace Todex

open Json (Members)

namespace Summary

def detailBlockCategories : List String := ["tool", "reasoning", "status", "assistant_progress"]

def blockCategories : List String :=
  ["assistant_final", "assistant_progress", "reasoning", "tool", "approval", "status", "error",
    "usage"]

def blockPhases : List String := ["started", "delta", "completed", "failed"]

/-- Type prefixes that drive control state, permissions, panels or visible output. -/
def protectedTypePrefixes : List String :=
  ["turn.", "permission.", "queue.", "control.", "compaction.", "subagent.", "memory.", "usage.",
    "extension.", "workflow.", "conversation.", "provider.", "mcp.", "skill.", "kanban.",
    "desktop."]

def protectedTypes : List String := ["tool.awaitingApproval"]

/-- Payload keys that feed projections other than the timeline. -/
def controlPayloadKeys : List String :=
  ["effectiveConfig", "effective", "requested", "control", "items", "paused", "subagentId",
    "agentId", "memoryId", "permissionId", "operationId", "usage", "tokenUsage"]

/-- Fields clients read for category, phase, turn and stream identity. -/
def stubScalarKeys : List String :=
  ["turnId", "turn_id", "role", "scope", "status", "messageId", "clientRequestId", "requestId",
    "providerMethod", "provider_method", "method", "toolCallId", "tool_call_id", "callId",
    "call_id", "isError", "is_error", "stopReason", "stop_reason", "toolName", "tool_name", "name"]

/-- Keys whose presence makes an event a tool call. -/
def stubToolKeys : List String :=
  ["tool", "toolCall", "tool_call", "item", "command", "function", "functionCall",
    "function_call"]

def markerFieldKeys : List String := ["id", "name", "toolName", "tool_name", "title", "command"]

def stubDeltaKeys : List String :=
  ["type", "deltaType", "delta_type", "contentIndex", "content_index"]

def stubMessageKeys : List String := ["id", "role", "stopReason", "stop_reason", "model", "modelId"]

def markerStringLimit : Nat := 512

/-- A string that is not empty. -/
def nonEmptyStr (value : Option Json) : Option String :=
  (value.bind Json.asStr).filter (· ≠ "")

def validBlockCategory (payload : Members) : Option String := do
  let block ← (← payload.get "block").asObject
  let _ ← nonEmptyStr (block.get "id")
  let category ← nonEmptyStr (block.get "category")
  let phase ← nonEmptyStr (block.get "phase")
  if category ∉ blockCategories ∨ phase ∉ blockPhases then none else some category

def carriesUsage (payload : Members) : Bool :=
  ["usage", "tokenUsage", "token_usage"].any payload.present ||
    ((payload.get "message").bind Json.asObject).any (·.present "usage") ||
    ((payload.get "metadata").bind Json.asObject).any fun metadata =>
      ["tokenUsage", "token_usage"].any metadata.present

/-- The names an event goes by: its type, the canonical one and the recorded one. -/
def typeNames (event : ConversationEvent) : List String :=
  [event.eventType, normalizedEventType event.eventType, event.normalizedType.getD ""]

def isProtectedType (event : ConversationEvent) : Bool :=
  (typeNames event).any fun candidate =>
    candidate ∈ protectedTypes ||
      (candidate ≠ "provider.event" && protectedTypePrefixes.any (keyed candidate))

def firstString (payload : Members) (keys : List String) : Option String :=
  keys.findSome? fun key => nonEmptyStr (payload.get key)

/-- `text`, in lower case, contains one of the needles. -/
def containsAny (text : String) (needles : List String) : Bool :=
  let lowered := text.toList.map Char.toLower
  needles.any fun needle => lowered.tails.any needle.toList.isPrefixOf

/-- Events without a valid block that a client renders as a tool call or a reasoning row. -/
def isDetailHeuristic (event : ConversationEvent) (payload : Members) : Bool :=
  let deltaType := ((payload.get "delta").bind Json.asObject).bind fun delta =>
    firstString delta ["type", "deltaType", "delta_type"]
  let method := (firstString payload ["providerMethod", "provider_method", "method"]).getD ""
  let messageRole := (((payload.get "message").bind Json.asObject).bind fun message =>
    nonEmptyStr (message.get "role")).getD ""
  (typeNames event).any (containsAny · ["thought", "reasoning", "thinking", "analysis"]) ||
    deltaType.any (containsAny · ["reasoning", "thinking", "analysis"]) ||
    containsAny method ["reasoning", "thinking", "analysis"] ||
    ["thought", "thoughtText", "thought_text", "reasoning", "thinking", "analysis"].any
      payload.present ||
    (typeNames event).any (containsAny · ["tool", "command", "function", "mcp"]) ||
    deltaType.any (containsAny · ["tool", "command", "function", "mcp"]) ||
    containsAny method ["tool", "command", "function", "mcp"] ||
    messageRole = "tool" ||
    ["tool", "toolCall", "tool_call", "command", "function", "functionCall", "function_call"].any
      payload.present

def boundedString (text : String) : Json :=
  if text.toList.length ≤ markerStringLimit then .string text
  else .string (String.ofList (text.toList.take markerStringLimit))

/-- Copy the members of `keys` that are not null, changed by `f`. -/
def copyPresent (source : Members) (f : Json → Json) (keys : List String) (target : Members) :
    Members :=
  keys.foldl (fun target key =>
    match source.get key with
    | some value => if value.isNull then target else target.insert key (f value)
    | none => target) target

/-- The identity and label fields of a tool marker. -/
def summarizeMarker : Json → Json
  | .string text => boundedString text
  | .object map => .object (copyPresent map id markerFieldKeys [])
  | .null => .null
  | _ => .bool true

def stubPayload (payload : Members) : Json :=
  let stub := Members.insert "detailStub" (.bool true) []
  let stub := copyPresent payload id stubScalarKeys stub
  let stub := copyPresent payload id ["block"] stub
  let stub := match (payload.get "delta").bind Json.asObject with
    | some delta =>
      let slim := copyPresent delta id stubDeltaKeys []
      let slim := copyPresent delta summarizeMarker ["toolCall", "tool_call"] slim
      stub.insert "delta" (.object slim)
    | none => stub
  let stub := copyPresent payload summarizeMarker stubToolKeys stub
  let stub := match (payload.get "message").bind Json.asObject with
    | some message => stub.insert "message" (.object (copyPresent message id stubMessageKeys []))
    | none => stub
  .object stub

/-- Key of the original request that an encrypted user message keeps for retries. -/
def retryRequestKey : String := "retryRequest"

end Summary

open Summary in
/-- The payload `summarize_event` leaves if it reduces the event. -/
def summarizeEvent (event : ConversationEvent) : Option Json :=
  match event.payload.asObject with
  | none => none
  | some payload =>
    if (payload.get retryRequestKey).isSome then some (.object (payload.remove retryRequestKey))
    else if carriesUsage payload || isProtectedType event then none
    else if controlPayloadKeys.any payload.present then none
    else
      let detail : Bool := match validBlockCategory payload with
        | some category => category ∈ detailBlockCategories
        | none => isDetailHeuristic event payload
      if detail then some (stubPayload payload) else none

end Todex

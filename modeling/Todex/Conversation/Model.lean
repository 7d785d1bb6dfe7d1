import Todex.Lib.Json.Value

/-!
# Conversation events and status

The data of a conversation's journal: events with their JSON payload, and the status an event
moves its conversation to.
-/

namespace Todex

/-- The text is of this kind: `str::starts_with`. -/
def keyed (text kind : String) : Bool := kind.toList.isPrefixOf text.toList

/-- `CONVERSATION_SCHEMA_VERSION`. -/
def conversationSchemaVersion : Nat := 2

/-- The agents a conversation can run on. -/
inductive ProviderKind
  | acp | codex | pi | claudeCode | grokBuild | devin | opencode | antigravity
  | deepseekHarness | omp
deriving DecidableEq

namespace ProviderKind

/-- `ProviderKind::as_str`; also the serialized (kebab-case) name. -/
def asStr : ProviderKind → String
  | acp => "acp"
  | codex => "codex"
  | pi => "pi"
  | claudeCode => "claude-code"
  | grokBuild => "grok-build"
  | devin => "devin"
  | opencode => "opencode"
  | antigravity => "antigravity"
  | deepseekHarness => "deepseek-harness"
  | omp => "omp"

/-- `ProviderKind::ALL`. -/
def all : List ProviderKind :=
  [acp, codex, pi, claudeCode, grokBuild, devin, opencode, antigravity, deepseekHarness, omp]

/-- The provider of a serialized name. -/
def ofName? (s : String) : Option ProviderKind := all.find? fun p => p.asStr = s

@[simp] lemma ofName?_asStr (p : ProviderKind) : ofName? p.asStr = some p := by
  cases p <;> decide

end ProviderKind

/-- The first and the last instant chrono's `DateTime<Utc>` can hold, in nanoseconds. -/
def minNanos : Int := -8334601228800 * 1000000000
@[inherit_doc minNanos]
def maxNanos : Int := 8210266876799 * 1000000000 + 999999999

/-- A `DateTime<Utc>` outside a leap second, as nanoseconds since the epoch. -/
@[ext] structure DateTime where
  nanos : Int
  inRange : minNanos ≤ nanos ∧ nanos ≤ maxNanos
deriving DecidableEq

lemma DateTime.epoch_inRange : minNanos ≤ 0 ∧ 0 ≤ maxNanos := by decide

/-- `AppError`; the errors of other parts are known by their text. -/
inductive AppError
  | invalidRequest (message : String)
  | notFound (message : String)
  | conflict (message : String)
  | resourceExhausted (message : String)
  | other (text : String)
deriving DecidableEq

/-- The text of an error. -/
def AppError.display : AppError → String
  | invalidRequest message => s!"invalid request: {message}"
  | notFound message => s!"resource not found: {message}"
  | conflict message => s!"resource is busy: {message}"
  | resourceExhausted message => s!"resource capacity exhausted: {message}"
  | other text => text

/-- `ConversationStatus`. -/
inductive ConversationStatus
  | idle | running | waitingPermission | interrupted | failed
deriving DecidableEq

/-- One record of a conversation's journal. -/
structure ConversationEvent where
  schemaVersion : Nat
  sequence : Nat
  eventId : String
  conversationId : String
  time : DateTime
  eventType : String
  normalizedType : Option String
  rawType : Option String
  provider : Option ProviderKind
  payload : Json

/-- The canonical name of an event type; the aliases are those of older journals. -/
def normalizedEventType (eventType : String) : String :=
  match eventType with
  | "turn.started" | "codex.turn.started" => "turn.started"
  | "turn.completed" | "codex.turn.completed" => "turn.completed"
  | "turn.cancelled" => "turn.cancelled"
  | "conversation.interrupted" => "conversation.interrupted"
  | "turn.failed" | "conversation.failed" => "turn.failed"
  | "message.delta" | "assistant.delta" | "text_delta" => "assistant.delta"
  | "thought.delta" | "reasoning.delta" | "thinking_delta" => "reasoning.delta"
  | "tool.started" | "tool.created" | "item.started" => "tool.started"
  | "tool.completed" | "tool.result" | "item.completed" => "tool.completed"
  | "tool.failed" | "tool.error" => "tool.failed"
  | "permission.requested" | "tool.awaitingApproval" => "tool.awaitingApproval"
  | "compaction.started" => "compaction.started"
  | "compaction.completed" => "compaction.completed"
  | "subagent.started" => "subagent.started"
  | "subagent.completed" => "subagent.completed"
  | "workflow.started" | "workflow.resumed" => "workflow.started"
  | "workflow.paused" => "workflow.paused"
  | "workflow.completed" => "workflow.completed"
  | "workflow.failed" => "workflow.failed"
  | "workflow.cancelled" => "workflow.cancelled"
  | "tool.checkpoint.created" => "tool.checkpoint.created"
  | "tool.checkpoint.committed" => "tool.checkpoint.committed"
  | "tool.checkpoint.rolledBack" | "tool.checkpoint.rolled_back" => "tool.checkpoint.rolledBack"
  | _ => eventType

/-- `ConversationEvent::new`, for the event id and the time it draws. -/
def ConversationEvent.new (eventId : String) (time : DateTime) (conversationId : String)
    (sequence : Nat) (eventType : String) (payload : Json) : ConversationEvent where
  schemaVersion := conversationSchemaVersion
  sequence
  eventId
  conversationId
  time
  eventType
  normalizedType := some (normalizedEventType eventType)
  rawType := payload.text "providerMethod"
  provider := none
  payload

/-- The status after an event of this type. -/
def statusAfterEvent (current : ConversationStatus) (eventType : String) : ConversationStatus :=
  match normalizedEventType eventType with
  | "turn.started" => .running
  | "tool.awaitingApproval" => .waitingPermission
  | "permission.resolved" => if current = .waitingPermission then .running else current
  | "turn.completed" | "turn.cancelled" | "conversation.forked" => .idle
  | "conversation.interrupted" => .interrupted
  | "turn.failed" | "conversation.failed" => .failed
  | "workflow.started" | "workflow.resumed" => .running
  | "workflow.paused" => .interrupted
  | "workflow.completed" | "workflow.cancelled" => .idle
  | "workflow.failed" => .failed
  | _ => current

/-- The event types of a permission dialog, which a `session` scope takes out of the lifecycle. -/
def permissionDialogEvents : List String :=
  ["permission.requested", "tool.awaitingApproval", "permission.resolved"]

/-- The status a compaction with an `operationId` of its own moves to. -/
def compactionStatus (eventType : String) : Option ConversationStatus :=
  match eventType with
  | "compaction.started" => some .running
  | "compaction.completed" | "compaction.cancelled" => some .idle
  | "compaction.failed" => some .failed
  | _ => none

/-- The status after an event. -/
def statusAfterConversationEvent (current : ConversationStatus) (event : ConversationEvent) :
    ConversationStatus :=
  if event.payload.text "scope" = some "session" ∧ event.eventType ∈ permissionDialogEvents then
    current
  else if (event.payload.text "operationId").isSome then
    (compactionStatus event.eventType).getD (statusAfterEvent current event.eventType)
  else statusAfterEvent current event.eventType

end Todex

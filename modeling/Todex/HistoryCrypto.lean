import Todex.Primitives

/-!
# Sealing history content

One history record or frame is sealed under a segment key with a nonce made of its stream and its
counter.
-/

namespace Todex

/-- Which record a content ciphertext belongs to. -/
inductive ContentStream
  | eventSummary | eventFull | frameSummary | frameFull
deriving DecidableEq

/-- `ContentStream::as_u32`. -/
def ContentStream.asU32 : ContentStream → Nat
  | eventSummary => 1
  | eventFull => 2
  | frameSummary => 3
  | frameFull => 4

/-- A content key: its id and the data encryption key. -/
structure SegmentKey where
  kid : Bytes
  dek : Bytes
deriving DecidableEq

/-- `LABEL`. -/
def historyLabel : Bytes := Bytes.ofString "todex-history-v1"

/-- The nonce of a record: its stream and its counter. -/
def contentNonce (stream : ContentStream) (counter : Nat) : Bytes :=
  Bytes.be 4 stream.asU32 ++ Bytes.be 8 counter

/-- The associated data of a record. -/
def contentAad (conversationId : String) (kid : Bytes) (stream : ContentStream) (counter : Nat) :
    Bytes :=
  historyLabel ++ Bytes.ofString "/content" ++ [0] ++ Bytes.ofString conversationId ++ [0] ++ kid ++
    Bytes.be 4 stream.asU32 ++ Bytes.be 8 counter

namespace SegmentKey

variable (P : Primitives)

/-- `history_crypto::seal`. -/
def sealContent (key : SegmentKey) (conversationId : String) (stream : ContentStream) (counter : Nat)
    (plaintext : Bytes) : Bytes :=
  P.encrypt key.dek (contentNonce stream counter)
    (contentAad conversationId key.kid stream counter) plaintext

/-- `history_crypto::open`. -/
def openContent (key : SegmentKey) (conversationId : String) (stream : ContentStream) (counter : Nat)
    (ciphertext : Bytes) : Option Bytes :=
  P.decrypt key.dek (contentNonce stream counter)
    (contentAad conversationId key.kid stream counter) ciphertext

variable {P}

end SegmentKey

end Todex

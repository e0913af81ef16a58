import RouterPoll.Poll.Document
import RouterPoll.Store.Record

/-!
# Records as documents

How a history record is read from a document.
-/

namespace RouterPoll

open Decode.Fields (required optional)

def HistoryRecord.read : Decode.Reader HistoryRecord :=
  Decode.Fields.reader "HistoryRecord" <|
    HistoryRecord.mk
      <$> required "tenant_id" Uuid.read
      <*> required "device_id" Uuid.read
      <*> required "poll_started_at" Instant.read
      <*> required "poll_completed_at" Instant.read
      <*> required "adapter_used" Decode.readText
      <*> required "success" Decode.readBool
      <*> optional "error_message" Decode.readText
      <*> required "metrics_collected" Decode.readNat32
      <*> required "response_time_ms" Decode.readNat64

end RouterPoll

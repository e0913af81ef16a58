import RouterPoll.Decode.Tagged
import RouterPoll.Device.Document
import RouterPoll.Json.Parser
import RouterPoll.Settings.Basic
import RouterPoll.Text.Utf8

/-!
# Settings as documents

How settings are read from the bytes of a file. Whatever is left out has its default, and devices without an interval get the one of the environment.
-/

namespace RouterPoll

open Decode (Reader Fields readText readNat32 readNat64 readSize)
open Decode.Fields (defaulted optional nullable)

def PollerSettings.read : Reader PollerSettings :=
  Fields.reader "PollerConfig" <|
    PollerSettings.mk
      <$> defaulted "worker_count" readSize PollerSettings.default.workerCount
      <*> defaulted "concurrent_polls" readSize PollerSettings.default.concurrentPolls
      <*> defaulted "tick_interval_secs" readNat64 PollerSettings.default.tickIntervalSecs
      <*> defaulted "timeout_secs" readNat64 PollerSettings.default.timeoutSecs
      <*> defaulted "retry_attempts" readNat32 PollerSettings.default.retryAttempts
      <*> defaulted "retry_delay_ms" readNat64 PollerSettings.default.retryDelayMs
      <*> defaulted "failure_threshold" readNat32 PollerSettings.default.failureThreshold
      <*> optional "result_queue_capacity" readSize

/-- The settings of a database file. -/
def StorageSettings.readSqlite : Reader StorageSettings :=
  Fields.reader "SqliteStorage" <|
    StorageSettings.sqlite <$> defaulted "path" readText StorageSettings.defaultPath

/-- Where to keep things, as it stands `depth` levels deep in a document. -/
def StorageSettings.read (depth : Nat) : Reader StorageSettings :=
  Decode.tagged "StorageConfig" "backend" (Json.depthLimit - depth)
    [("none", Decode.bareVariant .memory), ("sqlite", StorageSettings.readSqlite)]

def Settings.read (defaultInterval : Nat) : Reader Settings :=
  Fields.reader "Config" <|
    Settings.mk
      <$> defaulted "poller" PollerSettings.read PollerSettings.default
      <*> nullable "storage" (StorageSettings.read 2)
      <*> defaulted "devices" (Decode.listOf (Device.read defaultInterval)) []

/-- Why there are no settings: there is no file, it is no text, or it does not say them. -/
inductive SettingsError where
  | missing
  | notText
  | invalid (error : Decode.Error)
  deriving DecidableEq

namespace SettingsError

/-- The wording in front of what is wrong with a document. -/
def invalidText : String := "Invalid configuration file provided: "

def message : SettingsError → String
  | missing => "No such file or directory (os error 2)"
  | notText => "stream did not contain valid UTF-8"
  | invalid error => invalidText ++ error.message

end SettingsError

/-- The settings in a file with the given bytes, if there is one. -/
def Settings.ofFile (defaultInterval : Nat) : Option (List UInt8) → Except SettingsError Settings
  | none => .error .missing
  | some bytes =>
    match Text.decode? bytes with
    | none => .error .notText
    | some text =>
      (Decode.readDocument (Settings.read defaultInterval) (Json.Document.ofText text)).mapError
        .invalid

end RouterPoll

import Playbook.Json.Record
import Playbook.Settings.Basic

/-!
Settings as values of the data format. What is not there takes its default.
-/
namespace Playbook

open Json (Value)
open Json.Value (nullable? count64? choice? single? ofText?)

namespace ExecutionSettings

def encode (s : ExecutionSettings) : Value := .object [
  ("parallel_hard_limit", .ofNat s.parallelHardLimit),
  ("retry_backoff_multiplier", .float s.retryBackoffMultiplier),
  ("retry_backoff_max_ms", .ofNat s.retryBackoffMaxMs)]

def decode? (v : Value) : Option ExecutionSettings := do
  let r ← v.record? ["parallel_hard_limit", "retry_backoff_multiplier", "retry_backoff_max_ms"]
  some {
    parallelHardLimit := ← r.read "parallel_hard_limit" 16 count64?
    retryBackoffMultiplier := ← r.read "retry_backoff_multiplier" 2.0 Value.float?
    retryBackoffMaxMs := ← r.read "retry_backoff_max_ms" 30000 count64? }

end ExecutionSettings

namespace ExpressionSettings

def encode (s : ExpressionSettings) : Value := .object [
  ("max_length", .ofNat s.maxLength), ("max_depth", .ofNat s.maxDepth)]

def decode? (v : Value) : Option ExpressionSettings := do
  let r ← v.record? ["max_length", "max_depth"]
  some {
    maxLength := ← r.read "max_length" 8192 count64?
    maxDepth := ← r.read "max_depth" 64 count64? }

end ExpressionSettings

namespace RecorderSettings

def encode (s : RecorderSettings) : Value := .object [
  ("max_retained_runs", .ofNat s.maxRetainedRuns),
  ("trace_file", ofText? s.traceFile),
  ("event_buffer", .ofNat s.eventBuffer)]

def decode? (v : Value) : Option RecorderSettings := do
  let r ← v.record? ["max_retained_runs", "trace_file", "event_buffer"]
  some {
    maxRetainedRuns := ← r.read "max_retained_runs" 1000 count64?
    traceFile := ← r.read "trace_file" none (nullable? Value.text?)
    eventBuffer := ← r.read "event_buffer" 256 count64? }

end RecorderSettings

namespace KnowledgeSettings

def encode (s : KnowledgeSettings) : Value := .object [
  ("limit", .ofNat s.limit), ("threshold", .ofSingle s.threshold)]

def decode? (v : Value) : Option KnowledgeSettings := do
  let r ← v.record? ["limit", "threshold"]
  some {
    limit := ← r.read "limit" 5 count64?
    threshold := ← r.read "threshold" 0.2 single? }

end KnowledgeSettings

namespace HttpSettings

def encode (s : HttpSettings) : Value := .object [
  ("timeout_seconds", .ofNat s.timeoutSeconds),
  ("user_agent", .text s.userAgent),
  ("max_response_bytes", .ofNat s.maxResponseBytes)]

def decode? (v : Value) : Option HttpSettings := do
  let r ← v.record? ["timeout_seconds", "user_agent", "max_response_bytes"]
  let defaults : HttpSettings := {}
  some {
    timeoutSeconds := ← r.read "timeout_seconds" defaults.timeoutSeconds count64?
    userAgent := ← r.read "user_agent" defaults.userAgent Value.text?
    maxResponseBytes := ← r.read "max_response_bytes" defaults.maxResponseBytes count64? }

end HttpSettings

namespace LogFormat

def name : LogFormat → String
  | .text => "text"
  | .json => "json"

def ofName? (s : String) : Option LogFormat := [.text, .json].find? fun f => f.name == s

end LogFormat

namespace LoggingSettings

def encode (s : LoggingSettings) : Value := .object [
  ("level", .text s.level), ("format", .text s.format.name)]

def decode? (v : Value) : Option LoggingSettings := do
  let r ← v.record? ["level", "format"]
  some {
    level := ← r.read "level" "info" Value.text?
    format := ← r.read "format" .text (choice? LogFormat.ofName?) }

end LoggingSettings

namespace Settings

def encode (s : Settings) : Value := .object [
  ("execution", s.execution.encode),
  ("expressions", s.expressions.encode),
  ("recorder", s.recorder.encode),
  ("knowledge", s.knowledge.encode),
  ("http", s.http.encode),
  ("logging", s.logging.encode)]

def decode? (v : Value) : Option Settings := do
  let r ← v.record? ["execution", "expressions", "recorder", "knowledge", "http", "logging"]
  some {
    execution := ← r.read "execution" {} ExecutionSettings.decode?
    expressions := ← r.read "expressions" {} ExpressionSettings.decode?
    recorder := ← r.read "recorder" {} RecorderSettings.decode?
    knowledge := ← r.read "knowledge" {} KnowledgeSettings.decode?
    http := ← r.read "http" {} HttpSettings.decode?
    logging := ← r.read "logging" {} LoggingSettings.decode? }

end Settings
end Playbook

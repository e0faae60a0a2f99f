import BoardBench.Configuration.Basic
import BoardBench.Configuration.Source

namespace BoardBench

namespace Toml

def readRetry (r : RetryEntry) (k : String) (v : Value) : Decoded RetryEntry :=
  match k with
  | "attempts" => return { r with attempts := ← v.asNat wordLimit }
  | "delay_ms" => return { r with delayMillis := ← asLong v }
  | _ => throw .shape

def asRetry : Value → Decoded RetryEntry
  | .table entries => decodeEntries readRetry {} entries
  | .array [] => return {}
  | .array [attempts] => return { attempts := ← attempts.asNat wordLimit }
  | .array (attempts :: delay :: _) =>
      return { attempts := ← attempts.asNat wordLimit, delayMillis := ← asLong delay }
  | _ => throw .shape

def asBoardEntry (v : Value) : Decoded BoardEntry := do
  let entries ← v.asTable
  let name ← (← required (entries.lookup "name")).asString
  let endpoint ← asEndpoint .table (entries.filter fun e => e.1 != "name")
  return ⟨name, endpoint⟩

def readConfiguration (c : Configuration) (k : String) (v : Value) : Decoded Configuration :=
  match k with
  | "log_path" => return { c with logPath := ← v.asString }
  | "log_level" => return { c with logLevel := ← v.asString }
  | "default_timeout_ms" => return { c with defaultTimeoutMillis := ← asLong v }
  | "settle_ms" => return { c with settleMillis := ← asLong v }
  | "reboot_command" => return { c with rebootCommand := ← v.asString }
  | "adv_name" => return { c with advertisedName := ← v.asString }
  | "history_lines" => return { c with historyLines := ← asLong v }
  | "scenario_dir" => return { c with scenarioDirectory := some (← v.asString) }
  | "peripheral" => return { c with peripheral := some (← v.asString) }
  | "central" => return { c with central := some (← v.asString) }
  | "retry" => return { c with retry := ← asRetry v }
  | "device" => return { c with boards := ← (← v.asArray).mapM asBoardEntry }
  | _ => throw .shape

def asConfiguration (entries : Entries) : Decoded Configuration :=
  decodeEntries readConfiguration {} entries

end Toml

def Configuration.ofText (origin text : String) : Except ConfigFailure Configuration :=
  match Toml.document origin Toml.asConfiguration text with
  | .ok c => c.check
  | .error f => .error f

def Endpoint.ofText (text : String) : Except ConfigFailure Endpoint :=
  Toml.document "" (Toml.asEndpoint .tableOrArray) text

end BoardBench

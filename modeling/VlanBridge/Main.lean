import VlanBridge.Options
/-!
# The program

Reads a scenario, runs it and prints the report. Without a report the program ends with code 1, and
with code 2 if it does not understand its arguments.
-/

open VlanBridge

def VlanBridge.Options.defaultScenario : String := "ubr-sim.toml"

def VlanBridge.SettingsFile.find (path : String) : IO SettingsFile := do
  try
    return .bytes (← IO.FS.readBinFile path).toList
  catch
    | .noFileOrDirectory .. => return .missing
    | _ => return .unreadable

def main (arguments : List String) : IO UInt32 := do
  match Options.parse arguments with
  | .error e =>
    IO.eprintln ("error: " ++ e.message)
    return 2
  | .ok options =>
    let started ← IO.monoMsNow
    let file ← SettingsFile.find (options.scenario.getD Options.defaultScenario)
    match Simulation.run file options.changes with
    | .error e =>
      IO.eprintln ("Error: " ++ e.message)
      return 1
    | .ok report =>
      let elapsed := (← IO.monoMsNow) - started
      IO.println (options.render (report.toValue elapsed))
      return 0

import Gatehouse.CommandLine

/-!
# The program

Reads the configuration and the key that it names, checks both, and tells what the server would
start with.
-/

namespace Gatehouse

def readText (path : String) : IO (Except String String) := do
  match ← (IO.FS.readFile path).toBaseIO with
  | .ok text => return .ok text
  | .error cause => return .error (toString cause)

def start (options : Options) : IO (Except Config.Error (List String)) := do
  let loaded ← match options.configPath? with
    | some path =>
      let text ← readText path
      pure (Config.load (fun _ => text) path)
    | none => pure (.ok default)
  match loaded with
  | .error cause => return .error cause
  | .ok config =>
    let config := options.apply config
    let keyText ← match config.key.file? with
      | some path => readText path
      | none => pure (.ok "")
    return (config.ready fun _ => keyText).map (options.announcement config)

end Gatehouse

def main (arguments : List String) : IO UInt32 := do
  match Gatehouse.Options.parse? arguments {} with
  | none =>
    IO.eprintln Gatehouse.Options.usage
    return 2
  | some options =>
    match ← Gatehouse.start options with
    | .ok lines =>
      for line in lines do
        IO.println line
      return 0
    | .error cause =>
      IO.eprintln s!"Failed to start server: {cause.message}"
      return 1

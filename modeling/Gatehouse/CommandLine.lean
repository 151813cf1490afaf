import Gatehouse.Config.Decode

/-!
# The command line

Options, and the configuration that comes of them: the one in a file or the default one, with another
host or port where the options name one.
-/

namespace Gatehouse

structure Options where
  host? : Option String := none
  port? : Option UInt16 := none
  configPath? : Option String := none
  verbose : Bool := false
  deriving DecidableEq, Repr

namespace Options

def usage : String :=
  "usage: gatehouse [-H|--host HOST] [-p|--port PORT] [-c|--config FILE] [-v|--verbose]"

def portOfText? (text : String) : Option UInt16 :=
  let digits := text.toList
  if digits ≠ [] ∧ digits.all (Numeral.isDigit 10) ∧ Numeral.value 10 digits < 65536 then
    some (UInt16.ofNat (Numeral.value 10 digits))
  else none

/-- The options in a list of arguments. Of two that name the same thing, the later one counts. -/
def parse? : List String → Options → Option Options
  | [], options => some options
  | argument :: rest, options =>
    if argument = "-v" ∨ argument = "--verbose" then parse? rest { options with verbose := true }
    else
      match rest with
      | [] => none
      | value :: rest =>
        if argument = "-H" ∨ argument = "--host" then
          parse? rest { options with host? := some value }
        else if argument = "-c" ∨ argument = "--config" then
          parse? rest { options with configPath? := some value }
        else if argument = "-p" ∨ argument = "--port" then do
          parse? rest { options with port? := some (← portOfText? value) }
        else none

def apply (options : Options) (config : Config) : Config :=
  { config with
    host := options.host?.getD config.host
    port := options.port?.getD config.port }

def announcement (options : Options) (config : Config) (key : Rsa.Key) : List String :=
  let accounts := if options.verbose then
      config.accounts.map fun a => s!"account {a.id.toNat}: {a.characters.length} characters"
    else []
  [s!"Starting server for protocol {config.versionLabel} with {config.accounts.length} accounts"] ++
    accounts ++ [s!"{config.bindAddress}, RSA key of {key.bits} bits"]

end Options

end Gatehouse

import Gatehouse.Account.Basic
import Gatehouse.Checksum
import Gatehouse.Rsa.Decimal
import Gatehouse.Rsa.KeyFile
import Gatehouse.Wire.Opcode

/-!
# The configuration

What a server is told at its start, the checks on it, and the key that it names.
-/

namespace Gatehouse

/-- What to do with a frame whose length is out of bounds. -/
inductive OversizePolicy where
  /-- Stop reading, so that the read timeout or the client ends the connection. -/
  | drop
  | close
  deriving DecidableEq, Repr

/-- Which clients number their frames, and which understand the extended opcode. -/
structure ChecksumPolicy where
  sequenceMinVersion : UInt16
  sequenceSystemMin : UInt16
  sequenceSystemMax : UInt16
  extendedSystemMin : UInt16
  deriving DecidableEq, Repr

namespace ChecksumPolicy

open Wire

instance : Inhabited ChecksumPolicy where
  default :=
    { sequenceMinVersion := 1111
      sequenceSystemMin := ClientSystem.qtLinux
      sequenceSystemMax := ClientSystem.otclientMac
      extendedSystemMin := ClientSystem.otclientLinux }

def modeFor (policy : ChecksumPolicy) (system version : UInt16) : ChecksumMode :=
  if policy.sequenceMinVersion ≤ version ∧ policy.sequenceSystemMin ≤ system ∧
      system ≤ policy.sequenceSystemMax then .sequence
  else .adler

def isExtended (policy : ChecksumPolicy) (system : UInt16) : Bool :=
  policy.extendedSystemMin ≤ system

end ChecksumPolicy

/-- Where the key comes from. The two numbers count before the file. -/
structure KeySource where
  file? : Option String
  modulus? : Option String
  privateExponent? : Option String
  deriving DecidableEq, Repr

instance : Inhabited KeySource := ⟨⟨some "key.pem", none, none⟩⟩

structure Config where
  host : String
  port : UInt16
  minVersion : UInt16
  maxVersion : UInt16
  replaceOnLogin : Bool
  allowClones : Bool
  onePerAccount : Bool
  /-- How many may be online before the waiting list is used; zero for any number. -/
  maxPlayers : Nat
  /-- In milliseconds, as the flush interval. -/
  reattachDelay : Nat
  flushInterval : Nat
  /-- In seconds, as the two other timeouts. -/
  loginTimeout : Nat
  readTimeout : Nat
  writeTimeout : Nat
  oversize : OversizePolicy
  checksum : ChecksumPolicy
  key : KeySource
  accounts : List Account

namespace Config

instance : Inhabited Config where
  default :=
    { host := "0.0.0.0"
      port := 7172
      minVersion := 1310
      maxVersion := 1311
      replaceOnLogin := true
      allowClones := false
      onePerAccount := true
      maxPlayers := 0
      reattachDelay := 1000
      flushInterval := 10
      loginTimeout := 5
      readTimeout := 30
      writeTimeout := 30
      oversize := .drop
      checksum := default
      key := default
      accounts := [] }

inductive Error where
  | unreadable (path cause : String)
  | malformed
  | versionsSwapped (low high : UInt16)
  | noFlushInterval
  | halfAKey
  | noKey
  | keyUnreadable (path cause : String)
  | badKey (cause : Rsa.Error)
  deriving DecidableEq, Repr

def Error.message : Error → String
  | unreadable path cause => s!"failed to read config file {path}: {cause}"
  | malformed => "failed to parse config"
  | versionsSwapped low high =>
    "invalid config: " ++
      s!"client_version_min {low.toNat} is above client_version_max {high.toNat}"
  | noFlushInterval => "invalid config: flush_interval_ms must be positive"
  | halfAKey => "invalid config: [rsa] needs both modulus and private_exponent"
  | noKey => "invalid config: no RSA key configured"
  | keyUnreadable path cause => s!"failed to read RSA key {path}: {cause}"
  | badKey cause => "invalid RSA key: " ++ cause.message

def validate (config : Config) : Except Error Unit := do
  if config.maxVersion < config.minVersion then
    throw (.versionsSwapped config.minVersion config.maxVersion)
  if config.flushInterval = 0 then throw .noFlushInterval
  if config.key.modulus?.isSome != config.key.privateExponent?.isSome then throw .halfAKey
  if config.key.modulus?.isNone && config.key.file?.isNone then throw .noKey

def bindAddress (config : Config) : String :=
  s!"{config.host}:{config.port.toNat}"

/-- A version with two digits behind the point. -/
def versionText (version : UInt16) : String :=
  toString (version.toNat / 100) ++ "." ++ Numeral.decimal 2 (version.toNat % 100)

def versionLabel (config : Config) : String :=
  if config.minVersion = config.maxVersion then versionText config.minVersion
  else versionText config.minVersion ++ "-" ++ versionText config.maxVersion

def acceptsVersion (config : Config) (version : UInt16) : Bool :=
  config.minVersion ≤ version && version ≤ config.maxVersion

/-- The key of the server, where `fileText` brings the text of a file or the cause of its failure.
There is no key to fall back on. -/
def rsaKey (config : Config) (fileText : String → Except String String) :
    Except Error Rsa.Key :=
  match config.key.modulus?, config.key.privateExponent?, config.key.file? with
  | some modulus, some exponent, _ => (Rsa.Key.ofDecimal modulus exponent).mapError .badKey
  | none, none, some path => do
    let text ← (fileText path).mapError (.keyUnreadable path)
    (Rsa.Key.privateOfPem text).mapError .badKey
  | none, none, none => .error .noKey
  | _, _, _ => .error .halfAKey

def ready (config : Config) (fileText : String → Except String String) :
    Except Error Rsa.Key := do
  config.validate
  config.rsaKey fileText

end Config

end Gatehouse

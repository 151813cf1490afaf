import Gatehouse.Config.Basic
import Gatehouse.Toml.Document

/-!
# Reading the configuration

Every field has a default but the identity of accounts and characters. A record is written as a
table, in which unknown keys are passed over, or as an array of its fields in order.
-/

namespace Gatehouse.Config

open Toml (Value Entries)

namespace Decode

/-- The fields of a record with these names. A date counts as a record without fields. -/
def record? (names : List String) : Value → Option Entries
  | .table _ entries => some entries
  | .array _ items => some (names.zip items)
  | .dateTime => some []
  | _ => none

def optional (entries : Entries) (name : String) (decode : Value → Option α) (default : α) :
    Option α :=
  match entries.lookup name with
  | none => some default
  | some v => decode v

def required (entries : Entries) (name : String) (decode : Value → Option α) : Option α :=
  (entries.lookup name).bind decode

def string? : Value → Option String
  | .string s => some s
  | _ => none

def boolean? : Value → Option Bool
  | .boolean b => some b
  | _ => none

def natural? (bound : Nat) : Value → Option Nat
  | .integer n => if 0 ≤ n ∧ n < bound then some n.toNat else none
  | _ => none

def word8? (v : Value) : Option UInt8 :=
  (natural? UInt8.size v).map UInt8.ofNat

def word16? (v : Value) : Option UInt16 :=
  (natural? UInt16.size v).map UInt16.ofNat

def word32? (v : Value) : Option UInt32 :=
  (natural? UInt32.size v).map UInt32.ofNat

def word64? (v : Value) : Option Nat :=
  natural? UInt64.size v

/-- A name out of a list, as a string or as the only key of a table over an empty one. -/
def choice? (options : List (String × α)) : Value → Option α
  | .string s => options.lookup s
  | .table _ [(name, .table _ [])] => options.lookup name
  | _ => none

/-- Three coordinates; what follows them is passed over. -/
def position? : Value → Option Position
  | .array _ (x :: y :: z :: _) => do return ⟨← word16? x, ← word16? y, ← word8? z⟩
  | _ => none

def list? (decode : Value → Option α) : Value → Option (List α)
  | .array _ items => items.mapM decode
  | _ => none

def some? (decode : Value → Option α) (v : Value) : Option (Option α) :=
  (decode v).map some

def character? (v : Value) : Option CharacterEntry := do
  let fields ← record? ["id", "name", "login_position", "temple_position", "can_always_login",
    "cannot_be_banned"] v
  return {
    id := ← required fields "id" word32?
    name := ← required fields "name" string?
    login? := ← optional fields "login_position" (some? position?) none
    temple := ← optional fields "temple_position" position? ⟨100, 100, 7⟩
    canAlwaysLogin := ← optional fields "can_always_login" boolean? false
    cannotBeBanned := ← optional fields "cannot_be_banned" boolean? false }

def accountTypes : List (String × AccountType) :=
  [("normal", .normal), ("tutor", .tutor), ("senior_tutor", .seniorTutor),
    ("gamemaster", .gamemaster), ("community_manager", .communityManager), ("god", .god)]

def ip? (v : Value) : Option IpAddress :=
  (string? v).bind IpAddress.parse?

def account? (v : Value) : Option Account := do
  let fields ← record? ["id", "session_token", "authorized_ip", "account_type", "characters"] v
  return {
    id := ← required fields "id" word32?
    sessionToken := ← required fields "session_token" string?
    authorizedIp := ← optional fields "authorized_ip" ip? IpAddress.localhost
    type := ← optional fields "account_type" (choice? accountTypes) .normal
    characters := ← optional fields "characters" (list? character?) [] }

def checksum? (v : Value) : Option ChecksumPolicy := do
  let fields ← record? ["sequence_min_version", "sequence_os_min", "sequence_os_max",
    "extended_os_min"] v
  let base : ChecksumPolicy := default
  return {
    sequenceMinVersion := ← optional fields "sequence_min_version" word16? base.sequenceMinVersion
    sequenceSystemMin := ← optional fields "sequence_os_min" word16? base.sequenceSystemMin
    sequenceSystemMax := ← optional fields "sequence_os_max" word16? base.sequenceSystemMax
    extendedSystemMin := ← optional fields "extended_os_min" word16? base.extendedSystemMin }

def key? (v : Value) : Option KeySource := do
  let fields ← record? ["key_file", "modulus", "private_exponent"] v
  let base : KeySource := default
  return {
    file? := ← optional fields "key_file" (some? string?) base.file?
    modulus? := ← optional fields "modulus" (some? string?) base.modulus?
    privateExponent? := ← optional fields "private_exponent" (some? string?) base.privateExponent? }

def policies : List (String × OversizePolicy) :=
  [("drop", .drop), ("close", .close)]

def config? (fields : Entries) : Option Config := do
  let base : Config := default
  return {
    host := ← optional fields "host" string? base.host
    port := ← optional fields "port" word16? base.port
    minVersion := ← optional fields "client_version_min" word16? base.minVersion
    maxVersion := ← optional fields "client_version_max" word16? base.maxVersion
    replaceOnLogin := ← optional fields "replace_kick_on_login" boolean? base.replaceOnLogin
    allowClones := ← optional fields "allow_clones" boolean? base.allowClones
    onePerAccount := ← optional fields "one_player_per_account" boolean? base.onePerAccount
    maxPlayers := ← optional fields "max_players" word64? base.maxPlayers
    reattachDelay := ← optional fields "kick_reattach_delay_ms" word64? base.reattachDelay
    flushInterval := ← optional fields "flush_interval_ms" word64? base.flushInterval
    loginTimeout := ← optional fields "login_timeout_secs" word64? base.loginTimeout
    readTimeout := ← optional fields "read_timeout_secs" word64? base.readTimeout
    writeTimeout := ← optional fields "write_timeout_secs" word64? base.writeTimeout
    oversize := ← optional fields "oversize_frame_policy" (choice? policies) base.oversize
    checksum := ← optional fields "checksum" checksum? base.checksum
    key := ← optional fields "rsa" key? base.key
    accounts := ← optional fields "accounts" (list? account?) base.accounts }

end Decode

def parse (text : String) : Except Error Config := do
  match (Toml.parse text).bind Decode.config? with
  | none => throw .malformed
  | some config =>
    config.validate
    return config

/-- The configuration in a file, where `fileText` brings its text or the cause of its failure. -/
def load (fileText : String → Except String String) (path : String) : Except Error Config := do
  parse (← (fileText path).mapError (.unreadable path))

end Gatehouse.Config

import Gatehouse.Net.Address
import Gatehouse.Position

/-!
# Accounts and characters
-/

namespace Gatehouse

abbrev AccountId := UInt32

abbrev CharacterId := UInt32

/-- Kinds of accounts, by rising rights. -/
inductive AccountType where
  | normal
  | tutor
  | seniorTutor
  | gamemaster
  | communityManager
  | god
  deriving DecidableEq, Repr, Inhabited

def AccountType.isGamemaster : AccountType → Bool
  | normal | tutor | seniorTutor => false
  | gamemaster | communityManager | god => true

structure Ban where
  /-- When the ban ends, in seconds since 1970. -/
  expiresAt : Int
  bannedBy : String
  reason : String
  deriving DecidableEq, Repr

def Ban.isPermanent (ban : Ban) : Bool :=
  ban.expiresAt ≤ 0

/-- A character as an account lists it. -/
structure CharacterEntry where
  id : CharacterId
  name : String
  /-- Where the character stood at its last logout. -/
  login? : Option Position
  temple : Position
  canAlwaysLogin : Bool
  cannotBeBanned : Bool
  deriving DecidableEq, Repr

def CharacterEntry.login (entry : CharacterEntry) : Position :=
  entry.login?.getD entry.temple

structure Account where
  id : AccountId
  sessionToken : String
  /-- Where the session was opened; a login has to come from there. -/
  authorizedIp : IpAddress
  type : AccountType
  characters : List CharacterEntry
  deriving DecidableEq, Repr

/-- What a login needs to know about a character. -/
structure Character where
  id : CharacterId
  name : String
  accountId : AccountId
  accountType : AccountType
  /-- Passes a closing or closed world and the waiting list. -/
  canAlwaysLogin : Bool
  cannotBeBanned : Bool
  login : Position
  temple : Position
  deriving DecidableEq, Repr

def Character.isGamemaster (c : Character) : Bool :=
  c.accountType.isGamemaster

def CharacterEntry.profile (entry : CharacterEntry) (account : Account) : Character :=
  { id := entry.id
    name := entry.name
    accountId := account.id
    accountType := account.type
    canAlwaysLogin := entry.canAlwaysLogin
    cannotBeBanned := entry.cannotBeBanned
    login := entry.login
    temple := entry.temple }

end Gatehouse

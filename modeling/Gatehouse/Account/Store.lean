import Gatehouse.Account.Basic
import Gatehouse.Octets

/-!
# The account store

Looks up sessions, characters, bans and name locks, and counts the session look-ups.
-/

namespace Gatehouse

/-- What a session token and a character name stand for. -/
structure SessionRecord where
  accountId : AccountId
  authorizedIp : IpAddress
  characterId : CharacterId
  deriving DecidableEq, Repr

structure AccountStore where
  accounts : List Account
  /-- The latest ban of an address stands first. -/
  ipBans : List (IpAddress × Ban)
  accountBans : List (AccountId × Ban)
  namelocks : List CharacterId
  sessionLookups : Nat

namespace AccountStore

def ofAccounts (accounts : List Account) : AccountStore :=
  { accounts, ipBans := [], accountBans := [], namelocks := [], sessionLookups := 0 }

/-- Equality of names up to the case of ASCII letters. -/
def sameName (a b : String) : Bool :=
  a.toList.map Char.toLower == b.toList.map Char.toLower

def tokenBytes (account : Account) : Octets :=
  account.sessionToken.toUTF8.data.toList

def findSession (store : AccountStore) (token : Octets) (name : String) : Option SessionRecord := do
  let account ← store.accounts.find? fun a => tokenBytes a == token
  let entry ← account.characters.find? fun c => sameName c.name name
  return { accountId := account.id, authorizedIp := account.authorizedIp, characterId := entry.id }

/-- The look-up of a login, which is counted whether it finds something or not. -/
def resolveSession (store : AccountStore) (token : Octets) (name : String) :
    Option SessionRecord × AccountStore :=
  (store.findSession token name, { store with sessionLookups := store.sessionLookups + 1 })

def loadCharacter (store : AccountStore) (id : CharacterId) : Option Character :=
  store.accounts.findSome? fun account =>
    (account.characters.find? (·.id == id)).map (·.profile account)

def banIp (store : AccountStore) (ip : IpAddress) (ban : Ban) : AccountStore :=
  { store with ipBans := (ip, ban) :: store.ipBans }

def banAccount (store : AccountStore) (id : AccountId) (ban : Ban) : AccountStore :=
  { store with accountBans := (id, ban) :: store.accountBans }

def namelock (store : AccountStore) (id : CharacterId) : AccountStore :=
  { store with namelocks := id :: store.namelocks }

def ipBan (store : AccountStore) (ip : IpAddress) : Option Ban :=
  store.ipBans.lookup ip

def accountBan (store : AccountStore) (id : AccountId) : Option Ban :=
  store.accountBans.lookup id

def isNamelocked (store : AccountStore) (id : CharacterId) : Bool :=
  store.namelocks.contains id

end AccountStore

end Gatehouse

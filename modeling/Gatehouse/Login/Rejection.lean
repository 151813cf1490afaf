import Gatehouse.Account.Basic
import Gatehouse.Calendar

/-!
# Refused logins

The reasons that a client is told, and the text of each.
-/

namespace Gatehouse.Login

inductive Rejection where
  | unsupportedVersion (label : String)
  | malformedSessionKey
  | startingUp
  | maintenance
  | ipBanned (date bannedBy reason : String)
  | invalidCredentials
  | sessionIpMismatch
  | characterNotLoaded
  | namelocked
  | goingDown
  | serverClosed
  | oneCharacterPerAccount
  | accountBanned (date bannedBy reason : String)
  | accountBannedPermanently (bannedBy reason : String)
  | templePositionWrong
  | alreadyLoggedIn
  deriving DecidableEq, Repr

namespace Rejection

def message : Rejection → String
  | unsupportedVersion label => s!"Only clients with protocol {label} allowed!"
  | malformedSessionKey => "Malformed session key."
  | startingUp => "Gameworld is starting up. Please wait."
  | maintenance => "Gameworld is under maintenance. Please re-connect in a while."
  | ipBanned date bannedBy reason =>
    s!"Your IP has been banned until {date} by {bannedBy}.\n\nReason specified:\n{reason}"
  | invalidCredentials => "Account name or password is not correct."
  | sessionIpMismatch =>
    "Your game session is already locked to a different IP. Please log in again."
  | characterNotLoaded => "Your character could not be loaded."
  | namelocked => "Your character has been namelocked."
  | goingDown => "The game is just going down.\nPlease try again later."
  | serverClosed => "Server is currently closed.\nPlease try again later."
  | oneCharacterPerAccount =>
    "You may only login with one character\nof your account at the same time."
  | accountBanned date bannedBy reason =>
    s!"Your account has been banned until {date} by {bannedBy}.\n\nReason specified:\n{reason}"
  | accountBannedPermanently bannedBy reason =>
    s!"Your account has been permanently banned by {bannedBy}.\n\nReason specified:\n{reason}"
  | templePositionWrong => "Temple position is wrong. Contact the administrator."
  | alreadyLoggedIn => "You are already logged in."

/-- A banned address is told a date in any case. -/
def ofIpBan (ban : Ban) : Rejection :=
  ipBanned (Date.shortOfTimestamp ban.expiresAt) ban.bannedBy ban.reason

def ofAccountBan (ban : Ban) : Rejection :=
  if ban.isPermanent then accountBannedPermanently ban.bannedBy ban.reason
  else accountBanned (Date.shortOfTimestamp ban.expiresAt) ban.bannedBy ban.reason

end Rejection

end Gatehouse.Login

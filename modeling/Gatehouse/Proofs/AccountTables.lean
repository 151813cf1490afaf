import Gatehouse.Account.Store
import Gatehouse.Config.Basic

/-!
# Account tables

A login is looked up by token and name, the character afterwards by its id alone. Both look-ups go
through the same table in the same order, but no check of the configuration keeps an id from
standing there twice: the second look-up then ends at the first entry with that id.
-/

namespace Gatehouse.AccountStore

def listing (accounts : List Account) : List (Account × CharacterEntry) :=
  accounts.flatMap fun account => account.characters.map (account, ·)

theorem listing_append (front rest : List Account) :
    listing (front ++ rest) = listing front ++ listing rest :=
  List.flatMap_append

theorem mem_listing {accounts : List Account} {account : Account} {entry : CharacterEntry} :
    (account, entry) ∈ listing accounts ↔ account ∈ accounts ∧ entry ∈ account.characters := by
  rw [listing, List.mem_flatMap]
  constructor
  · rintro ⟨other, hOther, hEntry⟩
    obtain ⟨_, hListed, hPair⟩ := List.mem_map.mp hEntry
    cases hPair
    exact ⟨hOther, hListed⟩
  · rintro ⟨hAccount, hEntry⟩
    exact ⟨account, hAccount, List.mem_map_of_mem hEntry⟩

def Answers (token : Octets) (name : String) (listed : Account × CharacterEntry) : Prop :=
  tokenBytes listed.1 = token ∧ sameName listed.2.name name = true

variable {store : AccountStore} {token : Octets} {name : String} {record : SessionRecord}

/-- What a look-up finds stands in the table as the first entry that answers it. -/
theorem exists_listed_of_findSession (hFound : store.findSession token name = some record) :
    ∃ front account entry rest, listing store.accounts = front ++ (account, entry) :: rest ∧
      (∀ other ∈ front, ¬ Answers token name other) ∧ Answers token name (account, entry) ∧
      record = ⟨account.id, account.authorizedIp, entry.id⟩ := by
  obtain ⟨account, hAccount, hFound⟩ := Option.bind_eq_some_iff.mp hFound
  obtain ⟨entry, hEntry, hRecord⟩ := Option.bind_eq_some_iff.mp hFound
  obtain ⟨hToken, accounts, later, hAccounts, hOthers⟩ := List.find?_eq_some_iff_append.mp hAccount
  obtain ⟨hName, entries, others, hEntries, hUnnamed⟩ := List.find?_eq_some_iff_append.mp hEntry
  refine ⟨listing accounts ++ entries.map (account, ·), account, entry,
    others.map (account, ·) ++ listing later, ?_, ?_, ⟨by simpa using hToken, hName⟩,
    (Option.some.inj hRecord).symm⟩
  · have hOwn : listing (account :: later) =
        account.characters.map (account, ·) ++ listing later := List.flatMap_cons
    rw [hAccounts, listing_append, hOwn, hEntries]
    simp only [List.map_append, List.map_cons, List.append_assoc, List.cons_append]
  · rintro ⟨other, listed⟩ hMem ⟨hOther, hListed⟩
    rcases List.mem_append.mp hMem with hBefore | hSame
    · have hNot := hOthers other (mem_listing.mp hBefore).1
      simp [hOther] at hNot
    · obtain ⟨_, hBefore, hPair⟩ := List.mem_map.mp hSame
      cases hPair
      have hNot := hUnnamed listed hBefore
      rw [hListed] at hNot
      cases hNot

theorem loadCharacter_eq (store : AccountStore) (id : CharacterId) :
    store.loadCharacter id = ((listing store.accounts).find? (·.2.id == id)).map fun listed =>
      listed.2.profile listed.1 := by
  rw [loadCharacter]
  generalize store.accounts = accounts
  induction accounts with
  | nil => rfl
  | cons account accounts ih =>
    have hOwn : listing (account :: accounts) =
        account.characters.map (account, ·) ++ listing accounts := List.flatMap_cons
    rw [List.findSome?_cons, hOwn, List.find?_append, List.find?_map, ih]
    change _ = ((Option.map _ (account.characters.find? (·.id == id))).or _).map _
    cases account.characters.find? (·.id == id) <;> rfl

/-- For what a login finds there is a character to load. It is that of the login, unless the table
has another entry with its id in front of it. -/
theorem resolved_character_loads (hFound : (store.resolveSession token name).1 = some record) :
    ∃ front account entry rest, listing store.accounts = front ++ (account, entry) :: rest ∧
      (∀ other ∈ front, ¬ Answers token name other) ∧ Answers token name (account, entry) ∧
      record = ⟨account.id, account.authorizedIp, entry.id⟩ ∧
      ∃ character, store.loadCharacter record.characterId = some character ∧
        character.id = record.characterId ∧
        ((∀ other ∈ front, other.2.id ≠ record.characterId) →
          character.accountId = record.accountId ∧ sameName character.name name = true) := by
  obtain ⟨front, account, entry, rest, hListing, hFirst, hAnswers, hRecord⟩ :=
    exists_listed_of_findSession hFound
  refine ⟨front, account, entry, rest, hListing, hFirst, hAnswers, hRecord, ?_⟩
  subst hRecord
  rw [loadCharacter_eq, hListing, List.find?_append]
  cases hEarlier : front.find? (·.2.id == entry.id) with
  | some other =>
    have hSame : other.2.id = entry.id := by simpa using List.find?_some hEarlier
    refine ⟨_, rfl, hSame, fun hNone => ?_⟩
    exact absurd hSame (hNone other (List.mem_of_find?_eq_some hEarlier))
  | none =>
    have hOwn : ((account, entry) :: rest).find? (·.2.id == entry.id) = some (account, entry) :=
      List.find?_cons_of_pos (beq_self_eq_true _)
    rw [Option.none_or, hOwn]
    exact ⟨_, rfl, rfl, fun _ => ⟨rfl, hAnswers.2⟩⟩

theorem ne_of_nodup {accounts : List Account} {front rest : List (Account × CharacterEntry)}
    {listed : Account × CharacterEntry}
    (hDistinct : ((listing accounts).map (·.2.id)).Nodup)
    (hListing : listing accounts = front ++ listed :: rest) :
    ∀ other ∈ front, other.2.id ≠ listed.2.id := by
  intro other hOther
  rw [hListing, List.map_append, List.nodup_append] at hDistinct
  exact hDistinct.2.2 _ (List.mem_map_of_mem hOther) _ (List.mem_map_of_mem List.mem_cons_self)

/-! Two accounts with a character each, which may have the same id. -/

namespace Doubles

def owner (id : AccountId) (sessionToken : String) (character : CharacterId) (name : String) :
    Account :=
  { id, sessionToken, authorizedIp := .localhost, type := .normal
    characters := [{ id := character, name, login? := none, temple := ⟨100, 100, 7⟩
                     canAlwaysLogin := false, cannotBeBanned := false }] }

def accounts (second : CharacterId) : List Account :=
  [owner 1 "alpha" 10 "Knight", owner 2 "beta" second "Paladin"]

theorem resolved_paladin_loads :
    let store := ofAccounts (accounts 20)
    ∃ character, store.loadCharacter 20 = some character ∧ character.accountId = 2 ∧
      sameName character.name "paladin" = true := by
  intro store
  have hFound : (store.resolveSession "beta".toUTF8.data.toList "paladin").1 =
      some ⟨2, .localhost, 20⟩ := by decide +kernel
  obtain ⟨front, account, entry, rest, hListing, -, -, hRecord, character, hLoaded, -, hOwn⟩ :=
    resolved_character_loads hFound
  have hSame : entry.id = 20 := (congrArg SessionRecord.characterId hRecord).symm
  have hDistinct : ((listing store.accounts).map (·.2.id)).Nodup := by decide +kernel
  exact ⟨character, hLoaded, hOwn (hSame ▸ ne_of_nodup hDistinct hListing)⟩

/-- The configuration is accepted, and the login of the second account loads the character of the
first. -/
theorem resolved_paladin_loads_knight :
    let config := { (default : Config) with accounts := accounts 10 }
    let store := ofAccounts config.accounts
    config.validate = .ok () ∧
      ∃ record character,
        (store.resolveSession "beta".toUTF8.data.toList "Paladin").1 = some record ∧
        store.loadCharacter record.characterId = some character ∧
        character.accountId ≠ record.accountId ∧ sameName character.name "Paladin" = false := by
  refine ⟨rfl, ⟨2, .localhost, 10⟩, _, ?_, rfl, ?_, ?_⟩
  · decide +kernel
  · decide +kernel
  · decide +kernel

end Doubles

end Gatehouse.AccountStore

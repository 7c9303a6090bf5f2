import RichChat.Model.Chat

/-!
# The store

What is known of the chat's users, members, roles and channels. A lookup gives the latest insertion
of its key. Whoever renders a text asks the store to fetch what was missing; requests are counted,
and kept for a receiver while there is one.
-/

namespace RichChat

/-- An entity to be fetched. -/
inductive FetchRequest
  | member (guild : GuildId) (user : UserId)
  | user (user : UserId)
  | role (guild : GuildId) (role : RoleId)
  | channel (channel : ChannelId)
  deriving DecidableEq, Inhabited

/-- The value of the first entry with a key. -/
def lookup {κ α : Type} [DecidableEq κ] (key : κ) (entries : List (κ × α)) : Option α :=
  (entries.find? fun e => e.1 = key).map (·.2)

/-- The entities that are known, the latest insertion first. -/
structure Store where
  users : List (UserId × User) := []
  members : List ((GuildId × UserId) × Member) := []
  roles : List ((GuildId × RoleId) × Role) := []
  channels : List (ChannelId × Channel) := []
  /-- Whether somebody takes the requests. -/
  listening : Bool := true
  /-- Requests that have not been taken, the oldest first. -/
  waiting : List FetchRequest := []
  requestCount : Nat := 0
  deriving Inhabited

namespace Store

def user (store : Store) (id : UserId) : Option User := lookup id store.users

def member (store : Store) (guild : GuildId) (user : UserId) : Option Member :=
  lookup (guild, user) store.members

def role (store : Store) (guild : GuildId) (role : RoleId) : Option Role :=
  lookup (guild, role) store.roles

def channel (store : Store) (id : ChannelId) : Option Channel := lookup id store.channels

def insertUser (store : Store) (user : User) : Store :=
  { store with users := (user.id, user) :: store.users }

/-- A member's user becomes known as well. -/
def insertMember (store : Store) (guild : GuildId) (member : Member) : Store :=
  { store.insertUser member.user with
    members := ((guild, member.user.id), member) :: store.members }

def insertRole (store : Store) (guild : GuildId) (role : Role) : Store :=
  { store with roles := ((guild, role.id), role) :: store.roles }

def insertChannel (store : Store) (channel : Channel) : Store :=
  { store with channels := (channel.id, channel) :: store.channels }

/-- The roles of a member that are known, in the order in which the member lists them. -/
def knownRoles (store : Store) (guild : GuildId) (member : Member) : List Role :=
  member.roles.filterMap (store.role guild)

/-- The color of a member's highest role that has one, of two equally high roles the later. -/
def memberColor (store : Store) (guild : GuildId) (member : Member) : Option UInt32 :=
  let colored := (store.knownRoles guild member).filter fun role => role.color ≠ 0
  let highest := colored.foldl (fun best role => match best with
    | some b => if b.position ≤ role.position then some role else some b
    | none => some role) none
  highest.map (·.color)

/-- The roles of a member, the highest first and equally high ones in the member's order. -/
def memberRoles (store : Store) (guild : GuildId) (member : Member) : List Role :=
  (store.knownRoles guild member).mergeSort fun a b => b.position ≤ a.position

def request (store : Store) (request : FetchRequest) : Store :=
  { store with
    requestCount := store.requestCount + 1
    waiting := if store.listening then store.waiting ++ [request] else store.waiting }

def requestAll (store : Store) (requests : List FetchRequest) : Store :=
  requests.foldl request store

/-- Hands the waiting requests to the receiver. -/
def drain (store : Store) : List FetchRequest × Store :=
  (store.waiting, { store with waiting := [] })

/-- From now on nobody takes requests, and those that wait are lost. -/
def dropReceiver (store : Store) : Store :=
  { store with listening := false, waiting := [] }

end Store

end RichChat

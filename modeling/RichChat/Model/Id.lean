/-!
# Identifiers

Every entity of the chat has a 64-bit number of its own kind. The kinds are told apart by the type,
so that a role cannot be looked up by the number of a user.
-/

namespace RichChat

inductive Entity
  | user | role | channel | guild | message | emoji
  deriving DecidableEq, Repr

/-- The number of an entity of one kind. -/
structure Id (kind : Entity) where
  value : UInt64
  deriving DecidableEq, Inhabited

namespace Id

protected def toString {kind : Entity} (id : Id kind) : String := toString id.value.toNat

instance {kind : Entity} : ToString (Id kind) := ⟨Id.toString⟩

end Id

abbrev UserId := Id .user
abbrev RoleId := Id .role
abbrev ChannelId := Id .channel
abbrev GuildId := Id .guild
abbrev MessageId := Id .message
abbrev EmojiId := Id .emoji

end RichChat

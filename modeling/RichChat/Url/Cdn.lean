import RichChat.Model.Id
import RichChat.Url.Basic

/-!
# Addresses of avatars and emoji

Pictures are loaded from a base address, which is a URL that gets a path and a size added. A base
that is no URL is written in front of the path as it stands.
-/

namespace RichChat.Cdn

/-- The address of a picture of a size below a base. -/
def address (base : String) (segments : List String) (size : UInt32) : String :=
  let size := toString size.toNat
  match Url.ofString? base with
  | some url =>
    ((url.extendPath (segments.map String.toList)).addQueryPair "size".toList size.toList).toString
  | none =>
    let front := (base.toList.reverse.dropWhile (· == '/')).reverse
    String.ofList front ++ "/" ++ "/".intercalate segments ++ "?size=" ++ size

/-- The file of an avatar: hashes of animated ones start with `a_`. -/
def avatarFile (hash : String) : String :=
  hash ++ if hash.startsWith "a_" then ".gif" else ".png"

/-- A user's avatar, or one of the six built-in ones for users without. -/
def avatarUrl (base : String) (user : UserId) (hash : Option String) (size : UInt32) : String :=
  match hash with
  | some hash => address base ["avatars", user.toString, avatarFile hash] size
  | none =>
    let index := (user.value >>> 22).toNat % 6
    address base ["embed", "avatars", toString index ++ ".png"] size

/-- A member's avatar for one guild. -/
def memberAvatarUrl (base : String) (guild : GuildId) (user : UserId) (hash : String)
    (size : UInt32) : String :=
  address base
    ["guilds", guild.toString, "users", user.toString, "avatars", avatarFile hash] size

def emojiUrl (base : String) (id : EmojiId) (animated : Bool) (size : UInt32) : String :=
  address base ["emojis", id.toString ++ if animated then ".gif" else ".png"] size

end RichChat.Cdn

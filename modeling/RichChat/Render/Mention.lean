import RichChat.Render.Canvas
import RichChat.Url.Cdn

/-!
# Mentions

A mention is looked up in the message's own list of users and in the store, and shows the name that
was found. Without one it is shown as it is written, and the store is asked to fetch the entity; a
rendering never waits for that.
-/

namespace RichChat

namespace Reference

def kind : Reference → MentionKind
  | user _ => .user
  | role _ => .role
  | channel _ => .channel

def number : Reference → UInt64
  | user id => id.value
  | role id => id.value
  | channel id => id.value

/-- What stands in front of the name. -/
def sigil : Reference → String
  | user _ | role _ => "@"
  | channel _ => "#"

end Reference

namespace Scene

/-- A user as the message or the store has it. -/
def user? (scene : Scene) (id : UserId) : Option User :=
  ((scene.message.bind fun m => m.mentions.find? fun user => user.id = id)).or
    (scene.store.bind fun store => store.user id)

/-- A user's membership in the guild of the message. -/
def member? (scene : Scene) (id : UserId) : Option Member := do
  let guild ← scene.guild
  let store ← scene.store
  store.member guild id

/-- How a member is shown. -/
def memberData (scene : Scene) (id : UserId) (member : Member) : MentionData :=
  let base := scene.config.cdnBase
  let size := scene.config.avatarSize
  { name := member.displayName
    color := do
      let guild ← scene.guild
      let store ← scene.store
      return Rgba.ofRgb (← store.memberColor guild member)
    avatarUrl := match scene.guild, member.avatar with
      | some guild, some hash => some (Cdn.memberAvatarUrl base guild id hash size)
      | _, _ => some (Cdn.avatarUrl base id member.user.avatar size) }

/-- How a user without membership is shown. -/
def userData (scene : Scene) (id : UserId) (user : User) : MentionData :=
  { name := user.displayName
    color := none
    avatarUrl := some (Cdn.avatarUrl scene.config.cdnBase id user.avatar scene.config.avatarSize) }

end Scene

namespace Canvas

/-- Places the avatar of a mentioned user, if avatars are shown. -/
def mentionAvatar (c : Canvas) (config : Config) (target : Reference) (data : MentionData) :
    Canvas :=
  match data.avatarUrl with
  | some url =>
    if target.kind = .user ∧ config.mentionAvatars then
      c.anchor (.avatar ⟨url, config.avatarSize, data.name⟩)
    else c
  | none => c

/-- Writes a mention of an entity that was found. -/
def writeResolved (c : Canvas) (scene : Scene) (target : Reference) (data : MentionData) : Canvas :=
  let (range, c) := (c.mentionAvatar scene.config target data).write (target.sigil ++ data.name)
  let c := match data.color with
    | some color => c.emit range (.color color)
    | none => c
  c.emit range (.mention ⟨target.kind, target.number, scene.guild, some data⟩)

/-- Writes a mention as it is written in messages. -/
def writeUnresolved (c : Canvas) (scene : Scene) (target : Reference) : Canvas :=
  let (range, c) := c.write target.sourceForm
  c.emit range (.mention ⟨target.kind, target.number, scene.guild, none⟩)

/-- Writes a mention of a user, of whom `known` may tell more than the message and the store. -/
def mentionUser (c : Canvas) (scene : Scene) (id : UserId) (known : Option User) : Canvas :=
  let user := known.or (scene.user? id)
  match scene.member? id with
  | some member => c.writeResolved scene (.user id) (scene.memberData id member)
  | none =>
    let c := match scene.guild, user with
      | some guild, _ => c.request scene (.member guild id)
      | none, none => c.request scene (.user id)
      | none, some _ => c
    match user with
    | some user => c.writeResolved scene (.user id) (scene.userData id user)
    | none => c.writeUnresolved scene (.user id)

/-- Writes a mention of a role. Roles are known by guild. -/
def mentionRole (c : Canvas) (scene : Scene) (id : RoleId) : Canvas :=
  match scene.guild with
  | none => c.writeUnresolved scene (.role id)
  | some guild =>
    match scene.store.bind fun store => store.role guild id with
    | some role =>
      let color := if role.color = 0 then none else some (Rgba.ofRgb role.color)
      c.writeResolved scene (.role id) ⟨role.name, color, none⟩
    | none => (c.request scene (.role guild id)).writeUnresolved scene (.role id)

def mentionChannel (c : Canvas) (scene : Scene) (id : ChannelId) : Canvas :=
  match scene.store.bind fun store => store.channel id with
  | some channel => c.writeResolved scene (.channel id) ⟨channel.name, none, none⟩
  | none => (c.request scene (.channel id)).writeUnresolved scene (.channel id)

def mention (c : Canvas) (scene : Scene) : Reference → Canvas
  | .user id => c.mentionUser scene id none
  | .role id => c.mentionRole scene id
  | .channel id => c.mentionChannel scene id

/-- Places a custom emoji of a size. -/
def placeEmoji (c : Canvas) (config : Config) (emoji : CustomEmoji) (size : UInt32) : Canvas :=
  let url := Cdn.emojiUrl config.cdnBase emoji.id emoji.animated size
  c.anchor (.image ⟨url, size, size, ":" ++ emoji.name ++ ":"⟩)

end Canvas

end RichChat

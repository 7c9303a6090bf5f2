import RichChat.Render.Message

/-!
# Tooltips

The tooltip of a user has the avatar and the name, then the user name, and in a guild the names of
the member's roles in their colors, the highest first.
-/

namespace RichChat

namespace Canvas

/-- Draws the name of a role on a line of its own. -/
def roleLine (c : Canvas) (role : Role) : Canvas :=
  let (range, c) := c.ensureBreak.write role.name
  if role.color = 0 then c else c.emit range (.color (Rgba.ofRgb role.color))

/-- Draws the avatar, the name and the user name. -/
def profile (c : Canvas) (config : Config) (user : User) (name avatarUrl : String) : Canvas :=
  let c := (c.placeAvatar config avatarUrl name).put " "
  ((c.writeWith .bold name).2).ensureBreak.put ("@" ++ user.username)

end Canvas

/-- The avatar that a tooltip shows: the member's own one for the guild, or the user's. -/
def User.tooltipAvatar (user : User) (config : Config) (guild : Option GuildId)
    (member : Option Member) : String :=
  match guild, member.bind (·.avatar) with
  | some guild, some hash =>
    Cdn.memberAvatarUrl config.cdnBase guild user.id hash config.avatarSize
  | _, _ => Cdn.avatarUrl config.cdnBase user.id user.avatar config.avatarSize

/-- Renders the tooltip of a user, in a guild or outside of one. -/
def User.renderTooltip (user : User) (guild : Option GuildId) (config : Config)
    (store : Option Store) : Rendered :=
  let scene : Scene := { config, store }
  scene.compose fun c =>
    let member : Option Member := do (← store).member (← guild) user.id
    let c := match guild, member with
      | some guild, none => c.request scene (.member guild user.id)
      | _, _ => c
    let name := (member.map (·.displayName)).getD user.displayName
    let c := c.profile config user name (user.tooltipAvatar config guild member)
    match guild, member, store with
    | some guild, some member, some store => (store.memberRoles guild member).foldl (·.roleLine) c
    | _, _, _ => c

end RichChat

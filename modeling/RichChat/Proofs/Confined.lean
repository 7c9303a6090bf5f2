import Mathlib
import RichChat.Proofs.Telling

/-!
# What a rendering looks at

A rendering asks the store about what is mentioned in the text, and about nothing else. So two
stores that give the same answers for the mentions of a message and for the roles of the members
among them (`Store.Agree`) give the same text and the same requests (`Message.render_congr`).

Only a mention looks at the store (`visitor_in_congr`), so that trees need agreement on the mentions
in them. A nested rendering that is too deep has no mentions, at whatever depth it is, since the
depth of a canvas is at least 0.
-/

namespace RichChat

namespace Store

/-- Whether two stores give the same answers for a mention in a guild. Of a member this includes the
roles that the member has. -/
def Agree (guild : Option GuildId) (s t : Store) : Reference → Prop
  | .user id =>
    s.user id = t.user id ∧ ∀ g ∈ guild, s.member g id = t.member g id ∧
      ∀ member ∈ s.member g id, ∀ role ∈ member.roles, s.role g role = t.role g role
  | .role id => ∀ g ∈ guild, s.role g id = t.role g id
  | .channel id => s.channel id = t.channel id

/-- The color of a member is that of a role that the member has. -/
theorem memberColor_congr {s t : Store} {guild : GuildId} {member : Member}
    (h : ∀ role ∈ member.roles, s.role guild role = t.role guild role) :
    s.memberColor guild member = t.memberColor guild member := by
  have hroles : s.knownRoles guild member = t.knownRoles guild member := List.filterMap_congr h
  rw [memberColor, memberColor, hroles]

end Store

/-- The scene with a store in place of the one that it may have. -/
def Scene.over (scene : Scene) (store : Store) : Scene := { scene with store := some store }

section Over

variable (scene : Scene) (store : Store)

@[simp] theorem Scene.over_config : (scene.over store).config = scene.config := rfl

@[simp] theorem Scene.over_guild : (scene.over store).guild = scene.guild := rfl

@[simp] theorem Scene.over_store : (scene.over store).store = some store := rfl

end Over

namespace Store.Agree

variable {scene : Scene} {s t : Store}

theorem member? {id : UserId} (h : Agree scene.guild s t (.user id)) :
    (scene.over s).member? id = (scene.over t).member? id := by
  unfold Scene.member?
  cases hg : scene.guild with
  | none => simp [hg]
  | some guild => simpa [hg] using (h.2 guild hg).1

theorem memberData {id : UserId} {member : Member} (h : Agree scene.guild s t (.user id))
    (hm : (scene.over s).member? id = some member) :
    (scene.over s).memberData id member = (scene.over t).memberData id member := by
  unfold Scene.memberData
  cases hg : scene.guild with
  | none => simp [hg]
  | some guild =>
    have hmember : s.member guild id = some member := by simpa [Scene.member?, hg] using hm
    have hcolor := memberColor_congr ((h.2 guild hg).2 member hmember)
    simp [hg, hcolor]

/-- A mention asks only about what it mentions. -/
theorem mention {target : Reference} (h : Agree scene.guild s t target) (c : Canvas) :
    c.mention (scene.over s) target = c.mention (scene.over t) target := by
  cases target with
  | user id =>
    have huser : (scene.over s).user? id = (scene.over t).user? id :=
      congrArg (Option.or _) h.1
    show c.mentionUser _ id none = c.mentionUser _ id none
    unfold Canvas.mentionUser
    rw [h.member?, huser]
    cases hm : (scene.over t).member? id with
    | none => rfl
    | some member =>
      dsimp only
      rw [h.memberData (h.member?.trans hm)]
      rfl
  | role id =>
    show c.mentionRole _ id = c.mentionRole _ id
    unfold Canvas.mentionRole
    rw [Scene.over_guild, Scene.over_guild]
    cases hg : scene.guild with
    | none => rfl
    | some guild =>
      simp only [Scene.over_store, Option.bind_some, h guild hg]
      rfl
  | channel id =>
    have hchannel : s.channel id = t.channel id := h
    show c.mentionChannel _ id = c.mentionChannel _ id
    unfold Canvas.mentionChannel
    simp only [Scene.over_store, Option.bind_some, hchannel]
    rfl

end Store.Agree

section Tree

variable (scene : Scene) {s t : Store}

theorem visitor_in_congr {kind : NodeKind}
    (h : ∀ target ∈ kind.mentions, Store.Agree scene.guild s t target) (children : List Node)
    (parent next : Option Node) (c : Canvas) :
    Registry.builtin.visitor (scene.over s)
        { node := .mk kind children, entering := true, parent, next } c
      = Registry.builtin.visitor (scene.over t)
        { node := .mk kind children, entering := true, parent, next } c := by
  cases kind with
  | mention target => exact congrArg (Prod.mk _) ((h target (.head _)).mention c)
  | _ => rfl

theorem visitor_out_congr (node : Node) (parent next : Option Node) (c : Canvas) :
    Registry.builtin.visitor (scene.over s) { node, entering := false, parent, next } c
      = Registry.builtin.visitor (scene.over t) { node, entering := false, parent, next } c := by
  obtain ⟨kind, children⟩ := node
  cases kind <;> rfl

mutual

theorem walkNode_congr (parent next : Option Node) : ∀ (node : Node) (c : Canvas),
    (∀ target ∈ node.mentions, Store.Agree scene.guild s t target) →
      walkNode (Registry.builtin.visitor (scene.over s)) parent next node c
        = walkNode (Registry.builtin.visitor (scene.over t)) parent next node c
  | .mk kind children, c, h => by
    rw [Node.mentions, List.forall_mem_append] at h
    have hflow := flow_visitor (scene.over t) kind children parent next c
    rw [walkNode, walkNode, visitor_in_congr scene h.1]
    rcases hv : Registry.builtin.visitor (scene.over t)
      { node := .mk kind children, entering := true, parent, next } c with ⟨flow, d⟩
    rw [hv] at hflow
    obtain rfl : flow = _ := hflow
    cases hatom : kind.isAtom with
    | true => exact congrArg Prod.snd (visitor_out_congr scene _ _ _ d)
    | false =>
      rw [hatom] at h
      dsimp only
      rw [if_neg (by simp), walkAll_congr (.mk kind children) children d h.2,
        visitor_out_congr scene]

theorem walkAll_congr (parent : Node) : ∀ (nodes : List Node) (c : Canvas),
    (∀ target ∈ Node.mentionsAll nodes, Store.Agree scene.guild s t target) →
      walkAll (Registry.builtin.visitor (scene.over s)) parent nodes c
        = walkAll (Registry.builtin.visitor (scene.over t)) parent nodes c
  | [], c, _ => by rw [walkAll, walkAll]
  | node :: nodes, c, h => by
    rw [Node.mentionsAll, List.forall_mem_append] at h
    rw [walkAll, walkAll, walkNode_congr (some parent) nodes.head? node c h.1,
      walkAll_congr parent nodes _ h.2]

end

namespace Canvas

theorem draw_congr {node : Node}
    (h : ∀ target ∈ node.mentions, Store.Agree scene.guild s t target) (c : Canvas) :
    c.draw .builtin (scene.over s) node = c.draw .builtin (scene.over t) node := by
  rw [draw, draw, walk_eq_walkNode, walk_eq_walkNode, walkNode_congr scene none none node c h]

theorem nested_congr {source : String}
    (h : ¬scene.config.maxDepth ≤ 1 →
      ∀ target ∈ (Node.ofSource source).mentions, Store.Agree scene.guild s t target)
    (c : Canvas) :
    c.nested .builtin (scene.over s) source = c.nested .builtin (scene.over t) source := by
  unfold nested
  rw [scene.over_config, scene.over_config]
  split
  · rfl
  · dsimp only
    rw [draw_congr scene (h (by omega))]

theorem embed_over {embed : Embed}
    (h : ¬scene.config.maxDepth ≤ 1 →
      ∀ target ∈ embed.mentions, Store.Agree scene.guild s t target) (c : Canvas) :
    c.embed .builtin (scene.over s) embed = c.embed .builtin (scene.over t) embed := by
  have hdescription (c : Canvas) :
      c.drawSome (embed.description.filter fun text => !text.isEmpty)
          (fun c text => c.ensureBreak.nested .builtin (scene.over s) text)
        = c.drawSome (embed.description.filter fun text => !text.isEmpty)
          (fun c text => c.ensureBreak.nested .builtin (scene.over t) text) := by
    unfold Embed.mentions at h
    cases hd : embed.description with
    | none => rfl
    | some text =>
      rw [hd] at h
      rw [Option.filter_some]
      split
      · exact nested_congr scene h _
      · rfl
  unfold Canvas.embed
  dsimp only
  rw [hdescription]
  rfl

end Canvas

end Tree

/-- What a message is rendered to depends on the store only in its answers for the mentions in the
body and in the descriptions that are drawn. -/
theorem Message.render_congr (message : Message) (config : Config) {s t : Store}
    (h : ∀ target ∈ message.drawnMentions config, Store.Agree message.guild s t target) :
    message.render config (some s) = message.render config (some t) := by
  let scene : Scene := { config, message := some message }
  rw [drawnMentions, List.forall_mem_append] at h
  have hbody (c : Canvas) : c.document .builtin (scene.over s) (.ofSource message.content)
      = c.document .builtin (scene.over t) (.ofSource message.content) :=
    Canvas.draw_congr scene h.1 _
  have hembeds (c : Canvas) : message.embeds.foldl (·.embed .builtin (scene.over s)) c
      = message.embeds.foldl (·.embed .builtin (scene.over t)) c := by
    refine List.foldl_ext _ _ _ fun c embed hembed => Canvas.embed_over scene (fun hdepth => ?_) c
    have hdescriptions := h.2
    rw [if_neg hdepth] at hdescriptions
    exact fun target htarget =>
      hdescriptions target (List.mem_flatMap.2 ⟨embed, hembed, htarget⟩)
  have hrender (store : Store) : message.render config (some store)
      = (scene.over store).compose fun c =>
        (message.embeds.foldl (·.embed .builtin (scene.over store))
          (c.document .builtin (scene.over store) (.ofSource message.content))).attachments config
            message.attachments := rfl
  rw [hrender, hrender]
  simp only [hbody, hembeds]
  rfl

/-- A role of the member and the channel are not known, which both stores agree on. What else they
know of users, of roles and of the members of another guild makes no difference. -/
theorem Message.render_congr_strangers :
    let ada : User := { id := ⟨7⟩, username := "ada" }
    let bob : User := { id := ⟨8⟩, username := "bob" }
    let message : Message :=
      { id := ⟨1⟩, channel := ⟨2⟩, guild := some ⟨3⟩, author := bob, content := "hi <@7> <#2>",
        embeds := [{ description := some "by <@&4>" }] }
    let s := (Store.insertMember {} ⟨3⟩ { user := ada, roles := [⟨4⟩, ⟨5⟩] }).insertRole ⟨3⟩
      { id := ⟨4⟩, name := "r", color := 255 }
    let t := ((s.insertMember ⟨9⟩ { user := ada, nick := some "x" }).insertRole ⟨9⟩
      { id := ⟨5⟩, name := "q" }).insertUser bob
    (∀ target ∈ message.drawnMentions {}, Store.Agree message.guild s t target) ∧
      s.user ⟨8⟩ ≠ t.user ⟨8⟩ ∧ s.member ⟨9⟩ ⟨7⟩ ≠ t.member ⟨9⟩ ⟨7⟩ ∧
      message.render {} (some s) = message.render {} (some t) := by
  intro ada bob message s t
  have hdrawn : message.drawnMentions {} = [.user ⟨7⟩, .channel ⟨2⟩, .role ⟨4⟩] := by cbv
  have h : ∀ target ∈ message.drawnMentions {}, Store.Agree message.guild s t target := by
    rw [hdrawn]
    simp only [List.forall_mem_cons, List.not_mem_nil, false_implies, implies_true, and_true]
    refine ⟨⟨rfl, ?_⟩, rfl, ?_⟩
    · rintro guild hguild
      obtain rfl := Option.mem_some.1 hguild
      refine ⟨rfl, ?_⟩
      rintro member hmember role hrole
      obtain rfl := Option.mem_some.1 hmember
      rw [List.mem_pair] at hrole
      rcases hrole with rfl | rfl <;> rfl
    · rintro guild hguild
      obtain rfl := Option.mem_some.1 hguild
      rfl
  exact ⟨h, by decide, by decide, message.render_congr {} h⟩

end RichChat

import RichChat.Proofs.Balance
import RichChat.Proofs.Telling

/-!
# What mentions become

A mention is drawn as a segment of its own, with the data that is known of its entity
(`Scene.data?`). The mention segments of a message are those of the mentions in its content and in
the descriptions of its embeds, in this order (`Message.mentioned_render`).
-/

namespace RichChat

/-- The data of a segment that is a mention. -/
def Segment.mention? (s : Segment) : Option Mention :=
  match s.kind with
  | .mention m => some m
  | _ => none

theorem Segment.mention?_eq_some {s : Segment} {m : Mention} :
    s.mention? = some m ↔ s.kind = .mention m := by
  unfold mention?
  split <;> simp_all

theorem Segment.mention?_eq_none {s : Segment} (h : s.kind.NoMention) : s.mention? = none := by
  unfold mention?
  split
  · rename_i m hm
    exact absurd hm (h m)
  · rfl

/-- The mentions in a text, in the order in which they are listed. -/
def RichText.mentions (t : RichText) : List Mention := t.segments.filterMap Segment.mention?

namespace Scene

/-- How a mentioned entity is shown, if it is known. Of a user `known` may tell more than the
message and the store. -/
def data? (scene : Scene) (known : Option User) : Reference → Option MentionData
  | .user id =>
    match scene.member? id with
    | some member => some (scene.memberData id member)
    | none => (known.or (scene.user? id)).map (scene.userData id)
  | .role id => do
    let role ← scene.store.bind (·.role (← scene.guild) id)
    return ⟨role.name, if role.color = 0 then none else some (Rgba.ofRgb role.color), none⟩
  | .channel id => do
    let channel ← scene.store.bind (·.channel id)
    return ⟨channel.name, none, none⟩

theorem data?_of_member {scene : Scene} {id : UserId} {member : Member}
    (h : scene.member? id = some member) (known : Option User) :
    scene.data? known (.user id) = some (scene.memberData id member) := by
  simp [data?, h]

theorem data?_of_no_member {scene : Scene} {id : UserId} (h : scene.member? id = none)
    (known : Option User) :
    scene.data? known (.user id) = (known.or (scene.user? id)).map (scene.userData id) := by
  simp [data?, h]

/-- The segment data of a mention. -/
def mentionOf (scene : Scene) (known : Option User) (target : Reference) : Mention :=
  ⟨target.kind, target.number, scene.guild, scene.data? known target⟩

end Scene

namespace Canvas

/-- Writes a mention of an entity that may have been found. -/
def writeMention (c : Canvas) (scene : Scene) (target : Reference) : Option MentionData → Canvas
  | some data => c.writeResolved scene target data
  | none => c.writeUnresolved scene target

/-- A mention of a user is written as the user is known, perhaps after a request. -/
theorem mentionUser_eq (c : Canvas) (scene : Scene) (id : UserId) (known : Option User) :
    ∃ d, (d = c ∨ ∃ r, d = c.request scene r) ∧
      c.mentionUser scene id known = d.writeMention scene (.user id) (scene.data? known (.user id))
      := by
  unfold mentionUser
  cases hm : scene.member? id with
  | some member => exact ⟨c, .inl rfl, by rw [Scene.data?_of_member hm]; rfl⟩
  | none =>
    rw [Scene.data?_of_no_member hm]
    have hasked : ∀ user, c.requestUser scene id user = c ∨
        ∃ r, c.requestUser scene id user = c.request scene r := by
      intro user
      unfold requestUser
      split
      · exact .inr ⟨_, rfl⟩
      · exact .inr ⟨_, rfl⟩
      · exact .inl rfl
    refine ⟨_, hasked (known.or (scene.user? id)), ?_⟩
    cases hu : known.or (scene.user? id) <;> rfl

/-- A mention is written as it is known, perhaps after its entity has been asked for. -/
theorem mention_eq (c : Canvas) (scene : Scene) (target : Reference) :
    ∃ d, (d = c ∨ ∃ r, d = c.request scene r) ∧
      c.mention scene target = d.writeMention scene target (scene.data? none target) := by
  cases target with
  | user id => exact c.mentionUser_eq scene id none
  | role id =>
    show ∃ d, _ ∧ c.mentionRole scene id = _
    unfold mentionRole Scene.data?
    cases hg : scene.guild with
    | none => exact ⟨c, .inl rfl, by simp [writeMention]⟩
    | some guild =>
      cases hr : scene.store.bind (·.role guild id) with
      | none => exact ⟨_, .inr ⟨.role guild id, rfl⟩, by simp [hr, writeMention]⟩
      | some role => exact ⟨c, .inl rfl, by simp [hr, writeMention]⟩
  | channel id =>
    show ∃ d, _ ∧ c.mentionChannel scene id = _
    unfold mentionChannel Scene.data?
    cases hc : scene.store.bind (·.channel id) with
    | none => exact ⟨_, .inr ⟨.channel id, rfl⟩, by simp [hc, writeMention]⟩
    | some channel => exact ⟨c, .inl rfl, by simp [hc, writeMention]⟩

namespace Stable

variable {ok : SegmentKind → Prop} {Q : Canvas → Prop} {c : Canvas} {scene : Scene}

theorem writeMention (hQ : Stable ok Q) (hok : SegmentKind.AllowsMention scene.config ok) (h : Q c)
    (target : Reference) (data : Option MentionData) : Q (c.writeMention scene target data) := by
  cases data with
  | some data => exact hQ.writeResolved hok h target data
  | none => exact hQ.writeUnresolved hok.mention h scene target

theorem request (hnote : ∀ {c} requested, Q c → Q { c with requested }) (h : Q c)
    (r : FetchRequest) : Q (c.request scene r) := by
  unfold Canvas.request
  split
  · exact hnote _ h
  · exact h

/-- Mentions ask the store as well. -/
theorem mentionUser (hQ : Stable ok Q) (hok : SegmentKind.AllowsMention scene.config ok)
    (hnote : ∀ {c} requested, Q c → Q { c with requested }) (h : Q c) (id : UserId)
    (known : Option User) : Q (c.mentionUser scene id known) := by
  obtain ⟨d, hd, heq⟩ := c.mentionUser_eq scene id known
  rw [heq]
  rcases hd with rfl | ⟨r, rfl⟩
  · exact hQ.writeMention hok h _ _
  · exact hQ.writeMention hok (request hnote h r) _ _

theorem mention (hQ : Stable ok Q) (hok : SegmentKind.AllowsMention scene.config ok)
    (hnote : ∀ {c} requested, Q c → Q { c with requested }) (h : Q c) (target : Reference) :
    Q (c.mention scene target) := by
  obtain ⟨d, hd, heq⟩ := c.mention_eq scene target
  rw [heq]
  rcases hd with rfl | ⟨r, rfl⟩
  · exact hQ.writeMention hok h _ _
  · exact hQ.writeMention hok (request hnote h r) _ _

/-- A tooltip is a profile with a line for each role. -/
theorem tooltip {config : Config} (hQ : Stable ok Q) (hok : SegmentKind.Allows config ok)
    (hnote : ∀ {c} requested, Q c → Q { c with requested }) (h : Q (.fresh config)) (user : User)
    (guild : Option GuildId) (store : Option Store) :
    ∃ draw, user.renderTooltip guild config store = Scene.compose { config, store } draw ∧
      Q (draw (.fresh config)) := by
  unfold User.renderTooltip
  dsimp only
  refine ⟨_, rfl, ?_⟩
  split
  · refine foldl (hQ.profile hok.avatar ?_ user _ _) _ fun role hc => hQ.roleLine hok.color hc role
    split
    · exact request hnote h _
    · exact h
  · refine hQ.profile hok.avatar ?_ user _ _
    split
    · exact request hnote h _
    · exact h

end Stable

def mentioned (c : Canvas) : List Mention := c.segments.filterMap Segment.mention?

/-- A run is nothing to those who look for segments of other kinds. -/
theorem filterMap_addRun {α : Type} {f : Segment → Option α}
    (hf : ∀ start stop a, f ⟨start, stop, .styled a⟩ = none) (segments : List Segment) (r : Runs)
    (a : Attribute) (n : Nat) :
    (addRun segments (r.region a n)).filterMap f = segments.filterMap f := by
  have hstyled {s : Segment} (h : s.kind = .styled a) : f s = none := by
    obtain ⟨start, stop, kind⟩ := s
    obtain rfl : kind = _ := h
    exact hf start stop a
  rcases region_cases r a n with ⟨heq, -⟩ | ⟨heq, -, -⟩ <;> rw [heq]
  · rfl
  · rcases addRun_cases segments ⟨r.start, n, .styled a⟩ with h | ⟨front, last, rfl, hk, -, h⟩ <;>
      rw [h]
    · simp [hstyled]
    · simp [hstyled, hk]

theorem filter_addRun {p : Segment → Bool}
    (hp : ∀ start stop a, p ⟨start, stop, .styled a⟩ = false) (segments : List Segment) (r : Runs)
    (a : Attribute) (n : Nat) :
    (addRun segments (r.region a n)).filter p = segments.filter p := by
  rw [← List.filterMap_eq_filter]
  exact filterMap_addRun (fun start stop b => by simp [Option.guard, hp start stop b]) _ _ _ _

theorem stable_mentioned (ms : List Mention) :
    Stable SegmentKind.NoMention fun c => c.mentioned = ms where
  flush {c} h := by
    rcases c.flush_cases with ⟨-, heq⟩ | ⟨-, heq⟩ <;> rw [heq]
    · exact h
    · exact (filterMap_addRun (fun _ _ _ => rfl) _ _ _ _).trans h
  append _ h := h
  change {c} counts h := by
    rcases c.change_cases counts with ⟨-, heq⟩ | ⟨-, heq⟩ <;> rw [heq]
    · exact h
    · exact (filterMap_addRun (fun _ _ _ => rfl) _ _ _ _).trans h
  push hk _ h := by simpa [mentioned, push, Segment.mention?_eq_none hk] using h
  frame _ _ _ _ h := h

section Mention

variable {c : Canvas} {ms : List Mention}

theorem mentioned_emit (h : c.mentioned = ms) (range : Nat × Nat) (m : Mention) :
    (c.emit range (.mention m)).mentioned = ms ++ [m] := by
  simpa [mentioned, emit, push, Segment.mention?] using h

theorem mentioned_request (c : Canvas) (scene : Scene) (r : FetchRequest) :
    (c.request scene r).mentioned = c.mentioned := by
  unfold request
  split <;> rfl

theorem mentioned_writeResolved (h : c.mentioned = ms) (scene : Scene) (target : Reference)
    (data : MentionData) :
    (c.writeResolved scene target data).mentioned
      = ms ++ [⟨target.kind, target.number, scene.guild, some data⟩] := by
  have stable := stable_mentioned ms
  have allows := SegmentKind.Allows.noMention scene.config
  have hput := stable.put (stable.mentionAvatar allows.avatar h target data)
    (target.sigil ++ data.name)
  have hstop := (c.mentionAvatar scene.config target data).write_stop (target.sigil ++ data.name)
  unfold writeResolved
  dsimp only
  split
  · exact mentioned_emit (stable.emit hput hstop (allows.color _)) _ _
  · exact mentioned_emit hput _ _

theorem mentioned_writeUnresolved (h : c.mentioned = ms) (scene : Scene) (target : Reference) :
    (c.writeUnresolved scene target).mentioned
      = ms ++ [⟨target.kind, target.number, scene.guild, none⟩] :=
  mentioned_emit ((stable_mentioned ms).put h _) _ _

theorem mentioned_mention (h : c.mentioned = ms) (scene : Scene) (target : Reference) :
    (c.mention scene target).mentioned = ms ++ [scene.mentionOf none target] := by
  obtain ⟨d, hd, heq⟩ := c.mention_eq scene target
  have hkept : d.mentioned = ms := by
    rcases hd with rfl | ⟨r, rfl⟩
    · exact h
    · exact (mentioned_request c scene r).trans h
  rw [heq, Scene.mentionOf]
  cases scene.data? none target with
  | some data => exact mentioned_writeResolved hkept scene target data
  | none => exact mentioned_writeUnresolved hkept scene target

end Mention

/-- A canvas of a depth whose mentions are those of a list. -/
def Names (scene : Scene) (depth : Nat) (targets : List Reference) (c : Canvas) : Prop :=
  c.depth = depth ∧ c.mentioned = targets.map (scene.mentionOf none)

theorem stable_depth (depth : Nat) : Stable (fun _ => True) fun c => c.depth = depth where
  flush h := (flush_depth _).trans h
  append _ h := h
  change {c} counts h := by
    rcases c.change_cases counts with ⟨-, heq⟩ | ⟨-, heq⟩ <;> rw [heq] <;> exact h
  push _ _ h := h
  frame _ _ _ _ h := h

theorem depth_mention (c : Canvas) (scene : Scene) (target : Reference) :
    (c.mention scene target).depth = c.depth := by
  have kept : Kept fun d => d.depth = c.depth :=
    ⟨fun _ h => (flush_depth _).trans h, fun _ _ h => h, fun _ _ _ h => h, fun _ _ h => h⟩
  exact kept.mention rfl scene target

theorem telling_names (scene : Scene) (depth : Nat) : Telling scene (Names scene depth) where
  stable targets := ((stable_depth depth).mono fun _ _ => trivial).and (stable_mentioned _)
  mention {targets c} target h := by
    refine ⟨(c.depth_mention scene target).trans h.1, ?_⟩
    rw [List.map_append]
    exact mentioned_mention h.2 scene target
  resize _ h := h

theorem tellingNested_names (scene : Scene) (depth : Nat) :
    TellingNested scene depth (Names scene depth) where
  stable := (telling_names scene depth).stable
  mention := (telling_names scene depth).mention
  resize := (telling_names scene depth).resize
  nested {targets c} source h := by
    obtain ⟨hdepth, hmentioned⟩ := h
    unfold Canvas.nested
    rw [hdepth]
    split
    · rw [List.append_nil]
      exact ((telling_names scene depth).stable targets).put ⟨hdepth, hmentioned⟩ source
    · let child := c.flush.splitRun.child scene.config
      have hchild : Names scene (c.flush.splitRun.depth + 1) [] child := ⟨rfl, rfl⟩
      have hdraw := (telling_names scene _).draw hchild (.ofSource source)
      have hinner := (((telling_names scene _).stable _).finish nofun hdraw).2
      rw [List.nil_append] at hinner
      have hflush := (stable_mentioned _).flush hmentioned
      rw [adopt_eq]
      refine ⟨(flush_depth c).trans hdepth, ?_⟩
      rw [mentioned, List.filterMap_append, filterMap_addRun fun _ _ _ => rfl, List.map_append]
      exact congr (congrArg _ hflush) hinner

end Canvas

/-- The mentions of a rendered message are those that are drawn of it, as its scene has them. -/
theorem Message.mentioned_render (message : Message) (config : Config) (store : Option Store) :
    (message.render config store).text.mentions
      = (message.drawnMentions config).map
          (Scene.mentionOf { config, message := some message, store } none) := by
  have hfresh : Canvas.Names { config, message := some message, store } 0 []
      (Canvas.fresh config) := ⟨rfl, rfl⟩
  have hparts := (Canvas.tellingNested_names _ 0).parts message hfresh
  exact (((Canvas.telling_names _ 0).stable _).finish nofun hparts).2

end RichChat

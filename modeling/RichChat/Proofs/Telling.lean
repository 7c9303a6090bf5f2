import RichChat.Proofs.Closing
import RichChat.Proofs.Stable
import RichChat.Proofs.Visits
import RichChat.Proofs.Wanted

/-!
# What is told of trees

A family of properties of canvases, one for each list, may tell what has been drawn: if the visit of
a node takes it to the list with what there is to tell of the node (`Tells`), then a tree takes it to
the list with what there is to tell of the nodes that are drawn (`Tells.draw`).

Most families tell of mentions: what was asked of the store for them, or which segments they have
become. If nothing but a mention matters to such a family, and each mention takes it to the list with
one more (`Telling`), then a tree takes it to the list with the mentions of the tree. Where it is also
known what a nested rendering does (`TellingNested`), the same holds of messages
(`TellingNested.parts`).
-/

namespace RichChat

/-- The mentions of an embed are those of its description. -/
def Embed.mentions (embed : Embed) : List Reference :=
  match embed.description with
  | some text => (Node.ofSource text).mentions
  | none => []

/-- A description is drawn if it has text. -/
theorem Embed.description_cases (embed : Embed) :
    (embed.description.filter fun text => !text.isEmpty) = none ∧
        (embed.description = none ∨ embed.description = some "") ∨
      ∃ text, (embed.description.filter fun text => !text.isEmpty) = some text ∧
        embed.description = some text := by
  cases hd : embed.description with
  | none => exact .inl ⟨rfl, .inl rfl⟩
  | some text =>
    by_cases ht : text = ""
    · exact .inl ⟨by rw [ht]; rfl, .inr (by rw [ht])⟩
    · exact .inr ⟨text, by simp [ht], rfl⟩

/-- The mentions that are drawn of a message. Descriptions that are too deep are not drawn. -/
def Message.drawnMentions (message : Message) (config : Config) : List Reference :=
  (Node.ofSource message.content).mentions ++
    if config.maxDepth ≤ 1 then [] else message.embeds.flatMap Embed.mentions

theorem flow_visitor (scene : Scene) (kind : NodeKind) (children : List Node)
    (parent next : Option Node) (c : Canvas) :
    (Registry.builtin.visitor scene
        { node := .mk kind children, entering := true, parent, next } c).1
      = if kind.isAtom then .skipChildren else .proceed := by
  cases kind <;> rfl

namespace Node

variable {α : Type} (told : NodeKind → List α)

mutual

/-- What there is to tell of the nodes that are drawn of a tree, from left to right. -/
def collect : Node → List α
  | mk kind children => told kind ++ if kind.isAtom then [] else collectAll children

def collectAll : List Node → List α
  | [] => []
  | node :: nodes => node.collect ++ collectAll nodes

end

mutual

theorem mentions_eq_collect : ∀ node : Node, node.mentions = node.collect NodeKind.mentions
  | mk kind children => by rw [mentions, collect, mentionsAll_eq_collectAll children]

theorem mentionsAll_eq_collectAll :
    ∀ nodes : List Node, mentionsAll nodes = collectAll NodeKind.mentions nodes
  | [] => rfl
  | node :: nodes => by
    rw [mentionsAll, collectAll, mentions_eq_collect node, mentionsAll_eq_collectAll nodes]

end

end Node

/-- What there is to tell at a visit: something of each node on the way into it. -/
def Visit.told {α : Type} (told : NodeKind → List α) (visit : Visit) : List α :=
  if visit.entering then told visit.node.kind else []

section Visits

variable {α : Type} (told : NodeKind → List α) (scene : Scene)

mutual

/-- The nodes of a tree that are drawn are those that are visited. -/
theorem told_visitsNode (parent next : Option Node) : ∀ (node : Node) (c : Canvas),
    (visitsNode (Registry.builtin.visitor scene) parent next node c).flatMap (Visit.told told)
      = node.collect told
  | .mk kind children, c => by
    have hflow := flow_visitor scene kind children parent next c
    rw [visitsNode, Node.collect]
    rcases hv : Registry.builtin.visitor scene
      { node := .mk kind children, entering := true, parent, next } c with ⟨flow, d⟩
    rw [hv] at hflow
    obtain rfl : flow = _ := hflow
    have hin : Visit.told told { node := .mk kind children, entering := true, parent, next }
        = told kind := if_pos rfl
    have hout (visit : Visit) : Visit.told told visit.back = [] := if_neg nofun
    cases kind.isAtom with
    | false => simp [hin, hout, told_visitsAll (.mk kind children) children d]
    | true => simp [hin, hout]

theorem told_visitsAll (parent : Node) : ∀ (nodes : List Node) (c : Canvas),
    (visitsAll (Registry.builtin.visitor scene) parent nodes c).flatMap (Visit.told told)
      = Node.collectAll told nodes
  | [], c => rfl
  | node :: nodes, c => by
    rw [visitsAll, Node.collectAll, List.flatMap_append, told_visitsNode, told_visitsAll]

end

end Visits

/-- The visits that are made of a tree when it is rendered. -/
def Scene.visits (scene : Scene) (node : Node) : List Visit :=
  visitsNode (Registry.builtin.visitor scene) none none node
    ((Canvas.fresh scene.config).sizeEmoji scene.config node)

theorem Scene.told_visits {α : Type} (told : NodeKind → List α) (scene : Scene) (node : Node) :
    (scene.visits node).flatMap (Visit.told told) = node.collect told :=
  told_visitsNode told scene none none node _

/-- A family of properties that tells something of each node on the way into it. -/
structure Tells (scene : Scene) {α : Type} (told : NodeKind → List α)
    (P : List α → Canvas → Prop) : Prop where
  enter : ∀ {xs c} kind children parent next, P xs c → P (xs ++ told kind)
    (Registry.builtin.visitor scene { node := .mk kind children, entering := true, parent, next } c).2
  leave : ∀ {xs c} node parent next, P xs c →
    P xs (Registry.builtin.visitor scene { node, entering := false, parent, next } c).2

namespace Tells

variable {scene : Scene} {α : Type} {told : NodeKind → List α} {P : List α → Canvas → Prop}

mutual

/-- A walk tells of the nodes of the tree. -/
theorem walkNode (hP : Tells scene told P) (parent next : Option Node) :
    ∀ (node : Node) {xs : List α} {c : Canvas}, P xs c →
      P (xs ++ node.collect told) (walkNode (Registry.builtin.visitor scene) parent next node c)
  | .mk kind children, xs, c, h => by
    have hin := hP.enter kind children parent next h
    have hflow := flow_visitor scene kind children parent next c
    rw [RichChat.walkNode, Node.collect, ← List.append_assoc]
    rcases hv : Registry.builtin.visitor scene
      { node := .mk kind children, entering := true, parent, next } c with ⟨flow, d⟩
    rw [hv] at hin hflow
    obtain rfl : flow = _ := hflow
    cases kind.isAtom with
    | false => exact hP.leave _ _ _ (hP.walkAll (.mk kind children) children hin)
    | true =>
      rw [if_pos rfl, List.append_nil]
      exact hP.leave _ _ _ hin

theorem walkAll (hP : Tells scene told P) (parent : Node) :
    ∀ (nodes : List Node) {xs : List α} {c : Canvas}, P xs c →
      P (xs ++ Node.collectAll told nodes)
        (walkAll (Registry.builtin.visitor scene) parent nodes c)
  | [], xs, c, h => by
    rw [RichChat.walkAll, Node.collectAll, List.append_nil]
    exact h
  | node :: nodes, xs, c, h => by
    rw [RichChat.walkAll, Node.collectAll, ← List.append_assoc]
    exact hP.walkAll parent nodes (hP.walkNode _ _ node h)

end

theorem draw (hP : Tells scene told P) {xs : List α} {c : Canvas} (h : P xs c) (node : Node) :
    P (xs ++ node.collect told) (c.draw .builtin scene node) := by
  rw [Canvas.draw, walk_eq_walkNode]
  exact hP.walkNode none none node h

end Tells

/-- A family of properties that tells of mentions, and of nothing else. -/
structure Telling (scene : Scene) (P : List Reference → Canvas → Prop) : Prop where
  stable : ∀ targets, Canvas.Stable SegmentKind.NoMention (P targets)
  mention : ∀ {targets c} target, P targets c → P (targets ++ [target]) (c.mention scene target)
  resize : ∀ {targets c} emojiSize, P targets c → P targets { c with emojiSize }

namespace Telling

variable {scene : Scene} {P : List Reference → Canvas → Prop} {targets : List Reference}

theorem tells (hP : Telling scene P) : Tells scene NodeKind.mentions P where
  enter {targets c} kind children parent next h := by
    by_cases hm : kind.tag = .mention
    · cases kind with
      | mention target => exact hP.mention target h
      | _ => cases hm
    · have hnone : kind.mentions = [] := by
        cases kind with
        | mention _ => exact absurd rfl hm
        | _ => rfl
      rw [hnone, List.append_nil]
      exact (hP.stable targets).visitor (.noMention _) _ (fun _ => hm) (fun _ _ _ => nofun) h
  leave {targets c} node parent next h :=
    (hP.stable targets).visitor (.noMention _) _ nofun nofun h

variable {c : Canvas}

theorem draw (hP : Telling scene P) (h : P targets c) (node : Node) :
    P (targets ++ node.mentions) (c.draw .builtin scene node) := by
  rw [node.mentions_eq_collect]
  exact hP.tells.draw h node

theorem document (hP : Telling scene P) (h : P targets c) (node : Node) :
    P (targets ++ node.mentions) (c.document .builtin scene node) := by
  obtain ⟨emojiSize, hsize⟩ := c.sizeEmoji_eq scene.config node
  rw [Canvas.document, hsize]
  exact hP.draw (hP.resize emojiSize h) node

end Telling

/-- A family that also tells of nested renderings on canvases of a depth. They have the mentions of
their text unless they are too deep. -/
structure TellingNested (scene : Scene) (depth : Nat) (P : List Reference → Canvas → Prop) : Prop
    extends Telling scene P where
  nested : ∀ {targets c} source, P targets c →
    P (targets ++ if scene.config.maxDepth ≤ depth + 1 then [] else (Node.ofSource source).mentions)
      (c.nested .builtin scene source)

namespace TellingNested

variable {scene : Scene} {depth : Nat} {P : List Reference → Canvas → Prop}
  {targets : List Reference} {c : Canvas}

theorem embed (hP : TellingNested scene depth P) (h : P targets c) (embed : Embed) :
    P (targets ++ if scene.config.maxDepth ≤ depth + 1 then [] else embed.mentions)
      (c.embed .builtin scene embed) := by
  have stable := hP.stable
  have allows := SegmentKind.Allows.noMention scene.config
  refine Canvas.embed_keeps scene c (Q := P targets) ?_
    (fun author hc => (stable _).embedAuthor allows hc author)
    (fun title hc => (stable _).embedTitle allows hc _ title)
    (fun media _ _ hc => (stable _).placeMedia (fun _ => nofun) ((stable _).ensureBreak hc) _ _ _) ?_
    (fun field hc => (stable _).embedField hc field)
    (fun hc => (stable _).embedFooter allows ((stable _).ensureBreak hc) embed)
    (fun media _ _ hc => (stable _).placeMedia (fun _ => nofun) ((stable _).ensureBreak hc) _ _ _)
  · exact (stable _).embedLine allows h embed
  · intro c hc
    unfold Embed.mentions
    rcases embed.description_cases with ⟨hnone, hd⟩ | ⟨text, hsome, hd⟩
    · have hempty : (Node.ofSource "").mentions = [] := rfl
      rw [hnone]
      rcases hd with hd | hd <;> simpa [hd, hempty, Canvas.drawSome] using hc
    · rw [hsome, hd]
      exact hP.nested text ((stable _).ensureBreak hc)

theorem embeds (hP : TellingNested scene depth P) (embeds : List Embed) (h : P targets c) :
    P (targets ++
        if scene.config.maxDepth ≤ depth + 1 then [] else embeds.flatMap Embed.mentions)
      (embeds.foldl (·.embed .builtin scene) c) := by
  induction embeds generalizing c targets with
  | nil => simpa using h
  | cons embed embeds ih =>
    have := ih (hP.embed h embed)
    rw [List.foldl_cons, List.flatMap_cons]
    by_cases hdeep : scene.config.maxDepth ≤ depth + 1 <;> simpa [hdeep] using this

/-- A message has the mentions of its content and of its embeds. -/
theorem parts (hP : TellingNested scene 0 P) (message : Message) (h : P [] c) :
    P (message.drawnMentions scene.config)
      (((message.embeds.foldl (·.embed .builtin scene)
        (c.document .builtin scene (.ofSource message.content)))).attachments scene.config
          message.attachments) := by
  have hbody := hP.document h (.ofSource message.content)
  rw [List.nil_append] at hbody
  exact (hP.stable _).attachments (.noMention _) (fun _ => nofun) (hP.embeds message.embeds hbody) _

end TellingNested

end RichChat

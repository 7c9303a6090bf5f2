import RichChat.Proofs.AttributeParts
import RichChat.Proofs.Bounds
import RichChat.Proofs.MentionSegments
import RichChat.Proofs.Pictures
import RichChat.Proofs.Turns

/-!
# Texts of nothing but emoji

The count of a tree says what becomes of it (`Scene.emoji_renderNode`). If there is one, then the
tree has nothing but emoji and blanks, of which there are that many emoji
(`Node.emojiOnlyCount_eq_some_iff`), and its text is blank with one image for each of them
(`Canvas.Bare`). The images are large if the count is not too large. In all other trees the emoji
that are drawn have the common size, and of the tree of a text all emoji are drawn
(`Scene.images_renderSource`).
-/

namespace RichChat

def NodeKind.emojis : NodeKind → List CustomEmoji
  | .emoji e => [e]
  | _ => []

/-- Whether nodes of a kind may be in a tree of nothing but emoji. -/
def NodeKind.isBlankOrEmoji : NodeKind → Bool
  | .document | .paragraph | .emoji _ => true
  | .text s _ _ => (Text.trim s.toList).isEmpty
  | _ => false

def SegmentKind.isImage : SegmentKind → Bool
  | .image _ => true
  | _ => false

/-- Whether a segment is the image of an emoji in a size. -/
def Segment.ShowsEmoji (config : Config) (size : UInt32) (e : CustomEmoji) (s : Segment) : Prop :=
  s.start = s.stop ∧ s.kind = .image
    ⟨Cdn.emojiUrl config.cdnBase e.id e.animated size, size, size, ":" ++ e.name ++ ":"⟩

namespace Node

/-- A tree in which text and emoji have nothing below them. -/
def LeavesBare (node : Node) : Prop :=
  ∀ n ∈ node.preorder, n.tag = .text ∨ n.tag = .emoji → n.children = []

instance (node : Node) : Decidable node.LeavesBare :=
  inferInstanceAs (Decidable (∀ n ∈ node.preorder, _))

/-- All emoji of a tree, from left to right. -/
def emojis (node : Node) : List CustomEmoji := node.preorder.flatMap (·.kind.emojis)

section Collect

variable {α β : Type} (f : α → β) (told : NodeKind → List α)

mutual

theorem collect_map : ∀ node : Node,
    node.collect (fun kind => (told kind).map f) = (node.collect told).map f
  | mk kind children => by
    rw [collect, collect, collectAll_map children]
    cases kind.isAtom <;> simp

theorem collectAll_map : ∀ nodes : List Node,
    collectAll (fun kind => (told kind).map f) nodes = (collectAll told nodes).map f
  | [] => rfl
  | node :: nodes => by
    rw [collectAll, collectAll, collect_map node, collectAll_map nodes, List.map_append]

end

end Collect

theorem pictures_eq_map (node : Node) (large : Bool) :
    node.pictures large = (node.collect NodeKind.emojis).map (.emoji · large) := by
  rw [← collect_map]
  refine congrArg node.collect (funext fun kind => ?_)
  cases kind <;> rfl

mutual

/-- The count is that of all emoji, and there is one if there is nothing else but blanks. -/
theorem emojiOnlyCount_eq_some_iff : ∀ (node : Node) {n : Nat}, node.LeavesBare →
    (node.emojiOnlyCount = some n ↔ node.Everywhere (·.isBlankOrEmoji = true) ∧
      node.emojis.length = n)
  | mk kind children, n, h => by
    obtain ⟨hnode, hchildren⟩ := forall_mem_preorder_mk.1 h
    have hsum := emojiOnlySum_eq_some_iff children (n := n) hchildren
    rw [Everywhere, emojis, preorder, List.forall_mem_cons, List.flatMap_cons]
    cases kind with
    | document | paragraph =>
      rw [emojiOnlyCount, hsum]
      simp [Node.kind, NodeKind.isBlankOrEmoji, NodeKind.emojis]
    | text s soft hard =>
      obtain rfl : children = [] := hnode (.inl rfl)
      simp [emojiOnlyCount, preorderAll, Node.kind, NodeKind.isBlankOrEmoji, NodeKind.emojis]
    | emoji e =>
      obtain rfl : children = [] := hnode (.inr rfl)
      simp [emojiOnlyCount, preorderAll, Node.kind, NodeKind.isBlankOrEmoji, NodeKind.emojis]
    | _ => simp [emojiOnlyCount, Node.kind, NodeKind.isBlankOrEmoji]

theorem emojiOnlySum_eq_some_iff : ∀ (nodes : List Node) {n : Nat},
    (∀ node ∈ nodes, node.LeavesBare) →
      (emojiOnlySum nodes = some n ↔
        (∀ m ∈ preorderAll nodes, m.kind.isBlankOrEmoji = true) ∧
          ((preorderAll nodes).flatMap (·.kind.emojis)).length = n)
  | [], n, _ => by simp [emojiOnlySum, preorderAll]
  | node :: nodes, n, h => by
    obtain ⟨hnode, hnodes⟩ := List.forall_mem_cons.1 h
    have hhere := fun a => emojiOnlyCount_eq_some_iff node (n := a) hnode
    have hlater := fun b => emojiOnlySum_eq_some_iff nodes (n := b) hnodes
    rw [preorderAll, List.forall_mem_append, List.flatMap_append, List.length_append, emojiOnlySum]
    simp only [Option.bind_eq_bind, Option.bind_eq_some_iff, Option.pure_def, Option.some.injEq,
      hhere, hlater]
    constructor
    · rintro ⟨a, ⟨hok, rfl⟩, b, ⟨hoks, rfl⟩, rfl⟩
      exact ⟨⟨hok, hoks⟩, rfl⟩
    · rintro ⟨⟨hok, hoks⟩, rfl⟩
      exact ⟨_, ⟨hok, rfl⟩, _, ⟨hoks, rfl⟩, rfl⟩

end

/-- In a tree of nothing but emoji and blanks all emoji are drawn. -/
theorem collect_emojis {node : Node} (h : node.LeavesBare)
    (hok : node.Everywhere (·.isBlankOrEmoji = true)) :
    node.collect NodeKind.emojis = node.emojis := by
  refine collect_eq_flatMap _ node fun n hn hleaf => h n hn ?_
  have hkind : n.kind.isBlankOrEmoji = true := hok n hn
  obtain ⟨kind, children⟩ := n
  cases kind with
  | text s soft hard => exact .inl rfl
  | emoji e => exact .inr rfl
  | document | paragraph => cases hleaf
  | _ => cases hkind

end Node

namespace Canvas

/-- A canvas without a quote marker, whose text is blank and whose segments are images. -/
structure Bare (c : Canvas) : Prop where
  marker : c.buffer.marker = []
  blank : ∀ a ∈ c.buffer.text, Text.isBlank a = true
  images : ∀ s ∈ c.segments, s.kind.isImage = true

namespace Bare

variable {c : Canvas}

theorem append (h : c.Bare) {cs : List Char} (hcs : ∀ a ∈ cs, Text.isBlank a = true) :
    Canvas.Bare { c with buffer := c.buffer.append cs } :=
  ⟨h.marker, List.forall_mem_append.2 ⟨h.blank, hcs⟩, h.images⟩

theorem put (h : c.Bare) (text : String) (ht : ∀ a ∈ text.toList, Text.isBlank a = true) :
    (c.put text).Bare := by
  rw [put_of_marker h.marker]
  exact h.append ht

theorem flush_eq (h : c.Bare) : c.flush = c :=
  flush_of_not_due (by simp [Buffer.markerDue, h.marker])

theorem padNewlines (h : c.Bare) (n : Nat) :
    Canvas.Bare { c with buffer := c.buffer.padNewlines n } := by
  obtain ⟨k, hk⟩ := c.buffer.padNewlines_eq_append n
  rw [hk]
  refine h.append fun a ha => ?_
  rw [List.eq_of_mem_replicate ha]
  rfl

theorem separate (h : c.Bare) (visit : Visit) : (c.separate visit).Bare := by
  unfold Canvas.separate
  split
  · exact h
  · exact h.padNewlines 2
  · exact h.padNewlines 2
  · exact h.padNewlines 1

theorem placeEmoji (h : c.Bare) (config : Config) (e : CustomEmoji) (size : UInt32) :
    (c.placeEmoji config e size).Bare := by
  unfold Canvas.placeEmoji
  rw [anchor_eq, h.flush_eq]
  exact ⟨h.marker, h.blank,
    List.forall_mem_append.2 ⟨h.images, List.forall_mem_singleton.2 rfl⟩⟩

theorem text (h : c.Bare) {s : String} (hs : (Text.trim s.toList).isEmpty = true) :
    (c.put s).Bare := by
  refine h.put s fun a ha => ?_
  by_contra hblank
  exact Text.trim_ne_nil ha (Bool.eq_false_iff.2 hblank) (List.isEmpty_iff.1 hs)

/-- Drawing a node of a tree of nothing but emoji and blanks adds just these. -/
theorem visitor (scene : Scene) :
    (Registry.builtin.visitor scene).Keeps (·.isBlankOrEmoji = true) Bare := by
  rintro ⟨⟨kind, children⟩, entering, parent, next⟩ c hkind h
  cases kind with
  | document => exact h
  | paragraph =>
    cases entering with
    | true => exact h
    | false => exact h.separate _
  | text s soft hard =>
    cases entering with
    | false => exact h
    | true =>
      have htext := h.text hkind
      cases hard with
      | true => exact htext.put "\n\n" (by simp [Text.isBlank])
      | false =>
        cases soft with
        | true => exact htext.put "\n" (by simp [Text.isBlank])
        | false => exact htext
  | emoji e =>
    cases entering with
    | false => exact h
    | true => exact h.placeEmoji _ _ _
  | _ => cases hkind

end Bare

end Canvas

/-- The images among segments, in their order. -/
theorem Segment.forall₂_images {segments : List Segment}
    (hpoint : ∀ s ∈ segments, s.kind.isAnchor = true → s.start = s.stop) :
    List.Forall₂ (fun image s => s.start = s.stop ∧ s.kind = .image image)
      (segments.filterMap Segment.image?) (segments.filter (·.kind.isImage)) := by
  induction segments with
  | nil => exact .nil
  | cons s segments ih =>
    obtain ⟨hs, hsegments⟩ := List.forall_mem_cons.1 hpoint
    obtain ⟨start, stop, kind⟩ := s
    cases kind with
    | image image => exact .cons ⟨hs rfl, rfl⟩ (ih hsegments)
    | _ => exact ih hsegments

namespace Scene

variable (scene : Scene)

/-- The images of a tree are those of the emoji that are drawn. -/
theorem images_renderNode (node : Node) :
    List.Forall₂ (Segment.ShowsEmoji scene.config
        (scene.config.sizeOfEmoji (scene.config.enlarges node)))
      (node.collect NodeKind.emojis)
      ((scene.renderNode node).text.segments.filter (·.kind.isImage)) := by
  have hshows : (scene.drawn node).Shows scene.config 0 (scene.config.enlarges node)
      (node.pictures (scene.config.enlarges node)) := by
    have := (Canvas.shows_fresh scene.config).document scene node
    rwa [List.nil_append, scene.document_eq_drawn] at this
  have hpoint := (isPlanned_renderNode scene node).sound
  rw [renderNode_drawn] at hpoint ⊢
  have himages := Segment.forall₂_images fun s hs => (hpoint s hs).2.2.2.2
  rw [hshows.images, Node.pictures_eq_map, List.map_map, List.forall₂_map_left_iff] at himages
  exact himages

/-- All emoji of a text are drawn. -/
theorem images_renderSource (source : String) :
    let node := Node.ofSource source
    List.Forall₂ (Segment.ShowsEmoji scene.config
        (scene.config.sizeOfEmoji (scene.config.enlarges node)))
      node.emojis ((scene.renderSource source).text.segments.filter (·.kind.isImage)) := by
  intro node
  have hall : node.collect NodeKind.emojis = node.emojis :=
    Node.collect_eq_flatMap _ node fun n hn => (Node.wellFormed_ofEvents _ n hn).leaf
  rw [← hall]
  exact scene.images_renderNode node

theorem bare_drawn {node : Node} (h : node.Everywhere (·.isBlankOrEmoji = true)) :
    (scene.drawn node).Bare := by
  obtain ⟨emojiSize, hsize⟩ := (Canvas.fresh scene.config).sizeEmoji_eq scene.config node
  rw [drawn, hsize]
  refine keeps_walkNode (Canvas.Bare.visitor scene) none none node h ⟨rfl, ?_, ?_⟩
  · exact List.forall_mem_nil _
  · exact List.forall_mem_nil _

/-- If a tree is counted, then its text is blank and has an image for each of its emoji, as many as
were counted. These are large if the count is within the limit. If it is not counted, the emoji
that are drawn have the common size; they are those that are not below a node that is drawn without
its children. -/
theorem emoji_renderNode (node : Node) (hleaves : node.LeavesBare) :
    let t := (scene.renderNode node).text
    let config := scene.config
    (∀ n, node.emojiOnlyCount = some n →
      (∀ a ∈ t.content.toList, Text.isBlank a = true) ∧ t.segments.length = n ∧
        List.Forall₂
          (Segment.ShowsEmoji config
            (if 0 < n ∧ n ≤ config.largeEmojiLimit then config.largeEmojiSize
              else config.emojiSize))
          node.emojis t.segments) ∧
    (node.emojiOnlyCount = none →
      List.Forall₂ (Segment.ShowsEmoji config config.emojiSize) (node.collect NodeKind.emojis)
        (t.segments.filter (·.kind.isImage))) := by
  intro t config
  have himages := scene.images_renderNode node
  constructor
  · intro n hn
    obtain ⟨hok, hlength⟩ := (node.emojiOnlyCount_eq_some_iff hleaves).1 hn
    have hbare := scene.bare_drawn hok
    have ht : t = _ := scene.renderNode_drawn node
    have hall : t.segments.filter (·.kind.isImage) = t.segments := by
      rw [List.filter_eq_self, ht]
      exact hbare.images
    have hsize : config.sizeOfEmoji (config.enlarges node)
        = if 0 < n ∧ n ≤ config.largeEmojiLimit then config.largeEmojiSize
          else config.emojiSize := by
      rw [Config.enlarges, hn]
      simp only [Config.sizeOfEmoji, decide_eq_true_eq]
    rw [hall, Node.collect_emojis hleaves hok, hsize] at himages
    refine ⟨?_, himages.length_eq.symm.trans hlength, himages⟩
    rw [ht]
    simpa [Canvas.content] using hbare.blank
  · intro hnone
    have hsize : config.sizeOfEmoji (config.enlarges node) = config.emojiSize := by
      rw [Config.enlarges, hnone]
      rfl
    rwa [hsize] at himages

/-- Two emoji with a blank between them, and one of them after a word. -/
theorem emoji_renderNode_two :
    let scene : Scene := {}
    let wave : CustomEmoji := ⟨"wave", ⟨5⟩, true⟩
    let ok : CustomEmoji := ⟨"ok", ⟨6⟩, false⟩
    let alone : Node :=
      .mk .document [.mk .paragraph [.leaf (.emoji wave), .text " ", .leaf (.emoji ok)]]
    let among : Node := .mk .document [.mk .paragraph [.text "hi ", .leaf (.emoji ok)]]
    let t := (scene.renderNode alone).text
    alone.LeavesBare ∧ alone.emojiOnlyCount = some 2 ∧
      (∀ a ∈ t.content.toList, Text.isBlank a = true) ∧ t.segments.length = 2 ∧
      List.Forall₂ (Segment.ShowsEmoji scene.config 48) [wave, ok] t.segments ∧
      among.LeavesBare ∧ among.emojiOnlyCount = none ∧
      List.Forall₂ (Segment.ShowsEmoji scene.config 22) [ok]
        ((scene.renderNode among).text.segments.filter (·.kind.isImage)) := by
  intro scene wave ok alone among t
  have halone : alone.LeavesBare := by decide
  have hcount : alone.emojiOnlyCount = some 2 := by cbv
  have hamong : among.LeavesBare := by decide
  have hnone : among.emojiOnlyCount = none := by cbv
  obtain ⟨hblank, hlength, hshows⟩ := (scene.emoji_renderNode alone halone).1 2 hcount
  exact ⟨halone, hcount, hblank, hlength, hshows, hamong, hnone,
    (scene.emoji_renderNode among hamong).2 hnone⟩

/-- An emoji below a block of code, which is drawn without what is below it. -/
theorem not_shown_renderNode_code :
    let scene : Scene := {}
    let e : CustomEmoji := ⟨"x", ⟨1⟩, false⟩
    let node : Node := .mk (.codeBlock none []) [.leaf (.emoji e)]
    node.LeavesBare ∧ node.emojiOnlyCount = none ∧ e ∈ node.emojis ∧
      ¬ ∃ s ∈ (scene.renderNode node).text.segments,
        s.ShowsEmoji scene.config scene.config.emojiSize e := by
  intro scene e node
  have hempty : (scene.renderNode node).text.segments = [] := by cbv
  refine ⟨by decide, rfl, by decide, ?_⟩
  rw [hempty]
  rintro ⟨s, hs, -⟩
  exact absurd hs List.not_mem_nil

end Scene

end RichChat

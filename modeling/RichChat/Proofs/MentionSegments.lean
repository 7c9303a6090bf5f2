import Mathlib.Data.List.Forall2
import RichChat.Proofs.Covers
import RichChat.Proofs.Mentioned
import RichChat.Proofs.ReplyLine
import RichChat.Proofs.TreeShape

/-!
# The segments of a mention

A mention is listed with what belongs to it: the anchor of the avatar, the color over its text, and
last the mention itself over the same text (`Scene.ShowsMention`). The segments of a document are
those of its mentions, in their order, among others that are none of these
(`Scene.mentions_renderSource`).

The avatar stands where the text of the mention starts because the marker of a quote is written only
once in a line. So this asks for a marker that does not end the line.
-/

namespace RichChat

/-- Whether a kind of segment is not made for mentions. -/
def SegmentKind.isPlain : SegmentKind → Bool
  | .mention _ | .color _ | .avatar _ => false
  | .styled _ | .link _ | .quoteBlock | .codeBlock _ | .image _ | .messageReference _ => true

namespace Scene

variable (scene : Scene) (target : Reference)

/-- The text of a mention: the name of the entity behind its sign, or what the message has. -/
def mentionText : String :=
  match scene.data? none target with
  | some data => target.sigil ++ data.name
  | none => target.sourceForm

def mentionColor? : Option Rgba := (scene.data? none target).bind (·.color)

/-- The avatar of a user who is known, if avatars are shown. -/
def mentionAvatar? : Option AvatarAnchor :=
  if scene.config.mentionAvatars ∧ target.kind = .user then
    (scene.data? none target).map fun data =>
      ⟨data.avatarUrl.getD "", scene.config.avatarSize, data.name⟩
  else none

/-- The segments over the text of a mention. -/
def mentionSegments (range : Nat × Nat) : List Segment :=
  (scene.mentionColor? target).toList.map (fun color => ⟨range.1, range.2, .color color⟩) ++
    [⟨range.1, range.2, .mention (scene.mentionOf none target)⟩]

/-- A part of a list of segments that ends with a mention. Its avatar stands at the start of its
text, and the color is directly before it. The text is that of the mention if the name is one line;
otherwise there are markers in it. -/
def ShowsMention (content : String) (target : Reference) (part : List Segment) : Prop :=
  ∃ before runs start stop,
    part = before ++
        (scene.mentionAvatar? target).toList.map (fun avatar => ⟨start, start, .avatar avatar⟩) ++
        runs ++ scene.mentionSegments target (start, stop) ∧
      (∀ s ∈ before, s.kind.isPlain = true) ∧ (∀ s ∈ runs, ∃ a, s.kind = .styled a) ∧
      ((∀ data, scene.data? none target = some data → '\n' ∉ data.name.toList) →
        Text.slice? content start stop = some (scene.mentionText target))

variable {scene target}

theorem ShowsMention.mono {text longer : List Char} (hp : text <+: longer) {part : List Segment}
    (h : scene.ShowsMention (String.ofList text) target part) :
    scene.ShowsMention (String.ofList longer) target part := by
  obtain ⟨before, runs, start, stop, hpart, hbefore, hruns, hcovers⟩ := h
  exact ⟨before, runs, start, stop, hpart, hbefore, hruns,
    fun hline => Text.slice?_mono hp (hcovers hline)⟩

/-- Users who are known have an avatar. -/
theorem isSome_avatarUrl {data : MentionData} (h : scene.data? none target = some data)
    (huser : target.kind = .user) : data.avatarUrl.isSome = true := by
  cases target with
  | user id =>
    cases hm : scene.member? id with
    | some member =>
      rw [data?_of_member hm, Option.some.injEq] at h
      rw [← h, memberData]
      dsimp only
      split <;> rfl
    | none =>
      rw [data?_of_no_member hm] at h
      obtain ⟨user, -, rfl⟩ := Option.map_eq_some_iff.1 h
      rfl
  | role id => cases huser
  | channel id => cases huser

theorem newline_not_mem_mentionText
    (h : ∀ data, scene.data? none target = some data → '\n' ∉ data.name.toList) :
    '\n' ∉ (scene.mentionText target).toList := by
  unfold mentionText
  split
  · rename_i data hdata
    have hsigil : '\n' ∉ target.sigil.toList := by cases target <;> simp [Reference.sigil]
    rw [String.toList_append, List.mem_append]
    exact not_or.2 ⟨hsigil, h data hdata⟩
  · exact target.newline_not_mem_sourceForm

end Scene

theorem addRun_append {front rest : List Segment} {run : Segment}
    (hfront : ∀ s ∈ front.getLast?, s.kind ≠ run.kind) :
    addRun (front ++ rest) (some run) = front ++ addRun rest (some run) := by
  rcases List.eq_nil_or_concat' rest with rfl | ⟨rest, last, rfl⟩
  · rcases List.eq_nil_or_concat' front with rfl | ⟨front, last, rfl⟩
    · rfl
    · have hlast : last.kind ≠ run.kind := hfront last (by simp)
      rw [List.append_nil, addRun_concat, if_neg fun h => hlast h.1]
      rfl
  · rw [← List.append_assoc, addRun_concat, addRun_concat]
    split <;> simp

namespace Canvas

/-- The segments start with those of a list, and all others are of certain kinds. -/
def Follows (front : List Segment) (ok : SegmentKind → Prop) (c : Canvas) : Prop :=
  ∃ rest, c.segments = front ++ rest ∧ ∀ s ∈ rest, ok s.kind

section Follows

variable {front : List Segment} {ok : SegmentKind → Prop}

/-- The open run is put behind a segment that is no run. -/
theorem Follows.addRun (hfront : ∀ s ∈ front.getLast?, ∀ a, s.kind ≠ .styled a)
    (hok : ∀ a, ok (.styled a)) {c d : Canvas} (h : c.Follows front ok)
    (hd : d.segments = RichChat.addRun c.segments (c.runs.region c.runs.active c.length)) :
    d.Follows front ok := by
  obtain ⟨rest, hrest, hkinds⟩ := h
  rcases region_cases c.runs c.runs.active c.length with ⟨hr, -⟩ | ⟨hr, -, -⟩ <;> rw [hr] at hd
  · exact ⟨rest, hd.trans hrest, hkinds⟩
  · rw [hrest, addRun_append fun s hs => hfront s hs _] at hd
    refine ⟨_, hd, fun s hs => ?_⟩
    rcases addRun_cases rest ⟨c.runs.start, c.length, .styled c.runs.active⟩ with
      heq | ⟨init, last, rfl, hlast, -, heq⟩ <;> rw [heq] at hs
    · rcases List.mem_append.1 hs with hs | hs
      · exact hkinds s hs
      · obtain rfl := List.mem_singleton.1 hs
        exact hok _
    · rcases List.mem_append.1 hs with hs | hs
      · exact hkinds s (List.mem_append_left _ hs)
      · obtain rfl := List.mem_singleton.1 hs
        exact hkinds last (by simp)

theorem stable_follows (hfront : ∀ s ∈ front.getLast?, ∀ a, s.kind ≠ .styled a)
    (hok : ∀ a, ok (.styled a)) : Stable ok (Follows front ok) where
  flush {c} h := by
    rcases c.flush_cases with ⟨-, heq⟩ | ⟨-, heq⟩ <;> rw [heq]
    · exact h
    · exact h.addRun hfront hok rfl
  append _ h := h
  change {c} counts h := by
    rcases c.change_cases counts with ⟨-, heq⟩ | ⟨-, heq⟩ <;> rw [heq]
    · exact h
    · exact h.addRun hfront hok rfl
  push {c s} hk _ h := by
    obtain ⟨rest, hrest, hkinds⟩ := h
    refine ⟨rest ++ [s], by rw [push, hrest, List.append_assoc], fun t ht => ?_⟩
    rcases List.mem_append.1 ht with ht | ht
    · exact hkinds t ht
    · obtain rfl := List.mem_singleton.1 ht
      exact hk
  frame _ _ _ _ h := h

end Follows

/-- The segments are those of mentions, and plain ones behind them. -/
def ShowsMentions (scene : Scene) (targets : List Reference) (c : Canvas) : Prop :=
  ∃ parts : List (List Segment), List.Forall₂ (scene.ShowsMention c.content) targets parts ∧
    (∀ s ∈ parts.flatten.getLast?, ∀ a, s.kind ≠ .styled a) ∧
    c.Follows parts.flatten (·.isPlain = true)

theorem ShowsMentions.mono {scene : Scene} {targets : List Reference} {c d : Canvas}
    (h : c.ShowsMentions scene targets) (hp : c.buffer.text <+: d.buffer.text)
    (hd : ∀ {front}, (∀ s ∈ List.getLast? front, ∀ a, s.kind ≠ .styled a) →
      c.Follows front (·.isPlain = true) → d.Follows front (·.isPlain = true)) :
    d.ShowsMentions scene targets := by
  obtain ⟨parts, hparts, hlast, hfollows⟩ := h
  exact ⟨parts, hparts.imp fun _ _ => .mono hp, hlast, hd hlast hfollows⟩

theorem stable_showsMentions (scene : Scene) (targets : List Reference) :
    Stable (·.isPlain = true) (ShowsMentions scene targets) where
  flush {c} h := by
    refine h.mono ?_ fun hfront h => (stable_follows hfront fun _ => rfl).flush h
    rw [flush_buffer, Buffer.flush_eq_append]
    exact List.prefix_append _ _
  append cs h := h.mono (List.prefix_append _ _)
    fun hfront h => (stable_follows hfront fun _ => rfl).append cs h
  change {c} counts h := by
    refine h.mono ?_ fun hfront h => (stable_follows hfront fun _ => rfl).change counts h
    rw [change_buffer]
  push hk hstop h := h.mono List.prefix_rfl
    fun hfront h => (stable_follows hfront fun _ => rfl).push hk hstop h
  frame marker links quotes lists h := h.mono List.prefix_rfl
    fun hfront h => (stable_follows hfront fun _ => rfl).frame marker links quotes lists h

/-- The range of a text that is written in pieces starts with the first of them. -/
theorem start_pieces (ps : List (List Char)) (range : Nat × Nat) (c : Canvas) :
    ∃ stop, (ps.foldl writePiece (some range, c)).1 = some (range.1, stop) := by
  induction ps generalizing range c with
  | nil => exact ⟨range.2, rfl⟩
  | cons p ps ih =>
    obtain ⟨stop, heq⟩ := ih (writePiece (some range, c) p).1.get! (writePiece (some range, c) p).2
    exact ⟨stop, heq⟩

/-- What is written starts at the end of the text if no marker is due. -/
theorem start_write {c : Canvas} (h : c.buffer.markerDue = false) (text : String) :
    (c.write text).1.1 = c.length := by
  have hps : ∀ p ∈ Text.pieces text.toList, Text.pieces p = [p] := fun _ => Text.pieces_of_mem
  have hflush : c.buffer.flush = c.buffer := by rw [Buffer.flush, h]; rfl
  unfold write
  dsimp only
  cases hpieces : Text.pieces text.toList with
  | nil => rfl
  | cons p ps =>
    rw [hpieces] at hps
    have hfirst : ∃ stop, (writePiece (none, c) p).1 = some (c.length, stop) := by
      rw [writePiece]
      by_cases hn : p = ['\n']
      · rw [if_pos hn, hn, Buffer.write_newline]
        exact ⟨_, rfl⟩
      · rw [if_neg hn, flush_of_not_due h, Buffer.write_piece _ (hps p List.mem_cons_self) hn,
          hflush]
        exact ⟨_, rfl⟩
    obtain ⟨stop, hstop⟩ := hfirst
    obtain ⟨stop, heq⟩ := start_pieces ps (c.length, stop) (writePiece (none, c) p).2
    rw [← hstop] at heq
    rw [List.foldl_cons, heq]
    rfl

/-- The canvas on which the text of a mention is written, with its avatar. -/
def beforeMention (c : Canvas) (scene : Scene) (target : Reference) : Canvas :=
  match scene.mentionAvatar? target with
  | some avatar => c.anchor (.avatar avatar)
  | none => c

theorem mentionAvatar_eq (c : Canvas) {scene : Scene} {target : Reference} {data : MentionData}
    (hdata : scene.data? none target = some data) :
    c.mentionAvatar scene.config target data = c.beforeMention scene target := by
  unfold mentionAvatar beforeMention Scene.mentionAvatar?
  rw [hdata]
  by_cases huser : scene.config.mentionAvatars ∧ target.kind = .user
  · obtain ⟨url, hurl⟩ := Option.isSome_iff_exists.1 (Scene.isSome_avatarUrl hdata huser.2)
    rw [Option.map_some, hurl, if_pos huser]
    exact if_pos huser.symm
  · rw [if_neg huser]
    cases data.avatarUrl with
    | none => rfl
    | some url => exact if_neg (mt And.symm huser)

/-- The text of a mention is written behind its avatar, and then its segments are added. -/
theorem writeMention_eq (c : Canvas) (scene : Scene) (target : Reference) :
    let written := (c.beforeMention scene target).write (scene.mentionText target)
    c.writeMention scene target (scene.data? none target)
      = { written.2 with
          segments := written.2.segments ++ scene.mentionSegments target written.1 } := by
  intro written
  unfold written Scene.mentionSegments Scene.mentionOf Scene.mentionColor? Scene.mentionText
  cases hdata : scene.data? none target with
  | none =>
    have hplace : c.beforeMention scene target = c := by
      simp [beforeMention, Scene.mentionAvatar?, hdata]
    rw [hplace]
    rfl
  | some data =>
    rw [← c.mentionAvatar_eq hdata, writeMention, writeResolved]
    dsimp only [Option.bind_some]
    cases data.color with
    | none => rfl
    | some color => simp [emit, push]

variable {scene : Scene} {targets : List Reference} {c : Canvas}

/-- What is listed when the text of a mention has been written. Only runs come behind the avatar,
which stands where the text starts. -/
theorem Follows.written {front : List Segment} (h : c.Follows front (·.isPlain = true))
    (hfront : ∀ s ∈ front.getLast?, ∀ a, s.kind ≠ .styled a)
    (hmarker : c.buffer.marker.getLast? ≠ some '\n') (target : Reference) :
    let written := (c.beforeMention scene target).write (scene.mentionText target)
    ∃ before runs,
      written.2.segments = front ++ (before ++ (scene.mentionAvatar? target).toList.map
        (fun avatar => ⟨written.1.1, written.1.1, .avatar avatar⟩) ++ runs) ∧
      (∀ s ∈ before, s.kind.isPlain = true) ∧ ∀ s ∈ runs, ∃ a, s.kind = .styled a := by
  intro written
  have hplain : Stable (·.isPlain = true) (Follows front (·.isPlain = true)) :=
    stable_follows hfront fun _ => rfl
  unfold written beforeMention
  cases scene.mentionAvatar? target with
  | none =>
    obtain ⟨rest, hrest, hkinds⟩ := hplain.put h (scene.mentionText target)
    exact ⟨rest, [], by simpa [put] using hrest, hkinds, nofun⟩
  | some avatar =>
    obtain ⟨before, hbefore, hkinds⟩ := hplain.flush h
    let anchor : Segment := ⟨c.flush.length, c.flush.length, .avatar avatar⟩
    have hdue : (c.anchor (.avatar avatar)).buffer.markerDue = false := by
      rw [anchor_eq, push, flush_buffer]
      exact c.buffer.not_markerDue_flush hmarker
    have hstart : ((c.anchor (.avatar avatar)).write (scene.mentionText target)).1.1
        = c.flush.length := start_write hdue _
    have hanchor : (c.anchor (.avatar avatar)).Follows (front ++ before ++ [anchor])
        fun kind => ∃ a, kind = .styled a := by
      refine ⟨[], ?_, nofun⟩
      rw [anchor_eq, push, hbefore, List.append_nil]
    have hstable : Stable (fun kind => ∃ a, kind = .styled a)
        (Follows (front ++ before ++ [anchor]) fun kind => ∃ a, kind = .styled a) :=
      stable_follows (by simp [anchor]) fun a => ⟨a, rfl⟩
    obtain ⟨runs, hruns, hstyled⟩ := hstable.put hanchor (scene.mentionText target)
    refine ⟨before, runs, ?_, hkinds, hstyled⟩
    dsimp only
    rw [hstart]
    simpa [put, anchor] using hruns

/-- A mention takes the plain segments since the last one into its part of the list. -/
theorem ShowsMentions.writeMention (h : c.ShowsMentions scene targets)
    (hmarker : c.buffer.marker.getLast? ≠ some '\n') (target : Reference) :
    (c.writeMention scene target (scene.data? none target)).ShowsMentions scene
      (targets ++ [target]) := by
  obtain ⟨parts, hparts, hlast, hfollows⟩ := h
  let written := (c.beforeMention scene target).write (scene.mentionText target)
  have hcovers : (∀ data, scene.data? none target = some data → '\n' ∉ data.name.toList) →
      Text.slice? written.2.content written.1.1 written.1.2 = some (scene.mentionText target) :=
    fun hline => slice?_write _ (Scene.newline_not_mem_mentionText hline)
  have hprefix : c.buffer.text <+: written.2.buffer.text := by
    have hput : Planned scene (c.beforeMention scene target) written.2 :=
      (Planned.refl _).put (scene.mentionText target)
    refine List.IsPrefix.trans ?_ hput.prefix_text
    unfold beforeMention
    split
    · rw [anchor_eq, push, flush_buffer, Buffer.flush_eq_append]
      exact List.prefix_append _ _
    · exact List.prefix_rfl
  obtain ⟨before, runs, hsegments, hbefore, hruns⟩ : ∃ before runs, written.2.segments = _ ∧ _ :=
    hfollows.written hlast hmarker target
  rw [c.writeMention_eq scene target]
  let part := before ++ (scene.mentionAvatar? target).toList.map
    (fun avatar => ⟨written.1.1, written.1.1, .avatar avatar⟩) ++ runs ++
      scene.mentionSegments target written.1
  have hpart : scene.ShowsMention written.2.content target part :=
    ⟨before, runs, written.1.1, written.1.2, rfl, hbefore, hruns, hcovers⟩
  have hflat : (parts ++ [part]).flatten = parts.flatten ++ part := by simp
  refine ⟨parts ++ [part], ?_, ?_, [], ?_, List.forall_mem_nil _⟩
  · exact List.rel_append (hparts.imp fun _ _ => .mono hprefix) (.cons hpart .nil)
  · simp [part, Scene.mentionSegments]
  · rw [hflat, List.append_nil]
    simp [part, hsegments, written]

theorem StackedOn.visitor {base : List Char} (h : c.StackedOn scene.config base) (visit : Visit) :
    (Registry.builtin.visitor scene visit c).2.StackedOn scene.config base := by
  obtain ⟨plan, heq⟩ := Registry.isNamed_builtin.isPlanned scene visit c
  obtain ⟨ss, hdrawn, -⟩ := plan.drawn scene c
  rw [heq] at hdrawn
  exact hdrawn.stacked h

/-- If the marker of quotes does not end a line, the mentions that are drawn are listed. -/
theorem tells_showsMentions (hmarker : scene.config.quoteMarker.toList.getLast? ≠ some '\n') :
    Tells scene NodeKind.mentions fun targets c =>
      c.StackedOn scene.config [] ∧ c.ShowsMentions scene targets where
  enter {targets c} kind children parent next h := by
    obtain ⟨hstacked, hshows⟩ := h
    refine ⟨hstacked.visitor _, ?_⟩
    cases kind with
    | mention target =>
      show (c.mention scene target).ShowsMentions scene (targets ++ [target])
      have hline : c.buffer.marker.getLast? ≠ some '\n' := hstacked.getLast?_ne hmarker nofun
      obtain ⟨d, hd, heq⟩ := c.mention_eq scene target
      rw [heq]
      rcases hd with rfl | ⟨r, rfl⟩
      · exact hshows.writeMention hline target
      · have hasked : (c.request scene r).ShowsMentions scene targets :=
          Stable.request (fun _ h => h) hshows r
        have hbuffer : (c.request scene r).buffer = c.buffer := by
          unfold Canvas.request
          split <;> rfl
        exact hasked.writeMention (hbuffer ▸ hline) target
    | _ =>
      show ShowsMentions scene (targets ++ []) _
      rw [List.append_nil]
      refine (stable_showsMentions scene targets).visitor_makes _ (fun _ => nofun)
        (fun kind hk => ?_) hshows
      cases kind <;> first | rfl | cases hk
  leave {targets c} node parent next h := by
    refine ⟨h.1.visitor _, ?_⟩
    refine (stable_showsMentions scene targets).visitor_makes _ nofun (fun kind hk => ?_) h.2
    cases kind with
    | mention m | color color | avatar a =>
      obtain ⟨nodeKind, children⟩ := node
      cases nodeKind <;> cases hk
    | _ => rfl

end Canvas

namespace Node

mutual

/-- If the nodes that are drawn without their children have none, all nodes are drawn. -/
theorem collect_eq_flatMap {α : Type} (told : NodeKind → List α) : ∀ node : Node,
    (∀ n ∈ node.preorder, n.tag.isLeaf = true → n.children = []) →
      node.collect told = node.preorder.flatMap fun n => told n.kind
  | mk kind children, h => by
    obtain ⟨hnode, hchildren⟩ := forall_mem_preorder_mk.1 h
    rw [collect, preorder, List.flatMap_cons]
    cases hatom : kind.isAtom with
    | true =>
      have hleaf : (mk kind children).tag.isLeaf = true := by
        cases kind <;> first | rfl | cases hatom
      obtain rfl : children = [] := hnode hleaf
      rfl
    | false =>
      rw [if_neg nofun, collectAll_eq_flatMap told children hchildren]
      rfl

theorem collectAll_eq_flatMap {α : Type} (told : NodeKind → List α) : ∀ nodes : List Node,
    (∀ node ∈ nodes, ∀ n ∈ node.preorder, n.tag.isLeaf = true → n.children = []) →
      collectAll told nodes = (preorderAll nodes).flatMap fun n => told n.kind
  | [], _ => rfl
  | node :: nodes, h => by
    rw [collectAll, preorderAll, List.flatMap_append,
      collect_eq_flatMap told node (h node List.mem_cons_self),
      collectAll_eq_flatMap told nodes fun n hn => h n (List.mem_cons_of_mem _ hn)]

end

/-- All mentions of a text are drawn. -/
theorem mentions_ofSource (source : String) :
    (ofSource source).mentions = (ofSource source).preorder.flatMap fun n => n.kind.mentions := by
  rw [mentions_eq_collect]
  exact collect_eq_flatMap NodeKind.mentions _ fun n hn => (wellFormed_ofEvents _ n hn).leaf

end Node

/-- The mentions in a text are those of its tree, in their order, if the marker of quotes does not
end a line. Each comes with its avatar and its color, and there are no others of these. -/
theorem Scene.mentions_renderSource (scene : Scene) (source : String)
    (hmarker : scene.config.quoteMarker.toList.getLast? ≠ some '\n') :
    let t := (scene.renderSource source).text
    let targets := (Node.ofSource source).preorder.flatMap fun n => n.kind.mentions
    t.mentions = targets.map (scene.mentionOf none) ∧
      ∃ parts rest, t.segments = parts.flatten ++ rest ∧
        List.Forall₂ (scene.ShowsMention t.content) targets parts ∧
        ∀ s ∈ rest, s.kind.isPlain = true := by
  intro t targets
  have htargets : (Node.ofSource source).mentions = targets := Node.mentions_ofSource source
  let fresh := Canvas.fresh scene.config
  constructor
  · have hfresh : Canvas.Names scene 0 [] fresh := ⟨rfl, rfl⟩
    have hdrawn := (Canvas.telling_names scene 0).document hfresh (.ofSource source)
    rw [List.nil_append, htargets] at hdrawn
    exact (((Canvas.telling_names scene 0).stable _).finish nofun hdrawn).2
  · let c := fresh.sizeEmoji scene.config (.ofSource source)
    have hempty : c.StackedOn scene.config [] ∧ c.ShowsMentions scene [] := by
      obtain ⟨emojiSize, hsize⟩ := fresh.sizeEmoji_eq scene.config (.ofSource source)
      rw [show c = _ from hsize]
      exact ⟨rfl, [], .nil, nofun, [], rfl, nofun⟩
    have hdrawn := (Canvas.tells_showsMentions hmarker).draw hempty (.ofSource source)
    rw [List.nil_append, ← Node.mentions_eq_collect, htargets] at hdrawn
    obtain ⟨parts, hparts, -, rest, hrest, hplain⟩ :=
      (Canvas.stable_showsMentions scene targets).finish rfl hdrawn.2
    exact ⟨parts, rest, hrest, hparts, hplain⟩

/-- A user who is known, with an avatar, and a channel that is not. -/
theorem Scene.mentions_renderSource_user :
    let ann : User := { id := ⟨5⟩, username := "Ann" }
    let message : Message := { id := ⟨1⟩, channel := ⟨2⟩, author := ann, mentions := [ann] }
    let scene : Scene := { config := { mentionAvatars := true }, message := some message }
    let t := (scene.renderSource "hi <@5> <#6>").text
    scene.config.quoteMarker.toList.getLast? ≠ some '\n' ∧
      (scene.mentionText (.user ⟨5⟩), scene.mentionText (.channel ⟨6⟩)) = ("@Ann", "<#6>") ∧
      (scene.mentionAvatar? (.user ⟨5⟩)).isSome = true ∧
      t.mentions = [.user ⟨5⟩, .channel ⟨6⟩].map (scene.mentionOf none) ∧
      ∃ user channel rest, t.segments = user ++ channel ++ rest ∧
        scene.ShowsMention t.content (.user ⟨5⟩) user ∧
        scene.ShowsMention t.content (.channel ⟨6⟩) channel := by
  intro ann message scene t
  have hmarker : scene.config.quoteMarker.toList.getLast? ≠ some '\n' := by decide
  have htargets : (Node.ofSource "hi <@5> <#6>").mentions = [.user ⟨5⟩, .channel ⟨6⟩] := by cbv
  rw [Node.mentions_ofSource] at htargets
  obtain ⟨hmentions, parts, rest, hrest, hparts, -⟩ :=
    scene.mentions_renderSource "hi <@5> <#6>" hmarker
  rw [htargets] at hmentions hparts
  refine ⟨hmarker, by decide, rfl, hmentions, ?_⟩
  cases hparts with
  | cons huser hparts =>
    rename_i user parts
    cases hparts with
    | cons hchannel hnil =>
      rename_i channel parts
      obtain rfl := List.forall₂_nil_left_iff.1 hnil
      exact ⟨user, channel, rest, by simpa using hrest, huser, hchannel⟩

end RichChat

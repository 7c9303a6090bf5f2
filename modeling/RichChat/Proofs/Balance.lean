import RichChat.Proofs.Handler
import RichChat.Proofs.OpenCounts

/-!
# What a walk gives back

Every handler takes back on the way out what it did to the canvas on the way in: attributes are
left, links, quotes and lists are closed, and the marker is what it was. So a walk leaves all of
that as it found it, whatever the handlers are (`balanced_walkNode`).

Nothing is asked of the node. Even a handler on a node of another kind takes back what it did, as
`Handler.IsBalanced` says of any canvas that is balanced with the one after the way in.
-/

namespace RichChat

namespace Canvas

theorem change_counts (c : Canvas) (counts : List Nat) :
    (c.change counts).runs.counts = counts := by
  rcases c.change_cases counts with ⟨-, heq⟩ | ⟨-, heq⟩ <;> rw [heq]

theorem enter_counts (c : Canvas) (a : Attribute) :
    (c.enter a).runs.counts = a.opened c.runs.counts := by
  rw [enter_eq, change_counts, flush_counts, Attribute.opened]

theorem exit_counts (c : Canvas) (a : Attribute) : (c.exit a).runs.counts
    = a.indices.foldl (fun counts i => counts.modify i (· - 1)) c.runs.counts := by
  rw [exit_eq, change_counts]

theorem closeLink_counts (c : Canvas) (url : String) :
    (c.closeLink url).runs.counts = c.runs.counts := by
  rcases c.closeLink_cases url with ⟨-, heq⟩ | ⟨_, _, -, heq | ⟨-, heq⟩⟩ <;> rw [heq]
  rfl

theorem closeQuote_counts (c : Canvas) : c.closeQuote.runs.counts = c.runs.counts := by
  cases hquotes : c.quotes with
  | nil => rw [closeQuote, hquotes]
  | cons quote quotes => rw [closeQuote_eq hquotes]

end Canvas

/-- Whatever is open on one canvas is open on the other, and nothing else. -/
structure Balanced (c d : Canvas) : Prop where
  counts : d.runs.counts = c.runs.counts
  links : d.links = c.links
  quotes : d.quotes = c.quotes
  marker : d.buffer.marker = c.buffer.marker
  depth : d.lists.length = c.lists.length
  lists : d.lists.tail = c.lists.tail
  emojiSize : d.emojiSize = c.emojiSize

/-- Whether a segment is no run, and is over some text unless it is an anchor. -/
def Segment.IsSolid (s : Segment) : Prop :=
  (∀ a, s.kind ≠ .styled a) ∧ (s.kind.isAnchor = false → s.start < s.stop)

theorem Segment.isSolid_anchor {kind : SegmentKind} (h : kind.isAnchor = true) (n : Nat) :
    IsSolid ⟨n, n, kind⟩ := by
  refine ⟨fun a ha => ?_, fun hfalse => ?_⟩
  · dsimp only at ha
    rw [ha] at h
    cases h
  · rw [show kind.isAnchor = false from hfalse] at h
    cases h

/-- A property that writing, making segments and asking the store do not change. -/
structure Canvas.Kept (Q : Canvas → Prop) : Prop where
  flush : ∀ c, Q c → Q c.flush
  append : ∀ c cs, Q c → Q { c with buffer := c.buffer.append cs }
  push : ∀ c s, s.IsSolid → Q c → Q (c.push s)
  note : ∀ c requested, Q c → Q { c with requested }

theorem Reference.sigil_append_ne (target : Reference) (name : String) :
    target.sigil ++ name ≠ "" := by
  cases target <;> simp [Reference.sigil]

theorem Reference.sourceForm_ne (target : Reference) : target.sourceForm ≠ "" := by
  cases target <;> simp [Reference.sourceForm]

namespace Canvas.Kept

variable {Q : Canvas → Prop} {c : Canvas}

theorem put (hQ : Kept Q) (h : Q c) (text : String) : Q (c.put text) :=
  put_keeps hQ.flush hQ.append h text

theorem emit (hQ : Kept Q) (h : Q c) {range : Nat × Nat} (hr : range.1 < range.2)
    {kind : SegmentKind} (hk : ∀ a, kind ≠ .styled a) : Q (c.emit range kind) :=
  hQ.push c _ ⟨hk, fun _ => hr⟩ h

theorem anchor (hQ : Kept Q) (h : Q c) {kind : SegmentKind} (point : kind.isAnchor = true) :
    Q (c.anchor kind) :=
  hQ.push _ _ (Segment.isSolid_anchor point _) (hQ.flush c h)

theorem request (hQ : Kept Q) (h : Q c) (scene : Scene) (r : FetchRequest) :
    Q (c.request scene r) := by
  unfold Canvas.request
  split
  · exact hQ.note c _ h
  · exact h

theorem ensureBreak (hQ : Kept Q) (h : Q c) : Q c.ensureBreak := by
  obtain ⟨k, hk⟩ := c.buffer.padNewlines_eq_append 1
  rw [Canvas.ensureBreak, Buffer.ensureBreak, hk]
  exact hQ.append c _ h

theorem startBlock (hQ : Kept Q) (h : Q c) : Q c.startBlock := by
  obtain ⟨k, hk⟩ := c.buffer.padNewlines_eq_append 2
  rw [Canvas.startBlock, Buffer.startBlock, hk]
  exact hQ.append c _ h

theorem separate (hQ : Kept Q) (h : Q c) (visit : Visit) : Q (c.separate visit) := by
  unfold Canvas.separate
  split
  · exact h
  · exact hQ.startBlock h
  · exact hQ.startBlock h
  · exact hQ.ensureBreak h

theorem mentionAvatar (hQ : Kept Q) (h : Q c) (config : Config) (target : Reference)
    (data : MentionData) : Q (c.mentionAvatar config target data) := by
  unfold Canvas.mentionAvatar
  split
  · split
    · exact hQ.anchor h rfl
    · exact h
  · exact h

theorem writeResolved (hQ : Kept Q) (h : Q c) (scene : Scene) (target : Reference)
    (data : MentionData) : Q (c.writeResolved scene target data) := by
  have havatar := hQ.mentionAvatar h scene.config target data
  have hput := hQ.put havatar (target.sigil ++ data.name)
  have hlt := (c.mentionAvatar scene.config target data).lt_write (target.sigil_append_ne data.name)
  unfold Canvas.writeResolved
  dsimp only
  split
  · exact hQ.emit (hQ.emit hput hlt (by simp)) hlt (by simp)
  · exact hQ.emit hput hlt (by simp)

theorem writeUnresolved (hQ : Kept Q) (h : Q c) (scene : Scene) (target : Reference) :
    Q (c.writeUnresolved scene target) :=
  hQ.emit (hQ.put h _) (c.lt_write target.sourceForm_ne) (by simp)

theorem mentionUser (hQ : Kept Q) (h : Q c) (scene : Scene) (id : UserId) (known : Option User) :
    Q (c.mentionUser scene id known) := by
  unfold Canvas.mentionUser
  dsimp only
  split
  · exact hQ.writeResolved h _ _ _
  · cases known.or (scene.user? id) with
    | some user =>
      refine hQ.writeResolved ?_ _ _ _
      split
      · exact hQ.request h _ _
      · exact hQ.request h _ _
      · exact h
    | none =>
      refine hQ.writeUnresolved ?_ _ _
      split
      · exact hQ.request h _ _
      · exact hQ.request h _ _
      · exact h

theorem mention (hQ : Kept Q) (h : Q c) (scene : Scene) (target : Reference) :
    Q (c.mention scene target) := by
  cases target with
  | user id => exact hQ.mentionUser h scene id none
  | role id =>
    show Q (c.mentionRole scene id)
    unfold mentionRole
    split
    · exact hQ.writeUnresolved h _ _
    · split
      · exact hQ.writeResolved h _ _ _
      · exact hQ.writeUnresolved (hQ.request h _ _) _ _
  | channel id =>
    show Q (c.mentionChannel scene id)
    unfold mentionChannel
    split
    · exact hQ.writeResolved h _ _ _
    · exact hQ.writeUnresolved (hQ.request h _ _) _ _

end Canvas.Kept

namespace Balanced

variable {c d e : Canvas}

theorem refl (c : Canvas) : Balanced c c := ⟨rfl, rfl, rfl, rfl, rfl, rfl, rfl⟩

theorem trans (hcd : Balanced c d) (hde : Balanced d e) : Balanced c e :=
  ⟨hde.counts.trans hcd.counts, hde.links.trans hcd.links, hde.quotes.trans hcd.quotes,
    hde.marker.trans hcd.marker, hde.depth.trans hcd.depth, hde.lists.trans hcd.lists,
    hde.emojiSize.trans hcd.emojiSize⟩

theorem kept (c : Canvas) : Canvas.Kept (Balanced c) where
  flush d h := by
    refine h.trans ?_
    rcases d.flush_cases with ⟨-, heq⟩ | ⟨-, heq⟩
    · rw [heq]
      exact .refl d
    · rw [heq]
      exact ⟨rfl, rfl, rfl, rfl, rfl, rfl, rfl⟩
  append d _ h := h.trans ⟨rfl, rfl, rfl, rfl, rfl, rfl, rfl⟩
  push d _ _ h := h.trans ⟨rfl, rfl, rfl, rfl, rfl, rfl, rfl⟩
  note d _ h := h.trans ⟨rfl, rfl, rfl, rfl, rfl, rfl, rfl⟩

theorem emit (h : Balanced c d) (range : Nat × Nat) (kind : SegmentKind) :
    Balanced c (d.emit range kind) := h.trans ⟨rfl, rfl, rfl, rfl, rfl, rfl, rfl⟩

theorem flush (c : Canvas) : Balanced c c.flush := (kept c).flush c (.refl c)

theorem put (c : Canvas) (text : String) : Balanced c (c.put text) := (kept c).put (.refl c) text

theorem startBlock (c : Canvas) : Balanced c c.startBlock := (kept c).startBlock (.refl c)

theorem ensureBreak (c : Canvas) : Balanced c c.ensureBreak := (kept c).ensureBreak (.refl c)

theorem separate (h : Balanced c d) (visit : Visit) : Balanced c (d.separate visit) :=
  (kept c).separate h visit

theorem drawCode (c : Canvas) (language : Option String) (lines : List String) :
    Balanced c (Handler.drawCode c language lines) := by
  have hstart := (Balanced.startBlock c).trans (.flush _)
  have hwritten := (Balanced.kept c).append _ ("\n".intercalate lines).toList hstart
  unfold Handler.drawCode
  dsimp only
  split
  · exact hwritten.emit _ _
  · exact hwritten

theorem exit {a : Attribute} (h : Balanced (c.enter a) d) : Balanced c (d.exit a) := by
  have hchange (x : Canvas) (counts : List Nat) :
      Balanced { x with runs := { x.runs with counts } } (x.change counts) := by
    rcases x.change_cases counts with ⟨-, heq⟩ | ⟨-, heq⟩ <;> rw [heq] <;>
      exact ⟨rfl, rfl, rfl, rfl, rfl, rfl, rfl⟩
  have henter := hchange c.flush
    (a.indices.foldl (fun counts i => counts.modify i (· + 1)) c.flush.runs.counts)
  have hexit := hchange d
    (a.indices.foldl (fun counts i => counts.modify i (· - 1)) d.runs.counts)
  have hflush := flush c
  rw [← Canvas.enter_eq] at henter
  rw [← Canvas.exit_eq] at hexit
  have hrest := henter.trans h
  refine ⟨?_, hexit.links.trans (hrest.links.trans hflush.links),
    hexit.quotes.trans (hrest.quotes.trans hflush.quotes),
    hexit.marker.trans (hrest.marker.trans hflush.marker),
    hexit.depth.trans (hrest.depth.trans hflush.depth),
    hexit.lists.trans (hrest.lists.trans hflush.lists),
    hexit.emojiSize.trans (hrest.emojiSize.trans hflush.emojiSize)⟩
  rw [hexit.counts, hrest.counts, foldl_modify_cancel, hflush.counts]

theorem closeLink (h : Balanced c.openLink d) (url : String) : Balanced c (d.closeLink url) := by
  have hflush := flush c
  have hlinks : d.links = c.flush.length :: c.links := by
    rw [h.links, ← hflush.links]
    rfl
  have hclose : Balanced { d with links := c.links } (d.closeLink url) := by
    rw [Canvas.closeLink_eq hlinks]
    exact ⟨rfl, rfl, rfl, rfl, rfl, rfl, rfl⟩
  exact ⟨hclose.counts.trans (h.counts.trans hflush.counts), hclose.links,
    hclose.quotes.trans (h.quotes.trans hflush.quotes),
    hclose.marker.trans (h.marker.trans hflush.marker),
    hclose.depth.trans (h.depth.trans hflush.depth),
    hclose.lists.trans (h.lists.trans hflush.lists),
    hclose.emojiSize.trans (h.emojiSize.trans hflush.emojiSize)⟩

theorem closeQuote {config : Config} (h : Balanced (c.openQuote config) d) :
    Balanced c d.closeQuote := by
  have hstart := startBlock c
  have hquotes : d.quotes = ⟨c.startBlock.length, c.buffer.marker.length⟩ :: c.quotes := by
    rw [h.quotes, ← hstart.quotes, ← hstart.marker]
    rfl
  have hmarker : d.buffer.marker.take c.buffer.marker.length = c.buffer.marker := by
    have : d.buffer.marker = c.buffer.marker ++ config.quoteMarker.toList := by
      rw [h.marker, ← hstart.marker]
      rfl
    rw [this, List.take_left]
  have hclose : Balanced { d with
      buffer := d.buffer.popMarker c.buffer.marker.length, quotes := c.quotes } d.closeQuote := by
    rw [Canvas.closeQuote_eq hquotes]
    exact ⟨rfl, rfl, rfl, rfl, rfl, rfl, rfl⟩
  exact ⟨hclose.counts.trans (h.counts.trans hstart.counts),
    hclose.links.trans (h.links.trans hstart.links), hclose.quotes, hclose.marker.trans hmarker,
    hclose.depth.trans (h.depth.trans hstart.depth),
    hclose.lists.trans (h.lists.trans hstart.lists),
    hclose.emojiSize.trans (h.emojiSize.trans hstart.emojiSize)⟩

theorem closeList {start : Option UInt64} (h : Balanced (c.openList start) d) :
    Balanced c d.closeList := by
  have hlists : d.closeList.lists = c.lists := h.lists
  exact ⟨h.counts, h.links, h.quotes, h.marker, by rw [hlists], by rw [hlists], h.emojiSize⟩

theorem nextListMarker (c : Canvas) : Balanced c c.nextListMarker.2 := by
  unfold Canvas.nextListMarker
  dsimp only
  split
  · rename_i n lists hl
    exact ⟨rfl, rfl, rfl, rfl, by simp [hl], by simp [hl], rfl⟩
  · exact .refl c

end Balanced

/-- On the way out a handler takes back what it did on the way in, if what came in between took
back what that did. -/
def Handler.IsBalanced (handler : Handler) : Prop :=
  ∀ scene node parent next c d,
    Balanced (handler scene { node, entering := true, parent, next } c).2 d →
      Balanced c (handler scene { node, entering := false, parent, next } d).2

namespace Handler

theorem isBalanced_document : IsBalanced document := fun _ _ _ _ _ _ h => h

theorem isBalanced_paragraph : IsBalanced paragraph := fun _ _ _ _ _ _ h => h.separate _

theorem isBalanced_text : IsBalanced text := by
  intro scene node parent next c d h
  unfold text at h ⊢
  refine Balanced.trans ?_ h
  cases node.kind with
  | text s soft hard =>
    have hput := Balanced.put c s
    dsimp only
    split
    · exact hput.trans (.put _ _)
    · split
      · exact hput.trans (.put _ _)
      · exact hput
  | _ => exact .refl c

theorem isBalanced_heading : IsBalanced heading := fun _ _ _ _ _ _ h => h.exit.separate _

theorem isBalanced_inline : IsBalanced inline := by
  intro scene node parent next c d h
  unfold inline at h ⊢
  cases hk : node.kind with
  | inline a =>
    simp only [hk, if_true] at h
    exact h.exit
  | _ =>
    simp only [hk] at h
    exact h

theorem isBalanced_link : IsBalanced link := by
  intro scene node parent next c d h
  unfold link at h ⊢
  cases hk : node.kind with
  | link url =>
    simp only [hk, if_true] at h
    exact h.closeLink url
  | _ =>
    simp only [hk] at h
    exact h

theorem isBalanced_autolink : IsBalanced autolink := by
  intro scene node parent next c d h
  unfold autolink at h ⊢
  refine Balanced.trans ?_ h
  cases node.kind with
  | autolink url =>
    dsimp only
    split
    · exact .put c url
    · exact (Balanced.put c url).emit _ _
  | _ => exact .refl c

theorem isBalanced_blockquote : IsBalanced blockquote :=
  fun _ _ _ _ _ _ h => h.closeQuote.separate _

theorem isBalanced_codeBlock : IsBalanced codeBlock := by
  intro scene node parent next c d h
  unfold codeBlock at h ⊢
  cases hk : node.kind with
  | codeBlock language lines =>
    simp only [hk, if_true] at h
    exact ((Balanced.drawCode c language lines).trans h).separate _
  | _ =>
    simp only [hk] at h
    exact h

theorem isBalanced_list : IsBalanced list := by
  intro scene node parent next c d h
  unfold list at h ⊢
  cases hk : node.kind with
  | list start =>
    simp only [hk, if_true] at h
    refine Balanced.separate ?_ _
    split at h
    · exact (Balanced.startBlock c).trans h.closeList
    · exact (Balanced.ensureBreak c).trans h.closeList
  | _ =>
    simp only [hk] at h
    exact h

theorem isBalanced_listItem : IsBalanced listItem := by
  intro scene node parent next c d h
  refine Balanced.trans ?_ h
  exact ((Balanced.ensureBreak c).trans (.nextListMarker _)).trans (.put _ _)

theorem isBalanced_thematicBreak : IsBalanced thematicBreak := by
  intro scene node parent next c d h
  have hrule : Balanced c (c.startBlock.put "───") := (Balanced.startBlock c).trans (.put _ _)
  exact (hrule.trans h).separate _

theorem isBalanced_mention : IsBalanced mention := by
  intro scene node parent next c d h
  unfold mention at h ⊢
  refine Balanced.trans ?_ h
  cases node.kind with
  | mention target => exact (Balanced.kept c).mention (.refl c) scene target
  | _ => exact .refl c

theorem isBalanced_emoji : IsBalanced emoji := by
  intro scene node parent next c d h
  unfold emoji at h ⊢
  refine Balanced.trans ?_ h
  cases node.kind with
  | emoji e => exact (Balanced.kept c).anchor (.refl c) rfl
  | _ => exact .refl c

theorem isBalanced_fallback : IsBalanced fallback := by
  intro scene node parent next c d h
  unfold fallback at h ⊢
  cases hk : node.kind with
  | document =>
    simp only [hk] at h
    exact h
  | paragraph =>
    simp only [hk] at h
    exact isBalanced_paragraph scene node parent next c d h
  | text s soft hard =>
    simp only [hk] at h
    exact isBalanced_text scene node parent next c d h
  | _ =>
    simp only [hk] at h
    split at h
    · exact (Balanced.put c _).trans h
    · exact h

theorem isBalanced_of_mem_named {handler : Handler} (h : handler ∈ named.map (·.2)) :
    IsBalanced handler := by
  simp only [named, List.map_cons, List.map_nil, List.mem_cons, List.not_mem_nil, or_false] at h
  rcases h with rfl | rfl | rfl | rfl | rfl | rfl | rfl | rfl | rfl | rfl | rfl | rfl | rfl | rfl |
    rfl
  · exact isBalanced_fallback
  · exact isBalanced_document
  · exact isBalanced_paragraph
  · exact isBalanced_text
  · exact isBalanced_heading
  · exact isBalanced_inline
  · exact isBalanced_link
  · exact isBalanced_autolink
  · exact isBalanced_blockquote
  · exact isBalanced_codeBlock
  · exact isBalanced_list
  · exact isBalanced_listItem
  · exact isBalanced_thematicBreak
  · exact isBalanced_mention
  · exact isBalanced_emoji

end Handler

/-- A visitor takes back on the way out what it did on the way in. -/
def Visitor.IsBalanced (visitor : Visitor Canvas) : Prop :=
  ∀ node parent next c d, Balanced (visitor { node, entering := true, parent, next } c).2 d →
    Balanced c (visitor { node, entering := false, parent, next } d).2

theorem Registry.IsNamed.isBalanced {registry : Registry} (h : registry.IsNamed) (scene : Scene) :
    (registry.visitor scene).IsBalanced :=
  fun node parent next c d hd =>
    Handler.isBalanced_of_mem_named (h.mem_named node.tag) scene node parent next c d hd

mutual

/-- A walk over a tree leaves the canvas as it found it, up to what was drawn. -/
theorem balanced_walkNode {visitor : Visitor Canvas} (h : visitor.IsBalanced)
    (parent next : Option Node) :
    ∀ (node : Node) (c : Canvas), Balanced c (walkNode visitor parent next node c)
  | .mk kind children, c => by
    rw [walkNode]
    refine h _ _ _ c _ ?_
    rcases visitor { node := .mk kind children, entering := true, parent, next } c with ⟨flow, d⟩
    cases flow
    · exact balanced_walkAll h _ children d
    · exact .refl d

theorem balanced_walkAll {visitor : Visitor Canvas} (h : visitor.IsBalanced) (parent : Node) :
    ∀ (nodes : List Node) (c : Canvas), Balanced c (walkAll visitor parent nodes c)
  | [], c => by
    rw [walkAll]
    exact .refl c
  | node :: nodes, c => by
    rw [walkAll]
    exact (balanced_walkNode h _ _ node c).trans (balanced_walkAll h parent nodes _)

end

section Marker

variable (scene : Scene)

theorem marker_walkNode (parent next : Option Node) (node : Node) (c : Canvas) :
    (walkNode (Registry.builtin.visitor scene) parent next node c).buffer.marker
      = c.buffer.marker :=
  (balanced_walkNode (Registry.isNamed_builtin.isBalanced scene) parent next node c).marker

/-- The marker is changed by a quote and by nothing else. -/
theorem marker_visit (visit : Visit) (hquote : visit.node.tag ≠ .blockquote) (c : Canvas) :
    (Registry.builtin.visitor scene visit c).2.buffer.marker = c.buffer.marker := by
  obtain ⟨⟨kind, children⟩, entering, parent, next⟩ := visit
  have hout (d : Canvas) : (Registry.builtin.visitor scene
      { node := .mk kind children, entering := false, parent, next } d).2.buffer.marker
        = d.buffer.marker := by
    have hexit (a : Attribute) : (d.exit a).buffer = d.buffer := by
      rw [Canvas.exit_eq, Canvas.change_buffer]
    have hspace (e : Canvas) (visit : Visit) := ((Balanced.refl e).separate visit).marker
    cases kind with
    | document | text _ _ _ | autolink _ | listItem | mention _ | emoji _ => rfl
    | paragraph | codeBlock _ _ | list _ | thematicBreak => exact hspace _ _
    | heading level => exact (hspace _ _).trans (congrArg Buffer.marker (hexit .bold))
    | inline a => exact congrArg Buffer.marker (hexit a)
    | link url => exact congrArg Buffer.marker (d.closeLink_buffer url)
    | blockquote => exact absurd rfl hquote
  cases entering with
  | false => exact hout c
  | true =>
    -- the way out leaves the marker as it is and gives back the one before the way in
    have hbalanced := Registry.isNamed_builtin.isBalanced scene (.mk kind children) parent next c _
      (.refl _)
    rw [← hbalanced.marker, hout]

end Marker

end RichChat

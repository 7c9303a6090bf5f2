import Mathlib.Data.List.Forall2
import RichChat.Proofs.Covers
import RichChat.Proofs.Mentioned
import RichChat.Proofs.QuoteNest

/-!
# Links

What becomes a link is told of the passages through the nodes of a tree, each of which knows the
nodes around it and where the text was on the way in and on the way out: a link in which text was
written, and a bare address that is in no link. Their segments are listed in the order in which the
nodes are left, and no two of them overlap unless one contains the other (`Scene.links_renderNode`).

`Linked` says this of a part of the drawing. It is put together from parts one after the other
(`Linked.trans`) and closed by a link around them (`Linked.closeLink`).
-/

namespace RichChat

def NodeKind.isLink : NodeKind → Bool
  | .link _ => true
  | _ => false

def SegmentKind.isLink : SegmentKind → Bool
  | .link _ => true
  | _ => false

/-- A passage through a node, from the way in to the way out. -/
structure Passage where
  kind : NodeKind
  /-- The kinds of the nodes around it, the innermost first. -/
  above : List NodeKind
  /-- Where text would start on the way in, after a marker that is due. -/
  start : Nat
  /-- Where the text ends on the way out. -/
  stop : Nat

namespace Passage

/-- Links are shown if text was written in them, and bare addresses if they are in no link. -/
def isLinked (p : Passage) : Bool :=
  match p.kind with
  | .link _ => p.start < p.stop
  | .autolink _ => !p.above.any NodeKind.isLink
  | _ => false

/-- Whether a segment of a text is the link of a passage. That of a bare address which is one line
covers it. -/
def ShownIn (content : String) (p : Passage) (s : Segment) : Prop :=
  match p.kind with
  | .link url => s = ⟨p.start, p.stop, .link url⟩
  | .autolink url =>
    s.kind = .link url ∧
      ('\n' ∉ url.toList → Text.slice? content s.start s.stop = some url)
  | _ => False

theorem not_isLinked {p : Passage} (hlink : p.kind.isLink = false)
    (haddress : p.kind.tag ≠ .autolink) : p.isLinked = false := by
  obtain ⟨kind, above, start, stop⟩ := p
  cases kind with
  | link url => cases hlink
  | autolink url => exact absurd rfl haddress
  | _ => rfl

theorem ShownIn.mono {text longer : List Char} (hp : text <+: longer) {p : Passage} {s : Segment}
    (h : p.ShownIn (String.ofList text) s) : p.ShownIn (String.ofList longer) s := by
  unfold ShownIn at h ⊢
  split at h
  · exact h
  · exact ⟨h.1, fun hline => Text.slice?_mono hp (h.2 hline)⟩
  · exact h

end Passage

section Passages

variable (scene : Scene)

mutual

/-- The passages through the nodes of a tree, in the order in which they are left. -/
def passagesNode (above : List NodeKind) (parent next : Option Node) :
    Node → Canvas → List Passage
  | .mk kind children, c =>
    let node : Node := .mk kind children
    let visitor := Registry.builtin.visitor scene
    let (inner, stop) := match visitor { node, entering := true, parent, next } c with
      | (.proceed, d) =>
        (passagesAll (kind :: above) node children d, (walkAll visitor node children d).length)
      | (.skipChildren, d) => ([], d.length)
    inner ++ [{ kind, above, start := c.cursor.1, stop }]

def passagesAll (above : List NodeKind) (parent : Node) : List Node → Canvas → List Passage
  | [], _ => []
  | node :: nodes, c =>
    passagesNode above (some parent) nodes.head? node c
      ++ passagesAll above parent nodes
          (walkNode (Registry.builtin.visitor scene) (some parent) nodes.head? node c)

end

/-- What node is left at a visit, on the way out of it. -/
def Visit.left (visit : Visit) : List NodeKind := if visit.entering then [] else [visit.node.kind]

variable {scene}

mutual

/-- The passages are through the nodes that are visited. -/
theorem kinds_passagesNode (parent next : Option Node) :
    ∀ (node : Node) (above : List NodeKind) (c : Canvas),
      (passagesNode scene above parent next node c).map (·.kind)
        = (visitsNode (Registry.builtin.visitor scene) parent next node c).flatMap Visit.left
  | .mk kind children, above, c => by
    have hin : Visit.left { node := .mk kind children, entering := true, parent, next } = [] := rfl
    have hout : Visit.left { node := .mk kind children, entering := false, parent, next }
        = [kind] := rfl
    rw [passagesNode, visitsNode]
    rcases Registry.builtin.visitor scene
      { node := .mk kind children, entering := true, parent, next } c with ⟨flow, d⟩
    cases flow with
    | proceed => simp [hin, hout, Visit.back, kinds_passagesAll (.mk kind children) children]
    | skipChildren => simp [hin, hout, Visit.back]

theorem kinds_passagesAll (parent : Node) :
    ∀ (nodes : List Node) (above : List NodeKind) (c : Canvas),
      (passagesAll scene above parent nodes c).map (·.kind)
        = (visitsAll (Registry.builtin.visitor scene) parent nodes c).flatMap Visit.left
  | [], _, _ => rfl
  | node :: nodes, above, c => by
    rw [passagesAll, visitsAll, List.map_append, List.flatMap_append, kinds_passagesNode,
      kinds_passagesAll]

end

/-- The passages through a tree when it is rendered. -/
def Scene.passages (scene : Scene) (node : Node) : List Passage :=
  passagesNode scene [] none none node
    ((Canvas.fresh scene.config).sizeEmoji scene.config node)

end Passages

namespace Canvas

def linkSegments (c : Canvas) : List Segment := c.segments.filter (·.kind.isLink)

/-- Drawing one canvas on another has made the links of the passages. They lie in what has been
written. -/
structure Linked (c d : Canvas) (passages : List Passage) (links : List Segment) : Prop where
  text : c.buffer.text <+: d.buffer.text
  segments : d.linkSegments = c.linkSegments ++ links
  shown : List.Forall₂ (Passage.ShownIn d.content) (passages.filter (·.isLinked)) links
  within : ∀ s ∈ links, c.length ≤ s.start ∧ s.start ≤ s.stop ∧ s.stop ≤ d.length
  nests : links.Pairwise Segment.Nests

namespace Linked

variable {c d e : Canvas} {ps qs : List Passage} {links more : List Segment}

theorem still (htext : c.buffer.text <+: d.buffer.text)
    (hsegments : d.linkSegments = c.linkSegments) : Linked c d [] [] :=
  ⟨htext, by rw [hsegments, List.append_nil], .nil, nofun, .nil⟩

theorem trans (hcd : Linked c d ps links) (hde : Linked d e qs more) :
    Linked c e (ps ++ qs) (links ++ more) := by
  have hle : d.length ≤ e.length := Text.size_mono hde.text
  refine ⟨hcd.text.trans hde.text, ?_, ?_, fun s hs => ?_, ?_⟩
  · rw [hde.segments, hcd.segments, List.append_assoc]
  · rw [List.filter_append]
    exact List.rel_append (hcd.shown.imp fun _ _ => .mono hde.text) hde.shown
  · rcases List.mem_append.1 hs with hs | hs
    · obtain ⟨hstart, hord, hstop⟩ := hcd.within s hs
      exact ⟨hstart, hord, Nat.le_trans hstop hle⟩
    · obtain ⟨hstart, hord, hstop⟩ := hde.within s hs
      exact ⟨Nat.le_trans (Text.size_mono hcd.text) hstart, hord, hstop⟩
  · refine List.pairwise_append.2 ⟨hcd.nests, hde.nests, fun s hs t ht => .inl ?_⟩
    exact Nat.le_trans (hcd.within s hs).2.2 (hde.within t ht).1

/-- A passage that is shown as nothing. -/
theorem quiet (h : Linked c d ps links) {p : Passage} (hp : p.isLinked = false) :
    Linked c d (ps ++ [p]) links := by
  have hshown := h.shown
  exact ⟨h.text, h.segments, by simpa [hp] using hshown, h.within, h.nests⟩

/-- A link around what has been drawn. It starts where that starts. -/
theorem closeLink (h : Linked c.openLink d ps links) (hlinks : d.links = c.openLink.links)
    (above : List NodeKind) (url : String) :
    let p : Passage := ⟨.link url, above, c.cursor.1, d.length⟩
    ∃ more, Linked c.openLink (d.closeLink url) (ps ++ [p]) more := by
  intro p
  have hstart : d.links = p.start :: c.flush.links := hlinks
  rw [closeLink_eq hstart]
  by_cases hlt : p.start < d.length
  · let s : Segment := ⟨p.start, d.length, .link url⟩
    have hpass : p.isLinked = true := decide_eq_true hlt
    rw [if_pos hlt]
    refine ⟨links ++ [s], h.text, ?_, ?_, fun t ht => ?_, ?_⟩
    · show (d.segments ++ [s]).filter (·.kind.isLink) = _
      rw [List.filter_append, show d.segments.filter (·.kind.isLink) = _ from h.segments,
        List.append_assoc]
      rfl
    · rw [List.filter_append, List.filter_cons_of_pos hpass]
      exact List.rel_append h.shown (.cons rfl .nil)
    · rcases List.mem_append.1 ht with ht | ht
      · exact h.within t ht
      · obtain rfl := List.mem_singleton.1 ht
        exact ⟨Nat.le_refl _, Nat.le_of_lt hlt, Nat.le_refl _⟩
    · refine List.pairwise_append.2 ⟨h.nests, List.pairwise_singleton _ _, fun t ht u hu => .inr ?_⟩
      obtain rfl := List.mem_singleton.1 hu
      exact ⟨(h.within t ht).1, (h.within t ht).2.2⟩
  · rw [if_neg hlt, List.append_nil]
    have hpass : p.isLinked = false := decide_eq_false hlt
    have hquiet := h.quiet hpass
    exact ⟨links, hquiet.text, hquiet.segments, hquiet.shown, hquiet.within, hquiet.nests⟩

end Linked

theorem stable_linkSegments (links : List Segment) :
    Stable (fun kind => kind.isLink = false) fun c => c.linkSegments = links where
  flush {c} h := by
    rcases c.flush_cases with ⟨-, heq⟩ | ⟨-, heq⟩ <;> rw [heq]
    · exact h
    · exact (filter_addRun (fun _ _ _ => rfl) _ _ _ _).trans h
  append _ h := h
  change {c} counts h := by
    rcases c.change_cases counts with ⟨-, heq⟩ | ⟨-, heq⟩ <;> rw [heq]
    · exact h
    · exact (filter_addRun (fun _ _ _ => rfl) _ _ _ _).trans h
  push hk _ h := by simpa [linkSegments, push, hk] using h
  frame _ _ _ _ h := h

end Canvas

section Walk

variable (scene : Scene)

/-- At other nodes than links and bare addresses no links are made. -/
theorem linked_visitor (visit : Visit) (c : Canvas) (hlink : visit.node.kind.isLink = false)
    (haddress : visit.node.kind.tag ≠ .autolink) :
    c.Linked (Registry.builtin.visitor scene visit c).2 [] [] := by
  refine .still (Registry.isNamed_builtin.isPlanned scene visit c).prefix_text ?_
  have stable := Canvas.stable_linkSegments c.linkSegments
  have hmakes : ∀ kind, visit.makes kind = true → kind.isLink = false := by
    intro kind hk
    unfold Visit.makes at hk
    split at hk
    · simp_all [NodeKind.isLink]
    · simp_all [NodeKind.tag]
    · rfl
    · rfl
    · rfl
    · cases hk
  obtain ⟨⟨kind, children⟩, entering, parent, next⟩ := visit
  cases kind with
  | mention target =>
    cases entering with
    | true =>
      exact stable.mention ⟨fun _ => rfl, fun _ _ => rfl, fun _ => rfl⟩ (fun _ h => h) rfl target
    | false => rfl
  | _ => exact stable.visitor_makes _ (fun _ => nofun) hmakes rfl

theorem linked_openLink (c : Canvas) : c.Linked c.openLink [] [] := by
  refine .still ?_ ((Canvas.stable_linkSegments _).openLink rfl)
  show c.buffer.text <+: c.flush.buffer.text
  rw [Canvas.flush_buffer, Buffer.flush_eq_append]
  exact List.prefix_append _ _

/-- A bare address is a link unless it is in one. -/
theorem linked_autolink (c : Canvas) {above : List NodeKind}
    (hin : c.inLink = above.any NodeKind.isLink) (url : String) (start : Nat) :
    let d := if (c.put url).inLink then c.put url else (c.put url).emit (c.write url).1 (.link url)
    ∃ links, c.Linked d [⟨.autolink url, above, start, d.length⟩] links := by
  have hplanned : Planned {} c (c.put url) := (Planned.refl c).put url
  have hput : c.Linked (c.put url) [] [] :=
    .still hplanned.prefix_text ((Canvas.stable_linkSegments _).put rfl url)
  have hlinks : (c.put url).inLink = above.any NodeKind.isLink := by
    rw [Canvas.inLink, (Balanced.put c url).links]
    exact hin
  rw [hlinks]
  cases habove : above.any NodeKind.isLink with
  | true => exact ⟨[], hput.quiet (by simp [Passage.isLinked, habove])⟩
  | false =>
    let s : Segment := ⟨(c.write url).1.1, (c.write url).1.2, .link url⟩
    have hspans := c.spans_write url
    refine ⟨[s], hput.text, ?_, ?_, fun t ht => ?_, List.pairwise_singleton _ _⟩
    · show ((c.put url).segments ++ [s]).filter (·.kind.isLink) = _
      rw [List.filter_append, show (c.put url).segments.filter (·.kind.isLink) = _ from
        hput.segments, List.append_nil]
      rfl
    · rw [List.filter_cons_of_pos (by simp [Passage.isLinked, habove])]
      exact .cons ⟨rfl, c.slice?_write⟩ .nil
    · obtain rfl := List.mem_singleton.1 ht
      exact ⟨c.le_write url, hspans.le, hspans.stop.le⟩

/-- Links are closed on the way out of links, and nowhere else. -/
theorem links_leave (kind : NodeKind) (children : List Node) (parent next : Option Node)
    (hkind : kind.isLink = false) (c : Canvas) :
    (Registry.builtin.visitor scene { node := .mk kind children, entering := false, parent, next }
      c).2.links = c.links := by
  have hseparate (d : Canvas) (visit : Visit) : (d.separate visit).links = d.links :=
    ((Balanced.refl d).separate visit).links
  have hexit (a : Attribute) : (c.exit a).links = c.links := by
    simp [Canvas.exit_eq, Canvas.change, Canvas.pushRun_eq]
  have hquote : c.closeQuote.links = c.links := by
    rcases c.closeQuote_cases with ⟨-, heq⟩ | ⟨quote, quotes, -, heq | ⟨-, heq⟩⟩
    · rw [heq]
    · rw [heq]
    · rw [heq, Canvas.push]
  cases kind with
  | link url => cases hkind
  | paragraph => exact hseparate c _
  | heading level => exact (hseparate _ _).trans (hexit .bold)
  | inline a => exact hexit a
  | blockquote => exact (hseparate _ _).trans hquote
  | codeBlock language lines => exact hseparate c _
  | list start => exact hseparate c.closeList _
  | thematicBreak => exact hseparate c _
  | _ => rfl

/-- On the way into a link, and nowhere else, one is opened. -/
theorem inLink_enter (kind : NodeKind) (children : List Node) (parent next : Option Node)
    (c : Canvas) :
    (Registry.builtin.visitor scene { node := .mk kind children, entering := true, parent, next }
      c).2.inLink = (kind.isLink || c.inLink) := by
  cases hkind : kind.isLink with
  | true =>
    cases kind with
    | link url => rfl
    | _ => cases hkind
  | false =>
    have hbalanced := Registry.isNamed_builtin.isBalanced scene (.mk kind children) parent next c _
      (.refl _)
    have hlinks := (links_leave scene kind children parent next hkind _).symm.trans hbalanced.links
    rw [Canvas.inLink, hlinks]
    rfl

/-- A node that is no link has the links that are inside of it. -/
theorem linked_node (kind : NodeKind) (children : List Node) (above : List NodeKind)
    (parent next : Option Node) (c : Canvas) (hlink : kind.isLink = false)
    (haddress : kind.tag ≠ .autolink)
    (hinner : ∀ d : Canvas, d.inLink = c.inLink →
      ∃ links, d.Linked (walkAll (Registry.builtin.visitor scene) (.mk kind children) children d)
        (passagesAll scene (kind :: above) (.mk kind children) children d) links) :
    ∃ links, c.Linked
      (walkNode (Registry.builtin.visitor scene) parent next (.mk kind children) c)
      (passagesNode scene above parent next (.mk kind children) c) links := by
  have henter := linked_visitor scene
    { node := .mk kind children, entering := true, parent, next } c hlink haddress
  have hleave (d : Canvas) := linked_visitor scene
    { node := .mk kind children, entering := false, parent, next } d hlink haddress
  have hopen := inLink_enter scene kind children parent next c
  rw [hlink, Bool.false_or] at hopen
  rw [walkNode, passagesNode]
  rcases hv : Registry.builtin.visitor scene
    { node := .mk kind children, entering := true, parent, next } c with ⟨flow, d⟩
  rw [hv] at henter hopen
  have hself (start stop : Nat) : Passage.isLinked ⟨kind, above, start, stop⟩ = false :=
    Passage.not_isLinked hlink haddress
  cases flow with
  | proceed =>
    obtain ⟨links, hlinks⟩ := hinner d hopen
    refine ⟨links, .quiet ?_ (hself _ _)⟩
    simpa using (henter.trans hlinks).trans (hleave _)
  | skipChildren => exact ⟨[], .quiet (henter.trans (hleave _)) (hself _ _)⟩

mutual

/-- A walk makes the links of its passages. -/
theorem linked_walkNode (parent next : Option Node) :
    ∀ (node : Node) (above : List NodeKind) (c : Canvas), c.inLink = above.any NodeKind.isLink →
      ∃ links, c.Linked (walkNode (Registry.builtin.visitor scene) parent next node c)
        (passagesNode scene above parent next node c) links
  | .mk kind children, above, c, hin => by
    cases kind with
    | link url =>
      obtain ⟨links, hinner⟩ := linked_walkAll (.mk (.link url) children) children
        (.link url :: above) c.openLink rfl
      have hbalanced := balanced_walkAll (Registry.isNamed_builtin.isBalanced scene)
        (.mk (.link url) children) children c.openLink
      obtain ⟨links, hclose⟩ := hinner.closeLink hbalanced.links above url
      exact ⟨links, (linked_openLink c).trans hclose⟩
    | autolink url => exact linked_autolink c hin url _
    | _ =>
      refine linked_node scene _ children above parent next c rfl nofun fun d hd => ?_
      exact linked_walkAll _ children _ d (hd.trans hin)

theorem linked_walkAll (parent : Node) :
    ∀ (nodes : List Node) (above : List NodeKind) (c : Canvas),
      c.inLink = above.any NodeKind.isLink →
      ∃ links, c.Linked (walkAll (Registry.builtin.visitor scene) parent nodes c)
        (passagesAll scene above parent nodes c) links
  | [], above, c, hin => ⟨[], .still List.prefix_rfl rfl⟩
  | node :: nodes, above, c, hin => by
    have hbalanced := balanced_walkNode (Registry.isNamed_builtin.isBalanced scene) (some parent)
      nodes.head? node c
    obtain ⟨links, hnode⟩ := linked_walkNode (some parent) nodes.head? node above c hin
    obtain ⟨more, hnodes⟩ := linked_walkAll parent nodes above _
      (by rw [Canvas.inLink, hbalanced.links]; exact hin)
    exact ⟨_, hnode.trans hnodes⟩

end

end Walk

/-- The passages are through the nodes that are left, in their order. The links in a rendered tree
are those of the passages through links in which text was written and through bare addresses that
are in no link. Any two of them are disjoint or one contains the other. -/
theorem Scene.links_renderNode (scene : Scene) (node : Node) :
    let t := (scene.renderNode node).text
    let links := t.segments.filter (·.kind.isLink)
    (scene.passages node).map (·.kind) = (scene.visits node).flatMap Visit.left ∧
      List.Forall₂ (Passage.ShownIn t.content) ((scene.passages node).filter (·.isLinked)) links ∧
      links.Pairwise Segment.Nests := by
  intro t links
  let c := (Canvas.fresh scene.config).sizeEmoji scene.config node
  have hempty : c.linkSegments = [] ∧ c.inLink = false := by
    obtain ⟨emojiSize, hsize⟩ := (Canvas.fresh scene.config).sizeEmoji_eq scene.config node
    rw [show c = _ from hsize]
    exact ⟨rfl, rfl⟩
  obtain ⟨made, hmade⟩ := linked_walkNode scene none none node [] c hempty.2
  have hdraw : walkNode (Registry.builtin.visitor scene) none none node c
      = (Canvas.fresh scene.config).document .builtin scene node := (walk_eq_walkNode _ _ _).symm
  have hlinks : links = made := by
    have hfinish := (Canvas.stable_linkSegments made).finish rfl (hmade.segments.trans (by
      rw [hempty.1, List.nil_append]))
    rw [hdraw] at hfinish
    exact hfinish
  have hcontent : t.content
      = (walkNode (Registry.builtin.visitor scene) none none node c).content := by
    rw [hdraw]
    exact congrArg String.ofList (Canvas.finish_text _)
  rw [hlinks, hcontent]
  exact ⟨kinds_passagesNode none none node [] c, hmade.shown, hmade.nests⟩

/-- An image in a link: its address ends where that of the link does, and comes first in the list. A
bare address in the link is no link. -/
example :
    let node : Node := .mk .document [.mk .paragraph [.mk (.link "u") [
      .mk (.link "v") [.mk (.plain "a") []], .mk (.autolink "w") []], .mk (.link "x") []]]
    let t := (({} : Scene).renderNode node).text
    t.content = "aw" ∧ t.segments = [⟨0, 1, .link "v"⟩, ⟨0, 2, .link "u"⟩] := by
  intro node t
  constructor <;> cbv

end RichChat

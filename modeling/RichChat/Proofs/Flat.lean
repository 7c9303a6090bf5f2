import RichChat.Proofs.Everywhere

/-!
# Trees that can be taken apart

The inline elements of a tree have no block in them, if no block comes after inline elements in one
container (`Event.Lone`): there a block could only be in a spoiler that is still open
(`Node.flat_ofEvents`).

Up to the first inline element the open containers are blocks, and from there on no other block
starts, so that on the stack all blocks are below all spans (`Builder.Layered`).
-/

namespace RichChat

/-- Blocks with at most one block in each. -/
inductive Event.Lone : List Event → Prop
  | inline {events : List Event} (h : AreInline events) : Lone events
  | code (language : Option String) (text : List Char) :
    Lone [.startCode language, .text text, .stopCode]
  | rule : Lone [.rule]
  | around {c : Container} {inner : List Event} (h : Lone inner) (hc : c.isSpan = false) :
    Lone (c.around inner)

/-- The kinds of nodes that can have blocks in them, or the content of one. -/
def NodeTag.isContainer : NodeTag → Bool
  | .document | .paragraph | .heading | .blockquote | .list | .listItem => true
  | .text | .inline | .link | .autolink | .mention | .emoji | .codeBlock | .thematicBreak => false

theorem NodeTag.isInline_of_isContainer {tag : NodeTag} (h : tag.isContainer = true) :
    tag.isInline = false := by
  cases tag <;> first | rfl | cases h

theorem Container.isContainer_kind {c : Container} (h : c.isSpan = false) :
    c.kind.tag.isContainer = true := by
  cases c with
  | paragraph | heading | blockquote | list | item | html => rfl
  | _ => cases h

namespace Node

/-- A tree whose inline elements have no block in them. -/
def Flat (node : Node) : Prop := ∀ n ∈ node.inlines, n.AllInline

theorem forall_mem_inlinesAll {p : Node → Prop} {nodes : List Node} :
    (∀ n ∈ inlinesAll nodes, p n) ↔ ∀ node ∈ nodes, ∀ n ∈ node.inlines, p n := by
  induction nodes with
  | nil => simp [inlinesAll]
  | cons node nodes ih => rw [inlinesAll, List.forall_mem_append, List.forall_mem_cons, ih]

theorem flat_block {kind : NodeKind} {children : List Node} (h : kind.tag.isContainer = true) :
    (mk kind children).Flat ↔ ∀ n ∈ children, n.Flat := by
  have hinlines : (mk kind children).inlines = inlinesAll children := by
    cases kind with
    | document | paragraph | heading | blockquote | list | listItem => rw [inlines]
    | _ => cases h
  rw [Flat, hinlines]
  exact forall_mem_inlinesAll

theorem AllInline.flat {node : Node} (h : node.AllInline) : node.Flat := by
  obtain ⟨kind, children⟩ := node
  have hkind := (allInline_mk.1 h).1
  cases kind with
  | text | inline | link | autolink | mention | emoji => simpa [Flat, inlines] using h
  | _ => cases hkind

theorem flat_codeBlock (language : Option String) (lines : List String) :
    (leaf (.codeBlock language lines)).Flat := by
  rw [Flat, leaf, inlines, List.forall_mem_singleton]
  exact allInline_text _

theorem flat_thematicBreak : (leaf .thematicBreak).Flat := by
  rw [Flat, leaf, inlines]
  simp

end Node

namespace Builder

/-- The open containers, all blocks being around all spans. -/
inductive Layered : Frame → List Frame → Prop
  | blocks {top : Frame} {fs : List Frame}
      (h : ∀ f ∈ top :: fs, f.kind.tag.isContainer = true ∧ ∀ n ∈ f.children, n.Flat) :
      Layered top fs
  | span {top f : Frame} {fs : List Frame} (hkind : top.kind.tag.isInline = true)
      (h : ∀ n ∈ top.children, n.AllInline) (below : Layered f fs) : Layered top (f :: fs)

namespace Layered

variable {top f : Frame} {fs : List Frame}

theorem of_isContainer (h : Layered top fs) (hblock : top.kind.tag.isContainer = true) :
    ∀ f ∈ top :: fs, f.kind.tag.isContainer = true ∧ ∀ n ∈ f.children, n.Flat := by
  cases h with
  | blocks h => exact h
  | span hkind _ _ =>
    rw [NodeTag.isInline_of_isContainer hblock] at hkind
    cases hkind

theorem push_flat (h : Layered top fs) (hblock : top.kind.tag.isContainer = true) {xs : List Node}
    (hxs : ∀ n ∈ xs, n.Flat) : Layered (top.push xs) fs := by
  obtain ⟨⟨-, htop⟩, hfs⟩ := List.forall_mem_cons.1 (h.of_isContainer hblock)
  exact .blocks (List.forall_mem_cons.2 ⟨⟨hblock, List.forall_mem_append.2 ⟨htop, hxs⟩⟩, hfs⟩)

theorem push (h : Layered top fs) {xs : List Node} (hxs : ∀ n ∈ xs, n.AllInline) :
    Layered (top.push xs) fs := by
  cases h with
  | blocks hall =>
    exact push_flat (.blocks hall) (List.forall_mem_cons.1 hall).1.1 fun n hn => (hxs n hn).flat
  | span hkind h below => exact .span hkind (List.forall_mem_append.2 ⟨h, hxs⟩) below

theorem markBreak (h : Layered top fs) (hard : Bool) : Layered (top.markBreak hard) fs := by
  cases h with
  | blocks h =>
    obtain ⟨⟨hkind, htop⟩, hfs⟩ := List.forall_mem_cons.1 h
    refine .blocks (List.forall_mem_cons.2 ⟨⟨hkind, ?_⟩, hfs⟩)
    refine forall_mem_withBreak hard (fun s => (Node.allInline_leaf rfl).flat) ?_ htop
    intro s children hn
    have hinline : (Node.mk (.text s false false) children).AllInline := by
      simpa [Node.Flat, Node.inlines] using hn
    exact hinline.withBreak.flat
  | span hkind h below =>
    have hchildren := forall_mem_withBreak hard (fun s => Node.allInline_leaf rfl)
      (fun _ _ => Node.AllInline.withBreak) h
    exact .span hkind hchildren below

theorem close (h : Layered top (f :: fs)) : Layered (f.push [top.node]) fs := by
  cases h with
  | blocks h =>
    obtain ⟨⟨hkind, htop⟩, hfs⟩ := List.forall_mem_cons.1 h
    refine push_flat (.blocks hfs) (List.forall_mem_cons.1 hfs).1.1 ?_
    exact List.forall_mem_singleton.2 ((Node.flat_block hkind).2 htop)
  | span hkind h below =>
    exact below.push (List.forall_mem_singleton.2 (Node.allInline_mk.2 ⟨hkind, h⟩))

theorem giveUp (h : Layered top (f :: fs)) : Layered (f.push (unwrapped top)) fs := by
  have hbars := Node.allInline_text "||"
  cases h with
  | blocks h =>
    obtain ⟨⟨-, htop⟩, hfs⟩ := List.forall_mem_cons.1 h
    refine push_flat (.blocks hfs) (List.forall_mem_cons.1 hfs).1.1 ?_
    exact List.forall_mem_cons.2 ⟨hbars.flat, htop⟩
  | span hkind h below => exact below.push (List.forall_mem_cons.2 ⟨hbars, h⟩)

end Layered

theorem kept_layered : Kept inlineRules Layered where
  tokens _ _ _ _ _ := allInline_nodes
  push h hxs := h.push hxs
  markBreak hard _ h := h.markBreak hard
  start hd h := .span (Container.isInline_kind hd) (by simp) h
  bars _ h := .span rfl (by simp) h
  close h := h.close
  giveUp _ h := h.giveUp

/-- While no inline element has come, the open containers are blocks, and a block may be put in. -/
theorem layered_push {b : Builder} (h : Holds inlineRules Layered b)
    (hblock : b.top.kind.tag.isContainer = true) {node : Node} (hnode : node.Flat) :
    Holds inlineRules Layered (b.push [node]) :=
  ⟨h.frames.push_flat hblock (by simpa using hnode), List.forall_mem_cons.2
    (List.forall_mem_cons.1 h.spoilers), h.pending, h.code⟩

theorem layered_lone {events : List Event} (h : Event.Lone events) {b : Builder}
    (hb : Holds inlineRules Layered b) (hblock : b.top.kind.tag.isContainer = true)
    (hpending : b.pending = []) (hcode : b.code = none) :
    Holds inlineRules Layered (events.foldl event b) := by
  induction h generalizing b with
  | inline h => exact kept_layered.foldl (fun e he => permits_of_isInline (h.inline e he)) hb
  | code language text =>
    have hfold : [.startCode language, .text text, .stopCode].foldl event b
        = b.push [.leaf (.codeBlock language (codeLines text))] := by
      obtain ⟨top, below, pending, code⟩ := b
      obtain rfl : code = none := hcode
      have hflush := flush_of_pending hpending
      simp [event, hflush, push]
    rw [hfold]
    exact layered_push hb hblock (Node.flat_codeBlock _ _)
  | rule =>
    have hfold : [.rule].foldl event b = b.push [.leaf .thematicBreak] := by
      simp [event, hcode, flush_of_pending hpending]
    rw [hfold]
    exact layered_push hb hblock Node.flat_thematicBreak
  | @around c inner _ hc ih =>
    have hkind := Container.isContainer_kind hc
    have hstart : event b (.start c) = b.openFrame { kind := c.kind } := by
      simp [event, hcode, flush_of_pending hpending]
    -- All that is open around the new block are blocks too, so that it is the topmost of them.
    have hopened : Holds inlineRules Layered (b.openFrame { kind := c.kind }) := by
      refine ⟨.blocks ?_, List.forall_mem_cons.2 ⟨by rintro ⟨⟩, hb.spoilers⟩, hb.pending, hb.code⟩
      refine List.forall_mem_cons.2 ⟨⟨hkind, fun n hn => ?_⟩, hb.frames.of_isContainer hblock⟩
      exact absurd hn List.not_mem_nil
    rw [Container.around, List.cons_append, List.foldl_cons, hstart, List.foldl_append]
    exact kept_layered.event (ih hopened hkind hpending hcode) (e := .stop) trivial

end Builder

/-- The inline elements of blocks with at most one block in each have no block in them. -/
theorem Node.flat_ofEvents {events : List Event} (h : Event.Lone events) :
    (ofEvents events).Flat := by
  have hstart : Builder.Layered { kind := .document } [] :=
    .blocks (by simp [NodeKind.tag, NodeTag.isContainer])
  obtain ⟨root, hroot, heq⟩ :=
    Builder.kept_layered.finish (Builder.layered_lone h (.start hstart) rfl rfl rfl)
  rw [ofEvents, heq]
  cases hroot with
  | blocks h =>
    obtain ⟨hkind, hchildren⟩ := List.forall_mem_singleton.1 h
    exact (flat_block hkind).2 hchildren

end RichChat

import RichChat.Markdown.Tree
import RichChat.Proofs.InlineEvents
import RichChat.Proofs.OpenContainers

/-!
# The first block of a document

What the first block of a source is, the tree of the source starts with (`ofSource_first`). If that
is a paragraph or a heading, it has nothing but inline elements in it, at any depth.

Both come of what is on the stack of a builder, before and after each event (`Builder.Kept`).
-/

namespace RichChat

/-- The kinds of nodes that stand within a line of text. -/
def NodeTag.isInline : NodeTag → Bool
  | .text | .inline | .link | .autolink | .mention | .emoji => true
  | .document | .paragraph | .heading | .blockquote | .codeBlock | .list | .listItem
  | .thematicBreak => false

theorem Container.isInline_kind {c : Container} (h : c.isSpan = true) :
    c.kind.tag.isInline = true := by
  cases c with
  | strong underscores => cases underscores <;> rfl
  | emphasis | strikethrough | link => rfl
  | _ => cases h

namespace Node

/-- A node with nothing but inline elements in it, itself included. -/
def AllInline (node : Node) : Prop := ∀ n ∈ node.preorder, n.tag.isInline = true

variable {kind : NodeKind} {children : List Node}

theorem forall_mem_preorderAll {p : Node → Prop} {nodes : List Node} :
    (∀ n ∈ preorderAll nodes, p n) ↔ ∀ node ∈ nodes, ∀ n ∈ node.preorder, p n := by
  induction nodes with
  | nil => simp [preorderAll]
  | cons node nodes ih =>
    rw [preorderAll, List.forall_mem_append, List.forall_mem_cons, ih]

theorem forall_mem_preorder_mk {p : Node → Prop} :
    (∀ n ∈ (mk kind children).preorder, p n)
      ↔ p (mk kind children) ∧ ∀ node ∈ children, ∀ n ∈ node.preorder, p n := by
  rw [preorder, List.forall_mem_cons, forall_mem_preorderAll]

theorem allInline_mk :
    (mk kind children).AllInline ↔ kind.tag.isInline = true ∧ ∀ n ∈ children, n.AllInline :=
  forall_mem_preorder_mk

theorem allInline_leaf (h : kind.tag.isInline = true) : (leaf kind).AllInline :=
  allInline_mk.2 ⟨h, by simp⟩

theorem allInline_text (s : String) : (text s).AllInline := allInline_leaf rfl

/-- A line break after a text changes nothing. -/
theorem AllInline.withBreak {s : String} {hard : Bool}
    (h : (mk (.text s false false) children).AllInline) :
    (mk (.text s (!hard) hard) children).AllInline :=
  allInline_mk.2 ⟨rfl, (allInline_mk.1 h).2⟩

end Node

namespace Builder

section First

variable {first : Node}

/-- The outermost container is a document that starts with `first`. -/
def Begins (first : Node) : Frame → List Frame → Prop
  | top, [] => top.kind = .document ∧ ∃ rest, top.children = first :: rest
  | _, f :: fs => Begins first f fs

theorem Begins.push {top : Frame} {fs : List Frame} (h : Begins first top fs) (xs : List Node) :
    Begins first (top.push xs) fs := by
  cases fs with
  | nil =>
    obtain ⟨hkind, rest, hrest⟩ := h
    exact ⟨hkind, rest ++ xs, by rw [Frame.push, hrest]; rfl⟩
  | cons f fs => exact h

/-- A break is put on the last child, and on none but a text. -/
theorem Frame.exists_withBreak (hf : first.tag ≠ .text) (hard : Bool) (rest : List Node) :
    ∃ rest', Frame.withBreak hard (first :: rest) = first :: rest' := by
  unfold Frame.withBreak
  split
  · contradiction
  · rename_i heq
    cases heq
    exact absurd rfl hf
  · rename_i heq
    cases heq
    exact ⟨_, rfl⟩
  · rename_i heq
    cases heq
    exact ⟨_, rfl⟩

theorem kept_begins (hf : first.tag ≠ .text) : Kept {} (Begins first) where
  tokens _ _ _ _ _ _ _ := trivial
  push h _ := h.push _
  markBreak {top fs} hard _ h := by
    cases fs with
    | nil =>
      obtain ⟨hkind, rest, hrest⟩ := h
      obtain ⟨rest', heq⟩ := Frame.exists_withBreak hf hard rest
      exact ⟨hkind, rest', by rw [Frame.markBreak, hrest, heq]⟩
    | cons f fs => exact h
  start _ h := h
  bars _ h := h
  close {_ f fs} h := (show Begins first f fs from h).push _
  giveUp {_ f fs} _ h := (show Begins first f fs from h).push _

theorem finish_of_begins {b : Builder} (hf : first.tag ≠ .text) (h : Holds {} (Begins first) b) :
    ∃ rest, b.finish = .mk .document (first :: rest) := by
  obtain ⟨root, ⟨hkind, rest, hrest⟩, heq⟩ := (kept_begins hf).finish h
  exact ⟨rest, by rw [heq, Frame.node, hkind, hrest]⟩

end First

section Within

variable {c : Container}

/-- Inline elements, or the container with nothing but inline elements in it. -/
def Fills (c : Container) (n : Node) : Prop :=
  n.AllInline ∨ n.kind = c.kind ∧ ∀ m ∈ n.children, m.AllInline

/-- The open containers of a document with one block that is not a span: spans in that block or
behind it. -/
inductive Spanned (c : Container) : Frame → List Frame → Prop
  | document {f : Frame} (h : ∀ n ∈ f.children, Fills c n) : Spanned c f []
  | block {top f : Frame} (hkind : top.kind = c.kind) (h : ∀ n ∈ top.children, n.AllInline)
      (below : ∀ n ∈ f.children, Fills c n) : Spanned c top [f]
  | span {top f : Frame} {fs : List Frame} (hkind : top.kind.tag.isInline = true)
      (h : ∀ n ∈ top.children, n.AllInline) (below : Spanned c f fs) : Spanned c top (f :: fs)

theorem Spanned.push {top : Frame} {fs : List Frame} (h : Spanned c top fs) {xs : List Node}
    (hxs : ∀ n ∈ xs, n.AllInline) : Spanned c (top.push xs) fs := by
  cases h with
  | document h =>
    exact .document (List.forall_mem_append.2 ⟨h, fun n hn => .inl (hxs n hn)⟩)
  | block hkind h below => exact .block hkind (List.forall_mem_append.2 ⟨h, hxs⟩) below
  | span hkind h below => exact .span hkind (List.forall_mem_append.2 ⟨h, hxs⟩) below

theorem forall_mem_withBreak {p : Node → Prop} (hard : Bool)
    (hbreak : ∀ s, p (.leaf (.text s (!hard) hard)))
    (htext : ∀ s children, p (.mk (.text s false false) children) →
      p (.mk (.text s (!hard) hard) children)) {nodes : List Node} (h : ∀ n ∈ nodes, p n) :
    ∀ n ∈ Frame.withBreak hard nodes, p n := by
  fun_induction Frame.withBreak hard nodes with
  | case1 => simpa using hbreak ""
  | case2 s children => simpa using htext s children (by simpa using h)
  | case3 node _ => simpa [hbreak ""] using h
  | case4 node nodes _ _ ih =>
    obtain ⟨hnode, hnodes⟩ := List.forall_mem_cons.1 h
    exact List.forall_mem_cons.2 ⟨hnode, ih hnodes⟩

/-- Nothing but inline elements, and nothing but spans around them. -/
def inlineRules : Rules where
  good _ := Node.AllInline
  opens d := d.isSpan = true

theorem allInline_nodes {link : Bool} {t : Token} : ∀ n ∈ t.nodes link, n.AllInline := by
  cases t with
  | url address =>
    cases link with
    | true => simpa [Token.nodes] using Node.allInline_text _
    | false => simpa [Token.nodes] using Node.allInline_leaf rfl
  | text run | spoiler => simpa [Token.nodes] using Node.allInline_text _
  | _ => simpa [Token.nodes] using Node.allInline_leaf rfl

theorem kept_spanned (hc : c.kind.tag.isInline = false) : Kept inlineRules (Spanned c) where
  tokens _ _ _ _ _ := allInline_nodes
  push h hxs := h.push hxs
  markBreak {top fs} hard _ h := by
    have hinline (p : Node → Prop) (hp : ∀ n : Node, n.AllInline → p n)
        (htext : ∀ s children, p (.mk (.text s false false) children) →
          p (.mk (.text s (!hard) hard) children)) (hall : ∀ n ∈ top.children, p n) :
        ∀ n ∈ (top.markBreak hard).children, p n :=
      forall_mem_withBreak hard (fun s => hp _ (Node.allInline_leaf rfl)) htext hall
    cases h with
    | document h =>
      refine .document (hinline (Fills c) (fun n hn => .inl hn) ?_ h)
      rintro s children (h | ⟨hkind, h⟩)
      · exact .inl h.withBreak
      · exact absurd hc (by rw [← hkind]; simp [Node.kind, NodeKind.tag, NodeTag.isInline])
    | block hkind h below =>
      exact .block hkind (hinline _ (fun _ hn => hn) (fun _ _ => .withBreak) h) below
    | span hkind h below =>
      exact .span hkind (hinline _ (fun _ hn => hn) (fun _ _ => .withBreak) h) below
  start hd h := .span (Container.isInline_kind hd) (by simp) h
  bars _ h := .span rfl (by simp) h
  close h := by
    cases h with
    | block hkind h below =>
      refine .document (List.forall_mem_append.2 ⟨below, ?_⟩)
      simpa using .inr ⟨hkind, h⟩
    | span hkind h below =>
      exact below.push (by simpa [Frame.node] using Node.allInline_mk.2 ⟨hkind, h⟩)
  giveUp _ h := by
    have hbars := Node.allInline_text "||"
    cases h with
    | block hkind h below =>
      refine .document (List.forall_mem_append.2 ⟨below, ?_⟩)
      exact List.forall_mem_cons.2 ⟨.inl hbars, fun n hn => .inl (h n hn)⟩
    | span hkind h below => exact below.push (List.forall_mem_cons.2 ⟨hbars, h⟩)

theorem permits_of_isInline {e : Event} (h : e.isInline = true) : inlineRules.Permits e := by
  cases e with
  | start d => exact h
  | rule | stopCode => cases h
  | text run | html run => exact fun _ _ => trivial
  | code text => exact fun _ => Node.allInline_mk.2 ⟨rfl, by simpa using Node.allInline_text text⟩
  | _ => trivial

/-- A block of inline content becomes one node with nothing but inline elements in it. -/
theorem exists_block {inner : List Event} (h : Event.AreInline inner)
    (hc : c.kind.tag.isInline = false) : ∃ children, (∀ n ∈ children, n.AllInline) ∧
      (c.around inner).foldl event {} = push {} [.mk c.kind children] := by
  obtain ⟨children, hnode⟩ := (keeps_of_nested h.nested).exists_children c false
  have hfold := hnode {} rfl rfl
  refine ⟨children, ?_, hfold⟩
  have hstart : Holds inlineRules (Spanned c)
      { top := { kind := c.kind }, below := [{ kind := .document }] } :=
    ⟨.block rfl (by simp) (by simp), by simp, by simp, by simp⟩
  have hpermits : ∀ e ∈ inner ++ [Event.stop], inlineRules.Permits e := by
    refine List.forall_mem_append.2 ⟨fun e he => permits_of_isInline (h.inline e he), ?_⟩
    simpa using permits_of_isInline (e := .stop) rfl
  have hend := ((kept_spanned hc).foldl (b := Builder.event {} (.start c)) hpermits hstart).frames
  have hrun : (inner ++ [Event.stop]).foldl event (Builder.event {} (.start c))
      = push {} [.mk c.kind children] := hfold
  rw [hrun] at hend
  cases hend with
  | document hfills =>
    rcases hfills (.mk c.kind children) (by simp [push, Frame.push]) with hinline | ⟨-, hall⟩
    · rw [(Node.allInline_mk.1 hinline).1] at hc
      cases hc
    · exact hall

end Within

/-- The events make one node. A paragraph or a heading has nothing but inline elements in it. -/
def MakeBlock (events : List Event) : Prop :=
  ∃ node : Node, events.foldl event {} = push {} [node] ∧ node.tag ≠ .text
    ∧ (node.tag = .paragraph ∨ node.tag = .heading → ∀ n ∈ node.children, n.AllInline)

theorem makeBlock_inline {c : Container} {inner : List Event} (h : Event.AreInline inner)
    (hc : c.kind.tag.isInline = false) : MakeBlock (c.around inner) := by
  obtain ⟨children, hall, hnode⟩ := exists_block h hc
  refine ⟨_, hnode, fun htext => ?_, fun _ => hall⟩
  rw [show c.kind.tag = .text from htext] at hc
  cases hc

theorem makeBlock_nested {c : Container} {inner : List Event} (h : Event.Nested inner)
    (hc : c.kind.tag ≠ .text) (hparagraph : c.kind.tag ≠ .paragraph)
    (hheading : c.kind.tag ≠ .heading) : MakeBlock (c.around inner) := by
  obtain ⟨children, hnode⟩ := (keeps_of_nested h).exists_children c false
  refine ⟨_, hnode {} rfl rfl, hc, fun htag => ?_⟩
  rcases htag with htag | htag
  · exact absurd htag hparagraph
  · exact absurd htag hheading

theorem makeBlock_events (definitions : Markdown.Definitions) (block : Markdown.Block) :
    MakeBlock (block.events definitions false) := by
  cases block with
  | paragraph content =>
    rw [Markdown.Block.events, if_neg Bool.false_ne_true]
    exact makeBlock_inline (Markdown.areInline_content definitions content) rfl
  | heading level content =>
    rw [Markdown.Block.events]
    exact makeBlock_inline (Markdown.areInline_content definitions content) rfl
  | html text =>
    rw [Markdown.Block.events]
    exact makeBlock_inline (.leaf rfl rfl) rfl
  | quote blocks =>
    rw [Markdown.Block.events]
    exact makeBlock_nested (Markdown.Block.nested_allEvents definitions false blocks)
      nofun nofun nofun
  | list first tight items =>
    rw [Markdown.Block.events]
    exact makeBlock_nested (Markdown.Block.nested_allEvents definitions tight items)
      nofun nofun nofun
  | item blocks =>
    rw [Markdown.Block.events]
    exact makeBlock_nested (Markdown.Block.nested_allEvents definitions false blocks)
      nofun nofun nofun
  | code name text =>
    rw [Markdown.Block.events]
    exact ⟨_, rfl, nofun, by rintro (h | h) <;> cases h⟩
  | rule =>
    rw [Markdown.Block.events]
    exact ⟨_, rfl, nofun, by rintro (h | h) <;> cases h⟩

end Builder

/-- The tree of a source is a document. If the first block in it is a paragraph or a heading, that
has nothing but inline elements in it. -/
theorem Node.ofSource_first (source : String) :
    (ofSource source).kind = .document ∧ ∀ first rest, (ofSource source).children = first :: rest →
      first.tag = .paragraph ∨ first.tag = .heading → ∀ n ∈ first.children, n.AllInline := by
  unfold ofSource Markdown.events
  dsimp only
  generalize (((Markdown.Line.split source.toList).foldl Markdown.Outline.step {}).finish) = outline
  cases hblocks : outline.blocks with
  | nil =>
    rw [Markdown.Block.allEvents]
    exact ⟨rfl, fun first rest h => nomatch h⟩
  | cons block blocks =>
    obtain ⟨node, hfold, htext, hinline⟩ := Builder.makeBlock_events outline.definitions block
    have hbegins : Builder.Holds {} (Builder.Begins node) (Builder.push {} [node]) :=
      ⟨⟨rfl, [], rfl⟩, by simp [Builder.push, Builder.Frame.push], nofun, nofun⟩
    have hpermits :=
      Builder.Rules.permits_all (Markdown.Block.allEvents outline.definitions false blocks)
    have hrest := (Builder.kept_begins htext).foldl hpermits hbegins
    obtain ⟨later, htree⟩ := Builder.finish_of_begins htext hrest
    rw [Markdown.Block.allEvents, Node.ofEvents, List.foldl_append, hfold, htree]
    refine ⟨rfl, fun first rest h htag => ?_⟩
    obtain ⟨rfl, -⟩ := List.cons.inj h
    exact hinline htag

end RichChat

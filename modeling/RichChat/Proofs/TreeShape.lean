import RichChat.Proofs.FirstBlock

/-!
# The shape of trees

Any sequence of events gives a document with no other document in it, in which each node is
well-formed (`Node.WellFormed`) and each line break of the events is on one text, in their order
(`Node.ofEvents_shape`).

While the events are read, this is so of everything in the open containers (`Builder.Stacked`). An
address is only put in outside of links, and bars never open a spoiler right inside another one.
-/

namespace RichChat

/-- The kinds of nodes that have nothing in them. -/
def NodeTag.isLeaf : NodeTag → Bool
  | .text | .autolink | .mention | .emoji | .codeBlock | .thematicBreak => true
  | .document | .paragraph | .heading | .inline | .link | .blockquote | .list | .listItem => false

namespace Node

/-- What every node of a tree that was read is like. -/
structure WellFormed (node : Node) : Prop where
  leaf : node.tag.isLeaf = true → node.children = []
  /-- Not both a soft and a hard line break follow a text. -/
  once : ∀ s, node.kind ≠ .text s true true
  /-- Nothing in a link is linked again. -/
  unlinked : node.tag = .link → ∀ n ∈ preorderAll node.children, n.tag ≠ .autolink
  unnested : node.kind = .inline .spoiler → ∀ n ∈ node.children, n.kind ≠ .inline .spoiler

/-- The line break that follows a text, and whether it is hard. -/
def break? (node : Node) : Option Bool :=
  match node.kind with
  | .text _ true false => some false
  | .text _ false true => some true
  | _ => none

/-- The line breaks in a list of trees, in their order. -/
def breaks (nodes : List Node) : List Bool := (preorderAll nodes).filterMap break?

/-- A tree that may stand in a container, which may be in a link. -/
def Shaped (link : Bool) (node : Node) : Prop :=
  ∀ n ∈ node.preorder, n.WellFormed ∧ n.tag ≠ .document ∧ (link = true → n.tag ≠ .autolink)

end Node

namespace Event

/-- The line break that an event stands for, and whether it is hard. -/
def break? (inCode : Bool) : Event → Option Bool
  | softBreak => if inCode then none else some false
  | hardBreak => if inCode then none else some true
  | _ => none

/-- Whether the next event is in a code block. -/
def leavesCode (inCode : Bool) : Event → Bool
  | startCode _ => true
  | stopCode => false
  | _ => inCode

/-- The line breaks outside of code blocks. -/
def breaks : Bool → List Event → List Bool
  | _, [] => []
  | inCode, e :: events => (e.break? inCode).toList ++ breaks (e.leavesCode inCode) events

end Event

namespace Node

variable {kind : NodeKind} {children nodes xs ys : List Node}

theorem wellFormed_mk (hcontainer : kind.tag.isLeaf = false)
    (hlink : kind.tag = .link → ∀ n ∈ preorderAll children, n.tag ≠ .autolink)
    (hspoiler : kind = .inline .spoiler → ∀ n ∈ children, n.kind ≠ .inline .spoiler) :
    (mk kind children).WellFormed := by
  refine ⟨fun h => ?_, fun s hs => ?_, hlink, hspoiler⟩
  · exact absurd (hcontainer.symm.trans h) Bool.false_ne_true
  · obtain rfl : kind = .text s true true := hs
    cases hcontainer

theorem preorderAll_append : preorderAll (xs ++ ys) = preorderAll xs ++ preorderAll ys := by
  induction xs with
  | nil => rw [preorderAll, List.nil_append, List.nil_append]
  | cons x xs ih => rw [List.cons_append, preorderAll, preorderAll, ih, List.append_assoc]

theorem breaks_append : breaks (xs ++ ys) = breaks xs ++ breaks ys := by
  simp only [breaks, preorderAll_append, List.filterMap_append]

theorem breaks_cons {node : Node} : breaks (node :: nodes) = breaks [node] ++ breaks nodes :=
  show breaks ([node] ++ nodes) = _ from breaks_append

theorem breaks_nil : breaks [] = [] := by simp [breaks, preorderAll]

theorem breaks_mk : breaks [.mk kind children]
    = (break? (.mk kind children)).toList ++ breaks children := by
  simp only [breaks, preorderAll, preorder, List.append_nil]
  cases h : break? (mk kind children) <;> simp [h]

theorem breaks_leaf : breaks [.leaf kind] = (break? (.leaf kind)).toList := by
  rw [leaf, breaks_mk, breaks_nil, List.append_nil]

theorem breaks_container (h : kind.tag ≠ .text) : breaks [.mk kind children] = breaks children := by
  rw [breaks_mk]
  cases kind with
  | text => exact absurd rfl h
  | _ => rfl

theorem breaks_text (s : String) : breaks [.text s] = [] := breaks_leaf

theorem breaks_eq_nil (h : ∀ n ∈ xs, breaks [n] = []) : breaks xs = [] := by
  induction xs with
  | nil => exact breaks_nil
  | cons x xs ih =>
    obtain ⟨hx, hxs⟩ := List.forall_mem_cons.1 h
    rw [breaks_cons, hx, ih hxs, List.append_nil]

theorem shaped_mk {link : Bool} : (mk kind children).Shaped link ↔ ((mk kind children).WellFormed ∧
    kind.tag ≠ .document ∧ (link = true → kind.tag ≠ .autolink)) ∧ ∀ n ∈ children, n.Shaped link :=
  forall_mem_preorder_mk

theorem Shaped.weaken {node : Node} {outer inner : Bool} (h : node.Shaped inner)
    (hlink : outer = true → inner = true) : node.Shaped outer :=
  fun n hn => ⟨(h n hn).1, (h n hn).2.1, fun ho => (h n hn).2.2 (hlink ho)⟩

theorem shaped_leaf {link : Bool} (hkind : kind.tag.isLeaf = true)
    (honce : ∀ s, kind ≠ .text s true true) (hlink : link = true → kind.tag ≠ .autolink) :
    (leaf kind).Shaped link := by
  refine shaped_mk.2 ⟨⟨⟨fun _ => rfl, honce, ?_, ?_⟩, ?_, hlink⟩, by simp⟩
  · exact fun _ => by simp [children, preorderAll]
  · exact fun _ => by simp [children]
  · intro hdocument
    rw [hdocument] at hkind
    cases hkind

theorem shaped_text {link : Bool} (s : String) : (text s).Shaped link :=
  shaped_leaf rfl (by simp [NodeKind.plain]) (by simp [NodeKind.plain, NodeKind.tag])

end Node

namespace Builder

open Node (breaks Shaped)

/-- A container in which everything is shaped as it should be. -/
structure Frame.Sound (link : Bool) (f : Frame) : Prop where
  container : f.kind.tag.isLeaf = false
  spoiler : f.kind = .inline .spoiler ↔ f.spoiler = true
  children : ∀ n ∈ f.children, n.Shaped link
  unnested : f.spoiler = true → ∀ n ∈ f.children, n.kind ≠ .inline .spoiler

theorem Frame.Sound.withChildren {link : Bool} {f : Frame} (h : f.Sound link) {xs : List Node}
    (hxs : ∀ n ∈ xs, n.Shaped link)
    (hbars : f.spoiler = true → ∀ n ∈ xs, n.kind ≠ .inline .spoiler) :
    Frame.Sound link { f with children := xs } :=
  ⟨h.container, h.spoiler, hxs, hbars⟩

theorem linked_cons (top f : Frame) (fs : List Frame) :
    linked top (f :: fs) = (top.isLink || linked f fs) := rfl

/-- The open containers, in which all is shaped as it should be and the line breaks are given. -/
inductive Stacked : List Bool → Frame → List Frame → Prop
  | root {f : Frame} (sound : f.Sound (linked f [])) (hkind : f.kind = .document) :
      Stacked (breaks f.children) f []
  | inner {L : List Bool} {top f : Frame} {fs : List Frame}
      (sound : top.Sound (linked top (f :: fs))) (hkind : top.kind.tag ≠ .document)
      (hbars : top.spoiler = true → f.spoiler = false) (below : Stacked L f fs) :
      Stacked (L ++ breaks top.children) top (f :: fs)

namespace Stacked

variable {L M : List Bool} {top f : Frame} {fs : List Frame}

theorem sound (h : Stacked L top fs) : top.Sound (linked top fs) := by
  cases h with
  | root sound _ => exact sound
  | inner sound _ _ _ => exact sound

/-- The innermost container gets other children. -/
theorem children (h : Stacked L top fs) {xs : List Node}
    (hxs : ∀ n ∈ xs, n.Shaped (linked top fs))
    (hbars : top.spoiler = true → ∀ n ∈ xs, n.kind ≠ .inline .spoiler)
    (hbreaks : breaks xs = breaks top.children ++ M) :
    Stacked (L ++ M) { top with children := xs } fs := by
  cases h with
  | root sound hkind =>
    rw [← hbreaks]
    exact root (f := { top with children := xs }) (sound.withChildren hxs hbars) hkind
  | inner sound hkind hb below =>
    rw [List.append_assoc, ← hbreaks]
    exact @inner _ { top with children := xs } _ _ (sound.withChildren hxs hbars) hkind hb below

theorem push (h : Stacked L top fs) {xs : List Node} (hxs : ∀ n ∈ xs, n.Shaped (linked top fs))
    (hbars : top.spoiler = true → ∀ n ∈ xs, n.kind ≠ .inline .spoiler) (hbreaks : breaks xs = M) :
    Stacked (L ++ M) (top.push xs) fs := by
  refine h.children (List.forall_mem_append.2 ⟨h.sound.children, hxs⟩) ?_ ?_
  · exact fun hs => List.forall_mem_append.2 ⟨h.sound.unnested hs, hbars hs⟩
  · rw [Node.breaks_append, hbreaks]

theorem breaks_withBreak (hard : Bool) {nodes : List Node} {link : Bool}
    (h : ∀ n ∈ nodes, n.Shaped link) :
    breaks (Frame.withBreak hard nodes) = breaks nodes ++ [hard] := by
  have hleaf (s : String) : breaks [.leaf (.text s (!hard) hard)] = [hard] := by
    rw [Node.breaks_leaf]
    cases hard <;> rfl
  fun_induction Frame.withBreak hard nodes with
  | case1 => rw [hleaf, Node.breaks_nil, List.nil_append]
  | case2 s children =>
    obtain rfl : children = [] := (Node.shaped_mk.1 (h _ List.mem_cons_self)).1.1.leaf rfl
    exact (hleaf s).trans (by simp [Node.breaks_mk, Node.breaks_nil, Node.break?, Node.kind])
  | case3 node _ => rw [Node.breaks_cons, hleaf]
  | case4 node nodes _ _ ih =>
    rw [Node.breaks_cons, ih (List.forall_mem_cons.1 h).2, @Node.breaks_cons nodes,
      List.append_assoc]

theorem markBreak (h : Stacked L top fs) (hard : Bool) :
    Stacked (L ++ [hard]) (top.markBreak hard) fs := by
  have hleaf (s : String) (link : Bool) : (Node.leaf (.text s (!hard) hard)).Shaped link := by
    refine Node.shaped_leaf rfl (fun t ht => ?_) (by simp [NodeKind.tag])
    cases hard <;> cases ht
  refine h.children ?_ ?_ (breaks_withBreak hard h.sound.children)
  · refine forall_mem_withBreak hard (fun s => hleaf s _) (fun s children hn => ?_) h.sound.children
    obtain rfl : children = [] := (Node.shaped_mk.1 hn).1.1.leaf rfl
    exact hleaf s _
  · intro hs
    refine forall_mem_withBreak hard (fun s => ?_) (fun s children _ => ?_) (h.sound.unnested hs)
    · simp [Node.kind, Node.leaf]
    · simp [Node.kind]

theorem close (h : Stacked L top (f :: fs)) : Stacked L (f.push [top.node]) fs := by
  cases h with
  | inner sound hkind hbars below =>
    have hleaf (tag : NodeTag) (htag : tag.isLeaf = true) : top.kind.tag ≠ tag := by
      rintro rfl
      rw [sound.container] at htag
      cases htag
    have hwell : top.node.WellFormed := by
      refine Node.wellFormed_mk sound.container (fun h => ?_) fun h => ?_
      · have hlinked : linked top (f :: fs) = true := by
          simpa [linked, Frame.isLink] using .inl h
        exact Node.forall_mem_preorderAll.2 fun n hn m hm =>
          (sound.children n hn m hm).2.2 hlinked
      · exact sound.unnested (sound.spoiler.1 h)
    refine below.push ?_ ?_ ?_
    · rw [List.forall_mem_singleton]
      refine Node.shaped_mk.2 ⟨⟨hwell, hkind, fun _ => hleaf .autolink rfl⟩, fun n hn => ?_⟩
      exact (sound.children n hn).weaken fun hlink => by rw [linked_cons, hlink, Bool.or_true]
    · intro hs
      rw [List.forall_mem_singleton]
      intro hspoiler
      rw [hbars (sound.spoiler.1 hspoiler)] at hs
      cases hs
    · exact Node.breaks_container (hleaf .text rfl)

theorem giveUp (h : Stacked L top (f :: fs)) (hspoiler : top.spoiler = true) :
    Stacked L (f.push (unwrapped top)) fs := by
  cases h with
  | inner sound hkind hbars below =>
    refine below.push (List.forall_mem_cons.2 ⟨Node.shaped_text _, fun n hn => ?_⟩) ?_ ?_
    · exact (sound.children n hn).weaken fun hlink => by rw [linked_cons, hlink, Bool.or_true]
    · intro hs
      rw [hbars hspoiler] at hs
      cases hs
    · rw [unwrapped, Node.breaks_cons, Node.breaks_text, List.nil_append]

end Stacked

/-- What is shaped as it should be and has no line breaks, where no lines break. -/
def shapeRules : Rules where
  good link n := n.Shaped link ∧ n.kind ≠ .inline .spoiler ∧ breaks [n] = []
  breaks := False

theorem good_leaf {link : Bool} (kind : NodeKind) (hkind : kind.tag.isLeaf = true)
    (htext : kind.tag ≠ .text) (hlink : link = true → kind.tag ≠ .autolink) :
    shapeRules.good link (.leaf kind) := by
  refine ⟨Node.shaped_leaf hkind ?_ hlink, ?_, (Node.breaks_container htext).trans Node.breaks_nil⟩
  · rintro s rfl
    exact htext rfl
  · rintro rfl
    cases hkind

theorem good_text {link : Bool} (s : String) : shapeRules.good link (.text s) := by
  refine ⟨Node.shaped_text s, ?_, Node.breaks_text s⟩
  rintro ⟨⟩

theorem good_nodes {link : Bool} {t : Token} : ∀ n ∈ t.nodes link, shapeRules.good link n := by
  cases t with
  | url address =>
    cases link with
    | true => simpa [Token.nodes] using good_text _
    | false =>
      have hgood : shapeRules.good false (.leaf (.autolink (String.ofList address))) :=
        good_leaf _ rfl (by simp [NodeKind.tag]) (by simp)
      simpa [Token.nodes] using hgood
  | text run | spoiler => simpa [Token.nodes] using good_text _
  | mention target =>
    have hgood : shapeRules.good link (.leaf (.mention target)) :=
      good_leaf _ rfl (by simp [NodeKind.tag]) (by simp [NodeKind.tag])
    simpa [Token.nodes] using hgood
  | emoji e =>
    have hgood : shapeRules.good link (.leaf (.emoji e)) :=
      good_leaf _ rfl (by simp [NodeKind.tag]) (by simp [NodeKind.tag])
    simpa [Token.nodes] using hgood

theorem good_code {link : Bool} (text : String) :
    shapeRules.good link (.mk (.inline .monospace) [.text text]) := by
  have hspoiler : NodeKind.inline .monospace ≠ .inline .spoiler := by decide
  have hwell : (Node.mk (.inline .monospace) [.text text]).WellFormed :=
    Node.wellFormed_mk rfl (by simp [NodeKind.tag]) fun h => absurd h hspoiler
  refine ⟨Node.shaped_mk.2 ⟨⟨hwell, by simp [NodeKind.tag], by simp [NodeKind.tag]⟩, ?_⟩,
    hspoiler, ?_⟩
  · exact List.forall_mem_singleton.2 (Node.shaped_text text)
  · exact (Node.breaks_container (by simp [NodeKind.tag])).trans (Node.breaks_text text)

theorem kind_of_container (c : Container) :
    c.kind.tag.isLeaf = false ∧ c.kind.tag ≠ .document ∧ c.kind ≠ .inline .spoiler := by
  cases c with
  | strong underscores => cases underscores <;> decide
  | emphasis | strikethrough => decide
  | _ => simp [Container.kind, NodeKind.tag, NodeTag.isLeaf]

theorem kept_stacked (L : List Bool) : Kept shapeRules (Stacked L) where
  tokens _ _ _ _ _ := good_nodes
  push {top fs xs} h hxs := by
    have hpush := h.push (fun n hn => (hxs n hn).1) (fun _ n hn => (hxs n hn).2.1)
      (Node.breaks_eq_nil fun n hn => (hxs n hn).2.2)
    rwa [List.append_nil] at hpush
  markBreak _ h := h.elim
  start {top fs c} _ h := by
    obtain ⟨hleaf, hdocument, hspoiler⟩ := kind_of_container c
    have hsound : Frame.Sound (linked { kind := c.kind } (top :: fs)) { kind := c.kind } :=
      ⟨hleaf, by simp [hspoiler], by simp, by simp⟩
    have hinner := Stacked.inner hsound hdocument (by simp) h
    rwa [Node.breaks_nil, List.append_nil] at hinner
  bars {top fs} hs h := by
    have hsound : Frame.Sound (linked { kind := .inline .spoiler, spoiler := true } (top :: fs))
        { kind := .inline .spoiler, spoiler := true } := ⟨rfl, by simp, by simp, by simp⟩
    have hinner := Stacked.inner hsound (by simp [NodeKind.tag]) (fun _ => hs) h
    rwa [Node.breaks_nil, List.append_nil] at hinner
  close h := h.close
  giveUp hs h := h.giveUp hs

theorem permits_of_break? {e : Event} (h : e.break? false = none) : shapeRules.Permits e := by
  cases e with
  | text run | html run => exact fun _ _ => trivial
  | code text => exact fun _ => good_code text
  | rule => exact fun _ => good_leaf _ rfl (by simp [NodeKind.tag]) (by simp [NodeKind.tag])
  | stopCode =>
    exact fun _ _ _ _ => good_leaf _ rfl (by simp [NodeKind.tag]) (by simp [NodeKind.tag])
  | softBreak | hardBreak => cases h
  | _ => trivial

theorem code_close (b : Builder) : b.close.code = b.code := by
  unfold close
  split <;> rfl

theorem code_flush (b : Builder) : b.flush.code = b.code := flushWith_code Token.scan b

theorem code_event (b : Builder) (e : Event) :
    (b.event e).code.isSome = e.leavesCode b.code.isSome := by
  have hstop : b.stop.code = b.code := (code_close _).trans (code_flush b)
  unfold event
  split
  · rename_i language text hcode
    cases e <;> simp [Event.leavesCode, push, hcode]
  · rename_i hcode
    cases e <;> simp [Event.leavesCode, push, openFrame, code_flush, hstop, hcode]

/-- An event adds the line break that it stands for. -/
theorem stacked_event {L : List Bool} {b : Builder} (h : Holds shapeRules (Stacked L) b)
    (e : Event) :
    Holds shapeRules (Stacked (L ++ (e.break? b.code.isSome).toList)) (b.event e) := by
  have hbreak (hard : Bool) : Holds shapeRules (Stacked (L ++ [hard]))
      { b.flush with top := b.flush.top.markBreak hard } := by
    have hflush := (kept_stacked L).flush h
    exact ⟨hflush.frames.markBreak hard, List.forall_mem_cons.2
      (List.forall_mem_cons.1 hflush.spoilers), hflush.pending, hflush.code⟩
  have hother (hno : e.break? false = none) : Holds shapeRules (Stacked L) (b.event e) :=
    (kept_stacked L).event h (permits_of_break? hno)
  cases e with
  | softBreak =>
    cases hcode : b.code with
    | none => simpa [event, hcode, Event.break?] using hbreak false
    | some code => simpa [event, hcode, Event.break?] using h
  | hardBreak =>
    cases hcode : b.code with
    | none => simpa [event, hcode, Event.break?] using hbreak true
    | some code => simpa [event, hcode, Event.break?] using h
  | _ => simpa [Event.break?] using hother rfl

theorem stacked_foldl {L : List Bool} {b : Builder} (h : Holds shapeRules (Stacked L) b)
    (events : List Event) : Holds shapeRules (Stacked (L ++ Event.breaks b.code.isSome events))
      (events.foldl event b) := by
  induction events generalizing b L with
  | nil => rwa [Event.breaks, List.append_nil]
  | cons e events ih =>
    have hnext := ih (stacked_event h e)
    rwa [List.append_assoc, code_event] at hnext

end Builder

namespace Node

/-- Any events give a document, and all in it is shaped as it should be. -/
theorem ofEvents_eq_mk (events : List Event) :
    ∃ children, ofEvents events = .mk .document children ∧ (∀ n ∈ children, n.Shaped false) ∧
      breaks children = Event.breaks false events := by
  have hsound : Builder.Frame.Sound (Builder.linked { kind := .document } [])
      { kind := .document } := ⟨rfl, by simp, by simp, by simp⟩
  have hstart : Builder.Stacked [] { kind := .document } [] := by
    have hroot := Builder.Stacked.root hsound rfl
    rwa [breaks_nil] at hroot
  have hfold := Builder.stacked_foldl (.start hstart) events
  obtain ⟨root, hroot, heq⟩ := (Builder.kept_stacked _).finish hfold
  rw [List.nil_append] at hroot
  generalize hbreaks : Event.breaks (Builder.code {}).isSome events = L at hroot
  cases hroot with
  | root sound hkind =>
    refine ⟨root.children, ?_, ?_, hbreaks.symm⟩
    · rw [ofEvents, heq, Builder.Frame.node, hkind]
    · exact fun n hn => (sound.children n hn).weaken fun h => absurd h Bool.false_ne_true

theorem wellFormed_ofEvents (events : List Event) :
    ∀ n ∈ (ofEvents events).preorder, n.WellFormed := by
  obtain ⟨children, heq, hshaped, -⟩ := ofEvents_eq_mk events
  have hwell : (mk .document children).WellFormed :=
    wellFormed_mk rfl (by simp [NodeKind.tag]) (by simp)
  rw [heq]
  exact forall_mem_preorder_mk.2 ⟨hwell, fun n hn m hm => (hshaped n hn m hm).1⟩

end Node

/-- Any events, balanced or not, give a document with no other document in it. Its texts, addresses,
mentions, emoji, code blocks and thematic breaks have nothing in them, no text has two line breaks,
no link has an address in it and no spoiler is right inside another one. The line breaks on its
texts are those of the events outside of code blocks, in their order. -/
theorem Node.ofEvents_shape (events : List Event) :
    (ofEvents events).kind = .document ∧
    (∀ n ∈ preorderAll (ofEvents events).children, n.kind ≠ .document) ∧
    (∀ n ∈ (ofEvents events).preorder, n.WellFormed) ∧
    (ofEvents events).preorder.filterMap break? = Event.breaks false events := by
  have hwell := wellFormed_ofEvents events
  obtain ⟨children, heq, hshaped, hbreaks⟩ := ofEvents_eq_mk events
  rw [heq] at hwell ⊢
  refine ⟨rfl, ?_, hwell, ?_⟩
  · intro n hn hdocument
    have h := forall_mem_preorderAll.2 hshaped n hn
    exact h.2.1 (congrArg NodeKind.tag hdocument)
  · rw [preorder, List.filterMap_cons_none rfl]
    exact hbreaks

end RichChat

import RichChat.Proofs.FirstBlock
import RichChat.Proofs.Invariant

/-!
# What holds of every node of a parsed tree

A property of the kinds of nodes holds everywhere in a tree that is read from events, if it holds of
all containers and of what the events put into these (`Builder.everywhere_ofEvents`). The inline
elements that are taken out of a tree keep it, if code may become text (`Node.everywhere_inlines`).
-/

namespace RichChat

namespace Node

variable {ok : NodeKind → Prop}

theorem everywhere_mk {kind : NodeKind} {children : List Node} :
    (mk kind children).Everywhere ok ↔ ok kind ∧ ∀ n ∈ children, n.Everywhere ok :=
  forall_mem_preorder_mk

theorem everywhere_leaf {kind : NodeKind} (h : ok kind) : (leaf kind).Everywhere ok :=
  everywhere_mk.2 ⟨h, by simp⟩

mutual

theorem everywhere_inlines (hcode : ∀ language lines, ok (.codeBlock language lines) →
    ok (.plain (" ".intercalate lines))) :
    ∀ node : Node, node.Everywhere ok → ∀ n ∈ node.inlines, n.Everywhere ok
  | .mk kind children, h => by
    have hall := everywhere_inlinesAll hcode children (everywhere_mk.1 h).2
    cases kind with
    | document | paragraph | heading _ | blockquote | list _ | listItem =>
      rw [inlines]
      exact hall
    | codeBlock language lines =>
      rw [inlines, List.forall_mem_singleton]
      exact everywhere_leaf (hcode language lines (everywhere_mk.1 h).1)
    | thematicBreak =>
      rw [inlines]
      simp
    | _ => simpa [inlines] using h

theorem everywhere_inlinesAll (hcode : ∀ language lines, ok (.codeBlock language lines) →
    ok (.plain (" ".intercalate lines))) :
    ∀ nodes : List Node, (∀ n ∈ nodes, n.Everywhere ok) → ∀ n ∈ inlinesAll nodes, n.Everywhere ok
  | [], _ => by simp [inlinesAll]
  | node :: nodes, h => by
    obtain ⟨hnode, hnodes⟩ := List.forall_mem_cons.1 h
    rw [inlinesAll]
    exact List.forall_mem_append.2
      ⟨everywhere_inlines hcode node hnode, everywhere_inlinesAll hcode nodes hnodes⟩

end

end Node

namespace Builder

variable {ok : NodeKind → Prop}

/-- Rules under which a property of kinds of nodes holds everywhere. -/
structure Rules.Spread (R : Rules) (ok : NodeKind → Prop) : Prop where
  good : ∀ link n, R.good link n → n.Everywhere ok
  tokens : ∀ link pending, (∀ c ∈ pending, R.fine c) → ∀ t ∈ Token.scan pending,
    ∀ n ∈ t.nodes link, R.good link n
  breaks : R.breaks → ∀ s hard, ok (.text s (!hard) hard)
  containers : ∀ c : Container, ok c.kind
  document : ok .document
  spoiler : ok (.inline .spoiler)
  bars : ok (.plain "||")

/-- The property holds of all open containers and everywhere in them. -/
def AllFrames (ok : NodeKind → Prop) (top : Frame) (fs : List Frame) : Prop :=
  ∀ f ∈ top :: fs, ok f.kind ∧ ∀ n ∈ f.children, n.Everywhere ok

theorem allFrames_cons {top : Frame} {fs : List Frame} : AllFrames ok top fs ↔
    (ok top.kind ∧ ∀ n ∈ top.children, n.Everywhere ok) ∧
      ∀ f ∈ fs, ok f.kind ∧ ∀ n ∈ f.children, n.Everywhere ok :=
  List.forall_mem_cons

theorem AllFrames.push {top : Frame} {fs : List Frame} (h : AllFrames ok top fs)
    {xs : List Node} (hxs : ∀ n ∈ xs, n.Everywhere ok) : AllFrames ok (top.push xs) fs := by
  obtain ⟨⟨hkind, hall⟩, hfs⟩ := allFrames_cons.1 h
  exact allFrames_cons.2 ⟨⟨hkind, List.forall_mem_append.2 ⟨hall, hxs⟩⟩, hfs⟩

theorem Rules.Spread.kept {R : Rules} (hR : R.Spread ok) : Kept R (AllFrames ok) where
  tokens := hR.tokens
  push h hxs := h.push fun n hn => hR.good _ n (hxs n hn)
  markBreak hard hbreaks h := by
    obtain ⟨⟨hkind, hall⟩, hfs⟩ := allFrames_cons.1 h
    refine allFrames_cons.2 ⟨⟨hkind, forall_mem_withBreak hard ?_ ?_ hall⟩, hfs⟩
    · exact fun s => Node.everywhere_leaf (hR.breaks hbreaks s hard)
    · intro s children hn
      exact Node.everywhere_mk.2 ⟨hR.breaks hbreaks s hard, (Node.everywhere_mk.1 hn).2⟩
  start {top fs c} _ h := List.forall_mem_cons.2 ⟨⟨hR.containers c, by simp⟩, h⟩
  bars _ h := List.forall_mem_cons.2 ⟨⟨hR.spoiler, by simp⟩, h⟩
  close {top f fs} h := by
    obtain ⟨htop, hfs⟩ := allFrames_cons.1 h
    have hnode : top.node.Everywhere ok := Node.everywhere_mk.2 htop
    exact AllFrames.push hfs (by simpa using hnode)
  giveUp {top f fs} _ h := by
    obtain ⟨⟨-, hall⟩, hfs⟩ := allFrames_cons.1 h
    exact AllFrames.push hfs (List.forall_mem_cons.2 ⟨Node.everywhere_leaf hR.bars, hall⟩)

theorem everywhere_ofEvents {R : Rules} (hR : R.Spread ok) {events : List Event}
    (h : ∀ e ∈ events, R.Permits e) : (Node.ofEvents events).Everywhere ok := by
  have hstart : AllFrames ok { kind := .document } [] :=
    allFrames_cons.2 ⟨⟨hR.document, by simp⟩, by simp⟩
  obtain ⟨root, hroot, heq⟩ := hR.kept.ofEvents hstart h
  rw [heq]
  exact Node.everywhere_mk.2 (allFrames_cons.1 hroot).1

end Builder

end RichChat

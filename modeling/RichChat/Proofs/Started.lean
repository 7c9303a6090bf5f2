import RichChat.Proofs.TreeShape

/-!
# What starts is in the tree

A container that starts outside of code blocks becomes a node of its kind
(`Node.exists_mem_preorder_ofEvents`): while it is open it is no spoiler, so that nothing takes it
apart, and after that it stays where it has been put.
-/

namespace RichChat

namespace Node

variable {kind : NodeKind}

theorem mem_preorderAll {n : Node} {nodes : List Node} :
    n ∈ preorderAll nodes ↔ ∃ node ∈ nodes, n ∈ node.preorder := by
  induction nodes with
  | nil => simp [preorderAll]
  | cons node nodes ih => simp [preorderAll, ih]

/-- Whether there is a node of a kind among some nodes and everything below them. -/
def HasKind (kind : NodeKind) (nodes : List Node) : Prop := ∃ n ∈ preorderAll nodes, n.kind = kind

theorem hasKind_iff {nodes : List Node} :
    HasKind kind nodes ↔ ∃ node ∈ nodes, ∃ n ∈ node.preorder, n.kind = kind := by
  simp only [HasKind, mem_preorderAll]
  constructor
  · rintro ⟨n, ⟨node, hnode, hn⟩, hkind⟩
    exact ⟨node, hnode, n, hn, hkind⟩
  · rintro ⟨node, hnode, n, hn, hkind⟩
    exact ⟨n, ⟨node, hnode, hn⟩, hkind⟩

theorem HasKind.mono {xs ys : List Node} (h : HasKind kind xs) (hsub : xs ⊆ ys) :
    HasKind kind ys := by
  obtain ⟨node, hnode, hn⟩ := hasKind_iff.1 h
  exact hasKind_iff.2 ⟨node, hsub hnode, hn⟩

theorem hasKind_mk {kind' : NodeKind} {children : List Node} :
    HasKind kind [.mk kind' children] ↔ kind' = kind ∨ HasKind kind children := by
  simp [HasKind, preorderAll, preorder, Node.kind]

theorem hasKind_cons {node : Node} {nodes : List Node} :
    HasKind kind (node :: nodes) ↔ HasKind kind [node] ∨ HasKind kind nodes := by
  simp [hasKind_iff]

/-- A line break changes nothing but texts. -/
theorem HasKind.withBreak (hkind : kind.tag ≠ .text) (hard : Bool) {nodes : List Node}
    (h : HasKind kind nodes) : HasKind kind (Builder.Frame.withBreak hard nodes) := by
  fun_induction Builder.Frame.withBreak hard nodes with
  | case1 => exact h.mono (by simp)
  | case2 s children =>
    rw [hasKind_mk] at h ⊢
    refine h.imp_left fun heq => ?_
    rw [← heq] at hkind
    exact absurd rfl hkind
  | case3 node _ => exact h.mono (by simp)
  | case4 node nodes _ _ ih =>
    rw [hasKind_cons] at h ⊢
    exact h.imp_right ih

end Node

namespace Builder

open Node (HasKind)

variable {kind : NodeKind}

/-- Whether a container or something in it has a kind. What a spoiler is does not count. -/
def Frame.Has (kind : NodeKind) (f : Frame) : Prop :=
  f.spoiler = false ∧ f.kind = kind ∨ HasKind kind f.children

/-- Whether one of the open containers or something in them has a kind. -/
def Has (kind : NodeKind) (top : Frame) (fs : List Frame) : Prop := ∃ f ∈ top :: fs, f.Has kind

theorem Frame.Has.push {f : Frame} (h : f.Has kind) (xs : List Node) : (f.push xs).Has kind :=
  h.imp_right fun h => h.mono (List.subset_append_left _ _)

theorem Frame.has_push {f : Frame} {xs : List Node} (h : HasKind kind xs) :
    (f.push xs).Has kind :=
  .inr (h.mono (List.subset_append_right _ _))

theorem Has.below {top f : Frame} {fs : List Frame} (h : Has kind top fs) :
    Has kind f (top :: fs) := by
  obtain ⟨g, hg, hhas⟩ := h
  exact ⟨g, List.mem_cons_of_mem _ hg, hhas⟩

/-- What a container has is kept when it is put into the one around it. -/
theorem Has.into {top f : Frame} {fs : List Frame} (h : Has kind top (f :: fs)) {xs : List Node}
    (hxs : top.Has kind → HasKind kind xs) : Has kind (f.push xs) fs := by
  obtain ⟨g, hg, hhas⟩ := h
  rcases List.mem_cons.1 hg with rfl | hg
  · exact ⟨_, List.mem_cons_self, Frame.has_push (hxs hhas)⟩
  · rcases List.mem_cons.1 hg with rfl | hg
    · exact ⟨_, List.mem_cons_self, hhas.push xs⟩
    · exact ⟨g, List.mem_cons_of_mem _ hg, hhas⟩

theorem kept_has (hkind : kind.tag ≠ .text) : Kept {} (Has kind) where
  tokens _ _ _ _ _ _ _ := trivial
  push := by
    rintro top fs xs ⟨g, hg, hhas⟩ -
    rcases List.mem_cons.1 hg with rfl | hg
    · exact ⟨_, List.mem_cons_self, hhas.push xs⟩
    · exact ⟨g, List.mem_cons_of_mem _ hg, hhas⟩
  markBreak := by
    rintro top fs hard - ⟨g, hg, hhas⟩
    rcases List.mem_cons.1 hg with rfl | hg
    · exact ⟨_, List.mem_cons_self, hhas.imp_right (·.withBreak hkind hard)⟩
    · exact ⟨g, List.mem_cons_of_mem _ hg, hhas⟩
  start _ h := h.below
  bars _ h := h.below
  close h := h.into fun htop => Node.hasKind_mk.2 (htop.imp_left And.right)
  giveUp hspoiler h := h.into fun htop => by
    rcases htop with ⟨hno, -⟩ | hchildren
    · rw [hspoiler] at hno
      cases hno
    · exact hchildren.mono (List.subset_cons_self _ _)

theorem code_foldl_eq_none {events : List Event} (h : ∀ language, .startCode language ∉ events)
    {b : Builder} (hb : b.code = none) : (events.foldl event b).code = none := by
  induction events generalizing b with
  | nil => exact hb
  | cons e events ih =>
    refine ih (fun language hmem => h language (List.mem_cons_of_mem _ hmem)) ?_
    have hcode := code_event b e
    rw [hb] at hcode
    cases e with
    | startCode language => exact absurd List.mem_cons_self (h language)
    | _ => exact Option.isNone_iff_eq_none.1 (Option.isSome_eq_false_iff.1 hcode)

theorem has_start {b : Builder} (hb : b.code = none) (c : Container) :
    Has c.kind (b.event (.start c)).top (b.event (.start c)).below := by
  refine ⟨_, List.mem_cons_self, .inl ?_⟩
  simp only [event, hb]
  exact ⟨rfl, rfl⟩

theorem kept_true : Kept {} fun _ _ => True where
  tokens _ _ _ _ _ _ _ := trivial
  push _ _ := trivial
  markBreak _ _ _ := trivial
  start _ _ := trivial
  bars _ _ := trivial
  close _ := trivial
  giveUp _ _ := trivial

end Builder

theorem Container.tag_kind_ne_text (c : Container) : c.kind.tag ≠ .text := by
  cases c with
  | strong underscores => cases underscores <;> nofun
  | _ => nofun

/-- A container that starts becomes a node. -/
theorem Node.exists_mem_preorder_ofEvents {events : List Event} {c : Container}
    (hcode : ∀ language, .startCode language ∉ events) (h : .start c ∈ events) :
    ∃ n ∈ (ofEvents events).preorder, n.kind = c.kind := by
  obtain ⟨pre, post, rfl⟩ := List.append_of_mem h
  have hnone : (pre.foldl Builder.event {}).code = none :=
    Builder.code_foldl_eq_none
      (fun language hmem => hcode language (List.mem_append_left _ hmem)) rfl
  have hpre := Builder.kept_true.foldl (Builder.Rules.permits_all pre) (.start trivial)
  have hstart := Builder.kept_true.event hpre (e := .start c) trivial
  have hkept := Builder.kept_has c.tag_kind_ne_text
  have hpost := hkept.foldl (Builder.Rules.permits_all post)
    ⟨Builder.has_start hnone c, hstart.spoilers, hstart.pending, hstart.code⟩
  obtain ⟨root, ⟨f, hf, hhas⟩, heq⟩ := hkept.finish hpost
  obtain rfl := List.mem_singleton.1 hf
  rw [ofEvents, List.foldl_append, List.foldl_cons, heq]
  obtain ⟨n, hn, hkind⟩ := Node.hasKind_mk.2 (hhas.imp_left And.right)
  rw [preorderAll, preorderAll, List.append_nil] at hn
  exact ⟨n, hn, hkind⟩

end RichChat

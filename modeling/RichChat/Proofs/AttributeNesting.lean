import Mathlib
import RichChat.Proofs.Faults

/-!
# Attributes inside of attributes

It does not matter how attributes are nested: one set around another one is drawn as their union is,
in either order, and a set around itself as it is alone. The text, the segments and the requests are
the same, wherever in a tree that is (`Scene.renderNode?_nested_attributes`).

On the way in the run ends at the first set that opens an attribute, and the second one finds
nothing to end (`Canvas.change_change`). On the way out it is the other way round. In between the
counts differ, which is not seen (`Canvas.Recounted.walkAll`).

The second set must find no marker that is due. That is so after the first one has written it,
unless the marker itself ends a line: then it is written once more for each set.

With counts in an array a set with one bit without a meaning cannot be drawn, but two of them may
have a union that can. So the sets that are put together must each be without such a bit.
-/

namespace RichChat

namespace Canvas

/-- Counts that are changed for a moment end no run that would not end anyway. -/
theorem change_change (c : Canvas) {k l : List Nat}
    (h : (⟨c.runs.start, l⟩ : Runs).active = c.runs.active →
      (⟨c.runs.start, k⟩ : Runs).active = c.runs.active) :
    (c.change k).change l = c.change l := by
  rcases c.change_cases k with ⟨hk, hchange⟩ | ⟨hk, hchange⟩
  · -- the first change ends no run, and the second one does not see it
    rw [hchange]
    unfold Canvas.change Runs.change
    rw [pushRun_eq, pushRun_eq]
    dsimp only
    rw [show ({ c.runs with counts := k } : Runs).active = c.runs.active from hk]
    split <;> rfl
  · -- the second change finds a run without text
    have hl : (⟨c.runs.start, l⟩ : Runs).active ≠ c.runs.active := fun heq => hk (h heq)
    obtain ⟨hsame, -⟩ | ⟨-, hboth⟩ := c.change_cases l
    · exact absurd hsame hl
    rw [hboth, hchange]
    set e : Canvas := { c with
      segments := addRun c.segments (c.runs.region c.runs.active c.length)
      runs := ⟨c.length, k⟩ } with he
    have hempty (a : Attribute) : e.runs.region a e.length = none := by
      simp [he, Runs.region, Canvas.length]
    obtain ⟨-, heq⟩ | ⟨-, heq⟩ := e.change_cases l
    · rw [heq]
    · rw [heq, hempty]
      rfl

/-- The marker, if there is one, is followed by text in its line. -/
def MarkerKeepsLine (c : Canvas) : Prop := c.buffer.marker.getLast? ≠ some '\n'

/-- To enter a set and then another one changes the counts once. -/
theorem enter_enter (c : Canvas) (h : c.MarkerKeepsLine) (a b : Attribute) :
    (c.enter a).enter b = c.flush.change (b.opened (a.opened c.flush.runs.counts)) := by
  have hin : c.enter a = c.flush.change (a.opened c.flush.runs.counts) := c.enter_eq a
  have hflush : (c.enter a).flush = c.enter a := by
    refine flush_of_not_due ?_
    rw [hin, change_buffer, flush_buffer]
    exact c.buffer.not_markerDue_flush h
  rw [enter_eq, hflush, hin, change_counts]
  exact c.flush.change_change active_opened

/-- To leave both gives back the counts from before, at once. -/
theorem exit_exit {c : Canvas} {a b : Attribute} {k : List Nat}
    (h : c.runs.counts = b.opened (a.opened k)) : (c.exit b).exit a = c.change k := by
  have hback (a : Attribute) (counts : List Nat) := foldl_modify_cancel a.indices counts
  have hout : c.exit b = c.change (a.opened k) := by
    rw [exit_eq, h, Attribute.opened, hback]
  rw [exit_eq, hout, change_counts, Attribute.opened, hback]
  refine c.change_change fun heq => ?_
  have hnow : c.runs.active = (⟨c.runs.start, b.opened (a.opened k)⟩ : Runs).active := by rw [← h]
  rw [hnow] at heq ⊢
  exact (active_opened heq.symm).trans heq

end Canvas

/-- Visits on the way into or out of nodes of one kind, in places that look the same. -/
structure Visit.Alike (v w : Visit) : Prop where
  kind : w.node.kind = v.node.kind
  entering : w.entering = v.entering
  parent : w.parent.map Node.tag = v.parent.map Node.tag
  next : w.next.isSome = v.next.isSome

theorem Canvas.separate_alike {v w : Visit} (h : v.Alike w) (c : Canvas) :
    c.separate w = c.separate v := by
  have hnext := h.next
  unfold Canvas.separate
  rw [h.parent]
  generalize v.parent.map Node.tag = tag
  cases hv : v.next with
  | none =>
    rw [hv, Option.isSome_none, Option.isSome_eq_false_iff, Option.isNone_iff_eq_none] at hnext
    rw [hnext]
  | some node =>
    rw [hv, Option.isSome_some, Option.isSome_iff_exists] at hnext
    obtain ⟨node', hw⟩ := hnext
    rw [hw]
    cases tag with
    | none => rfl
    | some tag => cases tag <;> rfl

section Walk

variable (scene : Scene)

/-- The handlers look at nothing else. -/
theorem visitor_alike {v w : Visit} (h : v.Alike w) (c : Canvas) :
    Registry.builtin.visitor scene w c = Registry.builtin.visitor scene v c := by
  have hspace := Canvas.separate_alike h
  obtain ⟨⟨kind, children⟩, entering, parent, next⟩ := v
  obtain ⟨⟨kind', children'⟩, entering', parent', next'⟩ := w
  obtain rfl : kind' = kind := h.kind
  obtain rfl : entering' = entering := h.entering
  cases entering' with
  | true => cases kind' <;> rfl
  | false =>
    cases kind' with
    | paragraph | heading _ | blockquote | codeBlock _ _ | list _ | thematicBreak =>
      exact congrArg (Prod.mk _) (hspace _)
    | _ => rfl

theorem walkNode_inline (a : Attribute) (xs : List Node) (parent next : Option Node) (c : Canvas) :
    walkNode (Registry.builtin.visitor scene) parent next (.mk (.inline a) xs) c
      = (walkAll (Registry.builtin.visitor scene) (.mk (.inline a) xs) xs (c.enter a)).exit a := by
  rw [walkNode]
  rfl

/-- A node is drawn as another one, on canvases with a property, wherever the two are. -/
structure DrawnAlike (Q : Canvas → Prop) (m n : Node) : Prop where
  walkNode : ∀ {parent parent' next next' : Option Node} {c : Canvas},
    parent'.map Node.tag = parent.map Node.tag → next'.isSome = next.isSome → Q c →
      walkNode (Registry.builtin.visitor scene) parent' next' n c
        = walkNode (Registry.builtin.visitor scene) parent next m c

variable {scene} {Q : Canvas → Prop}

/-- Nodes of one kind are drawn alike if their children are, on the canvases that come of the way
into them. -/
theorem DrawnAlike.of_children {kind : NodeKind} {xs ys : List Node}
    (hall : kind.isAtom = false → ∀ (parent next : Option Node) (c : Canvas), Q c →
      let d := (Registry.builtin.visitor scene
        { node := .mk kind xs, entering := true, parent, next } c).2
      walkAll (Registry.builtin.visitor scene) (.mk kind ys) ys d
        = walkAll (Registry.builtin.visitor scene) (.mk kind xs) xs d) :
    DrawnAlike scene Q (.mk kind xs) (.mk kind ys) := by
  refine ⟨fun {parent parent' next next' c} hparent hnext hc => ?_⟩
  have halike (entering : Bool) : Visit.Alike { node := .mk kind xs, entering, parent, next }
      { node := .mk kind ys, entering, parent := parent', next := next' } :=
    ⟨rfl, rfl, hparent, hnext⟩
  have hflow := flow_visitor scene kind xs parent next c
  rw [RichChat.walkNode, RichChat.walkNode]
  dsimp only
  rw [visitor_alike scene (halike true), visitor_alike scene (halike false), hflow]
  cases hatom : kind.isAtom with
  | true => rfl
  | false =>
    simp only [Bool.false_eq_true, if_false]
    rw [hall hatom parent next c hc]

/-- It does not matter which siblings a node has, but only whether there is one to follow. -/
theorem DrawnAlike.refl (node : Node) : DrawnAlike scene Q node node := by
  obtain ⟨kind, children⟩ := node
  exact .of_children fun _ _ _ _ _ => rfl

theorem walkAll_alike {parent parent' : Node} (h : parent'.tag = parent.tag) (nodes : List Node)
    (c : Canvas) :
    walkAll (Registry.builtin.visitor scene) parent' nodes c
      = walkAll (Registry.builtin.visitor scene) parent nodes c := by
  induction nodes generalizing c with
  | nil => rw [walkAll, walkAll]
  | cons node nodes ih =>
    have hnode : walkNode (Registry.builtin.visitor scene) (some parent') nodes.head? node c
        = walkNode (Registry.builtin.visitor scene) (some parent) nodes.head? node c :=
      (DrawnAlike.refl (Q := fun _ => True) node).walkNode (congrArg some h) rfl trivial
    rw [walkAll, walkAll, ih, hnode]

/-- A node among its siblings. -/
theorem DrawnAlike.walkAll {m n : Node} (h : DrawnAlike scene Canvas.MarkerKeepsLine m n)
    {parent parent' : Node} (hparent : parent'.tag = parent.tag) (before after : List Node)
    {c : Canvas} (hc : c.MarkerKeepsLine) :
    walkAll (Registry.builtin.visitor scene) parent' (before ++ n :: after) c
      = RichChat.walkAll (Registry.builtin.visitor scene) parent (before ++ m :: after) c := by
  induction before generalizing c with
  | nil =>
    have hnode : RichChat.walkNode (Registry.builtin.visitor scene) (some parent') after.head? n c
        = RichChat.walkNode (Registry.builtin.visitor scene) (some parent) after.head? m c :=
      h.walkNode (congrArg some hparent) rfl hc
    rw [List.nil_append, List.nil_append, RichChat.walkAll, RichChat.walkAll,
      walkAll_alike hparent, hnode]
  | cons node before ih =>
    have hnext : (before ++ n :: after).head?.isSome = (before ++ m :: after).head?.isSome := by
      cases before <;> rfl
    have hnode : RichChat.walkNode (Registry.builtin.visitor scene) (some parent')
          (before ++ n :: after).head? node c
        = RichChat.walkNode (Registry.builtin.visitor scene) (some parent)
          (before ++ m :: after).head? node c :=
      (DrawnAlike.refl (Q := fun _ => True) node).walkNode (congrArg some hparent) hnext trivial
    have hmarker : (RichChat.walkNode (Registry.builtin.visitor scene) (some parent)
        (before ++ m :: after).head? node c).MarkerKeepsLine := by
      unfold Canvas.MarkerKeepsLine
      rw [marker_walkNode]
      exact hc
    rw [List.cons_append, List.cons_append, RichChat.walkAll, RichChat.walkAll, hnode]
    exact ih hmarker

/-- A set around another one is drawn as their union is. -/
theorem drawnAlike_inline_inline (a b : Attribute) (xs : List Node) :
    DrawnAlike scene Canvas.MarkerKeepsLine (.mk (.inline (a ∪ b)) xs)
      (.mk (.inline a) [.mk (.inline b) xs]) := by
  refine ⟨fun {_ _ _ _ c} _ _ hc => ?_⟩
  let k := c.flush.runs.counts
  have hin : Canvas.Recounted (b.opened (a.opened k)) ((a ∪ b).opened k)
      ((c.enter a).enter b) (c.enter (a ∪ b)) := by
    rw [c.enter_enter hc, Canvas.enter_eq]
    exact (Canvas.Recounted.refl c.flush).change (.opened_opened a b k)
  have hout := hin.walkAll scene (.mk (.inline (a ∪ b)) xs) xs
  have htag : (Node.mk (.inline b) xs).tag = (Node.mk (.inline (a ∪ b)) xs).tag := rfl
  rw [walkNode_inline, walkNode_inline, RichChat.walkAll, RichChat.walkAll, walkNode_inline,
    walkAll_alike htag, Canvas.exit_exit hout.counts,
    Canvas.exit_eq, hout.counts_right, Attribute.opened, foldl_modify_cancel]
  exact (hout.change (.refl k)).eq_of_counts.symm

end Walk

/-- A node with a gap among its children. -/
structure Gap where
  kind : NodeKind
  before : List Node := []
  after : List Node := []

def Gap.fill (gap : Gap) (node : Node) : Node := .mk gap.kind (gap.before ++ node :: gap.after)

/-- A place in a tree: the nodes around it, the outermost first. -/
abbrev Place := List Gap

def Place.fill (place : Place) (node : Node) : Node := place.foldr Gap.fill node

theorem Gap.emojiOnlyCount_fill (gap : Gap) {m n : Node}
    (h : n.emojiOnlyCount = m.emojiOnlyCount) :
    (gap.fill n).emojiOnlyCount = (gap.fill m).emojiOnlyCount := by
  have hsum (before : List Node) : Node.emojiOnlySum (before ++ n :: gap.after)
      = Node.emojiOnlySum (before ++ m :: gap.after) := by
    induction before with
    | nil => rw [List.nil_append, List.nil_append, Node.emojiOnlySum, Node.emojiOnlySum, h]
    | cons node before ih =>
      rw [List.cons_append, List.cons_append, Node.emojiOnlySum, Node.emojiOnlySum, ih]
  unfold Gap.fill
  cases gap.kind with
  | document | paragraph => exact hsum gap.before
  | _ => rfl

/-- The way into a node leaves the marker at the start of a line, unless it puts there one of quotes
that does not. -/
theorem Canvas.MarkerKeepsLine.visitIn {scene : Scene} {c : Canvas} (hc : c.MarkerKeepsLine)
    {kind : NodeKind} (hquote : kind.tag = .blockquote →
      scene.config.quoteMarker.toList.getLast? ≠ some '\n')
    (children : List Node) (parent next : Option Node) :
    (Registry.builtin.visitor scene
      { node := .mk kind children, entering := true, parent, next } c).2.MarkerKeepsLine := by
  by_cases htag : kind.tag = .blockquote
  · cases kind with
    | blockquote =>
      have hmarker : (c.openQuote scene.config).buffer.marker
          = c.buffer.marker ++ scene.config.quoteMarker.toList := by
        rw [← (Balanced.startBlock c).marker]
        rfl
      show (c.openQuote scene.config).buffer.marker.getLast? ≠ some '\n'
      rw [hmarker, List.getLast?_append]
      cases hlast : scene.config.quoteMarker.toList.getLast? with
      | none => exact hc
      | some x =>
        rw [Option.some_or, ← hlast]
        exact hquote rfl
    | _ => cases htag
  · unfold Canvas.MarkerKeepsLine
    rw [marker_visit scene { node := .mk kind children, entering := true, parent, next } htag]
    exact hc

/-- What is drawn alike is so with the same nodes around it. -/
theorem DrawnAlike.fill {scene : Scene} {m n : Node}
    (h : DrawnAlike scene Canvas.MarkerKeepsLine m n) (gap : Gap)
    (hquote : gap.kind.tag = .blockquote →
      scene.config.quoteMarker.toList.getLast? ≠ some '\n') :
    DrawnAlike scene Canvas.MarkerKeepsLine (gap.fill m) (gap.fill n) := by
  refine .of_children fun _ parent next c hc => ?_
  have htag : (gap.fill n).tag = (gap.fill m).tag := rfl
  exact h.walkAll htag gap.before gap.after (hc.visitIn hquote _ parent next)

/-- Nodes that are drawn alike are rendered alike wherever they are, if no quote around them has a
marker that ends a line. -/
theorem DrawnAlike.renderNode {scene : Scene} {m n : Node}
    (h : DrawnAlike scene Canvas.MarkerKeepsLine m n)
    (hemoji : n.emojiOnlyCount = m.emojiOnlyCount) {place : Place}
    (hquote : ∀ gap ∈ place, gap.kind.tag = .blockquote →
      scene.config.quoteMarker.toList.getLast? ≠ some '\n') :
    scene.renderNode (place.fill n) = scene.renderNode (place.fill m) := by
  have hfill : DrawnAlike scene Canvas.MarkerKeepsLine (place.fill m) (place.fill n) ∧
      (place.fill n).emojiOnlyCount = (place.fill m).emojiOnlyCount := by
    induction place with
    | nil => exact ⟨h, hemoji⟩
    | cons gap place ih =>
      obtain ⟨hgap, hplace⟩ := List.forall_mem_cons.1 hquote
      obtain ⟨hdrawn, hcount⟩ := ih hplace
      exact ⟨hdrawn.fill gap hgap, gap.emojiOnlyCount_fill hcount⟩
  obtain ⟨hdrawn, hcount⟩ := hfill
  have hsize : (Canvas.fresh scene.config).sizeEmoji scene.config (place.fill n)
      = (Canvas.fresh scene.config).sizeEmoji scene.config (place.fill m) := by
    unfold Canvas.sizeEmoji
    rw [hcount]
  have hmarker : ((Canvas.fresh scene.config).sizeEmoji scene.config
      (place.fill m)).MarkerKeepsLine := by
    obtain ⟨emojiSize, heq⟩ := (Canvas.fresh scene.config).sizeEmoji_eq scene.config (place.fill m)
    rw [heq]
    exact nofun
  have hdocument : (Canvas.fresh scene.config).document .builtin scene (place.fill n)
      = (Canvas.fresh scene.config).document .builtin scene (place.fill m) := by
    rw [Canvas.document, Canvas.document, Canvas.draw, Canvas.draw, walk_eq_walkNode,
      walk_eq_walkNode, hsize]
    exact hdrawn.walkNode rfl rfl hmarker
  unfold Scene.renderNode Scene.compose
  dsimp only
  rw [hdocument]

namespace Node

theorem missingAll?_append (front after : List Node) :
    missingAll? (front ++ after) = (missingAll? front).or (missingAll? after) := by
  induction front with
  | nil => rw [List.nil_append, missingAll?, Option.none_or]
  | cons node front ih => rw [List.cons_append, missingAll?, missingAll?, ih, Option.or_assoc]

theorem heightAll_append (front after : List Node) :
    heightAll (front ++ after) = max (heightAll front) (heightAll after) := by
  induction front with
  | nil => rw [List.nil_append, heightAll, Nat.zero_max]
  | cons node front ih => rw [List.cons_append, heightAll, heightAll, ih, Nat.max_assoc]

theorem missing?_inline {a : Attribute} (h : ¬ a.HasLoneUnknown) (xs : List Node) :
    (mk (.inline a) xs).missing? = missingAll? xs := by
  rw [missing?]
  exact congrArg (·.or (missingAll? xs)) (Attribute.index?_unknown_eq_none_iff.2 h)

end Node

namespace Place

variable {m n : Node}

/-- A place does not tell nodes apart that miss the same count. -/
theorem missing?_fill (place : Place) (h : n.missing? = m.missing?) :
    (place.fill n).missing? = (place.fill m).missing? := by
  induction place with
  | nil => exact h
  | cons gap place ih =>
    show (gap.fill (Place.fill place n)).missing? = (gap.fill (Place.fill place m)).missing?
    unfold Gap.fill
    simp only [Node.missing?, Node.missingAll?_append, Node.missingAll?]
    rw [ih]

theorem height_fill_le (place : Place) (h : n.height ≤ m.height) :
    (place.fill n).height ≤ (place.fill m).height := by
  induction place with
  | nil => exact h
  | cons gap place ih =>
    show (gap.fill (Place.fill place n)).height ≤ (gap.fill (Place.fill place m)).height
    unfold Gap.fill
    simp only [Node.height, Node.heightAll_append, Node.heightAll]
    omega

end Place

/-- Nodes that are drawn alike and miss the same count are so with counts in an array. -/
theorem DrawnAlike.renderNode? {scene : Scene} {m n : Node}
    (h : DrawnAlike scene Canvas.MarkerKeepsLine m n)
    (hemoji : n.emojiOnlyCount = m.emojiOnlyCount) (hmissing : n.missing? = m.missing?)
    {place : Place}
    (hquote : ∀ gap ∈ place, gap.kind.tag = .blockquote →
      scene.config.quoteMarker.toList.getLast? ≠ some '\n')
    (hm : (place.fill m).height < UInt32.size) (hn : (place.fill n).height < UInt32.size) :
    scene.renderNode? (place.fill n) = scene.renderNode? (place.fill m) := by
  rw [scene.renderNode?_eq hn, scene.renderNode?_eq hm, place.missing?_fill hmissing,
    h.renderNode hemoji hquote]

namespace Scene

/-- It does not matter how sets of attributes are nested at a place in a tree: in any order and
however often, they are rendered as their union is. No quote around the place may have a marker that
ends a line, and none of the sets one bit without a meaning. -/
theorem renderNode?_nested_attributes (scene : Scene) (place : Place)
    (hquote : ∀ gap ∈ place, gap.kind.tag = .blockquote →
      scene.config.quoteMarker.toList.getLast? ≠ some '\n')
    {a b : Attribute} (ha : ¬ a.HasLoneUnknown) (hb : ¬ b.HasLoneUnknown) (xs : List Node)
    (hheight : (place.fill (.mk (.inline a) [.mk (.inline b) xs])).height < UInt32.size) :
    let render (node : Node) := scene.renderNode? (place.fill node)
    let nest (a : Attribute) (xs : List Node) : Node := .mk (.inline a) xs
    render (nest a [nest b xs]) = render (nest (a ∪ b) xs) ∧
      render (nest b [nest a xs]) = render (nest (a ∪ b) xs) ∧
      render (nest a [nest a xs]) = render (nest a xs) ∧
      ∀ d : Attribute, ¬ d.HasLoneUnknown →
        render (nest a [nest (b ∪ d) xs]) = render (nest (a ∪ b) [nest d xs]) := by
  intro render nest
  have hlow {m : Node} (hm : m.height ≤ (nest a [nest b xs]).height) :
      (place.fill m).height < UInt32.size :=
    Nat.lt_of_le_of_lt (place.height_fill_le hm) hheight
  have hunion {a b : Attribute} (ha : ¬ a.HasLoneUnknown) (hb : ¬ b.HasLoneUnknown) :
      render (nest a [nest b xs]) = render (nest (a ∪ b) xs) := by
    have hmissing : (nest a [nest b xs]).missing? = (nest (a ∪ b) xs).missing? := by
      rw [Node.missing?_inline ha, Node.missing?_inline (Attribute.not_hasLoneUnknown_union ha hb),
        Node.missingAll?, Node.missing?_inline hb, Node.missingAll?, Option.or_none]
    have htwice : (place.fill (nest a [nest b xs])).height < UInt32.size :=
      hlow (by simp [nest, Node.height, Node.heightAll])
    have honce : (place.fill (nest (a ∪ b) xs)).height < UInt32.size :=
      hlow (by simp [nest, Node.height, Node.heightAll])
    exact (drawnAlike_inline_inline a b xs).renderNode? rfl hmissing hquote honce htwice
  have hcomm : b ∪ a = a ∪ b := congrArg Attribute.mk (BitVec.or_comm _ _)
  have hself : a ∪ a = a := congrArg Attribute.mk (BitVec.or_self)
  have hassoc (d : Attribute) : a ∪ (b ∪ d) = a ∪ b ∪ d :=
    congrArg Attribute.mk (BitVec.or_assoc _ _ _).symm
  refine ⟨hunion ha hb, ?_, ?_, fun d hd => ?_⟩
  · rw [hunion hb ha, hcomm]
  · rw [hunion ha ha, hself]
  · rw [hunion ha (Attribute.not_hasLoneUnknown_union hb hd),
      hunion (Attribute.not_hasLoneUnknown_union ha hb) hd, hassoc]

/-- In a quote, with the marker that quotes have unless another one is chosen. -/
theorem renderNode?_nested_attributes_quoted :
    let place : Place := [⟨.blockquote, [], []⟩, ⟨.paragraph, [], []⟩]
    let nest (a : Attribute) (xs : List Node) : Node := .mk (.inline a) xs
    let scene : Scene := {}
    let once := scene.renderNode (place.fill (nest (.bold ∪ .italic) [.text "a"]))
    once.text = ⟨"> a", [⟨2, 3, .styled (.bold ∪ .italic)⟩, ⟨0, 3, .quoteBlock⟩]⟩ ∧
      scene.renderNode? (place.fill (nest .bold [nest .italic [.text "a"]])) = .ok once ∧
      scene.renderNode? (place.fill (nest .italic [nest .bold [.text "a"]])) = .ok once := by
  intro place nest scene once
  have hquote : ∀ gap ∈ place, gap.kind.tag = .blockquote →
      scene.config.quoteMarker.toList.getLast? ≠ some '\n' := fun _ _ _ => by decide
  have hbold : ¬ Attribute.bold.HasLoneUnknown := by unfold Attribute.HasLoneUnknown; decide
  have hitalic : ¬ Attribute.italic.HasLoneUnknown := by unfold Attribute.HasLoneUnknown; decide
  obtain ⟨hboth, hswapped, -⟩ :=
    scene.renderNode?_nested_attributes place hquote hbold hitalic [.text "a"] (by decide)
  have honce : scene.renderNode? (place.fill (nest (.bold ∪ .italic) [.text "a"])) = .ok once :=
    scene.renderNode?_eq (by decide)
  exact ⟨by cbv, hboth.trans honce, hswapped.trans honce⟩

/-- A marker that ends a line is due again as soon as it has been written, and each set that is
entered writes it. A set with one bit without a meaning cannot be drawn, though with the other such
bit it can. -/
theorem not_nested_attributes :
    let place : Place := [⟨.blockquote, [], []⟩, ⟨.paragraph, [], []⟩]
    let nest (a : Attribute) (xs : List Node) : Node := .mk (.inline a) xs
    let scene : Scene := { config := { quoteMarker := ">\n" } }
    let once := scene.renderNode (place.fill (nest (.bold ∪ .italic) [.text "a"]))
    let twice := scene.renderNode (place.fill (nest .bold [nest .italic [.text "a"]]))
    once.text.content = ">\n>\n>\na" ∧ twice.text.content = ">\n>\n>\n>\na" ∧ twice ≠ once ∧
      scene.renderNode? (nest ⟨0x40⟩ [nest ⟨0x80⟩ [.text "a"]]) = .error (.missing 6) ∧
      scene.renderNode? (nest ⟨0xC0⟩ [.text "a"])
        = .ok (scene.renderNode (nest ⟨0xC0⟩ [.text "a"])) := by
  intro place nest scene once twice
  have honce : once.text.content = ">\n>\n>\na" := by cbv
  have htwice : twice.text.content = ">\n>\n>\n>\na" := by cbv
  refine ⟨honce, htwice, fun heq => ?_, scene.renderNode?_eq (by decide),
    scene.renderNode?_eq (by decide)⟩
  rw [heq, honce] at htwice
  exact absurd htwice (by decide)

end Scene

end RichChat

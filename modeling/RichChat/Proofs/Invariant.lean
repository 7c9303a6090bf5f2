import RichChat.Proofs.Balance

/-!
# Invariants of the canvas

`Canvas.Invariant Q` lists what has to be shown of a property of canvases: that it is kept when text
is added, when the open run ends, when something is opened or closed, and when a segment is made
that is solid. Then the handlers keep it on all trees whose addresses are not empty
(`Invariant.document`), and so does every plan without nested renderings if it is kept with any
segment but a run (`Invariant.plan`).

The handlers do not look at the greatest depth. So what they draw of a tree, which nests nothing, is
a plan without nested renderings (`Invariant.renderNode`).
-/

namespace RichChat

namespace Canvas

/-- A property of canvases that is kept by all drawing but nested renderings. -/
structure Invariant (Q : Canvas → Prop) : Prop extends Kept Q where
  change : ∀ {c} counts, Q c → Q (c.change counts)
  frame : ∀ {c} marker links quotes lists requested emojiSize, Q c →
    Q { c with buffer := { c.buffer with marker }, links, quotes, lists, requested, emojiSize }

namespace Invariant

variable {Q : Canvas → Prop} {c : Canvas}

theorem enter (hQ : Invariant Q) (h : Q c) (a : Attribute) : Q (c.enter a) := by
  rw [enter_eq]
  exact hQ.change _ (hQ.flush c h)

theorem exit (hQ : Invariant Q) (h : Q c) (a : Attribute) : Q (c.exit a) := by
  rw [exit_eq]
  exact hQ.change _ h

theorem writeWith (hQ : Invariant Q) (h : Q c) (a : Attribute) (text : String) :
    Q (c.writeWith a text).2 := by
  rw [writeWith_eq]
  exact hQ.exit (hQ.put (hQ.enter h a) text) a

theorem openLink (hQ : Invariant Q) (h : Q c) : Q c.openLink :=
  hQ.frame _ _ _ _ _ _ (hQ.flush c h)

theorem closeLink (hQ : Invariant Q) (h : Q c) (url : String) : Q (c.closeLink url) := by
  rcases c.closeLink_cases url with ⟨-, heq⟩ | ⟨start, links, -, hclose⟩
  · rwa [heq]
  · have hpop : Q { c with links } := hQ.frame _ _ _ _ _ _ h
    rcases hclose with heq | ⟨hlt, heq⟩ <;> rw [heq]
    · exact hpop
    · exact hQ.push _ _ ⟨by simp, fun _ => hlt⟩ hpop

theorem openQuote (hQ : Invariant Q) (h : Q c) (config : Config) : Q (c.openQuote config) :=
  hQ.frame _ _ _ _ _ _ (hQ.startBlock h)

theorem closeQuote (hQ : Invariant Q) (h : Q c) : Q c.closeQuote := by
  rcases c.closeQuote_cases with ⟨-, heq⟩ | ⟨quote, quotes, -, hclose⟩
  · rwa [heq]
  · have hpop : Q { c with buffer := c.buffer.popMarker quote.outerMarker, quotes } :=
      hQ.frame _ _ _ _ _ _ h
    rcases hclose with heq | ⟨hlt, heq⟩ <;> rw [heq]
    · exact hpop
    · exact hQ.push _ _ ⟨by simp, fun _ => hlt⟩ hpop

theorem nextListMarker (hQ : Invariant Q) (h : Q c) : Q c.nextListMarker.2 := by
  unfold Canvas.nextListMarker
  split
  · exact hQ.frame _ _ _ _ _ _ h
  · exact h

theorem finish (hQ : Invariant Q) (h : Q c) : Q c.finish := by
  have hclose : ∀ n {c}, Q c → Q (closeQuotes n c) := by
    intro n
    induction n with
    | zero => exact fun h => h
    | succ n ih => exact fun h => ih (hQ.closeQuote h)
  rw [finish_eq, leave_eq]
  exact hclose _ (hQ.change _ h)

theorem drawCode (hQ : Invariant Q) (h : Q c) (language : Option String) (lines : List String) :
    Q (Handler.drawCode c language lines) := by
  have hcode := hQ.append _ ("\n".intercalate lines).toList (hQ.flush _ (hQ.startBlock h))
  unfold Handler.drawCode
  dsimp only
  split
  · rename_i hlt
    exact hQ.emit hcode hlt (by simp)
  · exact hcode

theorem sizeEmoji (hQ : Invariant Q) (h : Q c) (config : Config) (node : Node) :
    Q (c.sizeEmoji config node) := by
  unfold Canvas.sizeEmoji
  split
  · split
    · exact hQ.frame _ _ _ _ _ _ h
    · exact h
  · exact h

end Invariant

end Canvas

/-- A tree in which the kinds of all nodes have a property. -/
def Node.Everywhere (ok : NodeKind → Prop) (node : Node) : Prop := ∀ n ∈ node.preorder, ok n.kind

/-- A tree in which no bare address is empty. -/
def Node.Addressed (node : Node) : Prop := ∀ n ∈ node.preorder, n.kind ≠ .autolink ""

section Walk

variable {σ : Type} {Q : σ → Prop} {ok : NodeKind → Prop}

/-- The visitor keeps a property of states at all nodes of certain kinds. -/
def Visitor.Keeps (ok : NodeKind → Prop) (Q : σ → Prop) (visitor : Visitor σ) : Prop :=
  ∀ visit {s}, ok visit.node.kind → Q s → Q (visitor visit s).2

mutual

theorem keeps_walkNode {visitor : Visitor σ} (hv : visitor.Keeps ok Q)
    (parent next : Option Node) : ∀ (node : Node) {s : σ}, node.Everywhere ok → Q s →
      Q (walkNode visitor parent next node s)
  | .mk kind children, s, hn, h => by
    rw [Node.Everywhere, Node.preorder, List.forall_mem_cons] at hn
    have hin := hv { node := .mk kind children, entering := true, parent, next } hn.1 h
    rw [walkNode]
    refine hv _ hn.1 ?_
    rcases hvis : visitor { node := .mk kind children, entering := true, parent, next } s
      with ⟨flow, t⟩
    rw [hvis] at hin
    cases flow
    · exact keeps_walkAll hv _ children hn.2 hin
    · exact hin

theorem keeps_walkAll {visitor : Visitor σ} (hv : visitor.Keeps ok Q) (parent : Node) :
    ∀ (nodes : List Node) {s : σ}, (∀ n ∈ Node.preorderAll nodes, ok n.kind) →
      Q s → Q (walkAll visitor parent nodes s)
  | [], s, _, h => by
    rw [walkAll]
    exact h
  | node :: nodes, s, hn, h => by
    rw [Node.preorderAll, List.forall_mem_append] at hn
    rw [walkAll]
    exact keeps_walkAll hv parent nodes hn.2 (keeps_walkNode hv _ _ node hn.1 h)

end

end Walk

namespace Canvas.Invariant

variable {Q : Canvas → Prop} {c : Canvas}

theorem keeps (hQ : Invariant Q) (scene : Scene) :
    (Registry.builtin.visitor scene).Keeps (· ≠ .autolink "") Q := by
  rintro ⟨⟨kind, children⟩, entering, parent, next⟩ c hn h
  cases kind with
  | document => exact h
  | paragraph =>
    cases entering with
    | true => exact h
    | false => exact hQ.separate h _
  | text s soft hard =>
    cases entering with
    | true =>
      have hput := hQ.put h s
      show Q (if hard then (c.put s).put "\n\n" else if soft then (c.put s).put "\n" else c.put s)
      split
      · exact hQ.put hput _
      · split
        · exact hQ.put hput _
        · exact hput
    | false => exact h
  | heading level =>
    cases entering with
    | true => exact hQ.enter h .bold
    | false => exact hQ.separate (hQ.exit h .bold) _
  | inline a =>
    cases entering with
    | true => exact hQ.enter h a
    | false => exact hQ.exit h a
  | link url =>
    cases entering with
    | true => exact hQ.openLink h
    | false => exact hQ.closeLink h url
  | autolink url =>
    cases entering with
    | true =>
      have hne : url ≠ "" := fun hurl => hn (by rw [hurl]; rfl)
      have hput := hQ.put h url
      show Q (if (c.put url).inLink then c.put url else (c.put url).emit (c.write url).1 (.link url))
      split
      · exact hput
      · exact hQ.emit hput (c.lt_write hne) (by simp)
    | false => exact h
  | blockquote =>
    cases entering with
    | true => exact hQ.openQuote h scene.config
    | false => exact hQ.separate (hQ.closeQuote h) _
  | codeBlock language lines =>
    cases entering with
    | true => exact hQ.drawCode h language lines
    | false => exact hQ.separate h _
  | list start =>
    cases entering with
    | true =>
      show Q ((if c.lists.isEmpty then c.startBlock else c.ensureBreak).openList start)
      refine hQ.frame _ _ _ _ _ _ ?_
      split
      · exact hQ.startBlock h
      · exact hQ.ensureBreak h
    | false => exact hQ.separate (hQ.frame _ _ _ _ _ _ h) _
  | listItem =>
    cases entering with
    | true => exact hQ.put (hQ.nextListMarker (hQ.ensureBreak h)) _
    | false => exact h
  | thematicBreak =>
    cases entering with
    | true => exact hQ.put (hQ.startBlock h) "───"
    | false => exact hQ.separate h _
  | mention target =>
    cases entering with
    | true => exact hQ.mention h scene target
    | false => exact h
  | emoji e =>
    cases entering with
    | true => exact hQ.anchor h rfl
    | false => exact h

theorem draw (hQ : Invariant Q) (scene : Scene) {node : Node} (hn : node.Addressed) (h : Q c) :
    Q (c.draw .builtin scene node) := by
  rw [Canvas.draw, walk_eq_walkNode]
  exact keeps_walkNode (hQ.keeps scene) none none node hn h

theorem document (hQ : Invariant Q) (scene : Scene) {node : Node} (hn : node.Addressed)
    (h : Q c) : Q (c.document .builtin scene node) :=
  hQ.draw scene hn (hQ.sizeEmoji h _ node)

end Canvas.Invariant

/-- What is known, with every nested text drawn as it is written. -/
def Scene.unnested (scene : Scene) : Scene :=
  { scene with config := { scene.config with maxDepth := 0 } }

theorem Registry.visitor_unnested (scene : Scene) :
    Registry.builtin.visitor scene.unnested = Registry.builtin.visitor scene := by
  funext visit c
  obtain ⟨⟨kind, children⟩, entering, parent, next⟩ := visit
  cases kind with
  | mention target => cases target <;> rfl
  | _ => rfl

namespace Canvas.Invariant

variable {Q : Canvas → Prop} {c : Canvas}

theorem op (hQ : Invariant Q) (hpush : ∀ c s, (∀ a, s.kind ≠ .styled a) → Q c → Q (c.push s))
    (scene : Scene) (o : Op) (h : Q c) : Q (o.run scene c) := by
  cases o with
  | write text => exact hQ.put h text
  | writeVerbatim text => exact hQ.append c _ h
  | writeWith a text => exact hQ.writeWith h a text
  | cursor => exact hQ.flush c h
  | enter a => exact hQ.enter h a
  | exit a => exact hQ.exit h a
  | leave =>
    show Q c.leave
    rw [leave_eq]
    exact hQ.change _ h
  | ensureBreak => exact hQ.ensureBreak h
  | startBlock => exact hQ.startBlock h
  | openLink => exact hQ.openLink h
  | closeLink url => exact hQ.closeLink h url
  | openQuote => exact hQ.openQuote h scene.config
  | closeQuote => exact hQ.closeQuote h
  | openList start | closeList => exact hQ.frame _ _ _ _ _ _ h
  | numberItem => exact hQ.nextListMarker h
  | anchor kind point => exact hQ.anchor h point
  | mark start stop kind =>
    show Q (c.mark start stop kind)
    unfold Canvas.mark
    split
    · rename_i admits
      refine hpush _ _ (fun a ha => ?_) h
      dsimp only at ha
      simp [Canvas.admits, ha, SegmentKind.isMark] at admits
    · exact h
  | request r => exact hQ.request h scene r
  | enlargeEmoji => exact hQ.frame _ _ _ _ _ _ h

theorem plan (hQ : Invariant Q) (hpush : ∀ c s, (∀ a, s.kind ≠ .styled a) → Q c → Q (c.push s))
    {scene : Scene} (hdepth : scene.config.maxDepth = 0) (plan : Plan) (h : Q c) :
    Q (plan.run scene c) := by
  induction plan generalizing c with
  | done => exact h
  | op o rest ih => exact ih (hQ.op hpush scene o h)
  | nested source inner rest _ ih =>
    rw [Plan.run, within, if_pos (by omega)]
    exact ih (hQ.put h source)

/-- An invariant holds at the end of the rendering of any tree. -/
theorem renderNode (hQ : Invariant Q)
    (hpush : ∀ c s, (∀ a, s.kind ≠ .styled a) → Q c → Q (c.push s)) (scene : Scene) (node : Node)
    (h : Q (.fresh scene.config)) :
    Q ((Canvas.fresh scene.config).document .builtin scene node).finish := by
  have hsame : (Canvas.fresh scene.config).document .builtin scene node
      = (Canvas.fresh scene.config).document .builtin scene.unnested node := by
    unfold Canvas.document Canvas.draw
    rw [Registry.visitor_unnested]
    rfl
  obtain ⟨plan, hplan⟩ := planned_document scene.unnested (.fresh scene.config) node
  rw [hsame, ← hplan]
  exact hQ.finish (hQ.plan hpush rfl plan h)

end Canvas.Invariant

end RichChat

import RichChat.Proofs.InStep
import RichChat.Proofs.OpenCounts
import RichChat.Proofs.Telling

/-!
# Attributes that are open more or less often

How often an attribute is open is not seen while it is open. A tree is drawn the same on two
canvases that differ in their counts, if the same attributes are open on both
(`Canvas.Recounted.walkNode`), and leaves the counts as it found them.

The counts go on to differ inside of the tree: a node that enters attributes does so on both
canvases (`Recounted.enter`). On the way out the same attributes are open as on the way in, which
would not be known of the counts that it leaves alone (`Recounted.exit`).
-/

namespace RichChat

/-- The counts that the children of a node are drawn with. -/
def NodeKind.opened (counts : List Nat) : NodeKind → List Nat
  | .inline a => a.opened counts
  | .heading _ => Attribute.bold.opened counts
  | _ => counts

namespace Canvas

/-- A canvas on which attributes are open more or less often. -/
def recount (c : Canvas) (counts : List Nat) : Canvas :=
  { c with runs := { c.runs with counts } }

/-- `d` is `c` with other counts, of the same attributes. -/
structure Recounted (k l : List Nat) (c d : Canvas) : Prop where
  same : SameOpen k l
  counts : c.runs.counts = k
  eq : d = c.recount l

namespace Recounted

variable {k l k' l' : List Nat} {c d : Canvas}

theorem refl (c : Canvas) : Recounted c.runs.counts c.runs.counts c c := ⟨.refl _, rfl, rfl⟩

theorem eq_of_counts (h : Recounted k k c d) : d = c := by
  obtain ⟨-, rfl, rfl⟩ := h
  rfl

theorem counts_right (h : Recounted k l c d) : d.runs.counts = l := by rw [h.eq]; rfl

theorem buffer (h : Recounted k l c d) : d.buffer = c.buffer := by rw [h.eq]; rfl

theorem length (h : Recounted k l c d) : d.length = c.length := congrArg Buffer.length h.buffer

theorem links (h : Recounted k l c d) : d.links = c.links := by rw [h.eq]; rfl

theorem lists (h : Recounted k l c d) : d.lists = c.lists := by rw [h.eq]; rfl

theorem emojiSize (h : Recounted k l c d) : d.emojiSize = c.emojiSize := by rw [h.eq]; rfl

/-- What does not look at the runs is done alike. -/
theorem map (h : Recounted k l c d) {f : Canvas → Canvas}
    (hcounts : (f c).runs.counts = c.runs.counts)
    (heq : f (c.recount l) = (f c).recount l) : Recounted k l (f c) (f d) := by
  obtain ⟨same, rfl, rfl⟩ := h
  exact ⟨same, hcounts, heq⟩

theorem grow (h : Recounted k l c d) (b : Buffer) :
    Recounted k l { c with buffer := b } { d with buffer := b } :=
  h.map (f := fun c => { c with buffer := b }) rfl rfl

theorem push (h : Recounted k l c d) (s : Segment) : Recounted k l (c.push s) (d.push s) :=
  h.map (f := (·.push s)) rfl rfl

theorem emit (h : Recounted k l c d) (range : Nat × Nat) (kind : SegmentKind) :
    Recounted k l (c.emit range kind) (d.emit range kind) := h.push _

theorem ensureBreak (h : Recounted k l c d) : Recounted k l c.ensureBreak d.ensureBreak :=
  h.map rfl rfl

theorem startBlock (h : Recounted k l c d) : Recounted k l c.startBlock d.startBlock :=
  h.map rfl rfl

theorem separate (h : Recounted k l c d) (visit : Visit) :
    Recounted k l (c.separate visit) (d.separate visit) := by
  unfold Canvas.separate
  split
  · exact h
  · exact h.startBlock
  · exact h.startBlock
  · exact h.ensureBreak

/-- A run ends on both canvases or on none, and has the same attributes. -/
theorem change (h : Recounted k l c d) (same : SameOpen k' l') :
    Recounted k' l' (c.change k') (d.change l') := by
  obtain ⟨hsame, rfl, rfl⟩ := h
  have hnow : (c.recount l).runs.active = c.runs.active := (hsame.active _ _).symm
  have hnext : (⟨(c.recount l).runs.start, l'⟩ : Runs).active
      = (⟨c.runs.start, k'⟩ : Runs).active := (same.active _ _).symm
  refine ⟨same, c.change_counts k', ?_⟩
  unfold Canvas.change Runs.change
  rw [pushRun_eq, pushRun_eq]
  dsimp only
  rw [hnow, hnext]
  split <;> rfl

theorem flush (h : Recounted k l c d) : Recounted k l c.flush d.flush := by
  obtain ⟨same, rfl, rfl⟩ := h
  have hactive : (c.recount l).runs.active = c.runs.active := (same.active _ _).symm
  refine ⟨same, c.flush_counts, ?_⟩
  cases hdue : c.buffer.markerDue with
  | false => rw [flush_of_not_due hdue, flush_of_not_due (c := c.recount l) hdue]
  | true =>
    rw [flush_of_due hdue, flush_of_due (c := c.recount l) hdue, hactive]
    rfl

theorem enter (h : Recounted k l c d) (a : Attribute) :
    Recounted (a.opened k) (a.opened l) (c.enter a) (d.enter a) := by
  rw [enter_eq, enter_eq, h.flush.counts, h.flush.counts_right]
  exact h.flush.change (h.same.opened a)

theorem exit {a : Attribute} (h : Recounted (a.opened k) (a.opened l) c d) (same : SameOpen k l) :
    Recounted k l (c.exit a) (d.exit a) := by
  have hback (counts : List Nat) := foldl_modify_cancel a.indices counts
  rw [exit_eq, exit_eq, h.counts, h.counts_right, Attribute.opened, Attribute.opened, hback, hback]
  exact h.change same

theorem writePieces (ps : List (List Char)) :
    ∀ (range : Option (Nat × Nat)) {c d : Canvas}, Recounted k l c d →
      (ps.foldl writePiece (range, d)).1 = (ps.foldl writePiece (range, c)).1 ∧
        Recounted k l (ps.foldl writePiece (range, c)).2 (ps.foldl writePiece (range, d)).2 := by
  induction ps with
  | nil => exact fun _ _ _ h => ⟨rfl, h⟩
  | cons p ps ih =>
    intro range c d h
    have hflush : Recounted k l (if p = ['\n'] then c else c.flush)
        (if p = ['\n'] then d else d.flush) := by
      split
      · exact h
      · exact h.flush
    have hrange : writePiece (range, d) p
        = ((writePiece (range, c) p).1, (writePiece (range, d) p).2) := by
      simp only [writePiece, hflush.buffer]
    have hnext : Recounted k l (writePiece (range, c) p).2 (writePiece (range, d) p).2 := by
      simp only [writePiece, hflush.buffer]
      exact hflush.grow _
    rw [List.foldl_cons, List.foldl_cons, hrange]
    exact ih (writePiece (range, c) p).1 hnext

theorem write (h : Recounted k l c d) (text : String) :
    (d.write text).1 = (c.write text).1 ∧ Recounted k l (c.put text) (d.put text) := by
  obtain ⟨hrange, hnext⟩ := writePieces (Text.pieces text.toList) none h
  refine ⟨?_, hnext⟩
  unfold Canvas.write
  dsimp only
  rw [hrange, hnext.length]

theorem put (h : Recounted k l c d) (text : String) : Recounted k l (c.put text) (d.put text) :=
  (h.write text).2

theorem anchor (h : Recounted k l c d) (kind : SegmentKind) :
    Recounted k l (c.anchor kind) (d.anchor kind) := by
  rw [anchor_eq, anchor_eq, h.flush.length]
  exact h.flush.push _

theorem openLink (h : Recounted k l c d) : Recounted k l c.openLink d.openLink := by
  have hlinks := h.flush.map (f := fun c => { c with links := c.length :: c.links }) rfl rfl
  exact hlinks

theorem closeLink (h : Recounted k l c d) (url : String) :
    Recounted k l (c.closeLink url) (d.closeLink url) := by
  cases hlinks : c.links with
  | nil =>
    rw [Canvas.closeLink, Canvas.closeLink, h.links, hlinks]
    exact h
  | cons start links =>
    have hpop := h.map (f := fun c => { c with links }) rfl rfl
    rw [Canvas.closeLink, Canvas.closeLink, h.links, hlinks]
    dsimp only
    rw [hpop.length]
    split
    · exact hpop.emit _ _
    · exact hpop

theorem openQuote (h : Recounted k l c d) (config : Config) :
    Recounted k l (c.openQuote config) (d.openQuote config) :=
  h.map (f := (·.openQuote config)) rfl rfl

theorem closeQuote (h : Recounted k l c d) : Recounted k l c.closeQuote d.closeQuote := by
  refine h.map c.closeQuote_counts ?_
  cases hquotes : c.quotes with
  | nil =>
    have hsame : (c.recount l).quotes = [] := hquotes
    rw [Canvas.closeQuote, Canvas.closeQuote, hsame, hquotes]
  | cons quote quotes =>
    rw [closeQuote_eq hquotes, closeQuote_eq (c := c.recount l) hquotes]
    rfl

theorem openList (h : Recounted k l c d) (start : Option UInt64) :
    Recounted k l (c.openList start) (d.openList start) :=
  h.map (f := (·.openList start)) rfl rfl

theorem closeList (h : Recounted k l c d) : Recounted k l c.closeList d.closeList :=
  h.map rfl rfl

theorem nextListMarker (h : Recounted k l c d) :
    d.nextListMarker.1 = c.nextListMarker.1 ∧
      Recounted k l c.nextListMarker.2 d.nextListMarker.2 := by
  unfold Canvas.nextListMarker
  rw [h.lists]
  dsimp only
  split
  · rename_i n lists _
    exact ⟨rfl, h.map (f := fun c => { c with lists := some (n + 1) :: lists }) rfl rfl⟩
  · exact ⟨rfl, h⟩

theorem request (h : Recounted k l c d) (scene : Scene) (r : FetchRequest) :
    Recounted k l (c.request scene r) (d.request scene r) := by
  have hrequested : d.requested = c.requested := by rw [h.eq]; rfl
  unfold Canvas.request
  rw [hrequested]
  split
  · exact h.map (f := fun e => { e with requested := c.requested ++ [r] }) rfl rfl
  · exact h

theorem inStep (k l : List Nat) : InStep id (Recounted k l) where
  write text h := h.write text
  emit range kind h := h.emit range kind
  anchor kind h := h.anchor kind
  request scene r h := h.request scene r

theorem drawCode (h : Recounted k l c d) (language : Option String) (lines : List String) :
    Recounted k l (Handler.drawCode c language lines) (Handler.drawCode d language lines) := by
  have hstart := h.startBlock.flush
  have hwritten := hstart.grow (c.startBlock.flush.buffer.append ("\n".intercalate lines).toList)
  unfold Handler.drawCode cursor Canvas.writeVerbatim Buffer.writeVerbatim
  dsimp only
  rw [hstart.length, hstart.buffer]
  split
  · exact hwritten.emit _ _
  · exact hwritten

/-- On the way into a node its attributes are entered. -/
theorem visitIn (h : Recounted k l c d) (scene : Scene) (kind : NodeKind) (children : List Node)
    (parent next : Option Node) :
    let visit : Visit := { node := .mk kind children, entering := true, parent, next }
    Recounted (kind.opened k) (kind.opened l)
      (Registry.builtin.visitor scene visit c).2 (Registry.builtin.visitor scene visit d).2 := by
  cases kind with
  | document | paragraph => exact h
  | text s soft hard =>
    have hput := h.put s
    cases hard with
    | true => exact hput.put "\n\n"
    | false =>
      cases soft with
      | true => exact hput.put "\n"
      | false => exact hput
  | heading level => exact h.enter .bold
  | inline a => exact h.enter a
  | link url => exact h.openLink
  | autolink url =>
    obtain ⟨hrange, hput⟩ := h.write url
    have hlink : (d.write url).2.inLink = (c.write url).2.inLink :=
      congrArg (fun links : List Nat => !links.isEmpty) hput.links
    show Recounted k l
      (if (c.write url).2.inLink then (c.write url).2
        else (c.write url).2.emit (c.write url).1 (.link url))
      (if (d.write url).2.inLink then (d.write url).2
        else (d.write url).2.emit (d.write url).1 (.link url))
    rw [hrange, hlink]
    split
    · exact hput
    · exact hput.emit _ _
  | blockquote => exact h.openQuote scene.config
  | codeBlock language lines => exact h.drawCode language lines
  | list start =>
    show Recounted k l
      ((if c.lists.isEmpty then c.startBlock else c.ensureBreak).openList start)
      ((if d.lists.isEmpty then d.startBlock else d.ensureBreak).openList start)
    rw [h.lists]
    split
    · exact h.startBlock.openList start
    · exact h.ensureBreak.openList start
  | listItem =>
    obtain ⟨hmarker, hnext⟩ := h.ensureBreak.nextListMarker
    show Recounted k l (c.ensureBreak.nextListMarker.2.put c.ensureBreak.nextListMarker.1)
      (d.ensureBreak.nextListMarker.2.put d.ensureBreak.nextListMarker.1)
    rw [hmarker]
    exact hnext.put _
  | thematicBreak => exact h.startBlock.put "───"
  | mention target => exact (inStep k l).mention h scene target
  | emoji e =>
    show Recounted k l (c.placeEmoji scene.config e c.emojiSize)
      (d.placeEmoji scene.config e d.emojiSize)
    rw [h.emojiSize]
    exact h.anchor _

/-- On the way out they are left, and the counts are what they were. -/
theorem visitOut (scene : Scene) (kind : NodeKind) (children : List Node)
    (parent next : Option Node)
    (h : Recounted (kind.opened k) (kind.opened l) c d) (same : SameOpen k l) :
    let visit : Visit := { node := .mk kind children, entering := false, parent, next }
    Recounted k l (Registry.builtin.visitor scene visit c).2
      (Registry.builtin.visitor scene visit d).2 := by
  cases kind with
  | document | text _ _ _ | autolink _ | mention _ | emoji _ | listItem => exact h
  | paragraph | codeBlock _ _ | thematicBreak => exact h.separate _
  | heading level => exact (h.exit same).separate _
  | inline a => exact h.exit same
  | link url => exact h.closeLink url
  | blockquote => exact h.closeQuote.separate _
  | list start => exact h.closeList.separate _

mutual

theorem walkNode (scene : Scene) (parent next : Option Node) :
    ∀ (node : Node) {k l : List Nat} {c d : Canvas}, Recounted k l c d →
      Recounted k l (walkNode (Registry.builtin.visitor scene) parent next node c)
        (RichChat.walkNode (Registry.builtin.visitor scene) parent next node d)
  | .mk kind children, k, l, c, d, h => by
    have hin := h.visitIn scene kind children parent next
    have hflow := flow_visitor scene kind children parent next c
    have hflow' := flow_visitor scene kind children parent next d
    rw [RichChat.walkNode, RichChat.walkNode]
    dsimp only at hin ⊢
    rw [hflow, hflow']
    refine visitOut scene kind children parent next ?_ h.same
    cases kind.isAtom with
    | true => exact hin
    | false => exact walkAll scene _ children hin

theorem walkAll (scene : Scene) (parent : Node) :
    ∀ (nodes : List Node) {k l : List Nat} {c d : Canvas}, Recounted k l c d →
      Recounted k l (RichChat.walkAll (Registry.builtin.visitor scene) parent nodes c)
        (RichChat.walkAll (Registry.builtin.visitor scene) parent nodes d)
  | [], k, l, c, d, h => by
    rw [RichChat.walkAll, RichChat.walkAll]
    exact h
  | node :: nodes, k, l, c, d, h => by
    rw [RichChat.walkAll, RichChat.walkAll]
    exact walkAll scene parent nodes (walkNode scene (some parent) nodes.head? node h)

end

end Recounted

end Canvas

end RichChat

import RichChat.Proofs.Strokes
import RichChat.Render.Presence
import RichChat.Render.Reply
import RichChat.Render.Tooltip

/-!
# What handlers draw is planned

Handlers draw by operations alone: whatever node a handler visits, there is a plan that leads to the
canvas that it leaves (`Handler.IsPlanned`). So there are plans for trees, for nested renderings
and for all that is drawn of messages, replies, presence and tooltips.

The segments that handlers make of what they wrote are where this could fail. `Canvas.Spans` says
that a range lies between characters; the range that writing gives does (`spans_write`), and goes
on to when more is written.
-/

namespace RichChat

namespace Canvas

/-- The range lies between characters of the text. -/
structure Spans (c : Canvas) (range : Nat × Nat) : Prop where
  le : range.1 ≤ range.2
  start : Text.Boundary c.buffer.text range.1
  stop : Text.Boundary c.buffer.text range.2

theorem Spans.mono {c d : Canvas} {range : Nat × Nat} (h : c.Spans range)
    (hcd : c.buffer.text <+: d.buffer.text) : d.Spans range :=
  ⟨h.le, h.start.mono hcd, h.stop.mono hcd⟩

theorem Spans.emit {c : Canvas} {range : Nat × Nat} (h : c.Spans range) (other : Nat × Nat)
    (kind : SegmentKind) : (c.emit other kind).Spans range := ⟨h.le, h.start, h.stop⟩

theorem Spans.admits {c : Canvas} {range : Nat × Nat} (h : c.Spans range) {kind : SegmentKind}
    (hk : kind.isMark = true) : c.admits range.1 range.2 kind = true := by
  simp [Canvas.admits, hk, h.le, Text.isSome_dropBytes?, h.start, h.stop]

theorem prefix_writePiece (scene : Scene) (range : Option (Nat × Nat)) (c : Canvas) {p : List Char}
    (hp : Text.pieces p = [p]) : c.buffer.text <+: (writePiece (range, c) p).2.buffer.text := by
  obtain ⟨ss, h, -⟩ := c.drawn_piece scene range hp
  exact h.prefix_text

theorem spans_writeBuffer (b : Buffer) {p : List Char} (hp : Text.pieces p = [p]) :
    Text.Boundary (b.write p).2.text (b.write p).1.1 ∧ (b.write p).1.2 = (b.write p).2.length := by
  by_cases hn : p = ['\n']
  · rw [hn, Buffer.write_newline]
    exact ⟨(Text.Boundary.size _).mono (List.prefix_append _ _), by simp [Text.size]; decide⟩
  · rw [Buffer.write_piece _ hp hn]
    exact ⟨(Text.Boundary.size _).mono (List.prefix_append _ _), rfl⟩

theorem spans_pieces (scene : Scene) {ps : List (List Char)}
    (hps : ∀ p ∈ ps, Text.pieces p = [p]) (range : Option (Nat × Nat)) (c : Canvas)
    (h : ∀ r ∈ range, Text.Boundary c.buffer.text r.1 ∧ r.2 = c.length) :
    ∀ r ∈ (ps.foldl writePiece (range, c)).1,
      Text.Boundary (ps.foldl writePiece (range, c)).2.buffer.text r.1 ∧
        r.2 = (ps.foldl writePiece (range, c)).2.length := by
  induction ps generalizing range c with
  | nil => exact h
  | cons p ps ih =>
    have hp := hps p List.mem_cons_self
    refine ih (fun q hq => hps q (List.mem_cons_of_mem _ hq)) (writePiece (range, c) p).1
      (writePiece (range, c) p).2 fun r hr => ?_
    have hw := spans_writeBuffer (if p = ['\n'] then c else c.flush).buffer hp
    obtain rfl : (((range.getD _).1, _) : Nat × Nat) = r := Option.some.inj hr
    refine ⟨?_, hw.2⟩
    cases range with
    | none => exact hw.1
    | some s => exact (h s rfl).1.mono (prefix_writePiece scene _ c hp)

theorem lt_writeBuffer (b : Buffer) {p : List Char} (hp : Text.pieces p = [p]) :
    (b.write p).1.1 < (b.write p).1.2 ∧ b.length ≤ (b.write p).1.2 := by
  have hpos : 0 < Text.size p := by
    have hne := Text.ne_nil_of_mem_pieces (hp ▸ List.mem_singleton_self p)
    exact Nat.pos_of_ne_zero fun h => hne (Text.size_eq_zero.1 h)
  by_cases hn : p = ['\n']
  · rw [hn, Buffer.write_newline]
    exact ⟨Nat.lt_succ_self _, Nat.le_succ _⟩
  · rw [Buffer.write_piece _ hp hn, Buffer.flush_eq_append]
    simp only [Buffer.append_length]
    omega

theorem lt_writePiece (c : Canvas) {p : List Char} (hp : Text.pieces p = [p])
    {range : Option (Nat × Nat)} (h : ∀ r ∈ range, r.1 < r.2 ∧ r.2 = c.length) :
    ∃ r d, writePiece (range, c) p = (some r, d) ∧ r.1 < r.2 ∧ r.2 = d.length := by
  have hgrow : c.length ≤ (if p = ['\n'] then c else c.flush).buffer.length := by
    split
    · exact Nat.le_refl _
    · rw [flush_buffer, Buffer.flush_eq_append, Buffer.append_length]
      exact Nat.le_add_right _ _
  have hlt := lt_writeBuffer (if p = ['\n'] then c else c.flush).buffer hp
  have hend := (spans_writeBuffer (if p = ['\n'] then c else c.flush).buffer hp).2
  refine ⟨_, _, rfl, ?_, hend⟩
  cases range with
  | none => exact hlt.1
  | some r =>
    obtain ⟨hr, hstop⟩ := h r rfl
    exact Nat.lt_of_lt_of_le (by omega : r.1 < c.length) (Nat.le_trans hgrow hlt.2)

theorem lt_pieces {ps : List (List Char)} (hps : ∀ p ∈ ps, Text.pieces p = [p])
    {range : Nat × Nat} {c : Canvas} (hlt : range.1 < range.2) (hstop : range.2 = c.length) :
    ∃ r, (ps.foldl writePiece (some range, c)).1 = some r ∧ r.1 < r.2 := by
  induction ps generalizing range c with
  | nil => exact ⟨range, rfl, hlt⟩
  | cons p ps ih =>
    obtain ⟨r, d, heq, hr, hd⟩ := c.lt_writePiece (hps p List.mem_cons_self)
      (show ∀ r ∈ some range, r.1 < r.2 ∧ r.2 = c.length by simpa using ⟨hlt, hstop⟩)
    rw [List.foldl_cons, heq]
    exact ih (fun q hq => hps q (List.mem_cons_of_mem _ hq)) hr hd

/-- A text that is not empty makes a range that is not empty. -/
theorem lt_write (c : Canvas) {text : String} (hne : text ≠ "") :
    (c.write text).1.1 < (c.write text).1.2 := by
  have hps : ∀ p ∈ Text.pieces text.toList, Text.pieces p = [p] := fun _ => Text.pieces_of_mem
  unfold write
  dsimp only
  cases hpieces : Text.pieces text.toList with
  | nil =>
    have hflat := Text.flatten_pieces text.toList
    rw [hpieces] at hflat
    exact absurd (String.toList_eq_nil_iff.1 hflat.symm) hne
  | cons p ps =>
    rw [hpieces] at hps
    obtain ⟨r, d, heq, hr, hd⟩ := c.lt_writePiece (hps p List.mem_cons_self)
      (show ∀ r ∈ (none : Option (Nat × Nat)), r.1 < r.2 ∧ r.2 = c.length by simp)
    obtain ⟨s, hs, hlt⟩ := lt_pieces (fun q hq => hps q (List.mem_cons_of_mem _ hq)) hr hd
    rw [List.foldl_cons, heq, hs]
    exact hlt

/-- What has just been written ends where the text ends. -/
theorem write_stop (c : Canvas) (text : String) :
    (c.write text).1.2 = (c.write text).2.length := by
  have hps : ∀ p ∈ Text.pieces text.toList, Text.pieces p = [p] := fun _ => Text.pieces_of_mem
  have h := spans_pieces {} hps none c (by simp)
  unfold write
  dsimp only
  cases hr : ((Text.pieces text.toList).foldl writePiece (none, c)).1 with
  | none => rfl
  | some r => exact (h r hr).2

theorem writeWith_stop (c : Canvas) (a : Attribute) (text : String) :
    (c.writeWith a text).1.2 = (c.writeWith a text).2.length := by
  have hexit : (c.writeWith a text).2.length = ((c.enter a).write text).2.length := by
    rw [writeWith_eq, exit_eq, length, change_buffer]
    rfl
  rw [hexit]
  exact (c.enter a).write_stop text

theorem spans_write (c : Canvas) (text : String) : (c.write text).2.Spans (c.write text).1 := by
  have hps : ∀ p ∈ Text.pieces text.toList, Text.pieces p = [p] := fun _ => Text.pieces_of_mem
  have h := spans_pieces {} hps none c (by simp)
  have hstart : Text.Boundary (c.write text).2.buffer.text (c.write text).1.1 := by
    unfold write
    dsimp only
    cases hr : ((Text.pieces text.toList).foldl writePiece (none, c)).1 with
    | none => exact .size _
    | some r => exact (h r hr).1
  have hstop := c.write_stop text
  exact ⟨by rw [hstop]; exact hstart.le, hstart, by rw [hstop]; exact .size _⟩

end Canvas

/-- Some plan leads from one canvas to the other. -/
def Planned (scene : Scene) (c d : Canvas) : Prop := ∃ plan : Plan, plan.run scene c = d

namespace Planned

open Canvas

variable {scene : Scene} {c d e : Canvas}

theorem refl (c : Canvas) : Planned scene c c := ⟨.done, rfl⟩

theorem trans (hcd : Planned scene c d) (hde : Planned scene d e) : Planned scene c e := by
  obtain ⟨p, rfl⟩ := hcd
  obtain ⟨q, rfl⟩ := hde
  exact ⟨p.append q, p.run_append scene q c⟩

theorem prefix_text (h : Planned scene c d) : c.buffer.text <+: d.buffer.text := by
  obtain ⟨plan, rfl⟩ := h
  exact plan.prefix_run scene c

theorem op (h : Planned scene c d) (o : Op) : Planned scene c (o.run scene d) :=
  h.trans ⟨.op o .done, rfl⟩

theorem put (h : Planned scene c d) (text : String) : Planned scene c (d.put text) :=
  h.op (.write text)

theorem ensureBreak (h : Planned scene c d) : Planned scene c d.ensureBreak := h.op .ensureBreak

theorem startBlock (h : Planned scene c d) : Planned scene c d.startBlock := h.op .startBlock

theorem writeWith (h : Planned scene c d) (a : Attribute) (text : String) :
    Planned scene c (d.writeWith a text).2 := h.op (.writeWith a text)

theorem separate (h : Planned scene c d) (visit : Visit) : Planned scene c (d.separate visit) := by
  unfold Canvas.separate
  split
  · exact h
  · exact h.startBlock
  · exact h.startBlock
  · exact h.ensureBreak

theorem anchor (h : Planned scene c d) {kind : SegmentKind} (point : kind.isAnchor = true) :
    Planned scene c (d.anchor kind) := h.op (.anchor kind point)

theorem emit (h : Planned scene c d) {range : Nat × Nat} (hr : d.Spans range)
    {kind : SegmentKind} (hk : kind.isMark = true) : Planned scene c (d.emit range kind) := by
  have := h.op (.mark range.1 range.2 kind)
  rwa [Op.run, Canvas.mark, if_pos (hr.admits hk)] at this

theorem foldl {α : Type} {draw : Canvas → α → Canvas} (hdraw : ∀ c x, Planned scene c (draw c x))
    (xs : List α) (h : Planned scene c d) : Planned scene c (xs.foldl draw d) := by
  induction xs generalizing d with
  | nil => exact h
  | cons x xs ih => exact ih (h.trans (hdraw d x))

theorem drawSome {α : Type} {draw : Canvas → α → Canvas}
    (hdraw : ∀ c x, Planned scene c (draw c x)) (part : Option α) (h : Planned scene c d) :
    Planned scene c (d.drawSome part draw) := by
  cases part with
  | none => exact h
  | some x => exact h.trans (hdraw d x)

end Planned

/-- A handler draws by operations alone. -/
def Handler.IsPlanned (handler : Handler) : Prop :=
  ∀ scene visit c, Planned scene c (handler scene visit c).2

namespace Canvas

variable (scene : Scene) (c : Canvas)

theorem planned_mentionAvatar (target : Reference) (data : MentionData) :
    Planned scene c (c.mentionAvatar scene.config target data) := by
  unfold mentionAvatar
  split
  · split
    · exact (Planned.refl c).anchor rfl
    · exact .refl c
  · exact .refl c

theorem planned_writeResolved (target : Reference) (data : MentionData) :
    Planned scene c (c.writeResolved scene target data) := by
  have hw := (c.planned_mentionAvatar scene target data).put (target.sigil ++ data.name)
  have hr := spans_write (c.mentionAvatar scene.config target data) (target.sigil ++ data.name)
  unfold writeResolved
  dsimp only
  split
  · exact (hw.emit hr rfl).emit (hr.emit _ _) rfl
  · exact hw.emit hr rfl

theorem planned_writeUnresolved (target : Reference) :
    Planned scene c (c.writeUnresolved scene target) :=
  ((Planned.refl c).put _).emit (spans_write c _) rfl

theorem planned_request (r : FetchRequest) : Planned scene c (c.request scene r) :=
  (Planned.refl c).op (.request r)

theorem planned_mentionUser (id : UserId) (known : Option User) :
    Planned scene c (c.mentionUser scene id known) := by
  unfold mentionUser
  dsimp only
  split
  · exact c.planned_writeResolved scene _ _
  · -- the request comes first, whether the user is known or not
    cases known.or (scene.user? id) with
    | some user =>
      refine Planned.trans ?_ (planned_writeResolved scene _ _ _)
      split
      · exact c.planned_request scene _
      · exact c.planned_request scene _
      · exact .refl c
    | none =>
      refine Planned.trans ?_ (planned_writeUnresolved scene _ _)
      split
      · exact c.planned_request scene _
      · exact c.planned_request scene _
      · exact .refl c

theorem planned_mention (target : Reference) : Planned scene c (c.mention scene target) := by
  cases target with
  | user id => exact c.planned_mentionUser scene id none
  | role id =>
    show Planned scene c (c.mentionRole scene id)
    unfold mentionRole
    split
    · exact c.planned_writeUnresolved scene _
    · split
      · exact c.planned_writeResolved scene _ _
      · exact (c.planned_request scene _).trans (planned_writeUnresolved scene _ _)
  | channel id =>
    show Planned scene c (c.mentionChannel scene id)
    unfold mentionChannel
    split
    · exact c.planned_writeResolved scene _ _
    · exact (c.planned_request scene _).trans (planned_writeUnresolved scene _ _)

end Canvas

namespace Handler

open Canvas

theorem isPlanned_document : IsPlanned document := fun _ _ c => .refl c

theorem isPlanned_paragraph : IsPlanned paragraph := by
  intro scene visit c
  unfold paragraph
  dsimp only
  split
  · exact .refl c
  · exact (Planned.refl c).separate visit

theorem isPlanned_text : IsPlanned text := by
  intro scene visit c
  unfold text
  split
  · rename_i s soft hard _ _
    have h : Planned scene c (c.put s) := (Planned.refl c).put s
    dsimp only
    split
    · exact h.put _
    · split
      · exact h.put _
      · exact h
  · exact .refl c

theorem isPlanned_heading : IsPlanned heading := by
  intro scene visit c
  unfold heading
  dsimp only
  split
  · exact (Planned.refl c).op (.enter .bold)
  · exact ((Planned.refl c).op (.exit .bold)).separate visit

theorem isPlanned_inline : IsPlanned inline := by
  intro scene visit c
  unfold inline
  split
  · rename_i a _
    dsimp only
    split
    · exact (Planned.refl c).op (.enter a)
    · exact (Planned.refl c).op (.exit a)
  · exact .refl c

theorem isPlanned_link : IsPlanned link := by
  intro scene visit c
  unfold link
  split
  · rename_i url _
    dsimp only
    split
    · exact (Planned.refl c).op .openLink
    · exact (Planned.refl c).op (.closeLink url)
  · exact .refl c

theorem isPlanned_autolink : IsPlanned autolink := by
  intro scene visit c
  unfold autolink
  split
  · rename_i url _ _
    have hw : Planned scene c (c.put url) := (Planned.refl c).put url
    dsimp only
    split
    · exact hw
    · exact hw.emit (spans_write c url) rfl
  · exact .refl c

theorem isPlanned_blockquote : IsPlanned blockquote := by
  intro scene visit c
  unfold blockquote
  dsimp only
  split
  · exact (Planned.refl c).op .openQuote
  · exact ((Planned.refl c).op .closeQuote).separate visit

/-- The code of a block starts where the text ended and ends where it ends now. -/
theorem planned_drawCode (scene : Scene) (c : Canvas) (language : Option String)
    (lines : List String) : Planned scene c (drawCode c language lines) := by
  have hs : Planned scene c c.startBlock := (Planned.refl c).startBlock
  have hw := (hs.op .cursor).op (.writeVerbatim ("\n".intercalate lines))
  unfold drawCode
  dsimp only
  split
  · rename_i hlt
    refine hw.emit ⟨Nat.le_of_lt hlt, ?_, ?_⟩ rfl
    · exact (Text.Boundary.size _).mono (List.prefix_append _ _)
    · show Text.Boundary (c.startBlock.cursor.2.buffer.text ++ _) (_ + _)
      rw [Buffer.length, ← Text.size_append]
      exact Text.Boundary.size _
  · exact hw

theorem isPlanned_codeBlock : IsPlanned codeBlock := by
  intro scene visit c
  unfold codeBlock
  split
  · dsimp only
    split
    · exact planned_drawCode scene c _ _
    · exact (Planned.refl c).separate visit
  · exact .refl c

theorem isPlanned_list : IsPlanned list := by
  intro scene visit c
  unfold list
  split
  · rename_i start _
    dsimp only
    split
    · refine Planned.op ?_ (.openList start)
      split
      · exact (Planned.refl c).startBlock
      · exact (Planned.refl c).ensureBreak
    · exact ((Planned.refl c).op .closeList).separate visit
  · exact .refl c

theorem isPlanned_listItem : IsPlanned listItem := by
  intro scene visit c
  unfold listItem
  dsimp only
  split
  · exact (((Planned.refl c).ensureBreak).op .numberItem).put _
  · exact .refl c

theorem isPlanned_thematicBreak : IsPlanned thematicBreak := by
  intro scene visit c
  unfold thematicBreak
  dsimp only
  split
  · exact ((Planned.refl c).startBlock).put _
  · exact (Planned.refl c).separate visit

theorem isPlanned_mention : IsPlanned mention := by
  intro scene visit c
  unfold mention
  split
  · exact c.planned_mention scene _
  · exact .refl c

theorem isPlanned_emoji : IsPlanned emoji := by
  intro scene visit c
  unfold emoji
  split
  · exact (Planned.refl c).anchor rfl
  · exact .refl c

theorem isPlanned_fallback : IsPlanned fallback := by
  intro scene visit c
  unfold fallback
  split
  · exact .refl c
  · exact isPlanned_paragraph scene visit c
  · exact isPlanned_text scene visit c
  · split
    · dsimp only
      split
      · exact (Planned.refl c).put _
      · exact .refl c
    · exact .refl c

theorem isPlanned_of_mem_named {handler : Handler} (h : handler ∈ named.map (·.2)) :
    IsPlanned handler := by
  simp only [named, List.map_cons, List.map_nil, List.mem_cons, List.not_mem_nil, or_false] at h
  rcases h with rfl | rfl | rfl | rfl | rfl | rfl | rfl | rfl | rfl | rfl | rfl | rfl | rfl | rfl |
    rfl
  · exact isPlanned_fallback
  · exact isPlanned_document
  · exact isPlanned_paragraph
  · exact isPlanned_text
  · exact isPlanned_heading
  · exact isPlanned_inline
  · exact isPlanned_link
  · exact isPlanned_autolink
  · exact isPlanned_blockquote
  · exact isPlanned_codeBlock
  · exact isPlanned_list
  · exact isPlanned_listItem
  · exact isPlanned_thematicBreak
  · exact isPlanned_mention
  · exact isPlanned_emoji

end Handler

/-- The registry puts named handlers on nodes. -/
def Registry.IsNamed (registry : Registry) : Prop :=
  ∀ entry ∈ registry.handlers, entry.2 ∈ Handler.named.map (·.2)

theorem Registry.isNamed_builtin : Registry.builtin.IsNamed := by
  intro entry h
  simp only [builtin, List.mem_cons, List.not_mem_nil, or_false] at h
  rcases h with rfl | rfl | rfl | rfl | rfl | rfl | rfl | rfl | rfl | rfl | rfl | rfl | rfl | rfl <;>
    simp [Handler.named]

/-- Then named handlers draw all nodes. -/
theorem Registry.IsNamed.mem_named {registry : Registry} (h : registry.IsNamed) (tag : NodeTag) :
    (registry.get? tag).getD Handler.fallback ∈ Handler.named.map (·.2) := by
  cases hg : registry.get? tag with
  | none => simp [Handler.named]
  | some handler =>
    unfold get? lookup at hg
    obtain ⟨entry, hentry, rfl⟩ := Option.map_eq_some_iff.1 hg
    exact h entry (List.mem_of_find?_eq_some hentry)

/-- A visitor draws by operations alone. -/
def Visitor.IsPlanned (scene : Scene) (visitor : Visitor Canvas) : Prop :=
  ∀ visit c, Planned scene c (visitor visit c).2

theorem Registry.IsNamed.isPlanned {registry : Registry} (h : registry.IsNamed) (scene : Scene) :
    Visitor.IsPlanned scene (registry.visitor scene) :=
  fun visit c => Handler.isPlanned_of_mem_named (h.mem_named visit.node.tag) scene visit c

mutual

theorem planned_walkNode {scene : Scene} {visitor : Visitor Canvas}
    (hv : Visitor.IsPlanned scene visitor) (parent next : Option Node) :
    ∀ (node : Node) (c : Canvas), Planned scene c (walkNode visitor parent next node c)
  | .mk kind children, c => by
    have hin := hv { node := .mk kind children, entering := true, parent, next } c
    rw [walkNode]
    refine Planned.trans ?_ (hv _ _)
    rcases hvis : visitor { node := .mk kind children, entering := true, parent, next } c
      with ⟨flow, d⟩
    rw [hvis] at hin
    cases flow
    · exact hin.trans (planned_walkAll hv _ children d)
    · exact hin

theorem planned_walkAll {scene : Scene} {visitor : Visitor Canvas}
    (hv : Visitor.IsPlanned scene visitor) (parent : Node) :
    ∀ (nodes : List Node) (c : Canvas), Planned scene c (walkAll visitor parent nodes c)
  | [], c => by
    rw [walkAll]
    exact .refl c
  | node :: nodes, c => by
    rw [walkAll]
    exact (planned_walkNode hv _ _ node c).trans (planned_walkAll hv parent nodes _)

end

namespace Canvas

variable (scene : Scene) (c : Canvas)

theorem planned_draw (node : Node) : Planned scene c (c.draw .builtin scene node) := by
  rw [draw, walk_eq_walkNode]
  exact planned_walkNode (Registry.isNamed_builtin.isPlanned scene) _ _ node c

theorem planned_document (node : Node) : Planned scene c (c.document .builtin scene node) := by
  refine Planned.trans ?_ (planned_draw scene _ node)
  unfold sizeEmoji
  split
  · split
    · exact (Planned.refl c).op .enlargeEmoji
    · exact .refl c
  · exact .refl c

/-- A nested rendering is one of a plan: some plan of the nested canvas draws what the handlers
draw there. -/
theorem nested_eq_within (source : String) :
    ∃ inner : Plan,
      c.nested .builtin scene source = c.within scene.config source (inner.run scene) := by
  obtain ⟨inner, h⟩ :=
    planned_draw scene (c.flush.splitRun.child scene.config) (.ofSource source)
  refine ⟨inner, ?_⟩
  unfold nested within
  dsimp only
  rw [h]

theorem planned_nested (source : String) :
    Planned scene c (c.nested .builtin scene source) := by
  obtain ⟨inner, h⟩ := c.nested_eq_within scene source
  exact ⟨.nested source inner .done, h.symm⟩

end Canvas

end RichChat

import Mathlib.Data.List.Forall2
import RichChat.Proofs.QuoteNest

/-!
# All quotes of a plan

`Plan.watch` carries a plan out and notes, for each quote, the canvas on which it was opened and the
one on which it is closed, those of nested canvases included. What it draws is what the plan draws
(`canvas_watch`). `Watch.Ok` is the invariant: the quotes that are open are in line with the
canvases on which they were opened, and each one that has been closed is sound. Every plan keeps it
(`Plan.watch_ok`), and so does the end of the rendering (`Watch.Ok.finish`).
-/

namespace RichChat

/-- A canvas with the ones on which its open quotes were opened, the innermost first, and with the
quotes that have been closed. -/
structure Watch where
  canvas : Canvas
  openings : List Canvas := []
  closings : List Closing := []

namespace Watch

def close (w : Watch) : Watch where
  canvas := w.canvas.closeQuote
  openings := w.openings.tail
  closings := w.closings ++ w.openings.head?.toList.map fun opened => ⟨opened, w.canvas⟩

def closeAll : Nat → Watch → Watch
  | 0, w => w
  | n + 1, w => closeAll n w.close

def finish (w : Watch) : Watch :=
  closeAll w.canvas.quotes.length { w with canvas := w.canvas.leave }

def op (scene : Scene) (o : Op) (w : Watch) : Watch :=
  match o with
  | .closeQuote => w.close
  | .openQuote =>
    let c := w.canvas.openQuote scene.config
    { w with canvas := c, openings := c :: w.openings }
  | o => { w with canvas := o.run scene w.canvas }

/-- A nested rendering whose own canvas is watched by `watch`. -/
def within (scene : Scene) (source : String) (watch : Watch → Watch) (w : Watch) : Watch :=
  if scene.config.maxDepth ≤ w.canvas.depth + 1 then { w with canvas := w.canvas.put source }
  else
    let c := w.canvas.flush.splitRun
    let inner := (watch { canvas := c.child scene.config }).finish
    { w with
      canvas := (c.adopt inner.canvas).resetRun
      closings := w.closings ++ inner.closings }

theorem canvas_closeAll (n : Nat) (w : Watch) :
    (closeAll n w).canvas = Canvas.closeQuotes n w.canvas := by
  induction n generalizing w with
  | zero => rfl
  | succ n ih => exact ih w.close

theorem canvas_finish (w : Watch) : w.finish.canvas = w.canvas.finish := by
  rw [finish, canvas_closeAll, Canvas.finish_eq]

theorem canvas_op (scene : Scene) (o : Op) (w : Watch) :
    (w.op scene o).canvas = o.run scene w.canvas := by
  cases o <;> rfl

end Watch

/-- Carries out a plan and notes its quotes. -/
def Plan.watch (scene : Scene) : Plan → Watch → Watch
  | done, w => w
  | op o rest, w => rest.watch scene (w.op scene o)
  | nested source inner rest, w => rest.watch scene (w.within scene source (inner.watch scene))

theorem Plan.canvas_watch (scene : Scene) (plan : Plan) (w : Watch) :
    (plan.watch scene w).canvas = plan.run scene w.canvas := by
  induction plan generalizing w with
  | done => rfl
  | op o rest ih => rw [watch, ih, Watch.canvas_op, run]
  | nested source inner rest ihInner ihRest =>
    have hw : (w.within scene source (inner.watch scene)).canvas
        = w.canvas.within scene.config source (inner.run scene) := by
      unfold Watch.within Canvas.within
      split
      · rfl
      · dsimp only
        rw [Watch.canvas_finish, ihInner]
    rw [watch, ihRest, hw, run]

/-- The blocks of the quotes that have been closed. -/
def Canvas.blocks (c : Canvas) : List Segment := c.segments.filter (·.kind = .quoteBlock)

theorem Canvas.blocks_eq (c : Canvas) : c.blocks = c.places.filter (·.kind = .quoteBlock) := by
  unfold blocks places placesOf
  rw [List.filter_filter]
  congr 1
  funext s
  cases s.kind <;> simp [SegmentKind.isPlace]

namespace Closing.Sound

variable {k : Closing}

theorem kind_of_mem_made (h : k.Sound) : ∀ s ∈ k.made, s.kind = .quoteBlock := by
  intro s hs
  rcases h.made with ⟨hmade, -⟩ | ⟨stop, hmade, -⟩
  · simp [hmade] at hs
  · rw [hmade, List.mem_singleton] at hs
    rw [hs]

theorem blocks_closeQuote (h : k.Sound) : k.closed.closeQuote.blocks = k.closed.blocks ++ k.made := by
  have hall : k.made.filter (·.kind = .quoteBlock) = k.made :=
    List.filter_eq_self.2 fun s hs => by simp [h.kind_of_mem_made s hs]
  rw [Canvas.blocks, h.segments_eq, List.filter_append, hall]
  rfl

theorem anchors_closeQuote (h : k.Sound) : k.closed.closeQuote.anchors = k.closed.anchors := by
  have hnone : (placesOf k.made).filter (·.kind.isAnchor) = [] := by
    refine List.filter_eq_nil_iff.2 fun s hs => ?_
    rw [h.kind_of_mem_made s (List.mem_filter.1 hs).1]
    simp [SegmentKind.isAnchor]
  rw [Canvas.anchors, Canvas.places, h.segments_eq, placesOf_append, List.filter_append, hnone,
    List.append_nil]
  rfl

end Closing.Sound

/-- What holds while a plan is watched: open quotes were opened where it is noted, and those that
have been closed are sound. -/
structure Watch.Ok (scene : Scene) (base : List Char) (n : Nat) (w : Watch) : Prop where
  bounds : w.canvas.InBounds
  stacked : w.canvas.StackedOn scene.config base
  laminar : Laminar n w.canvas
  opened : List.Forall₂ (Opened w.canvas) w.openings w.canvas.quotes
  closings : ∀ k ∈ w.closings, k.Sound
  blocks : w.canvas.blocks = w.closings.flatMap Closing.made

namespace Watch.Ok

variable {scene : Scene} {base : List Char} {n : Nat} {w : Watch}

theorem of_empty {c : Canvas} (hp : c.places = []) (hq : c.quotes = []) (hb : c.InBounds)
    (hs : c.StackedOn scene.config base) : Ok scene base c.length { canvas := c } := by
  refine ⟨hb, hs, .of_empty hp hq, ?_, by simp, ?_⟩
  · rw [hq]
    exact .nil
  · rw [Canvas.blocks_eq, hp]
    rfl

/-- Anchors behind the next text belong to all open quotes. -/
theorem opened_grow (h : w.Ok scene base n) (hm : scene.config.quoteMarker.toList ≠ [])
    {d : Canvas} (hp : w.canvas.buffer.text <+: d.buffer.text) (new : List Segment)
    (ha : d.anchors = w.canvas.anchors ++ new)
    (hnew : ∀ a ∈ new, w.canvas.flush.length ≤ a.start) :
    List.Forall₂ (Opened d) w.openings w.canvas.quotes := by
  have hopened := h.opened
  cases hq : w.canvas.quotes with
  | nil =>
    rw [hq, List.forall₂_nil_right_iff] at hopened
    rw [hopened]
    exact .nil
  | cons quote quotes =>
    have hne : w.canvas.buffer.marker ≠ [] := h.stacked.ne_nil hm (.inr (by simp [hq]))
    rw [hq] at hopened
    refine hopened.imp fun o q ho => ho.grow hp new ha fun a hmem => ?_
    exact Nat.lt_of_lt_of_le (ho.lt_flush hne) (hnew a hmem)

theorem still (h : w.Ok scene base n) {d : Canvas} (hs : w.canvas.Still d) (hb : d.InBounds)
    (hst : d.StackedOn scene.config base) : Ok scene base n { w with canvas := d } := by
  refine ⟨hb, hst, h.laminar.still hs, ?_, h.closings, ?_⟩
  · show List.Forall₂ (Opened d) w.openings d.quotes
    rw [hs.quotes]
    exact h.opened.imp fun o q ho => ho.still hs
  · show d.blocks = _
    rw [Canvas.blocks_eq, hs.places, ← Canvas.blocks_eq]
    exact h.blocks

theorem close (h : w.Ok scene base n) : w.close.Ok scene base n := by
  obtain ⟨bounds, stacked, laminar, opened, closings, blocks⟩ := h
  have bounds' : w.close.canvas.InBounds := bounds.closeQuote
  have stacked' : w.close.canvas.StackedOn scene.config base := stacked.closeQuote
  have laminar' : Laminar n w.close.canvas := laminar.closeQuote bounds
  have hquotes : w.close.canvas.quotes = w.canvas.quotes.tail := w.canvas.quotes_closeQuote
  cases hq : w.canvas.quotes with
  | nil =>
    rw [hq, List.forall₂_nil_right_iff] at opened
    have hcanvas : w.close.canvas = w.canvas := by
      rw [Watch.close, Canvas.closeQuote, hq]
    refine ⟨bounds', stacked', laminar', ?_, ?_, ?_⟩
    · rw [hquotes, hq, Watch.close, opened]
      exact .nil
    · simpa [Watch.close, opened] using closings
    · rw [hcanvas]
      simpa [Watch.close, opened] using blocks
  | cons quote quotes =>
    rw [hq] at opened
    obtain ⟨o, os, ho, hos, hopen⟩ := List.forall₂_cons_right_iff.1 opened
    have hsound := ho.sound hq bounds
    have hclosings : w.close.closings = w.closings ++ [⟨o, w.canvas⟩] := by
      simp [Watch.close, hopen]
    refine ⟨bounds', stacked', laminar', ?_, ?_, ?_⟩
    · rw [hquotes, hq, Watch.close, hopen]
      refine hos.imp fun o q ho => ho.grow ?_ [] ?_ (by simp)
      · exact ⟨[], by rw [List.append_nil, Canvas.closeQuote_text]⟩
      · rw [List.append_nil]
        exact hsound.anchors_closeQuote
    · rw [hclosings]
      intro k hk
      rcases List.mem_append.1 hk with hk | hk
      · exact closings k hk
      · rw [List.mem_singleton.1 hk]
        exact hsound
    · rw [hclosings, List.flatMap_append, ← blocks, List.flatMap_singleton]
      exact hsound.blocks_closeQuote

theorem closeAll (h : w.Ok scene base n) (k : Nat) : (Watch.closeAll k w).Ok scene base n := by
  induction k generalizing w with
  | zero => exact h
  | succ k ih => exact ih h.close

theorem finish (h : w.Ok scene base n) : w.finish.Ok scene base n := by
  have hstill : w.canvas.Still w.canvas.leave := (Canvas.Still.refl _).leave
  have hleave := h.still hstill (by rw [Canvas.leave_eq]; exact h.bounds.change _)
    (by rw [Canvas.leave_eq]; exact h.stacked.change _)
  exact hleave.closeAll _

theorem openings_finish (h : w.Ok scene base n) : w.finish.openings = [] := by
  have hopened := h.finish.opened
  rw [Watch.canvas_finish, Canvas.quotes_finish, List.forall₂_nil_right_iff] at hopened
  exact hopened

theorem anchor (h : w.Ok scene base n) (hm : scene.config.quoteMarker.toList ≠ [])
    {kind : SegmentKind} (point : kind.isAnchor = true) :
    Ok scene base n { w with canvas := w.canvas.anchor kind } := by
  have hflush : w.canvas.Still w.canvas.flush := (Canvas.Still.refl _).flush
  have hplace : kind.isPlace = true := (SegmentKind.isPlace_iff kind).2 (.inr point)
  have hplaces : (w.canvas.anchor kind).places
      = w.canvas.places ++ [⟨w.canvas.flush.length, w.canvas.flush.length, kind⟩] := by
    rw [Canvas.anchor_eq, Canvas.places, Canvas.push, placesOf_append, placesOf_single hplace,
      ← hflush.places]
    rfl
  have hdrawn : Drawn scene w.canvas _ (w.canvas.anchor kind) := (Drawn.refl _).anchor kind point
  refine ⟨hdrawn.inBounds h.bounds, hdrawn.stacked h.stacked, ?_, ?_, h.closings, ?_⟩
  · show Laminar n (w.canvas.anchor kind)
    rw [Canvas.anchor_eq]
    exact (h.laminar.still hflush).anchor point
  · have hquotes : (w.canvas.anchor kind).quotes = w.canvas.quotes := w.canvas.flush_quotes
    rw [hquotes]
    refine h.opened_grow hm hdrawn.prefix_text
      [⟨w.canvas.flush.length, w.canvas.flush.length, kind⟩] ?_ (by simp)
    rw [Canvas.anchors, hplaces, List.filter_append]
    simp [Canvas.anchors, point]
  · rw [← h.blocks, Canvas.blocks_eq, Canvas.blocks_eq, hplaces, List.filter_append]
    have hne : kind ≠ .quoteBlock := by
      rintro rfl
      simp [SegmentKind.isAnchor] at point
    simp [hne]

theorem pushQuote (h : w.Ok scene base n) (hline : w.canvas.buffer.atLineStart = true) :
    Ok scene base n { w with
      canvas := w.canvas.pushQuote scene.config
      openings := w.canvas.pushQuote scene.config :: w.openings } := by
  have hdrawn : Drawn scene w.canvas _ (w.canvas.pushQuote scene.config) :=
    (Drawn.refl _).pushQuote
  have bounds' := hdrawn.inBounds h.bounds
  refine ⟨bounds', hdrawn.stacked h.stacked, h.laminar.pushQuote h.bounds _, ?_, h.closings,
    h.blocks⟩
  refine .cons ⟨rfl, List.prefix_rfl, hline, fun a ha => ?_, [], by simp, by simp⟩ ?_
  · exact (bounds'.segments a (Canvas.mem_anchors.1 ha).1).start.le
  · refine h.opened.imp fun o q ho => ho.grow ?_ [] ?_ (by simp)
    · exact List.prefix_rfl
    · rw [List.append_nil]
      rfl

theorem op (h : w.Ok scene base n) (hm : scene.config.quoteMarker.toList ≠ []) (o : Op) :
    (w.op scene o).Ok scene base n := by
  have run {o : Op} (hs : o.isStill = true) :
      Ok scene base n { w with canvas := o.run scene w.canvas } := by
    obtain ⟨ss, hss, -⟩ := o.drawn scene w.canvas
    exact h.still (o.still scene hs w.canvas) (hss.inBounds h.bounds) (hss.stacked h.stacked)
  cases hk : o.isStill with
  | true =>
    have hop : w.op scene o = { w with canvas := o.run scene w.canvas } := by
      cases o <;> first | rfl | simp [Op.isStill] at hk
    rw [hop]
    exact run hk
  | false =>
    cases o with
    | anchor kind point => exact h.anchor hm point
    | openQuote =>
      have hstart := run (o := .startBlock) rfl
      exact hstart.pushQuote (w.canvas.buffer.atLineStart_padNewlines Nat.two_pos)
    | closeQuote => exact h.close
    | _ => simp [Op.isStill] at hk

/-- What is watched on a nested canvas is behind all that was there before, and its anchors belong
to all quotes that are open around it. -/
theorem adopt (h : w.Ok scene base n) (hm : scene.config.quoteMarker.toList ≠ []) {v : Watch}
    {marker : List Char} (hv : v.Ok scene marker w.canvas.flush.length)
    (hp : w.canvas.flush.buffer.text <+: v.canvas.buffer.text)
    (hb : (w.canvas.flush.splitRun.adopt v.canvas).resetRun.InBounds)
    (hst : (w.canvas.flush.splitRun.adopt v.canvas).resetRun.StackedOn scene.config base) :
    Ok scene base n { w with
      canvas := (w.canvas.flush.splitRun.adopt v.canvas).resetRun
      closings := w.closings ++ v.closings } := by
  have hflush : w.canvas.Still w.canvas.flush := (Canvas.Still.refl _).flush
  have hplaces := w.canvas.flush.places_adopt v.canvas
  rw [hflush.places] at hplaces
  have hquotes : (w.canvas.flush.splitRun.adopt v.canvas).resetRun.quotes = w.canvas.quotes := by
    rw [Canvas.adopt_eq, Canvas.flush_quotes]
  refine ⟨hb, hst, (h.laminar.still hflush).nested h.bounds.flush hv.laminar hp, ?_, ?_, ?_⟩
  · rw [hquotes]
    refine h.opened_grow hm (hflush.text.trans hp) v.canvas.anchors ?_ fun a ha => ?_
    · rw [Canvas.anchors, hplaces, List.filter_append]
      rfl
    · exact hv.laminar.places_after a (List.mem_filter.1 ha).1
  · intro k hk
    rcases List.mem_append.1 hk with hk | hk
    · exact h.closings k hk
    · exact hv.closings k hk
  · rw [Canvas.blocks_eq, hplaces, List.filter_append, ← Canvas.blocks_eq, ← Canvas.blocks_eq,
      h.blocks, hv.blocks, List.flatMap_append]

theorem within (h : w.Ok scene base n) (hm : scene.config.quoteMarker.toList ≠ [])
    (source : String) {inner : Plan}
    (hinner : ∀ {v : Watch} {base : List Char} {n : Nat}, v.Ok scene base n →
      (inner.watch scene v).Ok scene base n) :
    (w.within scene source (inner.watch scene)).Ok scene base n := by
  obtain ⟨ss, hss, -⟩ := (Plan.nested source inner .done).drawn scene w.canvas
  have hb := hss.inBounds h.bounds
  have hst := hss.stacked h.stacked
  have hcanvas := Plan.canvas_watch scene (.nested source inner .done) w
  rw [Plan.watch, Plan.watch] at hcanvas
  rw [← hcanvas] at hb hst
  unfold Watch.within at hb hst ⊢
  by_cases hcap : scene.config.maxDepth ≤ w.canvas.depth + 1
  · rw [if_pos hcap] at hb hst ⊢
    exact h.still ((Canvas.Still.refl _).put source) hb hst
  · rw [if_neg hcap] at hb hst ⊢
    have hchild := w.canvas.flush.splitRun.stackedOn_child scene.config
    have hok : Ok scene _ _ { canvas := w.canvas.flush.splitRun.child scene.config } :=
      .of_empty rfl rfl (w.canvas.flush.splitRun.inBounds_child _) hchild
    have hin := (hinner hok).finish
    have hlen : (w.canvas.flush.splitRun.child scene.config).length = w.canvas.flush.length := by
      rw [Canvas.length, Canvas.length, Canvas.child, Canvas.splitRun_buffer]
    rw [hlen] at hin
    refine h.adopt hm hin ?_ hb hst
    rw [Watch.canvas_finish, Canvas.finish_text, Plan.canvas_watch]
    have := inner.prefix_run scene (w.canvas.flush.splitRun.child scene.config)
    simpa [Canvas.child] using this

end Watch.Ok

theorem Plan.watch_ok {scene : Scene} (hm : scene.config.quoteMarker.toList ≠ []) (plan : Plan)
    {w : Watch} {base : List Char} {n : Nat} (h : w.Ok scene base n) :
    (plan.watch scene w).Ok scene base n := by
  induction plan generalizing w base n with
  | done => exact h
  | op o rest ih => exact ih (h.op hm o)
  | nested source inner rest ihInner ihRest => exact ihRest (h.within hm source ihInner)

/-- Every quote that is opened in a plan, in a nested rendering or outside, is closed in the end,
and closing it makes a block around all of its anchors or it has none. These blocks are all blocks
of the finished text, and of any two of them one is behind the other or around it. -/
theorem closings_sound (scene : Scene) (plan : Plan) (hm : scene.config.quoteMarker ≠ "") :
    let watched := (plan.watch scene { canvas := .fresh scene.config }).finish
    watched.canvas = (plan.run scene (.fresh scene.config)).finish ∧
      watched.openings = [] ∧
      (∀ k ∈ watched.closings, k.Sound) ∧
      watched.canvas.blocks = watched.closings.flatMap Closing.made ∧
      watched.canvas.segments.Pairwise fun s t =>
        s.kind = .quoteBlock → t.kind = .quoteBlock → s.Nests t := by
  intro watched
  have hm : scene.config.quoteMarker.toList ≠ [] := by simpa using hm
  have hstart : Watch.Ok scene [] _ { canvas := .fresh scene.config } :=
    .of_empty rfl rfl (Canvas.inBounds_fresh _) rfl
  have hok := plan.watch_ok hm hstart
  refine ⟨?_, hok.openings_finish, hok.finish.closings, hok.finish.blocks,
    hok.finish.laminar.pairwise_nests⟩
  rw [Watch.canvas_finish, Plan.canvas_watch]

/-- A quote in a nested rendering, inside one that ends with an avatar among blanks. -/
theorem closings_sound_nested :
    ({} : Scene).config.quoteMarker ≠ "" ∧
      let plan : Plan := .op .openQuote <| .op (.write "a\n") <|
        .nested "b" (.op .openQuote <| .op (.write "b ") .done) <| .op (.write "\n ") <|
          .op (.anchor (.avatar ⟨"u", 16, "a"⟩) rfl) <| .op (.write " ") .done
      let watched := (plan.watch {} { canvas := .fresh {} }).finish
      (∀ k ∈ watched.closings, k.Sound) ∧ watched.canvas.length = 19 ∧
        watched.canvas.blocks = [⟨8, 13, .quoteBlock⟩, ⟨0, 18, .quoteBlock⟩] := by
  refine ⟨by decide, ?_⟩
  intro plan watched
  obtain ⟨-, -, hsound, hblocks, -⟩ := closings_sound {} plan (by decide)
  exact ⟨hsound, by decide, hblocks.trans (by decide)⟩

end RichChat

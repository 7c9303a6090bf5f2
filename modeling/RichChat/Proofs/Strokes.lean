import RichChat.Proofs.Marker

/-!
# Operations as moves

Each operation is a few moves, and if the marker does not end a line these write the strokes of the
operation (`Op.drawn`); the same holds of plans (`Plan.drawn`).
-/

namespace RichChat

namespace Canvas

theorem writePiece_snd (range : Option (Nat × Nat)) (c : Canvas) (p : List Char) :
    (writePiece (range, c) p).2 =
      if p = ['\n'] then { c with buffer := c.buffer.append p }
      else { c.flush with buffer := (c.flush.buffer.write p).2 } := by
  simp only [writePiece]
  split
  · rename_i hp
    rw [hp, Buffer.write_newline]
  · rfl

/-- Writing keeps what flushing and adding text to the buffer keep. -/
theorem put_keeps {Q : Canvas → Prop} (hflush : ∀ c, Q c → Q c.flush)
    (happend : ∀ c cs, Q c → Q { c with buffer := c.buffer.append cs }) {c : Canvas} (h : Q c)
    (text : String) : Q (c.put text) := by
  have hps : ∀ p ∈ Text.pieces text.toList, Text.pieces p = [p] := fun _ => Text.pieces_of_mem
  have fold : ∀ (ps : List (List Char)), (∀ p ∈ ps, Text.pieces p = [p]) →
      ∀ (range : Option (Nat × Nat)) (c : Canvas), Q c → Q (ps.foldl writePiece (range, c)).2 := by
    intro ps
    induction ps with
    | nil => exact fun _ _ _ h => h
    | cons p ps ih =>
      intro hps range c h
      have hp := hps p List.mem_cons_self
      have hnext : Q (writePiece (range, c) p).2 := by
        rw [writePiece_snd]
        split
        · exact happend c p h
        · rename_i hn
          rw [Buffer.write_piece _ hp hn, Buffer.flush_eq_append, Buffer.append_append]
          exact happend _ _ (hflush c h)
      exact ih (fun q hq => hps q (List.mem_cons_of_mem _ hq)) _ _ hnext
  exact fold _ hps none c h

/-- Without a marker a text is written as it is. -/
theorem foldl_writePiece_of_marker {c : Canvas} {ps : List (List Char)}
    (hps : ∀ p ∈ ps, Text.pieces p = [p]) (range : Option (Nat × Nat)) (h : c.buffer.marker = []) :
    (ps.foldl writePiece (range, c)).2 = { c with buffer := c.buffer.append ps.flatten } := by
  induction ps generalizing range c with
  | nil => simp
  | cons p ps ih =>
    obtain ⟨hp, hps⟩ := List.forall_mem_cons.1 hps
    have hdue : c.buffer.markerDue = false := by simp [Buffer.markerDue, h]
    have hnext : (writePiece (range, c) p).2 = { c with buffer := c.buffer.append p } := by
      rw [writePiece_snd]
      split
      · rfl
      · rename_i hne
        rw [flush_of_not_due hdue, Buffer.write_piece _ hp hne, Buffer.flush, hdue]
        rfl
    have hmarker : (writePiece (range, c) p).2.buffer.marker = [] := by
      rw [hnext]
      exact h
    rw [List.foldl_cons, ih hps _ hmarker, hnext, List.flatten_cons]
    simp [Buffer.append_append]

theorem put_of_marker {c : Canvas} (h : c.buffer.marker = []) (text : String) :
    c.put text = { c with buffer := c.buffer.append text.toList } := by
  have hput := foldl_writePiece_of_marker (fun _ => @Text.pieces_of_mem _ text.toList) none h
  rwa [Text.flatten_pieces] at hput

@[simp] theorem writePiece_marker (range : Option (Nat × Nat)) (c : Canvas) {p : List Char}
    (hp : Text.pieces p = [p]) : (writePiece (range, c) p).2.buffer.marker = c.buffer.marker := by
  rw [writePiece_snd]
  split
  · rfl
  · rename_i hn
    simp [Buffer.write_piece _ hp hn]

@[simp] theorem flush_stroke (c : Canvas) (cs : List Char) : c.flush.stroke cs = c.stroke cs := by
  simp [stroke, Runs.active]

end Canvas

namespace Canvas

variable (scene : Scene) (c : Canvas)

/-- A piece of a text is the marker, if it is due, and the piece. A marker that ends a line is put
there twice, the second time as a part of the text. -/
theorem drawn_piece (range : Option (Nat × Nat)) {p : List Char} (hp : Text.pieces p = [p]) :
    ∃ ss, Drawn scene c ss (writePiece (range, c) p).2 ∧
      (c.buffer.marker.getLast? ≠ some '\n' →
        ss = (if p = ['\n'] then [] else c.dueStrokes) ++ [c.stroke p]) := by
  rw [writePiece_snd]
  split
  · exact ⟨_, (Drawn.refl c).text _, fun _ => rfl⟩
  · rename_i hn
    have hw : (c.flush.buffer.write p).2 = c.flush.buffer.append (c.flush.buffer.due ++ p) := by
      rw [Buffer.write_piece _ hp hn, Buffer.flush_eq_append, Buffer.append_append]
    rw [hw]
    refine ⟨_, (Drawn.refl c).flush.text (c.flush.buffer.due ++ p), fun hm => ?_⟩
    have hdue : c.buffer.flush.due = [] := by
      rw [Buffer.due, if_neg (by simp [c.buffer.not_markerDue_flush hm])]
    simp [hdue]

theorem drawn_pieces {ps : List (List Char)} (hps : ∀ p ∈ ps, Text.pieces p = [p])
    (range : Option (Nat × Nat)) :
    ∃ ss, Drawn scene c ss (ps.foldl writePiece (range, c)).2 ∧
      (c.buffer.marker.getLast? ≠ some '\n' → ss = c.pieceStrokes ps) := by
  induction ps generalizing c range with
  | nil => exact ⟨[], .refl c, fun _ => rfl⟩
  | cons p ps ih =>
    have hp := hps p List.mem_cons_self
    obtain ⟨ss, hss, heq⟩ := c.drawn_piece scene range hp
    obtain ⟨ts, hts, hteq⟩ := ih (writePiece (range, c) p).2
      (fun q hq => hps q (List.mem_cons_of_mem _ hq)) (writePiece (range, c) p).1
    refine ⟨ss ++ ts, hss.trans hts, fun hm => ?_⟩
    rw [writePiece_marker _ _ hp] at hteq
    have hsame : (writePiece (range, c) p).2 = (writePiece (none, c) p).2 := by
      rw [writePiece_snd, writePiece_snd]
    rw [heq hm, hteq hm, pieceStrokes, hsame, List.append_assoc, List.singleton_append]

theorem drawn_put (text : String) :
    ∃ ss, Drawn scene c ss (c.put text) ∧
      (c.buffer.marker.getLast? ≠ some '\n' → ss = c.writeStrokes text) :=
  c.drawn_pieces scene (fun _ => Text.pieces_of_mem) none

theorem drawn_enter (a : Attribute) : Drawn scene c c.dueStrokes (c.enter a) := by
  rw [enter_eq]
  exact (Drawn.refl c).flush.change _

theorem drawn_exit (a : Attribute) : Drawn scene c [] (c.exit a) := by
  rw [exit_eq]
  exact (Drawn.refl c).change _

theorem drawn_leave : Drawn scene c [] c.leave := by
  rw [leave_eq]
  exact (Drawn.refl c).change _

theorem drawn_ensureBreak : Drawn scene c (c.addedStrokes c.ensureBreak) c.ensureBreak := by
  obtain ⟨k, hk⟩ := c.buffer.padNewlines_eq_append 1
  exact (Drawn.refl c).grow ⟨_, hk⟩

theorem drawn_startBlock : Drawn scene c (c.addedStrokes c.startBlock) c.startBlock := by
  obtain ⟨k, hk⟩ := c.buffer.padNewlines_eq_append 2
  exact (Drawn.refl c).grow ⟨_, hk⟩

theorem drawn_nextListMarker : Drawn scene c [] c.nextListMarker.2 := by
  unfold nextListMarker
  split
  · exact (Drawn.refl c).note c.requested _ c.emojiSize
  · exact .refl c

theorem drawn_request (r : FetchRequest) : Drawn scene c [] (c.request scene r) := by
  unfold Canvas.request
  split
  · exact (Drawn.refl c).note _ c.lists c.emojiSize
  · exact .refl c

theorem drawn_mark (start stop : Nat) (kind : SegmentKind) :
    Drawn scene c [] (c.mark start stop kind) := by
  unfold Canvas.mark
  split
  · rename_i hm
    exact (Drawn.refl c).mark hm
  · exact .refl c

theorem drawn_writeWith (a : Attribute) (text : String) :
    ∃ ss, Drawn scene c ss (c.writeWith a text).2 ∧ (c.buffer.marker.getLast? ≠ some '\n' →
      ss = c.dueStrokes ++ (c.enter a).writeStrokes text) := by
  have hm : (c.enter a).buffer.marker = c.buffer.marker := by simp [enter_eq, change, pushRun_eq]
  obtain ⟨ss, hss, heq⟩ := (c.enter a).drawn_put scene text
  rw [hm] at heq
  rw [writeWith_eq]
  refine ⟨_, ((c.drawn_enter scene a).trans hss).trans (drawn_exit scene _ a), fun h => ?_⟩
  rw [heq h, List.append_nil]

end Canvas

open Canvas in
/-- An operation is a few moves, which write its strokes if the marker does not end a line. -/
theorem Op.drawn (scene : Scene) (o : Op) (c : Canvas) :
    ∃ ss, Drawn scene c ss (o.run scene c) ∧
      (c.buffer.marker.getLast? ≠ some '\n' → ss = o.strokes scene c) := by
  have start : Drawn scene c [] c := .refl c
  cases o with
  | write text => exact c.drawn_put scene text
  | writeVerbatim text => exact ⟨_, start.text _, fun _ => rfl⟩
  | writeWith a text => exact c.drawn_writeWith scene a text
  | cursor => exact ⟨_, start.flush, fun _ => rfl⟩
  | enter a => exact ⟨_, c.drawn_enter scene a, fun _ => rfl⟩
  | exit a => exact ⟨_, c.drawn_exit scene a, fun _ => rfl⟩
  | leave => exact ⟨_, c.drawn_leave scene, fun _ => rfl⟩
  | ensureBreak => exact ⟨_, c.drawn_ensureBreak scene, fun _ => rfl⟩
  | startBlock => exact ⟨_, c.drawn_startBlock scene, fun _ => rfl⟩
  | openLink => exact ⟨_, start.flush.openLink, fun _ => rfl⟩
  | closeLink url => exact ⟨_, start.closeLink url, fun _ => rfl⟩
  | openQuote => exact ⟨_, (c.drawn_startBlock scene).pushQuote, fun _ => rfl⟩
  | closeQuote => exact ⟨_, start.closeQuote, fun _ => rfl⟩
  | openList first => exact ⟨_, start.note c.requested _ c.emojiSize, fun _ => rfl⟩
  | closeList => exact ⟨_, start.note c.requested _ c.emojiSize, fun _ => rfl⟩
  | numberItem => exact ⟨_, c.drawn_nextListMarker scene, fun _ => rfl⟩
  | anchor kind point => exact ⟨_, start.anchor kind point, fun _ => rfl⟩
  | mark start stop kind => exact ⟨_, c.drawn_mark scene start stop kind, fun _ => rfl⟩
  | request r => exact ⟨_, c.drawn_request scene r, fun _ => rfl⟩
  | enlargeEmoji => exact ⟨_, start.note c.requested c.lists _, fun _ => rfl⟩

namespace Plan

open Canvas

/-- A plan is moves. They write its strokes if neither the marker of a quote nor the one at the
start ends a line. -/
theorem drawn (scene : Scene) (plan : Plan) (c : Canvas) :
    ∃ ss, Drawn scene c ss (plan.run scene c) ∧ ∀ base, c.StackedOn scene.config base →
      scene.config.quoteMarker.toList.getLast? ≠ some '\n' → base.getLast? ≠ some '\n' →
        ss = plan.strokes scene c := by
  induction plan generalizing c with
  | done => exact ⟨[], .refl c, fun _ _ _ _ => rfl⟩
  | op o rest ih =>
    obtain ⟨ss, hss, heq⟩ := o.drawn scene c
    obtain ⟨ts, hts, hteq⟩ := ih (o.run scene c)
    refine ⟨ss ++ ts, hss.trans hts, fun base hc hunit hbase => ?_⟩
    rw [heq (hc.getLast?_ne hunit hbase), hteq base (hss.stacked hc) hunit hbase, strokes]
  | nested source inner rest ihInner ihRest =>
    by_cases hcap : scene.config.maxDepth ≤ c.depth + 1
    · have hw : c.within scene.config source (inner.run scene) = c.put source := by
        rw [within, if_pos hcap]
      obtain ⟨ss, hss, heq⟩ := c.drawn_put scene source
      rw [← hw] at hss
      obtain ⟨ts, hts, hteq⟩ := ihRest (c.within scene.config source (inner.run scene))
      refine ⟨ss ++ ts, hss.trans hts, fun base hc hunit hbase => ?_⟩
      rw [heq (hc.getLast?_ne hunit hbase), hteq base (hss.stacked hc) hunit hbase, strokes,
        if_pos hcap]
    · have hw : c.within scene.config source (inner.run scene) =
          (c.flush.splitRun.adopt
            (inner.run scene (c.flush.splitRun.child scene.config)).finish).resetRun := by
        rw [within, if_neg hcap]
      have hchild := c.flush.splitRun.stackedOn_child scene.config
      rw [splitRun_buffer, flush_buffer, Buffer.flush_marker] at hchild
      obtain ⟨ss, hss, heq⟩ := ihInner (c.flush.splitRun.child scene.config)
      have hn := (Drawn.refl c).flush.nested hss
      rw [← hw] at hn
      obtain ⟨ts, hts, hteq⟩ := ihRest (c.within scene.config source (inner.run scene))
      refine ⟨_, hn.trans hts, fun base hc hunit hbase => ?_⟩
      rw [heq _ hchild hunit (hc.getLast?_ne hunit hbase), hteq base (hn.stacked hc) hunit hbase,
        strokes, if_neg hcap, List.nil_append]

theorem prefix_run (scene : Scene) (plan : Plan) (c : Canvas) :
    c.buffer.text <+: (plan.run scene c).buffer.text := by
  obtain ⟨ss, hss, -⟩ := plan.drawn scene c
  exact hss.prefix_text

end Plan

end RichChat

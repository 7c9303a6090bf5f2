import RichChat.Proofs.Places
import RichChat.Proofs.QuoteSpan
import RichChat.Proofs.ShiftBuffer

/-!
# A canvas behind another text

What is drawn on an empty canvas can be drawn behind a text that ends with an empty line, and comes
out the same with its offsets moved (`Canvas.Shifted`). A canvas looks at what was there before in
three places: spacing looks at the last line feeds, runs at the last segment, and quotes at the
blanks and the anchors behind their start. The first is why the text that is drawn must not start
with a line feed (`Canvas.Moved`). The other two see nothing, since all segments in front end before
the edge (`Edge`).

Behind a text that ends in any other way the same holds of spacing as soon as something has been
drawn (`Canvas.Behind`), and of all else if no marker is due (`Canvas.Apart`).
-/

namespace RichChat

/-- Text and segments behind which drawing starts anew. -/
structure Edge (front : List Char) (before : List Segment) : Prop where
  text : Text.AtEdge front
  before : ∀ s ∈ before, s.start < Text.size front ∧ s.stop < Text.size front

def Quote.shift (q : Quote) (n : Nat) : Quote := { q with start := q.start + n }

theorem max?_map_add (n : Nat) (ns : List Nat) : (ns.map (· + n)).max? = ns.max?.map (· + n) := by
  cases h : ns.max? with
  | none =>
    rw [List.max?_eq_none_iff] at h
    rw [h]
    rfl
  | some m =>
    obtain ⟨hm, hle⟩ := List.max?_eq_some_iff.1 h
    refine List.max?_eq_some_iff.2 ⟨List.mem_map_of_mem hm, fun k hk => ?_⟩
    obtain ⟨j, hj, rfl⟩ := List.mem_map.1 hk
    exact Nat.add_le_add_right (hle j hj) n

theorem Text.head?_mono {as bs : List Char} (h : as <+: bs) {x : Char}
    (hx : as.head? = some x) : bs.head? = some x := by
  obtain ⟨cs, rfl⟩ := h
  cases as with
  | nil => simp at hx
  | cons y ys => exact hx

/-- The ink of a text is that of its end, unless that is blank. -/
theorem Text.size_ink_append (as bs : List Char) :
    Text.size (Text.ink (as ++ bs)) = Text.size as + Text.size (Text.ink bs) ∨
      Text.size (Text.ink (as ++ bs)) ≤ Text.size as ∧ Text.size (Text.ink bs) = 0 := by
  unfold Text.ink List.rdropWhile
  rw [List.reverse_append, List.dropWhile_append]
  split
  · rename_i hempty
    rw [List.isEmpty_iff] at hempty
    refine .inr ⟨?_, by rw [hempty]; rfl⟩
    exact Text.size_mono (List.rdropWhile_prefix _ as)
  · rw [List.reverse_append, List.reverse_reverse, Text.size_append]
    exact .inl rfl

theorem addRun_shift {front : List Char} {before : List Segment}
    (he : ∀ s ∈ before, s.start < Text.size front ∧ s.stop < Text.size front) (segments : List Segment)
    (run : Option Segment) :
    addRun (before ++ segments.map (·.shift (Text.size front))) (run.map (·.shift (Text.size front)))
      = before ++ (addRun segments run).map (·.shift (Text.size front)) := by
  cases run with
  | none => rfl
  | some run =>
    rcases List.eq_nil_or_concat' segments with rfl | ⟨init, last, rfl⟩
    · -- a run behind the edge does not meet a segment in front of it
      rw [Option.map_some, List.map_nil, List.append_nil]
      rcases addRun_cases before (run.shift (Text.size front)) with heq | ⟨init, last, rfl, -, h, -⟩
      · rw [heq]
        rfl
      · have := (he last (by simp)).2
        simp only [Segment.shift] at h
        omega
    · have hmeet : (last.stop + Text.size front = run.start + Text.size front)
          ↔ last.stop = run.start := by omega
      rw [Option.map_some, List.map_append, List.map_singleton, ← List.append_assoc, addRun_concat,
        addRun_concat]
      simp only [Segment.shift, hmeet]
      split
      · simp
      · simp

theorem region_shift {r s : Runs} {a : Attribute} {n : Nat}
    (h : a.isEmpty = false → s.start = r.start + n) (m : Nat) :
    s.region a (m + n) = (r.region a m).map (·.shift n) := by
  unfold Runs.region
  cases ha : a.isEmpty with
  | true => simp
  | false =>
    rw [h ha]
    by_cases hlt : r.start < m
    · simp [hlt, Segment.shift]
    · simp [hlt]

theorem active_congr {r s : Runs} (h : s.counts = r.counts) : s.active = r.active := by
  simp only [Runs.active, h]

namespace Canvas

/-- Behind the text and the segments spacing is what it is without them. -/
structure Behind (front : List Char) (before : List Segment) (c : Canvas) : Prop where
  before : ∀ s ∈ before, s.start < Text.size front ∧ s.stop < Text.size front
  buffer : c.buffer.Behind front

/-- Behind the text and the segments all but spacing is what it is without them. -/
structure Apart (front : List Char) (before : List Segment) (c : Canvas) : Prop where
  before : ∀ s ∈ before, s.start < Text.size front ∧ s.stop < Text.size front
  buffer : c.buffer.Apart front

section

variable {front : List Char} {before : List Segment} {c d : Canvas}

theorem behind_of_edge (h : Edge front before) (c : Canvas) : c.Behind front before :=
  ⟨h.before, fun _ => h.text⟩

theorem Behind.apart (h : c.Behind front before) : c.Apart front before :=
  ⟨h.before, h.buffer.apart⟩

theorem Behind.mono (h : c.Behind front before) (hp : c.buffer.text <+: d.buffer.text) :
    d.Behind front before :=
  ⟨h.before, h.buffer.mono hp⟩

theorem Apart.mono (h : c.Apart front before) (hp : c.buffer.text <+: d.buffer.text)
    (hm : d.buffer.marker = c.buffer.marker) : d.Apart front before :=
  ⟨h.before, h.buffer.mono hp hm⟩

theorem Apart.grow (h : c.Apart front before) {b : Buffer} (hb : b.Apart front) :
    Apart front before { c with buffer := b } :=
  ⟨h.before, hb⟩

theorem Apart.flush (h : c.Apart front before) : c.flush.Apart front before :=
  ⟨h.before, by simpa using h.buffer.flush⟩

end

/-- `d` is `c` behind the text `front` and the segments `before`. -/
structure Shifted (front : List Char) (before : List Segment) (c d : Canvas) : Prop where
  buffer : c.buffer.Shifted front d.buffer
  segments : d.segments = before ++ c.segments.map (·.shift (Text.size front))
  counts : d.runs.counts = c.runs.counts
  /-- Without attributes it does not matter where the open run starts. -/
  start : c.runs.active.isEmpty = false → d.runs.start = c.runs.start + Text.size front
  links : d.links = c.links.map (· + Text.size front)
  quotes : d.quotes = c.quotes.map (·.shift (Text.size front))
  lists : d.lists = c.lists
  emojiSize : d.emojiSize = c.emojiSize

namespace Shifted

variable {front : List Char} {before : List Segment} {c d : Canvas}

theorem length (h : Shifted front before c d) : d.length = c.length + Text.size front :=
  h.buffer.length

theorem grow (h : Shifted front before c d) {b b' : Buffer} (hb : b.Shifted front b') :
    Shifted front before { c with buffer := b } { d with buffer := b' } :=
  ⟨hb, h.segments, h.counts, h.start, h.links, h.quotes, h.lists, h.emojiSize⟩

theorem push (h : Shifted front before c d) (s : Segment) :
    Shifted front before (c.push s) (d.push (s.shift (Text.size front))) := by
  refine ⟨h.buffer, ?_, h.counts, h.start, h.links, h.quotes, h.lists, h.emojiSize⟩
  rw [Canvas.push, Canvas.push, h.segments, List.map_append, List.append_assoc]
  rfl

theorem emit (h : Shifted front before c d) (range : Nat × Nat) (kind : SegmentKind) :
    Shifted front before (c.emit range kind) (d.emit (shiftRange (Text.size front) range) kind) :=
  h.push _

theorem endRun (h : Shifted front before c d) (he : c.Apart front before) :
    addRun d.segments (d.runs.region c.runs.active d.length)
      = before ++ (addRun c.segments (c.runs.region c.runs.active c.length)).map
        (·.shift (Text.size front)) := by
  rw [h.length, region_shift h.start, h.segments, addRun_shift he.before]

theorem change (h : Shifted front before c d) (he : c.Apart front before) (counts : List Nat) :
    Shifted front before (c.change counts) (d.change counts) := by
  have hsame : (⟨d.runs.start, counts⟩ : Runs).active = (⟨c.runs.start, counts⟩ : Runs).active :=
    active_congr rfl
  have hact := active_congr h.counts
  unfold Canvas.change Runs.change
  rw [pushRun_eq, pushRun_eq]
  dsimp only
  rw [hsame, hact]
  split
  · rename_i hactive
    exact ⟨h.buffer, h.segments, rfl, fun ha => h.start (by rwa [← hactive]), h.links, h.quotes,
      h.lists, h.emojiSize⟩
  · exact ⟨h.buffer, h.endRun he, rfl, fun _ => h.length, h.links, h.quotes, h.lists, h.emojiSize⟩

theorem flush (h : Shifted front before c d) (he : c.Apart front before) :
    Shifted front before c.flush d.flush := by
  have hdue := h.buffer.markerDue he.buffer
  cases hc : c.buffer.markerDue with
  | false =>
    rw [flush_of_not_due hc, flush_of_not_due (hdue.trans hc)]
    exact h
  | true =>
    have hb : (c.buffer.append c.buffer.marker).Shifted front (d.buffer.append d.buffer.marker) := by
      rw [h.buffer.marker]
      exact h.buffer.append _
    rw [flush_of_due hc, flush_of_due (hdue.trans hc), active_congr h.counts]
    exact ⟨hb, h.endRun he, h.counts, fun _ => hb.length, h.links, h.quotes, h.lists, h.emojiSize⟩

theorem writePieces (ps : List (List Char)) :
    ∀ (range : Option (Nat × Nat)) {c d : Canvas}, Shifted front before c d →
      c.Apart front before →
      (ps.foldl writePiece (range.map (shiftRange (Text.size front)), d)).1
          = (ps.foldl writePiece (range, c)).1.map (shiftRange (Text.size front)) ∧
        Shifted front before (ps.foldl writePiece (range, c)).2
          (ps.foldl writePiece (range.map (shiftRange (Text.size front)), d)).2 := by
  induction ps with
  | nil => exact fun _ _ _ h _ => ⟨rfl, h⟩
  | cons p ps ih =>
    intro range c d h he
    have hflush : Shifted front before (if p = ['\n'] then c else c.flush)
        (if p = ['\n'] then d else d.flush) := by
      split
      · exact h
      · exact h.flush he
    have hapart : Apart front before (if p = ['\n'] then c else c.flush) := by
      split
      · exact he
      · exact he.flush
    obtain ⟨hrange, hbuffer⟩ := hflush.buffer.write hapart.buffer p
    have hnext := hflush.grow hbuffer
    have hfst : (writePiece (range.map (shiftRange (Text.size front)), d) p).1
        = (writePiece (range, c) p).1.map (shiftRange (Text.size front)) := by
      simp only [writePiece, hrange]
      cases range <;> rfl
    have := ih (writePiece (range, c) p).1 hnext (hapart.grow (hapart.buffer.write p))
    rw [← hfst] at this
    exact this

theorem write (h : Shifted front before c d) (he : c.Apart front before) (text : String) :
    (d.write text).1 = shiftRange (Text.size front) (c.write text).1 ∧
      Shifted front before (c.put text) (d.put text) := by
  obtain ⟨hrange, hnext⟩ := writePieces (Text.pieces text.toList) none h he
  rw [Option.map_none] at hrange hnext
  refine ⟨?_, hnext⟩
  unfold Canvas.write
  dsimp only
  rw [hrange, hnext.length]
  cases ((Text.pieces text.toList).foldl Canvas.writePiece (none, c)).1 <;> rfl

theorem put (h : Shifted front before c d) (he : c.Apart front before) (text : String) :
    Shifted front before (c.put text) (d.put text) := (h.write he text).2

theorem anchor (h : Shifted front before c d) (he : c.Apart front before) (kind : SegmentKind) :
    Shifted front before (c.anchor kind) (d.anchor kind) := by
  have hflush := h.flush he
  rw [anchor_eq, anchor_eq, hflush.length]
  exact hflush.push _

theorem enter (h : Shifted front before c d) (he : c.Apart front before) (a : Attribute) :
    Shifted front before (c.enter a) (d.enter a) := by
  rw [enter_eq, enter_eq, (h.flush he).counts]
  exact (h.flush he).change he.flush _

theorem exit (h : Shifted front before c d) (he : c.Apart front before) (a : Attribute) :
    Shifted front before (c.exit a) (d.exit a) := by
  rw [exit_eq, exit_eq, h.counts]
  exact h.change he _

theorem openLink (h : Shifted front before c d) (he : c.Apart front before) :
    Shifted front before c.openLink d.openLink := by
  have hflush := h.flush he
  refine ⟨hflush.buffer, hflush.segments, hflush.counts, hflush.start, ?_, hflush.quotes,
    hflush.lists, hflush.emojiSize⟩
  show d.flush.length :: d.flush.links = _
  rw [hflush.length, hflush.links]
  rfl

theorem closeLink (h : Shifted front before c d) (url : String) :
    Shifted front before (c.closeLink url) (d.closeLink url) := by
  have hlinks := h.links
  cases hc : c.links with
  | nil =>
    rw [hc] at hlinks
    rw [Canvas.closeLink, Canvas.closeLink, hc, hlinks]
    exact h
  | cons start links =>
    rw [hc, List.map_cons] at hlinks
    rw [closeLink_eq hc, closeLink_eq hlinks, h.length]
    refine ⟨h.buffer, ?_, h.counts, h.start, rfl, h.quotes, h.lists, h.emojiSize⟩
    have hlt : start + Text.size front < c.length + Text.size front ↔ start < c.length := by omega
    dsimp only
    rw [h.segments, List.map_append, List.append_assoc]
    by_cases hempty : start < c.length
    · rw [if_pos hempty, if_pos (hlt.2 hempty)]
      rfl
    · rw [if_neg hempty, if_neg (by rwa [hlt])]
      rfl

theorem pushQuote (h : Shifted front before c d) (config : Config) :
    Shifted front before (c.pushQuote config) (d.pushQuote config) := by
  refine ⟨⟨h.buffer.text, ?_⟩, h.segments, h.counts, h.start, h.links, ?_, h.lists, h.emojiSize⟩
  · show d.buffer.marker ++ _ = _
    rw [h.buffer.marker]
    rfl
  · show Quote.mk d.length d.buffer.marker.length :: d.quotes = _
    rw [h.length, h.buffer.marker, h.quotes]
    rfl

/-- A quote ends at the same point: neither the blanks nor the anchors in front of the edge count. -/
theorem quoteStop (h : Shifted front before c d) (he : c.Apart front before) (start : Nat) :
    d.quoteStop (start + Text.size front) = c.quoteStop start + Text.size front := by
  have hanchor : d.lastAnchor? (start + Text.size front)
      = (c.lastAnchor? start).map (· + Text.size front) := by
    have hfront : (before.filter fun s =>
        s.kind.isAnchor && start + Text.size front ≤ s.start) = [] := by
      refine List.filter_eq_nil_iff.2 fun s hs => ?_
      have := (he.before s hs).1
      simp only [Bool.and_eq_true, decide_eq_true_eq, not_and]
      omega
    have hsame : ((fun s : Segment => s.kind.isAnchor && start + Text.size front ≤ s.start) ∘
        fun s : Segment => s.shift (Text.size front))
        = fun s : Segment => s.kind.isAnchor && start ≤ s.start := by
      funext s
      simp [Segment.shift]
    unfold lastAnchor?
    rw [h.segments, List.filter_append, hfront, List.nil_append, ← max?_map_add, List.filter_map,
      hsame, List.map_map, List.map_map]
    rfl
  have hink := Text.size_ink_append front c.buffer.text
  rw [← h.buffer.text] at hink
  unfold Canvas.quoteStop
  rw [quoteTextEnd_eq, quoteTextEnd_eq, hanchor]
  cases c.lastAnchor? start with
  | none =>
    simp only [Option.map_none, Option.getD_none]
    omega
  | some n =>
    simp only [Option.map_some, Option.getD_some]
    omega

theorem closeQuote (h : Shifted front before c d) (he : c.Apart front before) :
    Shifted front before c.closeQuote d.closeQuote := by
  have hquotes := h.quotes
  cases hc : c.quotes with
  | nil =>
    rw [hc] at hquotes
    rw [Canvas.closeQuote, Canvas.closeQuote, hc, hquotes]
    exact h
  | cons quote quotes =>
    rw [hc, List.map_cons] at hquotes
    have hstop : d.quoteStop (quote.shift (Text.size front)).start = _ := h.quoteStop he quote.start
    have hlt : (quote.shift (Text.size front)).start < c.quoteStop quote.start + Text.size front
        ↔ quote.start < c.quoteStop quote.start := by
      simp only [Quote.shift]
      omega
    rw [closeQuote_eq hc, closeQuote_eq hquotes, hstop]
    refine ⟨⟨h.buffer.text, ?_⟩, ?_, h.counts, h.start, h.links, rfl, h.lists, h.emojiSize⟩
    · show d.buffer.marker.take _ = _
      rw [h.buffer.marker]
      rfl
    · dsimp only
      rw [h.segments, List.map_append, List.append_assoc]
      by_cases hempty : quote.start < c.quoteStop quote.start
      · rw [if_pos hempty, if_pos (hlt.2 hempty)]
        rfl
      · rw [if_neg hempty, if_neg (by rwa [hlt])]
        rfl

theorem openList (h : Shifted front before c d) (start : Option UInt64) :
    Shifted front before (c.openList start) (d.openList start) :=
  ⟨h.buffer, h.segments, h.counts, h.start, h.links, h.quotes, congrArg (start :: ·) h.lists,
    h.emojiSize⟩

theorem closeList (h : Shifted front before c d) : Shifted front before c.closeList d.closeList :=
  ⟨h.buffer, h.segments, h.counts, h.start, h.links, h.quotes, congrArg List.tail h.lists,
    h.emojiSize⟩

theorem nextListMarker (h : Shifted front before c d) :
    d.nextListMarker.1 = c.nextListMarker.1 ∧
      Shifted front before c.nextListMarker.2 d.nextListMarker.2 := by
  unfold Canvas.nextListMarker
  rw [h.lists]
  dsimp only
  split
  · exact ⟨rfl, h.buffer, h.segments, h.counts, h.start, h.links, h.quotes, rfl, h.emojiSize⟩
  · exact ⟨rfl, h⟩

/-- What has been asked of the store is not seen in the text. -/
theorem request (h : Shifted front before c d) (scene : Scene) (r : FetchRequest) :
    Shifted front before (c.request scene r) (d.request scene r) := by
  have hleft : Shifted front before (c.request scene r) d := by
    unfold Canvas.request
    split
    · exact ⟨h.buffer, h.segments, h.counts, h.start, h.links, h.quotes, h.lists, h.emojiSize⟩
    · exact h
  obtain ⟨buffer, segments, counts, start, links, quotes, lists, emojiSize⟩ := hleft
  generalize c.request scene r = e at *
  unfold Canvas.request
  split
  · exact ⟨buffer, segments, counts, start, links, quotes, lists, emojiSize⟩
  · exact ⟨buffer, segments, counts, start, links, quotes, lists, emojiSize⟩

theorem ensureBreak (h : Shifted front before c d) (he : c.Behind front before) :
    Shifted front before c.ensureBreak d.ensureBreak := h.grow (h.buffer.ensureBreak he.buffer)

theorem startBlock (h : Shifted front before c d) (he : c.Behind front before)
    (hlead : c.buffer.text.head? ≠ some '\n') : Shifted front before c.startBlock d.startBlock :=
  h.grow (h.buffer.startBlock he.buffer hlead)

theorem separate (h : Shifted front before c d) (he : c.Behind front before)
    (hlead : c.buffer.text.head? ≠ some '\n') (visit : Visit) :
    Shifted front before (c.separate visit) (d.separate visit) := by
  unfold Canvas.separate
  split
  · exact h
  · exact h.startBlock he hlead
  · exact h.startBlock he hlead
  · exact h.ensureBreak he

end Shifted

/-- `d` is `c` behind the text and the segments, unless the text of `c` starts with a line feed. -/
def Moved (front : List Char) (before : List Segment) (c d : Canvas) : Prop :=
  c.buffer.text.head? = some '\n' ∨ Shifted front before c d

/-- A text that starts with a line feed goes on to do so. -/
theorem Moved.map {front : List Char} {before : List Segment} {c d c' d' : Canvas}
    (h : Moved front before c d) (hp : c.buffer.text <+: c'.buffer.text)
    (hs : c.buffer.text.head? ≠ some '\n' → Shifted front before c d → Moved front before c' d') :
    Moved front before c' d' := by
  by_cases hlead : c.buffer.text.head? = some '\n'
  · exact .inl (Text.head?_mono hp hlead)
  · exact hs hlead (h.resolve_left hlead)

end Canvas

end RichChat

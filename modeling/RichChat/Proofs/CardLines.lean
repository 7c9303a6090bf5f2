import RichChat.Proofs.FirstOnLine
import RichChat.Proofs.Parts
import RichChat.Proofs.Writing

/-!
# Lines that are drawn one after the other

An embed and attachments are drawn as lines: each part starts a line of its own, and what it draws
depends on nothing before it. A `CardLine` is what a part draws, with the offsets of its segments
counted from the start of the line. Where no marker is due and no attribute is active, lines that
are drawn behind a text give the text of `layout` and the segments of `placed`
(`Canvas.AddsLines`).

A line is started by a line feed unless the text ends one. So lines without text do not add up: a
line is empty only until the next one is drawn (`layout_eq`).
-/

namespace RichChat

namespace Text

/-- What ends the line that a text ends in. -/
def lineBreak (cs : List Char) : List Char := if StartsLine cs then [] else ['\n']

/-- A text, the last line of which is ended. -/
def endLine (cs : List Char) : List Char := cs ++ lineBreak cs

theorem startsLine_endLine (cs : List Char) : StartsLine (endLine cs) := by
  unfold endLine lineBreak
  split
  · rwa [List.append_nil]
  · exact startsLine_concat cs

theorem endLine_of_startsLine {cs : List Char} (h : StartsLine cs) : endLine cs = cs := by
  rw [endLine, lineBreak, if_pos h, List.append_nil]

theorem prefix_endLine (cs : List Char) : cs <+: endLine cs := List.prefix_append _ _

end Text

theorem Buffer.ensureBreak_eq_append (b : Buffer) :
    b.ensureBreak = b.append (Text.lineBreak b.text) := by
  by_cases hne : b.text = []
  · have hstart : Text.lineBreak b.text = [] := if_pos (by simp [StartsLine, hne])
    rw [ensureBreak, padNewlines_of_empty hne, hstart, append_nil]
  · have hstarts : 0 < Text.lineFeeds b.text ↔ StartsLine b.text := by
      rw [Text.lineFeeds_pos_iff]
      simp [StartsLine, List.getLast?_eq_some_getLast hne]
    rw [ensureBreak, padNewlines_of_ne hne, Text.lineBreak]
    split
    · rename_i hstart
      rw [Nat.sub_eq_zero_of_le (hstarts.2 hstart)]
      rfl
    · rename_i hinside
      rw [Nat.eq_zero_of_not_pos (mt hstarts.1 hinside)]
      rfl

/-- What a part of a card draws. The offsets of its segments count from the start of the line. -/
structure CardLine where
  text : List Char
  segments : List Segment

namespace CardLine

/-- A text with lines behind it. -/
def layout (front : List Char) (lines : List CardLine) : List Char :=
  lines.foldl (fun text line => Text.endLine text ++ line.text) front

/-- The segments of lines behind a text. -/
def placed : List Char → List CardLine → List Segment
  | _, [] => []
  | front, line :: lines =>
    line.segments.map (·.shift (Text.size (Text.endLine front))) ++
      placed (Text.endLine front ++ line.text) lines

theorem layout_append (front : List Char) (lines more : List CardLine) :
    layout front (lines ++ more) = layout (layout front lines) more :=
  List.foldl_append

theorem placed_append (front : List Char) (lines more : List CardLine) :
    placed front (lines ++ more) = placed front lines ++ placed (layout front lines) more := by
  induction lines generalizing front with
  | nil => rfl
  | cons line lines ih => rw [List.cons_append, placed, placed, ih, List.append_assoc]; rfl

theorem prefix_layout (front : List Char) (lines : List CardLine) : front <+: layout front lines :=
  List.foldlRecOn lines _ List.prefix_rfl fun _ h line _ =>
    (h.trans (Text.prefix_endLine _)).trans (List.prefix_append _ line.text)

/-- A segment is in one of the lines, which starts behind those before it. -/
theorem mem_placed {front : List Char} {lines : List CardLine} {s : Segment} :
    s ∈ placed front lines ↔ ∃ before line after, lines = before ++ line :: after ∧
      ∃ t ∈ line.segments, s = t.shift (Text.size (Text.endLine (layout front before))) := by
  constructor
  · intro h
    induction lines generalizing front with
    | nil => cases h
    | cons line lines ih =>
      rcases List.mem_append.1 h with h | h
      · obtain ⟨t, ht, rfl⟩ := List.mem_map.1 h
        exact ⟨[], line, lines, rfl, t, ht, rfl⟩
      · obtain ⟨before, next, after, rfl, t, ht, rfl⟩ := ih h
        exact ⟨line :: before, next, after, rfl, t, ht, rfl⟩
  · rintro ⟨before, line, after, rfl, t, ht, rfl⟩
    rw [placed_append, placed]
    exact List.mem_append_right _ (List.mem_append_left _ (List.mem_map_of_mem ht))

/-- The start of a line is in the text that lines give. -/
theorem prefix_start (front : List Char) (before : List CardLine) (line : CardLine)
    (after : List CardLine) :
    Text.endLine (layout front before) ++ line.text <+: layout front (before ++ line :: after) := by
  rw [layout_append]
  exact prefix_layout _ after

/-- The anchors of lines are at the start of a line if each line has its own at the start. -/
theorem anchor_placed {front : List Char} {lines : List CardLine}
    (hlines : ∀ line ∈ lines, ∀ s ∈ line.segments, s.kind.isAnchor = true →
      s.start = 0 ∧ s.stop = 0) {s : Segment} (hs : s ∈ placed front lines)
    (hanchor : s.kind.isAnchor = true) :
    s.start = s.stop ∧ ∃ before, before <+: layout front lines ∧ StartsLine before ∧
      s.start = Text.size before := by
  obtain ⟨before, line, after, rfl, t, ht, rfl⟩ := mem_placed.1 hs
  obtain ⟨hstart, hstop⟩ :=
    hlines line (List.mem_append_right _ List.mem_cons_self) t ht hanchor
  refine ⟨?_, Text.endLine (layout front before),
    (List.prefix_append _ _).trans (prefix_start front before line after),
    Text.startsLine_endLine _, ?_⟩
  · simp [Segment.shift, hstart, hstop]
  · simp [Segment.shift, hstart]

/-- The text of lines that each have at most one line: a line feed before each line that has text,
and one more if the last line has none. -/
theorem layout_eq {front : List Char} (hfront : ¬ StartsLine front) {lines : List CardLine}
    (hlines : ∀ line ∈ lines, '\n' ∉ line.text) :
    layout front lines
      = front ++ ((lines.map text).filter (· ≠ [])).flatMap ('\n' :: ·) ++
        (if (lines.map text).getLast? = some [] then ['\n'] else []) := by
  -- the text up to the last line that has text does not end a line
  suffices h : ¬ StartsLine (front ++ ((lines.map text).filter (· ≠ [])).flatMap ('\n' :: ·)) ∧
      layout front lines = _ from h.2
  induction lines using List.reverseRecOn with
  | nil => simpa [layout] using hfront
  | append_singleton lines line ih =>
    obtain ⟨hlines, hline⟩ := List.forall_mem_append.1 hlines
    obtain ⟨hmid, hlayout⟩ := ih hlines
    have hline : '\n' ∉ line.text := hline line (List.mem_singleton_self line)
    have hend : Text.endLine (layout front lines)
        = front ++ ((lines.map text).filter (· ≠ [])).flatMap ('\n' :: ·) ++ ['\n'] := by
      rw [hlayout, Text.endLine, Text.lineBreak]
      split
      · rw [if_pos (startsLine_concat _), List.append_nil]
      · rw [List.append_nil, if_neg hmid]
    have hnext : layout front (lines ++ [line])
        = Text.endLine (layout front lines) ++ line.text := by
      rw [layout_append]
      rfl
    rw [hnext, hend, List.map_append, List.filter_append, List.flatMap_append, List.map_singleton,
      List.getLast?_concat]
    by_cases hempty : line.text = []
    · simpa [hempty] using hmid
    · have hlast : ¬ StartsLine (front ++
          ((lines.map text).filter (· ≠ [])).flatMap ('\n' :: ·) ++ ['\n'] ++ line.text) :=
        not_startsLine_append hline hempty
      simpa [hempty] using hlast

end CardLine

/-- A range in bold, if it has text. -/
def boldOver (start stop : Nat) : List Segment :=
  if start < stop then [⟨start, stop, .styled .bold⟩] else []

theorem mem_boldOver {start stop : Nat} {s : Segment} :
    s ∈ boldOver start stop ↔ start < stop ∧ s = ⟨start, stop, .styled .bold⟩ := by
  unfold boldOver
  split <;> simp_all

namespace Runs

/-- The counts where bold alone is active. -/
def boldCounts : List Nat :=
  Attribute.bold.indices.foldl (fun counts i => counts.modify i (· + 1))
    (List.replicate Attribute.count 0)

theorem active_none (start : Nat) :
    (⟨start, List.replicate Attribute.count 0⟩ : Runs).active = .empty := rfl

theorem active_bold (start : Nat) : (⟨start, boldCounts⟩ : Runs).active = .bold := rfl

end Runs

/-- A run in bold is a segment of its own, unless the last segment goes on with it. -/
theorem addRun_bold {segments : List Segment} {start stop : Nat} (counts : List Nat)
    (hlast : ∀ s ∈ segments.getLast?, s.kind = .styled .bold → s.stop ≠ start) :
    addRun segments ((⟨start, counts⟩ : Runs).region .bold stop)
      = segments ++ boldOver start stop := by
  rcases region_cases ⟨start, counts⟩ .bold stop with ⟨heq, hle | hempty⟩ | ⟨heq, hlt, -⟩
  · rw [heq, boldOver, if_neg (Nat.not_lt.2 hle), List.append_nil]
    rfl
  · exact absurd hempty (by decide)
  · rw [heq, boldOver, if_pos hlt]
    rcases addRun_cases segments ⟨start, stop, .styled .bold⟩ with
      hadd | ⟨front, last, hsegments, hkind, hmeet, -⟩
    · exact hadd
    · exact absurd hmeet (hlast last (by rw [hsegments, List.getLast?_concat]; rfl) hkind)

namespace Canvas

/-- Whether no marker is due, no attribute is active and the last segment is within the text. -/
structure Ready (c : Canvas) : Prop where
  marker : c.buffer.marker = []
  counts : c.runs.counts = List.replicate Attribute.count 0
  last : ∀ s ∈ c.segments.getLast?, s.stop ≤ c.length

/-- Whether a canvas has a text and segments after what another one has. The offsets of the segments
count from the end of that. -/
structure Adds (c d : Canvas) (text : List Char) (segments : List Segment) : Prop where
  ready : d.Ready
  text : d.buffer.text = c.buffer.text ++ text
  segments : d.segments = c.segments ++ segments.map (·.shift c.length)

/-- Whether a canvas has lines after what another one has. -/
structure AddsLines (c d : Canvas) (lines : List CardLine) : Prop where
  ready : d.Ready
  text : d.buffer.text = CardLine.layout c.buffer.text lines
  segments : d.segments = c.segments ++ CardLine.placed c.buffer.text lines

variable {c d e : Canvas}

theorem startBlock_eq_append (c : Canvas) :
    ∃ k, c.startBlock = { c with buffer := c.buffer.append (List.replicate k '\n') } := by
  obtain ⟨k, hk⟩ := c.buffer.padNewlines_eq_append 2
  exact ⟨k, by rw [startBlock, Buffer.startBlock, hk]⟩

/-- Without a marker the range of a text is from the end of what was there to its own end. -/
theorem write_of_marker (h : c.buffer.marker = []) (text : String) :
    c.write text = ((c.length, c.length + Text.size text.toList),
      { c with buffer := c.buffer.append text.toList }) := by
  have hlast : c.buffer.marker.getLast? ≠ some '\n' := by simp [h]
  have hput : (c.write text).2 = { c with buffer := c.buffer.append text.toList } :=
    put_of_marker h text
  have hlead : Text.lead c.buffer.marker text.toList = [] := by
    rw [h, Text.lead]
    cases Text.pieces text.toList <;> simp [Text.leadOf]
  have hwrite := write_buffer hlast text
  rw [Buffer.write_eq, hput, hlead, ite_self, Buffer.append_nil] at hwrite
  obtain ⟨hrange, hbuffer⟩ := Prod.ext_iff.1 hwrite
  dsimp only at hrange hbuffer
  rw [hbuffer, Buffer.append_length] at hrange
  exact Prod.ext hrange.symm hput

namespace Ready

theorem flush_eq (h : c.Ready) : c.flush = c :=
  flush_of_not_due (by simp [Buffer.markerDue, h.marker])

theorem enter_bold (h : c.Ready) :
    c.enter .bold = { c with runs := ⟨c.length, Runs.boldCounts⟩ } := by
  have hnone : c.runs.active = .empty := by
    rw [← Runs.active_none c.runs.start, ← h.counts]
  rw [enter_eq, h.flush_eq, h.counts, ← Runs.boldCounts]
  rcases c.change_cases Runs.boldCounts with ⟨hactive, -⟩ | ⟨-, heq⟩
  · rw [Runs.active_bold, hnone] at hactive
    exact absurd hactive (by decide)
  · -- the run that ends has no attributes, so it gives no segment
    have hregion : c.runs.region .empty c.length = none := by
      simp [Runs.region, show Attribute.empty.isEmpty = true by decide]
    rw [heq, hnone, hregion]
    rfl

theorem exit_bold {start : Nat} (hruns : c.runs = ⟨start, Runs.boldCounts⟩) :
    c.exit .bold = { c with
      runs := ⟨c.length, List.replicate Attribute.count 0⟩
      segments := addRun c.segments (c.runs.region .bold c.length) } := by
  have hbold : c.runs.active = .bold := by rw [hruns, Runs.active_bold]
  have hcounts : Attribute.bold.indices.foldl (fun counts i => counts.modify i (· - 1))
      c.runs.counts = List.replicate Attribute.count 0 := by
    rw [hruns]
    rfl
  rw [exit_eq, hcounts]
  rcases c.change_cases (List.replicate Attribute.count 0) with ⟨hactive, -⟩ | ⟨-, heq⟩
  · rw [Runs.active_none, hbold] at hactive
    exact absurd hactive (by decide)
  · rw [heq, hbold]

/-- A text in bold is a segment of its own, unless the last segment goes on with it. -/
theorem writeWith (h : c.Ready) (text : String)
    (hlast : ∀ s ∈ c.segments.getLast?, s.kind = .styled .bold → s.stop ≠ c.length) :
    let stop := c.length + Text.size text.toList
    c.writeWith .bold text = ((c.length, stop), { c with
      buffer := c.buffer.append text.toList
      runs := ⟨stop, List.replicate Attribute.count 0⟩
      segments := c.segments ++ boldOver c.length stop }) := by
  intro stop
  let entered : Canvas := { c with runs := ⟨c.length, Runs.boldCounts⟩ }
  let written : Canvas := { entered with buffer := c.buffer.append text.toList }
  have hwrite : (c.enter .bold).write text = ((c.length, stop), written) := by
    rw [h.enter_bold]
    exact write_of_marker (c := entered) h.marker text
  have hstop : written.length = stop := c.buffer.append_length _
  rw [Canvas.writeWith, hwrite]
  dsimp only
  rw [exit_bold (c := written) rfl, hstop]
  show (_, { written with runs := _, segments := addRun c.segments _ }) = _
  rw [addRun_bold _ hlast]

theorem append (h : c.Ready) (cs : List Char) :
    Ready { c with buffer := c.buffer.append cs } where
  marker := h.marker
  counts := h.counts
  last s hs := (h.last s hs).trans (by simp [length])

theorem ensureBreak (h : c.Ready) : c.ensureBreak.Ready := by
  rw [Canvas.ensureBreak, Buffer.ensureBreak_eq_append]
  exact h.append _

theorem startBlock (h : c.Ready) : c.startBlock.Ready := by
  obtain ⟨k, hk⟩ := c.startBlock_eq_append
  rw [hk]
  exact h.append _

theorem push (h : c.Ready) {s : Segment} (hs : s.stop ≤ c.length) : (c.push s).Ready where
  marker := h.marker
  counts := h.counts
  last t ht := by
    rw [Canvas.push, List.getLast?_concat] at ht
    obtain rfl := Option.some.inj ht
    exact hs

end Ready

namespace Adds

variable {cs : List Char} {ss : List Segment}

theorem refl (h : c.Ready) : Adds c c [] [] := ⟨h, by simp, by simp⟩

theorem length (h : Adds c d cs ss) : d.length = Text.size cs + c.length := by
  rw [Canvas.length, Buffer.length, h.text, Text.size_append, Nat.add_comm]
  rfl

theorem write (h : Adds c d cs ss) (text : String) :
    let start := Text.size cs
    let stop := start + Text.size text.toList
    (d.write text).1 = (start + c.length, stop + c.length) ∧
      Adds c (d.write text).2 (cs ++ text.toList) ss := by
  intro start stop
  rw [write_of_marker h.ready.marker]
  refine ⟨?_, h.ready.append _, ?_, h.segments⟩
  · rw [h.length]
    exact Prod.ext rfl (Nat.add_right_comm _ _ _)
  · rw [Buffer.append_text, h.text, List.append_assoc]

theorem put (h : Adds c d cs ss) (text : String) : Adds c (d.put text) (cs ++ text.toList) ss :=
  (h.write text).2

theorem emit (h : Adds c d cs ss) (start : Nat) {stop : Nat} (hstop : stop ≤ Text.size cs)
    (kind : SegmentKind) :
    Adds c (d.emit (start + c.length, stop + c.length) kind) cs (ss ++ [⟨start, stop, kind⟩]) where
  ready := h.ready.push (by rw [h.length]; exact Nat.add_le_add_right hstop _)
  text := h.text
  segments := by
    rw [Canvas.emit, Canvas.push, h.segments, List.map_append, List.append_assoc]
    rfl

theorem anchor (h : Adds c d cs ss) (kind : SegmentKind) :
    Adds c (d.anchor kind) cs (ss ++ [⟨Text.size cs, Text.size cs, kind⟩]) := by
  have hanchor : d.anchor kind
      = d.emit (Text.size cs + c.length, Text.size cs + c.length) kind := by
    rw [anchor_eq, h.ready.flush_eq, h.length]
    rfl
  rw [hanchor]
  exact h.emit _ (Nat.le_refl _) kind

/-- A text in bold, which does not go on with the last segment. -/
theorem writeWith (h : Adds c d cs ss) (text : String)
    (hlast : ∀ s ∈ d.segments.getLast?, s.kind = .styled .bold → s.stop ≠ d.length) :
    let start := Text.size cs
    let stop := start + Text.size text.toList
    (d.writeWith .bold text).1 = (start + c.length, stop + c.length) ∧
      Adds c (d.writeWith .bold text).2 (cs ++ text.toList) (ss ++ boldOver start stop) := by
  intro start stop
  have hstop : d.length + Text.size text.toList = stop + c.length := by
    rw [h.length]
    exact Nat.add_right_comm _ _ _
  have hwrite : Adds c { d with buffer := d.buffer.append text.toList } (cs ++ text.toList) ss :=
    ⟨h.ready.append _, by rw [Buffer.append_text, h.text, List.append_assoc], h.segments⟩
  rw [h.ready.writeWith text hlast, hstop, h.length]
  refine ⟨rfl, ?_⟩
  unfold boldOver
  by_cases hne : start < stop
  · have hle : stop ≤ Text.size (cs ++ text.toList) := by rw [Text.size_append]
    have hemit := hwrite.emit start hle (.styled .bold)
    rw [if_pos (Nat.add_lt_add_iff_right.2 hne), if_pos hne]
    exact ⟨⟨h.ready.marker, rfl, hemit.ready.last⟩, hemit.text, hemit.segments⟩
  · rw [if_neg (mt Nat.add_lt_add_iff_right.1 hne), if_neg hne, List.append_nil, List.append_nil]
    exact ⟨⟨h.ready.marker, rfl, hwrite.ready.last⟩, hwrite.text, hwrite.segments⟩

end Adds

namespace AddsLines

variable {lines : List CardLine}

theorem refl (h : c.Ready) : AddsLines c c [] := ⟨h, rfl, by rw [CardLine.placed, List.append_nil]⟩

/-- A part that starts a line is a line behind the others. -/
theorem line (h : AddsLines c d lines) {line : CardLine}
    (hadd : Adds d.ensureBreak e line.text line.segments) : AddsLines c e (lines ++ [line]) := by
  have hbreak : d.ensureBreak.buffer.text = Text.endLine d.buffer.text := by
    rw [Canvas.ensureBreak, Buffer.ensureBreak_eq_append]
    rfl
  refine ⟨hadd.ready, ?_, ?_⟩
  · rw [hadd.text, hbreak, h.text, CardLine.layout_append]
    rfl
  · have hlength : d.ensureBreak.length
        = Text.size (Text.endLine (CardLine.layout c.buffer.text lines)) := by
      rw [Canvas.length, Buffer.length, hbreak, h.text]
    rw [hadd.segments, hlength, show d.ensureBreak.segments = d.segments from rfl, h.segments,
      CardLine.placed_append, List.append_assoc]
    simp [CardLine.placed]

/-- A text in a line is where the line puts it. -/
theorem slice? {before after : List CardLine} {line : CardLine}
    (h : AddsLines c d (before ++ line :: after)) {front : List Char} {text : String}
    (htext : line.text = front ++ text.toList) :
    let start := Text.size (Text.endLine (CardLine.layout c.buffer.text before) ++ front)
    Text.slice? d.content start (start + Text.size text.toList) = some text := by
  intro start
  have hprefix := CardLine.prefix_start c.buffer.text before line after
  rw [← h.text, htext, ← List.append_assoc] at hprefix
  have hslice := Text.slice?_mono hprefix (Text.slice?_append _ text)
  rwa [Text.size_append _ text.toList] at hslice

/-- A segment over a text in a line is where the line puts the text. -/
theorem mem_over {before after : List CardLine} {line : CardLine}
    (h : AddsLines c d (before ++ line :: after)) (front : List Char) (text : String)
    (kind : SegmentKind)
    (hs : ⟨Text.size front, Text.size front + Text.size text.toList, kind⟩ ∈ line.segments) :
    let start := Text.size (Text.endLine (CardLine.layout c.buffer.text before) ++ front)
    ⟨start, start + Text.size text.toList, kind⟩ ∈ d.segments := by
  intro start
  have hstart : Text.size front + Text.size (Text.endLine (CardLine.layout c.buffer.text before))
      = start := by
    rw [Nat.add_comm, ← Text.size_append]
  have hplaced : _ ∈ CardLine.placed c.buffer.text _ :=
    CardLine.mem_placed.2 ⟨before, line, after, rfl, _, hs, rfl⟩
  rw [Segment.shift, Nat.add_right_comm, hstart] at hplaced
  rw [h.segments]
  exact List.mem_append_right _ hplaced

/-- A part that there may be is a line if there is one. -/
theorem drawSome (h : AddsLines c d lines) {α : Type} {draw : Canvas → α → Canvas}
    {line : α → CardLine} (part : Option α)
    (hdraw : ∀ x ∈ part, AddsLines c (draw d x) (lines ++ [line x])) :
    AddsLines c (d.drawSome part draw) (lines ++ part.toList.map line) := by
  cases part with
  | none => simpa [Canvas.drawSome] using h
  | some x => exact hdraw x rfl

theorem drawIf (h : AddsLines c d lines) {line : CardLine} (drawn : Bool)
    (hdraw : AddsLines c e (lines ++ [line])) :
    AddsLines c (if drawn then e else d) (lines ++ if drawn then [line] else []) := by
  cases drawn with
  | true => exact hdraw
  | false =>
    rw [← List.append_nil lines] at h
    exact h

/-- Parts that are drawn one after the other are lines. -/
theorem foldl (h : AddsLines c d lines) {α : Type} {draw : Canvas → α → Canvas}
    {line : α → CardLine} (parts : List α)
    (hdraw : ∀ {d lines} x, AddsLines c d lines → AddsLines c (draw d x) (lines ++ [line x])) :
    AddsLines c (parts.foldl draw d) (lines ++ parts.map line) := by
  induction parts generalizing d lines with
  | nil => simpa using h
  | cons x parts ih =>
    have := ih (hdraw x h)
    rwa [List.append_assoc] at this

end AddsLines

end Canvas

end RichChat

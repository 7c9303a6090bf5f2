import RichChat.Proofs.Covers
import RichChat.Proofs.Inks

/-!
# Texts written one after the other

What is written is the text with the marker in front of each line that is more than its end
(`Text.marked`). It does not matter how the text is cut: a text that is written in parts, wherever
their ends are, is written as the whole would be (`Text.added_append`). The range of a part starts
behind a marker that comes before it. The markers inside the part belong to the range, and without
them it is the part (`Text.unmarkedInside_markedInside`). All this is so for a buffer
(`Buffer.write_eq`), and a canvas writes as its buffer does (`Canvas.write_buffer`), although it
looks for a marker itself.
-/

namespace RichChat

instance (cs : List Char) : Decidable (StartsLine cs) :=
  decidable_of_iff (cs.getLast?.all (· == '\n') = true) <| by
    cases h : cs.getLast? <;> simp [StartsLine, h]

theorem StartsLine.append_iff {front cs : List Char} (hne : cs ≠ []) :
    StartsLine (front ++ cs) ↔ StartsLine cs := by
  rw [StartsLine, StartsLine, List.getLast?_append_of_ne_nil front hne]

theorem startsLine_concat (front : List Char) : StartsLine (front ++ ['\n']) := by
  intro c hc
  rw [List.getLast?_concat] at hc
  exact (Option.some.inj hc).symm

theorem not_startsLine_append {front line : List Char} (h : '\n' ∉ line) (hne : line ≠ []) :
    ¬ StartsLine (front ++ line) := by
  rw [StartsLine.append_iff hne]
  intro hstarts
  have hlast := hstarts _ (List.getLast?_eq_some_getLast hne)
  exact h (hlast ▸ List.getLast_mem hne)

theorem Buffer.atLineStart_iff (b : Buffer) : b.atLineStart = true ↔ StartsLine b.text := by
  unfold atLineStart StartsLine
  cases hlast : b.text.getLast? with
  | none => simp [List.getLast?_eq_none_iff.1 hlast]
  | some c =>
    have hne : b.text ≠ [] := fun hnil => by simp [hnil] at hlast
    simp [hne]

namespace Text

/-- A text is one line without an end, or a line with its end and the text behind it. -/
@[elab_as_elim]
theorem line_induction {motive : List Char → Prop} (last : ∀ line, '\n' ∉ line → motive line)
    (next : ∀ line rest, '\n' ∉ line → motive rest → motive (line ++ '\n' :: rest))
    (cs : List Char) : motive cs := by
  induction hn : cs.length using Nat.strongRecOn generalizing cs with
  | ind n ih =>
    by_cases hmem : '\n' ∈ cs
    · obtain ⟨line, rest, rfl, hline⟩ := List.eq_append_cons_of_mem hmem
      have hlt : rest.length < n := by
        rw [← hn, List.length_append, List.length_cons]
        omega
      exact next line rest hline (ih _ hlt rest rfl)
    · exact last cs hmem

theorem pieces_next {line : List Char} (h : '\n' ∉ line) (rest : List Char) :
    pieces (line ++ '\n' :: rest) = (line ++ ['\n']) :: pieces rest := by
  induction line with
  | nil => simp [pieces]
  | cons c line ih =>
    have hc : c ≠ '\n' := fun hc => h (by simp [hc])
    rw [List.cons_append, pieces, if_neg hc, ih fun hmem => h (List.mem_cons_of_mem c hmem)]
    rfl

/-- A line that has text and goes on is in one piece with what it goes on with. -/
theorem pieces_append {line : List Char} (h : '\n' ∉ line) (hne : line ≠ []) (rest : List Char) :
    pieces (line ++ rest) = (line ++ (pieces rest).headD []) :: (pieces rest).tail := by
  induction line with
  | nil => exact absurd rfl hne
  | cons c line ih =>
    have hc : c ≠ '\n' := fun hc => h (by simp [hc])
    have hline : '\n' ∉ line := fun hmem => h (List.mem_cons_of_mem c hmem)
    rw [List.cons_append, pieces, if_neg hc]
    cases line with
    | nil => cases hrest : pieces rest <;> simp [hrest]
    | cons d line => rw [ih hline (List.cons_ne_nil d line)]; rfl

section Marked

variable (marker : List Char)

/-- What comes before a line: the marker, unless there is nothing but its end. -/
def leadOf (line : List Char) : List Char := if line = ['\n'] then [] else marker

/-- A text with a marker in front of each line that is more than its end. -/
def marked (cs : List Char) : List Char :=
  (pieces cs).flatMap fun line => leadOf marker line ++ line

/-- What comes before the first line of a text. -/
def lead (cs : List Char) : List Char := ((pieces cs).head?.map (leadOf marker)).getD []

/-- A text with a marker in front of each line after the first that is more than its end. -/
def markedInside (cs : List Char) : List Char :=
  (pieces cs).headD [] ++ (pieces cs).tail.flatMap fun line => leadOf marker line ++ line

/-- A text without the marker in front of each line that is more than its end. -/
def unmarked (cs : List Char) : List Char :=
  (pieces cs).flatMap fun line => line.drop (leadOf marker line).length

/-- A text without the marker in front of each line after the first that is more than its end. -/
def unmarkedInside (cs : List Char) : List Char :=
  (pieces cs).headD [] ++
    (pieces cs).tail.flatMap fun line => line.drop (leadOf marker line).length

/-- What is added when a text is written behind another one. -/
def added (before cs : List Char) : List Char :=
  (if StartsLine before then lead marker cs else []) ++ markedInside marker cs

variable {marker}

@[simp] theorem added_nil (before : List Char) : added marker before [] = [] := by
  simp [added, lead, markedInside, pieces]

theorem marked_eq (cs : List Char) :
    marked marker cs = lead marker cs ++ markedInside marker cs := by
  unfold marked lead markedInside
  cases pieces cs <;> simp

theorem added_of_startsLine {before : List Char} (h : StartsLine before) (cs : List Char) :
    added marker before cs = marked marker cs := by
  rw [added, if_pos h, marked_eq]

theorem added_of_not_startsLine {before : List Char} (h : ¬ StartsLine before) (cs : List Char) :
    added marker before cs = markedInside marker cs := by
  rw [added, if_neg h, List.nil_append]

theorem lead_line {line : List Char} (h : '\n' ∉ line) (hne : line ≠ []) (rest : List Char) :
    lead marker (line ++ rest) = marker := by
  have hfirst : line ++ (pieces rest).headD [] ≠ ['\n'] := by
    cases line with
    | nil => exact absurd rfl hne
    | cons c line =>
      intro heq
      exact h (by simp [(List.cons.inj heq).1])
  rw [lead, pieces_append h hne]
  exact if_neg hfirst

variable (marker) in
theorem markedInside_line {line : List Char} (h : '\n' ∉ line) (hne : line ≠ [])
    (rest : List Char) : markedInside marker (line ++ rest) = line ++ markedInside marker rest := by
  simp [markedInside, pieces_append h hne]

theorem markedInside_next {line : List Char} (h : '\n' ∉ line) (rest : List Char) :
    markedInside marker (line ++ '\n' :: rest) = line ++ '\n' :: marked marker rest := by
  simp [markedInside, marked, pieces_next h]

theorem lead_next {line : List Char} (h : '\n' ∉ line) (rest : List Char) :
    lead marker (line ++ '\n' :: rest) = leadOf marker (line ++ ['\n']) := by
  rw [lead, pieces_next h]
  rfl

variable (marker) in
theorem added_end {line : List Char} (h : '\n' ∉ line) (before : List Char) :
    added marker before (line ++ ['\n'])
      = (if StartsLine before then leadOf marker (line ++ ['\n']) else []) ++ (line ++ ['\n']) := by
  rw [added, lead_next h, markedInside_next h]
  rfl

variable (marker) in
/-- A line is written with its end, and then what is behind it. -/
theorem added_next {line : List Char} (h : '\n' ∉ line) (before rest : List Char) :
    let front := added marker before (line ++ ['\n'])
    StartsLine (before ++ front) ∧
      added marker before (line ++ '\n' :: rest) = front ++ marked marker rest := by
  intro front
  have hfront := added_end marker h before
  refine ⟨?_, ?_⟩
  · rw [show front = _ from hfront, ← List.append_assoc, ← List.append_assoc]
    exact startsLine_concat _
  · rw [show front = _ from hfront, added, lead_next h, markedInside_next h]
    simp

variable (marker) in
/-- A line that has text is not at its end when it is written. -/
theorem added_line {line : List Char} (h : '\n' ∉ line) (hne : line ≠ [])
    (before rest : List Char) :
    let front := added marker before line
    ¬ StartsLine (before ++ front) ∧
      added marker before (line ++ rest) = front ++ markedInside marker rest := by
  intro front
  have hlead : lead marker line = marker := by simpa using lead_line h hne []
  have hinside : markedInside marker line = line := by
    simpa [markedInside, pieces] using markedInside_line marker h hne []
  have hfront : front = (if StartsLine before then marker else []) ++ line := by
    simp only [front, added, hlead, hinside]
  refine ⟨?_, ?_⟩
  · rw [hfront, ← List.append_assoc]
    exact not_startsLine_append h hne
  · rw [hfront, added, lead_line h hne, markedInside_line marker h hne, List.append_assoc]

/-- Texts are added one after the other as they are together. -/
theorem added_append (before xs ys : List Char) :
    added marker before (xs ++ ys)
      = added marker before xs ++ added marker (before ++ added marker before xs) ys := by
  -- behind a line that ends in `xs` all is as at the start of a text; only the last line of `xs`
  -- may go on in `ys`
  induction xs using line_induction generalizing before with
  | last line h =>
    by_cases hne : line = []
    · simp [hne]
    · obtain ⟨hmid, heq⟩ := added_line marker h hne before ys
      rw [heq, added_of_not_startsLine hmid]
  | next line rest h ih =>
    obtain ⟨hmid, hrest⟩ := added_next marker h before rest
    obtain ⟨-, hall⟩ := added_next marker h before (rest ++ ys)
    rw [← added_of_startsLine hmid] at hrest hall
    rw [List.append_assoc, List.cons_append, hall, hrest, ih, List.append_assoc,
      List.append_assoc]

end Marked

end Text

namespace Buffer

variable (b : Buffer)

theorem due_eq : b.due = if StartsLine b.text then b.marker else [] := by
  rw [due, markerDue]
  by_cases hstarts : StartsLine b.text
  · cases b.marker <;> simp [hstarts, b.atLineStart_iff.2 hstarts]
  · have hmid : b.atLineStart = false := by
      rw [← Bool.not_eq_true, b.atLineStart_iff]
      exact hstarts
    simp [hstarts, hmid]

/-- A line is written behind the marker, if that is due. -/
theorem writePiece_eq (start : Option Nat) (line : List Char) :
    let front := if StartsLine b.text then Text.leadOf b.marker line else []
    writePiece (start, b) line
      = (some (start.getD (b.append front).length), b.append (front ++ line)) := by
  intro front
  by_cases hline : line = ['\n']
  · have hfront : front = [] := by simp [front, Text.leadOf, hline]
    simp [writePiece, hline, hfront]
  · have hfront : front = b.due := by simp [front, Text.leadOf, hline, b.due_eq]
    simp [writePiece, hline, hfront, flush_eq_append, append_append]

/-- The lines of a text are written as `Text.added` says, and they start behind the marker. -/
theorem foldl_writePiece (start : Option Nat) (cs : List Char) :
    let front := if StartsLine b.text then Text.lead b.marker cs else []
    (Text.pieces cs).foldl writePiece (start, b)
      = (if cs = [] then start else some (start.getD (b.append front).length),
        b.append (Text.added b.marker b.text cs)) := by
  induction cs using Text.line_induction generalizing start b with
  | last line h =>
    intro front
    by_cases hne : line = []
    · simp [hne, Text.pieces]
    · have hpieces := Text.pieces_line h hne
      rw [hpieces, List.foldl_cons, List.foldl_nil, writePiece_eq, if_neg hne]
      simp [front, Text.lead, Text.added, Text.markedInside, hpieces]
  | next line rest h ih =>
    intro front
    obtain ⟨hmid, hrest⟩ := Text.added_next b.marker h b.text rest
    rw [← Text.added_of_startsLine hmid] at hrest
    have hfront : front
        = if StartsLine b.text then Text.leadOf b.marker (line ++ ['\n']) else [] := by
      rw [← Text.lead_next h rest]
    rw [Text.pieces_next h, List.foldl_cons, writePiece_eq, ← hfront, ih, hrest]
    have hend : b.append (front ++ (line ++ ['\n']))
        = b.append (Text.added b.marker b.text (line ++ ['\n'])) := by
      rw [Text.added_end b.marker h, hfront]
    rw [hend]
    simp [append_append]

/-- A text is written as `Text.added` says. Its range starts behind a marker that comes before
it. -/
theorem write_eq (cs : List Char) :
    let front := if StartsLine b.text then Text.lead b.marker cs else []
    let d := b.append (Text.added b.marker b.text cs)
    b.write cs = (((b.append front).length, d.length), d) := by
  intro front d
  have hpieces := b.foldl_writePiece none cs
  rw [write, hpieces]
  by_cases hcs : cs = []
  · simp [hcs, front, d, Text.lead, Text.pieces]
  · simp [hcs, front, d]

/-- Writes texts one after the other and gives the range of each. -/
def writes : Buffer → List String → List (Nat × Nat) × Buffer
  | b, [] => ([], b)
  | b, text :: texts =>
    let (range, b) := b.write text.toList
    let (ranges, b) := b.writes texts
    (range :: ranges, b)

theorem writes_append (texts more : List String) :
    b.writes (texts ++ more)
      = ((b.writes texts).1 ++ ((b.writes texts).2.writes more).1,
        ((b.writes texts).2.writes more).2) := by
  induction texts generalizing b with
  | nil => rfl
  | cons text texts ih => simp only [List.cons_append, writes, ih]

theorem length_writes (texts : List String) : (b.writes texts).1.length = texts.length := by
  induction texts generalizing b with
  | nil => rfl
  | cons text texts ih => simp only [writes, List.length_cons, ih]

/-- Texts that are written one after the other are written as they are together. -/
theorem writes_snd (texts : List String) :
    (b.writes texts).2 = b.append (Text.added b.marker b.text (texts.flatMap String.toList)) := by
  induction texts generalizing b with
  | nil => simp [writes]
  | cons text texts ih =>
    rw [List.flatMap_cons, Text.added_append, writes]
    simp only [ih, write_eq, append_append, append_text, append_marker]

/-- One of the texts that are written one after the other, and where it is. -/
theorem writes_part (before : List String) (text : String) (after : List String) :
    let front := b.text ++ Text.added b.marker b.text (before.flatMap String.toList)
    let lead := if StartsLine front then Text.lead b.marker text.toList else []
    let inside := Text.markedInside b.marker text.toList
    let (ranges, d) := b.writes (before ++ text :: after)
    ranges[before.length]? = some (Text.size (front ++ lead), Text.size (front ++ lead ++ inside)) ∧
      front ++ lead ++ inside <+: d.text := by
  intro front lead inside
  have hfront := b.writes_snd before
  have htext : (b.writes before).2.text = front := by rw [hfront]; rfl
  have hmarker : (b.writes before).2.marker = b.marker := by rw [hfront]; rfl
  have hadded : Text.added b.marker front text.toList = lead ++ inside := rfl
  rw [writes_append, writes, write_eq, htext, hmarker, hadded]
  refine ⟨?_, ?_⟩
  · rw [← b.length_writes before, List.getElem?_append_right (Nat.le_refl _), Nat.sub_self,
      List.getElem?_cons_zero]
    simp only [length, append_text, htext, List.append_assoc]
    rfl
  · rw [writes_snd, append_text, append_text, htext, ← List.append_assoc front]
    exact List.prefix_append _ _

end Buffer

namespace Text

variable {marker : List Char}

theorem leadOf_append (hmarker : '\n' ∉ marker) (line : List Char) :
    leadOf marker (leadOf marker line ++ line) = leadOf marker line := by
  by_cases hline : line = ['\n']
  · rw [hline]
    rfl
  · have hlead : leadOf marker line = marker := if_neg hline
    rw [hlead]
    refine if_neg fun heq => ?_
    cases marker with
    | nil => exact hline heq
    | cons c marker => exact hmarker (by simp [(List.cons.inj heq).1])

theorem newline_not_mem_leadOf (hmarker : '\n' ∉ marker) (line : List Char) :
    '\n' ∉ leadOf marker line := by
  unfold leadOf
  split
  · exact List.not_mem_nil
  · exact hmarker

theorem unmarked_marked (hmarker : '\n' ∉ marker) (cs : List Char) :
    unmarked marker (marked marker cs) = cs := by
  induction cs using line_induction with
  | last line h =>
    by_cases hne : line = []
    · simp [hne, marked, unmarked, pieces]
    · have hpieces := pieces_line h hne
      have hfront : '\n' ∉ leadOf marker line ++ line := by
        simp [newline_not_mem_leadOf hmarker, h]
      have hmarked := pieces_line hfront (by simp [hne])
      simp [marked, unmarked, hpieces, hmarked, leadOf_append hmarker]
  | next line rest h ih =>
    have hfront : '\n' ∉ leadOf marker (line ++ ['\n']) ++ line := by
      simp [newline_not_mem_leadOf hmarker, h]
    have hmarked : marked marker (line ++ '\n' :: rest)
        = leadOf marker (line ++ ['\n']) ++ line ++ '\n' :: marked marker rest := by
      simp [marked, pieces_next h]
    have hfirst := leadOf_append hmarker (line ++ ['\n'])
    rw [hmarked, unmarked, pieces_next hfront, List.flatMap_cons, List.append_assoc _ line, hfirst,
      List.drop_left, ← unmarked, ih, List.append_assoc, List.singleton_append]

/-- What was written of a text is the text again without the markers inside it. -/
theorem unmarkedInside_markedInside (hmarker : '\n' ∉ marker) (cs : List Char) :
    unmarkedInside marker (markedInside marker cs) = cs := by
  induction cs using line_induction with
  | last line h =>
    by_cases hne : line = []
    · simp [hne, markedInside, unmarkedInside, pieces]
    · simp [markedInside, unmarkedInside, pieces_line h hne]
  | next line rest h =>
    have hrest := unmarked_marked hmarker rest
    rw [unmarked] at hrest
    rw [markedInside_next h, unmarkedInside, pieces_next h, List.headD_cons, List.tail_cons, hrest,
      List.append_assoc, List.singleton_append]

end Text

namespace Canvas

/-- A line is written as the buffer writes it, since no marker is due behind the marker. -/
theorem writePiece_buffer {c : Canvas} (hmarker : c.buffer.marker.getLast? ≠ some '\n')
    (start : Option Nat) {p : List Char} (hp : Text.pieces p = [p]) :
    let next := Buffer.writePiece (start, c.buffer) p
    writePiece (start.map (·, c.length), c) p
      = (next.1.map (·, next.2.length),
        { (if p = ['\n'] then c else c.flush) with buffer := next.2 }) := by
  by_cases hline : p = ['\n']
  · subst hline
    have hlength : (c.buffer.append ['\n']).length = c.buffer.length + 1 := by
      rw [Buffer.append_length]
      rfl
    simp only [writePiece, Buffer.writePiece, if_true, Buffer.write_newline, hlength]
    cases start <;> rfl
  · have hflush : c.flush.buffer.flush = c.flush.buffer := by
      rw [flush_buffer, Buffer.flush, c.buffer.not_markerDue_flush hmarker]
      rfl
    simp only [writePiece, Buffer.writePiece, if_neg hline, Buffer.write_piece _ hp hline, hflush]
    rw [flush_buffer]
    cases start <;> rfl

theorem foldl_writePiece_buffer {c : Canvas} (hmarker : c.buffer.marker.getLast? ≠ some '\n')
    (start : Option Nat) {ps : List (List Char)} (hps : ∀ p ∈ ps, Text.pieces p = [p]) :
    let last := ps.foldl Buffer.writePiece (start, c.buffer)
    let state := ps.foldl writePiece (start.map (·, c.length), c)
    state.1 = last.1.map (·, last.2.length) ∧ state.2.buffer = last.2 := by
  induction ps generalizing c start with
  | nil => exact ⟨rfl, rfl⟩
  | cons p ps ih =>
    have hp := hps p List.mem_cons_self
    have hstep := writePiece_buffer hmarker start hp
    have hmarker' : (writePiece (start.map (·, c.length), c) p).2.buffer.marker.getLast?
        ≠ some '\n' := by
      rwa [writePiece_marker _ _ hp]
    rw [hstep] at hmarker'
    simp only [List.foldl_cons, hstep]
    exact ih hmarker' _ fun q hq => hps q (List.mem_cons_of_mem _ hq)

/-- A canvas looks for a marker before the buffer does, and writes as the buffer. -/
theorem write_buffer {c : Canvas} (hmarker : c.buffer.marker.getLast? ≠ some '\n')
    (text : String) :
    c.buffer.write text.toList = ((c.write text).1, (c.write text).2.buffer) := by
  obtain ⟨hrange, hbuffer⟩ := foldl_writePiece_buffer hmarker none
    (fun _ => @Text.pieces_of_mem _ text.toList)
  rw [Option.map_none] at hrange hbuffer
  unfold write Buffer.write
  generalize (Text.pieces text.toList).foldl Buffer.writePiece (none, c.buffer) = last
    at hrange hbuffer ⊢
  generalize (Text.pieces text.toList).foldl writePiece (none, c) = state at hrange hbuffer ⊢
  obtain ⟨start, b⟩ := last
  obtain ⟨range, d⟩ := state
  obtain rfl : d.buffer = b := hbuffer
  obtain rfl : range = start.map (·, d.buffer.length) := hrange
  cases start <;> rfl

/-- Writes texts one after the other and gives the range of each. -/
def writes : Canvas → List String → List (Nat × Nat) × Canvas
  | c, [] => ([], c)
  | c, text :: texts =>
    let (range, c) := c.write text
    let (ranges, c) := c.writes texts
    (range :: ranges, c)

theorem writes_buffer {c : Canvas} (hmarker : c.buffer.marker.getLast? ≠ some '\n')
    (texts : List String) :
    c.buffer.writes texts = ((c.writes texts).1, (c.writes texts).2.buffer) := by
  induction texts generalizing c with
  | nil => rfl
  | cons text texts ih =>
    have hwrite := write_buffer hmarker text
    have hmarker' : (c.write text).2.buffer.marker.getLast? ≠ some '\n' := by
      have hsnd := congrArg (·.2.marker) hwrite
      simp only [Buffer.write_eq, Buffer.append_marker] at hsnd
      rwa [← hsnd]
    simp only [Buffer.writes, writes, hwrite, ih hmarker']

/-- Texts that are written at the start of a line, one after the other, are written as they are
together, with the marker in front of each line that is more than its end. The range of each starts
behind a marker that comes before it, and without the markers inside it has the text. The buffer
alone writes the same. -/
theorem writes_marked (c : Canvas) (texts : List String) (hstart : c.buffer.atLineStart = true)
    (hmarker : '\n' ∉ c.buffer.marker) :
    let marker := c.buffer.marker
    let (ranges, d) := c.writes texts
    d.buffer.text = c.buffer.text ++ Text.marked marker (texts.flatMap String.toList) ∧
      ranges.length = texts.length ∧
      (∀ before text after, texts = before ++ text :: after →
        let front := c.buffer.text ++ Text.marked marker (before.flatMap String.toList)
        let lead := if StartsLine front then Text.lead marker text.toList else []
        ∃ start stop, ranges[before.length]? = some (start, stop) ∧
          front ++ lead <+: d.buffer.text ∧ start = Text.size (front ++ lead) ∧
          (Text.slice? d.content start stop).map (Text.unmarkedInside marker ·.toList)
            = some text.toList) ∧
      c.buffer.writes texts = (ranges, d.buffer) := by
  have hlast : c.buffer.marker.getLast? ≠ some '\n' := fun h =>
    hmarker (List.mem_of_getLast? h)
  have hwrites := writes_buffer hlast texts
  have hwhole := c.buffer.writes_snd texts
  have hlength := c.buffer.length_writes texts
  have hpart := c.buffer.writes_part
  rw [hwrites] at hwhole hlength
  rw [c.buffer.atLineStart_iff] at hstart
  simp only [Text.added_of_startsLine hstart] at hwhole hpart
  intro marker
  refine ⟨by rw [hwhole, Buffer.append_text], hlength, ?_, hwrites⟩
  rintro before text after rfl front lead
  obtain ⟨hrange, hprefix⟩ := hpart before text after
  rw [hwrites] at hrange hprefix
  refine ⟨_, _, hrange, (List.prefix_append _ _).trans hprefix, rfl, ?_⟩
  have hinside : Text.slice? (c.writes (before ++ text :: after)).2.content
      (Text.size (front ++ lead))
      (Text.size (front ++ lead ++ Text.markedInside marker text.toList))
        = some (String.ofList (Text.markedInside marker text.toList)) := by
    refine Text.slice?_mono hprefix ?_
    have hslice := Text.slice?_append (front ++ lead)
      (String.ofList (Text.markedInside marker text.toList))
    rwa [String.toList_ofList] at hslice
  rw [hinside, Option.map_some, String.toList_ofList, Text.unmarkedInside_markedInside hmarker]

/-- An empty text at the start, a line in two parts, a line end that stands alone, and a text of two
lines. -/
theorem writes_marked_parts :
    let c := (Canvas.fresh {}).openQuote {}
    let texts := ["", "on", "e\n", "\n", "two\nthree"]
    let (ranges, d) := c.writes texts
    c.buffer.atLineStart = true ∧ '\n' ∉ c.buffer.marker ∧
      d.content = "> one\n\n> two\n> three" ∧
      ranges = [(0, 0), (2, 4), (4, 6), (6, 7), (9, 20)] ∧
      (c.buffer.writes texts).1 = ranges := by
  intro c texts
  have hstart : c.buffer.atLineStart = true := by decide
  have hmarker : '\n' ∉ c.buffer.marker := by decide
  obtain ⟨htext, -, -, hbuffer⟩ := writes_marked c texts hstart hmarker
  exact ⟨hstart, hmarker, (congrArg String.ofList htext).trans (by decide), by decide,
    congrArg Prod.fst hbuffer⟩

end Canvas

end RichChat

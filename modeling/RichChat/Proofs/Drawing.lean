import RichChat.Proofs.Spacing
import RichChat.Proofs.Plan

/-!
# Drawing, move by move

`Drawn scene c strokes d` says that `d` comes of `c` by a sequence of moves that write `strokes`. A
move is less than an operation: each operation is a few moves (`Op.drawn`), and so is every plan
(`Plan.drawn`) and the end of a rendering (`Drawn.finish`). What each move keeps is kept by all
drawing, so an invariant of the canvas is one case for each move.

The strokes of a plan are those of its moves if no marker ends a line; otherwise the marker of a
line may be followed by one more.
-/

namespace RichChat

/-- A list of segments with a run that has ended. -/
def addRun (segments : List Segment) : Option Segment → List Segment
  | none => segments
  | some run =>
    match segments.getLast? with
    | some last =>
      if last.kind = run.kind ∧ last.stop = run.start then
        segments.dropLast ++ [{ last with stop := run.stop }]
      else segments ++ [run]
    | none => segments ++ [run]

theorem addRun_concat (init : List Segment) (last run : Segment) :
    addRun (init ++ [last]) (some run) =
      if last.kind = run.kind ∧ last.stop = run.start then init ++ [{ last with stop := run.stop }]
      else init ++ [last] ++ [run] := by
  simp [addRun]

/-- A run is put at the end, or it makes the last segment longer. -/
theorem addRun_cases (segments : List Segment) (run : Segment) :
    addRun segments (some run) = segments ++ [run] ∨ ∃ front last, segments = front ++ [last] ∧
      last.kind = run.kind ∧ last.stop = run.start ∧
      addRun segments (some run) = front ++ [{ last with stop := run.stop }] := by
  rcases List.eq_nil_or_concat' segments with rfl | ⟨front, last, rfl⟩
  · exact .inl rfl
  · by_cases h : last.kind = run.kind ∧ last.stop = run.start
    · exact .inr ⟨front, last, rfl, h.1, h.2, by rw [addRun_concat, if_pos h]⟩
    · exact .inl (by rw [addRun_concat, if_neg h])

theorem region_cases (r : Runs) (a : Attribute) (n : Nat) :
    r.region a n = none ∧ (n ≤ r.start ∨ a.isEmpty = true) ∨
      r.region a n = some ⟨r.start, n, .styled a⟩ ∧ r.start < n ∧ a.isEmpty = false := by
  unfold Runs.region
  by_cases h : r.start < n
  · cases ha : a.isEmpty
    · exact .inr ⟨by simp [h], h, rfl⟩
    · exact .inl ⟨by simp, .inr rfl⟩
  · exact .inl ⟨by simp [h], .inl (by omega)⟩

namespace Canvas

theorem pushRun_eq (c : Canvas) (run : Option Segment) :
    c.pushRun run = { c with segments := addRun c.segments run } := by
  unfold pushRun addRun
  cases run with
  | none => rfl
  | some run =>
    cases c.segments.getLast? with
    | none => rfl
    | some last =>
      simp only
      split <;> rfl

def change (c : Canvas) (counts : List Nat) : Canvas :=
  { c with runs := (c.runs.change c.length counts).2 }.pushRun (c.runs.change c.length counts).1

theorem enter_eq (c : Canvas) (a : Attribute) :
    c.enter a = c.flush.change
      (a.indices.foldl (fun counts i => counts.modify i (· + 1)) c.flush.runs.counts) := by
  simp only [enter, cursor, change, Runs.enter]

theorem exit_eq (c : Canvas) (a : Attribute) :
    c.exit a
      = c.change (a.indices.foldl (fun counts i => counts.modify i (· - 1)) c.runs.counts) := by
  simp only [exit, change, Runs.exit]

theorem leave_eq (c : Canvas) : c.leave = c.change (List.replicate Attribute.count 0) := by
  simp only [leave, change, Runs.finish]

theorem closeLink_eq {c : Canvas} {start : Nat} {links : List Nat} (hl : c.links = start :: links)
    (url : String) :
    c.closeLink url = { c with
      links
      segments := c.segments ++ if start < c.length then [⟨start, c.length, .link url⟩] else [] } := by
  unfold closeLink
  rw [hl]
  by_cases hlt : start < c.length
  · rw [if_pos hlt]
    exact if_pos hlt
  · rw [if_neg hlt, List.append_nil]
    exact if_neg hlt

/-- Closing a link does nothing if none is open. Otherwise it drops the innermost one, and makes a
segment of the text in it if there is any. -/
theorem closeLink_cases (c : Canvas) (url : String) :
    (c.links = [] ∧ c.closeLink url = c) ∨
      ∃ start links, c.links = start :: links ∧
        (c.closeLink url = { c with links } ∨
          start < c.length ∧
            c.closeLink url = { c with links }.push ⟨start, c.length, .link url⟩) := by
  cases hl : c.links with
  | nil => exact .inl ⟨rfl, by rw [closeLink, hl]⟩
  | cons start links =>
    refine .inr ⟨start, links, rfl, ?_⟩
    rw [closeLink_eq hl]
    by_cases hlt : start < c.length
    · rw [if_pos hlt]
      exact .inr ⟨hlt, rfl⟩
    · rw [if_neg hlt, List.append_nil]
      exact .inl rfl

/-- Where a quote would end if it were closed now. -/
def quoteStop (c : Canvas) (start : Nat) : Nat :=
  max (c.quoteTextEnd start) ((c.lastAnchor? start).getD 0)

theorem closeQuote_eq {c : Canvas} {quote : Quote} {quotes : List Quote}
    (hq : c.quotes = quote :: quotes) :
    c.closeQuote = { c with
      buffer := c.buffer.popMarker quote.outerMarker
      quotes
      segments := c.segments ++ if quote.start < c.quoteStop quote.start then
        [⟨quote.start, c.quoteStop quote.start, .quoteBlock⟩] else [] } := by
  unfold closeQuote
  rw [hq]
  by_cases hlt : quote.start < c.quoteStop quote.start
  · rw [if_pos hlt]
    exact if_pos hlt
  · rw [if_neg hlt, List.append_nil]
    exact if_neg hlt

/-- Closing a quote does nothing if none is open. Otherwise it drops the innermost one with its
marker, and makes a block of it if that is not empty. -/
theorem closeQuote_cases (c : Canvas) :
    (c.quotes = [] ∧ c.closeQuote = c) ∨
      ∃ quote quotes, c.quotes = quote :: quotes ∧
        (c.closeQuote = { c with buffer := c.buffer.popMarker quote.outerMarker, quotes } ∨
          quote.start < c.quoteStop quote.start ∧
            c.closeQuote = { c with buffer := c.buffer.popMarker quote.outerMarker, quotes }.push
              ⟨quote.start, c.quoteStop quote.start, .quoteBlock⟩) := by
  cases hq : c.quotes with
  | nil => exact .inl ⟨rfl, by rw [closeQuote, hq]⟩
  | cons quote quotes =>
    refine .inr ⟨quote, quotes, rfl, ?_⟩
    rw [closeQuote_eq hq]
    by_cases hlt : quote.start < c.quoteStop quote.start
    · rw [if_pos hlt]
      exact .inr ⟨hlt, rfl⟩
    · rw [if_neg hlt, List.append_nil]
      exact .inl rfl

theorem finish_eq (c : Canvas) : c.finish = closeQuotes c.quotes.length c.leave := rfl

theorem writeWith_eq (c : Canvas) (a : Attribute) (text : String) :
    (c.writeWith a text).2 = ((c.enter a).put text).exit a := by
  simp only [writeWith, put]

/-- Puts a quote on the stack that starts here, and its marker behind the marker. -/
def pushQuote (c : Canvas) (config : Config) : Canvas :=
  { c with
    buffer := (c.buffer.pushMarker config.quoteMarker.toList).2
    quotes := ⟨c.length, c.buffer.marker.length⟩ :: c.quotes }

theorem splitRun_eq (c : Canvas) :
    c.splitRun = { c with
      segments := addRun c.segments (c.runs.region c.runs.active c.length)
      runs := ⟨c.length, c.runs.counts⟩ } := by
  simp [splitRun, Runs.split, pushRun_eq]

@[simp] theorem splitRun_buffer (c : Canvas) : c.splitRun.buffer = c.buffer := by
  rw [splitRun_eq]

theorem flush_of_due {c : Canvas} (h : c.buffer.markerDue = true) :
    c.flush = { c with
      buffer := c.buffer.append c.buffer.marker
      segments := addRun c.segments (c.runs.region c.runs.active c.length)
      runs := ⟨(c.buffer.append c.buffer.marker).length, c.runs.counts⟩ } := by
  simp [flush, h, splitRun_eq, resetRun, Runs.reset, Buffer.flush, length]

theorem flush_of_not_due {c : Canvas} (h : c.buffer.markerDue = false) : c.flush = c := by
  simp [flush, h]

theorem flush_cases (c : Canvas) :
    c.buffer.markerDue = false ∧ c.flush = c ∨ c.buffer.markerDue = true ∧
      c.flush = { c with
        buffer := c.buffer.append c.buffer.marker
        segments := addRun c.segments (c.runs.region c.runs.active c.length)
        runs := ⟨(c.buffer.append c.buffer.marker).length, c.runs.counts⟩ } := by
  cases h : c.buffer.markerDue
  · exact .inl ⟨rfl, flush_of_not_due h⟩
  · exact .inr ⟨rfl, flush_of_due h⟩

/-- Other counts end the open run if they make other attributes active. -/
theorem change_cases (c : Canvas) (counts : List Nat) :
    (⟨c.runs.start, counts⟩ : Runs).active = c.runs.active ∧
        c.change counts = { c with runs := ⟨c.runs.start, counts⟩ } ∨
      (⟨c.runs.start, counts⟩ : Runs).active ≠ c.runs.active ∧ c.change counts = { c with
        segments := addRun c.segments (c.runs.region c.runs.active c.length)
        runs := ⟨c.length, counts⟩ } := by
  by_cases h : (⟨c.runs.start, counts⟩ : Runs).active = c.runs.active
  · exact .inl ⟨h, by simp [change, pushRun_eq, Runs.change, h, addRun]⟩
  · exact .inr ⟨h, by simp [change, pushRun_eq, Runs.change, h]⟩

@[simp] theorem flush_buffer (c : Canvas) : c.flush.buffer = c.buffer.flush := by
  unfold Buffer.flush
  rcases flush_cases c with ⟨hd, h⟩ | ⟨hd, h⟩ <;> rw [h] <;> simp [hd]

@[simp] theorem flush_counts (c : Canvas) : c.flush.runs.counts = c.runs.counts := by
  rcases flush_cases c with ⟨-, h⟩ | ⟨-, h⟩ <;> rw [h]

@[simp] theorem flush_quotes (c : Canvas) : c.flush.quotes = c.quotes := by
  rcases flush_cases c with ⟨-, h⟩ | ⟨-, h⟩ <;> rw [h]

@[simp] theorem flush_links (c : Canvas) : c.flush.links = c.links := by
  rcases flush_cases c with ⟨-, h⟩ | ⟨-, h⟩ <;> rw [h]

@[simp] theorem flush_lists (c : Canvas) : c.flush.lists = c.lists := by
  rcases flush_cases c with ⟨-, h⟩ | ⟨-, h⟩ <;> rw [h]

@[simp] theorem flush_depth (c : Canvas) : c.flush.depth = c.depth := by
  rcases flush_cases c with ⟨-, h⟩ | ⟨-, h⟩ <;> rw [h]

@[simp] theorem flush_emojiSize (c : Canvas) : c.flush.emojiSize = c.emojiSize := by
  rcases flush_cases c with ⟨-, h⟩ | ⟨-, h⟩ <;> rw [h]

theorem anchor_eq (c : Canvas) (kind : SegmentKind) :
    c.anchor kind = c.flush.push ⟨c.flush.length, c.flush.length, kind⟩ := rfl

/-- A nested rendering that has been drawn, in the canvas around it. -/
theorem adopt_eq (c inner : Canvas) :
    (c.splitRun.adopt inner).resetRun = { c with
      buffer := inner.buffer
      requested := inner.requested
      segments := addRun c.segments (c.runs.region c.runs.active c.length) ++ inner.segments
      runs := ⟨inner.length, c.runs.counts⟩ } := by
  simp [splitRun_eq, adopt, resetRun, Runs.reset, length]

end Canvas

/-- `d` comes of `c` by moves that write the strokes. -/
inductive Drawn (scene : Scene) : Canvas → List Stroke → Canvas → Prop
  | refl (c : Canvas) : Drawn scene c [] c
  | marker {c d : Canvas} {ss : List Stroke} :
    Drawn scene c ss d → d.buffer.markerDue = true →
      Drawn scene c (ss ++ [⟨d.buffer.marker, none⟩]) d.flush
  | text {c d : Canvas} {ss : List Stroke} (cs : List Char) :
    Drawn scene c ss d → Drawn scene c (ss ++ [d.stroke cs]) { d with buffer := d.buffer.append cs }
  | change {c d : Canvas} {ss : List Stroke} (counts : List Nat) :
    Drawn scene c ss d → Drawn scene c ss (d.change counts)
  | openLink {c d : Canvas} {ss : List Stroke} :
    Drawn scene c ss d → Drawn scene c ss { d with links := d.length :: d.links }
  | closeLink {c d : Canvas} {ss : List Stroke} (url : String) :
    Drawn scene c ss d → Drawn scene c ss (d.closeLink url)
  | pushQuote {c d : Canvas} {ss : List Stroke} :
    Drawn scene c ss d → Drawn scene c ss (d.pushQuote scene.config)
  | closeQuote {c d : Canvas} {ss : List Stroke} :
    Drawn scene c ss d → Drawn scene c ss d.closeQuote
  | note {c d : Canvas} {ss : List Stroke} (requested : List FetchRequest)
    (lists : List (Option UInt64)) (emojiSize : UInt32) :
    Drawn scene c ss d → Drawn scene c ss { d with requested, lists, emojiSize }
  | anchor {c d : Canvas} {ss : List Stroke} (kind : SegmentKind) :
    Drawn scene c ss d → kind.isAnchor = true → Drawn scene c (ss ++ d.dueStrokes) (d.anchor kind)
  | mark {c d : Canvas} {ss : List Stroke} {start stop : Nat} {kind : SegmentKind} :
    Drawn scene c ss d → d.admits start stop kind = true →
      Drawn scene c ss (d.emit (start, stop) kind)
  | nested {c d inner : Canvas} {ss ts : List Stroke} :
    Drawn scene c ss d → Drawn scene (d.splitRun.child scene.config) ts inner →
      Drawn scene c (ss ++ ts) (d.splitRun.adopt inner.finish).resetRun

@[simp] theorem Canvas.change_buffer (c : Canvas) (counts : List Nat) :
    (c.change counts).buffer = c.buffer := by
  simp [change, pushRun_eq]

@[simp] theorem Canvas.closeLink_buffer (c : Canvas) (url : String) :
    (c.closeLink url).buffer = c.buffer := by
  rcases c.closeLink_cases url with ⟨-, heq⟩ | ⟨start, links, -, heq | ⟨-, heq⟩⟩ <;>
    simp [heq, push]

@[simp] theorem Canvas.closeQuote_text (c : Canvas) :
    c.closeQuote.buffer.text = c.buffer.text := by
  rcases c.closeQuote_cases with ⟨-, heq⟩ | ⟨quote, quotes, -, heq | ⟨-, heq⟩⟩ <;> rw [heq] <;> rfl

@[simp] theorem Canvas.closeQuotes_text (n : Nat) (c : Canvas) :
    (closeQuotes n c).buffer.text = c.buffer.text := by
  induction n generalizing c with
  | zero => rfl
  | succ n ih => rw [closeQuotes, ih, closeQuote_text]

@[simp] theorem Canvas.finish_text (c : Canvas) : c.finish.buffer.text = c.buffer.text := by
  simp [finish_eq, leave_eq]

namespace Drawn

variable {scene : Scene} {c d e : Canvas} {ss ts : List Stroke}

theorem text_eq (h : Drawn scene c ss d) :
    d.buffer.text = c.buffer.text ++ ss.flatMap Stroke.text := by
  induction h with
  | refl => simp
  | marker _ due ih => simp [ih, Buffer.flush, due]
  | text cs _ ih => simp [ih, Canvas.stroke]
  | change _ _ ih => simpa using ih
  | openLink _ ih => exact ih
  | closeLink _ _ ih => simpa using ih
  | pushQuote _ ih => exact ih
  | closeQuote _ ih => simpa using ih
  | note _ _ _ _ ih => exact ih
  | @anchor c d ss kind _ _ ih =>
    rw [Canvas.anchor_eq, Canvas.push, Canvas.flush_buffer, Buffer.flush, Canvas.dueStrokes]
    split <;> simp [ih]
  | mark _ _ ih => exact ih
  | nested _ _ ih ihInner =>
    rw [Canvas.adopt_eq]
    dsimp only
    rw [Canvas.finish_text, ihInner]
    simp [Canvas.child, Canvas.splitRun_eq, ih]

theorem prefix_text (h : Drawn scene c ss d) : c.buffer.text <+: d.buffer.text :=
  ⟨_, h.text_eq.symm⟩

theorem trans (hcd : Drawn scene c ss d) (hde : Drawn scene d ts e) :
    Drawn scene c (ss ++ ts) e := by
  induction hde with
  | refl => simpa using hcd
  | marker _ due ih => simpa using (ih hcd).marker due
  | text cs _ ih => simpa using (ih hcd).text cs
  | change counts _ ih => exact (ih hcd).change counts
  | openLink _ ih => exact (ih hcd).openLink
  | closeLink url _ ih => exact (ih hcd).closeLink url
  | pushQuote _ ih => exact (ih hcd).pushQuote
  | closeQuote _ ih => exact (ih hcd).closeQuote
  | note requested lists emojiSize _ ih => exact (ih hcd).note requested lists emojiSize
  | anchor kind _ point ih => simpa using (ih hcd).anchor kind point
  | mark _ admits ih => exact (ih hcd).mark admits
  | nested _ inner ih _ => simpa using (ih hcd).nested inner

theorem flush (h : Drawn scene c ss d) : Drawn scene c (ss ++ d.dueStrokes) d.flush := by
  unfold Canvas.dueStrokes
  split
  · rename_i due
    exact h.marker due
  · rename_i due
    rw [Canvas.flush_of_not_due (Bool.eq_false_iff.2 due), List.append_nil]
    exact h

theorem grow (h : Drawn scene c ss d) {buffer : Buffer}
    (hb : ∃ cs, buffer = d.buffer.append cs) :
    Drawn scene c (ss ++ d.addedStrokes { d with buffer }) { d with buffer } := by
  obtain ⟨cs, rfl⟩ := hb
  have := h.text cs
  simpa [Canvas.addedStrokes] using this

end Drawn

end RichChat

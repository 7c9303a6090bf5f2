import Mathlib.Data.List.DropRight
import RichChat.Proofs.Places

/-!
# What a quote spans

`Closing` is a quote from right after it is opened to right before it is closed. `Closing.Sound`
says what closing it makes: a block from its start to a point with nothing but blanks behind it,
which has ink in front of it or an anchor of the quote at it, and no anchor of the quote lies past
it. Without such a block the quote has no anchor.

An anchor of a quote lies past the start of the quote, not at it: a quote opens at the start of a
line, so its marker comes first (`Opened.lt_flush`). That is why a quote with an anchor is never
empty (`Opened.sound`).
-/

namespace RichChat

namespace Text

/-- A text without the blanks at its end. -/
def ink (cs : List Char) : List Char := cs.rdropWhile isAsciiBlank

theorem prefix_ink (cs : List Char) : ink cs <+: cs := List.rdropWhile_prefix _ _

theorem size_ink_mono {as bs : List Char} (h : as <+: bs) :
    size (ink as) ≤ size (ink bs) := by
  obtain ⟨cs, rfl⟩ := h
  refine size_mono ?_
  unfold ink List.rdropWhile
  rw [List.reverse_append, List.dropWhile_append]
  split
  · exact List.prefix_rfl
  · rw [List.reverse_append, List.reverse_reverse]
    exact (List.rdropWhile_prefix _ _).trans (List.prefix_append _ _)

theorem blank_of_size_ink_le {cs front rest : List Char} (h : cs = front ++ rest)
    (hle : size (ink cs) ≤ size front) : ∀ x ∈ rest, isAsciiBlank x = true := by
  obtain ⟨t, ht⟩ := prefix_of_size_le (prefix_ink cs) ⟨rest, h.symm⟩ hle
  have hall : ink cs ++ cs.rtakeWhile isAsciiBlank = ink cs ++ (t ++ rest) := by
    rw [← List.append_assoc, ht, ← h]
    exact List.rdropWhile_append_rtakeWhile
  intro x hx
  refine List.mem_rtakeWhile_imp (l := cs) ?_
  rw [List.append_cancel_left hall]
  exact List.mem_append_right _ hx

theorem getLast?_ink {cs : List Char} (h : 0 < size (ink cs)) :
    ∃ x, (ink cs).getLast? = some x ∧ isAsciiBlank x = false := by
  have hne : ink cs ≠ [] := by
    intro hnil
    rw [hnil] at h
    exact Nat.lt_irrefl 0 h
  exact ⟨_, List.getLast?_eq_some_getLast hne,
    Bool.eq_false_iff.2 (List.rdropWhile_last_not isAsciiBlank cs hne)⟩

end Text

namespace Canvas

def anchors (c : Canvas) : List Segment := c.places.filter (·.kind.isAnchor)

theorem mem_anchors {c : Canvas} {a : Segment} :
    a ∈ c.anchors ↔ a ∈ c.segments ∧ a.kind.isAnchor = true := by
  simp only [anchors, places, placesOf, List.mem_filter, SegmentKind.isPlace_iff]
  tauto

variable {c : Canvas} {start : Nat}

theorem quoteTextEnd_eq (c : Canvas) (start : Nat) :
    c.quoteTextEnd start = max start (Text.size (Text.ink c.buffer.text)) := by
  rw [Text.ink, List.rdropWhile, Text.size_reverse]
  rfl

theorem anchor_le_quoteStop {a : Segment} (ha : a ∈ c.anchors) (h : start ≤ a.start) :
    a.start ≤ c.quoteStop start := by
  obtain ⟨hmem, hkind⟩ := mem_anchors.1 ha
  have hin : a.start ∈ (c.segments.filter fun s => s.kind.isAnchor && start ≤ s.start).map
      (·.start) := List.mem_map_of_mem (List.mem_filter.2 ⟨hmem, by simp [hkind, h]⟩)
  unfold quoteStop
  cases hl : c.lastAnchor? start with
  | none =>
    rw [lastAnchor?, List.max?_eq_none_iff] at hl
    rw [hl] at hin
    exact absurd hin List.not_mem_nil
  | some n =>
    have := (List.max?_eq_some_iff.1 hl).2 a.start hin
    simp only [Option.getD_some]
    omega

theorem ink_le_quoteStop (c : Canvas) (start : Nat) :
    Text.size (Text.ink c.buffer.text) ≤ c.quoteStop start := by
  rw [quoteStop, quoteTextEnd_eq]
  omega

/-- A quote that is not empty ends with its ink or with an anchor. -/
theorem quoteStop_cases (h : start < c.quoteStop start) :
    c.quoteStop start = Text.size (Text.ink c.buffer.text) ∨
      ∃ a ∈ c.anchors, a.start = c.quoteStop start := by
  have hstop : c.quoteStop start = max (max start (Text.size (Text.ink c.buffer.text)))
      ((c.lastAnchor? start).getD 0) := by rw [quoteStop, quoteTextEnd_eq]
  cases hl : c.lastAnchor? start with
  | none =>
    rw [hl, Option.getD_none] at hstop
    omega
  | some n =>
    rw [hl, Option.getD_some] at hstop
    rcases Nat.le_total n (Text.size (Text.ink c.buffer.text)) with hn | hn
    · omega
    · obtain ⟨a, ha, rfl⟩ := List.mem_map.1 (List.max?_mem hl)
      simp only [List.mem_filter, Bool.and_eq_true, decide_eq_true_eq] at ha
      exact .inr ⟨a, mem_anchors.2 ⟨ha.1, ha.2.1⟩, by omega⟩

/-- Behind the end of a quote there are blanks only. In front of it there is something else, or an
anchor is there. -/
theorem split_quoteStop (hb : c.InBounds) (h : start < c.quoteStop start) :
    ∃ front rest, c.buffer.text = front ++ rest ∧ Text.size front = c.quoteStop start ∧
      (∀ x ∈ rest, Text.isAsciiBlank x = true) ∧
      ((∃ x, front.getLast? = some x ∧ Text.isAsciiBlank x = false) ∨
        ∃ a ∈ c.anchors, a.start = c.quoteStop start) := by
  have hink := Text.prefix_ink c.buffer.text
  rcases quoteStop_cases h with heq | ⟨a, ha, heq⟩
  · obtain ⟨rest, hsplit⟩ := hink
    exact ⟨_, rest, hsplit.symm, heq.symm, Text.blank_of_size_ink_le hsplit.symm (Nat.le_refl _),
      .inl (Text.getLast?_ink (by omega))⟩
  · obtain ⟨front, ⟨rest, hsplit⟩, hsize⟩ := (hb.segments a (mem_anchors.1 ha).1).start
    have hle := c.ink_le_quoteStop start
    rw [← heq, ← hsize] at hle
    exact ⟨front, rest, hsplit.symm, hsize.trans heq, Text.blank_of_size_ink_le hsplit.symm hle,
      .inr ⟨a, ha, heq⟩⟩

end Canvas

/-- A quote from right after it is opened to right before it is closed. -/
structure Closing where
  opened : Canvas
  closed : Canvas

namespace Closing

variable (k : Closing)

/-- The anchors of the quote: those that are placed while it is open. -/
def anchors : List Segment := k.closed.anchors.drop k.opened.anchors.length

/-- What closing the quote makes. -/
def made : List Segment := k.closed.closeQuote.segments.drop k.closed.segments.length

/-- Behind the offset there are blanks only. In front of it there is something else, or an anchor
of the quote is there. -/
def EndsAt (stop : Nat) : Prop :=
  ∃ front rest, k.closed.buffer.text = front ++ rest ∧ Text.size front = stop ∧
    (∀ x ∈ rest, Text.isAsciiBlank x = true) ∧
    ((∃ x, front.getLast? = some x ∧ Text.isAsciiBlank x = false) ∨
      ∃ a ∈ k.anchors, a.start = stop)

/-- Closing the quote makes a block around all of its anchors, or it has none. -/
structure Sound : Prop where
  anchors_eq : k.closed.anchors = k.opened.anchors ++ k.anchors
  segments_eq : k.closed.closeQuote.segments = k.closed.segments ++ k.made
  made : k.made = [] ∧ k.anchors = [] ∨
    ∃ stop, k.made = [⟨k.opened.length, stop, .quoteBlock⟩] ∧ k.opened.length < stop ∧
      k.EndsAt stop ∧ ∀ a ∈ k.anchors, k.opened.length ≤ a.start ∧ a.start ≤ stop

end Closing

/-- The quote has been open on the canvas since it was opened on `o`. -/
structure Opened (c o : Canvas) (quote : Quote) : Prop where
  start : quote.start = o.length
  text : o.buffer.text <+: c.buffer.text
  atLineStart : o.buffer.atLineStart = true
  before : ∀ a ∈ o.anchors, a.start ≤ o.length
  after : ∃ new, c.anchors = o.anchors ++ new ∧ ∀ a ∈ new, o.length < a.start

namespace Opened

variable {c d o : Canvas} {quote : Quote}

/-- The quote stays open while anchors are placed past its start. -/
theorem grow (h : Opened c o quote) (hp : c.buffer.text <+: d.buffer.text) (new : List Segment)
    (ha : d.anchors = c.anchors ++ new) (hnew : ∀ a ∈ new, o.length < a.start) :
    Opened d o quote := by
  obtain ⟨old, hold, hafter⟩ := h.after
  refine ⟨h.start, h.text.trans hp, h.atLineStart, h.before, old ++ new, ?_, fun a ha => ?_⟩
  · rw [ha, hold, List.append_assoc]
  · rcases List.mem_append.1 ha with ha | ha
    · exact hafter a ha
    · exact hnew a ha

theorem still (h : Opened c o quote) (hs : c.Still d) : Opened d o quote := by
  refine h.grow hs.text [] ?_ (by simp)
  rw [Canvas.anchors, hs.places, List.append_nil]
  rfl

/-- The next text after a marker that is due is past the start of the quote. -/
theorem lt_flush (h : Opened c o quote) (hm : c.buffer.marker ≠ []) :
    o.length < c.flush.length := by
  obtain ⟨t, ht⟩ := h.text
  have hlen : c.length = o.length + Text.size t := by
    rw [Canvas.length, Buffer.length, ← ht, Text.size_append]
    rfl
  have hflush : c.flush.length = c.length + Text.size c.buffer.due := by
    rw [Canvas.length, Canvas.flush_buffer, Buffer.flush_eq_append, Buffer.append_length]
    rfl
  cases t with
  | nil =>
    -- nothing has been written since the quote was opened, so its marker is due
    rw [List.append_nil] at ht
    have hline : c.buffer.atLineStart = true := by
      have := h.atLineStart
      unfold Buffer.atLineStart at this ⊢
      rwa [ht] at this
    have hdue : c.buffer.due = c.buffer.marker := by
      rw [Buffer.due, if_pos]
      simp [Buffer.markerDue, hline, hm]
    have : 0 < Text.size c.buffer.marker := by
      rw [Nat.pos_iff_ne_zero]
      exact fun h0 => hm (Text.size_eq_zero.1 h0)
    rw [hflush, hdue]
    omega
  | cons x xs =>
    have := x.utf8Size_pos
    rw [Text.size] at hlen
    omega

theorem sound {quotes : List Quote} (h : Opened c o quote) (hq : c.quotes = quote :: quotes)
    (hb : c.InBounds) : (Closing.mk o c).Sound := by
  obtain ⟨new, hnew, hafter⟩ := h.after
  have hanchors : (Closing.mk o c).anchors = new := by
    rw [Closing.anchors, hnew, List.drop_left]
  have hseg := congrArg Canvas.segments (Canvas.closeQuote_eq hq)
  have hmade : (Closing.mk o c).made = if quote.start < c.quoteStop quote.start then
      [⟨quote.start, c.quoteStop quote.start, .quoteBlock⟩] else [] := by
    rw [Closing.made, hseg, List.drop_left]
  have hreach : ∀ a ∈ new, a.start ≤ c.quoteStop quote.start := by
    intro a ha
    refine Canvas.anchor_le_quoteStop (by rw [hnew]; exact List.mem_append_right _ ha) ?_
    have := hafter a ha
    rw [h.start]
    omega
  refine ⟨by rw [hanchors, hnew], by rw [hmade, hseg], ?_⟩
  rw [hmade, hanchors, ← h.start]
  by_cases hlt : quote.start < c.quoteStop quote.start
  · rw [if_pos hlt]
    refine .inr ⟨_, rfl, hlt, ?_, fun a ha => ⟨?_, hreach a ha⟩⟩
    · obtain ⟨front, rest, hsplit, hsize, hblank, hend⟩ := Canvas.split_quoteStop hb hlt
      refine ⟨front, rest, hsplit, hsize, hblank, ?_⟩
      rw [hanchors]
      rcases hend with hink | ⟨a, ha, heq⟩
      · exact .inl hink
      · refine .inr ⟨a, ?_, heq⟩
        -- the anchors from before the quote are not past its start
        rw [hnew] at ha
        rcases List.mem_append.1 ha with ha | ha
        · have := h.before a ha
          have := h.start
          omega
        · exact ha
    · have := hafter a ha
      have := h.start
      omega
  · rw [if_neg hlt]
    refine .inl ⟨rfl, ?_⟩
    refine List.eq_nil_iff_forall_not_mem.2 fun a ha => hlt ?_
    have := hafter a ha
    have := hreach a ha
    have := h.start
    omega

end Opened

end RichChat

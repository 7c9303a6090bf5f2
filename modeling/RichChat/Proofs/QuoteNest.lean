import RichChat.Proofs.QuoteSpan

/-!
# How quotes lie to each other

The blocks of two quotes are disjoint, or one contains the other. `Laminar` is the invariant: open
quotes start in the order in which they were opened, each block lies before the start of an open
quote or after it, and no block reaches further than the ink of the text or the last anchor. So the
block of a quote reaches at least as far as those that were opened after it
(`Laminar.closeQuote`).

A nested canvas starts at the end of the text, which the blocks around it do not pass. What it makes
lies behind all of them (`Laminar.nested`).
-/

namespace RichChat

/-- One block is behind the other, or around it. -/
def Segment.Nests (s t : Segment) : Prop :=
  s.stop ≤ t.start ∨ t.start ≤ s.start ∧ s.stop ≤ t.stop

/-- What holds of the open quotes and the blocks of a canvas that has drawn from the offset `n`. -/
structure Laminar (n : Nat) (c : Canvas) : Prop where
  base_le : n ≤ c.length
  places_after : ∀ s ∈ c.places, n ≤ s.start
  quotes_after : ∀ q ∈ c.quotes, n ≤ q.start
  ordered : c.quotes.Pairwise fun inner outer => outer.start ≤ inner.start
  apart : ∀ s ∈ c.places, s.kind = .quoteBlock → ∀ q ∈ c.quotes, s.stop ≤ q.start ∨ q.start ≤ s.start
  held : ∀ s ∈ c.places, s.kind = .quoteBlock →
    s.stop ≤ Text.size (Text.ink c.buffer.text) ∨ ∃ a ∈ c.anchors, s.stop ≤ a.start
  nests : c.places.Pairwise fun s t => s.kind = .quoteBlock → t.kind = .quoteBlock → s.Nests t

namespace Laminar

variable {n : Nat} {c d : Canvas}

theorem of_empty (hp : c.places = []) (hq : c.quotes = []) : Laminar c.length c := by
  refine ⟨Nat.le_refl _, ?_, ?_, ?_, ?_, ?_, ?_⟩ <;> simp [hp, hq]

theorem still (h : Laminar n c) (hs : c.Still d) : Laminar n d := by
  obtain ⟨base_le, places_after, quotes_after, ordered, apart, held, nests⟩ := h
  have hanchors : d.anchors = c.anchors := by rw [Canvas.anchors, hs.places]; rfl
  rw [← hs.places] at places_after apart held nests
  rw [← hs.quotes] at quotes_after ordered apart
  rw [← hanchors] at held
  refine ⟨Nat.le_trans base_le (Text.size_mono hs.text), places_after, quotes_after, ordered,
    apart, fun s hp hk => (held s hp hk).imp_left fun hle => ?_, nests⟩
  exact Nat.le_trans hle (Text.size_ink_mono hs.text)

/-- An anchor may be placed anywhere behind `n`. A block may be put where it does not stand across
the start of an open quote, nor across another block. -/
theorem push (h : Laminar n c) {t : Segment} (ht : t.kind.isPlace = true) (hafter : n ≤ t.start)
    (hapart : t.kind = .quoteBlock → ∀ q ∈ c.quotes, t.stop ≤ q.start ∨ q.start ≤ t.start)
    (hheld : t.kind = .quoteBlock →
      t.stop ≤ Text.size (Text.ink c.buffer.text) ∨ ∃ a ∈ c.anchors, t.stop ≤ a.start)
    (hnests : t.kind = .quoteBlock → ∀ s ∈ c.places, s.kind = .quoteBlock → s.Nests t) :
    Laminar n (c.push t) := by
  obtain ⟨base_le, places_after, quotes_after, ordered, apart, held, nests⟩ := h
  have hplaces : (c.push t).places = c.places ++ [t] := by
    rw [Canvas.places, Canvas.push, placesOf_append, placesOf_single ht]
    rfl
  have hanchors : ∀ a ∈ c.anchors, a ∈ (c.push t).anchors := by
    intro a ha
    rw [Canvas.anchors, hplaces, List.filter_append]
    exact List.mem_append_left _ ha
  have hmem : ∀ s ∈ (c.push t).places, s ∈ c.places ∨ s = t := by
    intro s hs
    rw [hplaces] at hs
    exact (List.mem_append.1 hs).imp_right List.mem_singleton.1
  refine ⟨base_le, fun s hs => ?_, quotes_after, ordered, fun s hs hk => ?_, fun s hs hk => ?_, ?_⟩
  · rcases hmem s hs with hs | rfl
    · exact places_after s hs
    · exact hafter
  · rcases hmem s hs with hs | rfl
    · exact apart s hs hk
    · exact hapart hk
  · have hle : s.stop ≤ Text.size (Text.ink c.buffer.text) ∨ ∃ a ∈ c.anchors, s.stop ≤ a.start := by
      rcases hmem s hs with hs | rfl
      · exact held s hs hk
      · exact hheld hk
    rcases hle with hle | ⟨a, ha, hle⟩
    · exact .inl hle
    · exact .inr ⟨a, hanchors a ha, hle⟩
  · rw [hplaces]
    refine List.pairwise_append.2 ⟨nests, List.pairwise_singleton _ _, fun s hs u hu hk hku => ?_⟩
    rw [List.mem_singleton.1 hu] at hku ⊢
    exact hnests hku s hs hk

theorem anchor (h : Laminar n c) {kind : SegmentKind} (point : kind.isAnchor = true) :
    Laminar n (c.push ⟨c.length, c.length, kind⟩) := by
  have hne : kind ≠ .quoteBlock := by
    rintro rfl
    simp [SegmentKind.isAnchor] at point
  exact h.push ((SegmentKind.isPlace_iff kind).2 (.inr point)) h.base_le (fun hk => absurd hk hne)
    (fun hk => absurd hk hne) (fun hk => absurd hk hne)

theorem pushQuote (h : Laminar n c) (hb : c.InBounds) (config : Config) :
    Laminar n (c.pushQuote config) := by
  obtain ⟨base_le, places_after, quotes_after, ordered, apart, held, nests⟩ := h
  refine ⟨base_le, places_after, fun q hq => ?_, ?_, fun s hs hk q hq => ?_, held, nests⟩
  · rcases List.mem_cons.1 hq with rfl | hq
    · exact base_le
    · exact quotes_after q hq
  · exact .cons (fun q hq => (hb.quotes q hq).le) ordered
  · rcases List.mem_cons.1 hq with rfl | hq
    · exact .inl (hb.segments s (List.mem_filter.1 hs).1).stop.le
    · exact apart s hs hk q hq

/-- The block of a quote reaches at least as far as the blocks that lie behind its start. -/
theorem stop_le_quoteStop (h : Laminar n c) (hb : c.InBounds) {start : Nat} {s : Segment}
    (hs : s ∈ c.places) (hk : s.kind = .quoteBlock) (hle : start ≤ s.start) :
    s.stop ≤ c.quoteStop start := by
  have hord := (hb.segments s (List.mem_filter.1 hs).1).le
  rcases h.held s hs hk with hink | ⟨a, ha, hstop⟩
  · exact Nat.le_trans hink (c.ink_le_quoteStop start)
  · exact Nat.le_trans hstop (Canvas.anchor_le_quoteStop ha (by omega))

/-- The block of a quote is around those that were opened after it, and behind all others. -/
theorem closeQuote (h : Laminar n c) (hb : c.InBounds) : Laminar n c.closeQuote := by
  cases hq : c.quotes with
  | nil =>
    rw [show c.closeQuote = c by rw [Canvas.closeQuote, hq]]
    exact h
  | cons quote quotes =>
    have hreach : ∀ s ∈ c.places, s.kind = .quoteBlock → quote.start ≤ s.start →
        s.stop ≤ c.quoteStop quote.start := fun s hs hk hle => h.stop_le_quoteStop hb hs hk hle
    obtain ⟨base_le, places_after, quotes_after, ordered, apart, held, nests⟩ := h
    rw [hq] at quotes_after ordered apart
    have hpop : Laminar n
        { c with buffer := c.buffer.popMarker quote.outerMarker, quotes } :=
      ⟨base_le, places_after, fun q hqs => quotes_after q (List.mem_cons_of_mem _ hqs),
        (List.pairwise_cons.1 ordered).2,
        fun s hs hk q hqs => apart s hs hk q (List.mem_cons_of_mem _ hqs), held, nests⟩
    rw [Canvas.closeQuote_eq hq]
    by_cases hlt : quote.start < c.quoteStop quote.start
    · rw [if_pos hlt]
      refine hpop.push rfl (quotes_after quote List.mem_cons_self)
        (fun _ q hqs => .inr ((List.pairwise_cons.1 ordered).1 q hqs)) (fun _ => ?_)
        (fun _ s hs hk => ?_)
      · rcases Canvas.quoteStop_cases hlt with heq | ⟨a, ha, heq⟩
        · exact .inl (Nat.le_of_eq heq)
        · exact .inr ⟨a, ha, Nat.le_of_eq heq.symm⟩
      · rcases apart s hs hk quote List.mem_cons_self with hle | hle
        · exact .inl hle
        · exact .inr ⟨hle, hreach s hs hk hle⟩
    · rw [if_neg hlt, List.append_nil]
      exact hpop

/-- What a nested canvas makes is behind all that was there before. -/
theorem nested {inner : Canvas} (h : Laminar n c) (hb : c.InBounds) (hi : Laminar c.length inner)
    (hp : c.buffer.text <+: inner.buffer.text) :
    Laminar n (c.splitRun.adopt inner).resetRun := by
  obtain ⟨base_le, places_after, quotes_after, ordered, apart, held, nests⟩ := h
  have hplaces := c.places_adopt inner
  have hquotes : (c.splitRun.adopt inner).resetRun.quotes = c.quotes := by rw [Canvas.adopt_eq]
  have hends : ∀ s ∈ c.places, s.stop ≤ c.length := fun s hs =>
    (hb.segments s (List.mem_filter.1 hs).1).stop.le
  rw [← hquotes] at quotes_after ordered apart
  refine ⟨Nat.le_trans base_le (Text.size_mono hp), ?_, quotes_after, ordered, ?_, ?_, ?_⟩
  · rw [hplaces]
    intro s hs
    rcases List.mem_append.1 hs with hs | hs
    · exact places_after s hs
    · exact Nat.le_trans base_le (hi.places_after s hs)
  · rw [hplaces]
    intro s hs hk q hq
    rcases List.mem_append.1 hs with hs | hs
    · exact apart s hs hk q hq
    · rw [hquotes] at hq
      exact .inr (Nat.le_trans (hb.quotes q hq).le (hi.places_after s hs))
  · rw [Canvas.anchors, hplaces, List.filter_append]
    intro s hs hk
    rcases List.mem_append.1 hs with hs | hs
    · rcases held s hs hk with hle | ⟨a, ha, hle⟩
      · exact .inl (Nat.le_trans hle (Text.size_ink_mono hp))
      · exact .inr ⟨a, List.mem_append_left _ ha, hle⟩
    · rcases hi.held s hs hk with hle | ⟨a, ha, hle⟩
      · exact .inl hle
      · exact .inr ⟨a, List.mem_append_right _ ha, hle⟩
  · rw [hplaces]
    refine List.pairwise_append.2 ⟨nests, hi.nests, fun s hs t ht _ _ => .inl ?_⟩
    exact Nat.le_trans (hends s hs) (hi.places_after t ht)

theorem pairwise_nests (h : Laminar n c) : c.segments.Pairwise fun s t =>
    s.kind = .quoteBlock → t.kind = .quoteBlock → s.Nests t := by
  refine (List.pairwise_filter.1 h.nests).imp fun {s t} hst hs ht => ?_
  exact hst (by simp [hs, SegmentKind.isPlace]) (by simp [ht, SegmentKind.isPlace]) hs ht

end Laminar

end RichChat

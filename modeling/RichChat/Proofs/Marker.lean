import RichChat.Proofs.Drawing

/-!
# The marker and the open quotes

`Stacked` ties the marker to the quotes that are open: each of them has made it longer by one marker
and knows how long it was before. All drawing keeps that (`Drawn.stacked`), so the end of a
rendering leaves the marker as it was at the start (`finish_marker`), and a nested one gives it back.
-/

namespace RichChat

/-- The marker is what it was before the open quotes, `base`, and one `unit` for each of them. -/
def Stacked (unit base : List Char) : List Quote → List Char → Prop
  | [], marker => marker = base
  | quote :: quotes, marker => ∃ outer, Stacked unit base quotes outer ∧ marker = outer ++ unit ∧
      quote.outerMarker = outer.length

namespace Stacked

variable {unit base marker : List Char} {quotes : List Quote}

theorem push (h : Stacked unit base quotes marker) (start : Nat) :
    Stacked unit base (⟨start, marker.length⟩ :: quotes) (marker ++ unit) := ⟨marker, h, rfl, rfl⟩

theorem pop {quote : Quote} (h : Stacked unit base (quote :: quotes) marker) :
    Stacked unit base quotes (marker.take quote.outerMarker) := by
  obtain ⟨outer, h, rfl, hlen⟩ := h
  rwa [hlen, List.take_left]

theorem eq_append (h : Stacked unit base quotes marker) :
    marker = base ++ (List.replicate quotes.length unit).flatten := by
  induction quotes generalizing marker with
  | nil =>
    rw [show marker = base from h]
    simp
  | cons quote quotes ih =>
    obtain ⟨outer, h, rfl, -⟩ := h
    rw [ih h, List.length_cons, List.replicate_succ', List.flatten_append, List.append_assoc]
    simp

theorem ne_nil (h : Stacked unit base quotes marker) (hunit : unit ≠ [])
    (hne : base ≠ [] ∨ quotes ≠ []) : marker ≠ [] := by
  cases quotes with
  | nil =>
    rw [show marker = base from h]
    simpa using hne
  | cons quote quotes =>
    obtain ⟨outer, -, rfl, -⟩ := h
    simp [hunit]

/-- If neither the marker nor what it was before ends a line, none of those between does. -/
theorem getLast?_ne (h : Stacked unit base quotes marker) (hunit : unit.getLast? ≠ some '\n')
    (hbase : base.getLast? ≠ some '\n') : marker.getLast? ≠ some '\n' := by
  induction quotes generalizing marker with
  | nil => rwa [show marker = base from h]
  | cons quote quotes ih =>
    obtain ⟨outer, h, rfl, -⟩ := h
    rw [List.getLast?_append]
    cases hu : unit.getLast? with
    | none => simpa using ih h
    | some x => simpa [hu] using hunit

end Stacked

namespace Canvas

/-- The quotes that are open stand behind the marker `base`. -/
def StackedOn (c : Canvas) (config : Config) (base : List Char) : Prop :=
  Stacked config.quoteMarker.toList base c.quotes c.buffer.marker

variable {config : Config} {base : List Char} {c : Canvas}

theorem StackedOn.closeQuote (h : c.StackedOn config base) :
    c.closeQuote.StackedOn config base := by
  rcases c.closeQuote_cases with ⟨-, heq⟩ | ⟨quote, quotes, hq, hclose⟩
  · rwa [heq]
  · unfold StackedOn at h ⊢
    rw [hq] at h
    rcases hclose with heq | ⟨-, heq⟩ <;> rw [heq] <;> exact h.pop

theorem stackedOn_child (c : Canvas) (config : Config) :
    (c.child config).StackedOn config c.buffer.marker := rfl

theorem quotes_closeQuote (c : Canvas) : c.closeQuote.quotes = c.quotes.tail := by
  rcases c.closeQuote_cases with ⟨hq, heq⟩ | ⟨quote, quotes, hq, heq | ⟨-, heq⟩⟩ <;>
    rw [heq, hq] <;> rfl

theorem quotes_closeQuotes (n : Nat) (c : Canvas) : (closeQuotes n c).quotes = c.quotes.drop n := by
  induction n generalizing c with
  | zero => rfl
  | succ n ih => rw [closeQuotes, ih, quotes_closeQuote, List.drop_tail]

theorem StackedOn.closeQuotes (h : c.StackedOn config base) (n : Nat) :
    (closeQuotes n c).StackedOn config base := by
  induction n generalizing c with
  | zero => exact h
  | succ n ih => exact ih h.closeQuote

theorem StackedOn.change (h : c.StackedOn config base) (counts : List Nat) :
    (c.change counts).StackedOn config base := by
  simpa [StackedOn, Canvas.change, pushRun_eq] using h

@[simp] theorem quotes_leave (c : Canvas) : c.leave.quotes = c.quotes := by
  simp [leave_eq, Canvas.change, pushRun_eq]

@[simp] theorem quotes_finish (c : Canvas) : c.finish.quotes = [] := by
  rw [finish_eq, quotes_closeQuotes, quotes_leave, List.drop_length]

theorem finish_marker (h : c.StackedOn config base) : c.finish.buffer.marker = base := by
  have hf : c.finish.StackedOn config base := by
    rw [finish_eq, leave_eq]
    exact (h.change _).closeQuotes _
  unfold StackedOn at hf
  rw [quotes_finish] at hf
  exact hf

end Canvas

theorem Drawn.stacked {scene : Scene} {c d : Canvas} {ss : List Stroke} (h : Drawn scene c ss d)
    {base : List Char} (hc : c.StackedOn scene.config base) : d.StackedOn scene.config base := by
  induction h generalizing base with
  | refl => exact hc
  | marker _ _ ih =>
    have := ih hc
    simpa [Canvas.StackedOn] using this
  | text _ _ ih => exact ih hc
  | change _ _ ih => exact (ih hc).change _
  | openLink _ ih => exact ih hc
  | closeLink url _ ih =>
    have := ih hc
    rcases Canvas.closeLink_cases _ url with ⟨-, heq⟩ | ⟨start, links, -, heq | ⟨-, heq⟩⟩ <;>
      rw [heq] <;> exact this
  | pushQuote _ ih => exact (ih hc).push _
  | closeQuote _ ih => exact (ih hc).closeQuote
  | note _ _ _ _ ih => exact ih hc
  | anchor _ _ _ ih =>
    have := ih hc
    simpa [Canvas.StackedOn, Canvas.anchor_eq, Canvas.push] using this
  | mark _ _ ih => exact ih hc
  | @nested c d inner ss ts _ _ ih ihInner =>
    have hd := ih hc
    -- the nested canvas has no quotes of its own, so its end gives the marker back
    have hi := Canvas.finish_marker (ihInner (d.splitRun.stackedOn_child scene.config))
    rw [Canvas.splitRun_buffer] at hi
    rw [Canvas.adopt_eq]
    unfold Canvas.StackedOn at hd ⊢
    rw [← hi] at hd
    exact hd

end RichChat

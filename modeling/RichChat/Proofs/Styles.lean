import RichChat.Proofs.Handler

/-!
# Styles

Every byte of a finished text is covered by one styled segment, which has the attributes that were
active on the canvas that wrote the byte, or by none, if there were no attributes or if the byte is
of a marker (`stylesAt_finish_run`).

The invariant is `Covered`: the segments together with the open run give each byte that style.
Writing makes the open run longer, and a run that ends becomes a segment, alone or as a part of the
last one (`stylesAt_addRun`). A nested canvas covers only what it wrote itself, so that its segments
add to those around it (`stylesOf_append`).
-/

namespace RichChat

def Segment.style? (s : Segment) : Option Attribute :=
  match s.kind with
  | .styled a => some a
  | _ => none

theorem Segment.style?_eq_some {s : Segment} {a : Attribute} :
    s.style? = some a ↔ s.kind = .styled a := by
  unfold style?
  cases s.kind <;> simp

theorem Segment.style?_eq_none {s : Segment} (h : ∀ a, s.kind ≠ .styled a) : s.style? = none :=
  Option.eq_none_iff_forall_ne_some.2 fun a ha => h a (style?_eq_some.1 ha)

/-- The attributes of the styled segments over a byte, one for each of them. -/
def stylesAt (segments : List Segment) (i : Nat) : List Attribute :=
  segments.filterMap fun s => if s.start ≤ i ∧ i < s.stop then s.style? else none

/-- The attributes that were active where a byte was written, if there were any. A marker and what
has not been written have none. -/
def styleAt : List Stroke → Nat → Option Attribute
  | [], _ => none
  | s :: ss, i =>
    if i < Text.size s.text then s.attributes.filter fun a => !a.isEmpty
    else styleAt ss (i - Text.size s.text)

def strokesSize (ss : List Stroke) : Nat := Text.size (ss.flatMap Stroke.text)

/-- The style of a byte if the strokes wrote the text after `base`. -/
def stylesOf (base : Nat) (ss : List Stroke) (i : Nat) : List Attribute :=
  if i < base then [] else (styleAt ss (i - base)).toList

theorem strokesSize_cons (s : Stroke) (ss : List Stroke) :
    strokesSize (s :: ss) = Text.size s.text + strokesSize ss := by
  simp [strokesSize]

theorem styleAt_append (ss ts : List Stroke) (i : Nat) :
    styleAt (ss ++ ts) i =
      if i < strokesSize ss then styleAt ss i else styleAt ts (i - strokesSize ss) := by
  induction ss generalizing i with
  | nil => simp [strokesSize, Text.size]
  | cons s ss ih =>
    rw [List.cons_append, styleAt, styleAt, strokesSize_cons, ih]
    by_cases h : i < Text.size s.text
    · rw [if_pos h, if_pos h, if_pos (by omega)]
    · rw [if_neg h, if_neg h, Nat.sub_sub]
      by_cases h' : i - Text.size s.text < strokesSize ss
      · rw [if_pos h', if_pos (by omega)]
      · rw [if_neg h', if_neg (by omega)]

theorem styleAt_of_size_le {ss : List Stroke} {i : Nat} (h : strokesSize ss ≤ i) :
    styleAt ss i = none := by
  have := styleAt_append ss [] i
  rw [List.append_nil, if_neg (by omega)] at this
  exact this

theorem stylesOf_nil (base i : Nat) : stylesOf base [] i = [] := by
  simp [stylesOf, styleAt]

/-- What was written later gives no style to what was there before, and the other way round. -/
theorem stylesOf_append (base : Nat) (ss ts : List Stroke) (i : Nat) :
    stylesOf base (ss ++ ts) i
      = stylesOf base ss i ++ stylesOf (base + strokesSize ss) ts i := by
  unfold stylesOf
  by_cases h : i < base
  · rw [if_pos h, if_pos h, if_pos (by omega), List.append_nil]
  · rw [if_neg h, if_neg h, styleAt_append]
    by_cases h' : i - base < strokesSize ss
    · rw [if_pos h', if_pos (by omega), List.append_nil]
    · have hend : styleAt ss (i - base) = none := styleAt_of_size_le (by omega)
      rw [if_neg h', if_neg (by omega), hend, Nat.sub_sub]
      rfl

theorem stylesOf_stroke (base : Nat) (cs : List Char) (a : Attribute) (i : Nat) :
    stylesOf base [⟨cs, some a⟩] i =
      if base ≤ i ∧ i < base + Text.size cs ∧ a.isEmpty = false then [a] else [] := by
  unfold stylesOf
  by_cases h : i < base
  · rw [if_pos h, if_neg (by omega)]
  · rw [if_neg h, styleAt]
    by_cases h' : i - base < Text.size cs
    · rw [if_pos h']
      cases ha : a.isEmpty
      · rw [if_pos ⟨by omega, by omega, rfl⟩]
        simp [ha]
      · rw [if_neg (by simp)]
        simp [ha]
    · rw [if_neg h', if_neg (by omega)]
      rfl

theorem stylesOf_marker (base : Nat) (cs : List Char) (i : Nat) :
    stylesOf base [⟨cs, none⟩] i = [] := by
  simp [stylesOf, styleAt]

theorem mem_stylesAt {segments : List Segment} {i : Nat} {a : Attribute} :
    a ∈ stylesAt segments i ↔
      ∃ s ∈ segments, s.style? = some a ∧ s.start ≤ i ∧ i < s.stop := by
  simp [stylesAt, and_comm]

theorem stylesAt_append (as bs : List Segment) (i : Nat) :
    stylesAt (as ++ bs) i = stylesAt as i ++ stylesAt bs i := by
  simp [stylesAt]

theorem stylesAt_single (s : Segment) (i : Nat) :
    stylesAt [s] i = if s.start ≤ i ∧ i < s.stop then s.style?.toList else [] := by
  unfold stylesAt
  by_cases h : s.start ≤ i ∧ i < s.stop
  · cases hs : s.style? <;> simp [h, hs]
  · simp [h]

theorem stylesAt_single_of_none {s : Segment} (h : s.style? = none) (i : Nat) :
    stylesAt [s] i = [] := by
  rw [stylesAt_single, h]
  simp

/-- Every styled segment has text. -/
def Proper (segments : List Segment) : Prop :=
  ∀ s ∈ segments, s.style? ≠ none → s.start < s.stop

theorem Proper.append {as bs : List Segment} (ha : Proper as) (hb : Proper bs) :
    Proper (as ++ bs) := by
  intro s hs
  rcases List.mem_append.1 hs with h | h
  · exact ha s h
  · exact hb s h

theorem Proper.push {as : List Segment} (ha : Proper as) {s : Segment} (hs : s.style? = none) :
    Proper (as ++ [s]) := by
  refine ha.append ?_
  intro t ht hne
  rw [List.mem_singleton.1 ht] at hne
  exact absurd hs hne

theorem stylesAt_region (r : Runs) (a : Attribute) (n i : Nat) :
    stylesAt (r.region a n).toList i =
      if r.start ≤ i ∧ i < n ∧ a.isEmpty = false then [a] else [] := by
  rcases region_cases r a n with ⟨h, hn⟩ | ⟨h, -, ha⟩
  · rw [h, if_neg]
    · rfl
    · rcases hn with hn | hn
      · omega
      · simp [hn]
  · rw [h, Option.toList_some, stylesAt_single]
    simp [Segment.style?, ha]

/-- A run that is still open styles what is added to the text. -/
theorem stylesAt_region_add (r : Runs) (a : Attribute) {n : Nat} (h : r.start ≤ n) (k i : Nat) :
    stylesAt (r.region a (n + k)).toList i = stylesAt (r.region a n).toList i
      ++ if n ≤ i ∧ i < n + k ∧ a.isEmpty = false then [a] else [] := by
  rw [stylesAt_region, stylesAt_region]
  cases a.isEmpty
  · by_cases hi : i < n
    · have : ¬n ≤ i := by omega
      simp [hi, this, show i < n + k by omega]
    · have : r.start ≤ i ↔ n ≤ i := by omega
      simp [hi, this]
  · simp

/-- A run of two parts that touch styles the same bytes as the parts. -/
theorem stylesAt_addRun {segments : List Segment} {run : Segment} (hs : Proper segments)
    (hr : run.start < run.stop) (i : Nat) :
    stylesAt (addRun segments (some run)) i = stylesAt segments i ++ stylesAt [run] i := by
  rcases addRun_cases segments run with h | ⟨front, last, rfl, hk, hstop, h⟩
  · rw [h, stylesAt_append]
  · rw [h, stylesAt_append, stylesAt_append, List.append_assoc]
    congr 1
    have hstyle : ∀ s t : Segment, s.kind = t.kind → s.style? = t.style? := by
      intro s t hst
      simp [Segment.style?, hst]
    have hrun := hstyle last run hk
    cases hl : last.style? with
    | none =>
      have hr : run.style? = none := by rw [← hrun, hl]
      rw [stylesAt_single_of_none hl, stylesAt_single_of_none hr]
      exact stylesAt_single_of_none (hstyle _ last rfl ▸ hl) i
    | some a =>
      have hlast : last.start < last.stop := hs last (by simp) (by simp [hl])
      rw [stylesAt_single, stylesAt_single, stylesAt_single, ← hrun, hl,
        hstyle { last with stop := run.stop } last rfl, hl]
      dsimp only
      by_cases h1 : last.start ≤ i ∧ i < last.stop
      · rw [if_pos h1, if_pos (by omega), if_neg (by omega), List.append_nil]
      · rw [if_neg h1, List.nil_append]
        by_cases h2 : run.start ≤ i ∧ i < run.stop
        · rw [if_pos h2, if_pos (by omega)]
        · rw [if_neg h2, if_neg (by omega)]

theorem Proper.addRun {segments : List Segment} {run : Segment} (hs : Proper segments)
    (hr : run.start < run.stop) : Proper (addRun segments (some run)) := by
  rcases addRun_cases segments run with h | ⟨front, last, rfl, hk, hstop, h⟩ <;> rw [h]
  · refine hs.append fun s h _ => ?_
    rwa [List.mem_singleton.1 h]
  · refine Proper.append (fun s h => hs s (by simp [h])) fun s h hne => ?_
    rw [List.mem_singleton.1 h] at hne ⊢
    have : last.start < last.stop := hs last (by simp) hne
    dsimp only
    omega

/-- The segments and the open run give each byte its style, if the strokes wrote the text after
`base`. -/
structure Covered (base : Nat) (ss : List Stroke) (c : Canvas) : Prop where
  size : base + strokesSize ss = c.length
  start_le : c.runs.start ≤ c.length
  proper : Proper c.segments
  styles : ∀ i, stylesAt c.segments i
    ++ stylesAt (c.runs.region c.runs.active c.length).toList i = stylesOf base ss i

namespace Covered

variable {scene : Scene} {base : Nat} {ss : List Stroke} {c : Canvas}

/-- A run that ends at the end of the text takes the place of the open one. -/
theorem endRun (h : Covered base ss c) :
    Proper (addRun c.segments (c.runs.region c.runs.active c.length)) ∧
      ∀ i, stylesAt (addRun c.segments (c.runs.region c.runs.active c.length)) i
        = stylesOf base ss i := by
  rcases region_cases c.runs c.runs.active c.length with ⟨hr, -⟩ | ⟨hr, hlt, -⟩
  · rw [hr]
    refine ⟨h.proper, fun i => ?_⟩
    have := h.styles i
    rwa [hr, Option.toList_none, show stylesAt [] i = [] from rfl, List.append_nil] at this
  · rw [hr]
    refine ⟨h.proper.addRun hlt, fun i => ?_⟩
    have := h.styles i
    rwa [hr, Option.toList_some, ← stylesAt_addRun h.proper hlt] at this

theorem text (h : Covered base ss c) (cs : List Char) :
    Covered base (ss ++ [c.stroke cs]) { c with buffer := c.buffer.append cs } where
  size := by
    have := h.size
    simp only [strokesSize, List.flatMap_append, Text.size_append, Canvas.length,
      Buffer.append_length] at *
    simp [Canvas.stroke]
    omega
  start_le := by
    have := h.start_le
    simp only [Canvas.length, Buffer.append_length] at *
    omega
  proper := h.proper
  styles i := by
    have hs := h.styles i
    have hle := h.start_le
    rw [stylesOf_append, ← hs, h.size, List.append_assoc]
    congr 1
    rw [Canvas.stroke, stylesOf_stroke]
    simp only [Canvas.length, Buffer.append_length] at *
    exact stylesAt_region_add c.runs c.runs.active hle _ i

theorem change (h : Covered base ss c) (counts : List Nat) : Covered base ss (c.change counts) := by
  rcases c.change_cases counts with ⟨hact, heq⟩ | ⟨-, heq⟩ <;> rw [heq]
  · refine ⟨h.size, h.start_le, h.proper, fun i => ?_⟩
    dsimp only
    rw [hact]
    exact h.styles i
  · refine ⟨h.size, Nat.le_refl _, h.endRun.1, fun i => ?_⟩
    dsimp only
    rw [h.endRun.2]
    simp only [stylesAt_region]
    rw [if_neg (fun hi => by simp only [Canvas.length] at hi; omega), List.append_nil]

theorem flush (h : Covered base ss c) : Covered base (ss ++ c.dueStrokes) c.flush := by
  unfold Canvas.dueStrokes
  rcases Canvas.flush_cases c with ⟨hd, hf⟩ | ⟨hd, hf⟩
  · simpa [hd, hf] using h
  · rw [hf, if_pos hd]
    refine ⟨?_, Nat.le_refl _, h.endRun.1, fun i => ?_⟩
    · have := h.size
      simp only [strokesSize, List.flatMap_append, Text.size_append, Canvas.length,
        Buffer.append_length] at *
      simp
      omega
    · dsimp only
      rw [h.endRun.2, stylesOf_append, stylesOf_marker]
      simp only [stylesAt_region]
      rw [if_neg (fun hi => by simp only [Canvas.length] at hi; omega)]

theorem push (h : Covered base ss c) {s : Segment} (hs : s.style? = none) :
    Covered base ss (c.push s) := by
  refine ⟨h.size, h.start_le, h.proper.push hs, fun i => ?_⟩
  rw [← h.styles i]
  simp [Canvas.push, Canvas.length, stylesAt_append, stylesAt_single_of_none hs]

theorem closeLink (h : Covered base ss c) (url : String) : Covered base ss (c.closeLink url) := by
  rcases c.closeLink_cases url with ⟨-, heq⟩ | ⟨start, links, -, hclose⟩
  · rwa [heq]
  · have h' : Covered base ss { c with links } := ⟨h.size, h.start_le, h.proper, h.styles⟩
    rcases hclose with heq | ⟨-, heq⟩
    · rwa [heq]
    · rw [heq]
      exact h'.push rfl

theorem closeQuote (h : Covered base ss c) : Covered base ss c.closeQuote := by
  rcases c.closeQuote_cases with ⟨-, heq⟩ | ⟨quote, quotes, -, hclose⟩
  · rwa [heq]
  · have h' : Covered base ss { c with buffer := c.buffer.popMarker quote.outerMarker, quotes } :=
      ⟨h.size, h.start_le, h.proper, h.styles⟩
    rcases hclose with heq | ⟨-, heq⟩
    · rwa [heq]
    · rw [heq]
      exact h'.push rfl

theorem closeQuotes (h : Covered base ss c) (n : Nat) :
    Covered base ss (Canvas.closeQuotes n c) := by
  induction n generalizing c with
  | zero => exact h
  | succ n ih => exact ih h.closeQuote

@[simp] theorem runs_closeQuotes (n : Nat) (c : Canvas) :
    (Canvas.closeQuotes n c).runs = c.runs := by
  induction n generalizing c with
  | zero => rfl
  | succ n ih =>
    rw [Canvas.closeQuotes, ih]
    rcases c.closeQuote_cases with ⟨-, heq⟩ | ⟨quote, quotes, -, heq | ⟨-, heq⟩⟩ <;>
      simp [heq, Canvas.push]

theorem active_finish (c : Canvas) : c.finish.runs.active = .empty := by
  have hz : ∀ start, (⟨start, List.replicate Attribute.count 0⟩ : Runs).active = .empty :=
    fun _ => rfl
  rw [Canvas.finish_eq, runs_closeQuotes, Canvas.leave_eq]
  rcases c.change_cases (List.replicate Attribute.count 0) with ⟨-, heq⟩ | ⟨-, heq⟩ <;> rw [heq] <;>
    exact hz _

theorem finish (h : Covered base ss c) :
    Proper c.finish.segments ∧ ∀ i, stylesAt c.finish.segments i = stylesOf base ss i := by
  have hf : Covered base ss c.finish := by
    rw [Canvas.finish_eq, Canvas.leave_eq]
    exact (h.change _).closeQuotes _
  refine ⟨hf.proper, fun i => ?_⟩
  rw [← hf.styles i, active_finish, stylesAt_region, if_neg (by simp [Attribute.isEmpty,
    Attribute.empty]), List.append_nil]

theorem nested {d inner : Canvas} {ts : List Stroke} (h : Covered base ss d)
    (hi : Covered d.length ts inner) :
    Covered base (ss ++ ts) (d.splitRun.adopt inner.finish).resetRun := by
  obtain ⟨hp, hs⟩ := hi.finish
  have hlen : inner.finish.length = inner.length := by simp [Canvas.length, Buffer.length]
  rw [Canvas.adopt_eq]
  refine ⟨?_, Nat.le_refl _, h.endRun.1.append hp, fun i => ?_⟩
  · have hd := h.size
    have hin := hi.size
    change base + strokesSize (ss ++ ts) = inner.finish.length
    simp only [strokesSize, List.flatMap_append, Text.size_append] at *
    omega
  · dsimp only
    rw [stylesAt_append, h.endRun.2, hs, stylesOf_append, h.size]
    simp only [stylesAt_region]
    rw [if_neg (fun hi => by simp only [Canvas.length] at hi; omega), List.append_nil]

end Covered

theorem covered_of_empty {c : Canvas} (hs : c.segments = []) (hr : c.runs.start = c.length) :
    Covered c.length [] c := by
  refine ⟨?_, Nat.le_of_eq hr, fun s hmem => ?_, fun i => ?_⟩
  · simp [strokesSize, Text.size]
  · rw [hs] at hmem
    cases hmem
  · rw [hs, stylesOf_nil, stylesAt_region, if_neg (by omega)]
    rfl

theorem Drawn.covered {scene : Scene} {base : Nat} {c d : Canvas} {rs ss : List Stroke}
    (h : Drawn scene c ss d) (hc : Covered base rs c) : Covered base (rs ++ ss) d := by
  induction h generalizing base rs with
  | refl => simpa using hc
  | @marker c d ss _ due ih =>
    have := (ih hc).flush
    rwa [Canvas.dueStrokes, if_pos due, List.append_assoc] at this
  | text cs _ ih => simpa using (ih hc).text cs
  | change counts _ ih => exact (ih hc).change counts
  | openLink _ ih =>
    obtain ⟨size, start_le, proper, styles⟩ := ih hc
    exact ⟨size, start_le, proper, styles⟩
  | closeLink url _ ih => exact (ih hc).closeLink url
  | pushQuote _ ih =>
    obtain ⟨size, start_le, proper, styles⟩ := ih hc
    exact ⟨size, start_le, proper, styles⟩
  | closeQuote _ ih => exact (ih hc).closeQuote
  | note _ _ _ _ ih =>
    obtain ⟨size, start_le, proper, styles⟩ := ih hc
    exact ⟨size, start_le, proper, styles⟩
  | @anchor c d ss kind _ point ih =>
    rw [Canvas.anchor_eq, ← List.append_assoc]
    refine (ih hc).flush.push ?_
    cases kind <;> first | rfl | cases point
  | @mark c d ss start stop kind _ admits ih =>
    refine (ih hc).push ?_
    cases kind <;> first | rfl | simp [Canvas.admits, SegmentKind.isMark] at admits
  | @nested c d inner ss ts _ _ ih ihInner =>
    have hchild : Covered d.length [] (d.splitRun.child scene.config) := by
      have := covered_of_empty (c := d.splitRun.child scene.config) rfl rfl
      rwa [show (d.splitRun.child scene.config).length = d.length by
        simp [Canvas.child, Canvas.splitRun_eq, Canvas.length]] at this
    rw [← List.append_assoc]
    exact (ih hc).nested (ihInner hchild)

/-- If no byte is covered twice, then segments with text do not overlap. -/
theorem pairwise_of_stylesAt {segments : List Segment} (hp : Proper segments)
    (h : ∀ i, (stylesAt segments i).length ≤ 1) :
    segments.Pairwise fun s t => s.style? ≠ none → t.style? ≠ none →
      s.stop ≤ t.start ∨ t.stop ≤ s.start := by
  induction segments with
  | nil => exact .nil
  | cons s rest ih =>
    refine .cons (fun t ht hs hst => ?_)
      (ih (fun t ht => hp t (List.mem_cons_of_mem _ ht)) fun i => ?_)
    · by_contra hover
      have hslt := hp s List.mem_cons_self hs
      have htlt := hp t (List.mem_cons_of_mem _ ht) hst
      obtain ⟨front, back, rfl⟩ := List.append_of_mem ht
      -- both cover the byte at which the later of the two starts
      have := h (max s.start t.start)
      rw [← List.singleton_append, ← List.singleton_append (x := t), stylesAt_append,
        stylesAt_append, stylesAt_append, stylesAt_single, stylesAt_single, if_pos (by omega),
        if_pos (by omega)] at this
      obtain ⟨a, ha⟩ := Option.ne_none_iff_exists'.1 hs
      obtain ⟨b, hb⟩ := Option.ne_none_iff_exists'.1 hst
      simp [ha, hb] at this
    · have := h i
      rw [← List.singleton_append, stylesAt_append, List.length_append] at this
      omega

theorem length_styleAt_le (ss : List Stroke) (i : Nat) : (styleAt ss i).toList.length ≤ 1 := by
  cases styleAt ss i <;> simp

/-- However a plan enters and leaves attributes, opens and closes quotes and links and nests
renderings, each byte of its text is covered by one styled segment, which has the attributes that
were active on the canvas that wrote the byte, or by none if there were none or the byte is of a
marker. No styled segment is empty, and no two overlap. Nested renderings by the handlers are nested
renderings of plans. -/
theorem stylesAt_finish_run (scene : Scene) (plan : Plan)
    (hm : scene.config.quoteMarker.toList.getLast? ≠ some '\n') :
    let strokes := plan.strokes scene (.fresh scene.config)
    let final := (plan.run scene (.fresh scene.config)).finish
    final.buffer.text = strokes.flatMap Stroke.text ∧
      (∀ i, stylesAt final.segments i = (styleAt strokes i).toList) ∧
      (∀ s ∈ final.segments, s.style? ≠ none → s.start < s.stop) ∧
      (final.segments.Pairwise fun s t => s.style? ≠ none → t.style? ≠ none →
        s.stop ≤ t.start ∨ t.stop ≤ s.start) ∧
      ∀ (c : Canvas) (source : String), ∃ inner : Plan,
        c.nested .builtin scene source = c.within scene.config source (inner.run scene) := by
  intro strokes final
  obtain ⟨ss, hss, heq⟩ := plan.drawn scene (.fresh scene.config)
  obtain rfl : ss = strokes := heq [] rfl hm (by simp)
  obtain ⟨hp, hs⟩ := (hss.covered (covered_of_empty rfl rfl)).finish
  have hstyles : ∀ i, stylesAt final.segments i = (styleAt strokes i).toList := by
    intro i
    rw [hs i, List.nil_append]
    show stylesOf 0 strokes i = _
    rw [stylesOf, if_neg (Nat.not_lt_zero i), Nat.sub_zero]
  refine ⟨?_, hstyles, hp, pairwise_of_stylesAt hp fun i => ?_, fun c source =>
    c.nested_eq_within scene source⟩
  · rw [Canvas.finish_text, hss.text_eq]
    rfl
  · rw [hstyles]
    exact length_styleAt_le strokes i

theorem stylesAt_finish_run_nested :
    ({} : Scene).config.quoteMarker.toList.getLast? ≠ some '\n' ∧
      let plan : Plan := .op .openQuote <| .op (.enter .bold) <| .op (.write "a\nb") <|
        .nested "c" (.op (.enter .italic) <| .op (.write "c") .done) <| .op (.write "d") .done
      let final := (plan.run {} (.fresh {})).finish
      stylesAt final.segments 3 = [.bold] ∧ stylesAt final.segments 4 = [] ∧
        stylesAt final.segments 7 = [.italic] ∧ stylesAt final.segments 8 = [.bold] := by
  refine ⟨by decide, ?_⟩
  intro plan final
  have h := (stylesAt_finish_run {} plan (by decide)).2.1
  exact ⟨(h 3).trans (by decide), (h 4).trans (by decide), (h 7).trans (by decide),
    (h 8).trans (by decide)⟩

end RichChat

import Mathlib
import RichChat.Proofs.Invariant
import RichChat.Proofs.Styles

/-!
# Runs are as long as the list of segments lets them be

A run that ends is joined to the last segment if it goes on from there with the same attributes. So
two runs of the same attributes that touch have a segment of another kind between them in the list,
and no third run (`touching_runs`): a link, say, that was closed between them. Where a rendering has
nothing but runs, each stretch of text under the same attributes is one segment.

A tree has no nested renderings, which go on with segments of their own, so that it is enough that
the moves of a canvas keep its runs tidy (`invariant_isTidy`).
-/

namespace RichChat

/-- The runs in a list of segments stand in the order of the text and end at `n` at the latest. None
of them goes on with the segment in front of it in the list. -/
structure Tidy (n : Nat) (segments : List Segment) : Prop where
  ended : ∀ s ∈ segments, s.style? ≠ none → s.start < s.stop ∧ s.stop ≤ n
  ordered : segments.Pairwise fun s t => s.style? ≠ none → t.style? ≠ none → s.stop ≤ t.start
  apart : segments.IsChain fun s t => t.style? ≠ none → s.kind = t.kind → s.stop ≠ t.start

namespace Tidy

variable {m n : Nat} {segments : List Segment}

theorem nil (n : Nat) : Tidy n [] := ⟨by simp, .nil, .nil⟩

theorem mono (h : Tidy m segments) (hmn : m ≤ n) : Tidy n segments := by
  refine ⟨fun s hs hstyle => ?_, h.ordered, h.apart⟩
  have := h.ended s hs hstyle
  omega

/-- One more segment, behind the runs if it is one. -/
theorem concat (h : Tidy m segments) (hmn : m ≤ n) {s : Segment}
    (hs : s.style? ≠ none → m ≤ s.start ∧ s.start < s.stop ∧ s.stop ≤ n)
    (hlast : ∀ t ∈ segments.getLast?, s.style? ≠ none → t.kind = s.kind → t.stop ≠ s.start) :
    Tidy n (segments ++ [s]) := by
  refine ⟨?_, ?_, ?_⟩
  · refine List.forall_mem_append.2 ⟨(h.mono hmn).ended, ?_⟩
    simpa using fun hstyle => (hs hstyle).2
  · refine List.pairwise_append.2 ⟨h.ordered, List.pairwise_singleton _ _, ?_⟩
    intro t ht u hu htstyle hustyle
    obtain rfl := List.mem_singleton.1 hu
    have := h.ended t ht htstyle
    have := hs hustyle
    omega
  · refine List.isChain_append.2 ⟨h.apart, List.isChain_singleton _, ?_⟩
    simpa using hlast

theorem push (h : Tidy n segments) {s : Segment} (hs : s.style? = none) :
    Tidy n (segments ++ [s]) :=
  h.concat (Nat.le_refl n) (fun hne => absurd hs hne) (fun _ _ hne => absurd hs hne)

theorem style?_congr {s t : Segment} (h : s.kind = t.kind) : s.style? = t.style? := by
  simp [Segment.style?, h]

theorem endRun {r : Runs} (h : Tidy r.start segments) (a : Attribute) (hn : r.start ≤ n) :
    Tidy n (addRun segments (r.region a n)) := by
  rcases region_cases r a n with ⟨heq, -⟩ | ⟨heq, hlt, -⟩ <;> rw [heq]
  · exact h.mono hn
  · have hrun (hlast : ∀ t ∈ segments.getLast?, t.kind = .styled a → t.stop ≠ r.start) :
        Tidy n (segments ++ [⟨r.start, n, .styled a⟩]) :=
      h.concat hn (fun _ => ⟨Nat.le_refl _, hlt, Nat.le_refl _⟩) fun t ht _ => hlast t ht
    rcases List.eq_nil_or_concat' segments with rfl | ⟨init, last, rfl⟩
    · exact hrun (by simp)
    · rw [addRun_concat]
      split
      · rename_i hmeet
        -- the longer segment stands where the last one stood
        obtain ⟨hkind, hstop⟩ := hmeet
        have hstyle := style?_congr (s := { last with stop := n }) (t := last) rfl
        have hlast := h.ended last (by simp)
        obtain ⟨hordered, -, hbefore⟩ := List.pairwise_append.1 h.ordered
        obtain ⟨hchain, -, hjoint⟩ := List.isChain_append.1 h.apart
        refine ⟨?_, ?_, ?_⟩
        · refine List.forall_mem_append.2 ⟨fun s hs => (h.mono hn).ended s (by simp [hs]), ?_⟩
          simp only [List.mem_singleton, forall_eq, hstyle]
          intro hne
          have := hlast hne
          omega
        · refine List.pairwise_append.2 ⟨hordered, List.pairwise_singleton _ _, ?_⟩
          simp only [List.mem_singleton, forall_eq, hstyle]
          exact fun s hs => hbefore s hs last (by simp)
        · refine List.isChain_append.2 ⟨hchain, List.isChain_singleton _, ?_⟩
          simp only [List.head?_cons, Option.mem_def, Option.some.injEq, forall_eq', hstyle]
          exact fun s hs => hjoint s hs last (by simp)
      · rename_i hmeet
        refine hrun ?_
        simp only [List.getLast?_append, List.getLast?_singleton, Option.some_or, Option.mem_def,
          Option.some.injEq, forall_eq']
        exact fun hkind hstop => hmeet ⟨hkind, hstop⟩

/-- Of two runs that touch, the one in front is listed first, and the segments listed between them
are no runs. If the runs have the same attributes there is such a segment. -/
theorem touching (h : Tidy n segments) {i j : Nat} {s t : Segment} (hi : segments[i]? = some s)
    (hj : segments[j]? = some t) (hs : s.style? ≠ none) (ht : t.style? ≠ none)
    (hmeet : s.stop = t.start) :
    i < j ∧ (s.kind = t.kind → i + 1 < j) ∧
      ∀ k r, i < k → k < j → segments[k]? = some r → r.style? = none := by
  have hbefore : ∀ {i j : Nat} {s t : Segment}, i < j → segments[i]? = some s →
      segments[j]? = some t → s.style? ≠ none → t.style? ≠ none → s.stop ≤ t.start := by
    intro i j s t hij hi hj
    obtain ⟨hilt, rfl⟩ := List.getElem?_eq_some_iff.1 hi
    obtain ⟨hjlt, rfl⟩ := List.getElem?_eq_some_iff.1 hj
    exact List.pairwise_iff_getElem.1 h.ordered i j hilt hjlt hij
  have hspan : ∀ {k : Nat} {r : Segment}, segments[k]? = some r → r.style? ≠ none →
      r.start < r.stop := fun hk hr => (h.ended _ (List.mem_of_getElem? hk) hr).1
  have hij : i < j := by
    by_contra hge
    have hsspan := hspan hi hs
    have htspan := hspan hj ht
    rcases Nat.lt_or_eq_of_le (Nat.le_of_not_lt hge) with hlt | rfl
    · have := hbefore hlt hj hi ht hs
      omega
    · obtain rfl := Option.some.inj (hi.symm.trans hj)
      omega
  refine ⟨hij, fun hkind => ?_, fun k r hik hkj hk => ?_⟩
  · by_contra hnext
    obtain rfl : j = i + 1 := by omega
    obtain ⟨hilt, rfl⟩ := List.getElem?_eq_some_iff.1 hi
    obtain ⟨hjlt, rfl⟩ := List.getElem?_eq_some_iff.1 hj
    exact List.isChain_iff_getElem.1 h.apart i hjlt ht hkind hmeet
  · by_contra hr
    have := hbefore hik hi hk hs hr
    have := hbefore hkj hk hj hr ht
    have := hspan hk hr
    omega

end Tidy

/-- The runs of a canvas are tidy and the open one comes after them. -/
def Canvas.IsTidy (c : Canvas) : Prop := c.runs.start ≤ c.length ∧ Tidy c.runs.start c.segments

theorem Canvas.IsTidy.push {c : Canvas} {s : Segment} (hs : ∀ a, s.kind ≠ .styled a)
    (h : c.IsTidy) : (c.push s).IsTidy :=
  ⟨h.1, h.2.push (Segment.style?_eq_none hs)⟩

theorem Canvas.invariant_isTidy : Canvas.Invariant Canvas.IsTidy where
  flush c h := by
    rcases c.flush_cases with ⟨-, heq⟩ | ⟨-, heq⟩ <;> rw [heq]
    · exact h
    · refine ⟨Nat.le_refl _, (h.2.endRun _ h.1).mono ?_⟩
      simp [Canvas.length]
  append c cs h := by
    refine ⟨?_, h.2⟩
    have hstart := h.1
    simp only [Canvas.length, Buffer.append_length] at *
    omega
  push _ _ hs h := h.push hs.1
  note _ _ h := h
  change {c} counts h := by
    rcases c.change_cases counts with ⟨-, heq⟩ | ⟨-, heq⟩ <;> rw [heq]
    · exact h
    · exact ⟨Nat.le_refl _, h.2.endRun _ h.1⟩
  frame _ _ _ _ _ _ h := h

/-- Two runs of a tree that touch and have the same attributes are listed in the order of the text,
with segments between them, none of which is a run. If runs are all that is listed, then text next
to each other with the same attributes is in one segment. -/
theorem touching_runs (scene : Scene) (node : Node) :
    let segments := (scene.renderNode node).text.segments
    (∀ i j s t a, segments[i]? = some s → segments[j]? = some t → s.style? = some a →
        t.style? = some a → s.stop = t.start →
        i + 1 < j ∧ ∀ k r, i < k → k < j → segments[k]? = some r → r.style? = none) ∧
      ((∀ s ∈ segments, s.style? ≠ none) → ∀ i a, stylesAt segments i = [a] →
        stylesAt segments (i + 1) = [a] →
        ∃ s ∈ segments, s.style? = some a ∧ s.start ≤ i ∧ i + 1 < s.stop) := by
  intro segments
  have hfresh : (Canvas.fresh scene.config).IsTidy := ⟨Nat.le_refl _, .nil _⟩
  obtain ⟨-, htidy⟩ :=
    Canvas.invariant_isTidy.renderNode (fun _ _ hs h => h.push hs) scene node hfresh
  have htouching : ∀ i j s t a, segments[i]? = some s → segments[j]? = some t →
      s.style? = some a → t.style? = some a → s.stop = t.start →
      i + 1 < j ∧ ∀ k r, i < k → k < j → segments[k]? = some r → r.style? = none := by
    intro i j s t a hi hj hs ht hmeet
    obtain ⟨-, hgap, hmid⟩ :=
      htidy.touching hi hj (by simp [hs]) (by simp [ht]) hmeet
    have hsame : s.kind = t.kind :=
      (Segment.style?_eq_some.1 hs).trans (Segment.style?_eq_some.1 ht).symm
    exact ⟨hgap hsame, hmid⟩
  refine ⟨htouching, fun hruns i a hi hnext => ?_⟩
  have hcover : ∀ i, stylesAt segments i = [a] →
      ∃ s ∈ segments, s.style? = some a ∧ s.start ≤ i ∧ i < s.stop :=
    fun i hi => mem_stylesAt.1 (by simp [hi])
  obtain ⟨s, hs, hsstyle, hstart, hstop⟩ := hcover i hi
  obtain ⟨t, ht, htstyle, htstart, htstop⟩ := hcover (i + 1) hnext
  by_cases hlonger : i + 1 < s.stop
  · exact ⟨s, hs, hsstyle, hstart, hlonger⟩
  · by_cases hearlier : t.start ≤ i
    · exact ⟨t, ht, htstyle, hearlier, htstop⟩
    · -- the two segments touch, and only a segment that is no run can be listed between them
      obtain ⟨j, hj⟩ := List.getElem?_of_mem hs
      obtain ⟨k, hk⟩ := List.getElem?_of_mem ht
      obtain ⟨hgap, hmid⟩ := htouching j k s t a hj hk hsstyle htstyle (by omega)
      have hlt : j + 1 < segments.length := by
        have := (List.getElem?_eq_some_iff.1 hk).1
        omega
      have hmem : segments[j + 1]? = some segments[j + 1] := List.getElem?_eq_getElem hlt
      exact absurd (hmid (j + 1) _ (by omega) hgap hmem) (hruns _ (List.getElem_mem hlt))

/-- A link that is closed between two runs is listed between them. -/
theorem touching_runs_link :
    let node : Node := .mk .document [.mk .paragraph
      [.mk (.link "u") [.mk (.inline .bold) [.text "a"]], .mk (.inline .bold) [.text "b"]]]
    let segments := (({} : Scene).renderNode node).text.segments
    segments = [⟨0, 1, .styled .bold⟩, ⟨0, 1, .link "u"⟩, ⟨1, 2, .styled .bold⟩] ∧
      ∀ r, segments[1]? = some r → r.style? = none := by
  intro node segments
  have hsegments : (({} : Scene).renderNode node).text.segments
      = [⟨0, 1, .styled .bold⟩, ⟨0, 1, .link "u"⟩, ⟨1, 2, .styled .bold⟩] := by cbv
  have hmid := ((touching_runs {} node).1 0 2 ⟨0, 1, .styled .bold⟩ ⟨1, 2, .styled .bold⟩ .bold
    (by rw [hsegments]; rfl) (by rw [hsegments]; rfl) rfl rfl rfl).2
  exact ⟨hsegments, fun r => hmid 1 r (by omega) (by omega)⟩

/-- So the same attributes next to each other are two segments in this source. -/
theorem not_maximal_link :
    let text := (({} : Scene).renderSource "[**a**](u)**b**").text
    text = ⟨"ab", [⟨0, 1, .styled .bold⟩, ⟨0, 1, .link "u"⟩, ⟨1, 2, .styled .bold⟩]⟩ ∧
      ∃ s ∈ text.segments, ∃ t ∈ text.segments,
        s.style? = some .bold ∧ t.style? = some .bold ∧ s.stop = t.start := by
  intro text
  have htext : (({} : Scene).renderSource "[**a**](u)**b**").text
      = ⟨"ab", [⟨0, 1, .styled .bold⟩, ⟨0, 1, .link "u"⟩, ⟨1, 2, .styled .bold⟩]⟩ := by cbv
  rw [show text = _ from htext]
  exact ⟨rfl, by decide⟩

end RichChat

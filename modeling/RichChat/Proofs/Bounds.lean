import RichChat.Proofs.Rendering

/-!
# Where segments lie

Every segment of a finished text lies between characters of the text, with its start no later than
its end, and anchors have no width (`sound_renderings`).

A canvas holds offsets in four places: in its segments, at the start of the open run, in open links
and in open quotes. `InBounds` says that all of them are boundaries of the text. Each was the end of
the text when it was taken, except for those of a quote: where its text ends without blanks is a
boundary too (`inBounds_closeQuote`). Boundaries stay when text is added, so drawing keeps all of
this (`Drawn.inBounds`).
-/

namespace RichChat

/-- The segment lies between characters of the text, and an anchor lies at one point. -/
structure Segment.Fits (text : List Char) (s : Segment) : Prop where
  le : s.start ≤ s.stop
  start : Text.Boundary text s.start
  stop : Text.Boundary text s.stop
  point : s.kind.isAnchor = true → s.start = s.stop

theorem Segment.Fits.mono {text longer : List Char} {s : Segment} (h : s.Fits text)
    (hp : text <+: longer) : s.Fits longer :=
  ⟨h.le, h.start.mono hp, h.stop.mono hp, h.point⟩

theorem fits_addRun {text : List Char} {segments : List Segment} {run : Option Segment}
    (h : ∀ s ∈ segments, s.Fits text) (hr : ∀ r ∈ run, r.Fits text) :
    ∀ s ∈ addRun segments run, s.Fits text := by
  intro s hs
  cases run with
  | none => exact h s hs
  | some run =>
    have hrun := hr run rfl
    rcases addRun_cases segments run with heq | ⟨front, last, rfl, hkind, hmeet, heq⟩
    · rw [heq] at hs
      rcases List.mem_append.1 hs with hs | hs
      · exact h s hs
      · rwa [List.mem_singleton.1 hs]
    · rw [heq] at hs
      rcases List.mem_append.1 hs with hs | hs
      · exact h s (List.mem_append_left _ hs)
      · rw [List.mem_singleton.1 hs]
        have hlast := h last (by simp)
        have hle : last.start ≤ run.stop := by
          have := hlast.le
          have := hrun.le
          omega
        refine ⟨hle, hlast.start, hrun.stop, fun hp => ?_⟩
        -- an anchor that meets the run is at its start, and a run of that kind has no width
        have := hlast.point hp
        have := hrun.point (hkind ▸ hp)
        show last.start = run.stop
        omega

theorem fits_region {text : List Char} {r : Runs} {a : Attribute} {n : Nat}
    (hs : Text.Boundary text r.start) (hn : Text.Boundary text n) :
    ∀ s ∈ r.region a n, s.Fits text := by
  intro s hmem
  rcases region_cases r a n with ⟨h, -⟩ | ⟨h, hlt, -⟩
  · simp [h] at hmem
  · obtain rfl : (⟨r.start, n, .styled a⟩ : Segment) = s := by simpa [h] using hmem
    exact ⟨Nat.le_of_lt hlt, hs, hn, by simp [SegmentKind.isAnchor]⟩

/-- All offsets that the canvas holds lie between characters of its text. -/
structure Canvas.InBounds (c : Canvas) : Prop where
  segments : ∀ s ∈ c.segments, s.Fits c.buffer.text
  run : Text.Boundary c.buffer.text c.runs.start
  links : ∀ n ∈ c.links, Text.Boundary c.buffer.text n
  quotes : ∀ q ∈ c.quotes, Text.Boundary c.buffer.text q.start

namespace Canvas

variable {c : Canvas}

theorem boundary_length (c : Canvas) : Text.Boundary c.buffer.text c.length := .size _

theorem inBounds_fresh (config : Config) : (fresh config).InBounds :=
  ⟨by simp [fresh], .zero _, by simp [fresh], by simp [fresh]⟩

theorem inBounds_child (c : Canvas) (config : Config) : (c.child config).InBounds :=
  ⟨by simp [child], c.boundary_length, by simp [child], by simp [child]⟩

namespace InBounds

theorem grow (h : c.InBounds) {buffer : Buffer} (hp : c.buffer.text <+: buffer.text) :
    Canvas.InBounds { c with buffer } :=
  ⟨fun s hs => (h.segments s hs).mono hp, h.run.mono hp,
    fun n hn => (h.links n hn).mono hp, fun q hq => (h.quotes q hq).mono hp⟩

theorem push (h : c.InBounds) {s : Segment} (hs : s.Fits c.buffer.text) : (c.push s).InBounds := by
  refine ⟨fun t ht => ?_, h.run, h.links, h.quotes⟩
  rcases List.mem_append.1 ht with ht | ht
  · exact h.segments t ht
  · rw [List.mem_singleton.1 ht]
    exact hs

theorem endRun (h : c.InBounds) (a : Attribute) (counts : List Nat) :
    Canvas.InBounds { c with
      segments := addRun c.segments (c.runs.region a c.length), runs := ⟨c.length, counts⟩ } :=
  ⟨fits_addRun h.segments (fits_region h.run c.boundary_length), c.boundary_length, h.links,
    h.quotes⟩

theorem change (h : c.InBounds) (counts : List Nat) : (c.change counts).InBounds := by
  rcases c.change_cases counts with ⟨-, heq⟩ | ⟨-, heq⟩ <;> rw [heq]
  · exact ⟨h.segments, h.run, h.links, h.quotes⟩
  · exact h.endRun _ counts

theorem flush (h : c.InBounds) : c.flush.InBounds := by
  rcases flush_cases c with ⟨-, heq⟩ | ⟨-, heq⟩
  · rwa [heq]
  · have hp : c.buffer.text <+: (c.buffer.append c.buffer.marker).text := List.prefix_append _ _
    have := (h.endRun c.runs.active c.runs.counts).grow hp
    rw [heq]
    exact ⟨this.segments, .size _, this.links, this.quotes⟩

theorem closeLink (h : c.InBounds) (url : String) : (c.closeLink url).InBounds := by
  rcases c.closeLink_cases url with ⟨-, heq⟩ | ⟨start, links, hl, hclose⟩
  · rwa [heq]
  · have hlinks := h.links
    rw [hl] at hlinks
    have hout : Canvas.InBounds { c with links } :=
      ⟨h.segments, h.run, fun n hn => hlinks n (List.mem_cons_of_mem _ hn), h.quotes⟩
    rcases hclose with heq | ⟨hlt, heq⟩
    · rwa [heq]
    · rw [heq]
      exact hout.push ⟨Nat.le_of_lt hlt, hlinks start List.mem_cons_self, .size _,
        by simp [SegmentKind.isAnchor]⟩

theorem lastAnchor (h : c.InBounds) (start : Nat) :
    Text.Boundary c.buffer.text ((c.lastAnchor? start).getD 0) := by
  cases hl : c.lastAnchor? start with
  | none => exact .zero _
  | some n =>
    obtain ⟨s, hs, rfl⟩ := List.mem_map.1 (List.max?_mem hl)
    exact (h.segments s (List.mem_filter.1 hs).1).start

theorem closeQuote (h : c.InBounds) : c.closeQuote.InBounds := by
  rcases c.closeQuote_cases with ⟨-, heq⟩ | ⟨quote, quotes, hq, hclose⟩
  · rwa [heq]
  · have hquotes := h.quotes
    rw [hq] at hquotes
    have hstart := hquotes quote List.mem_cons_self
    have hout : Canvas.InBounds
        { c with buffer := c.buffer.popMarker quote.outerMarker, quotes } :=
      ⟨h.segments, h.run, h.links, fun q hqs => hquotes q (List.mem_cons_of_mem _ hqs)⟩
    rcases hclose with heq | ⟨hlt, heq⟩
    · rwa [heq]
    · rw [heq]
      refine hout.push ⟨Nat.le_of_lt hlt, hstart, ?_, by simp [SegmentKind.isAnchor]⟩
      exact (hstart.max (.dropWhile_reverse _ _)).max (hout.lastAnchor quote.start)

theorem closeQuotes (h : c.InBounds) (n : Nat) : (closeQuotes n c).InBounds := by
  induction n generalizing c with
  | zero => exact h
  | succ n ih => exact ih h.closeQuote

theorem finish (h : c.InBounds) : c.finish.InBounds := by
  rw [finish_eq, leave_eq]
  exact (h.change _).closeQuotes _

end InBounds

end Canvas

theorem Drawn.inBounds {scene : Scene} {c d : Canvas} {ss : List Stroke} (h : Drawn scene c ss d)
    (hc : c.InBounds) : d.InBounds := by
  induction h with
  | refl => exact hc
  | marker _ _ ih => exact (ih hc).flush
  | text cs _ ih => exact (ih hc).grow (List.prefix_append _ _)
  | change counts _ ih => exact (ih hc).change counts
  | @openLink _ d _ _ ih =>
    obtain ⟨segments, run, links, quotes⟩ := ih hc
    refine ⟨segments, run, fun n hn => ?_, quotes⟩
    rcases List.mem_cons.1 hn with rfl | hn
    · exact d.boundary_length
    · exact links n hn
  | closeLink url _ ih => exact (ih hc).closeLink url
  | @pushQuote _ d _ _ ih =>
    obtain ⟨segments, run, links, quotes⟩ := ih hc
    refine ⟨segments, run, links, fun q hq => ?_⟩
    rcases List.mem_cons.1 hq with rfl | hq
    · exact d.boundary_length
    · exact quotes q hq
  | closeQuote _ ih => exact (ih hc).closeQuote
  | note _ _ _ _ ih =>
    obtain ⟨segments, run, links, quotes⟩ := ih hc
    exact ⟨segments, run, links, quotes⟩
  | anchor _ _ _ ih =>
    rw [Canvas.anchor_eq]
    exact (ih hc).flush.push ⟨Nat.le_refl _, .size _, .size _, fun _ => rfl⟩
  | @mark _ d _ start stop kind _ admits ih =>
    simp only [Canvas.admits, Bool.and_eq_true, decide_eq_true_eq, Text.isSome_dropBytes?] at admits
    obtain ⟨⟨⟨hk, hle⟩, hstart⟩, hstop⟩ := admits
    refine (ih hc).push ⟨hle, hstart, hstop, fun hp => ?_⟩
    cases kind <;> simp [SegmentKind.isMark, SegmentKind.isAnchor] at hk hp
  | @nested _ d inner _ _ _ hin ih ihInner =>
    have hd := ih hc
    have hi := (ihInner (d.splitRun.inBounds_child scene.config)).finish
    have hp : d.buffer.text <+: inner.finish.buffer.text := by
      rw [Canvas.finish_text]
      simpa [Canvas.child, Canvas.splitRun_eq] using hin.prefix_text
    have hg := (hd.endRun d.runs.active d.runs.counts).grow hp
    rw [Canvas.adopt_eq]
    refine ⟨fun s hs => ?_, .size _, hg.links, hg.quotes⟩
    rcases List.mem_append.1 hs with hs | hs
    · exact hg.segments s hs
    · exact hi.segments s hs

/-- Every segment of the text lies between two of its characters, and anchors have no width. -/
def RichText.Sound (t : RichText) : Prop :=
  ∀ s ∈ t.segments, s.start ≤ s.stop ∧ s.stop ≤ t.content.utf8ByteSize ∧
    (⟨s.start⟩ : String.Pos.Raw).IsValid t.content ∧
    (⟨s.stop⟩ : String.Pos.Raw).IsValid t.content ∧ (s.kind.isAnchor = true → s.start = s.stop)

theorem sound_compose (scene : Scene) (plan : Plan) :
    (scene.compose (plan.run scene)).text.Sound := by
  obtain ⟨ss, hss, -⟩ := plan.drawn scene (.fresh scene.config)
  have h := (hss.inBounds (Canvas.inBounds_fresh _)).finish
  intro s hs
  obtain ⟨le, start, stop, point⟩ := h.segments s hs
  refine ⟨le, ?_, Text.boundary_iff_isValid.1 start, Text.boundary_iff_isValid.1 stop, point⟩
  have : (scene.compose (plan.run scene)).text.content.utf8ByteSize = _ :=
    Text.utf8ByteSize_ofList _
  rw [this]
  exact stop.le

theorem Rendered.IsPlanned.sound {scene : Scene} {rendered : Rendered}
    (h : rendered.IsPlanned scene) : rendered.text.Sound := by
  obtain ⟨plan, rfl⟩ := h
  exact sound_compose scene plan

/-- Whatever is rendered, under any configuration, has segments that lie between characters of its
text: the text of any operations in any order, a tree, a message, a reply, an activity or a
tooltip. -/
theorem sound_renderings (config : Config) (store : Option Store) :
    (∀ (message : Option Message) (plan : Plan),
        (({ config, message, store } : Scene).compose (plan.run { config, message, store })).text.Sound) ∧
      (∀ (message : Option Message) (node : Node),
        (({ config, message, store } : Scene).renderNode node).text.Sound) ∧
      (∀ (message : Option Message) (source : String),
        (({ config, message, store } : Scene).renderSource source).text.Sound) ∧
      (∀ message : Message, (message.render config store).text.Sound) ∧
      (∀ (message : Message) (referenced : Option Message),
        (message.renderReply referenced config store).text.Sound) ∧
      (∀ activity : Activity, (activity.render config).text.Sound) ∧
      ∀ (user : User) (guild : Option GuildId),
        (user.renderTooltip guild config store).text.Sound :=
  ⟨fun _ plan => sound_compose _ plan,
    fun _ node => (Scene.isPlanned_renderNode _ node).sound,
    fun _ source => (Scene.isPlanned_renderNode _ (.ofSource source)).sound,
    fun message => (message.isPlanned_render config store).sound,
    fun message referenced => (message.isPlanned_renderReply referenced config store).sound,
    fun activity => (activity.isPlanned_render config).sound,
    fun user guild => (user.isPlanned_renderTooltip guild config store).sound⟩

end RichChat

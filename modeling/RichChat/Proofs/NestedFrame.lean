import RichChat.Proofs.Handler

/-!
# A nested rendering leaves its canvas alone

A nested canvas shares the buffer, and whatever is drawn on it may stay open: attributes, links,
quotes, lists. A `Script` is any sequence of operations on a canvas, with segments of any kind at
any offsets, be they in the text or not. After a script and the end of the nested rendering, the
canvas around it is `Undisturbed`: it has what it had, and more text (`Script.undisturbed_within`).

Only the marker is shared and changed. The nested canvas starts with no quotes, on the marker that
it finds, and its quotes stay on that marker (`Additive.stacked`); its end closes them all and so
gives the marker back (`Canvas.finish_marker`).
-/

namespace RichChat

/-- Operations in the order in which they are done, among them segments that are made of anything.
A nested rendering has a script of its own. -/
inductive Script
  | done
  | op (o : Op) (rest : Script)
  | push (segment : Segment) (rest : Script)
  | nested (source : String) (inner rest : Script)

def Script.run (scene : Scene) : Script → Canvas → Canvas
  | done, c => c
  | op o rest, c => rest.run scene (o.run scene c)
  | push segment rest, c => rest.run scene (c.push segment)
  | nested source inner rest, c =>
    rest.run scene (c.within scene.config source (inner.run scene))

/-- A plan is a script whose segments are all made by handlers. -/
def Plan.script : Plan → Script
  | done => .done
  | op o rest => .op o rest.script
  | nested source inner rest => .nested source inner.script rest.script

theorem Plan.run_script (scene : Scene) (plan : Plan) (c : Canvas) :
    plan.script.run scene c = plan.run scene c := by
  induction plan generalizing c with
  | done => rfl
  | op o rest ih => exact ih _
  | nested source inner rest ihInner ihRest =>
    rw [script, Script.run, Plan.run, funext ihInner]
    exact ihRest _

/-- The canvas has more text, and otherwise all that it had. Segments and what the store was asked
for may have been added, and the open run may have ended. -/
structure Undisturbed (c d : Canvas) : Prop where
  counts : d.runs.counts = c.runs.counts
  links : d.links = c.links
  quotes : d.quotes = c.quotes
  lists : d.lists = c.lists
  emojiSize : d.emojiSize = c.emojiSize
  depth : d.depth = c.depth
  marker : d.buffer.marker = c.buffer.marker
  text : c.buffer.text <+: d.buffer.text

namespace Undisturbed

variable {c d e : Canvas}

theorem refl (c : Canvas) : Undisturbed c c :=
  ⟨rfl, rfl, rfl, rfl, rfl, rfl, rfl, List.prefix_rfl⟩

theorem trans (hcd : Undisturbed c d) (hde : Undisturbed d e) : Undisturbed c e where
  counts := hde.counts.trans hcd.counts
  links := hde.links.trans hcd.links
  quotes := hde.quotes.trans hcd.quotes
  lists := hde.lists.trans hcd.lists
  emojiSize := hde.emojiSize.trans hcd.emojiSize
  depth := hde.depth.trans hcd.depth
  marker := hde.marker.trans hcd.marker
  text := hcd.text.trans hde.text

theorem append (c : Canvas) (cs : List Char) :
    Undisturbed c { c with buffer := c.buffer.append cs } :=
  ⟨rfl, rfl, rfl, rfl, rfl, rfl, rfl, List.prefix_append _ _⟩

theorem flush (c : Canvas) : Undisturbed c c.flush := by
  rcases c.flush_cases with ⟨-, heq⟩ | ⟨-, heq⟩ <;> rw [heq]
  · exact .refl c
  · exact ⟨rfl, rfl, rfl, rfl, rfl, rfl, rfl, List.prefix_append _ _⟩

theorem put (c : Canvas) (text : String) : Undisturbed c (c.put text) :=
  Canvas.put_keeps (fun d h => h.trans (.flush d)) (fun d cs h => h.trans (.append d cs)) (.refl c)
    text

end Undisturbed

/-- Drawing has added to the text, and has left the quotes on the marker that they stand on. -/
structure Additive (config : Config) (c d : Canvas) : Prop where
  text : c.buffer.text <+: d.buffer.text
  stacked : ∀ {base}, c.StackedOn config base → d.StackedOn config base

namespace Additive

variable {config : Config} {c d e : Canvas}

theorem refl (c : Canvas) : Additive config c c := ⟨List.prefix_rfl, id⟩

theorem trans (hcd : Additive config c d) (hde : Additive config d e) : Additive config c e :=
  ⟨hcd.text.trans hde.text, fun h => hde.stacked (hcd.stacked h)⟩

end Additive

theorem Undisturbed.additive {c d : Canvas} (h : Undisturbed c d) (config : Config) :
    Additive config c d := by
  refine ⟨h.text, fun hc => ?_⟩
  unfold Canvas.StackedOn at hc ⊢
  rwa [h.quotes, h.marker]

theorem Op.additive (scene : Scene) (o : Op) (c : Canvas) :
    Additive scene.config c (o.run scene c) := by
  obtain ⟨ss, hdrawn, -⟩ := o.drawn scene c
  exact ⟨hdrawn.prefix_text, hdrawn.stacked⟩

namespace Canvas

variable (c : Canvas) {config : Config} {draw : Canvas → Canvas}

/-- Above the greatest depth a nested rendering goes on behind the open run, which has ended. -/
theorem within_eq (source : String) (hdepth : c.depth + 1 < config.maxDepth) :
    let inner := (draw (c.flush.splitRun.child config)).finish
    c.within config source draw = { c.flush with
      buffer := inner.buffer
      requested := inner.requested
      segments := addRun c.flush.segments
        (c.flush.runs.region c.flush.runs.active c.flush.length) ++ inner.segments
      runs := ⟨inner.length, c.flush.runs.counts⟩ } := by
  intro inner
  rw [within, if_neg (by omega)]
  exact adopt_eq c.flush inner

/-- A nested rendering leaves its canvas undisturbed if what is drawn on the nested one adds to the
text and keeps the quotes on the marker. -/
theorem undisturbed_of_additive (source : String) (hdraw : ∀ d, Additive config d (draw d)) :
    Undisturbed c (c.within config source draw) := by
  by_cases hdepth : c.depth + 1 < config.maxDepth
  · have hinner := hdraw (c.flush.splitRun.child config)
    have hmarker := finish_marker (hinner.stacked (c.flush.splitRun.stackedOn_child config))
    have htext := hinner.text
    rw [splitRun_buffer] at hmarker
    refine (Undisturbed.flush c).trans ?_
    rw [c.within_eq source hdepth]
    refine ⟨rfl, rfl, rfl, rfl, rfl, rfl, hmarker, ?_⟩
    rw [finish_text]
    simpa [child] using htext
  · rw [within, if_pos (by omega)]
    exact .put c source

/-- A marker that is due ends the open run. What has then ended is all that would end without it. -/
theorem addRun_flush :
    addRun c.flush.segments (c.flush.runs.region c.flush.runs.active c.flush.length)
      = addRun c.segments (c.runs.region c.runs.active c.length) := by
  rcases c.flush_cases with ⟨-, heq⟩ | ⟨-, heq⟩ <;> rw [heq]
  simp [Runs.region, length, addRun]

end Canvas

namespace Script

variable (scene : Scene)

theorem additive (script : Script) (c : Canvas) :
    Additive scene.config c (script.run scene c) := by
  induction script generalizing c with
  | done => exact .refl c
  | op o rest ih => exact (o.additive scene c).trans (ih _)
  | push segment rest ih =>
    have hpush : Additive scene.config c (c.push segment) := ⟨List.prefix_rfl, id⟩
    exact hpush.trans (ih _)
  | nested source inner rest ihInner ihRest =>
    exact ((c.undisturbed_of_additive source ihInner).additive scene.config).trans (ihRest _)

/-- A nested rendering leaves its canvas undisturbed, whatever is drawn on the nested canvas and
left open there. Above the greatest depth its segments come behind those that there were and the run
that was open, which is put at their end or makes the last of them longer. What handlers draw in it
is one such script. -/
theorem undisturbed_within (c : Canvas) (source : String) :
    (∀ script : Script,
      Undisturbed c (c.within scene.config source (script.run scene)) ∧
        (c.depth + 1 < scene.config.maxDepth →
          (c.within scene.config source (script.run scene)).segments
            = addRun c.segments (c.runs.region c.runs.active c.length)
              ++ (script.run scene (c.flush.splitRun.child scene.config)).finish.segments)) ∧
      ∃ script : Script,
        c.nested .builtin scene source = c.within scene.config source (script.run scene) := by
  refine ⟨fun script => ⟨c.undisturbed_of_additive source (script.additive scene), ?_⟩, ?_⟩
  · intro hdepth
    rw [c.within_eq source hdepth, ← c.addRun_flush]
  · obtain ⟨inner, heq⟩ := c.nested_eq_within scene source
    exact ⟨inner.script, by rw [heq, funext (inner.run_script scene)]⟩

/-- The nested canvas closes neither its quote nor its list, its link and its attribute. The next
item of the list around it is still the third one. -/
theorem undisturbed_within_open :
    let scene : Scene := {}
    let c := ((((Canvas.fresh {}).openQuote {}).openList (some 3)).enter .bold).put "a"
    let script : Script := .op .openQuote (.op (.openList (some 7)) (.op .numberItem
      (.op (.enter .italic) (.op .openLink (.op (.write "b") .done)))))
    let d := c.within scene.config "" (script.run scene)
    c.depth + 1 < scene.config.maxDepth ∧ Undisturbed c d ∧ d.lists = [some 3] ∧
      d.content = "> a\n\n> > b" ∧
      d.segments = [⟨2, 3, .styled .bold⟩, ⟨9, 10, .styled .italic⟩, ⟨5, 10, .quoteBlock⟩] := by
  intro scene c script d
  have hdepth : c.depth + 1 < scene.config.maxDepth := by decide
  obtain ⟨hundisturbed, hsegments⟩ := (undisturbed_within scene c "").1 script
  exact ⟨hdepth, hundisturbed, hundisturbed.lists.trans rfl, by decide,
    (hsegments hdepth).trans (by decide)⟩

end Script

end RichChat

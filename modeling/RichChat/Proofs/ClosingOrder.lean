import RichChat.Proofs.Mentioned

/-!
# Segments in the order in which they close

A segment is listed when it is closed, and it ends where the text ends at that moment, so the ends
of the segments of a finished text do not decrease (`ordered_renderings`). Only the segment of a
quote may end before, since it leaves out the blanks at the end.

`Canvas.InOrder` says this of a canvas whose text had a length when it was started. A run that is
joined to the last segment moves the end of the list only (`InOrder.close`). The segments of a
nested rendering all end behind the text that it goes on from, so they follow the others in order as
well (`InOrder.adopt`).
-/

namespace RichChat

/-- Where the segments end that are no quotes, in the order of the list. -/
def stops (segments : List Segment) : List Nat :=
  (segments.filter fun s => s.kind ≠ .quoteBlock).map (·.stop)

theorem stops_append (front back : List Segment) :
    stops (front ++ back) = stops front ++ stops back := by
  simp [stops]

theorem eq_of_mem_stops {s : Segment} {offset n : Nat} (hs : s.ClosesAt offset)
    (hn : n ∈ stops [s]) : n = offset := by
  obtain ⟨t, ht, rfl⟩ := List.mem_map.1 hn
  obtain ⟨hmem, hkind⟩ := List.mem_filter.1 ht
  obtain rfl := List.mem_singleton.1 hmem
  exact hs.resolve_left (of_decide_eq_true hkind)

namespace Canvas

/-- The segments of a canvas close in the order of the list, at `start` or later. -/
structure InOrder (start : Nat) (c : Canvas) : Prop where
  sorted : (start :: stops c.segments).Pairwise (· ≤ ·)
  le : ∀ n ∈ start :: stops c.segments, n ≤ c.length

variable {start : Nat} {c d : Canvas}

namespace InOrder

theorem start_le (h : c.InOrder start) : start ≤ c.length := h.le start List.mem_cons_self

theorem mono (h : c.InOrder start) (hsegments : d.segments = c.segments)
    (hlength : c.length ≤ d.length) : d.InOrder start := by
  refine ⟨?_, fun n hn => ?_⟩
  · rw [hsegments]
    exact h.sorted
  · rw [hsegments] at hn
    exact Nat.le_trans (h.le n hn) hlength

theorem note (h : c.InOrder start) (requested : List FetchRequest) :
    InOrder start { c with requested } := h.mono rfl (Nat.le_refl _)

/-- A segment that closes now may follow the others, or all but some of the last. -/
theorem close (h : c.InOrder start) {front : List Segment} {s : Segment}
    (hfront : front <+: c.segments) (hs : s.ClosesAt c.length)
    (hsegments : d.segments = front ++ [s]) (hlength : c.length ≤ d.length) :
    d.InOrder start := by
  have hsub : (start :: stops front).Sublist (start :: stops c.segments) :=
    ((hfront.sublist.filter _).map _).cons_cons start
  have hstops : start :: stops d.segments = (start :: stops front) ++ stops [s] := by
    rw [hsegments, stops_append, List.cons_append]
  have hone : (stops [s]).Pairwise (· ≤ ·) := by
    unfold stops
    by_cases hk : s.kind = .quoteBlock <;> simp [hk]
  refine ⟨?_, fun n hn => ?_⟩
  · rw [hstops]
    refine List.pairwise_append.2 ⟨h.sorted.sublist hsub, hone, fun a ha b hb => ?_⟩
    rw [eq_of_mem_stops hs hb]
    exact h.le a (hsub.subset ha)
  · rw [hstops] at hn
    rcases List.mem_append.1 hn with hn | hn
    · exact Nat.le_trans (h.le n (hsub.subset hn)) hlength
    · exact Nat.le_trans (Nat.le_of_eq (eq_of_mem_stops hs hn)) hlength

theorem endRun (h : c.InOrder start) (a : Attribute)
    (hsegments : d.segments = addRun c.segments (c.runs.region a c.length))
    (hlength : c.length ≤ d.length) : d.InOrder start := by
  rcases region_cases c.runs a c.length with ⟨heq, -⟩ | ⟨heq, -, -⟩ <;> rw [heq] at hsegments
  · exact h.mono hsegments hlength
  · rcases addRun_cases c.segments ⟨c.runs.start, c.length, .styled a⟩
      with hrun | ⟨front, last, hfront, -, -, hrun⟩ <;> rw [hrun] at hsegments
    · exact h.close List.prefix_rfl (.inr rfl) hsegments hlength
    · exact h.close (hfront ▸ List.prefix_append _ _) (.inr rfl) hsegments hlength

end InOrder

theorem length_le_append (c : Canvas) (cs : List Char) :
    c.length ≤ (c.buffer.append cs).length := by
  rw [Buffer.append_length]
  exact Nat.le_add_right _ _

theorem stable_inOrder (start : Nat) : Stable (fun _ => True) (InOrder start) where
  flush {c} h := by
    rcases c.flush_cases with ⟨-, heq⟩ | ⟨-, heq⟩ <;> rw [heq]
    · exact h
    · exact h.endRun _ rfl (c.length_le_append _)
  append {c} cs h := h.mono rfl (c.length_le_append cs)
  change {c} counts h := by
    rcases c.change_cases counts with ⟨-, heq⟩ | ⟨-, heq⟩ <;> rw [heq]
    · exact h.mono rfl (Nat.le_refl _)
    · exact h.endRun _ rfl (Nat.le_refl _)
  push _ hstop h := h.close List.prefix_rfl hstop rfl (Nat.le_refl _)
  frame _ _ _ _ h := h.mono rfl (Nat.le_refl _)

theorem inOrder_fresh (config : Config) : (fresh config).InOrder 0 :=
  ⟨List.pairwise_singleton _ _, by simp [stops, fresh]⟩

theorem telling_inOrder (scene : Scene) (start : Nat) : Telling scene fun _ => InOrder start where
  stable _ := (stable_inOrder start).mono fun _ _ => trivial
  mention target h := (stable_inOrder start).mention (.all _) (fun _ h => h.note _) h target
  resize _ h := h.mono rfl (Nat.le_refl _)

theorem InOrder.draw (h : c.InOrder start) (scene : Scene) (node : Node) :
    (c.draw .builtin scene node).InOrder start :=
  @Telling.draw scene (fun _ => InOrder start) [] c (telling_inOrder scene start) h node

theorem inOrder_child (c : Canvas) (config : Config) : (c.child config).InOrder c.length :=
  ⟨List.pairwise_singleton _ _, by simp [stops, child, length]⟩

/-- The segments of a nested canvas close behind all others. -/
theorem InOrder.adopt (h : c.InOrder start) {inner : Canvas} (hinner : inner.InOrder c.length) :
    ((c.adopt inner).resetRun).InOrder start := by
  have hstops : start :: stops ((c.adopt inner).resetRun).segments
      = (start :: stops c.segments) ++ stops inner.segments :=
    congrArg (start :: ·) (stops_append _ _)
  obtain ⟨hbehind, hsorted⟩ := List.pairwise_cons.1 hinner.sorted
  refine ⟨?_, fun n hn => ?_⟩
  · rw [hstops]
    exact List.pairwise_append.2
      ⟨h.sorted, hsorted, fun a ha b hb => Nat.le_trans (h.le a ha) (hbehind b hb)⟩
  · rw [hstops] at hn
    rcases List.mem_append.1 hn with hn | hn
    · exact Nat.le_trans (h.le n hn) hinner.start_le
    · exact hinner.le n (List.mem_cons_of_mem _ hn)

theorem InOrder.nested (h : c.InOrder start) (scene : Scene) (source : String) :
    (c.nested .builtin scene source).InOrder start := by
  unfold Canvas.nested
  split
  · exact (stable_inOrder start).put h source
  -- the run that is open around the nested text ends first
  · have hrun : InOrder start c.flush.splitRun := by
      rw [splitRun_eq]
      exact ((stable_inOrder start).flush h).endRun _ rfl (Nat.le_refl _)
    have hchild := c.flush.splitRun.inOrder_child scene.config
    exact hrun.adopt ((stable_inOrder _).finish trivial (hchild.draw scene (.ofSource source)))

theorem nested_inOrder (scene : Scene) (depth : Nat) :
    TellingNested scene depth fun _ => InOrder 0 where
  toTelling := telling_inOrder scene 0
  nested source h := h.nested scene source

theorem InOrder.status (h : c.InOrder start) (config : Config) (activity : Activity) :
    (c.status config activity).InOrder start := by
  have stable := stable_inOrder start
  have hemoji {c : Canvas} (emoji : ActivityEmoji) (hc : c.InOrder start) :
      (c.statusEmoji config emoji).InOrder start := by
    unfold statusEmoji
    split
    · exact stable.anchor hc trivial
    · exact stable.put hc _
  have hfront : (c.drawSome activity.emoji fun c emoji =>
      let c := c.statusEmoji config emoji
      if activity.state.isSome then c.put " " else c).InOrder start := by
    refine drawSome_keeps (Q := InOrder start) (fun {d} emoji hd => ?_) _ h
    dsimp only
    split
    · exact stable.put (hemoji emoji hd) _
    · exact hemoji emoji hd
  exact drawSome_keeps (Q := InOrder start) (fun text hd => stable.put hd text) _ hfront

theorem InOrder.replied (h : c.InOrder start) (scene : Scene) (message : Message) :
    (c.replied .builtin scene message).InOrder start := by
  have stable := stable_inOrder start
  have hauthor := stable.put (stable.mentionUser (.all scene.config)
    (fun _ h => h.note _) h message.author.id (some message.author)) ": "
  unfold Canvas.replied excerpt
  dsimp only
  split
  · exact hauthor.draw scene _
  · split
    · exact hauthor
    · exact stable.writeWith hauthor _ _

end Canvas

/-- The segments of the text that are no quotes close in the order of the list. -/
def RichText.Ordered (t : RichText) : Prop :=
  (t.segments.filter fun s => s.kind ≠ .quoteBlock).Pairwise fun s u => s.stop ≤ u.stop

theorem Scene.ordered_compose (scene : Scene) {draw : Canvas → Canvas}
    (hdraw : (draw (.fresh scene.config)).InOrder 0) : (scene.compose draw).text.Ordered := by
  have hfinish := (Canvas.stable_inOrder 0).finish trivial hdraw
  exact List.pairwise_map.1 (List.pairwise_cons.1 hfinish.sorted).2

theorem Scene.ordered_renderNode (scene : Scene) (node : Node) :
    (scene.renderNode node).text.Ordered :=
  scene.ordered_compose (@Telling.document scene (fun _ => Canvas.InOrder 0) [] _
    (Canvas.telling_inOrder scene 0) (Canvas.inOrder_fresh scene.config) node)

theorem Message.ordered_render (message : Message) (config : Config) (store : Option Store) :
    (message.render config store).text.Ordered :=
  let scene : Scene := { config, message := some message, store }
  scene.ordered_compose
    ((Canvas.nested_inOrder scene 0).parts message (Canvas.inOrder_fresh config))

theorem Message.ordered_renderReply (message : Message) (referenced : Option Message)
    (config : Config) (store : Option Store) :
    (message.renderReply referenced config store).text.Ordered := by
  have stable := Canvas.stable_inOrder 0
  have hput := stable.put (Canvas.inOrder_fresh config) "↪ "
  unfold Message.renderReply
  refine Scene.ordered_compose { config, message := some (referenced.getD message), store } ?_
  cases referenced with
  | none =>
    have hdeleted := stable.writeWith hput .italic "Original message was deleted"
    dsimp only
    split
    · exact stable.emitAll hdeleted trivial
    · exact hdeleted
  | some m => exact stable.emitAll (hput.replied { config, message := some m, store } m) trivial

theorem Activity.ordered_render (activity : Activity) (config : Config) :
    (activity.render config).text.Ordered := by
  have hfresh := Canvas.inOrder_fresh config
  unfold Activity.render
  refine Scene.ordered_compose { config } ?_
  dsimp only
  split
  · exact (Canvas.stable_inOrder 0).activity (fun _ => trivial) hfresh _ activity
  · exact hfresh.status config activity

theorem User.ordered_renderTooltip (user : User) (guild : Option GuildId) (config : Config)
    (store : Option Store) : (user.renderTooltip guild config store).text.Ordered := by
  obtain ⟨draw, heq, hdraw⟩ := (Canvas.stable_inOrder 0).tooltip (.all config)
    (fun _ h => h.note _) (Canvas.inOrder_fresh config) user guild store
  rw [heq]
  exact Scene.ordered_compose { config, store } hdraw

/-- Whatever is rendered, a tree, a message, a reply, an activity or a tooltip, lists its segments
in the order in which they close. -/
theorem ordered_renderings (config : Config) (store : Option Store) :
    (∀ (message : Option Message) (node : Node),
        (({ config, message, store } : Scene).renderNode node).text.Ordered) ∧
      (∀ (message : Option Message) (source : String),
        (({ config, message, store } : Scene).renderSource source).text.Ordered) ∧
      (∀ message : Message, (message.render config store).text.Ordered) ∧
      (∀ (message : Message) (referenced : Option Message),
        (message.renderReply referenced config store).text.Ordered) ∧
      (∀ activity : Activity, (activity.render config).text.Ordered) ∧
      ∀ (user : User) (guild : Option GuildId),
        (user.renderTooltip guild config store).text.Ordered :=
  ⟨fun message node => Scene.ordered_renderNode { config, message, store } node,
    fun message source => Scene.ordered_renderNode { config, message, store } (.ofSource source),
    fun message => message.ordered_render config store,
    fun message referenced => message.ordered_renderReply referenced config store,
    fun activity => activity.ordered_render config,
    fun user guild => user.ordered_renderTooltip guild config store⟩

end RichChat

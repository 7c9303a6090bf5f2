import Mathlib
import RichChat.Proofs.Places
import RichChat.Proofs.Turns

/-!
# How a text ends

Space is left because something follows, before it is known whether anything is drawn of that. If
something is drawn after each visit that leaves space (`SpaceTaken`), then the text ends with what
was written, or an anchor is at its end (`Scene.ended_renderNode`). Otherwise the space may be at
the end of the text: an empty quote has an empty line in front of it.
-/

namespace RichChat

/-- Whether a pen writes nothing but space. -/
def Pen.isSpace : Pen → Bool
  | endLine | startBlock | openQuote => true
  | text _ | code _ | point | closeQuote => false

/-- One of the pens wrote the last character of the text, and it did not leave space. -/
def EndsInInk (config : Config) (steps : List (Page × Pen)) (text : List Char) : Prop :=
  ∃ step ∈ steps, step.2.isSpace = false ∧ step.1.buffer.text ≠ text ∧
    (step.2.run config step.1).buffer.text = text

instance (config : Config) (steps : List (Page × Pen)) (text : List Char) :
    Decidable (EndsInInk config steps text) :=
  inferInstanceAs (Decidable (∃ step ∈ steps, _))

/-- An anchor is at the end of the text. -/
def RichText.EndsAtAnchor (t : RichText) : Prop :=
  ∃ s ∈ t.segments, s.kind.isAnchor = true ∧ s.start = t.content.utf8ByteSize

/-- Whether something is drawn of a node itself. -/
def NodeKind.draws : NodeKind → Bool
  | text s soft hard => s ≠ "" || soft || hard
  | autolink url => url ≠ ""
  | codeBlock _ lines => "\n".intercalate lines ≠ ""
  | listItem | thematicBreak | mention _ | emoji _ => true
  | document | paragraph | heading _ | inline _ | link _ | blockquote | list _ => false

namespace Visit

def draws (visit : Visit) : Bool := visit.entering && visit.node.kind.draws

/-- Whether space may be left at a visit after what is drawn at it. -/
def leavesSpace (visit : Visit) : Bool :=
  match visit.node.kind with
  | .blockquote | .list _ => visit.entering || visit.next.isSome
  | .codeBlock _ _ => if visit.entering then !visit.draws else visit.next.isSome
  | .paragraph | .heading _ | .thematicBreak => !visit.entering && visit.next.isSome
  | _ => false

end Visit

/-- Something is drawn after each visit that leaves space. -/
def SpaceTaken : List Visit → Prop
  | [] => True
  | visit :: visits =>
    (visit.leavesSpace = true → ∃ later ∈ visits, later.draws = true) ∧ SpaceTaken visits

instance : ∀ visits : List Visit, Decidable (SpaceTaken visits)
  | [] => .isTrue trivial
  | _ :: visits =>
    have := instDecidableSpaceTaken visits
    inferInstanceAs (Decidable (_ ∧ _))

theorem SpaceTaken.of_concat {visits : List Visit} {visit : Visit}
    (h : SpaceTaken (visits ++ [visit])) (hdraws : visit.draws = false) :
    SpaceTaken visits ∧ visit.leavesSpace = false := by
  induction visits with
  | nil =>
    refine ⟨trivial, Bool.eq_false_iff.2 fun hspace => ?_⟩
    obtain ⟨later, hlater, -⟩ := h.1 hspace
    exact absurd hlater List.not_mem_nil
  | cons first visits ih =>
    obtain ⟨htaken, hspace⟩ := ih h.2
    refine ⟨⟨fun hfirst => ?_, htaken⟩, hspace⟩
    obtain ⟨later, hlater, hlaterDraws⟩ := h.1 hfirst
    rcases List.mem_append.1 hlater with hlater | hlater
    · exact ⟨later, hlater, hlaterDraws⟩
    · rw [List.mem_singleton.1 hlater, hdraws] at hlaterDraws
      cases hlaterDraws

namespace Page

variable {config : Config} {p : Page}

theorem steps_append (pens more : List Pen) :
    p.steps config (pens ++ more)
      = p.steps config pens ++ (p.run config pens).steps config more := by
  induction pens generalizing p with
  | nil => rfl
  | cons pen pens ih => rw [List.cons_append, steps, steps, ih, run_cons, List.cons_append]

theorem le_writePieces {ps : List (List Char)} (hps : ∀ q ∈ ps, Text.pieces q = [q]) (p : Page) :
    p.buffer.text.length + ps.length ≤ (ps.foldl writePiece p).buffer.text.length := by
  induction ps generalizing p with
  | nil => exact Nat.le_refl _
  | cons q ps ih =>
    have hq := hps q List.mem_cons_self
    have hpos : 0 < q.length :=
      List.length_pos_of_ne_nil (Text.ne_nil_of_mem_pieces (hq ▸ List.mem_singleton_self q))
    have hpiece : p.buffer.text.length + q.length ≤ (p.writePiece q).buffer.text.length := by
      unfold writePiece
      split
      · simp [append]
      · rename_i hfeed
        rw [Buffer.write_piece _ hq hfeed]
        simp only [flush, Buffer.flush_eq_append, Buffer.append_text, List.length_append]
        omega
    have hrest := ih (fun r hr => hps r (List.mem_cons_of_mem q hr)) (p.writePiece q)
    rw [List.foldl_cons, List.length_cons]
    omega

theorem write_ne (p : Page) {s : String} (hne : s ≠ "") :
    p.buffer.text ≠ (p.write s).buffer.text := by
  intro heq
  have hpieces : Text.pieces s.toList ≠ [] := by
    intro hnil
    have hflat := Text.flatten_pieces s.toList
    rw [hnil] at hflat
    exact hne (String.toList_eq_nil_iff.1 hflat.symm)
  have hle := le_writePieces (fun q (hq : q ∈ Text.pieces s.toList) => Text.pieces_of_mem hq) p
  have hpos := List.length_pos_of_ne_nil hpieces
  have hlength := congrArg List.length heq
  rw [write] at hlength
  omega

/-- Pens that leave no space leave the text as it is, or write its end. -/
theorem endsInInk_or_eq (p : Page) {pens : List Pen} (hpens : ∀ pen ∈ pens, pen.isSpace = false) :
    EndsInInk config (p.steps config pens) (p.run config pens).buffer.text ∨
      (p.run config pens).buffer.text = p.buffer.text := by
  induction pens using List.reverseRecOn with
  | nil => exact .inr rfl
  | append_singleton pens pen ih =>
    obtain ⟨hpens, hpen⟩ := List.forall_mem_append.1 hpens
    have hlast : (p.run config pens, pen) ∈ p.steps config (pens ++ [pen]) := by
      rw [steps_append]
      exact List.mem_append_right _ List.mem_cons_self
    rw [run_append]
    by_cases hsame : (p.run config pens).buffer.text
        = ((p.run config pens).run config [pen]).buffer.text
    · rw [← hsame]
      refine (ih hpens).imp_left fun ⟨step, hstep, hink⟩ => ⟨step, ?_, hink⟩
      rw [steps_append]
      exact List.mem_append_left _ hstep
    · exact .inl ⟨_, hlast, hpen pen (List.mem_singleton_self pen), hsame, rfl⟩

/-- The last pen writes the end of the text if it adds to it. -/
theorem endsInInk_concat (p : Page) (pens : List Pen) {pen : Pen} (hspace : pen.isSpace = false)
    (hne : ∀ q : Page, q.buffer.text ≠ (pen.run config q).buffer.text) :
    EndsInInk config (p.steps config (pens ++ [pen]))
      (p.run config (pens ++ [pen])).buffer.text := by
  rw [steps_append, run_append]
  exact ⟨(p.run config pens, pen), List.mem_append_right _ List.mem_cons_self, hspace, hne _, rfl⟩

theorem endsInInk_text (p : Page) (pens : List Pen) {s : String} (hne : s ≠ "") :
    EndsInInk config (p.steps config (pens ++ [.text s]))
      (p.run config (pens ++ [.text s])).buffer.text :=
  endsInInk_concat p pens rfl fun q => write_ne q hne

theorem endsInInk_code (p : Page) (pens : List Pen) {s : String} (hne : s ≠ "") :
    EndsInInk config (p.steps config (pens ++ [.code s]))
      (p.run config (pens ++ [.code s])).buffer.text := by
  refine endsInInk_concat p pens rfl fun q heq => hne (String.toList_eq_nil_iff.1 ?_)
  have hlength := congrArg List.length heq
  simp only [Pen.run, flush, append, Buffer.flush_eq_append, Buffer.append_text,
    List.length_append] at hlength
  exact List.eq_nil_of_length_eq_zero (by omega)

end Page

theorem EndsInInk.mono {config : Config} {steps more : List (Page × Pen)} {text : List Char}
    (h : EndsInInk config steps text) (hsub : steps ⊆ more) : EndsInInk config more text := by
  obtain ⟨step, hstep, hink⟩ := h
  exact ⟨step, hsub hstep, hink⟩

/-- What is done to the page at a turn. -/
def Scene.stepsAt (scene : Scene) (turn : Visit × Canvas) : List (Page × Pen) :=
  turn.2.page.steps scene.config (turn.1.pens scene turn.2)

/-- The text of a canvas, if there is any, ends with what was written at one of the turns, or an
anchor is at its end. -/
def Ended (scene : Scene) (turns : List (Visit × Canvas)) (c : Canvas) : Prop :=
  c.buffer.text = [] ∨ EndsInInk scene.config (turns.flatMap scene.stepsAt) c.buffer.text ∨
    RichText.EndsAtAnchor ⟨c.content, c.segments⟩

namespace Ended

variable {scene : Scene} {turns more : List (Visit × Canvas)} {c d : Canvas}

theorem mono (h : Ended scene turns c) (hsub : turns ⊆ more) : Ended scene more c :=
  h.imp_right fun h => h.imp_left fun hink => hink.mono fun step hstep => by
    obtain ⟨turn, hturn, hmem⟩ := List.mem_flatMap.1 hstep
    exact List.mem_flatMap.2 ⟨turn, hsub hturn, hmem⟩

/-- It stays so while no text is added and the anchors are kept. -/
theorem still (h : Ended scene turns c) (htext : d.buffer.text = c.buffer.text)
    (hanchors : ∀ s ∈ c.segments, s.kind.isAnchor = true → s ∈ d.segments) :
    Ended scene turns d := by
  refine h.imp (fun hempty => by rwa [htext]) (.imp (fun hink => by rwa [htext]) ?_)
  rintro ⟨s, hs, hkind, hstart⟩
  exact ⟨s, hanchors s hs hkind, hkind, by rw [Canvas.content, htext]; exact hstart⟩

/-- A visit whose last pen writes. -/
theorem of_pens {visit : Visit}
    (h : EndsInInk scene.config (scene.stepsAt (visit, c))
      (c.page.run scene.config (visit.pens scene c)).buffer.text) :
    Ended scene [(visit, c)] (Registry.builtin.visitor scene visit c).2 := by
  rw [← c.page_visitor] at h
  exact .inr (.inl (h.mono (by simp)))

end Ended

/-- On the way into a node of which something is drawn the text ends with that. -/
theorem ended_enter (scene : Scene) {kind : NodeKind} (hdraws : kind.draws = true)
    (children : List Node) (parent next : Option Node) (c : Canvas) :
    let visit : Visit := { node := .mk kind children, entering := true, parent, next }
    Ended scene [(visit, c)] (Registry.builtin.visitor scene visit c).2 := by
  intro visit
  cases kind with
  | text s soft hard =>
    refine .of_pens ?_
    cases hard with
    | true => exact Page.endsInInk_text c.page [.text s] (by decide)
    | false =>
      cases soft with
      | true => exact Page.endsInInk_text c.page [.text s] (by decide)
      | false => exact Page.endsInInk_text c.page [] (by simpa [NodeKind.draws] using hdraws)
  | autolink url =>
    exact .of_pens (Page.endsInInk_text c.page [] (by simpa [NodeKind.draws] using hdraws))
  | codeBlock language lines =>
    exact .of_pens (Page.endsInInk_code c.page [.startBlock] (of_decide_eq_true hdraws))
  | listItem =>
    refine .of_pens (Page.endsInInk_text c.page [.endLine] ?_)
    unfold Canvas.nextListMarker
    split <;> simp
  | thematicBreak => exact .of_pens (Page.endsInInk_text c.page [.startBlock] (by decide))
  | mention target =>
    refine .of_pens ?_
    show EndsInInk scene.config (c.page.steps scene.config (scene.mentionPens target))
      (c.page.run scene.config (scene.mentionPens target)).buffer.text
    unfold Scene.mentionPens
    split
    · exact Page.endsInInk_text c.page _ (target.sigil_append_ne _)
    · exact Page.endsInInk_text c.page [] target.sourceForm_ne
  | emoji e =>
    refine .inr (.inr ⟨⟨c.flush.length, c.flush.length, .image _⟩,
      List.mem_append_right _ List.mem_cons_self, rfl, ?_⟩)
    exact (Text.utf8ByteSize_ofList _).symm
  | _ => cases hdraws

/-- Drawing keeps the anchors that there are. -/
theorem Canvas.stable_place {s : Segment} : Stable (fun _ => True) fun c => s ∈ c.places where
  flush {c} h := by
    rcases c.flush_cases with ⟨-, heq⟩ | ⟨-, heq⟩ <;> rw [heq]
    · exact h
    · rwa [places, placesOf_addRun _ (isPlace_region _ _ _)]
  append _ h := h
  change {c} counts h := by
    rcases c.change_cases counts with ⟨-, heq⟩ | ⟨-, heq⟩ <;> rw [heq]
    · exact h
    · rwa [places, placesOf_addRun _ (isPlace_region _ _ _)]
  push _ _ h := by
    rw [places, push, placesOf_append]
    exact List.mem_append_left _ h
  frame _ _ _ _ h := h

/-- A visit that draws nothing and leaves no space has no pen for it. -/
theorem Visit.isSpace_pens {scene : Scene} {visit : Visit} (hdraws : visit.draws = false)
    (hspace : visit.leavesSpace = false) (c : Canvas) :
    ∀ pen ∈ visit.pens scene c, pen.isSpace = false := by
  obtain ⟨⟨kind, children⟩, entering, parent, next⟩ := visit
  -- the pens go by the kind and the direction, and on the way out by whether something follows
  cases kind <;> cases entering <;> cases next <;>
    simp_all [Visit.pens, Visit.draws, Visit.leavesSpace, Visit.space, NodeKind.draws, Pen.isSpace,
      Node.kind]

/-- At a visit that draws nothing and leaves no space at most a marker is written, and the anchors
stay. -/
theorem Ended.quiet {scene : Scene} {turns : List (Visit × Canvas)} {c : Canvas}
    (h : Ended scene turns c) {visit : Visit} (hdraws : visit.draws = false)
    (hspace : visit.leavesSpace = false) :
    Ended scene (turns ++ [(visit, c)]) (Registry.builtin.visitor scene visit c).2 := by
  rcases c.page.endsInInk_or_eq (Visit.isSpace_pens hdraws hspace c) with hink | hsame
  · exact (Ended.of_pens hink).mono (List.subset_append_right _ _)
  · have htext := (congrArg (·.buffer.text) (c.page_visitor scene visit)).trans hsame
    refine (h.still htext fun s hs hkind => ?_).mono (List.subset_append_left _ _)
    have hplace : s ∈ c.places :=
      List.mem_filter.2 ⟨hs, (SegmentKind.isPlace_iff _).2 (.inr hkind)⟩
    have hmention : visit.entering = true → visit.node.tag ≠ .mention := by
      obtain ⟨⟨kind, children⟩, entering, parent, next⟩ := visit
      rintro rfl htag
      cases kind <;> cases htag
      cases hdraws
    have hkept := Canvas.stable_place.visitor (.all scene.config) visit hmention
      (fun _ _ _ => trivial) hplace
    exact (List.mem_filter.1 hkept).1

/-- If something is drawn after each visit so far that leaves space, the text ends with what was
written. One visit more keeps this. -/
theorem ended_turn {scene : Scene} {turns : List (Visit × Canvas)} {c : Canvas} (visit : Visit)
    (h : SpaceTaken (turns.map Prod.fst) → Ended scene turns c) :
    SpaceTaken ((turns ++ [(visit, c)]).map Prod.fst) →
      Ended scene (turns ++ [(visit, c)]) (Registry.builtin.visitor scene visit c).2 := by
  intro htaken
  rw [List.map_append, List.map_singleton] at htaken
  cases hdraws : visit.draws with
  | true =>
    obtain ⟨⟨kind, children⟩, entering, parent, next⟩ := visit
    obtain ⟨rfl, hkind⟩ := Bool.and_eq_true_iff.1 hdraws
    exact (ended_enter scene hkind children parent next c).mono (List.subset_append_right _ _)
  | false =>
    obtain ⟨htaken, hspace⟩ := htaken.of_concat hdraws
    exact (h htaken).quiet hdraws hspace

/-- If something is drawn after each visit that leaves space, the text, if there is any, ends with
what was written, or with an anchor. -/
theorem Scene.ended_renderNode (scene : Scene) (node : Node)
    (htaken : SpaceTaken (scene.visits node)) :
    let t := (scene.renderNode node).text
    t.content = "" ∨ EndsInInk scene.config (scene.steps node) t.content.toList ∨
      t.EndsAtAnchor := by
  intro t
  have hstart : Ended scene [] ((Canvas.fresh scene.config).sizeEmoji scene.config node) := by
    obtain ⟨emojiSize, hsize⟩ := (Canvas.fresh scene.config).sizeEmoji_eq scene.config node
    rw [hsize]
    exact .inl rfl
  let P (turns : List (Visit × Canvas)) (c : Canvas) : Prop :=
    SpaceTaken (turns.map Prod.fst) → Ended scene turns c
  have hrun : P (scene.turns node) (scene.drawn node) :=
    traced_walkNode (P := P) ended_turn none none node fun _ => hstart
  have hended := hrun (by rwa [scene.map_fst_turns])
  have ht : t = ⟨(scene.drawn node).content, (scene.drawn node).segments⟩ :=
    scene.renderNode_drawn node
  rw [ht, scene.steps_eq_turns, Canvas.content, String.toList_ofList]
  exact hended.imp_left fun hempty => by rw [hempty]

/-- An item without text ends the text with its marker. -/
theorem Scene.ended_renderNode_item :
    let scene : Scene := {}
    let node : Node :=
      .mk .document [.mk .paragraph [.text "a"], .mk (.list none) [.leaf .listItem]]
    let t := (scene.renderNode node).text
    SpaceTaken (scene.visits node) ∧ t = ⟨"a\n\n• ", []⟩ ∧
      EndsInInk scene.config (scene.steps node) t.content.toList := by
  intro scene node t
  have htaken : SpaceTaken (scene.visits node) := by decide
  have ht : t = ⟨"a\n\n• ", []⟩ := by
    dsimp only [t]
    cbv
  obtain hempty | hink | ⟨s, hs, -⟩ := ended_renderNode scene node htaken
  · rw [show (scene.renderNode node).text = t from rfl, ht] at hempty
    exact absurd hempty (by decide)
  · exact ⟨htaken, ht, hink⟩
  · rw [show (scene.renderNode node).text = t from rfl, ht] at hs
    cases hs

/-- A quote without text has an empty line in front of it, with which the text ends. -/
theorem Scene.not_ended_quote :
    let scene : Scene := {}
    let node := Node.ofSource "a\n\n>"
    let t := (scene.renderSource "a\n\n>").text
    node = .mk .document [.mk .paragraph [.text "a"], .leaf .blockquote] ∧
      t = ⟨"a\n\n", []⟩ ∧
      ¬(t.content = "" ∨ EndsInInk scene.config (scene.steps node) t.content.toList ∨
        t.EndsAtAnchor) := by
  intro scene node t
  have hnode : node = .mk .document [.mk .paragraph [.text "a"], .leaf .blockquote] := by cbv
  have ht : t = ⟨"a\n\n", []⟩ := by
    dsimp only [t]
    cbv
  refine ⟨hnode, ht, ?_⟩
  rw [ht, hnode]
  rintro (hempty | hink | ⟨s, hs, -⟩)
  · exact absurd hempty (by decide)
  · revert hink
    unfold steps
    rw [walk_eq_walkNode]
    decide
  · cases hs

end RichChat

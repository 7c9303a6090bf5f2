import Mathlib
import RichChat.Proofs.Blocks

/-!
# Blocks that start lines

A block leaves the line behind it when something follows, and some kinds of blocks end the line in
front of them too. So whatever follows a block starts a line, and a block of these kinds does so
behind anything (`first_on_line`). A paragraph or a heading behind bare text, as in an item of a
tight list, goes on in the line of that text.
-/

namespace RichChat

section Walk

variable {σ : Type} (visitor : Visitor σ) (parent : Node)

/-- The walk over children in front of others, of which `next` is the first. -/
def walkBefore (next : Option Node) : List Node → σ → σ
  | [], s => s
  | node :: nodes, s =>
    walkBefore next nodes (walkNode visitor (some parent) (nodes.head?.or next) node s)

theorem walkAll_append (front back : List Node) (s : σ) :
    walkAll visitor parent (front ++ back) s
      = walkAll visitor parent back (walkBefore visitor parent back.head? front s) := by
  induction front generalizing s with
  | nil => rfl
  | cons node nodes ih => rw [List.cons_append, walkAll, walkBefore, ih, List.head?_append]

theorem walkBefore_concat (next : Option Node) (front : List Node) (m : Node) (s : σ) :
    walkBefore visitor parent next (front ++ [m]) s
      = walkNode visitor (some parent) next m (walkBefore visitor parent (some m) front s) := by
  induction front generalizing s with
  | nil => rw [List.nil_append, walkBefore, walkBefore, walkBefore, List.head?_nil, Option.none_or]
  | cons node nodes ih =>
    rw [List.cons_append, walkBefore, walkBefore, ih, List.head?_append]
    cases nodes <;> rfl

end Walk

/-- The kinds of blocks that end the line in front of them. -/
def NodeTag.startsLine : NodeTag → Bool
  | .blockquote | .codeBlock | .list | .thematicBreak => true
  | .document | .paragraph | .heading | .text | .inline | .link | .autolink | .listItem | .mention
  | .emoji => false

/-- The characters of a stroke, and whether they are of a marker. -/
def Stroke.chars (s : Stroke) : List (Char × Bool) :=
  s.text.map fun x => (x, s.attributes.isNone)

/-- Behind the text, the first character apart from line feeds and markers comes after a line feed,
with nothing but markers in between. -/
def FirstOnLine (text : List Char) (ss : List Stroke) : Prop :=
  ∀ lead x tail, ss.flatMap Stroke.chars = lead ++ (x, false) :: tail → x ≠ '\n' →
    (∀ y ∈ lead, y.1 = '\n' ∨ y.2 = true) →
    ∃ line marks, lead = line ++ marks ∧ (∀ y ∈ marks, y.2 = true) ∧
      (text ++ line.map Prod.fst).getLast? = some '\n'

theorem map_fst_chars (ss : List Stroke) :
    (ss.flatMap Stroke.chars).map Prod.fst = ss.flatMap Stroke.text := by
  have hone (s : Stroke) : s.chars.map Prod.fst = s.text := by
    simp [Stroke.chars, Function.comp_def]
  simp [List.map_flatMap, hone]

/-- Behind a line feed nothing but line feeds and markers keeps a line from being started. -/
theorem exists_line {text : List Char} (htext : text.getLast? = some '\n')
    {lead : List (Char × Bool)} (hlead : ∀ y ∈ lead, y.1 = '\n' ∨ y.2 = true) :
    ∃ line marks, lead = line ++ marks ∧ (∀ y ∈ marks, y.2 = true) ∧
      (text ++ line.map Prod.fst).getLast? = some '\n' := by
  induction lead using List.reverseRecOn with
  | nil => exact ⟨[], [], rfl, by simp, by simpa using htext⟩
  | append_singleton lead y ih =>
    rw [List.forall_mem_append] at hlead
    by_cases hy : y.1 = '\n'
    · exact ⟨lead ++ [y], [], by simp, by simp, by simp [List.getLast?_append, hy]⟩
    · obtain ⟨line, marks, rfl, hmarks, hline⟩ := ih hlead.1
      have hmark : y.2 = true := (hlead.2 y (by simp)).resolve_left hy
      refine ⟨line, marks ++ [y], by simp, ?_, hline⟩
      exact List.forall_mem_append.2 ⟨hmarks, by simpa using hmark⟩

theorem firstOnLine_of_ended {text : List Char} (h : text.getLast? = some '\n')
    (ss : List Stroke) : FirstOnLine text ss :=
  fun _ _ _ _ _ hlead => exists_line h hlead

/-- What starts with a line feed starts a line behind any text. -/
theorem firstOnLine_of_newline {text added : List Char} {ss : List Stroke}
    (h : ss.flatMap Stroke.text = '\n' :: added) : FirstOnLine text ss := by
  intro lead x tail hss hx hlead
  rw [← map_fst_chars, hss, List.map_append] at h
  cases lead with
  | nil => exact absurd (List.cons.inj h).1 hx
  | cons y lead =>
    obtain ⟨-, hlead⟩ := List.forall_mem_cons.1 hlead
    have hy : y.1 = '\n' := (List.cons.inj h).1
    have hended : (text ++ ['\n']).getLast? = some '\n' := List.getLast?_concat ..
    obtain ⟨line, marks, rfl, hmarks, hline⟩ := exists_line hended hlead
    exact ⟨y :: line, marks, rfl, hmarks, by simpa [hy] using hline⟩

namespace Buffer

variable {b : Buffer}

/-- Unless the text ends a line, ending it is one line feed. -/
theorem ensureBreak_text (hne : b.text ≠ []) :
    b.text.getLast? = some '\n' ∧ b.ensureBreak.text = b.text ∨
      b.text.getLast? ≠ some '\n' ∧ b.ensureBreak.text = b.text ++ ['\n'] := by
  by_cases h : b.text.getLast? = some '\n'
  · rw [ensureBreak, padNewlines_of_le (Text.lineFeeds_pos_iff.2 h)]
    exact .inl ⟨h, rfl⟩
  · have hfeeds : Text.lineFeeds b.text = 0 := Nat.eq_zero_of_not_pos (mt Text.lineFeeds_pos_iff.1 h)
    rw [ensureBreak, padNewlines_of_ne hne, hfeeds]
    exact .inr ⟨h, rfl⟩

theorem prefix_startBlock (b : Buffer) : b.ensureBreak.text <+: b.startBlock.text := by
  have hmore : b.ensureBreak.padNewlines 2 = b.startBlock := padNewlines_padNewlines 1 2
  obtain ⟨k, hk⟩ := b.ensureBreak.padNewlines_eq_append 2
  rw [← hmore, hk]
  exact List.prefix_append _ _

end Buffer

/-- A block leaves the line when something follows. -/
theorem getLast?_separate {c : Canvas} {visit : Visit}
    (hne : (c.separate visit).buffer.text ≠ []) (hnext : visit.next ≠ none) :
    (c.separate visit).buffer.text.getLast? = some '\n' := by
  unfold Canvas.separate at hne ⊢
  split at hne
  · contradiction
  · exact Buffer.getLast?_padNewlines Nat.two_pos hne
  · exact Buffer.getLast?_padNewlines Nat.two_pos hne
  · exact Buffer.getLast?_padNewlines Nat.one_pos hne

section Block

variable {scene : Scene} {n : Node}

theorem prefix_drawCode (c : Canvas) (language : Option String) (lines : List String) :
    c.startBlock.buffer.text <+: (Handler.drawCode c language lines).buffer.text := by
  have hflush : c.startBlock.buffer.text <+: c.startBlock.flush.buffer.text := by
    simp [Buffer.flush_eq_append]
  unfold Handler.drawCode
  dsimp only
  split <;> exact hflush.trans (List.prefix_append _ _)

/-- The line in front of a block that starts one is ended on the way in. -/
theorem prefix_visitor (hn : n.tag.startsLine = true) (parent next : Option Node) (c : Canvas) :
    c.ensureBreak.buffer.text <+:
      (Registry.builtin.visitor scene { node := n, entering := true, parent, next }
        c).2.buffer.text := by
  have hstart : c.ensureBreak.buffer.text <+: c.startBlock.buffer.text :=
    c.buffer.prefix_startBlock
  obtain ⟨kind, children⟩ := n
  cases kind with
  | blockquote => exact hstart
  | codeBlock language lines => exact hstart.trans (prefix_drawCode c language lines)
  | list start =>
    show _ <+: (Canvas.openList (if c.lists.isEmpty then c.startBlock else c.ensureBreak)
      start).buffer.text
    split
    · exact hstart
    · exact List.prefix_rfl
  | thematicBreak =>
    have hput : Planned scene c.startBlock (c.startBlock.put "───") := (Planned.refl _).put _
    exact hstart.trans hput.prefix_text
  | _ => cases hn

theorem planned_in {visitor : Visitor Canvas} (hv : Visitor.IsPlanned scene visitor)
    (parent next : Option Node) (n : Node) (c : Canvas) :
    Planned scene (visitor { node := n, entering := true, parent, next } c).2
      (walkNode visitor parent next n c) := by
  obtain ⟨kind, children⟩ := n
  rw [walkNode]
  rcases visitor { node := .mk kind children, entering := true, parent, next } c with ⟨flow, d⟩
  cases flow
  · exact (planned_walkAll hv _ children d).trans (hv _ _)
  · exact hv _ _

theorem prefix_walkNode (hn : n.tag.startsLine = true) (parent next : Option Node) (c : Canvas) :
    c.ensureBreak.buffer.text <+:
      (walkNode (Registry.builtin.visitor scene) parent next n c).buffer.text :=
  (prefix_visitor hn parent next c).trans
    (planned_in (Registry.isNamed_builtin.isPlanned scene) parent next n c).prefix_text

end Block

/-- A child of a node whose turn has come starts a line if the text in front of it ends one, if the
child is a block that ends it, and if the child before it is a block. A line that is started has
nothing but markers in front of the first character that is drawn. -/
theorem first_on_line (scene : Scene) (parent n : Node) (front back : List Node) (c : Canvas) :
    let visitor := Registry.builtin.visitor scene
    let d := walkBefore visitor parent (some n) front c
    let e := walkNode visitor (some parent) back.head? n d
    walkAll visitor parent (front ++ n :: back) c = walkAll visitor parent back e ∧
      (∃ ss, Drawn scene d ss e) ∧
      (d.buffer.text ≠ [] →
        d.buffer.text.getLast? = some '\n' ∨ n.tag.startsLine = true ∨
          (∃ m ∈ front.getLast?, m.tag.isBlock = true) →
        ∀ ss, Drawn scene d ss e → FirstOnLine d.buffer.text ss) := by
  intro visitor d e
  have hplanned := Registry.isNamed_builtin.isPlanned scene
  refine ⟨?_, ?_, fun hne hcases ss hss => ?_⟩
  · rw [walkAll_append, walkAll]
    rfl
  · obtain ⟨plan, hplan⟩ := planned_walkNode hplanned (some parent) back.head? n d
    obtain ⟨ss, hss, -⟩ := plan.drawn scene d
    rw [hplan] at hss
    exact ⟨ss, hss⟩
  · rcases hcases with hended | hstarts | ⟨m, hm, hblock⟩
    · exact firstOnLine_of_ended hended ss
    · have hprefix : d.ensureBreak.buffer.text <+: e.buffer.text :=
        prefix_walkNode hstarts (some parent) back.head? d
      rcases Buffer.ensureBreak_text hne with ⟨hended, -⟩ | ⟨-, hbreak⟩
      · exact firstOnLine_of_ended hended ss
      · obtain ⟨added, hadded⟩ := hprefix
        rw [show d.ensureBreak.buffer = d.buffer.ensureBreak from rfl, hbreak, hss.text_eq,
          List.append_assoc] at hadded
        exact firstOnLine_of_newline (List.append_cancel_left hadded).symm
    · -- the block in front has left the line on its way out
      obtain ⟨init, rfl⟩ := List.getLast?_eq_some_iff.1 hm
      have hd : d = _ := walkBefore_concat visitor parent (some n) init m c
      rw [walkNode_block scene hblock] at hd
      rw [hd] at hne
      rw [hd]
      exact firstOnLine_of_ended (getLast?_separate hne (Option.some_ne_none n)) ss

/-- Behind a paragraph a heading starts a line. -/
theorem first_on_line_heading :
    let doc : Node := .mk .document []
    let visitor := Registry.builtin.visitor {}
    let heading : Node := .mk (.heading 1) [.text "b"]
    let d := walkBefore visitor doc (some heading) [.mk .paragraph [.text "a"]] (.fresh {})
    let e := walkNode visitor (some doc) none heading d
    d.content = "a\n\n" ∧ e.content = "a\n\nb" ∧
      ∃ ss, Drawn {} d ss e ∧ FirstOnLine d.buffer.text ss := by
  intro doc visitor heading d e
  obtain ⟨-, ⟨ss, hss⟩, hline⟩ :=
    first_on_line {} doc heading [.mk .paragraph [.text "a"]] [] (.fresh {})
  have hne : d.buffer.text ≠ [] := by decide
  exact ⟨by decide, by decide, ss, hss, hline hne (.inr (.inr ⟨_, rfl, rfl⟩)) ss hss⟩

/-- The heading in this item goes on in the line of the bare text in front of it. -/
theorem not_first_on_line_item :
    let item : Node := .mk .listItem [.text "a", .mk (.heading 1) [.text "b"]]
    Node.ofSource "- a\n  # b" = .mk .document [.mk (.list none) [item]] ∧
      (({} : Scene).renderSource "- a\n  # b").text = ⟨"• ab", [⟨5, 6, .styled .bold⟩]⟩ := by
  exact ⟨by cbv, by cbv⟩

end RichChat

import Mathlib.Data.List.Forall2
import RichChat.Proofs.Covers
import RichChat.Proofs.Mentioned

/-!
# Code is shown as it is

Every code block that is visited and has text becomes one segment, which covers its lines to the
byte (`Scene.code_renderNode`). The lines are written past the marker of the quotes around them, so
none of them has one, whatever they contain; a marker that is due comes before the first line and
outside the segment. What is drawn later only adds to the text.
-/

namespace RichChat

/-- A code block with text. -/
structure Code where
  language : Option String
  text : String
  deriving DecidableEq

/-- The code of a node. Blocks whose lines make no text have none. -/
def NodeKind.codes : NodeKind → List Code
  | .codeBlock language lines =>
    let text := "\n".intercalate lines
    if text = "" then [] else [⟨language, text⟩]
  | _ => []

def SegmentKind.isCode : SegmentKind → Bool
  | .codeBlock _ => true
  | _ => false

/-- Whether a segment of a text is of a code block and cuts exactly its lines out. -/
def Code.ShownIn (content : String) (code : Code) (s : Segment) : Prop :=
  s.kind = .codeBlock code.language ∧ Text.slice? content s.start s.stop = some code.text

theorem Code.ShownIn.mono {text longer : List Char} (hp : text <+: longer) {code : Code}
    {s : Segment} (h : code.ShownIn (String.ofList text) s) :
    code.ShownIn (String.ofList longer) s :=
  ⟨h.1, Text.slice?_mono hp h.2⟩

namespace Canvas

/-- The code blocks of a canvas show these codes and no others. -/
def ShowsCode (codes : List Code) (c : Canvas) : Prop :=
  List.Forall₂ (Code.ShownIn c.content) codes (c.segments.filter (·.kind.isCode))

variable {codes : List Code} {c d : Canvas}

theorem ShowsCode.mono (h : c.ShowsCode codes) (hp : c.buffer.text <+: d.buffer.text)
    (hs : d.segments.filter (·.kind.isCode) = c.segments.filter (·.kind.isCode)) :
    d.ShowsCode codes := by
  rw [ShowsCode, hs]
  exact h.imp fun _ _ => Code.ShownIn.mono hp

theorem stable_showsCode (codes : List Code) :
    Stable (fun kind => kind.isCode = false) (ShowsCode codes) where
  flush {c} h := by
    refine h.mono ?_ ?_
    · rw [flush_buffer, Buffer.flush_eq_append]
      exact List.prefix_append _ _
    · rcases c.flush_cases with ⟨-, heq⟩ | ⟨-, heq⟩ <;> rw [heq]
      exact filter_addRun (fun _ _ _ => rfl) _ _ _ _
  append cs h := h.mono (List.prefix_append _ _) rfl
  change {c} counts h := by
    have hbuffer : (c.change counts).buffer.text = c.buffer.text := by rw [change_buffer]
    refine h.mono (hbuffer ▸ List.prefix_rfl) ?_
    rcases c.change_cases counts with ⟨-, heq⟩ | ⟨-, heq⟩ <;> rw [heq]
    exact filter_addRun (fun _ _ _ => rfl) _ _ _ _
  push hk _ h := h.mono List.prefix_rfl (by simp [push, hk])
  frame _ _ _ _ h := h.mono List.prefix_rfl rfl

/-- A code block with text becomes a segment of its own, behind a marker that was due. -/
theorem ShowsCode.drawCode (h : c.ShowsCode codes) (language : Option String)
    (lines : List String) :
    (Handler.drawCode c language lines).ShowsCode
      (codes ++ NodeKind.codes (.codeBlock language lines)) := by
  let text := "\n".intercalate lines
  let start := c.startBlock.flush
  have stable := stable_showsCode codes
  have hstart : start.ShowsCode codes := stable.flush (stable.startBlock h)
  have hwritten := stable.append text.toList hstart
  have hstop : start.length + Text.size text.toList = (start.buffer.append text.toList).length :=
    (Buffer.append_length _ _).symm
  have hdraw : Handler.drawCode c language lines
      = if 0 < Text.size text.toList then
          { start with buffer := start.buffer.append text.toList }.emit
            (start.length, (start.buffer.append text.toList).length) (.codeBlock language)
        else { start with buffer := start.buffer.append text.toList } := by
    rw [← hstop]
    exact if_congr Nat.lt_add_right_iff_pos rfl rfl
  rw [hdraw, NodeKind.codes]
  by_cases hempty : text = ""
  · have hsize : Text.size text.toList = 0 := by rw [hempty]; rfl
    rw [if_pos hempty, if_neg (by omega), List.append_nil]
    exact hwritten
  · have hsize : Text.size text.toList ≠ 0 := fun h0 =>
      hempty (String.toList_eq_nil_iff.1 (Text.size_eq_zero.1 h0))
    rw [if_neg hempty, if_pos (by omega), ShowsCode, emit, push, List.filter_append]
    exact List.rel_append hwritten
      (.cons ⟨rfl, Text.slice?_append start.buffer.text text⟩ .nil)

theorem tells_code (scene : Scene) : Tells scene NodeKind.codes ShowsCode where
  enter {codes c} kind children parent next h := by
    cases kind with
    | codeBlock language lines => exact h.drawCode language lines
    | mention target =>
      show ShowsCode (codes ++ []) _
      rw [List.append_nil]
      exact (stable_showsCode codes).mention ⟨fun _ => rfl, fun _ _ => rfl, fun _ => rfl⟩
        (fun _ h => h) h target
    | _ =>
      show ShowsCode (codes ++ []) _
      rw [List.append_nil]
      refine (stable_showsCode codes).visitor_makes _ (fun _ => nofun) (fun kind hk => ?_) h
      cases kind <;> first | rfl | cases hk
  leave {codes c} node parent next h := by
    refine (stable_showsCode codes).visitor_makes _ nofun (fun kind hk => ?_) h
    cases kind with
    | codeBlock language =>
      obtain ⟨nodeKind, children⟩ := node
      cases nodeKind <;> cases hk
    | _ => rfl

end Canvas

/-- The code blocks of a rendered tree are those that are visited and have text, in this order, and
their text is that of their lines. -/
theorem Scene.code_renderNode (scene : Scene) (node : Node) :
    let t := (scene.renderNode node).text
    List.Forall₂ (Code.ShownIn t.content) ((scene.visits node).flatMap (Visit.told NodeKind.codes))
      (t.segments.filter (·.kind.isCode)) := by
  intro t
  have hempty : ((Canvas.fresh scene.config).sizeEmoji scene.config node).ShowsCode [] := by
    obtain ⟨emojiSize, hsize⟩ := (Canvas.fresh scene.config).sizeEmoji_eq scene.config node
    rw [hsize]
    exact .nil
  have hdrawn := (Canvas.tells_code scene).draw hempty node
  have hfinish := (Canvas.stable_showsCode _).finish rfl hdrawn
  rw [List.nil_append, ← scene.told_visits NodeKind.codes node] at hfinish
  exact hfinish

/-- In a quote only the first line has a marker, and that is not part of the code. -/
example :
    let node : Node := .mk .document [.mk .blockquote [.mk (.codeBlock (some "rs") ["a", "b"]) []]]
    let t := (({} : Scene).renderNode node).text
    t.content = "> a\nb" ∧
      t.segments.filter (·.kind.isCode) = [⟨2, 5, .codeBlock (some "rs")⟩] := by
  intro node t
  constructor <;> cbv

end RichChat

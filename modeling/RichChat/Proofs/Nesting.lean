import RichChat.Proofs.Spoilers

/-!
# Nesting

Between the start of a container and its stop, well nested events (`Event.Nested`) change nothing
but the container: whatever is open around it stays as it is, though spoilers open and close on the
same stack (`Builder.Keeps`). So the container comes out as one node, whose children depend on the
events between, and on no more of what is around it than whether that is in a link
(`Builder.Keeps.exists_children`).
-/

namespace RichChat

/-- Events between the start of a container and its stop. -/
def Container.around (c : Container) (inner : List Event) : List Event :=
  .start c :: inner ++ [.stop]

namespace Event

/-- Whether an event neither starts nor stops anything. -/
def isLeaf : Event → Bool
  | text _ | html _ | code _ | softBreak | hardBreak | rule => true
  | start _ | stop | startCode _ | stopCode => false

/-- Events in which everything that starts is stopped, and nothing else is. -/
inductive Nested : List Event → Prop
  | nil : Nested []
  | leaf {e : Event} {events : List Event} (h : e.isLeaf = true) (later : Nested events) :
      Nested (e :: events)
  | code {language : Option String} {inner events : List Event} (h : stopCode ∉ inner)
      (later : Nested events) : Nested (startCode language :: inner ++ [stopCode] ++ events)
  | container {c : Container} {inner events : List Event} (h : Nested inner)
      (later : Nested events) : Nested (c.around inner ++ events)

end Event

namespace Builder

/-- A builder with more containers around its own. -/
def enclosed (b : Builder) (outer : List Frame) : Builder := { b with below := b.below ++ outer }

/-- The open containers up to one of a kind: spoilers in it, and itself. -/
inductive Within (kind : NodeKind) : Frame → List Frame → Prop
  | container {f : Frame} (h : f.spoiler = false) (hkind : f.kind = kind) : Within kind f []
  | spoiler {top f : Frame} {fs : List Frame} (h : top.spoiler = true)
      (below : Within kind f fs) : Within kind top (f :: fs)

/-- A builder of nothing but a container and the spoilers in it. -/
structure IsWithin (kind : NodeKind) (b : Builder) : Prop where
  frames : Within kind b.top b.below
  code : b.code = none

/-- Events that are read within a container leave what is around it alone. -/
def Keeps (events : List Event) : Prop :=
  ∀ link kind b, IsWithin kind b → ∃ b', IsWithin kind b' ∧
    ∀ outer, outer.any (·.isLink) = link → events.foldl event (b.enclosed outer) = b'.enclosed outer

section Within

variable {kind : NodeKind} {top : Frame} {fs : List Frame}

theorem Within.children (h : Within kind top fs) (xs : List Node) :
    Within kind { top with children := xs } fs := by
  cases h with
  | container h hkind => exact .container h hkind
  | spoiler h below => exact .spoiler h below

theorem Within.unwrap (h : Within kind top fs) (outer : List Frame) :
    unwrap top (fs ++ outer) = ((unwrap top fs).1, outer) ∧ (unwrap top fs).1.kind = kind := by
  -- The last spoiler is given up into the container, which is none and ends the search.
  induction fs generalizing top with
  | nil =>
    cases h with
    | container h hkind => exact ⟨unwrap_of_not_spoiler h outer, hkind⟩
  | cons f fs ih =>
    cases h with
    | spoiler h below =>
      simp only [List.cons_append, Builder.unwrap, h, if_true]
      exact ih (below.children _)

end Within

@[simp] theorem enclosed_push (b : Builder) (outer : List Frame) (nodes : List Node) :
    (b.enclosed outer).push nodes = (b.push nodes).enclosed outer := rfl

@[simp] theorem enclosed_inLink (b : Builder) (outer : List Frame) :
    (b.enclosed outer).inLink = (b.inLink || outer.any (·.isLink)) := by
  simp only [inLink, enclosed, List.any_append, Bool.or_assoc]

namespace IsWithin

variable {kind : NodeKind} {b : Builder}

theorem push (h : IsWithin kind b) (nodes : List Node) : IsWithin kind (b.push nodes) :=
  ⟨h.frames.children _, h.code⟩

theorem token (h : IsWithin kind b) (inLink : Bool) (t : Token) :
    IsWithin kind (b.token inLink t)
      ∧ ∀ outer, (b.enclosed outer).token inLink t = (b.token inLink t).enclosed outer := by
  cases t with
  | spoiler =>
    -- Only a spoiler is closed, and what it is put into is within the container.
    obtain ⟨top, below, pending, code⟩ := b
    obtain ⟨frames, hcode⟩ := h
    dsimp only at frames hcode
    simp only [Builder.token, toggleSpoiler, enclosed]
    cases frames with
    | container hs hkind =>
      simp only [hs, Bool.false_eq_true, if_false]
      exact ⟨⟨.spoiler rfl (.container hs hkind), hcode⟩, fun outer => rfl⟩
    | spoiler hs below =>
      simp only [hs, if_true]
      exact ⟨⟨below.children _, hcode⟩, fun outer => rfl⟩
  | _ => exact ⟨h.push _, fun outer => rfl⟩

theorem foldl_token (h : IsWithin kind b) (inLink : Bool) (tokens : List Token) :
    IsWithin kind (tokens.foldl (Builder.token inLink) b)
      ∧ ∀ outer, tokens.foldl (Builder.token inLink) (b.enclosed outer)
        = (tokens.foldl (Builder.token inLink) b).enclosed outer := by
  induction tokens generalizing b with
  | nil => exact ⟨h, fun outer => rfl⟩
  | cons t tokens ih =>
    obtain ⟨ht, henclosed⟩ := h.token inLink t
    refine ⟨(ih ht).1, fun outer => ?_⟩
    rw [List.foldl_cons, List.foldl_cons, henclosed, (ih ht).2]

theorem exists_flush (h : IsWithin kind b) (link : Bool) :
    ∃ b', IsWithin kind b' ∧ b'.pending = []
      ∧ ∀ outer, outer.any (·.isLink) = link → (b.enclosed outer).flush = b'.enclosed outer := by
  have hcleared : IsWithin kind { b with pending := [] } := ⟨h.frames, h.code⟩
  obtain ⟨htokens, henclosed⟩ := hcleared.foldl_token (b.inLink || link) (Token.scan b.pending)
  refine ⟨_, htokens, (foldl_token_pending _ _ _).1, fun outer hlink => ?_⟩
  rw [← henclosed, ← hlink, ← enclosed_inLink]
  rfl

end IsWithin

theorem exists_foldl_code {inner : List Event} (h : .stopCode ∉ inner) (language : Option String)
    (text : List Char) :
    ∃ text', ∀ b : Builder, b.code = some (language, text) →
      inner.foldl event b = { b with code := some (language, text') } := by
  induction inner generalizing text with
  | nil =>
    refine ⟨text, fun b hb => ?_⟩
    rw [List.foldl_nil, ← hb]
  | cons e inner ih =>
    have ih := ih fun hmem => h (List.mem_cons_of_mem e hmem)
    cases e with
    | text run =>
      obtain ⟨text', hinner⟩ := ih (text ++ run)
      refine ⟨text', fun b hb => ?_⟩
      simp only [List.foldl_cons, event, hb, hinner]
    | stopCode => exact absurd List.mem_cons_self h
    | _ =>
      obtain ⟨text', hinner⟩ := ih text
      refine ⟨text', fun b hb => ?_⟩
      simp only [List.foldl_cons, event, hb, hinner]

theorem exists_codeBlock {inner : List Event} (h : .stopCode ∉ inner) (language : Option String) :
    ∃ node, ∀ b : Builder, b.code = none →
      (Event.startCode language :: inner ++ [Event.stopCode]).foldl event b
        = b.flush.push [node] := by
  obtain ⟨text, hinner⟩ := exists_foldl_code h language []
  refine ⟨.leaf (.codeBlock language (codeLines text)), fun b hb => ?_⟩
  have hcode : b.flush.code = none := (flushWith_code Token.scan b).trans hb
  have hstart : b.event (.startCode language) = { b.flush with code := some (language, []) } := by
    simp only [event, hb]
  rw [List.cons_append, List.foldl_cons, hstart, List.foldl_append, hinner _ rfl]
  simp only [List.foldl_cons, List.foldl_nil, event, ← hcode]

namespace Keeps

theorem nil : Keeps [] := fun _ _ b hb => ⟨b, hb, fun _ _ => rfl⟩

theorem append {xs ys : List Event} (hx : Keeps xs) (hy : Keeps ys) : Keeps (xs ++ ys) := by
  intro link kind b hb
  obtain ⟨b', hb', hrun⟩ := hx link kind b hb
  obtain ⟨b'', hb'', hrun'⟩ := hy link kind b' hb'
  refine ⟨b'', hb'', fun outer hlink => ?_⟩
  rw [List.foldl_append, hrun outer hlink, hrun' outer hlink]

theorem of_push {events : List Event}
    (h : ∀ link, ∃ node, ∀ b : Builder, b.code = none → b.flush.inLink = link →
      events.foldl event b = b.flush.push [node]) : Keeps events := by
  intro link kind b hb
  obtain ⟨b', hb', -, hflush⟩ := hb.exists_flush link
  obtain ⟨node, hnode⟩ := h (b'.inLink || link)
  refine ⟨_, hb'.push [node], fun outer hlink => ?_⟩
  have hin : (b.enclosed outer).flush.inLink = (b'.inLink || link) := by
    rw [hflush outer hlink, enclosed_inLink, hlink]
  rw [hnode (b.enclosed outer) hb.code hin, hflush outer hlink, enclosed_push]

theorem of_markBreak {e : Event} (hard : Bool)
    (h : ∀ b : Builder, b.code = none →
      b.event e = { b.flush with top := b.flush.top.markBreak hard }) : Keeps [e] := by
  intro link kind b hb
  obtain ⟨b', hb', -, hflush⟩ := hb.exists_flush link
  refine ⟨{ b' with top := b'.top.markBreak hard }, ⟨hb'.frames.children _, hb'.code⟩,
    fun outer hlink => ?_⟩
  rw [List.foldl_cons, List.foldl_nil, h (b.enclosed outer) hb.code, hflush outer hlink]
  rfl

theorem leaf {e : Event} (he : e.isLeaf = true) : Keeps [e] := by
  cases e with
  | text run | html run =>
    intro link kind b hb
    refine ⟨{ b with pending := b.pending ++ run }, ⟨hb.frames, hb.code⟩, fun outer _ => ?_⟩
    simp only [List.foldl_cons, List.foldl_nil, event, enclosed, hb.code]
  | code text =>
    refine of_push fun link => ⟨.mk (.inline .monospace) [.text text], fun b hb _ => ?_⟩
    simp only [List.foldl_cons, List.foldl_nil, event, hb]
  | rule =>
    refine of_push fun link => ⟨.leaf .thematicBreak, fun b hb _ => ?_⟩
    simp only [List.foldl_cons, List.foldl_nil, event, hb]
  | softBreak => exact of_markBreak false fun b hb => by simp only [event, hb]
  | hardBreak => exact of_markBreak true fun b hb => by simp only [event, hb]
  | _ => exact absurd he (by simp [Event.isLeaf])

/-- A container comes out as one node. Its children are the same wherever it stands, in links and
outside of them each. -/
theorem exists_children {inner : List Event} (h : Keeps inner) (c : Container) (link : Bool) :
    ∃ children, ∀ b : Builder, b.code = none → b.flush.inLink = link →
      (c.around inner).foldl event b = b.flush.push [.mk c.kind children] := by
  -- The events between are read in a builder that has nothing but the container.
  have hfresh : IsWithin c.kind { top := { kind := c.kind } } := ⟨.container rfl rfl, rfl⟩
  obtain ⟨b', hb', hrun⟩ := h link c.kind _ hfresh
  obtain ⟨b'', hb'', hpending, hflush⟩ := hb'.exists_flush link
  refine ⟨(unwrap b''.top b''.below).1.children, fun b hb hlink => ?_⟩
  have hcode : b.flush.code = none := (flushWith_code Token.scan b).trans hb
  have hcleared : b.flush.pending = [] := flushWith_pending Token.scan b
  have hstart : b.event (.start c)
      = Builder.enclosed { top := { kind := c.kind } } (b.flush.top :: b.flush.below) := by
    simp only [event, hb, openFrame, enclosed, hcleared, hcode, List.nil_append]
  have hstop : (b'.enclosed (b.flush.top :: b.flush.below)).event .stop
      = b.flush.push [.mk c.kind (unwrap b''.top b''.below).1.children] := by
    obtain ⟨hunwrap, hkind⟩ := hb''.frames.unwrap (b.flush.top :: b.flush.below)
    have hopen : (b'.enclosed (b.flush.top :: b.flush.below)).code = none := hb'.code
    simp only [event, hopen, stop, hflush (b.flush.top :: b.flush.below) hlink]
    simp only [unwrapSpoilers, enclosed, hunwrap, close, hpending, hb''.code, Frame.node, hkind]
    simp only [push, hcleared, hcode]
  rw [Container.around, List.cons_append, List.foldl_cons, hstart, List.foldl_append,
    hrun (b.flush.top :: b.flush.below) hlink, List.foldl_cons, List.foldl_nil, hstop]

theorem code {inner : List Event} (h : .stopCode ∉ inner) (language : Option String) :
    Keeps (.startCode language :: inner ++ [.stopCode]) := by
  obtain ⟨node, hnode⟩ := exists_codeBlock h language
  exact of_push fun link => ⟨node, fun b hb _ => hnode b hb⟩

theorem container {inner : List Event} (h : Keeps inner) (c : Container) :
    Keeps (c.around inner) := by
  refine of_push fun link => ?_
  obtain ⟨children, hnode⟩ := h.exists_children c link
  exact ⟨_, hnode⟩

end Keeps

theorem keeps_of_nested {events : List Event} (h : Event.Nested events) : Keeps events := by
  induction h with
  | nil => exact .nil
  | leaf h _ ih => exact (Keeps.leaf h).append ih
  | code h _ ih => exact (Keeps.code h _).append ih
  | container _ _ ih ih' => exact (ih.container _).append ih'

/-- A spoiler that is open when something stops is the same as bars and its children in what is
around it. -/
theorem stop_of_spoiler {b : Builder} {f : Frame} {fs : List Frame}
    (h : b.flush.top.spoiler = true) (hbelow : b.flush.below = f :: fs) :
    let given : Builder :=
      { b.flush with top := f.push (.text "||" :: b.flush.top.children), below := fs }
    b.stop = given.stop ∧ b.finish = given.finish := by
  intro given
  have hflush : given.flush = given := flush_of_pending (flushWith_pending Token.scan b)
  have hunwrap : b.flush.unwrapSpoilers = given.unwrapSpoilers := by
    simp only [unwrapSpoilers, hbelow, unwrap, h, if_true]
    rfl
  constructor
  · rw [stop, stop, hflush, hunwrap]
  · rw [finish, finish, hflush, hbelow, closeAll, if_pos h]
    rfl

/-- Spoilers lose, double and move nothing. Taken apart into bars and children they leave the tree
of the same events with bars for text. Spoilers that were not closed are bars and children in the
first place. And a container holds what stands between its start and its stop, wherever bars are. -/
theorem spoilers_sound :
    (∀ events, Node.joinedAll (Node.ofEvents events).bared
        = [(Node.ofEventsWith Token.scanPlain events).joined])
      ∧ (∀ (b : Builder) (f : Frame) (fs : List Frame),
          b.flush.top.spoiler = true → b.flush.below = f :: fs →
          let given : Builder :=
            { b.flush with top := f.push (.text "||" :: b.flush.top.children), below := fs }
          b.stop = given.stop ∧ b.finish = given.finish)
      ∧ ∀ inner, Event.Nested inner → ∀ (c : Container) (link : Bool),
          ∃ children, ∀ b : Builder, b.code = none → b.flush.inLink = link →
            (c.around inner).foldl event b = b.flush.push [.mk c.kind children] := by
  refine ⟨Node.joinedAll_bared_ofEvents, fun b f fs h hbelow => stop_of_spoiler h hbelow, ?_⟩
  intro inner h c link
  exact (keeps_of_nested h).exists_children c link

theorem spoilers_sound_unclosed :
    (∃ children, (Container.emphasis.around [.text "||a".toList]).foldl event {}
        = Builder.push {} [.mk (.inline .italic) children])
      ∧ Builder.finish { pending := "||a".toList }
        = Builder.finish { top := { kind := .document, children := [.text "||", .text "a"] } } := by
  obtain ⟨-, hgiven, hnode⟩ := spoilers_sound
  have hinner : Event.Nested [.text "||a".toList] := .leaf rfl .nil
  obtain ⟨children, h⟩ := hnode _ hinner .emphasis false
  exact ⟨⟨children, h {} rfl rfl⟩, (hgiven { pending := "||a".toList } _ _ rfl rfl).2⟩

example : Node.ofEvents (Container.emphasis.around [.text "||a".toList])
    = .mk .document [.mk (.inline .italic) [.text "||", .text "a"]] := by
  rfl

end Builder

end RichChat

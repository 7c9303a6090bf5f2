import RichChat.Proofs.Bars

/-!
# Spoilers

A builder is compared with one that takes bars for text. The open containers of the two match
(`Builder.Match`) if a spoiler that is still open is taken for what it comes to if it is not closed:
bars and children in what is around it. Every event keeps that (`Alike.eventWith`), so that the
trees they end with show the same text (`Node.joinedAll_bared_ofEvents`).
-/

namespace RichChat

open Node

theorem Container.kind_ne_spoiler (c : Container) : c.kind ≠ .inline .spoiler := by
  cases c with
  | emphasis | strikethrough => decide
  | strong underscores => cases underscores <;> decide
  | _ => nofun

namespace Builder

/-- The same container, open in a builder and in one that takes bars for text. -/
structure Frame.Shows (f g : Frame) : Prop where
  spoiler : f.spoiler = false
  plain : g.spoiler = false
  kind : f.kind = g.kind
  kind_ne : f.kind ≠ .inline .spoiler
  children : joinedAll (baredAll f.children) = joinedAll g.children

/-- The open containers of a builder and of one that takes bars for text, innermost first. -/
inductive Match : Frame → List Frame → Frame → List Frame → Prop
  | document {top plain : Frame} (h : top.Shows plain) : Match top [] plain []
  | container {top plain f g : Frame} {fs gs : List Frame} (h : top.Shows plain)
      (below : Match f fs g gs) : Match top (f :: fs) plain (g :: gs)
  | spoiler {top plain f : Frame} {fs gs : List Frame} (h : top.spoiler = true)
      (kind : top.kind = .inline .spoiler) (given : Match (f.push (unwrapped top)) fs plain gs) :
      Match top (f :: fs) plain gs

/-- Builders of which the second takes bars for text. -/
structure Alike (b p : Builder) : Prop where
  frames : Match b.top b.below p.top p.below
  pending : b.pending = p.pending
  code : b.code = p.code

section Frames

variable {top plain : Frame} {fs gs : List Frame} {xs ys : List Node}

theorem Frame.Shows.isLink (h : top.Shows plain) : top.isLink = plain.isLink := by
  rw [Frame.isLink, Frame.isLink, h.kind]

theorem Frame.Shows.node (h : top.Shows plain) :
    joinedAll (baredAll [top.node]) = joinedAll [plain.node] := by
  rw [baredAll_singleton, Frame.node, bared, if_neg h.kind_ne, Frame.node]
  simp only [joinedAll, joined, h.kind, h.children]

/-- The children of the innermost containers may be others that show the same. -/
theorem Match.congr (h : Match top fs plain gs)
    (hx : joinedAll (baredAll xs) = joinedAll (baredAll top.children))
    (hy : joinedAll ys = joinedAll plain.children) :
    Match { top with children := xs } fs { plain with children := ys } gs := by
  induction h generalizing xs with
  | document h =>
    exact .document ⟨h.spoiler, h.plain, h.kind, h.kind_ne, by rw [hx, hy, h.children]⟩
  | container h below _ =>
    exact .container ⟨h.spoiler, h.plain, h.kind, h.kind_ne, by rw [hx, hy, h.children]⟩ below
  | spoiler h kind _ ih =>
    -- Given up, the spoiler has its children at the end of what is around it.
    refine .spoiler h kind (ih ?_ hy)
    simp only [Frame.push, unwrapped, baredAll_append, baredAll]
    exact joinedAll_append_congr rfl (joinedAll_append_congr rfl hx)

theorem Match.push (h : Match top fs plain gs) (hxy : joinedAll (baredAll xs) = joinedAll ys) :
    Match (top.push xs) fs (plain.push ys) gs := by
  induction h generalizing xs with
  | document h =>
    refine .document ⟨h.spoiler, h.plain, h.kind, h.kind_ne, ?_⟩
    simpa only [Frame.push, baredAll_append] using joinedAll_append_congr h.children hxy
  | container h below _ =>
    refine .container ⟨h.spoiler, h.plain, h.kind, h.kind_ne, ?_⟩ below
    simpa only [Frame.push, baredAll_append] using joinedAll_append_congr h.children hxy
  | spoiler h kind _ ih =>
    refine .spoiler h kind ?_
    simpa only [Frame.push, unwrapped, List.cons_append, List.append_assoc] using ih hxy

theorem Match.plain_spoiler (h : Match top fs plain gs) : plain.spoiler = false := by
  induction h with
  | document h => exact h.plain
  | container h => exact h.plain
  | spoiler _ _ _ ih => exact ih

theorem Match.isLink (h : Match top fs plain gs) :
    (top.isLink || fs.any (·.isLink)) = (plain.isLink || gs.any (·.isLink)) := by
  induction h with
  | document h => rw [h.isLink]
  | container h _ ih => rw [h.isLink, List.any_cons, List.any_cons, ih]
  | @spoiler top _ f fs _ _ kind _ ih =>
    have htop : top.isLink = false := by rw [Frame.isLink, kind]; rfl
    rw [htop, Bool.false_or, List.any_cons, ← ih]
    rfl

theorem Match.markBreak (h : Match top fs plain gs) (hard : Bool) :
    Match (top.markBreak hard) fs (plain.markBreak hard) gs := by
  have hbreak := bared_text "" (!hard) hard
  rw [← baredAll_singleton] at hbreak
  exact (h.push (congrArg joinedAll hbreak)).congr (Frame.baredAll_withBreak hard _)
    (Frame.joinedAll_withBreak hard _)

theorem Match.unwrap (h : Match top fs plain gs) :
    Match (unwrap top fs).1 (unwrap top fs).2 plain gs ∧ (unwrap top fs).1.spoiler = false := by
  induction h with
  | document h => exact ⟨.document h, h.spoiler⟩
  | container h below _ =>
    rw [Builder.unwrap, h.spoiler]
    exact ⟨.container h below, h.spoiler⟩
  | spoiler h _ _ ih => simpa only [Builder.unwrap, h, if_true] using ih

theorem unwrap_of_not_spoiler (h : top.spoiler = false) (fs : List Frame) :
    unwrap top fs = (top, fs) := by
  cases fs with
  | nil => rfl
  | cons f fs => simp only [unwrap, h, Bool.false_eq_true, if_false]

theorem Match.closeAll (h : Match top fs plain gs) :
    (closeAll top fs).Shows (closeAll plain gs) := by
  -- By induction on what is around the spoilers too: bars as text have no container to close.
  induction fs generalizing top plain gs with
  | nil =>
    cases h with
    | document h => exact h
  | cons f fs ih =>
    cases h with
    | container h below =>
      simp only [Builder.closeAll, h.spoiler, h.plain, Bool.false_eq_true, if_false]
      exact ih (below.push h.node)
    | spoiler h _ given => simpa only [Builder.closeAll, h, if_true] using ih given

end Frames

namespace Alike

variable {b p : Builder}

theorem inLink (h : Alike b p) : b.inLink = p.inLink := h.frames.isLink

theorem push (h : Alike b p) {xs ys : List Node} (hxy : joinedAll (baredAll xs) = joinedAll ys) :
    Alike (b.push xs) (p.push ys) :=
  ⟨h.frames.push hxy, h.pending, h.code⟩

theorem openFrame (h : Alike b p) {f g : Frame} (hf : f.Shows g) :
    Alike (b.openFrame f) (p.openFrame g) :=
  ⟨.container hf h.frames, h.pending, h.code⟩

theorem toggleSpoiler (h : Alike b p) : Alike b.toggleSpoiler (p.push [.text "||"]) := by
  have hbars : joinedAll (baredAll [Node.text "||"]) = joinedAll [Node.text "||"] := rfl
  obtain ⟨top, below, _, _⟩ := b
  obtain ⟨plain, gs, _, _⟩ := p
  obtain ⟨frames, pending, code⟩ := h
  dsimp only at frames
  unfold Builder.toggleSpoiler
  by_cases hs : top.spoiler = true
  · rw [if_pos hs]
    cases frames with
    | document hf => exact absurd hs (by simp [hf.spoiler])
    | container hf => exact absurd hs (by simp [hf.spoiler])
    | @spoiler _ _ f _ _ _ kind given =>
      -- Closed, it has the same between bars: the bars behind it are all that is new.
      have hnode : baredAll [top.node] = .text "||" :: baredAll top.children ++ [.text "||"] := by
        rw [baredAll_singleton, Frame.node, bared, if_pos kind]
      have hclosed : baredAll (f.push [top.node]).children
          = baredAll ((f.push (unwrapped top)).push [.text "||"]).children := by
        simp only [Frame.push, unwrapped, baredAll_append, hnode, List.append_assoc]
        rfl
      exact ⟨(given.push hbars).congr (congrArg joinedAll hclosed) rfl, pending, code⟩
  · rw [if_neg hs]
    exact ⟨.spoiler rfl rfl (frames.push hbars), pending, code⟩

theorem token (h : Alike b p) (inLink : Bool) (t : Token) :
    Alike (b.token inLink t) (p.push (t.nodes inLink)) := by
  have hnodes := congrArg joinedAll (baredAll_nodes inLink t)
  cases t with
  | spoiler => exact h.toggleSpoiler
  | _ => exact h.push hnodes

theorem foldl_token (h : Alike b p) (inLink : Bool) (tokens : List Token) :
    Alike (tokens.foldl (Builder.token inLink) b)
      (p.push (tokens.flatMap (Token.nodes inLink))) := by
  induction tokens generalizing b p with
  | nil => simpa [Builder.push, Frame.push] using h
  | cons t tokens ih =>
    simpa only [List.foldl_cons, List.flatMap_cons, Builder.push, Frame.push, List.append_assoc]
      using ih (h.token inLink t)

end Alike

theorem foldl_token_of_noSpoiler (inLink : Bool) {tokens : List Token} (h : Token.spoiler ∉ tokens)
    (b : Builder) :
    tokens.foldl (token inLink) b = b.push (tokens.flatMap (Token.nodes inLink)) := by
  induction tokens generalizing b with
  | nil => simp [push, Frame.push]
  | cons t tokens ih =>
    have ht : token inLink b t = b.push (t.nodes inLink) := by
      cases t with
      | spoiler => exact absurd List.mem_cons_self h
      | _ => rfl
    rw [List.foldl_cons, ht, ih (fun hmem => h (List.mem_cons_of_mem _ hmem))]
    simp [push, Frame.push]

namespace Alike

variable {b p : Builder}

theorem flushWith (h : Alike b p) :
    Alike (b.flushWith Token.scan) (p.flushWith Token.scanPlain) := by
  have hcleared : Alike { b with pending := [] } { p with pending := [] } := ⟨h.frames, rfl, h.code⟩
  have htokens := hcleared.foldl_token b.inLink (Token.scan b.pending)
  unfold Builder.flushWith
  rw [foldl_token_of_noSpoiler _ (Token.spoiler_not_mem_scanPlain _), ← h.pending, ← h.inLink]
  have hplain := joinedAll_append_congr (Eq.refl (joinedAll p.top.children))
    (joinedAll_scanPlain b.inLink b.pending).symm
  exact ⟨htokens.frames.congr rfl hplain, htokens.pending, htokens.code⟩

theorem flush (h : Alike b p) (hp : b.pending = []) : Alike b.flush p.flush := by
  rwa [flush_of_pending hp, flush_of_pending (h.pending ▸ hp)]

/-- A container is put into the same one, whatever spoilers were open in it. -/
theorem close_unwrapSpoilers (h : Alike b p) :
    Alike b.unwrapSpoilers.close p.unwrapSpoilers.close := by
  obtain ⟨plain, gs, _, _⟩ := p
  obtain ⟨frames, pending, code⟩ := h
  dsimp only at frames
  obtain ⟨hmatch, hs⟩ := frames.unwrap
  unfold unwrapSpoilers
  rw [unwrap_of_not_spoiler frames.plain_spoiler]
  generalize unwrap b.top b.below = innermost at hmatch hs
  obtain ⟨top, below⟩ := innermost
  dsimp only at hmatch hs
  cases hmatch with
  | document hf => exact ⟨.document hf, pending, code⟩
  | container hf hbelow => exact ⟨hbelow.push hf.node, pending, code⟩
  | spoiler h => exact absurd h (by simp [hs])

theorem event (h : Alike b p) {e : Event} (hp : b.keepsPending e = false → b.pending = []) :
    Alike (b.event e) (p.event e) := by
  have hflush (hkeeps : b.keepsPending e = false) := h.flush (hp hkeeps)
  unfold Builder.event
  rw [← h.code]
  cases hcode : b.code with
  | some code =>
    obtain ⟨language, text⟩ := code
    cases e with
    | text run => exact ⟨h.frames, h.pending, rfl⟩
    | stopCode =>
      have hcode : Alike { b with code := none } { p with code := none } :=
        ⟨h.frames, h.pending, rfl⟩
      exact hcode.push rfl
    | _ => exact h
  | none =>
    have hcuts : b.code.isSome = false := by rw [hcode]; rfl
    cases e with
    | text run | html run => exact ⟨h.frames, congrArg (· ++ run) h.pending, rfl⟩
    | code text => exact (hflush hcuts).push rfl
    | softBreak | hardBreak =>
      have h := hflush hcuts
      exact ⟨h.frames.markBreak _, h.pending, h.code⟩
    | rule => exact (hflush hcuts).push rfl
    | startCode language =>
      have h := hflush hcuts
      exact ⟨h.frames, h.pending, rfl⟩
    | start container =>
      exact (hflush hcuts).openFrame ⟨rfl, rfl, rfl, container.kind_ne_spoiler, rfl⟩
    | stop | stopCode => exact (hflush hcuts).close_unwrapSpoilers

theorem eventWith (h : Alike b p) (e : Event) :
    Alike (b.eventWith Token.scan e) (p.eventWith Token.scanPlain e) := by
  have hkeeps : p.keepsPending e = b.keepsPending e := by
    unfold keepsPending
    rw [h.code]
  unfold Builder.eventWith
  rw [hkeeps]
  split
  · rename_i hkeeps
    exact h.event fun hcuts => absurd hkeeps (by simp [hcuts])
  · exact h.flushWith.event fun _ => flushWith_pending _ _

theorem foldl_eventWith (h : Alike b p) (events : List Event) :
    Alike (events.foldl (Builder.eventWith Token.scan) b)
      (events.foldl (Builder.eventWith Token.scanPlain) p) := by
  induction events generalizing b p with
  | nil => exact h
  | cons e events ih => exact ih (h.eventWith e)

theorem finish (h : Alike b p) (hp : b.pending = []) :
    joinedAll b.finish.bared = [p.finish.joined] := by
  have hnode := (h.flush hp).frames.closeAll.node
  rwa [baredAll_singleton, joinedAll_singleton] at hnode

end Alike

theorem alike_init : Alike {} {} :=
  ⟨.document ⟨rfl, rfl, rfl, nofun, rfl⟩, rfl, rfl⟩

end Builder

/-- The tree of some events, with its spoilers taken apart, is their tree with bars for text. -/
theorem Node.joinedAll_bared_ofEvents (events : List Event) :
    joinedAll (ofEvents events).bared = [(ofEventsWith Token.scanPlain events).joined] := by
  rw [← ofEventsWith_scan]
  have h := Builder.alike_init.foldl_eventWith events
  exact h.flushWith.finish (Builder.flushWith_pending _ _)

end RichChat

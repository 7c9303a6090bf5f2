import RichChat.Proofs.Definitions
import RichChat.Proofs.Flat

/-!
# Texts of one line

A text without line ends has at most one block, which has at most one block in it, and so on
(`Outline.alone_blocks`): while containers are opened there is nothing in any of them, and the only
leaf is put into the innermost one. So its tree can be taken apart into inline elements
(`Node.flat_ofSource`).
-/

namespace RichChat

namespace Markdown

/-- A text without line ends is one line, or none if it is empty. -/
theorem Line.split_eq {cs : List Char} (hfeed : '\n' ∉ cs) (hreturn : '\x0d' ∉ cs) :
    split cs = if cs.isEmpty then [] else [⟨cs, []⟩] := by
  induction cs with
  | nil => rfl
  | cons c cs ih =>
    have hc : c ≠ '\n' ∧ c ≠ '\x0d' := by
      constructor <;> rintro rfl <;> simp_all
    rw [split, ih (by simp_all) (by simp_all)]
    · cases cs <;> rfl
    all_goals simp_all

namespace Cursor

theorem suffix_takeBlanks (n column : Nat) (cs : List Char) :
    (takeBlanks n column cs).2.rest <:+ cs := by
  fun_induction takeBlanks n column cs with
  | case2 _ _ _ ih | case3 _ _ _ _ _ ih => exact ih.trans (List.suffix_cons _ _)
  | case4 => exact List.suffix_cons _ _
  | case1 | case5 => exact List.suffix_rfl

theorem suffix_skip (cursor : Cursor) (n : Nat) : (cursor.skip n).2.rest <:+ cursor.rest := by
  unfold skip
  split
  · exact List.suffix_rfl
  · exact suffix_takeBlanks _ _ _

theorem suffix_indent (cursor : Cursor) (n : Nat) : (cursor.indent n).2.rest <:+ cursor.rest :=
  cursor.suffix_skip n

theorem suffix_advance (cursor : Cursor) (n : Nat) : (cursor.advance n).rest <:+ cursor.rest :=
  List.drop_suffix _ _

end Cursor

theorem Frame.suffix_quoted (cursor : Cursor) : (quoted cursor).rest <:+ cursor.rest :=
  (Cursor.suffix_skip _ 1).trans (cursor.suffix_advance 1)

/-- A block without others in it, all of whose text is in a line. -/
def Block.IsLeaf (line : List Char) : Block → Prop
  | paragraph content | heading _ content => content.atoms <:+: ofChars line
  | code _ text | html text => ∀ c ∈ text, c = ' ' ∨ c ∈ line
  | rule => True
  | quote _ | list _ _ _ | item _ => False

/-- At most one block, which has at most one block in it, and so on, all of the text being in a
line. -/
inductive Block.Alone (line : List Char) : List Block → Prop
  | none : Alone line []
  | leaf {block : Block} (h : block.IsLeaf line) : Alone line [block]
  | quote {blocks : List Block} (h : Alone line blocks) : Alone line [.quote blocks]
  | list {start : Option UInt64} {tight : Bool} {items : List Block} (h : Alone line items) :
    Alone line [.list start tight items]
  | item {blocks : List Block} (h : Alone line blocks) : Alone line [.item blocks]

/-- A leaf all of whose text is in a line. -/
def Leaf.IsIn (line : List Char) : Leaf → Prop
  | .paragraph content _ => content.atoms <:+: ofChars line
  | .fenced _ _ _ _ text | .indented text _ | .html _ text => ∀ c ∈ text, c = ' ' ∨ c ∈ line

namespace Outline

variable {line : List Char} {s : Outline} {cursor : Cursor}

/-- Nothing is in the containers that are open, or outside of them. -/
structure Bare (s : Outline) : Prop where
  opens : ∀ o ∈ s.opens, o.blocks = []
  blocks : s.blocks = []

/-- The innermost container has at most one block, and the others have none yet. -/
inductive Alone (line : List Char) (s : Outline) : Prop
  | outside (hopens : s.opens = []) (h : Block.Alone line s.blocks)
  | inside {o : Open} {os : List Open} (hopens : s.opens = o :: os) (h : Block.Alone line o.blocks)
    (others : ∀ p ∈ os, p.blocks = []) (blocks : s.blocks = [])

theorem Bare.alone (h : s.Bare) : s.Alone line := by
  have hbare := h.opens
  cases hs : s.opens with
  | nil => exact .outside hs (h.blocks ▸ .none)
  | cons o os =>
    rw [hs] at hbare
    obtain ⟨ho, hos⟩ := List.forall_mem_cons.1 hbare
    exact .inside hs (ho ▸ .none) hos h.blocks

theorem Bare.add (h : s.Bare) {block : Block} (hblock : Block.Alone line [block]) :
    (s.add block).Alone line := by
  have hbare := h.opens
  unfold Outline.add
  split
  · rename_i hs
    refine .outside hs ?_
    rwa [h.blocks]
  · rename_i o os hs
    rw [hs] at hbare
    obtain ⟨ho, hos⟩ := List.forall_mem_cons.1 hbare
    refine .inside rfl ?_ hos h.blocks
    rwa [ho]

theorem Alone.pop (h : s.Alone line) : s.pop.Alone line := by
  cases h with
  | outside hopens h =>
    rw [Outline.pop, hopens]
    exact .outside hopens h
  | @inside o os hopens h others blocks =>
    rw [Outline.pop, hopens]
    have hbare : Bare { s with opens := os } := ⟨others, blocks⟩
    refine hbare.add ?_
    unfold Open.block
    split
    · exact .quote h
    · exact .list h
    · exact .item h

theorem length_pop (s : Outline) : s.pop.opens.length = s.opens.length - 1 := by
  unfold Outline.pop
  split
  · rename_i hs
    rw [hs]
    rfl
  · rename_i o os hs
    rw [hs]
    unfold Outline.add
    cases os <;> rfl

/-- In the end there is at most one block, with at most one in it, and so on. -/
theorem Alone.popMany (h : s.Alone line) {n : Nat} (hn : s.opens.length ≤ n) :
    Block.Alone line (popMany n s).blocks := by
  induction n generalizing s with
  | zero =>
    cases h with
    | outside hopens h => exact h
    | inside hopens h others blocks =>
      rw [hopens] at hn
      exact absurd hn (Nat.not_succ_le_zero _)
  | succ n ih => exact ih h.pop (by rw [length_pop]; omega)

theorem Bare.closeLeaf (h : s.Bare) (hleaf : ∀ leaf ∈ s.leaf, leaf.IsIn line) :
    s.closeLeaf.Alone line := by
  have hclosed : Bare { s with leaf := none } := ⟨h.opens, h.blocks⟩
  unfold Outline.closeLeaf
  dsimp only
  split
  · exact hclosed.alone
  · rename_i content ending hs
    have hin : content.atoms <:+: ofChars line := hleaf _ hs
    unfold addParagraph
    dsimp only
    split
    · exact Bare.alone ⟨h.opens, h.blocks⟩
    · have hdefined : Bare ({ s with leaf := none }.define content.splitDefinitions.1) :=
        ⟨h.opens, h.blocks⟩
      refine hdefined.add (.leaf ?_)
      exact content.suffix_splitDefinitions.isInfix.trans hin
  · rename_i hs
    have hin := hleaf _ hs
    exact hclosed.add (.leaf hin)
  · rename_i hs
    have hin := hleaf _ hs
    exact hclosed.add (.leaf hin)
  · rename_i hs
    have hin := hleaf _ hs
    exact hclosed.add (.leaf hin)

/-- What a line gives: a leaf in containers that have nothing in them yet, or at most one block. -/
inductive HasRead (line : List Char) (s : Outline) : Prop
  | open (bare : s.Bare) (h : ∀ leaf ∈ s.leaf, leaf.IsIn line)
  | closed (alone : s.Alone line) (hleaf : s.leaf = none)

theorem HasRead.returned (h : s.HasRead line) (returned : Bool) :
    HasRead line { s with returned } := by
  cases h with
  | «open» bare h => exact .open ⟨bare.opens, bare.blocks⟩ h
  | closed alone hleaf =>
    refine .closed ?_ hleaf
    cases alone with
    | outside hopens h => exact .outside hopens h
    | inside hopens h others blocks => exact .inside hopens h others blocks

theorem HasRead.closeLeaf (h : s.HasRead line) : s.closeLeaf.Alone line := by
  cases h with
  | «open» bare h => exact bare.closeLeaf h
  | closed alone hleaf =>
    unfold Outline.closeLeaf
    rw [hleaf]
    cases alone with
    | outside hopens h => exact .outside hopens h
    | inside hopens h others blocks => exact .inside hopens h others blocks

theorem length_add (s : Outline) (block : Block) : (s.add block).opens.length = s.opens.length := by
  unfold Outline.add
  split <;> simp_all

theorem length_closeLeaf (s : Outline) : s.closeLeaf.opens.length = s.opens.length := by
  unfold Outline.closeLeaf
  dsimp only
  split
  · rfl
  · unfold addParagraph
    dsimp only
    split
    · rfl
    · exact length_add _ _
  all_goals exact length_add _ _

theorem HasRead.finish (h : s.HasRead line) : Block.Alone line s.finish.blocks :=
  h.closeLeaf.popMany (Nat.le_of_eq s.length_closeLeaf)

/-- The containers that a first line opens have nothing in them, and in a list there is an item. -/
structure Opening (s : Outline) : Prop extends Bare s where
  leaf : s.leaf = none
  blank : s.blank = false
  innermost : ∀ o ∈ s.opens.head?, ∀ mark start tight, o.frame ≠ .list mark start tight

theorem Opening.finishEmptyItem (h : s.Opening) :
    s.finishEmptyItem = { s with began := false } := by
  have hblank := h.blank
  obtain ⟨opens, blocks, leaf, definitions, blank, began, returned⟩ := s
  obtain rfl : blank = false := hblank
  unfold Outline.finishEmptyItem
  dsimp only
  rw [Bool.and_false]

theorem Opening.loosen (h : s.Opening) : s.loosen = s := by
  have hblank := h.blank
  obtain ⟨opens, blocks, leaf, definitions, blank, began, returned⟩ := s
  obtain rfl : blank = false := hblank
  rfl

theorem Opening.began (h : s.Opening) (began : Bool) : Opening { s with began } :=
  ⟨⟨h.opens, h.blocks⟩, h.leaf, h.blank, h.innermost⟩

theorem Opening.finishList (h : s.Opening) : s.finishList = { s with began := false } := by
  unfold Outline.finishList
  rw [h.finishEmptyItem]
  dsimp only
  split
  · rename_i hs
    exact absurd rfl (h.innermost _ (by rw [hs]; rfl) _ _ _)
  · exact (h.began false).loosen

theorem Opening.openFrame (h : s.Opening) {frame : Frame}
    (hf : ∀ mark start tight, frame ≠ .list mark start tight) : (s.openFrame frame).Opening :=
  ⟨⟨List.forall_mem_cons.2 ⟨rfl, h.opens⟩, h.blocks⟩, h.leaf, h.blank,
    by simpa [Outline.openFrame] using hf⟩

/-- A list is opened together with its first item. -/
theorem Opening.openItem (h : s.Opening) (m : ItemMark) (indent : Nat) :
    ((s.continueList m).openFrame (.item indent)).Opening := by
  have hcontinued : ∃ start, s.continueList m
      = { s.openFrame (.list m.mark start true) with blank := false, began := false } := by
    refine ⟨if m.numbered then some (UInt64.ofNat m.number) else none, ?_⟩
    unfold Outline.continueList
    rw [h.finishEmptyItem]
    dsimp only
    split
    · rfl
    · rename_i hs
      exact absurd rfl (h.innermost _ (by rw [hs]; rfl) _ _ _)
    · rw [(h.began false).finishList]
      rfl
  obtain ⟨start, heq⟩ := hcontinued
  rw [heq]
  refine ⟨⟨?_, h.blocks⟩, h.leaf, rfl, by simp [Outline.openFrame]⟩
  exact List.forall_mem_cons.2 ⟨rfl, List.forall_mem_cons.2 ⟨rfl, h.opens⟩⟩

theorem suffix_itemStart? {outer indent : Nat} {m : ItemMark} {after : Cursor}
    (h : itemStart? outer m cursor = some (indent, after)) : after.rest <:+ cursor.rest := by
  have hskip := cursor.suffix_skip 1
  unfold itemStart? at h
  dsimp only at h
  split at h
  · split at h
    · cases h
      exact hskip
    · split at h
      · cases h
        exact (Cursor.suffix_indent _ 4).trans hskip
      · cases h
        exact hskip
  · cases h

theorem Opening.openContainers (h : s.Opening) (fuel : Nat) (hcursor : cursor.rest <:+ line) :
    (openContainers fuel s cursor).1.Opening ∧
      ∀ next ∈ (openContainers fuel s cursor).2, next.rest <:+ line := by
  induction fuel generalizing s cursor with
  | zero => exact ⟨h, by simpa [Outline.openContainers] using hcursor⟩
  | succ fuel ih =>
    have hnext := (cursor.suffix_indent 4).trans hcursor
    have hsame : s.Opening ∧ ∀ next ∈ some cursor, next.rest <:+ line :=
      ⟨h, by simpa using hcursor⟩
    rw [Outline.openContainers]
    dsimp only
    split
    · exact hsame
    · split
      · rw [h.finishList]
        refine ih ((h.began false).openFrame (by simp)) ?_
        exact (Frame.suffix_quoted _).trans hnext
      · split
        · exact hsame
        · split
          · exact hsame
          · rename_i m _ _ indent after hstart
            have hitem := h.openItem m indent
            split
            · exact ⟨hitem.began true, by simp⟩
            · refine ih hitem ((suffix_itemStart? hstart).trans ?_)
              exact (Cursor.suffix_advance _ _).trans hnext

theorem Opening.blankLine (h : s.Opening) : s.blankLine.HasRead line := by
  have hbare := h.opens
  have hleaf : s.blankLine.leaf = none := by
    unfold Outline.blankLine
    split
    · exact h.leaf
    · split <;> exact h.leaf
    · exact h.leaf
  refine .open ?_ (by simp [hleaf])
  unfold Outline.blankLine
  split
  · exact h.toBare
  · rename_i blocks os hs
    rw [hs] at hbare
    split
    · exact ⟨by simpa using hbare, h.blocks⟩
    · exact ⟨h.opens, h.blocks⟩
  · exact ⟨h.opens, h.blocks⟩

theorem Opening.add (h : s.Opening) {block : Block} (hblock : block.IsLeaf line) :
    (s.add block).HasRead line := by
  refine .closed (h.toBare.add (.leaf hblock)) ?_
  unfold Outline.add
  split <;> exact h.leaf

theorem Opening.withLeaf (h : s.Opening) {leaf : Leaf} (hleaf : leaf.IsIn line) :
    HasRead line { s with leaf := some leaf } :=
  .open ⟨h.opens, h.blocks⟩ (by simpa using hleaf)

theorem Opening.addHtml (h : s.Opening) (last? : Option (List Char)) {text : List Char}
    (htext : ∀ c ∈ text, c = ' ' ∨ c ∈ line) : (s.addHtml last? [] text).HasRead line := by
  have hleaf : HasRead line { s with leaf := some (.html last? ([] ++ text)) } :=
    h.withLeaf (show Leaf.IsIn line (.html _ _) from htext)
  unfold Outline.addHtml
  cases last? with
  | none => exact hleaf
  | some last =>
    dsimp only
    split
    · exact h.add (show Block.IsLeaf line (.html _) from htext)
    · exact hleaf

theorem mem_padded {cs : List Char} (n : Nat) (h : cs <:+ line) :
    ∀ c ∈ List.replicate n ' ' ++ cs ++ Line.plainEnding ⟨line, []⟩, c = ' ' ∨ c ∈ line := by
  rw [show Line.plainEnding ⟨line, []⟩ = [] from rfl, List.append_nil]
  exact List.forall_mem_append.2
    ⟨fun c hc => .inl (List.eq_of_mem_replicate hc), fun c hc => .inr (h.subset hc)⟩

theorem headingText_isPrefix (cs : List Char) : headingText cs <+: cs := by
  have hstrip (c : Char) (cs : List Char) : (cs.reverse.dropWhile (· == c)).reverse <+: cs := by
    simpa using List.reverse_prefix.2 (List.dropWhile_suffix (l := cs.reverse) (· == c))
  have htrimmed := hstrip ' ' cs
  unfold headingText
  dsimp only
  split
  · exact List.nil_prefix
  · split
    · exact (hstrip ' ' _).trans ((hstrip '#' _).trans htrimmed)
    · exact htrimmed

theorem Opening.openLeaf (h : s.Opening) (indent : Nat) (hcursor : cursor.rest <:+ line) :
    (s.openLeaf ⟨line, []⟩ indent cursor).HasRead line := by
  have hlist := h.began false
  have hpart {cs : List Char} (hcs : cs <:+: cursor.rest) : ofChars cs <:+: ofChars line :=
    (hcs.trans hcursor.isInfix).map _
  unfold Outline.openLeaf
  rw [h.finishList]
  dsimp only
  split
  · exact hlist.addHtml _ (mem_padded indent hcursor)
  · split
    · exact hlist.add trivial
    · split
      · rename_i level _
        refine hlist.add (hpart ?_)
        exact (headingText_isPrefix _).isInfix.trans
          ((List.dropWhile_suffix _).trans (List.drop_suffix _ _)).isInfix
      · split
        · exact hlist.withLeaf (by simp [Leaf.IsIn])
        · exact hlist.withLeaf (hpart List.infix_rfl)

theorem hasRead_openLine (line : List Char) : (openLine {} ⟨line, []⟩).HasRead line := by
  have hstart : Opening {} := ⟨⟨by simp, rfl⟩, rfl, rfl, by simp⟩
  obtain ⟨hopening, hrest⟩ := @Opening.openContainers line _ { rest := line } hstart
    (line.length + 1) List.suffix_rfl
  unfold openLine
  dsimp only [List.reverse_nil, followAll, List.length_nil]
  rw [show popMany (0 - 0) ({} : Outline) = {} from rfl]
  split
  · rename_i s heq
    rw [heq] at hopening
    have hleaf : s.leaf = none := hopening.leaf
    exact .open hopening.toBare (by simp [hleaf])
  · rename_i s cursor heq
    rw [heq] at hopening hrest
    have hs : s.Opening := hopening
    have hnext := (cursor.suffix_indent 4).trans (hrest cursor rfl)
    split
    · exact hs.blankLine
    · split
      · rw [hs.finishList]
        exact (hs.began false).withLeaf (mem_padded _ hnext)
      · exact hs.openLeaf _ hnext

/-- A text without line ends has at most one block, which has at most one block in it, and so on. -/
theorem alone_blocks {line : List Char} (hfeed : '\n' ∉ line) (hreturn : '\x0d' ∉ line) :
    Block.Alone line ((Line.split line).foldl step {}).finish.blocks := by
  rw [Line.split_eq hfeed hreturn]
  split
  · exact .none
  · exact ((hasRead_openLine line).returned _).finish

end Outline

namespace Block

variable {line : List Char}

theorem lone_leaf {block : Block} (h : block.IsLeaf line) (definitions : Definitions)
    (tight : Bool) : Event.Lone (block.events definitions tight) := by
  cases block with
  | paragraph content =>
    have hcontent := Event.Lone.inline (areInline_content definitions content)
    rw [events]
    split
    · exact hcontent
    · exact .around hcontent rfl
  | heading level content =>
    rw [events]
    exact .around (.inline (areInline_content definitions content)) rfl
  | code name text =>
    rw [events]
    exact .code _ _
  | html text =>
    rw [events]
    exact .around (.inline (.leaf rfl rfl)) rfl
  | rule =>
    rw [events]
    exact .rule
  | quote | list | item => cases h

theorem Alone.lone {blocks : List Block} (h : Alone line blocks) (definitions : Definitions)
    (tight : Bool) : Event.Lone (allEvents definitions tight blocks) := by
  induction h generalizing tight with
  | none =>
    rw [allEvents]
    exact .inline .nil
  | leaf h =>
    rw [allEvents, allEvents, List.append_nil]
    exact lone_leaf h definitions tight
  | quote _ ih | list _ ih | item _ ih =>
    rw [allEvents, allEvents, List.append_nil, events]
    exact .around (ih _) rfl

end Block

end Markdown

/-- The inline elements of a text without line ends have no block in them. -/
theorem Node.flat_ofSource {source : String} (hfeed : '\n' ∉ source.toList)
    (hreturn : '\x0d' ∉ source.toList) : (ofSource source).Flat :=
  flat_ofEvents ((Markdown.Outline.alone_blocks hfeed hreturn).lone _ _)

end RichChat

import RichChat.Proofs.Covers
import RichChat.Proofs.FirstOnLine
import RichChat.Proofs.Turns

/-!
# The items of lists

`Node.items` lists the items of a tree with what their markers are made of: the lists and the quotes
around an item, and its number, which is that of its list and how many items came before in it. When
the tree is rendered, these are the markers that are written, each at the start of a line and right
after the markers of the quotes (`Scene.items_renderNode`).

The next number of a list is kept with the lists that are open. Whatever comes between two items of
a list leaves these as they were (`Canvas.Level`), and an item leaves the number of its own list one
further.
-/

namespace RichChat

/-- An item of a list, with what its marker is made of. -/
structure Item where
  node : Node
  /-- How many lists there are around its list. -/
  depth : Nat
  /-- How many quotes there are around it. -/
  quotes : Nat
  /-- Its number, unless it has a bullet. -/
  number : Option Nat

/-- Two spaces for each list around the list of the item, and the number with a full stop or a
bullet. -/
def Item.marker (item : Item) : List Char :=
  (List.replicate item.depth [' ', ' ']).flatten ++
    match item.number with
    | some n => (toString n).toList ++ ['.', ' ']
    | none => ['•', ' ']

/-- The number that the items of a list start with. -/
def NodeKind.firstNumber? : NodeKind → Option UInt64
  | .list start => start
  | _ => none

namespace Node

mutual

/-- The items that are drawn of a tree, from left to right, inside of so many lists and quotes. -/
def items (lists quotes : Nat) : Node → List Item
  | mk kind children =>
    if kind.isAtom then []
    else match kind with
      | .list start => listItems lists quotes start 0 children
      | .blockquote => itemsAll lists (quotes + 1) children
      | _ => itemsAll lists quotes children

def itemsAll (lists quotes : Nat) : List Node → List Item
  | [] => []
  | node :: nodes => node.items lists quotes ++ itemsAll lists quotes nodes

/-- The items of a list that starts with a number, of which `i` came before. The list itself is
around what is in them. -/
def listItems (lists quotes : Nat) (start : Option UInt64) (i : Nat) : List Node → List Item
  | [] => []
  | node :: nodes =>
    if node.tag = .listItem then
      { node, depth := lists, quotes, number := start.map (·.toNat + i) }
        :: node.items (lists + 1) quotes ++ listItems lists quotes start (i + 1) nodes
    else node.items (lists + 1) quotes ++ listItems lists quotes start i nodes

end

/-- How many of the nodes are items. -/
def countItems (nodes : List Node) : Nat := nodes.countP (·.tag = .listItem)

/-- The children of a node are items only if it is a list, whose numbers are numbers of 64 bits. -/
structure Itemized (node : Node) : Prop where
  list : ∀ child ∈ node.children, child.tag = .listItem → node.tag = .list
  numbers : ∀ start ∈ node.kind.firstNumber?, start.toNat + countItems node.children < 2 ^ 64

instance (node : Node) : Decidable node.Itemized :=
  decidable_of_iff
    ((∀ child ∈ node.children, child.tag = .listItem → node.tag = .list) ∧
      node.kind.firstNumber?.all (·.toNat + countItems node.children < 2 ^ 64) = true)
    ⟨fun h => ⟨h.1, by simpa [Option.all_eq_true] using h.2⟩,
      fun h => ⟨h.1, by simpa [Option.all_eq_true] using h.numbers⟩⟩

end Node

/-- The markers of so many quotes in front of the text of a line. If they end the line themselves
they come twice. -/
def Config.marks (config : Config) (quotes : Nat) : List Char :=
  let unit := config.quoteMarker.toList
  (List.replicate (if unit.getLast? = some '\n' then 2 * quotes else quotes) unit).flatten

/-- On the way into an item its marker is written, at the start of a line and right after the
markers of the quotes. -/
structure Item.WrittenAt (scene : Scene) (item : Item) (turn : Visit × Canvas) : Prop where
  node : turn.1.node = item.node
  line : StartsLine turn.2.ensureBreak.buffer.text
  text : (Registry.builtin.visitor scene turn.1 turn.2).2.buffer.text
    = turn.2.ensureBreak.buffer.text ++ scene.config.marks item.quotes ++ item.marker

/-- Whether a visit is the way into an item. -/
def Visit.entersItem (visit : Visit) : Bool := visit.entering && visit.node.tag = .listItem

/-- The turns at which items are entered. -/
def itemTurns (turns : List (Visit × Canvas)) : List (Visit × Canvas) :=
  turns.filter (·.1.entersItem)

theorem itemTurns_append (turns more : List (Visit × Canvas)) :
    itemTurns (turns ++ more) = itemTurns turns ++ itemTurns more := List.filter_append ..

/-- The kinds of nodes that open a list or a quote, or go on in a list. -/
def NodeKind.isLeveled : NodeKind → Bool
  | .list _ | .listItem | .blockquote => true
  | .document | .paragraph | .heading _ | .text _ _ _ | .inline _ | .link _ | .autolink _
  | .codeBlock _ _ | .thematicBreak | .mention _ | .emoji _ => false

namespace Canvas

/-- Drawing has left the lists and the marker as they were. -/
structure Level (c d : Canvas) : Prop where
  lists : d.lists = c.lists
  marker : d.buffer.marker = c.buffer.marker

namespace Level

variable {c d e : Canvas}

theorem refl (c : Canvas) : Level c c := ⟨rfl, rfl⟩

theorem trans (hcd : Level c d) (hde : Level d e) : Level c e :=
  ⟨hde.lists.trans hcd.lists, hde.marker.trans hcd.marker⟩

theorem kept (c : Canvas) : Kept (Level c) where
  flush d h := h.trans ⟨d.flush_lists, by simp⟩
  append d _ h := h.trans ⟨rfl, rfl⟩
  push d _ _ h := h.trans ⟨rfl, rfl⟩
  note d _ h := h.trans ⟨rfl, rfl⟩

theorem change (c : Canvas) (counts : List Nat) : Level c (c.change counts) := by
  rcases c.change_cases counts with ⟨-, heq⟩ | ⟨-, heq⟩ <;> rw [heq] <;> exact ⟨rfl, rfl⟩

theorem enter (c : Canvas) (a : Attribute) : Level c (c.enter a) := by
  rw [enter_eq]
  exact ((kept c).flush c (.refl c)).trans (.change _ _)

theorem exit (c : Canvas) (a : Attribute) : Level c (c.exit a) := by
  rw [exit_eq]
  exact .change _ _

theorem closeLink (c : Canvas) (url : String) : Level c (c.closeLink url) := by
  rcases c.closeLink_cases url with ⟨-, heq⟩ | ⟨start, links, -, heq | ⟨-, heq⟩⟩ <;> rw [heq] <;>
    exact ⟨rfl, rfl⟩

theorem drawCode (c : Canvas) (language : Option String) (lines : List String) :
    Level c (Handler.drawCode c language lines) := by
  have hcode := (kept c).append _ ("\n".intercalate lines).toList
    ((kept c).flush _ ((kept c).startBlock (.refl c)))
  unfold Handler.drawCode
  dsimp only
  split
  · exact hcode.trans ⟨rfl, rfl⟩
  · exact hcode

/-- Only lists, items and quotes change the level. -/
theorem visitor (scene : Scene) (visit : Visit) (c : Canvas)
    (hkind : visit.node.kind.isLeveled = false) :
    Level c (Registry.builtin.visitor scene visit c).2 := by
  have hseparate {d : Canvas} (h : Level c d) : Level c (d.separate visit) :=
    (kept c).separate h visit
  obtain ⟨⟨kind, children⟩, entering, parent, next⟩ := visit
  cases kind with
  | document => exact .refl c
  | paragraph =>
    cases entering with
    | true => exact .refl c
    | false => exact hseparate (.refl c)
  | text s soft hard =>
    cases entering with
    | true =>
      have hput := (kept c).put (.refl c) s
      show Level c (if hard then (c.put s).put "\n\n"
        else if soft then (c.put s).put "\n" else c.put s)
      split
      · exact (kept c).put hput _
      · split
        · exact (kept c).put hput _
        · exact hput
    | false => exact .refl c
  | heading level =>
    cases entering with
    | true => exact .enter c .bold
    | false => exact hseparate (.exit c .bold)
  | inline a =>
    cases entering with
    | true => exact .enter c a
    | false => exact .exit c a
  | link url =>
    cases entering with
    | true => exact ((kept c).flush c (.refl c)).trans ⟨rfl, rfl⟩
    | false => exact .closeLink c url
  | autolink url =>
    cases entering with
    | true =>
      have hput := (kept c).put (.refl c) url
      show Level c (if (c.put url).inLink then c.put url
        else (c.put url).emit (c.write url).1 (.link url))
      split
      · exact hput
      · exact hput.trans ⟨rfl, rfl⟩
    | false => exact .refl c
  | blockquote => cases hkind
  | codeBlock language lines =>
    cases entering with
    | true => exact .drawCode c language lines
    | false => exact hseparate (.refl c)
  | list start => cases hkind
  | listItem => cases hkind
  | thematicBreak =>
    cases entering with
    | true => exact (kept c).put ((kept c).startBlock (.refl c)) "───"
    | false => exact hseparate (.refl c)
  | mention target =>
    cases entering with
    | true => exact (kept c).mention (.refl c) scene target
    | false => exact .refl c
  | emoji e =>
    cases entering with
    | true => exact (kept c).anchor (.refl c) rfl
    | false => exact .refl c

end Level

end Canvas

section Marker

/-- At the start of a line the marker comes before any other text. If it ends the line itself it
comes once more. -/
theorem Buffer.flush_flush_text {b : Buffer} (hline : b.atLineStart = true) :
    b.flush.flush.text
      = b.text ++ (b.marker ++ if b.marker.getLast? = some '\n' then b.marker else []) := by
  by_cases hnil : b.marker = []
  · have hdue : b.markerDue = false := by simp [markerDue, hnil]
    simp [flush, hdue, hnil]
  · have hdue : b.markerDue = true := by simp [markerDue, hnil, hline]
    have hflush : b.flush = b.append b.marker := by rw [flush, if_pos hdue]
    have hagain : (b.append b.marker).markerDue = (b.marker.getLast? == some '\n') := by
      cases hlast : b.marker.getLast? with
      | none => exact absurd (List.getLast?_eq_none_iff.1 hlast) hnil
      | some x =>
        have hempty : b.marker.isEmpty = false := by simp [hnil]
        simp [markerDue, atLineStart, hempty, hnil, hlast, List.getLast?_append]
    rw [hflush, flush, hagain]
    by_cases hfeed : b.marker.getLast? = some '\n'
    · simp [hfeed]
    · simp [hfeed]

theorem Config.marks_eq (config : Config) (quotes : Nat) {marker : List Char}
    (hmarker : marker = (List.replicate quotes config.quoteMarker.toList).flatten) :
    (marker ++ if marker.getLast? = some '\n' then marker else []) = config.marks quotes := by
  unfold marks
  generalize config.quoteMarker.toList = unit at hmarker ⊢
  rcases quotes with _ | quotes
  · simp [hmarker]
  · have hlast : marker.getLast? = unit.getLast? := by
      rw [hmarker, List.replicate_succ', List.flatten_append, List.flatten_singleton,
        List.getLast?_append]
      cases hunit : unit.getLast? with
      | none => simp [List.getLast?_eq_none_iff.1 hunit]
      | some x => rfl
    rw [hlast, hmarker]
    dsimp only
    split
    · rw [Nat.two_mul, List.replicate_add (quotes + 1), List.flatten_append]
    · rw [List.append_nil]

/-- A line of text that is written at the start of a line comes after the markers. -/
theorem Page.write_line {p : Page} {s : String} (hfeed : '\n' ∉ s.toList) (hne : s ≠ "")
    (hline : p.buffer.atLineStart = true) :
    (p.write s).buffer.text = p.buffer.text
      ++ (p.buffer.marker ++ if p.buffer.marker.getLast? = some '\n' then p.buffer.marker else [])
      ++ s.toList := by
  have hpieces := Text.pieces_line hfeed (mt String.toList_eq_nil_iff.1 hne)
  have hfeed' : s.toList ≠ ['\n'] := fun heq => hfeed (by simp [heq])
  have hwrite : p.write s = { p with buffer := (p.flush.buffer.write s.toList).2 } := by
    simp [write, hpieces, writePiece, hfeed']
  rw [hwrite]
  simp only [flush, Buffer.write_piece _ hpieces hfeed', Buffer.append_text,
    Buffer.flush_flush_text hline]

theorem startsLine_ensureBreak (c : Canvas) : StartsLine c.ensureBreak.buffer.text := by
  intro x hx
  have hne : c.ensureBreak.buffer.text ≠ [] := fun hnil => by
    rw [hnil] at hx
    cases hx
  have hlast := Buffer.getLast?_padNewlines Nat.one_pos hne
  exact (Option.some.inj (hlast.symm.trans hx)).symm

end Marker

section Turn

variable (scene : Scene) {c : Canvas} {start : Option UInt64} {outer : List (Option UInt64)}
  {i : Nat}

/-- The next number of a list of which there have been `i` items. -/
def nextNumber (start : Option UInt64) (i : Nat) : Option UInt64 := start.map (· + UInt64.ofNat i)

theorem nextListMarker_eq (hlists : c.lists = nextNumber start i :: outer)
    (hstart : ∀ s ∈ start, s.toNat + i < 2 ^ 64) (node : Node) (quotes : Nat) :
    c.nextListMarker.1.toList
        = Item.marker ⟨node, outer.length, quotes, start.map (·.toNat + i)⟩ ∧
      c.nextListMarker.2.lists = nextNumber start (i + 1) :: outer := by
  have hindent (k : Nat) :
      ("".pushn ' ' (2 * k)).toList = (List.replicate k [' ', ' ']).flatten := by
    induction k with
    | zero => rfl
    | succ k ih =>
      rw [List.replicate_succ', List.flatten_append, ← ih]
      simp [String.pushn, Nat.repeat, Nat.mul_succ]
  unfold Canvas.nextListMarker Item.marker
  rw [hlists]
  cases start with
  | none => simp [nextNumber, hindent, hlists]
  | some s =>
    have hs := hstart s rfl
    have hnumber : (s + UInt64.ofNat i).toNat = s.toNat + i := by
      rw [UInt64.toNat_add, UInt64.toNat_ofNat']
      omega
    have hnext : s + UInt64.ofNat i + 1 = s + UInt64.ofNat (i + 1) := by
      rw [UInt64.ofNat_add, UInt64.add_assoc]
      rfl
    simp [nextNumber, hindent, hnumber, hnext]

theorem marker_ne (item : Item) : item.marker ≠ [] := by
  unfold Item.marker
  cases item.number <;> simp

theorem newline_not_mem_marker (item : Item) : '\n' ∉ item.marker := by
  have hdigits (n : Nat) : '\n' ∉ (toString n).toList := fun hmem => by
    have hdigit := Nat.isDigit_of_mem_toDigits (b := 10) (n := n) (by decide) (Nat.le_refl _)
      (by simpa [toString, Nat.repr] using hmem)
    revert hdigit
    decide
  unfold Item.marker
  cases item.number with
  | none => simp
  | some n => simpa using hdigits n

/-- On the way into the next item of a list its marker is written, and the list goes on with the
number after it. -/
theorem Item.writtenAt_next {quotes : Nat} (hlists : c.lists = nextNumber start i :: outer)
    (hmarker : c.buffer.marker = (List.replicate quotes scene.config.quoteMarker.toList).flatten)
    (hstart : ∀ s ∈ start, s.toNat + i < 2 ^ 64) (children : List Node)
    (parent next : Option Node) :
    let node : Node := .mk .listItem children
    let visit : Visit := { node, entering := true, parent, next }
    let d := (Registry.builtin.visitor scene visit c).2
    WrittenAt scene ⟨node, outer.length, quotes, start.map (·.toNat + i)⟩ (visit, c) ∧
      d.lists = nextNumber start (i + 1) :: outer ∧ d.buffer.marker = c.buffer.marker := by
  intro node visit d
  have hbreak : c.ensureBreak.lists = nextNumber start i :: outer := hlists
  obtain ⟨htext, hnext⟩ := nextListMarker_eq hbreak hstart node quotes
  have hput := (Canvas.Level.kept _).put (.refl c.ensureBreak.nextListMarker.2)
    c.ensureBreak.nextListMarker.1
  have hpage : d.page = c.page.endLine.write c.ensureBreak.nextListMarker.1 := by
    rw [c.nextListMarker_ensureBreak]
    exact c.page_visitor scene visit
  have hkept : c.ensureBreak.nextListMarker.2.buffer.marker = c.buffer.marker :=
    ((Balanced.ensureBreak c).trans (.nextListMarker _)).marker
  refine ⟨⟨rfl, startsLine_ensureBreak c, ?_⟩, hput.lists.trans hnext, hput.marker.trans hkept⟩
  have hne : c.ensureBreak.nextListMarker.1 ≠ "" := by
    rw [← String.toList_inj.ne, htext]
    exact marker_ne _
  have hfeed : '\n' ∉ c.ensureBreak.nextListMarker.1.toList := by
    rw [htext]
    exact newline_not_mem_marker _
  have hline := Page.write_line hfeed hne
    (show c.page.endLine.buffer.atLineStart = true from
      c.buffer.atLineStart_padNewlines Nat.one_pos)
  rw [← hpage, htext, scene.config.marks_eq quotes ?_] at hline
  · exact hline
  · exact ((Balanced.ensureBreak c).marker).trans hmarker

end Turn

theorem Canvas.lists_closeQuote (c : Canvas) : c.closeQuote.lists = c.lists := by
  rcases c.closeQuote_cases with ⟨-, heq⟩ | ⟨quote, quotes, -, heq | ⟨-, heq⟩⟩ <;> rw [heq]
  rfl

/-- The canvas is inside of so many lists and quotes. -/
structure Canvas.Inside (config : Config) (c : Canvas) (lists quotes : Nat) : Prop where
  depth : c.lists.length = lists
  marker : c.buffer.marker = (List.replicate quotes config.quoteMarker.toList).flatten

theorem Canvas.Level.inside {config : Config} {c d : Canvas} (h : Level c d) {lists quotes : Nat}
    (hc : c.Inside config lists quotes) : d.Inside config lists quotes :=
  ⟨by rw [h.lists, hc.depth], by rw [h.marker, hc.marker]⟩

section Walk

variable {scene : Scene}

/-- Of the turns of a node that is no item only those of its children can be into items. -/
theorem itemTurns_turnsNode {kind : NodeKind} {children : List Node}
    (hitem : (Node.mk kind children).tag ≠ .listItem) (parent next : Option Node) (c : Canvas) :
    let visitor := Registry.builtin.visitor scene
    let node : Node := .mk kind children
    let d := (visitor { node, entering := true, parent, next } c).2
    itemTurns (turnsNode visitor parent next node c)
      = itemTurns (turnsAll visitor node (if kind.isAtom then [] else children) d) := by
  intro visitor node d
  have hin : itemTurns [({ node, entering := true, parent, next }, c)] = [] := by
    simp [itemTurns, Visit.entersItem, node, hitem]
  rw [(turnsNode_mk scene kind children parent next c).1, ← List.singleton_append,
    itemTurns_append, itemTurns_append, hin]
  exact List.append_nil _

theorem Node.Itemized.not_item {kind : NodeKind} {children : List Node}
    (h : (Node.mk kind children).Itemized) (hlist : kind.tag ≠ .list) :
    ∀ n ∈ children, n.tag ≠ .listItem :=
  fun n hn hitem => hlist (h.list n hn hitem)

/-- A node that is neither a list nor a quote has the items of its children. -/
theorem items_plain {kind : NodeKind} (hkind : kind.isLeveled = false) (children : List Node)
    (parent next : Option Node) {c : Canvas} {lists quotes : Nat}
    (hc : c.Inside scene.config lists quotes)
    (hall : ∀ {d : Canvas}, d.Inside scene.config lists quotes →
      List.Forall₂ (Item.WrittenAt scene) (Node.itemsAll lists quotes children)
          (itemTurns (turnsAll (Registry.builtin.visitor scene) (.mk kind children) children d)) ∧
        (walkAll (Registry.builtin.visitor scene) (.mk kind children) children d).lists = d.lists) :
    List.Forall₂ (Item.WrittenAt scene) ((Node.mk kind children).items lists quotes)
        (itemTurns (turnsNode (Registry.builtin.visitor scene) parent next (.mk kind children) c)) ∧
      (walkNode (Registry.builtin.visitor scene) parent next (.mk kind children) c).lists
        = c.lists := by
  have hlevel (entering : Bool) (d : Canvas) := Canvas.Level.visitor scene
    { node := .mk kind children, entering, parent, next } d hkind
  have hitem : (Node.mk kind children).tag ≠ .listItem := by
    cases kind with
    | listItem => cases hkind
    | _ => rintro ⟨⟩
  have hitems : (Node.mk kind children).items lists quotes
      = if kind.isAtom then [] else Node.itemsAll lists quotes children := by
    cases kind <;> first | rfl | cases hkind
  rw [itemTurns_turnsNode hitem, (turnsNode_mk scene kind children parent next c).2, hitems]
  cases hatom : kind.isAtom with
  | true => exact ⟨.nil, ((hlevel false _).lists).trans (hlevel true c).lists⟩
  | false =>
    obtain ⟨hrest, hlists⟩ := hall ((hlevel true c).inside hc)
    exact ⟨hrest, ((hlevel false _).lists).trans (hlists.trans (hlevel true c).lists)⟩

mutual

theorem items_turnsNode (parent next : Option Node) : ∀ (node : Node) {c : Canvas}
    {lists quotes : Nat}, node.tag ≠ .listItem → (∀ n ∈ node.preorder, n.Itemized) →
      c.Inside scene.config lists quotes →
      List.Forall₂ (Item.WrittenAt scene) (node.items lists quotes)
          (itemTurns (turnsNode (Registry.builtin.visitor scene) parent next node c)) ∧
        (walkNode (Registry.builtin.visitor scene) parent next node c).lists = c.lists
  | .mk kind children, c, lists, quotes, htag, hnode, hc => by
    rw [Node.preorder, List.forall_mem_cons] at hnode
    obtain ⟨hself, hchildren⟩ := hnode
    cases kind with
    | listItem => exact absurd rfl htag
    | list start =>
      let opened := (if c.lists.isEmpty then c.startBlock else c.ensureBreak).openList start
      have hlists : opened.lists = nextNumber start 0 :: c.lists := by
        have hfirst : nextNumber start 0 = start := by cases start <;> simp [nextNumber]
        rw [hfirst]
        dsimp only [opened]
        split <;> rfl
      have hmarker : opened.buffer.marker = c.buffer.marker := by
        dsimp only [opened]
        split
        · exact (Balanced.startBlock c).marker
        · exact (Balanced.ensureBreak c).marker
      obtain ⟨hitems, houter⟩ := items_turnsList (.mk (.list start) children) children hchildren
        hlists (hmarker.trans hc.marker) hself.numbers
      rw [hc.depth] at hitems
      rw [itemTurns_turnsNode htag, (turnsNode_mk scene (.list start) children parent next c).2]
      refine ⟨hitems, ?_⟩
      exact ((Canvas.Level.kept _).separate (.refl (Canvas.closeList _)) _).lists.trans houter
    | blockquote =>
      have hbreak := Balanced.startBlock c
      have hopen : (c.openQuote scene.config).Inside scene.config lists (quotes + 1) := by
        refine ⟨hbreak.depth.trans hc.depth, ?_⟩
        rw [List.replicate_succ', List.flatten_append, List.flatten_singleton, ← hc.marker,
          ← hbreak.marker]
        rfl
      obtain ⟨hitems, hlists⟩ := items_turnsAll (.mk .blockquote children) children
        (hself.not_item (by decide)) hchildren hopen
      rw [itemTurns_turnsNode htag, (turnsNode_mk scene .blockquote children parent next c).2]
      refine ⟨hitems, Eq.trans ?_ hlists⟩
      exact ((Canvas.Level.kept _).separate (.refl (Canvas.closeQuote _)) _).lists.trans
        (Canvas.lists_closeQuote _)
    | _ =>
      exact items_plain rfl children parent next hc fun hd =>
        items_turnsAll _ children (hself.not_item (by rintro ⟨⟩)) hchildren hd

theorem items_turnsAll (parent : Node) : ∀ (nodes : List Node) {c : Canvas} {lists quotes : Nat},
    (∀ n ∈ nodes, n.tag ≠ .listItem) → (∀ n ∈ Node.preorderAll nodes, n.Itemized) →
      c.Inside scene.config lists quotes →
      List.Forall₂ (Item.WrittenAt scene) (Node.itemsAll lists quotes nodes)
          (itemTurns (turnsAll (Registry.builtin.visitor scene) parent nodes c)) ∧
        (walkAll (Registry.builtin.visitor scene) parent nodes c).lists = c.lists
  | [], c, lists, quotes, _, _, _ => by
    rw [Node.itemsAll, turnsAll, walkAll]
    exact ⟨.nil, rfl⟩
  | node :: nodes, c, lists, quotes, htags, hnodes, hc => by
    rw [Node.preorderAll, List.forall_mem_append] at hnodes
    obtain ⟨htag, htags⟩ := List.forall_mem_cons.1 htags
    obtain ⟨hitems, hlists⟩ := items_turnsNode (some parent) nodes.head? node htag hnodes.1 hc
    have hlevel : Canvas.Level c _ := ⟨hlists, marker_walkNode scene _ _ node c⟩
    obtain ⟨hrest, hlists'⟩ := items_turnsAll parent nodes htags hnodes.2 (hlevel.inside hc)
    rw [Node.itemsAll, turnsAll, walkAll, itemTurns_append]
    exact ⟨List.rel_append hitems hrest, hlists'.trans hlists⟩

/-- An item leaves the list with its next number, and anything else leaves it as it was. -/
theorem items_turnsList (parent : Node) : ∀ (nodes : List Node) {c : Canvas} {quotes : Nat}
    {start : Option UInt64} {i : Nat} {outer : List (Option UInt64)},
    (∀ n ∈ Node.preorderAll nodes, n.Itemized) → c.lists = nextNumber start i :: outer →
      c.buffer.marker = (List.replicate quotes scene.config.quoteMarker.toList).flatten →
      (∀ s ∈ start, s.toNat + i + Node.countItems nodes < 2 ^ 64) →
      List.Forall₂ (Item.WrittenAt scene) (Node.listItems outer.length quotes start i nodes)
          (itemTurns (turnsAll (Registry.builtin.visitor scene) parent nodes c)) ∧
        (walkAll (Registry.builtin.visitor scene) parent nodes c).lists.tail = outer
  | [], c, quotes, start, i, outer, _, hlists, _, _ => by
    rw [Node.listItems, turnsAll, walkAll, hlists]
    exact ⟨.nil, rfl⟩
  | .mk kind children :: nodes, c, quotes, start, i, outer, hnodes, hlists, hmarker, hstart => by
    rw [Node.preorderAll, List.forall_mem_append] at hnodes
    have hmarker' :=
      (marker_walkNode scene (some parent) nodes.head? (.mk kind children) c).trans hmarker
    rw [Node.listItems, turnsAll, walkAll, itemTurns_append]
    by_cases hitem : (Node.mk kind children).tag = .listItem
    · have hcount : Node.countItems (.mk kind children :: nodes) = Node.countItems nodes + 1 := by
        simp [Node.countItems, hitem]
      obtain rfl : kind = .listItem := by
        cases kind with
        | listItem => rfl
        | _ => cases hitem
      rw [hcount] at hstart
      have hself : (Node.mk .listItem children).Itemized := hnodes.1 _ (by simp [Node.preorder])
      obtain ⟨hwritten, hnext, hkept⟩ := Item.writtenAt_next scene hlists hmarker
        (fun s hs => by have := hstart s hs; omega) children (some parent) nodes.head?
      obtain ⟨hinner, hsame⟩ := items_turnsAll (.mk .listItem children) children
        (hself.not_item (by rintro ⟨⟩))
        (fun n hn => hnodes.1 n (by rw [Node.preorder]; exact List.mem_cons_of_mem _ hn))
        ⟨congrArg List.length hnext, hkept.trans hmarker⟩
      obtain ⟨hturns, hwalk⟩ := turnsNode_mk scene .listItem children (some parent) nodes.head? c
      obtain ⟨hrest, houter⟩ := items_turnsList parent nodes hnodes.2
        ((congrArg Canvas.lists hwalk).trans (hsame.trans hnext)) hmarker'
        fun s hs => by have := hstart s hs; omega
      have hitems (turns : List (Visit × Canvas)) (turn last : Visit × Canvas)
          (hturn : turn.1.entersItem = true) (hlast : last.1.entersItem = false) :
          itemTurns (turn :: turns ++ [last]) = turn :: itemTurns turns := by
        simp [itemTurns, hturn, hlast]
      rw [if_pos hitem, hturns, hitems _ _ _ rfl rfl]
      exact ⟨.cons hwritten (List.rel_append hinner hrest), houter⟩
    · have hcount : Node.countItems (.mk kind children :: nodes) = Node.countItems nodes := by
        simp [Node.countItems, hitem]
      have hinside : c.Inside scene.config (outer.length + 1) quotes :=
        ⟨congrArg List.length hlists, hmarker⟩
      obtain ⟨hnode, hsame⟩ :=
        items_turnsNode (some parent) nodes.head? (.mk kind children) hitem hnodes.1 hinside
      rw [hcount] at hstart
      obtain ⟨hrest, houter⟩ :=
        items_turnsList parent nodes hnodes.2 (hsame.trans hlists) hmarker' hstart
      rw [if_neg hitem]
      exact ⟨List.rel_append hnode hrest, houter⟩

end

end Walk

/-- The items of a tree are entered in their order, each with its marker behind the markers of the
quotes at the start of a line. What is drawn at a turn is how the content starts. -/
theorem Scene.items_renderNode (scene : Scene) (node : Node) (hroot : node.tag ≠ .listItem)
    (hnode : ∀ n ∈ node.preorder, n.Itemized) :
    List.Forall₂ (Item.WrittenAt scene) (node.items 0 0) (itemTurns (scene.turns node)) ∧
      ∀ turn ∈ scene.turns node, (Registry.builtin.visitor scene turn.1 turn.2).2.buffer.text
        <+: (scene.renderNode node).text.content.toList := by
  refine ⟨?_, fun turn hturn => ?_⟩
  · obtain ⟨emojiSize, hsize⟩ := (Canvas.fresh scene.config).sizeEmoji_eq scene.config node
    have hfresh : Canvas.Inside scene.config { Canvas.fresh scene.config with emojiSize } 0 0 :=
      ⟨rfl, rfl⟩
    rw [turns, hsize]
    exact (items_turnsNode none none node hroot hnode hfresh).1
  · rw [renderNode_drawn, Canvas.content, String.toList_ofList]
    exact scene.prefix_turn node hturn

/-- The list inside of the first item does not disturb the number of the second one. -/
theorem Scene.items_renderNode_nested :
    let scene : Scene := {}
    let first : Node := .mk .listItem [.text "a", .mk (.list (some 1)) [.leaf .listItem]]
    let second : Node := .mk .listItem [.mk .blockquote [.mk (.list none) [.leaf .listItem]]]
    let node : Node := .mk .document [.mk (.list (some 9)) [first, second]]
    node.tag ≠ .listItem ∧ (∀ n ∈ node.preorder, n.Itemized) ∧
      (scene.renderNode node).text.content = "9. a\n  1. \n10. \n\n>   • " ∧
      (node.items 0 0).map (fun item => (String.ofList item.marker, item.quotes))
        = [("9. ", 0), ("  1. ", 0), ("10. ", 0), ("  • ", 1)] ∧
      List.Forall₂ (Item.WrittenAt scene) (node.items 0 0) (itemTurns (scene.turns node)) := by
  intro scene first second node
  have hroot : node.tag ≠ .listItem := by decide
  have hnode : ∀ n ∈ node.preorder, n.Itemized := by decide
  exact ⟨hroot, hnode, by cbv, by decide, (items_renderNode scene node hroot hnode).1⟩

end RichChat

import RichChat.Proofs.Mentioned

/-!
# What handlers do to the text

The text of a canvas and its marker depend on nothing but the buffer and the open quotes, which make
up its `Page`. What a handler does to them at a visit is a list of strokes of a `Pen`
(`Visit.pens`): it writes a text or code, it goes to a place where a marker may be due, it leaves
space, and it opens and closes quotes. Everything else that it draws leaves the page alone
(`Canvas.page_visitor`).
-/

namespace RichChat

/-- What the text of a canvas depends on. -/
structure Page where
  buffer : Buffer := {}
  quotes : List Quote := []

/-- What a pen does to a page. -/
inductive Pen
  | text (s : String)
  /-- Writes a text whose lines after the first get no marker. -/
  | code (s : String)
  /-- Goes to the point where the next text starts. -/
  | point
  | endLine
  | startBlock
  | openQuote
  | closeQuote

namespace Page

def flush (p : Page) : Page := { p with buffer := p.buffer.flush }

def append (p : Page) (cs : List Char) : Page := { p with buffer := p.buffer.append cs }

/-- Adds a part of a text that ends at the end of a line or of the text. -/
def writePiece (p : Page) (piece : List Char) : Page :=
  if piece = ['\n'] then p.append piece
  else { p with buffer := (p.flush.buffer.write piece).2 }

def write (p : Page) (s : String) : Page := (Text.pieces s.toList).foldl writePiece p

def endLine (p : Page) : Page := { p with buffer := p.buffer.ensureBreak }

def startBlock (p : Page) : Page := { p with buffer := p.buffer.startBlock }

/-- Puts a quote on the stack, and its marker behind the marker. -/
def pushQuote (p : Page) (config : Config) : Page where
  buffer := (p.buffer.pushMarker config.quoteMarker.toList).2
  quotes := ⟨p.buffer.length, p.buffer.marker.length⟩ :: p.quotes

def popQuote (p : Page) : Page :=
  match p.quotes with
  | [] => p
  | quote :: quotes => ⟨p.buffer.popMarker quote.outerMarker, quotes⟩

end Page

def Pen.run (config : Config) : Pen → Page → Page
  | text s, p => p.write s
  | code s, p => p.flush.append s.toList
  | point, p => p.flush
  | endLine, p => p.endLine
  | startBlock, p => p.startBlock
  | openQuote, p => p.startBlock.pushQuote config
  | closeQuote, p => p.popQuote

def Page.run (config : Config) (p : Page) (pens : List Pen) : Page :=
  pens.foldl (fun p pen => pen.run config p) p

@[simp] theorem Page.run_nil (config : Config) (p : Page) : p.run config [] = p := rfl

@[simp] theorem Page.run_cons (config : Config) (p : Page) (pen : Pen) (pens : List Pen) :
    p.run config (pen :: pens) = (pen.run config p).run config pens := rfl

@[simp] theorem Page.run_append (config : Config) (p : Page) (pens more : List Pen) :
    p.run config (pens ++ more) = (p.run config pens).run config more := by
  simp [Page.run]

/-- The space after a block. -/
def Visit.space (visit : Visit) : List Pen :=
  match visit.next, visit.parent.map Node.tag with
  | none, _ => []
  | some _, none | some _, some .document => [.startBlock]
  | some _, some _ => [.endLine]

/-- A mention that was found, perhaps after an avatar, or as it is written in messages. -/
def Scene.mentionPens (scene : Scene) (target : Reference) : List Pen :=
  match scene.data? none target with
  | some data =>
    (if target.kind = .user ∧ scene.config.mentionAvatars ∧ data.avatarUrl.isSome then [.point]
      else []) ++ [.text (target.sigil ++ data.name)]
  | none => [.text target.sourceForm]

/-- What a visit does to the page of a canvas. -/
def Visit.pens (scene : Scene) (visit : Visit) (c : Canvas) : List Pen :=
  match visit.node.kind, visit.entering with
  | .document, _ => []
  | .paragraph, true => []
  | .paragraph, false => visit.space
  | .text s soft hard, true =>
    .text s :: if hard then [.text "\n\n"] else if soft then [.text "\n"] else []
  | .text _ _ _, false => []
  | .heading _, true => [.point]
  | .heading _, false => visit.space
  | .inline _, true | .link _, true => [.point]
  | .inline _, false | .link _, false => []
  | .autolink url, true => [.text url]
  | .autolink _, false => []
  | .blockquote, true => [.openQuote]
  | .blockquote, false => .closeQuote :: visit.space
  | .codeBlock _ lines, true => [.startBlock, .code ("\n".intercalate lines)]
  | .codeBlock _ _, false => visit.space
  | .list _, true => [if c.lists.isEmpty then .startBlock else .endLine]
  | .list _, false => visit.space
  | .listItem, true => [.endLine, .text c.nextListMarker.1]
  | .listItem, false => []
  | .thematicBreak, true => [.startBlock, .text "───"]
  | .thematicBreak, false => visit.space
  | .mention target, true => scene.mentionPens target
  | .mention _, false => []
  | .emoji _, true => [.point]
  | .emoji _, false => []

namespace Canvas

def page (c : Canvas) : Page := ⟨c.buffer, c.quotes⟩

variable (c : Canvas)

@[simp] theorem page_flush : c.flush.page = c.page.flush := by
  simp [page, Page.flush]

@[simp] theorem page_put (text : String) : (c.put text).page = c.page.write text := by
  have fold (ps : List (List Char)) : ∀ (range : Option (Nat × Nat)) (c : Canvas),
      (ps.foldl Canvas.writePiece (range, c)).2.page = ps.foldl Page.writePiece c.page := by
    induction ps with
    | nil => exact fun _ _ => rfl
    | cons p ps ih =>
      intro range c
      have hpiece : (Canvas.writePiece (range, c) p).2.page = c.page.writePiece p := by
        rw [writePiece_snd, Page.writePiece]
        split <;> simp [page, Page.append, Page.flush]
      rw [List.foldl_cons, List.foldl_cons, ← hpiece]
      exact ih _ _
  exact fold _ none c

@[simp] theorem page_change (counts : List Nat) : (c.change counts).page = c.page := by
  simp [page, change, pushRun_eq]

@[simp] theorem page_enter (a : Attribute) : (c.enter a).page = c.page.flush := by
  rw [enter_eq, page_change, page_flush]

@[simp] theorem page_exit (a : Attribute) : (c.exit a).page = c.page := by
  rw [exit_eq, page_change]

@[simp] theorem page_emit (range : Nat × Nat) (kind : SegmentKind) :
    (c.emit range kind).page = c.page := rfl

@[simp] theorem page_anchor (kind : SegmentKind) : (c.anchor kind).page = c.page.flush :=
  c.page_flush

@[simp] theorem page_openLink : c.openLink.page = c.page.flush := c.page_flush

@[simp] theorem page_closeLink (url : String) : (c.closeLink url).page = c.page := by
  rcases c.closeLink_cases url with ⟨-, heq⟩ | ⟨start, links, -, heq | ⟨-, heq⟩⟩ <;> rw [heq] <;> rfl

@[simp] theorem page_openQuote (config : Config) :
    (c.openQuote config).page = c.page.startBlock.pushQuote config := rfl

@[simp] theorem page_closeQuote : c.closeQuote.page = c.page.popQuote := by
  rcases c.closeQuote_cases with ⟨hq, heq⟩ | ⟨quote, quotes, hq, heq | ⟨-, heq⟩⟩ <;> rw [heq] <;>
    simp [page, Page.popQuote, hq, Canvas.push]

@[simp] theorem page_request (scene : Scene) (r : FetchRequest) :
    (c.request scene r).page = c.page := by
  unfold request
  split <;> rfl

theorem page_nextListMarker : c.nextListMarker.2.page = c.page := by
  unfold nextListMarker
  dsimp only
  split <;> rfl

theorem nextListMarker_ensureBreak :
    c.ensureBreak.nextListMarker.1 = c.nextListMarker.1 := by
  have hlists : c.ensureBreak.lists = c.lists := rfl
  unfold nextListMarker
  rw [hlists]
  rcases c.lists with _ | ⟨_ | n, lists⟩ <;> rfl

theorem page_separate (config : Config) (visit : Visit) :
    (c.separate visit).page = c.page.run config visit.space := by
  unfold separate Visit.space
  cases visit.next with
  | none => rfl
  | some next =>
    rcases visit.parent.map Node.tag with _ | tag
    · rfl
    · cases tag <;> rfl

theorem page_drawCode (config : Config) (language : Option String) (lines : List String) :
    (Handler.drawCode c language lines).page
      = c.page.run config [.startBlock, .code ("\n".intercalate lines)] := by
  have hcode : (c.startBlock.flush.writeVerbatim ("\n".intercalate lines)).2.page
      = c.page.run config [.startBlock, .code ("\n".intercalate lines)] := by
    simp [writeVerbatim, Buffer.writeVerbatim, page, Page.run, Pen.run, Page.startBlock, Page.flush,
      Page.append, Canvas.startBlock]
  unfold Handler.drawCode
  dsimp only
  split
  · exact hcode
  · exact hcode

section Mention

variable {c} (scene : Scene) (target : Reference)

theorem page_writeResolved (data : MentionData) :
    (c.writeResolved scene target data).page = c.page.run scene.config
      ((if target.kind = .user ∧ scene.config.mentionAvatars ∧ data.avatarUrl.isSome then
        [.point] else []) ++ [.text (target.sigil ++ data.name)]) := by
  have havatar : (c.mentionAvatar scene.config target data).page = c.page.run scene.config
      (if target.kind = .user ∧ scene.config.mentionAvatars ∧ data.avatarUrl.isSome then
        [.point] else []) := by
    unfold mentionAvatar
    cases data.avatarUrl with
    | none => simp
    | some url =>
      by_cases hshown : target.kind = .user ∧ scene.config.mentionAvatars <;>
        simp [hshown, Pen.run]
  rw [Page.run_append, ← havatar]
  unfold writeResolved
  dsimp only
  rw [page_emit]
  split
  · exact page_put _ _
  · exact page_put _ _

theorem page_writeUnresolved :
    (c.writeUnresolved scene target).page = c.page.write target.sourceForm := c.page_put _

theorem page_mention :
    (c.mention scene target).page = c.page.run scene.config (scene.mentionPens target) := by
  obtain ⟨d, hd, heq⟩ := c.mention_eq scene target
  have hpage : d.page = c.page := by
    rcases hd with rfl | ⟨r, rfl⟩
    · rfl
    · exact c.page_request scene r
  rw [heq, Scene.mentionPens, ← hpage]
  cases scene.data? none target with
  | some data => exact page_writeResolved scene target data
  | none => exact page_writeUnresolved scene target

end Mention

/-- A visit does to the page of a canvas what its pens do, and nothing else. -/
theorem page_visitor (scene : Scene) (visit : Visit) :
    (Registry.builtin.visitor scene visit c).2.page
      = c.page.run scene.config (visit.pens scene c) := by
  have hspace (d : Canvas) := d.page_separate scene.config visit
  obtain ⟨⟨kind, children⟩, entering, parent, next⟩ := visit
  cases kind with
  | document => rfl
  | paragraph =>
    cases entering with
    | true => rfl
    | false => exact hspace c
  | text s soft hard =>
    cases entering with
    | true =>
      show (if hard then (c.put s).put "\n\n" else if soft then (c.put s).put "\n"
        else c.put s).page = _
      cases hard <;> cases soft <;> simp [Visit.pens, Node.kind, Pen.run]
    | false => rfl
  | heading level =>
    cases entering with
    | true => exact c.page_enter .bold
    | false => exact (hspace _).trans (by rw [page_exit]; rfl)
  | inline a =>
    cases entering with
    | true => exact c.page_enter a
    | false => exact c.page_exit a
  | link url =>
    cases entering with
    | true => exact c.page_openLink
    | false => exact c.page_closeLink url
  | autolink url =>
    cases entering with
    | true =>
      show (if (c.put url).inLink then c.put url else (c.put url).emit (c.write url).1 (.link url)).page
        = _
      split <;> exact c.page_put url
    | false => rfl
  | blockquote =>
    cases entering with
    | true => rfl
    | false => exact (hspace _).trans (by rw [page_closeQuote]; rfl)
  | codeBlock language lines =>
    cases entering with
    | true => exact c.page_drawCode scene.config language lines
    | false => exact hspace c
  | list start =>
    cases entering with
    | true =>
      show ((if c.lists.isEmpty then c.startBlock else c.ensureBreak).openList start).page = _
      cases hl : c.lists.isEmpty <;> simp [Visit.pens, Node.kind, hl, Pen.run] <;> rfl
    | false => exact hspace c.closeList
  | listItem =>
    cases entering with
    | true =>
      show (c.ensureBreak.nextListMarker.2.put c.ensureBreak.nextListMarker.1).page = _
      rw [page_put, page_nextListMarker, nextListMarker_ensureBreak]
      rfl
    | false => rfl
  | thematicBreak =>
    cases entering with
    | true => exact c.startBlock.page_put "───"
    | false => exact hspace c
  | mention target =>
    cases entering with
    | true => exact page_mention scene target
    | false => rfl
  | emoji e =>
    cases entering with
    | true => exact c.page_anchor _
    | false => rfl

end Canvas

end RichChat

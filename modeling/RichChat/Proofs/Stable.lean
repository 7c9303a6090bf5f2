import RichChat.Proofs.Rendering

/-!
# What the kinds of segments leave alone

`Canvas.Stable ok Q` lists what has to be shown of a property of canvases: that it is kept when text
is added, when the open run ends, when something is opened or closed, and when a segment of a kind
is made that is `ok`. All segments but those of quotes end where the text ends when they are made.
Then the property is kept by everything that makes no other segments: by the handlers of all nodes
but mentions (`Stable.visitor`), and by the parts of embeds, attachments, activities and tooltips.

Mentions, which also ask the store, and nested renderings are what is left. A family of properties
that says of them what becomes of the mentions in a text is told of whole trees by
`Telling.walkNode`, and of messages with their embeds by `TellingNested.parts`.
-/

namespace RichChat

/-- Whether a segment ends at an offset. That of a quote leaves out the blanks at the end. -/
def Segment.ClosesAt (offset : Nat) (s : Segment) : Prop := s.kind = .quoteBlock ∨ s.stop = offset

namespace Canvas

/-- A property of canvases that is kept by all drawing whose segments are of certain kinds, and that
asks the store for nothing. Runs of attributes are no matter. Drawing leaves the size of emoji as it
is. -/
structure Stable (ok : SegmentKind → Prop) (Q : Canvas → Prop) : Prop where
  flush : ∀ {c}, Q c → Q c.flush
  append : ∀ {c} cs, Q c → Q { c with buffer := c.buffer.append cs }
  change : ∀ {c} counts, Q c → Q (c.change counts)
  push : ∀ {c} {s : Segment}, ok s.kind → s.ClosesAt c.length → Q c → Q (c.push s)
  frame : ∀ {c} marker links quotes lists, Q c →
    Q { c with buffer := { c.buffer with marker }, links, quotes, lists }

namespace Stable

variable {ok : SegmentKind → Prop} {Q : Canvas → Prop} {c : Canvas}

theorem put (hQ : Stable ok Q) (h : Q c) (text : String) : Q (c.put text) :=
  put_keeps (fun _ h => hQ.flush h) (fun _ cs h => hQ.append cs h) h text

theorem emit (hQ : Stable ok Q) (h : Q c) {range : Nat × Nat} (hstop : range.2 = c.length)
    {kind : SegmentKind} (hk : ok kind) : Q (c.emit range kind) := hQ.push hk (.inr hstop) h

theorem emitAll (hQ : Stable ok Q) (h : Q c) {kind : SegmentKind} (hk : ok kind) :
    Q (c.emit (0, c.length) kind) := hQ.push hk (.inr rfl) h

theorem anchor (hQ : Stable ok Q) (h : Q c) {kind : SegmentKind} (hk : ok kind) :
    Q (c.anchor kind) := hQ.push hk (.inr rfl) (hQ.flush h)

theorem ensureBreak (hQ : Stable ok Q) (h : Q c) : Q c.ensureBreak := by
  obtain ⟨k, hk⟩ := c.buffer.padNewlines_eq_append 1
  rw [Canvas.ensureBreak, Buffer.ensureBreak, hk]
  exact hQ.append _ h

theorem startBlock (hQ : Stable ok Q) (h : Q c) : Q c.startBlock := by
  obtain ⟨k, hk⟩ := c.buffer.padNewlines_eq_append 2
  rw [Canvas.startBlock, Buffer.startBlock, hk]
  exact hQ.append _ h

theorem separate (hQ : Stable ok Q) (h : Q c) (visit : Visit) : Q (c.separate visit) := by
  unfold Canvas.separate
  split
  · exact h
  · exact hQ.startBlock h
  · exact hQ.startBlock h
  · exact hQ.ensureBreak h

theorem enter (hQ : Stable ok Q) (h : Q c) (a : Attribute) : Q (c.enter a) := by
  rw [enter_eq]
  exact hQ.change _ (hQ.flush h)

theorem exit (hQ : Stable ok Q) (h : Q c) (a : Attribute) : Q (c.exit a) := by
  rw [exit_eq]
  exact hQ.change _ h

theorem writeWith (hQ : Stable ok Q) (h : Q c) (a : Attribute) (text : String) :
    Q (c.writeWith a text).2 := by
  rw [writeWith_eq]
  exact hQ.exit (hQ.put (hQ.enter h a) text) a

theorem openLink (hQ : Stable ok Q) (h : Q c) : Q c.openLink :=
  hQ.frame _ _ _ _ (hQ.flush h)

theorem closeLink (hQ : Stable ok Q) (h : Q c) {url : String} (hk : ok (.link url)) :
    Q (c.closeLink url) := by
  rcases c.closeLink_cases url with ⟨-, heq⟩ | ⟨start, links, -, hclose⟩
  · rwa [heq]
  · have hpop : Q { c with links } := hQ.frame _ _ _ _ h
    rcases hclose with heq | ⟨-, heq⟩ <;> rw [heq]
    · exact hpop
    · exact hQ.push hk (.inr rfl) hpop

theorem openQuote (hQ : Stable ok Q) (h : Q c) (config : Config) : Q (c.openQuote config) :=
  hQ.frame _ _ _ _ (hQ.startBlock h)

theorem closeQuote (hQ : Stable ok Q) (hk : ok .quoteBlock) (h : Q c) : Q c.closeQuote := by
  rcases c.closeQuote_cases with ⟨-, heq⟩ | ⟨quote, quotes, -, hclose⟩
  · rwa [heq]
  · have hpop : Q { c with buffer := c.buffer.popMarker quote.outerMarker, quotes } :=
      hQ.frame _ _ _ _ h
    rcases hclose with heq | ⟨-, heq⟩ <;> rw [heq]
    · exact hpop
    · exact hQ.push hk (.inl rfl) hpop

theorem finish (hQ : Stable ok Q) (hk : ok .quoteBlock) (h : Q c) : Q c.finish := by
  have hclose : ∀ n {c}, Q c → Q (closeQuotes n c) := by
    intro n
    induction n with
    | zero => exact fun h => h
    | succ n ih => exact fun h => ih (hQ.closeQuote hk h)
  rw [finish_eq, leave_eq]
  exact hclose _ (hQ.change _ h)

theorem nextListMarker (hQ : Stable ok Q) (h : Q c) : Q c.nextListMarker.2 := by
  unfold Canvas.nextListMarker
  split
  · exact hQ.frame _ _ _ _ h
  · exact h

theorem drawCode (hQ : Stable ok Q) (h : Q c) {language : Option String}
    (hk : ok (.codeBlock language)) (lines : List String) :
    Q (Handler.drawCode c language lines) := by
  have hcode := hQ.append ("\n".intercalate lines).toList (hQ.flush (hQ.startBlock h))
  unfold Handler.drawCode
  dsimp only
  split
  · exact hQ.emit hcode (Buffer.append_length _ _).symm hk
  · exact hcode

theorem foldl {α : Type} (h : Q c) (xs : List α) {draw : Canvas → α → Canvas}
    (hdraw : ∀ {c} x, Q c → Q (draw c x)) : Q (xs.foldl draw c) :=
  List.foldlRecOn xs draw h fun _ hd x _ => hdraw x hd

theorem and {P : Canvas → Prop} (hP : Stable ok P) (hQ : Stable ok Q) :
    Stable ok fun c => P c ∧ Q c where
  flush h := ⟨hP.flush h.1, hQ.flush h.2⟩
  append cs h := ⟨hP.append cs h.1, hQ.append cs h.2⟩
  change counts h := ⟨hP.change counts h.1, hQ.change counts h.2⟩
  push hk hstop h := ⟨hP.push hk hstop h.1, hQ.push hk hstop h.2⟩
  frame _ _ _ _ h := ⟨hP.frame _ _ _ _ h.1, hQ.frame _ _ _ _ h.2⟩

theorem mono {ok' : SegmentKind → Prop} (hQ : Stable ok Q) (hok : ∀ kind, ok' kind → ok kind) :
    Stable ok' Q :=
  ⟨hQ.flush, hQ.append, hQ.change, fun hk => hQ.push (hok _ hk), hQ.frame⟩

end Stable

end Canvas

/-- Whether those kinds are `ok` of which drawing makes segments by itself. Images and mentions are
drawn for nodes and parts of their own; avatars are always of the configured size. -/
structure SegmentKind.Allows (config : Config) (ok : SegmentKind → Prop) : Prop where
  link : ∀ url, ok (.link url)
  quoteBlock : ok .quoteBlock
  codeBlock : ∀ language, ok (.codeBlock language)
  color : ∀ color, ok (.color color)
  avatar : ∀ url altText, ok (.avatar ⟨url, config.avatarSize, altText⟩)

open SegmentKind (Allows)

theorem SegmentKind.Allows.all (config : Config) : Allows config fun _ => True :=
  ⟨fun _ => trivial, trivial, fun _ => trivial, fun _ => trivial, fun _ _ => trivial⟩

/-- Whether those kinds are `ok` of which a mention makes segments. -/
structure SegmentKind.AllowsMention (config : Config) (ok : SegmentKind → Prop) : Prop where
  color : ∀ color, ok (.color color)
  avatar : ∀ url altText, ok (.avatar ⟨url, config.avatarSize, altText⟩)
  mention : ∀ m, ok (.mention m)

open SegmentKind (AllowsMention)

theorem SegmentKind.Allows.withMention {config : Config} {ok : SegmentKind → Prop}
    (hok : Allows config ok) (hmention : ∀ m, ok (.mention m)) : AllowsMention config ok :=
  ⟨hok.color, hok.avatar, hmention⟩

theorem SegmentKind.AllowsMention.all (config : Config) : AllowsMention config fun _ => True :=
  (Allows.all config).withMention fun _ => trivial

/-- Whether a visit may make a segment of a kind. Mentions are drawn apart. -/
def Visit.makes (visit : Visit) (kind : SegmentKind) : Bool :=
  match visit.node.kind, visit.entering, kind with
  | .link _, false, .link _ => true
  | .autolink _, true, .link _ => true
  | .blockquote, false, .quoteBlock => true
  | .codeBlock _ _, true, .codeBlock _ => true
  | .emoji _, true, .image _ => true
  | _, _, _ => false

/-- Whether a segment is something other than a mention. -/
def SegmentKind.NoMention (kind : SegmentKind) : Prop := ∀ m, kind ≠ .mention m

theorem SegmentKind.Allows.noMention (config : Config) : Allows config NoMention :=
  ⟨fun _ => nofun, nofun, fun _ => nofun, fun _ => nofun, fun _ _ => nofun⟩

namespace Canvas.Stable

variable {ok : SegmentKind → Prop} {Q : Canvas → Prop} {c : Canvas} {config : Config}

theorem mentionAvatar (hQ : Stable ok Q)
    (havatar : ∀ url altText, ok (.avatar ⟨url, config.avatarSize, altText⟩)) (h : Q c)
    (target : Reference) (data : MentionData) : Q (c.mentionAvatar config target data) := by
  unfold Canvas.mentionAvatar
  split
  · split
    · exact hQ.anchor h (havatar _ _)
    · exact h
  · exact h

theorem writeResolved {scene : Scene} (hQ : Stable ok Q) (hok : AllowsMention scene.config ok)
    (h : Q c) (target : Reference) (data : MentionData) :
    Q (c.writeResolved scene target data) := by
  have hput := hQ.put (hQ.mentionAvatar hok.avatar h target data) (target.sigil ++ data.name)
  have hstop := (c.mentionAvatar scene.config target data).write_stop (target.sigil ++ data.name)
  unfold Canvas.writeResolved
  dsimp only
  split
  · exact hQ.emit (hQ.emit hput hstop (hok.color _)) hstop (hok.mention _)
  · exact hQ.emit hput hstop (hok.mention _)

theorem writeUnresolved (hQ : Stable ok Q) (hmention : ∀ m, ok (.mention m)) (h : Q c)
    (scene : Scene) (target : Reference) : Q (c.writeUnresolved scene target) :=
  hQ.emit (hQ.put h _) (c.write_stop _) (hmention _)

/-- Handlers of other nodes than mentions make the segments that belong to the node. -/
theorem visitor_makes {scene : Scene} (hQ : Stable ok Q) (visit : Visit)
    (hmention : visit.entering = true → visit.node.tag ≠ .mention)
    (hok : ∀ kind, visit.makes kind = true → ok kind)
    (h : Q c) : Q (Registry.builtin.visitor scene visit c).2 := by
  obtain ⟨⟨kind, children⟩, entering, parent, next⟩ := visit
  cases kind with
  | document => exact h
  | paragraph =>
    cases entering with
    | true => exact h
    | false => exact hQ.separate h _
  | text s soft hard =>
    cases entering with
    | true =>
      have hput := hQ.put h s
      show Q (if hard then (c.put s).put "\n\n" else if soft then (c.put s).put "\n" else c.put s)
      split
      · exact hQ.put hput _
      · split
        · exact hQ.put hput _
        · exact hput
    | false => exact h
  | heading level =>
    cases entering with
    | true => exact hQ.enter h .bold
    | false => exact hQ.separate (hQ.exit h .bold) _
  | inline a =>
    cases entering with
    | true => exact hQ.enter h a
    | false => exact hQ.exit h a
  | link url =>
    cases entering with
    | true => exact hQ.openLink h
    | false => exact hQ.closeLink h (hok (.link url) rfl)
  | autolink url =>
    cases entering with
    | true =>
      have hput := hQ.put h url
      show Q (if (c.put url).inLink then c.put url else (c.put url).emit (c.write url).1 (.link url))
      split
      · exact hput
      · exact hQ.emit hput (c.write_stop url) (hok (.link url) rfl)
    | false => exact h
  | blockquote =>
    cases entering with
    | true => exact hQ.openQuote h scene.config
    | false => exact hQ.separate (hQ.closeQuote (hok .quoteBlock rfl) h) _
  | codeBlock language lines =>
    cases entering with
    | true => exact hQ.drawCode h (hok (.codeBlock language) rfl) lines
    | false => exact hQ.separate h _
  | list start =>
    cases entering with
    | true =>
      show Q ((if c.lists.isEmpty then c.startBlock else c.ensureBreak).openList start)
      refine hQ.frame _ _ _ _ ?_
      split
      · exact hQ.startBlock h
      · exact hQ.ensureBreak h
    | false => exact hQ.separate (hQ.frame _ _ _ _ h) _
  | listItem =>
    cases entering with
    | true => exact hQ.put (hQ.nextListMarker (hQ.ensureBreak h)) _
    | false => exact h
  | thematicBreak =>
    cases entering with
    | true => exact hQ.put (hQ.startBlock h) "───"
    | false => exact hQ.separate h _
  | mention target =>
    cases entering with
    | true => exact absurd rfl (hmention rfl)
    | false => exact h
  | emoji e =>
    cases entering with
    | true => exact hQ.anchor h (hok (.image _) rfl)
    | false => exact h

/-- Handlers of other nodes make no mentions, and those of other nodes than emoji no images. -/
theorem visitor {scene : Scene} (hQ : Stable ok Q) (hok : Allows scene.config ok) (visit : Visit)
    (hmention : visit.entering = true → visit.node.tag ≠ .mention)
    (hemoji : visit.entering = true → visit.node.tag = .emoji → ∀ image, ok (.image image))
    (h : Q c) : Q (Registry.builtin.visitor scene visit c).2 := by
  refine hQ.visitor_makes visit hmention (fun kind hk => ?_) h
  unfold Visit.makes at hk
  split at hk
  · exact hok.link _
  · exact hok.link _
  · exact hok.quoteBlock
  · exact hok.codeBlock _
  · rename_i hnode hentering
    exact hemoji hentering (by rw [Node.tag, hnode]; rfl) _
  · cases hk

theorem linkRange (hQ : Stable ok Q) (hok : Allows config ok) (h : Q c) {range : Nat × Nat}
    (hstop : range.2 = c.length) (url : Option String) : Q (c.linkRange range url) := by
  unfold Canvas.linkRange
  split
  · split
    · exact hQ.emit h hstop (hok.link _)
    · exact h
  · exact h

theorem placeIcon (hQ : Stable ok Q) (hok : Allows config ok) (h : Q c) (icon : Option String)
    (name : String) : Q (c.placeIcon config icon name) := by
  unfold Canvas.placeIcon
  split
  · rename_i icon
    have havatar : Q (c.placeAvatar config icon name) := hQ.anchor h (hok.avatar icon name)
    exact hQ.put havatar " "
  · exact h

theorem embedLine (hQ : Stable ok Q) (hok : Allows config ok) (h : Q c) (embed : Embed) :
    Q (c.embedLine config embed) :=
  hQ.emit (hQ.put (hQ.startBlock h) _) (write_stop _ _) (hok.color _)

theorem embedAuthor (hQ : Stable ok Q) (hok : Allows config ok) (h : Q c)
    (author : EmbedAuthor) : Q (c.embedAuthor config author) :=
  hQ.linkRange hok (hQ.put (hQ.placeIcon hok (hQ.ensureBreak h) _ _) _) (write_stop _ _) _

theorem embedTitle (hQ : Stable ok Q) (hok : Allows config ok) (h : Q c) (url : Option String)
    (title : String) : Q (c.embedTitle url title) :=
  hQ.linkRange hok (hQ.writeWith (hQ.ensureBreak h) _ _) (writeWith_stop _ _ _) _

theorem embedField (hQ : Stable ok Q) (h : Q c) (field : EmbedField) : Q (c.embedField field) :=
  hQ.put (hQ.put (hQ.writeWith (hQ.put (hQ.ensureBreak h) _) _ _) _) _

theorem embedFooter (hQ : Stable ok Q) (hok : Allows config ok) (h : Q c) (embed : Embed) :
    Q (c.embedFooter config embed) := by
  unfold Canvas.embedFooter
  cases embed.footer with
  | none =>
    cases embed.timestamp with
    | none => exact h
    | some t => exact hQ.put h _
  | some footer =>
    have hfooter := hQ.put (hQ.placeIcon hok h footer.iconUrl footer.text) footer.text
    cases embed.timestamp with
    | none => exact hfooter
    | some t => exact hQ.put (hQ.put hfooter _) _

theorem placeMedia (hQ : Stable ok Q) (himage : ∀ image, ok (.image image)) (h : Q c)
    (media : EmbedMedia) (maxWidth maxHeight : UInt32) :
    Q (c.placeMedia media maxWidth maxHeight) := hQ.anchor h (himage _)

/-- A file makes no image if it is not shown as one. -/
theorem attachment (hQ : Stable ok Q) (hok : Allows config ok) (h : Q c) {file : Attachment}
    (himage : config.isImageFile file.filename = true → ∀ image, ok (.image image)) :
    Q (c.attachment config file) := by
  unfold Canvas.attachment
  dsimp only
  split
  · rename_i hfile
    exact hQ.anchor (hQ.ensureBreak h) (himage hfile _)
  · refine hQ.put ?_ _
    exact hQ.emit (hQ.put (hQ.put (hQ.ensureBreak h) _) _) (write_stop _ _) (hok.link _)

theorem attachments (hQ : Stable ok Q) (hok : Allows config ok)
    (himage : ∀ image, ok (.image image)) (h : Q c) (files : List Attachment) :
    Q (c.attachments config files) := by
  unfold Canvas.attachments
  split
  · exact h
  · exact foldl (hQ.startBlock h) files fun file hc => hQ.attachment hok hc fun _ => himage

theorem activity (hQ : Stable ok Q) (hlink : ∀ url, ok (.link url)) (h : Q c) (verb : String)
    (activity : Activity) : Q (c.activity verb activity) := by
  have hname := hQ.writeWith (hQ.put h verb) .bold activity.name
  have hstop := (c.put verb).writeWith_stop .bold activity.name
  have hline {c : Canvas} (text : String) (hc : Q c) : Q (c.ensureBreak.put text) :=
    hQ.put (hQ.ensureBreak hc) text
  unfold Canvas.activity
  rcases hwrite : (c.put verb).writeWith .bold activity.name with ⟨range, d⟩
  rw [hwrite] at hname hstop
  refine drawSome_keeps hline _ (drawSome_keeps hline _ ?_)
  split
  · exact hQ.emit hname hstop (hlink _)
  · exact hname

theorem profile (hQ : Stable ok Q)
    (havatar : ∀ url altText, ok (.avatar ⟨url, config.avatarSize, altText⟩)) (h : Q c)
    (user : User) (name avatarUrl : String) : Q (c.profile config user name avatarUrl) := by
  have hplaced : Q (c.placeAvatar config avatarUrl name) := hQ.anchor h (havatar _ _)
  exact hQ.put (hQ.ensureBreak (hQ.writeWith (hQ.put hplaced " ") _ _)) _

theorem roleLine (hQ : Stable ok Q) (hcolor : ∀ color, ok (.color color)) (h : Q c) (role : Role) :
    Q (c.roleLine role) := by
  have hname := hQ.put (hQ.ensureBreak h) role.name
  unfold Canvas.roleLine
  dsimp only
  split
  · exact hname
  · exact hQ.emit hname (write_stop _ _) (hcolor _)

end Canvas.Stable

end RichChat

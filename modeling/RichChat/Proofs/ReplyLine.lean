import Mathlib
import RichChat.Proofs.Blocks
import RichChat.Proofs.Unbroken

/-!
# Reply headers keep to one line

A reply header ends with a reference over all of it, and is one line without quotes and code blocks
(`Message.renderReply_line`). The first line of a message is a line of text but is read as markdown,
where a carriage return alone ends a line as well and a reference may stand for a line feed: with
these a header can have two lines (`Message.not_renderReply_line`).

`Canvas.InLine` is what drawing inline elements keeps of a canvas. Line feeds are added only if
there may be several lines, which makes it hold of headers with carriage returns or line feeds too.
-/

namespace RichChat

namespace Text

theorem newline_not_mem_lines {cs line : List Char} (h : line ∈ lines cs) : '\n' ∉ line := by
  obtain ⟨p, hp, rfl⟩ := List.mem_map.1 h
  have hlast := newline_not_mem_dropLast hp
  unfold withoutEnd
  split
  · rename_i ds heq
    obtain rfl := List.reverse_eq_iff.1 heq
    simp_all
  · rename_i ds _ heq
    obtain rfl := List.reverse_eq_iff.1 heq
    simp_all
  · rename_i hno
    intro hmem
    rcases List.eq_nil_or_concat p with rfl | ⟨front, last, rfl⟩
    · cases hmem
    · rw [List.concat_eq_append, List.dropLast_concat] at hlast
      rw [List.concat_eq_append] at hmem hno
      rcases List.mem_append.1 hmem with hmem | hmem
      · exact hlast hmem
      · obtain rfl := List.mem_singleton.1 hmem
        exact hno front.reverse (by simp)

theorem trim_subset (cs : List Char) : trim cs ⊆ cs := by
  intro c hc
  have hstart := List.mem_reverse.1 ((List.dropWhile_suffix _).subset (List.mem_reverse.1 hc))
  exact (List.dropWhile_suffix _).subset hstart

theorem not_mem_intercalate {c : Char} {sep : String} (hsep : c ∉ sep.toList) :
    ∀ {ss : List String}, (∀ s ∈ ss, c ∉ s.toList) → c ∉ (sep.intercalate ss).toList
  | [], _ => by simp
  | [s], h => by simpa using h
  | s :: t :: ss, h => by
    obtain ⟨hs, hrest⟩ := List.forall_mem_cons.1 h
    have ih := not_mem_intercalate hsep hrest
    rw [String.intercalate_cons_cons, String.toList_append, String.toList_append, List.mem_append,
      List.mem_append]
    rintro ((hmem | hmem) | hmem)
    · exact hs hmem
    · exact hsep hmem
    · exact ih hmem

end Text

theorem Message.newline_not_mem_excerpt {message : Message} {line : List Char}
    (h : message.excerpt? = some line) : '\n' ∉ line := by
  obtain ⟨found, hfound, rfl⟩ := List.mem_map.1 (List.mem_of_find?_eq_some h)
  exact fun hmem => Text.newline_not_mem_lines hfound (Text.trim_subset _ hmem)

theorem Reference.newline_not_mem_sourceForm (target : Reference) :
    '\n' ∉ target.sourceForm.toList := by
  have hdigits {kind : Entity} (id : Id kind) : '\n' ∉ id.toString.toList :=
    (isNumeral_toString id.value).not_mem rfl
  cases target with
  | user id | role id | channel id => simp [sourceForm, hdigits id]

/-- Segments that are made of blocks. -/
def SegmentKind.isBlock : SegmentKind → Bool
  | .quoteBlock | .codeBlock _ => true
  | .styled _ | .link _ | .color _ | .image _ | .avatar _ | .mention _ => false
  | .messageReference _ => false

/-- The name that a mention is shown with, if its entity is found. -/
def Scene.name? (scene : Scene) (known : Option User) : Reference → Option String
  | .user id =>
    ((scene.member? id).map (·.displayName)).or ((known.or (scene.user? id)).map (·.displayName))
  | .role id =>
    (scene.guild.bind fun guild => scene.store.bind fun store => store.role guild id).map (·.name)
  | .channel id => (scene.store.bind fun store => store.channel id).map (·.name)

namespace Canvas

variable {many : Prop} {c : Canvas}

/-- No quote is open, no block has become a segment, and there is one line if there may not be
several. -/
structure InLine (many : Prop) (c : Canvas) : Prop where
  marker : c.buffer.marker = []
  quotes : c.quotes = []
  segments : ∀ s ∈ c.segments, s.kind.isBlock = false
  text : '\n' ∈ c.buffer.text → many

namespace InLine

theorem fresh (config : Config) : (Canvas.fresh config).InLine many :=
  ⟨rfl, rfl, by simp [Canvas.fresh], by simp [Canvas.fresh]⟩

theorem flush_eq (h : c.InLine many) : c.flush = c :=
  flush_of_not_due (by simp [Buffer.markerDue, h.marker])

theorem put (h : c.InLine many) {text : String} (ht : '\n' ∈ text.toList → many) :
    (c.put text).InLine many := by
  rw [put_of_marker h.marker]
  refine ⟨h.marker, h.quotes, h.segments, fun hmem => ?_⟩
  rcases List.mem_append.1 hmem with hmem | hmem
  · exact h.text hmem
  · exact ht hmem

theorem emit (h : c.InLine many) (range : Nat × Nat) {kind : SegmentKind}
    (hkind : kind.isBlock = false) : (c.emit range kind).InLine many :=
  ⟨h.marker, h.quotes, List.forall_mem_append.2 ⟨h.segments, List.forall_mem_singleton.2 hkind⟩,
    h.text⟩

theorem anchor (h : c.InLine many) {kind : SegmentKind} (hkind : kind.isBlock = false) :
    (c.anchor kind).InLine many := by
  rw [anchor_eq, h.flush_eq]
  exact h.emit (c.length, c.length) hkind

theorem change (h : c.InLine many) (counts : List Nat) : (c.change counts).InLine many := by
  rcases c.change_cases counts with ⟨-, heq⟩ | ⟨-, heq⟩ <;> rw [heq]
  · exact ⟨h.marker, h.quotes, h.segments, h.text⟩
  · refine ⟨h.marker, h.quotes, ?_, h.text⟩
    rcases region_cases c.runs c.runs.active c.length with ⟨hrun, -⟩ | ⟨hrun, -, -⟩ <;> rw [hrun]
    · exact h.segments
    · have hall := h.segments
      rcases addRun_cases c.segments ⟨c.runs.start, c.length, .styled c.runs.active⟩ with
        heq | ⟨front, last, hsegments, hkind, -, heq⟩ <;> rw [heq]
      · exact List.forall_mem_append.2 ⟨hall, List.forall_mem_singleton.2 rfl⟩
      · rw [hsegments] at hall
        obtain ⟨hfront, hlast⟩ := List.forall_mem_append.1 hall
        have hkind : last.kind.isBlock = false := hlast last List.mem_cons_self
        exact List.forall_mem_append.2 ⟨hfront, List.forall_mem_singleton.2 hkind⟩

theorem enter (h : c.InLine many) (a : Attribute) : (c.enter a).InLine many := by
  rw [enter_eq, h.flush_eq]
  exact h.change _

theorem exit (h : c.InLine many) (a : Attribute) : (c.exit a).InLine many := by
  rw [exit_eq]
  exact h.change _

theorem writeWith (h : c.InLine many) (a : Attribute) {text : String}
    (ht : '\n' ∈ text.toList → many) : (c.writeWith a text).2.InLine many := by
  rw [writeWith_eq]
  exact ((h.enter a).put ht).exit a

theorem openLink (h : c.InLine many) : c.openLink.InLine many := by
  have hcursor : c.openLink = { c.flush with links := c.flush.length :: c.flush.links } := rfl
  rw [hcursor, h.flush_eq]
  exact ⟨h.marker, h.quotes, h.segments, h.text⟩

theorem closeLink (h : c.InLine many) (url : String) : (c.closeLink url).InLine many := by
  rcases c.closeLink_cases url with ⟨-, heq⟩ | ⟨start, links, -, heq | ⟨-, heq⟩⟩ <;> rw [heq]
  · exact h
  · exact ⟨h.marker, h.quotes, h.segments, h.text⟩
  · have hpop : InLine many { c with links } := ⟨h.marker, h.quotes, h.segments, h.text⟩
    exact hpop.emit (start, c.length) rfl

theorem request (h : c.InLine many) (scene : Scene) (r : FetchRequest) :
    (c.request scene r).InLine many := by
  unfold Canvas.request
  split
  · exact ⟨h.marker, h.quotes, h.segments, h.text⟩
  · exact h

theorem writeResolved (h : c.InLine many) (scene : Scene) (target : Reference)
    {data : MentionData} (hname : '\n' ∈ data.name.toList → many) :
    (c.writeResolved scene target data).InLine many := by
  have havatar : (c.mentionAvatar scene.config target data).InLine many := by
    unfold mentionAvatar
    split
    · split
      · exact h.anchor rfl
      · exact h
    · exact h
  have htext : '\n' ∈ (target.sigil ++ data.name).toList → many := by
    rw [String.toList_append, List.mem_append]
    rintro (hsigil | hmem)
    · cases target <;> simp [Reference.sigil] at hsigil
    · exact hname hmem
  have hput := havatar.put htext
  unfold Canvas.writeResolved
  dsimp only
  split
  · exact (hput.emit _ rfl).emit _ rfl
  · exact hput.emit _ rfl

theorem writeUnresolved (h : c.InLine many) (scene : Scene) (target : Reference) :
    (c.writeUnresolved scene target).InLine many :=
  (h.put fun hmem => absurd hmem target.newline_not_mem_sourceForm).emit _ rfl

theorem mentionUser (h : c.InLine many) {scene : Scene} {id : UserId} {known : Option User}
    (hname : ∀ name ∈ scene.name? known (.user id), '\n' ∈ name.toList → many) :
    (c.mentionUser scene id known).InLine many := by
  simp only [Scene.name?] at hname
  unfold Canvas.mentionUser
  dsimp only
  split
  · rename_i member hmember
    rw [hmember] at hname
    exact h.writeResolved _ _ (hname _ rfl)
  · rename_i hmember
    rw [hmember, Option.map_none, Option.none_or] at hname
    cases huser : known.or (scene.user? id) with
    | some user =>
      rw [huser] at hname
      refine writeResolved ?_ _ _ (hname user.displayName rfl)
      split
      · exact h.request _ _
      · exact h.request _ _
      · exact h
    | none =>
      refine writeUnresolved ?_ _ _
      split
      · exact h.request _ _
      · exact h.request _ _
      · exact h

theorem mention (h : c.InLine many) {scene : Scene} {target : Reference}
    (hname : ∀ name ∈ scene.name? none target, '\n' ∈ name.toList → many) :
    (c.mention scene target).InLine many := by
  cases target with
  | user id => exact h.mentionUser hname
  | role id =>
    simp only [Scene.name?] at hname
    show (c.mentionRole scene id).InLine many
    unfold mentionRole
    split
    · exact h.writeUnresolved _ _
    · rename_i guild hguild
      rw [hguild, Option.bind_some] at hname
      split
      · rename_i role hrole
        rw [hrole] at hname
        exact h.writeResolved _ _ (hname _ rfl)
      · exact (h.request _ _).writeUnresolved _ _
  | channel id =>
    simp only [Scene.name?] at hname
    show (c.mentionChannel scene id).InLine many
    unfold mentionChannel
    split
    · rename_i channel hchannel
      rw [hchannel] at hname
      exact h.writeResolved _ _ (hname _ rfl)
    · exact (h.request _ _).writeUnresolved _ _

end InLine

end Canvas

/-- An inline element that is drawn with line feeds only where there may be several lines. -/
def NodeKind.FitsLine (scene : Scene) (many : Prop) : NodeKind → Prop
  | text s soft hard => '\n' ∈ s.toList ∨ soft = true ∨ hard = true → many
  | autolink url => '\n' ∈ url.toList → many
  | mention target => ∀ name ∈ scene.name? none target, '\n' ∈ name.toList → many
  | inline _ | link _ | emoji _ => True
  | document | paragraph | heading _ | blockquote | codeBlock _ _ | list _ | listItem
  | thematicBreak => False

section Draw

variable {scene : Scene} {many : Prop} {c : Canvas}

theorem keeps_inLine :
    (Registry.builtin.visitor scene).Keeps (·.FitsLine scene many) (Canvas.InLine many) := by
  rintro ⟨⟨kind, children⟩, entering, parent, next⟩ c hfits h
  cases kind with
  | text s soft hard =>
    cases entering with
    | true =>
      have hput : (c.put s).InLine many := h.put fun hmem => hfits (.inl hmem)
      show Canvas.InLine many
        (if hard then (c.put s).put "\n\n" else if soft then (c.put s).put "\n" else c.put s)
      split
      · rename_i hhard
        exact hput.put fun _ => hfits (.inr (.inr hhard))
      · split
        · rename_i hsoft
          exact hput.put fun _ => hfits (.inr (.inl hsoft))
        · exact hput
    | false => exact h
  | inline a =>
    cases entering with
    | true => exact h.enter a
    | false => exact h.exit a
  | link url =>
    cases entering with
    | true => exact h.openLink
    | false => exact h.closeLink url
  | autolink url =>
    cases entering with
    | true =>
      have hput : (c.put url).InLine many := h.put hfits
      show Canvas.InLine many
        (if (c.put url).inLink then c.put url else (c.put url).emit (c.write url).1 (.link url))
      split
      · exact hput
      · exact hput.emit _ rfl
    | false => exact h
  | mention target =>
    cases entering with
    | true => exact h.mention hfits
    | false => exact h
  | emoji e =>
    cases entering with
    | true => exact h.anchor rfl
    | false => exact h
  | _ => exact hfits.elim

/-- In a document of one paragraph nothing but the paragraph's content is drawn. -/
theorem Canvas.InLine.draw (h : c.InLine many) {nodes : List Node}
    (hnodes : ∀ node ∈ nodes, node.Everywhere (·.FitsLine scene many)) :
    (c.draw .builtin scene (.mk .document [.mk .paragraph nodes])).InLine many := by
  have hdraw : c.draw .builtin scene (.mk .document [.mk .paragraph nodes])
      = walkAll (Registry.builtin.visitor scene) (.mk .paragraph nodes) nodes c := by
    rw [draw_document, walkAll, walkAll, walkNode]
    rfl
  rw [hdraw]
  exact keeps_walkAll keeps_inLine _ nodes (Node.forall_mem_preorderAll.2 hnodes) h

end Draw

/-- Whether the name that a mention is shown with has no line feed. -/
def NodeKind.IsNamedInLine (scene : Scene) : NodeKind → Prop
  | mention target => ∀ name ∈ scene.name? none target, '\n' ∉ name.toList
  | document | paragraph | heading _ | text _ _ _ | inline _ | link _ | autolink _ | blockquote
  | codeBlock _ _ | list _ | listItem | thematicBreak | emoji _ => True

section Source

variable {scene : Scene} {many : Prop} {line : List Char}

theorem NodeKind.fitsLine {kind : NodeKind} (hkind : kind.tag.isInline = true)
    (hline : many ∨ kind.IsUnbroken ∧ kind.IsNamedInLine scene) : kind.FitsLine scene many := by
  rcases hline with hmany | ⟨hunbroken, hnamed⟩
  · cases kind with
    | text | autolink => exact fun _ => hmany
    | mention target => exact fun _ _ _ => hmany
    | inline | link | emoji => trivial
    | _ => cases hkind
  · cases kind with
    | text s soft hard =>
      obtain ⟨hs, hsoft, hhard⟩ := hunbroken
      rintro (hmem | rfl | rfl)
      · exact absurd hmem hs
      · cases hsoft
      · cases hhard
    | autolink url => exact fun hmem => absurd hmem hunbroken
    | mention target => exact fun name hname hmem => absurd hmem (hnamed name hname)
    | inline | link | emoji => trivial
    | _ => cases hkind

theorem Node.fitsLine_ofSource (hfeed : '\n' ∉ line) (hreturn : '\x0d' ∉ line)
    (hline : many ∨ Markdown.NoFeed line ∧
      (ofSource (String.ofList line)).Everywhere (·.IsNamedInLine scene)) :
    ∀ node ∈ (ofSource (String.ofList line)).inlines, node.Everywhere (·.FitsLine scene many) := by
  rw [← @String.toList_ofList line] at hfeed hreturn
  intro node hnode n hn
  refine NodeKind.fitsLine (flat_ofSource hfeed hreturn node hnode n hn) ?_
  rcases hline with hmany | ⟨hreference, hnames⟩
  · exact .inl hmany
  · rw [← @String.toList_ofList line] at hreference
    have hunbroken := everywhere_inlines
      (fun _ _ hlines => ⟨Text.not_mem_intercalate (by decide) hlines, rfl, rfl⟩) _
      (unbroken_ofSource hfeed hreturn hreference) node hnode n hn
    have hnamed := everywhere_inlines (fun _ _ _ => trivial) _ hnames node hnode n hn
    exact .inr ⟨hunbroken, hnamed⟩

end Source

namespace Canvas

variable {scene : Scene} {many : Prop} {c : Canvas} {message : Message}

theorem InLine.replied (h : c.InLine many)
    (hauthor : ∀ name ∈ scene.name? (some message.author) (.user message.author.id),
      '\n' ∈ name.toList → many)
    (hexcerpt : ∀ line ∈ message.excerpt?, '\x0d' ∉ line ∧ (many ∨ Markdown.NoFeed line ∧
      (Node.ofSource (String.ofList line)).Everywhere (·.IsNamedInLine scene))) :
    (c.replied .builtin scene message).InLine many := by
  have hcolon : ((c.mentionUser scene message.author.id (some message.author)).put ": ").InLine
      many := (h.mentionUser hauthor).put (by simp)
  unfold Canvas.replied
  dsimp only
  unfold Canvas.excerpt
  split
  · rename_i line hline
    obtain ⟨hreturn, hrest⟩ := hexcerpt line hline
    exact hcolon.draw (Node.fitsLine_ofSource (message.newline_not_mem_excerpt hline) hreturn hrest)
  · split
    · exact hcolon
    · exact hcolon.writeWith _ (by simp)

theorem balanced_writeWith (c : Canvas) (a : Attribute) (text : String) :
    Balanced c (c.writeWith a text).2 := by
  rw [writeWith_eq]
  exact (Balanced.put _ text).exit

theorem balanced_replied (c : Canvas) (scene : Scene) (message : Message) :
    Balanced c (c.replied .builtin scene message) := by
  have hcolon : Balanced c
      ((c.mentionUser scene message.author.id (some message.author)).put ": ") :=
    (Balanced.kept c).put ((Balanced.kept c).mentionUser (.refl c) _ _ _) _
  unfold Canvas.replied
  dsimp only
  unfold Canvas.excerpt
  split
  · rw [Canvas.draw, walk_eq_walkNode]
    exact hcolon.trans (balanced_walkNode (Registry.isNamed_builtin.isBalanced scene) _ _ _ _)
  · split
    · exact hcolon
    · exact hcolon.trans (balanced_writeWith _ _ _)

/-- What a reply header shows. -/
def replyHeader (scene : Scene) (referenced : Option Message) : Canvas :=
  let c := (Canvas.fresh scene.config).put "↪ "
  match referenced with
  | some m => c.replied .builtin scene m
  | none => (c.writeWith .italic "Original message was deleted").2

theorem balanced_replyHeader (scene : Scene) (referenced : Option Message) :
    Balanced (.fresh scene.config) (replyHeader scene referenced) := by
  have hput := Balanced.put (.fresh scene.config) "↪ "
  cases referenced with
  | some m => exact hput.trans (balanced_replied _ scene m)
  | none => exact hput.trans (balanced_writeWith _ _ _)

theorem inLine_replyHeader {referenced : Option Message}
    (h : ∀ m ∈ referenced,
      (∀ name ∈ scene.name? (some m.author) (.user m.author.id), '\n' ∈ name.toList → many) ∧
      ∀ line ∈ m.excerpt?, '\x0d' ∉ line ∧ (many ∨ Markdown.NoFeed line ∧
        (Node.ofSource (String.ofList line)).Everywhere (·.IsNamedInLine scene))) :
    (replyHeader scene referenced).InLine many := by
  have hput : ((Canvas.fresh scene.config).put "↪ ").InLine many :=
    (InLine.fresh _).put (by simp)
  cases referenced with
  | none => exact hput.writeWith _ (by simp)
  | some m =>
    obtain ⟨hauthor, hexcerpt⟩ := h m rfl
    exact hput.replied hauthor hexcerpt

end Canvas

/-- The reference to the message comes after all other segments. -/
theorem Message.renderReply_text (message : Message) (referenced : Option Message)
    (config : Config) (store : Option Store) :
    let scene : Scene := { config, message := some (referenced.getD message), store }
    let c := Canvas.replyHeader scene referenced
    (message.renderReply referenced config store).text = ⟨c.content, c.segments ++
      (((referenced.map (·.id)).or message.reference).map fun id =>
        ⟨0, c.length, .messageReference id⟩).toList⟩ := by
  intro scene c
  have hbalanced : Balanced (.fresh config) c := Canvas.balanced_replyHeader scene referenced
  unfold Message.renderReply Scene.compose
  dsimp only
  cases (referenced.map (·.id)).or message.reference with
  | none =>
    show (⟨c.finish.content, c.finish.segments⟩ : RichText) = _
    rw [Canvas.finish_eq_self hbalanced.counts hbalanced.quotes]
    simp
  | some id =>
    have hemit := hbalanced.emit (0, c.length) (.messageReference id)
    show (⟨(c.emit (0, c.length) (.messageReference id)).finish.content,
      (c.emit (0, c.length) (.messageReference id)).finish.segments⟩ : RichText) = _
    rw [Canvas.finish_eq_self hemit.counts hemit.quotes]
    rfl

/-- A reply header ends with a reference over all of it. It has no quotes and code blocks if there
is no carriage return in the line that it shows. Then it is one line as well if the names that it
shows are, and no character reference stands for a line feed. -/
theorem Message.renderReply_line (message : Message) (referenced : Option Message)
    (config : Config) (store : Option Store) :
    let scene : Scene := { config, message := some (referenced.getD message), store }
    let header := (message.renderReply referenced config store).text
    (∀ id ∈ (referenced.map (·.id)).or message.reference,
      header.segments.getLast? = some ⟨0, header.content.utf8ByteSize, .messageReference id⟩) ∧
    ((∀ m ∈ referenced, ∀ line ∈ m.excerpt?, '\x0d' ∉ line) →
      (∀ s ∈ header.segments, s.kind.isBlock = false) ∧
      ((∀ m ∈ referenced,
          (∀ name ∈ scene.name? (some m.author) (.user m.author.id), '\n' ∉ name.toList) ∧
          ∀ line ∈ m.excerpt?, Markdown.NoFeed line ∧
            (Node.ofSource (String.ofList line)).Everywhere (·.IsNamedInLine scene)) →
        '\n' ∉ header.content.toList)) := by
  intro scene header
  have hheader := message.renderReply_text referenced config store
  refine ⟨fun id hid => ?_, fun hreturn => ⟨?_, fun hline => ?_⟩⟩
  · rw [show header = _ from hheader, Option.mem_def.1 hid, Option.map_some, Option.toList_some,
      List.getLast?_concat, Canvas.content, Text.utf8ByteSize_ofList]
    rfl
  -- Names and character references do not matter where there may be several lines.
  · have hc : (Canvas.replyHeader scene referenced).InLine True :=
      Canvas.inLine_replyHeader fun m hm =>
        ⟨fun _ _ _ => trivial, fun line hline => ⟨hreturn m hm line hline, .inl trivial⟩⟩
    rw [show header = _ from hheader]
    refine List.forall_mem_append.2 ⟨hc.segments, fun s hs => ?_⟩
    obtain ⟨id, -, rfl⟩ := Option.map_eq_some_iff.1 (Option.mem_toList.1 hs)
    rfl
  · have hc : (Canvas.replyHeader scene referenced).InLine False :=
      Canvas.inLine_replyHeader fun m hm => ⟨(hline m hm).1, fun line hexcerpt =>
        ⟨hreturn m hm line hexcerpt, .inr ((hline m hm).2 line hexcerpt)⟩⟩
    rw [show header = _ from hheader, Canvas.content, String.toList_ofList]
    exact hc.text

/-- A list is taken apart, and the name in it is shown. -/
theorem Message.renderReply_line_list :
    let config : Config := { cdnBase := "" }
    let alice : User := { id := ⟨1⟩, username := "alice" }
    let answered : Message :=
      { id := ⟨50⟩, channel := ⟨2⟩, author := alice, content := "- hi <@1>", mentions := [alice] }
    let reply : Message := { id := ⟨100⟩, channel := ⟨2⟩, author := alice }
    let header := (reply.renderReply (some answered) config none).text
    header.content = "↪ @alice: hi @alice" ∧
      header.segments.getLast? = some ⟨0, header.content.utf8ByteSize, .messageReference ⟨50⟩⟩ ∧
      (∀ s ∈ header.segments, s.kind.isBlock = false) ∧ '\n' ∉ header.content.toList := by
  intro config alice answered reply header
  obtain ⟨hlast, hline⟩ := reply.renderReply_line (some answered) config none
  have hexcerpt : answered.excerpt? = some "- hi <@1>".toList := by cbv
  have hnames : (Node.ofSource (String.ofList "- hi <@1>".toList)).Everywhere
      (·.IsNamedInLine { config, message := some answered, store := none }) := by
    have htree : Node.ofSource (String.ofList "- hi <@1>".toList)
        = .mk .document [.mk (.list none) [.mk .listItem
          [.text "hi ", .leaf (.mention (.user ⟨1⟩))]]] := by cbv
    rw [htree]
    simp [Node.everywhere_mk, Node.text, Node.leaf, NodeKind.IsNamedInLine, NodeKind.plain,
      Scene.name?, Scene.member?, Scene.guild, Scene.user?, answered, alice, User.displayName]
  have hfeed : Markdown.NoFeed "- hi <@1>".toList := fun _ _ _ hin =>
    absurd (hin.subset List.mem_cons_self) (by decide)
  have hreturn : ∀ m ∈ some answered, ∀ line ∈ m.excerpt?, '\x0d' ∉ line := by
    intro m hm line hline
    obtain rfl := Option.some.inj hm
    obtain rfl := Option.some.inj (hexcerpt.symm.trans hline)
    decide
  obtain ⟨hblocks, hshown⟩ := hline hreturn
  refine ⟨by cbv, hlast _ rfl, hblocks, hshown ?_⟩
  intro m hm
  obtain rfl := Option.some.inj hm
  refine ⟨?_, fun line hline => ?_⟩
  · simp [Scene.name?, Scene.member?, Scene.guild, answered, alice, User.displayName]
  · obtain rfl := Option.some.inj (hexcerpt.symm.trans hline)
    exact ⟨hfeed, hnames⟩

/-- A carriage return ends a line of the markdown, but not of the message. A character reference
stands for a line feed, by number or by name, and a quote in a spoiler is not taken apart. -/
theorem Message.not_renderReply_line :
    let config : Config := { cdnBase := "" }
    let alice : User := { id := ⟨1⟩, username := "alice" }
    let header (content : String) : RichText :=
      let answered : Message := { id := ⟨50⟩, channel := ⟨2⟩, author := alice, content }
      let reply : Message := { id := ⟨100⟩, channel := ⟨2⟩, author := alice }
      (reply.renderReply (some answered) config none).text
    (header "a\x0db").content = "↪ @alice: a\nb" ∧
      (header "a&#10;b").content = "↪ @alice: a\nb" ∧
      (header "a&NewLine;b").content = "↪ @alice: a\nb" ∧
      (header "- ||a\x0d  > b\x0d  # h\x0d  c||").segments[2]? = some ⟨15, 18, .quoteBlock⟩ := by
  exact ⟨by cbv, by cbv, by cbv, by cbv⟩

end RichChat

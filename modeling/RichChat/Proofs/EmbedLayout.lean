import RichChat.Proofs.CardLines

/-!
# The lines of an embed

An embed without a description is its colored line and one line for each part that it has
(`Embed.lines`). What the parts draw depends on nothing but the embed and the configuration, so the
text and the segments of an embed can be told in advance (`Canvas.embed_layout`). Pictures and icons
stand at the start of a line, and links are over the names that they belong to.
-/

namespace RichChat

/-- A range as a link, if there is an address and the range has text. -/
def linkOver (start stop : Nat) (url : Option String) : List Segment :=
  if start < stop then url.toList.map fun url => ⟨start, stop, .link url⟩ else []

theorem mem_linkOver {start stop : Nat} {url : Option String} {s : Segment} :
    s ∈ linkOver start stop url ↔
      start < stop ∧ ∃ u, url = some u ∧ s = ⟨start, stop, .link u⟩ := by
  unfold linkOver
  cases url <;> split <;> simp_all

/-- An icon at the start of a line, and the space after it. -/
def iconLine (config : Config) (icon : Option String) (name : String) : CardLine :=
  match icon with
  | some icon => ⟨[' '], [⟨0, 0, .avatar ⟨icon, config.avatarSize, name⟩⟩]⟩
  | none => ⟨[], []⟩

theorem mem_iconLine {config : Config} {icon : Option String} {name : String} {s : Segment} :
    s ∈ (iconLine config icon name).segments ↔
      ∃ i, icon = some i ∧ s = ⟨0, 0, .avatar ⟨i, config.avatarSize, name⟩⟩ := by
  cases icon <;> simp [iconLine]

theorem text_iconLine (config : Config) (icon : Option String) (name : String) :
    (iconLine config icon name).text = if icon.isSome then [' '] else [] := by
  cases icon <;> rfl

def EmbedAuthor.line (config : Config) (author : EmbedAuthor) : CardLine :=
  let icon := iconLine config author.iconUrl author.name
  let text := icon.text ++ author.name.toList
  ⟨text, icon.segments ++ linkOver (Text.size icon.text) (Text.size text) author.url⟩

/-- The line of a picture, which has no text. -/
def EmbedMedia.line (maxWidth maxHeight : UInt32) (media : EmbedMedia) : CardLine :=
  let (width, height) := fit media.width media.height maxWidth maxHeight
  ⟨[], [⟨0, 0, .image ⟨media.source, width, height, ""⟩⟩]⟩

def EmbedField.line (field : EmbedField) : CardLine :=
  let stop := 2 + Text.size field.name.toList
  ⟨("  " ++ field.name ++ ": " ++ field.value).toList, boldOver 2 stop⟩

namespace Embed

variable (config : Config) (embed : Embed)

def titleLine (title : String) : CardLine :=
  let stop := Text.size title.toList
  ⟨title.toList, boldOver 0 stop ++ linkOver 0 stop embed.url⟩

/-- The time, and what separates it from a footer. -/
def timeText : List Char :=
  match embed.timestamp with
  | some t => (if embed.footer.isSome then " • ".toList else []) ++
      (t.format config.timestampFormat).toList
  | none => []

/-- The footer and the time. -/
def footerLine : CardLine :=
  match embed.footer with
  | some footer =>
    let icon := iconLine config footer.iconUrl footer.text
    ⟨icon.text ++ footer.text.toList ++ embed.timeText config, icon.segments⟩
  | none => ⟨embed.timeText config, []⟩

/-- The lines of an embed that has no description, after the colored one. -/
def lines : List CardLine :=
  embed.author.toList.map (·.line config) ++ embed.title.toList.map embed.titleLine ++
    embed.thumbnail.toList.map (·.line config.thumbnailSize config.thumbnailSize) ++
    embed.fields.map (·.line) ++
    (if embed.footer.isSome || embed.timestamp.isSome then [embed.footerLine config] else []) ++
    embed.image.toList.map (·.line config.imageMaxWidth config.imageMaxHeight)

variable {config embed} in
theorem mem_lines {line : CardLine} (h : line ∈ embed.lines config) :
    (∃ author ∈ embed.author, line = author.line config) ∨
      (∃ title ∈ embed.title, line = embed.titleLine title) ∨
      (∃ media width height, line = EmbedMedia.line width height media) ∨
      (∃ field ∈ embed.fields, line = field.line) ∨ line = embed.footerLine config := by
  simp only [lines, List.mem_append, List.mem_map, Option.mem_toList] at h
  rcases h with ((((⟨author, hauthor, rfl⟩ | ⟨title, htitle, rfl⟩) | ⟨media, -, rfl⟩) |
    ⟨field, hfield, rfl⟩) | h) | ⟨media, -, rfl⟩
  · exact .inl ⟨author, hauthor, rfl⟩
  · exact .inr (.inl ⟨title, htitle, rfl⟩)
  · exact .inr (.inr (.inl ⟨media, _, _, rfl⟩))
  · exact .inr (.inr (.inr (.inl ⟨field, hfield, rfl⟩)))
  · split at h
    · exact .inr (.inr (.inr (.inr (List.mem_singleton.1 h))))
    · cases h
  · exact .inr (.inr (.inl ⟨media, _, _, rfl⟩))

/-- The texts that an embed without a description is drawn with. -/
def texts : List String :=
  config.embedSeparator :: (embed.author.toList.map (·.name) ++ embed.title.toList ++
    embed.fields.flatMap (fun field => [field.name, field.value]) ++
    embed.footer.toList.map (·.text) ++
    embed.timestamp.toList.map (·.format config.timestampFormat))

end Embed

theorem size_pos_of_ne {s : String} (h : s ≠ "") : 0 < Text.size s.toList :=
  Nat.pos_of_ne_zero fun hzero => h (String.toList_eq_nil_iff.1 (Text.size_eq_zero.1 hzero))

namespace Canvas

variable {config : Config} {c d : Canvas} {cs : List Char} {ss : List Segment}
  {lines : List CardLine}

theorem Adds.linkRange (h : Adds c d cs ss) (start : Nat) {stop : Nat}
    (hstop : stop ≤ Text.size cs) (url : Option String) :
    Adds c (d.linkRange (start + c.length, stop + c.length) url) cs
      (ss ++ linkOver start stop url) := by
  unfold Canvas.linkRange linkOver
  cases url with
  | none => simpa using h
  | some url =>
    by_cases hlt : start < stop
    · simpa [hlt] using h.emit start hstop (.link url)
    · simpa [hlt] using h

theorem Adds.placeIcon (h : Adds c d [] []) (config : Config) (icon : Option String)
    (name : String) :
    Adds c (d.placeIcon config icon name) (iconLine config icon name).text
      (iconLine config icon name).segments := by
  cases icon with
  | none => exact h
  | some icon => exact (h.anchor _).put " "

namespace AddsLines

theorem embedAuthor (h : AddsLines c d lines) (author : EmbedAuthor) :
    AddsLines c (d.embedAuthor config author) (lines ++ [author.line config]) := by
  have hicon := (Adds.refl h.ready.ensureBreak).placeIcon config author.iconUrl author.name
  obtain ⟨hrange, hname⟩ := hicon.write author.name
  have hlink := hname.linkRange (Text.size (iconLine config author.iconUrl author.name).text)
    (Nat.le_refl _) author.url
  rw [Text.size_append, ← hrange, ← Text.size_append] at hlink
  exact h.line hlink

/-- The title is a segment of its own, since the one before it is not in bold. -/
theorem embedTitle (h : AddsLines c d lines) (embed : Embed) (title : String)
    (hlast : ∀ s ∈ d.segments.getLast?, s.kind ≠ .styled .bold) :
    AddsLines c (d.embedTitle embed.url title) (lines ++ [embed.titleLine title]) := by
  obtain ⟨hrange, htitle⟩ := (Adds.refl h.ready.ensureBreak).writeWith title
    fun s hs hkind => absurd hkind (hlast s hs)
  have hlink := htitle.linkRange 0 (Nat.le_refl _) embed.url
  have hsize : Text.size ([] ++ title.toList) = 0 + Text.size title.toList := (Nat.zero_add _).symm
  rw [hsize] at hlink
  have hzero : Text.size [] = 0 := rfl
  rw [hzero] at hrange
  rw [← hrange] at hlink
  simp only [hzero, Nat.zero_add, List.nil_append] at hlink
  exact h.line hlink

theorem placeMedia (h : AddsLines c d lines) (media : EmbedMedia) (maxWidth maxHeight : UInt32) :
    AddsLines c (d.ensureBreak.placeMedia media maxWidth maxHeight)
      (lines ++ [media.line maxWidth maxHeight]) :=
  h.line ((Adds.refl h.ready.ensureBreak).anchor _)

/-- The name of a field is a segment of its own, since blanks come before it. -/
theorem embedField (h : AddsLines c d lines) (field : EmbedField) :
    AddsLines c (d.embedField field) (lines ++ [field.line]) := by
  have hindent := (Adds.refl h.ready.ensureBreak).put "  "
  have hlast : ∀ s ∈ (d.ensureBreak.put "  ").segments.getLast?, s.kind = .styled .bold →
      s.stop ≠ (d.ensureBreak.put "  ").length := by
    intro s hs _ heq
    rw [hindent.segments, List.map_nil, List.append_nil] at hs
    have hle := h.ready.ensureBreak.last s hs
    rw [heq, hindent.length] at hle
    have hsize : Text.size ([] ++ "  ".toList) = 2 := by decide
    omega
  obtain ⟨-, hname⟩ := hindent.writeWith field.name hlast
  have hvalue := (hname.put ": ").put field.value
  have htext : [] ++ "  ".toList ++ field.name.toList ++ ": ".toList ++ field.value.toList
      = ("  " ++ field.name ++ ": " ++ field.value).toList := by
    simp only [String.toList_append, List.nil_append]
  rw [htext] at hvalue
  exact h.line hvalue

theorem embedFooter (h : AddsLines c d lines) (config : Config) (embed : Embed) :
    AddsLines c (d.ensureBreak.embedFooter config embed) (lines ++ [embed.footerLine config]) := by
  have hstart := Adds.refl h.ready.ensureBreak
  refine h.line ?_
  unfold Canvas.embedFooter Embed.footerLine Embed.timeText
  cases embed.footer with
  | none =>
    cases embed.timestamp with
    | none => exact hstart
    | some t => exact hstart.put _
  | some footer =>
    have htext := (hstart.placeIcon config footer.iconUrl footer.text).put footer.text
    cases embed.timestamp with
    | none => simpa using htext
    | some t =>
      have htime := (htext.put " • ").put (t.format config.timestampFormat)
      rw [List.append_assoc (_ ++ footer.text.toList)] at htime
      exact htime

theorem link_author {author : EmbedAuthor} {before after : List CardLine}
    (h : AddsLines c d (before ++ author.line config :: after)) {url : String}
    (hurl : author.url = some url) (hname : author.name ≠ "") :
    let icon := (iconLine config author.iconUrl author.name).text
    let start := Text.size (Text.endLine (CardLine.layout c.buffer.text before) ++ icon)
    let stop := start + Text.size author.name.toList
    Text.slice? d.content start stop = some author.name ∧
      ⟨start, stop, .link url⟩ ∈ d.segments := by
  intro icon start stop
  have hlt : Text.size icon < Text.size icon + Text.size author.name.toList :=
    Nat.lt_add_of_pos_right (size_pos_of_ne hname)
  refine ⟨h.slice? rfl, h.mem_over icon author.name (.link url) (List.mem_append_right _ ?_)⟩
  rw [Text.size_append, mem_linkOver]
  exact ⟨hlt, url, hurl, rfl⟩

theorem link_title {embed : Embed} {title : String} {before after : List CardLine}
    (h : AddsLines c d (before ++ embed.titleLine title :: after)) {url : String}
    (hurl : embed.url = some url) (htitle : title ≠ "") :
    let start := Text.size (Text.endLine (CardLine.layout c.buffer.text before))
    let stop := start + Text.size title.toList
    Text.slice? d.content start stop = some title ∧
      ⟨start, stop, .styled .bold⟩ ∈ d.segments ∧ ⟨start, stop, .link url⟩ ∈ d.segments := by
  intro start stop
  have hpos := size_pos_of_ne htitle
  have hzero : Text.size [] + Text.size title.toList = Text.size title.toList := Nat.zero_add _
  have hslice := h.slice? (List.nil_append title.toList).symm
  have hbold := h.mem_over [] title (.styled .bold)
    (List.mem_append_left _ (by rw [hzero]; exact mem_boldOver.2 ⟨hpos, rfl⟩))
  have hlink := h.mem_over [] title (.link url)
    (List.mem_append_right _ (by rw [hzero]; exact mem_linkOver.2 ⟨hpos, url, hurl, rfl⟩))
  rw [List.append_nil] at hslice hbold hlink
  exact ⟨hslice, hbold, hlink⟩

end AddsLines

section Embed

variable {card : Embed}

/-- The colored line of an embed stands behind the space of a block. -/
theorem ready_embedLine (hmarker : c.buffer.marker = [])
    (hcounts : c.runs.counts = List.replicate Attribute.count 0) :
    let d := c.embedLine config card
    let front := c.startBlock.buffer.text ++ config.embedSeparator.toList
    let color := Rgba.ofRgb (card.color.getD config.defaultEmbedColor)
    d.Ready ∧ d.buffer.text = front ∧ d.segments = c.segments ++
      [⟨Text.size c.startBlock.buffer.text, Text.size front, .color color⟩] := by
  intro d front color
  have hstart : c.startBlock.buffer.marker = [] := by
    obtain ⟨k, hk⟩ := c.startBlock_eq_append
    rw [hk]
    exact hmarker
  have hstop : c.startBlock.length + Text.size config.embedSeparator.toList = Text.size front :=
    (Text.size_append _ _).symm
  have hline : d = Canvas.emit
      { c.startBlock with buffer := c.startBlock.buffer.append config.embedSeparator.toList }
      (Text.size c.startBlock.buffer.text, Text.size front) (.color color) := by
    show Canvas.embedLine _ _ _ = _
    unfold Canvas.embedLine
    rw [write_of_marker hstart, hstop]
    rfl
  have hsegments : d.segments = c.segments ++
      [⟨Text.size c.startBlock.buffer.text, Text.size front, .color color⟩] := by
    rw [hline]
    rfl
  refine ⟨⟨by rw [hline]; exact hstart, by rw [hline]; exact hcounts, fun s hs => ?_⟩,
    by rw [hline]; rfl, hsegments⟩
  rw [hsegments, List.getLast?_concat] at hs
  obtain rfl := Option.some.inj hs
  rw [hline]
  exact Nat.le_refl _

theorem kind_authorLine {author : EmbedAuthor} {s : Segment}
    (h : s ∈ (author.line config).segments) : s.kind ≠ .styled .bold := by
  rcases List.mem_append.1 h with h | h
  · obtain ⟨i, -, rfl⟩ := mem_iconLine.1 h
    nofun
  · obtain ⟨-, u, -, rfl⟩ := mem_linkOver.1 h
    nofun

/-- The parts of an embed without a description are its lines. -/
theorem addsLines_embed (registry : Registry) (scene : Scene) (hmarker : c.buffer.marker = [])
    (hcounts : c.runs.counts = List.replicate Attribute.count 0)
    (hdescription : ∀ text ∈ card.description, text = "") :
    AddsLines (c.embedLine scene.config card) (c.embed registry scene card)
      (card.lines scene.config) := by
  let config := scene.config
  let start := c.embedLine config card
  obtain ⟨hready, -, hsegments⟩ :
    start.Ready ∧ _ ∧ start.segments = c.segments ++ [_] := ready_embedLine hmarker hcounts
  have hline := AddsLines.refl hready
  let afterAuthor := start.drawSome card.author fun c author => c.embedAuthor config author
  have hauthor : AddsLines start afterAuthor (card.author.toList.map (·.line config)) :=
    hline.drawSome card.author fun author _ => hline.embedAuthor author
  -- before the title come only the color and what the author draws
  have hplain : ∀ s ∈ afterAuthor.segments.getLast?, s.kind ≠ .styled .bold := by
    intro s hs
    rw [hauthor.segments, hsegments, List.append_assoc,
      List.getLast?_append_of_ne_nil _ (by simp)] at hs
    rcases List.mem_append.1 (List.mem_of_getLast? hs) with hmem | hmem
    · obtain rfl := List.mem_singleton.1 hmem
      nofun
    · obtain ⟨before, line, after, hlines, t, ht, rfl⟩ := CardLine.mem_placed.1 hmem
      have hline : line ∈ card.author.toList.map (·.line config) := by simp [hlines]
      obtain ⟨author, -, rfl⟩ := List.mem_map.1 hline
      exact fun hkind => kind_authorLine ht hkind
  let afterTitle := afterAuthor.drawSome card.title fun c title => c.embedTitle card.url title
  have htitle : AddsLines start afterTitle (_ ++ card.title.toList.map card.titleLine) :=
    hauthor.drawSome card.title fun title _ => hauthor.embedTitle card title hplain
  let afterThumbnail := afterTitle.drawSome card.thumbnail fun c media =>
    c.ensureBreak.placeMedia media config.thumbnailSize config.thumbnailSize
  have hthumbnail : AddsLines start afterThumbnail (_ ++ card.thumbnail.toList.map
      (·.line config.thumbnailSize config.thumbnailSize)) :=
    htitle.drawSome card.thumbnail fun media _ => htitle.placeMedia media _ _
  have hfields : AddsLines start (card.fields.foldl embedField afterThumbnail)
      (_ ++ card.fields.map (·.line)) :=
    hthumbnail.foldl card.fields fun field h => h.embedField field
  have hfooter := hfields.drawIf (card.footer.isSome || card.timestamp.isSome)
    (hfields.embedFooter config card)
  have hnone : (card.description.filter fun text => !text.isEmpty) = none := by
    cases hd : card.description with
    | none => rfl
    | some text => simp [hdescription text hd]
  unfold Canvas.embed
  dsimp only
  rw [hnone]
  exact hfooter.drawSome card.image fun media _ => hfooter.placeMedia media _ _

theorem newline_not_mem_icon (icon : Option String) (name : String) :
    '\n' ∉ (iconLine config icon name).text := by
  rw [text_iconLine]
  split <;> simp

/-- No part has a line feed if no text that it is drawn with has one. -/
theorem newline_not_mem_lines (htexts : ∀ text ∈ card.texts config, '\n' ∉ text.toList)
    {line : CardLine} (h : line ∈ card.lines config) : '\n' ∉ line.text := by
  simp only [Embed.texts, List.forall_mem_cons, List.forall_mem_append] at htexts
  obtain ⟨-, ⟨⟨⟨hauthor, htitle⟩, hfields⟩, hfooter⟩, htime⟩ := htexts
  rcases Embed.mem_lines h with ⟨author, ha, rfl⟩ | ⟨title, ht, rfl⟩ | ⟨media, width, height, rfl⟩ |
    ⟨field, hf, rfl⟩ | rfl
  · have hname := hauthor author.name (List.mem_map.2 ⟨author, Option.mem_toList.2 ha, rfl⟩)
    simpa [EmbedAuthor.line, newline_not_mem_icon] using hname
  · exact htitle title (Option.mem_toList.2 ht)
  · exact List.not_mem_nil
  · have hname := hfields field.name (List.mem_flatMap.2 ⟨field, hf, by simp⟩)
    have hvalue := hfields field.value (List.mem_flatMap.2 ⟨field, hf, by simp⟩)
    simp [EmbedField.line, hname, hvalue]
  · have htime : '\n' ∉ card.timeText config := by
      unfold Embed.timeText
      cases ht : card.timestamp with
      | none => exact List.not_mem_nil
      | some t =>
        have hformat := htime (t.format config.timestampFormat)
          (List.mem_map.2 ⟨t, by simp [ht], rfl⟩)
        by_cases hsep : card.footer.isSome <;> simp [hsep, hformat]
    unfold Embed.footerLine
    cases hf : card.footer with
    | none => exact htime
    | some footer =>
      have htext := hfooter footer.text (List.mem_map.2 ⟨footer, by simp [hf], rfl⟩)
      simp [newline_not_mem_icon, htext, htime]

/-- Pictures and icons are at the start of a line. -/
theorem anchor_lines {line : CardLine} (h : line ∈ card.lines config) {s : Segment}
    (hs : s ∈ line.segments) (hanchor : s.kind.isAnchor = true) : s.start = 0 ∧ s.stop = 0 := by
  have hicon {icon : Option String} {name : String}
      (hs : s ∈ (iconLine config icon name).segments) : s.start = 0 ∧ s.stop = 0 := by
    obtain ⟨i, -, rfl⟩ := mem_iconLine.1 hs
    exact ⟨rfl, rfl⟩
  have hlink {start stop : Nat} {url : Option String} : s ∉ linkOver start stop url := by
    intro hs
    obtain ⟨-, u, -, rfl⟩ := mem_linkOver.1 hs
    cases hanchor
  have hbold {start stop : Nat} : s ∉ boldOver start stop := by
    intro hs
    obtain ⟨-, rfl⟩ := mem_boldOver.1 hs
    cases hanchor
  rcases Embed.mem_lines h with ⟨author, -, rfl⟩ | ⟨title, -, rfl⟩ | ⟨media, width, height, rfl⟩ |
    ⟨field, -, rfl⟩ | rfl
  · exact (List.mem_append.1 hs).elim hicon fun hs => absurd hs hlink
  · exact (List.mem_append.1 hs).elim (fun hs => absurd hs hbold) fun hs => absurd hs hlink
  · obtain rfl := List.mem_singleton.1 hs
    exact ⟨rfl, rfl⟩
  · exact absurd hs hbold
  · unfold Embed.footerLine at hs
    split at hs
    · exact hicon hs
    · cases hs

/-- An embed without a description, on a canvas with no marker and no active attribute, if its texts
have no line feeds: the colored line and behind it the parts that have text, each behind a line
feed. There is one more if the last part has no text. The segments are those of the parts; pictures
and icons are at the start of a line, and the links and the bold title are over the names that they
belong to. -/
theorem embed_layout (registry : Registry) (scene : Scene) (c : Canvas) (card : Embed)
    (hmarker : c.buffer.marker = []) (hcounts : c.runs.counts = List.replicate Attribute.count 0)
    (hdescription : ∀ text ∈ card.description, text = "")
    (hseparator : scene.config.embedSeparator ≠ "")
    (htexts : ∀ text ∈ card.texts scene.config, '\n' ∉ text.toList) :
    let config := scene.config
    let front := c.startBlock.buffer.text ++ config.embedSeparator.toList
    let color := Rgba.ofRgb (card.color.getD config.defaultEmbedColor)
    let lines := card.lines config
    let texts := lines.map (·.text)
    let d := c.embed registry scene card
    d.buffer.text = front ++ (texts.filter (· ≠ [])).flatMap ('\n' :: ·) ++
        (if texts.getLast? = some [] then ['\n'] else []) ∧
      d.segments = c.segments ++
        ⟨Text.size c.startBlock.buffer.text, Text.size front, .color color⟩ ::
          CardLine.placed front lines ∧
      (∀ s ∈ CardLine.placed front lines, s.kind.isAnchor = true →
        s.start = s.stop ∧ ∃ before, before <+: d.buffer.text ∧ StartsLine before ∧
          s.start = Text.size before) ∧
      (∀ author ∈ card.author, ∀ url ∈ author.url, author.name ≠ "" →
        let start := Text.size (front ++ '\n' :: if author.iconUrl.isSome then [' '] else [])
        let stop := start + Text.size author.name.toList
        Text.slice? d.content start stop = some author.name ∧
          ⟨start, stop, .link url⟩ ∈ d.segments) ∧
      (∀ title ∈ card.title, ∀ url ∈ card.url, title ≠ "" →
        let authorLines := card.author.toList.map (·.line config)
        let start := Text.size (Text.endLine (CardLine.layout front authorLines))
        let stop := start + Text.size title.toList
        Text.slice? d.content start stop = some title ∧
          ⟨start, stop, .styled .bold⟩ ∈ d.segments ∧ ⟨start, stop, .link url⟩ ∈ d.segments) := by
  intro config front color lines texts d
  obtain ⟨-, hfront, hcolor⟩ :
    _ ∧ (c.embedLine config card).buffer.text = front ∧ _ := ready_embedLine hmarker hcounts
  have hlines : AddsLines (c.embedLine config card) d lines :=
    addsLines_embed registry scene hmarker hcounts hdescription
  have hmid : ¬ StartsLine front :=
    not_startsLine_append (htexts _ List.mem_cons_self) (mt String.toList_eq_nil_iff.1 hseparator)
  have htext : d.buffer.text = CardLine.layout front lines := by rw [hlines.text, hfront]
  have hend : Text.endLine front = front ++ ['\n'] := by
    rw [Text.endLine, Text.lineBreak, if_neg hmid]
  refine ⟨?_, ?_, ?_, ?_, ?_⟩
  · rw [htext, CardLine.layout_eq hmid fun line h => newline_not_mem_lines htexts h]
  · rw [hlines.segments, hcolor, hfront, List.append_assoc]
    rfl
  · intro s hs hanchor
    rw [htext]
    exact CardLine.anchor_placed (fun _ hline _ => anchor_lines hline) hs hanchor
  · rintro author hauthor url hurl hname start stop
    obtain ⟨after, hafter⟩ : ∃ after, lines = [] ++ author.line config :: after := by
      simp only [lines, Embed.lines, Option.mem_def.1 hauthor, Option.toList_some,
        List.map_singleton, List.append_assoc, List.singleton_append, List.nil_append]
      exact ⟨_, rfl⟩
    have hlink := (hafter ▸ hlines).link_author hurl hname
    rw [hfront] at hlink
    have hicon : Text.size (Text.endLine (CardLine.layout front []) ++
        (iconLine config author.iconUrl author.name).text) = start := by
      rw [show CardLine.layout front [] = front from rfl, hend, List.append_assoc, text_iconLine]
      rfl
    dsimp only at hlink
    rwa [hicon] at hlink
  · rintro title htitle url hurl hne authorLines start stop
    obtain ⟨after, hafter⟩ : ∃ after, lines = authorLines ++ card.titleLine title :: after := by
      simp only [lines, Embed.lines, Option.mem_def.1 htitle, Option.toList_some,
        List.map_singleton, List.append_assoc, List.singleton_append]
      exact ⟨_, rfl⟩
    have hlink := (hafter ▸ hlines).link_title hurl hne
    rwa [hfront] at hlink

/-- An icon before the author, a thumbnail between the title and a field, and a footer without
text. -/
theorem embed_layout_parts :
    let scene : Scene := { config := { embedSeparator := "--" } }
    let c := (Canvas.fresh scene.config).put "a"
    let card : Embed :=
      { author := some { name := "bob", url := some "u", iconUrl := some "i" }
        title := some "t", url := some "v", thumbnail := some { url := "p" }
        fields := [{ name := "n", value := "x" }], footer := some { text := "" } }
    let d := c.embed .builtin scene card
    c.buffer.marker = [] ∧ c.runs.counts = List.replicate Attribute.count 0 ∧
      (∀ text ∈ card.description, text = "") ∧ scene.config.embedSeparator ≠ "" ∧
      (∀ text ∈ card.texts scene.config, '\n' ∉ text.toList) ∧
      d.content = "a\n\n--\n bob\nt\n  n: x\n" ∧
      Text.slice? d.content 7 10 = some "bob" ∧ ⟨7, 10, .link "u"⟩ ∈ d.segments ∧
      ⟨11, 12, .styled .bold⟩ ∈ d.segments ∧ ⟨11, 12, .link "v"⟩ ∈ d.segments := by
  intro scene c card d
  have hmarker : c.buffer.marker = [] := rfl
  have hcounts : c.runs.counts = List.replicate Attribute.count 0 := rfl
  have hdescription : ∀ text ∈ card.description, text = "" := nofun
  have hseparator : scene.config.embedSeparator ≠ "" := by decide
  have htexts : ∀ text ∈ card.texts scene.config, '\n' ∉ text.toList := by decide
  have hcontent : d.content = "a\n\n--\n bob\nt\n  n: x\n" := by
    cbv
  obtain ⟨-, -, -, hauthor, htitle⟩ :=
    embed_layout .builtin scene c card hmarker hcounts hdescription hseparator htexts
  have hstart : Text.size (c.startBlock.buffer.text ++ scene.config.embedSeparator.toList ++
      '\n' :: if (some "i" : Option String).isSome then [' '] else []) = 7 := by
    cbv
  have htitleStart : Text.size (Text.endLine (CardLine.layout
      (c.startBlock.buffer.text ++ scene.config.embedSeparator.toList)
      (card.author.toList.map (·.line scene.config)))) = 11 := by
    cbv
  have hsize : Text.size "bob".toList = 3 ∧ Text.size "t".toList = 1 := by decide
  have hname := hauthor _ rfl "u" rfl (by decide)
  have htitle := htitle "t" rfl "v" rfl (by decide)
  dsimp only at hname
  rw [hstart, hsize.1] at hname
  dsimp only at htitle
  rw [htitleStart, hsize.2] at htitle
  exact ⟨hmarker, hcounts, hdescription, hseparator, htexts, hcontent, hname.1, hname.2, htitle.2⟩

end Embed

end Canvas

end RichChat

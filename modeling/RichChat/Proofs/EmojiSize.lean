import RichChat.Proofs.EmojiOnly
import RichChat.Proofs.NestedFrame
import RichChat.Proofs.Parts

/-!
# The size of emoji, document by document

A handler may draw further documents on the canvas that it is given, in any order with other calls.
A document of nothing but emoji makes them large, and nothing makes them small again: the emoji of a
document are large if the document has nothing else, or if one before it on the same canvas had
nothing else (`Canvas.images_document`). So the size is that of the document itself as long as no
emoji have been large before.
-/

namespace RichChat

/-- What is called on a canvas. A document is drawn by built-in handlers, or it is begun and drawn
by other handlers, whose calls come next. A nested rendering carries whatever is done on its own
canvas. -/
inductive Call
  | op (o : Op) (sizeless : o ≠ .enlargeEmoji)
  | push (segment : Segment)
  | separate (visit : Visit)
  | nested (source : String) (inner : Script)
  | embed (card : Embed)
  | attachments (files : List Attachment)
  | document (registry : Registry) (named : registry.IsNamed) (node : Node)
  | begin (node : Node)

namespace Call

def run (scene : Scene) : Call → Canvas → Canvas
  | op o _, c => o.run scene c
  | push segment, c => c.push segment
  | separate visit, c => c.separate visit
  | nested source inner, c => c.within scene.config source (inner.run scene)
  | embed card, c => c.embed .builtin scene card
  | attachments files, c => c.attachments scene.config files
  | document registry _ node, c => c.document registry scene node
  | begin node, c => c.sizeEmoji scene.config node

/-- Whether a call starts a document of nothing but emoji, of which there are not too many. -/
def enlarges (config : Config) : Call → Bool
  | document _ _ node | begin node => config.enlarges node
  | op _ _ | push _ | separate _ | nested _ _ | embed _ | attachments _ => false

/-- Calls one after the other. -/
def runAll (scene : Scene) (calls : List Call) (c : Canvas) : Canvas :=
  calls.foldl (fun c call => call.run scene c) c

end Call

namespace Canvas

theorem stable_emojiSize (size : UInt32) : Stable (fun _ => True) fun c => c.emojiSize = size where
  flush {c} h := by rwa [flush_emojiSize]
  append _ h := h
  change {c} counts h := by
    rcases c.change_cases counts with ⟨-, heq⟩ | ⟨-, heq⟩ <;> rw [heq] <;> exact h
  push _ _ h := h
  frame _ _ _ _ h := h

theorem emojiSize_sizeEmoji (c : Canvas) (config : Config) (node : Node) :
    (c.sizeEmoji config node).emojiSize
      = if config.enlarges node then config.largeEmojiSize else c.emojiSize := by
  unfold sizeEmoji Config.enlarges
  cases node.emojiOnlyCount with
  | none => rfl
  | some n =>
    by_cases hn : 0 < n ∧ n ≤ config.largeEmojiLimit
    · simp [hn]
    · simp [hn]

end Canvas

/-- No other operation changes the size of emoji. -/
theorem Op.emojiSize_run (scene : Scene) {o : Op} (h : o ≠ .enlargeEmoji) (c : Canvas) :
    (o.run scene c).emojiSize = c.emojiSize := by
  have stable := Canvas.stable_emojiSize c.emojiSize
  cases o with
  | write text => exact stable.put rfl text
  | writeVerbatim text => rfl
  | writeWith a text => exact stable.writeWith rfl a text
  | cursor => exact stable.flush rfl
  | enter a => exact stable.enter rfl a
  | exit a => exact stable.exit rfl a
  | leave =>
    rw [run, Canvas.leave_eq]
    exact stable.change _ rfl
  | ensureBreak => rfl
  | startBlock => rfl
  | openLink => exact stable.openLink rfl
  | closeLink url => exact stable.closeLink rfl trivial
  | openQuote => rfl
  | closeQuote => exact stable.closeQuote trivial rfl
  | openList start => rfl
  | closeList => rfl
  | numberItem => exact stable.nextListMarker rfl
  | anchor kind point => exact stable.anchor rfl trivial
  | mark start stop kind =>
    rw [run, Canvas.mark]
    split <;> rfl
  | request r =>
    rw [run, Canvas.request]
    split <;> rfl
  | enlargeEmoji => exact absurd rfl h

namespace Call

variable (scene : Scene)

theorem emojiSize_run (call : Call) (c : Canvas) :
    (call.run scene c).emojiSize
      = if call.enlarges scene.config then scene.config.largeEmojiSize else c.emojiSize := by
  have stable := Canvas.stable_emojiSize c.emojiSize
  cases call with
  | op o sizeless => exact o.emojiSize_run scene sizeless c
  | push segment => rfl
  | separate visit => exact stable.separate rfl visit
  | nested source inner =>
    exact (c.undisturbed_of_additive source (inner.additive scene)).emojiSize
  | embed card => exact ((Balanced.refl c).embed scene card).emojiSize
  | attachments files =>
    exact stable.attachments (.all scene.config) (fun _ => trivial) rfl files
  | document registry named node =>
    have hdraw := (named.balanced scene node (c.sizeEmoji scene.config node)).emojiSize
    exact hdraw.trans (c.emojiSize_sizeEmoji scene.config node)
  | begin node => exact c.emojiSize_sizeEmoji scene.config node

/-- Emoji that have been made large stay so. -/
theorem emojiSize_runAll (calls : List Call) (c : Canvas) :
    (runAll scene calls c).emojiSize
      = if calls.any (enlarges scene.config) then scene.config.largeEmojiSize
        else c.emojiSize := by
  induction calls generalizing c with
  | nil => rfl
  | cons call calls ih =>
    show (runAll scene calls (call.run scene c)).emojiSize = _
    rw [ih, emojiSize_run, List.any_cons]
    cases call.enlarges scene.config <;> cases calls.any (enlarges scene.config) <;> rfl

end Call

namespace Canvas

/-- A canvas that has the images of these emoji after those in `front`, and draws emoji in a
size. -/
structure PlacesEmoji (config : Config) (size : UInt32) (front : List Segment)
    (emojis : List CustomEmoji) (c : Canvas) : Prop where
  emojiSize : c.emojiSize = size
  images : ∃ added, c.segments.filter (·.kind.isImage) = front ++ added ∧
    List.Forall₂ (Segment.ShowsEmoji config size) emojis added

variable {config : Config} {size : UInt32} {front : List Segment} {emojis : List CustomEmoji}
  {c : Canvas}

theorem PlacesEmoji.still (h : c.PlacesEmoji config size front emojis) {d : Canvas}
    (hsize : d.emojiSize = c.emojiSize)
    (himages : d.segments.filter (·.kind.isImage) = c.segments.filter (·.kind.isImage)) :
    d.PlacesEmoji config size front emojis :=
  ⟨hsize.trans h.emojiSize, by rw [himages]; exact h.images⟩

theorem stable_placesEmoji (config : Config) (size : UInt32) (front : List Segment)
    (emojis : List CustomEmoji) :
    Stable (fun kind => kind.isImage = false) (PlacesEmoji config size front emojis) where
  flush {c} h := by
    rcases c.flush_cases with ⟨-, heq⟩ | ⟨-, heq⟩ <;> rw [heq]
    · exact h
    · exact h.still rfl (filter_addRun (fun _ _ _ => rfl) _ _ _ _)
  append _ h := h.still rfl rfl
  change {c} counts h := by
    rcases c.change_cases counts with ⟨-, heq⟩ | ⟨-, heq⟩ <;> rw [heq]
    · exact h.still rfl rfl
    · exact h.still rfl (filter_addRun (fun _ _ _ => rfl) _ _ _ _)
  push hk _ h := h.still rfl (by simp [push, hk])
  frame _ _ _ _ h := h.still rfl rfl

theorem PlacesEmoji.placeEmoji (h : c.PlacesEmoji config size front emojis) (e : CustomEmoji) :
    (c.placeEmoji config e c.emojiSize).PlacesEmoji config size front (emojis ++ [e]) := by
  have hflush := (stable_placesEmoji config size front emojis).flush h
  obtain ⟨added, himages, hshows⟩ := hflush.images
  rw [h.emojiSize]
  let url := Cdn.emojiUrl config.cdnBase e.id e.animated size
  let image : Segment :=
    ⟨c.flush.length, c.flush.length, .image ⟨url, size, size, ":" ++ e.name ++ ":"⟩⟩
  have hshown : image.ShowsEmoji config size e := ⟨rfl, rfl⟩
  refine ⟨hflush.emojiSize, added ++ [image], ?_,
    List.rel_append hshows (.cons hshown .nil)⟩
  rw [Canvas.placeEmoji, anchor_eq, push, List.filter_append, himages, List.append_assoc]
  rfl

theorem tells_placesEmoji (scene : Scene) (size : UInt32) (front : List Segment) :
    Tells scene NodeKind.emojis (PlacesEmoji scene.config size front) where
  enter {emojis c} kind children parent next h := by
    have stable := stable_placesEmoji scene.config size front emojis
    -- only an emoji makes an image; a mention stands apart since it asks for things, too
    cases kind with
    | emoji e => exact h.placeEmoji e
    | mention target =>
      show PlacesEmoji _ _ _ (emojis ++ []) _
      rw [List.append_nil]
      exact stable.mention ⟨fun _ => rfl, fun _ _ => rfl, fun _ => rfl⟩
        (fun _ h => h.still rfl rfl) h target
    | _ =>
      show PlacesEmoji _ _ _ (emojis ++ []) _
      rw [List.append_nil]
      refine stable.visitor_makes _ (fun _ => nofun) (fun kind hk => ?_) h
      cases kind <;> first | rfl | cases hk
  leave {emojis c} node parent next h := by
    refine (stable_placesEmoji _ _ _ _).visitor_makes _ nofun (fun kind hk => ?_) h
    cases kind with
    | image image =>
      obtain ⟨nodeKind, children⟩ := node
      cases nodeKind <;> cases hk
    | _ => rfl

/-- A document draws its emoji in the size that the canvas has once it is begun. -/
theorem placed_document (scene : Scene) (c : Canvas) (node : Node) :
    ∃ added, (c.document .builtin scene node).segments.filter (·.kind.isImage)
        = c.segments.filter (·.kind.isImage) ++ added ∧
      List.Forall₂
        (Segment.ShowsEmoji scene.config (c.sizeEmoji scene.config node).emojiSize)
        (node.collect NodeKind.emojis) added := by
  have hbegin : (c.sizeEmoji scene.config node).PlacesEmoji scene.config
      (c.sizeEmoji scene.config node).emojiSize (c.segments.filter (·.kind.isImage)) [] := by
    obtain ⟨emojiSize, heq⟩ := c.sizeEmoji_eq scene.config node
    exact ⟨rfl, [], by rw [heq, List.append_nil], .nil⟩
  exact ((tells_placesEmoji scene _ _).draw hbegin node).images

/-- The emoji that a document draws after any calls, on an empty canvas or on that of a nested
rendering: they are large if the document has nothing else, or if one that was started before on the
same canvas had nothing else; otherwise they have the common size. -/
theorem images_document (scene : Scene) (start : Canvas)
    (hstart : start = .fresh scene.config ∨ ∃ outer : Canvas, start = outer.child scene.config)
    (calls : List Call) (node : Node) :
    let c := Call.runAll scene calls start
    let large := scene.config.enlarges node || calls.any (Call.enlarges scene.config)
    ∃ added, (c.document .builtin scene node).segments.filter (·.kind.isImage)
        = c.segments.filter (·.kind.isImage) ++ added ∧
      List.Forall₂ (Segment.ShowsEmoji scene.config (scene.config.sizeOfEmoji large))
        (node.collect NodeKind.emojis) added := by
  intro c large
  have hcommon : start.emojiSize = scene.config.emojiSize := by
    rcases hstart with rfl | ⟨outer, rfl⟩ <;> rfl
  have hsize : (c.sizeEmoji scene.config node).emojiSize = scene.config.sizeOfEmoji large := by
    rw [emojiSize_sizeEmoji, Call.emojiSize_runAll, hcommon]
    unfold large Config.sizeOfEmoji
    cases scene.config.enlarges node <;> cases calls.any (Call.enlarges scene.config) <;> rfl
  rw [← hsize]
  exact c.placed_document scene node

/-- Emoji stay small after a document with a word in it and a nested rendering of an emoji. They are
large in a document of an emoji alone, and then also after a word. -/
theorem images_document_three :
    let scene : Scene := {}
    let e : CustomEmoji := ⟨"wave", ⟨5⟩, true⟩
    let among : Node := .mk .document [.text "hi ", .leaf (.emoji e)]
    let alone : Node := .mk .document [.leaf (.emoji e)]
    let first : Call := .document .builtin Registry.isNamed_builtin among
    let nested : Call := .nested "" (.op .enlargeEmoji .done)
    let c := Call.runAll scene [first, nested] (.fresh scene.config)
    let d := Call.runAll scene [first, nested, .begin alone] (.fresh scene.config)
    (∃ image, (c.document .builtin scene among).segments.filter (·.kind.isImage)
        = c.segments.filter (·.kind.isImage) ++ [image] ∧ image.ShowsEmoji scene.config 22 e) ∧
      ∃ image, (d.document .builtin scene among).segments.filter (·.kind.isImage)
        = d.segments.filter (·.kind.isImage) ++ [image] ∧ image.ShowsEmoji scene.config 48 e := by
  intro scene e among alone first nested c d
  obtain ⟨_, hsmall, hshows⟩ :=
    images_document scene (.fresh scene.config) (.inl rfl) [first, nested] among
  obtain ⟨_, hlarge, hshows'⟩ :=
    images_document scene (.fresh scene.config) (.inl rfl) [first, nested, .begin alone] among
  cases hshows with
  | cons hsmallShows hnil =>
    cases hnil
    cases hshows' with
    | cons hlargeShows hnil' =>
      cases hnil'
      exact ⟨⟨_, hsmall, hsmallShows⟩, _, hlarge, hlargeShows⟩

/-- An emoji after a word, in a document after one of an emoji alone, does not have the common
size. -/
theorem not_images_document_common :
    let scene : Scene := {}
    let alone : Node := .mk .document [.leaf (.emoji ⟨"a", ⟨1⟩, false⟩)]
    let e : CustomEmoji := ⟨"b", ⟨2⟩, false⟩
    let among : Node := .mk .document [.text "x ", .leaf (.emoji e)]
    let c := Call.runAll scene [.document .builtin Registry.isNamed_builtin alone]
      (.fresh scene.config)
    scene.config.enlarges among = false ∧
      ¬ ∃ image, (c.document .builtin scene among).segments.filter (·.kind.isImage)
          = c.segments.filter (·.kind.isImage) ++ [image] ∧
        image.ShowsEmoji scene.config (scene.config.sizeOfEmoji false) e := by
  intro scene alone e among c
  refine ⟨by decide, ?_⟩
  rintro ⟨image, himages, -, hkind⟩
  obtain ⟨added, hadded, hshows⟩ := c.placed_document scene among
  have hlarge : (c.sizeEmoji scene.config among).emojiSize = 48 := by
    rw [emojiSize_sizeEmoji, Call.emojiSize_runAll]
    decide
  rw [hadded] at himages
  obtain rfl := List.append_cancel_left himages
  cases hshows with
  | cons hshown _ =>
    injection hkind.symm.trans hshown.2 with himage
    have hwidth := congrArg ImageAnchor.width himage
    rw [hlarge] at hwidth
    exact absurd hwidth (by decide)

end Canvas

end RichChat

import RichChat.Proofs.Bars

/-!
# What is kept of the open containers

A property of the containers that are open in a builder is kept by all events that follow its rules
(`Builder.Kept.foldl`), if it is kept by a few moves: nodes are put into the innermost container, a
line break is marked in it, a container or a spoiler starts, the innermost container is closed, and
a spoiler is given up. The rules (`Builder.Rules`) say what may be in a text, what may be put in,
and what may start. What may be put in can depend on whether that is inside a link.
-/

namespace RichChat.Builder

/-- Whether one of the open containers is a link. -/
def linked (top : Frame) (fs : List Frame) : Bool := top.isLink || fs.any (·.isLink)

/-- What may become part of a tree. -/
structure Rules where
  /-- The characters that a text may have. -/
  fine : Char → Prop := fun _ => True
  /-- What may be put into a container, which may be in a link. -/
  good : Bool → Node → Prop := fun _ _ => True
  /-- The containers that may start. -/
  opens : Container → Prop := fun _ => True
  /-- Whether lines may break. -/
  breaks : Prop := True

/-- Whether an event follows the rules. -/
def Rules.Permits (R : Rules) : Event → Prop
  | .start c => R.opens c
  | .text run | .html run => ∀ c ∈ run, R.fine c
  | .code text => ∀ link, R.good link (.mk (.inline .monospace) [.text text])
  | .rule => ∀ link, R.good link (.leaf .thematicBreak)
  | .softBreak | .hardBreak => R.breaks
  | .stopCode => ∀ language text, (∀ c ∈ text, R.fine c) →
    ∀ link, R.good link (.leaf (.codeBlock language (codeLines text)))
  | .startCode _ | .stop => True

/-- Without rules of its own a property has to be kept by any event. -/
theorem Rules.permits_all (events : List Event) : ∀ e ∈ events, Rules.Permits {} e := by
  intro e _
  cases e with
  | text run | html run => exact fun _ _ => trivial
  | code text => exact fun _ => trivial
  | rule => exact fun _ => trivial
  | stopCode => exact fun _ _ _ _ => trivial
  | _ => trivial

/-- A property of the open containers, the innermost apart, that is kept under the rules. -/
structure Kept (R : Rules) (I : Frame → List Frame → Prop) : Prop where
  tokens : ∀ link pending, (∀ c ∈ pending, R.fine c) → ∀ t ∈ Token.scan pending,
    ∀ n ∈ t.nodes link, R.good link n
  push : ∀ {top fs xs}, I top fs → (∀ n ∈ xs, R.good (linked top fs) n) → I (top.push xs) fs
  markBreak : ∀ {top fs} (hard : Bool), R.breaks → I top fs → I (top.markBreak hard) fs
  start : ∀ {top fs c}, R.opens c → I top fs → I { kind := c.kind } (top :: fs)
  bars : ∀ {top fs}, top.spoiler = false → I top fs →
    I { kind := .inline .spoiler, spoiler := true } (top :: fs)
  close : ∀ {top f fs}, I top (f :: fs) → I (f.push [top.node]) fs
  giveUp : ∀ {top f fs}, top.spoiler = true → I top (f :: fs) → I (f.push (unwrapped top)) fs

/-- The property holds of the open containers, and text that is still to be put in is fine. -/
structure Holds (R : Rules) (I : Frame → List Frame → Prop) (b : Builder) : Prop where
  frames : I b.top b.below
  spoilers : ∀ f ∈ b.top :: b.below, f.spoiler = true → f.isLink = false
  pending : ∀ c ∈ b.pending, R.fine c
  code : ∀ language text, b.code = some (language, text) → ∀ c ∈ text, R.fine c

variable {R : Rules} {I : Frame → List Frame → Prop} {b : Builder}

theorem Holds.start (h : I { kind := .document } []) : Holds R I {} where
  frames := h
  spoilers := by simp
  pending := by simp
  code := by simp

theorem forall_mem_unwrap {P : Frame → Prop} (hpush : ∀ f xs, P f → P (f.push xs)) :
    ∀ {top : Frame} (fs : List Frame), (∀ f ∈ top :: fs, P f) →
      ∀ f ∈ (unwrap top fs).1 :: (unwrap top fs).2, P f
  | _, [], h => h
  | top, f :: fs, h => by
    obtain ⟨hf, hfs⟩ := List.forall_mem_cons.1 (List.forall_mem_cons.1 h).2
    rw [unwrap]
    split
    · exact forall_mem_unwrap hpush fs (List.forall_mem_cons.2 ⟨hpush f _ hf, hfs⟩)
    · exact h

namespace Kept

theorem pushTop (hI : Kept R I) (h : Holds R I b) {xs : List Node}
    (hxs : ∀ n ∈ xs, R.good b.inLink n) : Holds R I (b.push xs) where
  frames := hI.push h.frames hxs
  spoilers := List.forall_mem_cons.2 (List.forall_mem_cons.1 h.spoilers)
  pending := h.pending
  code := h.code

theorem closeTop (hI : Kept R I) (h : Holds R I b) : Holds R I b.close := by
  obtain ⟨top, below, pending, code⟩ := b
  cases below with
  | nil => exact h
  | cons f fs =>
    obtain ⟨hf, hfs⟩ := List.forall_mem_cons.1 (List.forall_mem_cons.1 h.spoilers).2
    exact ⟨hI.close h.frames, List.forall_mem_cons.2 ⟨hf, hfs⟩, h.pending, h.code⟩

/-- A token changes nothing about being in a link, since a spoiler is none. -/
theorem token (hI : Kept R I) (h : Holds R I b) {t : Token}
    (ht : ∀ n ∈ t.nodes b.inLink, R.good b.inLink n) :
    Holds R I (b.token b.inLink t) ∧ (b.token b.inLink t).inLink = b.inLink := by
  cases t with
  | spoiler =>
    simp only [Builder.token, toggleSpoiler]
    split
    · rename_i hspoiler
      refine ⟨hI.closeTop h, ?_⟩
      have hlink := (List.forall_mem_cons.1 h.spoilers).1 hspoiler
      obtain ⟨top, below, pending, code⟩ := b
      cases below with
      | nil => rfl
      | cons f fs =>
        change (f.isLink || fs.any (·.isLink)) = (top.isLink || (f.isLink || fs.any (·.isLink)))
        rw [show top.isLink = false from hlink, Bool.false_or]
    · rename_i hspoiler
      refine ⟨⟨hI.bars (by simpa using hspoiler) h.frames, ?_, h.pending, h.code⟩, ?_⟩
      · exact List.forall_mem_cons.2 ⟨fun _ => rfl, h.spoilers⟩
      · simp [openFrame, inLink, Frame.isLink, NodeKind.tag]
  | _ => exact ⟨hI.pushTop h ht, rfl⟩

theorem flush (hI : Kept R I) (h : Holds R I b) : Holds R I b.flush := by
  have hfold : ∀ (ts : List Token) (b : Builder) (link : Bool), Holds R I b → b.inLink = link →
      (∀ t ∈ ts, ∀ n ∈ t.nodes link, R.good link n) →
      Holds R I (ts.foldl (Builder.token link) b) := by
    intro ts
    induction ts with
    | nil => exact fun _ _ h _ _ => h
    | cons t ts ih =>
      rintro b _ h rfl hts
      obtain ⟨ht, hts⟩ := List.forall_mem_cons.1 hts
      obtain ⟨hnext, hlink⟩ := hI.token h ht
      exact ih _ _ hnext hlink hts
  have hcleared : Holds R I { b with pending := [] } := ⟨h.frames, h.spoilers, by simp, h.code⟩
  exact hfold _ _ _ hcleared rfl (hI.tokens _ b.pending h.pending)

theorem unwrap (hI : Kept R I) : ∀ {top : Frame} (fs : List Frame), I top fs →
    I (Builder.unwrap top fs).1 (Builder.unwrap top fs).2
  | _, [], h => h
  | top, f :: fs, h => by
    rw [Builder.unwrap]
    split
    · rename_i hspoiler
      exact hI.unwrap fs (hI.giveUp hspoiler h)
    · exact h

theorem stop (hI : Kept R I) (h : Holds R I b) : Holds R I b.stop := by
  have hflush := hI.flush h
  refine hI.closeTop (b := b.flush.unwrapSpoilers) ⟨hI.unwrap _ hflush.frames, ?_, ?_, ?_⟩
  · exact forall_mem_unwrap (fun _ _ hf => hf) _ hflush.spoilers
  · exact hflush.pending
  · exact hflush.code

theorem event (hI : Kept R I) (h : Holds R I b) {e : Event} (he : R.Permits e) :
    Holds R I (b.event e) := by
  unfold Builder.event
  split
  · rename_i language text hcode
    have htext := h.code language text hcode
    split
    · refine ⟨h.frames, h.spoilers, h.pending, ?_⟩
      rintro _ _ ⟨⟩
      exact List.forall_mem_append.2 ⟨htext, he⟩
    · have hclosed : Holds R I { b with code := none } := ⟨h.frames, h.spoilers, h.pending, by simp⟩
      exact hI.pushTop hclosed (by simpa using he language text htext _)
    · exact h
  · split
    · exact ⟨h.frames, h.spoilers, List.forall_mem_append.2 ⟨h.pending, he⟩, h.code⟩
    · exact ⟨h.frames, h.spoilers, List.forall_mem_append.2 ⟨h.pending, he⟩, h.code⟩
    · exact hI.pushTop (hI.flush h) (by simpa using he _)
    · have hflush := hI.flush h
      exact ⟨hI.markBreak false he hflush.frames, List.forall_mem_cons.2
        (List.forall_mem_cons.1 hflush.spoilers), hflush.pending, hflush.code⟩
    · have hflush := hI.flush h
      exact ⟨hI.markBreak true he hflush.frames, List.forall_mem_cons.2
        (List.forall_mem_cons.1 hflush.spoilers), hflush.pending, hflush.code⟩
    · exact hI.pushTop (hI.flush h) (by simpa using he _)
    · have hflush := hI.flush h
      refine ⟨hflush.frames, hflush.spoilers, hflush.pending, ?_⟩
      rintro _ _ ⟨⟩
      simp
    · have hflush := hI.flush h
      exact ⟨hI.start he hflush.frames, List.forall_mem_cons.2 ⟨nofun, hflush.spoilers⟩,
        hflush.pending, hflush.code⟩
    · exact hI.stop h
    · exact hI.stop h

theorem foldl (hI : Kept R I) {events : List Event} (he : ∀ e ∈ events, R.Permits e)
    (h : Holds R I b) : Holds R I (events.foldl Builder.event b) := by
  induction events generalizing b with
  | nil => exact h
  | cons e events ih =>
    obtain ⟨hfirst, hrest⟩ := List.forall_mem_cons.1 he
    exact ih hrest (hI.event h hfirst)

theorem closeAll (hI : Kept R I) : ∀ {top : Frame} (fs : List Frame), I top fs →
    I (Builder.closeAll top fs) []
  | _, [], h => h
  | top, f :: fs, h => by
    rw [Builder.closeAll]
    split
    · rename_i hspoiler
      exact hI.closeAll fs (hI.giveUp hspoiler h)
    · exact hI.closeAll fs (hI.close h)

/-- At the end the property holds of the root alone. -/
theorem finish (hI : Kept R I) (h : Holds R I b) : ∃ root, I root [] ∧ b.finish = root.node :=
  ⟨_, hI.closeAll _ (hI.flush h).frames, rfl⟩

theorem ofEvents (hI : Kept R I) (hstart : I { kind := .document } []) {events : List Event}
    (he : ∀ e ∈ events, R.Permits e) : ∃ root, I root [] ∧ Node.ofEvents events = root.node :=
  hI.finish (hI.foldl he (.start hstart))

end Kept

end RichChat.Builder

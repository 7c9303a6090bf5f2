import RichChat.Proofs.Bounds

/-!
# Anchors and quote blocks

Of the segments of a canvas, quotes look at two kinds only: anchors, and the blocks of quotes that
have been closed. These are its `places`. Placing an anchor and closing a quote add to them, and so
does a nested rendering; all other operations leave them alone, and the open quotes too
(`Op.still`).
-/

namespace RichChat

def SegmentKind.isPlace : SegmentKind → Bool
  | .quoteBlock | .image _ | .avatar _ => true
  | .styled _ | .link _ | .codeBlock _ | .color _ | .mention _ | .messageReference _ => false

theorem SegmentKind.isPlace_iff (kind : SegmentKind) :
    kind.isPlace = true ↔ kind = .quoteBlock ∨ kind.isAnchor = true := by
  cases kind <;> simp [isPlace, isAnchor]

theorem SegmentKind.isPlace_of_isMark {kind : SegmentKind} (h : kind.isMark = true) :
    kind.isPlace = false := by
  cases kind <;> simp [isMark, isPlace] at h ⊢

def placesOf (segments : List Segment) : List Segment := segments.filter (·.kind.isPlace)

theorem placesOf_append (as bs : List Segment) : placesOf (as ++ bs) = placesOf as ++ placesOf bs :=
  List.filter_append as bs

theorem placesOf_single {s : Segment} (h : s.kind.isPlace = true) : placesOf [s] = [s] := by
  simp [placesOf, h]

theorem placesOf_single_of_not {s : Segment} (h : s.kind.isPlace = false) : placesOf [s] = [] := by
  simp [placesOf, h]

/-- A run may make the last segment longer, but only a run. -/
theorem placesOf_addRun (segments : List Segment) {run : Option Segment}
    (h : ∀ r ∈ run, r.kind.isPlace = false) : placesOf (addRun segments run) = placesOf segments := by
  cases run with
  | none => rfl
  | some run =>
    have hrun := h run rfl
    rcases addRun_cases segments run with heq | ⟨front, last, rfl, hkind, -, heq⟩
    · rw [heq, placesOf_append, placesOf_single_of_not hrun, List.append_nil]
    · have hlast : last.kind.isPlace = false := by rw [hkind, hrun]
      rw [heq, placesOf_append, placesOf_append, placesOf_single_of_not hlast,
        placesOf_single_of_not (s := { last with stop := run.stop }) hlast]

theorem isPlace_region (r : Runs) (a : Attribute) (n : Nat) :
    ∀ s ∈ r.region a n, s.kind.isPlace = false := by
  intro s hs
  rcases region_cases r a n with ⟨h, -⟩ | ⟨h, -⟩
  · simp [h] at hs
  · obtain rfl : (⟨r.start, n, .styled a⟩ : Segment) = s := by simpa [h] using hs
    rfl

namespace Canvas

def places (c : Canvas) : List Segment := placesOf c.segments

/-- The places of a nested canvas come behind those that were there before. -/
theorem places_adopt (c inner : Canvas) :
    (c.splitRun.adopt inner).resetRun.places = c.places ++ inner.places := by
  rw [adopt_eq, places, placesOf_append, placesOf_addRun _ (isPlace_region _ _ _)]
  rfl

/-- From one canvas to the other text is added, but no anchor, and no quote is opened or closed. -/
structure Still (c d : Canvas) : Prop where
  text : c.buffer.text <+: d.buffer.text
  quotes : d.quotes = c.quotes
  places : d.places = c.places

namespace Still

variable {c d e : Canvas}

theorem refl (c : Canvas) : Still c c := ⟨List.prefix_rfl, rfl, rfl⟩

theorem grow (h : Still c d) {buffer : Buffer} (hp : d.buffer.text <+: buffer.text) :
    Still c { d with buffer } :=
  ⟨h.text.trans hp, h.quotes, h.places⟩

theorem push (h : Still c d) {s : Segment} (hs : s.kind.isPlace = false) : Still c (d.push s) := by
  refine ⟨h.text, h.quotes, ?_⟩
  rw [← h.places, Canvas.places, Canvas.push, placesOf_append, placesOf_single_of_not hs,
    List.append_nil]
  rfl

theorem change (h : Still c d) (counts : List Nat) : Still c (d.change counts) := by
  rcases d.change_cases counts with ⟨-, heq⟩ | ⟨-, heq⟩ <;> rw [heq]
  · exact ⟨h.text, h.quotes, h.places⟩
  · exact ⟨h.text, h.quotes, (placesOf_addRun _ (isPlace_region _ _ _)).trans h.places⟩

theorem flush (h : Still c d) : Still c d.flush := by
  refine ⟨?_, by rw [flush_quotes, h.quotes], ?_⟩
  · rw [flush_buffer, Buffer.flush_eq_append]
    exact h.text.trans (List.prefix_append _ _)
  · rw [← h.places]
    rcases flush_cases d with ⟨-, heq⟩ | ⟨-, heq⟩
    · rw [heq]
    · rw [heq]
      exact placesOf_addRun _ (isPlace_region _ _ _)

theorem put (h : Still c d) (text : String) : Still c (d.put text) :=
  put_keeps (fun _ h => h.flush) (fun _ _ h => h.grow (List.prefix_append _ _)) h text

theorem enter (h : Still c d) (a : Attribute) : Still c (d.enter a) := by
  rw [enter_eq]
  exact h.flush.change _

theorem exit (h : Still c d) (a : Attribute) : Still c (d.exit a) := by
  rw [exit_eq]
  exact h.change _

theorem leave (h : Still c d) : Still c d.leave := by
  rw [leave_eq]
  exact h.change _

theorem startBlock (h : Still c d) : Still c d.startBlock := by
  obtain ⟨k, hk⟩ := d.buffer.padNewlines_eq_append 2
  refine h.grow ?_
  rw [Buffer.startBlock, hk]
  exact List.prefix_append _ _

theorem ensureBreak (h : Still c d) : Still c d.ensureBreak := by
  obtain ⟨k, hk⟩ := d.buffer.padNewlines_eq_append 1
  refine h.grow ?_
  rw [Buffer.ensureBreak, hk]
  exact List.prefix_append _ _

theorem closeLink (h : Still c d) (url : String) : Still c (d.closeLink url) := by
  rcases d.closeLink_cases url with ⟨-, heq⟩ | ⟨start, links, -, hclose⟩
  · rwa [heq]
  · have hout : Still c { d with links } := ⟨h.text, h.quotes, h.places⟩
    rcases hclose with heq | ⟨-, heq⟩
    · rwa [heq]
    · rw [heq]
      exact hout.push rfl

end Still

end Canvas

/-- Whether an operation neither places an anchor nor opens or closes a quote. -/
def Op.isStill : Op → Bool
  | anchor _ _ | openQuote | closeQuote => false
  | _ => true

theorem Op.still (scene : Scene) {o : Op} (h : o.isStill = true) (c : Canvas) :
    c.Still (o.run scene c) := by
  have start : c.Still c := .refl c
  cases o with
  | write text => exact start.put text
  | writeVerbatim text => exact start.grow (List.prefix_append _ _)
  | writeWith a text =>
    rw [Op.run, Canvas.writeWith_eq]
    exact ((start.enter a).put text).exit a
  | cursor => exact start.flush
  | enter a => exact start.enter a
  | exit a => exact start.exit a
  | leave => exact start.leave
  | ensureBreak => exact start.ensureBreak
  | startBlock => exact start.startBlock
  | openLink => exact ⟨start.flush.text, start.flush.quotes, start.flush.places⟩
  | closeLink url => exact start.closeLink url
  | openList first => exact ⟨start.text, rfl, rfl⟩
  | closeList => exact ⟨start.text, rfl, rfl⟩
  | numberItem =>
    rw [Op.run, Canvas.nextListMarker]
    split <;> exact ⟨start.text, rfl, rfl⟩
  | mark first last kind =>
    rw [Op.run, Canvas.mark]
    split
    · rename_i hm
      refine start.push (SegmentKind.isPlace_of_isMark ?_)
      simp only [Canvas.admits, Bool.and_eq_true] at hm
      exact hm.1.1.1
    · exact start
  | request r =>
    rw [Op.run, Canvas.request]
    split <;> exact ⟨start.text, rfl, rfl⟩
  | enlargeEmoji => exact ⟨start.text, rfl, rfl⟩
  | anchor | openQuote | closeQuote => simp [isStill] at h

end RichChat

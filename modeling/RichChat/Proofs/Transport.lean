import RichChat.Proofs.AttributeParts
import RichChat.Proofs.JsonSpelling
import RichChat.Rich.Codec

/-!
# Rich text over the wire

A decoder undoes its encoder, from the numbers and the text of attribute sets up to rich text. With
what JSON text does, a rich text comes back from its serialization, whichever writer wrote it.
-/

namespace RichChat

namespace Json

variable {α β : Type} {members : List (String × Json)}

/-- Whether a reader gives a value for an object. -/
def Reads (reader : FieldReader α) (members : List (String × Json)) (a : α) : Prop :=
  reader (.named members) = .ok (a, .named members)

theorem Reads.pure (a : α) : Reads (pure a) members a := rfl

theorem Reads.bind {reader : FieldReader α} {next : α → FieldReader β} {a : α} {b : β}
    (h : Reads reader members a) (hnext : Reads (next a) members b) :
    Reads (reader >>= next) members b := by
  simp only [Reads] at h hnext ⊢
  rw [show (reader >>= next) (.named members) = (reader (.named members) >>= fun p => next p.1 p.2)
    from rfl, h]
  exact hnext

theorem Reads.ofMembers {reader : FieldReader α} {a : α} (h : Reads reader members a) :
    ofMembers reader members = .ok a := by
  rw [Json.ofMembers, h]
  rfl

theorem Reads.lift {decoded : Decoded α} {a : α} (h : decoded = .ok a) :
    Reads (liftM decoded) members a := by
  rw [h]
  rfl

theorem reads_required {name : String} {decode : Json → Decoded α} {j : Json} {a : α}
    (hfield : members.filter (fun m => m.1 == name) = [(name, j)]) (hj : decode j = .ok a) :
    Reads (required name decode) members a := by
  have hvalue : Reads (fieldValue? name) members (some j) := by
    rw [Reads, fieldValue?, hfield]
  exact hvalue.bind (.lift hj)

theorem toOption_ofOption {decode : Json → Decoded α} {encode : α → Json}
    (hread : ∀ a, decode (encode a) = .ok a) (hnull : ∀ a, encode a ≠ null) (o : Option α) :
    toOption decode (ofOption encode o) = .ok o := by
  cases o with
  | none => rfl
  | some a =>
    have hdecode : toOption decode (encode a) = (decode (encode a)).map some := by
      have := hnull a
      unfold toOption
      split
      · contradiction
      · rfl
    rw [ofOption, hdecode, hread]
    rfl

theorem reads_optional {name : String} {decode : Json → Decoded α} (encode : α → Json)
    {o : Option α} (hfield : members.filter (fun m => m.1 == name) = [(name, ofOption encode o)])
    (hread : ∀ a, decode (encode a) = .ok a) (hnull : ∀ a, encode a ≠ null) :
    Reads (optional name decode) members o := by
  have hvalue : Reads (fieldValue? name) members (some (ofOption encode o)) := by
    rw [Reads, fieldValue?, hfield]
  exact hvalue.bind (.lift (toOption_ofOption hread hnull o))

theorem toListOf_arr {decode : Json → Decoded α} {encode : α → Json} {as : List α}
    (hread : ∀ a ∈ as, decode (encode a) = .ok a) :
    toListOf decode (arr (as.map encode)) = .ok as := by
  rw [toListOf, List.mapM_map]
  induction as with
  | nil => rfl
  | cons a as ih =>
    have h := List.forall_mem_cons.1 hread
    rw [List.mapM_cons, Function.comp_apply, h.1, ih h.2]
    rfl

theorem toNatBelow_int {bound n : Nat} (h : n < bound) : toNatBelow bound (int n) = .ok n :=
  if_pos h

theorem toWord_ofWord (n : UInt64) : toWord (ofWord n) = .ok n := by
  rw [toWord, ofWord, toNatBelow_int n.toNat_lt]
  exact congrArg _ UInt64.ofNat_toNat

theorem toHalf_ofHalf (n : UInt32) : toHalf (ofHalf n) = .ok n := by
  rw [toHalf, ofHalf, toNatBelow_int n.toNat_lt]
  exact congrArg _ UInt32.ofNat_toNat

end Json

open Json

theorem Id.ofJson_toJson {kind : Entity} (id : Id kind) : Id.ofJson id.toJson = .ok id := by
  rw [Id.ofJson, Id.toJson, toWord_ofWord]
  rfl

theorem Rgba.ofJson_toJson (c : Rgba) : Rgba.ofJson c.toJson = .ok c := by
  rw [Rgba.ofJson, Rgba.toJson, toHalf_ofHalf]
  rfl

theorem Attribute.ofJson_toJson (a : Attribute) : Attribute.ofJson a.toJson = .ok a := by
  have hread := a.ofString?_toString
  simp only [Attribute.ofJson, Attribute.toJson, toText, bind, Except.bind, hread]
  rfl

theorem MentionKind.toVariant_toText (k : MentionKind) :
    toVariant MentionKind.named (str k.toText) = .ok k := by
  cases k <;> rfl

theorem MentionData.ofJson_toJson (data : MentionData) :
    MentionData.ofJson data.toJson = .ok data :=
  Reads.ofMembers <| .bind (reads_required rfl rfl) <|
    .bind (reads_optional Rgba.toJson rfl Rgba.ofJson_toJson (by simp [Rgba.toJson, ofHalf])) <|
    .bind (reads_optional str rfl (fun _ => rfl) (by simp)) <| .pure _

/-! ## Segments -/

section Fields

/- The members that stand before the fields of a kind. -/
variable (start stop type : Json)

theorem ImageAnchor.reads_fields (image : ImageAnchor) :
    Reads reader (("start", start) :: ("end", stop) :: ("type", type) :: image.fields) image :=
  .bind (reads_required rfl rfl) <| .bind (reads_required rfl (toHalf_ofHalf _)) <|
    .bind (reads_required rfl (toHalf_ofHalf _)) <| .bind (reads_required rfl rfl) <| .pure _

theorem AvatarAnchor.reads_fields (avatar : AvatarAnchor) :
    Reads reader (("start", start) :: ("end", stop) :: ("type", type) :: avatar.fields) avatar :=
  .bind (reads_required rfl rfl) <| .bind (reads_required rfl (toHalf_ofHalf _)) <|
    .bind (reads_required rfl rfl) <| .pure _

theorem Mention.reads_fields (mention : Mention) :
    Reads reader (("start", start) :: ("end", stop) :: ("type", type) :: mention.fields) mention :=
  .bind (reads_required rfl mention.kind.toVariant_toText) <|
    .bind (reads_required rfl (toWord_ofWord _)) <|
    .bind (reads_optional Id.toJson rfl Id.ofJson_toJson (by simp [Id.toJson, ofWord])) <|
    .bind (reads_optional MentionData.toJson rfl MentionData.ofJson_toJson
      (by simp [MentionData.toJson])) <| .pure _

/-- The name of a kind stands for a reader that finds the kind among the members of a segment. -/
theorem SegmentKind.reads_fields (kind : SegmentKind) :
    ∃ name reader,
      (("start", start) :: ("end", stop) :: kind.fields).filter (fun m => m.1 == "type")
        = [("type", str name)]
      ∧ readerOf (str name) = .ok reader
      ∧ Reads reader (("start", start) :: ("end", stop) :: kind.fields) kind := by
  cases kind with
  | styled a => exact ⟨_, _, rfl, rfl, .bind (reads_required rfl a.ofJson_toJson) (.pure _)⟩
  | link url => exact ⟨_, _, rfl, rfl, .bind (reads_required rfl rfl) (.pure _)⟩
  | quoteBlock => exact ⟨_, _, rfl, rfl, .pure _⟩
  | codeBlock language =>
    exact ⟨_, _, rfl, rfl,
      .bind (reads_optional str rfl (fun _ => rfl) (by simp)) (.pure _)⟩
  | color c => exact ⟨_, _, rfl, rfl, .bind (reads_required rfl c.ofJson_toJson) (.pure _)⟩
  | image image => exact ⟨_, _, rfl, rfl, (image.reads_fields ..).bind (.pure _)⟩
  | avatar avatar => exact ⟨_, _, rfl, rfl, (avatar.reads_fields ..).bind (.pure _)⟩
  | mention mention => exact ⟨_, _, rfl, rfl, (mention.reads_fields ..).bind (.pure _)⟩
  | messageReference m =>
    exact ⟨_, _, rfl, rfl, .bind (reads_required rfl m.ofJson_toJson) (.pure _)⟩

end Fields

theorem Segment.ofJson_toJson {s : Segment} (hstart : s.start < UInt64.size)
    (hstop : s.stop < UInt64.size) : Segment.ofJson s.toJson = .ok s := by
  obtain ⟨name, reader, htype, hreader, hkind⟩ :=
    s.kind.reads_fields (ofNat s.start) (ofNat s.stop)
  -- No kind has a field with the name of an offset.
  have hoffset (name : String) (h : name = "start" ∨ name = "end") :
      s.kind.fields.filter (fun m => m.1 == name) = [] := by
    rcases h with rfl | rfl <;> cases s.kind <;> rfl
  have hfirst : (("start", ofNat s.start) :: ("end", ofNat s.stop) :: s.kind.fields).filter
      (fun m => m.1 == "start") = [("start", ofNat s.start)] := by
    simp [hoffset]
  have hsecond : (("start", ofNat s.start) :: ("end", ofNat s.stop) :: s.kind.fields).filter
      (fun m => m.1 == "end") = [("end", ofNat s.stop)] := by
    simp [hoffset]
  exact Reads.ofMembers <| .bind (reads_required hfirst (toNatBelow_int hstart)) <|
    .bind (reads_required hsecond (toNatBelow_int hstop)) <|
    .bind (reads_required htype hreader) <| hkind.bind <| .pure _

theorem RichText.ofJson_toJson {t : RichText}
    (h : ∀ s ∈ t.segments, s.start < UInt64.size ∧ s.stop < UInt64.size) :
    RichText.ofJson t.toJson = .ok t :=
  Reads.ofMembers <| .bind (reads_required rfl rfl) <|
    .bind (reads_required rfl (toListOf_arr fun s hs =>
      Segment.ofJson_toJson (h s hs).1 (h s hs).2)) <| .pure _

theorem whole_ofOption {α : Type} {encode : α → Json} (h : ∀ a, Whole (encode a))
    (o : Option α) : Whole (ofOption encode o) := by
  cases o with
  | none => exact .null
  | some a => exact h a

theorem MentionData.whole_toJson (data : MentionData) : Whole data.toJson := by
  have hcolor : Whole (ofOption Rgba.toJson data.color) := whole_ofOption (fun _ => .int _) _
  have hurl : Whole (ofOption str data.avatarUrl) := whole_ofOption .str _
  exact .obj (by simp [hcolor, hurl, Whole.str])

theorem Mention.whole_fields (mention : Mention) : ∀ m ∈ mention.fields, Whole m.2 := by
  have hguild : Whole (ofOption Id.toJson mention.guild) := whole_ofOption (fun _ => .int _) _
  have hdata : Whole (ofOption MentionData.toJson mention.resolved) :=
    whole_ofOption MentionData.whole_toJson _
  simp [fields, ofWord, hguild, hdata, Whole.str, Whole.int]

theorem SegmentKind.whole_fields (kind : SegmentKind) : ∀ m ∈ kind.fields, Whole m.2 := by
  cases kind with
  | styled | link | quoteBlock => simp [fields, Attribute.toJson, Whole.str]
  | codeBlock language => simp [fields, Whole.str, whole_ofOption Whole.str language]
  | color | messageReference =>
    simp [fields, Rgba.toJson, ofHalf, Id.toJson, ofWord, Whole.str, Whole.int]
  | image | avatar =>
    simp [fields, ImageAnchor.fields, AvatarAnchor.fields, ofHalf, Whole.str, Whole.int]
  | mention m => exact List.forall_mem_cons.2 ⟨.str _, m.whole_fields⟩

theorem Segment.whole_toJson (s : Segment) : Whole s.toJson :=
  .obj (List.forall_mem_cons.2 ⟨.int _, List.forall_mem_cons.2 ⟨.int _, s.kind.whole_fields⟩⟩)

theorem RichText.whole_toJson (t : RichText) : Whole t.toJson := by
  have hsegments : ∀ j ∈ t.segments.map Segment.toJson, Whole j :=
    List.forall_mem_map.2 fun s _ => s.whole_toJson
  exact .obj (by simpa [fields] using ⟨.str _, .arr hsegments⟩)

/-- A rich text comes back from its serialization, with or without blanks. -/
theorem RichText.ofJson_parse {t : RichText}
    (h : ∀ s ∈ t.segments, s.start < UInt64.size ∧ s.stop < UInt64.size) :
    (parse? t.toJson.compact).map RichText.ofJson = some (.ok t)
      ∧ (parse? t.toJson.pretty).map RichText.ofJson = some (.ok t) := by
  rw [parse?_compact t.whole_toJson, parse?_pretty t.whole_toJson, Option.map_some, ofJson_toJson h]
  exact ⟨rfl, rfl⟩

theorem RichText.ofJson_parse_mixed :
    let t : RichText := ⟨"a \"quoted\" \\ line\n", [⟨0, 3, .styled ⟨0xC1⟩⟩,
      ⟨0, 0xFFFFFFFFFFFFFFFF, .codeBlock none⟩,
      ⟨4, 2, .mention ⟨.user, 0xFFFFFFFFFFFFFFFF, none, some ⟨"\x01\t", some ⟨0xFF⟩, none⟩⟩⟩]⟩
    (∀ s ∈ t.segments, s.start < UInt64.size ∧ s.stop < UInt64.size)
      ∧ (parse? t.toJson.compact).map RichText.ofJson = some (.ok t)
      ∧ (parse? t.toJson.pretty).map RichText.ofJson = some (.ok t) :=
  ⟨by decide, ofJson_parse (by decide)⟩

end RichChat
